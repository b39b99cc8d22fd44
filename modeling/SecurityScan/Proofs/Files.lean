import SecurityScan.Scan.Collect

/-!
# Finding below a directory

A walk along names either stands in some directory after them, and goes on from there whatever
follows, or it fails with anything more. What a path below a directory leads to is so settled by
what the directory holds under one name.
-/

namespace SecurityScan

/-! ## Splitting -/

namespace Text

theorem splitOnChar_append (sep : Char) (ds cs : List Char) :
    splitOnChar sep (ds ++ sep :: cs) = splitOnChar sep ds ++ splitOnChar sep cs := by
  induction ds with
  | nil => simp [splitOnChar]
  | cons d ds ih =>
    simp only [List.cons_append, splitOnChar, ih]
    split
    · rfl
    · cases h : splitOnChar sep ds with
      | nil => exact absurd h (splitOnChar_ne_nil sep ds)
      | cons p ps => rfl

theorem splitOn_append (sep : Char) {s t : List Char} :
    splitOn sep (String.ofList (s ++ sep :: t)) =
      splitOn sep (String.ofList s) ++ splitOn sep (String.ofList t) := by
  simp [splitOn, splitOnChar_append]

theorem splitOnChar_of_not_mem {sep : Char} {cs : List Char} (h : sep ∉ cs) :
    splitOnChar sep cs = [cs] := by
  induction cs with
  | nil => rfl
  | cons c cs ih =>
    simp only [List.mem_cons, not_or] at h
    simp only [splitOnChar, Ne.symm h.1, ite_false, ih h.2]

theorem splitOn_of_not_mem {sep : Char} {s : String} (h : sep ∉ s.toList) : splitOn sep s = [s] := by
  simp [splitOn, splitOnChar_of_not_mem h]

theorem mem_of_mem_splitOnChar {sep c : Char} {piece : List Char} : ∀ {cs : List Char},
    piece ∈ splitOnChar sep cs → c ∈ piece → c ∈ cs
  | [], hp, hc => by simp only [splitOnChar, List.mem_singleton] at hp; rw [hp] at hc; exact hc
  | d :: cs, hp, hc => by
    simp only [splitOnChar] at hp
    split at hp
    · obtain rfl | hp := List.mem_cons.mp hp
      · cases hc
      · exact List.mem_cons_of_mem _ (mem_of_mem_splitOnChar hp hc)
    · cases hs : splitOnChar sep cs with
      | nil => exact absurd hs (splitOnChar_ne_nil sep cs)
      | cons q qs =>
        rw [hs] at hp
        obtain rfl | hp := List.mem_cons.mp hp
        · obtain rfl | hc := List.mem_cons.mp hc
          · exact List.mem_cons_self ..
          · exact List.mem_cons_of_mem _
              (mem_of_mem_splitOnChar (by rw [hs]; exact List.mem_cons_self ..) hc)
        · exact List.mem_cons_of_mem _
            (mem_of_mem_splitOnChar (by rw [hs]; exact List.mem_cons_of_mem _ hp) hc)

theorem mem_joinWithChar {sep c : Char} : ∀ {ps : List (List Char)},
    c ∈ joinWithChar sep ps → c = sep ∨ ∃ p ∈ ps, c ∈ p
  | [], h => nomatch h
  | [p], h => Or.inr ⟨p, List.mem_cons_self .., h⟩
  | p :: q :: ps, h => by
    simp only [joinWithChar, List.mem_append, List.mem_cons] at h
    obtain h | rfl | h := h
    · exact Or.inr ⟨p, List.mem_cons_self .., h⟩
    · exact Or.inl rfl
    · obtain h | ⟨r, hr, hc⟩ := mem_joinWithChar h
      · exact Or.inl h
      · exact Or.inr ⟨r, List.mem_cons_of_mem _ hr, hc⟩

end Text

namespace Files

/-! ## Directories at locations -/

theorem Dir.at_nil (d : Dir) : d.at [] = d := rfl

/-- The directory one name further down. -/
theorem Dir.at_concat (d : Dir) (ns : List String) (n : String) {es : Dir}
    (h : (d.at ns).child? n = some (.dir es)) : d.at (ns ++ [n]) = es := by
  induction ns generalizing d with
  | nil => simp only [Dir.at_nil] at h; simp [Dir.at, h]
  | cons m ns ih =>
    simp only [List.cons_append, Dir.at] at h ⊢
    cases hm : d.child? m with
    | none => rw [hm] at h; cases h
    | some node =>
      rw [hm] at h
      cases node with
      | dir ds => exact ih ds h
      | file b => cases h
      | link t => cases h

/-- What goes from a directory to those in it, and holds of an empty one, holds at every location. -/
theorem Dir.at_of_child {P : Dir → Prop} (hnil : P [])
    (hchild : ∀ {d : Dir} {n : String} {es : Dir}, P d → d.child? n = some (.dir es) → P es)
    (ns : List String) {d : Dir} (h : P d) : P (d.at ns) := by
  induction ns generalizing d with
  | nil => exact h
  | cons n ns ih =>
    simp only [Dir.at]
    split
    · rename_i es hc
      exact ih (hchild h hc)
    · exact hnil

/-! ## Walking on -/

/-- After some names a walk stands in a directory and goes on from it, or it fails whenever more
names follow. -/
theorem walk_append (top : Dir) : ∀ (links : Nat) (here xs : List String),
    (∃ l h, ∀ more, walk top links here (xs ++ more) = walk top l h more) ∨
      ∃ e, ∀ more, more ≠ [] → walk top links here (xs ++ more) = .error e
  | links, here, [] => Or.inl ⟨links, here, fun _ => rfl⟩
  | links, here, name :: rest => by
    simp only [List.cons_append, walk]
    by_cases h1 : name = "" ∨ name = "."
    · simp only [h1, ite_true]; exact walk_append top links here rest
    · by_cases h2 : name = ".."
      · simp only [h2, ite_true]; exact walk_append top links here.tail rest
      · by_cases h3 : isNameTooLong name = true
        · simp only [h1, h2, h3, ite_true, ite_false]
          exact Or.inr ⟨_, fun _ _ => rfl⟩
        · simp only [h1, h2, h3, ite_false]
          cases hc : (top.at here.reverse).child? name with
          | none => exact Or.inr ⟨.notFound, fun more hm => by simp [hm]⟩
          | some node =>
            cases node with
            | dir es => exact walk_append top links (name :: here) rest
            | file bytes => exact Or.inr ⟨.notDirectory, fun more hm => by simp [hm]⟩
            | link target =>
              cases links with
              | zero => exact Or.inr ⟨_, fun _ _ => rfl⟩
              | succ n =>
                -- the names of the link's target come before the rest
                simp only [← List.append_assoc]
                exact walk_append top n _ (Text.splitOn '/' target ++ rest)
termination_by links _ xs => (links, xs.length)

/-- An empty name changes nothing. -/
theorem walk_empty_name (top : Dir) (links : Nat) (here more : List String) :
    walk top links here ("" :: more) = walk top links here more := by
  rw [walk]
  simp

section
variable {top : Dir} {links : Nat} {here : List String} {name : String}

/-- The name of a directory of the tree leads to nothing but that. -/
theorem place_of_walk_dir {es : Dir} {place : Place} (h0 : name ≠ "") (hh : isHidden name = false)
    (hc : (top.at here.reverse).child? name = some (.dir es))
    (hw : walk top links here [name] = .ok place) :
    place = .directory (here.reverse ++ [name]) es := by
  have h1 : name ≠ "." := by rintro rfl; simp [isHidden, Text.startsWith] at hh
  have h2 : name ≠ ".." := by rintro rfl; simp [isHidden, Text.startsWith] at hh
  rw [walk] at hw
  simp only [h0, h1, h2, or_self, ite_false, hc, walk, List.reverse_cons, Dir.at_concat top _ _ hc] at hw
  split at hw
  · cases hw
  · cases hw
    rfl

/-- Only an entry that is no directory leads to a file. -/
theorem child_of_walk_file {location : List String} {bytes : Text.Utf8.Bytes}
    (hh : isHidden name = false) (hw : walk top links here [name] = .ok (.file location bytes)) :
    ∃ node, (top.at here.reverse).child? name = some node ∧ ∀ es, node ≠ .dir es := by
  have h2 : name ≠ ".." := by rintro rfl; simp [isHidden, Text.startsWith] at hh
  rw [walk] at hw
  split at hw
  · simp [walk] at hw
  · split at hw
    · cases hw
    · cases hc : (top.at here.reverse).child? name with
      | none => rw [hc] at hw; cases hw
      | some node =>
        refine ⟨node, rfl, ?_⟩
        rintro es rfl
        rw [hc] at hw
        simp [walk] at hw

end

/-- A directory that a walk comes to is the one at its location. -/
theorem entries_of_walk {top : Dir} {location : List String} {es : Dir} :
    ∀ (links : Nat) (here todo : List String),
      walk top links here todo = .ok (.directory location es) → es = top.at location
  | links, here, [], h => by rw [walk] at h; cases h; rfl
  | links, here, name :: rest, h => by
    rw [walk] at h
    by_cases h1 : name = "" ∨ name = "."
    · rw [if_pos h1] at h; exact entries_of_walk links here rest h
    · by_cases h2 : name = ".."
      · rw [if_neg h1, if_pos h2] at h; exact entries_of_walk links here.tail rest h
      · rw [if_neg h1, if_neg h2] at h
        split at h
        · cases h
        · split at h
          · split at h <;> cases h
          · exact entries_of_walk links (name :: here) rest h
          · split at h <;> cases h
          · split at h
            · cases h
            · exact entries_of_walk _ _ _ h
termination_by links _ todo => (links, todo.length)

/-! ## Names -/

/-- Whether a text can be the name of one entry. -/
def isName (name : String) : Bool := name != "" && !name.toList.contains '/'

theorem isName_iff {name : String} : isName name = true ↔ name ≠ "" ∧ '/' ∉ name.toList := by
  simp [isName]

mutual

/-- Whether the entries of each directory in a node have names, and no two the same one. -/
def Node.wellNamed : Node → Bool
  | .dir entries => entriesWellNamed entries
  | .file _ | .link _ => true

def entriesWellNamed : List (String × Node) → Bool
  | [] => true
  | (name, node) :: rest =>
    isName name && !(rest.any fun e => e.1 == name) && node.wellNamed && entriesWellNamed rest

end

theorem Dir.mem_of_child {es : Dir} {name : String} {node : Node} (h : es.child? name = some node) :
    (name, node) ∈ es := by
  obtain ⟨before, after, rfl, -⟩ := List.lookup_eq_some_iff.mp h
  exact List.mem_append_right _ (List.mem_cons_self ..)

/-- Of an entry of well-named ones, the name finds the node. -/
theorem of_mem_wellNamed {name : String} {node : Node} : ∀ {es : Dir},
    entriesWellNamed es = true → (name, node) ∈ es →
      isName name = true ∧ node.wellNamed = true ∧ es.child? name = some node
  | [], _, h => nomatch h
  | (n, m) :: rest, hes, h => by
    simp only [entriesWellNamed, Bool.and_eq_true, Bool.not_eq_true'] at hes
    obtain ⟨⟨⟨hn, hfresh⟩, hm⟩, hrest⟩ := hes
    cases h with
    | head => exact ⟨hn, hm, List.lookup_cons_self⟩
    | tail _ h =>
      obtain ⟨h1, h2, h3⟩ := of_mem_wellNamed hrest h
      have hne : (name == n) = false := by
        rw [List.any_eq_false] at hfresh
        simpa using hfresh _ h
      refine ⟨h1, h2, ?_⟩
      simpa [Dir.child?, List.lookup_cons, hne] using h3

theorem at_wellNamed (ns : List String) {d : Dir} (h : entriesWellNamed d = true) :
    entriesWellNamed (d.at ns) = true :=
  Dir.at_of_child (P := fun d => entriesWellNamed d = true) rfl
    (fun hd hc => (of_mem_wellNamed hd (Dir.mem_of_child hc)).2.1) ns h

end Files

namespace Path

theorem isAbsolute_iff {p : String} : isAbsolute p = true ↔ ∃ cs, p.toList = '/' :: cs := by
  unfold isAbsolute Text.startsWith
  rw [List.isPrefixOf_iff_prefix]
  constructor
  · rintro ⟨cs, hcs⟩
    exact ⟨cs, hcs.symm⟩
  · rintro ⟨cs, hcs⟩
    exact ⟨cs, hcs.symm⟩

theorem isAbsolute_of_not_mem {name : String} (h : '/' ∉ name.toList) : isAbsolute name = false := by
  rw [Bool.eq_false_iff]
  intro habsolute
  obtain ⟨cs, hcs⟩ := isAbsolute_iff.mp habsolute
  exact h (hcs ▸ List.mem_cons_self ..)

theorem isAbsolute_append {p : String} (hp : p ≠ "") (q : String) :
    isAbsolute (p ++ q) = isAbsolute p := by
  unfold isAbsolute Text.startsWith
  cases h : p.toList with
  | nil => exact absurd (String.toList_eq_nil_iff.mp h) hp
  | cons c cs => simp [h, List.isPrefixOf]

theorem join_eq_append {dir name : String} (hd : dir ≠ "") (hn : '/' ∉ name.toList) :
    ∃ tail, join dir name = dir ++ tail := by
  unfold join
  simp only [isAbsolute_of_not_mem hn, Bool.false_or, beq_iff_eq, hd, ite_false]
  split
  · exact ⟨name, rfl⟩
  · exact ⟨"/" ++ name, String.append_assoc ..⟩

theorem join_ne_empty {dir name : String} (hd : dir ≠ "") (hn : Files.isName name = true) :
    join dir name ≠ "" := by
  obtain ⟨tail, ht⟩ := join_eq_append hd (Files.isName_iff.mp hn).2
  rw [ht]
  exact fun h => hd (String.append_eq_empty_iff.mp h).1

/-- The names of a path below another, up to empty ones. -/
theorem splitOn_join {dir name : String} (hd : dir ≠ "") (hn : '/' ∉ name.toList) :
    ∃ xs, (Text.splitOn '/' dir = xs ∨ Text.splitOn '/' dir = xs ++ [""]) ∧
      Text.splitOn '/' (join dir name) = xs ++ [name] := by
  unfold join
  simp only [isAbsolute_of_not_mem hn, Bool.false_or, beq_iff_eq, hd, ite_false]
  split
  · rename_i he
    obtain ⟨ds, hds⟩ := List.isSuffixOf_iff_suffix.mp he
    have hdir : dir = String.ofList (ds ++ '/' :: []) := by
      rw [← String.toList_inj]; simpa using hds.symm
    refine ⟨Text.splitOn '/' (String.ofList ds), Or.inr ?_, ?_⟩
    · rw [hdir, Text.splitOn_append]; rfl
    · have hj : dir ++ name = String.ofList (ds ++ '/' :: name.toList) := by
        rw [← String.toList_inj, hdir]; simp
      rw [hj, Text.splitOn_append, String.ofList_toList, Text.splitOn_of_not_mem hn]
  · refine ⟨Text.splitOn '/' dir, Or.inl rfl, ?_⟩
    have hj : dir ++ "/" ++ name = String.ofList (dir.toList ++ '/' :: name.toList) := by
      rw [← String.toList_inj]; simp
    rw [hj, Text.splitOn_append, String.ofList_toList, String.ofList_toList,
      Text.splitOn_of_not_mem hn]

end Path

namespace Files.FileSystem

variable {fs : FileSystem} {dir name : String}

/-- A path below another leads where its name leads to from the directory of that. -/
theorem find_join {place : Place} (hd : dir ≠ "") (hn : isName name = true)
    (h : fs.find (Path.join dir name) = .ok place) :
    ∃ links here, fs.find dir = .ok (.directory here.reverse (fs.top.at here.reverse)) ∧
      walk fs.top links here [name] = .ok place := by
  have hslash := (isName_iff.mp hn).2
  obtain ⟨xs, hdir, hjoin⟩ := Path.splitOn_join hd hslash
  obtain ⟨tail, ht⟩ := Path.join_eq_append hd hslash
  have ha : Path.isAbsolute (Path.join dir name) = Path.isAbsolute dir := by
    rw [ht, Path.isAbsolute_append hd]
  have hj := Path.join_ne_empty hd hn
  unfold find at h ⊢
  simp only [beq_iff_eq, hd, hj, ite_false, ha, hjoin] at h ⊢
  by_cases hm : maxPath ≤ (Path.join dir name).utf8ByteSize
  · rw [if_pos hm] at h
    cases h
  · have hs : ¬maxPath ≤ dir.utf8ByteSize := by
      rw [ht, String.utf8ByteSize_append] at hm; omega
    rw [if_neg hm] at h
    rw [if_neg hs]
    obtain ⟨links, here, hw⟩ | ⟨e, hw⟩ := walk_append fs.top maxLinks
      (if Path.isAbsolute dir then [] else (Path.names fs.cwd).reverse) xs
    · refine ⟨links, here, ?_, (hw [name]).symm.trans h⟩
      obtain hdir | hdir := hdir
      · rw [hdir, ← List.append_nil xs, hw, walk]
      · rw [hdir, hw, walk_empty_name, walk]
    · rw [hw [name] (List.cons_ne_nil _ _)] at h
      cases h

/-- Whether the tree is one that a file system can hold. -/
def wellNamed (fs : FileSystem) : Bool := entriesWellNamed fs.top

theorem find_directory {path : String} {location : List String} {es : Dir}
    (h : fs.find path = .ok (.directory location es)) : es = fs.top.at location := by
  unfold find at h
  split at h
  · cases h
  · split at h
    · cases h
    · exact entries_of_walk _ _ _ h

theorem wellNamed_of_find (hfs : fs.wellNamed = true) {path : String} {location : List String}
    {es : Dir} (h : fs.find path = .ok (.directory location es)) : entriesWellNamed es = true := by
  rw [find_directory h]
  exact at_wellNamed location hfs

theorem ne_empty_of_find {path : String} {place : Place} (h : fs.find path = .ok place) :
    path ≠ "" := by
  rintro rfl
  cases h

/-- What the directory at a path has under a name, links not followed. -/
def nodeIn? (fs : FileSystem) (dir name : String) : Option Node :=
  match fs.find dir with
  | .ok (.directory _ entries) => entries.child? name
  | _ => none

theorem nodeIn?_of_find {location : List String} {es : Dir}
    (h : fs.find dir = .ok (.directory location es)) : fs.nodeIn? dir name = es.child? name := by
  simp [nodeIn?, h]

/-- The path of a directory in a directory leads to nothing but that. -/
theorem find_join_dir {es : Dir} {place : Place} (hd : dir ≠ "") (hn : isName name = true)
    (hh : isHidden name = false) (he : fs.nodeIn? dir name = some (.dir es))
    (h : fs.find (Path.join dir name) = .ok place) : ∃ location, place = .directory location es := by
  obtain ⟨links, here, hdir, hw⟩ := find_join hd hn h
  rw [nodeIn?_of_find hdir] at he
  exact ⟨_, place_of_walk_dir (isName_iff.mp hn).1 hh he hw⟩

theorem isFile_iff {path : String} :
    fs.isFile path = true ↔ ∃ location bytes, fs.find path = .ok (.file location bytes) := by
  unfold isFile
  split
  · rename_i location bytes h
    simp [h]
  · rename_i h
    simpa using h

/-- A file in a directory is there as an entry which is no directory itself. -/
theorem node_of_isFile (hd : dir ≠ "") (hn : isName name = true) (hh : isHidden name = false)
    (h : fs.isFile (Path.join dir name) = true) :
    ∃ node, fs.nodeIn? dir name = some node ∧ ∀ es, node ≠ .dir es := by
  obtain ⟨location, bytes, hf⟩ := isFile_iff.mp h
  obtain ⟨links, here, hdir, hw⟩ := find_join hd hn hf
  rw [nodeIn?_of_find hdir]
  exact child_of_walk_file hh hw

/-! ## The path of a file -/

/-- The path of a file does not end with a slash. -/
theorem baseName_ne_empty {path : String} (h : fs.isFile path = true) : Path.baseName path ≠ "" := by
  intro hb
  obtain ⟨location, bytes, hf⟩ := isFile_iff.mp h
  have hne : Text.splitOn '/' path ≠ [] := by
    simpa [Text.splitOn] using Text.splitOnChar_ne_nil '/' path.toList
  -- the last name would be empty, and a walk that has come to it stands in a directory
  obtain ⟨xs, hs⟩ : ∃ xs, Text.splitOn '/' path = xs ++ [""] := by
    have hl : (Text.splitOn '/' path).getLast hne = "" := by
      simpa [Path.baseName, Text.afterLast, List.getLast?_eq_some_getLast hne] using hb
    exact ⟨_, by rw [← hl, List.dropLast_concat_getLast hne]⟩
  unfold find at hf
  split at hf
  · cases hf
  · split at hf
    · cases hf
    · obtain ⟨links, here, hw⟩ | ⟨e, hw⟩ := walk_append fs.top maxLinks
        (if Path.isAbsolute path then [] else (Path.names fs.cwd).reverse) xs
      · simp only [hs, hw, walk_empty_name, walk] at hf
        cases hf
      · simp only [hs, hw [""] (List.cons_ne_nil _ _)] at hf
        cases hf

end Files.FileSystem

namespace Path

theorem mem_tidy {p : String} {c : Char} (h : c ∈ (tidy p).toList) :
    c ∈ p.toList ∨ c = '/' ∨ c = '.' := by
  have hroot : ∀ d ∈ (root p).toList, d = '/' := by
    unfold root
    split <;> simp
  have hparts : ∀ part ∈ tidyParts p, ∀ d ∈ part.toList, d ∈ p.toList := by
    intro part hp d hd
    obtain ⟨cs, hcs, rfl⟩ := List.mem_map.mp (List.mem_filter.mp hp).1
    exact Text.mem_of_mem_splitOnChar hcs (by simpa using hd)
  simp only [tidy, ofParts] at h
  split at h
  · simp only [String.reduceToList, List.mem_singleton] at h
    exact Or.inr (Or.inr h)
  · rw [String.toList_append, List.mem_append] at h
    obtain h | h := h
    · exact Or.inr (Or.inl (hroot c h))
    · simp only [Text.joinWith, String.toList_ofList] at h
      obtain h | ⟨cs, hcs, hc⟩ := Text.mem_joinWithChar h
      · exact Or.inr (Or.inl h)
      · obtain ⟨part, hp, rfl⟩ := List.mem_map.mp hcs
        exact Or.inl (hparts part hp c hc)

end Path

namespace Files

theorem pathFault?_eq_none_iff {path : String} : pathFault? path = none ↔
    (∀ c ∈ path.toList, (Text.isLoneHalf c &&
      !(decide (0xDC80 ≤ Text.codeOf c) && decide (Text.codeOf c ≤ 0xDCFF))) = false) ∧
      '\x00' ∉ path.toList := by
  simp only [pathFault?]
  split
  · rename_i h
    refine iff_of_false (by simp) fun hn => ?_
    obtain ⟨c, hc, hb⟩ := List.any_eq_true.mp h
    rw [hn.1 c hc] at hb
    cases hb
  · rename_i h
    rw [Bool.not_eq_true, List.any_eq_false] at h
    split
    · rename_i h0
      exact iff_of_false (by simp) fun hn => hn.2 (by simpa using h0)
    · rename_i h0
      exact iff_of_true rfl ⟨fun c hc => Bool.eq_false_iff.mpr (h c hc), by simpa using h0⟩

theorem eq_of_pathFault? {path : String} {f : Fault} (h : pathFault? path = some f) :
    f = .unencodable ∨ f = .badValue "embedded null byte" := by
  rw [pathFault?] at h
  split at h
  · exact .inl (Option.some.inj h).symm
  · split at h
    · exact .inr (Option.some.inj h).symm
    · cases h

/-- A tidy form holds nothing that cannot be in a path when the path itself does not. -/
theorem pathFault?_tidy {path : String} (h : pathFault? path = none) :
    pathFault? (Path.tidy path) = none := by
  obtain ⟨hhalf, hnul⟩ := pathFault?_eq_none_iff.mp h
  refine pathFault?_eq_none_iff.mpr ⟨fun c hc => ?_, fun hc => ?_⟩
  · obtain hc | rfl | rfl := Path.mem_tidy hc
    · exact hhalf c hc
    · decide
    · decide
  · obtain hc | hc | hc := Path.mem_tidy hc
    · exact hnul hc
    · cases hc
    · cases hc

theorem isUnreadable_of_readText {fs : FileSystem} {path : String} {f : Fault}
    (hp : pathFault? path = none) (h : fs.readText path = .error f) : isUnreadable f = true := by
  unfold FileSystem.readText at h
  simp only [hp] at h
  split at h
  · cases h; rfl
  · split at h <;> cases h
    rfl

end Files

end SecurityScan
