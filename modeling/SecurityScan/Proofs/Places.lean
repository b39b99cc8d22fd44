import SecurityScan.Files.Edit
import SecurityScan.Proofs.Files

/-!
# What stands where in a tree of files

A tree is read by locations: at each of them is a file, a directory, a link or nothing. Writing a
file and making directories are told by the locations that change, and a path to a file leads to it
as long as what stands on its way still stands.
-/

namespace SecurityScan

namespace Files

open Text.Utf8 (Bytes)

/-- What stands somewhere in a tree, with what is in a directory left out. -/
inductive Kind
  | file (bytes : Bytes)
  | directory
  | link (target : String)

def Node.kind : Node → Kind
  | .file bytes => .file bytes
  | .dir _ => .directory
  | .link target => .link target

/-- What stands at a location. -/
def Dir.kind? : Dir → List String → Option Kind
  | _, [] => some .directory
  | d, n :: ns =>
    match d.child? n with
    | some (.dir es) => Dir.kind? es ns
    | some node => if ns = [] then some node.kind else none
    | none => none

/-- What stands at a location below a node. -/
def Node.kindAt? : Node → List String → Option Kind
  | .dir es, ns => Dir.kind? es ns
  | node, ns => if ns = [] then some node.kind else none

theorem Dir.kind?_nil (d : Dir) : d.kind? [] = some .directory := by
  rw [kind?]

theorem Dir.kind?_cons (d : Dir) (n : String) (ns : List String) :
    d.kind? (n :: ns) = (d.child? n).bind fun node => node.kindAt? ns := by
  rw [kind?]
  rcases d.child? n with _ | (_ | _ | _) <;> rfl

theorem Node.kindAt?_nil (x : Node) : x.kindAt? [] = some x.kind := by
  cases x with
  | dir es => exact Dir.kind?_nil es
  | _ => rfl

theorem Dir.kind?_concat (d : Dir) (ns : List String) (n : String) :
    d.kind? (ns ++ [n]) = ((d.at ns).child? n).map Node.kind := by
  induction ns generalizing d with
  | nil =>
    rw [List.nil_append, kind?_cons, at_nil]
    cases d.child? n with
    | none => rfl
    | some node => exact node.kindAt?_nil
  | cons m ns ih =>
    rw [List.cons_append, kind?_cons, Dir.at]
    cases d.child? m with
    | none => rfl
    | some node =>
      cases node with
      | dir es => exact ih es
      | file bytes => simp [Node.kindAt?, Dir.child?]
      | link target => simp [Node.kindAt?, Dir.child?]

/-- Only a directory has anything below it. -/
theorem Dir.kind?_append (d : Dir) {ns ms : List String} (hms : ms ≠ [])
    (h : d.kind? ns ≠ some .directory) : d.kind? (ns ++ ms) = none := by
  induction ns generalizing d with
  | nil => exact absurd d.kind?_nil h
  | cons n ns ih =>
    rw [kind?_cons] at h
    rw [List.cons_append, kind?_cons]
    cases hc : d.child? n with
    | none => rfl
    | some node =>
      rw [hc] at h
      cases node with
      | dir es => exact ih es h
      | file bytes => simp [Node.kindAt?, hms]
      | link target => simp [Node.kindAt?, hms]

theorem Dir.child?_cons (d : Dir) (n m : String) (x : Node) :
    Dir.child? ((n, x) :: d) m = if m = n then some x else d.child? m := by
  rw [child?, List.lookup_cons]
  by_cases h : m = n
  · simp [h]
  · rw [beq_eq_false_iff_ne.mpr h, if_neg h]
    rfl

theorem Dir.child?_put (d : Dir) (n m : String) (x : Node) :
    (d.put n x).child? m = if m = n then some x else d.child? m := by
  induction d with
  | nil => exact child?_cons [] n m x
  | cons e rest ih =>
    obtain ⟨k, y⟩ := e
    rw [put]
    by_cases hk : k = n
    · subst hk
      rw [if_pos (beq_self_eq_true k), child?_cons, child?_cons]
      by_cases hm : m = k
      · rw [if_pos hm, if_pos hm]
      · rw [if_neg hm, if_neg hm, if_neg hm]
    · rw [if_neg (by simpa using hk), child?_cons, child?_cons, ih]
      by_cases hm : m = k
      · subst hm
        rw [if_pos rfl, if_pos rfl, if_neg hk]
      · rw [if_neg hm, if_neg hm]

/-- Nothing is below a node. -/
def Node.IsBare (x : Node) : Prop := ∀ ns, ns ≠ [] → x.kindAt? ns = none

theorem Node.isBare_file (bytes : Bytes) : (Node.file bytes).IsBare := fun ns h => by
  simp [kindAt?, h]

theorem Node.isBare_dir : (Node.dir []).IsBare := fun ns h => by
  obtain ⟨n, ns, rfl⟩ := List.exists_cons_of_ne_nil h
  rw [kindAt?, Dir.kind?_cons]
  rfl

/-- A bare node put where nothing or a file was changes what stands at its own location alone. -/
theorem Dir.kind?_putAt {x : Node} (hx : x.IsBare) {n : String} {parent : List String} {d : Dir}
    (hat : d.kind? parent = some .directory) (hfree : d.kind? (parent ++ [n]) ≠ some .directory)
    (l : List String) :
    (d.putAt (parent ++ [n]) x).kind? l = if l = parent ++ [n] then some x.kind else d.kind? l := by
  induction parent generalizing d l with
  | nil =>
    rw [List.nil_append] at hfree ⊢
    rw [putAt]
    cases l with
    | nil => simp [kind?_nil]
    | cons m ms =>
      rw [kind?_cons, child?_put]
      by_cases hm : m = n
      · subst hm
        rw [if_pos rfl, Option.bind_some]
        by_cases hms : ms = []
        · subst hms
          rw [if_pos rfl, x.kindAt?_nil]
        · have hbelow : d.kind? ([m] ++ ms) = none := d.kind?_append hms hfree
          -- nothing is below the new node, and nothing was: only a directory holds something
          rw [hx ms hms, if_neg (by simpa using hms)]
          exact hbelow.symm
      · rw [if_neg hm, if_neg (by simp [hm]), kind?_cons]
  | cons a as ih =>
    rw [List.cons_append] at hfree ⊢
    rw [kind?_cons] at hat hfree
    cases hc : d.child? a with
    | none =>
      rw [hc] at hat
      cases hat
    | some node =>
      rw [hc] at hat hfree
      cases node with
      | dir es =>
        have hput : d.putAt (a :: (as ++ [n])) x = d.put a (.dir (Dir.putAt es (as ++ [n]) x)) := by
          rw [putAt, hc]
          simp
        rw [hput]
        cases l with
        | nil => simp [kind?_nil]
        | cons m ms =>
          rw [kind?_cons, child?_put]
          by_cases hm : m = a
          · subst hm
            have hih : (Dir.putAt es (as ++ [n]) x).kind? ms = _ := ih hat hfree ms
            rw [if_pos rfl, Option.bind_some, Node.kindAt?, hih, kind?_cons, hc]
            simp only [List.cons.injEq, true_and]
            rfl
          · rw [if_neg hm, if_neg (by simp [hm]), kind?_cons]
      | file bytes =>
        simp only [Option.bind_some, Node.kindAt?] at hat
        split at hat <;> cases hat
      | link target =>
        simp only [Option.bind_some, Node.kindAt?] at hat
        split at hat <;> cases hat

/-! ## What a path leads to -/

/-- Only what is in a directory is anything. -/
theorem Dir.kind?_of_concat {d : Dir} {place : List String} {n : String} {k : Kind}
    (h : d.kind? (place ++ [n]) = some k) : d.kind? place = some .directory := by
  refine Classical.byContradiction fun hne => ?_
  rw [d.kind?_append (List.cons_ne_nil n []) hne] at h
  cases h

theorem Dir.exists_parent {d : Dir} {location : List String} {k : Kind}
    (h : d.kind? location = some k) (hk : k ≠ .directory) :
    ∃ parent name, location = parent ++ [name] ∧ d.kind? parent = some .directory := by
  rcases List.eq_nil_or_concat location with rfl | ⟨parent, name, rfl⟩
  · rw [d.kind?_nil] at h
    exact absurd (Option.some.inj h).symm hk
  · rw [List.concat_eq_append] at h ⊢
    exact ⟨parent, name, rfl, Dir.kind?_of_concat h⟩

/-- A walk goes on by what stands under the next name. -/
theorem walk_cons {top : Dir} {links : Nat} {here rest : List String} {name : String}
    (hstays : ¬(name = "" ∨ name = ".")) (hrises : name ≠ "..")
    (hshort : isNameTooLong name = false) :
    walk top links here (name :: rest) =
      match top.kind? (name :: here).reverse with
      | none =>
        if rest.isEmpty then .ok (.vacant (name :: here).reverse) else .error .notFound
      | some .directory => walk top links (name :: here) rest
      | some (.file bytes) =>
        if rest.isEmpty then .ok (.file (name :: here).reverse bytes) else .error .notDirectory
      | some (.link target) =>
        match links with
        | 0 => .error .tooManyLinks
        | n + 1 =>
          walk top n (if Path.isAbsolute target then [] else here)
            (Text.splitOn '/' target ++ rest) := by
  rw [walk, if_neg hstays, if_neg hrises, hshort, List.reverse_cons, Dir.kind?_concat]
  rcases (top.at here.reverse).child? name with _ | (_ | _ | _) <;> rfl

/-- A place is as the tree has it. -/
def Place.StandsIn (top : Dir) : Place → Prop
  | .file location bytes => top.kind? location = some (.file bytes)
  | .directory location entries =>
    top.kind? location = some .directory ∧ entries = top.at location
  | .vacant location => ∃ parent name, location = parent ++ [name] ∧
      top.kind? parent = some .directory ∧ top.kind? location = none

theorem standsIn_of_walk {top : Dir} {place : Place} : ∀ (links : Nat) (here todo : List String),
    top.kind? here.reverse = some .directory → walk top links here todo = .ok place →
      place.StandsIn top
  | links, here, [], hhere, h => by
    rw [walk] at h
    cases h
    exact ⟨hhere, rfl⟩
  | links, here, name :: rest, hhere, h => by
    by_cases hstays : name = "" ∨ name = "."
    · rw [walk, if_pos hstays] at h
      exact standsIn_of_walk links here rest hhere h
    by_cases hrises : name = ".."
    · rw [walk, if_neg hstays, if_pos hrises] at h
      refine standsIn_of_walk links here.tail rest ?_ h
      cases here with
      | nil => exact hhere
      | cons last before =>
        rw [List.reverse_cons] at hhere
        exact Dir.kind?_of_concat hhere
    by_cases hlong : isNameTooLong name = true
    · rw [walk, if_neg hstays, if_neg hrises, if_pos hlong] at h
      cases h
    rw [walk_cons hstays hrises (Bool.eq_false_iff.mpr hlong)] at h
    split at h
    · rename_i hkind
      split at h
      · cases h
        exact ⟨here.reverse, name, List.reverse_cons, hhere, hkind⟩
      · cases h
    · rename_i hkind
      exact standsIn_of_walk links (name :: here) rest hkind h
    · rename_i bytes hkind
      split at h
      · cases h
        exact hkind
      · cases h
    · split at h
      · cases h
      · refine standsIn_of_walk _ _ _ ?_ h
        split
        · exact top.kind?_nil
        · exact hhere
termination_by links _ todo => (links, todo.length)

/-- In `new` a file stands at a location where `old` had a file or nothing, and all else that stood
in `old` still stands there. -/
structure Dir.Written (old new : Dir) (location : List String) (bytes : Bytes) : Prop where
  written : new.kind? location = some (.file bytes)
  free : ∀ k, old.kind? location = some k → ∃ before, k = .file before
  kept : ∀ l, l ≠ location → ∀ k, old.kind? l = some k → new.kind? l = some k

/-- What leads to a file still does, and what led to the free location leads to the file there. -/
theorem walk_of_written {old new : Dir} {location : List String} {bytes : Bytes}
    (h : Dir.Written old new location bytes) {place : Place} :
    ∀ (links : Nat) (here todo : List String), walk old links here todo = .ok place →
      (∀ l b, place = .file l b →
        walk new links here todo = .ok (.file l (if l = location then bytes else b))) ∧
      (place = .vacant location → walk new links here todo = .ok (.file location bytes))
  | links, here, [], hw => by
    rw [walk] at hw
    cases hw
    exact ⟨fun l b hplace => (by cases hplace), fun hplace => by cases hplace⟩
  | links, here, name :: rest, hw => by
    by_cases hstays : name = "" ∨ name = "."
    · rw [walk, if_pos hstays] at hw ⊢
      exact walk_of_written h links here rest hw
    by_cases hrises : name = ".."
    · rw [walk, if_neg hstays, if_pos hrises] at hw ⊢
      exact walk_of_written h links here.tail rest hw
    by_cases hlong : isNameTooLong name = true
    · rw [walk, if_neg hstays, if_neg hrises, if_pos hlong] at hw
      cases hw
    rw [walk_cons hstays hrises (Bool.eq_false_iff.mpr hlong)] at hw ⊢
    split at hw
    · rename_i hkind
      split at hw
      · rename_i hrest
        cases hw
        refine ⟨fun l b hplace => (by cases hplace), fun hplace => ?_⟩
        obtain rfl := Place.vacant.inj hplace
        rw [h.written]
        simp only [hrest, if_true]
      · cases hw
    · -- the walk passes a directory here, and below a link: neither of them was at the location
      rename_i hkind
      have hne : (name :: here).reverse ≠ location := by
        rintro rfl
        obtain ⟨before, hbefore⟩ := h.free _ hkind
        cases hbefore
      rw [h.kept _ hne _ hkind]
      exact walk_of_written h links (name :: here) rest hw
    · rename_i b hkind
      split at hw
      · rename_i hrest
        cases hw
        refine ⟨fun l b' hplace => ?_, fun hplace => by cases hplace⟩
        obtain ⟨rfl, rfl⟩ := Place.file.inj hplace
        by_cases hl : (name :: here).reverse = location
        · rw [hl, h.written, if_pos rfl]
          simp only [hrest, if_true]
        · rw [h.kept _ hl _ hkind, if_neg hl]
          simp only [hrest, if_true]
      · cases hw
    · rename_i target hkind
      have hne : (name :: here).reverse ≠ location := by
        rintro rfl
        obtain ⟨before, hbefore⟩ := h.free _ hkind
        cases hbefore
      rw [h.kept _ hne _ hkind]
      split at hw
      · cases hw
      · exact walk_of_written h _ _ _ hw
termination_by links _ todo => (links, todo.length)

namespace FileSystem

variable {fs after : FileSystem} {path : String}

/-- The directory that relative paths start from is in the tree. -/
def Grounded (fs : FileSystem) : Prop := fs.top.kind? (Path.names fs.cwd) = some .directory

theorem standsIn_of_find (hfs : fs.Grounded) {place : Place} (h : fs.find path = .ok place) :
    place.StandsIn fs.top := by
  rw [find] at h
  split at h
  · cases h
  split at h
  · cases h
  refine standsIn_of_walk _ _ _ ?_ h
  split
  · exact fs.top.kind?_nil
  · rw [List.reverse_reverse]
    exact hfs

theorem find_of_written {location : List String} {bytes : Bytes} (hcwd : after.cwd = fs.cwd)
    (h : Dir.Written fs.top after.top location bytes) {place : Place}
    (hfind : fs.find path = .ok place) :
    (∀ l b, place = .file l b →
      after.find path = .ok (.file l (if l = location then bytes else b))) ∧
    (place = .vacant location → after.find path = .ok (.file location bytes)) := by
  rw [find] at hfind ⊢
  split at hfind
  · cases hfind
  split at hfind
  · cases hfind
  rename_i hempty hlong
  rw [if_neg hempty, if_neg hlong, hcwd]
  exact walk_of_written h _ _ _ hfind

/-! ## Writing a file -/

/-- `after` is `before` but for a file at a location that had a file or nothing. -/
structure Wrote (before after : FileSystem) (location : List String) (bytes : Bytes) : Prop where
  cwd : after.cwd = before.cwd
  free : ∀ k, before.top.kind? location = some k → ∃ b, k = .file b
  kinds : ∀ l, after.top.kind? l = if l = location then some (.file bytes) else before.top.kind? l

theorem wrote_putAt {parent : List String} {name : String} (bytes : Bytes)
    (hparent : fs.top.kind? parent = some .directory)
    (hfree : ∀ k, fs.top.kind? (parent ++ [name]) = some k → ∃ b, k = .file b) :
    Wrote fs { fs with top := fs.top.putAt (parent ++ [name]) (.file bytes) } (parent ++ [name])
      bytes where
  cwd := rfl
  free := hfree
  kinds := by
    refine Dir.kind?_putAt (Node.isBare_file bytes) hparent fun hdir => ?_
    obtain ⟨b, hb⟩ := hfree _ hdir
    cases hb

theorem Wrote.written {location : List String} {bytes : Bytes} (h : Wrote fs after location bytes) :
    Dir.Written fs.top after.top location bytes where
  written := by rw [h.kinds, if_pos rfl]
  free := h.free
  kept l hl k hk := by rw [h.kinds, if_neg hl, hk]

/-- What is written is what the path leads to from then on. -/
theorem exists_wrote_of_write (hfs : fs.Grounded) {bytes : Bytes}
    (h : fs.write path bytes = .ok after) :
    ∃ location, Wrote fs after location bytes ∧ after.find path = .ok (.file location bytes) := by
  rw [write] at h
  split at h
  · rename_i location before hfind
    have hfile : fs.top.kind? location = some (.file before) := standsIn_of_find hfs hfind
    obtain ⟨parent, name, rfl, hparent⟩ := Dir.exists_parent hfile nofun
    have hwrote := wrote_putAt bytes hparent fun k hk =>
      ⟨before, Option.some.inj (hk.symm.trans hfile)⟩
    cases h
    refine ⟨_, hwrote, ?_⟩
    have hfound := (find_of_written hwrote.cwd hwrote.written hfind).1 _ before rfl
    rwa [if_pos rfl] at hfound
  · rename_i location hfind
    obtain ⟨parent, name, rfl, hparent, hnone⟩ := standsIn_of_find hfs hfind
    have hwrote := wrote_putAt bytes hparent fun k hk => nomatch hnone.symm.trans hk
    cases h
    exact ⟨_, hwrote, (find_of_written hwrote.cwd hwrote.written hfind).2 rfl⟩
  · cases h
  · cases h

/-! ## Making directories -/

/-- `after` is `before` but for directories where nothing was. -/
structure Widens (before after : FileSystem) : Prop where
  cwd : after.cwd = before.cwd
  kinds : ∀ l, after.top.kind? l = before.top.kind? l ∨
    before.top.kind? l = none ∧ after.top.kind? l = some .directory

theorem Widens.refl (fs : FileSystem) : Widens fs fs := ⟨rfl, fun _ => .inl rfl⟩

theorem Widens.kept (h : Widens fs after) {l : List String} {k : Kind}
    (hk : fs.top.kind? l = some k) : after.top.kind? l = some k := by
  obtain hsame | ⟨hnone, -⟩ := h.kinds l
  · rw [hsame, hk]
  · rw [hnone] at hk
    cases hk

theorem Widens.trans {mid : FileSystem} (h₁ : Widens fs mid) (h₂ : Widens mid after) :
    Widens fs after where
  cwd := h₂.cwd.trans h₁.cwd
  kinds l := by
    obtain h₁ | ⟨hnone, hdir⟩ := h₁.kinds l
    · rw [← h₁]
      exact h₂.kinds l
    · exact .inr ⟨hnone, h₂.kept hdir⟩

theorem Widens.grounded (h : Widens fs after) (hfs : fs.Grounded) : after.Grounded := by
  rw [Grounded, h.cwd]
  exact h.kept hfs

theorem Widens.written {mid : FileSystem} {location : List String} {bytes : Bytes}
    (h : Widens fs mid) (hwrote : Wrote mid after location bytes) :
    Dir.Written fs.top after.top location bytes where
  written := hwrote.written.written
  free _ hk := hwrote.free _ (h.kept hk)
  kept l hl _ hk := hwrote.written.kept l hl _ (h.kept hk)

theorem widens_of_makeDir (hfs : fs.Grounded) (h : fs.makeDir path = .ok after) :
    Widens fs after := by
  rw [makeDir] at h
  split at h
  · cases h
  rename_i name _
  split at h
  · split at h <;> cases h
  split at h
  · cases h
  · cases h
  · cases h
  · rename_i location entries hfind
    obtain ⟨hlocation, rfl⟩ := standsIn_of_find hfs hfind
    split at h
    · cases h
    split at h
    · cases h
    rename_i hfree
    cases h
    have hnone : fs.top.kind? (location ++ [name]) = none := by
      rw [Dir.kind?_concat, Option.not_isSome_iff_eq_none.mp hfree, Option.map_none]
    refine ⟨rfl, fun l => ?_⟩
    rw [Dir.kind?_putAt Node.isBare_dir hlocation (by rw [hnone]; exact nofun)]
    by_cases hl : l = location ++ [name]
    · rw [if_pos hl, hl]
      exact .inr ⟨hnone, rfl⟩
    · rw [if_neg hl]
      exact .inl rfl

theorem widens_of_ensureDir (hfs : fs.Grounded) (h : fs.ensureDir path = .ok after) :
    Widens fs after := by
  rw [ensureDir] at h
  split at h
  · rename_i made hmade
    cases h
    exact widens_of_makeDir hfs hmade
  · split at h
    · cases h
      exact .refl fs
    · cases h

/-- Also when it fails half way, nothing but directories was made. -/
theorem widens_ensureDirsUp (depth : Nat) (hfs : fs.Grounded) (path : String) :
    Widens fs (fs.ensureDirsUp depth path).2 := by
  induction depth generalizing path with
  | zero =>
    rw [ensureDirsUp]
    split
    · rename_i made hmade
      exact widens_of_ensureDir hfs hmade
    · exact .refl fs
  | succ d ih =>
    rw [ensureDirsUp]
    split
    · rename_i made hmade
      exact widens_of_ensureDir hfs hmade
    simp only
    split
    · have hup := ih (Path.parent path)
      split
      · rename_i f above habove
        rw [habove] at hup
        exact hup
      · rename_i above habove
        rw [habove] at hup
        split
        · rename_i made hmade
          exact hup.trans (widens_of_ensureDir (hup.grounded hfs) hmade)
        · exact hup
    · exact .refl fs

end FileSystem

end Files
end SecurityScan
