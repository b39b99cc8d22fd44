import Mathlib.Data.List.Sort
import Mathlib.Data.List.TakeWhile
import SecurityScan.Proofs.Entries
import SecurityScan.Proofs.Files

/-!
# Which files are collected

A walk over the entries of a directory comes to exactly the files beneath it: through directories
of the tree, no link among them, with no hidden name on the way. The list that is collected holds
those of every target that the extensions and the ignore rules admit, in ascending order, so that
it is settled by which paths are in it.
-/

namespace SecurityScan

/-! ## Ascending lists -/

theorem mem_dropRepeats {x : String} : ∀ xs : List String, x ∈ dropRepeats xs ↔ x ∈ xs
  | [] | [_] => Iff.rfl
  | y :: z :: rest => by
    simp only [dropRepeats]
    split
    · rename_i h; rw [mem_dropRepeats (z :: rest), h]; simp
    · rw [List.mem_cons, mem_dropRepeats (z :: rest), ← List.mem_cons]

theorem pairwise_dropRepeats : ∀ {xs : List String}, xs.Pairwise (· ≤ ·) →
    (dropRepeats xs).Pairwise (· < ·)
  | [], _ => .nil
  | [x], _ => by simp [dropRepeats]
  | x :: y :: rest, h => by
    obtain ⟨hx, hrest⟩ := List.pairwise_cons.mp h
    have ih := pairwise_dropRepeats hrest
    simp only [dropRepeats]
    split
    · exact ih
    · rename_i hxy
      refine List.pairwise_cons.mpr ⟨fun z hz => ?_, ih⟩
      have hlt : x < y := Std.lt_of_le_of_ne (hx y (List.mem_cons_self ..)) hxy
      obtain rfl | hz := List.mem_cons.mp ((mem_dropRepeats _).mp hz)
      · exact hlt
      · exact Std.lt_of_lt_of_le hlt ((List.pairwise_cons.mp hrest).1 z hz)

theorem mem_ascending {x : String} {xs : List String} : x ∈ ascending xs ↔ x ∈ xs := by
  rw [ascending, mem_dropRepeats, List.mem_mergeSort]

theorem pairwise_ascending (xs : List String) : (ascending xs).Pairwise (· < ·) := by
  refine pairwise_dropRepeats ?_
  have h := @List.pairwise_mergeSort String (fun a b => decide (a ≤ b))
    (fun a b c hab hbc => by simp only [decide_eq_true_eq] at *; exact String.le_trans hab hbc)
    (fun a b => by simpa using String.le_total a b) xs
  simpa using h

/-- An ascending list is settled by its members. -/
theorem eq_of_ascending {xs ys : List String} (hx : xs.Pairwise (· < ·)) (hy : ys.Pairwise (· < ·))
    (h : ∀ x, x ∈ xs ↔ x ∈ ys) : xs = ys :=
  List.Pairwise.eq_of_mem_iff hx hy h

/-! ## Beneath a directory -/

namespace Files

open FileSystem

/-- The files below the directory at a path that are reached through no hidden name and no link to a
directory. The file itself may be a link to one. -/
inductive Beneath (fs : FileSystem) : String → String → Prop
  | entry {dir name} : isName name = true → isHidden name = false →
      fs.hasFile (Path.join dir name) = true → Beneath fs dir (Path.join dir name)
  | inside {dir name es path} : isName name = true → isHidden name = false →
      fs.nodeIn? dir name = some (.dir es) → Beneath fs (Path.join dir name) path →
      Beneath fs dir path

theorem mem_filesIn {fs : FileSystem} {dir path : String} : ∀ {es : Dir},
    path ∈ filesIn fs dir es ↔ ∃ e ∈ es, path ∈ filesAt fs dir e.1 e.2
  | [] => by simp [filesIn]
  | (name, node) :: rest => by simp [filesIn, @mem_filesIn fs dir path rest]

section
variable {fs : FileSystem} {dir name path : String}

theorem mem_filesAt_dir {es : Dir} :
    path ∈ filesAt fs dir name (.dir es) ↔
      isHidden name = false ∧ path ∈ filesIn fs (Path.join dir name) es := by
  cases h : isHidden name <;> simp [filesAt, h]

theorem mem_filesAt_leaf {node : Node} (hnode : ∀ es, node ≠ .dir es) :
    path ∈ filesAt fs dir name node ↔
      isHidden name = false ∧ fs.hasFile (Path.join dir name) = true ∧ path = Path.join dir name := by
  cases node with
  | dir es => exact absurd rfl (hnode es)
  | file bytes => simp only [filesAt]; split <;> simp_all
  | link target => simp only [filesAt]; split <;> simp_all

theorem sizeOf_lt_of_mem_dir {node : Node} {es : Dir} (h : (name, node) ∈ es) :
    sizeOf node < sizeOf (Node.dir es) := by
  have := List.sizeOf_lt_of_mem h
  simp only [Prod.mk.sizeOf_spec, Node.dir.sizeOf_spec] at *
  omega

theorem isFile_of_hasFile (h : fs.hasFile path = true) : fs.isFile path = true :=
  (Bool.and_eq_true_iff.mp h).2

end

theorem pathFault?_of_hasFile {fs : FileSystem} {path : String} (h : fs.hasFile path = true) :
    pathFault? path = none :=
  Option.isNone_iff_eq_none.mp (Bool.and_eq_true_iff.mp h).1

/-- A walk comes to nothing but files. -/
theorem hasFile_of_mem_filesAt {fs : FileSystem} {path : String} :
    ∀ (node : Node) {dir name : String}, path ∈ filesAt fs dir name node → fs.hasFile path = true
  | .dir es, dir, name, h => by
    obtain ⟨⟨n, node⟩, hmem, hp⟩ := mem_filesIn.mp (mem_filesAt_dir.mp h).2
    exact hasFile_of_mem_filesAt node hp
  | .file _, _, _, h | .link _, _, _, h => by
    obtain ⟨-, hf, rfl⟩ := (mem_filesAt_leaf (by simp)).mp h
    exact hf
termination_by node => sizeOf node
decreasing_by exact sizeOf_lt_of_mem_dir hmem

/-! ### Completeness -/

section
variable {fs : FileSystem} {dir name path : String}

theorem find_of_nodeIn {node : Node} (h : fs.nodeIn? dir name = some node) :
    ∃ location es, fs.find dir = .ok (.directory location es) := by
  unfold nodeIn? at h
  split at h
  · exact ⟨_, _, by assumption⟩
  · cases h

theorem find_of_isFile_join (hd : dir ≠ "") (hn : isName name = true)
    (h : fs.isFile (Path.join dir name) = true) :
    ∃ location es, fs.find dir = .ok (.directory location es) := by
  obtain ⟨location, bytes, hf⟩ := isFile_iff.mp h
  obtain ⟨links, here, hdir, -⟩ := find_join hd hn hf
  exact ⟨_, _, hdir⟩

/-- Nothing is beneath what is no directory. -/
theorem Beneath.find_dir (h : Beneath fs dir path) (hd : dir ≠ "") :
    ∃ location es, fs.find dir = .ok (.directory location es) := by
  cases h with
  | entry hn _ hf => exact find_of_isFile_join hd hn (isFile_of_hasFile hf)
  | inside _ _ he _ => exact find_of_nodeIn he

/-- A walk comes to every file beneath the directory that it starts from. -/
theorem mem_filesIn_of_beneath (h : Beneath fs dir path) : ∀ {location : List String} {es : Dir},
    fs.find dir = .ok (.directory location es) → path ∈ filesIn fs dir es := by
  induction h with
  | @entry dir name hn hh hf =>
    intro location es hdir
    have hd := ne_empty_of_find hdir
    obtain ⟨node, he, hnode⟩ := node_of_isFile hd hn hh (isFile_of_hasFile hf)
    rw [nodeIn?_of_find hdir] at he
    have hp : Path.join dir name ∈ filesAt fs dir name node :=
      (mem_filesAt_leaf hnode).mpr ⟨hh, hf, rfl⟩
    exact mem_filesIn.mpr ⟨(name, node), Dir.mem_of_child he, hp⟩
  | @inside dir name es path hn hh he hb ih =>
    intro location ds hdir
    have hd := ne_empty_of_find hdir
    obtain ⟨loc, es', hsub⟩ := hb.find_dir (Path.join_ne_empty hd hn)
    -- the entries found by the path are those of the tree
    obtain ⟨loc', heq⟩ := find_join_dir hd hn hh he hsub
    cases heq
    rw [nodeIn?_of_find hdir] at he
    have hp : path ∈ filesAt fs dir name (.dir es) := mem_filesAt_dir.mpr ⟨hh, ih hsub⟩
    exact mem_filesIn.mpr ⟨(name, .dir es), Dir.mem_of_child he, hp⟩

/-! ### Soundness -/

/-- A walk that comes to a file has started from a directory. -/
theorem find_of_mem_filesAt : ∀ (node : Node) {dir name : String}, dir ≠ "" → isName name = true →
    node.wellNamed = true → path ∈ filesAt fs dir name node →
      ∃ location es, fs.find dir = .ok (.directory location es)
  | .dir es, dir, name, hd, hn, hw, h => by
    obtain ⟨⟨n, node⟩, hmem, hp⟩ := mem_filesIn.mp (mem_filesAt_dir.mp h).2
    obtain ⟨hn', hw', -⟩ := of_mem_wellNamed (by simpa [Node.wellNamed] using hw) hmem
    have hd' := Path.join_ne_empty hd hn
    obtain ⟨loc, ds, hsub⟩ := find_of_mem_filesAt node hd' hn' hw' hp
    obtain ⟨links, here, hdir, -⟩ := find_join hd hn hsub
    exact ⟨_, _, hdir⟩
  | .file _, _, _, hd, hn, _, h | .link _, _, _, hd, hn, _, h =>
    find_of_isFile_join hd hn (isFile_of_hasFile ((mem_filesAt_leaf (by simp)).mp h).2.1)
termination_by node => sizeOf node
decreasing_by exact sizeOf_lt_of_mem_dir hmem

/-- A walk comes only to files beneath the directory that it starts from. -/
theorem beneath_of_mem_filesAt : ∀ (node : Node) {dir name : String}, dir ≠ "" →
    isName name = true → fs.nodeIn? dir name = some node → node.wellNamed = true →
      path ∈ filesAt fs dir name node → Beneath fs dir path
  | .dir es, dir, name, hd, hn, he, hw, h => by
    obtain ⟨hh, hin⟩ := mem_filesAt_dir.mp h
    obtain ⟨⟨n, node⟩, hmem, hp⟩ := mem_filesIn.mp hin
    obtain ⟨hn', hw', hc⟩ := of_mem_wellNamed (by simpa [Node.wellNamed] using hw) hmem
    have hd' := Path.join_ne_empty hd hn
    -- something was found below it, so its path is not too long and leads to these entries
    obtain ⟨loc, es', hsub⟩ := find_of_mem_filesAt node hd' hn' hw' hp
    obtain ⟨loc', heq⟩ := find_join_dir hd hn hh he hsub
    cases heq
    have hnode : fs.nodeIn? (Path.join dir name) n = some node := by rw [nodeIn?_of_find hsub, hc]
    exact .inside hn hh he (beneath_of_mem_filesAt node hd' hn' hnode hw' hp)
  | .file _, _, _, _, hn, _, _, h | .link _, _, _, _, hn, _, _, h => by
    obtain ⟨hh, hf, rfl⟩ := (mem_filesAt_leaf (by simp)).mp h
    exact .entry hn hh hf
termination_by node => sizeOf node
decreasing_by exact sizeOf_lt_of_mem_dir hmem

/-- The files below the entries of a directory are those beneath it. -/
theorem mem_filesIn_iff (hfs : fs.wellNamed = true) {location : List String} {es : Dir}
    (hd : fs.find dir = .ok (.directory location es)) :
    path ∈ filesIn fs dir es ↔ Beneath fs dir path := by
  refine ⟨fun h => ?_, fun h => mem_filesIn_of_beneath h hd⟩
  obtain ⟨⟨n, node⟩, hmem, hp⟩ := mem_filesIn.mp h
  obtain ⟨hn, hw, hc⟩ := of_mem_wellNamed (wellNamed_of_find hfs hd) hmem
  exact beneath_of_mem_filesAt node (ne_empty_of_find hd) hn (by rw [nodeIn?_of_find hd, hc]) hw hp

end

end Files

/-! ## Suffixes -/

namespace Path

/-- A name cut at its last dot. -/
def LastDot (name stem ext : String) : Prop := name = stem ++ "." ++ ext ∧ '.' ∉ ext.toList

/-- The last dot of a name and what follows it. A dot with nothing before it or nothing behind it
makes no suffix, and the suffix is empty then. -/
def IsSuffix (name suffix : String) : Prop :=
  (∃ stem ext, LastDot name stem ext ∧ stem ≠ "" ∧ ext ≠ "" ∧ suffix = "." ++ ext) ∨
    (suffix = "" ∧ ∀ stem ext, LastDot name stem ext → stem = "" ∨ ext = "")

theorem forall_ne_dot {cs : List Char} (h : '.' ∉ cs) : ∀ c ∈ cs.reverse, (c != '.') = true := by
  intro c hc
  rw [List.mem_reverse] at hc
  exact bne_iff_ne.mpr fun hd => h (hd ▸ hc)

theorem suffixOf_append (stem : List Char) {ext : List Char} (h : '.' ∉ ext) :
    suffixOf (stem ++ '.' :: ext) = if stem ≠ [] ∧ ext ≠ [] then '.' :: ext else [] := by
  have ht : ((stem ++ '.' :: ext).reverse.takeWhile (· != '.')).reverse = ext := by
    rw [List.reverse_append, List.reverse_cons, List.append_assoc,
      List.takeWhile_append_of_pos (forall_ne_dot h)]
    simp
  unfold suffixOf
  rw [ht]
  cases stem <;> cases ext <;> simp
  omega

theorem suffixOf_of_not_mem {name : List Char} (h : '.' ∉ name) : suffixOf name = [] := by
  have ht : name.reverse.takeWhile (· != '.') = name.reverse :=
    List.takeWhile_eq_self_iff.mpr (forall_ne_dot h)
  simp [suffixOf, ht]

theorem exists_lastDot {name : String} (h : '.' ∈ name.toList) :
    ∃ stem ext, LastDot name stem ext := by
  obtain ⟨as, bs, hn, ha⟩ := List.eq_append_cons_of_mem (List.mem_reverse.mpr h)
  refine ⟨String.ofList bs.reverse, String.ofList as.reverse, ?_, by simpa using ha⟩
  rw [← String.toList_inj, ← List.reverse_inj, hn]
  simp

theorem suffix_of_lastDot {p stem ext : String} (h : LastDot (name p) stem ext) :
    suffix p = if stem ≠ "" ∧ ext ≠ "" then "." ++ ext else "" := by
  obtain ⟨hn, he⟩ := h
  have hl : (name p).toList = stem.toList ++ '.' :: ext.toList := by rw [hn]; simp
  rw [suffix, hl, suffixOf_append _ he]
  simp only [ne_eq, String.toList_eq_nil_iff]
  split
  · rw [← String.toList_inj]; simp
  · rfl

theorem isSuffix_iff {p s : String} : IsSuffix (name p) s ↔ s = suffix p := by
  constructor
  · rintro (⟨stem, ext, h, hs, he, rfl⟩ | ⟨rfl, h⟩)
    · rw [suffix_of_lastDot h, if_pos ⟨hs, he⟩]
    · by_cases hd : '.' ∈ (name p).toList
      · obtain ⟨stem, ext, hl⟩ := exists_lastDot hd
        rw [suffix_of_lastDot hl, if_neg fun hse => (h stem ext hl).elim hse.1 hse.2]
      · rw [suffix, suffixOf_of_not_mem hd]
  · rintro rfl
    by_cases hd : ∃ stem ext, LastDot (name p) stem ext ∧ stem ≠ "" ∧ ext ≠ ""
    · obtain ⟨stem, ext, hl, hs, he⟩ := hd
      exact Or.inl ⟨stem, ext, hl, hs, he, by rw [suffix_of_lastDot hl, if_pos ⟨hs, he⟩]⟩
    · refine Or.inr ⟨?_, fun stem ext hl => ?_⟩
      · by_cases hm : '.' ∈ (name p).toList
        · obtain ⟨stem, ext, hl⟩ := exists_lastDot hm
          rw [suffix_of_lastDot hl, if_neg fun hse => hd ⟨stem, ext, hl, hse⟩]
        · rw [suffix, suffixOf_of_not_mem hm]
      · by_contra hne
        exact hd ⟨stem, ext, hl, not_or.mp hne⟩

end Path

/-! ## Collecting -/

namespace Collector

open Files (FileSystem Beneath)

/-- Whether a target brings a path among the files to scan: it leads to a file and is that path, or
it leads to a directory that the file is beneath; the file's suffix is one of the extensions and the
ignore rules do not leave it out. -/
def Selects (c : Collector) (fs : FileSystem) (target path : String) : Prop :=
  ((fs.hasFile target = true ∧ path = target) ∨
      (fs.hasDir target = true ∧ Beneath fs target path)) ∧
    (∃ e, .str e ∈ c.extensions ∧ Path.IsSuffix (Path.name path) e) ∧
    c.project.excludes c.rules c.force path = false

/-- The files to scan for paths as they are given. -/
def collection (c : Collector) (fs : FileSystem) (paths : List String) : List String :=
  (c.collect fs (paths.map (ScanTarget.ofPath fs.cwd))).value

variable {c : Collector} {fs : FileSystem}

theorem takes_iff {path : String} :
    c.takes path = true ↔ (∃ e, .str e ∈ c.extensions ∧ Path.IsSuffix (Path.name path) e) ∧
      c.project.excludes c.rules c.force path = false := by
  simp only [takes, isSource, Bool.and_eq_true, List.any_eq_true, Value.same_str_iff,
    Bool.not_eq_true', Path.isSuffix_iff]
  simp

theorem mem_filesAt {target path : String} (hfs : fs.wellNamed = true) :
    path ∈ (c.filesAt? fs target).getD [] ↔ c.Selects fs target path := by
  unfold filesAt? Selects FileSystem.hasFile FileSystem.hasDir
  rw [← takes_iff]
  cases hp : Files.pathFault? target with
  | some f => simp
  | none =>
    cases hf : fs.find target with
    | error e => simp [FileSystem.isFile, FileSystem.isDir, hf]
    | ok place =>
      cases place with
      | vacant location => simp [FileSystem.isFile, FileSystem.isDir, hf]
      | file location bytes =>
        simp [FileSystem.isFile, FileSystem.isDir, hf, List.mem_filter]
      | directory location es =>
        simp [FileSystem.isFile, FileSystem.isDir, hf, List.mem_filter, Files.mem_filesIn_iff hfs hf]

theorem value_found : ∀ ts : List ScanTarget,
    (c.found fs ts).value = ts.flatMap fun t => (c.filesAt? fs t.absolute).getD []
  | [] => rfl
  | t :: ts => by
    rw [found, List.flatMap_cons, ← value_found ts]
    cases c.filesAt? fs t.absolute <;> rfl

theorem collection_eq (paths : List String) :
    c.collection fs paths =
      ascending (paths.flatMap fun p => (c.filesAt? fs (Path.absolute fs.cwd p)).getD []) := by
  simp only [collection, collect, Noted.value_bind, Noted.value_pure, value_found,
    List.flatMap_map, ScanTarget.ofPath]

theorem hasFile_of_mem_filesAt? {target path : String} (h : path ∈ (c.filesAt? fs target).getD []) :
    fs.hasFile path = true := by
  unfold filesAt? at h
  cases hp : Files.pathFault? target with
  | some f => simp [hp] at h
  | none =>
    simp only [hp, Option.isSome_none, Bool.false_eq_true, if_false] at h
    split at h
    · rename_i location bytes hf
      obtain ⟨h, -⟩ := List.mem_filter.mp h
      rw [List.mem_singleton.mp h]
      simp [FileSystem.hasFile, hp, FileSystem.isFile, hf]
    · obtain ⟨⟨n, node⟩, -, hn⟩ := Files.mem_filesIn.mp (List.mem_filter.mp h).1
      exact Files.hasFile_of_mem_filesAt node hn
    · cases h

/-- Only files are collected. -/
theorem hasFile_of_mem_collection {paths : List String} {path : String}
    (h : path ∈ c.collection fs paths) : fs.hasFile path = true := by
  rw [collection_eq, mem_ascending, List.mem_flatMap] at h
  obtain ⟨p, -, hp⟩ := h
  exact hasFile_of_mem_filesAt? hp

theorem mem_collection (hfs : fs.wellNamed = true) {paths : List String} {path : String} :
    path ∈ c.collection fs paths ↔ ∃ t ∈ paths, c.Selects fs (Path.absolute fs.cwd t) path := by
  simp only [collection_eq, mem_ascending, List.mem_flatMap, mem_filesAt hfs]

theorem pairwise_collection (paths : List String) : (c.collection fs paths).Pairwise (· < ·) := by
  rw [collection_eq]
  exact pairwise_ascending _

/-- **What is collected.** The files to scan are those that some target brings, in ascending order.
Neither the order of the targets nor a target given twice makes a difference, the files for two
lists of targets are those for the one and those for the other, and the ignore rules take away
from all files to scan those that they leave out. -/
theorem collection_selected (c : Collector) (fs : FileSystem) (hfs : fs.wellNamed = true) :
    (∀ paths, (c.collection fs paths).Pairwise (· < ·) ∧
      ∀ p, p ∈ c.collection fs paths ↔ ∃ t ∈ paths, c.Selects fs (Path.absolute fs.cwd t) p) ∧
    (∀ ts us, (∀ t, t ∈ ts ↔ t ∈ us) → c.collection fs ts = c.collection fs us) ∧
    (∀ ts us p, p ∈ c.collection fs (ts ++ us) ↔
      p ∈ c.collection fs ts ∨ p ∈ c.collection fs us) ∧
    ∀ paths, { c with force := false }.collection fs paths =
      ({ c with force := true }.collection fs paths).filter fun p =>
        !IgnoreRule.excludes c.rules (c.project.relativePath p) := by
  refine ⟨fun paths => ⟨pairwise_collection paths, fun p => mem_collection hfs⟩, ?_, ?_, ?_⟩
  · intro ts us h
    refine eq_of_ascending (pairwise_collection ts) (pairwise_collection us) fun p => ?_
    simp only [mem_collection hfs, h]
  · intro ts us p
    simp only [mem_collection hfs, List.mem_append, or_and_right, exists_or]
  · intro paths
    refine eq_of_ascending (pairwise_collection paths) ((pairwise_collection paths).filter _)
      fun p => ?_
    simp only [List.mem_filter, mem_collection hfs, Selects, Project.excludes]
    simp only [Bool.not_false, Bool.not_true, Bool.true_and, Bool.false_and, Bool.not_eq_true',
      and_true, ← exists_and_right, and_assoc]

/-- A directory with a hidden one in it, another one, and a link to that. -/
def linkedTree : FileSystem where
  top := [("work", .dir [("a.py", .file []), (".git", .dir [("b.py", .file [])]),
    ("lib", .link "src"), ("src", .dir [("c.py", .file []), ("d.txt", .file [])])])]
  cwd := "/work"

def pythonFiles : Collector := ⟨⟨"/work", none⟩, [.str ".py"], [], false⟩

theorem find_linkedTree :
    linkedTree.find "/work" = .ok (.directory ["work"] (linkedTree.top.at ["work"])) := by
  have hn : Text.splitOn '/' "/work" = ["", "work"] := by decide
  simp +decide [FileSystem.find, hn, Files.walk, linkedTree, Files.Dir.at, Files.Dir.child?]

theorem beneath_linkedTree : Beneath linkedTree "/work" "/work/src/c.py" := by
  have hfile : linkedTree.hasFile "/work/src/c.py" = true := by
    have hn : Text.splitOn '/' "/work/src/c.py" = ["", "work", "src", "c.py"] := by decide
    have hp : (Files.pathFault? "/work/src/c.py").isNone = true := by decide
    simp +decide [FileSystem.hasFile, hp, FileSystem.isFile, FileSystem.find, hn, Files.walk,
      linkedTree, Files.Dir.at, Files.Dir.child?, List.lookup_cons]
  have hsrc : Path.join "/work" "src" = "/work/src" := by decide
  have hc : Path.join "/work/src" "c.py" = "/work/src/c.py" := by decide
  have hentry := @Beneath.entry linkedTree "/work/src" "c.py" (by decide) (by decide)
  rw [hc] at hentry
  refine @Beneath.inside linkedTree "/work" "src" [("c.py", .file []), ("d.txt", .file [])] _
    (by decide) (by decide) ?_ (by rw [hsrc]; exact hentry hfile)
  rw [Files.FileSystem.nodeIn?_of_find find_linkedTree]
  rfl

theorem collection_linkedTree : linkedTree.wellNamed = true ∧
    "/work/src/c.py" ∈ pythonFiles.collection linkedTree ["."] ∧
    pythonFiles.collection linkedTree ["lib", "."] =
      pythonFiles.collection linkedTree [".", "lib", "."] := by
  have hw : linkedTree.wellNamed = true := by decide
  obtain ⟨hmem, heq, -, -⟩ := collection_selected pythonFiles linkedTree hw
  refine ⟨hw, ((hmem ["."]).2 _).mpr ⟨".", List.mem_singleton_self _, ?_, ?_, rfl⟩, heq _ _ ?_⟩
  · have ht : Path.absolute linkedTree.cwd "." = "/work" := by decide
    rw [ht]
    have hdir : linkedTree.hasDir "/work" = true := by
      have hp : (Files.pathFault? "/work").isNone = true := by decide
      simp [FileSystem.hasDir, hp, FileSystem.isDir, find_linkedTree]
    exact Or.inr ⟨hdir, beneath_linkedTree⟩
  · exact ⟨".py", List.mem_singleton_self _, Path.isSuffix_iff.mpr (by decide)⟩
  · intro t
    simp [or_comm]

end Collector

end SecurityScan
