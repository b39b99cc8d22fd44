import SecurityScan.Ignore.Rule
import SecurityScan.Proofs.Path

/-!
# Paths seen from the project root

The way from one path to another goes up and then down, by names. Followed from where it starts it
leads to the names of the other path, so that it tells them and is told by them. A project sees every
spelling of a path by the same way from its root, and decides the same about it.
-/

namespace SecurityScan

namespace Path

open Files (isName_iff)
open Text (splitOn)

/-! ## Names of a join -/

theorem names_append_slash (p q : String) : names (p ++ "/" ++ q) = names p ++ names q := by
  have htext : p ++ "/" ++ q = String.ofList (p.toList ++ '/' :: q.toList) := by
    rw [← String.toList_inj]
    simp
  rw [htext, names, Text.splitOn_append, String.ofList_toList, String.ofList_toList,
    List.filter_append]
  rfl

theorem names_join {p q : String} (hp : p ≠ "") (hq : isAbsolute q = false) :
    names (join p q) = names p ++ names q := by
  unfold join
  simp only [hq, Bool.false_or, beq_iff_eq, hp, if_false]
  split
  · -- a slash at the end makes an empty piece, which is no name
    rename_i hslash
    obtain ⟨ds, hds⟩ := List.isSuffixOf_iff_suffix.mp hslash
    have hdir : p = String.ofList ds ++ "/" ++ "" := by
      rw [← String.toList_inj]
      simpa using hds.symm
    have hall : p ++ q = String.ofList ds ++ "/" ++ q := by
      rw [hdir]
      simp
    rw [hall, names_append_slash, hdir, names_append_slash]
    simp [names, splitOn, Text.splitOnChar]
  · exact names_append_slash p q

theorem names_normalize {p : String} (h : isAbsolute p = true) :
    names (normalize p) = components p :=
  names_ofParts (isRoot_root h) fun n hn => (proper_components h n hn).name

/-! ## Following a way -/

/-- Each `..` takes away the name below it. -/
theorem foldl_pushComponent_up {rooted : Bool} {up : List String} (h : ∀ n ∈ up, IsProper n)
    (stack : List String) :
    (List.replicate up.length "..").foldl (pushComponent rooted) (up ++ stack) = stack := by
  induction up with
  | nil => rfl
  | cons n up ih =>
    obtain ⟨hn, hup⟩ := List.forall_mem_cons.mp h
    have hpush : pushComponent rooted (n :: (up ++ stack)) ".." = up ++ stack := by
      simp [pushComponent, hn.rises]
    rw [List.length_cons, List.replicate_succ, List.foldl_cons, List.cons_append, hpush, ih hup]

theorem isAbsolute_relative (start p : String) : isAbsolute (relative start p) = false := by
  rw [Bool.eq_false_iff]
  intro habsolute
  obtain ⟨cs, hcs⟩ := isAbsolute_iff.mp habsolute
  rw [← joinWith_names_relative] at hcs
  exact joinWith_ne_slash (fun n hn => isName_of_mem_names hn) cs hcs

/-- **A way leads to what it is the way to.** What is left of `start` is given up name by name, and
what remains is what both have in common. -/
theorem names_absolute_relative {start p : String} (hstart : IsNormal start) (hp : IsNormal p) :
    names (absolute start (relative start p)) = names p := by
  have hrelative := isAbsolute_relative start p
  have hjoin := isAbsolute_join hstart.isAbsolute (relative start p)
  have hne : start ≠ "" := by
    rintro rfl
    cases hstart.isAbsolute
  obtain ⟨common, up, down, hfrom, hto, hway⟩ := exists_way start p
  have hup : ∀ n ∈ up.reverse, IsProper n := fun n hn =>
    hstart.proper n (hfrom ▸ List.mem_append_right common (List.mem_reverse.mp hn))
  have hdown : ∀ n ∈ down, IsProper n := fun n hn =>
    hp.proper n (hto ▸ List.mem_append_right common hn)
  have hproper := hstart.proper
  rw [hfrom] at hproper
  rw [absolute, hrelative, if_neg Bool.false_ne_true, names_normalize hjoin, components_eq, hjoin,
    names_join hne hrelative, hway, hfrom, List.foldl_append, foldl_pushComponent_proper hproper,
    List.append_nil, List.reverse_append, List.foldl_append, ← List.length_reverse,
    foldl_pushComponent_up hup, foldl_pushComponent_proper hdown, hto]
  simp

/-! ## What a way tells -/

theorem splitOn_relative {start p : String} (h : relative start p ≠ "") :
    splitOn '/' (relative start p) = names (relative start p) := by
  have hne : names (relative start p) ≠ [] := by
    intro hnil
    rw [← joinWith_names_relative, hnil] at h
    exact h rfl
  have hsplit := Text.splitOn_joinWith hne fun n hn => (isName_iff.mp (isName_of_mem_names hn)).2
  rwa [joinWith_names_relative] at hsplit

theorem dropCommon_self (ns : List String) : dropCommon ns ns = ([], []) := by
  induction ns with
  | nil => rfl
  | cons n ns ih => rw [dropCommon, if_pos (beq_self_eq_true n), ih]

theorem relative_eq_empty_iff {start p : String} : relative start p = "" ↔ names p = names start := by
  constructor
  · exact names_of_relative_empty
  · intro h
    rw [relative, h, dropCommon_self]
    rfl

theorem relative_eq_iff (start : String) {p q : String} (hp : ".." ∉ names p) (hq : ".." ∉ names q) :
    relative start p = relative start q ↔ names p = names q := by
  constructor
  · exact fun h => relative_inj start hp hq (congrArg names h)
  · intro h
    rw [relative, relative, h]

/-- The pieces of a way are names, `..` stands in front only, and nothing stays where it is. -/
theorem pieces_relative {start p : String} (hp : IsNormal p) (h : relative start p ≠ "") :
    (∀ c ∈ splitOn '/' (relative start p), c ≠ "" ∧ c ≠ ".") ∧
      ∃ k down, splitOn '/' (relative start p) = List.replicate k ".." ++ down ∧ ".." ∉ down := by
  obtain ⟨common, up, down, -, hto, hway⟩ := exists_way start p
  have hdown : ∀ n ∈ down, IsProper n := fun n hn =>
    hp.proper n (hto ▸ List.mem_append_right common hn)
  rw [splitOn_relative h]
  constructor
  · intro c hc
    refine ⟨(isName_iff.mp (isName_of_mem_names hc)).1, ?_⟩
    rw [hway] at hc
    rcases List.mem_append.mp hc with hc | hc
    · rw [List.eq_of_mem_replicate hc]
      decide
    · exact (hdown c hc).stays
  · exact ⟨up.length, down, hway, fun hmem => (hdown _ hmem).rises rfl⟩

end Path

namespace Project

open SecurityScan.Path (IsNormal names absolute)
open Text (splitOn)

/-- **A path is seen by the way from the project root.** The way is empty for the root alone. It has
no piece that is empty or stays where it is, it goes up at its start only, and followed from the root
it leads to the names of the path. Paths are seen alike when their absolute forms have the same names,
and then every file of rules says the same about them. -/
theorem relativePath_canonical (p : Project) (hcwd : Path.isAbsolute p.cwd = true) :
    (∀ path, let rel := p.relativePath path
      (rel = "" ↔ names (absolute p.cwd path) = names p.rootPath) ∧
      (rel ≠ "" → (∀ c ∈ splitOn '/' rel, c ≠ "" ∧ c ≠ ".") ∧
        ∃ k down, splitOn '/' rel = List.replicate k ".." ++ down ∧ ".." ∉ down) ∧
      names (absolute p.rootPath rel) = names (absolute p.cwd path)) ∧
    ∀ path path',
      (p.relativePath path = p.relativePath path' ↔
        names (absolute p.cwd path) = names (absolute p.cwd path')) ∧
      (names (absolute p.cwd path) = names (absolute p.cwd path') →
        ∀ rules force, p.excludes rules force path = p.excludes rules force path') := by
  have hnormal : ∀ path, IsNormal (absolute p.cwd path) := Path.isNormal_absolute hcwd
  have hroot : IsNormal p.rootPath := hnormal _
  refine ⟨fun path => ?_, fun path path' => ?_⟩
  · exact ⟨Path.relative_eq_empty_iff, Path.pieces_relative (hnormal path),
      Path.names_absolute_relative hroot (hnormal path)⟩
  · have hsame : p.relativePath path = p.relativePath path' ↔
        names (absolute p.cwd path) = names (absolute p.cwd path') :=
      Path.relative_eq_iff p.rootPath (hnormal path).not_mem (hnormal path').not_mem
    refine ⟨hsame, fun h rules force => ?_⟩
    rw [excludes, excludes, hsame.mpr h]

/-- A root given from the current directory, and two spellings of a path beside it. -/
theorem relativePath_canonical_beside :
    let p : Project := ⟨"/work/app", some "../lib//./core"⟩
    let path := "../src/./a.py"
    let path' := "//work/lib/../src//a.py"
    Path.isAbsolute p.cwd = true ∧ p.relativePath path = "../../src/a.py" ∧
    p.relativePath path = p.relativePath path' ∧
    names (absolute p.rootPath (p.relativePath path)) = ["work", "src", "a.py"] ∧
    p.relativePath "/work/lib/core/" = "" ∧
    ∀ rules force, p.excludes rules force path = p.excludes rules force path' := by
  intro p path path'
  have hcwd : Path.isAbsolute p.cwd = true := by decide
  obtain ⟨hway, hsame⟩ := relativePath_canonical p hcwd
  have hroot : names p.rootPath = ["work", "lib", "core"] := by decide
  have hnames : names (absolute p.cwd path) = ["work", "src", "a.py"] := by decide
  have hnames' : names (absolute p.cwd path') = ["work", "src", "a.py"] := by decide
  have hspelled := hnames.trans hnames'.symm
  have hcore : names (absolute p.cwd "/work/lib/core/") = ["work", "lib", "core"] := by decide
  have hup : p.relativePath path = "../../src/a.py" := by
    rw [relativePath, Path.relative, hroot, hnames]
    decide
  obtain ⟨-, -, hback⟩ := hway path
  obtain ⟨hempty, -, -⟩ := hway "/work/lib/core/"
  exact ⟨hcwd, hup, (hsame path path').1.mpr hspelled, hback.trans hnames,
    hempty.mpr (hcore.trans hroot.symm), (hsame path path').2 hspelled⟩

end Project

end SecurityScan
