import Mathlib.Data.List.Nodup
import SecurityScan.Proofs.Collect
import SecurityScan.Proofs.Path

/-!
# Labels of collected files

Every collected path is in normal form, so that it is settled by its root and its names. The label
of a file tells the names alone, and in a tree without links the names tell the file. Two paths share
a label, and the file, when one of them has one slash more in front than the other.
-/

namespace SecurityScan

namespace Files

open SecurityScan.Path (IsNormal IsProper)

/-! ## Trees without links -/

mutual

/-- Whether nothing in a node is a link. -/
def Node.linkFree : Node → Bool
  | .dir entries => entriesLinkFree entries
  | .file _ => true
  | .link _ => false

def entriesLinkFree : List (String × Node) → Bool
  | [] => true
  | (_, node) :: rest => node.linkFree && entriesLinkFree rest

end

theorem of_mem_linkFree {name : String} {node : Node} : ∀ {es : Dir},
    entriesLinkFree es = true → (name, node) ∈ es → node.linkFree = true
  | [], _, h => nomatch h
  | (_, _) :: rest, hes, h => by
    rw [entriesLinkFree, Bool.and_eq_true] at hes
    cases h with
    | head => exact hes.1
    | tail _ h => exact of_mem_linkFree hes.2 h

theorem at_linkFree (ns : List String) {d : Dir} (h : entriesLinkFree d = true) :
    entriesLinkFree (d.at ns) = true :=
  Dir.at_of_child (P := fun d => entriesLinkFree d = true) rfl
    (fun hd hc => of_mem_linkFree hd (Dir.mem_of_child hc)) ns h

/-- Where there are no links, a walk along names that lead down comes to the file at these names. -/
theorem location_of_walk {top : Dir} (htop : entriesLinkFree top = true) {links : Nat}
    {ns : List String} (hns : ∀ n ∈ ns, IsProper n) {here location : List String}
    {bytes : Text.Utf8.Bytes} (h : walk top links here ns = .ok (.file location bytes)) :
    location = here.reverse ++ ns := by
  induction ns generalizing here with
  | nil =>
    rw [walk] at h
    cases h
  | cons n ns ih =>
    obtain ⟨hn, hns⟩ := List.forall_mem_cons.mp hns
    have hstays : ¬(n = "" ∨ n = ".") := not_or.mpr ⟨(isName_iff.mp hn.name).1, hn.stays⟩
    rw [walk, if_neg hstays, if_neg hn.rises] at h
    split at h
    · cases h
    · split at h
      · split at h <;> cases h
      · rw [ih hns h, List.reverse_cons, List.append_assoc, List.singleton_append]
      · split at h
        · rename_i hlast
          cases h
          rw [List.isEmpty_iff.mp hlast, List.reverse_cons]
        · cases h
      · rename_i target hc
        cases of_mem_linkFree (at_linkFree here.reverse htop) (Dir.mem_of_child hc)

namespace FileSystem

/-- Whether no entry of the tree is a link. -/
def linkFree (fs : FileSystem) : Bool := entriesLinkFree fs.top

/-- Where the file is that a path leads to. -/
def location? (fs : FileSystem) (path : String) : Option (List String) :=
  match fs.find path with
  | .ok (.file location _) => some location
  | _ => none

/-! ## Finding by names -/

theorem walk_replicate (top : Dir) (links : Nat) (here : List String) (k : Nat)
    (more : List String) :
    walk top links here (List.replicate k "" ++ more) = walk top links here more := by
  induction k with
  | zero => rfl
  | succ k ih => rw [List.replicate_succ, List.cons_append, walk_empty_name, ih]

variable {fs : FileSystem} {p q : String}

/-- What is found at a path in normal form is found along its names, from the top. -/
theorem walk_of_find (hp : IsNormal p) {place : Place} (h : fs.find p = .ok place) :
    walk fs.top maxLinks [] (Path.names p) = .ok place := by
  obtain ⟨k, hk⟩ := Path.splitOn_ofParts hp.root fun n hn => (hp.proper n hn).name
  rw [hp.eq] at hk
  unfold find at h
  split at h
  · cases h
  · split at h
    · cases h
    · rwa [hp.isAbsolute, hk, if_pos rfl, walk_replicate] at h

theorem names_ne_nil (hp : IsNormal p) (h : fs.isFile p = true) : Path.names p ≠ [] := by
  intro hnil
  obtain ⟨location, bytes, hf⟩ := isFile_iff.mp h
  have hw := walk_of_find hp hf
  rw [hnil, walk] at hw
  cases hw

/-- No file is below another. -/
theorem not_below (hp : IsNormal p) (hq : IsNormal q) (hpf : fs.isFile p = true)
    (hqf : fs.isFile q = true) (n : String) : Path.names q ≠ Path.names p ++ [n] := by
  intro hnames
  obtain ⟨location, bytes, hf⟩ := isFile_iff.mp hpf
  obtain ⟨location', bytes', hf'⟩ := isFile_iff.mp hqf
  have hwalk := walk_of_find hp hf
  have hwalk' := walk_of_find hq hf'
  rw [hnames] at hwalk'
  obtain ⟨links, here, hgo⟩ | ⟨e, hstop⟩ := walk_append fs.top maxLinks [] (Path.names p)
  · have hstand := hgo []
    rw [List.append_nil, hwalk, walk] at hstand
    cases hstand
  · rw [hstop [n] (List.cons_ne_nil _ _)] at hwalk'
    cases hwalk'

theorem location?_eq (hfs : fs.linkFree = true) (hp : IsNormal p) (h : fs.isFile p = true) :
    fs.location? p = some (Path.names p) := by
  obtain ⟨location, bytes, hf⟩ := isFile_iff.mp h
  have hlocation := location_of_walk hfs hp.proper (walk_of_find hp hf)
  rw [location?, hf]
  exact congrArg some hlocation

end FileSystem

/-! ## Beneath a path in normal form -/

theorem isProper_of_visible {name : String} (hn : isName name = true)
    (hh : isHidden name = false) : IsProper name where
  name := hn
  stays := by
    rintro rfl
    exact absurd hh (by decide)
  rises := by
    rintro rfl
    exact absurd hh (by decide)

theorem isNormal_of_beneath {fs : FileSystem} {dir path : String} (h : Beneath fs dir path)
    (hdir : IsNormal dir) : IsNormal path ∧ Path.root path = Path.root dir := by
  induction h with
  | entry hn hh _ =>
    obtain ⟨hnormal, hroot, -⟩ := hdir.join (isProper_of_visible hn hh)
    exact ⟨hnormal, hroot⟩
  | inside hn hh _ _ ih =>
    obtain ⟨hnormal, hroot, -⟩ := hdir.join (isProper_of_visible hn hh)
    obtain ⟨hpath, hsame⟩ := ih hnormal
    exact ⟨hpath, hsame.trans hroot⟩

end Files

/-! ## Labels -/

namespace Project

open SecurityScan.Path (IsNormal names)

/-- The label of a file tells its names. -/
theorem displayPath_eq_iff (project : Project) {p q : String} (hp : IsNormal p) (hq : IsNormal q)
    (hpn : names p ≠ []) (hqn : names q ≠ []) (hpq : ∀ n, names q ≠ names p ++ [n])
    (hqp : ∀ n, names p ≠ names q ++ [n]) :
    project.displayPath p = project.displayPath q ↔ names p = names q := by
  simp only [displayPath, relativePath, hp.absolute, hq.absolute, beq_iff_eq]
  constructor
  · intro h
    -- A file at the project root itself is shown by its last name, as one right below it would be.
    split at h
    · rename_i hempty
      split at h
      · rename_i hempty'
        rw [Path.names_of_relative_empty hempty, Path.names_of_relative_empty hempty']
      · obtain ⟨n, hn⟩ := Path.names_of_relative_baseName hp hpn hempty h.symm
        exact absurd hn (hpq n)
    · split at h
      · rename_i hempty
        obtain ⟨n, hn⟩ := Path.names_of_relative_baseName hq hqn hempty h
        exact absurd hn (hqp n)
      · exact Path.relative_inj _ hp.not_mem hq.not_mem (congrArg names h)
  · intro h
    rw [Path.baseName_eq hp hpn, Path.baseName_eq hq hqn, Path.relative, Path.relative, h]

end Project

/-! ## Labels of a collection -/

namespace Collector

open Files (FileSystem)
open SecurityScan.Path (IsNormal names)

section
variable {c : Collector} {fs : FileSystem} (hcwd : Path.isAbsolute fs.cwd = true)
  (hfs : fs.wellNamed = true) {paths : List String} {p q : String}
include hcwd hfs

/-- What is collected is in normal form, with the root of the target that brought it. -/
theorem isNormal_of_mem_collection (hp : p ∈ c.collection fs paths) :
    IsNormal p ∧ ∃ t ∈ paths, Path.root p = Path.root (Path.absolute fs.cwd t) := by
  obtain ⟨t, ht, hselected, -⟩ := (mem_collection hfs).mp hp
  have htarget := Path.isNormal_absolute hcwd t
  obtain ⟨-, rfl⟩ | ⟨-, hbeneath⟩ := hselected
  · exact ⟨htarget, t, ht, rfl⟩
  · obtain ⟨hnormal, hroot⟩ := Files.isNormal_of_beneath hbeneath htarget
    exact ⟨hnormal, t, ht, hroot⟩

theorem displayPath_collection (hp : p ∈ c.collection fs paths) (hq : q ∈ c.collection fs paths) :
    c.project.displayPath p = c.project.displayPath q ↔ names p = names q := by
  have hpf := Files.isFile_of_hasFile (hasFile_of_mem_collection hp)
  have hqf := Files.isFile_of_hasFile (hasFile_of_mem_collection hq)
  obtain ⟨hpn, -⟩ := isNormal_of_mem_collection hcwd hfs hp
  obtain ⟨hqn, -⟩ := isNormal_of_mem_collection hcwd hfs hq
  exact c.project.displayPath_eq_iff hpn hqn (FileSystem.names_ne_nil hpn hpf)
    (FileSystem.names_ne_nil hqn hqf) (FileSystem.not_below hpn hqn hpf hqf)
    (FileSystem.not_below hqn hpn hqf hpf)

theorem location?_collection (hfree : fs.linkFree = true) (hp : p ∈ c.collection fs paths) :
    fs.location? p = some (names p) :=
  FileSystem.location?_eq hfree (isNormal_of_mem_collection hcwd hfs hp).1
    (Files.isFile_of_hasFile (hasFile_of_mem_collection hp))

end

/-- **Labels of collected files.** For targets in any spelling, two paths of a collection have the
same label only when one is the other, up to a slash more in front, and in a tree without links just
when they lead to the same file. Where the targets have one root no label comes twice. -/
theorem labels_of_collection (c : Collector) (fs : FileSystem) (paths : List String)
    (hcwd : Path.isAbsolute fs.cwd = true) (hfs : fs.wellNamed = true) :
    (∀ p ∈ c.collection fs paths, ∀ q ∈ c.collection fs paths,
      (c.project.displayPath p = c.project.displayPath q ↔ p = q ∨ p = "/" ++ q ∨ q = "/" ++ p) ∧
      (fs.linkFree = true → (c.project.displayPath p = c.project.displayPath q ↔
        fs.location? p = fs.location? q))) ∧
    ∀ r, (∀ t ∈ paths, Path.root (Path.absolute fs.cwd t) = r) →
      ((c.collection fs paths).map c.project.displayPath).Nodup := by
  refine ⟨fun p hp q hq => ⟨?_, fun hfree => ?_⟩, fun r hr => ?_⟩
  · rw [displayPath_collection hcwd hfs hp hq]
    exact Path.names_eq_iff (isNormal_of_mem_collection hcwd hfs hp).1
      (isNormal_of_mem_collection hcwd hfs hq).1
  · rw [displayPath_collection hcwd hfs hp hq, location?_collection hcwd hfs hfree hp,
      location?_collection hcwd hfs hfree hq, Option.some.injEq]
  · have hroot : ∀ p ∈ c.collection fs paths, Path.root p = r := fun p hp => by
      obtain ⟨-, t, ht, hsame⟩ := isNormal_of_mem_collection hcwd hfs hp
      rw [hsame, hr t ht]
    refine List.Nodup.map_on (fun p hp q hq hlabel => ?_)
      ((pairwise_collection paths).imp fun hlt heq => ?_)
    · have hpn := (isNormal_of_mem_collection hcwd hfs hp).1
      have hqn := (isNormal_of_mem_collection hcwd hfs hq).1
      rw [displayPath_collection hcwd hfs hp hq] at hlabel
      rw [← hpn.eq, ← hqn.eq, hroot p hp, hroot q hq, hlabel]
    · exact absurd hlt (heq ▸ Std.lt_irrefl)

/-- A tree without links. -/
def plainTree : FileSystem where
  top := [("work", .dir [("a.py", .file []), ("lib", .dir [("b.py", .file [])])])]
  cwd := "/work"

theorem hasFile_plainTree : ∀ p ∈ ["/work/a.py", "//work/a.py", "/work/lib/b.py"],
    plainTree.hasFile p = true := by
  have ha : Text.splitOn '/' "/work/a.py" = ["", "work", "a.py"] := by decide
  have hslash : Text.splitOn '/' "//work/a.py" = ["", "", "work", "a.py"] := by decide
  have hb : Text.splitOn '/' "/work/lib/b.py" = ["", "work", "lib", "b.py"] := by decide
  simp +decide [FileSystem.hasFile, FileSystem.isFile, FileSystem.find, ha, hslash, hb,
    Files.walk, plainTree, Files.Dir.at, Files.Dir.child?, List.lookup_cons]

theorem mem_collection_plainTree {paths : List String} {t p : String} (ht : t ∈ paths)
    (hp : Path.absolute plainTree.cwd t = p)
    (hfile : p ∈ ["/work/a.py", "//work/a.py", "/work/lib/b.py"]) :
    p ∈ pythonFiles.collection plainTree paths := by
  have hsuffix : ∀ p ∈ ["/work/a.py", "//work/a.py", "/work/lib/b.py"], ".py" = Path.suffix p := by
    decide
  refine (mem_collection (by decide)).mpr ⟨t, ht, ?_⟩
  rw [hp]
  exact ⟨Or.inl ⟨hasFile_plainTree p hfile, rfl⟩,
    ⟨".py", List.mem_singleton_self _, Path.isSuffix_iff.mpr (hsuffix p hfile)⟩, rfl⟩

theorem labels_of_collection_plainTree :
    let paths := ["a.py", "./lib/../lib//b.py", "."]
    Path.isAbsolute plainTree.cwd = true ∧ plainTree.wellNamed = true ∧ plainTree.linkFree = true ∧
    "/work/a.py" ∈ pythonFiles.collection plainTree paths ∧
    "/work/lib/b.py" ∈ pythonFiles.collection plainTree paths ∧
    plainTree.location? "/work/a.py" ≠ plainTree.location? "/work/lib/b.py" ∧
    ((pythonFiles.collection plainTree paths).map pythonFiles.project.displayPath).Nodup := by
  intro paths
  have hcwd : Path.isAbsolute plainTree.cwd = true := by decide
  have hfs : plainTree.wellNamed = true := by decide
  have hfree : plainTree.linkFree = true := by decide
  have hp : "/work/a.py" ∈ pythonFiles.collection plainTree paths :=
    mem_collection_plainTree (t := "a.py") (by decide) (by decide) (by decide)
  have hq : "/work/lib/b.py" ∈ pythonFiles.collection plainTree paths :=
    mem_collection_plainTree (t := "./lib/../lib//b.py") (by decide) (by decide) (by decide)
  obtain ⟨hpairs, hnodup⟩ := labels_of_collection pythonFiles plainTree paths hcwd hfs
  obtain ⟨hsame, hplace⟩ := hpairs _ hp _ hq
  refine ⟨hcwd, hfs, hfree, hp, hq, fun heq => ?_, hnodup "/" (by decide)⟩
  exact absurd (hsame.mp ((hplace hfree).mpr heq)) (by decide)

/-- A slash more in front makes another path of the same file, with the same label. -/
theorem displayPath_double_slash :
    let paths := ["/work/a.py", "//work/a.py"]
    plainTree.linkFree = true ∧
    "/work/a.py" ∈ pythonFiles.collection plainTree paths ∧
    "//work/a.py" ∈ pythonFiles.collection plainTree paths ∧ "/work/a.py" ≠ "//work/a.py" ∧
    pythonFiles.project.displayPath "/work/a.py" =
      pythonFiles.project.displayPath "//work/a.py" := by
  intro paths
  have hp : "/work/a.py" ∈ pythonFiles.collection plainTree paths :=
    mem_collection_plainTree (t := "/work/a.py") (by decide) (by decide) (by decide)
  have hq : "//work/a.py" ∈ pythonFiles.collection plainTree paths :=
    mem_collection_plainTree (t := "//work/a.py") (by decide) (by decide) (by decide)
  have hlabel := displayPath_collection (by decide) (by decide) hp hq
  exact ⟨by decide, hp, hq, by decide, hlabel.mpr (by decide)⟩

end Collector

end SecurityScan
