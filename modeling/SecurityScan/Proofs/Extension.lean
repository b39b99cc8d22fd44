import SecurityScan.Proofs.Collect
import SecurityScan.Proofs.Usable

/-!
# Which extensions bring files

An accepted extension is any text that starts with a dot, and a file is chosen by what follows the
last dot of its name. The two agree where an extension has one dot and something behind it. Of any
other extension only the part from its last dot on counts, and it counts only if it is listed too.
-/

namespace SecurityScan

open Files (FileSystem Beneath)

/-! ## The last dot -/

namespace Path

theorem LastDot.append {e front x : String} (h : LastDot e front x) (stem : String) :
    LastDot (stem ++ e) (stem ++ front) x := by
  obtain ⟨rfl, hx⟩ := h
  exact ⟨by simp [String.append_assoc], hx⟩

theorem lastDot_dot {x : String} (h : '.' ∉ x.toList) : LastDot ("." ++ x) "" x :=
  ⟨by simp, h⟩

theorem exists_lastDot_of_startsWith {e : String} (h : Text.startsWith e "." = true) :
    ∃ front x, LastDot e front x := by
  obtain ⟨rest, hrest⟩ := List.isPrefixOf_iff_prefix.mp h
  refine exists_lastDot ?_
  rw [← hrest]
  exact List.mem_append_left _ (List.mem_singleton_self _)

/-- The suffix of a file whose name is a stem and a text with a dot. -/
theorem suffix_of_stem {p stem e front x : String} (hname : name p = stem ++ e)
    (hstem : stem ≠ "") (h : LastDot e front x) :
    suffix p = if x = "" then "" else "." ++ x := by
  have hdot : LastDot (name p) (stem ++ front) x := hname ▸ h.append stem
  have hfront : stem ++ front ≠ "" := by simp [hstem]
  rw [suffix_of_lastDot hdot]
  by_cases hx : x = "" <;> simp [hx, hfront]

end Path

/-! ## The extensions of accepted settings -/

namespace Settings

/-- Where the checks find no error, the extensions are texts that start with a dot. -/
theorem extensions_of_issues {s : Settings} {is : List Issue} (h : s.issues = .ok is)
    (hnone : ∀ i ∈ is, i.isError = false) : ∃ names,
      textMembers? (s.value "source_extensions") = some names ∧ names ≠ [] ∧
        ∀ name ∈ names, Text.startsWith name "." = true := by
  obtain ⟨found, -, h⟩ := exists_of_bind h
  refine extensionIssues_free.mp fun i hi => hnone i ?_
  dsimp only at h
  split at h
  · obtain rfl := Except.ok.inj h
    simp [hi]
  · cases h

/-- The extensions of a configuration are those of its settings. -/
theorem exists_names {s : Settings} {is : List Issue} (h : s.issues = .ok is)
    (hnone : ∀ i ∈ is, i.isError = false) {config : Config} (hf : s.Frozen config) :
    ∃ names : List String, config.sourceExtensions = names.map .str ∧
      ∀ name ∈ names, Text.startsWith name "." = true := by
  obtain ⟨names, hnames, -, hall⟩ := extensions_of_issues h hnone
  exact ⟨names, Config.sourceExtensions_eq hf hnames, hall⟩

/-- The usual settings but for their extensions. -/
def withExtensions (names : List String) : Settings :=
  usual.merge [(.str "source_extensions", .list (names.map .str))]

theorem value_withExtensions (names : List String) (key : String) :
    (withExtensions names).value key =
      if "source_extensions" = key then .list (names.map .str) else usual.value key :=
  value_merge_single usual "source_extensions" rfl key

theorem textMembers?_names (names : List String) :
    textMembers? (.list (names.map .str)) = some names := by
  show (names.map Value.str).mapM Value.str? = some names
  induction names with
  | nil => rfl
  | cons name names ih =>
    rw [List.map_cons, List.mapM_cons, ih]
    rfl

section
variable (names : List String)

theorem value_withExtensions_of_ne : ∀ key ∈ usualKeys, key ≠ "source_extensions" →
    (withExtensions names).value key = usual.value key := by
  intro key _ hkey
  rw [value_withExtensions, if_neg hkey.symm]

theorem accepted_withExtensions (hne : names ≠ [])
    (hdots : ∀ name ∈ names, Text.startsWith name "." = true) :
    (withExtensions names).Accepted := by
  refine accepted_usual.of_same (value_withExtensions_of_ne names) ?_
  rw [value_withExtensions, if_pos rfl]
  exact { extensions := fun _ => ⟨names, textMembers?_names names, hne, hdots⟩ }

theorem freezable_withExtensions : (withExtensions names).Freezable := by
  refine freezable_usual.of_same (value_withExtensions_of_ne names) (by decide) ?_
  rw [value_withExtensions, if_neg (by decide)]
  exact freezable_usual.timeout

/-- Any texts that start with a dot may be the extensions of a configuration. -/
theorem exists_withExtensions (hne : names ≠ [])
    (hdots : ∀ name ∈ names, Text.startsWith name "." = true) :
    ∃ is config, (withExtensions names).issues = .ok is ∧ (∀ i ∈ is, i.isError = false) ∧
      (withExtensions names).Frozen config ∧ config.sourceExtensions = names.map .str := by
  have hcomplete : (withExtensions names).Complete := complete_usual.merge _
  have haccepted := accepted_withExtensions names hne hdots
  obtain ⟨is, his, hnone⟩ := (issues_free_iff hcomplete).mpr haccepted
  obtain ⟨config, hconfig⟩ := (returns_ofSettings hcomplete haccepted.wellTyped).mpr
    (freezable_withExtensions names)
  have hf := frozen_ofSettings hcomplete hconfig
  have hnames : textMembers? ((withExtensions names).value "source_extensions") = some names := by
    rw [value_withExtensions, if_pos rfl, textMembers?_names]
  exact ⟨is, config, his, hnone, hf, Config.sourceExtensions_eq hf hnames⟩

end

end Settings

/-! ## Collecting -/

namespace Collector

section
variable {c : Collector} {fs : FileSystem} {paths : List String} {t p : String}

/-- A file beneath a directory among the targets comes into the collection by its suffix. -/
theorem mem_collection_iff_suffix (hfs : fs.wellNamed = true) (ht : t ∈ paths)
    (hdir : fs.hasDir (Path.absolute fs.cwd t) = true) (hp : Beneath fs (Path.absolute fs.cwd t) p)
    (hkept : c.project.excludes c.rules c.force p = false) :
    p ∈ c.collection fs paths ↔ .str (Path.suffix p) ∈ c.extensions := by
  rw [mem_collection hfs]
  constructor
  · rintro ⟨-, -, -, ⟨e, he, hsuffix⟩, -⟩
    rwa [← Path.isSuffix_iff.mp hsuffix]
  · exact fun h => ⟨t, ht, .inr ⟨hdir, hp⟩, ⟨_, h, Path.isSuffix_iff.mpr rfl⟩, hkept⟩

end

/-- **Which accepted extensions bring files.** Below a directory that is a target, a file that no rule
leaves out and whose name is a stem and an accepted extension is collected if and only if the
extension has something behind its last dot, and its part from there on is an extension too. So every
extension of one dot and something behind it brings its files. -/
theorem collected_by_extension {s : Settings} {is : List Issue} (his : s.issues = .ok is)
    (hnone : ∀ i ∈ is, i.isError = false) {config : Config} (hf : s.Frozen config) {c : Collector}
    (hc : c.extensions = config.sourceExtensions) {fs : FileSystem} (hfs : fs.wellNamed = true)
    {paths : List String} {t p stem e : String} (ht : t ∈ paths)
    (hdir : fs.hasDir (Path.absolute fs.cwd t) = true) (hp : Beneath fs (Path.absolute fs.cwd t) p)
    (hkept : c.project.excludes c.rules c.force p = false) (he : .str e ∈ config.sourceExtensions)
    (hname : Path.name p = stem ++ e) (hstem : stem ≠ "") :
    (p ∈ c.collection fs paths ↔ ∃ front x, Path.LastDot e front x ∧ x ≠ "" ∧
      .str ("." ++ x) ∈ config.sourceExtensions) ∧
    ∀ x, e = "." ++ x → x ≠ "" → '.' ∉ x.toList → p ∈ c.collection fs paths := by
  obtain ⟨names, hnames, hdots⟩ := Settings.exists_names his hnone hf
  have hdot : ∀ e, .str e ∈ config.sourceExtensions → Text.startsWith e "." = true := by
    intro e he
    rw [hnames] at he
    obtain ⟨name, hmem, hstr⟩ := List.mem_map.mp he
    exact Value.str.inj hstr ▸ hdots name hmem
  have hcollected : ∀ front x, Path.LastDot e front x →
      (p ∈ c.collection fs paths ↔ x ≠ "" ∧ .str ("." ++ x) ∈ config.sourceExtensions) := by
    intro front x hlast
    rw [mem_collection_iff_suffix hfs ht hdir hp hkept, hc, Path.suffix_of_stem hname hstem hlast]
    by_cases hx : x = ""
    · -- the empty text starts with no dot, so that it is no extension
      rw [if_pos hx]
      exact iff_of_false (fun hempty => nomatch hdot "" hempty) fun h => h.1 hx
    · rw [if_neg hx]
      exact (and_iff_right hx).symm
  refine ⟨⟨fun h => ?_, ?_⟩, ?_⟩
  · obtain ⟨front, x, hlast⟩ := Path.exists_lastDot_of_startsWith (hdot e he)
    exact ⟨front, x, hlast, (hcollected front x hlast).mp h⟩
  · rintro ⟨front, x, hlast, hx⟩
    exact (hcollected front x hlast).mpr hx
  · rintro x rfl hx hdotless
    exact (hcollected "" x (Path.lastDot_dot hdotless)).mpr ⟨hx, he⟩

/-! ### An extension of two dots -/

/-- A directory with two files. -/
def pages : FileSystem where
  top := [("work", .dir [("a.rb", .file []), ("a.html.erb", .file [])])]
  cwd := "/work"

/-- Takes all files with one of the extensions. -/
def choosing (extensions : List Value) : Collector := ⟨⟨"/work", none⟩, extensions, [], false⟩

theorem absolute_pages : Path.absolute pages.cwd "." = "/work" := by decide

theorem hasDir_pages : pages.hasDir "/work" = true := by
  have hn : Text.splitOn '/' "/work" = ["", "work"] := by decide
  have hp : (Files.pathFault? "/work").isNone = true := by decide
  simp +decide [FileSystem.hasDir, hp, FileSystem.isDir, FileSystem.find, hn, Files.walk, pages,
    Files.Dir.at, Files.Dir.child?]

theorem beneath_pages : Beneath pages "/work" "/work/a.rb" ∧
    Beneath pages "/work" "/work/a.html.erb" := by
  have hrb : pages.hasFile "/work/a.rb" = true := by
    have hn : Text.splitOn '/' "/work/a.rb" = ["", "work", "a.rb"] := by decide
    have hp : (Files.pathFault? "/work/a.rb").isNone = true := by decide
    simp +decide [FileSystem.hasFile, hp, FileSystem.isFile, FileSystem.find, hn, Files.walk,
      pages, Files.Dir.at, Files.Dir.child?]
  have hpage : pages.hasFile "/work/a.html.erb" = true := by
    have hn : Text.splitOn '/' "/work/a.html.erb" = ["", "work", "a.html.erb"] := by decide
    have hp : (Files.pathFault? "/work/a.html.erb").isNone = true := by decide
    simp +decide [FileSystem.hasFile, hp, FileSystem.isFile, FileSystem.find, hn, Files.walk,
      pages, Files.Dir.at, Files.Dir.child?, List.lookup_cons]
  exact ⟨@Beneath.entry pages "/work" "a.rb" (by decide) (by decide) hrb,
    @Beneath.entry pages "/work" "a.html.erb" (by decide) (by decide) hpage⟩

/-- Files of an extension of one dot are collected. -/
theorem collected_by_extension_rb : ∃ is config,
    (Settings.withExtensions [".rb"]).issues = .ok is ∧ (∀ i ∈ is, i.isError = false) ∧
    (Settings.withExtensions [".rb"]).Frozen config ∧ .str ".rb" ∈ config.sourceExtensions ∧
    Beneath pages (Path.absolute pages.cwd ".") "/work/a.rb" ∧
    Path.name "/work/a.rb" = "a" ++ ".rb" ∧
    "/work/a.rb" ∈ (choosing config.sourceExtensions).collection pages ["."] := by
  obtain ⟨is, config, his, hnone, hf, hextensions⟩ :=
    Settings.exists_withExtensions [".rb"] (by decide) (by decide)
  have he : .str ".rb" ∈ config.sourceExtensions := by
    rw [hextensions]
    exact List.mem_singleton_self _
  have hbeneath : Beneath pages (Path.absolute pages.cwd ".") "/work/a.rb" :=
    absolute_pages ▸ beneath_pages.1
  have hname : Path.name "/work/a.rb" = "a" ++ ".rb" := by decide
  refine ⟨is, config, his, hnone, hf, he, hbeneath, hname, ?_⟩
  exact (collected_by_extension his hnone hf rfl (by decide) (List.mem_singleton_self ".")
    (absolute_pages ▸ hasDir_pages) hbeneath rfl he hname (by decide)).2 "rb" rfl (by decide)
    (by decide)

/-- An extension of two dots is accepted, and a file of that name is not collected for it. -/
theorem extension_of_two_dots_collects_nothing : ∃ is config,
    (Settings.withExtensions [".html.erb"]).issues = .ok is ∧ (∀ i ∈ is, i.isError = false) ∧
    (Settings.withExtensions [".html.erb"]).Frozen config ∧
    .str ".html.erb" ∈ config.sourceExtensions ∧
    pages.hasDir (Path.absolute pages.cwd ".") = true ∧
    Beneath pages (Path.absolute pages.cwd ".") "/work/a.html.erb" ∧
    Path.name "/work/a.html.erb" = "a" ++ ".html.erb" ∧
    (choosing config.sourceExtensions).project.excludes [] false "/work/a.html.erb" = false ∧
    "/work/a.html.erb" ∉ (choosing config.sourceExtensions).collection pages ["."] := by
  obtain ⟨is, config, his, hnone, hf, hextensions⟩ :=
    Settings.exists_withExtensions [".html.erb"] (by decide) (by decide)
  have he : .str ".html.erb" ∈ config.sourceExtensions := by
    rw [hextensions]
    exact List.mem_singleton_self _
  have hdir : pages.hasDir (Path.absolute pages.cwd ".") = true := absolute_pages ▸ hasDir_pages
  have hbeneath : Beneath pages (Path.absolute pages.cwd ".") "/work/a.html.erb" :=
    absolute_pages ▸ beneath_pages.2
  have hsuffix : Path.suffix "/work/a.html.erb" = ".erb" := by decide
  refine ⟨is, config, his, hnone, hf, he, hdir, hbeneath, by decide, rfl, fun hmem => ?_⟩
  rw [mem_collection_iff_suffix (by decide) (List.mem_singleton_self ".") hdir hbeneath rfl,
    hsuffix, choosing, hextensions] at hmem
  exact absurd hmem (by simp)

end Collector

end SecurityScan
