import SecurityScan.Proofs.Files
import SecurityScan.Proofs.Utf8
import SecurityScan.Proofs.Validation

/-!
# What becomes of a configuration file

A file that is missing, is no text, breaks the rules of YAML or describes no mapping gives no
settings, and a note tells it unless nothing was there to be read. What keeps the rules may still
stop the scan: a scalar in it makes no value, or its parts nest too deep.
-/

namespace SecurityScan.Settings

/-! ## The text of a file -/

theorem flatten_blocks {size : Nat} (hsize : 0 < size) {fuel : Nat} {bs : Text.Utf8.Bytes}
    (hfuel : bs.length ≤ fuel) : (blocks size fuel bs).flatten = bs := by
  induction fuel generalizing bs with
  | zero =>
    obtain rfl : bs = [] := List.length_eq_zero_iff.mp (Nat.le_zero.mp hfuel)
    rfl
  | succ fuel ih =>
    rw [blocks]
    split
    · rename_i hempty
      rw [List.isEmpty_iff.mp hempty, List.flatten_nil]
    · have hdrop : (bs.drop size).length ≤ fuel := by
        rw [List.length_drop]
        omega
      rw [List.flatten_cons, ih hdrop, List.take_append_drop]

/-- In blocks bytes stand for what they stand for at once. -/
theorem toOption_decodeBlocks (pending : Text.Utf8.Bytes) (bs : List Text.Utf8.Bytes) :
    (decodeBlocks pending bs).toOption = Text.Utf8.text? (pending ++ bs.flatten) := by
  induction bs generalizing pending with
  | nil => rw [decodeBlocks, List.flatten_nil, List.append_nil, Text.Utf8.text?]
  | cons b bs ih =>
    rw [decodeBlocks, List.flatten_cons, ← List.append_assoc]
    generalize pending ++ b = bytes
    cases Text.Utf8.reading bytes with
    | whole cs h =>
      rw [h.decodeFrom]
      dsimp only
      rw [Text.Utf8.toOption_bind, ih, List.nil_append, h.text?_append]
    | early cs k n a h hbefore =>
      -- the bytes before place `k` are done with, those after it wait for the next block
      have hbytes : bytes ++ bs.flatten = bytes.take k ++ (bytes.drop k ++ bs.flatten) := by
        rw [← List.append_assoc, List.take_append_drop]
      rw [h]
      dsimp only
      rw [if_pos rfl, Nat.zero_add, hbefore.decodeFrom]
      dsimp only
      rw [Text.Utf8.toOption_bind, ih, hbytes, hbefore.text?_append]
    | wrong k n a r hr h =>
      have hbytes := h 0 []
      rw [List.append_nil] at hbytes
      rw [hbytes, Text.Utf8.text?, h]
      dsimp only
      rw [if_neg hr]

/-- A path leads to a file with these bytes. -/
def Holds (fs : Files.FileSystem) (path : String) (bytes : Text.Utf8.Bytes) : Prop :=
  Files.pathFault? path = none ∧ ∃ location, fs.find path = .ok (.file location bytes)

/-- A path leads to a file with this text in UTF-8, whose lines may end in any of the usual ways. -/
def HoldsText (fs : Files.FileSystem) (path text : String) : Prop :=
  ∃ bytes cs, Holds fs path bytes ∧ Text.Utf8.text? bytes = some cs ∧
    text = String.ofList (Text.newlinesUnified cs)

section
variable {fs : Files.FileSystem} {path : String}

theorem Holds.place? {bytes : Text.Utf8.Bytes} (h : Holds fs path bytes) :
    ∃ location, fs.place? path = .ok (some (.file location bytes)) := by
  obtain ⟨hpath, location, hfind⟩ := h
  refine ⟨location, ?_⟩
  rw [Files.FileSystem.place?, hpath, hfind]
  rfl

/-- The bytes of a file are its text, or they are none and the fault tells where. -/
theorem fileText_of_holds {bytes : Text.Utf8.Bytes} (h : Holds fs path bytes) :
    (∃ text, HoldsText fs path text ∧ fileText fs path = .ok text) ∨
      Text.Utf8.text? bytes = none ∧ ∃ e, fileText fs path = .error (.undecodable e) := by
  obtain ⟨-, location, hfind⟩ := id h
  have hblocks := toOption_decodeBlocks [] (blocks 8192 (bytes.length + 1) bytes)
  rw [flatten_blocks (by decide) (Nat.le_succ _), List.nil_append] at hblocks
  rw [fileText, Files.FileSystem.read, hfind]
  dsimp only
  cases hdecode : decodeBlocks [] (blocks 8192 (bytes.length + 1) bytes) with
  | error e =>
    rw [hdecode] at hblocks
    exact .inr ⟨hblocks.symm, e, rfl⟩
  | ok cs =>
    rw [hdecode] at hblocks
    exact .inl ⟨_, ⟨bytes, cs, h, hblocks.symm, rfl⟩, rfl⟩

theorem HoldsText.place? {text : String} (h : HoldsText fs path text) :
    ∃ location bytes, fs.place? path = .ok (some (.file location bytes)) := by
  obtain ⟨bytes, cs, hholds, -⟩ := h
  obtain ⟨location, hplace⟩ := hholds.place?
  exact ⟨location, bytes, hplace⟩

theorem HoldsText.fileText {text : String} (h : HoldsText fs path text) :
    fileText fs path = .ok text := by
  obtain ⟨bytes, cs, hholds, hcs, rfl⟩ := h
  rcases fileText_of_holds hholds with ⟨_, ⟨_, ds, hother, hds, rfl⟩, htext⟩ | ⟨hnone, -⟩
  · obtain ⟨-, _, hfind⟩ := hholds
    obtain ⟨-, _, hother⟩ := hother
    rw [hfind] at hother
    cases hother
    rw [hcs] at hds
    cases hds
    exact htext
  · rw [hcs] at hnone
    cases hnone

end

/-! ## What comes of a file -/

/-- What the configuration file at a path comes to when it stops nothing. -/
inductive Loads (fs : Files.FileSystem) (path : String) : Noted (Except Fault Settings) → Prop
  | missing (h : fs.hasFile path = false) : Loads fs path ⟨.ok [], []⟩
  | undecodable {bytes : Text.Utf8.Bytes} {e : Text.Utf8.Error} (h : Holds fs path bytes)
      (hbytes : Text.Utf8.text? bytes = none) (he : fileText fs path = .error (.undecodable e)) :
      Loads fs path
        ⟨.ok [], [⟨.warning, "Could not read config file " ++ path ++ ": " ++ e.message⟩]⟩
  | malformed {text : String} (h : HoldsText fs path text)
      (hread : Yaml.read text = .error .malformed) :
      Loads fs path
        ⟨.ok [], [⟨.warning, "Error parsing config file " ++ path ++ ": " ++ Note.omitted "yaml"⟩]⟩
  | mapping {text : String} {v : Value} {nested : Entries} (h : HoldsText fs path text)
      (hread : Yaml.read text = .ok v) (hnested : v.entries? = some nested) :
      Loads fs path ⟨.ok (ofSections nested), []⟩
  /-- A document that is null, false, zero or empty stands for no settings. -/
  | nothing {text : String} {v : Value} (h : HoldsText fs path text)
      (hread : Yaml.read text = .ok v) (hnested : v.entries? = none) (hv : v.holds = false) :
      Loads fs path ⟨.ok [], []⟩
  | other {text : String} {v : Value} (h : HoldsText fs path text)
      (hread : Yaml.read text = .ok v) (hnested : v.entries? = none) (hv : v.holds = true) :
      Loads fs path
        ⟨.ok [], [⟨.warning, "Config file " ++ path ++ " must contain a mapping; ignoring it"⟩]⟩

/-- The faults that the configuration file at a path stops a scan with. -/
inductive Breaks (fs : Files.FileSystem) (path : String) : Fault → Prop
  | nameTooLong (hpath : Files.pathFault? path = none) (h : fs.find path = .error .nameTooLong) :
      Breaks fs path (.file ⟨.nameTooLong, path⟩)
  | document {text : String} {f : Fault} (h : HoldsText fs path text)
      (hread : Yaml.read text = .error (.fault f)) : Breaks fs path f

section
variable {fs : Files.FileSystem} {path : String}

end

section
variable (fs : Files.FileSystem) (path : String)

end

section
variable {fs : Files.FileSystem} {path : String}

theorem Loads.value {result : Noted (Except Fault Settings)} (h : Loads fs path result) :
    ∃ s, result.value = .ok s := by
  cases h <;> exact ⟨_, rfl⟩

end

end SecurityScan.Settings
