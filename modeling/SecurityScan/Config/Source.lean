import SecurityScan.Config.Basic
import SecurityScan.Text.Split
import SecurityScan.Yaml.Reader

/-!
# Where settings come from

The sections of a configuration file, the variables of the environment and the arguments of the
command line, each as a layer of settings.
-/

namespace SecurityScan

open Text (splitOn strip quoted)

namespace Settings

/-! ## Sections -/

/-- A value put under a key unless it is null. -/
def putValue (s : Settings) (key : String) (v : Value) : Settings :=
  if v.isNull then s else s.setField key v

/-- The fields of a section; none when it is no map. -/
def section? (nested : Entries) (name : String) : Option Entries :=
  (nested.field? name).bind Value.entries?

/-- Values of a section put under keys of their own. -/
def putFrom (s : Settings) (fields : Option Entries) (keys : List (String × String)) : Settings :=
  match fields with
  | none => s
  | some es => keys.foldl (fun s k => s.putValue k.2 (value es k.1)) s

/-- The fields of section `ai` keep their names, the provider's excepted. -/
def putBackend (s : Settings) (fields : Entries) : Settings :=
  fields.foldl (fun s e =>
    if e.2.isNull then s
    else s.insert (if e.1.same (.str "provider") then .str "ai_provider" else e.1) e.2) s

/-- The settings that the sections of a configuration file hold. -/
def ofSections (nested : Entries) : Settings :=
  let s : Settings := putBackend [] ((section? nested "ai").getD [])
  let s := s.putFrom (some nested) (["checks", "language", "prompt_templates", "chunk_size",
    "model"].map fun k => (k, k))
  let s := s.putFrom (section? nested "report")
    [("output_path", "report_output_path"), ("html_template", "html_template")]
  let analyzers := section? nested "static_analysers"
  let tool (name : String) := analyzers.bind fun es => section? es name
  let s := s.putFrom (tool "brakeman") [("options", "brakeman_options")]
  let s := s.putFrom (tool "bundler_audit") [("options", "bundler_audit_options")]
  let s := s.putFrom analyzers [("timeout", "tool_timeout")]
  let s := s.putFrom (section? nested "ci_setup")
    (["github_actions_path", "gitlab_ci_path"].map fun k => (k, k))
  s.putFrom (section? nested "files") (["source_extensions", "ignore_file"].map fun k => (k, k))

/-! ## The configuration file -/

/-- Bytes as they come in from a file, `size` at a time. -/
def blocks (size : Nat) : Nat → Text.Utf8.Bytes → List Text.Utf8.Bytes
  | 0, _ => []
  | fuel + 1, bs => if bs.isEmpty then [] else bs.take size :: blocks size fuel (bs.drop size)

/-- The characters of blocks, `pending` being the start of one that the last block cut off. The
place of a fault counts from the block in which it is found. -/
def decodeBlocks (pending : Text.Utf8.Bytes) :
    List Text.Utf8.Bytes → Except Text.Utf8.Error (List Char)
  | [] => Text.Utf8.decodeFrom 0 pending
  | b :: bs =>
    let bytes := pending ++ b
    match Text.Utf8.decodeFrom 0 bytes with
    | .ok cs => do return cs ++ (← decodeBlocks [] bs)
    | .error e =>
      if e.reason = .endsEarly then
        match Text.Utf8.decodeFrom 0 (bytes.take e.start) with
        | .ok cs => do return cs ++ (← decodeBlocks (bytes.drop e.start) bs)
        | .error e => .error e
      else .error e

/-- The text of a configuration file. -/
def fileText (fs : Files.FileSystem) (path : String) : Except Fault String :=
  match fs.read path with
  | .error f => .error (.file f)
  | .ok bytes =>
    match decodeBlocks [] (blocks 8192 (bytes.length + 1) bytes) with
    | .error e => .error (.undecodable e)
    | .ok cs => .ok (String.ofList (Text.newlinesUnified cs))

/-- The settings of a configuration file: none when it is missing, and none after a note when it
cannot be read or is not a mapping. -/
def ofFile (fs : Files.FileSystem) (path : String) : Attempt Settings := do
  let shown := Path.tidy path
  let some (.file ..) ← Attempt.ofExcept (fs.place? shown) | return []
  match fileText fs shown with
  | .error f =>
    Attempt.note .warning ("Could not read config file " ++ shown ++ ": " ++ f.message)
    return []
  | .ok text =>
    match Yaml.read text with
    | .error .malformed =>
      Attempt.note .warning
        ("Error parsing config file " ++ shown ++ ": " ++ Note.omitted "yaml")
      return []
    | .error (.fault f) => throw f
    | .ok v =>
      if !v.holds then return ofSections []
      else
        match v.entries? with
        | some nested => return ofSections nested
        | none =>
          Attempt.note .warning
            ("Config file " ++ shown ++ " must contain a mapping; ignoring it")
          return []

/-! ## The environment -/

/-- What a variable's text is read as. -/
inductive Form
  | text
  | whole
  | number
  | list
deriving DecidableEq

def Form.name : Form → String
  | .text => "str"
  | .whole => "int"
  | .number => "float"
  | .list => "list"

def Form.read (raw : String) : Form → Except Fault Value
  | .text => .ok (.str raw)
  | .whole => (Fault.wholeOf raw).map .int
  | .number => (Fault.doubleOf raw).map .float
  | .list => .ok (.list (((splitOn ',' raw).map strip |>.filter (· != "")).map .str))

/-- A setting that variables can give, the first of them that is there. -/
structure Variable where
  names : List String
  key : String
  form : Form

/-- Every variable that is read. -/
def readable : List Variable := [
  ⟨["CODEWARD_AI_PROVIDER", "AI_PROVIDER"], "ai_provider", .text⟩,
  ⟨["CODEWARD_MODEL"], "model", .text⟩,
  ⟨["ANTHROPIC_API_KEY"], "anthropic_api_key", .text⟩,
  ⟨["OPENAI_API_KEY"], "openai_api_key", .text⟩,
  ⟨["OLLAMA_ENDPOINT"], "ollama_endpoint", .text⟩,
  ⟨["CODEWARD_MAX_TOKENS"], "max_tokens", .whole⟩,
  ⟨["CODEWARD_REQUEST_TIMEOUT"], "request_timeout", .number⟩,
  ⟨["CODEWARD_CHECKS"], "checks", .list⟩,
  ⟨["CODEWARD_LANGUAGE"], "language", .text⟩,
  ⟨["CODEWARD_CHUNK_SIZE"], "chunk_size", .whole⟩,
  ⟨["CODEWARD_IGNORE_FILE"], "ignore_file", .text⟩,
  ⟨["CODEWARD_REPORT_PATH"], "report_output_path", .text⟩]

/-- The variables that are set, each with its text. -/
abbrev Environment := List (String × String)

/-- The first of `names` that is set. -/
def firstSet (env : Environment) (names : List String) : Option (String × String) :=
  names.findSome? fun n => (env.lookup n).map (n, ·)

def noteBadVariable (name raw : String) (form : Form) (f : Fault) : Noted Unit :=
  note .warning ("Ignoring env var " ++ name ++ ": could not convert " ++ quoted raw ++ " to " ++
    form.name ++ " (" ++ f.message ++ ")")

def putVariable (env : Environment) (s : Settings) (v : Variable) : Noted Settings :=
  match firstSet env v.names with
  | none => pure s
  | some (name, raw) =>
    match v.form.read raw with
    | .ok value => pure (s.setField v.key value)
    | .error f => do
      noteBadVariable name raw v.form f
      return s

/-- The settings that variables give; one that cannot be read is noted and left out. -/
def ofEnvironment (env : Environment) : Noted Settings := readable.foldlM (putVariable env) []

/-! ## The command line -/

/-- Arguments that give a setting, each with its key. -/
def argumentKeys : List (String × String) := [("provider", "ai_provider"), ("model", "model"),
  ("chunk_size", "chunk_size"), ("language", "language"), ("output_path", "report_output_path")]

/-- The settings that arguments give. -/
def ofArguments (arguments : Entries) : Settings := putFrom [] (some arguments) argumentKeys

end Settings

end SecurityScan
