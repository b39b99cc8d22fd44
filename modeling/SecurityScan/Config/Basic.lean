import SecurityScan.Prompt.Risk
import SecurityScan.Value.Access

/-!
# Configurations

Settings are values by key, as their sources give them. A configuration has a field of its own
type for each of them, and is what every part of a scan is given.
-/

namespace SecurityScan

/-- Values by key, of any kind. -/
abbrev Settings := Entries

structure Config where
  provider : String
  model : String
  /-- Any value that holds counts as a key. -/
  anthropicKey : Value
  openaiKey : Value
  ollamaEndpoint : Value
  maxTokens : Int
  requestTimeout : Double
  checks : List String
  language : String
  promptTemplates : Entries
  chunkSize : Int
  sourceExtensions : List Value
  ignoreFile : String
  brakemanOptions : Entries
  bundlerAuditOptions : Entries
  toolTimeout : Int
  reportPath : String
  htmlTemplate : Option String
  githubActionsPath : String
  gitlabPath : String

namespace Settings

/-- What holds where no source says otherwise. -/
def usual : Settings := [
  (.str "ai_provider", .str "auto"),
  (.str "model", .str "auto"),
  (.str "anthropic_api_key", .str ""),
  (.str "openai_api_key", .str ""),
  (.str "ollama_endpoint", .str ""),
  (.str "max_tokens", .int 4096),
  (.str "request_timeout", .float (.ofRatio false 300 1)),
  (.str "checks", .list (Risk.usualNames.map .str)),
  (.str "language", .str "en"),
  (.str "prompt_templates", .map []),
  (.str "chunk_size", .int 8000),
  (.str "source_extensions", .list [.str ".rb"]),
  (.str "ignore_file", .str ".codewardignore"),
  (.str "brakeman_options", .map []),
  (.str "bundler_audit_options", .map []),
  (.str "tool_timeout", .int 600),
  (.str "report_output_path", .str "./codeward_report"),
  (.str "html_template", .null),
  (.str "github_actions_path", .str ".github/workflows/codeward_scan.yml"),
  (.str "gitlab_ci_path", .str ".gitlab-ci.yml")]

/-- The value under a key, null where there is none. -/
def value (s : Settings) (key : String) : Value := (Entries.field? s key).getD .null

/-! ## One layer over another -/

mutual

/-- A value over the one below it: a map over a map keeps what it does not replace. Of a map that
holds itself only the outermost entries are laid over. -/
def mergeValue (below : Option Value) : Value → Value
  | .map layer =>
    match below.bind Value.entries? with
    | some es => .map (mergeEntries es layer)
    | none => .map layer
  | .marked mark v =>
    match below.bind Value.entries?, (Value.marked mark v).entries? with
    | some es, some layer => .map (es.insertAll layer)
    | _, _ => .marked mark v
  | v => v

def mergeEntries (es : Entries) : List (Value × Value) → Entries
  | [] => es
  | (k, v) :: layer => mergeEntries (es.insert k (mergeValue (es.get? k) v)) layer

end

/-- Settings with a layer over them. -/
def merge (s layer : Settings) : Settings := mergeEntries s layer

end Settings

end SecurityScan
