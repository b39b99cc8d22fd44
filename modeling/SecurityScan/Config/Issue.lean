import SecurityScan.Config.Basic
import SecurityScan.Text.Split

/-!
# Issues

What is wrong with settings: errors, with which no configuration is made, and warnings.
-/

namespace SecurityScan

inductive Issue
  | unknownProvider (v : Value)
  | noKey (provider variableName : String)
  | nothingConfigured
  | notPositiveWhole (key : String) (v : Value)
  | notPositive (v : Value)
  | checksNotNames
  | unknownChecks (names : List String)
  | badExtensions
  | notMapping (key : String)
  | templateNotPath (v : Value)

namespace Issue

def isError : Issue → Bool
  | .noKey .. | .nothingConfigured | .unknownChecks _ => false
  | _ => true

/-- The issue without its mark. -/
def message : Issue → String
  | .unknownProvider v =>
    "Invalid ai_provider '" ++ v.display ++
      "'. Must be one of: anthropic, auto, ollama, openai"
  | .noKey provider name =>
    "ai_provider is '" ++ provider ++ "' but " ++ name ++ " is not set."
  | .nothingConfigured =>
    "ai_provider is 'auto' but no API keys or endpoints are configured.  " ++
      "AI analysis will be unavailable."
  | .notPositiveWhole key v => key ++ " must be a positive integer, got " ++ v.literal
  | .notPositive v => "request_timeout must be a positive number, got " ++ v.literal
  | .checksNotNames => "checks must be a list of risk names"
  | .unknownChecks names => "Unknown checks will be skipped: " ++ ", ".intercalate names
  | .badExtensions => "source_extensions must be a non-empty list like ['.rb']"
  | .notMapping key => key ++ " must be a mapping"
  | .templateNotPath v => "html_template must be a file path, got " ++ v.literal

/-- The value that the message shows. -/
def value? : Issue → Option Value
  | .unknownProvider v | .notPositiveWhole _ v | .notPositive v | .templateNotPath v => some v
  | _ => none

/-- What keeps the value that the message shows from being written. -/
def fault? (i : Issue) : Option Fault := i.value?.bind Value.textFault?

def text (i : Issue) : String := (if i.isError then "ERROR: " else "WARNING: ") ++ i.message

end Issue

namespace Settings

/-! ## The checks -/

def providers : List String := ["auto", "anthropic", "openai", "ollama"]

/-- The first part of a value that keeps it from being a key. -/
def unkeyable? : Value → Option Value
  | .tuple xs => go xs
  | v => if v.isKey then none else some v
where
  go : List Value → Option Value
    | [] => none
    | x :: xs => (unkeyable? x).or (go xs)

/-- The provider has to be one of those that are known, and has to be a key to be looked up. -/
def providerIssues (provider : Value) : Except Fault (List Issue) :=
  match provider with
  | .str s => .ok (if providers.contains s then [] else [.unknownProvider provider])
  | .set _ => .ok [.unknownProvider provider]
  | v =>
    match unkeyable? v with
    | some part => .error (.wrongKind ("unhashable type: '" ++ part.kind ++ "'"))
    | none => .ok [.unknownProvider v]

/-- A provider needs its key, and one that is chosen later any of them. -/
def keyIssues (s : Settings) (provider : Value) : List Issue :=
  let isSet (key : String) : Bool := (s.value key).holds
  match provider with
  | .str "anthropic" =>
    if isSet "anthropic_api_key" then [] else [.noKey "anthropic" "ANTHROPIC_API_KEY"]
  | .str "openai" => if isSet "openai_api_key" then [] else [.noKey "openai" "OPENAI_API_KEY"]
  | .str "auto" =>
    if isSet "anthropic_api_key" || isSet "openai_api_key" || isSet "ollama_endpoint" then []
    else [.nothingConfigured]
  | _ => []

def isPositiveWhole : Value → Bool
  | .int i => 1 ≤ i
  | _ => false

/-- What is no number is not positive; what compares with nothing is let through. -/
def isPositive : Value → Bool
  | .int i => 0 < i
  | .float x => !(x.ltInt 0 || x.eqInt 0)
  | _ => false

/-- The members of a list, of either kind. -/
def listMembers? (v : Value) : Option (List Value) :=
  match v.opened with
  | .list xs | .tuple xs => some xs
  | _ => none

/-- The members of a list that holds texts only. -/
def textMembers? (v : Value) : Option (List String) := do (← listMembers? v).mapM Value.str?

def wholeIssues (s : Settings) : List Issue :=
  ["chunk_size", "max_tokens", "tool_timeout"].filterMap fun key =>
    if isPositiveWhole (s.value key) then none else some (.notPositiveWhole key (s.value key))

def timeoutIssues (s : Settings) : List Issue :=
  let v := s.value "request_timeout"
  if isPositive v then [] else [.notPositive v]

def checkIssues (s : Settings) : List Issue :=
  match textMembers? (s.value "checks") with
  | none => [.checksNotNames]
  | some names =>
    match names.filter fun n => !Risk.isKnown n with
    | [] => []
    | unknown => [.unknownChecks unknown]

def extensionIssues (s : Settings) : List Issue :=
  match textMembers? (s.value "source_extensions") with
  | some (e :: es) => if (e :: es).all (Text.startsWith · ".") then [] else [.badExtensions]
  | _ => [.badExtensions]

def mappingIssues (s : Settings) : List Issue :=
  ["prompt_templates", "brakeman_options", "bundler_audit_options"].filterMap fun key =>
    if (s.value key).isMap then none else some (.notMapping key)

def templateIssues (s : Settings) : List Issue :=
  match s.value "html_template" with
  | .null | .str _ => []
  | v => [.templateNotPath v]

/-- All issues, in the order of the checks. -/
def issues (s : Settings) : Except Fault (List Issue) := do
  let provider := (Entries.field? s "ai_provider").getD (.str "auto")
  let all := (← providerIssues provider) ++ keyIssues s provider ++ wholeIssues s ++
    timeoutIssues s ++ checkIssues s ++ extensionIssues s ++ mappingIssues s ++ templateIssues s
  match all.findSome? Issue.fault? with
  | none => return all
  | some f => throw f

end Settings

end SecurityScan
