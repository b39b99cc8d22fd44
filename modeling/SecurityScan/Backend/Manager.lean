import SecurityScan.Backend.Request
import SecurityScan.Config.Freeze
import SecurityScan.Reply.Reader
import SecurityScan.Text.Split

/-!
# The backend manager

Chooses a provider, opens a client for it and asks it. The client, the provider and the model
change together, when a client has been opened; a question that fails for any reason has no
answer.
-/

namespace SecurityScan

open Text (afterLast splitOn)

namespace Backend

/-- What opening clients comes to. -/
structure Link where
  isMissing : Package → Bool
  refusal : Client → Option Fault

/-- All packages are there and no client refuses. -/
def Link.open : Link := ⟨fun _ => false, fun _ => none⟩

end Backend

structure Manager where
  config : Config
  client : Option Client
  provider : Option String
  model : Option String

namespace Manager

open Backend

def ofConfig (config : Config) : Manager := ⟨config, none, none, none⟩

def isReady (m : Manager) : Bool := m.client.isSome && m.provider.isSome

/-! ## Choosing -/

/-- The provider that is configured, or the first one that has a key or an address. -/
def detect (m : Manager) : Noted (Option String) := do
  if m.config.provider != "auto" then return some m.config.provider
  else if m.config.anthropicKey.holds then return some "anthropic"
  else if m.config.openaiKey.holds then return some "openai"
  else if m.config.ollamaEndpoint.holds then return some "ollama"
  else
    note .warning "No AI provider configured"
    note .info "Set one of: ANTHROPIC_API_KEY, OPENAI_API_KEY, or OLLAMA_ENDPOINT"
    return none

/-- The model to ask of a provider when none is configured. -/
def usualModel : String → String
  | "openai" => "gpt-4o"
  | "ollama" => "llama3.2:3b"
  | _ => "claude-sonnet-4-5-20250929"

/-- The configured model, or the usual one of a provider, if need be of the current one. -/
def modelFor (m : Manager) (provider : Option String) : String :=
  if m.config.model != "" && m.config.model != "auto" then m.config.model
  else usualModel ((provider.or m.provider).getD "anthropic")

/-! ## Opening a client -/

def missingPackage (p : Package) : Fault :=
  .outside "ModuleNotFoundError" ("No module named '" ++ p.name ++ "'")

/-- Whether a fault is one of loading a package. -/
def isPackageFault (f : Fault) : Bool :=
  f.kind == "ImportError" || f.kind == "ModuleNotFoundError"

/-- A step for which a package has to be there. -/
def withPackage {α : Type} (link : Link) (p : Package) (step : Attempt α) : Attempt α := do
  let noteMissing (f : Fault) : Attempt Unit :=
    if isPackageFault f then
      Attempt.note .error
        (p.name ++ " package not installed. Run: pip install " ++ p.name)
    else pure ()
  if link.isMissing p then
    noteMissing (missingPackage p)
    throw (missingPackage p)
  else
    try step
    catch f =>
      noteMissing f
      throw f

def opened (link : Link) (c : Client) : Attempt Client :=
  match link.refusal c with
  | some f => throw f
  | none => return c

/-- A key that has to be there. -/
def keyOrFault (key : Value) (name : String) : Except Fault Value :=
  if key.holds then .ok key else .error (.badValue (name ++ " not set"))

def usualAddress : String := "http://localhost:11434"

/-- A text without the slashes at its end; another value has no such form. -/
def withoutSlashes : Value → Except Fault String
  | .str s => .ok (String.ofList (Text.trimRightBy (· == '/') s.toList))
  | .bytes _ => .error (.wrongKind "a bytes-like object is required, not 'str'")
  | v => .error (v.lacks "rstrip")

/-- What follows the last `//` of a text. -/
def afterScheme (s : String) : String :=
  (s.splitOn "//").getLast?.getD ""

/-- The part of an address that may be shown. -/
def shownAddress (address : String) : String :=
  if address.toList.contains '@' then afterLast '@' address
  else (splitOn '/' (afterScheme address)).head?.getD ""

/-- The part of a provider's name that may be shown. -/
def shownProvider (provider : String) : String :=
  if provider == "" then "unknown" else afterLast '/' provider

/-- A client for a provider. -/
def clientFor (m : Manager) (link : Link) (provider : String) : Attempt Client :=
  match provider with
  | "anthropic" => withPackage link .anthropic do
    let key ← Attempt.ofExcept (keyOrFault m.config.anthropicKey "ANTHROPIC_API_KEY")
    Attempt.note .info "Using Anthropic API"
    opened link (.anthropic key)
  | "openai" => withPackage link .openai do
    let key ← Attempt.ofExcept (keyOrFault m.config.openaiKey "OPENAI_API_KEY")
    Attempt.note .info "Using OpenAI API"
    opened link (.openai key)
  | "ollama" => withPackage link .openai do
    let address ← Attempt.ofExcept
      (withoutSlashes (m.config.ollamaEndpoint.orElse (.str usualAddress)))
    Attempt.note .info ("Using Ollama endpoint: " ++ shownAddress address)
    opened link (.ollama (address ++ "/v1"))
  | _ => do
    Attempt.note .error ("Unknown AI provider: " ++ shownProvider provider)
    throw (.badValue ("Unknown provider: " ++ shownProvider provider))

/-- The manager with a client of a provider, and whether there is one. -/
def connect (m : Manager) (link : Link) (provider : String) : Noted (Bool × Manager) := do
  match ← (m.clientFor link provider).run with
  | .ok client =>
    let model := m.modelFor (some provider)
    note .info ("Successfully initialized LLM Manager with " ++ provider ++ " / " ++ model)
    return (true, { m with client := some client, provider := some provider, model := some model })
  | .error f =>
    note .error ("Failed to initialize LLM: " ++ f.report)
    return (false, m)

/-- Opens a client for a provider, or for the one that is detected. -/
def initialized (m : Manager) (link : Link) (provider : Option String) :
    Noted (Bool × Manager) := do
  let chosen ← match provider with
    | some p => pure (some p)
    | none => m.detect
  match chosen with
  | some p => m.connect link p
  | none =>
    note .error "No provider detected or specified"
    return (false, m)

/-! ## Asking -/

def notInitialized : Fault := .backend "LLM Manager not initialized. Call initialize() first."

/-- The form that a provider's answers have. -/
def answerForm (provider : String) : Except Fault AnswerForm :=
  match provider with
  | "anthropic" => .ok .tool
  | "openai" => .ok .schemaText
  | "ollama" => .ok .objectText
  | p => .error (.backend ("Unknown provider: " ++ p))

/-- A client takes requests for its own kind of answer. -/
def checkClient (client : Client) (form : AnswerForm) : Except Fault Unit :=
  match client, form with
  | .anthropic _, .tool | .openai _, .schemaText | .openai _, .objectText
  | .ollama _, .schemaText | .ollama _, .objectText => .ok ()
  | .anthropic _, _ => .error (.noField "'Anthropic' object has no attribute 'chat'")
  | _, .tool => .error (.noField "'OpenAI' object has no attribute 'messages'")

/-- The request for a prompt. -/
def request (m : Manager) (prompt : String) (schema : Value) : Except Fault Request :=
  match m.client, m.provider with
  | some client, some provider => do
    let form ← answerForm provider
    checkClient client form
    return ⟨client, form, m.model, m.config.maxTokens, prompt, schema, m.config.requestTimeout⟩
  | _, _ => .error notInitialized

/-- What a request that was sent comes to. -/
abbrev Sent := Except Fault Answer

/-- The content of the answer to a prompt, `send` being what sends a request. -/
def call {σ : Type} (m : Manager) (send : Request → StateT σ Noted Sent) (prompt : String)
    (schema : Value) : StateT σ Noted (Except Fault Value) := do
  match m.request prompt schema with
  | .error f => return .error f
  | .ok r =>
    match ← send r with
    | .error f => return .error f
    | .ok answer => return answer.content

/-- The checked reply to a prompt; null, after a note, when there is none. -/
def analyze {σ : Type} (m : Manager) (send : Request → StateT σ Noted Sent) (prompt : String)
    (schema : Value) : StateT σ Noted (Except Fault Value) := do
  match ← m.call send prompt schema with
  | .error f =>
    StateT.lift (note .error ("LLM API call failed: " ++ f.report))
    return .ok .null
  | .ok raw =>
    match ← StateT.lift (Reply.read raw).run with
    | .ok reply => return .ok (reply.getD .null)
    | .error f => return .error f

end Manager

end SecurityScan
