import SecurityScan.Value.Access

/-!
# Requests to a backend

The clients that talk to analysis backends, what is sent to them and what comes back.
-/

namespace SecurityScan

/-- A connection to a backend. -/
inductive Client
  | anthropic (key : Value)
  | openai (key : Value)
  /-- A server of one's own, which speaks the same language as the one before. -/
  | ollama (address : String)

namespace Backend

/-- The software that a client needs. -/
inductive Package
  | anthropic
  | openai
deriving DecidableEq

def Package.name : Package → String
  | .anthropic => "anthropic"
  | .openai => "openai"

end Backend

namespace Client

def package : Client → Backend.Package
  | .anthropic _ => .anthropic
  | .openai _ | .ollama _ => .openai

/-- What the client is opened with. -/
def arguments : Client → Value
  | .anthropic key | .openai key => .record [("api_key", key)]
  | .ollama address => .record [("base_url", .str address), ("api_key", .str "ollama")]

end Client

namespace Backend

/-- The form in which an answer is asked for. -/
inductive AnswerForm
  /-- As the input of a tool that the model has to use. -/
  | tool
  /-- As text that follows a schema. -/
  | schemaText
  /-- As text that is a JSON object. -/
  | objectText
deriving DecidableEq

structure Request where
  client : Client
  form : AnswerForm
  model : Option String
  maxTokens : Int
  prompt : String
  schema : Value
  timeout : Double

def toolName : String := "report_security_risks"

namespace Request

def toolDescription : String := "Report the security risks found in the analyzed code."

/-- The part of a request that tells the form of the answer. -/
def formEntries (r : Request) : List (String × Value) :=
  match r.form with
  | .tool => [
    ("tools", .list [.record [("name", .str toolName), ("description", .str toolDescription),
      ("input_schema", r.schema)]]),
    ("tool_choice", .record [("type", .str "tool"), ("name", .str toolName)])]
  | .schemaText => [
    ("response_format", .record [("type", .str "json_schema"),
      ("json_schema", .record [("name", .str toolName), ("schema", r.schema),
        ("strict", .bool false)])])]
  | .objectText => [("response_format", .record [("type", .str "json_object")])]

/-- The request as it is sent. -/
def toValue (r : Request) : Value :=
  .record ([
    ("model", (r.model.map Value.str).getD .null),
    ("max_tokens", .int r.maxTokens),
    ("temperature", .int 0),
    ("messages", .list [.record [("role", .str "user"), ("content", .str r.prompt)]]),
    ("timeout", .float r.timeout)] ++ r.formEntries)

end Request

/-- A part of a message. -/
inductive Block
  | text (content : Value)
  | toolUse (input : Value)
  | other
  /-- A part that lacks what its type tells it to have. -/
  | without (name : String)

inductive Answer
  | message (blocks : List Block)
  | choices (contents : List Value)

namespace Answer

/-- Texts one after the other, `place` being the number of the first. -/
def joined (place : Nat) : List Value → Except Fault String
  | [] => .ok ""
  | .str s :: rest => do return s ++ (← joined (place + 1) rest)
  | v :: _ => .error (.wrongKind ("sequence item " ++ toString place ++
      ": expected str instance, " ++ v.kind ++ " found"))

/-- The input of the first tool that is used, or else all texts together. -/
def messageContent (texts : List Value) : List Block → Except Fault Value
  | [] => (joined 0 texts).map .str
  | .toolUse input :: _ => .ok input
  | .text content :: rest => messageContent (texts ++ [content]) rest
  | .other :: rest => messageContent texts rest
  | .without name :: _ =>
    .error (.noField ("'Block' object has no attribute '" ++ name ++ "'"))

/-- What an answer says: of several choices the first. -/
def content : Answer → Except Fault Value
  | .message blocks => messageContent [] blocks
  | .choices [] => .error (.badIndex "list index out of range")
  | .choices (v :: _) => .ok (v.orElse (.str ""))

end Answer

end Backend

end SecurityScan
