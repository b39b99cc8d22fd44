import SecurityScan.Value.Basic

/-!
# The form of a reply

A schema of what the analysis backend has to answer, sent along with every question.
-/

namespace SecurityScan.Reply

/-- A text property with its description and its title. -/
def textProperty (description title : String) : Value :=
  .record [("description", .str description), ("title", .str title), ("type", .str "string")]

def findingProperties : Value := .record [
  ("type", textProperty "Kind of risk detected (e.g. XSS, CSRF, IDOR)." "Type"),
  ("location", textProperty
    "File name and line number, or the diff position (file:+line) where the risk exists."
    "Location"),
  ("details", textProperty "Explanation of the risk and why it is a risk." "Details"),
  ("severity", .record [
    ("$ref", .str "#/$defs/Severity"),
    ("description", .str "Severity of the risk.")]),
  ("code_snippet", .record [
    ("anyOf", .list [.record [("type", .str "string")], .record [("type", .str "null")]]),
    ("default", .null),
    ("description", .str "The affected code."),
    ("title", .str "Code Snippet")])]

def findingSchema : Value := .record [
  ("additionalProperties", .bool true),
  ("description", .str ("One security finding as reported by the analysis backend.\n\n" ++
    "The ``extra = \"allow\"`` policy keeps any additional keys the model\n" ++
    "attaches so they are forwarded to the report untouched.")),
  ("properties", findingProperties),
  ("required", .list [.str "type", .str "location", .str "details", .str "severity"]),
  ("title", .str "SecurityRisk"),
  ("type", .str "object")]

def severitySchema : Value := .record [
  ("enum", .list [.str "Critical", .str "High", .str "Medium", .str "Low", .str "Info"]),
  ("title", .str "Severity"),
  ("type", .str "string")]

/-- An envelope with a list of findings. -/
def schema : Value := .record [
  ("$defs", .record [("SecurityRisk", findingSchema), ("Severity", severitySchema)]),
  ("additionalProperties", .bool true),
  ("description", .str "Envelope returned by one analysis call."),
  ("properties", .record [
    ("security_risks", .record [
      ("description", .str "Security risks detected in the analyzed code."),
      ("items", .record [("$ref", .str "#/$defs/SecurityRisk")]),
      ("title", .str "Security Risks"),
      ("type", .str "array")])]),
  ("required", .list [.str "security_risks"]),
  ("title", .str "AIAnalysisResponse"),
  ("type", .str "object")]

end SecurityScan.Reply
