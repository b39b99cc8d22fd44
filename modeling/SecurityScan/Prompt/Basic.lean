import SecurityScan.Json.Writer
import SecurityScan.Prompt.Placeholder
import SecurityScan.Prompt.Risk
import SecurityScan.Value.Access

/-!
# Prompts

What the analysis backend is asked about a piece of code: a template filled in with the risks to
look for, the form of the reply, the language of the reply and the code with its origin.
-/

namespace SecurityScan

/-- The templates to choose from, by key, and the language that findings are written in. -/
structure Prompts where
  templates : Entries
  language : String

/-- One piece of code to ask about. -/
structure Question where
  code : String
  /-- The names of the risks to look for. -/
  risks : Value
  /-- The form of the reply. -/
  schema : Value
  label : Option String

namespace Prompts

def usualKey : String := "default"

def usualTemplate : String :=
  "You are a security expert reviewing Ruby code. Analyze the code below and detect potential security risks.\n" ++
  "Focus in particular on these kinds of vulnerabilities: \x7brisk_list\x7d\n" ++
  "Report the risks you find using the following JSON Schema.\n" ++
  "\x7bjson_schema\x7d\n" ++
  "If no risks are found, return an empty \"security_risks\" array.\n" ++
  "Write the details of each finding in \x7blanguage\x7d.\n" ++
  "\n" ++
  "[Code under analysis: \x7bfile_label\x7d]\n" ++
  "\x7bcode_content\x7d\n"

/-- A choice of templates in which the usual one stands unless it is replaced. -/
def ofTemplates (templates : Entries) (language : String) : Prompts :=
  ⟨Entries.insertAll [(.str usualKey, .str usualTemplate)] templates, language⟩

/-- No templates of one's own, and findings in English. -/
def usual : Prompts := ofTemplates [] "en"

/-- The template under a key, or the one under the usual key. -/
def template (p : Prompts) (key : String) : Value :=
  (p.templates.field? key).getD ((p.templates.field? usualKey).getD (.str usualTemplate))

/-- The description of a name; none when the catalogue does not know it. -/
def description? : Value → Except Fault (Option String)
  | .str s => .ok (Risk.descriptionOf? s)
  | v =>
    if v.isKey then .ok none
    else .error (.wrongKind ("unhashable type: '" ++ v.kind ++ "'"))

/-- The descriptions of those names that the catalogue knows, in their order. -/
def descriptions (names : Value) : Except Fault (List String) := do
  let found ← (← names.members).mapM description?
  return found.filterMap id

/-- What the placeholders of a template stand for. -/
def values (p : Prompts) (q : Question) : Except Fault (List (String × String)) := do
  let risks ← descriptions q.risks
  match Json.write? .compact q.schema with
  | none => throw (.wrongKind "the schema is not JSON serializable")
  | some schema =>
    let label := match q.label with
      | none | some "" => "unnamed content"
      | some l => l
    return [("risk_list", ", ".intercalate risks), ("json_schema", schema),
      ("language", p.language), ("code_content", q.code), ("file_label", label)]

/-- A template filled in; one that is no text is malformed. -/
def fillTemplate (values : List (String × String)) : Value → Prompt.Filling String
  | .str s => Prompt.fill values s
  | _ => .error .malformed

/-- The template under a key filled in. One that cannot be filled gives way to the usual one. -/
def fillAt (p : Prompts) (key : String) (values : List (String × String)) : Attempt String := do
  match fillTemplate values (p.template key) with
  | .ok prompt => return prompt
  | .error .tooWide => throw .outOfMemory
  | .error .malformed =>
    Attempt.note .warning
      ("Prompt template '" ++ key ++ "' is malformed (" ++ Note.omitted "reason" ++
        "); using the default template")
    return (Prompt.fill values usualTemplate).toOption.getD ""

/-- The prompt for a question. -/
def build (p : Prompts) (q : Question) (key : String) : Attempt String := do
  p.fillAt key (← Attempt.ofExcept (p.values q))

end Prompts

end SecurityScan
