import SecurityScan.Ignore.Glob
import SecurityScan.Path
import SecurityScan.Text.CharClass
import SecurityScan.Text.Quoted

/-!
# Ignore rules

One rule a line: a pattern, whether it takes paths back in, and whether it names a directory.
Rules are asked in their order and the first that matches decides.
-/

namespace SecurityScan

structure IgnoreRule where
  pattern : String
  negated : Bool
  directoryScoped : Bool
deriving DecidableEq

namespace IgnoreRule

open Text (trimBy trimLeftBy trimRightBy isBlank)

/-- A rule's text after its white space is trimmed: `!` in front negates, `/` at the end scopes. -/
def ofTrimmed? (cs : List Char) : Option IgnoreRule :=
  match cs with
  | [] | '#' :: _ => none
  | _ =>
    let negated := cs.head? == some '!'
    let body := if negated then cs.tail else cs
    let directory := body.getLast? == some '/'
    let pattern := if directory then trimRightBy (· == '/') body else body
    if pattern.isEmpty then none else some ⟨String.ofList pattern, negated, directory⟩

/-- The rule of a line; blank lines and comments have none. -/
def ofLine? (line : String) : Option IgnoreRule := ofTrimmed? (trimBy isBlank line.toList)

/-- The rules of a text's lines, in order. -/
def ofLines (lines : List String) : List IgnoreRule := lines.filterMap ofLine?

/-- Whether a rule speaks of a path, which is relative to the project root. -/
def applies (rule : IgnoreRule) (rel : String) : Bool :=
  if rule.directoryScoped then
    let dir := String.ofList (trimBy (· == '/') rule.pattern.toList)
    rel == dir || Text.startsWith rel (dir ++ "/")
  else
    let pattern := String.ofList (trimLeftBy (· == '/') rule.pattern.toList)
    Glob.matchPath pattern rel || Glob.matchName pattern (Path.baseName rel)

/-- Whether the first rule that speaks of a path leaves it out. -/
def excludes (rules : List IgnoreRule) (rel : String) : Bool :=
  match rules.find? (·.applies rel) with
  | some rule => !rule.negated
  | none => false

def literal (rule : IgnoreRule) : String :=
  let flag (b : Bool) := if b then "True" else "False"
  "IgnoreRule(pattern=" ++ Text.quoted rule.pattern ++ ", negated=" ++ flag rule.negated ++
    ", directory_scoped=" ++ flag rule.directoryScoped ++ ")"

/-- The rules as one text. -/
def literalAll (rules : List IgnoreRule) : String :=
  "IgnoreSet([" ++ String.intercalate ", " (rules.map literal) ++ "])"

end IgnoreRule

/-- Where paths are seen from: the current directory, and the project root if one is set. -/
structure Project where
  cwd : String
  root : Option String

namespace Project

/-- The absolute project root; the current directory when none is set. -/
def rootPath (p : Project) : String := Path.absolute p.cwd (p.root.getD p.cwd)

/-- A path as seen from the project root; the root itself is the empty text. -/
def relativePath (p : Project) (path : String) : String :=
  Path.relative p.rootPath (Path.absolute p.cwd path)

/-- Whether the scan leaves a path out. -/
def excludes (p : Project) (rules : List IgnoreRule) (force : Bool) (path : String) : Bool :=
  !force && IgnoreRule.excludes rules (p.relativePath path)

/-- The name of a file in labels and headers. -/
def displayPath (p : Project) (path : String) : String :=
  let rel := p.relativePath path
  if rel == "" then Path.baseName path else rel

end Project

end SecurityScan
