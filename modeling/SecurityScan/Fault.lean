import SecurityScan.Files.Tree
import SecurityScan.Note
import SecurityScan.Number.Literal
import SecurityScan.Text.Line
import SecurityScan.Text.Quoted
import SecurityScan.Text.Surrogate

/-!
# Faults

Why a step of a scan cannot go on, each cause with its own constructor. A note that reports a
fault names its kind and gives its message.
-/

namespace SecurityScan

/-- What stops a template that no other part of a scan meets. -/
inductive TemplateProblem
  /-- A map has no such key. -/
  | missingKey
  /-- An argument is not in the range that an operation asks for. -/
  | failedCheck
  /-- A number that has no written form. -/
  | unwritable
  /-- What a template says has no meaning, though it is well formed. -/
  | meaningless
  /-- Statements stand too deep in one another. -/
  | tooIndented
  /-- A statement cannot do what it is asked for. -/
  | refused
  /-- A filter was given arguments that do not go together. -/
  | filterArgument
  /-- A choice among no templates at all. -/
  | nothingToInclude
  /-- A collection was changed while it was gone through, or has no items to go round. -/
  | changedMeanwhile
  /-- Nothing is left to be taken. -/
  | exhausted
  /-- A name of no known text encoding. -/
  | unknownEncoding
  /-- Bytes stand for no text in an encoding. -/
  | undecodable
  | unsupported
deriving DecidableEq

inductive Fault
  /-- A value has no such field or operation. -/
  | noField (message : String)
  /-- A value is of a kind that the operation does not take. -/
  | wrongKind (message : String)
  | badValue (message : String)
  | badIndex (message : String)
  | overflow (message : String)
  | tooDeep
  | outOfMemory
  | divisionByZero (message : String)
  /-- A template asked something of a name that stands for nothing. -/
  | undefined (message : String)
  | template (problem : TemplateProblem)
  | undecodable (error : Text.Utf8.Error)
  /-- A text holds half of a surrogate pair, which has no form as bytes. -/
  | unencodable
  | file (failure : Files.Failure)
  /-- Settings that cannot be used, one issue each. -/
  | settings (issues : List String)
  | ignoreFile (message : String)
  | tool (message : String)
  | backend (message : String)
  | git (message : String)
  /-- Raised by something the scan calls, which names the kind itself. -/
  | outside (kind message : String)
deriving DecidableEq

namespace Fault

def fileKind : Files.Problem → String
  | .notFound => "FileNotFoundError"
  | .alreadyExists => "FileExistsError"
  | .notDirectory => "NotADirectoryError"
  | .isDirectory => "IsADirectoryError"
  | .nameTooLong | .tooManyLinks => "OSError"

def templateKind : TemplateProblem → String
  | .missingKey => "KeyError"
  | .failedCheck => "AssertionError"
  | .unwritable => "NameError"
  | .meaningless => "SyntaxError"
  | .tooIndented => "IndentationError"
  | .refused => "TemplateRuntimeError"
  | .filterArgument => "FilterArgumentError"
  | .nothingToInclude => "TemplatesNotFound"
  | .changedMeanwhile => "RuntimeError"
  | .exhausted => "StopIteration"
  | .unknownEncoding => "LookupError"
  | .undecodable => "UnicodeDecodeError"
  | .unsupported => "NotImplementedError"

/-- The name of the kind, as notes print it. -/
def kind : Fault → String
  | .noField _ => "AttributeError"
  | .wrongKind _ => "TypeError"
  | .badValue _ => "ValueError"
  | .badIndex _ => "IndexError"
  | .overflow _ => "OverflowError"
  | .tooDeep => "RecursionError"
  | .outOfMemory => "MemoryError"
  | .divisionByZero _ => "ZeroDivisionError"
  | .undefined _ => "UndefinedError"
  | .template p => templateKind p
  | .undecodable _ => "UnicodeDecodeError"
  | .unencodable => "UnicodeEncodeError"
  | .file f => fileKind f.problem
  | .settings _ => "ConfigError"
  | .ignoreFile _ => "IgnoreFileError"
  | .tool _ => "ScannerError"
  | .backend _ => "AnalysisBackendError"
  | .git _ => "GitError"
  | .outside kind _ => kind

def message : Fault → String
  | .noField m | .wrongKind m | .badValue m | .badIndex m | .overflow m | .divisionByZero m
  | .undefined m | .ignoreFile m | .tool m | .backend m | .git m | .outside _ m => m
  | .tooDeep => "maximum recursion depth exceeded"
  | .outOfMemory | .template _ => ""
  | .undecodable e => e.message
  | .unencodable => "'utf-8' codec can't encode characters: surrogates not allowed"
  | .file f => f.message
  | .settings issues => String.intercalate "; " issues

/-- Kind and message, as notes print them. -/
def report (f : Fault) : String := f.kind ++ ": " ++ f.message

/-- A whole number with more digits than are written. -/
def tooLongToWrite : Fault :=
  .badValue ("Exceeds the limit (" ++ toString Number.maxDigits ++
    " digits) for integer string conversion; " ++
    "use sys.set_int_max_str_digits() to increase the limit")

/-- A whole number with more digits than can be read. -/
def tooManyDigits (digits : Nat) : Fault :=
  .badValue ("Exceeds the limit (" ++ toString Number.maxDigits ++
    " digits) for integer string conversion: value has " ++ toString digits ++
    " digits; use sys.set_int_max_str_digits() to increase the limit")

/-- A text that writes no whole number; only the start of a long one is shown. -/
def notWhole (base : Nat) (s : String) : Fault :=
  .badValue ("invalid literal for int() with base " ++ toString base ++ ": " ++
    String.ofList ((Text.quoted s).toList.take 200))

def notNumber (s : String) : Fault :=
  .badValue ("could not convert string to float: " ++ Text.quoted s)

/-- The whole number that a text writes in base ten. -/
def wholeOf (s : String) : Except Fault Int :=
  match Number.readInt s with
  | .ok i => .ok i
  | .error .malformed => .error (notWhole 10 s)
  | .error (.tooLong n) => .error (tooManyDigits n)

/-- The double that a text writes. -/
def doubleOf (s : String) : Except Fault Double :=
  match Number.readDouble s with
  | some x => .ok x
  | none => .error (notNumber s)

end Fault

/-- A step that writes notes and may stop with a fault. -/
abbrev Attempt := ExceptT Fault Noted

namespace Attempt

def note (level : Level) (text : String) : Attempt Unit :=
  ExceptT.lift (SecurityScan.note level text)

def ofExcept {α : Type} (x : Except Fault α) : Attempt α := ExceptT.mk (pure x)

end Attempt

namespace Files

/-- What keeps a text from being a path. A half of a pair that stands for a byte may be in one. -/
def pathFault? (path : String) : Option Fault :=
  let isByte (c : Char) : Bool := 0xDC80 ≤ Text.codeOf c && Text.codeOf c ≤ 0xDCFF
  if path.toList.any fun c => Text.isLoneHalf c && !isByte c then some .unencodable
  else if path.toList.contains '\x00' then some (.badValue "embedded null byte")
  else none

/-- What a path leads to, nothing when it leads nowhere; only a name that is too long is a fault. -/
def FileSystem.place? (fs : FileSystem) (path : String) : Except Fault (Option Place) :=
  if (pathFault? path).isSome then .ok none
  else
    match fs.find path with
    | .ok (.vacant _) => .ok none
    | .ok place => .ok (some place)
    | .error .nameTooLong => .error (.file ⟨.nameTooLong, path⟩)
    | .error _ => .ok none

/-- Whether a path leads to a file; what is no path leads nowhere. -/
def FileSystem.hasFile (fs : FileSystem) (path : String) : Bool :=
  (pathFault? path).isNone && fs.isFile path

/-- Whether a path leads to a directory; what is no path leads nowhere. -/
def FileSystem.hasDir (fs : FileSystem) (path : String) : Bool :=
  (pathFault? path).isNone && fs.isDir path

/-- The text of a file, with `"\n"` wherever a line ends. -/
def FileSystem.readText (fs : FileSystem) (path : String) : Except Fault String :=
  match pathFault? path with
  | some f => .error f
  | none =>
    match fs.read path with
    | .error f => .error (.file f)
    | .ok bytes =>
      match Text.Utf8.decodeFrom 0 bytes with
      | .error e => .error (.undecodable e)
      | .ok cs => .ok (String.ofList (Text.newlinesUnified cs))

/-- Whether a fault is one of the two of a text that cannot be read. -/
def isUnreadable : Fault → Bool
  | .file _ | .undecodable _ => true
  | _ => false

end Files

end SecurityScan
