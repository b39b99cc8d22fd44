import SecurityScan.Html.Escape
import SecurityScan.Text.Letter
import SecurityScan.Text.Pattern
import SecurityScan.Text.Search

/-!
# Links in text

Text in which the addresses of pages and of mailboxes become links. Brackets in front of an address
and marks after it stay outside of the link, but for brackets that are closed inside of it.
-/

namespace SecurityScan.Html.Link

open Text (Pattern)

/-! ## What addresses look like -/

/-- A character without its case. Three signs of other scripts count as the letters that they are
in small or capital form. -/
def uncased (c : Char) : Char :=
  match c with
  | 'ſ' => 's'
  | 'ı' | 'İ' => 'i'
  | '\u212a' => 'k'
  | c => c.toLower

def word (s : String) : Pattern := .word (fun c d => c == uncased d) s

def digit : Pattern := .one fun c => (Text.digitValue? c).isSome

def hexDigit : Pattern := .one fun c =>
  (Text.digitValue? c).isSome || ('a' ≤ c.toLower && c.toLower ≤ 'f')

def sign (c : Char) : Pattern := .one (· == c)

def isLabelChar (c : Char) : Bool := Text.isWordChar c || c == '%' || c == '-'

def isSmallLetter (c : Char) : Bool := 'a' ≤ uncased c && uncased c ≤ 'z'

def scheme : Pattern := .all [word "http", .optional (word "s"), word "://"]

/-- Labels of at least so many characters and at most 63, a dot after each. -/
def dotted (label : Pattern) : Pattern := .atLeastOne (.then label (sign '.'))

/-- What starts with a scheme or with `www`. -/
def announced : Pattern := .all [
  .either scheme (word "www."),
  .optional (dotted (.atLeastOne (.one isLabelChar))),
  .either (.times 2 61 (.one isSmallLetter))
    (.then (word "xn--") (.times 2 57 (.one fun c => Text.isWordChar c || c == '%')))]

/-- A name that ends in one of the oldest domains. -/
def domain : Pattern := .all [
  dotted (.times 2 61 (.one isLabelChar)),
  .anyOf (word "com") (["net", "int", "edu", "gov", "org", "info", "mil"].map word)]

/-- A number of a host, with its scheme. -/
def numbered : Pattern := .then scheme (.either
  (.then (.times 1 2 digit) (.times 3 0 (.then (sign '.') (.times 1 2 digit))))
  (.all [sign '[', .times 2 0 (.then (.times 0 4 hexDigit) (sign ':')),
    .times 1 5 (.then (.times 0 4 hexDigit) (.optional (sign ':'))), sign ']']))

/-- The address of a page, maybe with a port and a path. -/
def page : Pattern := .all [
  .anyOf announced [domain, numbered],
  .optional (.then (sign ':') (.times 1 4 digit)),
  .optional (.then (.one ['/', '?', '#'].contains) (.many (.one fun c => !Text.isBlank c)))]

/-- The address of a mailbox: a name, and a host with a dot in it. -/
def isMailbox (cs : List Char) : Bool :=
  let host := (cs.reverse.takeWhile (· != '@')).reverse
  let name := cs.take (cs.length - host.length - 1)
  let top := (host.reverse.takeWhile (· != '.')).reverse
  let rest := host.take (host.length - top.length - 1)
  cs.contains '@' && !name.isEmpty && !name.any Text.isBlank && host.contains '.' &&
    Text.isAll Text.isWordChar top && (rest.head?.any Text.isWordChar) &&
    rest.all fun c => Text.isWordChar c || c == '.' || c == '-'

/-- Whether a text can stand in front of addresses of a kind of its own. -/
def isScheme (s : String) : Bool :=
  let slashes : Pattern := .times 0 2 (sign '/')
  let name : Pattern := .one fun c => Text.isWordChar c || ['.', '+', '-'].contains c
  (Pattern.all [.times 2 0 name, .many name, sign ':', slashes]).fits s.toList

/-! ## Links -/

structure Style where
  /-- What a page is to the one that links to it. -/
  rel : Option String
  target : Option String
  schemes : List String

def attributeText (name : String) (value : Option String) : String :=
  match value with
  | none | some "" => ""
  | some s => " " ++ name ++ "=\"" ++ escape s ++ "\""

/-- The marks in front of a word, and the rest of it. -/
def headOf (fuel : Nat) (cs : List Char) : List Char × List Char :=
  match fuel, cs with
  | fuel + 1, '(' :: r =>
    let (head, rest) := headOf fuel r
    ('(' :: head, rest)
  | fuel + 1, '<' :: r =>
    let (head, rest) := headOf fuel r
    ('<' :: head, rest)
  | fuel + 1, '&' :: 'l' :: 't' :: ';' :: r =>
    let (head, rest) := headOf fuel r
    ("&lt;".toList ++ head, rest)
  | _, cs => ([], cs)

/-- Whether a text has only marks that may follow a word, at least one. -/
def isTail : List Char → Bool
  | [')'] | ['>'] | ['.'] | [','] | ['&', 'g', 't', ';'] => true
  | ')' :: r | '>' :: r | '.' :: r | ',' :: r | '&' :: 'g' :: 't' :: ';' :: r => isTail r
  | _ => false

/-- A word and the marks after it. -/
def tailOf : List Char → List Char × List Char
  | [] => ([], [])
  | c :: cs =>
    if isTail (c :: cs) then ([], c :: cs)
    else
      let (middle, tail) := tailOf cs
      (c :: middle, tail)

/-- Takes closing brackets from the marks after a word, as far as there are open ones in it. -/
def balanced (opener closer : List Char) (middle tail : List Char) : List Char × List Char :=
  let opened := Text.countIn opener middle
  if opened ≤ Text.countIn closer middle then (middle, tail)
  else
    let move (parts : List Char × List Char) : List Char × List Char :=
      match Text.findIn? closer parts.2 with
      | some n => (parts.1 ++ parts.2.take (n + closer.length), parts.2.drop (n + closer.length))
      | none => parts
    (List.replicate (min opened (Text.countIn closer tail)) ()).foldl (fun parts _ => move parts)
      (middle, tail)

/-- A word in front of which and after which no marks stand, with what a long one is cut to. -/
def linked {m : Type → Type} [Monad m] (s : Style) (cut : String → m String) (middle : String) :
    m String := do
  let cs := middle.toList
  let more := attributeText "rel" s.rel ++ attributeText "target" s.target
  let link (address more label : String) : String :=
    "<a href=\"" ++ address ++ "\"" ++ more ++ ">" ++ label ++ "</a>"
  let starts (s : String) : Bool := s.toList.isPrefixOf cs
  if page.fits cs then
    let address := if starts "https://" || starts "http://" then middle else "https://" ++ middle
    return link address more (← cut middle)
  else if starts "mailto:" && isMailbox (cs.drop 7) then
    return link middle "" (String.ofList (cs.drop 7))
  else if cs.contains '@' && !starts "www." && !cs.contains ':' && isMailbox cs then
    return link ("mailto:" ++ middle) "" middle
  else
    return s.schemes.foldl (fun (text : String) scheme =>
      if text != scheme && scheme.toList.isPrefixOf text.toList then link text more text
      else text) middle

/-- A word with its marks, made a link if it is an address. -/
def ofWord {m : Type → Type} [Monad m] (s : Style) (cut : String → m String) (cs : List Char) :
    m String := do
  let (head, rest) := headOf cs.length cs
  let parts := tailOf rest
  let parts := balanced ['('] [')'] parts.1 parts.2
  let parts := balanced ['<'] ['>'] parts.1 parts.2
  let (middle, tail) := balanced "&lt;".toList "&gt;".toList parts.1 parts.2
  return String.ofList head ++ (← linked s cut (String.ofList middle)) ++ String.ofList tail

/-- A text, already escaped, with links in it. -/
def ofText {m : Type → Type} [Monad m] (s : Style) (cut : String → m String) (text : String) :
    m String := do
  let runs := text.toList.splitBy fun a b => Text.isBlank a == Text.isBlank b
  let pieces ← runs.mapM fun run =>
    if run.all Text.isBlank then pure (String.ofList run) else ofWord s cut run
  return String.join pieces

end SecurityScan.Html.Link
