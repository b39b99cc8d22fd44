import SecurityScan.Text.Split

/-!
# Paths

Paths as text, with `/` between their components. Everything here is lexical: nothing asks what
is on disk.
-/

namespace SecurityScan.Path

open Text (splitOn joinWith startsWith)

def isAbsolute (p : String) : Bool := startsWith p "/"

/-- The leading slashes that a path keeps: none, one, or two when there are exactly two. -/
def root (p : String) : String :=
  match p.toList with
  | '/' :: '/' :: '/' :: _ => "/"
  | '/' :: '/' :: _ => "//"
  | '/' :: _ => "/"
  | _ => ""

/-- `child` below `parent`; an absolute `child` stands alone. -/
def join (parent child : String) : String :=
  if isAbsolute child || parent == "" then child
  else if Text.endsWith parent "/" then parent ++ child
  else parent ++ "/" ++ child

/-! ## Normal form -/

/--
One component on the stack of those before it, the last one on top. `..` takes away the component
below it, except that another `..` stays and that nothing is above the root.
-/
def pushComponent (rooted : Bool) (stack : List String) (c : String) : List String :=
  if c == "" || c == "." then stack
  else if c == ".." then
    match stack with
    | [] => if rooted then [] else [".."]
    | top :: rest => if top == ".." then ".." :: stack else rest
  else c :: stack

/-- The components of a path without `.`, empty ones and `..` that can be resolved. -/
def components (p : String) : List String :=
  ((splitOn '/' p).foldl (pushComponent (isAbsolute p)) []).reverse

/-- A path of given components; the empty one is the current directory. -/
def ofParts (root : String) (parts : List String) : String :=
  let text := root ++ joinWith '/' parts
  if text == "" then "." else text

def normalize (p : String) : String := ofParts (root p) (components p)

/-- The normal form of a path seen from the directory `cwd`. -/
def absolute (cwd p : String) : String := normalize (if isAbsolute p then p else join cwd p)

/-- The names of an absolute path. -/
def names (p : String) : List String := (splitOn '/' p).filter (· != "")

/-- What two lists have in common at their start is dropped from both. -/
def dropCommon : List String → List String → List String × List String
  | a :: as, b :: bs => if a == b then dropCommon as bs else (a :: as, b :: bs)
  | as, bs => (as, bs)

/-- The way from `start` to `p`, both absolute: up with `..`, then down. Empty when they are
equal. -/
def relative (start p : String) : String :=
  let (up, down) := dropCommon (names start) (names p)
  joinWith '/' (up.map (fun _ => "..") ++ down)

/-! ## Tidy form: only `.` and doubled slashes go -/

def tidyParts (p : String) : List String :=
  (splitOn '/' p).filter fun c => c != "" && c != "."

def tidy (p : String) : String := ofParts (root p) (tidyParts p)

/-- The tidy path of `child` below `parent`. -/
def below (parent child : String) : String :=
  if isAbsolute child then tidy child
  else ofParts (root parent) (tidyParts parent ++ tidyParts child)

/-- The directory that a path is in; that of the top is the top. -/
def parent (p : String) : String := ofParts (root p) (tidyParts p).dropLast

/-- The last component. -/
def name (p : String) : String := (tidyParts p).getLast?.getD ""

/-- What follows the last slash. -/
def baseName (p : String) : String := Text.afterLast '/' p

/-- The last dot of a name and what follows it, unless the dot is its first or last character. -/
def suffixOf (name : List Char) : List Char :=
  let tail := (name.reverse.takeWhile (· != '.')).reverse
  let before := name.length - tail.length - 1
  if tail.length < name.length && 0 < before && !tail.isEmpty then '.' :: tail else []

def suffix (p : String) : String := String.ofList (suffixOf (name p).toList)

end SecurityScan.Path
