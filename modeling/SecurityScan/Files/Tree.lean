import SecurityScan.Path
import SecurityScan.Text.Quoted
import SecurityScan.Text.Utf8

/-!
# File trees

Files, directories and symbolic links below one top directory, with the rules by which a path
leads to one of them. Links are followed, at most forty on the way.
-/

namespace SecurityScan.Files

open Text.Utf8 (Bytes)

inductive Node
  | file (bytes : Bytes)
  | dir (entries : List (String × Node))
  | link (target : String)

abbrev Dir := List (String × Node)

inductive Problem
  | notFound
  | alreadyExists
  | notDirectory
  | isDirectory
  | nameTooLong
  | tooManyLinks
deriving DecidableEq

/-- A problem with a path, which stands as it was given. -/
structure Failure where
  problem : Problem
  path : String
deriving DecidableEq

def Problem.code : Problem → Nat
  | .notFound => 2
  | .alreadyExists => 17
  | .notDirectory => 20
  | .isDirectory => 21
  | .nameTooLong => 36
  | .tooManyLinks => 40

def Problem.text : Problem → String
  | .notFound => "No such file or directory"
  | .alreadyExists => "File exists"
  | .notDirectory => "Not a directory"
  | .isDirectory => "Is a directory"
  | .nameTooLong => "File name too long"
  | .tooManyLinks => "Too many levels of symbolic links"

def Failure.message (f : Failure) : String :=
  "[Errno " ++ toString f.problem.code ++ "] " ++ f.problem.text ++ ": " ++ Text.quoted f.path

/-- A tree and the directory that relative paths start from, an absolute path without links. -/
structure FileSystem where
  top : Dir
  cwd : String

/-! ## Finding -/

def Dir.child? (d : Dir) (name : String) : Option Node := d.lookup name

/-- The directory at the end of a list of names, no link among them; empty when there is none. -/
def Dir.at : Dir → List String → Dir
  | d, [] => d
  | d, n :: ns =>
    match d.child? n with
    | some (.dir es) => Dir.at es ns
    | _ => []

/-- What a path leads to. Locations are lists of names from the top, without links. -/
inductive Place
  | file (location : List String) (bytes : Bytes)
  | directory (location : List String) (entries : Dir)
  /-- Nothing has this name yet, but its directory is there. -/
  | vacant (location : List String)

/-- Linux names have at most 255 bytes. -/
def isNameTooLong (name : String) : Bool := 255 < name.utf8ByteSize

/--
Follows names from the directory `here`, whose location is reversed. Every link that is followed
takes one from `links`.
-/
def walk (top : Dir) (links : Nat) (here : List String) (todo : List String) :
    Except Problem Place :=
  match todo with
  | [] => .ok (.directory here.reverse (top.at here.reverse))
  | name :: rest =>
    if name = "" ∨ name = "." then walk top links here rest
    else if name = ".." then walk top links here.tail rest
    else if isNameTooLong name then .error .nameTooLong
    else
      match (top.at here.reverse).child? name with
      | none => if rest.isEmpty then .ok (.vacant (name :: here).reverse) else .error .notFound
      | some (.dir _) => walk top links (name :: here) rest
      | some (.file bytes) =>
        if rest.isEmpty then .ok (.file (name :: here).reverse bytes) else .error .notDirectory
      | some (.link target) =>
        match links with
        | 0 => .error .tooManyLinks
        | n + 1 =>
          walk top n (if Path.isAbsolute target then [] else here)
            (Text.splitOn '/' target ++ rest)
termination_by (links, todo.length)

namespace FileSystem

def maxLinks : Nat := 40

/-- A path has fewer bytes than this. -/
def maxPath : Nat := 4096

def find (fs : FileSystem) (path : String) : Except Problem Place :=
  if path == "" then .error .notFound
  else if maxPath ≤ path.utf8ByteSize then .error .nameTooLong
  else
    let start := if Path.isAbsolute path then [] else (Path.names fs.cwd).reverse
    walk fs.top maxLinks start (Text.splitOn '/' path)

def isFile (fs : FileSystem) (path : String) : Bool :=
  match fs.find path with
  | .ok (.file ..) => true
  | _ => false

def isDir (fs : FileSystem) (path : String) : Bool :=
  match fs.find path with
  | .ok (.directory ..) => true
  | _ => false

/-- Whether a path leads to a file or a directory. -/
def isThere (fs : FileSystem) (path : String) : Bool := fs.isFile path || fs.isDir path

/-- The contents of the file at a path. -/
def read (fs : FileSystem) (path : String) : Except Failure Bytes :=
  match fs.find path with
  | .ok (.file _ bytes) => .ok bytes
  | .ok (.directory ..) => .error ⟨.isDirectory, path⟩
  | .ok (.vacant _) => .error ⟨.notFound, path⟩
  | .error p => .error ⟨p, path⟩

end FileSystem

/-! ## Changing -/

/-- A directory with `node` under `name`, in the place of what had that name. -/
def Dir.put (d : Dir) (name : String) (node : Node) : Dir :=
  match d with
  | [] => [(name, node)]
  | e :: rest => if e.1 == name then (name, node) :: rest else e :: Dir.put rest name node

/-- `node` at a location whose directories are all there. -/
def Dir.putAt : Dir → List String → Node → Dir
  | d, [], _ => d
  | d, [n], node => d.put n node
  | d, n :: ns, node =>
    match d.child? n with
    | some (.dir es) => d.put n (.dir (Dir.putAt es ns node))
    | _ => d

namespace FileSystem

/-- Writes a file, new or in the place of another one. -/
def write (fs : FileSystem) (path : String) (bytes : Bytes) : Except Failure FileSystem :=
  match fs.find path with
  | .ok (.file location _) | .ok (.vacant location) =>
    .ok { fs with top := fs.top.putAt location (.file bytes) }
  | .ok (.directory ..) => .error ⟨.isDirectory, path⟩
  | .error p => .error ⟨p, path⟩

/-- Makes one directory; its parent has to be there and its name to be free. -/
def makeDir (fs : FileSystem) (path : String) : Except Failure FileSystem :=
  match (Path.tidyParts path).getLast? with
  | none => .error ⟨.alreadyExists, path⟩
  | some name =>
    if name == ".." then
      match fs.find path with
      | .error p => .error ⟨p, path⟩
      | .ok (.vacant _) => .error ⟨.notFound, path⟩
      | .ok _ => .error ⟨.alreadyExists, path⟩
    else
      match fs.find (Path.parent path) with
      | .error p => .error ⟨p, path⟩
      | .ok (.vacant _) => .error ⟨.notFound, path⟩
      | .ok (.file ..) => .error ⟨.notDirectory, path⟩
      | .ok (.directory location entries) =>
        if isNameTooLong name then .error ⟨.nameTooLong, path⟩
        else if (entries.child? name).isSome then .error ⟨.alreadyExists, path⟩
        else .ok { fs with top := fs.top.putAt (location ++ [name]) (.dir []) }

/-- Makes a directory unless it is there. -/
def ensureDir (fs : FileSystem) (path : String) : Except Failure FileSystem :=
  match fs.makeDir path with
  | .ok fs => .ok fs
  | .error f => if f.problem != .notFound && fs.isDir path then .ok fs else .error f

/--
Makes a directory and those above it, going up at most `depth` of them. What was made stays
when a later step fails.
-/
def ensureDirsUp (depth : Nat) (fs : FileSystem) (path : String) :
    Except Failure Unit × FileSystem :=
  match fs.ensureDir path with
  | .ok fs => (.ok (), fs)
  | .error f =>
    match depth with
    | 0 => (.error f, fs)
    | d + 1 =>
      if f.problem == .notFound && Path.parent path != path then
        match ensureDirsUp d fs (Path.parent path) with
        | (.error f, fs) => (.error f, fs)
        | (.ok (), fs) =>
          match fs.ensureDir path with
          | .ok fs => (.ok (), fs)
          | .error f => (.error f, fs)
      else (.error f, fs)

def ensureDirs (fs : FileSystem) (path : String) : Except Failure Unit × FileSystem :=
  ensureDirsUp ((Path.tidyParts path).length + 1) fs path

end FileSystem

end SecurityScan.Files
