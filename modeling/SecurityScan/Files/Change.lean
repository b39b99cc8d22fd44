import SecurityScan.Files.Tree

/-!
# Changes

What has to be written where a tree is kept, so that it becomes the tree that edits made of it.
Edits add directories and write files; they take nothing away.
-/

namespace SecurityScan.Files

open Text.Utf8 (Bytes)

/-- One thing to write at an absolute path. -/
inductive Change
  | makeDir (path : String)
  | write (path : String) (bytes : Bytes)
deriving DecidableEq

mutual

/-- The changes at one path, where `old` stood before. A directory comes before what is in it. -/
def Node.changes (path : String) (old : Option Node) : Node → List Change
  | .file bytes =>
    match old with
    | some (.file before) => if before = bytes then [] else [.write path bytes]
    | _ => [.write path bytes]
  | .dir entries =>
    match old with
    | some (.dir before) => changesOfEntries path before entries
    | _ => .makeDir path :: changesOfEntries path [] entries
  | .link _ => []

def changesOfEntries (path : String) (old : Dir) : List (String × Node) → List Change
  | [] => []
  | (name, node) :: rest =>
    node.changes (path ++ "/" ++ name) (old.child? name) ++ changesOfEntries path old rest

end

namespace FileSystem

/-- What turns `old` into `new`. -/
def changes (old new : FileSystem) : List Change := changesOfEntries "" old.top new.top

end FileSystem

/-- Names of directories, the last of them with these entries. -/
def Dir.below (names : List String) (entries : Dir) : Dir :=
  names.foldr (fun name d => [(name, .dir d)]) entries

end SecurityScan.Files
