import SecurityScan.Fault

/-!
# Changing files

Steps that write files. What a step has written stays when a later one is stopped by a fault.
-/

namespace SecurityScan

open Files (FileSystem)

/-- A step that changes files, writes notes and may stop with a fault. -/
abbrev Edit := ExceptT Fault (StateT FileSystem Noted)

namespace Edit

def note (level : Level) (text : String) : Edit Unit :=
  ExceptT.lift (StateT.lift (SecurityScan.note level text))

/-- A step that only reads. -/
def ofAttempt {α : Type} (x : Attempt α) : Edit α := ExceptT.mk (StateT.lift x.run)

def ofExcept {α : Type} (x : Except Fault α) : Edit α := ExceptT.mk (pure x)

def files : Edit FileSystem := ExceptT.lift get

/-- Stops at a text that is no path. -/
def checkPath (path : String) : Edit Unit :=
  match Files.pathFault? path with
  | some f => throw f
  | none => pure ()

/-- Makes a directory and those above it unless they are there. -/
def ensureDirs (path : String) : Edit Unit := do
  checkPath path
  let (result, after) := (← files).ensureDirs path
  set after
  match result with
  | .ok () => return ()
  | .error f => throw (.file f)

/-- Writes bytes to a file. -/
def writeBytes (path : String) (bytes : Text.Utf8.Bytes) : Edit Unit := do
  checkPath path
  match (← files).write path bytes with
  | .ok after => set after
  | .error f => throw (.file f)

/-- Writes a text to a file, which is left empty when the text has no form as bytes. -/
def writeText (path text : String) : Edit Unit := do
  if Text.hasLoneHalf text then
    writeBytes path []
    throw .unencodable
  else writeBytes path (Text.Utf8.encode text)

/-- Writes a text to a file whose directory is made if need be. -/
def saveText (path text : String) : Edit Unit := do
  ensureDirs (Path.parent path)
  writeText path text

end Edit

end SecurityScan
