/-!
# Notes

What a run tells its user on the way: records with a level, in the order they are written.
-/

namespace SecurityScan

inductive Level
  | info
  | warning
  | error
deriving DecidableEq

structure Note where
  level : Level
  text : String
deriving DecidableEq

/-- What stands in a note for a detail that it does not spell out. -/
def Note.omitted (name : String) : String := "<" ++ name ++ ">"

/-- A result and the notes written while it was found. -/
structure Noted (α : Type u) where
  value : α
  notes : List Note

namespace Noted

/-- The notes of the first step stand before those of the second. -/
instance : Monad Noted where
  pure a := ⟨a, []⟩
  bind x f := ⟨(f x.value).value, x.notes ++ (f x.value).notes⟩

@[simp] theorem value_pure {α : Type u} (a : α) : (pure a : Noted α).value = a := rfl

@[simp] theorem notes_pure {α : Type u} (a : α) : (pure a : Noted α).notes = [] := rfl

@[simp] theorem value_bind {α β : Type u} (x : Noted α) (f : α → Noted β) :
    (x >>= f).value = (f x.value).value := rfl

@[simp] theorem notes_bind {α β : Type u} (x : Noted α) (f : α → Noted β) :
    (x >>= f).notes = x.notes ++ (f x.value).notes := rfl

end Noted

/-- One note. -/
def note (level : Level) (text : String) : Noted Unit := ⟨(), [⟨level, text⟩]⟩

end SecurityScan
