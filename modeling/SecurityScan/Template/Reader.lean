import SecurityScan.Template.Preparation
import SecurityScan.Template.Render
import SecurityScan.Template.Statement

/-!
# Reading templates

A text is a template when it can be read as statements and these can be made into code.
-/

namespace SecurityScan

structure Template where
  code : Template.Code

namespace Template

/-- The template that a text is, or why it is none. -/
def read (source : String) : Except Defect Template := do
  return ⟨← Code.ofStatements (← Reader.statementsOf source)⟩

/-- The text of a template in which names stand for something. -/
def render (t : Template) (names : List (String × Meaning)) : Except Fault String :=
  t.code.render names

end Template

end SecurityScan
