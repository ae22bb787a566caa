/-! # What is wrong with a stored document

Decoding reports every field that fails, each with its place in the document. -/

namespace DocSearch

/-- One step from a document to a part of it. -/
inductive Step where
  | key (name : String)
  | index (n : Nat)
  deriving DecidableEq

/-- Why a value is not accepted for a field: a word for reports, and a sentence. -/
structure Mismatch where
  code : String
  message : String
  deriving DecidableEq, Inhabited

/-- A document lacks a field that it has to have. -/
def Mismatch.missing : Mismatch := ⟨"missing", "Field required"⟩

/-- A mismatch at a place. -/
structure Issue where
  path : List Step
  mismatch : Mismatch
  deriving DecidableEq

/-- The issue seen from one step further up. -/
def Issue.under (step : Step) (issue : Issue) : Issue := { issue with path := step :: issue.path }

/-- What was read, or everything that is wrong. -/
abbrev Checked (α : Type) := Except (List Issue) α

namespace Checked

variable {α β : Type}

/-- A single issue at the datum itself. -/
def fail (mismatch : Mismatch) : Checked α := .error [⟨[], mismatch⟩]

/-- The result with its issues seen from one step further up. -/
def under (step : Step) : Checked α → Checked α
  | .ok a => .ok a
  | .error issues => .error (issues.map (Issue.under step))

/-- The issues of a reading. -/
def issues : Checked α → List Issue
  | .ok _ => []
  | .error issues => issues

/-- Both results, or the issues of both. -/
def both : Checked α → Checked β → Checked (α × β)
  | .ok a, .ok b => .ok (a, b)
  | .error es, .ok _ => .error es
  | .ok _, .error fs => .error fs
  | .error es, .error fs => .error (es ++ fs)

end Checked
end DocSearch
