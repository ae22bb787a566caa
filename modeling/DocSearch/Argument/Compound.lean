import DocSearch.Argument.Clause

/-! # Building compound clauses

Clauses are rendered and appended one at a time. When one fails, those before it stay and the rest
is not looked at. A builder that is added to itself is rendered as it stands at that moment, with
what the same call has appended so far. -/

namespace DocSearch

/-- A clause to add: the receiving builder itself, an argument, or an argument that holds the
receiving builder in one of its slots and so changes with it. -/
inductive Addend where
  | receiver
  | given (a : Argument)
  | holding (draw : Compound → Argument)

namespace Compound

/-- An empty builder that asks for a least number of matches. -/
def new (count : Argument) : Except Fault Compound := do
  let minimum ← Setting.minimumShouldMatch.accept count
  return { minimum := minimum }

def setMinimum (c : Compound) (count : Argument) : Except Fault Compound := do
  let minimum ← Setting.minimumShouldMatch.accept count
  return { c with minimum := minimum }

/-- The document that an addend renders to now. -/
def renderAddend (c : Compound) : Addend → Except Fault Document
  | .receiver => .ok c.render
  | .given a => Clause.documentOf a
  | .holding draw => Clause.documentOf (draw c)

/-- The builder after adding clauses under a heading, and the fault that stopped it, if any. -/
def add (c : Compound) (occur : Occur) : List Addend → Compound × Option Fault
  | [] => (c, none)
  | x :: rest =>
    match c.renderAddend x with
    | .error fault => (c, some fault)
    | .ok document => (c.append occur document).add occur rest

/-- One step of building. -/
inductive Call where
  | add (occur : Occur) (clauses : List Addend)
  | setMinimum (count : Argument)

/-- The builder after a call, and the fault it raised, if any. -/
def call (c : Compound) : Call → Compound × Option Fault
  | .add occur clauses => c.add occur clauses
  | .setMinimum count =>
    match c.setMinimum count with
    | .ok c => (c, none)
    | .error fault => (c, some fault)

end Compound
end DocSearch
