import DocSearch.Argument.Compound

/-! # Named builders

Several compound builders at work side by side, each under a name. A builder can be added to another
or to itself by name: it is rendered at that moment, so no later step on it shows in what it was
added to. -/

namespace DocSearch

/-- A clause to add: a builder by its name, an argument, or an argument that holds the receiving
builder in one of its slots. -/
inductive NamedAddend where
  | builder (name : String)
  | given (a : Argument)
  | holding (draw : Compound → Argument)

/-- The builders by name, in the order of their creation. -/
abbrev Builders := List (String × Compound)

namespace Builders

def get? (name : String) (store : Builders) : Option Compound := store.lookup name

/-- The store with a builder under a name, in the place of an earlier one of that name. -/
def set (name : String) (c : Compound) : Builders → Builders
  | [] => [(name, c)]
  | (n, d) :: rest => if n = name then (n, c) :: rest else (n, d) :: set name c rest

/-- One step of work on the store. -/
inductive Step where
  | create (name : String) (count : Argument)
  | add (name : String) (occur : Occur) (clauses : List NamedAddend)
  | setMinimum (name : String) (count : Argument)
  | look (name : String)

namespace Step

/-- The builder that a step works on. -/
def target : Step → String
  | .create name _ | .add name _ _ | .setMinimum name _ | .look name => name

end Step

/-- What a named clause is for the builder `receiver`. -/
def addend (store : Builders) (receiver : String) : NamedAddend → Except Fault Addend
  | .given a => .ok (.given a)
  | .holding draw => .ok (.holding draw)
  | .builder name =>
    if name = receiver then .ok .receiver
    else match store.get? name with
      | some c => .ok (.given (.made (.builder name c)))
      | none => .error (.missingKey name)

/-- The store after a step, and the fault the step raised, if any. A builder that cannot be created
leaves an earlier one of its name in place. -/
def step (store : Builders) : Step → Builders × Option Fault
  | .create name count =>
    match Compound.new count with
    | .ok c => (store.set name c, none)
    | .error fault => (store, some fault)
  | .add name occur clauses =>
    match store.get? name with
    | none => (store, some (.missingKey name))
    | some c =>
      match clauses.mapM (store.addend name) with
      | .error fault => (store, some fault)
      | .ok addends =>
        let (c, fault) := c.add occur addends
        (store.set name c, fault)
  | .setMinimum name count =>
    match store.get? name with
    | none => (store, some (.missingKey name))
    | some c =>
      match c.setMinimum count with
      | .ok c => (store.set name c, none)
      | .error fault => (store, some fault)
  | .look name =>
    match store.get? name with
    | none => (store, some (.missingKey name))
    | some _ => (store, none)

end Builders
end DocSearch
