import DocSearch.Index.Maintenance

/-! # An index service in memory

A deployment without a server. An index that is dropped may linger: it stays listed for a number of
listings of its collection, or for ever. The clock moves by sleeping only. -/

namespace DocSearch

/-- How long a dropped index stays listed. -/
inductive Linger where
  /-- It is listed this many times more. -/
  | listings (n : Nat)
  | forever
  deriving DecidableEq, Inhabited

/-- The indexes of one collection, and what was done to them. -/
structure SandboxCollection where
  indexes : List Document := []
  linger : Linger := .listings 0
  /-- The dropped indexes that are still listed. -/
  leaving : List (String × Linger) := []
  created : List Document := []
  dropped : List String := []
  /-- Whether the collection was ever asked for its indexes. -/
  visited : Bool := false
  deriving Inhabited

namespace SandboxCollection

def isNamed (name : String) (index : Document) : Bool :=
  match index.get? "name" with
  | some (.str s) => s == name
  | _ => false

/-- The indexes with one more: in the place of one of its name, else at the end. -/
def putIndex (name : String) (index : Document) : List Document → List Document
  | [] => [index]
  | old :: rest => if isNamed name old then index :: rest else old :: putIndex name index rest

/-- The indexes of a list, the last of each name in the place of the first. -/
def ofIndexes (indexes : List Document) (linger : Linger) : SandboxCollection where
  indexes := indexes.foldl
    (fun acc index =>
      match index.get? "name" with
      | some (.str name) => putIndex name index acc
      | _ => acc ++ [index]) []
  linger := linger

def remove (name : String) (c : SandboxCollection) : SandboxCollection :=
  { c with
    indexes := c.indexes.filter fun index => !isNamed name index
    leaving := c.leaving.filter fun entry => entry.1 != name }

/-- The indexes that leave with this listing. -/
def due (c : SandboxCollection) : List String :=
  c.leaving.filterMap fun (name, linger) => if linger = .listings 0 then some name else none

/-- What a listing leaves behind. -/
def afterListing (c : SandboxCollection) : SandboxCollection :=
  let c := c.due.foldl (fun c name => c.remove name) c
  { c with
    leaving := c.leaving.map fun (name, linger) =>
      match linger with
      | .listings n => (name, .listings (n - 1))
      | .forever => (name, .forever)
    visited := true }

def create (name : String) (definition : Document) (c : SandboxCollection) : SandboxCollection :=
  { c with
    indexes := putIndex name [("name", .str name), ("status", .str "PENDING")] c.indexes
    created := c.created ++ [[("name", .str name), ("definition", .object definition)]] }

def drop (name : String) (c : SandboxCollection) : SandboxCollection :=
  let c := { c with dropped := c.dropped ++ [name] }
  match c.linger with
  | .listings 0 => c.remove name
  | linger =>
    { c with leaving := (c.leaving.filter fun entry => entry.1 != name) ++ [(name, linger)] }

end SandboxCollection

/-- The collections by full name, the clock and the sleeps so far, the latest first. -/
structure Sandbox (τ : Type) where
  collections : List (String × SandboxCollection)
  clock : τ
  slept : List τ

namespace Sandbox

variable {τ : Type}

def new [Clock τ] (collections : List (String × SandboxCollection)) : Sandbox τ :=
  ⟨collections, Clock.zero, []⟩

/-- The sandbox with its clock set back and no sleeps. -/
def restart [Clock τ] (s : Sandbox τ) : Sandbox τ := { s with clock := Clock.zero, slept := [] }

/-- The sleeps in order. -/
def sleeps (s : Sandbox τ) : List τ := s.slept.reverse

def collection (s : Sandbox τ) (place : Namespace) : SandboxCollection :=
  (s.collections.lookup place.fullName).getD {}

/-- The collections with one of them set. -/
def put (name : String) (c : SandboxCollection) :
    List (String × SandboxCollection) → List (String × SandboxCollection)
  | [] => [(name, c)]
  | (n, d) :: rest => if n = name then (n, c) :: rest else (n, d) :: put name c rest

def update (place : Namespace) (f : SandboxCollection → SandboxCollection) (s : Sandbox τ) :
    Sandbox τ :=
  { s with collections := put place.fullName (f (s.collection place)) s.collections }

/-- The collections that were visited, by name. -/
def visited (s : Sandbox τ) : List (String × SandboxCollection) :=
  (s.collections.filter fun entry => entry.2.visited).mergeSort fun a b => decide (a.1 ≤ b.1)

/-- A sleep is noted before the clock moves. The clock may not be able to. -/
def sleep [Clock τ] (span : τ) : Action (Sandbox τ) Unit := do
  Action.modify fun s => { s with slept := span :: s.slept }
  let now ← Action.look fun s => s.clock
  let later ← Action.lift (Clock.add now span)
  Action.modify fun s => { s with clock := later }

/-- The service of a sandbox. None of its actions but sleeping fails. -/
def service [Clock τ] : IndexService (Sandbox τ) τ where
  list place name := do
    Action.modify (update place SandboxCollection.afterListing)
    Action.look fun s => (s.collection place).indexes.filter (SandboxCollection.isNamed name)
  create place name definition :=
    Action.modify (update place (SandboxCollection.create name definition))
  drop place name := Action.modify (update place (SandboxCollection.drop name))
  now s := s.clock
  sleep := sleep

end Sandbox
end DocSearch
