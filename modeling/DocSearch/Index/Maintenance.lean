import DocSearch.Action
import DocSearch.Datum.Span
import DocSearch.Index.Target

/-! # Index maintenance

Creating, dropping and rebuilding the managed indexes through the service of a deployment. The
service drops an index in its own time: after a drop the index may stay listed for a while, so a
rebuild waits, with a deadline, until it sees every dropped index gone, and creates none unless it
does. -/

namespace DocSearch

/-- What a deployment offers for the indexes of its collections, and the clock that waiting is done
by. -/
structure IndexService (σ τ : Type) where
  /-- The indexes of a collection that have a name. -/
  list : Namespace → String → Action σ (List Document)
  /-- Create an index with a name and a definition. -/
  create : Namespace → String → Document → Action σ Unit
  drop : Namespace → String → Action σ Unit
  now : σ → τ
  sleep : τ → Action σ Unit

/-- What is known about the index of a target. -/
structure IndexReport where
  name : String
  place : Namespace
  found : Option Document
  deriving Inhabited

namespace IndexReport

def isPresent (i : IndexReport) : Bool := i.found.isSome

/-- The state that the service reports for an index. -/
def status (i : IndexReport) : Value :=
  match i.found with
  | none => .str "-"
  | some index => (index.get? "status").getD (.str "UNKNOWN")

def isQueryable (i : IndexReport) : Bool :=
  match i.found with
  | none => false
  | some index => ((index.get? "queryable").getD (.bool false)).truthy

end IndexReport

/-- Index work on a deployment: where the indexes are, and how long to sleep between two looks at an
index that is being dropped. -/
structure IndexWork (σ τ : Type) where
  service : IndexService σ τ
  settings : IndexSettings
  poll : τ

namespace IndexWork

variable {σ τ : Type} [Clock τ] (w : IndexWork σ τ)

/-- The managed index of a collection, if it is listed. -/
def find (place : Namespace) : Action σ (Option Document) := do
  let listed ← w.service.list place w.settings.indexName
  return listed.head?

def info (target : Target) : Action σ IndexReport := do
  let place := target.place w.settings
  let found ← w.find place
  return ⟨w.settings.indexName, place, found⟩

/-- The answers of a piece of work for each of some targets, in order. -/
def forEach {α : Type} (work : Target → Action σ α) : List Target → Action σ (List (Target × α))
  | [] => pure []
  | target :: rest => do
    let answer ← work target
    let answers ← forEach work rest
    return (target, answer) :: answers

def status : Action σ (List (Target × IndexReport)) := forEach w.info Target.managed

/-- Create the index of a target. One that is listed already is left as it is, or is a fault. -/
def create (skipExisting : Bool) (target : Target) : Action σ Bool := do
  let place := target.place w.settings
  match ← w.find place with
  | some _ =>
    if skipExisting then return true
    else Action.fail (.indexExists w.settings.indexName)
  | none =>
    let definition ← Action.lift target.definition
    w.service.create place w.settings.indexName definition
    return true

def createAll (skipExisting : Bool) : Action σ (List (Target × Bool)) :=
  forEach (w.create skipExisting) Target.managed

def isGone (place : Namespace) : Action σ Bool := do
  let found ← w.find place
  return found.isNone

/-- Look, sleep and look again until the index of a collection is gone or the deadline has passed,
then look a last time. `fuel` bounds the sleeps. -/
def waitUntil (place : Namespace) (deadline : τ) : Nat → Action σ Bool
  | 0 => w.isGone place
  | fuel + 1 => do
    let now ← Action.look w.service.now
    if Clock.lt now deadline then
      if ← w.isGone place then return true
      w.service.sleep w.poll
      waitUntil place deadline fuel
    else w.isGone place

/-- Whether the index of a collection is seen gone within a span of time. -/
def waitUntilGone (place : Namespace) (span : τ) : Action σ Bool := do
  let now ← Action.look w.service.now
  let deadline ← Action.lift (Clock.add now span)
  w.waitUntil place deadline (Clock.rounds span w.poll)

/-- Drop the index of a target if it is listed. With a positive span, the answer tells whether it was
seen gone in time. What is given for a span may be none; that shows once the index is dropped. -/
def drop (span : τ) (target : Target) : Action σ Bool := do
  let place := target.place w.settings
  match ← w.find place with
  | none => return true
  | some _ =>
    w.service.drop place w.settings.indexName
    if ← Action.lift (Clock.isPositive span) then w.waitUntilGone place span else return true

def dropAll (span : τ) : Action σ (List (Target × Bool)) := forEach (w.drop span) Target.managed

/-- Whether every answer is favourable. -/
def allDone (answers : List (Target × Bool)) : Bool := answers.all (·.2)

/-- Drop all managed indexes and create them anew. If one is not gone in time, none is created and
the answers are those of dropping. -/
def recreateAll (span : τ) : Action σ (List (Target × Bool)) := do
  let dropped ← w.dropAll span
  if allDone dropped then w.createAll false else return dropped

end IndexWork

/-- A piece of index work. -/
inductive IndexOperation (τ : Type) where
  | status
  | info (target : Target)
  | create (target : Target) (skipExisting : Bool)
  | createAll (skipExisting : Bool)
  | drop (target : Target) (span : τ)
  | dropAll (span : τ)
  | recreateAll (span : τ)

/-- What a piece of index work answers. -/
inductive IndexAnswer where
  | info (info : IndexReport)
  | infos (infos : List (Target × IndexReport))
  | done (success : Bool)
  | doneEach (successes : List (Target × Bool))

namespace IndexWork

variable {σ τ : Type} [Clock τ] (w : IndexWork σ τ)

def perform : IndexOperation τ → Action σ IndexAnswer
  | .status => do return .infos (← w.status)
  | .info target => do return .info (← w.info target)
  | .create target skipExisting => do return .done (← w.create skipExisting target)
  | .createAll skipExisting => do return .doneEach (← w.createAll skipExisting)
  | .drop target span => do return .done (← w.drop span target)
  | .dropAll span => do return .doneEach (← w.dropAll span)
  | .recreateAll span => do return .doneEach (← w.recreateAll span)

end IndexWork

/-- The sleep between two looks, in seconds. -/
def standardPoll : Datum := .float (Double.ofInt 2)

/-- The longest wait of a rebuild that names none, in seconds. -/
def standardRebuildWait : Datum := .int 120

/-- The longest wait of a drop that names none: it does not wait. -/
def standardDropWait : Datum := .int 0

end DocSearch
