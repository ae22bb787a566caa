import DocSearch.Datum.Display
import DocSearch.Search.Journal
import DocSearch.Settings.Search

/-! # Servers

A server is reached through a connection that is opened for an address and closed once. It tells
whether it can be reached and answers pipelines on its collections. What a server does is open: any
of its actions but closing may fail, and each may change it. -/

namespace DocSearch

/-- The place of a collection. -/
structure Namespace where
  database : String
  collection : String
  deriving DecidableEq, Inhabited

namespace Namespace

/-- The name that tells a collection from those of other databases. -/
def fullName (n : Namespace) : String := n.database ++ "." ++ n.collection

end Namespace

/-- What a connection is opened with. -/
structure Connection where
  address : Value
  timeoutMs : Value
  deriving Inhabited

namespace Connection

def options (c : Connection) : Document := [("serverSelectionTimeoutMS", c.timeoutMs)]

/-- The connection that the settings of a search ask for. -/
def ofSettings (s : SearchSettings) : Except Fault Connection :=
  if s.address.truthy then .ok ⟨s.address, s.timeoutMs⟩ else .error .noConnectionText

end Connection

/-- A server whose state is `σ`. -/
structure SearchServer (σ : Type) where
  connect : Connection → Action σ Unit
  ping : Action σ Unit
  aggregate : Namespace → List Document → Action σ (List Datum)
  close : σ → σ

namespace SearchServer

variable {σ : Type}

def collection (server : SearchServer σ) (place : Namespace) : Collection σ where
  aggregate := server.aggregate place

/-- Whether an answered ping means a working connection. A fault of the connection itself means that
there is none; any other is passed on. -/
def reachable : Except Fault Unit → Except Fault Bool
  | .ok () => .ok true
  | .error fault => if fault.kind = .driver then .ok false else .error fault

def isReachable (server : SearchServer σ) : Action σ Bool := do
  let outcome ← server.ping.attempt
  Action.lift (reachable outcome)

end SearchServer

/-- The parts of an executor, outermost first. -/
inductive ExecutorPart where
  | journal (path : String)
  | collection (place : Namespace)
  deriving DecidableEq

/-- Everything that a search for results of one type needs. -/
structure SearchSetup (ρ : Type) where
  connection : Connection
  place : Namespace
  journalPath : Option String
  searcher : Searcher ρ

namespace SearchSetup

variable {σ ρ : Type}

/-- The path that a setting gives, if it gives one. -/
def pathOf : Value → Except Fault (Option String)
  | .null => .ok none
  | .str path => .ok (some (Text.normalPath path))
  | v => .error (.notPath v.kindName)

/-- The setup that settings describe. -/
def of (type : ResultType ρ) (s : SearchSettings) : Except Fault (SearchSetup ρ) := do
  let connection ← Connection.ofSettings s
  let journalPath ← pathOf s.journalPath
  return {
    connection := connection
    place := ⟨s.database.display, s.collection.display⟩
    journalPath := journalPath
    searcher := ⟨type, s.searchIndex⟩ }

def parts (setup : SearchSetup ρ) : List ExecutorPart :=
  (setup.journalPath.map ExecutorPart.journal).toList ++ [.collection setup.place]

/-- The executor of a setup. Without a path the journal is left alone. -/
def executor (setup : SearchSetup ρ) (server : SearchServer σ) (stamp : σ → String) :
    Executor (Journal × σ) ρ :=
  let inner := (server.collection setup.place).executor
  match setup.journalPath with
  | some _ => inner.journaled stamp
  | none => { run := fun stages type => (inner.run stages type).onSecond }

end SearchSetup
end DocSearch
