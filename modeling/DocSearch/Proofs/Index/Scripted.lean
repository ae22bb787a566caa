import DocSearch.Index.Command
import DocSearch.Proofs.Index.Course

/-! # A service that fails by a script

A deployment that is known by its indexes alone and fails where a script has it: the next call fails,
and has no effect, if the next item of the script says so. After the script no call fails. -/

namespace DocSearch

/-- The indexes by the full name of the collection and their own name, and the script. -/
structure Scripted where
  index : String → String → Option Document
  faults : List Bool

namespace Scripted

variable {τ α : Type}

def fault : Fault := .external .driver "the call failed"

/-- A call that fails if the script says so, else does its work. -/
def call (work : Action Scripted α) : Action Scripted α := fun s =>
  match s.faults with
  | [] => work s
  | true :: rest => (.error fault, { s with faults := rest })
  | false :: rest => work { s with faults := rest }

/-- The indexes with one of them set. -/
def put (collection name : String) (entry : Option Document)
    (index : String → String → Option Document) : String → String → Option Document :=
  fun c n => if c = collection ∧ n = name then entry else index c n

/-- What is listed of an index that was created with a definition. -/
def made (name : String) (definition : Document) : Document :=
  [("name", .str name), ("latestDefinition", .object definition)]

def set (place : Namespace) (name : String) (entry : Option Document) : Action Scripted Unit :=
  Action.modify fun s => { s with index := put place.fullName name entry s.index }

def service [Clock τ] : IndexService Scripted τ where
  list place name := call (Action.look fun s => (s.index place.fullName name).toList)
  create place name definition := call (set place name (some (made name definition)))
  drop place name := call (set place name none)
  now _ := Clock.zero
  sleep _ := pure ()

/-- What a call does to the indexes, its work does; a call that fails leaves them as they are. -/
theorem call_cases (work : Action Scripted α) (s : Scripted) :
    ((call work).run s).1 = .error fault ∧ ((call work).run s).2.index = s.index ∨
      ∃ rest, (call work).run s = work.run { s with faults := rest } := by
  obtain ⟨index, faults⟩ := s
  cases faults with
  | nil => exact .inr ⟨[], rfl⟩
  | cons first rest =>
    cases first with
    | true => exact .inl ⟨rfl, rfl⟩
    | false => exact .inr ⟨rest, rfl⟩

theorem index_list (place : Namespace) (name : String) (s : Scripted) :
    ((call (Action.look fun s => (s.index place.fullName name).toList)).run s).2.index
      = s.index := by
  rcases call_cases (Action.look fun s => (s.index place.fullName name).toList) s with h | ⟨rest, h⟩
  · exact h.2
  · exact congrArg (fun r => r.2.index) h

theorem index_set_of_ne {place : Namespace} {name collection other : String}
    (h : ¬ (collection = place.fullName ∧ other = name)) (entry : Option Document)
    (s : Scripted) :
    ((call (set place name entry)).run s).2.index collection other = s.index collection other := by
  rcases call_cases (set place name entry) s with hc | ⟨rest, hc⟩
  · exact congrFun (congrFun hc.2 collection) other
  · rw [hc]
    exact if_neg h

/-- Every call changes at most the index that it names. -/
def inventory [Clock τ] : Inventory (service : IndexService Scripted τ) (Option Document) where
  index := Scripted.index
  list s place name := index_list place name s
  sleep _ _ := rfl
  create s _ _ _ _ _ ho := index_set_of_ne ho _ s
  drop s _ _ _ _ ho := index_set_of_ne ho _ s

/-- A server whose connections never fail, with a service that fails by the script. -/
def server : IndexServer Scripted where
  connect _ := pure ()
  ping := pure ()
  address := pure none
  service := service

end Scripted
end DocSearch
