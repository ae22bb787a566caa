import DocSearch.Argument.Basic

/-! # Default projections

Each kind of result may have a default projection, registered once and before it is first asked for.
It is resolved when it is first needed and then kept, also when there is none. A default may be a
factory; a resolution that fails is not kept, so the next one calls the factory again.

Resolving takes three steps, each of which leaves the defaults in order: a look at what is kept, a
call of the default, and keeping its answer unless another has been kept meanwhile. Callers on
several threads may take turns with these steps. -/

namespace DocSearch

/-- A kind of result, as defaults are kept by it. Two kinds may share a name. -/
structure ResultKey where
  id : String
  name : String
  deriving DecidableEq, Inhabited

/-- A registered default: a value, or a factory that is told how often it was called before. -/
inductive DefaultSource where
  | fixed (a : Argument)
  | factory (call : Nat → Except Fault Argument)

/-- A default with the number of calls that its factory has had. -/
structure Registration where
  source : DefaultSource
  calls : Nat

/-- How far a caller has come with its resolution. -/
inductive Resolving where
  | waiting
  /-- Nothing was kept when the caller looked; it is about to call the default. -/
  | asking
  /-- The default has answered, and the answer is about to be kept. -/
  | holding (spec : Option Projection)
  | returned (spec : Option Projection)
  | failed (fault : Fault)

namespace Resolving

/-- What becomes of a caller whose default has answered. -/
def answered : Except Fault (Option Projection) → Resolving
  | .ok spec => .holding spec
  | .error fault => .failed fault

/-- A resolution that is over. -/
def ended : Except Fault (Option Projection) → Resolving
  | .ok spec => .returned spec
  | .error fault => .failed fault

end Resolving

/-- The registered defaults, and the answers kept so far. -/
structure Defaults where
  registrations : List (ResultKey × Registration) := []
  resolved : List (ResultKey × Option Projection) := []

namespace Defaults

def registration? (r : Defaults) (key : ResultKey) : Option Registration :=
  r.registrations.lookup key

def isRegistered (r : Defaults) (key : ResultKey) : Bool := (r.registration? key).isSome

/-- What is kept for a kind: nothing yet, or an answer. -/
def kept? (r : Defaults) (key : ResultKey) : Option (Option Projection) := r.resolved.lookup key

/-- The defaults with a default for a kind that had none and was not asked for. -/
def register (r : Defaults) (key : ResultKey) (source : DefaultSource) : Except Fault Defaults :=
  if r.isRegistered key then .error (.alreadyRegistered key.name)
  else if (r.kept? key).isSome then .error (.alreadyResolved key.name)
  else .ok { r with registrations := r.registrations ++ [(key, ⟨source, 0⟩)] }

/-- The defaults after one more call of a kind's factory. -/
def countCall (r : Defaults) (key : ResultKey) : Defaults :=
  { r with
    registrations := r.registrations.map fun (k, registration) =>
      if k = key then (k, { registration with calls := registration.calls + 1 })
      else (k, registration) }

/-- The projection that a default gave, if it gave one. -/
def specOf (key : ResultKey) : Argument → Except Fault (Option Projection)
  | .null => .ok none
  | .made (.projection p) => .ok (some p)
  | a => .error (.notProjection key.name a.kindName)

/-- The answer of a kind's default, and the defaults after asking it. -/
def ask (r : Defaults) (key : ResultKey) : Except Fault (Option Projection) × Defaults :=
  match r.registration? key with
  | none => (.ok none, r)
  | some ⟨.fixed a, _⟩ => (specOf key a, r)
  | some ⟨.factory call, calls⟩ => (call calls >>= specOf key, r.countCall key)

/-- The answer that is kept once this one has come in: an earlier one wins. -/
def keep (r : Defaults) (key : ResultKey) (spec : Option Projection) :
    Option Projection × Defaults :=
  match r.kept? key with
  | some earlier => (earlier, r)
  | none => (spec, { r with resolved := r.resolved ++ [(key, spec)] })

/-- The default projection of a kind, and the defaults after asking for it. -/
def resolve (r : Defaults) (key : ResultKey) : Except Fault (Option Projection) × Defaults :=
  match r.kept? key with
  | some spec => (.ok spec, r)
  | none =>
    match r.ask key with
    | (.error fault, r) => (.error fault, r)
    | (.ok spec, r) =>
      let (spec, r) := r.keep key spec
      (.ok spec, r)

/-- How far a caller is after its next step, and the defaults after it. -/
def advance (r : Defaults) (key : ResultKey) : Resolving → Resolving × Defaults
  | .waiting =>
    match r.kept? key with
    | some spec => (.returned spec, r)
    | none => (.asking, r)
  | .asking =>
    let (answer, r) := r.ask key
    (.answered answer, r)
  | .holding spec =>
    let (spec, r) := r.keep key spec
    (.returned spec, r)
  | .returned spec => (.returned spec, r)
  | .failed fault => (.failed fault, r)

/-- The projection document of a search: of what is given for a projection, else of the default. Only
the second looks into the defaults. -/
def projectionFor (r : Defaults) (key : ResultKey) (projection : Argument) :
    Except Fault (Option Value) × Defaults :=
  match projection.ifGiven with
  | some given => (given.render.map some, r)
  | none =>
    match r.resolve key with
    | (.error fault, r) => (.error fault, r)
    | (.ok none, r) => (.ok none, r)
    | (.ok (some spec), r) => (spec.render.map fun document => some (.object document), r)

/-- Register a default as part of declaring a kind of result; the kind is handed back. -/
def declare (r : Defaults) (key : ResultKey) (source : DefaultSource) :
    Except Fault (ResultKey × Defaults) := (r.register key source).map fun r => (key, r)

/-- A call on the defaults. -/
inductive Call where
  | register (key : ResultKey) (source : DefaultSource)
  | declare (key : ResultKey) (source : DefaultSource)
  | isRegistered (key : ResultKey)
  | resolve (key : ResultKey)
  | projectionFor (key : ResultKey) (projection : Argument)

/-- What a call on the defaults answers. -/
inductive Answer where
  | registered
  | declared (key : ResultKey)
  | flag (b : Bool)
  | spec (spec : Option Projection)
  | document (document : Option Value)

/-- The answer of a call, and the defaults after it. -/
def call (r : Defaults) : Call → Except Fault Answer × Defaults
  | .register key source =>
    match r.register key source with
    | .error fault => (.error fault, r)
    | .ok r => (.ok .registered, r)
  | .declare key source =>
    match r.declare key source with
    | .error fault => (.error fault, r)
    | .ok (key, r) => (.ok (.declared key), r)
  | .isRegistered key => (.ok (.flag (r.isRegistered key)), r)
  | .resolve key =>
    let (spec, r) := r.resolve key
    (spec.map .spec, r)
  | .projectionFor key projection =>
    let (document, r) := r.projectionFor key projection
    (document.map .document, r)

end Defaults
end DocSearch
