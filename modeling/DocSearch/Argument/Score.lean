import DocSearch.Argument.Terms

/-! # Score options from arguments -/

namespace DocSearch

namespace BoostScore

def of (value path fallback : Argument) : Except Fault BoostScore :=
  match value, path with
  | .null, .null => .ok ⟨.unset, fallback.datum⟩
  | .null, path => (FieldPath.of path).map fun field => ⟨.path field, fallback.datum⟩
  | value, .null => .ok ⟨.value value.datum, fallback.datum⟩
  | _, _ => .error .twoBoosts

end BoostScore

namespace EmbeddedScore

def aggregateOf (a : Argument) : Except Fault Aggregate :=
  match a with
  | .str s =>
    match Aggregate.ofName? s with
    | some aggregate => .ok aggregate
    | none => .error (.unknownAggregate s)
  | a => .error (.unknownAggregate a.display)

/-- Options for the document around the embedded ones: those of the plain role, so that embedding
is never nested. -/
def outerScopeOf : Argument → Except Fault (Option (Option Adjustment))
  | .null => .ok none
  | .made (.score ⟨.plain, none⟩) => .ok (some none)
  | .made (.score ⟨.plain, some (.adjustment a)⟩) => .ok (some (some a))
  | _ => .error .notOuterScope

def of (aggregate outerScope : Argument) : Except Fault EmbeddedScore := do
  let aggregate ← aggregateOf aggregate
  let outerScope ← outerScopeOf outerScope
  return ⟨aggregate, outerScope⟩

end EmbeddedScore

namespace ScoreOptions

/-- An options object around a strategy, if its role may hold it. -/
def ofStrategy (role : ScoreRole) (s : Strategy) : Except Fault ScoreOptions :=
  if s.fits role then .ok ⟨role, some s⟩ else .error (.unsupportedStrategy role s.typeName)

def of (role : ScoreRole) : Argument → Except Fault ScoreOptions
  | .null => .ok ⟨role, none⟩
  | .made (.strategy s) => ofStrategy role s
  | a => .error (.unsupportedStrategy role a.kindName)

def boost (role : ScoreRole) (value : Argument) : Except Fault ScoreOptions := do
  let factor ← value.required "value"
  ofStrategy role (.boost ⟨.value factor, .int 0⟩)

def boostPath (role : ScoreRole) (path fallback : Argument) : Except Fault ScoreOptions := do
  let field ← FieldPath.of path
  ofStrategy role (.boost ⟨.path field, fallback.datum⟩)

def constant (role : ScoreRole) (value : Argument) : Except Fault ScoreOptions := do
  let value ← value.required "value"
  ofStrategy role (.constant value)

def function (role : ScoreRole) (expression : Argument) : Except Fault ScoreOptions := do
  let expression ← expression.required "expression"
  ofStrategy role (.function expression)

def embedded (aggregate outerScope : Argument) : Except Fault ScoreOptions := do
  let strategy ← EmbeddedScore.of aggregate outerScope
  ofStrategy .embedded (.embedded strategy)

/-- The options of a clause that admits the strategies `narrow` lets through, those of a `role`. The
argument may be in any role. -/
def forClause {σ : Type} (role : ScoreRole) (narrow : Strategy → Option σ) :
    Argument → Except Fault (Option (ScoreOf σ))
  | .null => .ok none
  | .made (.score ⟨given, none⟩) => .ok (some ⟨given, none⟩)
  | .made (.score ⟨given, some s⟩) =>
    match narrow s with
    | some s => .ok (some ⟨given, some s⟩)
    | none => .error (.strategyNotAllowed role s.typeName)
  | a => .error (.notScore role a.kindName)

/-- The score of a text, phrase or region search. -/
def forSearch : Argument → Except Fault (Option (ScoreOf Adjustment)) :=
  forClause .plain Strategy.asAdjustment?

/-- The score of a completion. -/
def forAutocomplete : Argument → Except Fault (Option (ScoreOf Rescaling)) :=
  forClause .autocomplete Strategy.asRescaling?

end ScoreOptions
end DocSearch
