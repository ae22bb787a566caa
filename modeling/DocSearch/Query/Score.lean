import DocSearch.Datum.Entries
import DocSearch.Query.Terms

/-! # Score options

A score is boosted, replaced by a constant, computed by an expression, or gathered from embedded
documents. Each operator admits some of these: `Rescaling` are the ones for every operator,
`Adjustment` adds expressions and `Strategy` adds the gathering of embedded scores. An options object
may also hold no strategy at all, and a boost neither a value nor a path; rendering reports either. -/

namespace DocSearch

/-- Where a boost takes its factor from. -/
inductive BoostSource where
  | unset
  | value (factor : Datum)
  | path (field : FieldPath)
  deriving Inhabited

namespace BoostSource

/-- The factor and the field, null for what is not given. -/
def parts : BoostSource → List Datum
  | .unset => [.null, .null]
  | .value factor => [factor, .null]
  | .path field => [.null, field.datum]

end BoostSource

/-- A boost; `fallback` is the factor for documents without the field. -/
structure BoostScore where
  source : BoostSource
  fallback : Datum
  deriving Inhabited

namespace BoostScore

def typeName : String := "BoostScore"

def render (b : BoostScore) : Except Fault Value :=
  match b.source with
  | .unset => .error .noBoost
  | .value factor => factor.value.map fun factor => .object [("value", factor)]
  | .path field =>
    if b.fallback.same (.int 0) then .ok (.object [("path", field.render)])
    else b.fallback.value.map fun fallback =>
      .object [("path", field.render), ("undefined", fallback)]

def datum (b : BoostScore) : Datum :=
  .ofDocument typeName (b.source.parts ++ [b.fallback]) b.render

end BoostScore

/-- The strategies for every operator. -/
inductive Rescaling where
  | boost (b : BoostScore)
  | constant (value : Datum)
  deriving Inhabited

namespace Rescaling

def typeName : Rescaling → String
  | .boost _ => BoostScore.typeName
  | .constant _ => "ConstantScore"

def key : Rescaling → String
  | .boost _ => "boost"
  | .constant _ => "constant"

def render : Rescaling → Except Fault Value
  | .boost b => b.render
  | .constant value => value.value.map fun value => .object [("value", value)]

def datum : Rescaling → Datum
  | .boost b => b.datum
  | r@(.constant value) => .ofDocument r.typeName [value] r.render

end Rescaling

/-- The strategies for text, phrase and region searches. -/
inductive Adjustment where
  | rescaling (r : Rescaling)
  | function (expression : Datum)
  deriving Inhabited

namespace Adjustment

def typeName : Adjustment → String
  | .rescaling r => r.typeName
  | .function _ => "FunctionScore"

def key : Adjustment → String
  | .rescaling r => r.key
  | .function _ => "function"

def render : Adjustment → Except Fault Value
  | .rescaling r => r.render
  | .function expression => expression.toDocument.map .object

def datum : Adjustment → Datum
  | .rescaling r => r.datum
  | a@(.function expression) => .ofDocument a.typeName [expression] a.render

def asRescaling? : Adjustment → Option Rescaling
  | .rescaling r => some r
  | .function _ => none

end Adjustment

/-- How the scores of embedded documents are put together. -/
inductive Aggregate where
  | sum
  | maximum
  | minimum
  | mean
  deriving DecidableEq, Inhabited

namespace Aggregate

def name : Aggregate → String
  | .sum => "sum"
  | .maximum => "maximum"
  | .minimum => "minimum"
  | .mean => "mean"

def ofName? (s : String) : Option Aggregate :=
  [.sum, .maximum, .minimum, .mean].find? fun a => a.name == s

end Aggregate

/-- An options object of a given role: at most one strategy. -/
structure ScoreOf (σ : Type) where
  role : ScoreRole
  strategy : Option σ

namespace ScoreOf

variable {σ : Type}

/-- The document with the strategy's name as its one key. The strategies are a closed choice, each
with a name, so only a missing one fails: there is no fault for one that is not known. -/
def renderWith (key : σ → String) (render : σ → Except Fault Value) (o : ScoreOf σ) :
    Except Fault Value :=
  match o.strategy with
  | none => .error (.noStrategy o.role)
  | some s => (render s).map fun body => .object [(key s, body)]

/-- The options by their strategy, which is null if there is none. -/
def datumWith (strategy : σ → Datum) (document : Except Fault Value) (o : ScoreOf σ) : Datum :=
  .ofDocument o.role.typeName [.ofOption strategy o.strategy] document

end ScoreOf

/-- Options whose strategies are adjustments. -/
abbrev AdjustmentOptions := ScoreOf Adjustment

namespace AdjustmentOptions

def render (o : AdjustmentOptions) : Except Fault Value :=
  o.renderWith Adjustment.key Adjustment.render

def datum (o : AdjustmentOptions) : Datum := o.datumWith Adjustment.datum (render o)

end AdjustmentOptions

/-- Options whose strategies are rescalings. -/
abbrev RescalingOptions := ScoreOf Rescaling

namespace RescalingOptions

def render (o : RescalingOptions) : Except Fault Value :=
  o.renderWith Rescaling.key Rescaling.render

def datum (o : RescalingOptions) : Datum := o.datumWith Rescaling.datum (render o)

end RescalingOptions

/-- The gathering of embedded scores, and the plain options for the document around them. -/
structure EmbeddedScore where
  aggregate : Aggregate
  outerScope : Option (Option Adjustment)
  deriving Inhabited

namespace EmbeddedScore

def typeName : String := "EmbeddedScore"

/-- The options for the document around the embedded ones: always in the plain role. -/
def outerOptions (e : EmbeddedScore) : Option AdjustmentOptions :=
  e.outerScope.map fun strategy => ⟨.plain, strategy⟩

def render (e : EmbeddedScore) : Except Fault Value :=
  let aggregate : Document :=
    if e.aggregate = .sum then [] else [("aggregate", .str e.aggregate.name)]
  match e.outerOptions with
  | none => .ok (.object aggregate)
  | some options =>
    (AdjustmentOptions.render options).map fun outer =>
      .object (aggregate ++ [("outerScope", outer)])

def datum (e : EmbeddedScore) : Datum :=
  .ofDocument typeName
    [.str e.aggregate.name, .ofOption AdjustmentOptions.datum e.outerOptions] e.render

end EmbeddedScore

/-- Every strategy. -/
inductive Strategy where
  | adjustment (a : Adjustment)
  | embedded (e : EmbeddedScore)
  deriving Inhabited

namespace Strategy

def boost (b : BoostScore) : Strategy := .adjustment (.rescaling (.boost b))

def constant (value : Datum) : Strategy := .adjustment (.rescaling (.constant value))

def function (expression : Datum) : Strategy := .adjustment (.function expression)

def typeName : Strategy → String
  | .adjustment a => a.typeName
  | .embedded _ => EmbeddedScore.typeName

def key : Strategy → String
  | .adjustment a => a.key
  | .embedded _ => "embedded"

def render : Strategy → Except Fault Value
  | .adjustment a => a.render
  | .embedded e => e.render

def datum : Strategy → Datum
  | .adjustment a => a.datum
  | .embedded e => e.datum

def asAdjustment? : Strategy → Option Adjustment
  | .adjustment a => some a
  | .embedded _ => none

def asRescaling? (s : Strategy) : Option Rescaling := s.asAdjustment?.bind Adjustment.asRescaling?

/-- Whether an options object of a role may hold the strategy. -/
def fits (s : Strategy) : ScoreRole → Bool
  | .autocomplete => s.asRescaling?.isSome
  | .plain => s.asAdjustment?.isSome
  | .embedded => true

end Strategy

/-- An options object that may hold any strategy of its role. -/
abbrev ScoreOptions := ScoreOf Strategy

namespace ScoreOptions

def render (o : ScoreOptions) : Except Fault Value := o.renderWith Strategy.key Strategy.render

def datum (o : ScoreOptions) : Datum := o.datumWith Strategy.datum (render o)

end ScoreOptions
end DocSearch
