import DocSearch.Record.Issue
import DocSearch.Text.Quoted

/-! # Faults

Every way in which building a query, registering a default, decoding a result or running a command
can fail, as a cause. `Fault.kind` sorts the causes and `Fault.message` words them. -/

namespace DocSearch

/-- The two kinds of terms: what is searched for, and where. -/
inductive TermRole where
  | query
  | path
  deriving DecidableEq

def TermRole.typeName : TermRole → String
  | .query => "QueryTerm"
  | .path => "FieldPath"

/-- A numeric setting with a bound. -/
inductive Setting where
  | radius
  | maxEdits
  | prefixLength
  | maxExpansions
  | maxCharacters
  | maxPassages
  | slop
  | minimumShouldMatch
  deriving DecidableEq

/-- The three kinds of score options: which strategies an options object may hold. -/
inductive ScoreRole where
  | autocomplete
  | plain
  | embedded
  deriving DecidableEq

def ScoreRole.typeName : ScoreRole → String
  | .autocomplete => "AutocompleteScoreOptions"
  | .plain => "ScoreOptions"
  | .embedded => "EmbeddedScoreOptions"

/-- A corner of a box. -/
inductive Corner where
  | bottomLeft
  | topRight
  deriving DecidableEq

def Corner.name : Corner → String
  | .bottomLeft => "bottom_left"
  | .topRight => "top_right"

/-- The order sign of a comparison that was asked for. -/
inductive Comparison where
  | less
  | lessOrEqual
  | greater
  deriving DecidableEq

def Comparison.sign : Comparison → String
  | .less => "<"
  | .lessOrEqual => "<="
  | .greater => ">"

/-- The sort of a fault. -/
inductive FaultKind where
  | value
  | type
  | state
  | key
  | operation
  | overflow
  | driver
  | validation
  deriving DecidableEq, Inhabited

/-- A cause of failure. Values and kinds are carried as the text in which a message shows them. -/
inductive Fault where
  /-- A required argument is null. -/
  | absent (what : String)
  | noTerms (role : TermRole)
  | notTerms (role : TermRole) (kind : String)
  | notTextTerm (role : TermRole) (shown : String)
  | notText (kind : String)
  | loneTextForMany
  | absentCoordinate
  | noRings
  | notRing (kind : String)
  | shortRing (points : Nat)
  | openRing
  | noPolygons
  | notPolygon (kind : String)
  | notCorner (corner : Corner) (kind : String)
  | notCenter (kind : String)
  | notShape (kind : String)
  | outOfBounds (setting : Setting) (shown : String)
  | incomparable (sign : Comparison) (kind : String)
  | twoBoosts
  | noBoost
  | unknownAggregate (shown : String)
  | notOuterScope
  | unsupportedStrategy (role : ScoreRole) (kind : String)
  | noStrategy (role : ScoreRole)
  | notScore (role : ScoreRole) (kind : String)
  | strategyNotAllowed (role : ScoreRole) (kind : String)
  | noMappingName
  | notMatching (kind : String)
  | unknownTokenOrder (shown : String)
  | notClause (kind : String)
  | notIterable (kind : String)
  | notMapping (kind : String)
  | notUnpackable (kind : String)
  | tooFewToUnpack (expected found : Nat)
  | tooManyToUnpack (expected : Nat)
  | notAPair (index length : Nat)
  | pairNotIterable (index : Nat)
  /-- A list or an object was to be a key. -/
  | notKey (kind : String)
  /-- An object was used where it lacks the operation. -/
  | noOperation (kind operation : String)
  | invalidLimit (shown : String)
  | alreadyRegistered (name : String)
  | alreadyResolved (name : String)
  | notProjection (name kind : String)
  | notInteger (shown : String)
  | integerTooLong (limit digits : Nat)
  /-- An integer beyond all binary64 numbers was to be added to one. -/
  | beyondDouble
  /-- What is no number was to be added to a binary64 number. -/
  | notAddable (kind : String)
  | unknownSetting (name : String)
  | notPath (kind : String)
  | noConnectionText
  | missingKey (name : String)
  | unknownTarget (shown : String)
  | indexExists (name : String)
  | invalidRecord (issues : List Issue)
  /-- A failure of the surroundings, passed on with its sort and text. -/
  | external (kind : FaultKind) (text : String)
  deriving DecidableEq, Inhabited

namespace Setting

/-- The opening of the message about a value out of bounds. -/
def bound : Setting → String
  | .radius => "radius는 0보다 커야 합니다"
  | .maxEdits => "max_edits는 1 또는 2여야 합니다"
  | .prefixLength => "prefix_length는 0 이상이어야 합니다"
  | .maxExpansions => "max_expansions는 0보다 커야 합니다"
  | .maxCharacters => "max_characters_to_examine은 0보다 커야 합니다"
  | .maxPassages => "max_num_passages는 0보다 커야 합니다"
  | .slop => "slop은 0 이상이어야 합니다"
  | .minimumShouldMatch => "minimum_should_match는 0 이상이어야 합니다"

end Setting

namespace Fault

def kind : Fault → FaultKind
  | absent _ | noTerms _ | absentCoordinate | noRings | shortRing _ | openRing | noPolygons
  | outOfBounds .. | twoBoosts | unknownAggregate _ | unsupportedStrategy .. | strategyNotAllowed ..
  | noMappingName | unknownTokenOrder _ | tooFewToUnpack .. | tooManyToUnpack _ | notAPair ..
  | invalidLimit _ | alreadyRegistered _ | alreadyResolved _ | notInteger _ | integerTooLong ..
  | noConnectionText | indexExists _ => .value
  | notTerms .. | notTextTerm .. | notText _ | loneTextForMany | notRing _ | notPolygon _
  | notCorner .. | notCenter _ | notShape _ | incomparable .. | notOuterScope | notScore ..
  | notMatching _ | notClause _ | notIterable _ | notMapping _ | notUnpackable _
  | pairNotIterable _ | notKey _ | notProjection .. | notAddable _ | unknownSetting _ | notPath _ =>
    .type
  | noOperation .. => .operation
  | beyondDouble => .overflow
  | noBoost | noStrategy _ => .state
  | missingKey _ | unknownTarget _ => .key
  | invalidRecord _ => .validation
  | external kind _ => kind

/-- How much is shown of a text that is no integer. -/
def shownLimit : Nat := 200

def message : Fault → String
  | absent what => what ++ "은(는) None일 수 없습니다."
  | noTerms role => role.typeName ++ "에는 최소 1개 이상의 값이 필요합니다."
  | notTerms role kind => role.typeName ++ "은(는) str 또는 str 시퀀스여야 합니다: " ++ kind
  | notTextTerm role shown => role.typeName ++ "의 모든 원소는 str이어야 합니다: " ++ shown
  | notText kind => "str이 필요합니다: " ++ kind
  | loneTextForMany => "many()에는 str 시퀀스를 전달하세요. 단일 값은 single()을 사용합니다."
  | absentCoordinate => "latitude와 longitude는 None일 수 없습니다."
  | noRings => "최소 1개 이상의 닫힌 ring이 필요합니다."
  | notRing kind => "ring은 LineString이어야 합니다: " ++ kind
  | shortRing points =>
    "ring은 최소 4개의 점으로 이루어져야 합니다 (현재 " ++ toString points ++ "개)."
  | openRing => "ring이 닫히려면 첫 점과 마지막 점이 같아야 합니다."
  | noPolygons => "최소 1개 이상의 polygon이 필요합니다."
  | notPolygon kind => "polygon은 Polygon이어야 합니다: " ++ kind
  | notCorner corner kind => corner.name ++ "는 Point여야 합니다: " ++ kind
  | notCenter kind => "center는 Point여야 합니다: " ++ kind
  | notShape kind => "geometry는 Circle, Box, Polygon, MultiPolygon 중 하나여야 합니다: " ++ kind
  | outOfBounds setting shown => setting.bound ++ ": " ++ shown
  | incomparable sign kind =>
    "'" ++ sign.sign ++ "' not supported between instances of '" ++ kind ++ "' and 'int'"
  | twoBoosts => "BoostScore에는 value와 path 중 하나만 지정할 수 있습니다."
  | noBoost => "BoostScore에 value 또는 path가 설정되지 않았습니다."
  | unknownAggregate shown => "지원하지 않는 aggregate입니다: " ++ shown
  | notOuterScope => "outer_scope는 ScoreOptions여야 합니다."
  | unsupportedStrategy role kind => role.typeName ++ "는 " ++ kind ++ "를 지원하지 않습니다."
  | noStrategy role => role.typeName ++ "에 설정된 점수 옵션이 없습니다."
  | notScore role kind => "score는 " ++ role.typeName ++ "여야 합니다: " ++ kind
  | strategyNotAllowed role kind =>
    kind ++ "는 이 연산자에서 사용할 수 없습니다 (" ++ role.typeName ++ " 참고)."
  | noMappingName => "synonym mapping 이름은 빈 문자열일 수 없습니다."
  | notMatching kind => "지원하지 않는 matching 타입입니다: " ++ kind
  | unknownTokenOrder shown => "지원하지 않는 token_order입니다: " ++ shown
  | notClause kind => "렌더링할 수 없는 절 타입입니다: " ++ kind
  | notIterable kind => "'" ++ kind ++ "' object is not iterable"
  | notMapping kind => "'" ++ kind ++ "' object is not a mapping"
  | notUnpackable kind => "cannot unpack non-iterable " ++ kind ++ " object"
  | tooFewToUnpack expected found =>
    "not enough values to unpack (expected " ++ toString expected ++ ", got "
      ++ toString found ++ ")"
  | tooManyToUnpack expected =>
    "too many values to unpack (expected " ++ toString expected ++ ")"
  | notAPair index length =>
    "dictionary update sequence element #" ++ toString index ++ " has length "
      ++ toString length ++ "; 2 is required"
  | pairNotIterable index =>
    "cannot convert dictionary update sequence element #" ++ toString index ++ " to a sequence"
  | notKey kind => "unhashable type: '" ++ kind ++ "'"
  | noOperation kind operation =>
    "'" ++ kind ++ "' object has no attribute '" ++ operation ++ "'"
  | invalidLimit shown => "limit은 양의 정수여야 합니다: " ++ shown
  | alreadyRegistered name => name ++ "의 기본 projection이 이미 등록되어 있습니다."
  | alreadyResolved name => name ++ "은(는) 이미 조회되었습니다. 검색 전에 등록하세요."
  | notProjection name kind =>
    name ++ "의 기본 projection이 ProjectionSpec이 아닙니다: " ++ kind
  | notInteger shown =>
    "invalid literal for int() with base 10: " ++ String.ofList (shown.toList.take shownLimit)
  | integerTooLong limit digits =>
    "Exceeds the limit (" ++ toString limit ++ " digits) for integer string conversion: value has "
      ++ toString digits ++ " digits; use sys.set_int_max_str_digits() to increase the limit"
  | beyondDouble => "int too large to convert to float"
  | notAddable kind => "unsupported operand type(s) for +=: 'float' and '" ++ kind ++ "'"
  | unknownSetting name =>
    "SearchConfig.__init__() got an unexpected keyword argument '" ++ name ++ "'"
  | notPath kind => "expected str, bytes or os.PathLike object, not " ++ kind
  | noConnectionText => "MONGODB_URI 환경변수를 설정하세요."
  | missingKey name => Text.quoted name
  | unknownTarget shown => shown
  | indexExists name => "검색 인덱스 '" ++ name ++ "'이 이미 존재합니다."
  | invalidRecord issues => toString issues.length ++ " fields do not fit"
  | external _ text => text

end Fault
end DocSearch
