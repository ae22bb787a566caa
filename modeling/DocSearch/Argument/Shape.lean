import DocSearch.Argument.Basic

/-! # Shapes from arguments

The checks of a polygon go ring by ring: what it is, how long it is, whether it is closed. -/

namespace DocSearch

def Point.of (latitude longitude : Argument) : Except Fault Point :=
  match latitude, longitude with
  | .null, _ => .error .absentCoordinate
  | _, .null => .error .absentCoordinate
  | latitude, longitude => .ok ⟨latitude.datum, longitude.datum⟩

/-- A line takes its points unchecked. -/
def LineString.of (points : Argument) : Except Fault LineString := do
  let items ← points.items
  return ⟨items.map Argument.datum⟩

namespace Polygon

def minRingPoints : Nat := 4

/-- A line that can bound a polygon. -/
def checkRing (ring : LineString) : Except Fault LineString :=
  if ring.points.length < minRingPoints then .error (.shortRing ring.points.length)
  else if ring.isClosed then .ok ring
  else .error .openRing

def checkRings : List LineString → Except Fault (List LineString)
  | [] => .ok []
  | ring :: rest => do
    let ring ← checkRing ring
    let rest ← checkRings rest
    return ring :: rest

/-- A polygon of lines that have been drawn already. -/
def ofRings (rings : List LineString) : Except Fault Polygon :=
  if rings.isEmpty then .error .noRings else (checkRings rings).map .mk

def ringsOf : List Argument → Except Fault (List LineString)
  | [] => .ok []
  | .made (.lineString l) :: rest => do
    let ring ← checkRing l
    let rest ← ringsOf rest
    return ring :: rest
  | a :: _ => .error (.notRing a.kindName)

def of (rings : Argument) : Except Fault Polygon := do
  let items ← rings.items
  if items.isEmpty then .error .noRings else (ringsOf items).map .mk

/-- The point of a pair of a latitude and a longitude. -/
def pointOf (a : Argument) : Except Fault Point := do
  let (latitude, longitude) ← a.pair
  Point.of latitude longitude

def lineOf (a : Argument) : Except Fault LineString := do
  let items ← a.items
  let points ← items.mapM pointOf
  return ⟨points.map Point.datum⟩

/-- The polygon of rings of pairs. All lines are drawn before any of them is checked. -/
def ofCoordinates (coordinates : Argument) : Except Fault Polygon := do
  let items ← coordinates.items
  let lines ← items.mapM lineOf
  ofRings lines

end Polygon

namespace MultiPolygon

def polygonsOf : List Argument → Except Fault (List Polygon)
  | [] => .ok []
  | .made (.shape (.polygon p)) :: rest => (polygonsOf rest).map (p :: ·)
  | a :: _ => .error (.notPolygon a.kindName)

def of (polygons : Argument) : Except Fault MultiPolygon := do
  let items ← polygons.items
  if items.isEmpty then .error .noPolygons else (polygonsOf items).map .mk

end MultiPolygon

namespace Box

def cornerOf (corner : Corner) : Argument → Except Fault Point
  | .made (.point p) => .ok p
  | a => .error (.notCorner corner a.kindName)

def of (bottomLeft topRight : Argument) : Except Fault Box := do
  let bottomLeft ← cornerOf .bottomLeft bottomLeft
  let topRight ← cornerOf .topRight topRight
  return ⟨bottomLeft, topRight⟩

end Box

namespace Circle

def centerOf : Argument → Except Fault Point
  | .made (.point p) => .ok p
  | a => .error (.notCenter a.kindName)

def of (center radius : Argument) : Except Fault Circle := do
  let center ← centerOf center
  let radius ← Setting.radius.accept radius
  return ⟨center, radius⟩

end Circle
end DocSearch
