import DocSearch.Datum.Basic

/-! # Shapes

The regions a search can be limited to. Positions are written with the longitude first, as GeoJSON
wants them. A polygon has at least one ring, and each ring at least four points, the last of which
equals the first; the constructors in `DocSearch.Argument.Shape` see to that. What a line takes for
its points is not looked at before their coordinates are asked for. -/

namespace DocSearch

/-- A GeoJSON object. -/
def geoJson (typeName : String) (coordinates : Value) : Value :=
  .object [("type", .str typeName), ("coordinates", coordinates)]

/-- The coordinates of several things, one after the other. -/
def coordinatesOfAll {α : Type} (coordinates : α → Except Fault Value) (parts : List α) :
    Except Fault Value := (parts.mapM coordinates).map .list

/-- A GeoJSON definition by its parts and coordinates. -/
def geoDatum (typeName : String) (parts : List Datum) (coordinates : Except Fault Value) : Datum :=
  .made typeName parts (coordinates.map (geoJson typeName)) coordinates

/-- A position. The coordinates are numbers; nothing but their presence is checked. -/
structure Point where
  latitude : Datum
  longitude : Datum
  deriving Inhabited

namespace Point

def typeName : String := "Point"

def coordinates (p : Point) : Except Fault Value := (Datum.list [p.longitude, p.latitude]).value

def render (p : Point) : Except Fault Value := p.coordinates.map (geoJson typeName)

def datum (p : Point) : Datum := geoDatum typeName [p.latitude, p.longitude] p.coordinates

end Point

/-- A line through points in order. -/
structure LineString where
  points : List Datum
  deriving Inhabited

namespace LineString

def typeName : String := "LineString"

/-- Whether the line ends where it begins. A line of one point does, if its point is equal to
itself. -/
def isClosed (l : LineString) : Bool :=
  match l.points with
  | [] => false
  | [point] => point.equalsItself
  | first :: second :: rest => first.same ((second :: rest).getLast (List.cons_ne_nil _ _))

def coordinates (l : LineString) : Except Fault Value :=
  coordinatesOfAll Datum.coordinates l.points

def render (l : LineString) : Except Fault Value := l.coordinates.map (geoJson typeName)

def datum (l : LineString) : Datum := geoDatum typeName l.points l.coordinates

end LineString

/-- An outer ring and the rings of its holes. -/
structure Polygon where
  rings : List LineString
  deriving Inhabited

namespace Polygon

def typeName : String := "Polygon"

def coordinates (p : Polygon) : Except Fault Value :=
  coordinatesOfAll LineString.coordinates p.rings

def render (p : Polygon) : Except Fault Value := p.coordinates.map (geoJson typeName)

def datum (p : Polygon) : Datum := geoDatum typeName (p.rings.map LineString.datum) p.coordinates

end Polygon

/-- Several polygons. -/
structure MultiPolygon where
  polygons : List Polygon
  deriving Inhabited

namespace MultiPolygon

def typeName : String := "MultiPolygon"

def coordinates (m : MultiPolygon) : Except Fault Value :=
  coordinatesOfAll Polygon.coordinates m.polygons

def render (m : MultiPolygon) : Except Fault Value := m.coordinates.map (geoJson typeName)

def datum (m : MultiPolygon) : Datum :=
  geoDatum typeName (m.polygons.map Polygon.datum) m.coordinates

end MultiPolygon

/-- A region between two opposite corners. -/
structure Box where
  bottomLeft : Point
  topRight : Point
  deriving Inhabited

namespace Box

def typeName : String := "Box"

def render (b : Box) : Except Fault Value := do
  let bottomLeft ← b.bottomLeft.render
  let topRight ← b.topRight.render
  return .object [("bottomLeft", bottomLeft), ("topRight", topRight)]

def datum (b : Box) : Datum :=
  .ofDocument typeName [b.bottomLeft.datum, b.topRight.datum] b.render

end Box

/-- The region within a distance, in metres, of a point. -/
structure Circle where
  center : Point
  radius : Number
  deriving Inhabited

namespace Circle

def typeName : String := "Circle"

def render (c : Circle) : Except Fault Value := do
  let center ← c.center.render
  return .object [("center", center), ("radius", .ofNumber c.radius)]

def datum (c : Circle) : Datum :=
  .ofDocument typeName [c.center.datum, .ofNumber c.radius] c.render

end Circle

/-- A region that a search can be limited to. -/
inductive Shape where
  | circle (c : Circle)
  | box (b : Box)
  | polygon (p : Polygon)
  | multiPolygon (m : MultiPolygon)
  deriving Inhabited

namespace Shape

def typeName : Shape → String
  | .circle _ => Circle.typeName
  | .box _ => Box.typeName
  | .polygon _ => Polygon.typeName
  | .multiPolygon _ => MultiPolygon.typeName

/-- The key under which a clause holds the region. -/
def key : Shape → String
  | .circle _ => "circle"
  | .box _ => "box"
  | .polygon _ | .multiPolygon _ => "geometry"

def render : Shape → Except Fault Value
  | .circle c => c.render
  | .box b => b.render
  | .polygon p => p.render
  | .multiPolygon m => m.render

def datum : Shape → Datum
  | .circle c => c.datum
  | .box b => b.datum
  | .polygon p => p.datum
  | .multiPolygon m => m.datum

end Shape
end DocSearch
