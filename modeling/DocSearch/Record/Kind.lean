import DocSearch.Record.Library

/-! # Results

Every result carries what the search adds to a document: highlights and scores. They have one name
in stored documents and another in dumps, and are read under either, the stored one first. A
highlight is a passage of a field cut into texts, some of which are hits. -/

namespace DocSearch

/-! ## Highlights -/

namespace HighlightText

def typeName : String := "HighlightText"

def fields : Fields :=
  .cons { name := "value" } .text (.cons { name := "type" } (.choice ["hit", "text"]) .nil)

def type : FieldType := .record typeName false fields

end HighlightText

/-- A piece of a passage. -/
abbrev HighlightText : Type := HighlightText.fields.Content

namespace HighlightText

def value (t : HighlightText) : String := t.1

/-- Whether the text was matched or stands beside what was. -/
def isHit (t : HighlightText) : Bool := t.2.1.val == "hit"

end HighlightText

namespace Highlight

def typeName : String := "Highlight"

def fields : Fields :=
  .cons { name := "path" } .text
    (.cons { name := "texts" } (.list HighlightText.type) (.cons { name := "score" } .number .nil))

def type : FieldType := .record typeName false fields

end Highlight

/-- A passage of the field at a path. -/
abbrev Highlight : Type := Highlight.fields.Content

namespace Highlight

def texts (h : Highlight) : List HighlightText := h.2.1

/-- The texts that were matched, in order. -/
def hits (h : Highlight) : List String := (h.texts.filter (·.isHit)).map (·.value)

end Highlight

/-! ## Documents that were found -/

namespace SearchMeta

def typeName : String := "SearchModel"

/-- What a search adds to a document, in front of what the document has itself. -/
def fields (own : Fields) : Fields :=
  .cons { name := "search_highlights", stored := some "searchHighlights", demand := .optional }
    (.list Highlight.type)
    (.cons { name := "search_score", stored := some "searchScore", demand := .optional } .number
      (.cons { name := "text_score", stored := some "textScore", demand := .optional } .number
        own))

end SearchMeta

/-- A result with some fields of its own behind what the search adds. -/
abbrev SearchMeta (own : Fields) : Type := (SearchMeta.fields own).Content

namespace SearchMeta

variable {own : Fields}

/-- The hits of every highlight. -/
def hits (m : SearchMeta own) : Option (List (List String)) :=
  m.1.map fun highlights => highlights.map Highlight.hits

/-- All hits on one line, or a dash. -/
def highlightLine (m : SearchMeta own) : String :=
  let line := ", ".intercalate ((m.hits.getD []).flatten)
  if line = "" then "-" else line

end SearchMeta

namespace Movie

def typeName : String := "Movie"

def fields : Fields :=
  .cons { name := "title" } .text (.cons { name := "year", demand := .optional } .integer .nil)

end Movie

/-- A film. -/
abbrev Movie : Type := SearchMeta Movie.fields

namespace Movie

def title (m : Movie) : String := m.2.2.2.1

def year (m : Movie) : Option Int := m.2.2.2.2.1

end Movie

namespace ListingLocation

def typeName : String := "ListingLocation"

/-- A place on the map, as GeoJSON names it. -/
def fields : Fields :=
  .cons { name := "type" } .text (.cons { name := "coordinates" } (.list .number) .nil)

end ListingLocation

namespace ListingAddress

def typeName : String := "ListingAddress"

def fields : Fields :=
  .cons { name := "street", demand := .optional } .text
    (.cons { name := "location", demand := .optional }
      (.record ListingLocation.typeName false ListingLocation.fields) .nil)

end ListingAddress

/-- The address of a place to stay. -/
abbrev ListingAddress : Type := ListingAddress.fields.Content

def ListingAddress.street (a : ListingAddress) : Option String := a.1

namespace Listing

def typeName : String := "Listing"

def fields : Fields :=
  .cons { name := "name" } .text
    (.cons { name := "description", demand := .optional } .text
      (.cons { name := "address", demand := .optional }
        (.record ListingAddress.typeName false ListingAddress.fields) .nil))

end Listing

/-- A place to stay. -/
abbrev Listing : Type := SearchMeta Listing.fields

namespace Listing

def name (l : Listing) : String := l.2.2.2.1

def address (l : Listing) : Option ListingAddress := l.2.2.2.2.2.1

end Listing

/-! ## Kinds of results -/

/-- The kinds of results. -/
inductive RecordKind where
  | bare
  | highlight
  | highlightText
  | movie
  | listing
  deriving DecidableEq, Inhabited

namespace RecordKind

def typeName : RecordKind → String
  | .bare => SearchMeta.typeName
  | .highlight => Highlight.typeName
  | .highlightText => HighlightText.typeName
  | .movie => Movie.typeName
  | .listing => Listing.typeName

/-- Whether fields may go by their own names where they have stored ones. -/
def byName : RecordKind → Bool
  | .bare | .movie | .listing => true
  | .highlight | .highlightText => false

def fields : RecordKind → Fields
  | .bare => SearchMeta.fields .nil
  | .highlight => Highlight.fields
  | .highlightText => HighlightText.fields
  | .movie => SearchMeta.fields Movie.fields
  | .listing => SearchMeta.fields Listing.fields

def type (kind : RecordKind) : FieldType := .record kind.typeName kind.byName kind.fields

def all : List RecordKind := [.bare, .highlight, .highlightText, .movie, .listing]

def ofName? (name : String) : Option RecordKind := all.find? fun m => m.typeName == name

end RecordKind

/-- A result of some kind. -/
structure Record where
  kind : RecordKind
  content : kind.fields.Content

namespace RecordKind

/-- The result that a stored document holds. -/
def decode (L : Library) (kind : RecordKind) (d : Datum) : Checked Record :=
  (L.validate kind.type d).map fun content => ⟨kind, content⟩

end RecordKind

namespace Record

/-- All fields of a result. -/
def dump (L : Library) (r : Record) : Value := L.dump r.kind.type r.content

/-- The hits of every highlight of a result. -/
def hits : Record → Option (List (List String))
  | ⟨.bare, m⟩ => SearchMeta.hits m
  | ⟨.movie, m⟩ => SearchMeta.hits m
  | ⟨.listing, m⟩ => SearchMeta.hits m
  | ⟨.highlight, h⟩ => some [Highlight.hits h]
  | ⟨.highlightText, _⟩ => none

end Record
end DocSearch
