/-! # File paths

Two spellings of a path that differ in doubled or trailing separators or in `.` segments are one
path. `Text.normalPath` gives the common spelling; `..` is kept, since what it leads to depends on
the file system. -/

namespace DocSearch.Text

/-- The segments between separators. -/
def segments : List Char → List (List Char)
  | [] => [[]]
  | c :: rest =>
    if c = '/' then [] :: segments rest
    else match segments rest with
      | [] => [[c]]
      | first :: others => (c :: first) :: others

/-- The root that a path starts at. Exactly two leading separators are a root of their own. -/
def pathRoot (cs : List Char) : List Char :=
  match (cs.takeWhile (· = '/')).length with
  | 0 => []
  | 2 => ['/', '/']
  | _ => ['/']

/-- The common spelling of a path. -/
def normalPath (path : String) : String :=
  let cs := path.toList
  let parts := (segments cs).filter fun part => !part.isEmpty && part != ['.']
  let spelled := pathRoot cs ++ List.intercalate ['/'] parts
  if spelled.isEmpty then "." else String.ofList spelled

end DocSearch.Text
