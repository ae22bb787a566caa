import DocSearch.Value.Basic
import DocSearch.Numeric.Decimal

/-! # Compound clauses

A compound clause collects rendered clauses under four headings. It keeps documents, not clauses:
what was added once does not change when the clause it came from does. -/

namespace DocSearch

/-- How a clause takes part in a compound one. -/
inductive Occur where
  | must
  | mustNot
  | should
  | filter
  deriving DecidableEq, Inhabited

namespace Occur

def all : List Occur := [.must, .mustNot, .should, .filter]

/-- The key of the heading. -/
def key : Occur → String
  | .must => "must"
  | .mustNot => "mustNot"
  | .should => "should"
  | .filter => "filter"

end Occur

/-- Rendered clauses by heading, and the least number of `should` clauses that have to match. -/
structure Compound where
  must : List Document := []
  mustNot : List Document := []
  should : List Document := []
  filter : List Document := []
  minimum : Number := .whole 0
  deriving Inhabited

namespace Compound

def operator : String := "compound"

def typeName : String := "CompoundClause"

def clauses (c : Compound) : Occur → List Document
  | .must => c.must
  | .mustNot => c.mustNot
  | .should => c.should
  | .filter => c.filter

/-- The compound with a document at the end of one heading. -/
def append (c : Compound) (occur : Occur) (clause : Document) : Compound :=
  match occur with
  | .must => { c with must := c.must ++ [clause] }
  | .mustNot => { c with mustNot := c.mustNot ++ [clause] }
  | .should => { c with should := c.should ++ [clause] }
  | .filter => { c with filter := c.filter ++ [clause] }

theorem clauses_append (c : Compound) (o p : Occur) (d : Document) :
    (c.append o d).clauses p = if o = p then c.clauses p ++ [d] else c.clauses p := by
  cases o <;> cases p <;> rfl

theorem minimum_append (c : Compound) (o : Occur) (d : Document) :
    (c.append o d).minimum = c.minimum := by cases o <;> rfl

def isEmpty (c : Compound) : Bool :=
  c.must.isEmpty && c.mustNot.isEmpty && c.should.isEmpty && c.filter.isEmpty

/-- The entry of one heading; an empty heading has none. -/
def heading (c : Compound) (occur : Occur) : Document :=
  if (c.clauses occur).isEmpty then []
  else [(occur.key, .list ((c.clauses occur).map .object))]

/-- The entry of the least number of matches, if it asks for any. -/
def minimumEntry (c : Compound) : Document :=
  if (Number.whole 0).lt c.minimum then [("minimumShouldMatch", .ofNumber c.minimum)] else []

def render (c : Compound) : Document :=
  [(operator, .object (Occur.all.flatMap c.heading ++ c.minimumEntry))]

/-- A summary of the counts. -/
def description (c : Compound) : String :=
  typeName ++ "(must=" ++ toString c.must.length ++ ", mustNot=" ++ toString c.mustNot.length
    ++ ", should=" ++ toString c.should.length ++ ", filter=" ++ toString c.filter.length
    ++ ", minimumShouldMatch=" ++ c.minimum.text ++ ")"

end Compound

end DocSearch
