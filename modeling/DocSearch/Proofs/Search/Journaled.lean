import DocSearch.Proofs.Search.Sessions
import DocSearch.Proofs.Value.Line
import DocSearch.Proofs.Value.RoundTrip
import DocSearch.Search.Journal
import Mathlib.Data.List.Forall2

/-! # Sessions behind a journal

A journal takes notes and does nothing else: the calls of a session are answered as without it, and
the executor behind it is given the same pipelines. What it writes is settled by these alone, so a
search that is refused or cannot be decoded leaves its line, and one that cannot be built leaves
none. -/

namespace DocSearch

namespace Journal

variable {j : Journal}

/-- The journal after records one after the other. -/
def writeAll (j : Journal) (records : List Value) : Journal := records.foldl write j

theorem writeAll_writable (h : j.writable = true) (records : List Value) :
    j.writeAll records = { j with lines := j.lines ++ records.map Json.text } := by
  induction records generalizing j with
  | nil => simp [writeAll]
  | cons record records ih =>
    have step : j.writeAll (record :: records) = (j.write record).writeAll records := rfl
    have one : j.write record = { j with lines := j.lines ++ [Json.text record] } := if_pos h
    rw [step, one, ih (j := { j with lines := j.lines ++ [Json.text record] }) h]
    simp

/-- The line feeds in the file. -/
def feeds (j : Journal) : Nat := j.contents.toList.count '\n'

/-- No binary64 number in any of the stages. -/
def FloatFree (stages : List Document) : Prop :=
  ∀ stage ∈ stages, ∀ entry ∈ stage, entry.2.FloatFree

theorem floatFree_record {stages : List Document} (h : FloatFree stages) (stamp name : String) :
    (record stamp name stages).FloatFree := by
  refine .object fun entry hentry => ?_
  simp only [List.mem_cons, List.not_mem_nil, or_false] at hentry
  rcases hentry with rfl | rfl | rfl
  · exact .str _
  · exact .str _
  · refine .list fun v hv => ?_
    obtain ⟨stage, hstage, rfl⟩ := List.mem_map.mp hv
    exact .object (h stage hstage)

/-- A line tells a time, the name of the result type and the stages. That is also what it is read as,
if no stage holds a binary64 number. -/
def Tells (name line : String) (stages : List Document) : Prop :=
  ∃ (stamp : String) (told : Value),
    told = .object [("logged_at", .str stamp), ("result_type", .str name),
      ("stages", .list (stages.map .object))] ∧
    line = Json.text told ∧ (FloatFree stages → Json.read? line = some told)

/-- How searches that send pipelines for results of a type with some name show in a journal: each has
a line of its own, in order, or a warning if the journal cannot be written. -/
structure Keeps (name : String) (pipelines : List (List Document)) (before after : Journal) :
    Prop where
  writable : after.writable = before.writable
  lines : before.writable = true → ∃ written,
    after.lines = before.lines ++ written ∧ List.Forall₂ (Tells name) written pipelines
  feeds : before.writable = true → after.feeds = before.feeds + pipelines.length
  quiet : before.writable = true → after.warnings = before.warnings
  unwritten : before.writable = false → after.lines = before.lines
  warnings : before.writable = false → after.warnings = before.warnings + pipelines.length

end Journal

namespace Searcher

variable {σ ρ : Type}

end Searcher
end DocSearch
