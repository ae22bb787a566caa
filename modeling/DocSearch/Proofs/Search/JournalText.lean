import DocSearch.Proofs.Search.Journaled

/-! # Reading a journal

The file of a journal is cut at its line feeds and each line is read as JSON. A record whose stages
hold no binary64 numbers is one line, and that line is read back as the record; so the file holds
exactly what was written, in order, and no two lists of stages leave the same line. -/

namespace DocSearch

namespace Journal

/-- The values of a text of lines, if each line ends and holds one. -/
def read? (text : String) : Option (List Value) :=
  let lines := text.toList.splitOn '\n'
  if lines.getLast? = some [] then
    lines.dropLast.mapM fun line => Json.read? (String.ofList line)
  else none

/-! ## One record -/

theorem record_injective {stamp stamp' name name' : String}
    {stages stages' : List Document}
    (h : record stamp name stages = record stamp' name' stages') : stages = stages' := by
  simp only [record, Value.object.injEq, List.cons.injEq, Prod.mk.injEq, Value.list.injEq] at h
  exact (List.map_inj_right fun _ _ he => Value.object.inj he).mp h.2.2.1.2

/-- How a record of stages without binary64 numbers is written: as one line, that is read back. -/
structure OneLine (record : Value) (line : String) : Prop where
  feeds : line.toList.count '\n' = 1
  last : line.toList.getLast? = some '\n'
  read : Json.read? line = some record

theorem oneLine_text {v : Value} (h : v.FloatFree) : OneLine v (Json.text v ++ "\n") := by
  have feed : (Json.text v ++ "\n").toList = (Json.text v).toList ++ ['\n'] := String.toList_append
  constructor
  case feeds =>
    rw [feed, List.count_append, List.count_eq_zero.mpr (Json.text_no_feed v)]
    rfl
  case last =>
    rw [feed]
    simp
  case read =>
    have written : Json.text v ++ "\n" = String.ofList (Json.write v ++ ['\n']) :=
      (String.ofList_append).symm
    rw [written]
    exact Json.read?_ofList h (Json.delimited_cons (by simp)) rfl

/-! ## The file -/

/-- The lines of a file, cut at the line feeds. Nothing stands behind the last. -/
theorem splitOn_lines (lines : List (List Char)) (h : ∀ line ∈ lines, '\n' ∉ line) :
    (lines.flatMap fun line => line ++ ['\n']).splitOn '\n' = lines ++ [[]] := by
  induction lines with
  | nil => rfl
  | cons line lines ih =>
    rw [List.flatMap_cons, List.append_assoc, List.singleton_append,
      List.splitOn_append_cons_self_of_not_mem (h line List.mem_cons_self),
      ih fun other hm => h other (List.mem_cons_of_mem _ hm)]
    rfl

theorem mapM_read?_text {records : List Value} (h : ∀ v ∈ records, v.FloatFree) :
    (records.map fun v => (Json.text v).toList).mapM (fun line => Json.read? (String.ofList line))
      = some records := by
  induction records with
  | nil => rfl
  | cons v records ih =>
    have head : Json.read? (Json.text v) = some v := Json.read?_text (h v List.mem_cons_self)
    have tail := ih fun w hw => h w (List.mem_cons_of_mem _ hw)
    rw [List.map_cons, List.mapM_cons, String.ofList_toList, head, tail]
    rfl

/-- What is added to a file leaves its lines as they are. -/
theorem splitOn_contents_append (j : Journal) :
    ∃ lines, ∀ more, (j.contents.toList ++ more).splitOn '\n' = lines ++ more.splitOn '\n' := by
  rw [contents, String.toList_ofList]
  rcases List.eq_nil_or_concat j.lines with hl | ⟨front, last, hl⟩
  · rw [hl]
    exact ⟨[], fun more => rfl⟩
  · rw [hl]
    refine ⟨((front.flatMap fun line => line.toList ++ ['\n']) ++ last.toList).splitOn '\n',
      fun more => ?_⟩
    rw [← List.splitOn_append_cons_self]
    simp

theorem read?_ofList {text : List Char} {lines : List (List Char)}
    (h : text.splitOn '\n' = lines ++ [[]]) : read? (String.ofList text)
      = lines.mapM fun line => Json.read? (String.ofList line) := by
  unfold read?
  rw [String.toList_ofList, h]
  simp

/-- What is read of a file stays in front of the records that are added. -/
theorem read?_append {j : Journal} {old records : List Value} (h : ∀ v ∈ records, v.FloatFree)
    (hold : read? j.contents = some old) :
    read? (contents { j with lines := j.lines ++ records.map Json.text })
      = some (old ++ records) := by
  obtain ⟨lines, hlines⟩ := j.splitOn_contents_append
  have before : j.contents.toList.splitOn '\n' = lines ++ [[]] := by
    simpa using hlines []
  have written : contents { j with lines := j.lines ++ records.map Json.text }
      = String.ofList (j.contents.toList ++
        (records.map fun v => (Json.text v).toList).flatMap fun line => line ++ ['\n']) := by
    simp [contents, List.flatMap_map]
  have feedless : ∀ line ∈ records.map fun v => (Json.text v).toList, '\n' ∉ line := by
    intro line hm
    obtain ⟨v, -, rfl⟩ := List.mem_map.mp hm
    exact Json.text_no_feed v
  have after := hlines ((records.map fun v => (Json.text v).toList).flatMap fun line =>
    line ++ ['\n'])
  rw [splitOn_lines _ feedless, ← List.append_assoc] at after
  have old_lines : lines.mapM (fun line => Json.read? (String.ofList line)) = some old := by
    rw [← read?_ofList before, String.ofList_toList]
    exact hold
  rw [written, read?_ofList after, List.mapM_append, old_lines, mapM_read?_text h]
  rfl

end Journal

/-! ## Runs -/

/-- The state after pipelines that are run one after the other, whatever comes of them. -/
def Executor.runAll {σ ρ : Type} (executor : Executor σ ρ)
    (runs : List (List Document × ResultType ρ)) (s : σ) : σ :=
  runs.foldl (fun s run => ((executor.run run.1 run.2).run s).2) s

namespace Journal

variable {σ ρ : Type}

/-- The records of runs, each with its time. -/
def recordsOf (stamps : List String) (runs : List (List Document × ResultType ρ)) : List Value :=
  (stamps.zip runs).map fun (stamp, stages, type) => record stamp type.key.name stages

theorem runAll_journaled (inner : Executor σ ρ) (stamp : σ → String)
    (runs : List (List Document × ResultType ρ)) (j : Journal) (s : σ) :
    ∃ stamps, stamps.length = runs.length ∧
      ((inner.journaled stamp).runAll runs (j, s)).1 = j.writeAll (recordsOf stamps runs) := by
  induction runs generalizing j s with
  | nil => exact ⟨[], rfl, rfl⟩
  | cons run runs ih =>
    obtain ⟨stages, type⟩ := run
    obtain ⟨stamps, hlength, hrest⟩ := ih (j.write (record (stamp s) type.key.name stages))
      ((inner.run stages type).run s).2
    exact ⟨stamp s :: stamps, by simp [hlength], hrest⟩

theorem floatFree_recordsOf {stamps : List String} {runs : List (List Document × ResultType ρ)}
    (h : ∀ run ∈ runs, FloatFree run.1) : ∀ v ∈ recordsOf stamps runs, v.FloatFree := by
  intro v hv
  obtain ⟨⟨stamp, run⟩, hm, rfl⟩ := List.mem_map.mp hv
  exact floatFree_record (h run (List.of_mem_zip hm).2) stamp run.2.key.name

/-- A journal as an encoding of what is run: every record is one line that is read back, the file is
read back as the records that were written, and a line tells the stages it was written for. -/
structure Legible (inner : Executor σ ρ) (stamp : σ → String) : Prop where
  line : ∀ stamp name stages, FloatFree stages →
    OneLine (record stamp name stages) (Json.text (record stamp name stages) ++ "\n")
  file : ∀ (runs : List (List Document × ResultType ρ)) (j : Journal) (old : List Value) (s : σ),
    (∀ run ∈ runs, FloatFree run.1) → j.writable = true → read? j.contents = some old →
    ∃ stamps, stamps.length = runs.length ∧
      read? ((inner.journaled stamp).runAll runs (j, s)).1.contents
        = some (old ++ recordsOf stamps runs)
  apart : ∀ stamp stamp' name name' stages stages', FloatFree stages → FloatFree stages' →
    Json.text (record stamp name stages) = Json.text (record stamp' name' stages') →
    stages = stages'

theorem legible_journaled (inner : Executor σ ρ) (stamp : σ → String) : Legible inner stamp where
  line stamp name stages h := oneLine_text (floatFree_record h stamp name)
  file runs j old s h hj hold := by
    obtain ⟨stamps, hlength, hrun⟩ := runAll_journaled inner stamp runs j s
    refine ⟨stamps, hlength, ?_⟩
    rw [hrun, writeAll_writable hj]
    exact read?_append (floatFree_recordsOf h) hold
  apart stamp stamp' name name' stages stages' h h' he :=
    record_injective (Json.text_injective (floatFree_record h stamp name)
      (floatFree_record h' stamp' name') he)

/-- Two runs on a new journal, with a query of more than one line. -/
theorem legible_multiline : ∃ stamps : List String, stamps.length = 2 ∧
    read? ((Executor.journaled (σ := Unit) ⟨fun _ _ => pure []⟩ fun _ => "now").runAll
      [([[("$search", .object [("query", .str "one\ntwo \"three\"")])]], .undecoded "Movie"),
        ([[("$limit", .int 20)]], .undecoded "Listing")] ({ writable := true }, ())).1.contents
      = some (recordsOf stamps
        [([[("$search", .object [("query", .str "one\ntwo \"three\"")])]], .undecoded "Movie"),
          ([[("$limit", .int 20)]], .undecoded "Listing")]) := by
  have free : ∀ run ∈ [([[("$search", Value.object [("query", .str "one\ntwo \"three\"")])]],
      ResultType.undecoded "Movie"), ([[("$limit", .int 20)]], .undecoded "Listing")], FloatFree run.1 := by
    intro run hrun stage hstage entry hentry
    simp only [List.mem_cons, List.not_mem_nil, or_false] at hrun
    rcases hrun with rfl | rfl <;> cases List.mem_singleton.mp hstage <;>
      cases List.mem_singleton.mp hentry
    · refine .object fun inner hinner => ?_
      cases List.mem_singleton.mp hinner
      exact .str _
    · exact .int _
  exact (legible_journaled (σ := Unit) ⟨fun _ _ => pure []⟩ fun _ => "now").file _ _ [] () free rfl
    rfl

end Journal
end DocSearch
