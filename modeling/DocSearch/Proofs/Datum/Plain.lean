import DocSearch.Datum.Basic
import DocSearch.Proofs.Outcome

/-! # Reading data as plain

A slot may hold definitions, which have no place in a document. Data without any are read as the
plain data that they are, and only a definition keeps others from it. -/

namespace DocSearch

open Outcome

namespace Datum

mutual
/-- All that keeps a datum from being read as plain data is a definition in it. -/
theorem kind_value : ∀ (d : Datum) (fault : Fault), d.value = .error fault →
    fault.kind = .operation
  | .null | .bool _ | .int _ | .float _ | .str _ => by simp [value]
  | .list items => fun fault h => kind_values items fault (map_eq_error h)
  | .object entries => fun fault h => kind_document entries fault (map_eq_error h)
  | .made .. => by simp [value, lacking, Fault.kind]
  | .builder .. => by simp [value, lacking, Fault.kind]

theorem kind_values : ∀ (items : List Datum) (fault : Fault), values items = .error fault →
    fault.kind = .operation
  | [] => by simp [values]
  | d :: rest => by
    intro fault h
    rcases bind_eq_error h with h | ⟨v, _, h⟩
    · exact kind_value d fault h
    · rcases bind_eq_error h with h | ⟨vs, _, h⟩
      · exact kind_values rest fault h
      · cases h

theorem kind_document : ∀ (entries : Entries Datum) (fault : Fault),
    document entries = .error fault → fault.kind = .operation
  | [] => by simp [document]
  | (key, d) :: rest => by
    intro fault h
    rcases bind_eq_error h with h | ⟨v, _, h⟩
    · exact kind_value d fault h
    · rcases bind_eq_error h with h | ⟨vs, _, h⟩
      · exact kind_document rest fault h
      · cases h
end

mutual
/-- What can be read as plain data is that data. -/
theorem eq_ofValue : ∀ {d : Datum} {v : Value}, d.value = .ok v → d = .ofValue v
  | .null, _, h | .bool _, _, h | .int _, _, h | .float _, _, h | .str _, _, h => by
    cases h
    rfl
  | .list items, _, h => by
    obtain ⟨vs, hvs, rfl⟩ := map_eq_ok h
    rw [ofValue, eq_ofItems hvs]
  | .object entries, _, h => by
    obtain ⟨d, hd, rfl⟩ := map_eq_ok h
    rw [ofValue, eq_ofDocumentEntries hd]
  | .made .., _, h | .builder .., _, h => by cases h

theorem eq_ofItems : ∀ {items : List Datum} {vs : List Value}, values items = .ok vs →
    items = ofItems vs
  | [], _, h => by
    cases h
    rfl
  | d :: rest, _, h => by
    obtain ⟨v, hv, h⟩ := bind_eq_ok h
    obtain ⟨vs, hvs, h⟩ := bind_eq_ok h
    cases h
    rw [ofItems, ← eq_ofValue hv, ← eq_ofItems hvs]

theorem eq_ofDocumentEntries : ∀ {entries : Entries Datum} {d : Document},
    document entries = .ok d → entries = ofDocumentEntries d
  | [], _, h => by
    cases h
    rfl
  | (key, d) :: rest, _, h => by
    obtain ⟨v, hv, h⟩ := bind_eq_ok h
    obtain ⟨vs, hvs, h⟩ := bind_eq_ok h
    cases h
    rw [ofDocumentEntries, ← eq_ofValue hv, ← eq_ofDocumentEntries hvs]
end

theorem value_single (key : String) (d : Datum) :
    (Datum.object [(key, d)]).value = d.value.map fun v => .object [(key, v)] := by
  simp only [value, document]
  cases d.value <;> rfl

theorem value_behind (key first : String) (v : Value) (d : Datum) :
    (Datum.object [(first, .ofValue v), (key, d)]).value
      = d.value.map fun w => .object [(first, v), (key, w)] := by
  simp only [value, document, value_ofValue]
  cases d.value <;> rfl

/-! ## Plain data as data -/

theorem ofItems_eq_map (items : List Value) : ofItems items = items.map ofValue := by
  induction items with
  | nil => rfl
  | cons v rest ih => exact congrArg (ofValue v :: ·) ih

theorem get?_ofDocumentEntries (key : String) (d : Document) :
    Entries.get? key (ofDocumentEntries d) = (d.get? key).map ofValue := by
  induction d with
  | nil => rfl
  | cons entry rest ih =>
    obtain ⟨k, v⟩ := entry
    rw [ofDocumentEntries, Entries.get?_cons, Entries.get?_cons, ih]
    split <;> rfl

/-- Entries have a document exactly if they are those of plain data. -/
theorem document_eq_ok_iff {entries : Entries Datum} {d : Document} :
    document entries = .ok d ↔ entries = ofDocumentEntries d := by
  constructor
  · exact eq_ofDocumentEntries
  · rintro rfl
    exact document_ofDocumentEntries d

end Datum
end DocSearch
