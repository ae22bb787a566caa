import DocSearch.Record.Kind
import Mathlib.Data.List.Induction

/-! # Records, field by field

A library that reads records and lists as it should reads what they are made of, one part after the
other: what is wrong with a record is what is wrong with its fields, in the order of declaration,
and what is wrong with a list is what is wrong with its items. So the issues of a document are known
from those of the values without parts in it. -/

namespace DocSearch

variable {L : Library}

namespace Checked

variable {α β : Type}

theorem issues_both (x : Checked α) (y : Checked β) : (x.both y).issues = x.issues ++ y.issues := by
  cases x <;> cases y <;> simp [both, issues]

theorem issues_map (x : Checked α) (f : α → β) : Checked.issues (x.map f) = x.issues := by
  cases x <;> rfl

theorem issues_under (x : Checked α) (step : Step) :
    (x.under step).issues = x.issues.map (Issue.under step) := by
  cases x <;> rfl

theorem map_fails_iff (x : Checked α) (f : α → β) :
    (∃ issues, Except.map f x = .error issues) ↔ ∃ issues, x = .error issues := by
  cases x <;> simp [Except.map]

theorem both_fails_iff (x : Checked α) (y : Checked β) : (∃ issues, x.both y = .error issues) ↔
    (∃ issues, x = .error issues) ∨ ∃ issues, y = .error issues := by
  cases x <;> cases y <;> simp [both]

end Checked

/-! ## One part more -/

namespace Library

/-- A record with one field more in front. -/
theorem ReadsRecords.validate_cons (h : L.ReadsRecords) (name : String) (byName : Bool) (f : Field)
    (type : FieldType) (rest : Fields) (d : Entries Datum) :
    L.validate (.record name byName (.cons f type rest)) (.object d)
      = (L.field byName d f type).both (L.validate (.record name byName rest) (.object d)) := by
  have taken := h.taken name byName f type rest d
  have refused := h.refused name byName f type rest d
  generalize L.field byName d f type = x at taken refused ⊢
  generalize L.validate (.record name byName rest) (.object d) = y at taken refused ⊢
  match x, y with
  | .ok a, .ok b => exact taken a b rfl rfl
  | .error es, .ok b =>
    rw [refused es (.inl rfl)]
    exact congrArg Except.error (List.append_nil es)
  | .ok a, .error fs => exact refused fs (.inr rfl)
  | .error es, .error fs => exact refused es (.inl rfl)

/-- A list with one item more behind. -/
theorem ReadsLists.validate_concat (h : L.ReadsLists) (type : FieldType) (items : List Datum)
    (v : Datum) : L.validate (.list type) (.list (items ++ [v]))
      = ((L.validate (.list type) (.list items)).both
          ((L.validate type v).under (.index items.length))).map
        fun (read : List type.Content × type.Content) => read.1 ++ [read.2] := by
  have taken := h.taken type items v
  have refused := h.refused type items v
  generalize L.validate (.list type) (.list items) = x at taken refused ⊢
  generalize L.validate type v = y at taken refused ⊢
  match x, y with
  | .ok as, .ok a => exact taken as a rfl rfl
  | .error es, .ok a =>
    rw [refused es (.inl rfl)]
    exact congrArg Except.error (List.append_nil es)
  | .ok as, .error fs => exact refused fs (.inr rfl)
  | .error es, .error fs => exact refused es (.inl rfl)

/-! ## Issues -/

theorem ReadsRecords.issues_cons (h : L.ReadsRecords) (name : String) (byName : Bool) (f : Field)
    (type : FieldType) (rest : Fields) (d : Entries Datum) :
    (L.validate (.record name byName (.cons f type rest)) (.object d)).issues
      = (L.field byName d f type).issues
        ++ (L.validate (.record name byName rest) (.object d)).issues :=
  (congrArg Checked.issues (h.validate_cons name byName f type rest d)).trans
    (Checked.issues_both _ _)

theorem ReadsRecords.cons_fails_iff (h : L.ReadsRecords) (name : String) (byName : Bool)
    (f : Field) (type : FieldType) (rest : Fields) (d : Entries Datum) :
    (∃ issues, L.validate (.record name byName (.cons f type rest)) (.object d) = .error issues) ↔
      (∃ issues, L.field byName d f type = .error issues) ∨
        ∃ issues, L.validate (.record name byName rest) (.object d) = .error issues := by
  have both := Checked.both_fails_iff (L.field byName d f type)
    (L.validate (.record name byName rest) (.object d))
  rw [h.validate_cons]
  exact both

/-- What is wrong with a record are the issues of its fields, in the order of declaration. -/
theorem ReadsRecords.issues_record (h : L.ReadsRecords) (name : String) (byName : Bool)
    (fields : Fields) (d : Entries Datum) :
    (L.validate (.record name byName fields) (.object d)).issues
      = fields.toList.flatMap fun (f, type) => (L.field byName d f type).issues := by
  match fields with
  | .nil => rw [h.empty]; rfl
  | .cons f type rest =>
    rw [h.issues_cons, h.issues_record name byName rest]
    rfl

/-- A record fails if and only if one of its fields does. -/
theorem ReadsRecords.fails_iff (h : L.ReadsRecords) (name : String) (byName : Bool)
    (fields : Fields) (d : Entries Datum) :
    (∃ issues, L.validate (.record name byName fields) (.object d) = .error issues) ↔
      ∃ f ∈ fields.toList, ∃ issues, L.field byName d f.1 f.2 = .error issues := by
  match fields with
  | .nil => simp [h.empty, Fields.toList]
  | .cons f type rest =>
    rw [h.cons_fails_iff, h.fails_iff name byName rest]
    simp [Fields.toList]

theorem ReadsLists.issues_concat (h : L.ReadsLists) (type : FieldType) (items : List Datum)
    (v : Datum) : (L.validate (.list type) (.list (items ++ [v]))).issues
      = (L.validate (.list type) (.list items)).issues
        ++ ((L.validate type v).under (.index items.length)).issues :=
  (congrArg Checked.issues (h.validate_concat type items v)).trans
    ((Checked.issues_map _ _).trans (Checked.issues_both _ _))

/-- What is wrong with a list are the issues of its items, in order. -/
theorem ReadsLists.issues_list (h : L.ReadsLists) (type : FieldType) (items : List Datum) :
    (L.validate (.list type) (.list items)).issues = items.zipIdx.flatMap fun (v, index) =>
      (L.validate type v).issues.map (Issue.under (.index index)) := by
  induction items using List.reverseRecOn with
  | nil => rw [h.empty]; rfl
  | append_singleton items v ih =>
    rw [h.issues_concat, ih, Checked.issues_under, List.zipIdx_append, List.flatMap_append]
    simp

end Library

/-! ## Issues at any depth -/

/-- What is wrong with a field that a document may have under some key. -/
def Demand.wrong (demand : Demand) (place : String) (wrong : Datum → List Issue) :
    Option (String × Datum) → List Issue :=
  match demand with
  | .required => fun
    | none => [⟨[.key place], .missing⟩]
    | some (key, v) => (wrong v).map (Issue.under (.key key))
  | .optional => fun
    | none | some (_, .null) => []
    | some (key, v) => (wrong v).map (Issue.under (.key key))

mutual
/-- What is wrong with a datum, as soon as it is known of values without parts. -/
def FieldType.wrong (L : Library) : FieldType → Datum → List Issue
  | .list item, .list items => items.zipIdx.flatMap fun (v, index) =>
      (item.wrong L v).map (Issue.under (.index index))
  | .record _ byName fields, .object d => fields.wrong L byName d
  | type, v => (L.validate type v).issues

def Fields.wrong (L : Library) (byName : Bool) : Fields → Entries Datum → List Issue
  | .nil, _ => []
  | .cons f type rest, d =>
    f.demand.wrong f.place (type.wrong L) (firstOf d (f.keys byName)) ++ rest.wrong L byName d
end

theorem Demand.issues_read {α : Type} (demand : Demand) (place : String)
    (validate : Datum → Checked α) (found : Option (String × Datum)) :
    (demand.read place validate found).issues
      = demand.wrong place (fun v => (validate v).issues) found := by
  cases demand with
  | required =>
    cases found with
    | none => rfl
    | some entry => exact Checked.issues_under _ _
  | optional =>
    match found with
    | none => rfl
    | some (key, v) =>
      cases v with
      | null => rfl
      | _ => exact (Checked.issues_map _ _).trans (Checked.issues_under _ _)

namespace Library

mutual
/-- The issues of a datum are those of what it is made of, in order, each at its place. -/
theorem issues_validate (records : L.ReadsRecords) (lists : L.ReadsLists) (type : FieldType)
    (v : Datum) : (L.validate type v).issues = type.wrong L v := by
  match type, v with
  | .list item, .list items =>
    rw [lists.issues_list, FieldType.wrong]
    simp only [issues_validate records lists item]
  | .record name byName fields, .object d =>
    rw [FieldType.wrong]
    exact issues_fields records lists name byName fields d
  | .text, _ | .integer, _ | .number, _ | .choice _, _ => rfl
  | .list _, .null | .list _, .bool _ | .list _, .int _ | .list _, .float _ | .list _, .str _
  | .list _, .object _ | .list _, .made .. | .list _, .builder .. => rfl
  | .record .., .null | .record .., .bool _ | .record .., .int _ | .record .., .float _
  | .record .., .str _ | .record .., .list _ | .record .., .made .. | .record .., .builder .. => rfl

theorem issues_fields (records : L.ReadsRecords) (lists : L.ReadsLists) (name : String)
    (byName : Bool) (fields : Fields) (d : Entries Datum) :
    (L.validate (.record name byName fields) (.object d)).issues = fields.wrong L byName d := by
  match fields with
  | .nil => rw [records.empty]; rfl
  | .cons f type rest =>
    rw [records.issues_cons, field, Demand.issues_read,
      issues_fields records lists name byName rest, Fields.wrong]
    simp only [issues_validate records lists type]
end

end Library
end DocSearch
