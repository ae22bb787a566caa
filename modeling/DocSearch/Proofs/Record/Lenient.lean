import DocSearch.Record.Lenient

/-! # The lenient library keeps the laws

It reads field by field and item by item, takes nothing that has other parts than it asks for,
leaves alone what needs no leniency, and writes each field under its name. -/

namespace DocSearch

namespace Checked

variable {α β : Type} {x : Checked α} {y : Checked β} {issues : List Issue}

theorem both_of_error (h : x = .error issues ∨ y = .error issues) :
    x.both y = .error (x.issues ++ y.issues) := by
  rcases h with rfl | rfl
  · cases y with
    | ok b => exact congrArg Except.error (List.append_nil issues).symm
    | error more => rfl
  · cases x <;> rfl

end Checked

namespace Reader

/-- What is wrong with a datum that has other parts than a type asks for. -/
def misfit : FieldType → Mismatch
  | .text => .notText
  | .integer => .notInteger
  | .number => .notNumber
  | .choice texts => .notChoice texts
  | .list _ => .notList
  | .record name _ _ => .notRecord name

variable {α : Type} (read : Datum → Checked α)

theorem itemsFrom_concat (index : Nat) (items : List Datum) (v : Datum) :
    itemsFrom read index (items ++ [v])
      = ((itemsFrom read index items).both ((read v).under (.index (index + items.length)))).map
        fun (as, a) => as ++ [a] := by
  induction items generalizing index with
  | nil =>
    rw [List.nil_append, itemsFrom, itemsFrom, List.length_nil, Nat.add_zero]
    cases (read v).under (.index index) <;> rfl
  | cons w items ih =>
    rw [List.cons_append, itemsFrom, itemsFrom, ih, List.length_cons, Nat.succ_add_eq_add_succ]
    -- Whichever of the three fail, their issues come in one order on both sides.
    cases (read w).under (.index index) <;> cases itemsFrom read (index + 1) items <;>
      cases (read v).under (.index (index + (items.length + 1))) <;>
        simp [Checked.both, Except.map]

end Reader

namespace Library

theorem lenient_readsRecords : lenient.ReadsRecords where
  empty _ _ _ := rfl
  taken name byName f type rest d a b ha hb := by
    have both : lenient.validate (.record name byName (.cons f type rest)) (.object d)
        = (lenient.field byName d f type).both
          (lenient.validate (.record name byName rest) (.object d)) := rfl
    rw [both, ha, hb]
    rfl
  refused name byName f type rest d issues h := Checked.both_of_error h

theorem lenient_validate_concat (type : FieldType) (items : List Datum) (v : Datum) :
    lenient.validate (.list type) (.list (items ++ [v]))
      = ((lenient.validate (.list type) (.list items)).both
          ((lenient.validate type v).under (.index items.length))).map
        fun (read : List type.Content × type.Content) => read.1 ++ [read.2] := by
  have concat := Reader.itemsFrom_concat (Reader.value type) 0 items v
  rwa [Nat.zero_add] at concat

theorem lenient_readsLists : lenient.ReadsLists where
  empty _ := rfl
  taken type items v as a has ha := by
    rw [lenient_validate_concat, has, ha]
    rfl
  refused type items v issues h := by
    have later : lenient.validate (.list type) (.list items) = .error issues ∨
        ∃ more, (lenient.validate type v).under (.index items.length) = .error more := by
      refine h.imp_right fun hv => ?_
      rw [hv]
      exact ⟨_, rfl⟩
    rw [lenient_validate_concat]
    rcases later with failed | ⟨more, failed⟩
    · rw [Checked.both_of_error (.inl failed)]
      rfl
    · rw [Checked.both_of_error (.inr failed)]
      rfl

theorem lenient_refusesMisfits : lenient.RefusesMisfits := by
  intro type
  refine ⟨Reader.misfit type, fun d h => ?_⟩
  cases type <;> cases d <;> first | rfl | cases h

theorem lenient_keepsValues : lenient.KeepsValues where
  text _ := rfl
  integer _ := rfl
  number _ := rfl
  choice _ _ h := dif_pos h

theorem lenient_writesRecords : lenient.WritesRecords where
  text _ := rfl
  integer _ := rfl
  number _ := rfl
  choice _ _ _ := rfl
  list _ _ := rfl
  empty _ _ := rfl
  entry _ _ f type rest a b d h := by
    obtain rfl : Writer.entries rest b = d := Value.object.inj h
    rfl

end Library
end DocSearch
