import DocSearch.Query.Options

/-! # Equality of plain data

Numbers are equal by their place, so equality of numbers is symmetric and transitive, whatever kinds
they are of. Objects are equal whatever the order of their keys; for objects whose entries fill the
same slots in the same order, that is equality slot by slot. -/

namespace DocSearch

/-! ## Numbers -/

theorem Magnitude.same_iff {a b : Magnitude} : a.same b = true ↔ a = b ∧ a ≠ .undefined := by
  cases a <;> cases b <;> simp [Magnitude.same]

theorem Number.same_iff {a b : Number} :
    a.same b = true ↔ a.magnitude = b.magnitude ∧ a.magnitude ≠ .undefined :=
  Magnitude.same_iff

theorem Number.same_comm (a b : Number) : a.same b = b.same a := by
  rw [Bool.eq_iff_iff, same_iff, same_iff]
  constructor
  · rintro ⟨h, hu⟩; exact ⟨h.symm, h ▸ hu⟩
  · rintro ⟨h, hu⟩; exact ⟨h.symm, h ▸ hu⟩

theorem Number.same_trans {a b c : Number} (h : a.same b = true) (h' : b.same c = true) :
    a.same c = true := by
  obtain ⟨hab, hu⟩ := same_iff.mp h
  exact same_iff.mpr ⟨hab.trans (same_iff.mp h').1, hu⟩

/-- The number is not the undefined one. -/
def Number.Defined (n : Number) : Prop := n.magnitude ≠ .undefined

theorem Number.Defined.same {n : Number} (h : n.Defined) : n.same n = true :=
  same_iff.mpr ⟨rfl, h⟩

/-! ## Equality, case by case -/

namespace Datum

@[simp] theorem same_null : Datum.null.same .null = true := rfl

@[simp] theorem same_str (s t : String) : (Datum.str s).same (.str t) = (s == t) := rfl

@[simp] theorem same_list (as bs : List Datum) :
    (Datum.list as).same (.list bs) = sameItems as bs := rfl

@[simp] theorem same_made (s t : String) (as bs : List Datum) (d e x y : Except Fault Value) :
    (Datum.made s as d x).same (.made t bs e y) = (s == t && sameItems as bs) := rfl

theorem same_object (as bs : Entries Datum) :
    (Datum.object as).same (.object bs) = (as.length == bs.length && sameEntries as bs) := rfl

@[simp] theorem same_ofNumber (m n : Number) :
    (Datum.ofNumber m).same (.ofNumber n) = m.same n := by cases m <;> cases n <;> rfl

theorem same_ofNumber_int (m : Number) (n : Int) :
    (Datum.ofNumber m).same (.int n) = m.same (.whole n) := same_ofNumber m (.whole n)

@[simp] theorem ofNumber_same_null (n : Number) : (Datum.ofNumber n).same .null = false := by
  cases n <;> rfl

@[simp] theorem null_same_ofNumber (n : Number) : Datum.null.same (.ofNumber n) = false := by
  cases n <;> rfl

@[simp] theorem sameItems_nil : sameItems [] [] = true := rfl

@[simp] theorem sameItems_cons (a b : Datum) (as bs : List Datum) :
    sameItems (a :: as) (b :: bs) = (a.same b && sameItems as bs) := rfl

@[simp] theorem sameItems_nil_cons (b : Datum) (bs : List Datum) :
    sameItems [] (b :: bs) = false := rfl

@[simp] theorem sameItems_cons_nil (a : Datum) (as : List Datum) :
    sameItems (a :: as) [] = false := rfl

theorem sameEntries_cons (k : String) (a : Datum) (as bs : Entries Datum) :
    sameEntries ((k, a) :: as) bs = ((match bs.get? k with
      | some b => a.same b
      | none => false) && sameEntries as bs) := rfl

@[simp] theorem ofItems_nil : ofItems [] = [] := rfl

@[simp] theorem ofItems_cons (v : Value) (vs : List Value) :
    ofItems (v :: vs) = ofValue v :: ofItems vs := rfl

theorem ofDocumentEntries_cons (k : String) (v : Value) (d : Document) :
    ofDocumentEntries ((k, v) :: d) = (k, ofValue v) :: ofDocumentEntries d := rfl

end Datum

/-! ## Values -/

namespace Value

/-- Equality of plain data. -/
def same (v w : Value) : Bool := (Datum.ofValue v).same (.ofValue w)

theorem same_ofNumber (m n : Number) : (ofNumber m).same (.ofNumber n) = m.same n :=
  Datum.same_ofNumber m n

theorem same_str (s t : String) : (str s).same (.str t) = (s == t) := Datum.same_str s t

theorem same_str_list (s : String) (vs : List Value) : (str s).same (.list vs) = false := rfl

theorem same_list_str (vs : List Value) (s : String) : (list vs).same (.str s) = false := rfl

theorem same_list (vs ws : List Value) :
    (list vs).same (.list ws) = Datum.sameItems (Datum.ofItems vs) (Datum.ofItems ws) := rfl

theorem same_list_cons (v w : Value) (vs ws : List Value) :
    (list (v :: vs)).same (.list (w :: ws)) = (v.same w && (list vs).same (.list ws)) := rfl

theorem same_object_nil : (object []).same (.object []) = true := rfl

/-- Lists of texts are equal only if they are the same. -/
theorem same_list_texts (ss ts : List String) :
    (list (ss.map .str)).same (.list (ts.map .str)) = (ss == ts) := by
  induction ss generalizing ts with
  | nil => cases ts <;> rfl
  | cons s ss ih =>
    cases ts with
    | nil => rfl
    | cons t ts =>
      rw [List.map_cons, List.map_cons, same_list_cons, same_str, ih]
      rfl

end Value

/-! ## Objects, entry by entry -/

namespace Entries

variable {α : Type}

theorem get?_nil {key : String} : get? key ([] : Entries α) = none := rfl

theorem get?_append {key : String} (d e : Entries α) :
    get? key (d ++ e) = (get? key d).or (get? key e) :=
  List.lookup_append

theorem get?_single {key k : String} {v w : α} (h : get? key [(k, w)] = some v) :
    key = k ∧ w = v := by
  rw [get?_cons] at h
  split at h
  · rename_i hkey
    exact ⟨hkey, Option.some.inj h⟩
  · cases h

theorem get?_eq_none {key : String} {d : Entries α} (h : key ∉ keys d) :
    d.get? key = none := by
  induction d with
  | nil => rfl
  | cons entry rest ih =>
    obtain ⟨k, v⟩ := entry
    have hk : key ≠ k ∧ key ∉ keys rest := by simpa [keys] using h
    rw [get?_cons, if_neg hk.1]
    exact ih hk.2

theorem mem_keys_of_get? {key : String} {d : Entries α} {v : α}
    (h : d.get? key = some v) : key ∈ keys d := by
  refine Decidable.byContradiction fun hk => ?_
  rw [get?_eq_none hk] at h
  cases h

end Entries

namespace Datum

theorem keys_ofDocumentEntries (d : Document) :
    Entries.keys (ofDocumentEntries d) = Entries.keys d := by
  induction d with
  | nil => rfl
  | cons entry rest ih =>
    obtain ⟨k, v⟩ := entry
    rw [ofDocumentEntries_cons]
    exact congrArg (k :: ·) ih

/-- An entry that no entry asks for does not count. -/
theorem sameEntries_cons_right {k : String} (y : Datum) {as : Entries Datum} (bs : Entries Datum)
    (h : k ∉ Entries.keys as) : sameEntries as ((k, y) :: bs) = sameEntries as bs := by
  induction as with
  | nil => rfl
  | cons entry rest ih =>
    obtain ⟨j, x⟩ := entry
    have hj : k ≠ j ∧ k ∉ Entries.keys rest := by simpa [Entries.keys] using h
    rw [sameEntries_cons, sameEntries_cons, ih hj.2, Entries.get?_cons, if_neg (Ne.symm hj.1)]

theorem keys_subset_of_sameEntries {as bs : Entries Datum} (h : sameEntries as bs = true) :
    Entries.keys as ⊆ Entries.keys bs := by
  induction as with
  | nil => exact List.nil_subset _
  | cons entry rest ih =>
    obtain ⟨k, x⟩ := entry
    rw [sameEntries_cons, Bool.and_eq_true] at h
    refine List.cons_subset.mpr ⟨?_, ih h.2⟩
    cases hg : Entries.get? k bs with
    | none => rw [hg] at h; cases h.1
    | some y => exact Entries.mem_keys_of_get? hg

end Datum

namespace Value

theorem same_object (d e : Document) :
    (object d).same (.object e) = (d.length == e.length
      && Datum.sameEntries (Datum.ofDocumentEntries d) (Datum.ofDocumentEntries e)) := by
  have length (d : Document) : (Datum.ofDocumentEntries d).length = d.length := by
    have h := congrArg List.length (Datum.keys_ofDocumentEntries d)
    simpa [Entries.keys] using h
  have h := Datum.same_object (Datum.ofDocumentEntries d) (Datum.ofDocumentEntries e)
  rw [length, length] at h
  exact h

/-- Two objects that begin with the same key. -/
theorem same_object_cons {k : String} {v w : Value} {d e : Document} (h : k ∉ Entries.keys d) :
    (object ((k, v) :: d)).same (.object ((k, w) :: e))
      = (v.same w && (object d).same (.object e)) := by
  have hk : k ∉ Entries.keys (Datum.ofDocumentEntries d) := by
    rwa [Datum.keys_ofDocumentEntries]
  rw [same_object, same_object, Datum.ofDocumentEntries_cons, Datum.ofDocumentEntries_cons,
    Datum.sameEntries_cons, Datum.sameEntries_cons_right _ _ hk, Entries.get?_cons, if_pos rfl]
  simp only [List.length_cons, same]
  cases (Datum.ofValue v).same (Datum.ofValue w) <;> simp

/-- An object is not equal to one that lacks its first key. -/
theorem same_object_left {k : String} {v : Value} {d e : Document} (h : k ∉ Entries.keys e) :
    (object ((k, v) :: d)).same (.object e) = false := by
  have hk : k ∉ Entries.keys (Datum.ofDocumentEntries e) := by
    rwa [Datum.keys_ofDocumentEntries]
  rw [same_object, Datum.ofDocumentEntries_cons, Datum.sameEntries_cons, Entries.get?_eq_none hk]
  simp

/-- Two objects with one entry each. -/
theorem same_object_single (k l : String) (v w : Value) :
    (object [(k, v)]).same (.object [(l, w)]) = (k == l && v.same w) := by
  by_cases h : k = l
  · subst h
    rw [same_object_cons (by simp [Entries.keys]), same_object_nil]
    simp
  · rw [same_object_left (by simpa [Entries.keys] using h)]
    simp [h]

/-- An object without repeated keys is not equal to one with a key that it lacks. -/
theorem same_object_right {k : String} {w : Value} {d e : Document} (h : k ∉ Entries.keys d)
    (hn : (Entries.keys d).Nodup) : (object d).same (.object ((k, w) :: e)) = false := by
  have hk : k ∉ Entries.keys (Datum.ofDocumentEntries d) := by
    rwa [Datum.keys_ofDocumentEntries]
  rw [same_object, Datum.ofDocumentEntries_cons, Datum.sameEntries_cons_right _ _ hk,
    Bool.and_eq_false_iff]
  refine Decidable.or_iff_not_imp_right.mpr fun hs => ?_
  have hsub := Datum.keys_subset_of_sameEntries (Bool.not_eq_false _ ▸ hs)
  rw [Datum.keys_ofDocumentEntries, Datum.keys_ofDocumentEntries] at hsub
  have hl := hn.length_le_of_subset hsub
  simp only [Entries.keys, List.length_map] at hl
  simp only [List.length_cons, beq_eq_false_iff_ne]
  omega

/-! ## Objects, slot by slot -/

/-- The entries of the slots that are filled. -/
def slots (parts : List (String × Option Value)) : Document :=
  parts.filterMap fun part => part.2.map fun v => (part.1, v)

theorem slots_append (ps qs : List (String × Option Value)) :
    slots (ps ++ qs) = slots ps ++ slots qs := List.filterMap_append ..

/-- Equality of what two slots hold. -/
def sameSlot : Option Value → Option Value → Bool
  | none, none => true
  | some v, some w => v.same w
  | _, _ => false

theorem sameSlot_some (v w : Value) : sameSlot (some v) (some w) = v.same w := rfl

theorem keys_slots_sublist (parts : List (String × Option Value)) :
    (Entries.keys (slots parts)).Sublist (parts.map (·.1)) := by
  induction parts with
  | nil => exact .slnil
  | cons part rest ih =>
    obtain ⟨k, v⟩ := part
    cases v with
    | none => exact ih.cons _
    | some v => exact ih.cons_cons _

theorem same_slots_nil : (object (slots [])).same (.object (slots [])) = true := same_object_nil

theorem same_slots_cons {k : String} {v w : Option Value} {ps qs : List (String × Option Value)}
    (hp : k ∉ ps.map (·.1)) (hq : k ∉ qs.map (·.1)) (hn : (ps.map (·.1)).Nodup) :
    (object (slots ((k, v) :: ps))).same (.object (slots ((k, w) :: qs)))
      = (sameSlot v w && (object (slots ps)).same (.object (slots qs))) := by
  have hp' : k ∉ Entries.keys (slots ps) := fun h => hp ((keys_slots_sublist ps).subset h)
  have hq' : k ∉ Entries.keys (slots qs) := fun h => hq ((keys_slots_sublist qs).subset h)
  match v, w with
  | none, none => simp [slots, sameSlot]
  | some v, some w => exact same_object_cons hp'
  | some v, none => exact same_object_left hq'
  | none, some w => exact same_object_right hp' ((keys_slots_sublist ps).nodup hn)

/-- Objects that fill the same slots are equal if they are slot by slot. -/
theorem same_slots {ps qs : List (String × Option Value)} (hk : ps.map (·.1) = qs.map (·.1))
    (hn : (ps.map (·.1)).Nodup) : (object (slots ps)).same (.object (slots qs))
      = (ps.zip qs).all fun pair => sameSlot pair.1.2 pair.2.2 := by
  induction ps generalizing qs with
  | nil =>
    cases qs with
    | nil => exact same_slots_nil
    | cons q qs => cases hk
  | cons p ps ih =>
    obtain ⟨k, v⟩ := p
    cases qs with
    | nil => cases hk
    | cons q qs =>
      obtain ⟨l, w⟩ := q
      obtain ⟨hkl, hks⟩ := List.cons.inj hk
      have hkl : k = l := hkl
      subst hkl
      obtain ⟨hp, hn⟩ := List.nodup_cons.mp hn
      rw [same_slots_cons hp (hks ▸ hp) hn, ih hks hn, List.zip_cons_cons, List.all_cons]

/-- A setting that is left out at its default. -/
def elided (n : Number) (default : Int) : Option Value :=
  if n.same (.whole default) then none else some (.ofNumber n)

theorem unlessDefault_eq_slots (key : String) (n : Number) (default : Int) :
    unlessDefault key n default = slots [(key, elided n default)] := by
  unfold unlessDefault elided
  split <;> rfl

/-- Leaving out defaults loses nothing. -/
theorem sameSlot_elided (m n : Number) (default : Int) :
    sameSlot (elided m default) (elided n default) = m.same n := by
  unfold elided
  by_cases hm : m.same (.whole default) = true <;> by_cases hn : n.same (.whole default) = true
  · rw [if_pos hm, if_pos hn]
    exact (Number.same_trans hm (Number.same_comm .. ▸ hn)).symm
  · rw [if_pos hm, if_neg hn]
    refine (Bool.eq_false_iff.mpr fun h => hn ?_).symm
    exact Number.same_trans (Number.same_comm .. ▸ h) hm
  · rw [if_neg hm, if_pos hn]
    exact (Bool.eq_false_iff.mpr fun h => hm (Number.same_trans h hn)).symm
  · rw [if_neg hm, if_neg hn]
    exact same_ofNumber m n

end Value
end DocSearch
