import DocSearch.Proofs.Datum.Same
import Mathlib.Data.List.Induction

/-! # Entries said one after the other

Entries that are merged overwrite in place, so what merges leave is told by all the pairs that were
said, in order: a key stands where it was said first and holds what was said of it last. A layer
that is itself the outcome of merges says no more than its pairs do, so layers over layers come down
to one list of pairs. -/

namespace DocSearch.Entries

variable {α β : Type} {d : Entries α} {key k j : String} {v w : α}

/-! ## One pair -/

theorem nodup_keys_set (h : (keys d).Nodup) : (keys (set k v d)).Nodup := by
  rw [keys_set]
  by_cases hk : k ∈ keys d
  · rwa [if_pos hk]
  · rw [if_neg hk]
    refine List.nodup_append.mpr ⟨h, List.pairwise_singleton _ k, fun a ha b hb => ?_⟩
    rintro rfl
    exact hk (List.mem_singleton.mp hb ▸ ha)

theorem mem_keys_set_self : k ∈ keys (set k v d) :=
  mem_keys_of_get? (get?_set_self k v d)

theorem set_of_not_mem (hk : k ∉ keys d) : set k v d = d ++ [(k, v)] := by
  induction d with
  | nil => rfl
  | cons entry rest ih =>
    obtain ⟨i, u⟩ := entry
    obtain ⟨hi, hrest⟩ : k ≠ i ∧ k ∉ keys rest := by simpa [keys] using hk
    rw [set, if_neg hi.symm, ih hrest]
    rfl

theorem set_set_self : set k v (set k w d) = set k v d := by
  induction d with
  | nil => simp [set]
  | cons entry rest ih =>
    obtain ⟨i, u⟩ := entry
    by_cases hi : i = k <;> simp [set, hi, ih]

/-- Two keys may be set in either order if one of them has its place already. -/
theorem set_comm (hne : k ≠ j) (hk : k ∈ keys d) : set k v (set j w d) = set j w (set k v d) := by
  induction d with
  | nil => cases hk
  | cons entry rest ih =>
    obtain ⟨i, u⟩ := entry
    by_cases hi : i = k
    · subst hi
      simp [set, hne]
    · have hrest : k ∈ keys rest := (List.mem_cons.mp hk).resolve_left fun h => hi h.symm
      by_cases hj : i = j <;> simp [set, hi, hj, hne.symm, ih hrest]

theorem map_set (f : α → β) : (set k v d).map (fun entry => (entry.1, f entry.2))
    = set k (f v) (d.map fun entry => (entry.1, f entry.2)) := by
  induction d with
  | nil => rfl
  | cons entry rest ih =>
    obtain ⟨i, u⟩ := entry
    by_cases hi : i = k <;> simp [set, hi, ih]

theorem erase_cons (entry : String × α) : erase key (entry :: d)
    = if entry.1 = key then erase key d else entry :: erase key d := by
  by_cases h : entry.1 = key <;> simp [erase, h]

theorem erase_map (f : α → β) : erase key (d.map fun entry => (entry.1, f entry.2))
    = (erase key d).map fun entry => (entry.1, f entry.2) := by
  simp [erase, List.filter_map, Function.comp_def]

theorem erase_set_self : erase k (set k v d) = erase k d := by
  induction d with
  | nil => simp [set, erase]
  | cons entry rest ih =>
    obtain ⟨i, u⟩ := entry
    by_cases hi : i = k <;> simp [set, erase_cons, hi, ih]

theorem erase_set_of_ne (hne : k ≠ key) : erase key (set k v d) = set k v (erase key d) := by
  induction d with
  | nil => simp [set, erase, hne]
  | cons entry rest ih =>
    obtain ⟨i, u⟩ := entry
    by_cases hi : i = k
    · simp [set, erase_cons, hi, hne]
    · by_cases hkey : i = key <;> simp [set, erase_cons, hi, hkey, hne.symm, ih]

/-! ## Merges -/

variable {said more : Entries α}

theorem merge_append : merge d (said ++ more) = merge (merge d said) more := List.foldl_append

theorem merge_concat (entry : String × α) :
    merge d (said ++ [entry]) = set entry.1 entry.2 (merge d said) := merge_append

theorem nodup_keys_merge (h : (keys d).Nodup) : (keys (merge d said)).Nodup := by
  induction said generalizing d with
  | nil => exact h
  | cons entry rest ih => exact ih (nodup_keys_set h)

/-- A key that has its place already may be set before what says nothing of it. -/
theorem set_merge (hkey : k ∉ keys said) (hk : k ∈ keys d) :
    set k v (merge d said) = merge (set k v d) said := by
  induction said generalizing d with
  | nil => rfl
  | cons entry rest ih =>
    have hne : k ≠ entry.1 := fun h => hkey (h ▸ List.mem_cons_self)
    have hrest : k ∉ keys rest := fun h => hkey (List.mem_cons_of_mem _ h)
    have hstays : k ∈ keys (set entry.1 entry.2 d) := by
      rw [keys_set]
      split
      · exact hk
      · exact List.mem_append_left _ hk
    change set k v (merge (set entry.1 entry.2 d) rest)
      = merge (set entry.1 entry.2 (set k v d)) rest
    rw [ih hrest hstays, set_comm hne hk]

theorem merge_set (h : (keys said).Nodup) : merge d (set k v said) = set k v (merge d said) := by
  induction said generalizing d with
  | nil => rfl
  | cons entry rest ih =>
    obtain ⟨i, u⟩ := entry
    obtain ⟨hi, hrest⟩ := List.nodup_cons.mp h
    by_cases hik : i = k
    · subst hik
      have hplace : i ∈ keys (set i u d) := mem_keys_set_self
      rw [set, if_pos rfl]
      change merge (set i v d) rest = set i v (merge (set i u d) rest)
      rw [set_merge hi hplace, set_set_self]
    · rw [set, if_neg hik]
      exact ih hrest

/-- Two merges are one merge of what they bring. -/
theorem merge_assoc (h : (keys said).Nodup) :
    merge d (merge said more) = merge (merge d said) more := by
  induction more generalizing said with
  | nil => rfl
  | cons entry rest ih =>
    change merge d (merge (set entry.1 entry.2 said) rest)
      = merge (set entry.1 entry.2 (merge d said)) rest
    rw [ih (nodup_keys_set h), merge_set h]

theorem map_merge (f : α → β) : (merge d said).map (fun entry => (entry.1, f entry.2))
    = merge (d.map fun entry => (entry.1, f entry.2))
      (said.map fun entry => (entry.1, f entry.2)) := by
  induction said generalizing d with
  | nil => rfl
  | cons entry rest ih =>
    change (merge (set entry.1 entry.2 d) rest).map _ = _
    rw [ih, map_set]
    rfl

/-! ## What a list of pairs comes to -/

theorem ofList_append : ofList (said ++ more) = merge (ofList said) more := merge_append

theorem ofList_concat (entry : String × α) :
    ofList (said ++ [entry]) = set entry.1 entry.2 (ofList said) := merge_concat entry

theorem merge_ofList : merge d (ofList said) = merge d said := merge_assoc List.nodup_nil

theorem nodup_keys_ofList : (keys (ofList said)).Nodup := nodup_keys_merge List.nodup_nil

/-- Entries without a repeated key are what they say. -/
theorem ofList_of_nodup (h : (keys said).Nodup) : ofList said = said := by
  induction said using List.reverseRecOn with
  | nil => rfl
  | append_singleton said entry ih =>
    have hkeys : keys (said ++ [entry]) = keys said ++ [entry.1] := List.map_append ..
    rw [hkeys] at h
    obtain ⟨hsaid, -, hnew⟩ := List.nodup_append.mp h
    have hkey : entry.1 ∉ keys said := fun hm => hnew _ hm _ List.mem_cons_self rfl
    rw [ofList_concat, ih hsaid, set_of_not_mem hkey]

theorem map_ofList (f : α → β) : (ofList said).map (fun entry => (entry.1, f entry.2))
    = ofList (said.map fun entry => (entry.1, f entry.2)) := map_merge f

theorem erase_ofList : erase key (ofList said) = ofList (erase key said) := by
  induction said using List.reverseRecOn with
  | nil => rfl
  | append_singleton said entry ih =>
    have hsplit : erase key (said ++ [entry]) = erase key said ++ erase key [entry] :=
      List.filter_append ..
    rw [hsplit, ofList_concat, erase_cons]
    by_cases hkey : entry.1 = key
    · rw [if_pos hkey, ← hkey, erase_set_self, hkey, ih]
      exact congrArg ofList (List.append_nil _).symm
    · rw [if_neg hkey, erase_set_of_ne hkey, ih]
      exact (ofList_concat entry).symm

/-- The keys stand in the order of their first mention. -/
theorem keys_ofList : keys (ofList said) = (keys said).eraseDups := by
  induction said using List.reverseRecOn with
  | nil => rfl
  | append_singleton said entry ih =>
    have hkeys : keys (said ++ [entry]) = keys said ++ [entry.1] := List.map_append ..
    rw [ofList_concat, keys_set, ih, hkeys, List.eraseDups_append]
    by_cases h : entry.1 ∈ keys said
    · have hold : [entry.1].removeAll (keys said) = [] := by simp [List.removeAll, h]
      rw [if_pos (List.mem_eraseDups.mpr h), hold]
      exact (List.append_nil _).symm
    · have hnew : [entry.1].removeAll (keys said) = [entry.1] := by simp [List.removeAll, h]
      rw [if_neg fun hm => h (List.mem_eraseDups.mp hm), hnew]
      rfl

/-- What was said last of a key. -/
def last? (key : String) (said : Entries α) : Option α := get? key said.reverse

theorem last?_concat (entry : String × α) :
    last? key (said ++ [entry]) = if key = entry.1 then some entry.2 else last? key said := by
  rw [last?, List.reverse_append]
  exact get?_cons key entry.1 entry.2 said.reverse

theorem last?_append : last? key (said ++ more) = (last? key more).or (last? key said) := by
  rw [last?, List.reverse_append]
  exact get?_append more.reverse said.reverse

theorem get?_map (f : α → β) :
    get? key (d.map fun entry => (entry.1, f entry.2)) = (get? key d).map f := by
  induction d with
  | nil => rfl
  | cons entry rest ih =>
    obtain ⟨i, u⟩ := entry
    rw [List.map_cons, get?_cons, get?_cons, ih]
    split <;> rfl

theorem last?_map (f : α → β) :
    last? key (said.map fun entry => (entry.1, f entry.2)) = (last? key said).map f := by
  rw [last?, ← List.map_reverse]
  exact get?_map f

theorem get?_erase : get? key (erase k d) = if key = k then none else get? key d := by
  induction d with
  | nil => exact (ite_self none).symm
  | cons entry rest ih =>
    obtain ⟨i, u⟩ := entry
    rw [erase_cons, get?_cons]
    by_cases hi : i = k
    · subst hi
      rw [if_pos rfl, ih]
      split <;> rfl
    · rw [if_neg hi, get?_cons, ih]
      by_cases hkey : key = i
      · rw [if_pos hkey, if_pos hkey, if_neg (hkey ▸ hi)]
      · rw [if_neg hkey, if_neg hkey]

theorem last?_erase : last? key (erase k said) = if key = k then none else last? key said := by
  rw [last?, erase, ← List.filter_reverse]
  exact get?_erase

/-- What is said of each of some names is what was said of a name among them. -/
theorem last?_names (names : List String) (f : String → α) :
    last? key (names.map fun name => (name, f name))
      = if key ∈ names then some (f key) else none := by
  induction names using List.reverseRecOn with
  | nil => rfl
  | append_singleton names name ih =>
    rw [List.map_append, List.map_singleton, last?_concat, ih]
    by_cases hkey : key = name <;> simp [hkey]

/-- Under each key stands what was said of it last. -/
theorem get?_ofList : get? key (ofList said) = last? key said := by
  induction said using List.reverseRecOn with
  | nil => rfl
  | append_singleton said entry ih =>
    rw [ofList_concat, last?_concat]
    by_cases hkey : key = entry.1
    · rw [if_pos hkey, hkey, get?_set_self]
    · rw [if_neg hkey, get?_set_of_ne hkey, ih]

end DocSearch.Entries
