import DocSearch.Proofs.Datum.Same
import DocSearch.Proofs.Record.Fields
import DocSearch.Proofs.Record.Lenient
import Mathlib.Logic.Relation

/-! # What decoding depends on

Documents that vary in the order of their entries, or in entries that no record declares, are read
alike, at any depth. A record reads no more of an object than what its fields are found under. If
two objects agree on that, they hold the same result or the same issues; the places of the issues
are told by the names that the fields are found under, which is all that can differ if one of the
objects uses another name of a field. -/

namespace DocSearch

mutual
/-- The names that are looked for in values of a type, at any depth. -/
def FieldType.keys : FieldType → List String
  | .list item => item.keys
  | .record _ byName fields => fields.keys byName
  | .text | .integer | .number | .choice _ => []

def Fields.keys (byName : Bool) : Fields → List String
  | .nil => []
  | .cons f type rest => f.keys byName ++ (type.keys ++ rest.keys byName)
end

theorem Fields.keys_of_mem {byName : Bool} {fields : Fields} {f : Field × FieldType}
    (hf : f ∈ fields.toList) {key : String} (hk : key ∈ f.1.keys byName) :
    key ∈ fields.keys byName := by
  match fields with
  | .cons g type rest =>
    rw [toList, List.mem_cons] at hf
    rw [keys, List.mem_append, List.mem_append]
    rcases hf with rfl | hf
    · exact .inl hk
    · exact .inr (.inr (keys_of_mem hf hk))

/-- Every name that some record looks for. -/
def declaredNames : List String := RecordKind.all.flatMap fun kind => kind.type.keys

/-- A datum and the same changed in at most one place, at any depth: an object has its entries in
another order, or one entry more, under a name that no record declares. -/
inductive Datum.Varies : Datum → Datum → Prop
  | same (d : Datum) : Varies d d
  | reordered {es fs : Entries Datum} (distinct : es.keys.Nodup) (perm : es.Perm fs) :
      Varies (.object es) (.object fs)
  | added {front back : Entries Datum} {name : String} {d : Datum}
      (undeclared : name ∉ declaredNames) :
      Varies (.object (front ++ back)) (.object (front ++ (name, d) :: back))
  | entry {front back : Entries Datum} {name : String} {d e : Datum} (within : Varies d e) :
      Varies (.object (front ++ (name, d) :: back)) (.object (front ++ (name, e) :: back))
  | item {front back : List Datum} {d e : Datum} (within : Varies d e) :
      Varies (.list (front ++ d :: back)) (.list (front ++ e :: back))

/-! ## Looking for names -/

namespace Entries

variable {α : Type} {d e : Entries α} {name : String}

/-- The order of entries does not count if no key is repeated. -/
theorem get?_perm (h : d.Perm e) (distinct : d.keys.Nodup) : get? name d = get? name e := by
  induction h with
  | nil => rfl
  | cons entry _ ih =>
    obtain ⟨k, v⟩ := entry
    rw [get?_cons, get?_cons, ih (List.nodup_cons.mp distinct).2]
  | swap entry other l =>
    obtain ⟨k, v⟩ := entry
    obtain ⟨j, w⟩ := other
    -- With one key twice, the one in front would be found first in one order only.
    have hne : j ≠ k := fun he => (List.nodup_cons.mp distinct).1 (he ▸ List.mem_cons_self)
    rw [get?_cons, get?_cons, get?_cons, get?_cons]
    by_cases hj : name = j
    · rw [if_pos hj, if_neg fun hk => hne (hj.symm.trans hk), if_pos hj]
    · rw [if_neg hj, if_neg hj]
  | trans h _ ih ih' =>
    have kept : (keys _).Nodup := (h.map Prod.fst).nodup_iff.mp distinct
    exact (ih distinct).trans (ih' kept)

end Entries

namespace Datum.Varies

variable {d e : Datum} {es fs : Entries Datum} {name : String}

theorem eq_null_iff (h : Varies d e) : d = .null ↔ e = .null := by
  cases h with
  | same => exact Iff.rfl
  | reordered | added | entry | item => exact iff_of_false nofun nofun

theorem rel_refl (v : Option Datum) : Option.Rel Varies v v := by
  cases v with
  | none => exact .none
  | some v => exact .some (.same v)

/-- Under a declared name, objects that vary hold values that vary, if any. -/
theorem get? (h : Varies (.object es) (.object fs)) (declared : name ∈ declaredNames) :
    Option.Rel Varies (Entries.get? name es) (Entries.get? name fs) := by
  cases h with
  | same => exact rel_refl _
  | reordered distinct perm =>
    rw [Entries.get?_perm perm distinct]
    exact rel_refl _
  | @added front back other d undeclared =>
    have hne : name ≠ other := fun he => undeclared (he ▸ declared)
    rw [Entries.get?_append, Entries.get?_append, Entries.get?_cons, if_neg hne]
    exact rel_refl _
  | @entry front back other d e within =>
    rw [Entries.get?_append, Entries.get?_append, Entries.get?_cons, Entries.get?_cons]
    cases Entries.get? name front with
    | some v => exact .some (.same v)
    | none =>
      by_cases hn : name = other
      · rw [if_pos hn, if_pos hn]
        exact .some within
      · rw [if_neg hn, if_neg hn]
        exact rel_refl _

end Datum.Varies

open Datum (Varies)

/-! ## Issues told from another place -/

/-- The reading with its issues told anew. -/
def Checked.retold {α : Type} (ρ : Issue → Issue) : Checked α → Checked α
  | .ok a => .ok a
  | .error issues => .error (issues.map ρ)

/-- The issue with another key for the first step of its place, if that was `old`. -/
def Issue.renamed (old new : String) (issue : Issue) : Issue :=
  match issue.path with
  | .key name :: path => if name = old then { issue with path := .key new :: path } else issue
  | _ => issue

/-- `ρ` takes the issues below one key to those below another. -/
def Issue.Moves (ρ : Issue → Issue) (k l : String) : Prop :=
  ∀ issue : Issue, ρ (issue.under (.key k)) = issue.under (.key l)

theorem Issue.renamed_moves (old new : String) : Moves (renamed old new) old new :=
  fun _ => if_pos rfl

theorem Issue.renamed_keeps {old new key : String} (h : key ≠ old) :
    Moves (renamed old new) key key := fun _ => if_neg h

namespace Checked

variable {α β : Type} {ρ : Issue → Issue}

theorem retold_id (x : Checked α) : x.retold id = x := by
  cases x with
  | ok a => rfl
  | error issues => exact congrArg Except.error (List.map_id issues)

theorem retold_both (x : Checked α) (y : Checked β) :
    (x.both y).retold ρ = (x.retold ρ).both (y.retold ρ) := by
  cases x <;> cases y <;> simp [both, retold]

theorem retold_map (x : Checked α) (f : α → β) :
    Checked.retold ρ (x.map f) = (x.retold ρ).map f := by
  cases x <;> rfl

theorem retold_under {k l : String} (h : Issue.Moves ρ k l) (x : Checked α) :
    (x.under (.key k)).retold ρ = x.under (.key l) := by
  cases x with
  | ok a => rfl
  | error issues =>
    refine congrArg Except.error ?_
    rw [List.map_map]
    exact List.map_congr_left fun issue _ => h issue

end Checked

/-! ## Looking for fields -/

section

variable {d : Entries Datum} {key : String} {keys : List String}

theorem firstOf_of_some {v : Datum} (h : d.get? key = some v) :
    firstOf d (key :: keys) = some (key, v) := by rw [firstOf, h]

theorem firstOf_of_none (h : d.get? key = none) : firstOf d (key :: keys) = firstOf d keys := by
  rw [firstOf, h]

end

/-- A field is found in neither of two objects, or in both with values that vary. What is told of it
in the one is, retold by `ρ`, what is told of it in the other. -/
inductive Finds (ρ : Issue → Issue) (keys : List String) (d e : Entries Datum) : Prop
  | nowhere (left : firstOf d keys = none) (right : firstOf e keys = none)
      (keeps : ∀ key ∈ keys, Issue.Moves ρ key key)
  | both {k l : String} {x y : Datum} (left : firstOf d keys = some (k, x))
      (right : firstOf e keys = some (l, y)) (varies : Varies x y) (moves : Issue.Moves ρ k l)

namespace Finds

variable {ρ : Issue → Issue} {keys : List String} {d e : Entries Datum}

theorem of_rel (keeps : ∀ key ∈ keys, Issue.Moves ρ key key)
    (h : ∀ key ∈ keys, Option.Rel Varies (d.get? key) (e.get? key)) : Finds ρ keys d e := by
  induction keys with
  | nil => exact .nowhere rfl rfl keeps
  | cons key rest ih =>
    -- Both objects have the first key or neither has, so the same key decides in both.
    have here := h key List.mem_cons_self
    generalize hd : d.get? key = x, he : e.get? key = y at here
    cases here with
    | none =>
      have left : firstOf d (key :: rest) = firstOf d rest := firstOf_of_none hd
      have right : firstOf e (key :: rest) = firstOf e rest := firstOf_of_none he
      cases ih (fun k hk => keeps k (.tail _ hk)) fun k hk => h k (.tail _ hk) with
      | nowhere hleft hright => exact .nowhere (left.trans hleft) (right.trans hright) keeps
      | both hleft hright varies moves =>
        exact .both (left.trans hleft) (right.trans hright) varies moves
    | some varies =>
      exact .both (firstOf_of_some hd) (firstOf_of_some he) varies (keeps key List.mem_cons_self)

theorem of_eq (keeps : ∀ key ∈ keys, Issue.Moves ρ key key)
    (h : ∀ key ∈ keys, d.get? key = e.get? key) : Finds ρ keys d e := by
  refine of_rel keeps fun key hk => ?_
  rw [h key hk]
  exact Datum.Varies.rel_refl _

theorem of_varies (known : keys ⊆ declaredNames) (h : Varies (.object d) (.object e)) :
    Finds id keys d e :=
  of_rel (fun _ _ _ => rfl) fun _ hk => h.get? (known hk)

end Finds

theorem Field.place_mem_keys (f : Field) (byName : Bool) : f.place ∈ f.keys byName := by
  unfold place keys
  cases f.stored with
  | none => exact List.mem_singleton_self _
  | some stored => cases byName <;> exact List.mem_cons_self

/-- An optional field that is found and not null is read. -/
theorem Demand.read_optional_of_ne {α : Type} (place : String) {key : String} {v : Datum}
    {validate : Datum → Checked α} (present : v ≠ .null) :
    Demand.optional.read place validate (some (key, v))
      = ((validate v).under (.key key)).map some := by
  cases v with
  | null => exact absurd rfl present
  | _ => rfl

/-- A field that is found alike in two objects is read alike. -/
theorem Demand.read_retold {α : Type} (demand : Demand) {place : String} {keys : List String}
    {validate : Datum → Checked α} {ρ : Issue → Issue} {d e : Entries Datum}
    (hplace : place ∈ keys) (steady : ∀ v w, Varies v w → validate v = validate w)
    (h : Finds ρ keys d e) : (demand.read place validate (firstOf d keys)).retold ρ
      = demand.read place validate (firstOf e keys) := by
  cases h with
  | nowhere left right keeps =>
    rw [left, right]
    cases demand with
    | required =>
      exact congrArg (fun issue => Except.error [issue]) (keeps place hplace ⟨[], .missing⟩)
    | optional => rfl
  | @both k l x y left right varies moves =>
    rw [left, right]
    have told : ((validate x).under (.key k)).retold ρ = (validate y).under (.key l) := by
      rw [Checked.retold_under moves, steady x y varies]
    cases demand with
    | required => exact told
    | optional =>
      -- Null counts as no value, and is null in the other object too.
      by_cases hx : x = .null
      · obtain rfl := hx
        obtain rfl := varies.eq_null_iff.mp rfl
        rfl
      · have hy : y ≠ .null := fun hy => hx (varies.eq_null_iff.mpr hy)
        rw [read_optional_of_ne place hx, read_optional_of_ne place hy]
        exact (Checked.retold_map _ _).trans (congrArg _ told)

/-! ## What varies is read alike -/

namespace Library

variable {L : Library}

/-- What varies is read alike for a type. -/
def Steady (L : Library) (type : FieldType) : Prop :=
  ∀ d e, Varies d e → L.validate type d = L.validate type e

theorem RefusesMisfits.validate_eq (h : L.RefusesMisfits) {type : FieldType} {d e : Datum}
    (hd : misfits type d = true) (he : misfits type e = true) :
    L.validate type d = L.validate type e := by
  obtain ⟨mismatch, refused⟩ := h type
  exact (refused d hd).trans (refused e he).symm

/-- Only what has parts varies. -/
theorem steady_of_parts {type : FieldType}
    (lists : ∀ front v w back, Varies v w → L.validate type (.list (front ++ v :: back))
      = L.validate type (.list (front ++ w :: back)))
    (objects : ∀ es fs, Varies (.object es) (.object fs) →
      L.validate type (.object es) = L.validate type (.object fs)) : L.Steady type := by
  intro d e h
  cases h with
  | same => rfl
  | item within => exact lists _ _ _ _ within
  | reordered distinct perm => exact objects _ _ (.reordered distinct perm)
  | added undeclared => exact objects _ _ (.added undeclared)
  | entry within => exact objects _ _ (.entry within)

/-- Lists whose items are read alike are read alike. -/
theorem ReadsLists.validate_congr (h : L.ReadsLists) {type : FieldType} {items others : List Datum}
    (same : items.map (L.validate type) = others.map (L.validate type)) :
    L.validate (.list type) (.list items) = L.validate (.list type) (.list others) := by
  induction items using List.reverseRecOn generalizing others with
  | nil =>
    obtain rfl := List.map_eq_nil_iff.mp same.symm
    rfl
  | append_singleton items v ih =>
    rw [List.map_append, List.map_singleton] at same
    obtain ⟨front, back, rfl, hfront, hback⟩ := List.map_eq_append_iff.mp same.symm
    obtain ⟨w, rfl, hw⟩ := List.map_eq_singleton_iff.mp hback
    have lengths : items.length = front.length := by
      simpa using congrArg List.length hfront.symm
    rw [h.validate_concat, h.validate_concat, ih hfront.symm, hw, lengths]

/-- Two objects in which the fields of a record are found alike hold the same, or the same issues,
retold. -/
theorem ReadsRecords.validate_retold (h : L.ReadsRecords) {ρ : Issue → Issue} {d e : Entries Datum}
    (name : String) (byName : Bool) (fields : Fields) (steady : ∀ f ∈ fields.toList, L.Steady f.2)
    (found : ∀ f ∈ fields.toList, Finds ρ (f.1.keys byName) d e) :
    (L.validate (.record name byName fields) (.object d)).retold ρ
      = L.validate (.record name byName fields) (.object e) := by
  match fields with
  | .nil =>
    rw [h.empty, h.empty]
    rfl
  | .cons f type rest =>
    rw [Fields.toList, List.forall_mem_cons] at steady found
    have first : (L.field byName d f type).retold ρ = L.field byName e f type :=
      f.demand.read_retold (f.place_mem_keys byName) steady.1 found.1
    have others := h.validate_retold name byName rest steady.2 found.2
    have told := Checked.retold_both (ρ := ρ) (L.field byName d f type)
      (L.validate (.record name byName rest) (.object d))
    rw [first, others] at told
    rw [h.validate_cons, h.validate_cons]
    exact told

mutual
theorem steady (records : L.ReadsRecords) (lists : L.ReadsLists) (misfits : L.RefusesMisfits)
    (type : FieldType) (known : type.keys ⊆ declaredNames) : L.Steady type := by
  match type with
  | .text | .integer | .number | .choice _ =>
    exact steady_of_parts (fun _ _ _ _ _ => misfits.validate_eq rfl rfl)
      fun _ _ _ => misfits.validate_eq rfl rfl
  | .list item =>
    refine steady_of_parts (fun front v w back within => lists.validate_congr ?_)
      fun _ _ _ => misfits.validate_eq rfl rfl
    have same := steady records lists misfits item known v w within
    rw [List.map_append, List.map_append, List.map_cons, List.map_cons, same]
  | .record name byName fields =>
    refine steady_of_parts (fun _ _ _ _ _ => misfits.validate_eq rfl rfl) fun es fs varies => ?_
    have found : ∀ f ∈ fields.toList, Finds id (f.1.keys byName) es fs := fun f hf =>
      .of_varies (fun _ hk => known (Fields.keys_of_mem hf hk)) varies
    have told := records.validate_retold name byName fields
      (steady_fields records lists misfits byName fields known) found
    rwa [Checked.retold_id] at told

theorem steady_fields (records : L.ReadsRecords) (lists : L.ReadsLists) (misfits : L.RefusesMisfits)
    (byName : Bool) (fields : Fields) (known : fields.keys byName ⊆ declaredNames) :
    ∀ f ∈ fields.toList, L.Steady f.2 := by
  match fields with
  | .nil => exact nofun
  | .cons f type rest =>
    rw [Fields.keys, List.append_subset, List.append_subset] at known
    obtain ⟨-, htype, hrest⟩ := known
    rw [Fields.toList, List.forall_mem_cons]
    exact ⟨steady records lists misfits type htype,
      steady_fields records lists misfits byName rest hrest⟩
end

end Library

/-! ## Names of what a search adds -/

/-- The stored name of each part that a search adds, with its name in dumps. -/
def SearchMeta.aliases : List (String × String) :=
  [("searchHighlights", "search_highlights"), ("searchScore", "search_score"),
   ("textScore", "text_score")]

theorem SearchMeta.alias_ne : ∀ a ∈ aliases, a.1 ≠ a.2 := by decide

/-- A field goes by both names, the stored one first, or by neither. -/
theorem RecordKind.keys_aliases (kind : RecordKind) :
    ∀ f ∈ kind.fields.toList, ∀ a ∈ SearchMeta.aliases, f.1.keys kind.byName = [a.1, a.2] ∨
      a.1 ∉ f.1.keys kind.byName ∧ a.2 ∉ f.1.keys kind.byName := by
  cases kind <;> decide

/-- How decoding depends on an object. -/
structure RecordKind.ReadsFields (L : Library) (kind : RecordKind) : Prop where
  /-- Neither the order of entries nor entries that no record declares count, at any depth and
  however many such changes are made, in either direction. -/
  unmoved : ∀ d e, Relation.EqvGen Varies d e → kind.decode L d = kind.decode L e
  /-- What stands under the name used in dumps does not count beside the stored name. -/
  aliased : ∀ a ∈ SearchMeta.aliases, ∀ d e : Entries Datum, d.get? a.1 ≠ none →
    (∀ name ≠ a.2, d.get? name = e.get? name) →
    kind.decode L (.object d) = kind.decode L (.object e)
  /-- Without the stored name, the name used in dumps does as well. -/
  named : ∀ a ∈ SearchMeta.aliases, ∀ d e : Entries Datum, d.get? a.1 = none →
    d.get? a.2 ≠ none → e.get? a.1 = d.get? a.2 →
    (∀ name ≠ a.1, name ≠ a.2 → e.get? name = d.get? name) →
    (kind.decode L (.object e)).retold (Issue.renamed a.1 a.2) = kind.decode L (.object d)
  /-- Decoding fails if and only if some field does by itself. -/
  fails_iff : ∀ d, (∃ issues, kind.decode L (.object d) = .error issues) ↔
    ∃ f ∈ kind.fields.toList, ∃ issues, L.field kind.byName d f.1 f.2 = .error issues
  /-- The issues are those of each field by itself, in the order of declaration. -/
  issues : ∀ d, (kind.decode L (.object d)).issues
    = kind.fields.toList.flatMap fun (f, type) => (L.field kind.byName d f type).issues
  /-- At any depth they are those of the values without parts, and of what is missing, in order. -/
  deep : ∀ d, (kind.decode L (.object d)).issues = kind.fields.wrong L kind.byName d

namespace RecordKind

variable {L : Library} {ρ : Issue → Issue} {d e : Entries Datum}

theorem keys_known (kind : RecordKind) : kind.type.keys ⊆ declaredNames := by
  have listed : kind ∈ all := by cases kind <;> decide
  exact fun _ hk => List.mem_flatMap.mpr ⟨kind, listed, hk⟩

section

variable (records : L.ReadsRecords) (lists : L.ReadsLists) (misfits : L.RefusesMisfits)
include records lists misfits

/-- Two objects in which the fields of a kind are found alike hold the same result or the same
issues, retold. -/
theorem decode_retold (kind : RecordKind)
    (h : ∀ f ∈ kind.fields.toList, Finds ρ (f.1.keys kind.byName) d e) :
    (kind.decode L (.object d)).retold ρ = kind.decode L (.object e) := by
  have steady := Library.steady_fields records lists misfits kind.byName kind.fields
    kind.keys_known
  have told := records.validate_retold kind.typeName kind.byName kind.fields steady h
  exact (Checked.retold_map _ _).trans (congrArg _ told)

theorem decode_aliased (kind : RecordKind) {a : String × String} (ha : a ∈ SearchMeta.aliases)
    (present : d.get? a.1 ≠ none) (h : ∀ name ≠ a.2, d.get? name = e.get? name) :
    kind.decode L (.object d) = kind.decode L (.object e) := by
  have found : ∀ f ∈ kind.fields.toList, Finds id (f.1.keys kind.byName) d e := by
    intro f hf
    rcases kind.keys_aliases f hf a ha with hkeys | ⟨-, hname⟩
    · obtain ⟨v, hv⟩ := Option.ne_none_iff_exists'.mp present
      have he : e.get? a.1 = some v := (h a.1 (SearchMeta.alias_ne a ha)).symm.trans hv
      rw [hkeys]
      exact .both (firstOf_of_some hv) (firstOf_of_some he) (.same v) fun _ => rfl
    · exact .of_eq (fun _ _ _ => rfl) fun key hk => h key fun he => hname (he ▸ hk)
  have same := kind.decode_retold records lists misfits found
  rwa [Checked.retold_id] at same

theorem decode_named (kind : RecordKind) {a : String × String} (ha : a ∈ SearchMeta.aliases)
    (absent : d.get? a.1 = none) (present : d.get? a.2 ≠ none) (held : e.get? a.1 = d.get? a.2)
    (h : ∀ name ≠ a.1, name ≠ a.2 → e.get? name = d.get? name) :
    (kind.decode L (.object e)).retold (Issue.renamed a.1 a.2) = kind.decode L (.object d) := by
  refine kind.decode_retold records lists misfits fun f hf => ?_
  rcases kind.keys_aliases f hf a ha with hkeys | ⟨hstored, hname⟩
  · obtain ⟨v, hv⟩ := Option.ne_none_iff_exists'.mp present
    have right : firstOf d [a.1, a.2] = some (a.2, v) :=
      (firstOf_of_none absent).trans (firstOf_of_some hv)
    rw [hkeys]
    exact .both (firstOf_of_some (held.trans hv)) right (.same v) (Issue.renamed_moves a.1 a.2)
  · have ne {n m : String} (hn : n ∈ f.1.keys kind.byName) (hm : m ∉ f.1.keys kind.byName) :
        n ≠ m := fun he => hm (he ▸ hn)
    exact .of_eq (fun n hn => Issue.renamed_keeps (ne hn hstored))
      fun n hn => h n (ne hn hstored) (ne hn hname)

/-- With a library that reads records and lists part by part, decoding reads the declared fields and
nothing else. -/
theorem readsFields (kind : RecordKind) : kind.ReadsFields L where
  unmoved d e h := by
    have steady := Library.steady records lists misfits kind.type kind.keys_known
    induction h with
    | rel d e h => exact congrArg (Except.map _) (steady d e h)
    | refl d => rfl
    | symm d e _ ih => exact ih.symm
    | trans d e f _ _ ih ih' => exact ih.trans ih'
  aliased _ ha _ _ present h := kind.decode_aliased records lists misfits ha present h
  named _ ha _ _ absent present held h :=
    kind.decode_named records lists misfits ha absent present held h
  fails_iff d := Iff.trans (Checked.map_fails_iff _ _)
    (records.fails_iff kind.typeName kind.byName kind.fields d)
  issues d := (Checked.issues_map _ _).trans
    (records.issues_record kind.typeName kind.byName kind.fields d)
  deep d := (Checked.issues_map _ _).trans
    (Library.issues_fields records lists kind.typeName kind.byName kind.fields d)

end

/-- A film without a title, with two unusable parts of a highlight and no year. -/
def untitledFilm : Entries Datum :=
  [("year", .str "soon"), ("searchHighlights", .list [.object [("path", .str "plot"),
    ("texts", .list [.null, .object [("value", .str "x")]]), ("score", .int 1)]])]

/-- The issues of a film, in order, and no others if there is more in the document. -/
theorem readsFields_untitledFilm :
    (Library.lenient.ReadsRecords ∧ Library.lenient.ReadsLists ∧ Library.lenient.RefusesMisfits) ∧
    (movie.decode .lenient (.object untitledFilm)).issues =
      [⟨[.key "searchHighlights", .index 0, .key "texts", .index 0], .notRecord "HighlightText"⟩,
       ⟨[.key "searchHighlights", .index 0, .key "texts", .index 1, .key "type"], .missing⟩,
       ⟨[.key "title"], .missing⟩, ⟨[.key "year"], .unreadableInteger⟩] ∧
    movie.decode .lenient (.object (untitledFilm ++ [("plot", .str "x")]))
      = movie.decode .lenient (.object untitledFilm) := by
  have reads := readsFields Library.lenient_readsRecords Library.lenient_readsLists
    Library.lenient_refusesMisfits movie
  refine ⟨⟨Library.lenient_readsRecords, Library.lenient_readsLists,
    Library.lenient_refusesMisfits⟩, (reads.deep untitledFilm).trans (by decide +kernel), ?_⟩
  have undeclared : "plot" ∉ declaredNames := by decide
  have more : Varies (.object (untitledFilm ++ []))
      (.object (untitledFilm ++ [("plot", .str "x")])) := .added undeclared
  rw [List.append_nil] at more
  exact (reads.unmoved _ _ (.rel _ _ more)).symm

end RecordKind
end DocSearch
