import DocSearch.Proofs.Datum.Plain
import DocSearch.Proofs.Record.Decoding

/-! # Decoding what was decoded

A library may be lenient, and a record is what is left once it was: its dump has each value in a
form that is taken as it is. A record is read back from every object that has what was written of
each of its fields under one of the keys that the field is looked for, provided that no two fields
share a key. So it is read back from its dump, and from its dump under stored names. -/

namespace DocSearch

variable {L : Library}

/-! ## Declarations that can be read back -/

/-- The keys of all fields, those of one field behind those of another. -/
def Fields.ownKeys (byName : Bool) (fields : Fields) : List String :=
  fields.toList.flatMap fun f => f.1.keys byName

mutual
/-- Every field, at any depth, is looked for under its own name, and no two of one record under one
key. -/
def FieldType.isPlain : FieldType → Bool
  | .list item => item.isPlain
  | .record _ byName fields => decide (fields.ownKeys byName).Nodup && fields.arePlain byName
  | .text | .integer | .number | .choice _ => true

def Fields.arePlain (byName : Bool) : Fields → Bool
  | .nil => true
  | .cons f type rest =>
    decide (f.name ∈ f.keys byName) && (type.isPlain && rest.arePlain byName)
end

/-! ## What is written -/

/-- What is written of the fields of a record, under keys of choice. -/
def Fields.entries (L : Library) (key : Field → String) : (fields : Fields) → fields.Content →
    Document
  | .nil, _ => []
  | .cons f type rest, (a, b) =>
    (key f, f.demand.write (L.dump type) a) :: rest.entries L key b

theorem Library.WritesRecords.dump_record (h : L.WritesRecords) (name : String) (byName : Bool)
    (fields : Fields) (a : fields.Content) :
    L.dump (.record name byName fields) a = .object (fields.entries L Field.name a) := by
  match fields, a with
  | .nil, a => exact h.empty name byName
  | .cons f type rest, (a, b) =>
    exact h.entry name byName f type rest a b _ (h.dump_record name byName rest b)

/-- Writing is undone by reading, and never leaves null. -/
structure Library.Restores (L : Library) (type : FieldType) : Prop where
  reads : ∀ a, L.validate type (.ofValue (L.dump type a)) = .ok a
  present : ∀ a, Datum.ofValue (L.dump type a) ≠ .null

/-- An object has what is written of each field, under one of the keys that the field is looked for
and under none of those before it. -/
def Fields.HeldBy (L : Library) (byName : Bool) (d : Entries Datum) : (fields : Fields) →
    fields.Content → Prop
  | .nil, _ => True
  | .cons f type rest, (a, b) =>
    (∃ key, firstOf d (f.keys byName)
      = some (key, .ofValue (f.demand.write (L.dump type) a))) ∧ rest.HeldBy L byName d b

theorem Demand.read_write {type : FieldType} (h : L.Restores type) (demand : Demand)
    (place key : String) (a : demand.Content type.Content) :
    demand.read place (L.validate type)
      (some (key, .ofValue (demand.write (L.dump type) a))) = .ok a := by
  cases demand with
  | required => exact congrArg (Checked.under (.key key)) (h.reads a)
  | optional =>
    cases a with
    | none => rfl
    | some a =>
      -- What is written is not null, which would be read as no value.
      have read := congrArg (Checked.under (.key key)) (h.reads a)
      exact (read_optional_of_ne place (h.present a)).trans (congrArg (Except.map some) read)

theorem Library.ReadsRecords.validate_of_heldBy (h : L.ReadsRecords) (name : String) (byName : Bool)
    {d : Entries Datum} (fields : Fields) (restores : ∀ f ∈ fields.toList, L.Restores f.2)
    (a : fields.Content) (held : fields.HeldBy L byName d a) :
    L.validate (.record name byName fields) (.object d) = .ok a := by
  match fields, a with
  | .nil, a => exact h.empty name byName d
  | .cons f type rest, (a, b) =>
    rw [Fields.toList, List.forall_mem_cons] at restores
    obtain ⟨⟨key, found⟩, held⟩ := held
    have first : L.field byName d f type = .ok a := by
      rw [field, found]
      exact f.demand.read_write restores.1 f.place key a
    have others := h.validate_of_heldBy name byName rest restores.2 b held
    exact h.taken name byName f type rest d a b first others

/-! ## What is written holds what was written -/

/-- The only one of several keys that occurs in an object is found first. -/
theorem firstOf_cons_self {d : Entries Datum} {keys : List String} {key : String} (v : Datum)
    (hk : key ∈ keys) (h : ∀ other ∈ keys, d.get? other = none) :
    firstOf ((key, v) :: d) keys = some (key, v) := by
  induction keys with
  | nil => cases hk
  | cons other rest ih =>
    rw [List.forall_mem_cons] at h
    by_cases he : other = key
    · obtain rfl := he
      exact firstOf_of_some (by rw [Entries.get?_cons, if_pos rfl])
    · have hrest : key ∈ rest := (List.mem_cons.mp hk).resolve_left fun he' => he he'.symm
      have absent : Entries.get? other ((key, v) :: d) = none := by
        rw [Entries.get?_cons, if_neg he, h.1]
      rw [firstOf_of_none absent, ih hrest h.2]

theorem firstOf_cons_of_notMem {d : Entries Datum} {keys : List String} {key : String} (v : Datum)
    (hk : key ∉ keys) : firstOf ((key, v) :: d) keys = firstOf d keys := by
  induction keys with
  | nil => rfl
  | cons other rest ih =>
    rw [List.mem_cons, not_or] at hk
    rw [firstOf, firstOf, Entries.get?_cons, if_neg fun he => hk.1 he.symm, ih hk.2]

namespace Fields

theorem ownKeys_cons (byName : Bool) (f : Field) (type : FieldType) (rest : Fields) :
    (cons f type rest).ownKeys byName = f.keys byName ++ rest.ownKeys byName := rfl

/-- An entry under a key of no field changes nothing. -/
theorem HeldBy.cons {byName : Bool} {d : Entries Datum} {key : String} (v : Datum)
    {fields : Fields} (hk : key ∉ fields.ownKeys byName) {a : fields.Content}
    (h : fields.HeldBy L byName d a) : fields.HeldBy L byName ((key, v) :: d) a := by
  match fields, a with
  | .nil, _ => trivial
  | .cons f type rest, (a, b) =>
    obtain ⟨⟨found, hfound⟩, held⟩ := h
    rw [ownKeys_cons, List.mem_append, not_or] at hk
    exact ⟨⟨found, (firstOf_cons_of_notMem v hk.1).trans hfound⟩, held.cons v hk.2⟩

theorem get?_entries {byName : Bool} {key : Field → String} {fields : Fields}
    (hkey : ∀ f ∈ fields.toList, key f.1 ∈ f.1.keys byName) (a : fields.Content) {name : String}
    (hn : name ∉ fields.ownKeys byName) :
    Entries.get? name (Datum.ofDocumentEntries (fields.entries L key a)) = none := by
  match fields, a with
  | .nil, _ => rfl
  | .cons f type rest, (a, b) =>
    rw [toList, List.forall_mem_cons] at hkey
    rw [ownKeys_cons, List.mem_append, not_or] at hn
    have other : name ≠ key f := fun he => hn.1 (he ▸ hkey.1)
    rw [entries, Datum.ofDocumentEntries, Entries.get?_cons, if_neg other,
      get?_entries hkey.2 b hn.2]

/-- What is written under keys that the fields are looked for holds each field. -/
theorem heldBy_entries {byName : Bool} {key : Field → String} {fields : Fields}
    (hkey : ∀ f ∈ fields.toList, key f.1 ∈ f.1.keys byName)
    (distinct : (fields.ownKeys byName).Nodup) (a : fields.Content) :
    fields.HeldBy L byName (Datum.ofDocumentEntries (fields.entries L key a)) a := by
  match fields, a with
  | .nil, _ => trivial
  | .cons f type rest, (a, b) =>
    rw [toList, List.forall_mem_cons] at hkey
    rw [ownKeys_cons, List.nodup_append] at distinct
    obtain ⟨-, hrest, apart⟩ := distinct
    have absent : ∀ other ∈ f.keys byName,
        Entries.get? other (Datum.ofDocumentEntries (rest.entries L key b)) = none := by
      intro other hother
      exact get?_entries hkey.2 b fun hmem => apart other hother other hmem rfl
    have fresh : key f ∉ rest.ownKeys byName := fun hmem => apart _ hkey.1 _ hmem rfl
    exact ⟨⟨key f, firstOf_cons_self _ hkey.1 absent⟩,
      (heldBy_entries hkey.2 hrest b).cons _ fresh⟩

end Fields

/-! ## Writing is undone by reading -/

namespace Library

theorem Restores.of_dump {type : FieldType} (written : type.Content → Value)
    (dump : ∀ a, L.dump type a = written a)
    (reads : ∀ a, L.validate type (.ofValue (written a)) = .ok a)
    (present : ∀ a, Datum.ofValue (written a) ≠ .null) : L.Restores type := by
  constructor
  · intro a
    rw [dump]
    exact reads a
  · intro a
    rw [dump]
    exact present a

theorem ReadsLists.validate_dumps (h : L.ReadsLists) {item : FieldType} (restores : L.Restores item)
    (as : List item.Content) :
    L.validate (.list item) (.list (as.map fun a => .ofValue (L.dump item a))) = .ok as := by
  induction as using List.reverseRecOn with
  | nil => exact h.empty item
  | append_singleton as a ih =>
    rw [List.map_append, List.map_singleton]
    exact h.taken item _ _ as a ih (restores.reads a)

theorem restores_list (lists : L.ReadsLists) (writes : L.WritesRecords) {item : FieldType}
    (h : L.Restores item) : L.Restores (.list item) := by
  have reads (as : List item.Content) :
      L.validate (.list item) (.ofValue (.list (as.map (L.dump item)))) = .ok as := by
    rw [Datum.ofValue, Datum.ofItems_eq_map, List.map_map]
    exact lists.validate_dumps h as
  exact .of_dump (fun as => .list (as.map (L.dump item))) (writes.list item) reads nofun

mutual
/-- With fields that are looked for under their own names, what is written is read back. -/
theorem restores (records : L.ReadsRecords) (lists : L.ReadsLists) (keeps : L.KeepsValues)
    (writes : L.WritesRecords) (type : FieldType) (plain : type.isPlain = true) :
    L.Restores type := by
  match type with
  | .text => exact .of_dump Value.str writes.text keeps.text nofun
  | .integer => exact .of_dump Value.int writes.integer keeps.integer nofun
  | .number => exact .of_dump Value.float writes.number keeps.number nofun
  | .choice texts =>
    exact .of_dump (fun s => .str s.val) (fun s => writes.choice texts s.val s.property)
      (fun s => keeps.choice texts s.val s.property) nofun
  | .list item => exact restores_list lists writes (restores records lists keeps writes item plain)
  | .record name byName fields =>
    rw [FieldType.isPlain, Bool.and_eq_true, decide_eq_true_eq] at plain
    have parts := restores_fields records lists keeps writes byName fields plain.2
    have held := Fields.heldBy_entries (L := L) (fun f hf => (parts f hf).1) plain.1
    exact .of_dump (fun a => .object (fields.entries L Field.name a))
      (writes.dump_record name byName fields)
      (fun a => records.validate_of_heldBy name byName fields (fun f hf => (parts f hf).2) a
        (held a)) nofun

theorem restores_fields (records : L.ReadsRecords) (lists : L.ReadsLists) (keeps : L.KeepsValues)
    (writes : L.WritesRecords) (byName : Bool) (fields : Fields)
    (plain : fields.arePlain byName = true) :
    ∀ f ∈ fields.toList, f.1.name ∈ f.1.keys byName ∧ L.Restores f.2 := by
  match fields with
  | .nil => exact nofun
  | .cons f type rest =>
    rw [Fields.arePlain, Bool.and_eq_true, Bool.and_eq_true, decide_eq_true_eq] at plain
    obtain ⟨hname, htype, hrest⟩ := plain
    rw [Fields.toList, List.forall_mem_cons]
    exact ⟨⟨hname, restores records lists keeps writes type htype⟩,
      restores_fields records lists keeps writes byName rest hrest⟩
end

end Library

/-! ## Records -/

/-- The stored name of what dumps call `name`. -/
def SearchMeta.storedName (name : String) : String :=
  match aliases.find? (·.2 = name) with
  | some entry => entry.1
  | none => name

namespace Record

/-- The dump with the stored names for what a search adds. -/
def stored (L : Library) (r : Record) : Value :=
  match r.dump L with
  | .object d => .object (d.map fun (name, v) => (SearchMeta.storedName name, v))
  | v => v

end Record

theorem Fields.entries_map (rename : String → String) (key : Field → String) {fields : Fields}
    (h : ∀ f ∈ fields.toList, rename f.1.name = key f.1) (a : fields.Content) :
    (fields.entries L Field.name a).map (fun (name, v) => (rename name, v))
      = fields.entries L key a := by
  match fields, a with
  | .nil, _ => rfl
  | .cons f type rest, (a, b) =>
    rw [toList, List.forall_mem_cons] at h
    rw [entries, entries, List.map_cons, entries_map rename key h.2 b]
    exact congrArg
      (fun name => (name, f.demand.write (L.dump type) a) :: rest.entries L key b) h.1

namespace RecordKind

theorem isPlain_type (kind : RecordKind) : kind.type.isPlain = true := by
  cases kind <;> decide

theorem storedName_eq (kind : RecordKind) :
    ∀ f ∈ kind.fields.toList, SearchMeta.storedName f.1.name = f.1.place := by
  cases kind <;> decide

variable {kind : RecordKind} {document : Datum} {r : Record}

theorem kind_of_decode (h : kind.decode L document = .ok r) : r.kind = kind := by
  obtain ⟨content, -, rfl⟩ := Outcome.map_eq_ok h
  rfl

/-- The record of some content is decoded from what is written of its fields, under keys that they
are looked for. -/
theorem decode_entries (records : L.ReadsRecords) (lists : L.ReadsLists) (keeps : L.KeepsValues)
    (writes : L.WritesRecords) (content : kind.fields.Content) {key : Field → String}
    (hkey : ∀ f ∈ kind.fields.toList, key f.1 ∈ f.1.keys kind.byName) :
    kind.decode L (.ofValue (.object (kind.fields.entries L key content)))
      = .ok ⟨kind, content⟩ := by
  have plain := kind.isPlain_type
  rw [type, FieldType.isPlain, Bool.and_eq_true, decide_eq_true_eq] at plain
  have parts := Library.restores_fields records lists keeps writes kind.byName kind.fields plain.2
  have read := records.validate_of_heldBy kind.typeName kind.byName kind.fields
    (fun f hf => (parts f hf).2) content (Fields.heldBy_entries hkey plain.1 content)
  exact congrArg (Except.map _) read

theorem name_mem_keys (kind : RecordKind) :
    ∀ f ∈ kind.fields.toList, f.1.name ∈ f.1.keys kind.byName := by
  cases kind <;> decide

/-- What was decoded is decoded once more from its dump, under the names used in dumps as under the
stored ones: nothing is changed a second time, and the hits are those of the first. -/
theorem decode_again (records : L.ReadsRecords) (lists : L.ReadsLists) (keeps : L.KeepsValues)
    (writes : L.WritesRecords) (h : kind.decode L document = .ok r) :
    ∀ written ∈ [r.dump L, r.stored L], kind.decode L (.ofValue written) = .ok r ∧
      Except.map Record.hits (kind.decode L (.ofValue written)) = .ok r.hits := by
  obtain rfl := kind_of_decode h
  obtain ⟨kind, content⟩ := r
  have dumped : Record.dump L ⟨kind, content⟩
      = .object (kind.fields.entries L Field.name content) :=
    writes.dump_record kind.typeName kind.byName kind.fields content
  have stored : Record.stored L ⟨kind, content⟩
      = .object (kind.fields.entries L Field.place content) := by
    rw [Record.stored, dumped, ← Fields.entries_map _ _ kind.storedName_eq]
  have again : ∀ written ∈ [Record.dump L ⟨kind, content⟩, Record.stored L ⟨kind, content⟩],
      kind.decode L (.ofValue written) = .ok ⟨kind, content⟩ := by
    rw [dumped, stored, List.forall_mem_cons, List.forall_mem_singleton]
    exact ⟨decode_entries records lists keeps writes content kind.name_mem_keys,
      decode_entries records lists keeps writes content fun f _ => f.1.place_mem_keys kind.byName⟩
  intro written hwritten
  rw [again written hwritten]
  exact ⟨rfl, rfl⟩

/-- A film as it may come: its year a text, its scores a truth value and a text. -/
def looseFilm : Datum :=
  .object [("year", .str " 2009 "), ("searchScore", .bool true), ("text_score", .str "NaN"),
    ("title", .str "Up"), ("searchHighlights", .list [.object
      [("path", .str "plot"), ("score", .str "1"), ("texts", .list
        [.object [("type", .str "text"), ("value", .str "a flying ")],
          .object [("type", .str "hit"), ("value", .str "house")]])]])]

def film : Record where
  kind := .movie
  content := (some [("plot", [("a flying ", ⟨"text", by decide⟩, ()),
    ("house", ⟨"hit", by decide⟩, ())], Double.ofInt 1, ())], some (Double.ofInt 1),
    some Double.nan, "Up", some (Int.ofNat 2009), ())

theorem decode_again_film :
    (Library.lenient.ReadsRecords ∧ Library.lenient.ReadsLists ∧ Library.lenient.KeepsValues ∧
      Library.lenient.WritesRecords) ∧ movie.decode .lenient looseFilm = .ok film ∧
    ∀ written ∈ [film.dump .lenient, film.stored .lenient],
      movie.decode .lenient (.ofValue written) = .ok film ∧
        Except.map Record.hits (movie.decode .lenient (.ofValue written)) = .ok film.hits := by
  have decoded : movie.decode .lenient looseFilm = .ok film := by rfl
  exact ⟨⟨Library.lenient_readsRecords, Library.lenient_readsLists, Library.lenient_keepsValues,
    Library.lenient_writesRecords⟩, decoded, decode_again Library.lenient_readsRecords
      Library.lenient_readsLists Library.lenient_keepsValues Library.lenient_writesRecords decoded⟩

end RecordKind
end DocSearch
