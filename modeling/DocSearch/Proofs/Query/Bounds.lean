import DocSearch.Proofs.Builders.Calls
import DocSearch.Proofs.Query.Built

/-! # Bounds of settings

A setting has a bound, and a number beyond it is refused. All bounds but that on the count of edits
are checked by a comparison the number must fail, and the undefined number fails every comparison.
So that number is taken by the other settings, and it is the only one beyond its bound that is. -/

namespace DocSearch

/-! ## Numbers -/

namespace Number

variable {m n : Number}

/-- If a number is not before another, the other is not after it, unless the number is undefined. -/
theorem lt_eq_false_iff (hm : m.Defined) :
    n.lt m = false ↔ m.le n = true ∨ n.magnitude = .undefined := by
  have order (p q : Rat) : ¬ q < p ↔ p < q ∨ p = q := by rw [Rat.not_lt, Rat.le_iff_lt_or_eq]
  unfold le lt same
  unfold Defined at hm
  generalize m.magnitude = p at hm
  cases p <;> cases n.magnitude <;> simp_all [Magnitude.below, Magnitude.same]

theorem le_eq_false_iff (hm : m.Defined) :
    n.le m = false ↔ m.lt n = true ∨ n.magnitude = .undefined := by
  have order (p q : Rat) : (¬ q < p ∧ ¬ q = p) ↔ p < q := by
    rw [Rat.not_lt, Rat.lt_iff_le_and_ne, ne_comm]
  unfold le lt same
  unfold Defined at hm
  generalize m.magnitude = p at hm
  cases p <;> cases n.magnitude <;> simp_all [Magnitude.below, Magnitude.same]

end Number

namespace Setting

/-- The bound of a setting: one or two edits, nothing below zero, or something above it. -/
def Bound (n : Number) : Setting → Prop
  | .maxEdits => n.same (.whole 1) = true ∨ n.same (.whole 2) = true
  | .prefixLength | .slop | .minimumShouldMatch => (Number.whole 0).le n = true
  | .radius | .maxExpansions | .maxCharacters | .maxPassages => (Number.whole 0).lt n = true

/-- A setting takes what is within its bound, and the undefined number unless it counts edits. -/
def Takes (s : Setting) (n : Number) : Prop :=
  s.Bound n ∨ s ≠ .maxEdits ∧ n.magnitude = .undefined

theorem not_bound_of_undefined {s : Setting} {n : Number} (h : n.magnitude = .undefined) :
    ¬ s.Bound n := by
  have hmagnitude (m : Int) : (Number.whole m).magnitude = .rational m := rfl
  cases s <;>
    simp [Bound, Number.le, Number.lt, Number.same, h, hmagnitude, Magnitude.below, Magnitude.same]

/-- What a setting takes is within its bound but for the undefined number, which no bound allows. -/
theorem Takes.bound_iff {s : Setting} {n : Number} (h : s.Takes n) :
    s.Bound n ↔ s = .maxEdits ∨ n.Defined := by
  constructor
  · intro hbound
    exact .inr fun hundefined => not_bound_of_undefined hundefined hbound
  · intro hdefined
    rcases h with hbound | ⟨hedits, hundefined⟩
    · exact hbound
    · exact (hdefined.elim hedits fun hn => hn hundefined).elim

theorem refuses_eq_false_iff {s : Setting} {n : Number} : s.refuses n = false ↔ s.Takes n := by
  have hzero : (Number.whole 0).Defined := nofun
  unfold Takes
  cases s with
  | maxEdits => cases h : n.same (.whole 1) <;> simp [refuses, Bound, h]
  | prefixLength | slop | minimumShouldMatch =>
    simp [refuses, refused, Comparison.holds, Bound, Number.lt_eq_false_iff hzero]
  | radius | maxExpansions | maxCharacters | maxPassages =>
    simp [refuses, refused, Comparison.holds, Bound, Number.le_eq_false_iff hzero]

/-- A setting is given the number that is handed over, if it takes it. -/
theorem accept_eq_ok_iff {s : Setting} {a : Argument} {n : Number} :
    s.accept a = .ok n ↔ a.toNumber? = some n ∧ s.Takes n := by
  rw [← refuses_eq_false_iff]
  unfold accept
  cases ha : a.toNumber? with
  | none => cases s <;> simp
  | some m =>
    by_cases hm : s.refuses m = true
    · simp only [hm, if_true, reduceCtorEq, Option.some.injEq, false_iff, not_and]
      rintro rfl
      simp [hm]
    · simp only [hm, if_false, Except.ok.injEq, Option.some.injEq, Bool.false_eq_true]
      constructor
      · rintro rfl
        exact ⟨rfl, by simpa using hm⟩
      · exact And.left

end Setting

/-! ## What is made of the numbers -/

/-- A number is stored for a setting by whatever it is handed over to. -/
inductive Setting.Stores : Setting → Argument → Number → Prop
  | radius {center a : Argument} {c : Circle} :
      Circle.of center a = .ok c → Stores .radius a c.radius
  | maxEdits {a prefixLength maxExpansions : Argument} {o : FuzzyOptions} :
      FuzzyOptions.of a prefixLength maxExpansions = .ok o → Stores .maxEdits a o.maxEdits
  | prefixLength {maxEdits a maxExpansions : Argument} {o : FuzzyOptions} :
      FuzzyOptions.of maxEdits a maxExpansions = .ok o → Stores .prefixLength a o.prefixLength
  | maxExpansions {maxEdits prefixLength a : Argument} {o : FuzzyOptions} :
      FuzzyOptions.of maxEdits prefixLength a = .ok o → Stores .maxExpansions a o.maxExpansions
  | maxCharacters {path a maxPassages : Argument} {o : HighlightOptions} :
      HighlightOptions.of path a maxPassages = .ok o → Stores .maxCharacters a o.maxCharacters
  | maxPassages {path maxCharacters a : Argument} {o : HighlightOptions} :
      HighlightOptions.of path maxCharacters a = .ok o → Stores .maxPassages a o.maxPassages
  | slop {query path score a : Argument} {c : PhraseClause} :
      PhraseClause.of query path score a = .ok c → Stores .slop a c.slop
  | newMinimum {a : Argument} {c : Compound} :
      Compound.new a = .ok c → Stores .minimumShouldMatch a c.minimum
  | setMinimum {a : Argument} {b c : Compound} :
      b.setMinimum a = .ok c → Stores .minimumShouldMatch a c.minimum

/-- What is stored is what was handed over, and the setting takes it. -/
theorem Setting.Stores.takes {s : Setting} {a : Argument} {n : Number} (h : s.Stores a n) :
    a.toNumber? = some n ∧ s.Takes n := by
  refine accept_eq_ok_iff.mp ?_
  cases h with
  | radius h =>
    obtain ⟨p, -, h⟩ := Outcome.bind_eq_ok h
    obtain ⟨n, hn, h⟩ := Outcome.bind_eq_ok h
    cases h
    exact hn
  | maxEdits h | prefixLength h | maxExpansions h =>
    obtain ⟨edits, hedits, h⟩ := Outcome.bind_eq_ok h
    obtain ⟨length, hlength, h⟩ := Outcome.bind_eq_ok h
    obtain ⟨expansions, hexpansions, h⟩ := Outcome.bind_eq_ok h
    cases h
    assumption
  | maxCharacters h | maxPassages h =>
    obtain ⟨path, -, h⟩ := Outcome.bind_eq_ok h
    obtain ⟨characters, hcharacters, h⟩ := Outcome.bind_eq_ok h
    obtain ⟨passages, hpassages, h⟩ := Outcome.bind_eq_ok h
    cases h
    assumption
  | slop h =>
    obtain ⟨query, -, h⟩ := Outcome.bind_eq_ok h
    obtain ⟨path, -, h⟩ := Outcome.bind_eq_ok h
    obtain ⟨n, hn, h⟩ := Outcome.bind_eq_ok h
    obtain ⟨score, -, h⟩ := Outcome.bind_eq_ok h
    cases h
    exact hn
  | newMinimum h | setMinimum h =>
    obtain ⟨n, hn, h⟩ := Outcome.bind_eq_ok h
    cases h
    exact hn

/-- A setting takes a number wherever it is handed over: nothing else that is handed over with it
need be wrong. -/
theorem Setting.stores_iff {s : Setting} {a : Argument} {n : Number} :
    s.Stores a n ↔ a.toNumber? = some n ∧ s.Takes n := by
  refine ⟨Stores.takes, fun h => ?_⟩
  have ha : s.accept a = .ok n := accept_eq_ok_iff.mpr h
  cases s with
  | radius =>
    have h : Circle.of (.made (.point default)) a = .ok ⟨default, n⟩ := by
      rw [Circle.of, ha]
      rfl
    exact .radius h
  | maxEdits =>
    have h : FuzzyOptions.of a (.int 0) (.int 50) = .ok ⟨n, .whole 0, .whole 50⟩ := by
      rw [FuzzyOptions.of, ha]
      rfl
    exact .maxEdits h
  | prefixLength =>
    have h : FuzzyOptions.of (.int 2) a (.int 50) = .ok ⟨.whole 2, n, .whole 50⟩ := by
      rw [FuzzyOptions.of, ha]
      rfl
    exact .prefixLength h
  | maxExpansions =>
    have h : FuzzyOptions.of (.int 2) (.int 0) a = .ok ⟨.whole 2, .whole 0, n⟩ := by
      rw [FuzzyOptions.of, ha]
      rfl
    exact .maxExpansions h
  | maxCharacters =>
    have h : HighlightOptions.of (.str "plot") a (.int 5)
        = .ok ⟨⟨.single "plot"⟩, n, .whole 5⟩ := by
      rw [HighlightOptions.of, ha]
      rfl
    exact .maxCharacters h
  | maxPassages =>
    have h : HighlightOptions.of (.str "plot") (.int 500000) a
        = .ok ⟨⟨.single "plot"⟩, .whole 500000, n⟩ := by
      rw [HighlightOptions.of, ha]
      rfl
    exact .maxPassages h
  | slop =>
    have h : PhraseClause.of (.str "ring") (.str "plot") .null a
        = .ok ⟨⟨.single "ring"⟩, ⟨.single "plot"⟩, none, n⟩ := by
      rw [PhraseClause.of, ha]
      rfl
    exact .slop h
  | minimumShouldMatch =>
    have h : Compound.new a = .ok { minimum := n } := by
      rw [Compound.new, ha]
      rfl
    exact .newMinimum h

/-- Calls leave a builder with a minimum that one of them stored, or with the one it had. -/
theorem Compound.takes_run {c : Compound} (h : Setting.minimumShouldMatch.Takes c.minimum)
    (calls : List Call) : Setting.minimumShouldMatch.Takes (c.run calls).minimum := by
  induction calls generalizing c with
  | nil => exact h
  | cons k rest ih =>
    refine ih ?_
    cases k with
    | add occur xs =>
      obtain ⟨documents, fault, -, hcall⟩ := exists_call_add c occur xs
      rw [hcall]
      cases occur <;> exact h
    | setMinimum count =>
      unfold call
      dsimp only
      cases hs : c.setMinimum count with
      | error fault => exact h
      | ok c' => exact (Setting.Stores.setMinimum hs).takes.2

/-! ## What definitions hold -/

structure FuzzyOptions.Taken (o : FuzzyOptions) : Prop where
  maxEdits : Setting.maxEdits.Takes o.maxEdits
  prefixLength : Setting.prefixLength.Takes o.prefixLength
  maxExpansions : Setting.maxExpansions.Takes o.maxExpansions

theorem FuzzyOptions.taken_of {maxEdits prefixLength maxExpansions : Argument} {o : FuzzyOptions}
    (h : FuzzyOptions.of maxEdits prefixLength maxExpansions = .ok o) : o.Taken :=
  ⟨(Setting.Stores.maxEdits h).takes.2, (Setting.Stores.prefixLength h).takes.2,
    (Setting.Stores.maxExpansions h).takes.2⟩

theorem FuzzyOptions.taken_standard : standard.Taken :=
  @taken_of (.int defaultMaxEdits) (.int defaultPrefixLength) (.int defaultMaxExpansions) _ rfl

structure HighlightOptions.Taken (o : HighlightOptions) : Prop where
  maxCharacters : Setting.maxCharacters.Takes o.maxCharacters
  maxPassages : Setting.maxPassages.Takes o.maxPassages

theorem HighlightOptions.taken_of {path maxCharacters maxPassages : Argument} {o : HighlightOptions}
    (h : HighlightOptions.of path maxCharacters maxPassages = .ok o) : o.Taken :=
  ⟨(Setting.Stores.maxCharacters h).takes.2, (Setting.Stores.maxPassages h).takes.2⟩

/-- If there are fuzzy options, their numbers are taken. -/
def Matching.Taken (m : Matching) : Prop :=
  ∀ slot ∈ m.options?, ∃ o : FuzzyOptions, o.Taken ∧ slot = o.datum

theorem Matching.taken_ofFuzzy {o : FuzzyOptions} (h : o.Taken) :
    Taken (.ofFuzzy (.made (.fuzzy o))) := by
  rintro slot ⟨⟩
  exact ⟨o, h, rfl⟩

theorem Matching.taken_ofSynonyms {a : Argument} {m : Matching} (h : ofSynonyms a = .ok m) :
    m.Taken := by
  unfold ofSynonyms at h
  split at h
  · split at h <;> cases h
    rintro slot ⟨⟩
  · cases h

theorem Matching.taken_optional {a : Argument} {matching : Option Matching}
    (ha : ∀ m, a = .made (.matching m) → m.Taken) (h : optional a = .ok matching) :
    ∀ m ∈ matching, m.Taken := by
  unfold optional at h
  split at h <;> cases h
  · rintro m ⟨⟩
  · rintro m ⟨⟩
    exact ha _ rfl

/-- What a leaf holds, its settings take. -/
def LeafClause.Taken : LeafClause → Prop
  | .text c => ∀ m ∈ c.matching, m.Taken
  | .phrase c => Setting.slop.Takes c.slop
  | .autocomplete c => ∀ slot ∈ c.fuzzy, ∃ o : FuzzyOptions, o.Taken ∧ slot = o.datum
  | .geoWithin c => ∀ circle, c.shape = .circle circle → Setting.radius.Takes circle.radius

theorem TextClause.taken_of {query path matching score : Argument} {c : TextClause}
    (hm : ∀ m, matching = .made (.matching m) → m.Taken)
    (h : TextClause.of query path matching score = .ok c) : LeafClause.Taken (.text c) := by
  obtain ⟨query', -, h⟩ := Outcome.bind_eq_ok h
  obtain ⟨path', -, h⟩ := Outcome.bind_eq_ok h
  obtain ⟨matching', hm', h⟩ := Outcome.bind_eq_ok h
  obtain ⟨score', -, h⟩ := Outcome.bind_eq_ok h
  cases h
  exact Matching.taken_optional hm hm'

theorem TextClause.taken_fuzzy {query path score : Argument} {options : Option FuzzyOptions}
    {c : TextClause} (ho : ∀ o ∈ options, o.Taken)
    (h : TextClause.fuzzy query path (options.elim .null fun o => .made (.fuzzy o)) score = .ok c) :
    LeafClause.Taken (.text c) := by
  have taken {o : FuzzyOptions} (ho : o.Taken) (m : Matching)
      (hm : Argument.made (.matching (.ofFuzzy (.made (.fuzzy o)))) = .made (.matching m)) :
      m.Taken := by
    cases hm
    exact Matching.taken_ofFuzzy ho
  cases options with
  | none => exact taken_of (taken FuzzyOptions.taken_standard) h
  | some o => exact taken_of (taken (ho o rfl)) h

theorem TextClause.taken_withSynonyms {query path synonyms score : Argument} {c : TextClause}
    (h : TextClause.withSynonyms query path synonyms score = .ok c) :
    LeafClause.Taken (.text c) := by
  obtain ⟨m, hm, h⟩ := Outcome.bind_eq_ok h
  refine taken_of (fun m' h' => ?_) h
  cases h'
  exact Matching.taken_ofSynonyms hm

theorem AutocompleteClause.taken_of {query path tokenOrder score : Argument}
    {options : Option FuzzyOptions} {c : AutocompleteClause} (ho : ∀ o ∈ options, o.Taken)
    (h : AutocompleteClause.of query path tokenOrder
      (options.elim .null fun o => .made (.fuzzy o)) score = .ok c) :
    LeafClause.Taken (.autocomplete c) := by
  obtain ⟨query', -, h⟩ := Outcome.bind_eq_ok h
  obtain ⟨path', -, h⟩ := Outcome.bind_eq_ok h
  obtain ⟨order, -, h⟩ := Outcome.bind_eq_ok h
  obtain ⟨score', -, h⟩ := Outcome.bind_eq_ok h
  cases h
  intro slot hslot
  cases options with
  | none => cases hslot
  | some o =>
    cases hslot
    exact ⟨o, ho o rfl, rfl⟩

theorem GeoWithinClause.taken_of {geometry path score : Argument} {c : GeoWithinClause}
    (hg : ∀ circle, geometry = .made (.shape (.circle circle)) → Setting.radius.Takes circle.radius)
    (h : GeoWithinClause.of geometry path score = .ok c) : LeafClause.Taken (.geoWithin c) := by
  obtain ⟨shape, hshape, h⟩ := Outcome.bind_eq_ok h
  obtain ⟨path', -, h⟩ := Outcome.bind_eq_ok h
  obtain ⟨score', -, h⟩ := Outcome.bind_eq_ok h
  cases h
  rintro circle rfl
  exact hg circle (Shape.of_eq hshape)

/-- What a definition holds, its settings take. -/
def Definition.Taken : Definition → Prop
  | .shape (.circle c) => Setting.radius.Takes c.radius
  | .fuzzy o => o.Taken
  | .matching m => m.Taken
  | .clause (.leaf c) => c.Taken
  | _ => True

theorem Definition.Built.taken {d : Definition} (h : d.Built) : d.Taken := by
  induction h with
  | circle _ h => exact (Setting.Stores.radius h).takes.2
  | fuzzy h => exact FuzzyOptions.taken_of h
  | fuzzyMatching _ ih => exact Matching.taken_ofFuzzy ih
  | synonymMatching h => exact Matching.taken_ofSynonyms h
  | text _ _ h ihm => exact TextClause.taken_of (fun m hm => ihm (.matching m) hm) h
  | fuzzyText _ _ h ih => exact TextClause.taken_fuzzy ih h
  | synonymText _ h => exact TextClause.taken_withSynonyms h
  | phrase _ h => exact (Setting.Stores.slop h).takes.2
  | autocomplete _ _ h ih => exact AutocompleteClause.taken_of ih h
  | geoWithin _ _ h ih =>
    exact GeoWithinClause.taken_of (fun circle hc => ih (.shape (.circle circle)) hc) h
  | _ => trivial

end DocSearch
