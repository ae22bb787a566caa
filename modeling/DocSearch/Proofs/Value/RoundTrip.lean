import DocSearch.Value.Json
import DocSearch.Value.JsonReader

/-! # Reading undoes writing

What is written of a value without binary64 numbers is read back as that value, whatever stands
behind it, as long as that does not go on with a number. The fuel of the reader is measured in
characters: it is enough if it exceeds the length of what is written. Nothing is asked of the keys
of an object; those that are written are the ones that are read, in their order. -/

namespace DocSearch

/-- No binary64 number at any depth. -/
inductive Value.FloatFree : Value → Prop
  | null : FloatFree .null
  | bool (b : Bool) : FloatFree (.bool b)
  | int (n : Int) : FloatFree (.int n)
  | str (s : String) : FloatFree (.str s)
  | list {items : List Value} : (∀ v ∈ items, FloatFree v) → FloatFree (.list items)
  | object {d : Document} : (∀ entry ∈ d, FloatFree entry.2) → FloatFree (.object d)

namespace Json

variable {fuel : Nat} {rest : List Char}

/-! ## Texts -/

/-- A character is written as a letter behind a backslash, by its number if it is another control,
or as it is. -/
theorem escape_cases (c : Char) :
    (∃ letter, escape c = ['\\', letter] ∧ letter ≠ 'u' ∧ simpleEscape? letter = some c) ∨
      (escape c = '\\' :: 'u' :: hex4 c.toNat ∧ c.toNat < 0x20) ∨
      (escape c = [c] ∧ c ≠ '"' ∧ c ≠ '\\' ∧ ¬ c.toNat < 0x20) := by
  unfold escape
  iterate 7
    split
    · next h =>
      subst h
      exact .inl ⟨_, rfl, by decide, rfl⟩
  split
  · next h => exact .inr (.inl ⟨rfl, h⟩)
  · next hquote hslash _ _ _ _ _ hcontrol => exact .inr (.inr ⟨rfl, hquote, hslash, hcontrol⟩)

theorem hexValue?_digitChar {d : Nat} (h : d < 16) : hexValue? (Nat.digitChar d) = some d := by
  have all : ∀ d, d < 16 → hexValue? (Nat.digitChar d) = some d := by decide
  exact all d h

theorem readHex4_hex4 {n : Nat} (h : n < 0x10000) : readHex4 (hex4 n ++ rest) = some (n, rest) := by
  have digit : ∀ m, hexValue? (Nat.digitChar (m % 16)) = some (m % 16) := by
    intro m
    exact hexValue?_digitChar (Nat.mod_lt m (by decide))
  have sum : ((n / 4096 % 16 * 16 + n / 256 % 16) * 16 + n / 16 % 16) * 16 + n % 16 = n := by omega
  simp only [hex4, List.cons_append, List.nil_append, readHex4, digit, Option.bind_eq_bind,
    Option.bind_some, sum]
  rfl

theorem readEscape_hex4 {c : Char} (h : c.toNat < 0x20) :
    readEscape ('u' :: (hex4 c.toNat ++ rest)) = some (c, rest) := by
  have low : ¬ (0xd800 ≤ c.toNat ∧ c.toNat < 0xdc00) := by omega
  have high : ¬ (0xdc00 ≤ c.toNat ∧ c.toNat < 0xe000) := by omega
  simp only [readEscape, readHex4_hex4 (show c.toNat < 0x10000 by omega), low, high, if_false,
    Char.ofNat_toNat]

theorem readEscape_letter {letter c : Char} (hu : letter ≠ 'u')
    (h : simpleEscape? letter = some c) : readEscape (letter :: rest) = some (c, rest) := by
  unfold readEscape
  split
  · next he => exact absurd (List.cons.inj he).1 hu
  · next he =>
    obtain ⟨rfl, rfl⟩ := List.cons.inj he
    simp [h]
  · next he => cases he

/-- A character is read back from the way it is written, at the cost of one unit of fuel. -/
theorem readChars_escape (c : Char) : readChars (fuel + 1) (escape c ++ rest)
    = (readChars fuel rest).map fun (cs, rest) => (c :: cs, rest) := by
  rcases escape_cases c with ⟨letter, he, hu, hc⟩ | ⟨he, hc⟩ | ⟨he, hquote, hslash, hcontrol⟩
  · simp [he, readChars, readEscape_letter hu hc]
  · simp [he, readChars, readEscape_hex4 hc]
  · simp [he, readChars, hquote, hslash, hcontrol]

theorem readChars_flatMap (cs : List Char) (h : cs.length < fuel) :
    readChars fuel (cs.flatMap escape ++ '"' :: rest) = some (cs, rest) := by
  induction cs generalizing fuel with
  | nil =>
    obtain ⟨fuel, rfl⟩ := Nat.exists_eq_add_of_lt h
    simp [readChars]
  | cons c cs ih =>
    cases fuel with
    | zero => simp at h
    | succ fuel =>
      rw [List.flatMap_cons, List.append_assoc, readChars_escape, ih (by simpa using h)]
      rfl

theorem length_flatMap_escape (cs : List Char) : cs.length ≤ (cs.flatMap escape).length := by
  induction cs with
  | nil => simp
  | cons c cs ih =>
    have pos : 1 ≤ (escape c).length := by
      rcases escape_cases c with ⟨_, he, -⟩ | ⟨he, -⟩ | ⟨he, -⟩ <;> simp [he]
    simp only [List.flatMap_cons, List.length_append, List.length_cons]
    omega

/-- What follows the opening quote is read up to the closing one. -/
theorem readString_flatMap (s : String) :
    readString (s.toList.flatMap escape ++ '"' :: rest) = some (s, rest) := by
  have fits := length_flatMap_escape s.toList
  unfold readString
  rw [readChars_flatMap s.toList (by simp only [List.length_append, List.length_cons]; omega)]
  simp

/-! ## Integers -/

/-- What does not go on with a number. -/
def Delimited (rest : List Char) : Prop :=
  ∀ c ∈ rest.head?, c.isDigit = false ∧ c ≠ '.' ∧ c ≠ 'e' ∧ c ≠ 'E'

theorem delimited_nil : Delimited [] := by simp [Delimited]

theorem delimited_cons {c : Char} (h : c = ',' ∨ c = ']' ∨ c = '\x7d' ∨ c = '\n') :
    Delimited (c :: rest) := by
  intro d hd
  simp only [List.head?_cons, Option.mem_def, Option.some.injEq] at hd
  subst hd
  rcases h with rfl | rfl | rfl | rfl <;> decide

theorem takeWhile_delimited (h : Delimited rest) : rest.takeWhile Char.isDigit = [] := by
  cases rest with
  | nil => rfl
  | cons c rest => simp [(h c rfl).1]

theorem dropWhile_delimited (h : Delimited rest) : rest.dropWhile Char.isDigit = rest := by
  cases rest with
  | nil => rfl
  | cons c rest => simp [(h c rfl).1]

theorem takeFraction_delimited (h : Delimited rest) : takeFraction rest = ([], rest) := by
  unfold takeFraction
  split
  · next tail => exact absurd rfl (h '.' rfl).2.1
  · rfl

theorem takeExponent_delimited (h : Delimited rest) : takeExponent rest = ([], rest) := by
  cases rest with
  | nil => rfl
  | cons c rest =>
    obtain ⟨-, -, he, hE⟩ := h c rfl
    simp [takeExponent, he, hE]

theorem head?_toDigits_ne_zero {n : Nat} (h : 0 < n) : (Nat.toDigits 10 n).head? ≠ some '0' := by
  induction n using Nat.strongRecOn with
  | _ n ih =>
    by_cases hn : n < 10
    · have all : ∀ d, d < 10 → 0 < d → Nat.digitChar d ≠ '0' := by decide
      rw [Nat.toDigits_of_lt_base hn]
      simpa using all n hn h
    · have before := ih (n / 10) (by omega) (by omega)
      have some_before := Nat.toDigits_ne_nil (n := n / 10) (b := 10)
      rw [Nat.toDigits_of_base_le (by decide) (by omega)]
      cases hd : Nat.toDigits 10 (n / 10) with
      | nil => exact absurd hd some_before
      | cons d ds => simpa [hd] using before

/-- No integer is written with an idle zero in front. -/
theorem isWholePart_toDigits (n : Nat) : isWholePart (Nat.toDigits 10 n) = true := by
  cases n with
  | zero => rfl
  | succ n =>
    have head := head?_toDigits_ne_zero (Nat.succ_pos n)
    simpa [isWholePart, Nat.toDigits_ne_nil] using .inl head

theorem readUnsigned_toDigits (negative : Bool) (n : Nat) (h : Delimited rest) :
    readUnsigned negative (Nat.toDigits 10 n ++ rest)
      = some (.int (if negative then -n else n), rest) := by
  have digits : ∀ c ∈ Nat.toDigits 10 n, c.isDigit = true := by
    intro c hc
    exact Nat.isDigit_of_mem_toDigits (by decide) (by decide) hc
  unfold readUnsigned
  rw [List.takeWhile_append_of_pos digits, List.dropWhile_append_of_pos digits,
    takeWhile_delimited h, dropWhile_delimited h, takeFraction_delimited h]
  simp [takeExponent_delimited h, isWholePart_toDigits, Numeral.ofDigits,
    Nat.ofDigitChars_ten_toDigits]

theorem readNumber_writeInt (n : Int) (h : Delimited rest) :
    readNumber (writeInt n ++ rest) = some (.int n, rest) := by
  unfold writeInt
  split
  · next hn =>
    have value : -(n.natAbs : Int) = n := by omega
    simp only [List.cons_append, readNumber, readUnsigned_toDigits true n.natAbs h, if_true, value]
  · next hn =>
    have value : (n.natAbs : Int) = n := by omega
    have plain : readNumber (Nat.toDigits 10 n.natAbs ++ rest)
        = readUnsigned false (Nat.toDigits 10 n.natAbs ++ rest) := by
      cases hd : Nat.toDigits 10 n.natAbs with
      | nil => exact absurd hd Nat.toDigits_ne_nil
      | cons d ds =>
        have digit : d.isDigit = true :=
          Nat.isDigit_of_mem_toDigits (by decide) (by decide) (hd ▸ List.mem_cons_self)
        unfold readNumber
        split
        · next he =>
          rw [(List.cons.inj he).1] at digit
          cases digit
        · rfl
    rw [plain, readUnsigned_toDigits false n.natAbs h]
    simp only [Bool.false_eq_true, if_false, value]

/-! ## Values -/

theorem skip_cons {c : Char} (h : isSpace c = false) : skip (c :: rest) = c :: rest := by
  simp [skip, h]

theorem isSpace_of_isDigit {c : Char} (h : c.isDigit = true) : isSpace c = false := by
  cases hs : isSpace c with
  | false => rfl
  | true =>
    simp only [isSpace, Bool.or_eq_true, decide_eq_true_eq] at hs
    rcases hs with ((rfl | rfl) | rfl) | rfl <;> cases h

theorem readValue_number {c : Char} (h : c = '-' ∨ c.isDigit = true) :
    readValue (fuel + 1) (c :: rest) = readNumber (c :: rest) := by
  have blank : isSpace c = false := by
    rcases h with rfl | h
    · rfl
    · exact isSpace_of_isDigit h
  unfold readValue
  rw [skip_cons blank]
  -- Every other kind of value starts with a character of its own.
  split
  all_goals first
    | rfl
    | next he =>
      rw [(List.cons.inj he).1] at h
      simp at h

theorem writeInt_cons (n : Int) : ∃ c cs, writeInt n = c :: cs ∧ (c = '-' ∨ c.isDigit = true) := by
  unfold writeInt
  split
  · exact ⟨_, _, rfl, .inl rfl⟩
  · cases hd : Nat.toDigits 10 n.natAbs with
    | nil => exact absurd hd Nat.toDigits_ne_nil
    | cons d ds =>
      have digit : d ∈ Nat.toDigits 10 n.natAbs := by simp [hd]
      exact ⟨d, ds, rfl, .inr (Nat.isDigit_of_mem_toDigits (by decide) (by decide) digit)⟩

/-- A value starts neither with a blank nor with the bracket that ends a list. -/
theorem write_cons {v : Value} (h : v.FloatFree) :
    ∃ c cs, write v = c :: cs ∧ isSpace c = false ∧ c ≠ ']' := by
  cases h with
  | null => exact ⟨_, _, rfl, rfl, by decide⟩
  | bool b => cases b <;> exact ⟨_, _, rfl, rfl, by decide⟩
  | str s => exact ⟨_, _, rfl, rfl, by decide⟩
  | int n =>
    obtain ⟨c, cs, hw, hc⟩ := writeInt_cons n
    refine ⟨c, cs, hw, ?_, ?_⟩
    · rcases hc with rfl | hc
      · rfl
      · exact isSpace_of_isDigit hc
    · rintro rfl
      rcases hc with hc | hc <;> cases hc
  | @list items _ => cases items <;> exact ⟨_, _, rfl, rfl, by decide⟩
  | @object d _ =>
    cases d with
    | nil => exact ⟨_, _, rfl, rfl, by decide⟩
    | cons entry d => exact ⟨_, _, rfl, rfl, by decide⟩

theorem delimited_writeItems (items : List Value) : Delimited (writeItems items ++ rest) := by
  cases items with
  | nil => exact delimited_cons (by simp)
  | cons item items => exact delimited_cons (by simp)

theorem delimited_writeEntries (d : Document) : Delimited (writeEntries d ++ rest) := by
  cases d with
  | nil => exact delimited_cons (by simp)
  | cons entry d => exact delimited_cons (by simp)

/-! Each way of going on with a list or an object takes one unit of fuel. -/

theorem readValue_blank : readValue fuel (' ' :: rest) = readValue fuel rest := by
  cases fuel with
  | zero => rfl
  | succ fuel => simp [readValue, skip, isSpace]

theorem readValue_bracket {c : Char} (blank : isSpace c = false) (hc : c ≠ ']') :
    readValue (fuel + 1) ('[' :: c :: rest) = (readValue fuel (c :: rest)).bind fun (item, rest) =>
      (readItems fuel rest).map fun (items, rest) => (.list (item :: items), rest) := by
  simp only [readValue, skip_cons (c := '[') rfl, skip_cons blank]
  split
  · next he => exact absurd (List.cons.inj he).1 hc
  · cases readValue fuel (c :: rest) <;> rfl

theorem readItems_comma : readItems (fuel + 1) (',' :: ' ' :: rest)
    = (readValue fuel rest).bind fun (item, rest) =>
      (readItems fuel rest).map fun (items, rest) => (item :: items, rest) := by
  simp only [readItems, skip_cons (c := ',') rfl, readValue_blank]
  cases readValue fuel rest <;> rfl

theorem readEntry_writeString (key : String) :
    readEntry (fuel + 1) (writeString key ++ ':' :: ' ' :: rest)
      = (readValue fuel rest).map fun (v, rest) => ((key, v), rest) := by
  simp [readEntry, writeString, skip_cons, readString_flatMap, isSpace, readValue_blank]

theorem readValue_brace (key : String) :
    readValue (fuel + 2) ('\x7b' :: (writeString key ++ ':' :: ' ' :: rest))
      = (readValue fuel rest).bind fun (v, rest) =>
        (readEntries (fuel + 1) rest).map fun (d, rest) => (.object ((key, v) :: d), rest) := by
  have quote : skip (writeString key ++ ':' :: ' ' :: rest)
      = writeString key ++ ':' :: ' ' :: rest := skip_cons rfl
  have entry : readEntry (fuel + 1) (writeString key ++ ':' :: ' ' :: rest)
      = (readValue fuel rest).map fun (v, rest) => ((key, v), rest) := readEntry_writeString key
  simp only [readValue, skip_cons (c := '\x7b') rfl, quote]
  split
  · next he => cases (List.cons.inj he).1
  · rw [entry]
    cases readValue fuel rest <;> rfl

theorem readEntries_comma (key : String) :
    readEntries (fuel + 2) (',' :: ' ' :: (writeString key ++ ':' :: ' ' :: rest))
      = (readValue fuel rest).bind fun (v, rest) =>
        (readEntries (fuel + 1) rest).map fun (d, rest) => ((key, v) :: d, rest) := by
  have blank : readEntry (fuel + 1) (' ' :: (writeString key ++ ':' :: ' ' :: rest))
      = readEntry (fuel + 1) (writeString key ++ ':' :: ' ' :: rest) := by
    simp [readEntry, writeString, skip, isSpace]
  simp only [readEntries, skip_cons (c := ',') rfl, blank, readEntry_writeString]
  cases readValue fuel rest <;> rfl

mutual
/-- Every value without binary64 numbers is read back, and what stands behind it is left. -/
theorem readValue_write : ∀ {v : Value} {fuel : Nat} {rest : List Char}, v.FloatFree →
    (write v).length < fuel → Delimited rest → readValue fuel (write v ++ rest) = some (v, rest)
  | _, 0, _, _, h, _ => by simp at h
  | .null, fuel + 1, rest, _, _, _ => by simp [write, readValue, skip, isSpace]
  | .bool true, fuel + 1, rest, _, _, _ => by simp [write, readValue, skip, isSpace]
  | .bool false, fuel + 1, rest, _, _, _ => by simp [write, readValue, skip, isSpace]
  | .int n, fuel + 1, rest, _, _, hr => by
    obtain ⟨c, cs, hw, hc⟩ := writeInt_cons n
    have number := readNumber_writeInt n hr
    rw [hw] at number
    rw [write, hw, List.cons_append, readValue_number hc]
    exact number
  | .str s, fuel + 1, rest, _, _, _ => by
    simp [write, writeString, readValue, skip_cons, readString_flatMap, isSpace]
  | .list [], fuel + 1, rest, _, _, _ => by simp [write, readValue, skip, isSpace]
  | .list (item :: items), fuel + 1, rest, .list hf, h, _ => by
    simp only [write, List.length_cons, List.length_append] at h
    have hitem := hf item List.mem_cons_self
    have first : readValue fuel (write item ++ (writeItems items ++ rest))
        = some (item, writeItems items ++ rest) :=
      readValue_write hitem (by omega) (delimited_writeItems items)
    have others : readItems fuel (writeItems items ++ rest) = some (items, rest) :=
      readItems_writeItems (fun v hv => hf v (List.mem_cons_of_mem _ hv)) (by omega)
    obtain ⟨c, cs, hw, blank, hc⟩ := write_cons hitem
    rw [hw, List.cons_append] at first
    rw [write, List.cons_append, List.append_assoc, hw, List.cons_append,
      readValue_bracket blank hc, first]
    simp only [Option.bind_some, others]
    rfl
  | .object [], fuel + 1, rest, _, _, _ => by simp [write, readValue, skip, isSpace]
  | .object ((key, v) :: d), fuel + 1, rest, .object hf, h, _ => by
    simp only [write, writeString, List.length_cons, List.length_append] at h
    obtain ⟨fuel, rfl⟩ : ∃ n, fuel = n + 1 := ⟨fuel - 1, by omega⟩
    have first : readValue fuel (write v ++ (writeEntries d ++ rest))
        = some (v, writeEntries d ++ rest) :=
      readValue_write (hf (key, v) List.mem_cons_self) (by omega) (delimited_writeEntries d)
    have others : readEntries (fuel + 1) (writeEntries d ++ rest) = some (d, rest) :=
      readEntries_writeEntries (fun e he => hf e (List.mem_cons_of_mem _ he)) (by omega)
    simp only [write, List.cons_append, List.append_assoc, readValue_brace, first,
      Option.bind_some, others]
    rfl

theorem readItems_writeItems : ∀ {items : List Value} {fuel : Nat} {rest : List Char},
    (∀ v ∈ items, v.FloatFree) → (writeItems items).length < fuel →
    readItems fuel (writeItems items ++ rest) = some (items, rest)
  | _, 0, _, _, h => by simp at h
  | [], fuel + 1, rest, _, _ => by simp [writeItems, readItems, skip, isSpace]
  | item :: items, fuel + 1, rest, hf, h => by
    simp only [writeItems, List.length_cons, List.length_append] at h
    have first : readValue fuel (write item ++ (writeItems items ++ rest))
        = some (item, writeItems items ++ rest) :=
      readValue_write (hf item List.mem_cons_self) (by omega) (delimited_writeItems items)
    have others : readItems fuel (writeItems items ++ rest) = some (items, rest) :=
      readItems_writeItems (fun v hv => hf v (List.mem_cons_of_mem _ hv)) (by omega)
    simp only [writeItems, List.cons_append, List.append_assoc, readItems_comma, first,
      Option.bind_some, others]
    rfl

theorem readEntries_writeEntries : ∀ {d : Document} {fuel : Nat} {rest : List Char},
    (∀ entry ∈ d, entry.2.FloatFree) → (writeEntries d).length < fuel →
    readEntries fuel (writeEntries d ++ rest) = some (d, rest)
  | _, 0, _, _, h => by simp at h
  | [], fuel + 1, rest, _, _ => by simp [writeEntries, readEntries, skip, isSpace]
  | (key, v) :: d, fuel + 1, rest, hf, h => by
    simp only [writeEntries, writeString, List.length_cons, List.length_append] at h
    obtain ⟨fuel, rfl⟩ : ∃ n, fuel = n + 1 := ⟨fuel - 1, by omega⟩
    have first : readValue fuel (write v ++ (writeEntries d ++ rest))
        = some (v, writeEntries d ++ rest) :=
      readValue_write (hf (key, v) List.mem_cons_self) (by omega) (delimited_writeEntries d)
    have others : readEntries (fuel + 1) (writeEntries d ++ rest) = some (d, rest) :=
      readEntries_writeEntries (fun e he => hf e (List.mem_cons_of_mem _ he)) (by omega)
    simp only [writeEntries, List.cons_append, List.append_assoc, readEntries_comma, first,
      Option.bind_some, others]
    rfl
end

/-- A text is read with blanks behind the value. -/
theorem read?_ofList {v : Value} (h : v.FloatFree) (hr : Delimited rest) (blank : skip rest = []) :
    read? (String.ofList (write v ++ rest)) = some v := by
  unfold read?
  rw [String.toList_ofList, readValue_write h (by rw [List.length_append]; omega) hr]
  simp [blank]

theorem read?_text {v : Value} (h : v.FloatFree) : read? (text v) = some v := by
  have read := read?_ofList h delimited_nil rfl
  rwa [List.append_nil] at read

/-- No two values have one text. -/
theorem text_injective {v w : Value} (hv : v.FloatFree) (hw : w.FloatFree) (h : text v = text w) :
    v = w := by
  have read := read?_text hv
  rw [h, read?_text hw] at read
  exact (Option.some.inj read).symm

end Json
end DocSearch
