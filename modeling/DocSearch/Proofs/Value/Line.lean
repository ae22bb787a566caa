import DocSearch.Proofs.Value.RoundTrip

/-! # A value takes one line

Inside quotes a line feed is written as an escape, and nothing else that is written of a value has
one: not the brackets and separators, not the digits, signs and points of a number. -/

namespace DocSearch

theorem toDigits_no_feed (n : Nat) : '\n' ∉ Nat.toDigits 10 n := by
  intro h
  have digit : ('\n').isDigit = true := Nat.isDigit_of_mem_toDigits (by decide) (by decide) h
  cases digit

/-! ## Numbers -/

namespace NumeralStyle

variable {style : NumeralStyle} {ds : List Char}

theorem exponentText_no_feed (style : NumeralStyle) (x : Int) : '\n' ∉ style.exponentText x := by
  have digits := toDigits_no_feed x.natAbs
  unfold exponentText padLeft
  split <;> simp [digits]

theorem positional_no_feed (h : '\n' ∉ ds) (x : Int) : '\n' ∉ style.positional ds x := by
  have before : ∀ k, '\n' ∉ ds.take k := fun k hm => h (List.mem_of_mem_take hm)
  have behind : ∀ k, '\n' ∉ ds.drop k := fun k hm => h (List.mem_of_mem_drop hm)
  unfold positional
  split
  · simp [h]
  · dsimp only
    split
    · split <;> simp [before]
    · simp [before, behind]

theorem scientific_no_feed (h : '\n' ∉ ds) (x : Int) : '\n' ∉ style.scientific ds x := by
  have lead : '\n' ∉ ds.take 1 := fun hm => h (List.mem_of_mem_take hm)
  have fraction : '\n' ∉ ds.tail := fun hm => h (List.mem_of_mem_tail hm)
  have exponent := exponentText_no_feed style x
  unfold scientific
  dsimp only
  split <;> simp [lead, fraction, exponent]

theorem layOut_no_feed (style : NumeralStyle) (d : Decimal) : '\n' ∉ style.layOut d := by
  have digits : '\n' ∉ d.digits := toDigits_no_feed d.coefficient
  unfold layOut
  dsimp only
  split
  · exact positional_no_feed digits _
  · exact scientific_no_feed digits _

theorem write_no_feed (style : NumeralStyle) (decimal : Nat → Int → Decimal) (x : Double) :
    '\n' ∉ (style.write decimal x).toList := by
  cases x with
  | nan => simp [write]
  | infinite negative => cases negative <;> simp [write]
  | finite negative mantissa exponent =>
    have laid := layOut_no_feed style (decimal mantissa exponent)
    have body : '\n' ∉ if mantissa = 0
        then if style.keepPoint = true then ['0', '.', '0'] else ['0']
        else style.layOut (decimal mantissa exponent) := by
      split
      · split <;> decide
      · exact laid
    cases negative <;> simpa [write] using body

end NumeralStyle

namespace Json

/-! ## Values -/

theorem escape_no_feed (c : Char) : '\n' ∉ escape c := by
  rcases escape_cases c with ⟨letter, he, -, hl⟩ | ⟨he, -⟩ | ⟨he, -, -, hc⟩
  · have hletter : letter ≠ '\n' := by
      rintro rfl
      cases hl
    simp [he, hletter.symm]
  · have digit : ∀ d, d < 16 → Nat.digitChar d ≠ '\n' := by decide
    have each : ∀ m, '\n' ≠ Nat.digitChar (m % 16) := fun m =>
      (digit _ (Nat.mod_lt m (by decide))).symm
    simp [he, hex4, each]
  · have hfeed : c ≠ '\n' := by
      rintro rfl
      exact hc (by decide)
    simp [he, hfeed.symm]

theorem writeString_no_feed (s : String) : '\n' ∉ writeString s := by
  simp [writeString, escape_no_feed]

theorem writeInt_no_feed (n : Int) : '\n' ∉ writeInt n := by
  have digits := toDigits_no_feed n.natAbs
  unfold writeInt
  split <;> simp [digits]

theorem writeDouble_no_feed (x : Double) : '\n' ∉ writeDouble x := by
  cases x with
  | nan => simp [writeDouble]
  | infinite negative => cases negative <;> simp [writeDouble]
  | finite negative mantissa exponent => exact NumeralStyle.write_no_feed _ _ _

mutual
theorem write_no_feed : ∀ v : Value, '\n' ∉ write v
  | .null => by simp [write]
  | .bool true => by simp [write]
  | .bool false => by simp [write]
  | .int n => writeInt_no_feed n
  | .float x => writeDouble_no_feed x
  | .str s => writeString_no_feed s
  | .list [] => by simp [write]
  | .list (item :: items) => by
    simp [write, write_no_feed item, writeItems_no_feed items]
  | .object [] => by simp [write]
  | .object ((key, v) :: d) => by
    simp [write, writeString_no_feed, write_no_feed v, writeEntries_no_feed d]

theorem writeItems_no_feed : ∀ items : List Value, '\n' ∉ writeItems items
  | [] => by simp [writeItems]
  | item :: items => by simp [writeItems, write_no_feed item, writeItems_no_feed items]

theorem writeEntries_no_feed : ∀ d : Document, '\n' ∉ writeEntries d
  | [] => by simp [writeEntries]
  | (key, v) :: d => by
    simp [writeEntries, writeString_no_feed, write_no_feed v, writeEntries_no_feed d]
end

theorem text_no_feed (v : Value) : '\n' ∉ (text v).toList := by
  rw [text, String.toList_ofList]
  exact write_no_feed v

end Json
end DocSearch
