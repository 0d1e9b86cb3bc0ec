import SqlText.Proofs.Number.Integer

/-!
Words: the literals that stand without quotes. `Literal.Word` is a nonempty run of word characters.
The texts of all numbers are words, and none of them is one of the three keywords, so a number is
never taken for a null or for a truth value.

Most numbers are recognised by a digit, which no keyword has (`IsNumeral`). What is left are the
infinities and the NaNs, each a fixed text.
-/

namespace SqlText

/-! ## Words -/

/-- Letters and digits of ASCII, the point and the two signs. -/
def Literal.isWordChar (c : Char) : Bool :=
  c.isAlphanum || c == '.' || c == '+' || c == '-'

/-- A text that stands without quotes. -/
structure Literal.Word where
  chars : List Char
  nonempty : chars ≠ []
  plain : ∀ c ∈ chars, Literal.isWordChar c = true

/-- The words that are not numbers. -/
def Literal.keywords : List (List Char) := ["NULL".toList, "true".toList, "false".toList]

/-- What the text of a number has to be: a word, but not a keyword. -/
structure Literal.IsNumber (cs : List Char) : Prop where
  nonempty : cs ≠ []
  plain : ∀ c ∈ cs, Literal.isWordChar c = true
  notKeyword : cs ∉ Literal.keywords

instance (cs : List Char) : Decidable (Literal.IsNumber cs) :=
  decidable_of_iff
    (cs ≠ [] ∧ cs.all Literal.isWordChar = true ∧ cs ∉ Literal.keywords)
    ⟨fun ⟨hne, hplain, hkeyword⟩ => ⟨hne, List.all_eq_true.mp hplain, hkeyword⟩,
      fun h => ⟨h.nonempty, List.all_eq_true.mpr h.plain, h.notKeyword⟩⟩

/-! ## Texts with a digit -/

namespace Written

open Literal

theorem isWordChar_of_isDigit {c : Char} (h : c.isDigit = true) : isWordChar c = true := by
  simp [isWordChar, Char.isAlphanum, h]

/-- Word characters with a digit among them. -/
structure IsNumeral (cs : List Char) : Prop where
  plain : ∀ c ∈ cs, isWordChar c = true
  digit : ∃ c ∈ cs, c.isDigit = true

theorem IsNumeral.isNumber {cs : List Char} (h : IsNumeral cs) : IsNumber cs := by
  obtain ⟨c, hc, hdigit⟩ := h.digit
  refine ⟨List.ne_nil_of_mem hc, h.plain, fun hkeyword => ?_⟩
  -- a keyword would be without any digit
  have hnone : ∀ word ∈ keywords, word.any Char.isDigit = false := by decide
  have hsome : cs.any Char.isDigit = true := List.any_eq_true.mpr ⟨c, hc, hdigit⟩
  rw [hnone cs hkeyword] at hsome
  cases hsome

theorem IsNumeral.append {a b : List Char} (ha : IsNumeral a)
    (hb : ∀ c ∈ b, isWordChar c = true) : IsNumeral (a ++ b) := by
  obtain ⟨c, hc, hdigit⟩ := ha.digit
  refine ⟨fun d hd => ?_, c, List.mem_append_left b hc, hdigit⟩
  rcases List.mem_append.mp hd with hd | hd
  · exact ha.plain d hd
  · exact hb d hd

theorem IsNumeral.prepend {a b : List Char} (ha : ∀ c ∈ a, isWordChar c = true)
    (hb : IsNumeral b) : IsNumeral (a ++ b) := by
  obtain ⟨c, hc, hdigit⟩ := hb.digit
  refine ⟨fun d hd => ?_, c, List.mem_append_right a hc, hdigit⟩
  rcases List.mem_append.mp hd with hd | hd
  · exact ha d hd
  · exact hb.plain d hd

theorem isWordChar_of_mem_zeros {n : Nat} {c : Char} (h : c ∈ List.replicate n '0') :
    isWordChar c = true := by
  rw [List.eq_of_mem_replicate h]
  decide

theorem isWordChar_of_mem_sign {negative : Bool} {c : Char}
    (h : c ∈ if negative then ['-'] else []) : isWordChar c = true := by
  cases negative with
  | true =>
    rw [List.mem_singleton.mp h]
    decide
  | false => simp at h

/-! ### The parts of a number -/

theorem isNumeral_natural (n : Nat) : IsNumeral (natural n) := by
  have hdigits := isDigits_natural n
  obtain ⟨c, hc⟩ := List.exists_mem_of_ne_nil (natural n) hdigits.nonempty
  exact ⟨fun d hd => isWordChar_of_isDigit (hdigits.digit d hd), c, hc, hdigits.digit c hc⟩

theorem isNumeral_padded (width n : Nat) : IsNumeral (padded width n) :=
  (isNumeral_natural n).prepend fun _ => isWordChar_of_mem_zeros

/-- A point among digits loses none of them. -/
theorem isNumeral_pointed {digits : List Char} (h : IsNumeral digits) (place : Int) :
    IsNumeral (pointed digits place) := by
  unfold pointed
  split
  · -- all digits stand behind the point
    have hzeros := h.prepend fun c (hc : c ∈ List.replicate (-place).toNat '0') =>
      isWordChar_of_mem_zeros hc
    exact IsNumeral.prepend (a := ['0', '.']) (List.all_eq_true.mp (by decide)) hzeros
  split
  · -- all digits stand in front of it, and zeros behind them
    exact h.append fun _ => isWordChar_of_mem_zeros
  · -- the point stands between two digits
    have hsplit := List.take_append_drop place.toNat digits
    have hmem : ∀ c, c ∈ digits ↔
        c ∈ digits.take place.toNat ∨ c ∈ digits.drop place.toNat := fun c => by
      rw [← List.mem_append, hsplit]
    obtain ⟨c, hc, hdigit⟩ := h.digit
    refine ⟨fun d hd => ?_, c, ?_, hdigit⟩
    · rcases List.mem_append.mp hd with hd | hd
      · exact h.plain d ((hmem d).mpr (.inl hd))
      · rcases List.mem_cons.mp hd with rfl | hd
        · decide
        · exact h.plain d ((hmem d).mpr (.inr hd))
    · rcases (hmem c).mp hc with hc | hc
      · exact List.mem_append_left _ hc
      · exact List.mem_append_right _ (List.mem_cons_of_mem _ hc)

/-- An exponent is a letter, a sign and a numeral. -/
theorem isWordChar_of_mem_exponent {letter : Char} (hletter : isWordChar letter = true)
    {negative : Prop} [Decidable negative] {digits : List Char} (h : IsNumeral digits) {c : Char}
    (hc : c ∈ letter :: (if negative then '-' else '+') :: digits) : isWordChar c = true := by
  rcases List.mem_cons.mp hc with rfl | hc
  · exact hletter
  rcases List.mem_cons.mp hc with rfl | hc
  · split <;> decide
  · exact h.plain c hc

end Written

/-! ## Numbers of each type -/

open Written Literal

theorem Written.isNumber_integer (n : Int) : IsNumber (integer n) := by
  have hnatural := isNumeral_natural n.natAbs
  unfold integer
  split
  · exact (hnatural.prepend (a := ['-']) (List.all_eq_true.mp (by decide))).isNumber
  · exact hnatural.isNumber

theorem FloatLayout.isNumeral_magnitude (layout : FloatLayout) {digits : List Char}
    (h : IsNumeral digits) (lead : Int) : IsNumeral (layout.magnitude digits lead) := by
  unfold magnitude
  split
  · refine (isNumeral_pointed h _).append fun c hc => ?_
    split at hc
    · have hpoint : ['.', '0'].all isWordChar = true := by decide
      exact List.all_eq_true.mp hpoint c hc
    · simp at hc
  · exact (isNumeral_pointed h 1).append fun c hc =>
      isWordChar_of_mem_exponent (by decide) (isNumeral_padded _ _) hc

theorem FloatLayout.isNumber_write (layout : FloatLayout) (x : Binary64) :
    IsNumber (layout.write x) := by
  cases x with
  | nan =>
    show IsNumber "nan".toList
    decide
  | infinite negative =>
    show IsNumber (if negative then "-inf" else "inf").toList
    cases negative <;> decide
  | finite negative exponent fraction =>
    have hmagnitude : ∀ value lead, IsNumeral (layout.magnitude (natural value) lead) :=
      fun value lead => layout.isNumeral_magnitude (isNumeral_natural value) lead
    exact ((hmagnitude _ _).prepend fun _ => isWordChar_of_mem_sign).isNumber

theorem Binary64.isNumber_written (x : Binary64) : IsNumber x.written.toList := by
  rw [written, String.toList_ofList]
  exact FloatLayout.isNumber_write _ x

theorem Decimal.isNumeral_magnitude (coefficient : Nat) (exponent : Int) :
    IsNumeral (magnitude coefficient exponent) := by
  have hdigits := isNumeral_natural coefficient
  unfold magnitude
  simp only
  split
  · exact isNumeral_pointed hdigits _
  · exact (isNumeral_pointed hdigits 1).append fun c hc =>
      isWordChar_of_mem_exponent (by decide) (isNumeral_natural _) hc

theorem Decimal.isNumber_chars (d : Decimal) : IsNumber d.chars := by
  cases d with
  | finite negative coefficient exponent =>
    exact ((isNumeral_magnitude coefficient exponent).prepend
      fun _ => isWordChar_of_mem_sign).isNumber
  | infinite negative => cases negative <;> decide
  | nan negative signalling payload =>
    -- only a payload has digits
    by_cases hzero : payload = 0
    · subst hzero
      cases negative <;> cases signalling <;> decide
    · have hname : ∀ c ∈ (if negative then ['-'] else []) ++ (if signalling then ['s'] else [])
          ++ "NaN".toList, isWordChar c = true := by
        cases negative <;> cases signalling <;> exact List.all_eq_true.mp (by decide)
      have hnumeral := (isNumeral_natural payload).prepend hname
      simpa [chars, hzero] using hnumeral.isNumber

end SqlText
