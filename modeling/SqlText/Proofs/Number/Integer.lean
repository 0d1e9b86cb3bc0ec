import SqlText.Number.Numeral
import SqlText.Number.Written

/-!
Written integers. A number has one canonical numeral (`Written.IsInteger`): its digits without a
zero in front, and a hyphen where it is negative. This is what `Written.integer` writes, and the
reader of numerals gives the number back.

* `Written.isNatural_iff`: the digits of a natural number are its canonical numeral;
* `Written.isInteger_iff`: so it is with a sign;
* `Numeral.read?_integer`: a written integer reads back.
-/

namespace SqlText

/-! ## Digits -/

/-- A text of digits, of which there is at least one. -/
structure Written.IsDigits (cs : List Char) : Prop where
  nonempty : cs ≠ []
  digit : ∀ c ∈ cs, c.isDigit = true

instance (cs : List Char) : Decidable (Written.IsDigits cs) :=
  decidable_of_iff (cs ≠ [] ∧ cs.all Char.isDigit = true)
    ⟨fun ⟨hne, hdigit⟩ => ⟨hne, List.all_eq_true.mp hdigit⟩,
      fun h => ⟨h.nonempty, List.all_eq_true.mpr h.digit⟩⟩

namespace Written

theorem isDigits_natural (n : Nat) : IsDigits (natural n) where
  nonempty := Nat.toDigits_ne_nil
  digit _ hc := Nat.isDigit_of_mem_toDigits (by decide) (by decide) hc

theorem not_mem_of_isDigit {cs : List Char} (h : ∀ c ∈ cs, c.isDigit = true) {c : Char}
    (hc : c.isDigit = false) : c ∉ cs := by
  intro hmem
  rw [h c hmem] at hc
  cases hc

theorem IsDigits.not_mem {cs : List Char} (h : IsDigits cs) {c : Char} (hc : c.isDigit = false) :
    c ∉ cs := not_mem_of_isDigit h.digit hc

theorem IsDigits.exists_cons {cs : List Char} (h : IsDigits cs) :
    ∃ c rest, cs = c :: rest ∧ c.isDigit = true := by
  obtain ⟨c, rest, rfl⟩ := List.exists_cons_of_ne_nil h.nonempty
  exact ⟨c, rest, rfl, h.digit c List.mem_cons_self⟩

theorem bounds_of_isDigit {c : Char} (h : c.isDigit = true) : 48 ≤ c.toNat ∧ c.toNat ≤ 57 := by
  simp only [Char.isDigit, Bool.and_eq_true, decide_eq_true_eq] at h
  exact h

/-- One digit is the numeral of its value. -/
theorem natural_digit {c : Char} (h : c.isDigit = true) :
    natural (c.toNat - '0'.toNat) = [c] := by
  obtain ⟨hleast, hmost⟩ := bounds_of_isDigit h
  have hlt : c.toNat - 48 < 10 := by omega
  have hchar : Nat.digitChar (c.toNat - 48) = c := by
    apply Char.toNat_inj.mp
    rw [Nat.toNat_digitChar_of_lt_ten hlt]
    omega
  show Nat.toDigits 10 (c.toNat - 48) = [c]
  rw [Nat.toDigits_of_lt_base hlt, hchar]

end Written

namespace Numeral

theorem value_eq_ofDigitChars (cs : List Char) : value cs = Nat.ofDigitChars 10 cs 0 := rfl

theorem value_natural (n : Nat) : value (Written.natural n) = n := Nat.ofDigitChars_ten_toDigits

end Numeral

/-! ## Canonical numerals -/

namespace Written

open Numeral

/-- The canonical numeral of a natural number: only that of zero starts with a zero. -/
structure IsNatural (n : Nat) (cs : List Char) : Prop extends IsDigits cs where
  value : Numeral.value cs = n
  leading : ∀ rest, cs = '0' :: rest → rest = []

theorem head?_natural_ne {n : Nat} (h : 0 < n) : (natural n).head? ≠ some '0' := by
  induction n using Nat.strongRecOn with
  | _ n ih =>
    rw [natural]
    by_cases hlt : n < 10
    · rw [Nat.toDigits_of_lt_base hlt, List.head?_cons, ne_eq, Option.some.injEq,
        Nat.digitChar_eq_zero]
      omega
    · -- the first digit is that of the number without its last digit
      obtain ⟨c, rest, hdigits⟩ := List.exists_cons_of_ne_nil (Nat.toDigits_ne_nil (n := n / 10))
      have hhead := ih (n / 10) (by omega) (by omega)
      rw [natural, hdigits, List.head?_cons] at hhead
      rwa [Nat.toDigits_of_base_le (by decide) (by omega), hdigits, List.cons_append,
        List.head?_cons]

theorem isNatural_natural (n : Nat) : IsNatural n (natural n) where
  toIsDigits := isDigits_natural n
  value := value_natural n
  leading rest hrest := by
    rcases Nat.eq_zero_or_pos n with rfl | hpos
    · rw [natural, Nat.toDigits_zero, List.cons.injEq] at hrest
      exact hrest.2.symm
    · have hhead := head?_natural_ne hpos
      rw [hrest] at hhead
      exact absurd rfl hhead

/-- Digits behind the numeral of a number that is not zero make the numeral of another one. -/
theorem natural_append {n : Nat} (hpos : 0 < n) {cs : List Char}
    (hcs : ∀ c ∈ cs, c.isDigit = true) :
    natural n ++ cs = natural (Nat.ofDigitChars 10 cs n) := by
  induction cs generalizing n with
  | nil => rw [List.append_nil, Nat.ofDigitChars_nil]
  | cons c rest ih =>
    have hc := hcs c List.mem_cons_self
    have hlt : c.toNat - '0'.toNat < 10 := by
      have hmost := (bounds_of_isDigit hc).2
      show c.toNat - 48 < 10
      omega
    calc natural n ++ c :: rest
        = (natural n ++ natural (c.toNat - '0'.toNat)) ++ rest := by
          rw [natural_digit hc, List.append_assoc, List.singleton_append]
      _ = natural (10 * n + (c.toNat - '0'.toNat)) ++ rest := by
          rw [natural, natural, natural, Nat.toDigits_append_toDigits (by decide) hpos hlt]
      _ = natural (Nat.ofDigitChars 10 rest (10 * n + (c.toNat - '0'.toNat))) :=
          ih (by omega) fun d hd => hcs d (List.mem_cons_of_mem c hd)
      _ = natural (Nat.ofDigitChars 10 (c :: rest) n) := by rw [Nat.ofDigitChars_cons]

/-- **A natural number has one canonical numeral**, which is the one that is written. -/
theorem isNatural_iff {n : Nat} {cs : List Char} : IsNatural n cs ↔ cs = natural n := by
  refine ⟨fun h => ?_, fun h => h ▸ isNatural_natural n⟩
  obtain ⟨c, rest, rfl, hc⟩ := h.exists_cons
  obtain ⟨rfl⟩ := h.value
  by_cases hzero : c = '0'
  · subst hzero
    rw [h.leading rest rfl]
    rfl
  · -- the first digit is not zero, and the others stand behind its numeral
    have hpos : 0 < c.toNat - '0'.toNat := by
      obtain ⟨hleast, -⟩ := bounds_of_isDigit hc
      have hne : c.toNat ≠ 48 := fun heq => hzero (Char.toNat_inj.mp heq)
      show 0 < c.toNat - 48
      omega
    rw [value_eq_ofDigitChars, Nat.ofDigitChars_cons, Nat.mul_zero, Nat.zero_add,
      ← natural_append hpos fun d hd => h.digit d (List.mem_cons_of_mem c hd), natural_digit hc,
      List.singleton_append]

/-- The canonical numeral of an integer: a hyphen stands in front of a negative one. -/
def IsInteger (n : Int) (cs : List Char) : Prop :=
  ∃ digits, IsNatural n.natAbs digits ∧ cs = (if n < 0 then ['-'] else []) ++ digits

/-- **An integer has one canonical numeral**, which is the one that is written. -/
theorem isInteger_iff {n : Int} {cs : List Char} : IsInteger n cs ↔ cs = integer n := by
  have hinteger : integer n = (if n < 0 then ['-'] else []) ++ natural n.natAbs := by
    rw [integer]
    split <;> rfl
  rw [hinteger]
  constructor
  · rintro ⟨digits, hdigits, rfl⟩
    rw [isNatural_iff.mp hdigits]
  · exact fun h => ⟨_, isNatural_natural _, h⟩

end Written

/-! ## Reading back -/

theorem Text.trimBy_of_forall {p : Char → Bool} {cs : List Char} (h : ∀ c ∈ cs, p c = false) :
    trimBy p cs = cs := by
  have hkeep : ∀ {ds : List Char}, (∀ c ∈ ds, p c = false) → ds.dropWhile p = ds := by
    intro ds hds
    cases ds with
    | nil => rfl
    | cons c rest =>
      rw [List.dropWhile_cons_of_neg]
      simp [hds c List.mem_cons_self]
  rw [trimBy, hkeep h, hkeep fun c hc => h c (List.mem_reverse.mp hc), List.reverse_reverse]

namespace Numeral

/-- Without an underscore there is a single group. -/
theorem groups_of_not_mem {cs : List Char} (h : '_' ∉ cs) : groups cs = [cs] := by
  induction cs with
  | nil => rfl
  | cons c rest ih =>
    obtain ⟨hne, hrest⟩ := List.ne_and_not_mem_of_not_mem_cons h
    rw [groups.eq_3 _ _ fun heq => hne heq.symm, ih hrest]

/-- **Digits are read as their value.** -/
theorem readDigits?_of_isDigits {cs : List Char} (h : Written.IsDigits cs) :
    readDigits? cs = some (value cs) := by
  have hgroups : groups cs = [cs] := groups_of_not_mem (h.not_mem rfl)
  have hall : (!cs.isEmpty && cs.all Char.isDigit) = true := by
    rw [Bool.and_eq_true, Bool.not_eq_true', List.isEmpty_eq_false_iff, List.all_eq_true]
    exact ⟨h.nonempty, h.digit⟩
  rw [readDigits?, hgroups, List.all_cons, List.all_nil, Bool.and_true, if_pos hall,
    List.flatten_singleton]

theorem readSigned?_hyphen (n : Nat) :
    readSigned? ('-' :: Written.natural n) = some (-(n : Int)) := by
  rw [readSigned?, readDigits?_of_isDigits (Written.isDigits_natural n), value_natural]
  rfl

theorem readSigned?_natural (n : Nat) : readSigned? (Written.natural n) = some (n : Int) := by
  have hdigits := Written.isDigits_natural n
  rw [readSigned?.eq_3, readDigits?_of_isDigits hdigits, value_natural, Option.map_some,
    Int.ofNat_eq_natCast]
  · exact fun rest heq => hdigits.not_mem rfl (heq ▸ List.mem_cons_self)
  · exact fun rest heq => hdigits.not_mem rfl (heq ▸ List.mem_cons_self)

/-- Nothing is done to a text of ASCII before it is read. -/
theorem mapM_toAscii? {cs : List Char} (h : ∀ c ∈ cs, c.toNat < 127) :
    cs.mapM toAscii? = some cs := by
  induction cs with
  | nil => rfl
  | cons c rest ih =>
    rw [List.mapM_cons, toAscii?, if_pos (h c List.mem_cons_self),
      ih fun d hd => h d (List.mem_cons_of_mem c hd)]
    rfl

/-- What a written integer is made of: no character is changed or taken off in reading. -/
theorem bounds_of_mem_integer {n : Int} {c : Char} (h : c ∈ Written.integer n) :
    33 ≤ c.toNat ∧ c.toNat < 127 := by
  have hdigit : ∀ d ∈ Written.natural n.natAbs, 33 ≤ d.toNat ∧ d.toNat < 127 := fun d hd => by
    have hbounds := Written.bounds_of_isDigit ((Written.isDigits_natural _).digit d hd)
    omega
  rw [Written.integer] at h
  split at h
  · rcases List.mem_cons.mp h with rfl | h
    · decide
    · exact hdigit c h
  · exact hdigit c h

/-- **A written integer reads back.** -/
theorem read?_integer (n : Int) : read? (Written.integer n) = some n := by
  have hascii := mapM_toAscii? fun c hc => (bounds_of_mem_integer (n := n) hc).2
  have htrim : Text.trimBy isMargin (Written.integer n) = Written.integer n :=
    Text.trimBy_of_forall fun c hc => by
      have hleast := (bounds_of_mem_integer hc).1
      have hblank : c ≠ ' ' := by
        rintro rfl
        revert hleast
        decide
      simp only [isMargin, hblank, decide_false, Bool.false_or, Bool.and_eq_false_iff,
        decide_eq_false_iff_not]
      omega
  rw [read?, hascii, Option.bind_eq_bind, Option.bind_some, htrim, Written.integer]
  split
  · rw [readSigned?_hyphen]
    exact congrArg some (by omega)
  · rw [readSigned?_natural]
    exact congrArg some (by omega)

end Numeral

end SqlText
