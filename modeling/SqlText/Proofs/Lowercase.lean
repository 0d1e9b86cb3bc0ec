import SqlText.Text.Lowercase

/-!
A text in lowercase stays as it is in lowercase. Capitals are the characters that the case data or
one of the two special rules take to something else, and no character that they are taken to is a
capital again. So what a name is looked up by does not depend on how often it was lowered.

* `CaseRun.contains_small`: small letters that lie apart from a run of capitals;
* `Lowercase.isCapital_letter`: no small letter is a capital;
* `lowercase_lowercase`: lowercase texts stay as they are.
-/

namespace SqlText.Text

/-! ## Runs of capitals -/

/-- The small letter that goes with a capital of the run. -/
def CaseRun.small (r : CaseRun) (n : Nat) : Nat := (n + r.shift).toNat

/-- The small letters of `r` miss the capitals of `other`: they lie below, above, or in between,
where capitals and small letters take turns. -/
def CaseRun.misses (r other : CaseRun) : Bool :=
  (r.small r.last).blt other.first || other.last.blt (r.small r.first)
    || (other.stride == 2 && (r.first == r.last || r.stride == 2) && 0 < r.small r.first
      && (r.small r.first + other.first) % 2 == 1)

theorem CaseRun.contains_small {r other : CaseRun} (h : r.misses other = true) {n : Nat}
    (hn : r.contains n = true) : other.contains (r.small n) = false := by
  simp only [contains, Bool.and_eq_true, decide_eq_true_eq, beq_iff_eq] at hn
  obtain ⟨⟨hfirst, hlast⟩, hstep⟩ := hn
  -- the small letters are in the order of the capitals
  have hlow : r.small r.first ≤ r.small n := by simp only [small]; omega
  have hhigh : r.small n ≤ r.small r.last := by simp only [small]; omega
  refine Bool.eq_false_iff.mpr fun hother => ?_
  simp only [contains, Bool.and_eq_true, decide_eq_true_eq, beq_iff_eq] at hother
  obtain ⟨⟨hfrom, hto⟩, hturn⟩ := hother
  simp only [misses, Bool.or_eq_true, Bool.and_eq_true, Nat.blt_eq, decide_eq_true_eq,
    beq_iff_eq] at h
  rcases h with (hbelow | habove) | ⟨⟨⟨hstride, hpace⟩, hpos⟩, hodd⟩
  · omega
  · omega
  · -- the small letter is an even number of steps away from the first one, and so is the capital
    have heven : (n - r.first) % 2 = 0 := by
      rcases hpace with hone | htwo
      · omega
      · rw [htwo] at hstep
        exact hstep
    have hexact : r.small n = r.small r.first + (n - r.first) := by
      simp only [small] at hpos ⊢
      omega
    rw [hstride] at hturn
    omega

namespace Lowercase

/-! ## Capitals -/

/-- Every run of capitals, and the dotted capital I. -/
def capitals : List CaseRun := ⟨0x130, 0x130, 1, 0⟩ :: caseRuns

def isCapital (c : Char) : Bool := capitals.any (·.contains c.toNat)

/-- A fact about the case data: all small letters miss all capitals. -/
theorem misses_capitals :
    (caseRuns.all fun r => capitals.all fun other => r.misses other) = true := by
  decide +kernel

/-- A number that stands for no character is read as the first character. -/
theorem toNat_ofNat (n : Nat) : (Char.ofNat n).toNat = if n.isValidChar then n else 0 := by
  by_cases h : n.isValidChar
  · rw [Char.ofNat, dif_pos h, if_pos h]
    rfl
  · rw [Char.ofNat, dif_neg h, if_neg h]
    rfl

/-- A number outside the runs of capitals makes no capital, and the first character is none. -/
theorem isCapital_ofNat {n : Nat} (h : ∀ r ∈ capitals, r.contains n = false) :
    isCapital (Char.ofNat n) = false := by
  unfold isCapital
  rw [toNat_ofNat]
  split
  · exact List.any_eq_false.mpr fun r hr => by simp [h r hr]
  · decide +kernel

theorem letter_of_not_isCapital {c : Char} (h : isCapital c = false) : letter c = c := by
  have hnone : caseRuns.find? (·.contains c.toNat) = none := by
    refine List.find?_eq_none.mpr fun r hr hcontains => ?_
    have hall := List.any_eq_false.mp h r (List.mem_cons_of_mem _ hr)
    exact hall hcontains
  rw [letter, hnone]

/-- **No small letter is a capital.** -/
theorem isCapital_letter {c : Char} (hdotted : c ≠ 'İ') : isCapital (letter c) = false := by
  unfold letter
  split
  · next r hfind =>
    -- the case data has a small letter, and it misses all capitals
    have hr : r ∈ caseRuns := List.mem_of_find?_eq_some hfind
    have hcontains := List.find?_some hfind
    refine isCapital_ofNat fun other hother => ?_
    have hall := List.all_eq_true.mp misses_capitals r hr
    exact CaseRun.contains_small (List.all_eq_true.mp hall other hother) hcontains
  · next hnone =>
    refine List.any_eq_false.mpr fun r hr => ?_
    rcases List.mem_cons.mp hr with rfl | hr
    · -- of the capitals that are left the dotted one is excluded
      intro hcontains
      simp only [CaseRun.contains, Bool.and_eq_true, decide_eq_true_eq] at hcontains
      obtain ⟨⟨hfrom, hto⟩, -⟩ := hcontains
      have hnat : c.toNat = 'İ'.toNat := Nat.le_antisymm hto hfrom
      exact hdotted (Char.toNat_inj.mp hnat)
    · exact List.find?_eq_none.mp hnone r hr

/-! ## Texts -/

theorem isCapital_sigma (before after : List Char) : isCapital (sigma before after) = false := by
  unfold sigma
  split <;> decide +kernel

theorem isCapital_of_mem_chars {before cs : List Char} :
    ∀ c ∈ chars before cs, isCapital c = false := by
  induction before, cs using chars.induct with
  | case1 before => exact fun c hc => absurd hc List.not_mem_nil
  | case2 before rest ih =>
    intro c hc
    rw [chars] at hc
    rcases List.mem_cons.mp hc with rfl | hc
    · exact isCapital_sigma before rest
    · exact ih c hc
  | case3 before rest ih =>
    intro c hc
    rw [chars] at hc
    rcases List.mem_cons.mp hc with rfl | hc
    · decide +kernel
    · rcases List.mem_cons.mp hc with rfl | hc
      · decide +kernel
      · exact ih c hc
  | case4 before d rest hsigma hdotted ih =>
    intro c hc
    rw [chars.eq_4 _ _ _ hsigma hdotted] at hc
    rcases List.mem_cons.mp hc with rfl | hc
    · exact isCapital_letter hdotted
    · exact ih c hc

theorem chars_of_not_isCapital {before cs : List Char} (h : ∀ c ∈ cs, isCapital c = false) :
    chars before cs = cs := by
  induction cs generalizing before with
  | nil => rfl
  | cons c rest ih =>
    have hc := h c List.mem_cons_self
    -- neither of the special rules applies, as they are for capitals
    have hsigma : c ≠ 'Σ' := by
      rintro rfl
      exact absurd hc (by decide +kernel)
    have hdotted : c ≠ 'İ' := by
      rintro rfl
      exact absurd hc (by decide +kernel)
    rw [chars.eq_4 _ _ _ hsigma hdotted, letter_of_not_isCapital hc,
      ih fun d hd => h d (List.mem_cons_of_mem _ hd)]

end Lowercase

/-- **A text in lowercase stays as it is in lowercase.** -/
theorem lowercase_lowercase (s : String) : lowercase (lowercase s) = lowercase s := by
  rw [lowercase, lowercase, String.toList_ofList,
    Lowercase.chars_of_not_isCapital Lowercase.isCapital_of_mem_chars]

end SqlText.Text
