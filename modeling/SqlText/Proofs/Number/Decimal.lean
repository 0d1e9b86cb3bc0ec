import SqlText.Proofs.Number.Integer

/-!
Written decimals read back. `Decimal.read?` reads a sign and then an infinity, a NaN with its
payload, or digits with perhaps a point among them and an exponent behind them. The value of such
digits is that of the digits without the point, and the exponent is lowered by one for each digit
behind the point; so leading zeros, which the writer adds, do not count, while trailing zeros do.

* `Written.Fixed`: digits with a point among them, as parts;
* `Written.exists_fixed`: the digits that are written with a point are such, and no digit is lost;
* `Decimal.read?_chars`: what is written of a decimal reads back as that decimal.
-/

namespace SqlText

/-! ## Reading -/

/-- What stands in front of the first mark and, if there is one, what stands behind it. -/
def cutAt (mark : Char) (cs : List Char) : List Char × Option (List Char) :=
  (cs.takeWhile (· != mark), (cs.dropWhile (· != mark)).tail?)

theorem cutAt_append {mark : Char} {front : List Char} (h : mark ∉ front) (back : List Char) :
    cutAt mark (front ++ mark :: back) = (front, some back) := by
  have hfront : ∀ c ∈ front, (c != mark) = true := fun c hc =>
    bne_iff_ne.mpr fun heq => h (heq ▸ hc)
  simp [cutAt, List.takeWhile_append_of_pos hfront, List.dropWhile_append_of_pos hfront]

theorem cutAt_of_not_mem {mark : Char} {cs : List Char} (h : mark ∉ cs) :
    cutAt mark cs = (cs, none) := by
  have hkeep : ∀ c ∈ cs, (c != mark) = true := fun c hc =>
    bne_iff_ne.mpr fun heq => h (heq ▸ hc)
  rw [← List.append_nil cs, cutAt, List.takeWhile_append_of_pos hkeep,
    List.dropWhile_append_of_pos hkeep]
  rfl

namespace Decimal

/-- Whether there is a hyphen in front, and what is behind the sign. -/
def readSign : List Char → Bool × List Char
  | '-' :: rest => (true, rest)
  | '+' :: rest => (false, rest)
  | cs => (false, cs)

/-- The number that digits make, if there are digits only. -/
def readDigits? (cs : List Char) : Option Nat :=
  if Written.IsDigits cs then some (Numeral.value cs) else none

/-- Digits with perhaps a point among them: the number that they make without the point, and how
many of them are behind it. -/
def readFixed? (cs : List Char) : Option (Nat × Nat) :=
  let (whole, fraction) := cutAt '.' cs
  let fraction := fraction.getD []
  (readDigits? (whole ++ fraction)).map fun n => (n, fraction.length)

/-- An exponent, which is nought if there is none. -/
def readPower? : Option (List Char) → Option Int
  | none => some 0
  | some cs =>
    let (negative, digits) := readSign cs
    (readDigits? digits).map fun n : Nat => if negative then -(n : Int) else n

def readFinite? (negative : Bool) (cs : List Char) : Option Decimal := do
  let (mantissa, exponent) := cutAt 'E' cs
  let (coefficient, scale) ← readFixed? mantissa
  let power ← readPower? exponent
  return finite negative coefficient (power - scale)

/-- The payload of a NaN, which is nought if there is none. -/
def readPayload? : List Char → Option Nat
  | [] => some 0
  | cs => readDigits? cs

def readSpecial? (negative : Bool) : List Char → Option Decimal
  | ['I', 'n', 'f', 'i', 'n', 'i', 't', 'y'] => some (infinite negative)
  | 'N' :: 'a' :: 'N' :: payload => (readPayload? payload).map (nan negative false)
  | 's' :: 'N' :: 'a' :: 'N' :: payload => (readPayload? payload).map (nan negative true)
  | _ => none

/-- The decimal that a text denotes. -/
def read? (cs : List Char) : Option Decimal :=
  let (negative, body) := readSign cs
  (readSpecial? negative body).or (readFinite? negative body)

theorem readDigits?_natural (n : Nat) : readDigits? (Written.natural n) = some n := by
  rw [readDigits?, if_pos (Written.isDigits_natural n), Numeral.value_natural]

end Decimal

/-! ## Digits with a point -/

/-- Digits in front of a point and behind it. Without any behind it, there is no point. -/
structure Written.Fixed where
  whole : List Char
  fraction : List Char
  digits : IsDigits whole
  digit : ∀ c ∈ fraction, c.isDigit = true

namespace Written.Fixed

variable (f : Fixed)

def chars : List Char := f.whole ++ if f.fraction = [] then [] else '.' :: f.fraction

/-- The number that the digits make without the point. -/
def coefficient : Nat := Numeral.value (f.whole ++ f.fraction)

theorem isDigits_append : IsDigits (f.whole ++ f.fraction) where
  nonempty h := f.digits.nonempty (List.append_eq_nil_iff.mp h).1
  digit c hc := (List.mem_append.mp hc).elim (f.digits.digit c) (f.digit c)

theorem not_mem_chars {c : Char} (hdigit : c.isDigit = false) (hpoint : c ≠ '.') :
    c ∉ f.chars := by
  have hwhole := f.digits.not_mem hdigit
  have hfraction := not_mem_of_isDigit f.digit hdigit
  rw [chars]
  split <;> simp [hwhole, hfraction, hpoint]

/-- The digits come first, so a text that starts so has no sign and is not a special one. -/
theorem exists_cons : ∃ c rest, f.chars = c :: rest ∧ c.isDigit = true := by
  obtain ⟨c, rest, hwhole, hc⟩ := f.digits.exists_cons
  exact ⟨c, _, by rw [chars, hwhole, List.cons_append], hc⟩

theorem readFixed?_chars :
    Decimal.readFixed? f.chars = some (f.coefficient, f.fraction.length) := by
  have hpoint : '.' ∉ f.whole := f.digits.not_mem rfl
  have hread : Decimal.readDigits? (f.whole ++ f.fraction) = some f.coefficient :=
    if_pos f.isDigits_append
  have hcut : cutAt '.' f.chars
      = (f.whole, if f.fraction = [] then none else some f.fraction) := by
    rw [chars]
    split
    · rw [List.append_nil, cutAt_of_not_mem hpoint]
    · rw [cutAt_append hpoint]
  have hfraction : (if f.fraction = [] then none else some f.fraction).getD [] = f.fraction := by
    split
    · next hnil => rw [hnil, Option.getD_none]
    · rw [Option.getD_some]
  simp only [Decimal.readFixed?, hcut, hfraction, hread, Option.map_some]

end Written.Fixed

namespace Written

theorem value_zeros_append (n : Nat) (cs : List Char) :
    Numeral.value (List.replicate n '0' ++ cs) = Numeral.value cs := by
  rw [Numeral.value_eq_ofDigitChars, Nat.ofDigitChars_append, Nat.ofDigitChars_replicate_zero,
    Nat.mul_zero]
  rfl

section Point

variable {ds : List Char} (hds : IsDigits ds)
include hds

/-- All digits stand behind the point, and behind zeros that do not count. -/
theorem exists_fixed_behind (n : Nat) :
    ∃ f : Fixed, f.chars = '0' :: '.' :: (List.replicate n '0' ++ ds)
      ∧ f.coefficient = Numeral.value ds ∧ f.fraction.length = n + ds.length := by
  have hne : List.replicate n '0' ++ ds ≠ [] := fun h => hds.nonempty (List.append_eq_nil_iff.mp h).2
  have hdigit : ∀ c ∈ List.replicate n '0' ++ ds, c.isDigit = true := by
    intro c hc
    rcases List.mem_append.mp hc with hc | hc
    · rw [List.eq_of_mem_replicate hc]
      rfl
    · exact hds.digit c hc
  refine ⟨⟨['0'], _, ⟨by simp, by simp⟩, hdigit⟩, ?_, ?_, ?_⟩
  · rw [Fixed.chars, if_neg hne]
    rfl
  · calc Numeral.value (['0'] ++ (List.replicate n '0' ++ ds))
        = Numeral.value (List.replicate 1 '0' ++ (List.replicate n '0' ++ ds)) := rfl
      _ = Numeral.value ds := by rw [value_zeros_append, value_zeros_append]
  · rw [List.length_append, List.length_replicate]

/-- The point stands between two digits. -/
theorem exists_fixed_among {n : Nat} (hpos : 0 < n) (hlt : n < ds.length) :
    ∃ f : Fixed, f.chars = ds.take n ++ '.' :: ds.drop n
      ∧ f.coefficient = Numeral.value ds ∧ f.fraction.length = ds.length - n := by
  have htake : ds.take n ≠ [] := by
    rw [ne_eq, List.take_eq_nil_iff]
    exact not_or.mpr ⟨by omega, hds.nonempty⟩
  have hdrop : ds.drop n ≠ [] := by
    rw [ne_eq, List.drop_eq_nil_iff]
    omega
  have hwhole : IsDigits (ds.take n) := ⟨htake, fun c hc => hds.digit c (List.mem_of_mem_take hc)⟩
  refine ⟨⟨_, ds.drop n, hwhole, fun c hc => hds.digit c (List.mem_of_mem_drop hc)⟩, ?_, ?_, ?_⟩
  · rw [Fixed.chars, if_neg hdrop]
  · rw [Fixed.coefficient, List.take_append_drop]
  · rw [List.length_drop]

/-- **A point among digits loses none of them**, and nothing is invented behind them. -/
theorem exists_fixed (place : Int) (hplace : place ≤ ds.length) :
    ∃ f : Fixed, f.chars = pointed ds place ∧ f.coefficient = Numeral.value ds
      ∧ (f.fraction.length : Int) = ds.length - place := by
  rw [pointed]
  split
  · obtain ⟨f, hchars, hcoefficient, hlength⟩ := exists_fixed_behind hds (-place).toNat
    exact ⟨f, hchars, hcoefficient, by omega⟩
  split
  · -- all digits stand in front of the point, so there is none, and no zeros are needed
    have hexact : place.toNat - ds.length = 0 := by omega
    refine ⟨⟨ds, [], hds, by simp⟩, ?_, ?_, ?_⟩
    · rw [hexact]
      rfl
    · rw [Fixed.coefficient, List.append_nil]
    · rw [List.length_nil]
      omega
  · obtain ⟨f, hchars, hcoefficient, hlength⟩ :=
      exists_fixed_among hds (n := place.toNat) (by omega) (by omega)
    exact ⟨f, hchars, hcoefficient, by omega⟩

end Point

end Written

/-! ## Reading back -/

namespace Decimal

theorem readSign_of_isDigit {c : Char} (h : c.isDigit = true) (rest : List Char) :
    readSign (c :: rest) = (false, c :: rest) := by
  refine readSign.eq_3 _ (fun rest heq => ?_) (fun rest heq => ?_) <;>
  · cases heq
    cases h

theorem readSpecial?_of_isDigit {c : Char} (h : c.isDigit = true) (negative : Bool)
    (rest : List Char) : readSpecial? negative (c :: rest) = none := by
  refine readSpecial?.eq_4 negative _ (fun heq => ?_) (fun payload heq => ?_)
    (fun payload heq => ?_) <;>
  · cases heq
    cases h

/-- A text that starts with a digit is read as a finite decimal, with or without a sign. -/
theorem read?_of_isDigit {c : Char} (h : c.isDigit = true) (negative : Bool) (rest : List Char) :
    read? ((if negative then ['-'] else []) ++ c :: rest) = readFinite? negative (c :: rest) := by
  have hsign : readSign ((if negative then ['-'] else []) ++ c :: rest) = (negative, c :: rest) := by
    cases negative with
    | true => rfl
    | false => exact readSign_of_isDigit h rest
  simp only [read?, hsign, readSpecial?_of_isDigit h, Option.none_or]

/-- An exponent as it is written. -/
def powerChars (power : Int) : List Char :=
  (if power < 0 then '-' else '+') :: Written.natural power.natAbs

theorem readPower?_powerChars (power : Int) : readPower? (some (powerChars power)) = some power := by
  have hsign : readSign (powerChars power) = (decide (power < 0), Written.natural power.natAbs) := by
    rw [powerChars]
    by_cases hneg : power < 0
    · rw [if_pos hneg, decide_eq_true hneg, readSign]
    · rw [if_neg hneg, decide_eq_false hneg, readSign]
  simp only [readPower?, hsign, readDigits?_natural, Option.map_some, decide_eq_true_eq,
    Option.some.injEq]
  split <;> omega

theorem readFinite?_fixed (negative : Bool) (f : Written.Fixed) :
    readFinite? negative f.chars
      = some (finite negative f.coefficient (-f.fraction.length)) := by
  have hcut := cutAt_of_not_mem (f.not_mem_chars (c := 'E') rfl (by decide))
  simp only [readFinite?, hcut, f.readFixed?_chars, readPower?, Option.bind_eq_bind,
    Option.bind_some, Int.zero_sub]
  rfl

theorem readFinite?_exponent (negative : Bool) (f : Written.Fixed) (power : Int) :
    readFinite? negative (f.chars ++ 'E' :: powerChars power)
      = some (finite negative f.coefficient (power - f.fraction.length)) := by
  have hcut := cutAt_append (f.not_mem_chars (c := 'E') rfl (by decide)) (powerChars power)
  simp only [readFinite?, hcut, f.readFixed?_chars, readPower?_powerChars, Option.bind_eq_bind,
    Option.bind_some]
  rfl

/-- **The two notations**: digits that stand for the coefficient, without an exponent or with one,
where the digits behind the point make up for what it differs by. -/
theorem exists_magnitude_eq (coefficient : Nat) (exponent : Int) :
    ∃ f : Written.Fixed, f.coefficient = coefficient
      ∧ ((magnitude coefficient exponent = f.chars ∧ exponent = -f.fraction.length)
        ∨ ∃ power : Int, magnitude coefficient exponent = f.chars ++ 'E' :: powerChars power
          ∧ exponent = power - f.fraction.length) := by
  have hdigits := Written.isDigits_natural coefficient
  have hvalue := Numeral.value_natural coefficient
  have hlength : 0 < (Written.natural coefficient).length :=
    List.length_pos_iff.mpr hdigits.nonempty
  unfold magnitude
  generalize Written.natural coefficient = digits at hdigits hvalue hlength
  simp only
  split
  · next hplain =>
    rw [Bool.and_eq_true, decide_eq_true_eq, decide_eq_true_eq] at hplain
    obtain ⟨f, hchars, hcoefficient, hscale⟩ :=
      Written.exists_fixed hdigits (exponent + digits.length) (by omega)
    exact ⟨f, hcoefficient.trans hvalue, .inl ⟨hchars.symm, by omega⟩⟩
  · obtain ⟨f, hchars, hcoefficient, hscale⟩ := Written.exists_fixed hdigits 1 (by omega)
    refine ⟨f, hcoefficient.trans hvalue, .inr ⟨exponent + digits.length - 1, ?_, by omega⟩⟩
    rw [hchars, powerChars]

theorem read?_finite (negative : Bool) (coefficient : Nat) (exponent : Int) :
    read? ((if negative then ['-'] else []) ++ magnitude coefficient exponent)
      = some (finite negative coefficient exponent) := by
  obtain ⟨f, rfl, hnotation⟩ := exists_magnitude_eq coefficient exponent
  obtain ⟨c, rest, hchars, hc⟩ := f.exists_cons
  rcases hnotation with ⟨hmagnitude, hexponent⟩ | ⟨power, hmagnitude, hexponent⟩
  · have hread := readFinite?_fixed negative f
    rw [hchars] at hread hmagnitude
    rw [hmagnitude, read?_of_isDigit hc, hread, hexponent]
  · have hread := readFinite?_exponent negative f power
    rw [hchars, List.cons_append] at hread hmagnitude
    rw [hmagnitude, read?_of_isDigit hc, hread, hexponent]

theorem readPayload?_natural (payload : Nat) :
    readPayload? (if payload = 0 then [] else Written.natural payload) = some payload := by
  split
  · next hzero => rw [hzero, readPayload?]
  · rw [readPayload?.eq_2 _ (Written.isDigits_natural payload).nonempty, readDigits?_natural]

/-- **What is written of a decimal reads back as that decimal.** -/
theorem read?_chars (d : Decimal) : read? d.chars = some d := by
  cases d with
  | finite negative coefficient exponent => exact read?_finite negative coefficient exponent
  | infinite negative => cases negative <;> rfl
  | nan negative signalling payload =>
    have hpayload := readPayload?_natural payload
    rw [chars]
    generalize (if payload = 0 then [] else Written.natural payload) = digits at hpayload
    have hspecial : readSpecial? negative ((if signalling then ['s'] else []) ++ "NaN".toList ++
        digits) = some (nan negative signalling payload) := by
      cases signalling with
      | true => exact congrArg (Option.map (nan negative true)) hpayload
      | false => exact congrArg (Option.map (nan negative false)) hpayload
    have hsign : readSign ((if negative then ['-'] else []) ++ (if signalling then ['s'] else [])
        ++ "NaN".toList ++ digits)
        = (negative, (if signalling then ['s'] else []) ++ "NaN".toList ++ digits) := by
      cases negative <;> cases signalling <;> rfl
    simp only [read?, hsign, hspecial, Option.some_or]

example : read? "-1.00E+7".toList = some (finite true 100 5) := by decide

/-- Two decimals never have one text. -/
theorem chars_injective {d e : Decimal} (h : d.chars = e.chars) : d = e := by
  have hread := read?_chars d
  rw [h, read?_chars e] at hread
  exact (Option.some.inj hread).symm

end Decimal

end SqlText
