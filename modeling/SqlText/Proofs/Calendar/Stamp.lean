import SqlText.Calendar.DateTime
import SqlText.Proofs.Calendar.Instant
import SqlText.Proofs.Number.Integer

/-!
Written datetimes. `DateTime.IsStamp` gives the format: fields of a fixed number of digits with
marks between them, and a fraction of six digits only where there is one. `DateTime.readStamp?`
reads such a text, so that no two datetimes have one text, and nothing of them is lost but the zone.

* `Written.isField_padded`: padded numbers are fields;
* `isStamp_chars`: a valid datetime without an offset is written in the format;
* `IsStamp.readStamp?_eq`: what is written in the format reads back.
-/

namespace SqlText

/-! ## Fields -/

/-- A number in so many digits. -/
structure Written.IsField (width n : Nat) (cs : List Char) : Prop where
  length : cs.length = width
  digit : ∀ c ∈ cs, c.isDigit = true
  value : Nat.ofDigitChars 10 cs 0 = n

/-- **A padded number is a field**, if it has no more digits than that. -/
theorem Written.isField_padded {width n : Nat} (hwidth : 0 < width)
    (h : n < Nat.pow 10 width) :
    IsField width n (padded width n) where
  length := by
    have hle : (natural n).length ≤ width := (Nat.length_toDigits_le_iff (by decide) hwidth).mpr h
    rw [padded, List.length_append, List.length_replicate]
    omega
  digit c hc := by
    rcases List.mem_append.mp hc with hc | hc
    · rw [List.eq_of_mem_replicate hc]
      rfl
    · exact (isDigits_natural n).digit c hc
  value := by
    rw [padded, Nat.ofDigitChars_append, Nat.ofDigitChars_replicate_zero, Nat.mul_zero]
    exact Nat.ofDigitChars_ten_toDigits

theorem Written.IsField.not_mem {width n : Nat} {field : List Char} (h : IsField width n field)
    {c : Char} (hc : c.isDigit = false) : c ∉ field := not_mem_of_isDigit h.digit hc

/-- The number in so many digits at the front, and what follows it. -/
def readField? (width : Nat) (cs : List Char) : Option (Nat × List Char) :=
  if (cs.take width).length = width ∧ (cs.take width).all Char.isDigit then
    some (Nat.ofDigitChars 10 (cs.take width) 0, cs.drop width)
  else none

theorem readField?_append {width n : Nat} {field : List Char} (h : Written.IsField width n field)
    (rest : List Char) : readField? width (field ++ rest) = some (n, rest) := by
  obtain ⟨rfl, hdigit, rfl⟩ := h
  rw [readField?, List.take_left, List.drop_left, if_pos ⟨rfl, List.all_eq_true.mpr hdigit⟩]

/-- What follows a mark. -/
def readMark? (mark : Char) : List Char → Option (List Char)
  | [] => none
  | c :: rest => if c = mark then some rest else none

theorem readMark?_cons (mark : Char) (rest : List Char) :
    readMark? mark (mark :: rest) = some rest := if_pos rfl

namespace DateTime

/-! ## The format -/

/-- The date with hyphens and the time of the day with colons, to the second. -/
inductive IsSecond (t : DateTime) : List Char → Prop
  | fields {year month day hour minute second : List Char}
      (hyear : Written.IsField 4 t.date.year year) (hmonth : Written.IsField 2 t.date.month month)
      (hday : Written.IsField 2 t.date.day day) (hhour : Written.IsField 2 t.clock.hour hour)
      (hminute : Written.IsField 2 t.clock.minute minute)
      (hsecond : Written.IsField 2 t.clock.second second) :
      IsSecond t (year ++ '-' :: (month ++ '-' :: (day ++ ' ' :: (hour ++ ':' :: (minute ++
        ':' :: second)))))

/-- A datetime in the format: the fraction of the second is written where it is not zero, and
nothing follows it. -/
inductive IsStamp (t : DateTime) : List Char → Prop
  | whole {cs : List Char} (h : IsSecond t cs) (hmicro : t.clock.micro = 0) : IsStamp t cs
  | fraction {cs micro : List Char} (h : IsSecond t cs) (hmicro : t.clock.micro ≠ 0)
      (hfield : Written.IsField 6 t.clock.micro micro) : IsStamp t (cs ++ '.' :: micro)

/-- What is written of a datetime up to the second. -/
def secondChars (t : DateTime) : List Char :=
  t.date.chars ++ ' ' :: (Written.padded 2 t.clock.hour ++
    ':' :: (Written.padded 2 t.clock.minute ++ ':' :: Written.padded 2 t.clock.second))

theorem chars_eq_secondChars {t : DateTime} (hzone : t.zone.chars = []) :
    t.chars = t.secondChars ++ Clock.fractionChars t.clock.micro := by
  simp [chars, Clock.chars, secondChars, hzone]

theorem isSecond_secondChars {t : DateTime} (h : t.IsValid) : IsSecond t t.secondChars := by
  have hyear := h.year_le
  have hmonth := h.date.month_le
  have hday : t.date.day < 100 := by
    have hle := h.date.day_le
    have hlength := Date.monthLength_le t.date.year h.date.month_pos hmonth
    omega
  obtain ⟨hhour, hminute, hsecond, -⟩ := h.clock
  have hfields := IsSecond.fields (t := t)
    (Written.isField_padded (by decide) (show t.date.year < 10000 by omega))
    (Written.isField_padded (by decide) (show t.date.month < 100 by omega))
    (Written.isField_padded (by decide) hday)
    (Written.isField_padded (by decide) (show t.clock.hour < 100 by omega))
    (Written.isField_padded (by decide) (show t.clock.minute < 100 by omega))
    (Written.isField_padded (by decide) (show t.clock.second < 100 by omega))
  simpa [secondChars, Date.chars] using hfields

/-- **A valid datetime without an offset is written in the format.** -/
theorem isStamp_chars {t : DateTime} (h : t.IsValid) (hzone : t.zone.chars = []) :
    IsStamp t t.chars := by
  have hsecond := isSecond_secondChars h
  rw [chars_eq_secondChars hzone, Clock.fractionChars]
  by_cases hmicro : t.clock.micro = 0
  · rw [if_pos hmicro, List.append_nil]
    exact .whole hsecond hmicro
  · rw [if_neg hmicro]
    exact .fraction hsecond hmicro (Written.isField_padded (by decide) h.clock.micro_lt)

/-! ## Reading back -/

/-- What is left of a datetime in the format behind the second, as microseconds. -/
def readFraction? : List Char → Option Nat
  | [] => some 0
  | c :: rest => do
    let field ← readMark? '.' (c :: rest)
    let (micro, after) ← readField? 6 field
    if after.isEmpty then some micro else none

/-- The date and the time of the day of a datetime in the format. -/
def readStamp? (cs : List Char) : Option DateTime := do
  let (year, cs) ← readField? 4 cs
  let (month, cs) ← readField? 2 (← readMark? '-' cs)
  let (day, cs) ← readField? 2 (← readMark? '-' cs)
  let (hour, cs) ← readField? 2 (← readMark? ' ' cs)
  let (minute, cs) ← readField? 2 (← readMark? ':' cs)
  let (second, cs) ← readField? 2 (← readMark? ':' cs)
  let micro ← readFraction? cs
  return ⟨⟨year, month, day⟩, ⟨hour, minute, second, micro⟩, .none⟩

theorem IsSecond.readStamp?_append {t : DateTime} {cs : List Char} (h : IsSecond t cs)
    (rest : List Char) :
    readStamp? (cs ++ rest)
      = (readFraction? rest).map fun micro => ⟨t.date, { t.clock with micro }, .none⟩ := by
  cases h with
  | fields hyear hmonth hday hhour hminute hsecond =>
    simp only [readStamp?, List.append_assoc, List.cons_append, readField?_append hyear,
      readField?_append hmonth, readField?_append hday, readField?_append hhour,
      readField?_append hminute, readField?_append hsecond, readMark?_cons,
      Option.bind_eq_bind, Option.bind_some]
    cases readFraction? rest <;> rfl

/-- **What is written in the format reads back**, but for the zone, which is not written. -/
theorem IsStamp.readStamp?_eq {t : DateTime} {cs : List Char} (h : IsStamp t cs) :
    readStamp? cs = some { t with zone := .none } := by
  cases h with
  | whole h hmicro =>
    have hread := h.readStamp?_append []
    have hfraction : readFraction? [] = some t.clock.micro := by
      rw [hmicro]
      rfl
    rw [List.append_nil, hfraction] at hread
    exact hread
  | @fraction cs micro h hmicro hfield =>
    have hfraction : readFraction? ('.' :: micro) = some t.clock.micro := by
      have hread := readField?_append hfield []
      rw [List.append_nil] at hread
      simp [readFraction?, readMark?_cons, hread]
    rw [h.readStamp?_append, hfraction]
    rfl

/-! ## Characters of the format -/

section Characters

variable {t : DateTime} {cs : List Char} {c : Char} (hdigit : c.isDigit = false)
  (hmark : c ∉ ['-', ' ', ':', '.'])
include hdigit hmark

theorem IsSecond.not_mem (h : IsSecond t cs) : c ∉ cs := by
  simp only [List.mem_cons, List.not_mem_nil, or_false, not_or] at hmark
  obtain ⟨hhyphen, hblank, hcolon, -⟩ := hmark
  cases h with
  | fields hyear hmonth hday hhour hminute hsecond =>
    simp [hhyphen, hblank, hcolon, hyear.not_mem hdigit, hmonth.not_mem hdigit,
      hday.not_mem hdigit, hhour.not_mem hdigit, hminute.not_mem hdigit, hsecond.not_mem hdigit]

/-- There are only digits and marks in the format. -/
theorem IsStamp.not_mem (h : IsStamp t cs) : c ∉ cs := by
  cases h with
  | whole h => exact h.not_mem hdigit hmark
  | fraction h _ hfield =>
    have hsecond := h.not_mem hdigit hmark
    simp only [List.mem_cons, List.not_mem_nil, or_false, not_or] at hmark
    simp [hsecond, hmark, hfield.not_mem hdigit]

end Characters

end DateTime

end SqlText
