import Mathlib.Data.List.Infix
import SqlText.Failure.Kind
import SqlText.Proofs.Lowercase
import SqlText.Text.Inspect

/-!
Words in texts. To look for a word in the lowercase form of a text is to look for it in the text
with the capitals of ASCII made small, as long as the word is steady: no other characters turn into
its letters. Where a text is shown inside a message, its letters stay what they are, but characters
that are given by their numbers bring new letters with them. So a word may come into being there that
the text does not have, from the last digit of a number on.

* `infix_append_cons_iff`: a word does not reach over a character that it does not have;
* `spells_iff`: steady words in lowercase texts;
* `infix_shown_iff`: words that begin with `di` in shown texts.
-/

namespace SqlText

/-- To look for a word is to find it as a stretch of the text. -/
theorem ErrorKind.mentions_iff {word cs : List Char} : mentions word cs = true ↔ word <:+: cs := by
  induction cs with
  | nil => rw [mentions, List.isEmpty_iff, List.infix_nil]
  | cons c rest ih =>
    rw [mentions, Bool.or_eq_true, List.isPrefixOf_iff_prefix, ih, List.infix_cons_iff]

namespace Text

variable {word a b rest : List Char} {c : Char}

/-! ## Stretches of a text -/

theorem prefix_append_cons_iff (hc : c ∉ word) : word <+: a ++ c :: b ↔ word <+: a := by
  induction a generalizing word with
  | nil =>
    cases word with
    | nil => simp
    | cons w ws =>
      have hne : w ≠ c := fun heq => hc (heq ▸ List.mem_cons_self)
      simp [List.cons_prefix_cons, hne]
  | cons x xs ih =>
    cases word with
    | nil => simp
    | cons w ws =>
      rw [List.cons_append, List.cons_prefix_cons, List.cons_prefix_cons,
        ih fun hmem => hc (List.mem_cons_of_mem w hmem)]

/-- **A word does not reach over a character that it does not have.** -/
theorem infix_append_cons_iff (hc : c ∉ word) :
    word <:+: a ++ c :: b ↔ word <:+: a ∨ word <:+: b := by
  induction a with
  | nil =>
    have hnone : word <+: c :: b ↔ word <+: [] := prefix_append_cons_iff hc (a := [])
    rw [List.nil_append, List.infix_cons_iff, hnone, List.prefix_nil, List.infix_nil]
  | cons x xs ih =>
    rw [List.cons_append, List.infix_cons_iff, ih, ← List.cons_append, prefix_append_cons_iff hc,
      List.infix_cons_iff, or_assoc]

/-- A word with a second letter that a run of characters has at its front only. The word lies behind
the run, or it starts with the last character of the run. -/
theorem infix_append_iff_of_not_mem_tail {first second : Char} {run : List Char}
    (h : second ∉ run.tail) :
    first :: second :: word <:+: run ++ rest
      ↔ (run.getLast? = some first ∧ second :: word <+: rest)
        ∨ first :: second :: word <:+: rest := by
  induction run with
  | nil => simp
  | cons x xs ih =>
    cases xs with
    | nil =>
      rw [List.singleton_append, List.infix_cons_iff, List.cons_prefix_cons,
        List.getLast?_singleton, Option.some.injEq, eq_comm]
    | cons y ys =>
      -- the second letter is not at the second place
      have hne : second ≠ y := fun heq => h (heq ▸ List.mem_cons_self)
      have hnone : ¬first :: second :: word <+: x :: (y :: ys ++ rest) := by
        rw [List.cons_prefix_cons, List.cons_append, List.cons_prefix_cons]
        exact fun hprefix => hne hprefix.2.1
      rw [List.cons_append, List.infix_cons_iff, or_iff_right hnone,
        ih fun hmem => h (List.mem_cons_of_mem y hmem), List.getLast?_cons_cons]

/-! ## Steady words -/

/-- The small letters of ASCII but `k`, which is the small letter of the Kelvin sign too. -/
def isSteadyLetter (c : Char) : Bool := 'a' ≤ c && c ≤ 'z' && c != 'k'

/-- A word of such letters. It does not end with an `i`, because that is how the dotted capital I
begins in lowercase. -/
def isSteady : List Char → Bool
  | [] => true
  | c :: rest => isSteadyLetter c && (c != 'i' || !rest.isEmpty) && isSteady rest

theorem isSteady_cons : isSteady (c :: rest) = true
    ↔ isSteadyLetter c = true ∧ (c = 'i' → rest ≠ []) ∧ isSteady rest = true := by
  simp only [isSteady, Bool.and_eq_true, and_assoc]
  refine and_congr_right fun _ => and_congr_left fun _ => ?_
  by_cases hi : c = 'i' <;> simp [hi]

theorem isSteadyLetter_of_mem (hword : isSteady word = true) (hc : c ∈ word) :
    isSteadyLetter c = true := by
  induction word with
  | nil => cases hc
  | cons w ws ih =>
    obtain ⟨hw, -, hws⟩ := isSteady_cons.mp hword
    rcases List.mem_cons.mp hc with rfl | hc
    · exact hw
    · exact ih hws hc

theorem isSteadyLetter_iff :
    isSteadyLetter c = true ↔ 97 ≤ c.toNat ∧ c.toNat ≤ 122 ∧ c.toNat ≠ 107 := by
  have hle : ∀ a b : Char, a ≤ b ↔ a.toNat ≤ b.toNat := fun _ _ => Iff.rfl
  have hk : c = 'k' ↔ c.toNat = 107 := by rw [← Char.toNat_inj]; rfl
  simp [isSteadyLetter, hle, hk, and_assoc]

theorem toLower_of_not_ascii (h : 128 ≤ c.toNat) : c.toLower = c := by
  unfold Char.toLower
  refine dif_neg fun hcapital => ?_
  have hle : c.toNat ≤ 90 := hcapital.2
  omega

/-- A fact about the case data: beyond ASCII, only the Kelvin sign has a small letter in ASCII. -/
theorem small_beyond_ascii :
    (caseRuns.all fun r => r.last < 128 || 128 ≤ r.small r.first
      || (r.first == r.last && r.small r.first == 107)) = true := by
  decide +kernel

theorem forall_ascii {p : Char → Prop} (h : ∀ n < 128, p (Char.ofNat n)) (hc : c.toNat < 128) :
    p c := by
  have hn := h c.toNat hc
  rwa [Char.ofNat_toNat] at hn

theorem letter_of_ascii (h : c.toNat < 128) : Lowercase.letter c = c.toLower :=
  forall_ascii (p := fun c => Lowercase.letter c = c.toLower) (by decide +kernel) h

/-- No character beyond ASCII has a steady letter as its small letter. -/
theorem not_isSteadyLetter_letter (h : 128 ≤ c.toNat) :
    isSteadyLetter (Lowercase.letter c) = false := by
  refine Bool.eq_false_iff.mpr fun hsteady => ?_
  rw [isSteadyLetter_iff] at hsteady
  unfold Lowercase.letter at hsteady
  split at hsteady
  · next r hfind =>
    have hdata := List.all_eq_true.mp small_beyond_ascii r (List.mem_of_find?_eq_some hfind)
    have hcontains := List.find?_some hfind
    simp only [CaseRun.contains, Bool.and_eq_true, decide_eq_true_eq, beq_iff_eq] at hcontains
    simp only [Bool.or_eq_true, Bool.and_eq_true, decide_eq_true_eq, beq_iff_eq] at hdata
    unfold CaseRun.small at hdata
    -- a number that stands for no character is read as the first character
    rw [Lowercase.toNat_ofNat] at hsteady
    split at hsteady <;> omega
  · omega

/-- A steady letter is the small letter of itself and of its capital only. -/
theorem letter_eq_iff {w : Char} (hw : isSteadyLetter w = true) :
    Lowercase.letter c = w ↔ c.toLower = w := by
  by_cases hascii : c.toNat < 128
  · rw [letter_of_ascii hascii]
  · have hbeyond : 128 ≤ c.toNat := Nat.le_of_not_lt hascii
    rw [toLower_of_not_ascii hbeyond]
    refine iff_of_false (fun heq => ?_) fun heq => ?_
    · rw [← heq, not_isSteadyLetter_letter hbeyond] at hw
      cases hw
    · subst heq
      rw [isSteadyLetter_iff] at hw
      omega

/-! ## Lowercase texts -/

theorem ne_of_isSteadyLetter {w : Char} (hw : isSteadyLetter w = true) {d : Char}
    (hd : isSteadyLetter d = false) : w ≠ d := by
  rintro rfl
  rw [hw] at hd
  cases hd

theorem not_isSteadyLetter_sigma (before after : List Char) :
    isSteadyLetter (Lowercase.sigma before after) = false := by
  unfold Lowercase.sigma
  split <;> decide

/-- A steady word does not begin with a character that is no steady letter. -/
theorem not_prefix_cons {w d : Char} {ws : List Char} (hw : isSteadyLetter w = true)
    (hd : isSteadyLetter d = false) : ¬w :: ws <+: d :: rest := by
  rw [List.cons_prefix_cons]
  exact fun hprefix => ne_of_isSteadyLetter hw hd hprefix.1

/-- The dotted capital I becomes an `i` with a dot, with which no steady word goes on. -/
theorem not_prefix_dotted {w : Char} {ws : List Char} (hword : isSteady (w :: ws) = true) :
    ¬w :: ws <+: 'i' :: '\u0307' :: rest := by
  obtain ⟨-, hlast, hws⟩ := isSteady_cons.mp hword
  rw [List.cons_prefix_cons]
  rintro ⟨hi, hprefix⟩
  cases ws with
  | nil => exact hlast hi rfl
  | cons x xs => exact not_prefix_cons (isSteady_cons.mp hws).1 (by decide) hprefix

theorem prefix_chars_iff {before cs : List Char} (hword : isSteady word = true) :
    word <+: Lowercase.chars before cs ↔ word <+: cs.map Char.toLower := by
  cases word with
  | nil => simp
  | cons w ws =>
    have hw := (isSteady_cons.mp hword).1
    induction before, cs using Lowercase.chars.induct generalizing w ws with
    | case1 before => rfl
    | case2 before rest ih =>
      rw [Lowercase.chars, List.map_cons]
      exact iff_of_false (not_prefix_cons hw (not_isSteadyLetter_sigma before rest))
        (not_prefix_cons hw (by decide))
    | case3 before rest ih =>
      rw [Lowercase.chars, List.map_cons]
      exact iff_of_false (not_prefix_dotted hword) (not_prefix_cons hw (by decide))
    | case4 before c rest hsigma hdotted ih =>
      rw [Lowercase.chars.eq_4 _ _ _ hsigma hdotted, List.map_cons, List.cons_prefix_cons,
        List.cons_prefix_cons, eq_comm, letter_eq_iff hw, eq_comm]
      refine and_congr_right fun _ => ?_
      cases ws with
      | nil => simp
      | cons x xs =>
        have hws := (isSteady_cons.mp hword).2.2
        exact ih x xs hws (isSteady_cons.mp hws).1

theorem infix_chars_iff {before cs : List Char} (hword : isSteady word = true) :
    word <:+: Lowercase.chars before cs ↔ word <:+: cs.map Char.toLower := by
  cases word with
  | nil => simp
  | cons w ws =>
    have hw := (isSteady_cons.mp hword).1
    induction before, cs using Lowercase.chars.induct with
    | case1 before => rfl
    | case2 before rest ih =>
      rw [Lowercase.chars, List.map_cons, List.infix_cons_iff, List.infix_cons_iff,
        or_iff_right (not_prefix_cons hw (not_isSteadyLetter_sigma before rest)),
        or_iff_right (not_prefix_cons hw (by decide))]
      exact ih
    | case3 before rest ih =>
      rw [Lowercase.chars, List.map_cons, List.infix_cons_iff, List.infix_cons_iff,
        List.infix_cons_iff, or_iff_right (not_prefix_dotted hword),
        or_iff_right (not_prefix_cons hw (by decide)),
        or_iff_right (not_prefix_cons hw (by decide))]
      exact ih
    | case4 before c rest hsigma hdotted ih =>
      have hprefix : w :: ws <+: Lowercase.chars before (c :: rest)
          ↔ w :: ws <+: (c :: rest).map Char.toLower := prefix_chars_iff hword
      rw [Lowercase.chars.eq_4 _ _ _ hsigma hdotted] at hprefix ⊢
      rw [List.infix_cons_iff, List.map_cons, List.infix_cons_iff]
      exact or_congr hprefix ih

/-- The text spells the word, in small letters and capitals of ASCII. -/
def Spells (word s : String) : Prop := word.toList <:+: s.toList.map Char.toLower

instance (word s : String) : Decidable (Spells word s) := inferInstanceAs (Decidable (_ <:+: _))

/-- **A steady word is found in lowercase where the text spells it.** -/
theorem spells_iff (word : String) (hword : isSteady word.toList = true) (s : String) :
    ErrorKind.mentions word.toList (lowercase s).toList = true ↔ Spells word s := by
  rw [ErrorKind.mentions_iff, lowercase, String.toList_ofList, infix_chars_iff hword, Spells]

/-! ## Shown texts -/

/-- The quotes around shown texts. -/
def quotes : List Char := ['\'', '"']

theorem toLower_of_mem_quotes {quote : Char} (h : quote ∈ quotes) : quote.toLower = quote := by
  simp only [quotes, List.mem_cons, List.not_mem_nil, or_false] at h
  rcases h with rfl | rfl <;> rfl

/-- There is no quote in a steady word. -/
theorem not_mem_of_isSteady {quote : Char} (h : quote ∈ quotes) (hword : isSteady word = true) :
    quote ∉ word := by
  intro hmem
  have hsteady := isSteadyLetter_of_mem hword hmem
  simp only [quotes, List.mem_cons, List.not_mem_nil, or_false] at h
  rcases h with rfl | rfl <;> cases hsteady

theorem shownQuote_mem (cs : List Char) : shownQuote cs ∈ quotes := by
  unfold shownQuote
  split <;> decide

theorem toList_inspectText (s : String) : (inspectText s).toList
    = shownQuote s.toList
      :: (s.toList.flatMap (inspectChar (shownQuote s.toList)) ++ [shownQuote s.toList]) := by
  rw [inspectText, String.toList_ofList, inspectChars, List.cons_append]

/-- The characters that have a mark of their own behind a backslash, with this mark. -/
def marks : List (Char × Char) :=
  [('\'', '\''), ('"', '"'), ('\\', '\\'), ('\n', 'n'), ('\r', 'r'), ('\t', 't')]

/-- The characters that a shown text gives by their numbers. -/
def isNumbered (c : Char) : Bool := !isPrintable c && !(['\n', '\r', '\t'].contains c)

/-- What becomes of a character in a shown text. -/
inductive Shown (c : Char) : List Char → Prop
  | plain (hprintable : isPrintable c = true) : Shown c [c]
  | marked {mark : Char} (hmark : (c, mark) ∈ marks) : Shown c ['\\', mark]
  | numbered {kind : Char} (width : Nat) (hnumbered : isNumbered c = true)
      (hkind : kind ∈ ['x', 'u', 'U']) : Shown c ('\\' :: kind :: hexDigits (width + 1) c.toNat)

theorem shown_inspectChar {quote : Char} (hquote : quote ∈ quotes) (c : Char) :
    Shown c (inspectChar quote c) := by
  unfold inspectChar
  split
  · next h =>
    refine .marked ?_
    simp only [quotes, List.mem_cons, List.not_mem_nil, or_false] at hquote
    simp only [Bool.or_eq_true, decide_eq_true_eq] at h
    rcases h with rfl | rfl
    · rcases hquote with rfl | rfl <;> decide
    · decide
  split
  · next h => exact h ▸ .marked (by decide)
  split
  · next h => exact h ▸ .marked (by decide)
  split
  · next h => exact h ▸ .marked (by decide)
  split
  · next hprintable => exact .plain hprintable
  · next hn hr ht hprintable =>
    have hnumbered : isNumbered c = true := by simp [isNumbered, hn, hr, ht, hprintable]
    -- two, four or eight digits
    split
    · exact .numbered 1 hnumbered (by decide)
    split
    · exact .numbered 3 hnumbered (by decide)
    · exact .numbered 7 hnumbered (by decide)

theorem isPrintable_of_isSteadyLetter (h : isSteadyLetter c.toLower = true) :
    isPrintable c = true := by
  by_cases hascii : c.toNat < 128
  · exact forall_ascii (p := fun c => isSteadyLetter c.toLower = true → isPrintable c = true)
      (by decide +kernel) hascii h
  · rw [toLower_of_not_ascii (Nat.le_of_not_lt hascii), isSteadyLetter_iff] at h
    omega

/-- What is printed is not given by its number. -/
theorem isNumbered_of_isPrintable (h : isPrintable c = true) : isNumbered c = false := by
  rw [isNumbered, h]
  rfl

/-- Letters are shown as they are. -/
theorem Shown.eq_of_isSteadyLetter {shown : List Char} (h : Shown c shown)
    (hc : isSteadyLetter c.toLower = true) : shown = [c] := by
  cases h with
  | plain => rfl
  | marked hmark =>
    have hnone : ∀ m ∈ marks, isSteadyLetter m.1.toLower = false := by decide
    rw [hnone _ hmark] at hc
    cases hc
  | numbered _ hnumbered =>
    rw [isNumbered_of_isPrintable (isPrintable_of_isSteadyLetter hc)] at hnumbered
    cases hnumbered

/-- All else begins with itself or with a backslash. -/
theorem Shown.not_prefix {shown : List Char} (h : Shown c shown)
    (hc : isSteadyLetter c.toLower = false) {w : Char} {ws : List Char}
    (hw : isSteadyLetter w = true) : ¬w :: ws <+: shown.map Char.toLower ++ rest := by
  cases h with
  | plain => exact not_prefix_cons hw hc
  | marked | numbered => exact not_prefix_cons hw (by decide)

theorem prefix_shown_iff {quote : Char} (hquote : quote ∈ quotes) {cs : List Char}
    (hword : isSteady word = true) :
    word <+: (cs.flatMap (inspectChar quote)).map Char.toLower ↔ word <+: cs.map Char.toLower := by
  induction cs generalizing word with
  | nil => rfl
  | cons c rest ih =>
    cases word with
    | nil => simp
    | cons w ws =>
      obtain ⟨hw, -, hws⟩ := isSteady_cons.mp hword
      have hshown := shown_inspectChar hquote c
      rw [List.flatMap_cons, List.map_append, List.map_cons]
      cases hc : isSteadyLetter c.toLower with
      | true =>
        rw [hshown.eq_of_isSteadyLetter hc, List.map_singleton, List.singleton_append,
          List.cons_prefix_cons, List.cons_prefix_cons, ih hws]
      | false => exact iff_of_false (hshown.not_prefix hc hw) (not_prefix_cons hw hc)

/-! ### Words that end a number -/

theorem getLast?_hexDigits (width n : Nat) :
    (hexDigits (width + 1) n).getLast? = some (Nat.digitChar (n % 16)) := by
  simp [hexDigits, List.getLast?_reverse, List.head?_range]

/-- The characters that end with the letter `d` where they are shown. -/
def endsWithD (c : Char) : Bool := c.toLower == 'd' || (isNumbered c && c.toNat % 16 == 13)

theorem toLower_digitChar {n : Nat} (h : n < 16) :
    (Nat.digitChar n).toLower ≠ 'i' ∧ ((Nat.digitChar n).toLower = 'd' ↔ n = 13) := by
  have hall : ∀ n < 16, (Nat.digitChar n).toLower ≠ 'i'
      ∧ ((Nat.digitChar n).toLower = 'd' ↔ n = 13) := by
    decide
  exact hall n h

theorem Shown.getLast?_iff {shown : List Char} (h : Shown c shown) :
    (shown.map Char.toLower).getLast? = some 'd' ↔ endsWithD c = true := by
  unfold endsWithD
  cases h with
  | plain hprintable =>
    rw [isNumbered_of_isPrintable hprintable]
    simp
  | @marked mark hmark =>
    have hall : ∀ m ∈ marks, m.2.toLower ≠ 'd'
        ∧ (m.1.toLower == 'd' || (isNumbered m.1 && m.1.toNat % 16 == 13)) = false := by
      decide +kernel
    obtain ⟨hmarked, hnone⟩ := hall _ hmark
    rw [hnone]
    simp [hmarked]
  | @numbered kind width hnumbered =>
    have hletter : c.toLower ≠ 'd' := by
      intro hd
      have hprintable : isPrintable c = true := isPrintable_of_isSteadyLetter (by rw [hd]; decide)
      rw [isNumbered_of_isPrintable hprintable] at hnumbered
      cases hnumbered
    have hlast : ('\\' :: kind :: hexDigits (width + 1) c.toNat).getLast?
        = some (Nat.digitChar (c.toNat % 16)) := by
      rw [List.getLast?_cons, List.getLast?_cons, getLast?_hexDigits]
      rfl
    have hdigit := (toLower_digitChar (Nat.mod_lt c.toNat (by decide : 0 < 16))).2
    rw [List.getLast?_map, hlast]
    simp [hletter, hnumbered, hdigit]

/-- There is no `i` in what follows a backslash. -/
theorem Shown.not_mem_tail {shown : List Char} (h : Shown c shown) :
    'i' ∉ (shown.map Char.toLower).tail := by
  cases h with
  | plain => simp
  | marked hmark =>
    have hall : ∀ m ∈ marks, m.2.toLower ≠ 'i' := by decide +kernel
    simpa using (hall _ hmark).symm
  | @numbered kind width _ hkind =>
    have hkind : kind.toLower ≠ 'i' := by
      simp only [List.mem_cons, List.not_mem_nil, or_false] at hkind
      rcases hkind with rfl | rfl | rfl <;> decide
    have hdigits : 'i' ∉ (hexDigits (width + 1) c.toNat).map Char.toLower := by
      simp only [hexDigits, List.map_map, List.mem_map, not_exists, not_and]
      exact fun i _ => (toLower_digitChar (Nat.mod_lt _ (by decide))).1
    rw [List.map_cons, List.tail_cons, List.map_cons, List.mem_cons, not_or]
    exact ⟨hkind.symm, hdigits⟩

/-- **A word that begins with `di`, in a shown text.** It stands there if the text has it from the
`i` on, behind a character that ends with a `d` where it is shown. -/
theorem infix_shown_iff {quote : Char} (hquote : quote ∈ quotes) {cs : List Char}
    (hword : isSteady ('i' :: word) = true) :
    'd' :: 'i' :: word <:+: (cs.flatMap (inspectChar quote)).map Char.toLower
      ↔ ∃ front c back, cs = front ++ c :: back ∧ endsWithD c = true
        ∧ 'i' :: word <+: back.map Char.toLower := by
  induction cs with
  | nil => simp
  | cons c rest ih =>
    have hshown := shown_inspectChar hquote c
    rw [List.flatMap_cons, List.map_append, infix_append_iff_of_not_mem_tail hshown.not_mem_tail,
      hshown.getLast?_iff, prefix_shown_iff hquote hword, ih]
    constructor
    · rintro (⟨hd, hprefix⟩ | ⟨front, e, back, rfl, hd, hprefix⟩)
      · exact ⟨[], c, rest, rfl, hd, hprefix⟩
      · exact ⟨c :: front, e, back, rfl, hd, hprefix⟩
    · rintro ⟨front, e, back, hsplit, hd, hprefix⟩
      cases front with
      | nil =>
        cases hsplit
        exact .inl ⟨hd, hprefix⟩
      | cons f front =>
        cases hsplit
        exact .inr ⟨front, e, back, rfl, hd, hprefix⟩

end Text

end SqlText
