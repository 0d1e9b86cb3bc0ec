import SqlText.Proofs.Token

/-!
Canonical tokens. The reader of tokens takes a backslash with any character behind it, while a token
that was written has backslashes only where they are needed. `IsCanonical` says so without a word
about writing: between the quotes stands a sequence of units, and a unit is a character that needs
no backslash, or a backslash with one of the two characters that need it.

* `isUnit_iff`: the units are what single characters are written as;
* `IsCanonical.exists_eq_token`: a canonical token is the token of some text;
* `quotesCanonically`: the tokens that are written are the canonical ones, each for one text, and
  the token of a text that is put together is put together from the bodies of its parts.
-/

namespace SqlText.Quoting

/-- What may stand between quotes without being cut. -/
inductive IsUnit (quote : Char) : List Char → Prop
  | plain {c : Char} (hquote : c ≠ quote) (hbackslash : c ≠ '\\') : IsUnit quote [c]
  | backslash : IsUnit quote ['\\', '\\']
  | quote : IsUnit quote ['\\', quote]

/-- A sequence of units between two quotes. -/
def IsCanonical (quote : Char) (text : List Char) : Prop :=
  ∃ units : List (List Char), (∀ unit ∈ units, IsUnit quote unit)
    ∧ text = quote :: (units.flatten ++ [quote])

/-- **The units are what single characters are written as.** -/
theorem isUnit_iff {quote : Char} {unit : List Char} :
    IsUnit quote unit ↔ ∃ c, unit = escaped quote c := by
  constructor
  · intro h
    cases h with
    | @plain c hquote hbackslash => exact ⟨c, by simp [escaped, hquote, hbackslash]⟩
    | backslash => exact ⟨'\\', by simp [escaped]⟩
    | quote => exact ⟨quote, by simp [escaped]⟩
  · rintro ⟨c, rfl⟩
    rw [escaped]
    split
    · next hc =>
      obtain rfl | rfl := hc
      · exact .quote
      · exact .backslash
    · next hc =>
      obtain ⟨hquote, hbackslash⟩ := not_or.mp hc
      exact .plain hquote hbackslash

theorem isCanonical_token (quote : Char) (src : List Char) :
    IsCanonical quote (token quote src) := by
  refine ⟨src.map (escaped quote), fun unit hunit => ?_, ?_⟩
  · obtain ⟨c, _, rfl⟩ := List.mem_map.mp hunit
    exact isUnit_iff.mpr ⟨c, rfl⟩
  · rw [token, List.flatMap_def]

/-- **A canonical token is the token of some text**, which has one character for each unit. -/
theorem IsCanonical.exists_eq_token {quote : Char} {text : List Char}
    (h : IsCanonical quote text) : ∃ src, text = token quote src := by
  obtain ⟨units, hunits, rfl⟩ := h
  suffices hbody : ∃ src : List Char, units.flatten = src.flatMap (escaped quote) by
    obtain ⟨src, hsrc⟩ := hbody
    exact ⟨src, by rw [token, hsrc]⟩
  induction units with
  | nil => exact ⟨[], rfl⟩
  | cons unit rest ih =>
    obtain ⟨c, rfl⟩ := isUnit_iff.mp (hunits unit List.mem_cons_self)
    obtain ⟨src, hsrc⟩ := ih fun other hother => hunits other (List.mem_cons_of_mem _ hother)
    exact ⟨c :: src, by rw [List.flatten_cons, hsrc, List.flatMap_cons]⟩

/-- One token reads back as one text. -/
theorem token_injective {quote : Char} (hquote : quote ≠ '\\') {src other : List Char}
    (h : token quote src = token quote other) : src = other := by
  have hread := readToken?_token hquote src []
  rw [h, readToken?_token hquote other []] at hread
  exact (congrArg Prod.fst (Option.some.inj hread)).symm

/-- Splitting by quotes and then by backslashes comes to one pass over the characters. -/
theorem text_escape_eq_flatMap (quote : Char) (src : String) :
    (escape src (String.singleton quote)).text
      = .ok (String.singleton quote ++ String.ofList (src.toList.flatMap (escaped quote))
          ++ String.singleton quote) := by
  have htoken : String.ofList (token quote src.toList)
      = String.singleton quote ++ String.ofList (src.toList.flatMap (escaped quote))
          ++ String.singleton quote := by
    apply String.toList_inj.mp
    simp [token]
  rw [text_escape, htoken]

/-- Only texts are quoted. -/
theorem exists_of_quote?_eq_ok {src : Value} {quote text : String}
    (h : src.quote? quote = .ok text) : ∃ s, (escape s quote).text = .ok text := by
  rw [Value.quote?] at h
  obtain ⟨s, hs⟩ | ⟨failure, hfailure⟩ := src.escape_cases quote
  · rw [hs] at h
    exact ⟨s, h⟩
  · have hyields := (Writer.yields_put quote).andThen (Writer.yields_throw failure)
    rw [hfailure, hyields.text_eq_error] at h
    cases h

/-- What quoting by `q` makes of texts, as a map from texts to tokens. -/
structure QuotesCanonically (q : Char) : Prop where
  /-- What is written is canonical, and everything canonical is written. -/
  image : ∀ text : String,
    (∃ src : Value, src.quote? (String.singleton q) = .ok text) ↔ IsCanonical q text.toList
  /-- A canonical token reads back as a text, and it is the token of this text. -/
  rewritten : ∀ text : String, IsCanonical q text.toList →
    ∃ src : String, readToken? q text.toList = some (src.toList, [])
      ∧ (escape src (String.singleton q)).text = .ok text
  /-- Two texts never have one token. -/
  injective : ∀ src other text : String, (escape src (String.singleton q)).text = .ok text →
    (escape other (String.singleton q)).text = .ok text → src = other
  /-- The body of the token of two texts in a row is made of the bodies of their tokens. -/
  append : ∀ s u : String, ∃ body more : String,
    (escape s (String.singleton q)).text = .ok (String.singleton q ++ body ++ String.singleton q)
      ∧ (escape u (String.singleton q)).text
        = .ok (String.singleton q ++ more ++ String.singleton q)
      ∧ (escape (s ++ u) (String.singleton q)).text
        = .ok (String.singleton q ++ (body ++ more) ++ String.singleton q)
  /-- Splitting by quotes and then by backslashes comes to one pass over the characters. -/
  onePass : ∀ src : String, (escape src (String.singleton q)).text
    = .ok (String.singleton q ++ String.ofList (src.toList.flatMap (escaped q))
        ++ String.singleton q)

/-- **Quoting maps the texts one to one onto the canonical tokens, piece by piece**, for any quote
but the backslash. -/
theorem quotesCanonically {q : Char} (hq : q ≠ '\\') : QuotesCanonically q where
  image text := by
    constructor
    · rintro ⟨src, hsrc⟩
      obtain ⟨s, hs⟩ := exists_of_quote?_eq_ok hsrc
      rw [text_escape] at hs
      cases hs
      rw [String.toList_ofList]
      exact isCanonical_token q s.toList
    · intro hcanonical
      obtain ⟨src, hsrc⟩ := hcanonical.exists_eq_token
      refine ⟨.text (String.ofList src), ?_⟩
      show (escape (String.ofList src) (String.singleton q)).text = .ok text
      rw [text_escape, String.toList_ofList, ← hsrc, String.ofList_toList]
  rewritten text hcanonical := by
    obtain ⟨src, hsrc⟩ := hcanonical.exists_eq_token
    refine ⟨String.ofList src, ?_, ?_⟩
    · have hread := readToken?_token hq src []
      rw [List.append_nil, ← hsrc] at hread
      rw [hread, String.toList_ofList]
    · rw [text_escape, String.toList_ofList, ← hsrc, String.ofList_toList]
  injective src other text htext hother := by
    rw [text_escape] at htext hother
    have hsame := String.ofList_inj.mp (Except.ok.inj (htext.trans hother.symm))
    exact String.toList_inj.mp (token_injective hq hsame)
  append s u := by
    refine ⟨_, _, text_escape_eq_flatMap q s, text_escape_eq_flatMap q u, ?_⟩
    rw [text_escape_eq_flatMap, String.toList_append, List.flatMap_append, String.ofList_append]
  onePass := text_escape_eq_flatMap q

/-- A backslash and a backtick, and the cut between them. -/
theorem quotesCanonically_cut :
    IsCanonical '\x60' "\x60\\\\\\\x60\x60".toList
      ∧ (∃ src : String, readToken? '\x60' "\x60\\\\\\\x60\x60".toList = some (src.toList, [])
        ∧ (escape src "\x60").text = .ok "\x60\\\\\\\x60\x60")
      ∧ ∃ body more : String, (escape "\\" "\x60").text = .ok ("\x60" ++ body ++ "\x60")
        ∧ (escape "\x60" "\x60").text = .ok ("\x60" ++ more ++ "\x60")
        ∧ (escape ("\\" ++ "\x60") "\x60").text = .ok ("\x60" ++ (body ++ more) ++ "\x60") := by
  have hbacktick := quotesCanonically (q := '\x60') (by decide)
  have hcanonical : IsCanonical '\x60' "\x60\\\\\\\x60\x60".toList := by
    refine ⟨[['\\', '\\'], ['\\', '\x60']], fun unit hunit => ?_, rfl⟩
    simp only [List.mem_cons, List.not_mem_nil, or_false] at hunit
    obtain rfl | rfl := hunit
    · exact .backslash
    · exact .quote
  exact ⟨hcanonical, hbacktick.rewritten _ hcanonical, hbacktick.append "\\" "\x60"⟩

end SqlText.Quoting
