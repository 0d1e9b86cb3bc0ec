import SqlText.Dialect
import SqlText.Proofs.Token

/-!
Tokens in a quote of any length. The stretches of a text between the occurrences of the quote do not
overlap, and what stands in their place goes by the backslashes alone: a backslash that belongs to
the text is written twice, and one with the quote behind it stands for the quote. So long as the
quote does not begin with a backslash itself, `unescape?` tells the two apart wherever it stands,
and it finds the stretches again without looking for the quote in the text.

* `intercalate_stretches_self`: the stretches with the quote between them are the text;
* `unescape?_intercalate`: stretches that were written are read back, whatever they are;
* `unescapes`: for every such quote, the body of a token reads back as the text.
-/

namespace SqlText.Quoting

/-- The text that a body stands for. Two backslashes stand for one, a backslash with all of `mark`
behind it stands for `mark`, and a backslash with anything else behind it stands for nothing. -/
def unescape? (mark : List Char) : List Char → Option (List Char)
  | [] => some []
  | '\\' :: '\\' :: rest => (unescape? mark rest).map ('\\' :: ·)
  | c :: rest =>
    if c = '\\' then
      if mark.isPrefixOf rest then
        (unescape? mark (rest.drop mark.length)).map (mark ++ ·)
      else none
    else (unescape? mark rest).map (c :: ·)
termination_by cs => cs.length
decreasing_by all_goals simp only [List.length_cons, List.length_drop]; omega

/-- Where no two backslashes are in front. -/
theorem unescape?_cons {mark : List Char} {c : Char} {rest : List Char}
    (h : ∀ tail, c = '\\' → rest ≠ '\\' :: tail) :
    unescape? mark (c :: rest)
      = if c = '\\' then
          if mark.isPrefixOf rest then
            (unescape? mark (rest.drop mark.length)).map (mark ++ ·)
          else none
        else (unescape? mark rest).map (c :: ·) :=
  unescape?.eq_3 _ _ _ h

/-! ## Stretches of any mark -/

/-- What still belongs to an occurrence of the mark is in no stretch. -/
theorem stretches_skip (mark : List Char) (skip : Nat) (cs : List Char) :
    stretches mark skip cs = stretches mark 0 (cs.drop skip) := by
  induction cs generalizing skip with
  | nil => simp [stretches]
  | cons c rest ih =>
    cases skip with
    | zero => rfl
    | succ k => rw [stretches, ih, List.drop_succ_cons]

/-- An occurrence of the mark ends an empty stretch, and the next one begins behind it. -/
theorem stretches_mark_append {mark : List Char} (hmark : mark ≠ []) (rest : List Char) :
    stretches mark 0 (mark ++ rest) = [] :: stretches mark 0 rest := by
  cases mark with
  | nil => exact absurd rfl hmark
  | cons c tail =>
    have hprefix : (c :: tail).isPrefixOf (c :: (tail ++ rest)) = true := by
      rw [List.isPrefixOf_iff_prefix]
      exact ⟨rest, rfl⟩
    rw [List.cons_append, stretches, if_pos hprefix, stretches_skip]
    simp

/-- **The stretches with the mark between them are the text.** -/
theorem intercalate_stretches_self {mark : List Char} (hmark : mark ≠ []) (cs : List Char) :
    mark.intercalate (stretches mark 0 cs) = cs := by
  induction hlength : cs.length using Nat.strongRecOn generalizing cs with
  | ind n ih =>
    subst hlength
    cases cs with
    | nil => simp [stretches]
    | cons c rest =>
      by_cases hprefix : mark <+: c :: rest
      · obtain ⟨tail, htail⟩ := hprefix
        have hshorter : tail.length < (c :: rest).length := by
          have hpos := List.length_pos_iff.mpr hmark
          rw [← htail, List.length_append]
          omega
        obtain ⟨s, ss, hstretches⟩ := exists_stretches mark 0 tail
        have hih := ih tail.length hshorter tail rfl
        rw [hstretches] at hih
        rw [← htail, stretches_mark_append hmark, hstretches, List.intercalate_cons_cons, hih,
          List.nil_append]
      · -- the character goes to the front of the first stretch
        obtain ⟨s, ss, hstretches⟩ := exists_stretches mark 0 rest
        have hih := ih rest.length (by simp) rest rfl
        have hsplit : stretches mark 0 (c :: rest) = (c :: s) :: ss := by
          rw [stretches, if_neg (by rwa [List.isPrefixOf_iff_prefix]), hstretches]
        rw [hstretches] at hih
        rw [hsplit, ← hih]
        cases ss with
        | nil => simp
        | cons t ts => simp

/-! ## Reading back -/

/-- A stretch in which backslashes are written twice. -/
def doubled (cs : List Char) : List Char :=
  cs.flatMap fun c => if c = '\\' then ['\\', '\\'] else [c]

/-- A stretch is read back character by character, whatever of the mark is in it. -/
theorem unescape?_doubled (mark s rest : List Char) :
    unescape? mark (doubled s ++ rest) = (unescape? mark rest).map (s ++ ·) := by
  induction s with
  | nil => simp [doubled]
  | cons c tail ih =>
    have hcons : doubled (c :: tail) ++ rest
        = (if c = '\\' then ['\\', '\\'] else [c]) ++ (doubled tail ++ rest) := by
      rw [doubled, List.flatMap_cons, List.append_assoc]
      rfl
    rw [hcons]
    by_cases hc : c = '\\'
    · subst hc
      simp [unescape?, ih, Function.comp_def]
    · rw [if_neg hc, List.singleton_append, unescape?_cons fun _ hback => absurd hback hc,
        if_neg hc, ih]
      simp [Function.comp_def]

/-- A backslash with the mark behind it is not taken for two backslashes. -/
theorem unescape?_mark {mark : List Char} (hmark : mark ≠ []) (hback : mark.head? ≠ some '\\')
    (rest : List Char) :
    unescape? mark ('\\' :: (mark ++ rest)) = (unescape? mark rest).map (mark ++ ·) := by
  have hprefix : mark.isPrefixOf (mark ++ rest) = true := by
    rw [List.isPrefixOf_iff_prefix]
    exact List.prefix_append mark rest
  have hne : ∀ tail, mark ++ rest ≠ '\\' :: tail := by
    intro tail heq
    cases mark with
    | nil => exact hmark rfl
    | cons c cs =>
      have hc : c = '\\' := (List.cons.inj heq).1
      exact hback (by rw [hc]; rfl)
  rw [unescape?_cons fun tail _ => hne tail, if_pos rfl, if_pos hprefix, List.drop_left]

/-- **Stretches that were written are read back**, with the mark between them. -/
theorem unescape?_intercalate {mark : List Char} (hmark : mark ≠ [])
    (hback : mark.head? ≠ some '\\') (ss : List (List Char)) :
    unescape? mark (('\\' :: mark).intercalate (ss.map doubled)) = some (mark.intercalate ss) := by
  induction ss with
  | nil => simp [unescape?]
  | cons s rest ih =>
    cases rest with
    | nil =>
      have h := unescape?_doubled mark s []
      simpa [unescape?] using h
    | cons t ts =>
      rw [List.map_cons, List.map_cons, List.intercalate_cons_cons, List.append_assoc,
        unescape?_doubled, List.cons_append, unescape?_mark hmark hback, ← List.map_cons, ih]
      simp [List.intercalate_cons_cons]

/-! ## Tokens -/

theorem flatten_bodyPieces (mark src : List Char) :
    (bodyPieces mark src).flatten
      = ('\\' :: mark).intercalate ((stretches mark 0 src).map doubled) := by
  have hplain : List.flatten ∘ plainPieces = doubled := funext flatten_plainPieces
  rw [bodyPieces, flatten_intercalate, List.map_map, hplain]
  simp

/-- A token is its body between two quotes, of whatever length the quote is. -/
theorem text_escape_eq_body {quote : String} (hne : quote ≠ "") (src : String) :
    (escape src quote).text
      = .ok (quote ++ String.ofList (bodyPieces quote.toList src.toList).flatten ++ quote) := by
  rw [(yields_escape_of_ne hne src).text_eq_ok]
  congr 1
  apply String.toList_inj.mp
  simp [String.toList_join, tokenPieces, List.flatMap_def]

/-- What quoting by `quote` promises where the quote may be of any length. -/
structure Unescapes (quote : String) : Prop where
  /-- A token is a body between quotes. Reading the body never stops at a backslash, and it gives
  the text. -/
  written : ∀ src : String, ∃ body : String,
    (escape src quote).text = .ok (quote ++ body ++ quote)
      ∧ unescape? quote.toList body.toList = some src.toList
  /-- The token is what an identifier is quoted by, where the dialect asked for has this quote. -/
  identifier : ∀ (ds : Dialects) (choice : DialectChoice) (dialect : Dialect),
    choice.resolve? ds = .ok (some dialect) → dialect.identifierQuote = quote →
    ∀ (v : Value) (src : String), v.core = .text src →
      ds.quoteIdentifier? choice v = (escape src quote).text
  /-- Two texts never have one token. -/
  injective : ∀ src other text : String, (escape src quote).text = .ok text →
    (escape other quote).text = .ok text → src = other

/-- **Quoting loses nothing, however long the quote is.** The quote may overlap with itself, and
there may be backslashes in it; only it must not begin with one. -/
theorem unescapes {quote : String} (hne : quote ≠ "") (hback : quote.toList.head? ≠ some '\\') :
    Unescapes quote := by
  have hmark : quote.toList ≠ [] := fun h => hne (String.toList_eq_nil_iff.mp h)
  have hread : ∀ src : String,
      unescape? quote.toList (bodyPieces quote.toList src.toList).flatten = some src.toList := by
    intro src
    rw [flatten_bodyPieces, unescape?_intercalate hmark hback, intercalate_stretches_self hmark]
  refine ⟨fun src => ⟨_, text_escape_eq_body hne src, ?_⟩, ?_, ?_⟩
  · rw [String.toList_ofList, hread]
  · intro ds choice dialect hchoice hquote v src hv
    rw [Dialects.quoteIdentifier?, hchoice]
    show (v.escape dialect.identifierQuote).text = _
    rw [hquote, Value.escape_of_text hv]
  · intro src other text htext hother
    -- one token has one body, and one body reads back as one text
    rw [text_escape_eq_body hne] at htext hother
    have htokens := Except.ok.inj (htext.trans hother.symm)
    simp only [String.append_left_inj, String.append_right_inj, String.ofList_inj] at htokens
    have hreads := hread src
    rw [htokens, hread] at hreads
    exact String.toList_inj.mp (Option.some.inj hreads).symm

/-- A quote with a backslash in it, which occurs twice in the text, but overlaps with itself. -/
theorem unescapes_overlapping :
    (escape "'\\'\\'" "'\\'").text = .ok ("'\\'" ++ "\\'\\'\\\\'" ++ "'\\'")
      ∧ unescape? "'\\'".toList "\\'\\'\\\\'".toList = some "'\\'\\'".toList := by
  have hquote : Unescapes "'\\'" := unescapes (by decide) (by decide)
  obtain ⟨body, htext, hread⟩ := hquote.written "'\\'\\'"
  have hbody : (escape "'\\'\\'" "'\\'").text
      = .ok ("'\\'" ++ "\\'\\'\\\\'" ++ "'\\'") := rfl
  rw [hbody, Except.ok.injEq, String.append_left_inj, String.append_right_inj] at htext
  subst htext
  exact ⟨hbody, hread⟩

end SqlText.Quoting
