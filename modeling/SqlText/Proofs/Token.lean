import SqlText.Proofs.Writing
import SqlText.Value.Token

/-!
Tokens in one pass. A token is written stretch by stretch, first between the quotes and then between
the backslashes of a text. `Quoting.token` is the same text character by character, and
`Quoting.readToken?` takes a token off the front of a text again.

* `flatten_tokenPieces`: both ways of writing give the same characters;
* `yields_escape`: what is handed over for a token is the token;
* `yields_escape_of_ne`, `text_escape_empty`: every quote makes a token but the empty one;
* `readToken?_token`: a token reads back as its text, whatever follows;
* `escape_cases`: of the values, only the texts have tokens.
-/

namespace SqlText

namespace Quoting

/-- A character of a text inside a token. -/
def escaped (quote c : Char) : List Char :=
  if c = quote ∨ c = '\\' then ['\\', c] else [c]

/-- A text between quotes. -/
def token (quote : Char) (src : List Char) : List Char :=
  quote :: (src.flatMap (escaped quote) ++ [quote])

/-- A text up to the closing quote, and what follows the quote. A character after a backslash stands
for itself. -/
def readBody? (quote : Char) : List Char → Option (List Char × List Char)
  | [] => none
  | '\\' :: c :: rest => (readBody? quote rest).map fun (body, after) => (c :: body, after)
  | c :: rest =>
    if c = quote then some ([], rest)
    else (readBody? quote rest).map fun (body, after) => (c :: body, after)

/-- The text of a token at the front, and what follows the token. -/
def readToken? (quote : Char) : List Char → Option (List Char × List Char)
  | [] => none
  | c :: rest => if c = quote then readBody? quote rest else none

/-- What follows a token is shorter than the token with it. -/
theorem length_lt_of_readBody? {quote : Char} {cs body rest : List Char}
    (h : readBody? quote cs = some (body, rest)) : rest.length < cs.length := by
  induction cs using readBody?.induct quote generalizing body rest with
  | case1 => simp [readBody?] at h
  | case2 c tail ih =>
    -- a backslash, and the character that it goes with
    rw [readBody?, Option.map_eq_some_iff] at h
    obtain ⟨⟨inner, after⟩, hinner, heq⟩ := h
    cases heq
    have hlt := ih hinner
    simp only [List.length_cons]
    omega
  | case3 tail hne =>
    -- the closing quote
    rw [readBody?.eq_3 _ _ _ hne, if_pos rfl] at h
    cases h
    simp
  | case4 c tail hne hc ih =>
    rw [readBody?.eq_3 _ _ _ hne, if_neg hc, Option.map_eq_some_iff] at h
    obtain ⟨⟨inner, after⟩, hinner, heq⟩ := h
    cases heq
    have hlt := ih hinner
    simp only [List.length_cons]
    omega

/-! ## Stretches and characters -/

theorem exists_stretches (mark : List Char) (skip : Nat) (cs : List Char) :
    ∃ s ss, stretches mark skip cs = s :: ss := by
  induction cs generalizing skip with
  | nil => exact ⟨[], [], rfl⟩
  | cons c rest ih =>
    cases skip with
    | succ k => exact ih k
    | zero =>
      rw [stretches]
      split
      · exact ⟨[], _, rfl⟩
      · obtain ⟨s, ss, hrest⟩ := ih 0
        rw [hrest]
        exact ⟨c :: s, ss, rfl⟩

/-- Where every stretch is replaced character by character, joining the results by `sep` replaces
every mark by `sep`. -/
theorem intercalate_stretches {α : Type} (mark : Char) (sep : List α) (replace : Char → List α)
    (cs : List Char) :
    sep.intercalate ((stretches [mark] 0 cs).map (·.flatMap replace))
      = cs.flatMap fun c => if c = mark then sep else replace c := by
  induction cs with
  | nil => simp [stretches]
  | cons c rest ih =>
    obtain ⟨s, ss, hrest⟩ := exists_stretches [mark] 0 rest
    rw [hrest] at ih
    rw [List.flatMap_cons, ← ih]
    by_cases hc : c = mark
    · -- a mark opens a new stretch
      have hsplit : stretches [mark] 0 (c :: rest) = [] :: s :: ss := by
        simp [stretches, hc, ← hrest]
      rw [hsplit, if_pos hc]
      simp
    · -- any other character goes to the front of the first stretch
      have hsplit : stretches [mark] 0 (c :: rest) = (c :: s) :: ss := by
        simp [stretches, Ne.symm hc, hrest]
      rw [hsplit, if_neg hc]
      cases ss with
      | nil => simp
      | cons t ts => simp

theorem flatten_plainPieces (cs : List Char) :
    (plainPieces cs).flatten = cs.flatMap fun c => if c = '\\' then ['\\', '\\'] else [c] := by
  have h := intercalate_stretches '\\' ['\\', '\\'] (fun c => [c]) cs
  simpa [List.intercalate, plainPieces] using h

/-- Joining lists of pieces and then their characters is joining the texts. -/
theorem flatten_intercalate {α : Type} (sep : List (List α)) (xs : List (List (List α))) :
    (sep.intercalate xs).flatten = sep.flatten.intercalate (xs.map List.flatten) := by
  induction xs with
  | nil => simp
  | cons x rest ih =>
    cases rest with
    | nil => simp
    | cons y zs => simpa using ih

/-- **The pieces of a token make up the token.** -/
theorem flatten_tokenPieces (quote : Char) (src : List Char) :
    (tokenPieces [quote] src).flatten = token quote src := by
  have hplain : (stretches [quote] 0 src).map (fun s => (plainPieces s).flatten)
      = (stretches [quote] 0 src).map
          (·.flatMap fun c => if c = '\\' then ['\\', '\\'] else [c]) :=
    List.map_congr_left fun s _ => flatten_plainPieces s
  -- where the quote is a backslash, both rules write it twice
  have hescaped : (fun c => if c = quote then ['\\', quote]
        else if c = '\\' then ['\\', '\\'] else [c]) = escaped quote := by
    funext c
    by_cases hq : c = quote
    · simp [escaped, hq]
    · by_cases hb : c = '\\'
      · subst hb
        simp [escaped, hq]
      · simp [escaped, hq, hb]
  have hbody : (bodyPieces [quote] src).flatten = src.flatMap (escaped quote) := by
    rw [bodyPieces, flatten_intercalate, List.map_map]
    show ['\\', quote].intercalate
      ((stretches [quote] 0 src).map fun s => (plainPieces s).flatten) = _
    rw [hplain, intercalate_stretches, hescaped]
  simp [tokenPieces, token, hbody]

/-- **For a quote of one character, the token is what is handed over.** -/
theorem yields_escape (src : String) (quote : Char) :
    ∃ pieces, (escape src (String.singleton quote)).Yields pieces (.ok ())
      ∧ (String.join pieces).toList = token quote src.toList := by
  refine ⟨(tokenPieces [quote] src.toList).map String.ofList, ?_, ?_⟩
  · have hquote : (String.singleton quote).toList = [quote] := String.toList_singleton quote
    have hne : (String.singleton quote).isEmpty = false := by
      simp [String.isEmpty_eq_false_iff, ← String.toList_inj, hquote]
    simp only [escape, hne, hquote]
    exact Writer.yields_putAll _
  · rw [String.toList_join, List.flatMap_map, ← flatten_tokenPieces]
    simp [List.flatMap_def]

theorem text_escape (src : String) (quote : Char) :
    (escape src (String.singleton quote)).text = .ok (String.ofList (token quote src.toList)) := by
  obtain ⟨pieces, hyields, hjoin⟩ := yields_escape src quote
  rw [hyields.text_eq_ok, ← hjoin, String.ofList_toList]

/-- A text without quotes and backslashes stands in its token as it is. -/
theorem token_of_not_mem {quote : Char} {cs : List Char} (hquote : quote ∉ cs)
    (hbackslash : '\\' ∉ cs) : token quote cs = quote :: (cs ++ [quote]) := by
  have hplain : cs.map (escaped quote) = cs.map ([·]) := by
    refine List.map_congr_left fun c hc => ?_
    rw [escaped, if_neg]
    rintro (rfl | rfl)
    · exact hquote hc
    · exact hbackslash hc
  rw [token, List.flatMap_def, hplain, ← List.flatMap_def, List.flatMap_singleton']

/-- Any quote but the empty one makes a token. -/
theorem yields_escape_of_ne {quote : String} (hquote : quote ≠ "") (src : String) :
    (escape src quote).Yields ((tokenPieces quote.toList src.toList).map String.ofList)
      (.ok ()) := by
  have hne : quote.isEmpty = false := String.isEmpty_eq_false_iff.mpr hquote
  simp only [escape, hne]
  exact Writer.yields_putAll _

/-- The empty quote is found out after it was written. -/
theorem text_escape_empty (src : String) : (escape src "").text = .error .emptyQuote :=
  ((Writer.yields_put "").andThen (Writer.yields_throw .emptyQuote)).text_eq_error

/-! ## Reading back -/

theorem readBody?_escaped (quote c : Char) (rest : List Char) :
    readBody? quote (escaped quote c ++ rest)
      = (readBody? quote rest).map fun (body, after) => (c :: body, after) := by
  by_cases hc : c = quote ∨ c = '\\'
  · simp [escaped, hc, readBody?]
  · have hq : c ≠ quote := fun h => hc (.inl h)
    have hb : c ≠ '\\' := fun h => hc (.inr h)
    rw [escaped, if_neg hc, List.singleton_append, readBody?.eq_3 _ _ _ (by grind)]
    simp [hq]

theorem readBody?_append_quote {quote : Char} (hquote : quote ≠ '\\') (src rest : List Char) :
    readBody? quote (src.flatMap (escaped quote) ++ quote :: rest) = some (src, rest) := by
  induction src with
  | nil =>
    -- the quote closes the token unless it is a backslash
    rw [List.flatMap_nil, List.nil_append, readBody?.eq_3 _ _ _ (by grind)]
    simp
  | cons c cs ih =>
    rw [List.flatMap_cons, List.append_assoc, readBody?_escaped, ih]
    rfl

/-- **A token reads back as its text**, and nothing behind it is touched. -/
theorem readToken?_token {quote : Char} (hquote : quote ≠ '\\') (src rest : List Char) :
    readToken? quote (token quote src ++ rest) = some (src, rest) := by
  have hbody := readBody?_append_quote hquote src rest
  simpa [token, readToken?] using hbody

end Quoting

/-! ## Values -/

namespace Value

/-- A text value is written as its text is, whatever types it is derived from. -/
theorem escape_of_text {src : Value} {s : String} (h : src.core = .text s) (quote : String) :
    src.escape quote = Quoting.escape s quote := by
  rw [escape, h]

/-- **Only texts have tokens.** With anything else, the opening quote is all that is written. -/
theorem escape_cases (src : Value) (quote : String) :
    (∃ s, src.escape quote = Quoting.escape s quote)
      ∨ ∃ failure, src.escape quote = (do Writer.put quote; throw failure) := by
  rw [escape]
  split
  · exact .inl ⟨_, rfl⟩
  · exact .inr ⟨_, rfl⟩
  · exact .inr ⟨_, rfl⟩

end Value

end SqlText
