import SqlText.Proofs.Desk.Chunk
import SqlText.Proofs.Desk.Run

/-!
Quoted text cannot be broken out of, and nothing of it is lost. A text is a token of `src`
(`Quoting.IsTokenOf`) if reading takes exactly this text off the front of whatever it stands in
front of, and finds `src` in it. Everything that quotes writes such a text: the writer itself, the
quoted values, the names in a dialect's quote, and the identifiers pushed to a builder
(`Quoting.QuotesLosslessly`).

* `IsTokenOf.eq_of_append_eq`: two tokens are told apart where they end, if not before;
* `Value.exists_quote?`: a text value is quoted by a token;
* `quotesLosslessly`: all of this, for every quote but the backslash.
-/

namespace SqlText

namespace Quoting

/-- Reading takes `text` off the front of any text, finds `src` in it, and leaves the rest. -/
def IsTokenOf (quote : Char) (src text : String) : Prop :=
  ∀ rest, readToken? quote (text.toList ++ rest) = some (src.toList, rest)

theorem isTokenOf_of_toList_eq {quote : Char} (hquote : quote ≠ '\\') {src text : String}
    (h : text.toList = token quote src.toList) : IsTokenOf quote src text := by
  intro rest
  rw [h]
  exact readToken?_token hquote src.toList rest

/-- **Two tokens are told apart where they end, if not before.** If one text goes on with `rest` as
the other goes on with `more`, they are one token of one source, and the same comes after it. -/
theorem IsTokenOf.eq_of_append_eq {quote : Char} {src other text longer : String}
    (h : IsTokenOf quote src text) (hother : IsTokenOf quote other longer) {rest more : List Char}
    (heq : text.toList ++ rest = longer.toList ++ more) :
    src = other ∧ text = longer ∧ rest = more := by
  -- both are read off the same characters
  have hfirst := h rest
  rw [heq, hother more] at hfirst
  have hpair := Option.some.inj hfirst
  have hsrc : src.toList = other.toList := (congrArg Prod.fst hpair).symm
  have hrest : rest = more := (congrArg Prod.snd hpair).symm
  rw [hrest] at heq
  have htext : text.toList = longer.toList := List.append_cancel_right heq
  exact ⟨String.toList_inj.mp hsrc, String.toList_inj.mp htext, hrest⟩

end Quoting

open Quoting

/-! ## Values, names and identifiers -/

theorem Value.exists_yields_escape {quote : Char} (hquote : quote ≠ '\\') {src : Value} {s : String}
    (h : src.core = .text s) :
    ∃ pieces, (src.escape (String.singleton quote)).Yields pieces (.ok ())
      ∧ IsTokenOf quote s (String.join pieces) := by
  obtain ⟨pieces, hyields, hjoin⟩ := yields_escape s quote
  refine ⟨pieces, ?_, isTokenOf_of_toList_eq hquote hjoin⟩
  rw [escape_of_text h]
  exact hyields

/-- **A text value is quoted by a token.** -/
theorem Value.exists_quote? {quote : Char} (hquote : quote ≠ '\\') {src : Value} {s : String}
    (h : src.core = .text s) :
    ∃ text, src.quote? (String.singleton quote) = .ok text ∧ IsTokenOf quote s text := by
  obtain ⟨pieces, hyields, htoken⟩ := exists_yields_escape hquote h
  exact ⟨String.join pieces, hyields.text_eq_ok, htoken⟩

namespace Desk

theorem rawChunk?_eq_ok {v : Value} {text : String} (h : v.display? = .ok text) :
    rawChunk? v = .ok text := by
  rw [rawChunk?, h]

theorem display?_of_rawChunk?_eq_ok {v : Value} {text : String} (h : rawChunk? v = .ok text) :
    v.display? = .ok text := by
  unfold rawChunk? at h
  split at h
  · next hdisplay =>
    rw [hdisplay]
    exact h
  · cases h

/-- The chunk of an identifier is a token of the text that the value has. -/
theorem exists_identifierChunk? {quote : Char} (hquote : quote ≠ '\\') {dialect : Dialect}
    (hdialect : dialect.identifierQuote = String.singleton quote) {v : Value} {name : String}
    (hname : v.display? = .ok name) :
    ∃ text, identifierChunk? dialect v = .ok text ∧ IsTokenOf quote name text := by
  refine ⟨String.ofList (token quote name.toList), ?_,
    isTokenOf_of_toList_eq hquote String.toList_ofList⟩
  rw [identifierChunk?_of_display? hname, hdialect]
  exact text_escape name quote

/-- What stands in front of the next item of a session. -/
def front? (s : Session) : Except Failure String :=
  if s.separates then s.separator.display? else pure ""

/-- An item that has a chunk is added behind what stands in front of it. -/
theorem addition?_eq_ok {desk : Desk} {s : Session} {item : Item} {front text : String}
    (hfront : front? s = .ok front) (hchunk : desk.chunk? item = .ok text) :
    desk.addition? s item = .ok (front ++ text) := by
  rw [addition?, hchunk]
  rw [front?] at hfront
  by_cases hdue : s.separates = true
  · rw [if_pos hdue] at hfront
    show (if s.separates then _ else _ : Except Failure String) = _
    rw [if_pos hdue, rawChunk?_eq_ok hfront]
    rfl
  · rw [if_neg hdue] at hfront
    cases hfront
    show (if s.separates then _ else _ : Except Failure String) = _
    rw [if_neg hdue, String.empty_append]
    rfl

/-- What is added for an item is its chunk, behind what stands in front of it. -/
theorem exists_of_addition?_eq_ok {desk : Desk} {s : Session} {item : Item} {added : String}
    (h : desk.addition? s item = .ok added) :
    ∃ front text, front? s = .ok front ∧ desk.chunk? item = .ok text ∧ added = front ++ text := by
  obtain ⟨text, hchunk, h⟩ := exists_of_bind_eq_ok h
  unfold front?
  split at h
  · next hdue =>
    obtain ⟨front, hraw, h⟩ := exists_of_bind_eq_ok h
    cases h
    exact ⟨front, text, by rw [if_pos hdue, display?_of_rawChunk?_eq_ok hraw], hchunk, rfl⟩
  · next hdue =>
    cases h
    exact ⟨"", added, by rw [if_neg hdue]; rfl, hchunk, String.empty_append.symm⟩

end Desk

/-! ## All that quotes -/

/-- What quoting by `q` promises, wherever it is done. -/
structure Quoting.QuotesLosslessly (q : Char) : Prop where
  /-- What is handed over for a text makes up a token of it. -/
  written : ∀ (src : Value) (s : String), src.core = .text s →
    ∃ pieces, (src.escape (String.singleton q)).Yields pieces (.ok ())
      ∧ IsTokenOf q s (String.join pieces)
  /-- A text is quoted as a literal where `q` is the quote of literals. -/
  literal : String.singleton q = literalQuote → ∀ (src : Value) (s : String), src.core = .text s →
    ∃ text, src.quoteString? = .ok text ∧ IsTokenOf q s text
  /-- A text is quoted as an identifier where `q` is the quote of the dialect asked for, or the one
  that is used where none is asked for. -/
  identifier : ∀ (ds : Dialects) (choice : DialectChoice) (chosen : Option Dialect),
    choice.resolve? ds = .ok chosen →
    (chosen.map (·.identifierQuote)).getD identifierQuote = String.singleton q →
    ∀ (src : Value) (s : String), src.core = .text s →
      ∃ text, ds.quoteIdentifier? choice src = .ok text ∧ IsTokenOf q s text
  /-- A free builder takes any value that has a text as an identifier. -/
  pushed : ∀ (desk : Desk) (query : String), desk.builder.query = some query →
    desk.holder? = none → desk.builder.dialect.identifierQuote = String.singleton q →
    ∀ (v : Value) (name : String), v.display? = .ok name →
      ∃ text, IsTokenOf q name text
        ∧ (desk.step (.builder (.push (.identifier v)))).1 = .ok .builder
        ∧ (desk.step (.builder (.push (.identifier v)))).2.builder.query = some (query ++ text)
  /-- So does a session that is not finished, behind its separator if that is due. -/
  pushedItem : ∀ (desk : Desk) (query : String), desk.builder.query = some query →
    desk.builder.dialect.identifierQuote = String.singleton q →
    ∀ (id : Nat) (s : Session) (front : String), desk.session? id = some s →
      s.isFinished = false → Desk.front? s = .ok front →
      ∀ (v : Value) (name : String), v.display? = .ok name →
        ∃ text, IsTokenOf q name text
          ∧ (desk.step (.session id (.push (.identifier v)))).1 = .ok (.session id)
          ∧ (desk.step (.session id (.push (.identifier v)))).2.builder.query
            = some (query ++ (front ++ text))
  /-- Texts that differ have different tokens, and no token is the beginning of another one. -/
  separate : ∀ src other text longer : String,
    (Quoting.escape src (String.singleton q)).text = .ok text →
    (Quoting.escape other (String.singleton q)).text = .ok longer →
    text.toList <+: longer.toList → src = other ∧ text = longer

/-- **Quoting cannot be broken out of, and loses nothing**, for any quote but the backslash. -/
theorem Quoting.quotesLosslessly {q : Char} (hq : q ≠ '\\') : QuotesLosslessly q where
  written _ _ hsrc := Value.exists_yields_escape hq hsrc
  literal hliteral src _ hsrc := by
    rw [Value.quoteString?, ← hliteral]
    exact Value.exists_quote? hq hsrc
  identifier ds choice chosen hchosen hquote src s hsrc := by
    obtain ⟨text, htext, htoken⟩ := Value.exists_quote? hq hsrc
    refine ⟨text, ?_, htoken⟩
    rw [Dialects.quoteIdentifier?, hchosen]
    show src.quote? ((chosen.map (·.identifierQuote)).getD identifierQuote) = _
    rw [hquote]
    exact htext
  pushed desk query hquery hfree hdialect v name hname := by
    obtain ⟨text, hchunk, htoken⟩ := Desk.exists_identifierChunk? hq hdialect hname
    have hstep := (Desk.Turn.pushed (.identifier v) hquery hfree hchunk).step_eq
    exact ⟨text, htoken, by rw [hstep], by rw [hstep]; rfl⟩
  pushedItem desk query hquery hdialect id s front hs hactive hfront v name hname := by
    obtain ⟨text, hchunk, htoken⟩ := Desk.exists_identifierChunk? hq hdialect hname
    have haddition : desk.addition? s (.identifier v) = .ok (front ++ text) :=
      Desk.addition?_eq_ok hfront hchunk
    have hstep := (Desk.Turn.itemPushed (.identifier v) hs hactive haddition hquery).step_eq
    exact ⟨text, htoken, by rw [hstep], by rw [hstep]; exact Desk.query_withItem ..⟩
  separate src other text longer htext hlonger hprefix := by
    have htoken : ∀ {s t : String}, (Quoting.escape s (String.singleton q)).text = .ok t →
        IsTokenOf q s t := by
      intro s t ht
      rw [text_escape] at ht
      cases ht
      exact isTokenOf_of_toList_eq hq String.toList_ofList
    obtain ⟨rest, hrest⟩ := hprefix
    have heq : text.toList ++ rest = longer.toList ++ [] := by rw [hrest, List.append_nil]
    obtain ⟨hsrc, hsame, -⟩ := (htoken htext).eq_of_append_eq (htoken hlonger) heq
    exact ⟨hsrc, hsame⟩

/-- A name that ends with a backslash and a backtick, in front of a text that begins with one. -/
theorem Quoting.quotesLosslessly_backtick :
    ∃ text, ({ entries := [] } : Dialects).quoteIdentifier? .unspecified (.text "a\\\x60")
        = .ok text
      ∧ readToken? '\x60' (text.toList ++ "\x60 FROM b".toList)
        = some ("a\\\x60".toList, "\x60 FROM b".toList) := by
  have hbacktick : ('\x60' : Char) ≠ '\\' := by decide
  obtain ⟨text, htext, htoken⟩ := (quotesLosslessly hbacktick).identifier { entries := [] }
    .unspecified none rfl rfl (.text "a\\\x60") "a\\\x60" rfl
  exact ⟨text, htext, htoken _⟩

end SqlText
