import SqlText.Proofs.Literal.Grammar

/-!
Scanning a query from left to right. Outside of tokens an apostrophe or the quote of identifiers
opens a token; inside, a backslash makes the next character an ordinary one, and the quote that
opened the token closes it. What is written for plain text, tokens and literals takes the scan from
outside back to outside (`Scans`), so texts that are put together scan one after the other.

* `Scans.append`: one text after the other;
* `scans_token`: a token is one lexeme, whatever it quotes;
* `scans_chars`: a literal scans as its words, brackets and quoted texts (`Literal.lexemes`).
-/

namespace SqlText

/-- What a scan finds: a character outside of tokens, or a token with the text that it quotes. -/
inductive Lexeme
  | plain (c : Char)
  | token (quote : Char) (text : List Char)
  deriving DecidableEq

namespace Lexeme

/-- Where a scan is. Inside a token there is the quote that closes it, and its text so far. -/
inductive Place
  | outside
  | inside (quote : Char) (text : List Char)
  | escaping (quote : Char) (text : List Char)
  deriving DecidableEq

/-- What one character comes to, where identifiers are quoted by `q`. -/
def read (q : Char) : Place → Char → Place × List Lexeme
  | .outside, c => if c = '\'' ∨ c = q then (.inside c [], []) else (.outside, [.plain c])
  | .inside quote text, c =>
    if c = '\\' then (.escaping quote text, [])
    else if c = quote then (.outside, [.token quote text])
    else (.inside quote (text ++ [c]), [])
  | .escaping quote text, c => (.inside quote (text ++ [c]), [])

/-- The place where a scan ends, and everything that it found. -/
def scan (q : Char) (place : Place) : List Char → Place × List Lexeme
  | [] => (place, [])
  | c :: rest =>
    let (next, found) := read q place c
    let (last, more) := scan q next rest
    (last, found ++ more)

theorem scan_append (q : Char) (place : Place) (cs ds : List Char) :
    scan q place (cs ++ ds)
      = ((scan q (scan q place cs).1 ds).1,
          (scan q place cs).2 ++ (scan q (scan q place cs).1 ds).2) := by
  induction cs generalizing place with
  | nil => rfl
  | cons c rest ih =>
    simp only [List.cons_append, scan]
    rw [ih]
    simp only [List.append_assoc]

/-- A text that takes the scan from outside back to outside, with all that is found in it. -/
def Scans (q : Char) (cs : List Char) (found : List Lexeme) : Prop :=
  scan q .outside cs = (.outside, found)

theorem scans_nil (q : Char) : Scans q [] [] := rfl

/-- **One text after the other.** -/
theorem Scans.append {q : Char} {cs ds : List Char} {found more : List Lexeme}
    (hcs : Scans q cs found) (hds : Scans q ds more) : Scans q (cs ++ ds) (found ++ more) := by
  rw [Scans, scan_append, hcs]
  show ((scan q .outside ds).1, found ++ (scan q .outside ds).2) = _
  rw [hds]

theorem scans_plain {q : Char} {cs : List Char} (h : ∀ c ∈ cs, c ≠ '\'' ∧ c ≠ q) :
    Scans q cs (cs.map .plain) := by
  induction cs with
  | nil => exact scans_nil q
  | cons c rest ih =>
    have hrest := ih fun d hd => h d (List.mem_cons_of_mem c hd)
    obtain ⟨hapostrophe, hquote⟩ := h c List.mem_cons_self
    have hc : Scans q [c] [.plain c] := by
      simp [Scans, scan, read, hapostrophe, hquote]
    exact hc.append hrest

/-! ## Tokens -/

/-- An escaped character is added to the text of the token, and the token stays open. -/
theorem scan_escaped {q quote : Char} (c : Char) (text : List Char) :
    scan q (.inside quote text) (Quoting.escaped quote c) = (.inside quote (text ++ [c]), []) := by
  by_cases hc : c = quote ∨ c = '\\'
  · -- the backslash in front keeps the character from ending the token
    simp [Quoting.escaped, hc, scan, read]
  · have hquote : c ≠ quote := fun heq => hc (.inl heq)
    have hbackslash : c ≠ '\\' := fun heq => hc (.inr heq)
    simp [Quoting.escaped, scan, read, hquote, hbackslash]

theorem scan_escaped_all {q quote : Char} (src text : List Char) :
    scan q (.inside quote text) (src.flatMap (Quoting.escaped quote))
      = (.inside quote (text ++ src), []) := by
  induction src generalizing text with
  | nil => simp [scan]
  | cons c rest ih =>
    -- the token is as open after the first character as before it
    rw [List.flatMap_cons, scan_append, scan_escaped]
    simp only [List.nil_append]
    rw [ih, List.append_assoc]
    rfl

/-- **A token is one lexeme.** No character of the text that it quotes closes it. -/
theorem scans_token {q quote : Char} (hquote : quote = '\'' ∨ quote = q) (hne : quote ≠ '\\')
    (src : List Char) : Scans q (Quoting.token quote src) [.token quote src] := by
  have hopen : scan q .outside [quote] = (.inside quote [], []) := by
    simp [scan, read, hquote]
  have hclose : scan q (.inside quote src) [quote] = (.outside, [.token quote src]) := by
    simp [scan, read, hne]
  -- the opening quote, the text, and the closing quote, in turn
  show scan q .outside ([quote] ++ (src.flatMap (Quoting.escaped quote) ++ [quote])) = _
  rw [scan_append, hopen]
  simp only [List.nil_append]
  rw [scan_append, scan_escaped_all, List.nil_append, hclose]
  rfl

end Lexeme

/-! ## Literals -/

namespace Literal

open Lexeme

mutual

/-- What a scan finds in the text of a literal. -/
def lexemes : Literal → List Lexeme
  | word w => w.chars.map .plain
  | quoted text => [.token '\'' text]
  | array [] => [.plain '[', .plain ']']
  | array (first :: rest) => .plain '[' :: (first.lexemes ++ closingLexemes rest)

def closingLexemes : List Literal → List Lexeme
  | [] => [.plain ']']
  | item :: rest => .plain ',' :: .plain ' ' :: (item.lexemes ++ closingLexemes rest)

end

/-- A quote for identifiers that no literal contains outside of its texts. -/
structure IsForeign (q : Char) : Prop where
  backslash : q ≠ '\\'
  word : isWordChar q = false
  array : q ∉ ['[', ']', ',', ' ']

namespace IsForeign

variable {q : Char} (h : IsForeign q)
include h

/-- The characters of words are none of the quotes. -/
theorem ne_of_isWordChar {c : Char} (hc : isWordChar c = true) : c ≠ '\'' ∧ c ≠ q := by
  constructor
  · rintro rfl
    exact absurd hc (by decide)
  · rintro rfl
    rw [h.word] at hc
    cases hc

theorem scans_word (w : Word) : Scans q w.chars (w.chars.map .plain) :=
  scans_plain fun c hc => h.ne_of_isWordChar (w.plain c hc)

/-- The characters of an array are none of the quotes. -/
theorem scans_array (cs : List Char) (hcs : ∀ c ∈ cs, c ∈ ['[', ']', ',', ' ']) :
    Scans q cs (cs.map .plain) := by
  refine scans_plain fun c hc => ⟨?_, ?_⟩
  · rintro rfl
    exact absurd (hcs _ hc) (by decide)
  · rintro rfl
    exact h.array (hcs _ hc)

mutual

/-- **A literal takes the scan back to outside.** -/
theorem scans_chars : ∀ l : Literal, Scans q l.chars l.lexemes
  | .word w => h.scans_word w
  | .quoted text => scans_token (.inl rfl) (by decide) text
  | .array [] => h.scans_array ['[', ']'] (by simp)
  | .array (first :: rest) => by
    -- the scan is outside before every item, so the items scan on their own
    have hbracket := h.scans_array ['['] (by simp)
    have hfirst := scans_chars first
    have hrest := scans_closing rest
    exact hbracket.append (hfirst.append hrest)

theorem scans_closing : ∀ items : List Literal, Scans q (closing items) (closingLexemes items)
  | [] => h.scans_array [']'] (by simp)
  | item :: rest => by
    have hcomma := h.scans_array [',', ' '] (by simp)
    have hitem := scans_chars item
    have hrest := scans_closing rest
    exact hcomma.append (hitem.append hrest)

end

end IsForeign

end Literal

end SqlText
