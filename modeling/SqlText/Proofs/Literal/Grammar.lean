import SqlText.Proofs.Literal.Word
import SqlText.Proofs.Token

/-!
The grammar of literals: a literal is a word, a token between apostrophes, or an array of literals
in brackets with a comma and a blank between them.

* `Literal` is a literal as a tree, and `Literal.chars` its text;
* `Literal.read?` reads one literal off the front of a text, by recursive descent;
* `read?_chars`: what was written reads back as the same tree, up to where it ends and no further.
-/

namespace SqlText

/-- A literal as a tree. -/
inductive Literal
  | word (w : Literal.Word)
  | quoted (text : List Char)
  | array (items : List Literal)

namespace Literal

/-! ## Writing -/

mutual

/-- The text of a literal. -/
def chars : Literal → List Char
  | word w => w.chars
  | quoted text => Quoting.token '\'' text
  | array [] => ['[', ']']
  | array (first :: rest) => '[' :: (first.chars ++ closing rest)

/-- The further items of an array, each with a comma and a blank in front, and the bracket. -/
def closing : List Literal → List Char
  | [] => [']']
  | item :: rest => ',' :: ' ' :: (item.chars ++ closing rest)

end

/-! ## Reading

Every reader says by its type that it leaves less than it was given; the recursion ends for that
reason. -/

/-- What was read off the front of a text, and what is left of it. -/
structure Reading (α : Type) (cs : List Char) where
  taken : α
  rest : List Char
  shorter : rest.length < cs.length

/-- The characters of a word from its first one on, as far as they go. -/
def readWord (c : Char) (rest : List Char) (hc : isWordChar c = true) :
    Reading Literal (c :: rest) where
  taken := word
    { chars := c :: rest.takeWhile isWordChar
      nonempty := List.cons_ne_nil c _
      plain := fun d hd => by
        rcases List.mem_cons.mp hd with rfl | hd
        · exact hc
        · exact List.all_eq_true.mp List.all_takeWhile d hd }
  rest := rest.dropWhile isWordChar
  shorter := Nat.lt_succ_of_le (List.dropWhile_sublist isWordChar).length_le

mutual

/-- Reads one literal. -/
def readLiteral? (cs : List Char) : Option (Reading Literal cs) :=
  match cs with
  | [] => none
  | '\'' :: body =>
    match hbody : Quoting.readBody? '\'' body with
    | some (text, rest) =>
      some ⟨quoted text, rest, Nat.lt_succ_of_lt (Quoting.length_lt_of_readBody? hbody)⟩
    | none => none
  | '[' :: ']' :: rest => some ⟨array [], rest, by simp only [List.length_cons]; omega⟩
  | '[' :: inner => do
    let first ← readLiteral? inner
    let more ← readClosing? first.rest
    return ⟨array (first.taken :: more.taken), more.rest, by
      have hfirst := first.shorter
      have hmore := more.shorter
      simp only [List.length_cons]
      omega⟩
  | c :: rest => if hc : isWordChar c = true then some (readWord c rest hc) else none
termination_by cs.length
decreasing_by
  · simp
  · have hfirst := first.shorter
    simp only [List.length_cons]
    omega

/-- Reads the further items of an array and the bracket. -/
def readClosing? (cs : List Char) : Option (Reading (List Literal) cs) :=
  match cs with
  | ']' :: rest => some ⟨[], rest, by simp⟩
  | ',' :: ' ' :: inner => do
    let item ← readLiteral? inner
    let more ← readClosing? item.rest
    return ⟨item.taken :: more.taken, more.rest, by
      have hitem := item.shorter
      have hmore := more.shorter
      simp only [List.length_cons]
      omega⟩
  | _ => none
termination_by cs.length
decreasing_by
  · simp only [List.length_cons]
    omega
  · have hitem := item.shorter
    simp only [List.length_cons]
    omega

end

/-- The literal at the front of a text, and what follows it. -/
def read? (cs : List Char) : Option (Literal × List Char) :=
  (readLiteral? cs).map fun r => (r.taken, r.rest)

/-- The further items of an array at the front of a text, and what follows the bracket. -/
def readRest? (cs : List Char) : Option (List Literal × List Char) :=
  (readClosing? cs).map fun r => (r.taken, r.rest)

/-! ### The rules of the grammar, as equations of the readers -/

theorem read?_apostrophe (body : List Char) :
    read? ('\'' :: body)
      = (Quoting.readBody? '\'' body).map fun (text, rest) => (quoted text, rest) := by
  rw [read?, readLiteral?]
  split <;> rename_i hbody <;> simp [hbody]

theorem read?_empty (rest : List Char) : read? ('[' :: ']' :: rest) = some (array [], rest) := by
  rw [read?, readLiteral?]
  rfl

theorem read?_bracket {inner : List Char} (hinner : ∀ rest, inner ≠ ']' :: rest) :
    read? ('[' :: inner)
      = (do
          let (first, behind) ← read? inner
          let (more, rest) ← readRest? behind
          return (array (first :: more), rest)) := by
  rw [read?, readLiteral?]
  · unfold read?
    cases readLiteral? inner with
    | none => rfl
    | some first =>
      show _ = (do
        let (more, rest) ← readRest? first.rest
        return (array (first.taken :: more), rest))
      unfold readRest?
      cases hmore : readClosing? first.rest with
      | none => simp [hmore]
      | some more => simp [hmore]
  · exact hinner

theorem readRest?_bracket (rest : List Char) : readRest? (']' :: rest) = some ([], rest) := by
  rw [readRest?, readClosing?]
  rfl

theorem readRest?_comma (inner : List Char) :
    readRest? (',' :: ' ' :: inner)
      = (do
          let (item, behind) ← read? inner
          let (more, rest) ← readRest? behind
          return (item :: more, rest)) := by
  rw [readRest?, readClosing?, read?]
  cases readLiteral? inner with
  | none => rfl
  | some item =>
    show _ = (do
      let (more, rest) ← readRest? item.rest
      return (item.taken :: more, rest))
    unfold readRest?
    cases hmore : readClosing? item.rest with
    | none => simp [hmore]
    | some more => simp [hmore]

theorem read?_word {c : Char} (rest : List Char) (hc : isWordChar c = true) :
    read? (c :: rest) = some ((readWord c rest hc).taken, rest.dropWhile isWordChar) := by
  rw [read?, readLiteral?]
  · simp [hc, readWord]
  -- the other rules begin with a character that is not of a word
  all_goals
    intros
    subst c
    exact absurd hc (by decide)

/-! ## What was written reads back -/

/-- What ends a word: nothing, or a character that is not of a word. -/
def Stops (rest : List Char) : Prop := ∀ c ∈ rest.head?, isWordChar c = false

theorem stops_cons {c : Char} {rest : List Char} (hc : isWordChar c = false) :
    Stops (c :: rest) := by
  intro d hd
  cases hd
  exact hc

theorem stops_closing (items : List Literal) (rest : List Char) :
    Stops (closing items ++ rest) := by
  cases items with
  | nil => exact stops_cons (by decide)
  | cons item items => exact stops_cons (by decide)

theorem takeWhile_append_of_stops {word rest : List Char} (hword : ∀ c ∈ word, isWordChar c = true)
    (hrest : Stops rest) : (word ++ rest).takeWhile isWordChar = word := by
  rw [List.takeWhile_append_of_pos hword]
  cases rest with
  | nil => simp
  | cons c rest => simp [hrest c rfl]

theorem dropWhile_append_of_stops {word rest : List Char} (hword : ∀ c ∈ word, isWordChar c = true)
    (hrest : Stops rest) : (word ++ rest).dropWhile isWordChar = rest := by
  rw [List.dropWhile_append_of_pos hword]
  cases rest with
  | nil => simp
  | cons c rest => simp [hrest c rfl]

theorem read?_word_append (w : Word) {rest : List Char} (hrest : Stops rest) :
    read? (w.chars ++ rest) = some (word w, rest) := by
  obtain ⟨chars, hne, hplain⟩ := w
  cases chars with
  | nil => exact absurd rfl hne
  | cons c cs =>
    have hcs : ∀ d ∈ cs, isWordChar d = true := fun d hd => hplain d (List.mem_cons_of_mem c hd)
    have htake := takeWhile_append_of_stops hcs hrest
    have hdrop := dropWhile_append_of_stops hcs hrest
    show read? (c :: (cs ++ rest)) = _
    rw [read?_word (cs ++ rest) (hplain c List.mem_cons_self), hdrop]
    simp only [readWord, htake]

/-- No literal starts with the bracket that ends an array. -/
theorem chars_append_ne_bracket (l : Literal) (rest after : List Char) :
    l.chars ++ rest ≠ ']' :: after := by
  intro heq
  cases l with
  | word w =>
    -- the bracket would be a character of the word
    obtain ⟨chars, hne, hplain⟩ := w
    cases chars with
    | nil => exact absurd rfl hne
    | cons c cs =>
      have hc : c = ']' := (List.cons.inj heq).1
      have hplainc := hplain c List.mem_cons_self
      rw [hc] at hplainc
      exact absurd hplainc (by decide)
  | quoted text => exact absurd (List.cons.inj heq).1 (by decide)
  | array items =>
    cases items with
    | nil => exact absurd (List.cons.inj heq).1 (by decide)
    | cons first items => exact absurd (List.cons.inj heq).1 (by decide)

mutual

/-- **A literal reads back as its tree**, in front of anything that ends a word. -/
theorem read?_chars : ∀ (l : Literal) {rest : List Char}, Stops rest →
    read? (l.chars ++ rest) = some (l, rest)
  | word w, rest, hrest => read?_word_append w hrest
  | quoted text, rest, _ => by
    have hquote : '\'' ≠ '\\' := by decide
    have hbody := Quoting.readBody?_append_quote hquote text rest
    rw [chars, Quoting.token, List.cons_append, read?_apostrophe, List.append_assoc,
      List.singleton_append, hbody]
    rfl
  | array [], rest, _ => read?_empty rest
  | array (first :: items), rest, _ => by
    -- behind an item comes a comma or the bracket, and either one ends a word
    have hfirst := read?_chars first (stops_closing items rest)
    have hitems := readRest?_closing items rest
    rw [chars, List.cons_append, List.append_assoc,
      read?_bracket (chars_append_ne_bracket first _), hfirst]
    show (do
      let (more, rest) ← readRest? (closing items ++ rest)
      return (array (first :: more), rest)) = _
    rw [hitems]
    rfl

theorem readRest?_closing : ∀ (items : List Literal) (rest : List Char),
    readRest? (closing items ++ rest) = some (items, rest)
  | [], rest => readRest?_bracket rest
  | item :: items, rest => by
    have hitem := read?_chars item (stops_closing items rest)
    have hitems := readRest?_closing items rest
    rw [closing, List.cons_append, List.cons_append, List.append_assoc, readRest?_comma, hitem]
    show (do
      let (more, rest) ← readRest? (closing items ++ rest)
      return (item :: more, rest)) = _
    rw [hitems]
    rfl

end

/-- **Different trees have different texts.** -/
theorem chars_injective {l m : Literal} (h : l.chars = m.chars) : l = m := by
  have hstops : Stops [] := by simp [Stops]
  have hl := read?_chars l hstops
  rw [h, read?_chars m hstops] at hl
  cases hl
  rfl

end Literal

end SqlText
