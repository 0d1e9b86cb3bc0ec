import SqlText.Literal.Write
import SqlText.Proofs.Literal.Grammar

/-!
The literals of plain values, as trees. A value is plain if it is made of the built-in types by
lists and tuples, however deep, and no type that it is derived from brings a renderer. With no
renderer registered, the built-in rules write such a value as the text of its tree (`Value.tree?`),
or fail on a datetime that has no UTC.

* `Renderers.format?_eq`: the literal of a plain value is the text of its tree;
* `Value.isSome_tree?`: it has one unless a datetime is out of range;
* `Value.kind?_eq_of_tree?`: the tree tells nulls, truth values, numbers, texts and arrays apart.
-/

namespace SqlText

namespace Literal

/-! ## Trees of values -/

def Word.null : Word := ⟨"NULL".toList, by decide, List.all_eq_true.mp (by decide)⟩

def Word.bool (b : Bool) : Word :=
  ⟨(if b then "true" else "false").toList, by cases b <;> decide,
    by cases b <;> exact List.all_eq_true.mp (by decide)⟩

def Word.number {cs : List Char} (h : IsNumber cs) : Word := ⟨cs, h.nonempty, h.plain⟩

end Literal

namespace Value

/-- Values of the built-in types that have a literal, at every depth, where `admits` says which
datetimes are meant. -/
inductive IsPlain (admits : DateTime → Prop) : Value → Prop
  | null : IsPlain admits .null
  | bool (b : Bool) : IsPlain admits (.bool b)
  | int (n : Int) : IsPlain admits (.int n)
  | float (x : Binary64) : IsPlain admits (.float x)
  | decimal (d : Decimal) : IsPlain admits (.decimal d)
  | text (s : String) : IsPlain admits (.text s)
  | date (d : Date) : IsPlain admits (.date d)
  | datetime (t : DateTime) (ht : admits t) : IsPlain admits (.datetime t)
  | list (items : List Value) (hitems : ∀ item ∈ items, IsPlain admits item) :
      IsPlain admits (.list items)
  | tuple (items : List Value) (hitems : ∀ item ∈ items, IsPlain admits item) :
      IsPlain admits (.tuple items)
  /-- The type of the value may be a derived one that brings no renderer. -/
  | derived (type : TypeName) {base : Value} (hbase : IsPlain admits base) :
      IsPlain admits (.derived type none base)

open Literal in
mutual

/-- The literal of a value as a tree; nothing where the value has no built-in literal. -/
def tree? : Value → Option Literal
  | null => some (.word .null)
  | bool b => some (.word (.bool b))
  | int n => some (.word (.number (Written.isNumber_integer n)))
  | float x => some (.word (.number x.isNumber_written))
  | decimal d => some (.word (.number d.isNumber_chars))
  | text s => some (.quoted s.toList)
  | date d => some (.quoted d.chars)
  | datetime t => t.toUtc?.map fun utc => .quoted utc.chars
  | list items | tuple items => (trees? items).map .array
  | derived _ _ base => base.tree?
  | bytes _ | time _ | duration _ | set _ | dict _ | range _ | object .. => none

def trees? : List Value → Option (List Literal)
  | [] => some []
  | item :: rest => do return (← item.tree?) :: (← trees? rest)

end

end Value

/-! ## Writing a plain value -/

namespace Renderers

theorem nearest?_empty (lineage : List TypeName) :
    ({} : Renderers).nearest? lineage = none := by
  induction lineage with
  | nil => rfl
  | cons type rest ih => exact ih

end Renderers

theorem Value.IsPlain.ownRenderer?_eq_none {admits : DateTime → Prop} {v : Value}
    (h : v.IsPlain admits) : v.ownRenderer? = none := by
  induction h with
  | derived type hbase ih => simpa [ownRenderer?] using ih
  | _ => rfl

namespace Renderers

variable {admits : DateTime → Prop} (run : Renderer → Value → Writer Unit)

theorem choose_of_isPlain {v : Value} (h : v.IsPlain admits) (otherwise : Writer Unit) :
    ({} : Renderers).choose run v otherwise = otherwise := by
  rw [choose, nearest?_empty, h.ownRenderer?_eq_none]
  rfl

/-- `w` writes the text of a tree, or fails where there is none for want of a UTC. -/
def Writes (w : Writer Unit) : Option Literal → Prop
  | some tree => ∃ pieces, w.Yields pieces (.ok ()) ∧ (String.join pieces).toList = tree.chars
  | none => ∃ pieces, w.Yields pieces (.error .dateOutOfRange)

theorem writes_put {piece : String} {tree : Literal} (h : piece.toList = tree.chars) :
    Writes (Writer.put piece) (some tree) :=
  ⟨[piece], Writer.yields_put piece, by simpa using h⟩

theorem writes_escape (src : String) :
    Writes (Quoting.escape src Quoting.literalQuote) (some (.quoted src.toList)) := by
  obtain ⟨pieces, hyields, hjoin⟩ := Quoting.yields_escape src '\''
  exact ⟨pieces, hyields, by rw [hjoin, Literal.chars]⟩

/-- The further items of an array: their text with the bracket is that of the rest of the array. -/
def WritesItems (w : Writer Unit) : Option (List Literal) → Prop
  | some trees =>
    ∃ pieces, w.Yields pieces (.ok ())
      ∧ (String.join pieces).toList ++ [']'] = Literal.closing trees
  | none => ∃ pieces, w.Yields pieces (.error .dateOutOfRange)

theorem writesItems_false (items : List Value) (hplain : ∀ item ∈ items, item.IsPlain admits)
    (hitems : ∀ item ∈ items, Writes (builtIn {} run item item) item.tree?) :
    WritesItems (writeItems {} run false items) (Value.trees? items) := by
  induction items with
  | nil => exact ⟨[], Writer.yields_pure, by simp [Literal.closing]⟩
  | cons item rest ih =>
    -- a comma and a blank, the item, and the items behind it
    have hitem := hitems item List.mem_cons_self
    have hrest := ih (fun v hv => hplain v (List.mem_cons_of_mem item hv))
      (fun v hv => hitems v (List.mem_cons_of_mem item hv))
    have hwrite : writeItems {} run false (item :: rest)
        = (do
            Writer.put ", "
            builtIn {} run item item
            writeItems {} run false rest) := by
      rw [writeItems, choose_of_isPlain run (hplain item List.mem_cons_self)]
      rfl
    rw [hwrite, Value.trees?]
    cases htree : item.tree? with
    | none =>
      -- the first item without a tree is the last one that is tried
      rw [htree] at hitem
      obtain ⟨pieces, hyields⟩ := hitem
      exact ⟨_, (Writer.yields_put ", ").andThen (hyields.halt _)⟩
    | some tree =>
      rw [htree] at hitem
      obtain ⟨pieces, hyields, hjoin⟩ := hitem
      cases htrees : Value.trees? rest with
      | none =>
        rw [htrees] at hrest
        obtain ⟨more, hmore⟩ := hrest
        exact ⟨_, (Writer.yields_put ", ").andThen (hyields.andThen hmore)⟩
      | some trees =>
        rw [htrees] at hrest
        obtain ⟨more, hmore, hclosing⟩ := hrest
        refine ⟨_, (Writer.yields_put ", ").andThen (hyields.andThen hmore), ?_⟩
        simp only [List.singleton_append, String.join_cons, String.join_append,
          String.toList_append, hjoin, List.append_assoc, hclosing]
        rfl

theorem writes_items (items : List Value) (hplain : ∀ item ∈ items, item.IsPlain admits)
    (hitems : ∀ item ∈ items, Writes (builtIn {} run item item) item.tree?) :
    Writes (do Writer.put "["; writeItems {} run true items; Writer.put "]")
      ((Value.trees? items).map .array) := by
  cases items with
  | nil =>
    exact ⟨_, (Writer.yields_put "[").andThen (Writer.yields_pure.andThen (Writer.yields_put "]")),
      by simp [Literal.chars]⟩
  | cons item rest =>
    -- the first item comes without a comma
    have hitem := hitems item List.mem_cons_self
    have hrest := writesItems_false run rest
      (fun v hv => hplain v (List.mem_cons_of_mem item hv))
      (fun v hv => hitems v (List.mem_cons_of_mem item hv))
    have hwrite : writeItems {} run true (item :: rest)
        = (do builtIn {} run item item; writeItems {} run false rest) := by
      rw [writeItems, choose_of_isPlain run (hplain item List.mem_cons_self)]
      rfl
    rw [hwrite, Value.trees?]
    cases htree : item.tree? with
    | none =>
      rw [htree] at hitem
      obtain ⟨pieces, hyields⟩ := hitem
      exact ⟨_, (Writer.yields_put "[").andThen ((hyields.halt _).halt _)⟩
    | some tree =>
      rw [htree] at hitem
      obtain ⟨pieces, hyields, hjoin⟩ := hitem
      cases htrees : Value.trees? rest with
      | none =>
        rw [htrees] at hrest
        obtain ⟨more, hmore⟩ := hrest
        exact ⟨_, (Writer.yields_put "[").andThen ((hyields.andThen hmore).halt _)⟩
      | some trees =>
        rw [htrees] at hrest
        obtain ⟨more, hmore, hclosing⟩ := hrest
        refine ⟨_, (Writer.yields_put "[").andThen
          ((hyields.andThen hmore).andThen (Writer.yields_put "]")), ?_⟩
        have hbracket : "]".toList = [']'] := rfl
        simp only [List.singleton_append, String.join_cons, String.join_append, String.join_nil,
          String.append_empty, String.toList_append, hjoin, List.append_assoc, hbracket, hclosing]
        rfl

/-- **The built-in rules write the text of the tree.** -/
theorem writes_builtIn {v : Value} (h : v.IsPlain admits) :
    ∀ whole, Writes (builtIn {} run whole v) v.tree? := by
  -- the value that messages speak of stays open, for it is another one inside of derived types
  induction h with
  | null => exact fun _ => writes_put rfl
  | bool b => exact fun _ => by cases b <;> exact writes_put rfl
  | int n => exact fun _ => writes_put (String.toList_ofList ..)
  | float x => exact fun _ => writes_put rfl
  | decimal d => exact fun _ => writes_put (String.toList_ofList ..)
  | text s => exact fun _ => writes_escape s
  | date d =>
    intro _
    have hescape := writes_escape d.written
    rwa [Date.written, String.toList_ofList] at hescape
  | datetime t ht =>
    intro _
    rw [builtIn, Value.tree?]
    cases t.toUtc? with
    | none => exact ⟨[], Writer.yields_throw _⟩
    | some utc =>
      have hescape := writes_escape utc.written
      rwa [DateTime.written, String.toList_ofList] at hescape
  | list items hplain ih | tuple items hplain ih =>
    intro _
    rw [builtIn, Value.tree?]
    exact writes_items run items hplain fun item hitem => ih item hitem item
  | derived type hbase ih => exact ih

/-- **The literal of a plain value is the text of its tree.** -/
theorem format?_eq {v : Value} (h : v.IsPlain admits) :
    ({} : Renderers).format? v
      = match v.tree? with
        | some tree => .ok (String.ofList tree.chars)
        | none => .error .dateOutOfRange := by
  have hwrite : ({} : Renderers).write v = builtIn {} (({} : Renderers).run nestingLimit) v v := by
    rw [write, writeWith, choose_of_isPlain _ h]
  have hwrites := writes_builtIn (({} : Renderers).run nestingLimit) h v
  rw [format?, hwrite]
  cases htree : v.tree? with
  | none =>
    rw [htree] at hwrites
    obtain ⟨pieces, hyields⟩ := hwrites
    exact hyields.text_eq_error
  | some tree =>
    rw [htree] at hwrites
    obtain ⟨pieces, hyields, hjoin⟩ := hwrites
    simp only [hyields.text_eq_ok, ← hjoin, String.ofList_toList]

theorem exists_tree?_of_format?_eq_ok {v : Value} (h : v.IsPlain admits) {text : String}
    (htext : ({} : Renderers).format? v = .ok text) :
    ∃ tree, v.tree? = some tree ∧ text.toList = tree.chars := by
  rw [format?_eq h] at htext
  cases htree : v.tree? with
  | none => simp [htree] at htext
  | some tree =>
    simp only [htree, Except.ok.injEq] at htext
    exact ⟨tree, rfl, by rw [← htext, String.toList_ofList]⟩

end Renderers

namespace Value

/-- A plain value has a tree if every datetime in it has a UTC. -/
theorem isSome_tree? {v : Value} (h : v.IsPlain fun t => t.toUtc?.isSome) : v.tree?.isSome := by
  induction h with
  | datetime t ht => simpa [tree?] using ht
  | list items hplain ih | tuple items hplain ih =>
    have hitems : (trees? items).isSome := by
      clear hplain
      induction items with
      | nil => rfl
      | cons item rest ihrest =>
        have hitem := ih item List.mem_cons_self
        have hrest := ihrest fun v hv => ih v (List.mem_cons_of_mem item hv)
        obtain ⟨tree, htree⟩ := Option.isSome_iff_exists.mp hitem
        obtain ⟨trees, htrees⟩ := Option.isSome_iff_exists.mp hrest
        simp [trees?, htree, htrees]
    simpa [tree?] using hitems
  | derived type hbase ih => simpa [tree?] using ih
  | _ => rfl

/-! ## Kinds of literals -/

/-- What a literal stands for, roughly. -/
inductive Kind
  | null
  | bool (b : Bool)
  | number
  | text
  | array (size : Nat)

/-- The kind of the literal of a value. Dates are written as texts. -/
def kind? (v : Value) : Option Kind :=
  match v.core with
  | null => some .null
  | bool b => some (.bool b)
  | int _ | float _ | decimal _ => some .number
  | text _ | date _ | datetime _ => some .text
  | list items | tuple items => some (.array items.length)
  | _ => none

theorem length_of_trees? {items : List Value} {trees : List Literal}
    (h : trees? items = some trees) : trees.length = items.length := by
  induction items generalizing trees with
  | nil =>
    cases h
    rfl
  | cons item rest ih =>
    simp only [trees?, Option.bind_eq_bind, Option.bind_eq_some_iff] at h
    obtain ⟨tree, _, more, hmore, heq⟩ := h
    cases heq
    rw [List.length_cons, List.length_cons, ih hmore]

end Value

/-- The kind of a literal that was written for a plain value: a word is told by its text. -/
def Literal.kind : Literal → Value.Kind
  | .word w =>
    if w.chars = "NULL".toList then .null
    else if w.chars = "true".toList then .bool true
    else if w.chars = "false".toList then .bool false
    else .number
  | .quoted _ => .text
  | .array items => .array items.length

theorem Literal.kind_word {w : Word} (h : IsNumber w.chars) : (word w).kind = .number := by
  have hkeyword := h.notKeyword
  simp only [keywords, List.mem_cons, List.not_mem_nil, or_false, not_or] at hkeyword
  obtain ⟨hnull, htrue, hfalse⟩ := hkeyword
  rw [kind, if_neg hnull, if_neg htrue, if_neg hfalse]

/-- **The tree of a plain value shows its kind.** -/
theorem Value.kind?_eq_of_tree? {admits : DateTime → Prop} {v : Value} (h : v.IsPlain admits)
    {tree : Literal} (htree : v.tree? = some tree) : v.kind? = some tree.kind := by
  induction h generalizing tree with
  | null =>
    cases htree
    rfl
  | bool b =>
    cases htree
    cases b <;> rfl
  | int n =>
    cases htree
    rw [Literal.kind_word (Written.isNumber_integer n)]
    rfl
  | float x =>
    cases htree
    rw [Literal.kind_word x.isNumber_written]
    rfl
  | decimal d =>
    cases htree
    rw [Literal.kind_word d.isNumber_chars]
    rfl
  | text s | date d =>
    cases htree
    rfl
  | datetime t ht =>
    obtain ⟨utc, _, heq⟩ := Option.map_eq_some_iff.mp htree
    cases heq
    rfl
  | list items hplain ih | tuple items hplain ih =>
    obtain ⟨trees, htrees, heq⟩ := Option.map_eq_some_iff.mp htree
    cases heq
    rw [Literal.kind, length_of_trees? htrees]
    rfl
  | derived type hbase ih => exact ih htree

/-- The word of a number is its text. -/
theorem Value.display?_of_number {admits : DateTime → Prop} {v : Value} (h : v.IsPlain admits)
    (hkind : v.kind? = some .number) {tree : Literal} (htree : v.tree? = some tree) :
    v.display? = .ok (String.ofList tree.chars) := by
  induction h with
  | int n =>
    cases htree
    rfl
  | float x =>
    cases htree
    show Except.ok x.written = .ok (String.ofList x.written.toList)
    rw [String.ofList_toList]
  | decimal d =>
    cases htree
    rfl
  | derived type hbase ih => exact ih hkind htree
  | _ => cases hkind

end SqlText
