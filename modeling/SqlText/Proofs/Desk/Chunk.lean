import SqlText.Desk.Step
import SqlText.Proofs.Literal.Tree

/-!
What a chunk is, once it could be made, and how it fails where it could not. `ChunkFails` has a case
for each way to fail, with what went wrong underneath. The failure of a closed buffer belongs to
appends alone: whatever goes wrong while a chunk is made, it is not this one.

* `chunkFails_of_chunk?`: there is no other way to fail;
* `chunk?_ne_closed`: a chunk never fails as a closed buffer does.
-/

namespace SqlText.Desk

/-! ## Chunks that could be made -/

/-- An identifier is a token of the dialect's quote, around the text of the value. -/
theorem exists_of_identifierChunk?_eq_ok {dialect : Dialect} {quote : Char}
    (hquote : dialect.identifierQuote = String.singleton quote) {v : Value} {text : String}
    (h : identifierChunk? dialect v = .ok text) :
    ∃ name, rawChunk? v = .ok name ∧ text.toList = Quoting.token quote name.toList := by
  unfold identifierChunk? at h
  cases hname : rawChunk? v with
  | error failure =>
    rw [hname] at h
    cases h
  | ok name =>
    rw [hname] at h
    change (Quoting.escape name dialect.identifierQuote).text = .ok text at h
    rw [hquote, Quoting.text_escape] at h
    cases h
    exact ⟨name, rfl, String.toList_ofList⟩

/-- A literal is what formatting the value returns. -/
theorem format?_of_literalChunk?_eq_ok {renderers : Renderers} {v : Value} {text : String}
    (h : literalChunk? renderers v = .ok text) : renderers.format? v = .ok text := by
  unfold literalChunk? at h
  cases hformat : renderers.format? v with
  | error failure =>
    rw [hformat] at h
    cases h
  | ok literal =>
    rw [hformat] at h
    exact h

/-- With no renderer registered, the literal of a plain value is the text of its tree. -/
theorem exists_of_literalChunk?_eq_ok {admits : DateTime → Prop} {v : Value} (hv : v.IsPlain admits)
    {text : String} (h : literalChunk? {} v = .ok text) :
    ∃ tree, v.tree? = some tree ∧ text.toList = tree.chars :=
  Renderers.exists_tree?_of_format?_eq_ok hv (format?_of_literalChunk?_eq_ok h)

/-! ## Chunks that could not -/

theorem rawChunk?_eq_error_iff (v : Value) (failure : Failure) :
    rawChunk? v = .error failure
      ↔ ∃ cause, v.display? = .error cause ∧ failure = .unformattable .sql v.type cause := by
  unfold rawChunk?
  cases v.display? with
  | ok text => simp
  | error cause => simp [eq_comm]

/-- How an item fails to have a chunk. What the code of a value reports is handed on as the cause of
another failure, unless it is one of the library's own, reported where a literal was rendered. The
empty quote is found out by itself. -/
inductive ChunkFails (desk : Desk) : Item → Failure → Prop
  | raw {v : Value} {cause : Failure} (hcause : v.display? = .error cause) :
      ChunkFails desk (.raw v) (.unformattable .sql v.type cause)
  | identifier {v : Value} {cause : Failure} (hcause : v.display? = .error cause) :
      ChunkFails desk (.identifier v) (.unformattable .sql v.type cause)
  | literal {v : Value} {cause : Failure}
      (hcause : desk.registries.renderers.format? v = .error cause)
      (hforeign : cause.kind.isOwn = false) :
      ChunkFails desk (.literal v) (.unformattable .literal v.type cause)
  | ownLiteral {v : Value} {failure : Failure}
      (hfailure : desk.registries.renderers.format? v = .error failure)
      (hown : failure.kind.isOwn = true) : ChunkFails desk (.literal v) failure
  | emptyQuote {v : Value} {name : String} (hname : v.display? = .ok name)
      (hquote : desk.builder.dialect.identifierQuote = "") :
      ChunkFails desk (.identifier v) .emptyQuote

theorem literalChunk?_of_format?_eq_error {renderers : Renderers} {v : Value} {failure : Failure}
    (h : renderers.format? v = .error failure) :
    literalChunk? renderers v
      = .error (if failure.kind.isOwn then failure else .unformattable .literal v.type failure) := by
  rw [literalChunk?, h]

/-- A name that has a text is quoted, whatever is in it. -/
theorem identifierChunk?_of_display? {dialect : Dialect} {v : Value} {name : String}
    (h : v.display? = .ok name) :
    identifierChunk? dialect v = (Quoting.escape name dialect.identifierQuote).text := by
  rw [identifierChunk?, rawChunk?, h]
  rfl

theorem identifierChunk?_of_display?_eq_error {dialect : Dialect} {v : Value} {cause : Failure}
    (h : v.display? = .error cause) :
    identifierChunk? dialect v = .error (.unformattable .sql v.type cause) := by
  rw [identifierChunk?, rawChunk?, h]
  rfl

theorem ChunkFails.chunk?_eq {desk : Desk} {item : Item} {failure : Failure}
    (h : ChunkFails desk item failure) : desk.chunk? item = .error failure := by
  cases h with
  | raw hcause => exact (rawChunk?_eq_error_iff ..).mpr ⟨_, hcause, rfl⟩
  | identifier hcause => exact identifierChunk?_of_display?_eq_error hcause
  | literal hcause hforeign =>
    rw [chunk?, literalChunk?_of_format?_eq_error hcause, hforeign]
    rfl
  | ownLiteral hfailure hown =>
    rw [chunk?, literalChunk?_of_format?_eq_error hfailure, hown]
    rfl
  | emptyQuote hname hquote =>
    rw [chunk?, identifierChunk?_of_display? hname, hquote]
    exact Quoting.text_escape_empty _

/-- **There is no other way to fail.** -/
theorem chunkFails_of_chunk? {desk : Desk} {item : Item} {failure : Failure}
    (h : desk.chunk? item = .error failure) : ChunkFails desk item failure := by
  cases item with
  | raw v =>
    obtain ⟨cause, hcause, rfl⟩ := (rawChunk?_eq_error_iff v failure).mp h
    exact .raw hcause
  | literal v =>
    rw [chunk?] at h
    cases hformat : desk.registries.renderers.format? v with
    | ok text =>
      rw [literalChunk?, hformat] at h
      cases h
    | error cause =>
      rw [literalChunk?_of_format?_eq_error hformat] at h
      cases hown : cause.kind.isOwn with
      | true =>
        rw [hown] at h
        cases h
        exact .ownLiteral hformat hown
      | false =>
        rw [hown] at h
        cases h
        exact .literal hformat hown
  | identifier v =>
    rw [chunk?] at h
    cases hname : v.display? with
    | error cause =>
      rw [identifierChunk?_of_display?_eq_error hname] at h
      cases h
      exact .identifier hname
    | ok name =>
      rw [identifierChunk?_of_display? hname] at h
      by_cases hquote : desk.builder.dialect.identifierQuote = ""
      · rw [hquote, Quoting.text_escape_empty] at h
        cases h
        exact .emptyQuote hname hquote
      · -- any other quote makes a token
        rw [(Quoting.yields_escape_of_ne hquote name).text_eq_ok] at h
        cases h

theorem rawChunk?_ne_closed (v : Value) : rawChunk? v ≠ .error .closed := by
  intro h
  obtain ⟨_, _, hfailure⟩ := (rawChunk?_eq_error_iff v .closed).mp h
  cases hfailure

/-- **A chunk never fails as a closed buffer does.** -/
theorem chunk?_ne_closed (desk : Desk) (item : Item) : desk.chunk? item ≠ .error .closed := by
  intro h
  cases chunkFails_of_chunk? h with
  | ownLiteral hfailure hown =>
    -- the library's own failures stay as they are, but this one is not among them
    exact absurd hown (by decide)

end SqlText.Desk
