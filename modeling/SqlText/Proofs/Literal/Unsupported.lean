import SqlText.Proofs.Desk.Rendering
import SqlText.Proofs.Literal.Sequence

/-!
Values that have no literal. With no renderer at hand, a value can be rendered unless it or one of
the values inside of its lists and tuples is of a type without a literal, and the first one of these
from left to right is reported (`Value.firstUnsupported?`). The report shows the value, and there it
has a gap: the text that it shows comes from the value's own code, and if this code fails, its
failure comes through in place of the report.

* `Renderers.outcome_builtIn`: one value, without those inside of it;
* `Renderers.outcome_writeAt`: the first value without a literal decides;
* `Renderers.reportsUnsupported`: what is reported of it, by formatting and by the builder.
-/

namespace SqlText

namespace Value

/-- The type of the value, or the one that it is derived from, has a literal. -/
def isSupported (v : Value) : Bool := v.kind?.isSome

/-- The value and the values inside of its lists and tuples, each in front of those inside of it and
all from left to right. -/
def nodes : Value → List Value := foldSequences (fun v => [v]) fun v items => v :: items.flatten

/-- The first node whose type has no literal. -/
def firstUnsupported? (v : Value) : Option Value := v.nodes.find? (!·.isSupported)

/-- What is reported of a value without a literal. The text that the report shows is asked for on
the way. -/
def report (v : Value) : Failure :=
  match v.inspect? with
  | .ok shown => .unsupportedLiteral v.type shown
  | .error failure => failure

/-- The nodes of the value carry no renderers, and a datetime among them has a UTC. -/
structure IsLeftToRules (v : Value) : Prop where
  bare : ∀ node ∈ v.nodes, node.ownRenderer? = none
  inRange : ∀ node ∈ v.nodes, ∀ t, node.core = .datetime t → t.toUtc?.isSome

/-! ## Nodes -/

theorem nodes_of_sequence? {v : Value} {items : List Value} (hitems : v.sequence? = some items) :
    v.nodes = v :: items.flatMap nodes := by
  rw [nodes, foldSequences_of_sequence? _ _ hitems, List.flatMap_def]

theorem nodes_of_leaf {v : Value} (hitems : v.sequence? = none) : v.nodes = [v] :=
  foldSequences_of_leaf _ _ hitems

theorem mem_nodes_self (v : Value) : v ∈ v.nodes := by
  cases hitems : v.sequence? with
  | none => simp [nodes_of_leaf hitems]
  | some items => simp [nodes_of_sequence? hitems]

theorem mem_nodes_of_item {v item node : Value} {items : List Value}
    (hitems : v.sequence? = some items) (hitem : item ∈ items) (hnode : node ∈ item.nodes) :
    node ∈ v.nodes := by
  rw [nodes_of_sequence? hitems]
  exact List.mem_cons_of_mem v (List.mem_flatMap.mpr ⟨item, hitem, hnode⟩)

theorem IsLeftToRules.item {v item : Value} {items : List Value} (h : v.IsLeftToRules)
    (hitems : v.sequence? = some items) (hitem : item ∈ items) : item.IsLeftToRules where
  bare node hnode := h.bare node (mem_nodes_of_item hitems hitem hnode)
  inRange node hnode := h.inRange node (mem_nodes_of_item hitems hitem hnode)

theorem isSupported_of_sequence? {v : Value} {items : List Value}
    (hitems : v.sequence? = some items) : v.isSupported = true := by
  rw [isSupported, kind?]
  rw [sequence?] at hitems
  generalize v.core = core at hitems
  cases core with
  | list _ | tuple _ => rfl
  | _ => cases hitems

theorem firstUnsupported?_of_sequence? {v : Value} {items : List Value}
    (hitems : v.sequence? = some items) :
    v.firstUnsupported? = items.findSome? firstUnsupported? := by
  rw [firstUnsupported?, nodes_of_sequence? hitems,
    List.find?_cons_of_neg (by simp [isSupported_of_sequence? hitems]), List.find?_flatMap]
  rfl

end Value

open Writer

namespace Renderers

/-- A value that is no list and no tuple is written, or reported. -/
theorem outcome_builtIn (rs : Renderers) (run : Renderer → Value → Writer Unit) {v : Value}
    (hitems : v.sequence? = none) (hrange : ∀ t, v.core = .datetime t → t.toUtc?.isSome)
    (whole : Value) :
    (rs.builtIn run whole v).outcome
      = if v.isSupported then .ok () else .error whole.report := by
  have hescape : ∀ src, (Quoting.escape src Quoting.literalQuote).outcome = .ok () := by
    intro src
    obtain ⟨pieces, hyields, -⟩ := Quoting.yields_escape src '\''
    exact hyields.outcome_eq
  have hreport : (do
      let shown ← Writer.ofExcept whole.inspect?
      throw (.unsupportedLiteral whole.type shown) : Writer Unit).outcome
        = .error whole.report := by
    rw [Value.report]
    cases whole.inspect? <;> rfl
  induction v using Value.core.induct with
  | case1 type own base ih =>
    rw [builtIn]
    exact ih hitems hrange
  | case2 v hderived =>
    cases v with
    | null | bool _ | int _ | float _ | decimal _ =>
      rw [builtIn]
      exact (delivers_put _).outcome_eq
    | text _ | date _ =>
      rw [builtIn]
      exact hescape _
    | datetime t =>
      obtain ⟨utc, hutc⟩ := Option.isSome_iff_exists.mp (hrange t rfl)
      rw [builtIn, hutc]
      exact hescape _
    | list _ | tuple _ => cases hitems
    | derived type own base => exact (hderived type own base rfl).elim
    | bytes _ | time _ | duration _ | set _ | dict _ | range _ | object _ _ _ _ =>
      rw [builtIn]
      exact hreport

/-- **The first value without a literal decides.** -/
theorem outcome_writeAt {v : Value} (h : v.IsLeftToRules) (depth : Nat) :
    (({} : Renderers).writeAt depth v).outcome
      = match v.firstUnsupported? with
        | none => .ok ()
        | some node => .error node.report := by
  induction v using Value.sequence_induction with
  | h v ih =>
    have hrule : ({} : Renderers).renderer? v = none :=
      renderer?_eq_none (nearest?_empty _) (h.bare v v.mem_nodes_self)
    cases hitems : v.sequence? with
    | none =>
      have hone := outcome_builtIn {} (({} : Renderers).run depth) hitems
        (h.inRange v v.mem_nodes_self) v
      rw [writeAt, writeWith_of_renderer?_eq_none _ _ hrule, hone, Value.firstUnsupported?,
        Value.nodes_of_leaf hitems]
      cases hsupported : v.isSupported <;> simp [hsupported]
    | some items =>
      rw [Value.firstUnsupported?_of_sequence? hitems]
      cases hfirst : items.findSome? Value.firstUnsupported? with
      | none =>
        refine outcome_writeAt_of_items hrule hitems fun item hitem => ?_
        rw [ih items hitems item hitem (h.item hitems hitem),
          List.findSome?_eq_none_iff.mp hfirst item hitem]
      | some node =>
        -- the first item with such a node is the last one that is tried
        obtain ⟨front, item, rest, rfl, hnode, hfront⟩ := List.findSome?_eq_some_iff.mp hfirst
        have hitem : item ∈ front ++ item :: rest := by simp
        refine outcome_writeAt_of_error hrule hitems (fun other hother => ?_) ?_
        · have hmem : other ∈ front ++ item :: rest := by simp [hother]
          rw [ih _ hitems other hmem (h.item hitems hmem), hfront other hother]
        · rw [ih _ hitems item hitem (h.item hitems hitem), hnode]

theorem exists_format?_eq_ok {v : Value} (h : v.IsLeftToRules)
    (hnone : v.firstUnsupported? = none) : ∃ text, ({} : Renderers).format? v = .ok text := by
  rw [format?, write_eq_writeAt, text_eq, outcome_writeAt h, hnone]
  exact ⟨_, rfl⟩

theorem format?_eq_error {v node : Value} (h : v.IsLeftToRules)
    (hfirst : v.firstUnsupported? = some node) :
    ({} : Renderers).format? v = .error node.report := by
  rw [format?, write_eq_writeAt, text_eq, outcome_writeAt h, hfirst]
  rfl

/-- Where no renderer is registered and the query is not handed out, every append of the value as a
literal that is not refused ends with this failure. -/
def FailsToAppend (v : Value) (failure : Failure) : Prop :=
  ∀ (desk : Desk) (query : String) (command : Command) (owed : Option Value) (reply : Reply),
    desk.registries.renderers = {} → desk.builder.query = some query →
    desk.Appends command (.literal v) owed reply → (desk.step command).1 = .error failure

theorem failsToAppend_of_format?_eq_error {v : Value} {failure : Failure}
    (h : ({} : Renderers).format? v = .error failure) :
    FailsToAppend v
      (if failure.kind.isOwn then failure else .unformattable .literal v.type failure) := by
  intro desk query command owed reply hrenderers hquery happends
  refine happends.step_of_chunk?_eq_error hquery ?_
  rw [Desk.chunk?, hrenderers]
  exact Desk.literalChunk?_of_format?_eq_error h

/-- What comes of a value, where no renderer is registered. -/
structure ReportsUnsupported (v : Value) : Prop where
  /-- It has a literal if and only if all its nodes have types with literals. -/
  formatted : (∃ text, ({} : Renderers).format? v = .ok text)
    ↔ ∀ node ∈ v.nodes, node.isSupported = true
  /-- Else the first node of another type is reported by its type, if its text for messages can be
  had. The builder reports the same. -/
  shown : ∀ node text, v.firstUnsupported? = some node → node.inspect? = .ok text →
    ∃ failure, ({} : Renderers).format? v = .error failure
      ∧ failure.kind = .unsupportedLiteral
      ∧ failure.message = "Unsupported literal type: " ++ node.type.tag
      ∧ FailsToAppend v failure
  /-- If it cannot, the failure of the node's own code is all that is reported. The builder treats
  it as any other failure of rendering. -/
  unshown : ∀ node failure, v.firstUnsupported? = some node → node.inspect? = .error failure →
    node.Reports failure ∧ ({} : Renderers).format? v = .error failure
      ∧ FailsToAppend v
        (if failure.kind.isOwn then failure else .unformattable .literal v.type failure)

/-- **A value is reported if and only if one of its nodes has no literal**, and by the first of
these. -/
theorem reportsUnsupported {v : Value} (h : v.IsLeftToRules) : ReportsUnsupported v := by
  refine ⟨?_, fun node text hfirst htext => ?_, fun node failure hfirst hfailure => ?_⟩
  · have hall : v.firstUnsupported? = none ↔ ∀ node ∈ v.nodes, node.isSupported = true := by
      simp [Value.firstUnsupported?]
    rw [← hall]
    refine ⟨fun ⟨text, htext⟩ => ?_, exists_format?_eq_ok h⟩
    cases hfirst : v.firstUnsupported? with
    | none => rfl
    | some node =>
      rw [format?_eq_error h hfirst] at htext
      cases htext
  · have hformat := format?_eq_error h hfirst
    rw [Value.report, htext] at hformat
    -- the report is one of the library's own failures
    exact ⟨_, hformat, rfl, rfl, failsToAppend_of_format?_eq_error hformat⟩
  · have hformat := format?_eq_error h hfirst
    rw [Value.report, hfailure] at hformat
    exact ⟨node.reports_of_inspect? hfailure, hformat, failsToAppend_of_format?_eq_error hformat⟩

/-- Two values without literals in a list. The one in the tuple comes first. -/
theorem reportsUnsupported_nested :
    let v : Value := .list [.int 1, .tuple [.text "a", .bytes []], .dict []]
    let push : Command := .builder (.push (.literal v))
    v.IsLeftToRules ∧ v.firstUnsupported? = some (.bytes [])
      ∧ ∃ failure, ({} : Renderers).format? v = .error failure
        ∧ failure.kind = .unsupportedLiteral
        ∧ failure.message = "Unsupported literal type: <class 'bytes'>"
        ∧ ((Desk.plain "SELECT ").step push).1 = .error failure := by
  intro v push
  have hnodes : v.nodes = [v, .int 1, .tuple [.text "a", .bytes []], .text "a", .bytes [],
      .dict []] := rfl
  have hrules : v.IsLeftToRules := by
    have hcases : ∀ node ∈ v.nodes,
        node.ownRenderer? = none ∧ ∀ t, node.core ≠ .datetime t := by
      rw [hnodes]
      simp [v, Value.ownRenderer?, Value.core]
    exact ⟨fun node hnode => (hcases node hnode).1,
      fun node hnode t ht => ((hcases node hnode).2 t ht).elim⟩
  have hreports := reportsUnsupported hrules
  obtain ⟨failure, hformat, hkind, hmessage, hpush⟩ := hreports.shown _ _ rfl rfl
  exact ⟨hrules, rfl, failure, hformat, hkind, hmessage,
    hpush _ _ _ _ _ rfl rfl (.builder _ rfl)⟩

/-- A value without a literal that cannot be shown in a message either. -/
def unshownColor : Value :=
  .object (.declared "styles" "Color") [] none
    { displayed := .ok "red", inspected := .error (.raised .invalidValue "no repr") }

/-- It is not reported as unsupported, neither by formatting nor by the builder. -/
theorem format?_unshownColor :
    let push : Command := .builder (.push (.literal unshownColor))
    unshownColor.IsLeftToRules ∧ unshownColor.firstUnsupported? = some unshownColor
      ∧ ({} : Renderers).format? unshownColor = .error (.raised .invalidValue "no repr")
      ∧ (Failure.raised .invalidValue "no repr").kind ≠ .unsupportedLiteral
      ∧ ∃ failure, ((Desk.plain "SELECT ").step push).1 = .error failure
        ∧ failure.kind = .format := by
  intro push
  have hrules : unshownColor.IsLeftToRules := by
    refine ⟨fun node hnode => ?_, fun node hnode t ht => ?_⟩
    · obtain rfl := List.mem_singleton.mp hnode
      rfl
    · obtain rfl := List.mem_singleton.mp hnode
      cases ht
  exact ⟨hrules, rfl, rfl, by decide, _, rfl, rfl⟩

end Renderers

end SqlText
