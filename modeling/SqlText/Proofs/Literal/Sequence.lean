import SqlText.Proofs.Delivery

/-!
Lists and tuples as literals. Where no renderer has precedence, a list or a tuple is written as its
items are, one after the other, between brackets and with a comma between two of them. So a value of
many lists inside of one another is written along its outline (`Renderers.outline`): from left to
right, the marks that the lists bring and the leaves between them. The first leaf that fails is the
last one that is tried.

* `Value.foldSequences`: all the lists and tuples inside of a value, from the inside out;
* `Renderers.writeWith_of_sequence?`: one list or tuple;
* `Renderers.writeWith_eq_inOrder`: all the lists and tuples inside of a value at once;
* `Renderers.rendersInOrder`: what is written, and how it ends, where everything can be rendered and
  where something cannot.
-/

namespace SqlText

namespace Value

/-- The items of a list or a tuple, of whatever type it is derived from these. -/
def sequence? (v : Value) : Option (List Value) :=
  match v.core with
  | list items | tuple items => some items
  | _ => none

theorem sizeOf_core_le (v : Value) : sizeOf v.core ≤ sizeOf v := by
  induction v using core.induct with
  | case1 type own base ih =>
    rw [core, derived.sizeOf_spec]
    omega
  | case2 v hderived => exact Nat.le_of_eq (by rw [core.eq_2 v hderived])

theorem sizeOf_lt_of_sequence? {v item : Value} {items : List Value}
    (hitems : v.sequence? = some items) (hitem : item ∈ items) : sizeOf item < sizeOf v := by
  have hlt := List.sizeOf_lt_of_mem hitem
  have hcore := v.sizeOf_core_le
  rw [sequence?] at hitems
  generalize v.core = core at hitems hcore
  cases core with
  | list _ =>
    cases hitems
    rw [list.sizeOf_spec] at hcore
    omega
  | tuple _ =>
    cases hitems
    rw [tuple.sizeOf_spec] at hcore
    omega
  | _ => cases hitems

/-- What holds of a value if it holds of its items holds of every value. -/
theorem sequence_induction {motive : Value → Prop}
    (h : ∀ v : Value, (∀ items, v.sequence? = some items → ∀ item ∈ items, motive item) → motive v)
    (v : Value) : motive v :=
  (measure (sizeOf : Value → Nat)).wf.induction v fun v ih =>
    h v fun _ hitems item hitem => ih item (Value.sizeOf_lt_of_sequence? hitems hitem)

section Fold

variable {α : Type} (leaf : Value → α) (sequence : Value → List α → α)

mutual

/-- The fold of `whole`, read off the value behind its derived types. -/
def foldBehind (whole : Value) : Value → α
  | list items | tuple items => sequence whole (foldItems items)
  | derived _ _ base => foldBehind whole base
  | _ => leaf whole

def foldItems : List Value → List α
  | [] => []
  | item :: rest => foldBehind item item :: foldItems rest

end

/-- Goes through all the lists and tuples inside of a value, however deep they are. What comes of a
list or a tuple is made of what came of its items; any other value is a leaf. -/
def foldSequences (v : Value) : α := foldBehind leaf sequence v v

theorem foldItems_eq_map (items : List Value) :
    foldItems leaf sequence items = items.map (foldSequences leaf sequence) := by
  induction items with
  | nil => rw [foldItems, List.map_nil]
  | cons item rest ih =>
    rw [foldItems, List.map_cons, ih]
    rfl

theorem foldBehind_core (whole v : Value) :
    foldBehind leaf sequence whole v.core = foldBehind leaf sequence whole v := by
  induction v using core.induct with
  | case1 type own base ih => rw [core, ih, foldBehind]
  | case2 v hderived => rw [core.eq_2 v hderived]

theorem foldSequences_of_sequence? {v : Value} {items : List Value}
    (hitems : v.sequence? = some items) :
    v.foldSequences leaf sequence = sequence v (items.map (foldSequences leaf sequence)) := by
  rw [foldSequences, ← foldBehind_core]
  rw [sequence?] at hitems
  generalize v.core = core at hitems
  cases core with
  | list _ | tuple _ =>
    cases hitems
    rw [foldBehind, foldItems_eq_map]
  | _ => cases hitems

theorem foldSequences_of_leaf {v : Value} (hitems : v.sequence? = none) :
    v.foldSequences leaf sequence = leaf v := by
  suffices h : ∀ w : Value, w.sequence? = none → foldBehind leaf sequence v w = leaf v from
    h v hitems
  intro w hw
  induction w using core.induct with
  | case1 type own base ih =>
    rw [foldBehind]
    exact ih hw
  | case2 w hderived =>
    cases w with
    | list _ | tuple _ => cases hw
    | derived type own base => exact (hderived type own base rfl).elim
    | _ => rfl

end Fold

end Value

open Writer

namespace Renderers

/-- The renderer that has precedence over the rule for the built-in type of a value: a registered
one, or else the one that the value carries. -/
def renderer? (rs : Renderers) (v : Value) : Option Renderer :=
  (rs.nearest? v.lineage).or v.ownRenderer?

theorem renderer?_eq_none {rs : Renderers} {v : Value} (hnearest : rs.nearest? v.lineage = none)
    (hown : v.ownRenderer? = none) : rs.renderer? v = none := by
  rw [renderer?, hnearest, hown]
  rfl

/-- Writes a literal where renderers may call one another `depth` times in a row. With the usual
limit, it is `write`. -/
def writeAt (rs : Renderers) (depth : Nat) (v : Value) : Writer Unit :=
  rs.writeWith (rs.run depth) v

theorem write_eq_writeAt (rs : Renderers) (v : Value) : rs.write v = rs.writeAt nestingLimit v :=
  rfl

theorem isSteady_writeAt (rs : Renderers) (depth : Nat) (v : Value) :
    (rs.writeAt depth v).IsSteady :=
  rs.exists_delivers_writeWith depth v

/-! ## The rules for built-in types -/

section Rules

variable (rs : Renderers) (run : Renderer → Value → Writer Unit)

theorem writeWith_of_renderer? {v : Value} {renderer : Renderer}
    (h : rs.renderer? v = some renderer) : rs.writeWith run v = run renderer v := by
  rw [renderer?] at h
  rw [writeWith, choose, h]

theorem writeWith_of_renderer?_eq_none {v : Value} (h : rs.renderer? v = none) :
    rs.writeWith run v = rs.builtIn run v v := by
  rw [renderer?] at h
  rw [writeWith, choose, h]

theorem builtIn_core (whole v : Value) : rs.builtIn run whole v.core = rs.builtIn run whole v := by
  induction v using Value.core.induct with
  | case1 type own base ih => rw [Value.core, ih, builtIn]
  | case2 v hderived => rw [Value.core.eq_2 v hderived]

theorem writeItems_eq (first : Bool) (items : List Value) :
    rs.writeItems run first items = renderEach (rs.writeWith run) ", " first items := by
  induction items generalizing first with
  | nil => rw [writeItems, renderEach]
  | cons item rest ih =>
    rw [writeItems, renderEach, ih]
    rfl

/-- **A list or a tuple is written as its items are.** -/
theorem writeWith_of_sequence? {v : Value} {items : List Value} (hrule : rs.renderer? v = none)
    (hitems : v.sequence? = some items) :
    rs.writeWith run v = (do
      put "["
      renderEach (rs.writeWith run) ", " true items
      put "]") := by
  rw [writeWith_of_renderer?_eq_none rs run hrule, ← builtIn_core]
  rw [Value.sequence?] at hitems
  generalize v.core = core at hitems
  cases core with
  | list _ | tuple _ =>
    cases hitems
    rw [builtIn, writeItems_eq]
  | _ => cases hitems

/-- Any other value is written as if no renderer were registered. -/
theorem builtIn_congr {v : Value} (hitems : v.sequence? = none) (others : Renderers)
    (otherRun : Renderer → Value → Writer Unit) (whole : Value) :
    rs.builtIn run whole v = others.builtIn otherRun whole v := by
  induction v using Value.core.induct with
  | case1 type own base ih =>
    rw [builtIn, builtIn]
    exact ih hitems
  | case2 v hderived =>
    cases v with
    | list _ | tuple _ => cases hitems
    | derived type own base => exact (hderived type own base rfl).elim
    | _ => rw [builtIn, builtIn]

end Rules

/-! ## Outlines -/

/-- What a literal is made of, where lists and tuples are opened up. -/
inductive Part
  /-- A bracket or a comma. -/
  | mark (piece : String)
  /-- A value that is rendered in another way. -/
  | leaf (v : Value)

namespace Part

variable (render : Value → Writer Unit)

def write : Part → Writer Unit
  | mark piece => put piece
  | leaf v => render v

def pieces : Part → List String
  | mark piece => [piece]
  | leaf v => (render v).pieces

theorem pieces_write (part : Part) : (part.write render).pieces = part.pieces render := by
  cases part with
  | mark piece => exact (delivers_put piece).pieces_eq
  | leaf v => rfl

end Part

/-- The parts of a list, as they are with the items for leaves. -/
def layout (items : List (List Part)) : List Part :=
  .mark "[" :: [Part.mark ", "].intercalate items ++ [.mark "]"]

/-- The parts of the literal of a value from left to right. All lists and tuples are opened up,
however deep they are, unless a renderer has precedence. -/
def outline (rs : Renderers) : Value → List Part :=
  Value.foldSequences (fun v => [.leaf v]) fun v items =>
    if (rs.renderer? v).isSome then [.leaf v] else layout items

theorem outline_of_sequence? {rs : Renderers} {v : Value} {items : List Value}
    (hrule : rs.renderer? v = none) (hitems : v.sequence? = some items) :
    rs.outline v = layout (items.map rs.outline) := by
  rw [outline, Value.foldSequences_of_sequence? _ _ hitems, hrule]
  rfl

theorem outline_of_leaf {rs : Renderers} {v : Value}
    (hleaf : v.sequence? = none ∨ (rs.renderer? v).isSome) : rs.outline v = [.leaf v] := by
  rw [outline]
  cases hitems : v.sequence? with
  | none => exact Value.foldSequences_of_leaf _ _ hitems
  | some items =>
    obtain hnone | hsome := hleaf
    · rw [hitems] at hnone
      cases hnone
    · rw [Value.foldSequences_of_sequence? _ _ hitems, if_pos hsome]

/-! ## From left to right -/

theorem intercalate_cons {α : Type} (sep x : List α) (rest : List (List α)) :
    sep.intercalate (x :: rest) = x ++ rest.flatMap (sep ++ ·) := by
  induction rest generalizing x with
  | nil => simp
  | cons y rest ih =>
    rw [List.intercalate_cons_cons, ih, List.flatMap_cons, List.append_assoc, List.append_assoc]

theorem intercalate_append_cons {α : Type} (sep x : List α) (front rest : List (List α)) :
    sep.intercalate (front ++ x :: rest)
      = front.flatMap (· ++ sep) ++ (x ++ rest.flatMap (sep ++ ·)) := by
  induction front with
  | nil => exact intercalate_cons sep x rest
  | cons y front ih =>
    have hne : front ++ x :: rest ≠ [] := by simp
    rw [List.cons_append, List.intercalate_cons_of_ne_nil hne, ih, List.flatMap_cons,
      List.append_assoc, List.append_assoc, List.append_assoc]

theorem flatMap_intercalate {α β : Type} (f : α → List β) (sep : List α) (xs : List (List α)) :
    (sep.intercalate xs).flatMap f = (sep.flatMap f).intercalate (xs.map (·.flatMap f)) := by
  cases xs with
  | nil => simp
  | cons x rest =>
    rw [intercalate_cons, List.map_cons, intercalate_cons, List.flatMap_append,
      List.flatMap_assoc, List.flatMap_map]
    simp only [List.flatMap_append]

theorem renderEach_eq_inOrder {render : Value → Writer Unit} {parts : Value → List (Writer Unit)}
    (separator : String) {items : List Value}
    (hitems : ∀ item ∈ items, render item = inOrder (parts item)) :
    renderEach render separator true items
      = inOrder ([put separator].intercalate (items.map parts)) := by
  have hfurther : ∀ rest : List Value, (∀ item ∈ rest, render item = inOrder (parts item)) →
      renderEach render separator false rest
        = inOrder ((rest.map parts).flatMap ([put separator] ++ ·)) := by
    intro rest hrest
    induction rest with
    | nil => rfl
    | cons item rest ih =>
      have htail := ih fun other hother => hrest other (List.mem_cons_of_mem item hother)
      rw [renderEach, hrest item List.mem_cons_self, htail, List.map_cons, List.flatMap_cons,
        List.append_assoc, inOrder_append, inOrder_append]
      simp [inOrder]
  cases items with
  | nil => rfl
  | cons item rest =>
    have htail := hfurther rest fun other hother => hitems other (List.mem_cons_of_mem item hother)
    rw [renderEach, hitems item List.mem_cons_self, htail, List.map_cons, intercalate_cons,
      inOrder_append]
    rfl

theorem writeWith_eq_layout {rs : Renderers} {run : Renderer → Value → Writer Unit} {v : Value}
    {items : List Value} (hrule : rs.renderer? v = none) (hitems : v.sequence? = some items)
    {parts : Value → List Part}
    (hparts : ∀ item ∈ items,
      rs.writeWith run item = inOrder ((parts item).map (Part.write (rs.writeWith run)))) :
    rs.writeWith run v
      = inOrder ((layout (items.map parts)).map (Part.write (rs.writeWith run))) := by
  -- the marks are parts of their own, and the items are parts already
  have hlayout : (layout (items.map parts)).map (Part.write (rs.writeWith run))
      = put "[" :: ([put ", "].intercalate
          (items.map fun item => (parts item).map (Part.write (rs.writeWith run))) ++ [put "]"]) := by
    rw [layout, List.cons_append, List.map_cons, List.map_append, List.map_eq_flatMap,
      flatMap_intercalate, List.map_map]
    simp only [← List.map_eq_flatMap]
    rfl
  rw [writeWith_of_sequence? rs run hrule hitems, renderEach_eq_inOrder ", " hparts, hlayout,
    inOrder, inOrder_append]
  simp [inOrder]

/-- **A value is written along its outline.** -/
theorem writeWith_eq_inOrder (rs : Renderers) (run : Renderer → Value → Writer Unit) (v : Value) :
    rs.writeWith run v = inOrder ((rs.outline v).map (Part.write (rs.writeWith run))) := by
  induction v using Value.sequence_induction with
  | h v ih =>
    have hself : rs.writeWith run v
        = inOrder (([.leaf v] : List Part).map (Part.write (rs.writeWith run))) :=
      bind_pure_unit.symm
    cases hitems : v.sequence? with
    | none => rw [outline_of_leaf (.inl hitems), ← hself]
    | some items =>
      cases hrule : rs.renderer? v with
      | some renderer =>
        rw [outline_of_leaf (.inr (by rw [hrule]; rfl)), ← hself]
      | none =>
        rw [outline_of_sequence? hrule hitems]
        exact writeWith_eq_layout hrule hitems (ih items hitems)

/-! ## What is written, and how it ends -/

/-- `w` goes through the parts from left to right, as far as it gets. -/
structure GoesThrough (render : Value → Writer Unit) (parts : List Part)
    (w : Writer Unit) : Prop where
  /-- If every leaf can be rendered, all parts are written. -/
  whole : (∀ leaf, .leaf leaf ∈ parts → (render leaf).outcome = .ok ()) →
    w.outcome = .ok () ∧ w.pieces = parts.flatMap (Part.pieces render)
  /-- The first leaf that cannot be rendered is the last one that is tried. It ends the writing with
  its own failure, after all that is in front of it and after what it wrote before it failed. -/
  cut : ∀ front leaf rest failure, parts = front ++ .leaf leaf :: rest →
    (∀ other, .leaf other ∈ front → (render other).outcome = .ok ()) →
    (render leaf).outcome = .error failure →
      w.outcome = .error failure
        ∧ w.pieces = front.flatMap (Part.pieces render) ++ (render leaf).pieces

theorem goesThrough_inOrder {render : Value → Writer Unit} (hrender : ∀ v, (render v).IsSteady)
    (parts : List Part) :
    GoesThrough render parts (inOrder (parts.map (Part.write render))) := by
  -- marks are always written
  have hwritten : ∀ parts : List Part,
      (∀ leaf, .leaf leaf ∈ parts → (render leaf).outcome = .ok ()) →
      ∀ w ∈ parts.map (Part.write render), w.IsSteady ∧ w.outcome = .ok () := by
    intro parts hleaves w hw
    obtain ⟨part, hpart, rfl⟩ := List.mem_map.mp hw
    cases part with
    | mark piece => exact ⟨isSteady_put piece, (delivers_put piece).outcome_eq⟩
    | leaf v => exact ⟨hrender v, hleaves v hpart⟩
  have hpieces : ∀ parts : List Part,
      (parts.map (Part.write render)).flatMap Writer.pieces
        = parts.flatMap (Part.pieces render) := by
    intro parts
    rw [List.flatMap_map]
    exact congrArg (parts.flatMap ·) (funext fun part => part.pieces_write render)
  refine ⟨fun hleaves => ?_, fun front leaf rest failure hparts hfront hfail => ?_⟩
  · have hdelivers := delivers_inOrder (hwritten parts hleaves)
    exact ⟨hdelivers.outcome_eq, by rw [hdelivers.pieces_eq, hpieces]⟩
  · have hcut : Delivers (inOrder (parts.map (Part.write render)))
        ((front.map (Part.write render)).flatMap Writer.pieces ++ (render leaf).pieces)
        (.error failure) := by
      rw [hparts, List.map_append, List.map_cons]
      exact delivers_inOrder_cut (hwritten front hfront) (hrender leaf) hfail
    exact ⟨hcut.outcome_eq, by rw [hcut.pieces_eq, hpieces]⟩

/-- The items of a list are the leaves of the list itself. -/
theorem goesThrough_layout {rs : Renderers} {v : Value} {items : List Value}
    (hrule : rs.renderer? v = none) (hitems : v.sequence? = some items) (depth : Nat) :
    GoesThrough (rs.writeAt depth) (layout (items.map fun item => [.leaf item]))
      (rs.writeAt depth v) := by
  have hparts : rs.writeAt depth v = inOrder ((layout (items.map fun item => [.leaf item])).map
      (Part.write (rs.writeAt depth))) :=
    writeWith_eq_layout hrule hitems fun item _ => bind_pure_unit.symm
  rw [hparts]
  exact goesThrough_inOrder (rs.isSteady_writeAt depth) _

/-- The parts of a list in front of one of its items. -/
def lead (front : List Value) : List Part :=
  .mark "[" :: front.flatMap fun item => [.leaf item, .mark ", "]

theorem exists_layout_eq (front : List Value) (item : Value) (rest : List Value) :
    ∃ back, layout ((front ++ item :: rest).map fun item => [.leaf item])
      = lead front ++ .leaf item :: back := by
  refine ⟨(rest.map fun item => [Part.leaf item]).flatMap ([Part.mark ", "] ++ ·)
    ++ [.mark "]"], ?_⟩
  rw [layout, lead, List.map_append, List.map_cons, intercalate_append_cons, List.flatMap_map]
  simp

theorem mem_of_leaf_mem_layout {items : List Value} {leaf : Value}
    (h : .leaf leaf ∈ layout (items.map fun item => [.leaf item])) : leaf ∈ items := by
  cases items with
  | nil => simp [layout] at h
  | cons item rest =>
    rw [layout, List.map_cons, intercalate_cons, List.flatMap_map] at h
    simpa using h

theorem mem_of_leaf_mem_lead {front : List Value} {leaf : Value} (h : .leaf leaf ∈ lead front) :
    leaf ∈ front := by
  simpa [lead] using h

theorem pieces_lead (render : Value → Writer Unit) (front : List Value) (item : Value) :
    (lead front).flatMap (Part.pieces render) ++ (render item).pieces
      = "[" :: [", "].intercalate ((front ++ [item]).map fun item => (render item).pieces) := by
  rw [lead, List.map_append, List.map_cons, List.map_nil, intercalate_append_cons]
  simp [List.flatMap_assoc, List.flatMap_map, Part.pieces]

theorem pieces_layout (render : Value → Writer Unit) (items : List Value) :
    (layout (items.map fun item => [.leaf item])).flatMap (Part.pieces render)
      = "[" :: [", "].intercalate (items.map fun item => (render item).pieces) ++ ["]"] := by
  rw [layout, List.flatMap_append, List.flatMap_cons, flatMap_intercalate, List.map_map]
  simp [Part.pieces, Function.comp_def]

theorem outcome_writeAt_of_items {rs : Renderers} {depth : Nat} {v : Value} {items : List Value}
    (hrule : rs.renderer? v = none) (hitems : v.sequence? = some items)
    (h : ∀ item ∈ items, (rs.writeAt depth item).outcome = .ok ()) :
    (rs.writeAt depth v).outcome = .ok () := by
  have hwhole := (goesThrough_layout hrule hitems depth).whole
    fun leaf hleaf => h leaf (mem_of_leaf_mem_layout hleaf)
  exact hwhole.1

theorem outcome_writeAt_of_error {rs : Renderers} {depth : Nat} {v item : Value}
    {front rest : List Value} {failure : Failure} (hrule : rs.renderer? v = none)
    (hitems : v.sequence? = some (front ++ item :: rest))
    (hfront : ∀ other ∈ front, (rs.writeAt depth other).outcome = .ok ())
    (hfail : (rs.writeAt depth item).outcome = .error failure) :
    (rs.writeAt depth v).outcome = .error failure := by
  obtain ⟨back, hback⟩ := exists_layout_eq front item rest
  have hcut := (goesThrough_layout hrule hitems depth).cut (lead front) item back failure hback
    (fun other hother => hfront other (mem_of_leaf_mem_lead hother)) hfail
  exact hcut.1

/-- What is written of the list or the tuple `v` with these items, where renderers may call one
another `depth` times in a row. -/
structure RendersInOrder (rs : Renderers) (depth : Nat) (v : Value) (items : List Value) :
    Prop where
  /-- If every item can be rendered, the list is the items between brackets, with one comma between
  two of them. -/
  complete : (∀ item ∈ items, (rs.writeAt depth item).outcome = .ok ()) →
    (rs.writeAt depth v).outcome = .ok ()
      ∧ (rs.writeAt depth v).pieces
        = "[" :: [", "].intercalate (items.map fun item => (rs.writeAt depth item).pieces)
          ++ ["]"]
  /-- If one cannot, the list ends with it, and so does what is written. The items after it do not
  matter. -/
  cut : ∀ front item rest failure, items = front ++ item :: rest →
    (∀ other ∈ front, (rs.writeAt depth other).outcome = .ok ()) →
    (rs.writeAt depth item).outcome = .error failure →
      (rs.writeAt depth v).outcome = .error failure
        ∧ (rs.writeAt depth v).pieces
          = "[" :: [", "].intercalate
            ((front ++ [item]).map fun item => (rs.writeAt depth item).pieces)
  /-- So it is through all the lists and tuples inside: the first leaf that fails decides. -/
  nested : GoesThrough (rs.writeAt depth) (rs.outline v) (rs.writeAt depth v)
  /-- No sink has a say in this: each is offered the same pieces, as long as it has room. -/
  steady : Delivers (rs.writeAt depth v) (rs.writeAt depth v).pieces (rs.writeAt depth v).outcome
  /-- Another list or tuple with these items is written in the same way. -/
  alike : ∀ w : Value, rs.nearest? w.lineage = none → w.ownRenderer? = none →
    w.sequence? = some items → rs.writeAt depth w = rs.writeAt depth v

/-- **Lists and tuples are rendered in order.** Take any renderers, and a list or a tuple of
whatever type to which none of them applies and which carries none. Its literal is made of the
literals of its items, as far as these can be rendered, and of nothing else. -/
theorem rendersInOrder {rs : Renderers} {v : Value} {items : List Value}
    (hnearest : rs.nearest? v.lineage = none) (hown : v.ownRenderer? = none)
    (hitems : v.sequence? = some items) (depth : Nat) : RendersInOrder rs depth v items := by
  have hrule : rs.renderer? v = none := renderer?_eq_none hnearest hown
  have hlayout := goesThrough_layout hrule hitems depth
  refine ⟨fun hitem => ?_, fun front item rest failure hsplit hfront hfail => ?_, ?_,
    (rs.isSteady_writeAt depth v).delivers, fun w hwnearest hwown hwitems => ?_⟩
  · rw [← pieces_layout]
    exact hlayout.whole fun leaf hleaf => hitem leaf (mem_of_leaf_mem_layout hleaf)
  · obtain ⟨back, hback⟩ := exists_layout_eq front item rest
    rw [← pieces_lead]
    exact hlayout.cut (lead front) item back failure (by rw [hsplit, hback])
      (fun other hother => hfront other (mem_of_leaf_mem_lead hother)) hfail
  · have hparts : rs.writeAt depth v
        = inOrder ((rs.outline v).map (Part.write (rs.writeAt depth))) :=
      rs.writeWith_eq_inOrder (rs.run depth) v
    rw [hparts]
    exact goesThrough_inOrder (rs.isSteady_writeAt depth) _
  · rw [writeAt, writeAt, writeWith_of_sequence? rs _ (renderer?_eq_none hwnearest hwown) hwitems,
      writeWith_of_sequence? rs _ hrule hitems]

/-- Two lists in a tuple, the second one with a renderer that gives up. What is written are the
brackets, all that is in front of that leaf, and what the renderer wrote until then. -/
theorem rendersInOrder_halfway :
    let v : Value := .tuple [.list [.int 1], .colored, .int 3]
    v.sequence? = some [.list [.int 1], .colored, .int 3]
      ∧ (halfway.writeAt nestingLimit v).outcome = .error (.raised .runtime "no color")
      ∧ (halfway.writeAt nestingLimit v).pieces
        = ["[", "[", "1", "]", ", ", "[", "1", ", ", "c("] := by
  intro v
  have hrenders : RendersInOrder halfway nestingLimit v [.list [.int 1], .colored, .int 3] :=
    rendersInOrder rfl rfl rfl nestingLimit
  have hfront : ∀ other : Value, .leaf other ∈ ([.mark "[", .mark "[", .leaf (.int 1), .mark "]",
      .mark ", ", .mark "[", .leaf (.int 1), .mark ", "] : List Part) →
      (halfway.writeAt nestingLimit other).outcome = .ok () := by
    intro other hother
    simp only [List.mem_cons, List.not_mem_nil, Part.leaf.injEq, reduceCtorEq, false_or, or_false,
      or_self] at hother
    rw [hother]
    rfl
  exact ⟨rfl, hrenders.nested.cut _ _ _ _ rfl hfront rfl⟩

end Renderers

end SqlText
