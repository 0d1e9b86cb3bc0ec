import SqlText.Literal.Write
import SqlText.Proofs.Token

/-!
What goes wrong with values, and whose fault it is. A value may come with code of its user: the code
that gives the two texts of an object, and the renderers. Such code may report any failure
(`Value.Reports`). The library adds four failures of its own when it renders a value
(`Failure.IsOfRendering`), and there are no others, however deep the failure arises.

* `Value.reports_of_display?`: a text that cannot be had is the fault of the value's code;
* `Renderers.RunsWithin.builtIn`: the rules for built-in types put together what renderers write;
* `Renderers.reports_of_format?`: a literal that cannot be had.
-/

namespace SqlText

/-! ## Failures of users -/

mutual

/-- The failures that the code of a value may report: the code that gives its two texts, that of
its renderer, and that of the values inside of it. -/
inductive Value.Reports : Value → Failure → Prop
  | displayed {type : TypeName} {wider : List TypeName} {own : Option Renderer} {face : Face}
      {failure : Failure} (h : face.displayed = .error failure) :
      Value.Reports (.object type wider own face) failure
  | inspected {type : TypeName} {wider : List TypeName} {own : Option Renderer} {face : Face}
      {failure : Failure} (h : face.inspected = .error failure) :
      Value.Reports (.object type wider own face) failure
  | objectStep {type : TypeName} {wider : List TypeName} {renderer : Renderer} {face : Face}
      {step : Step} {failure : Failure} (hstep : step ∈ renderer) (h : Step.Reports step failure) :
      Value.Reports (.object type wider (some renderer) face) failure
  | derivedStep {type : TypeName} {renderer : Renderer} {base : Value} {step : Step}
      {failure : Failure} (hstep : step ∈ renderer) (h : Step.Reports step failure) :
      Value.Reports (.derived type (some renderer) base) failure
  | base {type : TypeName} {own : Option Renderer} {base : Value} {failure : Failure}
      (h : Value.Reports base failure) : Value.Reports (.derived type own base) failure
  | listItem {items : List Value} {item : Value} {failure : Failure} (hitem : item ∈ items)
      (h : Value.Reports item failure) : Value.Reports (.list items) failure
  | tupleItem {items : List Value} {item : Value} {failure : Failure} (hitem : item ∈ items)
      (h : Value.Reports item failure) : Value.Reports (.tuple items) failure
  | setItem {items : List Value} {item : Value} {failure : Failure} (hitem : item ∈ items)
      (h : Value.Reports item failure) : Value.Reports (.set items) failure
  | key {entries : List (Value × Value)} {entry : Value × Value} {failure : Failure}
      (hentry : entry ∈ entries) (h : Value.Reports entry.1 failure) :
      Value.Reports (.dict entries) failure
  | value {entries : List (Value × Value)} {entry : Value × Value} {failure : Failure}
      (hentry : entry ∈ entries) (h : Value.Reports entry.2 failure) :
      Value.Reports (.dict entries) failure

/-- The failures that a step reports by itself, or by a value that it names. -/
inductive Step.Reports : Step → Failure → Prop
  | fail (kind : ErrorKind) (message : String) :
      Step.Reports (.fail kind message) (.raised kind message)
  | render {v : Value} {failure : Failure} (h : Value.Reports v failure) :
      Step.Reports (.render v) failure

end

/-- What fails in two steps fails in the first or in the second one. -/
theorem error_of_bind_eq_error {α β : Type} {first : Except Failure α}
    {next : α → Except Failure β} {failure : Failure} (h : (first >>= next) = .error failure) :
    first = .error failure ∨ ∃ a, first = .ok a ∧ next a = .error failure := by
  cases first with
  | error other =>
    cases h
    exact .inl rfl
  | ok a => exact .inr ⟨a, rfl, h⟩

/-- A second step that cannot fail is not the one that did. -/
theorem error_of_bind_pure_eq_error {α β : Type} {first : Except Failure α} {change : α → β}
    {failure : Failure} (h : (do return change (← first)) = .error failure) :
    first = .error failure := by
  obtain hfirst | ⟨a, _, hpure⟩ := error_of_bind_eq_error h
  · exact hfirst
  · cases hpure

namespace Value

variable {failure : Failure}

mutual

/-- **A value that cannot be shown says so itself.** -/
theorem reports_of_inspect? : ∀ v : Value, v.inspect? = .error failure → v.Reports failure
  | .null, h | .bool _, h | .int _, h | .float _, h | .decimal _, h | .text _, h | .bytes _, h
  | .date _, h | .datetime _, h | .time _, h | .duration _, h | .range _, h => by
    rw [inspect?] at h
    cases h
  | .list items, h => by
    rw [inspect?] at h
    obtain ⟨item, hitem, hreports⟩ :=
      reports_of_inspectItems? items (error_of_bind_pure_eq_error h)
    exact .listItem hitem hreports
  | .tuple items, h => by
    rw [inspect?] at h
    obtain ⟨item, hitem, hreports⟩ :=
      reports_of_inspectItems? items (error_of_bind_pure_eq_error h)
    exact .tupleItem hitem hreports
  | .set items, h => by
    rw [inspect?] at h
    obtain ⟨item, hitem, hreports⟩ :=
      reports_of_inspectItems? items (error_of_bind_pure_eq_error h)
    exact .setItem hitem hreports
  | .dict entries, h => by
    rw [inspect?] at h
    obtain ⟨entry, hentry, hkey | hvalue⟩ :=
      reports_of_inspectEntries? entries (error_of_bind_pure_eq_error h)
    · exact .key hentry hkey
    · exact .value hentry hvalue
  | .derived _ _ base, h => .base (reports_of_inspect? base (by rwa [inspect?] at h))
  | .object _ _ _ face, h => .inspected (by rwa [inspect?] at h)

theorem reports_of_inspectItems? : ∀ items : List Value, inspectItems? items = .error failure →
    ∃ item ∈ items, item.Reports failure
  | [], h => by
    rw [inspectItems?] at h
    cases h
  | item :: rest, h => by
    rw [inspectItems?] at h
    obtain hitem | ⟨shown, _, hrest⟩ := error_of_bind_eq_error h
    · exact ⟨item, List.mem_cons_self, reports_of_inspect? item hitem⟩
    · obtain ⟨other, hother, hreports⟩ :=
        reports_of_inspectItems? rest (error_of_bind_pure_eq_error hrest)
      exact ⟨other, List.mem_cons_of_mem item hother, hreports⟩

theorem reports_of_inspectEntries? : ∀ entries : List (Value × Value),
    inspectEntries? entries = .error failure →
    ∃ entry ∈ entries, entry.1.Reports failure ∨ entry.2.Reports failure
  | [], h => by
    rw [inspectEntries?] at h
    cases h
  | (key, value) :: rest, h => by
    rw [inspectEntries?] at h
    obtain hkey | ⟨_, _, h⟩ := error_of_bind_eq_error h
    · exact ⟨(key, value), List.mem_cons_self, .inl (reports_of_inspect? key hkey)⟩
    obtain hvalue | ⟨_, _, hrest⟩ := error_of_bind_eq_error h
    · exact ⟨(key, value), List.mem_cons_self, .inr (reports_of_inspect? value hvalue)⟩
    obtain ⟨entry, hentry, hreports⟩ :=
      reports_of_inspectEntries? rest (error_of_bind_pure_eq_error hrest)
    exact ⟨entry, List.mem_cons_of_mem _ hentry, hreports⟩

end

/-- The value behind derived types brings no code that they do not bring. -/
theorem Reports.of_core {v : Value} (h : v.core.Reports failure) : v.Reports failure := by
  induction v using core.induct with
  | case1 type own base ih => exact .base (ih h)
  | case2 v hderived => rwa [core.eq_2 v hderived] at h

/-- **A value without a text says so itself.** -/
theorem reports_of_display? {v : Value} (h : v.display? = .error failure) : v.Reports failure := by
  apply Reports.of_core
  rw [display?] at h
  generalize v.core = core at h ⊢
  cases core with
  | object type wider own face =>
    -- the code of an object gives both texts, and this is the other one
    exact .displayed h
  | text _ | decimal _ | date _ | datetime _ | time _ | duration _ => cases h
  | null | bool _ | int _ | float _ | bytes _ | list _ | tuple _ | set _ | dict _ | range _
  | derived _ _ _ => exact reports_of_inspect? _ h

/-- The items that a pass meets bring no code that the value does not bring. -/
theorem Reports.of_item {v item : Value} {items : List Value} (hitems : v.items? = some items)
    (hitem : item ∈ items) (h : item.Reports failure) : v.Reports failure := by
  apply Reports.of_core
  rw [items?] at hitems
  generalize v.core = core at hitems ⊢
  cases core with
  | list items =>
    cases hitems
    exact .listItem hitem h
  | tuple items =>
    cases hitems
    exact .tupleItem hitem h
  | set items =>
    cases hitems
    exact .setItem hitem h
  | dict entries =>
    cases hitems
    obtain ⟨entry, hentry, rfl⟩ := List.mem_map.mp hitem
    exact .key hentry h
  | text _ | bytes _ | range _ =>
    -- letters, bytes and numbers come without code
    cases hitems
    obtain ⟨_, _, rfl⟩ := List.mem_map.mp hitem
    cases h
  | _ => cases hitems

/-- The renderer of a value is its own or that of the value that it is derived from. -/
theorem Reports.of_ownRenderer? {v : Value} {renderer : Renderer} {step : Step}
    (hown : v.ownRenderer? = some renderer) (hstep : step ∈ renderer)
    (h : step.Reports failure) : v.Reports failure := by
  induction v using ownRenderer?.induct with
  | case1 type own base ih =>
    rw [ownRenderer?] at hown
    cases own with
    | some own =>
      cases hown
      exact .derivedStep hstep h
    | none => exact .base (ih hown)
  | case2 type wider own face =>
    rw [ownRenderer?] at hown
    subst hown
    exact .objectStep hstep h
  | case3 v hderived hobject =>
    rw [ownRenderer?.eq_3 v hderived hobject] at hown
    cases hown

end Value

/-! ## Failures of rendering -/

/-- The failures of rendering that no user reports. -/
inductive Failure.IsOfRendering : Failure → Prop
  | unsupportedLiteral (type : TypeName) (shown : String) :
      IsOfRendering (.unsupportedLiteral type shown)
  | dateOutOfRange : IsOfRendering .dateOutOfRange
  | notIterable (type : TypeName) : IsOfRendering (.notIterable type)
  | tooDeep : IsOfRendering .tooDeep

/-- The failures that the code of registered renderers may report. -/
def Renderers.Reports (rs : Renderers) (failure : Failure) : Prop :=
  ∃ entry ∈ rs.entries, ∃ step ∈ entry.2, step.Reports failure

namespace Renderers

open SqlText.Writer

/-- A renderer that is found for a lineage is one of those that are registered. -/
theorem exists_mem_of_nearest? {rs : Renderers} {lineage : List TypeName} {renderer : Renderer}
    (h : rs.nearest? lineage = some renderer) : ∃ entry ∈ rs.entries, entry.2 = renderer := by
  obtain ⟨type, _, hfind⟩ := List.exists_of_findSome?_eq_some h
  obtain ⟨entry, hentry, rfl⟩ := Option.map_eq_some_iff.mp hfind
  exact ⟨entry, List.mem_of_find?_eq_some hentry, rfl⟩

section Rules

variable {rs : Renderers} {run : Renderer → Value → Writer Unit} {Q : Writer Unit → Prop}
  {P : Failure → Prop}

/-- What the rules for built-in types rely on. `Q` holds of what is put together from pieces and
failures that `P` admits, and these include the failures of rendering. And `Q` holds of a renderer
that runs on a value, if `P` admits what the code of the value reports. -/
structure RunsWithin (rs : Renderers) (run : Renderer → Value → Writer Unit)
    (Q : Writer Unit → Prop) (P : Failure → Prop) : Prop where
  composes : Composes Q P
  library : ∀ failure, failure.IsOfRendering → P failure
  runs : ∀ v renderer, (rs.nearest? v.lineage).or v.ownRenderer? = some renderer →
    (∀ failure, v.Reports failure → P failure) → Q (run renderer v)

theorem RunsWithin.choose (hrun : RunsWithin rs run Q P) {v : Value}
    (hv : ∀ failure, v.Reports failure → P failure) {otherwise : Writer Unit}
    (hotherwise : Q otherwise) : Q (rs.choose run v otherwise) := by
  unfold Renderers.choose
  split
  · next renderer hfind => exact hrun.runs v renderer hfind hv
  · exact hotherwise

theorem escape_literalQuote (hQ : Composes Q P) (src : String) :
    Q (Quoting.escape src Quoting.literalQuote) :=
  hQ.putAll _

variable (hrun : RunsWithin rs run Q P)
include hrun

/-- A value without a rule is shown in the failure, which may be one failure more. -/
theorem RunsWithin.unsupported {whole : Value}
    (hwhole : ∀ failure, whole.Reports failure → P failure) :
    Q (do
      let shown ← Writer.ofExcept whole.inspect?
      throw (.unsupportedLiteral whole.type shown)) := by
  refine hrun.composes.ofExcept_bind (fun failure hshown => ?_) fun shown => ?_
  · exact hwhole failure (Value.reports_of_inspect? whole hshown)
  · exact hrun.composes.failure _ (hrun.library _ (.unsupportedLiteral whole.type shown))

mutual

/-- **The rules for built-in types put nothing else together**, where renderers do not. -/
theorem RunsWithin.builtIn : ∀ v whole : Value, (∀ failure, v.Reports failure → P failure) →
    (∀ failure, whole.Reports failure → P failure) → Q (rs.builtIn run whole v)
  | .null, _, _, _ | .bool _, _, _, _ | .int _, _, _, _ | .float _, _, _, _
  | .decimal _, _, _, _ => by
    rw [Renderers.builtIn]
    exact hrun.composes.piece _
  | .text s, _, _, _ => by
    rw [Renderers.builtIn]
    exact escape_literalQuote hrun.composes s
  | .date d, _, _, _ => by
    rw [Renderers.builtIn]
    exact escape_literalQuote hrun.composes d.written
  | .datetime t, _, _, _ => by
    rw [Renderers.builtIn]
    split
    · next utc _ => exact escape_literalQuote hrun.composes utc.written
    · exact hrun.composes.failure _ (hrun.library _ .dateOutOfRange)
  | .list items, _, hv, _ => by
    rw [Renderers.builtIn]
    have hitems := RunsWithin.writeItems items true fun item hitem failure h =>
      hv failure (.listItem hitem h)
    exact hrun.composes.andThen _ _ (hrun.composes.piece "[")
      (hrun.composes.andThen _ _ hitems (hrun.composes.piece "]"))
  | .tuple items, _, hv, _ => by
    rw [Renderers.builtIn]
    have hitems := RunsWithin.writeItems items true fun item hitem failure h =>
      hv failure (.tupleItem hitem h)
    exact hrun.composes.andThen _ _ (hrun.composes.piece "[")
      (hrun.composes.andThen _ _ hitems (hrun.composes.piece "]"))
  | .derived _ _ base, whole, hv, hwhole => by
    rw [Renderers.builtIn]
    exact RunsWithin.builtIn base whole (fun failure h => hv failure (.base h)) hwhole
  | .bytes _, _, _, hwhole | .time _, _, _, hwhole | .duration _, _, _, hwhole
  | .set _, _, _, hwhole | .dict _, _, _, hwhole | .range _, _, _, hwhole
  | .object .., _, _, hwhole => by
    rw [Renderers.builtIn]
    exact hrun.unsupported hwhole

theorem RunsWithin.writeItems : ∀ (items : List Value) (first : Bool),
    (∀ item ∈ items, ∀ failure, item.Reports failure → P failure) →
    Q (rs.writeItems run first items)
  | [], _, _ => by
    rw [Renderers.writeItems]
    exact hrun.composes.nothing
  | item :: rest, first, hitems => by
    have hitem := hitems item List.mem_cons_self
    have hchosen := hrun.choose hitem (RunsWithin.builtIn item item hitem hitem)
    have hrest := RunsWithin.writeItems rest false fun other hother =>
      hitems other (List.mem_cons_of_mem item hother)
    have hboth := hrun.composes.andThen _ _ hchosen hrest
    rw [Renderers.writeItems]
    cases first with
    | true => exact hboth
    | false => exact hrun.composes.andThen _ _ (hrun.composes.piece ", ") hboth

end

theorem RunsWithin.writeWith {v : Value} (hv : ∀ failure, v.Reports failure → P failure) :
    Q (rs.writeWith run v) :=
  hrun.choose hv (hrun.builtIn v v hv hv)

end Rules

/-! ### Renderers -/

section Steps

variable {render : Value → Writer Unit} {Q : Writer Unit → Prop} {P : Failure → Prop} {v : Value}
  (hQ : Composes Q P) (hlibrary : ∀ failure, failure.IsOfRendering → P failure)
  (hrender : ∀ w : Value, (∀ failure, w.Reports failure → P failure) → Q (render w))
  (hv : ∀ failure, v.Reports failure → P failure)

include hQ hrender in
theorem composed_renderEach (separator : String) (items : List Value) (first : Bool)
    (hitems : ∀ item ∈ items, ∀ failure, item.Reports failure → P failure) :
    Q (renderEach render separator first items) := by
  induction items generalizing first with
  | nil => exact hQ.nothing
  | cons item rest ih =>
    have hitem := hrender item (hitems item List.mem_cons_self)
    have hrest := ih false fun other hother => hitems other (List.mem_cons_of_mem item hother)
    have hboth := hQ.andThen _ _ hitem hrest
    rw [renderEach]
    cases first with
    | true => exact hboth
    | false => exact hQ.andThen _ _ (hQ.piece separator) hboth

include hQ hlibrary hrender hv

theorem composed_runStep {step : Step} (hstep : ∀ failure, step.Reports failure → P failure) :
    Q (runStep render v step) := by
  cases step with
  | put piece => exact hQ.piece piece
  | display =>
    refine hQ.ofExcept_bind (fun failure h => ?_) fun text => hQ.piece text
    exact hv failure (Value.reports_of_display? h)
  | inspect =>
    refine hQ.ofExcept_bind (fun failure h => ?_) fun text => hQ.piece text
    exact hv failure (Value.reports_of_inspect? v h)
  | quoted =>
    refine hQ.ofExcept_bind (fun failure h => ?_) fun text => hrender (.text text) nofun
    exact hv failure (Value.reports_of_display? h)
  | render w => exact hrender w fun failure h => hstep failure (.render h)
  | each separator =>
    rw [runStep]
    split
    · next items hitems =>
      exact composed_renderEach hQ hrender separator items true fun item hitem failure h =>
        hv failure (h.of_item hitems hitem)
    · exact hQ.failure _ (hlibrary _ (.notIterable v.type))
  | fail kind message => exact hQ.failure _ (hstep _ (.fail kind message))

theorem composed_runSteps {renderer : Renderer}
    (hsteps : ∀ step ∈ renderer, ∀ failure, step.Reports failure → P failure) :
    Q (runSteps render v renderer) := by
  induction renderer with
  | nil => exact hQ.nothing
  | cons step rest ih =>
    have hstep := composed_runStep hQ hlibrary hrender hv (hsteps step List.mem_cons_self)
    have hrest := ih fun other hother => hsteps other (List.mem_cons_of_mem step hother)
    exact hQ.andThen _ _ hstep hrest

end Steps

/-- **Renderers that call one another put nothing else together**, to whatever depth they may do
so. -/
theorem runsWithin_run {rs : Renderers} {Q : Writer Unit → Prop} {P : Failure → Prop}
    (hQ : Composes Q P) (hlibrary : ∀ failure, failure.IsOfRendering → P failure)
    (hregistered : ∀ failure, rs.Reports failure → P failure) (depth : Nat) :
    RunsWithin rs (rs.run depth) Q P := by
  induction depth with
  | zero => exact ⟨hQ, hlibrary, fun _ _ _ _ => hQ.failure _ (hlibrary _ .tooDeep)⟩
  | succ depth ih =>
    refine ⟨hQ, hlibrary, fun v renderer hfound hv => ?_⟩
    refine composed_runSteps hQ hlibrary (fun w hw => ih.writeWith hw) hv ?_
    intro step hstep failure h
    -- the renderer is a registered one, or it is the one that the value carries
    obtain hnearest | ⟨_, hown⟩ := Option.or_eq_some_iff.mp hfound
    · obtain ⟨entry, hentry, rfl⟩ := exists_mem_of_nearest? hnearest
      exact hregistered failure ⟨entry, hentry, step, hstep, h⟩
    · exact hv failure (Value.Reports.of_ownRenderer? hown hstep h)

/-- **Whose fault it is that there is no literal**: that of the value's code, that of a registered
renderer, or it is one of the failures of rendering. -/
theorem reports_of_format? {rs : Renderers} {v : Value} {failure : Failure}
    (h : rs.format? v = .error failure) :
    v.Reports failure ∨ rs.Reports failure ∨ failure.IsOfRendering := by
  let P : Failure → Prop := fun failure =>
    v.Reports failure ∨ rs.Reports failure ∨ failure.IsOfRendering
  have hrun : RunsWithin rs (rs.run nestingLimit) (FailsOnly · P) P :=
    runsWithin_run (composes_failsOnly P) (fun _ h => .inr (.inr h)) (fun _ h => .inr (.inl h))
      nestingLimit
  exact (hrun.writeWith fun _ h => .inl h).of_text_eq_error h

end Renderers

end SqlText
