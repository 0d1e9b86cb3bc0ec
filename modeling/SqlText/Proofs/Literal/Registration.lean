import Mathlib.Data.List.Induction
import SqlText.Registries
import SqlText.Proofs.Catalog
import SqlText.Proofs.Literal.Tree
import SqlText.Proofs.Literal.Visit

/-!
Renderers and the registrations that they come from. A type has the renderer that it was given by
the last call that concerns it, if that call gave one (`Renderers.HasRenderer`). What the registry
holds besides, and in which order, makes no difference to what is written.

* `Renderers.find?_afterAll`: the renderer of a type after any history of registrations;
* `Renderers.writeAt_concat_of_not_visits`: a call for a type that is not met while a value is
  rendered;
* `Renderers.followsHistory`: which renderer is run, and which calls make no difference.
-/

namespace SqlText

open Writer

/-- The call gives a renderer to the type, or takes it away. -/
def Registration.Concerns (type : TypeName) : Registration → Prop
  | .dialect _ _ => False
  | .renderer other _ | .noRenderer other => other = type

theorem Registration.Concerns.unique {call : Registration} {type other : TypeName}
    (h : call.Concerns type) (hother : call.Concerns other) : type = other := by
  cases call with
  | dialect _ _ => exact h.elim
  | renderer _ _ | noRenderer _ => exact h.symm.trans hother

namespace Renderers

/-- The renderers after all the calls of a history, in order. -/
def afterAll (history : List Registration) : Renderers :=
  (history.foldl Registries.apply {}).renderers

/-- The last call for this type gave it this renderer. -/
def HasRenderer (history : List Registration) (type : TypeName) (renderer : Renderer) : Prop :=
  ∃ before later, history = before ++ .renderer type renderer :: later
    ∧ ∀ call ∈ later, ¬ call.Concerns type

/-! ## One call -/

theorem find?_unregister (rs : Renderers) (type other : TypeName) :
    (rs.unregister type).find? other = if other = type then none else rs.find? other := by
  unfold unregister find?
  by_cases heq : other = type
  · simp [heq, List.find?_filter]
  · rw [if_neg heq, find?_filter_ne _ heq]

theorem find?_register (rs : Renderers) (type : TypeName) (renderer : Renderer)
    (other : TypeName) :
    (rs.register type renderer).find? other
      = if other = type then some renderer else rs.find? other := by
  unfold register unregister find?
  by_cases heq : other = type
  · simp [heq]
  · rw [if_neg heq, List.find?_cons_of_neg (by simpa using Ne.symm heq), find?_filter_ne _ heq]

theorem find?_apply_of_not_concerns (r : Registries) {call : Registration} {type : TypeName}
    (h : ¬ call.Concerns type) : (r.apply call).renderers.find? type = r.renderers.find? type := by
  cases call with
  | dialect dialect aliases => rfl
  | renderer other renderer =>
    rw [Registries.apply, find?_register, if_neg (Ne.symm h)]
  | noRenderer other =>
    rw [Registries.apply, find?_unregister, if_neg (Ne.symm h)]

theorem unregister_eq_self {rs : Renderers} {type : TypeName} (h : rs.find? type = none) :
    rs.unregister type = rs := by
  have hentries : ∀ e ∈ rs.entries, e.1 ≠ type := by
    simpa [find?] using h
  rw [unregister, List.filter_eq_self.mpr fun e he => by simpa using hentries e he]

theorem unregister_register {rs : Renderers} {type : TypeName} (h : rs.find? type = none)
    (renderer : Renderer) : (rs.register type renderer).unregister type = rs := by
  have hself := unregister_eq_self h
  rw [register, hself, unregister, List.filter_cons_of_neg (by simp)]
  exact hself

/-! ## Histories -/

theorem afterAll_concat (history : List Registration) (call : Registration) :
    afterAll (history ++ [call])
      = ((history.foldl Registries.apply {}).apply call).renderers := by
  rw [afterAll, List.foldl_append]
  rfl

theorem hasRenderer_concat {history : List Registration} {call : Registration} {type : TypeName}
    {renderer : Renderer} :
    HasRenderer (history ++ [call]) type renderer
      ↔ call = .renderer type renderer
        ∨ ¬ call.Concerns type ∧ HasRenderer history type renderer := by
  constructor
  · rintro ⟨before, later, hsplit, hlater⟩
    -- the call that gave the renderer is the new one, or stands before it
    obtain rfl | ⟨later, last, rfl⟩ := List.eq_nil_or_concat later
    · obtain ⟨-, hcall⟩ := List.append_inj' hsplit rfl
      exact .inl (List.singleton_inj.mp hcall)
    · have hsplit' : history ++ [call] = (before ++ .renderer type renderer :: later) ++ [last] := by
        simpa using hsplit
      obtain ⟨hhistory, hcall⟩ := List.append_inj' hsplit' rfl
      obtain rfl := List.singleton_inj.mp hcall
      exact .inr ⟨hlater call (by simp), before, later, hhistory,
        fun other hother => hlater other (by simp [hother])⟩
  · rintro (rfl | ⟨hcall, before, later, rfl, hlater⟩)
    · exact ⟨history, [], rfl, by simp⟩
    · refine ⟨before, later ++ [call], by simp, fun other hother => ?_⟩
      obtain hother | hother := List.mem_append.mp hother
      · exact hlater other hother
      · rwa [List.mem_singleton.mp hother]

/-- **The renderer of a type is that of the last call for it.** -/
theorem find?_afterAll {history : List Registration} {type : TypeName} {renderer : Renderer} :
    (afterAll history).find? type = some renderer ↔ HasRenderer history type renderer := by
  induction history using List.reverseRecOn with
  | nil => simp [afterAll, find?, HasRenderer]
  | append_singleton history call ih =>
    rw [hasRenderer_concat, afterAll_concat, ← ih]
    -- the last call decides, unless it is for another type
    by_cases hcall : call.Concerns type
    · cases call with
      | dialect dialect aliases => exact hcall.elim
      | renderer other renderer =>
        obtain rfl : other = type := hcall
        rw [Registries.apply, find?_register]
        simp [Registration.Concerns]
      | noRenderer other =>
        obtain rfl : other = type := hcall
        rw [Registries.apply, find?_unregister]
        simp [Registration.Concerns]
    · have hne : call ≠ .renderer type renderer := by
        rintro rfl
        exact hcall rfl
      rw [find?_apply_of_not_concerns _ hcall]
      simp [hcall, hne, afterAll]

theorem find?_afterAll_eq_none {history : List Registration} {type : TypeName} :
    (afterAll history).find? type = none ↔ ∀ renderer, ¬ HasRenderer history type renderer := by
  simp only [← find?_afterAll, Option.eq_none_iff_forall_ne_some, ne_eq]

theorem hasRenderer_append_congr {history other : List Registration}
    (h : ∀ type renderer, HasRenderer history type renderer ↔ HasRenderer other type renderer)
    (later : List Registration) (type : TypeName) (renderer : Renderer) :
    HasRenderer (history ++ later) type renderer ↔ HasRenderer (other ++ later) type renderer := by
  induction later using List.reverseRecOn with
  | nil => simpa using h type renderer
  | append_singleton later call ih =>
    rw [← List.append_assoc, ← List.append_assoc, hasRenderer_concat, hasRenderer_concat, ih]

theorem hasRenderer_swap {first second : Registration} {type other : TypeName}
    (hfirst : first.Concerns type) (hsecond : second.Concerns other) (hne : type ≠ other)
    (history : List Registration) (looked : TypeName) (renderer : Renderer) :
    HasRenderer (history ++ [first, second]) looked renderer
      ↔ HasRenderer (history ++ [second, first]) looked renderer := by
  have hconcerns : ∀ {call : Registration}, call = .renderer looked renderer →
      call.Concerns looked := by
    rintro _ rfl
    rfl
  -- a call concerns one type only, so that one of the two does not concern the one looked for
  have hone : ¬ (first.Concerns looked ∧ second.Concerns looked) := by
    rintro ⟨h₁, h₂⟩
    exact hne ((hfirst.unique h₁).trans (hsecond.unique h₂).symm)
  rw [List.append_cons history first, List.append_cons history second, hasRenderer_concat,
    hasRenderer_concat, hasRenderer_concat, hasRenderer_concat]
  constructor
  · rintro (rfl | ⟨hout, rfl | ⟨hin, hbefore⟩⟩)
    · exact .inr ⟨fun h => hone ⟨h, hconcerns rfl⟩, .inl rfl⟩
    · exact .inl rfl
    · exact .inr ⟨hin, .inr ⟨hout, hbefore⟩⟩
  · rintro (rfl | ⟨hout, rfl | ⟨hin, hbefore⟩⟩)
    · exact .inr ⟨fun h => hone ⟨hconcerns rfl, h⟩, .inl rfl⟩
    · exact .inl rfl
    · exact .inr ⟨hin, .inr ⟨hout, hbefore⟩⟩

/-! ## Rendering after a history -/

theorem nearest?_congr {rs others : Renderers} {lineage : List TypeName}
    (h : ∀ type ∈ lineage, others.find? type = rs.find? type) :
    others.nearest? lineage = rs.nearest? lineage := by
  induction lineage with
  | nil => rfl
  | cons type farther ih =>
    have hfarther := ih fun other hother => h other (List.mem_cons_of_mem type hother)
    rw [nearest?, nearest?, List.findSome?_cons, List.findSome?_cons, h type List.mem_cons_self]
    cases rs.find? type with
    | none => exact hfarther
    | some renderer => rfl

/-- Histories that end with the same renderers are not told apart. -/
theorem writeAt_congr_of_hasRenderer {history other : List Registration}
    (h : ∀ type renderer, HasRenderer history type renderer ↔ HasRenderer other type renderer)
    (depth : Nat) (v : Value) :
    (afterAll history).writeAt depth v = (afterAll other).writeAt depth v := by
  refine writeAt_congr_of_visits fun w _ => nearest?_congr fun type _ => ?_
  refine Option.ext fun renderer => ?_
  rw [find?_afterAll, find?_afterAll, h]

/-- **A call for a type that is not met while a value is rendered changes nothing about it.** -/
theorem writeAt_concat_of_not_visits {history : List Registration} {call : Registration}
    {type : TypeName} {depth : Nat} {v : Value} (hcall : call.Concerns type)
    (hvisits : ∀ w, (afterAll history).Visits depth v w → type ∉ w.lineage) :
    (afterAll (history ++ [call])).writeAt depth v = (afterAll history).writeAt depth v := by
  refine writeAt_congr_of_visits fun w hw => nearest?_congr fun other hother => ?_
  have hother' : ¬ call.Concerns other := by
    intro hcall'
    exact hvisits w hw (hcall.unique hcall' ▸ hother)
  rw [afterAll_concat, find?_apply_of_not_concerns _ hother', afterAll]

theorem nearest?_afterAll {history : List Registration} {nearer farther : List TypeName}
    {type : TypeName} {renderer : Renderer}
    (hnearer : ∀ near ∈ nearer, ∀ other, ¬ HasRenderer history near other)
    (htype : HasRenderer history type renderer) :
    (afterAll history).nearest? (nearer ++ type :: farther) = some renderer := by
  refine List.findSome?_eq_some_iff.mpr ⟨nearer, type, farther, rfl, find?_afterAll.mpr htype, ?_⟩
  exact fun near hnear => find?_afterAll_eq_none.mpr (hnearer near hnear)

theorem nearest?_afterAll_eq_none {history : List Registration} {lineage : List TypeName}
    (h : ∀ type ∈ lineage, ∀ renderer, ¬ HasRenderer history type renderer) :
    (afterAll history).nearest? lineage = none :=
  List.findSome?_eq_none_iff.mpr fun type htype => find?_afterAll_eq_none.mpr (h type htype)

theorem writeAt_of_renderer? {rs : Renderers} {v : Value} {renderer : Renderer}
    (h : rs.renderer? v = some renderer) (depth : Nat) :
    rs.writeAt (depth + 1) v = runSteps (rs.writeAt depth) v renderer := by
  rw [writeAt, writeWith_of_renderer? _ _ h]
  rfl

/-- How values are rendered after the registrations, of which there are none at first. -/
structure FollowsHistory (history : List Registration) : Prop where
  /-- The nearest type for which the last call gave a renderer decides, with that renderer. Whatever
  the renderer hands on is rendered in the same way. -/
  registered : ∀ v nearer type farther renderer, v.lineage = nearer ++ type :: farther →
    (∀ near ∈ nearer, ∀ other, ¬ HasRenderer history near other) →
    HasRenderer history type renderer → ∀ depth,
      (afterAll history).writeAt (depth + 1) v
        = runSteps ((afterAll history).writeAt depth) v renderer
  /-- If there is no such type, it is the renderer that the value carries. -/
  own : ∀ v renderer, (∀ type ∈ v.lineage, ∀ other, ¬ HasRenderer history type other) →
    v.ownRenderer? = some renderer → ∀ depth,
      (afterAll history).writeAt (depth + 1) v
        = runSteps ((afterAll history).writeAt depth) v renderer
  /-- If there is none either, the items of a list or a tuple are rendered, each in the same way. -/
  items : ∀ v items, (∀ type ∈ v.lineage, ∀ other, ¬ HasRenderer history type other) →
    v.ownRenderer? = none → v.sequence? = some items → ∀ depth,
      (afterAll history).writeAt depth v = (do
        put "["
        renderEach ((afterAll history).writeAt depth) ", " true items
        put "]")
  /-- Anything else is rendered as if nothing were registered. -/
  builtIn : ∀ v, (∀ type ∈ v.lineage, ∀ other, ¬ HasRenderer history type other) →
    v.ownRenderer? = none → v.sequence? = none → ∀ depth,
      (afterAll history).writeAt depth v = ({} : Renderers).writeAt depth v
  /-- Rendering that ends is the same however deep renderers may call one another. -/
  settled : ∀ depth v, (afterAll history).Settles depth v → ∀ more,
    (afterAll history).writeAt (depth + more) v = (afterAll history).writeAt depth v
  /-- Calls for different types commute. -/
  commutes : ∀ first second type other, first.Concerns type → second.Concerns other →
    type ≠ other → ∀ later depth v,
      (afterAll (history ++ [first, second] ++ later)).writeAt depth v
        = (afterAll (history ++ [second, first] ++ later)).writeAt depth v
  /-- There is nothing to take away from a type that has no renderer. -/
  unregistered : ∀ type, (∀ renderer, ¬ HasRenderer history type renderer) →
    afterAll (history ++ [.noRenderer type]) = afterAll history
  /-- A renderer that is taken away again leaves no trace. -/
  restored : ∀ type renderer, (∀ other, ¬ HasRenderer history type other) →
    afterAll (history ++ [.renderer type renderer, .noRenderer type]) = afterAll history
  /-- A call for a type that no value belongs to which is visited while `v` is rendered makes no
  difference to `v`. -/
  frame : ∀ call type, call.Concerns type → ∀ depth v,
    (∀ w, (afterAll history).Visits depth v w → type ∉ w.lineage) →
      (afterAll (history ++ [call])).writeAt depth v = (afterAll history).writeAt depth v

/-- **The last call for the nearest type decides**, after every history of registrations. -/
theorem followsHistory (history : List Registration) : FollowsHistory history where
  registered v nearer type farther renderer hlineage hnearer htype := by
    refine writeAt_of_renderer? ?_
    rw [renderer?, hlineage, nearest?_afterAll hnearer htype]
    rfl
  own v renderer hnone hown := by
    refine writeAt_of_renderer? ?_
    rw [renderer?, nearest?_afterAll_eq_none hnone, hown]
    rfl
  items v items hnone hown hitems depth := by
    have hrule := renderer?_eq_none (nearest?_afterAll_eq_none hnone) hown
    exact writeWith_of_sequence? _ _ hrule hitems
  builtIn v hnone hown hitems depth := by
    have hrule := renderer?_eq_none (nearest?_afterAll_eq_none hnone) hown
    have hempty : ({} : Renderers).renderer? v = none := renderer?_eq_none (nearest?_empty _) hown
    rw [writeAt, writeAt, writeWith_of_renderer?_eq_none _ _ hrule,
      writeWith_of_renderer?_eq_none _ _ hempty]
    exact builtIn_congr _ _ hitems _ _ _
  settled depth v h more := writeAt_add_of_settles more h
  commutes first second type other hfirst hsecond hne later depth v := by
    refine writeAt_congr_of_hasRenderer (hasRenderer_append_congr ?_ later) depth v
    exact hasRenderer_swap hfirst hsecond hne history
  unregistered type hnone := by
    rw [afterAll_concat]
    exact unregister_eq_self (find?_afterAll_eq_none.mpr hnone)
  restored type renderer hnone := by
    rw [List.append_cons, afterAll_concat, List.foldl_append]
    exact unregister_register (find?_afterAll_eq_none.mpr hnone) renderer
  frame call type hcall depth v hvisits := writeAt_concat_of_not_visits hcall hvisits

/-- Numbers and truth values have renderers, of which the second one is taken away again. A truth
value is a number too, inside of a list as well. -/
example : (afterAll [.renderer .int [.put "n"], .renderer .bool [.put "b"],
    .noRenderer .bool]).format? (.list [.bool true, .null]) = .ok "[n, NULL]" :=
  rfl

end Renderers

end SqlText
