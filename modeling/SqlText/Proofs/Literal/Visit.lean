import SqlText.Proofs.Literal.Sequence

/-!
The values that are visited while a value is rendered: the value itself, the items of lists and
tuples, and whatever renderers hand on to be rendered, each of them as far as the rendering gets
(`Renderers.Visits`). For every one of these values the registered renderers are asked once, with
its lineage. Nothing else is asked of them, so that other renderers with the same answers write the
same.

* `renderEach_congr`, `runSteps_congr`: what comes after a failure makes no difference;
* `Renderers.AgreesOn.writeAt_eq`: two ways to choose and to run renderers that agree as far as the
  rendering gets;
* `Renderers.writeAt_congr_of_visits`: same answers for the values that are visited, same rendering;
* `Renderers.writeAt_add_of_settles`: more depth makes no difference to a rendering that ends.
-/

namespace SqlText

open Writer

/-- The values that a step of a renderer for `v` hands on to be rendered, as far as it gets. -/
inductive Step.HandsOn (render : Value → Writer Unit) (v : Value) : Step → Value → Prop
  | render (w : Value) : HandsOn render v (.render w) w
  | quoted {text : String} (htext : v.display? = .ok text) : HandsOn render v .quoted (.text text)
  | each (separator : String) {front rest : List Value} {item : Value}
      (hitems : v.items? = some (front ++ item :: rest))
      (hfront : ∀ other ∈ front, (render other).outcome = .ok ()) :
      HandsOn render v (.each separator) item

namespace Renderers

/-- The values that are visited while a value is rendered, where renderers may call one another so
many times in a row. -/
inductive Visits (rs : Renderers) : Nat → Value → Value → Prop
  | self (depth : Nat) (v : Value) : Visits rs depth v v
  /-- An item of a list or a tuple is visited if the items in front of it can be rendered. -/
  | item {depth : Nat} {v item w : Value} {front rest : List Value}
      (hrule : rs.renderer? v = none) (hitems : v.sequence? = some (front ++ item :: rest))
      (hfront : ∀ other ∈ front, (rs.writeAt depth other).outcome = .ok ())
      (h : Visits rs depth item w) : Visits rs depth v w
  /-- What a step hands on is visited if the steps in front of it succeed. -/
  | step {depth : Nat} {v next w : Value} {step : Step} {front rest : Renderer}
      (hrule : rs.renderer? v = some (front ++ step :: rest))
      (hfront : (runSteps (rs.writeAt depth) v front).outcome = .ok ())
      (hstep : step.HandsOn (rs.writeAt depth) v next) (h : Visits rs depth next w) :
      Visits rs (depth + 1) v w

/-! ## Two ways of rendering values -/

section Congr

variable {render other : Value → Writer Unit} (hsteady : ∀ v, (render v).IsSteady)
include hsteady

theorem isSteady_runStep (v : Value) (step : Step) : (runStep render v step).IsSteady :=
  composed_runStep composes_delivers (fun _ _ => trivial) (fun w _ => hsteady w)
    (fun _ _ => trivial) fun _ _ => trivial

theorem isSteady_runSteps (v : Value) (renderer : Renderer) :
    (runSteps render v renderer).IsSteady :=
  composed_runSteps composes_delivers (fun _ _ => trivial) (fun w _ => hsteady w)
    (fun _ _ => trivial) fun _ _ _ _ => trivial

/-- Two ways of rendering make no difference to items if they agree on each item that is reached. -/
theorem renderEach_congr (separator : String) (first : Bool) {items : List Value}
    (h : ∀ front item rest, items = front ++ item :: rest →
      (∀ x ∈ front, (render x).outcome = .ok ()) → other item = render item) :
    renderEach other separator first items = renderEach render separator first items := by
  induction items generalizing first with
  | nil => rfl
  | cons item rest ih =>
    have hitem : other item = render item := h [] item rest rfl (by simp)
    have hrest : (do render item; renderEach other separator false rest)
        = (do render item; renderEach render separator false rest) := by
      refine (hsteady item).andThen_congr fun hok => ih false ?_
      intro front next later hsplit hfront
      refine h (item :: front) next later (by rw [hsplit]; rfl) fun x hx => ?_
      obtain rfl | hx := List.mem_cons.mp hx
      · exact hok
      · exact hfront x hx
    rw [renderEach, renderEach, hitem, hrest]

theorem runStep_congr {v : Value} {step : Step}
    (h : ∀ next, step.HandsOn render v next → other next = render next) :
    runStep other v step = runStep render v step := by
  cases step with
  | put _ | display | inspect | fail _ _ => rfl
  | quoted =>
    rw [runStep, runStep]
    cases htext : v.display? with
    | error failure => rfl
    | ok text => exact h _ (.quoted htext)
  | render w => exact h w (.render w)
  | each separator =>
    rw [runStep, runStep]
    cases hitems : v.items? with
    | none => rfl
    | some items =>
      refine renderEach_congr hsteady separator true fun front item rest hsplit hfront => ?_
      exact h item (.each separator (by rw [hitems, hsplit]) hfront)

theorem runSteps_congr {v : Value} {renderer : Renderer}
    (h : ∀ front step rest next, renderer = front ++ step :: rest →
      (runSteps render v front).outcome = .ok () → step.HandsOn render v next →
        other next = render next) :
    runSteps other v renderer = runSteps render v renderer := by
  induction renderer with
  | nil => rfl
  | cons step rest ih =>
    have hstep : runStep other v step = runStep render v step :=
      runStep_congr hsteady fun next hnext => h [] step rest next rfl rfl hnext
    have hrest : (do runStep render v step; runSteps other v rest)
        = (do runStep render v step; runSteps render v rest) := by
      have hfirst := isSteady_runStep hsteady v step
      refine hfirst.andThen_congr fun hok => ih fun front later last next hsplit hfront => ?_
      refine h (step :: front) later last next (by rw [hsplit]; rfl) ?_
      rw [runSteps, hfirst.outcome_andThen (isSteady_runSteps hsteady v front) hok]
      exact hfront
    rw [runSteps, runSteps, hstep, hrest]

end Congr

/-! ## Failures of what is handed on -/

section Failing

variable {render : Value → Writer Unit} (hsteady : ∀ v, (render v).IsSteady)
include hsteady

theorem outcome_renderEach_of_error (separator : String) {front rest : List Value} {item : Value}
    {failure : Failure} (hfront : ∀ other ∈ front, (render other).outcome = .ok ())
    (hfail : (render item).outcome = .error failure) :
    (renderEach render separator true (front ++ item :: rest)).outcome = .error failure := by
  have hparts : renderEach render separator true (front ++ item :: rest)
      = inOrder ([put separator].intercalate
          ((front ++ item :: rest).map fun item => [render item])) :=
    renderEach_eq_inOrder separator fun item _ => bind_pure_unit.symm
  rw [hparts, List.map_append, List.map_cons, intercalate_append_cons]
  refine (delivers_inOrder_cut (fun w hw => ?_) (hsteady item) hfail).outcome_eq
  -- in front are items and separators
  obtain ⟨_, hleft, hw⟩ := List.mem_flatMap.mp hw
  obtain ⟨other, hother, rfl⟩ := List.mem_map.mp hleft
  obtain rfl | rfl : w = render other ∨ w = put separator := by simpa using hw
  · exact ⟨hsteady other, hfront other hother⟩
  · exact ⟨isSteady_put separator, (delivers_put separator).outcome_eq⟩

theorem outcome_runStep_of_error {v next : Value} {step : Step} {failure : Failure}
    (hstep : step.HandsOn render v next) (hfail : (render next).outcome = .error failure) :
    (runStep render v step).outcome = .error failure := by
  cases hstep with
  | render => exact hfail
  | quoted htext =>
    rw [runStep, htext]
    exact hfail
  | each separator hitems hfront =>
    rw [runStep, hitems]
    exact outcome_renderEach_of_error hsteady separator hfront hfail

theorem outcome_runSteps_of_error {v next : Value} {step : Step} {front rest : Renderer}
    {failure : Failure} (hfront : (runSteps render v front).outcome = .ok ())
    (hstep : step.HandsOn render v next) (hfail : (render next).outcome = .error failure) :
    (runSteps render v (front ++ step :: rest)).outcome = .error failure := by
  have hlast := outcome_runStep_of_error hsteady hstep hfail
  induction front with
  | nil => exact (isSteady_runStep hsteady v step).outcome_halt hlast
  | cons first front ih =>
    have hfirst := isSteady_runStep hsteady v first
    rw [runSteps] at hfront
    cases hok : (runStep render v first).outcome with
    | error other =>
      rw [hfirst.outcome_halt hok] at hfront
      cases hfront
    | ok _ =>
      rw [hfirst.outcome_andThen (isSteady_runSteps hsteady v front) hok] at hfront
      rw [List.cons_append, runSteps,
        hfirst.outcome_andThen (isSteady_runSteps hsteady v _) hok]
      exact ih hfront

end Failing

/-! ## Two registries -/

section Registries

variable {rs others : Renderers} {depth : Nat}

/-- For the values of which `P` holds, other renderers are chosen alike and run alike, and `P` holds
of the items that are reached. -/
structure AgreesOn (rs : Renderers) (depth : Nat) (others : Renderers) (otherDepth : Nat)
    (P : Value → Prop) : Prop where
  rule : ∀ v, P v → others.renderer? v = rs.renderer? v
  run : ∀ v renderer, P v → rs.renderer? v = some renderer →
    others.run otherDepth renderer v = rs.run depth renderer v
  item : ∀ v front item rest, P v → rs.renderer? v = none →
    v.sequence? = some (front ++ item :: rest) →
    (∀ other ∈ front, (rs.writeAt depth other).outcome = .ok ()) → P item

/-- Such values are rendered alike. -/
theorem AgreesOn.writeAt_eq {otherDepth : Nat} {P : Value → Prop}
    (h : AgreesOn rs depth others otherDepth P) (v : Value) (hv : P v) :
    others.writeAt otherDepth v = rs.writeAt depth v := by
  induction v using Value.sequence_induction with
  | h v ih =>
    have hsame := h.rule v hv
    rw [writeAt, writeAt]
    cases hrule : rs.renderer? v with
    | some renderer =>
      rw [writeWith_of_renderer? _ _ (hsame.trans hrule), writeWith_of_renderer? _ _ hrule]
      exact h.run v renderer hv hrule
    | none =>
      rw [hrule] at hsame
      cases hitems : v.sequence? with
      | none =>
        rw [writeWith_of_renderer?_eq_none _ _ hsame, writeWith_of_renderer?_eq_none _ _ hrule]
        exact builtIn_congr _ _ hitems _ _ _
      | some items =>
        -- only the items that are reached have to be alike
        have heach : renderEach (others.writeAt otherDepth) ", " true items
            = renderEach (rs.writeAt depth) ", " true items := by
          refine renderEach_congr (rs.isSteady_writeAt depth) ", " true
            fun front item rest hsplit hfront => ?_
          have hitem : item ∈ items := by simp [hsplit]
          exact ih items hitems item hitem
            (h.item v front item rest hv hrule (by rw [hitems, hsplit]) hfront)
        rw [writeWith_of_sequence? _ _ hsame hitems, writeWith_of_sequence? _ _ hrule hitems]
        show (do put "["; renderEach (others.writeAt otherDepth) ", " true items; put "]") = _
        rw [heach]
        rfl

/-- The other renderers say the same about every value that is visited while `v` is rendered. -/
def VisitsAlike (rs others : Renderers) (depth : Nat) (v : Value) : Prop :=
  ∀ w, rs.Visits depth v w → others.nearest? w.lineage = rs.nearest? w.lineage

theorem agreesOn_visitsAlike
    (hrun : ∀ v renderer, rs.VisitsAlike others depth v → rs.renderer? v = some renderer →
      others.run depth renderer v = rs.run depth renderer v) :
    AgreesOn rs depth others depth (rs.VisitsAlike others depth) where
  rule v hv := by rw [renderer?, renderer?, hv v (.self depth v)]
  run := hrun
  item _ _ _ _ hv hrule hitems hfront := fun w hw => hv w (.item hrule hitems hfront hw)

theorem run_congr_of_visits (v : Value) (renderer : Renderer) (hv : rs.VisitsAlike others depth v)
    (hrule : rs.renderer? v = some renderer) :
    others.run depth renderer v = rs.run depth renderer v := by
  induction depth generalizing v renderer with
  | zero => rfl
  | succ depth ih =>
    rw [run, run]
    show runSteps (others.writeAt depth) v renderer = runSteps (rs.writeAt depth) v renderer
    -- whatever is visited from a value that is handed on is visited from `v`
    refine runSteps_congr (rs.isSteady_writeAt depth)
      fun front step rest next hsplit hfront hstep => ?_
    refine (agreesOn_visitsAlike ih).writeAt_eq next fun w hw => ?_
    exact hv w (.step (hsplit ▸ hrule) hfront hstep hw)

/-- **Only what is asked about the values that are visited makes a difference.** -/
theorem writeAt_congr_of_visits {v : Value} (h : rs.VisitsAlike others depth v) :
    others.writeAt depth v = rs.writeAt depth v :=
  (agreesOn_visitsAlike run_congr_of_visits).writeAt_eq v h

/-! ## More depth -/

/-- Rendering comes to its end without renderers that call one another too deeply. -/
def Settles (rs : Renderers) (depth : Nat) (v : Value) : Prop :=
  (rs.writeAt depth v).outcome ≠ .error .tooDeep

theorem agreesOn_settles (more : Nat)
    (hrun : ∀ v renderer, (rs.run depth renderer v).outcome ≠ .error .tooDeep →
      rs.run (depth + more) renderer v = rs.run depth renderer v) :
    AgreesOn rs depth rs (depth + more) (rs.Settles depth) where
  rule _ _ := rfl
  run v renderer hv hrule := by
    rw [Settles, writeAt, writeWith_of_renderer? _ _ hrule] at hv
    exact hrun v renderer hv
  item _ _ _ _ hv hrule hitems hfront :=
    fun hfail => hv (outcome_writeAt_of_error hrule hitems hfront hfail)

theorem run_add_of_outcome_ne (more : Nat) (v : Value) (renderer : Renderer)
    (h : (rs.run depth renderer v).outcome ≠ .error .tooDeep) :
    rs.run (depth + more) renderer v = rs.run depth renderer v := by
  induction depth generalizing v renderer with
  | zero => exact (h rfl).elim
  | succ depth ih =>
    rw [Nat.succ_add, run, run]
    show runSteps (rs.writeAt (depth + more)) v renderer = runSteps (rs.writeAt depth) v renderer
    have hsteady := rs.isSteady_writeAt depth
    -- if the depth did not suffice for a value that is handed on, it would not suffice for `v`
    refine runSteps_congr hsteady fun front step rest next hsplit hfront hstep => ?_
    refine (agreesOn_settles more ih).writeAt_eq next fun hfail => h ?_
    rw [hsplit]
    exact outcome_runSteps_of_error hsteady hfront hstep hfail

/-- **Rendering that comes to its end is the same however deep renderers may call one another.** -/
theorem writeAt_add_of_settles (more : Nat) {v : Value} (h : rs.Settles depth v) :
    rs.writeAt (depth + more) v = rs.writeAt depth v :=
  (agreesOn_settles more (run_add_of_outcome_ne more)).writeAt_eq v h

end Registries

end Renderers

end SqlText
