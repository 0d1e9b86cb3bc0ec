import SqlText.Proofs.Desk.Atomicity
import SqlText.Proofs.Literal.Failure

/-!
Use of a builder that a session holds. The refusal shows the separator of the session, and to show a
separator is to run its code. So whoever uses the builder is told that it is borrowed if the
separator can be shown, and is handed the failure of the separator's code if not. Either way nothing
changes, and nobody else is ever told that a builder is borrowed (`ReportsBorrow`).

* `Coherent.step_of_isLive`: the refusal, where a session is live;
* `Turn.reports_of_borrowed`: a free builder is not reported as borrowed, except by user's code;
* `Reachable.reportsBorrow`: all of this, at every desk in use.
-/

namespace SqlText.Desk

/-- **Where a session is live, every use of the builder is refused**, and only that is noticed. -/
theorem Coherent.step_of_isLive {desk : Desk} (h : Coherent desk) {id : Nat} {s : Session}
    (hs : desk.session? id = some s) (hlive : s.IsLive) (command : BuilderCommand) :
    desk.step (.builder command) = (.error s.refusal, desk.noticed .usedWhileBorrowed) := by
  have hholder : desk.holder? = some (id, s) := (h.holder?_iff id s).mpr ⟨hs, hlive⟩
  cases hquery : desk.builder.query with
  | none =>
    -- a builder that is built has no holder
    have hfree := h.built hquery
    rw [hholder] at hfree
    cases hfree
  | some query => exact (Turn.held command hquery hholder).step_eq

theorem refusal_of_shown {s : Session} {shown : String} (h : s.separator.inspect? = .ok shown) :
    s.refusal = .builderBorrowed shown := by
  rw [Session.refusal, h]

theorem refusal_of_unshown {s : Session} {failure : Failure}
    (h : s.separator.inspect? = .error failure) : s.refusal = failure := by
  rw [Session.refusal, h]

/-- A chunk fails as a borrowed builder does only where the code of a user reports this failure
while a literal is rendered. -/
theorem ChunkFails.reports_of_borrowed {desk : Desk} {item : Item} {failure : Failure}
    (h : ChunkFails desk item failure) (hkind : failure.kind = .builderBorrowed) :
    ∃ v, item = .literal v
      ∧ (v.Reports failure ∨ desk.registries.renderers.Reports failure) := by
  cases h with
  | ownLiteral hfailure hown =>
    obtain hvalue | hregistered | hrendering := Renderers.reports_of_format? hfailure
    · exact ⟨_, rfl, .inl hvalue⟩
    · exact ⟨_, rfl, .inr hregistered⟩
    · -- the failures of rendering are of other kinds
      cases hrendering <;> cases hkind
  | raw | identifier | literal | emptyQuote => cases hkind

/-- **Nobody but a user says of a free builder that it is borrowed.** -/
theorem Turn.reports_of_borrowed {desk next : Desk} {command : BuilderCommand} {failure : Failure}
    (hturn : Turn desk (.builder command) (.error failure) next) (hfree : desk.holder? = none)
    (hkind : failure.kind = .builderBorrowed) :
    (∃ v, command = .push (.literal v)
      ∧ (v.Reports failure ∨ desk.registries.renderers.Reports failure))
      ∨ LosesQuery desk (.builder command) failure := by
  cases hturn with
  | built command hquery => cases hkind
  | held command hquery hholder =>
    rw [hfree] at hholder
    cases hholder
  | unpushed item hquery hfree hchunk =>
    obtain ⟨v, rfl, hreports⟩ := (chunkFails_of_chunk? hchunk).reports_of_borrowed hkind
    exact .inl ⟨v, rfl, hreports⟩
  | lost hquery _ htruth => exact .inr (losesQuery_of_query hquery hfree htruth)

/-- What is said to those who use the builder. -/
structure ReportsBorrow (desk : Desk) : Prop where
  /-- Where a live session has a separator that can be shown, every use of the builder is reported
  as use of a borrowed one. -/
  shown : ∀ id s shown, desk.session? id = some s → s.IsLive → s.separator.inspect? = .ok shown →
    ∀ command : BuilderCommand,
      (desk.step (.builder command)).1 = .error (.builderBorrowed shown)
  /-- Where it cannot be shown, the failure of its own code comes through instead. -/
  unshown : ∀ id s failure, desk.session? id = some s → s.IsLive →
    s.separator.inspect? = .error failure → s.separator.Reports failure
      ∧ ∀ command : BuilderCommand, (desk.step (.builder command)).1 = .error failure
  /-- Text, borrow and sessions are as before, whatever the failure is. -/
  unchanged : ∀ id, desk.IsLive id → ∀ command : BuilderCommand,
    (desk.step (.builder command)).2.LooksLike desk
  /-- Where no session is live, no use of the builder is reported so, unless the code of a user
  does it while a literal is rendered, or while the flag of the log is asked. -/
  free : (∀ id, ¬desk.IsLive id) → ∀ (command : BuilderCommand) (failure : Failure),
    (desk.step (.builder command)).1 = .error failure → failure.kind = .builderBorrowed →
      (∃ v, command = .push (.literal v)
        ∧ (v.Reports failure ∨ desk.registries.renderers.Reports failure))
        ∨ LosesQuery desk (.builder command) failure

/-- **The borrow is reported at every desk in use.** -/
theorem Reachable.reportsBorrow {desk : Desk} (h : Reachable desk) : ReportsBorrow desk where
  shown id s shown hs hlive hshown command := by
    rw [h.coherent.step_of_isLive hs hlive, refusal_of_shown hshown]
  unshown id s failure hs hlive hunshown := by
    refine ⟨Value.reports_of_inspect? s.separator hunshown, fun command => ?_⟩
    rw [h.coherent.step_of_isLive hs hlive, refusal_of_unshown hunshown]
  unchanged id hlive command := by
    obtain ⟨s, hs, hlive⟩ := hlive
    have hfail : (desk.step (.builder command)).1 = .error s.refusal := by
      rw [h.coherent.step_of_isLive hs hlive]
    -- what a session holds is not free to be handed out
    exact h.looksLike_of_error hfail fun hlost =>
      h.coherent.not_isLive_of_free hlost.free hs hlive
  free hdead command failure hfail hkind := by
    have hfree : desk.holder? = none := by
      cases hholder : desk.holder? with
      | none => rfl
      | some held =>
        obtain ⟨id, s⟩ := held
        exact absurd ⟨s, (h.coherent.holder?_iff id s).mp hholder⟩ (hdead id)
    have hturn := step_turn desk (.builder command)
    rw [hfail] at hturn
    exact hturn.reports_of_borrowed hfree hkind

/-- A session whose separator is a list, and a builder that is used all the same. -/
theorem reportsBorrow_built :
    let desk := (plain "IN ").after [.builder (.separated (.list [.text ", "]))]
    Reachable desk
      ∧ (desk.step (.builder .build)).1 = .error (.builderBorrowed "[', ']")
      ∧ (desk.step (.builder .build)).2.LooksLike desk := by
  intro desk
  have hreachable : Reachable desk := (Reachable.new (new?_plain "IN ")).after _
  have hlive : Session.IsLive { opening := .borrowing, separator := .list [.text ", "] } :=
    ⟨rfl, rfl⟩
  have hreports := hreachable.reportsBorrow
  refine ⟨hreachable, ?_, ?_⟩
  · exact hreports.shown 0 _ _ rfl hlive rfl .build
  · exact hreports.unchanged 0 ⟨_, rfl, hlive⟩ .build

/-- A separator that can be appended to a query, but not be shown in a message. -/
def unshownSeparator : Value :=
  .object (.declared "styles" "Comma") [] none
    { displayed := .ok ", ", inspected := .error (.raised .invalidValue "no repr") }

/-- While its session is live, the builder is not reported as borrowed. -/
theorem step_unshownSeparator :
    let desk := (plain "SELECT ").after [.builder (.separated unshownSeparator)]
    Reachable desk ∧ desk.IsLive 0
      ∧ (desk.step (.builder (.push (.raw (.text "1"))))).1
        = .error (.raised .invalidValue "no repr")
      ∧ (Failure.raised .invalidValue "no repr").kind ≠ .builderBorrowed :=
  ⟨(Reachable.new (new?_plain "SELECT ")).after _, ⟨_, rfl, rfl, rfl⟩, rfl, by decide⟩

end SqlText.Desk
