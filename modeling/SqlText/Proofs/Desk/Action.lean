import SqlText.Desk.Step

/-!
Actions on a desk, one equation for each. `Action.on` is what an action comes to on a desk: an
outcome and the desk afterwards, which is there after a failure too. The changes that an action
makes to a desk are functions with names of their own, and the later modules speak of these.
-/

namespace SqlText

/-- The failure of one who uses the builder while this session holds it. It shows the separator, and
it is another failure where that cannot be shown. -/
def Session.refusal (s : Session) : Failure :=
  match s.separator.inspect? with
  | .ok shown => .builderBorrowed shown
  | .error failure => failure

namespace Desk

/-- What an action comes to on a desk. -/
def Action.on {α : Type} (action : Action α) (desk : Desk) : Except Failure α × Desk :=
  StateT.run (ExceptT.run action) desk

namespace Action

variable {α β : Type}

/-- An action that fails is the last one; the desk stays as that action left it. -/
theorem on_bind (action : Action α) (next : α → Action β) (desk : Desk) :
    (action >>= next).on desk
      = match action.on desk with
        | (.ok a, desk) => (next a).on desk
        | (.error failure, desk) => (.error failure, desk) := by
  simp only [on, ExceptT.run_bind, StateT.run_bind]
  rcases (StateT.run (ExceptT.run action) desk : Except Failure α × Desk) with ⟨_ | _, _⟩ <;> rfl

theorem on_get (desk : Desk) : (get : Action Desk).on desk = (.ok desk, desk) := rfl

theorem on_set (next desk : Desk) : (set next : Action Unit).on desk = (.ok (), next) := rfl

theorem on_modify (change : Desk → Desk) (desk : Desk) :
    (modify change : Action Unit).on desk = (.ok (), change desk) := rfl

theorem on_ofExcept (result : Except Failure α) (desk : Desk) :
    (ofExcept result).on desk = (result, desk) := by
  cases result <;> rfl

end Action

/-! ## What happens to a desk -/

def noticed (desk : Desk) (n : Notice) : Desk := { desk with notices := desk.notices ++ [n] }

/-- The desk where a borrower that is no longer there is struck out. -/
def settled (desk : Desk) : Desk :=
  if desk.holder?.isNone then { desk with builder := { desk.builder with borrower := none } }
  else desk

def withQuery (desk : Desk) (query : Option String) : Desk :=
  { desk with builder := { desk.builder with query } }

def withSession (desk : Desk) (id : Nat) (s : Session) : Desk :=
  { desk with sessions := desk.sessions.map fun e => if e.1 == id then (id, s) else e }

/-- The desk with one more session, under the next number. -/
def withOpened (desk : Desk) (opening : Opening) (separator : Value) : Desk :=
  { desk with
    sessions := (desk.opened, { opening, separator }) :: desk.sessions
    opened := desk.opened + 1 }

def lent (desk : Desk) (id : Nat) : Desk :=
  { desk with builder := { desk.builder with borrower := some id } }

/-- The desk where session `id` does not hold the builder. -/
def released (desk : Desk) (id : Nat) : Desk :=
  if desk.holder?.map (·.1) = some id then
    { desk with builder := { desk.builder with borrower := none } }
  else desk.settled

def without (desk : Desk) (id : Nat) : Desk :=
  { desk with sessions := desk.sessions.filter (·.1 != id) }

/-- The desk whose builder has handed out its query, with a notice if that is `logged`. -/
def handedOver (desk : Desk) (query : String) (logged : Bool) : Desk :=
  if logged then (desk.withQuery none).noticed (.built desk.builder.dialect.name query)
  else desk.withQuery none

/-! ## The actions -/

open SqlText.Desk.Action

theorem notice_on (n : Notice) (desk : Desk) : (notice n).on desk = (.ok (), desk.noticed n) := rfl

theorem append_on_open {desk : Desk} {query : String} (hquery : desk.builder.query = some query)
    (text : String) : (append text).on desk = (.ok (), desk.withQuery (some (query ++ text))) := by
  rw [append, on_bind, on_get]
  simp only [hquery]
  rfl

theorem append_on_built {desk : Desk} (hquery : desk.builder.query = none) (text : String) :
    (append text).on desk = (.error .closed, desk) := by
  rw [append, on_bind, on_get]
  simp only [hquery]
  rfl

/-- The query is gone before the settings are asked, whatever they answer. -/
theorem build_on {desk : Desk} {query : String} (hquery : desk.builder.query = some query) :
    build.on desk
      = match desk.settings.logQueries.truth? with
        | .ok logged => (.ok query, desk.handedOver query logged)
        | .error failure => (.error failure, desk.withQuery none) := by
  have htext : desk.builder.text = query := by
    rw [Builder.text, hquery]
    rfl
  rw [build, on_bind, on_get]
  simp only
  rw [on_bind, on_set]
  simp only [htext]
  rw [on_bind, on_ofExcept]
  cases desk.settings.logQueries.truth? with
  | error failure => rfl
  | ok logged => cases logged <;> rfl

theorem openSession_on (opening : Opening) (separator : Value) (desk : Desk) :
    (openSession opening separator).on desk
      = (.ok desk.opened, desk.withOpened opening separator) := rfl

theorem holder_on (desk : Desk) : holder.on desk = (.ok desk.holder?, desk.settled) := by
  rw [holder, on_bind, on_get]
  by_cases hnone : desk.holder?.isNone
  · simp only [hnone, settled, if_true]
    rfl
  · simp only [hnone, settled]
    rfl

theorem release_on (id : Nat) (desk : Desk) :
    (release id).on desk = (.ok (), desk.released id) := by
  rw [release, on_bind, holder_on]
  by_cases hheld : desk.holder?.map (·.1) = some id
  · -- a borrower that is there is not struck out, but handed back
    have hsettled : desk.settled = desk := by
      cases hholder : desk.holder? with
      | none => simp [hholder] at hheld
      | some held => simp [settled, hholder]
    simp only [released, if_pos hheld, hsettled]
    rfl
  · simp only [released, if_neg hheld]
    rfl

theorem finish_on (id : Nat) (s : Session) (desk : Desk) :
    (finish id s).on desk
      = (.ok (), (desk.released id).withSession id { s with isFinished := true }) := by
  rw [finish, on_bind, release_on]
  rfl

/-! ### Who may use the builder -/

theorem checkUsable_on_built {desk : Desk} (hquery : desk.builder.query = none) :
    checkUsable.on desk = (.error .alreadyBuilt, desk.noticed .usedAfterBuild) := by
  have hbuilt : desk.builder.isBuilt = true := by simp [Builder.isBuilt, hquery]
  rw [checkUsable, on_bind, on_get]
  simp only [hbuilt, if_true]
  rfl

theorem checkUsable_on_held {desk : Desk} {query : String} {id : Nat} {s : Session}
    (hquery : desk.builder.query = some query) (hholder : desk.holder? = some (id, s)) :
    checkUsable.on desk = (.error s.refusal, desk.noticed .usedWhileBorrowed) := by
  have hbuilt : desk.builder.isBuilt = false := by simp [Builder.isBuilt, hquery]
  have hsettled : desk.settled = desk := by simp [settled, hholder]
  rw [checkUsable, on_bind, on_get]
  simp only [hbuilt, Bool.false_eq_true, if_false]
  rw [on_bind, holder_on, hholder, hsettled]
  simp only
  rw [on_bind, notice_on]
  simp only
  rw [on_bind, on_ofExcept, Session.refusal]
  cases s.separator.inspect? with
  | ok shown => rfl
  | error failure => rfl

theorem checkUsable_on_free {desk : Desk} {query : String}
    (hquery : desk.builder.query = some query) (hfree : desk.holder? = none) :
    checkUsable.on desk = (.ok (), desk.settled) := by
  have hbuilt : desk.builder.isBuilt = false := by simp [Builder.isBuilt, hquery]
  rw [checkUsable, on_bind, on_get]
  simp only [hbuilt, Bool.false_eq_true, if_false]
  rw [on_bind, holder_on, hfree]
  rfl

theorem checkActive_on_finished {s : Session} (hfinished : s.isFinished = true) (desk : Desk) :
    (checkActive s).on desk = (.error .sessionFinished, desk.noticed .usedAfterFinish) := by
  rw [checkActive, if_pos hfinished]
  rfl

theorem checkActive_on_active {s : Session} (hactive : s.isFinished = false) (desk : Desk) :
    (checkActive s).on desk = (.ok (), desk) := by
  rw [checkActive, hactive]
  rfl

end Desk

end SqlText
