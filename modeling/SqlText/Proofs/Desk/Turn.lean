import SqlText.Proofs.Desk.Action

/-!
Everything that a command can do to a desk. `Turn` has one case for each way in which a command can
go, with the condition under which it goes so, the outcome, and the desk afterwards; `step_turn`
says that there is no other way, and `Turn.unique` that no two ways are open at once. What holds
after every step is proved by the cases of `Turn`, and no other module opens the actions. There is
one way to fail after which the query is gone, and `LosesQuery` names it.
-/

namespace SqlText

/-- The commands that a finished session refuses. -/
def SessionCommand.isRefused : SessionCommand → Bool
  | .push _ | .pushUnseparated _ | .finish => true
  | .enter | .leave => false

namespace Desk

/-- The text that an item adds through a session: the separator stands in front once it is due. -/
def addition? (desk : Desk) (s : Session) (item : Item) : Except Failure String := do
  let text ← desk.chunk? item
  if s.separates then return (← rawChunk? s.separator) ++ text else return text

/-- The text that a command adds to the query through a session, if it adds any. -/
def written? (desk : Desk) (s : Session) : SessionCommand → Option (Except Failure String)
  | .push item => some (desk.addition? s item)
  | .pushUnseparated v => some (rawChunk? v)
  | .enter | .finish | .leave => none

/-- The item comes first: without its text, it does not matter what the separator is. -/
theorem written?_push_of_chunk? {desk : Desk} (s : Session) {item : Item} {failure : Failure}
    (h : desk.chunk? item = .error failure) :
    desk.written? s (.push item) = some (.error failure) := by
  rw [written?, addition?, h]
  rfl

/-- The desk after an item of session `id`, where `query` is the query with it. -/
def withItem (desk : Desk) (id : Nat) (s : Session) (query : String) : Desk :=
  if s.separates then desk.withQuery (some query)
  else (desk.withQuery (some query)).withSession id { s with separates := true }

/-- What a command may come to. -/
inductive Turn (desk : Desk) : Command → Except Failure Reply → Desk → Prop
  /-- A builder that is built refuses every use. -/
  | built (command : BuilderCommand) (hquery : desk.builder.query = none) :
      Turn desk (.builder command) (.error .alreadyBuilt) (desk.noticed .usedAfterBuild)
  /-- A builder that a session holds refuses every use. -/
  | held (command : BuilderCommand) {query : String} {id : Nat} {s : Session}
      (hquery : desk.builder.query = some query) (hholder : desk.holder? = some (id, s)) :
      Turn desk (.builder command) (.error s.refusal) (desk.noticed .usedWhileBorrowed)
  | unpushed (item : Item) {query : String} {failure : Failure}
      (hquery : desk.builder.query = some query) (hfree : desk.holder? = none)
      (hchunk : desk.chunk? item = .error failure) :
      Turn desk (.builder (.push item)) (.error failure) desk.settled
  | pushed (item : Item) {query text : String}
      (hquery : desk.builder.query = some query) (hfree : desk.holder? = none)
      (hchunk : desk.chunk? item = .ok text) :
      Turn desk (.builder (.push item)) (.ok .builder)
        (desk.settled.withQuery (some (query ++ text)))
  | separated (separator : Value) {query : String}
      (hquery : desk.builder.query = some query) (hfree : desk.holder? = none) :
      Turn desk (.builder (.separated separator)) (.ok (.session desk.opened))
        ((desk.withOpened .borrowing separator).lent desk.opened)
  | build {query : String} {logged : Bool}
      (hquery : desk.builder.query = some query) (hfree : desk.holder? = none)
      (htruth : desk.settings.logQueries.truth? = .ok logged) :
      Turn desk (.builder .build) (.ok (.query query))
        (desk.settled.handedOver query logged)
  /-- By the time that the settings fail to say whether the query is logged, it is gone. -/
  | lost {query : String} {failure : Failure}
      (hquery : desk.builder.query = some query) (hfree : desk.holder? = none)
      (htruth : desk.settings.logQueries.truth? = .error failure) :
      Turn desk (.builder .build) (.error failure) (desk.settled.withQuery none)
  | openedDirect (separator : Value) :
      Turn desk (.openDirect separator) (.ok (.session desk.opened))
        (desk.withOpened .direct separator)
  | absent {id : Nat} (command : SessionCommand) (hsession : desk.session? id = none) :
      Turn desk (.session id command) (.ok .noSession) desk
  | entered {id : Nat} {s : Session} (hsession : desk.session? id = some s) :
      Turn desk (.session id .enter) (.ok (.session id)) desk
  /-- A finished session refuses to be used, but not to be left. -/
  | refused {id : Nat} {s : Session} {command : SessionCommand}
      (hsession : desk.session? id = some s) (hfinished : s.isFinished = true)
      (hcommand : command.isRefused = true) :
      Turn desk (.session id command) (.error .sessionFinished) (desk.noticed .usedAfterFinish)
  | leftAgain {id : Nat} {s : Session} (hsession : desk.session? id = some s)
      (hfinished : s.isFinished = true) :
      Turn desk (.session id .leave) (.ok .done) desk
  | finished {id : Nat} {s : Session} (hsession : desk.session? id = some s)
      (hactive : s.isFinished = false) :
      Turn desk (.session id .finish) (.ok .builder)
        ((desk.released id).withSession id { s with isFinished := true })
  | left {id : Nat} {s : Session} (hsession : desk.session? id = some s)
      (hactive : s.isFinished = false) :
      Turn desk (.session id .leave) (.ok .done)
        ((desk.released id).withSession id { s with isFinished := true })
  | unwritten {id : Nat} {s : Session} {command : SessionCommand} {failure : Failure}
      (hsession : desk.session? id = some s) (hactive : s.isFinished = false)
      (hwritten : desk.written? s command = some (.error failure)) :
      Turn desk (.session id command) (.error failure) desk
  /-- The buffer of a builder that is built takes no more text. -/
  | closed {id : Nat} {s : Session} {command : SessionCommand} {text : String}
      (hsession : desk.session? id = some s) (hactive : s.isFinished = false)
      (hwritten : desk.written? s command = some (.ok text))
      (hquery : desk.builder.query = none) :
      Turn desk (.session id command) (.error .closed) desk
  | itemPushed {id : Nat} {s : Session} (item : Item) {query text : String}
      (hsession : desk.session? id = some s) (hactive : s.isFinished = false)
      (haddition : desk.addition? s item = .ok text)
      (hquery : desk.builder.query = some query) :
      Turn desk (.session id (.push item)) (.ok (.session id))
        (desk.withItem id s (query ++ text))
  | unseparatedPushed {id : Nat} {s : Session} (v : Value) {query text : String}
      (hsession : desk.session? id = some s) (hactive : s.isFinished = false)
      (hchunk : rawChunk? v = .ok text)
      (hquery : desk.builder.query = some query) :
      Turn desk (.session id (.pushUnseparated v)) (.ok (.session id))
        (desk.withQuery (some (query ++ text)))
  | forgotten (id : Nat) : Turn desk (.forget id) (.ok .done) (desk.without id)
  | registered (registration : Registration) :
      Turn desk (.register registration) (.ok .done)
        { desk with registries := desk.registries.apply registration }
  | assigned (field : SettingsField) (v : Value) :
      Turn desk (.assign field v) (.ok .done)
        { desk with settings := desk.settings.assign v field }

/-! ## Every step is a turn -/

open SqlText.Desk.Action

theorem settled_of_free {desk : Desk} (hfree : desk.holder? = none) :
    desk.settled = { desk with builder := { desk.builder with borrower := none } } := by
  rw [settled, hfree]
  rfl

/-- A free builder is used. -/
theorem turn_free {desk : Desk} {query : String} (hquery : desk.builder.query = some query)
    (hfree : desk.holder? = none) (command : BuilderCommand) :
    Turn desk (.builder command) ((runBuilder command).on desk).1
      ((runBuilder command).on desk).2 := by
  have hsettled := settled_of_free hfree
  have hopen : desk.settled.builder.query = some query := by rw [hsettled, hquery]
  unfold runBuilder
  rw [on_bind, checkUsable_on_free hquery hfree]
  cases command with
  | push item =>
    -- whether a borrower is struck out makes no difference to a chunk
    have hsame : desk.settled.chunk? item = desk.chunk? item := by
      rw [hsettled]
      cases item <;> rfl
    simp only
    rw [on_bind, on_get]
    simp only
    rw [on_bind, on_ofExcept, hsame]
    cases hchunk : desk.chunk? item with
    | error failure => exact .unpushed item hquery hfree hchunk
    | ok text =>
      simp only
      rw [on_bind, append_on_open hopen]
      exact .pushed item hquery hfree hchunk
  | separated separator =>
    -- the new borrower takes the place of one that is no longer there
    have hlent : (desk.settled.withOpened .borrowing separator).lent desk.opened
        = (desk.withOpened .borrowing separator).lent desk.opened := by
      rw [hsettled]
      rfl
    have hopened : desk.settled.opened = desk.opened := by rw [hsettled]
    simp only
    rw [on_bind, openSession_on]
    simp only
    rw [on_bind, on_modify]
    show Turn desk _ (.ok (.session desk.settled.opened))
      ((desk.settled.withOpened .borrowing separator).lent desk.settled.opened)
    rw [hopened, hlent]
    exact .separated separator hquery hfree
  | build =>
    have hsettings : desk.settled.settings = desk.settings := by rw [hsettled]
    simp only
    rw [on_bind, build_on hopen, hsettings]
    cases htruth : desk.settings.logQueries.truth? with
    | ok logged => exact .build hquery hfree htruth
    | error failure => exact .lost hquery hfree htruth

/-- The builder's commands: built, held by a session, or free to be used. -/
theorem turn_builder (desk : Desk) (command : BuilderCommand) :
    Turn desk (.builder command) ((runBuilder command).on desk).1
      ((runBuilder command).on desk).2 := by
  cases hquery : desk.builder.query with
  | none =>
    unfold runBuilder
    rw [on_bind, checkUsable_on_built hquery]
    exact .built command hquery
  | some query =>
    cases hholder : desk.holder? with
    | some held =>
      unfold runBuilder
      rw [on_bind, checkUsable_on_held hquery hholder]
      exact .held command hquery hholder
    | none => exact turn_free hquery hholder command

/-- An item is added with its separator, and from then on the separator is due. -/
theorem pushItem_on {desk : Desk} {id : Nat} {s : Session} {item : Item} :
    (pushItem id s item).on desk
      = match desk.addition? s item, desk.builder.query with
        | .error failure, _ => (.error failure, desk)
        | .ok _, none => (.error .closed, desk)
        | .ok text, some query => (.ok (), desk.withItem id s (query ++ text)) := by
  rw [pushItem, on_bind, on_get]
  simp only
  rw [on_bind, on_ofExcept, addition?]
  cases desk.chunk? item with
  | error failure => rfl
  | ok text =>
    simp only [withItem]
    by_cases hdue : s.separates = true
    · -- the separator may have no text, and then nothing is written
      simp only [hdue, if_true]
      rw [on_bind, on_ofExcept]
      cases rawChunk? s.separator with
      | error failure => rfl
      | ok separator =>
        cases hquery : desk.builder.query with
        | none => exact append_on_built hquery (separator ++ text)
        | some query => exact append_on_open hquery (separator ++ text)
    · -- the flag is set once the item is written, and not where this fails
      simp only [hdue]
      show (append text >>= fun _ => setSession id { s with separates := true }).on desk = _
      rw [on_bind]
      cases hquery : desk.builder.query with
      | none => rw [append_on_built hquery]; rfl
      | some query => rw [append_on_open hquery]; rfl

/-- The commands of a session that is not finished. -/
theorem turn_active {desk : Desk} {id : Nat} {s : Session} (hsession : desk.session? id = some s)
    (hactive : s.isFinished = false) (command : SessionCommand) :
    Turn desk (.session id command) ((runSession id s command).on desk).1
      ((runSession id s command).on desk).2 := by
  cases command with
  | enter => exact .entered hsession
  | push item =>
    rw [runSession, on_bind, checkActive_on_active hactive]
    simp only
    rw [on_bind, pushItem_on]
    cases haddition : desk.addition? s item with
    | error failure => exact .unwritten hsession hactive (congrArg some haddition)
    | ok text =>
      cases hquery : desk.builder.query with
      | none => exact .closed hsession hactive (congrArg some haddition) hquery
      | some query => exact .itemPushed item hsession hactive haddition hquery
  | pushUnseparated v =>
    rw [runSession, on_bind, checkActive_on_active hactive]
    simp only
    rw [on_bind, on_ofExcept]
    cases hchunk : rawChunk? v with
    | error failure => exact .unwritten hsession hactive (congrArg some hchunk)
    | ok text =>
      simp only
      rw [on_bind]
      cases hquery : desk.builder.query with
      | none =>
        rw [append_on_built hquery]
        exact .closed hsession hactive (congrArg some hchunk) hquery
      | some query =>
        rw [append_on_open hquery]
        exact .unseparatedPushed v hsession hactive hchunk hquery
  | finish =>
    rw [runSession, on_bind, checkActive_on_active hactive]
    simp only
    rw [on_bind, finish_on]
    exact .finished hsession hactive
  | leave =>
    -- to leave an unfinished session is to finish it
    rw [runSession, hactive]
    show Turn desk _ (((finish id s) >>= fun _ => pure Reply.done).on desk).1
      (((finish id s) >>= fun _ => pure Reply.done).on desk).2
    rw [on_bind, finish_on]
    exact .left hsession hactive

/-- The commands of a finished session. -/
theorem turn_finished {desk : Desk} {id : Nat} {s : Session}
    (hsession : desk.session? id = some s) (hfinished : s.isFinished = true)
    (command : SessionCommand) :
    Turn desk (.session id command) ((runSession id s command).on desk).1
      ((runSession id s command).on desk).2 := by
  cases command with
  | enter => exact .entered hsession
  | push _ | pushUnseparated _ | finish =>
    rw [runSession, on_bind, checkActive_on_finished hfinished]
    exact .refused hsession hfinished rfl
  | leave =>
    rw [runSession, hfinished]
    exact .leftAgain hsession hfinished

/-- **Every step is a turn.** -/
theorem step_turn (desk : Desk) (command : Command) :
    Turn desk command (desk.step command).1 (desk.step command).2 := by
  show Turn desk command ((run command).on desk).1 ((run command).on desk).2
  cases command with
  | builder command => exact turn_builder desk command
  | openDirect separator => exact .openedDirect separator
  | session id command =>
    rw [run, on_bind, on_get]
    simp only
    cases hsession : desk.session? id with
    | none => exact .absent command hsession
    | some s =>
      cases hfinished : s.isFinished with
      | true => exact turn_finished hsession hfinished command
      | false => exact turn_active hsession hfinished command
  | forget id => exact .forgotten id
  | register registration => exact .registered registration
  | assign field v => exact .assigned field v

/-- **A command goes one way only.** The conditions of the turns exclude one another. -/
theorem Turn.unique {desk next other : Desk} {command : Command}
    {outcome result : Except Failure Reply} (h : Turn desk command outcome next)
    (hother : Turn desk command result other) : outcome = result ∧ next = other := by
  cases h with
  | built | held | unpushed | pushed | separated | build | lost =>
    -- the query, the holder, the chunk and the settings tell how the builder is used
    cases hother <;> simp_all
  | absent | entered | refused | leftAgain | finished | left | unwritten | closed | itemPushed
  | unseparatedPushed =>
    -- the session, its flag and what it writes tell how the session is used
    cases hother <;> simp_all [SessionCommand.isRefused, written?]
  | openedDirect | forgotten | registered | assigned =>
    cases hother
    exact ⟨rfl, rfl⟩

theorem Turn.step_eq {desk next : Desk} {command : Command} {outcome : Except Failure Reply}
    (h : Turn desk command outcome next) : desk.step command = (outcome, next) := by
  obtain ⟨houtcome, hnext⟩ := (step_turn desk command).unique h
  exact Prod.ext houtcome hnext

/-! ## Failures that lose the query -/

/-- A command takes the query from a builder that is free to hand it out, and then fails, since the
settings do not say whether the query is logged. -/
structure LosesQuery (desk : Desk) (command : Command) (failure : Failure) : Prop where
  command : command = .builder .build
  unbuilt : desk.builder.isBuilt = false
  free : desk.holder? = none
  unanswered : desk.settings.logQueries.truth? = .error failure

theorem losesQuery_of_query {desk : Desk} {query : String} {failure : Failure}
    (hquery : desk.builder.query = some query) (hfree : desk.holder? = none)
    (htruth : desk.settings.logQueries.truth? = .error failure) :
    LosesQuery desk (.builder .build) failure := by
  refine ⟨rfl, ?_, hfree, htruth⟩
  rw [Builder.isBuilt, hquery]
  rfl

theorem LosesQuery.step_eq {desk : Desk} {command : Command} {failure : Failure}
    (h : LosesQuery desk command failure) :
    desk.step command = (.error failure, desk.settled.withQuery none) := by
  obtain ⟨rfl, hunbuilt, hfree, htruth⟩ := h
  cases hquery : desk.builder.query with
  | none => simp [Builder.isBuilt, hquery] at hunbuilt
  | some query => exact (Turn.lost hquery hfree htruth).step_eq

end Desk

end SqlText
