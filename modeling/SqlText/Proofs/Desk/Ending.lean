import SqlText.Proofs.Desk.Atomicity

/-!
Sessions at their end. A session is finished, or left, or dropped without a word, and the desk knows
which it was: a session that is dropped is not there any more, and the builder still names it as its
borrower. But nobody looks at a session except through its number, and a borrower that is not there
is none. So of the desk as it was only the session is gone (`IsOver`), whichever way it went, and as
long as no command names it, no one can tell the ways apart (`Indistinct`). A session that is over
stays so, and to end it once more does nothing, whoever has the builder by then.

* `exists_step_of_ends`: the ways to end a session, and what each of them leaves;
* `IsOver.indistinct`: what they leave can not be told apart;
* `IsPast.after`: what is over stays over;
* `Reachable.endsAlike`: all of this, at every desk in use.
-/

namespace SqlText.Desk

/-- The desk `next` is `desk`, but that session `id` has not got the builder. What became of the
session itself is left open. -/
structure IsOver (desk : Desk) (id : Nat) (next : Desk) : Prop where
  registries : next.registries = desk.registries
  settings : next.settings = desk.settings
  dialect : next.builder.dialect = desk.builder.dialect
  query : next.builder.query = desk.builder.query
  opened : next.opened = desk.opened
  notices : next.notices = desk.notices
  session : ∀ other, other ≠ id → next.session? other = desk.session? other
  dead : ¬ next.IsLive id

/-- Two desks that one has to look at session `id` to tell apart. -/
structure LooksLikeBut (id : Nat) (desk other : Desk) : Prop where
  dialect : desk.builder.dialect = other.builder.dialect
  query : desk.builder.query = other.builder.query
  holder : desk.holder? = other.holder?
  session : ∀ k, k ≠ id → desk.session? k = other.session? k

/-- Two desks that nobody can tell apart who has not got session `id`. Commands that are not given
to this session and do not drop it have the same outcomes and leave the same notices, and the desks
look alike afterwards. -/
def Indistinct (id : Nat) (desk other : Desk) : Prop :=
  ∀ commands : List Command, (∀ command ∈ commands, ¬ command.Names id) →
    (desk.events commands).map (·.outcome) = (other.events commands).map (·.outcome)
      ∧ (desk.after commands).notices = (other.after commands).notices
      ∧ (desk.after commands).LooksLikeBut id (other.after commands)

/-- A session that was there once and that nobody can use any more: it is finished, or it is off the
desk. -/
structure IsPast (desk : Desk) (id : Nat) : Prop where
  numbered : id < desk.opened
  finished : ∀ s, desk.session? id = some s → s.isFinished = true

/-! ## What an end leaves -/

section Ends

variable {desk : Desk} {id : Nat} {s : Session}

theorem isOver_self (hdead : ¬ desk.IsLive id) : IsOver desk id desk :=
  ⟨rfl, rfl, rfl, rfl, rfl, rfl, fun _ _ => rfl, hdead⟩

theorem isOver_ended (hs : desk.session? id = some s) :
    IsOver desk id ((desk.released id).withSession id { s with isFinished := true }) := by
  have hdead : ¬ ((desk.released id).withSession id { s with isFinished := true }).IsLive id := by
    rintro ⟨t, ht, hlive⟩
    rw [session?_ended hs, if_pos rfl] at ht
    cases ht
    exact absurd hlive.2 nofun
  have hsession : ∀ other, other ≠ id →
      ((desk.released id).withSession id { s with isFinished := true }).session? other
        = desk.session? other := fun other hne => by rw [session?_ended hs, if_neg hne]
  -- the builder is handed back at most
  obtain ⟨borrower, hreleased⟩ := exists_released desk id
  rw [hreleased] at hdead hsession ⊢
  exact ⟨rfl, rfl, rfl, rfl, rfl, rfl, hsession, hdead⟩

theorem isOver_without (desk : Desk) (id : Nat) : IsOver desk id (desk.without id) where
  registries := rfl
  settings := rfl
  dialect := rfl
  query := rfl
  opened := rfl
  notices := rfl
  session _ hne := session?_without_of_ne desk hne
  dead := by
    rintro ⟨t, ht, -⟩
    rw [session?_without, if_pos rfl] at ht
    cases ht

/-- **Every way to end a session succeeds**, and of each nothing is left but that the session is
over. -/
theorem exists_step_of_ends (hs : desk.session? id = some s) (hactive : s.isFinished = false)
    {command : Command} (hends : command ∈ Command.ends id) :
    ∃ reply, (desk.step command).1 = .ok reply ∧ IsOver desk id (desk.step command).2 := by
  simp only [Command.ends, List.mem_cons, List.not_mem_nil, or_false] at hends
  rcases hends with rfl | rfl | rfl
  · rw [(Turn.finished hs hactive).step_eq]
    exact ⟨_, rfl, isOver_ended hs⟩
  · rw [(Turn.left hs hactive).step_eq]
    exact ⟨_, rfl, isOver_ended hs⟩
  · rw [(Turn.forgotten id).step_eq]
    exact ⟨_, rfl, isOver_without desk id⟩

end Ends

namespace IsOver

variable {desk next other : Desk} {id : Nat}

/-- If the session had the builder, the builder is free. -/
theorem holder?_eq_none (h : IsOver desk id next) (hdesk : Coherent desk) (hnext : Coherent next)
    (hlive : desk.IsLive id) : next.holder? = none := by
  cases hholder : next.holder? with
  | none => rfl
  | some held =>
    obtain ⟨k, s⟩ := held
    obtain ⟨hs, hslive⟩ := (hnext.holder?_iff k s).mp hholder
    by_cases hk : k = id
    · exact absurd ⟨s, hk ▸ hs, hslive⟩ h.dead
    · -- another holder would have been live beside the session
      rw [h.session k hk] at hs
      exact absurd (hdesk.eq_of_isLive ⟨s, hs, hslive⟩ hlive) hk

/-- What two ends leave agrees on everything but the session. -/
theorem agree (h : IsOver desk id next) (hother : IsOver desk id other) (hid : id < desk.opened) :
    Agree (· = id) other next where
  renderers := by rw [h.registries, hother.registries]
  logQueries := by rw [h.settings, hother.settings]
  dialect := h.dialect.trans hother.dialect.symm
  query := h.query.trans hother.query.symm
  opened := h.opened.trans hother.opened.symm
  session k hk := (h.session k hk).trans (hother.session k hk).symm
  gone k hk := by
    subst hk
    exact ⟨hother.dead, h.dead⟩
  numbered k hk := by
    rw [hk, hother.opened]
    exact hid

/-- **What two ends leave can not be told apart** without the session. -/
theorem indistinct (h : IsOver desk id next) (hother : IsOver desk id other)
    (hid : id < desk.opened) (hnext : Coherent next) (hcoherent : Coherent other) :
    Indistinct id next other := by
  intro commands hnames
  have hapart : ∀ command ∈ commands, ∀ k, command.Names k → ¬ k = id := by
    rintro command hcommand k hk rfl
    exact hnames command hcommand hk
  obtain ⟨houtcomes, hagree, more, hmoreOther, hmore⟩ :=
    (h.agree hother hid).after hcoherent hnext hapart
  refine ⟨houtcomes, ?_, hagree.dialect, hagree.query,
    hagree.holder? (hcoherent.after commands) (hnext.after commands), hagree.session⟩
  rw [hmore, hmoreOther, h.notices, hother.notices]

end IsOver

/-! ## What is over -/

theorem Coherent.isPast {desk : Desk} (h : Coherent desk) {id : Nat} {s : Session}
    (hs : desk.session? id = some s) (hfinished : s.isFinished = true) : desk.IsPast id where
  numbered := h.numbered id s hs
  finished t ht := by
    rw [hs] at ht
    cases ht
    exact hfinished

namespace IsPast

variable {desk next : Desk} {id : Nat}

theorem not_isLive (h : desk.IsPast id) : ¬ desk.IsLive id := by
  rintro ⟨s, hs, -, hactive⟩
  rw [h.finished s hs] at hactive
  cases hactive

/-- **What is over stays over** for one more command. -/
theorem turn (h : desk.IsPast id) {command : Command} {outcome : Except Failure Reply}
    (hturn : Turn desk command outcome next) : next.IsPast id := by
  have hsame : ∀ {desk' : Desk}, desk'.opened = desk.opened →
      (∀ k, desk'.session? k = desk.session? k) → desk'.IsPast id := by
    intro desk' hopened hsessions
    exact ⟨hopened ▸ h.numbered, fun s hs => h.finished s (hsessions id ▸ hs)⟩
  have hopening : ∀ {desk' : Desk} {opening : Opening} {separator : Value},
      desk'.opened = desk.opened + 1 →
      (∀ k, desk'.session? k = (desk.withOpened opening separator).session? k) →
      desk'.IsPast id := by
    intro desk' opening separator hopened hsessions
    refine ⟨hopened ▸ Nat.lt_succ_of_lt h.numbered, fun s hs => h.finished s ?_⟩
    -- the number of the new session is another one
    rwa [hsessions, session?_withOpened_of_ne desk opening separator (Nat.ne_of_lt h.numbered)]
      at hs
  have hended : ∀ {k : Nat} {t : Session}, desk.session? k = some t →
      ((desk.released k).withSession k { t with isFinished := true }).IsPast id := by
    intro k t ht
    refine ⟨(opened_released desk k).symm ▸ h.numbered, fun s hs => ?_⟩
    rw [session?_ended ht] at hs
    split at hs
    · cases hs
      rfl
    · exact h.finished s hs
  cases hturn with
  | built | held | absent | entered | refused | leftAgain | unwritten | closed
  | unseparatedPushed | registered | assigned => exact hsame rfl fun _ => rfl
  | unpushed | pushed | lost => exact hsame (opened_settled desk) (session?_settled desk)
  | build =>
    exact hsame ((opened_handedOver ..).trans (opened_settled desk))
      fun k => (session?_handedOver _ _ _ k).trans (session?_settled desk k)
  | separated | openedDirect => exact hopening rfl fun _ => rfl
  | finished hsession | left hsession => exact hended hsession
  | @itemPushed k t _ _ _ hsession hactive =>
    refine ⟨(opened_withItem ..).symm ▸ h.numbered, fun s hs => ?_⟩
    rw [session?_withItem hsession] at hs
    split at hs
    · next hid =>
      -- a session that an item is added through is not finished
      subst hid
      rw [h.finished t hsession] at hactive
      cases hactive
    · exact h.finished s hs
  | forgotten k =>
    refine ⟨h.numbered, fun s hs => ?_⟩
    rw [session?_without] at hs
    split at hs
    · cases hs
    · exact h.finished s hs

/-- **What is over stays over**, whatever is commanded. -/
theorem after (h : desk.IsPast id) (commands : List Command) : (desk.after commands).IsPast id := by
  induction commands generalizing desk with
  | nil => exact h
  | cons command rest ih => exact ih (h.turn (step_turn desk command))

/-- To leave a session that is over does nothing at all. -/
theorem step_leave (h : desk.IsPast id) {s : Session} (hs : desk.session? id = some s) :
    desk.step (.session id .leave) = (.ok .done, desk) :=
  (Turn.leftAgain hs (h.finished s hs)).step_eq

end IsPast

/-! ## All of it -/

/-- What becomes of a desk when a session ends. -/
structure EndsAlike (desk : Desk) : Prop where
  /-- A session that is not finished can be ended in every way, and nothing else changes. -/
  ended : ∀ id s, desk.session? id = some s → s.isFinished = false →
    ∀ command ∈ Command.ends id,
      ∃ reply, (desk.step command).1 = .ok reply ∧ IsOver desk id (desk.step command).2
  /-- If it had the builder, the builder is free. -/
  freed : ∀ id, desk.IsLive id → ∀ command ∈ Command.ends id,
    (desk.step command).2.holder? = none
  /-- No one else can tell in which way it was. -/
  alike : ∀ id s, desk.session? id = some s → s.isFinished = false →
    ∀ command ∈ Command.ends id, ∀ other ∈ Command.ends id,
      Indistinct id (desk.step command).2 (desk.step other).2
  /-- A session that is finished can be left for as long as it is there, and nothing happens. -/
  leftAgain : ∀ id s, desk.session? id = some s → s.isFinished = true → ∀ commands t,
    (desk.after commands).session? id = some t →
      (desk.after commands).step (.session id .leave) = (.ok .done, desk.after commands)
  /-- It can be dropped at any later time. Who has the builder by then keeps it, and no one else can
  tell whether the session was dropped. -/
  dropped : ∀ id s, desk.session? id = some s → s.isFinished = true → ∀ commands,
    IsOver (desk.after commands) id ((desk.after commands).step (.forget id)).2
      ∧ ((desk.after commands).step (.forget id)).2.holder? = (desk.after commands).holder?
      ∧ Indistinct id ((desk.after commands).step (.forget id)).2 (desk.after commands)

/-- **All ways to end a session are alike**, at every desk in use. -/
theorem Reachable.endsAlike {desk : Desk} (h : Reachable desk) : EndsAlike desk where
  ended _ _ hs hactive _ hends := exists_step_of_ends hs hactive hends
  freed id hlive command hends := by
    obtain ⟨s, hs, hborrowing, hactive⟩ := hlive
    obtain ⟨_, _, hover⟩ := exists_step_of_ends hs hactive hends
    exact hover.holder?_eq_none h.coherent (h.step command).coherent ⟨s, hs, hborrowing, hactive⟩
  alike id s hs hactive command hends other hotherEnds := by
    obtain ⟨_, _, hover⟩ := exists_step_of_ends hs hactive hends
    obtain ⟨_, _, hotherOver⟩ := exists_step_of_ends hs hactive hotherEnds
    exact hover.indistinct hotherOver (h.coherent.numbered id s hs) (h.step command).coherent
      (h.step other).coherent
  leftAgain id s hs hfinished commands t ht :=
    ((h.coherent.isPast hs hfinished).after commands).step_leave ht
  dropped id s hs hfinished commands := by
    have hlater := (h.coherent.isPast hs hfinished).after commands
    have hself := isOver_self hlater.not_isLive
    have hover : IsOver (desk.after commands) id ((desk.after commands).step (.forget id)).2 := by
      rw [(Turn.forgotten id).step_eq]
      exact isOver_without _ id
    have hcoherent := (h.after commands).coherent
    have hnext := ((h.after commands).step (.forget id)).coherent
    exact ⟨hover, (hover.agree hself hlater.numbered).holder? hcoherent hnext,
      hover.indistinct hself hlater.numbered hnext hcoherent⟩

/-- A session that has an item is ended, and the builder opens another one. The first session is
left and dropped once more, and the builder stays with the second. -/
theorem endsAlike_second :
    let desk := (plain "IN (").after
      [.builder (.separated (.text ", ")), .session 0 (.push (.raw (.text "1")))]
    let next := (desk.step (.session 0 .finish)).2
    let later := next.after [.builder (.separated (.text " OR "))]
    Reachable desk ∧ desk.IsLive 0
      ∧ Indistinct 0 next (desk.step (.session 0 .leave)).2
      ∧ Indistinct 0 next (desk.step (.forget 0)).2
      ∧ later.IsLive 1
      ∧ (later.step (.session 0 .leave)).2.holder? = later.holder?
      ∧ (later.step (.forget 0)).2.holder? = later.holder? := by
  intro desk next later
  have hreachable : Reachable desk := (Reachable.new (new?_plain "IN (")).after _
  have halike := hreachable.endsAlike.alike 0 ⟨.borrowing, .text ", ", true, false⟩ rfl rfl
  have hnext := (hreachable.step (.session 0 .finish)).endsAlike
  have hleft := hnext.leftAgain 0 ⟨.borrowing, .text ", ", true, true⟩ rfl rfl
    [.builder (.separated (.text " OR "))] _ rfl
  obtain ⟨-, hholder, -⟩ := hnext.dropped 0 ⟨.borrowing, .text ", ", true, true⟩ rfl rfl
    [.builder (.separated (.text " OR "))]
  refine ⟨hreachable, ⟨_, rfl, rfl, rfl⟩, halike _ ?_ _ ?_, halike _ ?_ _ ?_, ⟨_, rfl, rfl, rfl⟩,
    congrArg (fun result => result.2.holder?) hleft, hholder⟩
  all_goals simp [Command.ends]

end SqlText.Desk
