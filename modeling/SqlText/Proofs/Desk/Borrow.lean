import SqlText.Proofs.Desk.Chunk
import SqlText.Proofs.Desk.Run

/-!
The exclusive borrow. A builder that opens a session is that session's alone until the session is
finished or off the desk. Two places have to agree on this: the builder names its borrower, and each
session says whether it is finished. `Coherent` is their agreement, every turn keeps it, and what is
promised of the borrow follows (`BorrowsExclusively`).
-/

namespace SqlText

/-- A session that the builder opened and that is not finished. -/
def Session.IsLive (s : Session) : Prop := s.opening = .borrowing ∧ s.isFinished = false

/-- The commands that end a session or drop it. -/
def Command.ends (id : Nat) : List Command :=
  [.session id .finish, .session id .leave, .forget id]

namespace Desk

/-- There is a live session with this number on the desk. -/
def IsLive (desk : Desk) (id : Nat) : Prop := ∃ s, desk.session? id = some s ∧ s.IsLive

/-! ## The invariant -/

/-- Builder and sessions agree on who has the builder. Numbers are given out in order, so that a
borrower that left the desk is never taken for a session that was opened later. -/
structure Coherent (desk : Desk) : Prop where
  numbered : ∀ id s, desk.session? id = some s → id < desk.opened
  borrower_numbered : ∀ id, desk.builder.borrower = some id → id < desk.opened
  borrower_iff : ∀ id s, desk.session? id = some s →
    (desk.builder.borrower = some id ↔ s.IsLive)
  built : desk.builder.query = none → desk.holder? = none

theorem holder?_eq_some_iff (desk : Desk) (id : Nat) (s : Session) :
    desk.holder? = some (id, s) ↔ desk.builder.borrower = some id ∧ desk.session? id = some s := by
  unfold holder?
  cases desk.builder.borrower with
  | none => simp
  | some other =>
    cases hother : desk.session? other with
    | none =>
      simp only [Option.bind_some, hother, Option.map_none, reduceCtorEq, Option.some.injEq,
        false_iff, not_and]
      rintro rfl
      simp [hother]
    | some t =>
      simp only [Option.bind_some, hother, Option.map_some, Option.some.injEq, Prod.mk.injEq]
      constructor
      · rintro ⟨rfl, rfl⟩
        exact ⟨rfl, hother⟩
      · rintro ⟨rfl, hs⟩
        rw [hother] at hs
        exact ⟨rfl, Option.some.inj hs⟩

namespace Coherent

variable {desk : Desk}

/-- The holder is the live session. -/
theorem holder?_iff (h : Coherent desk) (id : Nat) (s : Session) :
    desk.holder? = some (id, s) ↔ desk.session? id = some s ∧ s.IsLive := by
  rw [holder?_eq_some_iff]
  constructor
  · rintro ⟨hborrower, hs⟩
    exact ⟨hs, (h.borrower_iff id s hs).mp hborrower⟩
  · rintro ⟨hs, hlive⟩
    exact ⟨(h.borrower_iff id s hs).mpr hlive, hs⟩

theorem not_isLive_of_free (h : Coherent desk) (hfree : desk.holder? = none) {id : Nat}
    {s : Session} (hs : desk.session? id = some s) : ¬ s.IsLive := by
  intro hlive
  rw [(h.holder?_iff id s).mpr ⟨hs, hlive⟩] at hfree
  cases hfree

/-- There is one holder at most, so there is one live session at most. -/
theorem eq_of_isLive (h : Coherent desk) {id other : Nat} (hid : desk.IsLive id)
    (hother : desk.IsLive other) : id = other := by
  obtain ⟨s, hs⟩ := hid
  obtain ⟨t, ht⟩ := hother
  have hholder := (h.holder?_iff id s).mpr hs
  rw [(h.holder?_iff other t).mpr ht] at hholder
  cases hholder
  rfl

/-- Changes that leave the numbers, the borrower and the liveness of the sessions alone keep the
agreement. Sessions may leave the desk. -/
theorem frame (h : Coherent desk) {next : Desk} (hopened : next.opened = desk.opened)
    (hborrower : next.builder.borrower = desk.builder.borrower)
    (hsessions : ∀ id s', next.session? id = some s' →
      ∃ s, desk.session? id = some s ∧ (s'.IsLive ↔ s.IsLive))
    (hquery : next.builder.query = none → desk.builder.query = none) : Coherent next where
  numbered id s' hs' := by
    obtain ⟨s, hs, _⟩ := hsessions id s' hs'
    rw [hopened]
    exact h.numbered id s hs
  borrower_numbered id hid := by
    rw [hborrower] at hid
    rw [hopened]
    exact h.borrower_numbered id hid
  borrower_iff id s' hs' := by
    obtain ⟨s, hs, hlive⟩ := hsessions id s' hs'
    rw [hborrower, hlive]
    exact h.borrower_iff id s hs
  built hnone := by
    -- a holder of the new desk would be one of the old desk
    have hfree := h.built (hquery hnone)
    cases hholder : next.holder? with
    | none => rfl
    | some held =>
      obtain ⟨id, s'⟩ := held
      obtain ⟨hid, hs'⟩ := (holder?_eq_some_iff next id s').mp hholder
      obtain ⟨s, hs, _⟩ := hsessions id s' hs'
      rw [hborrower] at hid
      rw [(holder?_eq_some_iff desk id s).mpr ⟨hid, hs⟩] at hfree
      cases hfree

/-- A desk with no live session and no borrower is in agreement. -/
theorem unborrowed {next : Desk} (hborrower : next.builder.borrower = none)
    (hsessions : ∀ id s, next.session? id = some s → id < next.opened ∧ ¬ s.IsLive) :
    Coherent next where
  numbered id s hs := (hsessions id s hs).1
  borrower_numbered id hid := by
    rw [hborrower] at hid
    cases hid
  borrower_iff id s hs := by
    rw [hborrower]
    exact ⟨nofun, fun hlive => absurd hlive (hsessions id s hs).2⟩
  built _ := by
    rw [holder?, hborrower]
    rfl

/-- A free desk where the borrower is struck out, whatever becomes of the query. -/
theorem struck (h : Coherent desk) (hfree : desk.holder? = none) {next : Desk}
    (hopened : next.opened = desk.opened) (hborrower : next.builder.borrower = none)
    (hsessions : next.sessions = desk.sessions) : Coherent next := by
  refine unborrowed hborrower fun id s hs => ?_
  have hsame : desk.session? id = some s := by rwa [session?, hsessions] at hs
  rw [hopened]
  exact ⟨h.numbered id s hsame, h.not_isLive_of_free hfree hsame⟩

/-- To look at the borrower keeps the agreement. -/
theorem settled (h : Coherent desk) : Coherent desk.settled := by
  unfold Desk.settled
  split
  · next hnone => exact h.struck (Option.isNone_iff_eq_none.mp hnone) rfl rfl rfl
  · exact h

/-- A session that the free builder opens gets the builder. -/
theorem lent (h : Coherent desk) {query : String} (hquery : desk.builder.query = some query)
    (hfree : desk.holder? = none) (separator : Value) :
    Coherent ((desk.withOpened .borrowing separator).lent desk.opened) where
  numbered id s hs := by
    change (desk.withOpened .borrowing separator).session? id = some s at hs
    rw [session?_withOpened] at hs
    show id < desk.opened + 1
    split at hs
    · omega
    · have hlt := h.numbered id s hs
      omega
  borrower_numbered id hid := by
    cases hid
    exact Nat.lt_succ_self desk.opened
  borrower_iff id s hs := by
    change (desk.withOpened .borrowing separator).session? id = some s at hs
    rw [session?_withOpened] at hs
    show some desk.opened = some id ↔ s.IsLive
    split at hs
    · next hid =>
      cases hs
      exact ⟨fun _ => ⟨rfl, rfl⟩, fun _ => congrArg some hid.symm⟩
    · next hid =>
      -- the builder was free, so that no other session is live
      exact ⟨fun hsome => absurd (Option.some.inj hsome).symm hid,
        fun hlive => absurd hlive (h.not_isLive_of_free hfree hs)⟩
  built hnone := by
    change desk.builder.query = none at hnone
    rw [hquery] at hnone
    cases hnone

/-- A session beside the builder's own use does not get the builder. -/
theorem openedDirect (h : Coherent desk) (separator : Value) :
    Coherent (desk.withOpened .direct separator) where
  numbered id s hs := by
    rw [session?_withOpened] at hs
    show id < desk.opened + 1
    split at hs
    · omega
    · have hlt := h.numbered id s hs
      omega
  borrower_numbered id hid := Nat.lt_succ_of_lt (h.borrower_numbered id hid)
  borrower_iff id s hs := by
    rw [session?_withOpened] at hs
    split at hs
    · next hid =>
      -- a borrower that left the desk had another number
      cases hs
      refine ⟨fun hborrower => ?_, fun hlive => absurd hlive.1 nofun⟩
      have hlt := h.borrower_numbered id hborrower
      omega
    · exact h.borrower_iff id s hs
  built hnone := by
    have hfree := h.built hnone
    cases hholder : (desk.withOpened .direct separator).holder? with
    | none => rfl
    | some held =>
      obtain ⟨id, s⟩ := held
      obtain ⟨hborrower, hs⟩ := (holder?_eq_some_iff _ id s).mp hholder
      have hlt := h.borrower_numbered id hborrower
      rw [session?_withOpened, if_neg (by omega)] at hs
      rw [(holder?_eq_some_iff desk id s).mpr ⟨hborrower, hs⟩] at hfree
      cases hfree

/-! ### Ending a session -/

theorem released_of_isLive (h : Coherent desk) {id : Nat} {s : Session}
    (hs : desk.session? id = some s) (hlive : s.IsLive) :
    desk.released id = { desk with builder := { desk.builder with borrower := none } } := by
  rw [released, (h.holder?_iff id s).mpr ⟨hs, hlive⟩]
  exact if_pos rfl

theorem released_of_not_isLive (h : Coherent desk) {id : Nat} {s : Session}
    (hs : desk.session? id = some s) (hdead : ¬ s.IsLive) : desk.released id = desk.settled := by
  refine if_neg fun hheld => ?_
  obtain ⟨⟨_, t⟩, hholder, rfl⟩ := Option.map_eq_some_iff.mp hheld
  obtain ⟨ht, hlive⟩ := (h.holder?_iff _ t).mp hholder
  rw [hs] at ht
  cases ht
  exact hdead hlive

/-- To end a session keeps the agreement, whether or not it has the builder. -/
theorem ended (h : Coherent desk) {id : Nat} {s : Session} (hs : desk.session? id = some s) :
    Coherent ((desk.released id).withSession id { s with isFinished := true }) := by
  have hfinished : ¬ ({ s with isFinished := true } : Session).IsLive := fun hlive =>
    absurd hlive.2 nofun
  by_cases hlive : s.IsLive
  · -- the one live session ends, and the builder is free
    refine unborrowed ?_ fun other t ht => ?_
    · rw [h.released_of_isLive hs hlive]
      rfl
    · show other < (desk.released id).opened ∧ ¬ t.IsLive
      rw [session?_ended hs] at ht
      rw [opened_released]
      split at ht
      · next hid =>
        cases ht
        exact ⟨hid ▸ h.numbered id s hs, hfinished⟩
      · next hid =>
        refine ⟨h.numbered other t ht, fun hother => hid ?_⟩
        exact h.eq_of_isLive ⟨t, ht, hother⟩ ⟨s, hs, hlive⟩
  · -- nothing changes but what is said of a session that was not live before
    have hended := fun other => session?_ended hs other
    rw [h.released_of_not_isLive hs hlive] at hended ⊢
    refine h.settled.frame rfl rfl (fun other t ht => ?_) fun hquery => hquery
    rw [hended] at ht
    rw [session?_settled]
    split at ht
    · next hid =>
      cases ht
      exact ⟨s, hid ▸ hs, iff_of_false hfinished hlive⟩
    · exact ⟨t, ht, Iff.rfl⟩

/-- **Every turn keeps the agreement.** -/
theorem turn (h : Coherent desk) {command : Command} {outcome : Except Failure Reply} {next : Desk}
    (hturn : Turn desk command outcome next) : Coherent next := by
  have hsame : ∀ {desk' : Desk}, desk'.opened = desk.opened →
      desk'.builder.borrower = desk.builder.borrower → desk'.sessions = desk.sessions →
      (desk'.builder.query = none → desk.builder.query = none) → Coherent desk' := by
    intro desk' hopened hborrower hsessions hquery
    refine h.frame hopened hborrower (fun id s hs => ⟨s, ?_, Iff.rfl⟩) hquery
    rwa [session?, hsessions] at hs
  -- only the builder's own use, openings and endings concern the borrow
  cases hturn with
  | built command hquery => exact hsame rfl rfl rfl id
  | held command hquery hholder => exact hsame rfl rfl rfl id
  | unpushed item hquery hfree hchunk => exact h.settled
  | pushed _ hquery hfree | lost hquery hfree =>
    rw [settled_of_free hfree]
    exact h.struck hfree rfl rfl rfl
  | separated separator hquery hfree => exact h.lent hquery hfree separator
  | build hquery hfree =>
    rw [settled_of_free hfree, handedOver]
    split <;> exact h.struck hfree rfl rfl rfl
  | openedDirect separator => exact h.openedDirect separator
  | absent command hsession => exact h
  | entered hsession => exact h
  | refused hsession hfinished hcommand => exact hsame rfl rfl rfl id
  | leftAgain hsession hfinished => exact h
  | finished hsession hactive => exact h.ended hsession
  | left hsession hactive => exact h.ended hsession
  | unwritten hsession hactive hwritten => exact h
  | closed hsession hactive hwritten hquery => exact h
  | @itemPushed id s item _ _ hsession hactive haddition hquery =>
    refine h.frame (opened_withItem ..) (borrower_withItem ..) (fun other t ht => ?_) fun hnone => ?_
    · rw [session?_withItem hsession] at ht
      split at ht
      · next hid =>
        cases ht
        exact ⟨s, hid ▸ hsession, Iff.rfl⟩
      · exact ⟨t, ht, Iff.rfl⟩
    · rw [query_withItem] at hnone
      cases hnone
  | unseparatedPushed v hsession hactive hchunk hquery =>
    refine hsame rfl rfl rfl fun hnone => ?_
    cases hnone
  | forgotten id =>
    refine h.frame rfl rfl (fun other s hs => ?_) fun hquery => hquery
    rw [session?_without] at hs
    split at hs
    · cases hs
    · exact ⟨s, hs, Iff.rfl⟩
  | registered registration => exact hsame rfl rfl rfl fun hquery => hquery
  | assigned field v => exact hsame rfl rfl rfl fun hquery => hquery

theorem after (h : Coherent desk) (commands : List Command) : Coherent (desk.after commands) := by
  induction commands generalizing desk with
  | nil => exact h
  | cons command rest ih => exact ih (h.turn (step_turn desk command))

end Coherent

/-! ## The desks in use -/

theorem coherent_new {registries : Registries} {settings : Settings} {choice : DialectChoice}
    {init : Value} {desk : Desk} (h : new? registries settings choice init = .ok desk) :
    Coherent desk := by
  obtain ⟨dialect, text, _, rfl⟩ := new?_eq_ok h
  exact Coherent.unborrowed rfl nofun

/-- **Builder and sessions always agree.** -/
theorem Reachable.coherent {desk : Desk} (h : Reachable desk) : Coherent desk := by
  induction h with
  | new hnew => exact coherent_new hnew
  | step hdesk command ih => exact ih.turn (step_turn _ command)

namespace Coherent

variable {desk : Desk}

theorem isBorrowed_iff (h : Coherent desk) : desk.isBorrowed = true ↔ ∃ id, desk.IsLive id := by
  rw [isBorrowed, Option.isSome_iff_exists]
  constructor
  · rintro ⟨⟨id, s⟩, hholder⟩
    exact ⟨id, s, (h.holder?_iff id s).mp hholder⟩
  · rintro ⟨id, s, hlive⟩
    exact ⟨(id, s), (h.holder?_iff id s).mpr hlive⟩

/-- Two desks with the same live sessions have the same holder. -/
theorem holder?_congr (h : Coherent desk) {next : Desk} (hnext : Coherent next)
    (hsame : ∀ id s, s.IsLive → (next.session? id = some s ↔ desk.session? id = some s)) :
    next.holder? = desk.holder? := by
  refine Option.ext fun ⟨id, s⟩ => ?_
  rw [hnext.holder?_iff, h.holder?_iff]
  exact and_congr_left (hsame id s)

end Coherent

/-! ## What is promised -/

/-- An addition fails as its chunks do, the item before the separator. -/
theorem addition?_eq_error {desk : Desk} {s : Session} {item : Item} {failure : Failure}
    (h : desk.addition? s item = .error failure) :
    desk.chunk? item = .error failure
      ∨ s.separates = true ∧ rawChunk? s.separator = .error failure := by
  unfold addition? at h
  cases hchunk : desk.chunk? item with
  | error other =>
    rw [hchunk] at h
    exact .inl h
  | ok text =>
    rw [hchunk] at h
    cases hdue : s.separates with
    | false =>
      rw [hdue] at h
      cases h
    | true =>
      rw [hdue] at h
      cases hraw : rawChunk? s.separator with
      | error other =>
        rw [hraw] at h
        exact .inr ⟨rfl, h⟩
      | ok separator =>
        rw [hraw] at h
        cases h

theorem addition?_ne_closed (desk : Desk) (s : Session) (item : Item) :
    desk.addition? s item ≠ .error .closed := by
  intro h
  obtain hchunk | ⟨_, hseparator⟩ := addition?_eq_error h
  · exact chunk?_ne_closed desk item hchunk
  · exact rawChunk?_ne_closed s.separator hseparator

theorem written?_ne_closed (desk : Desk) (s : Session) (command : SessionCommand) :
    desk.written? s command ≠ some (.error .closed) := by
  cases command with
  | push item => exact fun heq => addition?_ne_closed desk s item (Option.some.inj heq)
  | pushUnseparated v => exact fun heq => rawChunk?_ne_closed v (Option.some.inj heq)
  | enter | finish | leave => exact nofun

/-- To end or to drop a session that is not live leaves every live session where it is. -/
theorem Turn.session?_iff_of_ends {desk : Desk} {id : Nat} (hdead : ¬ desk.IsLive id)
    {command : Command} (hends : command ∈ Command.ends id) {outcome : Except Failure Reply}
    {next : Desk} (hturn : Turn desk command outcome next) {other : Nat} {t : Session}
    (ht : t.IsLive) : next.session? other = some t ↔ desk.session? other = some t := by
  have hended : ∀ {s : Session}, desk.session? id = some s →
      (((desk.released id).withSession id { s with isFinished := true }).session? other = some t
        ↔ desk.session? other = some t) := by
    intro s hs
    rw [session?_ended hs]
    split
    · next hid =>
      subst hid
      refine iff_of_false (fun hfinished => ?_) fun hlive => hdead ⟨t, hlive, ht⟩
      cases hfinished
      exact absurd ht.2 nofun
    · exact Iff.rfl
  simp only [Command.ends, List.mem_cons, List.not_mem_nil, or_false] at hends
  rcases hends with rfl | rfl | rfl
  · cases hturn with
    | finished hsession _ => exact hended hsession
    | _ => exact Iff.rfl
  · cases hturn with
    | left hsession _ => exact hended hsession
    | _ => exact Iff.rfl
  · cases hturn with
    | forgotten =>
      rw [session?_without]
      split
      · next hid => exact iff_of_false nofun fun hlive => hdead ⟨t, hid ▸ hlive, ht⟩
      · exact Iff.rfl

/-- Who has the builder, and what follows for everyone else. -/
structure BorrowsExclusively (desk : Desk) : Prop where
  /-- One session at most is live. -/
  unique : ∀ id other, desk.IsLive id → desk.IsLive other → id = other
  /-- The builder is borrowed as long as there is a live session. -/
  borrowed : desk.isBorrowed = true ↔ ∃ id, desk.IsLive id
  /-- The one who has it is the live session. -/
  holder : ∀ id s, desk.holder? = some (id, s) ↔ desk.session? id = some s ∧ s.IsLive
  /-- A builder that is built is not borrowed any more. -/
  built : desk.builder.isBuilt = true → ∀ id, ¬ desk.IsLive id
  /-- A live session never meets the closed buffer. -/
  writable : ∀ id, desk.IsLive id → ∀ command : SessionCommand,
    (desk.step (.session id command)).1 ≠ .error .closed
  /-- To end or to drop any other session changes nothing for the one who has the builder. -/
  kept : ∀ id, ¬ desk.IsLive id → ∀ command ∈ Command.ends id,
    (desk.step command).2.holder? = desk.holder?
      ∧ ∀ other, (desk.step command).2.IsLive other ↔ desk.IsLive other

/-- **The borrow is exclusive at every desk in use.** The agreement of builder and sessions says so,
at the desk as it is and after one more command. -/
theorem Reachable.borrowsExclusively {desk : Desk} (h : Reachable desk) :
    BorrowsExclusively desk where
  unique _ _ hid hother := h.coherent.eq_of_isLive hid hother
  borrowed := h.coherent.isBorrowed_iff
  holder := h.coherent.holder?_iff
  built hbuilt id hlive := by
    obtain ⟨s, hs, hlive⟩ := hlive
    have hfree := h.coherent.built (Option.isNone_iff_eq_none.mp hbuilt)
    exact h.coherent.not_isLive_of_free hfree hs hlive
  writable id hlive command hclosed := by
    obtain ⟨s, hs, hlive⟩ := hlive
    -- of the turns with this failure one is by the chunk, the other one has no query to write to
    have hturn := step_turn desk (.session id command)
    rw [hclosed] at hturn
    generalize (desk.step (.session id command)).2 = next at hturn
    cases hturn with
    | unwritten hsession hactive hwritten =>
      exact written?_ne_closed desk _ command hwritten
    | closed hsession hactive hwritten hquery =>
      exact h.coherent.not_isLive_of_free (h.coherent.built hquery) hs hlive
  kept id hdead command hends := by
    have hsame : ∀ other t, t.IsLive →
        ((desk.step command).2.session? other = some t ↔ desk.session? other = some t) :=
      fun other t ht => (step_turn desk command).session?_iff_of_ends hdead hends ht
    refine ⟨h.coherent.holder?_congr (h.step command).coherent hsame, fun other => ?_⟩
    exact exists_congr fun t => and_congr_left (hsame other t)

/-- A builder that lends itself out, next to a session that was opened directly: the second one is
dropped, and the builder stays with the first. -/
theorem borrowsExclusively_lent :
    ∃ desk, Reachable desk ∧ desk.isBorrowed = true ∧ BorrowsExclusively desk
      ∧ (desk.step (.forget 1)).2.isBorrowed = true := by
  have hreachable := ((Reachable.new (new?_plain "SELECT ")).step
    (.builder (.separated (.text ", ")))).step (.openDirect (.text " AND "))
  have hborrowed := hreachable.borrowsExclusively
  exact ⟨_, hreachable, rfl, hborrowed, rfl⟩

end Desk

end SqlText
