import SqlText.Proofs.Desk.Borrow

/-!
Desks where everything goes the same way. `Agree` lists what a command depends on: the query, the
dialect, the renderers, whether queries are logged, and the sessions by number. Nothing is said of
the notices so far, of the registered dialects, or of a borrower that is no longer there. Some
sessions may be apart, as long as they are over or gone at both desks and no command names them.

* `Agree.turn`: what a command may come to at one desk, it may come to at the other;
* `Agree.step`, `Agree.after`: one command, and then any number of them, go the same way, notices
  included.
-/

namespace SqlText

/-- The command is given to session `id`, or drops it. -/
def Command.Names (id : Nat) : Command → Prop
  | .session other _ | .forget other => other = id
  | _ => False

namespace Desk

/-! ## Changes of the borrower alone -/

theorem exists_settled (desk : Desk) :
    ∃ borrower, desk.settled = { desk with builder := { desk.builder with borrower } } := by
  unfold settled
  split
  · exact ⟨none, rfl⟩
  · exact ⟨desk.builder.borrower, rfl⟩

theorem exists_released (desk : Desk) (id : Nat) :
    ∃ borrower, desk.released id = { desk with builder := { desk.builder with borrower } } := by
  unfold released
  split
  · exact ⟨none, rfl⟩
  · exact exists_settled desk

theorem notices_settled (desk : Desk) : desk.settled.notices = desk.notices := by
  obtain ⟨borrower, hsettled⟩ := exists_settled desk
  rw [hsettled]

theorem notices_released (desk : Desk) (id : Nat) :
    (desk.released id).notices = desk.notices := by
  obtain ⟨borrower, hreleased⟩ := exists_released desk id
  rw [hreleased]

theorem notices_withItem (desk : Desk) (id : Nat) (s : Session) (query : String) :
    (desk.withItem id s query).notices = desk.notices := by
  unfold withItem
  split <;> rfl

theorem isLive_congr {desk next : Desk} {id : Nat} (h : next.session? id = desk.session? id) :
    next.IsLive id ↔ desk.IsLive id := by
  unfold IsLive
  rw [h]

/-! ## Agreement -/

/-- Two desks that agree on all that commands depend on. The sessions that are apart are live at
neither, and their numbers were given out before. -/
structure Agree (apart : Nat → Prop) (desk other : Desk) : Prop where
  renderers : other.registries.renderers = desk.registries.renderers
  logQueries : other.settings.logQueries = desk.settings.logQueries
  dialect : other.builder.dialect = desk.builder.dialect
  query : other.builder.query = desk.builder.query
  opened : other.opened = desk.opened
  session : ∀ id, ¬ apart id → other.session? id = desk.session? id
  gone : ∀ id, apart id → ¬ desk.IsLive id ∧ ¬ other.IsLive id
  numbered : ∀ id, apart id → id < desk.opened

namespace Agree

variable {apart : Nat → Prop} {desk other : Desk}

/-! ### What agreement is enough for -/

theorem chunk? (h : Agree apart desk other) (item : Item) :
    other.chunk? item = desk.chunk? item := by
  cases item with
  | raw v => rfl
  | literal v =>
    show literalChunk? other.registries.renderers v = literalChunk? desk.registries.renderers v
    rw [h.renderers]
  | identifier v =>
    show identifierChunk? other.builder.dialect v = identifierChunk? desk.builder.dialect v
    rw [h.dialect]

theorem addition? (h : Agree apart desk other) (s : Session) (item : Item) :
    other.addition? s item = desk.addition? s item := by
  rw [Desk.addition?, Desk.addition?, h.chunk?]

theorem written? (h : Agree apart desk other) (s : Session) (command : SessionCommand) :
    other.written? s command = desk.written? s command := by
  cases command with
  | push item => exact congrArg some (h.addition? s item)
  | enter | pushUnseparated | finish | leave => rfl

/-- Settings that agree on the flag of the log answer alike. -/
theorem truth? (h : Agree apart desk other) :
    other.settings.logQueries.truth? = desk.settings.logQueries.truth? := by
  rw [h.logQueries]

/-- The holder is the live session, and none that is live is apart. -/
theorem holder? (h : Agree apart desk other) (hdesk : Coherent desk) (hother : Coherent other) :
    other.holder? = desk.holder? := by
  refine hdesk.holder?_congr hother fun id s hlive => ?_
  by_cases hapart : apart id
  · obtain ⟨hgone, hclosed⟩ := h.gone id hapart
    exact iff_of_false (fun hs => hclosed ⟨s, hs, hlive⟩) fun hs => hgone ⟨s, hs, hlive⟩
  · rw [h.session id hapart]

/-! ### Changes at both desks -/

theorem noticed (h : Agree apart desk other) (n : Notice) :
    Agree apart (desk.noticed n) (other.noticed n) :=
  ⟨h.renderers, h.logQueries, h.dialect, h.query, h.opened, h.session, h.gone, h.numbered⟩

theorem withQuery (h : Agree apart desk other) (query : Option String) :
    Agree apart (desk.withQuery query) (other.withQuery query) :=
  ⟨h.renderers, h.logQueries, h.dialect, rfl, h.opened, h.session, h.gone, h.numbered⟩

/-- Who is written down as the borrower does not matter, as the sessions say who is live. -/
theorem withBorrower (h : Agree apart desk other) (borrower newBorrower : Option Nat) :
    Agree apart { desk with builder := { desk.builder with borrower } }
      { other with builder := { other.builder with borrower := newBorrower } } :=
  ⟨h.renderers, h.logQueries, h.dialect, h.query, h.opened, h.session, h.gone, h.numbered⟩

theorem settled (h : Agree apart desk other) : Agree apart desk.settled other.settled := by
  obtain ⟨borrower, hdesk⟩ := exists_settled desk
  obtain ⟨newBorrower, hother⟩ := exists_settled other
  rw [hdesk, hother]
  exact h.withBorrower borrower newBorrower

theorem released (h : Agree apart desk other) (id : Nat) :
    Agree apart (desk.released id) (other.released id) := by
  obtain ⟨borrower, hdesk⟩ := exists_released desk id
  obtain ⟨newBorrower, hother⟩ := exists_released other id
  rw [hdesk, hother]
  exact h.withBorrower borrower newBorrower

theorem withSession (h : Agree apart desk other) {id : Nat} (hid : ¬ apart id) (s : Session) :
    Agree apart (desk.withSession id s) (other.withSession id s) :=
  { h with
    session := fun k hk => by
      rw [session?_withSession, session?_withSession, h.session id hid, h.session k hk]
    gone := fun k hk => by
      -- a session that is apart is another one
      have hne : k ≠ id := fun heq => hid (heq ▸ hk)
      rw [isLive_congr (session?_withSession_of_ne desk s hne),
        isLive_congr (session?_withSession_of_ne other s hne)]
      exact h.gone k hk }

/-- A session that is opened gets the same number at both desks, and no other one has it. -/
theorem withOpened (h : Agree apart desk other) (opening : Opening) (separator : Value) :
    Agree apart (desk.withOpened opening separator) (other.withOpened opening separator) :=
  { h with
    opened := congrArg (· + 1) h.opened
    session := fun k hk => by
      rw [session?_withOpened, session?_withOpened, h.opened, h.session k hk]
    gone := fun k hk => by
      have hlt := h.numbered k hk
      have hne : k ≠ desk.opened := by omega
      have hneOther : k ≠ other.opened := by rw [h.opened]; exact hne
      rw [isLive_congr (session?_withOpened_of_ne desk opening separator hne),
        isLive_congr (session?_withOpened_of_ne other opening separator hneOther)]
      exact h.gone k hk
    numbered := fun k hk => Nat.lt_succ_of_lt (h.numbered k hk) }

theorem without (h : Agree apart desk other) {id : Nat} (hid : ¬ apart id) :
    Agree apart (desk.without id) (other.without id) :=
  { h with
    session := fun k hk => by rw [session?_without, session?_without, h.session k hk]
    gone := fun k hk => by
      have hne : k ≠ id := fun heq => hid (heq ▸ hk)
      rw [isLive_congr (session?_without_of_ne desk hne),
        isLive_congr (session?_without_of_ne other hne)]
      exact h.gone k hk }

theorem withItem (h : Agree apart desk other) {id : Nat} (hid : ¬ apart id) (s : Session)
    (query : String) : Agree apart (desk.withItem id s query) (other.withItem id s query) := by
  unfold Desk.withItem
  split
  · exact h.withQuery (some query)
  · exact (h.withQuery (some query)).withSession hid { s with separates := true }

theorem handedOver (h : Agree apart desk other) (query : String) (logged : Bool) :
    Agree apart (desk.handedOver query logged) (other.handedOver query logged) := by
  unfold Desk.handedOver
  rw [h.dialect]
  split
  · exact (h.withQuery none).noticed _
  · exact h.withQuery none

/-- What is noticed of a query that is handed out is the same. -/
theorem exists_notices_handedOver (h : Agree apart desk other) (query : String) (logged : Bool) :
    ∃ more, (desk.handedOver query logged).notices = desk.notices ++ more
      ∧ (other.handedOver query logged).notices = other.notices ++ more := by
  unfold Desk.handedOver
  rw [h.dialect]
  split
  · exact ⟨_, rfl, rfl⟩
  · exact ⟨[], (List.append_nil _).symm, (List.append_nil _).symm⟩

theorem registered (h : Agree apart desk other) (registration : Registration) :
    Agree apart { desk with registries := desk.registries.apply registration }
      { other with registries := other.registries.apply registration } :=
  { h with
    renderers := by
      cases registration with
      | dialect dialect aliases => exact h.renderers
      | renderer type renderer =>
        exact congrArg (fun rs : Renderers => rs.register type renderer) h.renderers
      | noRenderer type => exact congrArg (fun rs : Renderers => rs.unregister type) h.renderers }

theorem assigned (h : Agree apart desk other) (field : SettingsField) (v : Value) :
    Agree apart { desk with settings := desk.settings.assign v field }
      { other with settings := other.settings.assign v field } :=
  { h with
    logQueries := by
      cases field with
      | logQueries => rfl
      | dialect | options => exact h.logQueries }

/-! ## One command at both desks -/

/-- **What a command may come to at one desk, it may come to at the other**, and the desks agree
afterwards. The same is noticed. -/
theorem turn (h : Agree apart desk other) (hdesk : Coherent desk) (hother : Coherent other)
    {command : Command} (hnames : ∀ id, command.Names id → ¬ apart id)
    {outcome : Except Failure Reply} {next : Desk} (hturn : Turn desk command outcome next) :
    ∃ newNext, Turn other command outcome newNext ∧ Agree apart next newNext
      ∧ ∃ more, next.notices = desk.notices ++ more ∧ newNext.notices = other.notices ++ more := by
  have hholder := h.holder? hdesk hother
  -- most commands are noticed at neither desk
  have hsilent : ∀ {d e : Desk}, d.notices = desk.notices → e.notices = other.notices →
      ∃ more, d.notices = desk.notices ++ more ∧ e.notices = other.notices ++ more := by
    intro d e hd he
    exact ⟨[], by rw [hd, List.append_nil], by rw [he, List.append_nil]⟩
  -- the session of a command is none of those that are apart
  have hsession : ∀ {id : Nat} {found : Option Session}, ¬ apart id → desk.session? id = found →
      other.session? id = found := fun hid hs => (h.session _ hid).trans hs
  have hended : ∀ {id : Nat} (s : Session), ¬ apart id →
      Agree apart ((desk.released id).withSession id { s with isFinished := true })
        ((other.released id).withSession id { s with isFinished := true }) :=
    fun s hid => (h.released _).withSession hid _
  cases hturn with
  | built command hquery =>
    exact ⟨_, .built command (h.query.trans hquery), h.noticed _, _, rfl, rfl⟩
  | held command hquery hheld =>
    exact ⟨_, .held command (h.query.trans hquery) (hholder.trans hheld), h.noticed _, _, rfl,
      rfl⟩
  | unpushed item hquery hfree hchunk =>
    exact ⟨_, .unpushed item (h.query.trans hquery) (hholder.trans hfree)
      ((h.chunk? item).trans hchunk), h.settled, hsilent (notices_settled desk)
      (notices_settled other)⟩
  | pushed item hquery hfree hchunk =>
    exact ⟨_, .pushed item (h.query.trans hquery) (hholder.trans hfree)
      ((h.chunk? item).trans hchunk), h.settled.withQuery _, hsilent (notices_settled desk)
      (notices_settled other)⟩
  | separated separator hquery hfree =>
    have hopen := Turn.separated separator (h.query.trans hquery) (hholder.trans hfree)
    rw [h.opened] at hopen
    exact ⟨_, hopen, (h.withOpened .borrowing separator).withBorrower _ _, hsilent rfl rfl⟩
  | @build query logged hquery hfree htruth =>
    obtain ⟨more, hmore, hmoreOther⟩ := h.settled.exists_notices_handedOver query logged
    rw [notices_settled] at hmore hmoreOther
    exact ⟨_, .build (h.query.trans hquery) (hholder.trans hfree) (h.truth?.trans htruth),
      h.settled.handedOver query logged, more, hmore, hmoreOther⟩
  | lost hquery hfree htruth =>
    exact ⟨_, .lost (h.query.trans hquery) (hholder.trans hfree) (h.truth?.trans htruth),
      h.settled.withQuery none, hsilent (notices_settled desk) (notices_settled other)⟩
  | openedDirect separator =>
    have hopen : Turn other _ _ _ := Turn.openedDirect separator
    rw [h.opened] at hopen
    exact ⟨_, hopen, h.withOpened .direct separator, hsilent rfl rfl⟩
  | @absent id command hs =>
    exact ⟨_, .absent command (hsession (hnames id rfl) hs), h, hsilent rfl rfl⟩
  | @entered id s hs => exact ⟨_, .entered (hsession (hnames id rfl) hs), h, hsilent rfl rfl⟩
  | @refused id s command hs hfinished hcommand =>
    exact ⟨_, .refused (hsession (hnames id rfl) hs) hfinished hcommand, h.noticed _, _, rfl, rfl⟩
  | @leftAgain id s hs hfinished =>
    exact ⟨_, .leftAgain (hsession (hnames id rfl) hs) hfinished, h, hsilent rfl rfl⟩
  | @finished id s hs hactive =>
    exact ⟨_, .finished (hsession (hnames id rfl) hs) hactive, hended s (hnames id rfl),
      hsilent (notices_released desk id) (notices_released other id)⟩
  | @left id s hs hactive =>
    exact ⟨_, .left (hsession (hnames id rfl) hs) hactive, hended s (hnames id rfl),
      hsilent (notices_released desk id) (notices_released other id)⟩
  | @unwritten id s command failure hs hactive hwritten =>
    exact ⟨_, .unwritten (hsession (hnames id rfl) hs) hactive
      ((h.written? s command).trans hwritten), h, hsilent rfl rfl⟩
  | @closed id s command text hs hactive hwritten hquery =>
    exact ⟨_, .closed (hsession (hnames id rfl) hs) hactive ((h.written? s command).trans hwritten)
      (h.query.trans hquery), h, hsilent rfl rfl⟩
  | @itemPushed id s item query text hs hactive haddition hquery =>
    exact ⟨_, .itemPushed item (hsession (hnames id rfl) hs) hactive
      ((h.addition? s item).trans haddition) (h.query.trans hquery),
      h.withItem (hnames id rfl) s _, hsilent (notices_withItem desk id s _)
      (notices_withItem other id s _)⟩
  | @unseparatedPushed id s v query text hs hactive hchunk hquery =>
    exact ⟨_, .unseparatedPushed v (hsession (hnames id rfl) hs) hactive hchunk
      (h.query.trans hquery), h.withQuery _, hsilent rfl rfl⟩
  | forgotten id => exact ⟨_, .forgotten id, h.without (hnames id rfl), hsilent rfl rfl⟩
  | registered registration =>
    exact ⟨_, .registered registration, h.registered registration, hsilent rfl rfl⟩
  | assigned field v => exact ⟨_, .assigned field v, h.assigned field v, hsilent rfl rfl⟩

/-- **One command goes the same way at both desks.** -/
theorem step (h : Agree apart desk other) (hdesk : Coherent desk) (hother : Coherent other)
    {command : Command} (hnames : ∀ id, command.Names id → ¬ apart id) :
    (other.step command).1 = (desk.step command).1
      ∧ Agree apart (desk.step command).2 (other.step command).2
      ∧ ∃ more, (desk.step command).2.notices = desk.notices ++ more
        ∧ (other.step command).2.notices = other.notices ++ more := by
  obtain ⟨newNext, hturn, hagree, hnotices⟩ := h.turn hdesk hother hnames (step_turn desk command)
  rw [hturn.step_eq]
  exact ⟨rfl, hagree, hnotices⟩

/-- **Any number of commands go the same way at both desks.** -/
theorem after (h : Agree apart desk other) (hdesk : Coherent desk) (hother : Coherent other)
    {commands : List Command} (hnames : ∀ command ∈ commands, ∀ id, command.Names id → ¬ apart id) :
    (other.events commands).map (·.outcome) = (desk.events commands).map (·.outcome)
      ∧ Agree apart (desk.after commands) (other.after commands)
      ∧ ∃ more, (desk.after commands).notices = desk.notices ++ more
        ∧ (other.after commands).notices = other.notices ++ more := by
  induction commands generalizing desk other with
  | nil => exact ⟨rfl, h, [], (List.append_nil _).symm, (List.append_nil _).symm⟩
  | cons command rest ih =>
    obtain ⟨houtcome, hagree, more, hmore, hmoreOther⟩ :=
      h.step hdesk hother (hnames command List.mem_cons_self)
    obtain ⟨houtcomes, hlast, last, hend, hendOther⟩ :=
      ih hagree (hdesk.turn (step_turn desk command)) (hother.turn (step_turn other command))
        fun c hc => hnames c (List.mem_cons_of_mem _ hc)
    refine ⟨?_, hlast, more ++ last, ?_, ?_⟩
    · rw [events, events, List.map_cons, List.map_cons, houtcomes, houtcome]
    · rw [after_cons, hend, hmore, List.append_assoc]
    · rw [after_cons, hendOther, hmoreOther, List.append_assoc]

end Agree

end Desk

end SqlText
