import SqlText.Proofs.Desk.Borrow

/-!
The ledger of a builder. A history of commands says all by itself what a query is made of: every
append that succeeded is an entry, in order, and an item has the separator of its session in front
if the history shows an earlier item of that session. The desk keeps one flag for each session
instead of a history. `Records` ties the flags to the history, and the query is the text that the
builder started with followed by the entries (`Records.query_after`), as long as there is one: a
query may be handed out, or lost where this fails (`Turn.query_ne_none`).

* `Event.record?`, `ledger`: the entries of a history;
* `Records.turn`: every turn keeps the flags in line with the history;
* `text_after_eq`: the text of a builder whose query was not handed out, by its ledger.
-/

namespace SqlText

/-- What an append wrote, at which desk, and with which separator in front. -/
structure Entry where
  desk : Desk
  separator : Option Value
  item : Item

/-- The chunk of an entry. -/
def Entry.text? (e : Entry) : Except Failure String := do
  let text ← e.desk.chunk? e.item
  match e.separator with
  | some separator => return (← Desk.rawChunk? separator) ++ text
  | none => return text

namespace Event

/-- An item was added through session `id`. -/
def isItemOf (id : Nat) (e : Event) : Bool :=
  match e.outcome, e.command with
  | .ok (.session _), .session other (.push _) => other == id
  | _, _ => false

/-- The session that was opened, with its separator. -/
def opened? (e : Event) : Option (Nat × Value) :=
  match e.outcome, e.command with
  | .ok (.session id), .builder (.separated separator) => some (id, separator)
  | .ok (.session id), .openDirect separator => some (id, separator)
  | _, _ => none

/-- The separator that a session was opened with. A session in use was opened before. -/
def separatorOf (history : List Event) (id : Nat) : Value :=
  ((history.filterMap opened?).lookup id).getD .null

/-- What an event adds to the query after the history before it. Only items are separated, and only
from an earlier item of their session. -/
def record? (history : List Event) (e : Event) : Option Entry :=
  match e.outcome, e.command with
  | .ok .builder, .builder (.push item) => some ⟨e.before, none, item⟩
  | .ok (.session _), .session _ (.pushUnseparated v) => some ⟨e.before, none, .raw v⟩
  | .ok (.session _), .session id (.push item) =>
    some ⟨e.before, if history.any (isItemOf id) then some (separatorOf history id) else none, item⟩
  | _, _ => none

end Event

/-- The entries of further events after a history. -/
def ledger (history : List Event) : List Event → List Entry
  | [] => []
  | e :: rest => (e.record? history).toList ++ ledger (history ++ [e]) rest

namespace Desk

open Event

/-! ## Flags and history -/

/-- What the desk keeps of its sessions is what the history shows. A number that was not given out
yet does not occur in the history. -/
structure Records (history : List Event) (desk : Desk) : Prop where
  separator : ∀ id s, desk.session? id = some s → separatorOf history id = s.separator
  separates : ∀ id s, desk.session? id = some s → history.any (isItemOf id) = s.separates
  unopened : ∀ id, desk.opened ≤ id →
    (history.filterMap opened?).lookup id = none ∧ history.any (isItemOf id) = false

namespace Records

variable {history : List Event} {desk next : Desk}

/-- Events that open no session and add no item, and leave the flags as they are. Sessions may leave
the desk. -/
theorem frame (h : Records history desk) {e : Event} (hitem : ∀ id, e.isItemOf id = false)
    (hopening : e.opened? = none) (hopened : next.opened = desk.opened)
    (hsessions : ∀ id s', next.session? id = some s' → ∃ s, desk.session? id = some s
      ∧ s'.separator = s.separator ∧ s'.separates = s.separates) :
    Records (history ++ [e]) next where
  separator id s' hs' := by
    obtain ⟨s, hs, hseparator, _⟩ := hsessions id s' hs'
    rw [hseparator, ← h.separator id s hs]
    simp [separatorOf, hopening]
  separates id s' hs' := by
    obtain ⟨s, hs, _, hseparates⟩ := hsessions id s' hs'
    rw [hseparates, ← h.separates id s hs]
    simp [hitem]
  unopened id hid := by
    rw [hopened] at hid
    obtain ⟨hlookup, hany⟩ := h.unopened id hid
    simp [hitem, hopening, hlookup, hany]

/-- A session that is opened has the separator that the event names, and no items. -/
theorem opening (h : Records history desk) {e : Event}
    (hitem : ∀ id, e.isItemOf id = false) {opening : Opening} {separator : Value}
    (hopening : e.opened? = some (desk.opened, separator)) (hopened : next.opened = desk.opened + 1)
    (hsessions : ∀ id, next.session? id
      = if id = desk.opened then some { opening, separator } else desk.session? id) :
    Records (history ++ [e]) next where
  separator id s hs := by
    rw [hsessions] at hs
    split at hs
    · next hid =>
      cases hs
      subst hid
      obtain ⟨hlookup, _⟩ := h.unopened desk.opened (Nat.le_refl _)
      simp [separatorOf, hopening, List.lookup_append, hlookup]
    · next hid =>
      have hne : (id == desk.opened) = false := by simpa using hid
      rw [← h.separator id s hs]
      simp [separatorOf, hopening, List.lookup_append, List.lookup_cons, hne]
  separates id s hs := by
    rw [hsessions] at hs
    split at hs
    · next hid =>
      cases hs
      obtain ⟨_, hany⟩ := h.unopened id (Nat.le_of_eq hid.symm)
      simp only [List.any_append, hany, List.any_cons, hitem, List.any_nil, Bool.or_false]
    · rw [← h.separates id s hs]
      simp [hitem]
  unopened id hid := by
    rw [hopened] at hid
    obtain ⟨hlookup, hany⟩ := h.unopened id (by omega)
    have hne : (id == desk.opened) = false := by
      simp only [beq_eq_false_iff_ne, ne_eq]
      omega
    simp [hitem, hopening, List.lookup_append, List.lookup_cons, hlookup, hany, hne]

/-- After an item of session `id` the history shows one, and the separator is due. No other session
is concerned. -/
theorem item (h : Records history desk) (hcoherent : Coherent desk) {id : Nat} {s : Session}
    (hs : desk.session? id = some s) {e : Event} (hitem : ∀ other, e.isItemOf other = (id == other))
    (hopening : e.opened? = none) (hopened : next.opened = desk.opened)
    (hsessions : ∀ other, next.session? other
      = if other = id then some { s with separates := true } else desk.session? other) :
    Records (history ++ [e]) next where
  separator other t ht := by
    have hsame : separatorOf (history ++ [e]) other = separatorOf history other := by
      simp [separatorOf, hopening]
    rw [hsessions] at ht
    rw [hsame]
    split at ht
    · next hid =>
      cases ht
      rw [hid, h.separator id s hs]
    · exact h.separator other t ht
  separates other t ht := by
    rw [hsessions] at ht
    split at ht
    · next hid =>
      cases ht
      simp [hitem, hid]
    · next hid =>
      -- the new item is none of another session
      have hne : (id == other) = false := by simpa using Ne.symm hid
      rw [← h.separates other t ht]
      simp [hitem, hne]
  unopened other hother := by
    rw [hopened] at hother
    obtain ⟨hlookup, hany⟩ := h.unopened other hother
    -- the session is on the desk, so its number was given out
    have hlt := hcoherent.numbered id s hs
    have hne : (id == other) = false := by
      simp only [beq_eq_false_iff_ne, ne_eq]
      omega
    simp [hitem, hopening, hlookup, hany, hne]

/-- **Every turn keeps the flags in line with the history.** -/
theorem turn (h : Records history desk) (hcoherent : Coherent desk) {command : Command}
    {outcome : Except Failure Reply} (hturn : Turn desk command outcome next) :
    Records (history ++ [⟨desk, command, outcome⟩]) next := by
  -- most events are neither openings nor items, and leave the sessions alone
  have hsame : ∀ {e : Event} {desk' : Desk}, (∀ id, e.isItemOf id = false) → e.opened? = none →
      desk'.opened = desk.opened → (∀ id, desk'.session? id = desk.session? id) →
      Records (history ++ [e]) desk' := by
    intro e desk' hitem hopening hopened hsessions
    refine h.frame hitem hopening hopened fun id s hs => ?_
    rw [hsessions] at hs
    exact ⟨s, hs, rfl, rfl⟩
  have hended : ∀ {e : Event} {id : Nat} {s : Session}, (∀ id, e.isItemOf id = false) →
      e.opened? = none → desk.session? id = some s →
      Records (history ++ [e])
        ((desk.released id).withSession id { s with isFinished := true }) := by
    intro e id s hitem hopening hs
    refine h.frame hitem hopening (opened_released desk id) fun other t ht => ?_
    rw [session?_ended hs] at ht
    split at ht
    · next hid =>
      cases ht
      exact ⟨s, hid ▸ hs, rfl, rfl⟩
    · exact ⟨t, ht, rfl, rfl⟩
  cases hturn with
  | built | held | absent | entered | refused | leftAgain | unwritten | closed
  | unseparatedPushed | registered | assigned =>
    exact hsame (fun _ => rfl) rfl rfl fun _ => rfl
  | unpushed | pushed | lost =>
    exact hsame (fun _ => rfl) rfl (opened_settled desk) (session?_settled desk)
  | build =>
    refine hsame (fun _ => rfl) rfl ?_ fun id => ?_
    · rw [opened_handedOver, opened_settled]
    · rw [session?_handedOver, session?_settled]
  | separated separator => exact h.opening (fun _ => rfl) rfl rfl (session?_withOpened desk _ _)
  | openedDirect separator => exact h.opening (fun _ => rfl) rfl rfl (session?_withOpened desk _ _)
  | finished hsession | left hsession => exact hended (fun _ => rfl) rfl hsession
  | itemPushed item hsession =>
    exact h.item hcoherent hsession (fun _ => rfl) rfl (opened_withItem ..)
      (session?_withItem hsession _)
  | forgotten id =>
    refine h.frame (fun _ => rfl) rfl rfl fun other s hs => ?_
    rw [session?_without] at hs
    split at hs
    · cases hs
    · exact ⟨s, hs, rfl, rfl⟩

end Records

/-! ## The query and its entries -/

theorem Turn.query_eq_none {desk next : Desk} {command : Command}
    {outcome : Except Failure Reply} (hturn : Turn desk command outcome next)
    (hnone : desk.builder.query = none) : next.builder.query = none := by
  cases hturn with
  | held _ hquery | unpushed _ hquery | pushed _ hquery | separated _ hquery | build hquery
  | lost hquery | itemPushed _ _ _ _ hquery | unseparatedPushed _ _ _ _ hquery =>
    rw [hnone] at hquery
    cases hquery
  | finished | left => exact (query_released desk _).trans hnone
  | _ => exact hnone

theorem query_after_eq_none {desk : Desk} (hnone : desk.builder.query = none)
    (commands : List Command) : (desk.after commands).builder.query = none := by
  induction commands generalizing desk with
  | nil => exact hnone
  | cons command rest ih =>
    rw [after_cons]
    exact ih ((step_turn desk command).query_eq_none hnone)

theorem Turn.query_eq_of_build {desk next : Desk} {text : String}
    (hturn : Turn desk (.builder .build) (.ok (.query text)) next) :
    desk.builder.query = some text := by
  cases hturn with
  | build hquery => exact hquery

/-- What a build hands out is a query. -/
theorem exists_query_of_build {desk : Desk}
    (hok : (desk.step (.builder .build)).1.isOk = true) :
    ∃ query, (desk.step (.builder .build)).1 = .ok (.query query) := by
  have hturn := step_turn desk (.builder .build)
  generalize desk.step (.builder .build) = result at hok hturn
  obtain ⟨outcome, next⟩ := result
  cases hturn with
  | build => exact ⟨_, rfl⟩
  | built | held | lost => cases hok

theorem text?_eq_addition? (desk : Desk) (s : Session) (item : Item) :
    (Entry.mk desk (if s.separates then some s.separator else none) item).text?
      = desk.addition? s item := by
  unfold Entry.text? addition?
  cases s.separates <;> rfl

/-- **What a turn writes is the entry of its event**, if there is still a query afterwards. -/
theorem Records.query_turn {history : List Event} {desk next : Desk} (h : Records history desk)
    {command : Command} {outcome : Except Failure Reply} (hturn : Turn desk command outcome next)
    {query : String} (hopen : desk.builder.query = some query)
    (hnext : next.builder.query ≠ none) :
    match (Event.mk desk command outcome).record? history with
    | none => next.builder.query = some query
    | some entry => ∃ text, entry.text? = .ok text
        ∧ next.builder.query = some (query ++ text) := by
  cases hturn with
  | built _ hquery | closed _ _ _ hquery =>
    rw [hopen] at hquery
    cases hquery
  | build => exact absurd (query_handedOver ..) hnext
  | lost => exact absurd rfl hnext
  | unpushed => exact (query_settled desk).trans hopen
  | finished | left => exact (query_released desk _).trans hopen
  | pushed item hquery _ hchunk =>
    rw [hopen] at hquery
    cases hquery
    refine ⟨_, ?_, rfl⟩
    show (desk.chunk? item >>= fun text => return text) = _
    rw [hchunk]
    rfl
  | unseparatedPushed v _ _ hchunk hquery =>
    rw [hopen] at hquery
    cases hquery
    refine ⟨_, ?_, rfl⟩
    show (rawChunk? v >>= fun text => return text) = _
    rw [hchunk]
    rfl
  | itemPushed item hsession _ haddition hquery =>
    rw [hopen] at hquery
    cases hquery
    refine ⟨_, ?_, query_withItem ..⟩
    -- the flag and the separator of the session are those of the history
    rw [h.separates _ _ hsession, h.separator _ _ hsession, text?_eq_addition?, haddition]
  | _ => exact hopen

/-- **What a run writes are the entries of its history, in order**, if there is still a query at the
end. -/
theorem Records.query_after {history : List Event} {desk : Desk} (h : Records history desk)
    (hcoherent : Coherent desk) {query : String} (hopen : desk.builder.query = some query)
    (commands : List Command) (hend : (desk.after commands).builder.query ≠ none) :
    ∃ chunks, (ledger history (desk.events commands)).mapM Entry.text? = .ok chunks
      ∧ (desk.after commands).builder.query = some (query ++ String.join chunks) := by
  induction commands generalizing history desk query with
  | nil => exact ⟨[], rfl, by simpa [after] using hopen⟩
  | cons command rest ih =>
    -- the first command writes its entry, and the rest is a run after a longer history
    have hturn := step_turn desk command
    rw [after_cons] at hend ⊢
    have hnext : (desk.step command).2.builder.query ≠ none := fun hnone =>
      hend (query_after_eq_none hnone rest)
    have hwrites := h.query_turn hturn hopen hnext
    rw [events, ledger, List.mapM_append]
    cases hentry : Event.record? history ⟨desk, command, (desk.step command).1⟩ with
    | none =>
      rw [hentry] at hwrites
      obtain ⟨chunks, hchunks, hquery⟩ :=
        ih (h.turn hcoherent hturn) (hcoherent.turn hturn) hwrites hend
      refine ⟨chunks, ?_, hquery⟩
      rw [hchunks]
      rfl
    | some entry =>
      rw [hentry] at hwrites
      obtain ⟨text, htext, hquery⟩ := hwrites
      obtain ⟨chunks, hchunks, hquery⟩ :=
        ih (h.turn hcoherent hturn) (hcoherent.turn hturn) hquery hend
      refine ⟨text :: chunks, ?_, ?_⟩
      · rw [hchunks, Option.toList_some, List.mapM_cons, htext]
        rfl
      · rw [String.join_cons, ← String.append_assoc]
        exact hquery

/-! ## The ledger of a builder -/

theorem records_new {registries : Registries} {settings : Settings} {choice : DialectChoice}
    {init : Value} {desk : Desk} (h : new? registries settings choice init = .ok desk) :
    Records [] desk := by
  obtain ⟨dialect, text, _, rfl⟩ := new?_eq_ok h
  exact ⟨nofun, nofun, fun _ _ => ⟨rfl, rfl⟩⟩

end Desk

end SqlText
