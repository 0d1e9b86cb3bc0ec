import SqlText.Proofs.Desk.Turn

/-!
Runs of commands, and the desks that they lead to. Every desk in use goes back to a new one by
commands, of which any number may have failed. A run leaves a history behind: what was commanded at
which desk, and how it went.
-/

namespace SqlText

/-- A command that was carried out: the desk before it, and its outcome. -/
structure Event where
  before : Desk
  command : Command
  outcome : Except Failure Reply

namespace Desk

/-- The desk after commands, failed ones included. -/
def after (desk : Desk) (commands : List Command) : Desk :=
  commands.foldl (fun desk command => (desk.step command).2) desk

theorem after_cons (desk : Desk) (command : Command) (rest : List Command) :
    desk.after (command :: rest) = (desk.step command).2.after rest := rfl

/-- What happens while commands are carried out, in order. -/
def events (desk : Desk) : List Command → List Event
  | [] => []
  | command :: rest =>
    ⟨desk, command, (desk.step command).1⟩ :: (desk.step command).2.events rest

/-- The desks that a new one can lead to. -/
inductive Reachable : Desk → Prop
  | new {registries : Registries} {settings : Settings} {choice : DialectChoice} {init : Value}
      {desk : Desk} (hnew : new? registries settings choice init = .ok desk) : Reachable desk
  | step {desk : Desk} (hdesk : Reachable desk) (command : Command) :
      Reachable (desk.step command).2

theorem Reachable.after {desk : Desk} (h : Reachable desk) (commands : List Command) :
    Reachable (desk.after commands) := by
  induction commands generalizing desk with
  | nil => exact h
  | cons command rest ih => exact ih (h.step command)

/-! ## A new desk -/

theorem exists_of_bind_eq_ok {α β : Type} {first : Except Failure α} {next : α → Except Failure β}
    {b : β} (h : (first >>= next) = .ok b) : ∃ a, first = .ok a ∧ next a = .ok b := by
  cases first with
  | error failure => cases h
  | ok a => exact ⟨a, rfl, h⟩

/-- The dialect of a new builder: the one that is asked for, or else that of the settings. -/
def openingDialect? (ds : Dialects) (settings : Settings) : DialectChoice → Except Failure Dialect
  | .unspecified => settings.resolve? ds
  | .named name => ds.resolve? (.text name)
  | .given dialect => .ok dialect

theorem new?_eq (registries : Registries) (settings : Settings) (choice : DialectChoice)
    (init : Value) :
    new? registries settings choice init = (do
      let dialect ← openingDialect? registries.dialects settings choice
      let text ← init.display?
      return { registries, settings, builder := ⟨dialect, some text, none⟩ }) := by
  cases choice with
  | unspecified | given => rfl
  | named name =>
    unfold new? DialectChoice.resolve? openingDialect?
    dsimp only
    cases registries.dialects.resolve? (.text name) <;> rfl

/-- A new builder has the dialect that it is opened with and the text that it starts with, and
nothing else is on its desk. -/
theorem exists_of_new? {registries : Registries} {settings : Settings} {choice : DialectChoice}
    {init : Value} {desk : Desk} (h : new? registries settings choice init = .ok desk) :
    ∃ dialect text, openingDialect? registries.dialects settings choice = .ok dialect
      ∧ init.display? = .ok text
      ∧ desk = { registries, settings, builder := ⟨dialect, some text, none⟩ } := by
  rw [new?_eq] at h
  obtain ⟨dialect, hdialect, h⟩ := exists_of_bind_eq_ok h
  obtain ⟨text, htext, h⟩ := exists_of_bind_eq_ok h
  cases h
  exact ⟨dialect, text, hdialect, htext, rfl⟩

theorem new?_eq_ok {registries : Registries} {settings : Settings} {choice : DialectChoice}
    {init : Value} {desk : Desk} (h : new? registries settings choice init = .ok desk) :
    ∃ dialect text, init.display? = .ok text
      ∧ desk = { registries, settings, builder := ⟨dialect, some text, none⟩ } := by
  obtain ⟨dialect, text, -, htext, hdesk⟩ := exists_of_new? h
  exact ⟨dialect, text, htext, hdesk⟩

/-- A new builder that was opened with a name has the dialect that this name finds. -/
theorem resolve?_of_new? {registries : Registries} {settings : Settings} {name : String}
    {init : Value} {desk : Desk} (h : new? registries settings (.named name) init = .ok desk) :
    registries.dialects.resolve? (.text name) = .ok desk.builder.dialect := by
  obtain ⟨dialect, text, hdialect, -, rfl⟩ := exists_of_new? h
  exact hdialect

/-- A desk with nothing registered, and a builder that was given its dialect. -/
def plain (text : String) : Desk where
  registries := {}
  settings := {}
  builder := ⟨{ name := "mysql" }, some text, none⟩

theorem new?_plain (text : String) :
    new? {} {} (.given { name := "mysql" }) (.text text) = .ok (plain text) := rfl

/-- A flag that fails to say yes or no. -/
def unanswered : Value :=
  .object (.declared "flags" "Flag") [] none
    { displayed := .ok "<flag>", inspected := .ok "<flag>"
      truth := .error (.raised .invalidValue "no truth") }

section Frame

variable (desk : Desk) (id : Nat) (s : Session) (query : String) (logged : Bool)

theorem query_settled : desk.settled.builder.query = desk.builder.query := by
  unfold settled
  split <;> rfl

theorem dialect_settled : desk.settled.builder.dialect = desk.builder.dialect := by
  unfold settled
  split <;> rfl

theorem opened_settled : desk.settled.opened = desk.opened := by
  unfold settled
  split <;> rfl

theorem session?_settled (other : Nat) : desk.settled.session? other = desk.session? other := by
  unfold settled
  split <;> rfl

theorem query_released : (desk.released id).builder.query = desk.builder.query := by
  unfold released
  split
  · rfl
  · exact query_settled desk

theorem dialect_released : (desk.released id).builder.dialect = desk.builder.dialect := by
  unfold released
  split
  · rfl
  · exact dialect_settled desk

theorem opened_released : (desk.released id).opened = desk.opened := by
  unfold released
  split
  · rfl
  · exact opened_settled desk

theorem session?_released (other : Nat) :
    (desk.released id).session? other = desk.session? other := by
  unfold released
  split
  · rfl
  · exact session?_settled desk other

theorem query_handedOver : (desk.handedOver query logged).builder.query = none := by
  unfold handedOver
  split <;> rfl

theorem dialect_handedOver :
    (desk.handedOver query logged).builder.dialect = desk.builder.dialect := by
  unfold handedOver
  split <;> rfl

theorem opened_handedOver : (desk.handedOver query logged).opened = desk.opened := by
  unfold handedOver
  split <;> rfl

theorem session?_handedOver (other : Nat) :
    (desk.handedOver query logged).session? other = desk.session? other := by
  unfold handedOver
  split <;> rfl

theorem query_withItem : (desk.withItem id s query).builder.query = some query := by
  unfold withItem
  split <;> rfl

theorem dialect_withItem :
    (desk.withItem id s query).builder.dialect = desk.builder.dialect := by
  unfold withItem
  split <;> rfl

theorem borrower_withItem :
    (desk.withItem id s query).builder.borrower = desk.builder.borrower := by
  unfold withItem
  split <;> rfl

theorem opened_withItem : (desk.withItem id s query).opened = desk.opened := by
  unfold withItem
  split <;> rfl

end Frame

/-! ## The dialect of the builder -/

/-- A command leaves the dialect alone. -/
theorem Turn.dialect_eq {desk next : Desk} {command : Command} {outcome : Except Failure Reply}
    (h : Turn desk command outcome next) : next.builder.dialect = desk.builder.dialect := by
  cases h with
  | unpushed | pushed | lost => exact dialect_settled desk
  | build => rw [dialect_handedOver, dialect_settled]
  | @finished id | @left id => exact dialect_released desk id
  | itemPushed => exact dialect_withItem ..
  | _ => rfl

/-- **A builder keeps its dialect**, whatever is done. -/
theorem dialect_after (desk : Desk) (commands : List Command) :
    (desk.after commands).builder.dialect = desk.builder.dialect := by
  induction commands generalizing desk with
  | nil => rfl
  | cons command rest ih => rw [after_cons, ih, (step_turn desk command).dialect_eq]

/-! ## Sessions by number -/

theorem session?_withSession (desk : Desk) (id : Nat) (s : Session) (other : Nat) :
    (desk.withSession id s).session? other
      = if other = id then (desk.session? id).map fun _ => s else desk.session? other := by
  unfold withSession session?
  simp only
  induction desk.sessions with
  | nil => simp
  | cons e rest ih =>
    obtain ⟨key, t⟩ := e
    rw [List.map_cons, List.lookup_cons, List.lookup_cons, List.lookup_cons, ih]
    by_cases hid : other = id
    · by_cases hkey : key = id
      · simp [hid, hkey]
      · have hne : (id == key) = false := by simpa using Ne.symm hkey
        simp [hid, hkey, hne]
    · by_cases hkey : key = id
      · have hne : (other == id) = false := by simpa using hid
        simp [hid, hkey, hne]
      · simp [hid, hkey]

theorem session?_withSession_of_ne (desk : Desk) {id other : Nat} (s : Session)
    (hne : other ≠ id) : (desk.withSession id s).session? other = desk.session? other := by
  rw [session?_withSession, if_neg hne]

theorem session?_without (desk : Desk) (id other : Nat) :
    (desk.without id).session? other = if other = id then none else desk.session? other := by
  unfold without session?
  simp only
  induction desk.sessions with
  | nil => simp
  | cons e rest ih =>
    obtain ⟨key, t⟩ := e
    by_cases hkey : key = id
    · rw [List.filter_cons_of_neg (by simp [hkey]), ih, List.lookup_cons]
      by_cases hid : other = id
      · simp [hid]
      · have hne : (other == key) = false := by simpa [hkey] using hid
        simp [hid, hne]
    · rw [List.filter_cons_of_pos (by simp [hkey]), List.lookup_cons, List.lookup_cons, ih]
      by_cases hid : other = id
      · have hne : (id == key) = false := by simpa using Ne.symm hkey
        simp [hid, hne]
      · simp [hid]

theorem session?_without_of_ne (desk : Desk) {id other : Nat} (hne : other ≠ id) :
    (desk.without id).session? other = desk.session? other := by
  rw [session?_without, if_neg hne]

theorem session?_withOpened (desk : Desk) (opening : Opening) (separator : Value) (other : Nat) :
    (desk.withOpened opening separator).session? other
      = if other = desk.opened then some { opening, separator } else desk.session? other := by
  unfold withOpened session?
  simp only [List.lookup_cons]
  by_cases hid : other = desk.opened
  · simp [hid]
  · have hne : (other == desk.opened) = false := by simpa using hid
    simp [hid, hne]

theorem session?_withOpened_of_ne (desk : Desk) (opening : Opening) (separator : Value)
    {other : Nat} (hne : other ≠ desk.opened) :
    (desk.withOpened opening separator).session? other = desk.session? other := by
  rw [session?_withOpened, if_neg hne]

/-- A session that was ended stays on the desk, as a finished one. -/
theorem session?_ended {desk : Desk} {id : Nat} {s : Session} (hs : desk.session? id = some s)
    (other : Nat) :
    ((desk.released id).withSession id { s with isFinished := true }).session? other
      = if other = id then some { s with isFinished := true } else desk.session? other := by
  rw [session?_withSession, session?_released, session?_released, hs]
  rfl

/-- After an item the separator of its session is due, and no other session is touched. -/
theorem session?_withItem {desk : Desk} {id : Nat} {s : Session}
    (hs : desk.session? id = some s) (query : String) (other : Nat) :
    (desk.withItem id s query).session? other
      = if other = id then some { s with separates := true } else desk.session? other := by
  unfold withItem
  split
  · next hdue =>
    -- the separator was due before
    have hsame : { s with separates := true } = s := by rw [← hdue]
    show desk.session? other = _
    rw [hsame]
    split
    · next hid => rw [hid, hs]
    · rfl
  · rw [session?_withSession]
    show (if other = id then (desk.session? id).map _ else desk.session? other) = _
    rw [hs]
    rfl

end Desk

end SqlText
