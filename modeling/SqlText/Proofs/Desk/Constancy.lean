import SqlText.Proofs.Desk.Atomicity
import SqlText.Proofs.Desk.Rendering

/-!
What a builder takes with it when it is opened, and what it looks up each time. The dialect is
settled once, in whichever way it was asked for: the catalog may change afterwards, and so may the
name in the settings, and the builder does not notice. That is a statement on two runs: commands
that concern dialects can be left out of a run, and everything else goes as it went with them
(`Agree.after_filter`). The renderers and the switch for the log are another matter, as these are
looked up when they are needed.

* `lookedUp_after`: what is looked up, by the commands that change it;
* `name_eq_of_built_mem_after`: notices of queries that were handed out name the builder's dialect;
* `Agree.after_filter`: a run, and the same one without the commands that concern dialects;
* `exists_keepsDialect`: all of this, from the moment that the builder is opened.
-/

namespace SqlText

/-- The commands that change which dialects there are, or which one the settings name. -/
def Command.concernsDialects : Command → Bool
  | .register (.dialect _ _) | .assign .dialect _ => true
  | _ => false

/-- What is registered by commands, in order. -/
def registrations (commands : List Command) : List Registration :=
  commands.filterMap fun
    | .register registration => some registration
    | _ => none

/-- What is assigned to the settings by commands, in order. -/
def assignments (commands : List Command) : List (SettingsField × Value) :=
  commands.filterMap fun
    | .assign field v => some (field, v)
    | _ => none

/-- The registries after registrations. -/
def Registries.applyAll (r : Registries) (calls : List Registration) : Registries :=
  calls.foldl Registries.apply r

/-- The settings after assignments. -/
def Settings.assignAll (s : Settings) (calls : List (SettingsField × Value)) : Settings :=
  calls.foldl (fun s call => s.assign call.2 call.1) s

namespace Desk

/-! ## What is looked up -/

/-- Only registrations and assignments concern what is looked up. -/
theorem Turn.lookedUp_eq {desk next : Desk} {command : Command} {outcome : Except Failure Reply}
    (hturn : Turn desk command outcome next) :
    next.registries = desk.registries.applyAll (registrations [command])
      ∧ next.settings = desk.settings.assignAll (assignments [command]) := by
  cases hturn with
  | unpushed | pushed | lost =>
    obtain ⟨borrower, hsettled⟩ := exists_settled desk
    rw [hsettled]
    exact ⟨rfl, rfl⟩
  | build =>
    obtain ⟨borrower, hsettled⟩ := exists_settled desk
    rw [hsettled, handedOver]
    split <;> exact ⟨rfl, rfl⟩
  | @finished id | @left id =>
    obtain ⟨borrower, hreleased⟩ := exists_released desk id
    rw [hreleased]
    exact ⟨rfl, rfl⟩
  | itemPushed =>
    unfold withItem
    split <;> exact ⟨rfl, rfl⟩
  | _ => exact ⟨rfl, rfl⟩

theorem lookedUp_after (desk : Desk) (commands : List Command) :
    (desk.after commands).registries = desk.registries.applyAll (registrations commands)
      ∧ (desk.after commands).settings = desk.settings.assignAll (assignments commands) := by
  induction commands generalizing desk with
  | nil => exact ⟨rfl, rfl⟩
  | cons command rest ih =>
    obtain ⟨hregistries, hsettings⟩ := ih (desk.step command).2
    obtain ⟨hfirst, hfirstSettings⟩ := (step_turn desk command).lookedUp_eq
    rw [after_cons, hregistries, hsettings, hfirst, hfirstSettings]
    cases command <;> exact ⟨rfl, rfl⟩

/-! ## What is noticed of a query -/

theorem notices_handedOver (desk : Desk) (query : String) (logged : Bool) :
    (desk.handedOver query logged).notices = desk.notices
      ++ if logged then [.built desk.builder.dialect.name query] else [] := by
  unfold handedOver
  split
  · rfl
  · exact (List.append_nil _).symm

/-- The query that is handed out is noticed if the settings ask for it at this moment. -/
theorem notices_of_build {desk : Desk} {query : String}
    (hbuild : (desk.step (.builder .build)).1 = .ok (.query query)) :
    ∃ logged, desk.settings.logQueries.truth? = .ok logged
      ∧ (desk.step (.builder .build)).2.notices = desk.notices
        ++ if logged then [.built desk.builder.dialect.name query] else [] := by
  have hturn := step_turn desk (.builder .build)
  rw [hbuild] at hturn
  generalize (desk.step (.builder .build)).2 = next at hturn ⊢
  cases hturn with
  | build _ _ htruth =>
    obtain ⟨borrower, hsettled⟩ := exists_settled desk
    refine ⟨_, htruth, ?_⟩
    rw [notices_handedOver, hsettled]

/-- A command adds no notice of a query but one with the dialect of the builder. -/
theorem Turn.name_eq_of_built_mem {desk next : Desk} {command : Command}
    {outcome : Except Failure Reply} (hturn : Turn desk command outcome next) {name query : String}
    (hmem : .built name query ∈ next.notices) :
    .built name query ∈ desk.notices ∨ name = desk.builder.dialect.name := by
  cases hturn with
  | built | held | refused =>
    -- what is noticed is another thing
    obtain hmem | hmem := List.mem_append.mp hmem
    · exact .inl hmem
    · cases List.mem_singleton.mp hmem
  | unpushed | pushed | lost => exact .inl (notices_settled desk ▸ hmem)
  | build =>
    rw [notices_handedOver, notices_settled, dialect_settled] at hmem
    obtain hmem | hmem := List.mem_append.mp hmem
    · exact .inl hmem
    · split at hmem
      · cases List.mem_singleton.mp hmem
        exact .inr rfl
      · cases hmem
  | @finished id | @left id => exact .inl (notices_released desk id ▸ hmem)
  | itemPushed => exact .inl (notices_withItem .. ▸ hmem)
  | _ => exact .inl hmem

theorem name_eq_of_built_mem_after {desk : Desk} {name query : String} {commands : List Command}
    (hmem : .built name query ∈ (desk.after commands).notices) :
    .built name query ∈ desk.notices ∨ name = desk.builder.dialect.name := by
  induction commands generalizing desk with
  | nil => exact .inl hmem
  | cons command rest ih =>
    have hturn := step_turn desk command
    obtain hmem | hname := ih hmem
    · exact hturn.name_eq_of_built_mem hmem
    · exact .inr (hturn.dialect_eq ▸ hname)

/-! ## Runs without the commands that concern dialects -/

/-- The outcomes of the events that do not concern dialects. -/
def otherOutcomes (events : List Event) : List (Except Failure Reply) :=
  (events.filter (!·.command.concernsDialects)).map (·.outcome)

variable {apart : Nat → Prop} {desk other : Desk}

/-- A command that concerns dialects leaves all that commands depend on as it was. -/
theorem Agree.of_concernsDialects (h : Agree apart desk other) {command : Command}
    (hdialects : command.concernsDialects = true) :
    Agree apart (desk.step command).2 other
      ∧ (desk.step command).2.notices = desk.notices := by
  have hsame : ∀ registries settings, registries.renderers = desk.registries.renderers →
      settings.logQueries = desk.settings.logQueries →
      Agree apart { desk with registries, settings } other := fun _ _ hrenderers hlog =>
    ⟨h.renderers.trans hrenderers.symm, h.logQueries.trans hlog.symm, h.dialect, h.query, h.opened,
      h.session, h.gone, h.numbered⟩
  cases command with
  | register registration =>
    cases registration with
    | dialect dialect aliases => exact ⟨hsame _ _ rfl rfl, rfl⟩
    | renderer | noRenderer => cases hdialects
  | assign field v =>
    cases field with
    | dialect => exact ⟨hsame _ _ rfl rfl, rfl⟩
    | logQueries | options => cases hdialects
  | builder | openDirect | session | forget => cases hdialects

/-- **The commands that concern dialects can be left out of a run.** All others have the outcomes
that they had with them, and the desks agree afterwards. -/
theorem Agree.after_filter (h : Agree (fun _ => False) desk other) (hdesk : Coherent desk)
    (hother : Coherent other) (hnotices : other.notices = desk.notices) (commands : List Command) :
    (other.events (commands.filter (!·.concernsDialects))).map (·.outcome)
        = otherOutcomes (desk.events commands)
      ∧ Agree (fun _ => False) (desk.after commands)
        (other.after (commands.filter (!·.concernsDialects)))
      ∧ (other.after (commands.filter (!·.concernsDialects))).notices
        = (desk.after commands).notices := by
  induction commands generalizing desk other with
  | nil => exact ⟨rfl, h, hnotices⟩
  | cons command rest ih =>
    have hnext := hdesk.turn (step_turn desk command)
    cases hdialects : command.concernsDialects with
    | true =>
      -- the command is carried out at one desk only
      obtain ⟨hagree, hsilent⟩ := h.of_concernsDialects hdialects
      have hrest := ih hagree hnext hother (hnotices.trans hsilent.symm)
      rw [List.filter_cons_of_neg (by simp [hdialects]), after_cons]
      rwa [otherOutcomes, events, List.filter_cons_of_neg (by simp [hdialects])]
    | false =>
      obtain ⟨houtcome, hagree, more, hmore, hmoreOther⟩ :=
        h.step hdesk hother fun _ _ => not_false
      have hsame : (other.step command).2.notices = (desk.step command).2.notices := by
        rw [hmore, hmoreOther, hnotices]
      obtain ⟨houtcomes, hlast, hend⟩ :=
        ih hagree hnext (hother.turn (step_turn other command)) hsame
      rw [List.filter_cons_of_pos (by simp [hdialects])]
      refine ⟨?_, hlast, hend⟩
      rw [events, List.map_cons, houtcomes, houtcome, otherOutcomes, otherOutcomes, events,
        List.filter_cons_of_pos (by simp [hdialects]), List.map_cons]

/-- Two runs from one desk that differ only in commands that concern dialects. Both are compared
with the run that has none of these. -/
theorem Coherent.after_congr_filter {desk : Desk} (h : Coherent desk)
    {commands others : List Command}
    (hfilter : commands.filter (!·.concernsDialects) = others.filter (!·.concernsDialects)) :
    otherOutcomes (desk.events commands) = otherOutcomes (desk.events others)
      ∧ (desk.after commands).notices = (desk.after others).notices
      ∧ (desk.after commands).LooksLike (desk.after others) := by
  obtain ⟨houtcomes, hagree, hnotices⟩ := (Agree.refl desk).after_filter h h rfl commands
  obtain ⟨houtcomesOther, hagreeOther, hnoticesOther⟩ :=
    (Agree.refl desk).after_filter h h rfl others
  rw [← hfilter] at houtcomesOther hagreeOther hnoticesOther
  have hless := h.after (commands.filter (!·.concernsDialects))
  have hlooks := hagree.looksLike (h.after commands) hless
  have hlooksOther := hagreeOther.looksLike (h.after others) hless
  exact ⟨houtcomes.symm.trans houtcomesOther, hnotices.symm.trans hnoticesOther,
    hlooks.symm.trans hlooksOther⟩

/-! ## All of it -/

/-- A command adds an item to the query as `text`, behind the separator that is owed. -/
def Adds (desk : Desk) (command : Command) (item : Item) (text : String) : Prop :=
  ∃ owed reply query front, desk.Appends command item owed reply
    ∧ desk.builder.query = some query ∧ owedText? owed = .ok front
    ∧ (desk.step command).2.builder.query = some (query ++ (front ++ text))

/-- An item that was pushed was added, as its chunk. -/
theorem exists_adds_of_ok {desk : Desk} {command : Command} {item : Item} {reply : Reply}
    (hitem : command.item? = some item) (hok : (desk.step command).1 = .ok reply)
    (hreply : reply ≠ .noSession) :
    ∃ text, desk.chunk? item = .ok text ∧ desk.Adds command item text := by
  obtain ⟨owed, query, front, text, happends, hquery, hfront, hchunk⟩ :=
    exists_appends_of_ok hitem hok hreply
  obtain ⟨-, hadded⟩ := happends.step_of_chunk? hquery hfront hchunk
  exact ⟨text, hchunk, owed, reply, query, front, happends, hquery, hfront, hadded⟩

/-- What a builder keeps and what it looks up, from the moment that it is opened. -/
structure KeepsDialect (registries : Registries) (settings : Settings) (start : Desk)
    (dialect : Dialect) : Prop where
  /-- The builder has this dialect at any time. -/
  kept : ∀ commands, (start.after commands).builder.dialect = dialect
  /-- An identifier that is pushed, through the builder or through any session, is added with the
  quote of this dialect. -/
  quoted : ∀ commands command v reply, command.item? = some (.identifier v) →
    ((start.after commands).step command).1 = .ok reply → reply ≠ .noSession →
      ∃ name text, v.display? = .ok name
        ∧ (Quoting.escape name dialect.identifierQuote).text = .ok text
        ∧ (start.after commands).Adds command (.identifier v) text
  /-- A notice of a query that was handed out has the name of this dialect. -/
  named : ∀ commands name query, .built name query ∈ (start.after commands).notices →
    name = dialect.name
  /-- There is such a notice if the settings ask for it when the query is handed out. -/
  logged : ∀ commands query,
    ((start.after commands).step (.builder .build)).1 = .ok (.query query) →
    ∃ logged, (settings.assignAll (assignments commands)).logQueries.truth? = .ok logged
      ∧ ((start.after commands).step (.builder .build)).2.notices = (start.after commands).notices
        ++ if logged then [.built dialect.name query] else []
  /-- A literal that is pushed is added as the renderers that are registered by then have it. -/
  rendered : ∀ commands command v reply, command.item? = some (.literal v) →
    ((start.after commands).step command).1 = .ok reply → reply ≠ .noSession →
      ∃ text, (registries.applyAll (registrations commands)).renderers.format? v = .ok text
        ∧ (start.after commands).Adds command (.literal v) text
  /-- Runs that differ only in commands that concern dialects have the same outcomes otherwise, the
  same is noticed, and the desks look alike afterwards. -/
  unaffected : ∀ commands others,
    commands.filter (!·.concernsDialects) = others.filter (!·.concernsDialects) →
      otherOutcomes (start.events commands) = otherOutcomes (start.events others)
        ∧ (start.after commands).notices = (start.after others).notices
        ∧ (start.after commands).LooksLike (start.after others)

/-- **A builder keeps the dialect that it is opened with**, whether the dialect was asked for, or
named, or left to the settings, wherever these come from. -/
theorem exists_keepsDialect {registries : Registries} {settings : Settings}
    {choice : DialectChoice} {init : Value} {start : Desk}
    (hnew : new? registries settings choice init = .ok start) :
    ∃ dialect, openingDialect? registries.dialects settings choice = .ok dialect
      ∧ KeepsDialect registries settings start dialect := by
  have hstart := coherent_new hnew
  obtain ⟨dialect, text, hdialect, -, rfl⟩ := exists_of_new? hnew
  refine ⟨dialect, hdialect, {
    kept := dialect_after _
    quoted := ?quoted
    named := ?named
    logged := ?logged
    rendered := ?rendered
    unaffected := fun _ _ => hstart.after_congr_filter }⟩
  case quoted =>
    intro commands command v reply hitem hok hreply
    obtain ⟨text, hchunk, hadds⟩ := exists_adds_of_ok hitem hok hreply
    obtain ⟨name, hraw, htext⟩ := exists_of_bind_eq_ok hchunk
    rw [dialect_after] at htext
    exact ⟨name, text, display?_of_rawChunk?_eq_ok hraw, htext, hadds⟩
  case named =>
    intro commands name query hmem
    obtain hmem | hname := name_eq_of_built_mem_after hmem
    · cases hmem
    · exact hname
  case logged =>
    intro commands query hbuild
    obtain ⟨logged, htruth, hnotices⟩ := notices_of_build hbuild
    rw [(lookedUp_after _ commands).2] at htruth
    rw [dialect_after] at hnotices
    exact ⟨logged, htruth, hnotices⟩
  case rendered =>
    intro commands command v reply hitem hok hreply
    obtain ⟨text, hchunk, hadds⟩ := exists_adds_of_ok hitem hok hreply
    have hformat := format?_of_literalChunk?_eq_ok hchunk
    rw [(lookedUp_after _ commands).1] at hformat
    exact ⟨text, hformat, hadds⟩

/-- The names of a dialect are taken over by another one, and the settings name a third one and turn
the log on. -/
def diverted : List Command :=
  [.register (.dialect { name := "mysql", identifierQuote := "\"" } ["mariadb"]),
    .assign .dialect (.text "clickhouse"), .assign .logQueries (.bool true)]

/-- Settings from a named argument, and a builder that is opened with them. Its dialect is the one
that the name had, and so are the quotes and the notice. -/
theorem exists_keepsDialect_diverted :
    ∃ settings start, Settings.create? .standard {} [("dialect", .text "MariaDB")] = .ok settings
      ∧ new? {} settings .unspecified (.text "SELECT ") = .ok start
      ∧ KeepsDialect {} settings start { name := "mysql" }
      ∧ otherOutcomes (start.events (diverted ++ [.builder (.push (.identifier (.text "a"))),
          .builder .build])) = [.ok .done, .ok .builder, .ok (.query "SELECT \x60a\x60")]
      ∧ ((start.after diverted).after [.builder (.push (.identifier (.text "a"))),
          .builder .build]).notices = [.built "mysql" "SELECT \x60a\x60"] := by
  have hcreate : Settings.create? .standard {} [("dialect", .text "MariaDB")]
      = .ok { dialect := .text "mariadb" } := rfl
  have hnew : new? {} { dialect := .text "mariadb" } .unspecified (.text "SELECT ")
      = .ok { plain "SELECT " with settings := { dialect := .text "mariadb" } } := rfl
  obtain ⟨dialect, hdialect, hkeeps⟩ := exists_keepsDialect hnew
  cases hdialect
  exact ⟨_, _, hcreate, hnew, hkeeps, rfl, rfl⟩

end Desk

end SqlText
