import SqlText.Proofs.Desk.Ledger
import SqlText.Proofs.Scan

/-!
Queries that nothing bound to them can break out of. A query scans as what was appended to it, entry
by entry: text that was pushed as it is scans as its characters, an identifier as one token of the
dialect's quote, and a literal as the lexemes of its tree, in which every text is one token between
apostrophes. What the texts and the names hold is of no account.

* `Quotes.turn`: the circumstances in which this holds stay as they are;
* `Entry.exists_scans`: the chunk of an entry scans as the lexemes of the entry;
* `scan_query`: the query that is handed out scans as its ledger.
-/

namespace SqlText

/-! ## What may be appended -/

/-- The text of a value has no quote in it. A backslash has no meaning outside of tokens. -/
def Value.IsNeutral (q : Char) (v : Value) : Prop :=
  ∀ text, v.display? = .ok text → ∀ c ∈ text.toList, c ≠ '\'' ∧ c ≠ q

/-- Text that is pushed as it is has to be neutral. Bound values are plain, and names are any. -/
def Item.IsSafe (q : Char) : Item → Prop
  | .raw v => v.IsNeutral q
  | .literal v => v.IsPlain fun _ => True
  | .identifier _ => True

/-- Commands that append safe items and open sessions with a neutral separator. No renderer is
registered. -/
def Command.IsSafe (q : Char) : Command → Prop
  | .builder (.push item) | .session _ (.push item) => item.IsSafe q
  | .builder (.separated v) | .openDirect v | .session _ (.pushUnseparated v) => v.IsNeutral q
  | .register (.renderer ..) => False
  | _ => True

/-! ## What an entry scans as -/

/-- The lexemes of an item. -/
def Item.lexemes? (q : Char) : Item → Option (List Lexeme)
  | .raw v => (Desk.rawChunk? v).toOption.map fun text => text.toList.map .plain
  | .literal v => v.tree?.map Literal.lexemes
  | .identifier v => (Desk.rawChunk? v).toOption.map fun name => [.token q name.toList]

/-- The lexemes of an entry, those of the separator in front. -/
def Entry.lexemes? (q : Char) (e : Entry) : Option (List Lexeme) := do
  let found ← e.item.lexemes? q
  match e.separator with
  | some separator => return (← (Item.raw separator).lexemes? q) ++ found
  | none => return found

open Lexeme

variable {q : Char}

namespace Desk

/-- Identifiers are quoted by `q`, and no renderer is registered. -/
structure Quotes (q : Char) (desk : Desk) : Prop where
  renderers : desk.registries.renderers = {}
  quote : desk.builder.dialect.identifierQuote = String.singleton q

theorem exists_scans_raw {v : Value} (hv : v.IsNeutral q) {text : String}
    (h : rawChunk? v = .ok text) :
    ∃ found, (Item.raw v).lexemes? q = some found ∧ Scans q text.toList found := by
  have hneutral : ∀ c ∈ text.toList, c ≠ '\'' ∧ c ≠ q := by
    unfold rawChunk? at h
    cases hdisplay : v.display? with
    | error failure =>
      rw [hdisplay] at h
      cases h
    | ok shown =>
      rw [hdisplay] at h
      cases h
      exact hv text hdisplay
  refine ⟨text.toList.map .plain, ?_, scans_plain hneutral⟩
  simp only [Item.lexemes?, h]
  rfl

/-- **The chunk of a safe item scans as the lexemes of the item.** -/
theorem Quotes.exists_scans {desk : Desk} (hdesk : desk.Quotes q) (hq : Literal.IsForeign q)
    {item : Item} (hitem : item.IsSafe q) {text : String} (h : desk.chunk? item = .ok text) :
    ∃ found, item.lexemes? q = some found ∧ Scans q text.toList found := by
  cases item with
  | raw v => exact exists_scans_raw hitem h
  | literal v =>
    change literalChunk? desk.registries.renderers v = .ok text at h
    rw [hdesk.renderers] at h
    obtain ⟨tree, htree, hchars⟩ := exists_of_literalChunk?_eq_ok hitem h
    refine ⟨tree.lexemes, ?_, ?_⟩
    · rw [Item.lexemes?, htree]
      rfl
    · rw [hchars]
      exact hq.scans_chars tree
  | identifier v =>
    obtain ⟨name, hname, hchars⟩ := exists_of_identifierChunk?_eq_ok hdesk.quote h
    refine ⟨[.token q name.toList], ?_, ?_⟩
    · simp only [Item.lexemes?, hname]
      rfl
    · rw [hchars]
      exact scans_token (.inr rfl) hq.backslash name.toList

end Desk

namespace Entry

/-- An entry of a safe item, behind a neutral separator if there is one. -/
structure IsSafe (q : Char) (e : Entry) : Prop where
  desk : e.desk.Quotes q
  separator : ∀ v, e.separator = some v → v.IsNeutral q
  item : e.item.IsSafe q

/-- **The chunk of an entry scans as the lexemes of the entry.** The separator in front of an item
takes the scan back to outside before the item begins. -/
theorem exists_scans {e : Entry} (he : e.IsSafe q) (hq : Literal.IsForeign q) {text : String}
    (h : e.text? = .ok text) :
    ∃ found, e.lexemes? q = some found ∧ Scans q text.toList found := by
  obtain ⟨desk, separator, item⟩ := e
  obtain ⟨chunk, hchunk, h⟩ := Desk.exists_of_bind_eq_ok h
  obtain ⟨found, hfound, hscans⟩ := he.desk.exists_scans hq he.item hchunk
  cases separator with
  | none =>
    cases h
    refine ⟨found, ?_, hscans⟩
    rw [lexemes?, hfound]
    rfl
  | some v =>
    obtain ⟨front, hfront, h⟩ := Desk.exists_of_bind_eq_ok h
    cases h
    obtain ⟨before, hbefore, hseparator⟩ := Desk.exists_scans_raw (he.separator v rfl) hfront
    refine ⟨before ++ found, ?_, ?_⟩
    · simp only [lexemes?, hfound, hbefore]
      rfl
    · rw [String.toList_append]
      exact hseparator.append hscans

theorem exists_scans_join (hq : Literal.IsForeign q) {entries : List Entry}
    (hsafe : ∀ e ∈ entries, e.IsSafe q) {chunks : List String}
    (h : entries.mapM text? = .ok chunks) :
    ∃ found, entries.mapM (lexemes? q) = some found
      ∧ Scans q (String.join chunks).toList found.flatten := by
  induction entries generalizing chunks with
  | nil =>
    cases h
    exact ⟨[], rfl, scans_nil q⟩
  | cons e rest ih =>
    rw [List.mapM_cons] at h
    obtain ⟨text, htext, h⟩ := Desk.exists_of_bind_eq_ok h
    obtain ⟨more, hmore, h⟩ := Desk.exists_of_bind_eq_ok h
    cases h
    obtain ⟨found, hfound, hscans⟩ := exists_scans (hsafe e List.mem_cons_self) hq htext
    obtain ⟨behind, hbehind, hlast⟩ := ih (fun e he => hsafe e (List.mem_cons_of_mem _ he)) hmore
    refine ⟨found :: behind, ?_, ?_⟩
    · rw [List.mapM_cons, hfound, hbehind]
      rfl
    · rw [String.join_cons, String.toList_append]
      exact hscans.append hlast

end Entry

/-! ## Safe runs -/

/-- A safe command, at a desk where identifiers are quoted by `q`. -/
structure Event.IsSafe (q : Char) (e : Event) : Prop where
  command : e.command.IsSafe q
  before : e.before.Quotes q

namespace Desk

theorem quotes_settled {desk : Desk} : desk.settled.Quotes q ↔ desk.Quotes q := by
  unfold settled
  split <;> exact ⟨fun h => ⟨h.1, h.2⟩, fun h => ⟨h.1, h.2⟩⟩

theorem quotes_released {desk : Desk} (id : Nat) : (desk.released id).Quotes q ↔ desk.Quotes q := by
  unfold released
  split
  · exact ⟨fun h => ⟨h.1, h.2⟩, fun h => ⟨h.1, h.2⟩⟩
  · exact quotes_settled

/-- **The quote stays, and there is still no renderer**, after every turn of a safe command. -/
theorem Quotes.turn {desk next : Desk} (h : desk.Quotes q) {command : Command}
    (hsafe : command.IsSafe q) {outcome : Except Failure Reply}
    (hturn : Turn desk command outcome next) : next.Quotes q := by
  have hsettled := quotes_settled.mpr h
  cases hturn with
  | unpushed | pushed | lost => exact ⟨hsettled.1, hsettled.2⟩
  | build =>
    unfold handedOver
    split <;> exact ⟨hsettled.1, hsettled.2⟩
  | @finished id _ _ _ | @left id _ _ _ =>
    have hreleased := (quotes_released id).mpr h
    exact ⟨hreleased.1, hreleased.2⟩
  | itemPushed =>
    unfold withItem
    split <;> exact ⟨h.1, h.2⟩
  | registered registration =>
    cases registration with
    | dialect dialect aliases => exact ⟨h.1, h.2⟩
    | renderer type renderer => exact hsafe.elim
    | noRenderer type =>
      -- where there is none, none is taken away
      refine ⟨?_, h.2⟩
      show desk.registries.renderers.unregister type = {}
      rw [h.renderers]
      rfl
  | _ => exact ⟨h.1, h.2⟩

/-- A run of safe commands has a history of safe events. -/
theorem Quotes.isSafe_of_mem_events {desk : Desk} (h : desk.Quotes q) {commands : List Command}
    (hsafe : ∀ command ∈ commands, command.IsSafe q) : ∀ e ∈ desk.events commands, e.IsSafe q := by
  induction commands generalizing desk with
  | nil => exact fun e he => absurd he List.not_mem_nil
  | cons command rest ih =>
    have hcommand := hsafe command List.mem_cons_self
    intro e he
    rcases List.mem_cons.mp he with rfl | he
    · exact ⟨hcommand, h⟩
    · exact ih (h.turn hcommand (step_turn desk command))
        (fun c hc => hsafe c (List.mem_cons_of_mem _ hc)) e he

end Desk

namespace Event

theorem IsSafe.isNeutral_of_opened? {e : Event} (he : e.IsSafe q) {id : Nat} {v : Value}
    (h : e.opened? = some (id, v)) : v.IsNeutral q := by
  obtain ⟨before, command, outcome⟩ := e
  have hcommand := he.command
  simp only [opened?] at h
  split at h
  · cases h
    exact hcommand
  · cases h
    exact hcommand
  · cases h

theorem isNeutral_separatorOf (hq : Literal.IsForeign q) {history : List Event}
    (h : ∀ e ∈ history, e.IsSafe q) (id : Nat) : (separatorOf history id).IsNeutral q := by
  unfold separatorOf
  cases hlookup : (history.filterMap opened?).lookup id with
  | none =>
    -- the null that is assumed for a session nobody opened is written as a word
    intro text htext c hc
    cases htext
    have hword : ∀ d ∈ "None".toList, Literal.isWordChar d = true :=
      List.all_eq_true.mp (by decide)
    exact hq.ne_of_isWordChar (hword c hc)
  | some v =>
    obtain ⟨front, behind, heq, _⟩ := List.lookup_eq_some_iff.mp hlookup
    have hmem : (id, v) ∈ history.filterMap opened? := by
      rw [heq]
      exact List.mem_append_right front List.mem_cons_self
    obtain ⟨e, he, hopened⟩ := List.mem_filterMap.mp hmem
    exact (h e he).isNeutral_of_opened? hopened

theorem IsSafe.isSafe_of_record? {e : Event} (he : e.IsSafe q) (hq : Literal.IsForeign q)
    {history : List Event} (h : ∀ e ∈ history, e.IsSafe q) {entry : Entry}
    (hentry : e.record? history = some entry) : entry.IsSafe q := by
  obtain ⟨before, command, outcome⟩ := e
  have hcommand := he.command
  simp only [record?] at hentry
  split at hentry
  · cases hentry
    exact ⟨he.before, nofun, hcommand⟩
  · cases hentry
    exact ⟨he.before, nofun, hcommand⟩
  · cases hentry
    refine ⟨he.before, fun v hv => ?_, hcommand⟩
    simp only at hv
    split at hv
    · cases hv
      exact isNeutral_separatorOf hq h _
    · cases hv
  · cases hentry

/-- The ledger of safe events has safe entries. -/
theorem isSafe_of_mem_ledger (hq : Literal.IsForeign q) {history events : List Event}
    (h : ∀ e ∈ history, e.IsSafe q) (hevents : ∀ e ∈ events, e.IsSafe q) :
    ∀ entry ∈ ledger history events, entry.IsSafe q := by
  induction events generalizing history with
  | nil => exact fun entry hentry => absurd hentry List.not_mem_nil
  | cons e rest ih =>
    -- the event joins the history of those behind it
    have he := hevents e List.mem_cons_self
    have hhistory : ∀ e' ∈ history ++ [e], e'.IsSafe q := by
      intro e' he'
      rcases List.mem_append.mp he' with he' | he'
      · exact h e' he'
      · rw [List.mem_singleton.mp he']
        exact he
    intro entry hentry
    rcases List.mem_append.mp hentry with hentry | hentry
    · exact he.isSafe_of_record? hq h (Option.mem_toList.mp hentry)
    · exact ih hhistory (fun e' he' => hevents e' (List.mem_cons_of_mem _ he')) entry hentry

end Event

/-! ## Queries -/

namespace Desk

/-- **A query scans as its ledger.** Let `q` quote the identifiers of a builder. Take any run of
safe commands, failed ones included, and a build that hands out the query. The scan of the query
ends outside of tokens, and finds the characters of the text that the builder started with and then
the lexemes of each entry of the ledger: every text in a bound value is one token between
apostrophes, every name is one token between `q`, and nothing else is found. -/
theorem scan_query {registries : Registries} {settings : Settings} {choice : DialectChoice}
    {init : Value} {start : Desk} (hnew : new? registries settings choice init = .ok start)
    (hrenderers : registries.renderers = {}) {q : Char} (hq : Literal.IsForeign q)
    (hquote : start.builder.dialect.identifierQuote = String.singleton q)
    (hinit : init.IsNeutral q) {commands : List Command}
    (hsafe : ∀ command ∈ commands, command.IsSafe q) {query : String}
    (hbuild : ((start.after commands).step (.builder .build)).1 = .ok (.query query)) :
    ∃ first found, init.display? = .ok first
      ∧ (ledger [] (start.events commands)).mapM (Entry.lexemes? q) = some found
      ∧ scan q .outside query.toList
        = (.outside, first.toList.map .plain ++ found.flatten) := by
  have hcoherent := coherent_new hnew
  have hrecords := records_new hnew
  obtain ⟨dialect, first, hfirst, hstart⟩ := new?_eq_ok hnew
  have hopen : start.builder.query = some first := by rw [hstart]
  have hquotes : start.Quotes q := ⟨by rw [hstart]; exact hrenderers, hquote⟩
  -- what is handed out is the query as the run left it
  have hturn := step_turn (start.after commands) (.builder .build)
  rw [hbuild] at hturn
  have hquery := hturn.query_eq_of_build
  have hend : (start.after commands).builder.query ≠ none := by
    rw [hquery]
    exact Option.some_ne_none query
  obtain ⟨chunks, hchunks, hafter⟩ := hrecords.query_after hcoherent hopen commands hend
  rw [hquery] at hafter
  cases hafter
  -- the chunks are those of safe entries
  have hevents := hquotes.isSafe_of_mem_events hsafe
  have hentries := Event.isSafe_of_mem_ledger hq (List.forall_mem_nil _) hevents
  obtain ⟨found, hfound, hscans⟩ := Entry.exists_scans_join hq hentries hchunks
  refine ⟨first, found, hfirst, hfound, ?_⟩
  rw [String.toList_append]
  exact (scans_plain (hinit first hfirst)).append hscans

/-- A text and a name that would both end their token, pushed through one session, and a push at the
builder that the session holds. -/
def smuggled : List Command :=
  [.builder (.separated (.text ", ")), .session 0 (.push (.literal (.text "' OR ''='\\"))),
    .builder (.push (.raw (.text "; "))), .session 0 (.push (.identifier (.text "a` FROM b"))),
    .session 0 .finish]

/-- Both stay where they are. -/
theorem scan_query_smuggled :
    ∃ query, (((plain "SELECT ").after smuggled).step (.builder .build)).1 = .ok (.query query)
      ∧ scan '\x60' .outside query.toList
        = (.outside, "SELECT ".toList.map .plain
            ++ [.token '\'' "' OR ''='\\".toList, .plain ',', .plain ' ',
              .token '\x60' "a` FROM b".toList]) := by
  have hforeign : Literal.IsForeign '\x60' := ⟨by decide, by decide, by decide⟩
  have hneutral : ∀ s : String, s.toList.all (fun c => c != '\'' && c != '\x60') = true →
      (Value.text s).IsNeutral '\x60' := by
    intro s hs text htext c hc
    cases htext
    simpa using List.all_eq_true.mp hs c hc
  have hsafe : ∀ command ∈ smuggled, command.IsSafe '\x60' := by
    simp only [smuggled, List.mem_cons, List.not_mem_nil, or_false, forall_eq_or_imp, forall_eq]
    exact ⟨hneutral ", " (by decide), .text _, hneutral "; " (by decide), trivial, trivial⟩
  have hok : (((plain "SELECT ").after smuggled).step (.builder .build)).1.isOk = true := by
    decide +kernel
  obtain ⟨query, hbuild⟩ := exists_query_of_build hok
  obtain ⟨first, found, hfirst, hfound, hscan⟩ := scan_query (new?_plain "SELECT ") rfl hforeign
    rfl (hneutral "SELECT " (by decide)) hsafe hbuild
  have hledger : (ledger [] ((plain "SELECT ").events smuggled)).mapM (Entry.lexemes? '\x60')
      = some [[.token '\'' "' OR ''='\\".toList],
          [.plain ',', .plain ' ', .token '\x60' "a` FROM b".toList]] := by decide +kernel
  rw [hledger] at hfound
  cases hfirst
  cases hfound
  exact ⟨query, hbuild, hscan⟩

end Desk

end SqlText
