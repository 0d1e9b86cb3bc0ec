import SqlText.Proofs.Mention
import SqlText.Proofs.Url.Outcome

/-!
The advice on what was configured wrongly. It is chosen by the words of the message, and the message
holds the text that was rejected. So it is the same for all rejected switches but those that show the
word "dialect", and for all texts that are no URL but those that spell this word or the word
"environment": what is rejected can bring the advice on with it.

* `ErrorKind.validationAdvice_eq`: the advice by the words of the message;
* `advice_switchFailure`, `advice_badUrl`: the advice by the rejected text;
* `Settings.advisesBySpelling`: all of this, for every catalog, environment and list of arguments.
-/

namespace SqlText

open Text (Spells spells_iff)

/-! ## The words that count -/

namespace ErrorKind

def dialectAdvice : String :=
  "Use one of the registered dialects (see chquery.engine.dialects.DIALECTS) " ++
    "or register a new DialectSpec."

def environmentAdvice : String := "Check the CHQUERY_* environment variables for typos."

/-- **The advice by the words of the message.** -/
theorem validationAdvice_eq (message : String) :
    validationAdvice message
      = if Spells "dialect" message then some dialectAdvice
        else if Spells "environment" message then some environmentAdvice
        else none := by
  unfold validationAdvice
  simp only [spells_iff "dialect" (by decide), spells_iff "environment" (by decide)]
  rfl

end ErrorKind

open ErrorKind

/-- A text that shows the word "dialect" inside a message. It has all of the word from the `i` on,
behind a `d` or behind a character whose number ends with one. -/
def ShowsDialect (s : String) : Prop :=
  ∃ front c back, s.toList = front ++ c :: back ∧ Text.endsWithD c = true
    ∧ "ialect".toList <+: back.map Char.toLower

theorem showsDialect_iff (s : String) :
    ShowsDialect s ↔ "dialect".toList
      <:+: (s.toList.flatMap (Text.inspectChar (Text.shownQuote s.toList))).map Char.toLower :=
  (Text.infix_shown_iff (Text.shownQuote_mem s.toList) (by decide)).symm

instance (s : String) : Decidable (ShowsDialect s) := decidable_of_iff _ (showsDialect_iff s).symm

/-! ## The advice by the rejected text -/

/-- A word that has no mark in it stands in front of the marks, between them, or behind them. -/
theorem spells_marked_iff {word message : String} {mark : Char} (hmark : mark ∉ word.toList)
    (hlower : mark.toLower = mark) {before body after : List Char}
    (hmessage : message.toList = before ++ mark :: (body ++ mark :: after)) :
    Spells word message ↔ word.toList <:+: before.map Char.toLower
      ∨ word.toList <:+: body.map Char.toLower ∨ word.toList <:+: after.map Char.toLower := by
  rw [Spells, hmessage, List.map_append, List.map_cons, List.map_append, List.map_cons, hlower,
    Text.infix_append_cons_iff hmark, Text.infix_append_cons_iff hmark]

/-- What the message on a rejected switch begins with. -/
def switchLead : String :=
  "Invalid boolean in environment variable " ++ Environment.switchName ++ ": "

/-- The failure of a switch that holds this text. -/
def switchFailure (raw : String) : Failure :=
  .badSwitch Environment.switchName (Text.inspectText raw)

theorem toList_message_switchFailure (raw : String) :
    let quote := Text.shownQuote raw.toList
    (switchFailure raw).message.toList = switchLead.toList
      ++ quote :: (raw.toList.flatMap (Text.inspectChar quote) ++ quote :: []) := by
  intro quote
  have hmessage : (switchFailure raw).message = switchLead ++ Text.inspectText raw := rfl
  rw [hmessage, String.toList_append, Text.toList_inspectText]

/-- **The advice on a rejected switch.** The message always speaks of the environment, but the word
"dialect" goes before that. -/
theorem advice_switchFailure (raw : String) :
    (switchFailure raw).advice
      = some (if ShowsDialect raw then dialectAdvice else environmentAdvice) := by
  have hquote := Text.shownQuote_mem raw.toList
  have hlower := Text.toLower_of_mem_quotes hquote
  have hmessage := toList_message_switchFailure raw
  have hdialect : Spells "dialect" (switchFailure raw).message ↔ ShowsDialect raw := by
    have hmark : Text.shownQuote raw.toList ∉ "dialect".toList :=
      Text.not_mem_of_isSteady hquote (by decide)
    have hlead : ¬"dialect".toList <:+: switchLead.toList.map Char.toLower := by decide +kernel
    rw [spells_marked_iff hmark hlower hmessage, showsDialect_iff,
      or_iff_right hlead]
    simp
  have henvironment : Spells "environment" (switchFailure raw).message := by
    have hmark : Text.shownQuote raw.toList ∉ "environment".toList :=
      Text.not_mem_of_isSteady hquote (by decide)
    rw [spells_marked_iff hmark hlower hmessage]
    exact .inl (by decide +kernel)
  show validationAdvice (switchFailure raw).message = _
  rw [validationAdvice_eq]
  by_cases h : ShowsDialect raw
  · rw [if_pos h, if_pos (hdialect.mpr h)]
  · rw [if_neg h, if_neg fun hspells => h (hdialect.mp hspells), if_pos henvironment]

/-- The message on a text that is no URL speaks of nothing else. -/
theorem spells_badUrl_iff (word : String) (hmark : '\'' ∉ word.toList) (hne : word ≠ "")
    (hlead : ¬word.toList <:+: "could not parse database url ".toList) (s : String)
    (cause : Failure) : Spells word (Failure.badUrl s cause).message ↔ Spells word s := by
  have hmessage : (Failure.badUrl s cause).message.toList
      = "Could not parse database URL ".toList ++ '\'' :: (s.toList ++ '\'' :: []) := by
    have hopen : "Could not parse database URL '".toList
        = "Could not parse database URL ".toList ++ ['\''] := by decide +kernel
    calc (Failure.badUrl s cause).message.toList
        = ("Could not parse database URL '" ++ s ++ "'").toList := rfl
      _ = "Could not parse database URL '".toList ++ (s.toList ++ ['\'']) := by
        rw [String.toList_append, String.toList_append, List.append_assoc]
        rfl
      _ = "Could not parse database URL ".toList ++ '\'' :: (s.toList ++ ['\'']) := by
        rw [hopen, List.append_assoc, List.singleton_append]
  have hempty : word.toList ≠ [] := by simpa using hne
  have hlower : "Could not parse database URL ".toList.map Char.toLower
      = "could not parse database url ".toList := by decide +kernel
  rw [spells_marked_iff hmark (by decide) hmessage, hlower, or_iff_right hlead, List.map_nil,
    List.infix_nil, or_iff_left hempty, Spells]

/-- **The advice on a text that is no URL.** -/
theorem advice_badUrl (s : String) (cause : Failure) :
    (Failure.badUrl s cause).advice
      = if Spells "dialect" s then some dialectAdvice
        else if Spells "environment" s then some environmentAdvice
        else none := by
  show validationAdvice (Failure.badUrl s cause).message = _
  rw [validationAdvice_eq]
  have hdialect := spells_badUrl_iff "dialect" (by decide) (by decide)
    (by decide +kernel) s cause
  have henvironment := spells_badUrl_iff "environment" (by decide) (by decide)
    (by decide +kernel) s cause
  simp only [hdialect, henvironment]

/-! ## All of it -/

namespace Settings

/-- The advice that comes with what was configured wrongly. -/
structure AdvisesBySpelling (ds : Dialects) : Prop where
  /-- A switch that cannot be read is reported with the advice on the environment, unless its text
  shows the word "dialect". -/
  switch : ∀ (env : Environment) (arguments : List (String × Value)) (raw : String),
    env.logQueries = some raw → (∀ b, ¬Environment.Reads raw b) →
      ∃ failure, create? ds env arguments = .error failure ∧ failure.kind = .validation
        ∧ failure.advice = some (if ShowsDialect raw then dialectAdvice else environmentAdvice)
  /-- A text that is no URL is reported without advice, unless it spells one of the two words. -/
  url : ∀ (url : Value) (s : String), url.core = .text s → Url.pattern.read? s.toList = none →
    ∃ failure, ds.ofUrl? url = .error failure ∧ failure.kind = .validation
      ∧ failure.advice = if Spells "dialect" s then some dialectAdvice
        else if Spells "environment" s then some environmentAdvice
        else none

/-- **The advice goes by what the rejected text spells**, for every catalog, environment and list of
arguments. -/
theorem advisesBySpelling (ds : Dialects) : AdvisesBySpelling ds where
  switch _ arguments raw hset hraw :=
    ⟨switchFailure raw, create?_of_badSwitch ds arguments hset hraw, rfl, advice_switchFailure raw⟩
  url _ s hs hread :=
    ⟨_, ds.ofUrl?_of_read?_eq_none hs hread, rfl, advice_badUrl s .urlMismatch⟩

/-- A control character whose number ends with a `d` completes the word, and a letter that is no `d`
does not. The other word is taken from a text that is no URL, in capitals. -/
theorem advisesBySpelling_numbered :
    ∃ failure other third,
      create? .standard { logQueries := some "\u009dIALECT" } [] = .error failure
        ∧ failure.advice = some dialectAdvice
        ∧ create? .standard { logQueries := some "mialect" } [] = .error other
        ∧ other.advice = some environmentAdvice
        ∧ Dialects.standard.ofUrl? (.text "$ENVIRONMENT") = .error third
        ∧ third.advice = some environmentAdvice := by
  have hadvises := advisesBySpelling .standard
  obtain ⟨failure, hfailure, -, hadvice⟩ :=
    hadvises.switch { logQueries := some "\u009dIALECT" } [] _ rfl (by decide +kernel)
  obtain ⟨other, hother, -, hotheradvice⟩ :=
    hadvises.switch { logQueries := some "mialect" } [] _ rfl (by decide +kernel)
  obtain ⟨third, hthird, -, hthirdadvice⟩ :=
    hadvises.url (.text "$ENVIRONMENT") _ (Value.core_text _) (by decide +kernel)
  rw [if_pos (by decide +kernel)] at hadvice
  rw [if_neg (by decide +kernel)] at hotheradvice
  rw [if_neg (by decide +kernel), if_pos (by decide +kernel)] at hthirdadvice
  exact ⟨failure, other, third, hfailure, hadvice, hother, hotheradvice, hthird, hthirdadvice⟩

/-- Two switches that are rejected for the same reason, with different advice, and two texts that are
no URL, one with advice and one without. -/
theorem advice_dialectSwitch :
    ∃ failure other, create? .standard { logQueries := some "dialect" } [] = .error failure
      ∧ create? .standard { logQueries := some "maybe" } [] = .error other
      ∧ failure.advice = some dialectAdvice ∧ other.advice = some environmentAdvice
      ∧ failure.advice ≠ other.advice
      ∧ ∃ third fourth, Dialects.standard.ofUrl? (.text "dialect") = .error third
        ∧ Dialects.standard.ofUrl? (.text "maybe") = .error fourth
        ∧ third.advice = some dialectAdvice ∧ fourth.advice = none := by
  have hadvice : (switchFailure "dialect").advice = some dialectAdvice := by
    rw [advice_switchFailure, if_pos (by decide +kernel)]
  have hother : (switchFailure "maybe").advice = some environmentAdvice := by
    rw [advice_switchFailure, if_neg (by decide +kernel)]
  refine ⟨switchFailure "dialect", switchFailure "maybe", ?_, ?_, hadvice, hother, ?_, _, _,
    Dialects.standard.ofUrl?_of_read?_eq_none (Value.core_text _) (by decide +kernel),
    Dialects.standard.ofUrl?_of_read?_eq_none (Value.core_text _) (by decide +kernel), ?_, ?_⟩
  · exact create?_of_badSwitch .standard [] rfl (by decide +kernel)
  · exact create?_of_badSwitch .standard [] rfl (by decide +kernel)
  · rw [hadvice, hother]
    decide
  · rw [advice_badUrl, if_pos (by decide +kernel)]
  · rw [advice_badUrl, if_neg (by decide +kernel), if_neg (by decide +kernel)]

end Settings

end SqlText
