import SqlText.Proofs.Catalog
import SqlText.Settings

/-!
Where settings come from. Arguments go before the environment, and the environment goes before the
URL, which is only looked at when nothing else names a dialect. `Settings.Requested` says whose name
is taken, and `Settings.FollowsPrecedence` what comes of it, failures and their order included.

* `create?_of_switches`: the settings in terms of the name, once the switch is read;
* `create?_of_badSwitch`: a switch that cannot be read is reported before anything else;
* `create?_congr_url`: no URL matters to settings whose dialect is named;
* `followsPrecedence`: all of this, for every catalog, environment and list of arguments.
-/

namespace SqlText

namespace Environment

/-! ## The switch -/

/-- The words for yes and for no. -/
def words : Bool → List String
  | true => ["true", "1", "yes", "on"]
  | false => ["false", "0", "no", "off", ""]

/-- A text reads as yes or no by one of the words, in any case and with blanks around it. -/
def Reads (raw : String) (b : Bool) : Prop := Text.lowercase (Text.trim raw) ∈ words b

instance (raw : String) (b : Bool) : Decidable (Reads raw b) :=
  inferInstanceAs (Decidable (_ ∈ _))

/-- No text says both. -/
theorem Reads.not_reads {raw : String} (h : Reads raw false) : ¬Reads raw true := by
  unfold Reads words at *
  simp only [List.mem_cons, List.not_mem_nil, or_false] at h
  rcases h with h | h | h | h | h <;> rw [h] <;> decide

theorem readSwitch?_eq (name raw : String) :
    readSwitch? name raw =
      if Reads raw true then .ok true
      else if Reads raw false then .ok false
      else .error (.badSwitch name (Text.inspectText raw)) := by
  unfold readSwitch?
  simp only [List.contains_iff_mem]
  rfl

theorem readSwitch?_of_reads {raw : String} {b : Bool} (h : Reads raw b) (name : String) :
    readSwitch? name raw = .ok b := by
  rw [readSwitch?_eq]
  cases b with
  | true => rw [if_pos h]
  | false => rw [if_neg h.not_reads, if_pos h]

theorem readSwitch?_of_not_reads {raw : String} (h : ∀ b, ¬Reads raw b) (name : String) :
    readSwitch? name raw = .error (.badSwitch name (Text.inspectText raw)) := by
  rw [readSwitch?_eq, if_neg (h true), if_neg (h false)]

/-- The environment says `b` to the logging of queries; saying nothing is saying no. -/
def Switches (env : Environment) (b : Bool) : Prop :=
  match env.logQueries with
  | some raw => Reads raw b
  | none => b = false

/-- A switch says yes or no, or it is set to something that cannot be read. -/
theorem exists_switches_or (env : Environment) :
    (∃ b, env.Switches b) ∨ ∃ raw, env.logQueries = some raw ∧ ∀ b, ¬Reads raw b := by
  unfold Switches
  cases env.logQueries with
  | none => exact .inl ⟨false, rfl⟩
  | some raw =>
    by_cases hread : ∃ b, Reads raw b
    · exact .inl hread
    · exact .inr ⟨raw, rfl, not_exists.mp hread⟩

/-- What the environment adds to the arguments when it says `b`. -/
def added (env : Environment) (b : Bool) : List (String × Value) :=
  (env.dialect.toList.map fun name => ("dialect", .text name))
    ++ env.logQueries.toList.map fun _ => ("log_queries", .bool b)

theorem arguments?_of_switches {env : Environment} {b : Bool} (h : env.Switches b) :
    env.arguments? = .ok (env.added b) := by
  unfold Switches at h
  unfold arguments? added
  cases hswitch : env.logQueries with
  | none => rfl
  | some raw =>
    rw [hswitch] at h
    simp only [readSwitch?_of_reads h]
    rfl

theorem arguments?_of_badSwitch {env : Environment} {raw : String}
    (hset : env.logQueries = some raw) (hraw : ∀ b, ¬Reads raw b) :
    env.arguments? = .error (.badSwitch switchName (Text.inspectText raw)) := by
  unfold arguments?
  simp only [hset, readSwitch?_of_not_reads hraw]
  rfl

theorem lookup_dialect_added (env : Environment) (b : Bool) :
    (env.added b).lookup "dialect" = env.dialect.map Value.text := by
  unfold added
  cases env.dialect <;> cases env.logQueries <;> rfl

theorem lookup_logQueries_added {env : Environment} {b : Bool} (h : env.Switches b) :
    ((env.added b).lookup "log_queries").getD (.bool false) = .bool b := by
  unfold Switches at h
  unfold added
  cases hswitch : env.logQueries with
  | none =>
    rw [hswitch] at h
    subst h
    cases env.dialect <;> rfl
  | some raw => cases env.dialect <;> rfl

end Environment

open Environment

namespace Settings

/-! ## The name of the dialect -/

/-- The URL is the argument, and where that is missing or null, the one in the environment. -/
def urlInUse (env : Environment) (arguments : List (String × Value)) : Value :=
  match arguments.lookup "url" with
  | none | some .null => (env.url.map Value.text).getD .null
  | some url => url

/-- The name that is asked for, or why there is none. -/
inductive Requested (ds : Dialects) (env : Environment) (arguments : List (String × Value)) :
    Except Failure String → Prop
  | argument {name : Value} {s : String} (hargument : arguments.lookup "dialect" = some name)
      (htext : name.core = .text s) : Requested ds env arguments (.ok s)
  | environment {s : String} (hargument : arguments.lookup "dialect" = none)
      (henv : env.dialect = some s) : Requested ds env arguments (.ok s)
  | url {dialect : Dialect} (hargument : arguments.lookup "dialect" = none)
      (henv : env.dialect = none) (hurl : (urlInUse env arguments).truth? = .ok true)
      (hfound : ds.ofUrl? (urlInUse env arguments) = .ok dialect) :
      Requested ds env arguments (.ok dialect.name)
  | badUrl {failure : Failure} (hargument : arguments.lookup "dialect" = none)
      (henv : env.dialect = none) (hurl : (urlInUse env arguments).truth? = .ok true)
      (hfound : ds.ofUrl? (urlInUse env arguments) = .error failure) :
      Requested ds env arguments (.error failure)
  /-- Whatever is given as a URL may fail to say whether it is one to be used. -/
  | unanswered {failure : Failure} (hargument : arguments.lookup "dialect" = none)
      (henv : env.dialect = none) (hurl : (urlInUse env arguments).truth? = .error failure) :
      Requested ds env arguments (.error failure)
  | fallback (hargument : arguments.lookup "dialect" = none) (henv : env.dialect = none)
      (hurl : (urlInUse env arguments).truth? = .ok false) :
      Requested ds env arguments (.ok Dialects.defaultName)

variable {ds : Dialects} {env : Environment} {arguments : List (String × Value)} {b : Bool}

/-- The rules leave no choice. -/
theorem Requested.unique {outcome other : Except Failure String}
    (h : Requested ds env arguments outcome) (hother : Requested ds env arguments other) :
    other = outcome := by
  cases h <;> cases hother <;> simp_all

theorem exists_requested (ds : Dialects) (env : Environment)
    (htext : ∀ name, arguments.lookup "dialect" = some name → ∃ s, name.core = .text s) :
    ∃ outcome, Requested ds env arguments outcome := by
  cases hargument : arguments.lookup "dialect" with
  | some name =>
    obtain ⟨s, hs⟩ := htext name hargument
    exact ⟨_, .argument hargument hs⟩
  | none =>
    cases henv : env.dialect with
    | some s => exact ⟨_, .environment hargument henv⟩
    | none =>
      cases hurl : (urlInUse env arguments).truth? with
      | error failure => exact ⟨_, .unanswered hargument henv hurl⟩
      | ok used =>
        cases used with
        | false => exact ⟨_, .fallback hargument henv hurl⟩
        | true =>
          cases hfound : ds.ofUrl? (urlInUse env arguments) with
          | ok dialect => exact ⟨_, .url hargument henv hurl hfound⟩
          | error failure => exact ⟨_, .badUrl hargument henv hurl hfound⟩

/-- A dialect that is named by arguments or the environment. -/
theorem dialectName?_of_named {name : Value} (url : Value)
    (h : (arguments.lookup "dialect").or (env.dialect.map .text) = some name) :
    dialectName? ds url (arguments ++ env.added b) = .ok name := by
  unfold dialectName?
  rw [List.lookup_append, lookup_dialect_added, h]
  rfl

/-- A dialect that nothing but the URL may name. -/
theorem dialectName?_of_unnamed (url : Value)
    (hargument : arguments.lookup "dialect" = none) (henv : env.dialect = none) :
    dialectName? ds url (arguments ++ env.added b) = (do
      if ← url.truth? then return .text (← ds.ofUrl? url).name
      else return .text Dialects.defaultName) := by
  unfold dialectName?
  rw [List.lookup_append, lookup_dialect_added, hargument, henv]
  rfl

theorem Requested.dialectName?_eq_error {failure : Failure}
    (h : Requested ds env arguments (.error failure)) :
    dialectName? ds (urlInUse env arguments) (arguments ++ env.added b) = .error failure := by
  cases h with
  | badUrl hargument henv hurl hfound =>
    rw [dialectName?_of_unnamed _ hargument henv, hurl, hfound]
    rfl
  | unanswered hargument henv hurl =>
    rw [dialectName?_of_unnamed _ hargument henv, hurl]
    rfl

theorem Requested.exists_dialectName? {s : String} (h : Requested ds env arguments (.ok s)) :
    ∃ name : Value, name.core = .text s
      ∧ dialectName? ds (urlInUse env arguments) (arguments ++ env.added b) = .ok name := by
  cases h with
  | argument hargument htext =>
    refine ⟨_, htext, dialectName?_of_named _ ?_⟩
    rw [hargument]
    rfl
  | environment hargument henv =>
    refine ⟨.text s, rfl, dialectName?_of_named _ ?_⟩
    rw [hargument, henv]
    rfl
  | url hargument henv hurl hfound =>
    refine ⟨.text _, rfl, ?_⟩
    rw [dialectName?_of_unnamed _ hargument henv, hurl, hfound]
    rfl
  | fallback hargument henv hurl =>
    refine ⟨.text _, rfl, ?_⟩
    rw [dialectName?_of_unnamed _ hargument henv, hurl]
    rfl

/-! ## The settings -/

/-- The arguments that have no meaning of their own, in the order in which they were given. -/
def otherArguments (arguments : List (String × Value)) : List (String × Value) :=
  arguments.filter fun a => a.1 ≠ "url" ∧ a.1 ≠ "dialect" ∧ a.1 ≠ "log_queries"

theorem isOption_eq (name : String) :
    isOption name = decide (name ≠ "url" ∧ name ≠ "dialect" ∧ name ≠ "log_queries") := by
  unfold isOption
  rw [Bool.eq_iff_iff]
  simp

/-- The options as a table, whose keys are texts. -/
def optionsOf (arguments : List (String × Value)) : Value :=
  .dict ((otherArguments arguments).map fun a => (.text a.1, a.2))

/-- A name that is not registered is reported in lowercase. -/
theorem make?_of_text {name : Value} {s : String} (h : name.core = .text s)
    (logQueries options : Value) :
    make? ds name logQueries options = match ds.find? (Text.lowercase s) with
      | some _ => .ok { dialect := .text (Text.lowercase s), logQueries, options }
      | none => .error (.unknownDialect (Text.lowercase s)
          (Text.inspectText (Text.lowercase s)) ds.names) := by
  have hlower : name.lowercase? = .ok (.text (Text.lowercase s)) := by
    rw [Value.lowercase?, h]
    rfl
  -- the name is lowered once more where it is looked up
  have hresolve := ds.resolve?_of_text (Value.core_text (Text.lowercase s))
  rw [Text.lowercase_lowercase] at hresolve
  unfold make?
  rw [hlower]
  show (do let _ ← ds.resolve? (.text (Text.lowercase s)); return _ : Except Failure Settings) = _
  rw [hresolve]
  cases ds.find? (Text.lowercase s) <;> rfl

/-- **The settings, once the switch is read.** -/
theorem create?_of_switches (ds : Dialects) (arguments : List (String × Value))
    (h : env.Switches b) :
    create? ds env arguments
      = (dialectName? ds (urlInUse env arguments) (arguments ++ env.added b) >>= fun name =>
        make? ds name ((arguments.lookup "log_queries").getD (.bool b)) (optionsOf arguments)) := by
  have hswitch : ((arguments ++ env.added b).lookup "log_queries").getD (.bool false)
      = (arguments.lookup "log_queries").getD (.bool b) := by
    rw [List.lookup_append, ← lookup_logQueries_added h]
    cases arguments.lookup "log_queries" <;> rfl
  have hoptions : optionsOf arguments
      = .dict ((arguments.filter fun a => isOption a.1).map fun a => (Value.text a.1, a.2)) := by
    simp only [optionsOf, otherArguments, isOption_eq]
  rw [hoptions, ← hswitch]
  unfold create?
  rw [arguments?_of_switches h]
  rfl

/-- **A switch that cannot be read is reported before anything else is looked at.** -/
theorem create?_of_badSwitch (ds : Dialects) (arguments : List (String × Value)) {raw : String}
    (hset : env.logQueries = some raw) (hraw : ∀ b, ¬Reads raw b) :
    create? ds env arguments = .error (.badSwitch switchName (Text.inspectText raw)) := by
  unfold create?
  rw [arguments?_of_badSwitch hset hraw]
  rfl

/-! ## Settings that need no URL -/

def withoutUrl (arguments : List (String × Value)) : List (String × Value) :=
  arguments.filter fun a => a.1 ≠ "url"

theorem lookup_withoutUrl (arguments : List (String × Value)) {name : String} (h : name ≠ "url") :
    (withoutUrl arguments).lookup name = arguments.lookup name := by
  unfold withoutUrl
  induction arguments with
  | nil => rfl
  | cons a rest ih =>
    obtain ⟨key, value⟩ := a
    by_cases hkey : key = "url"
    · -- the entry that is left out is not the one that is looked for
      have hne : (name == "url") = false := by simpa using h
      rw [List.filter_cons_of_neg (by simp [hkey]), ih, List.lookup_cons, hkey, hne]
    · rw [List.filter_cons_of_pos (by simp [hkey]), List.lookup_cons, List.lookup_cons, ih]

theorem otherArguments_withoutUrl (arguments : List (String × Value)) :
    otherArguments (withoutUrl arguments) = otherArguments arguments := by
  unfold otherArguments withoutUrl
  rw [List.filter_filter]
  congr 1
  funext a
  rw [← Bool.decide_and, decide_eq_decide]
  exact ⟨fun h => h.1, fun h => ⟨h, h.1⟩⟩

/-- **No URL matters to settings whose dialect is named.** It need not even be one. -/
theorem create?_congr_url {other : Environment} {replaced : List (String × Value)}
    (hnamed : (arguments.lookup "dialect").isSome ∨ env.dialect.isSome)
    (hdialect : other.dialect = env.dialect) (hswitch : other.logQueries = env.logQueries)
    (harguments : withoutUrl replaced = withoutUrl arguments) :
    create? ds other replaced = create? ds env arguments := by
  have hlookup : ∀ name, name ≠ "url" → replaced.lookup name = arguments.lookup name := by
    intro name hname
    rw [← lookup_withoutUrl replaced hname, harguments, lookup_withoutUrl arguments hname]
  have hoptions : optionsOf replaced = optionsOf arguments := by
    unfold optionsOf
    rw [← otherArguments_withoutUrl replaced, harguments, otherArguments_withoutUrl]
  rcases env.exists_switches_or with ⟨b, hb⟩ | ⟨raw, hset, hraw⟩
  · have hother : other.Switches b := by
      unfold Switches at *
      rw [hswitch]
      exact hb
    obtain ⟨name, hname⟩ : ∃ name,
        (arguments.lookup "dialect").or (env.dialect.map .text) = some name := by
      rw [← Option.isSome_iff_exists, Option.isSome_or, Option.isSome_map, Bool.or_eq_true]
      exact hnamed
    have hreplaced : (replaced.lookup "dialect").or (other.dialect.map .text) = some name := by
      rw [hlookup _ (by decide), hdialect]
      exact hname
    rw [create?_of_switches ds replaced hother, create?_of_switches ds arguments hb,
      dialectName?_of_named _ hreplaced, dialectName?_of_named _ hname,
      hlookup "log_queries" (by decide), hoptions]
  · -- the switch fails first, whatever the arguments are
    rw [create?_of_badSwitch ds replaced (hswitch.trans hset) hraw,
      create?_of_badSwitch ds arguments hset hraw]

/-! ## The rules of precedence -/

/-- There are no settings, because something that was configured is wrong. -/
def Refused (result : Except Failure Settings) (failure : Failure) : Prop :=
  result = .error failure ∧ failure.kind = .validation

/-- What comes of arguments and an environment. -/
structure FollowsPrecedence (ds : Dialects) (env : Environment)
    (arguments : List (String × Value)) : Prop where
  /-- A switch that says neither yes nor no is reported, whatever else is wrong. -/
  badSwitch : ∀ raw, env.logQueries = some raw → (∀ b, ¬Reads raw b) →
    Refused (create? ds env arguments) (.badSwitch switchName (Text.inspectText raw))
  /-- A dialect is asked for in one way only. -/
  requested : ∃ outcome, Requested ds env arguments outcome
    ∧ ∀ other, Requested ds env arguments other → other = outcome
  badUrl : ∀ b failure, env.Switches b → Requested ds env arguments (.error failure) →
    create? ds env arguments = .error failure
  unknown : ∀ b name, env.Switches b → Requested ds env arguments (.ok name) →
    ds.find? (Text.lowercase name) = none →
    Refused (create? ds env arguments) (.unknownDialect (Text.lowercase name)
      (Text.inspectText (Text.lowercase name)) ds.names)
  /-- Whether queries are logged is up to the arguments, then to the environment. -/
  known : ∀ b name dialect, env.Switches b → Requested ds env arguments (.ok name) →
    ds.find? (Text.lowercase name) = some dialect →
    create? ds env arguments = .ok {
      dialect := .text (Text.lowercase name)
      logQueries := (arguments.lookup "log_queries").getD (.bool b)
      options := optionsOf arguments }
  urlIgnored : (arguments.lookup "dialect").isSome ∨ env.dialect.isSome →
    ∀ other replaced, other.dialect = env.dialect → other.logQueries = env.logQueries →
      withoutUrl replaced = withoutUrl arguments →
      create? ds other replaced = create? ds env arguments

theorem Requested.create?_eq {s : String} (h : Requested ds env arguments (.ok s))
    (hb : env.Switches b) :
    create? ds env arguments = match ds.find? (Text.lowercase s) with
      | some _ => .ok {
          dialect := .text (Text.lowercase s)
          logQueries := (arguments.lookup "log_queries").getD (.bool b)
          options := optionsOf arguments }
      | none => .error (.unknownDialect (Text.lowercase s)
          (Text.inspectText (Text.lowercase s)) ds.names) := by
  obtain ⟨name, htext, hname⟩ := h.exists_dialectName? (b := b)
  rw [create?_of_switches ds arguments hb, hname]
  exact make?_of_text htext _ _

/-- **Settings follow the rules of precedence**, for every catalog, environment and list of
arguments, as long as a dialect among the arguments is a text. -/
theorem followsPrecedence (ds : Dialects) (env : Environment) (arguments : List (String × Value))
    (htext : ∀ name, arguments.lookup "dialect" = some name → ∃ s, name.core = .text s) :
    FollowsPrecedence ds env arguments where
  badSwitch raw hset hraw := ⟨create?_of_badSwitch ds arguments hset hraw, rfl⟩
  requested := by
    obtain ⟨outcome, houtcome⟩ := exists_requested ds env htext
    exact ⟨outcome, houtcome, fun other hother => houtcome.unique hother⟩
  badUrl b failure hb hrequested := by
    rw [create?_of_switches ds arguments hb, hrequested.dialectName?_eq_error]
    rfl
  unknown b name hb hrequested hfind := by
    refine ⟨?_, rfl⟩
    rw [hrequested.create?_eq hb, hfind]
  known b name dialect hb hrequested hfind := by
    rw [hrequested.create?_eq hb, hfind]
  urlIgnored hnamed other replaced hdialect hswitch harguments :=
    create?_congr_url hnamed hdialect hswitch harguments

/-- A URL and a switch in the environment. -/
def loggedClickhouse : Environment where
  url := some "clickhouse://localhost"
  logQueries := some " Yes "

/-- A dialect, next to something that is no URL. -/
def namedMysql : List (String × Value) :=
  [("url", .text "localhost"), ("dialect", .text "MySQL"), ("batch", .int 5)]

theorem followsPrecedence_named :
    (∀ name, namedMysql.lookup "dialect" = some name → ∃ s, name.core = .text s)
      ∧ loggedClickhouse.Switches true
      ∧ create? .standard loggedClickhouse namedMysql = .ok {
          dialect := .text "mysql"
          logQueries := .bool true
          options := .dict [(.text "batch", .int 5)] } := by
  have htext : ∀ name, namedMysql.lookup "dialect" = some name → ∃ s, name.core = .text s := by
    rintro _ ⟨⟩
    exact ⟨"MySQL", rfl⟩
  have hswitch : loggedClickhouse.Switches true := by
    show Reads " Yes " true
    decide +kernel
  have hlower : Text.lowercase "MySQL" = "mysql" := by decide +kernel
  have hrequested : Requested .standard loggedClickhouse namedMysql (.ok "MySQL") :=
    .argument rfl rfl
  have hknown := (followsPrecedence .standard loggedClickhouse namedMysql htext).known
    true "MySQL" { name := "mysql" } hswitch hrequested (by decide +kernel)
  rw [hlower] at hknown
  exact ⟨htext, hswitch, hknown⟩

end Settings

end SqlText
