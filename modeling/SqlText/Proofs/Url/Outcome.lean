import SqlText.Proofs.Route
import SqlText.Proofs.Url.Parse

/-!
What a URL that is no good is reported as. What was configured wrongly is a failure of validation:
a text that is no URL, a backend that nobody registered, a switch that says neither yes nor no. A
port that is no number is not reported like this. The failure of the numeral goes to the caller as
it is, also to the one who asks for settings and whose URL is looked at.

* `Dialects.ofUrl?_of_hasBadPort`, `Dialects.ofUrl?_of_read?`: a URL, with and without such a port;
* `Settings.isAnswered_create?`: settings that do not rest on such a URL;
* `Settings.reportsUrl`: all of this, for every catalog, environment and list of arguments.
-/

namespace SqlText

/-- There is a good result, or something was configured wrongly. -/
def IsAnswered {α : Type} (result : Except Failure α) (good : α → Prop) : Prop :=
  (∃ a, result = .ok a ∧ good a) ∨ ∃ failure, result = .error failure ∧ failure.kind = .validation

/-! ## A URL -/

namespace Url

/-- The text is a URL, which has `port` in the place of the port, and this is no number. -/
def HasBadPort (s : String) (port : List Char) : Prop :=
  (∃ m, pattern.read? s.toList = some m ∧ m.part? .port = some port) ∧ Numeral.read? port = none

/-- The failure of the numeral. -/
def portFailure (port : List Char) : Failure :=
  .badPort (String.ofList ((Text.inspectChars port).take shownPortLength))

theorem hasBadPort_iff {s : String} {port : List Char} :
    HasBadPort s port
      ↔ ∃ u, parse? s = some u ∧ u.port = some port ∧ Numeral.read? port = none := by
  unfold HasBadPort
  rw [parse?_eq_read?]
  constructor
  · rintro ⟨⟨m, hm, hport⟩, hnone⟩
    exact ⟨_, by rw [hm]; rfl, hport, hnone⟩
  · rintro ⟨u, hu, hport, hnone⟩
    obtain ⟨m, hm, rfl⟩ := Option.map_eq_some_iff.mp hu
    exact ⟨⟨m, hm, hport⟩, hnone⟩

theorem checkPort_of_read?_eq_none {u : Url} {port : List Char} (hport : u.port = some port)
    (hread : Numeral.read? port = none) : u.checkPort = .error (portFailure port) := by
  unfold checkPort
  simp only [hport, hread]
  rfl

theorem checkPort_of_forall_not_hasBadPort {s : String} {u : Url} (hparse : parse? s = some u)
    (h : ∀ port, ¬HasBadPort s port) : u.checkPort = .ok () := by
  unfold checkPort
  cases hport : u.port with
  | none => rfl
  | some port =>
    have hread : (Numeral.read? port).isSome = true := by
      rw [Option.isSome_iff_ne_none]
      intro hnone
      exact h port (hasBadPort_iff.mpr ⟨u, hparse, hport, hnone⟩)
    show (if (Numeral.read? port).isSome = true then pure () else throw _ : Except Failure Unit) = _
    rw [if_pos hread]
    rfl

end Url

namespace Dialects

variable {url : Value} {s : String} {port : List Char}

/-- **The failure of the numeral goes to the caller as it is.** -/
theorem ofUrl?_of_hasBadPort (ds : Dialects) (hurl : url.core = .text s)
    (h : Url.HasBadPort s port) : ds.ofUrl? url = .error (Url.portFailure port) := by
  obtain ⟨u, hparse, hport, hread⟩ := Url.hasBadPort_iff.mp h
  rw [ds.ofUrl?_of_text hurl, hparse]
  show (u.checkPort >>= fun _ => ds.resolve? (.text u.backend)) = _
  rw [Url.checkPort_of_read?_eq_none hport hread]
  rfl

theorem ofUrl?_of_read?_eq_none (ds : Dialects) (hurl : url.core = .text s)
    (hread : Url.pattern.read? s.toList = none) :
    ds.ofUrl? url = .error (.badUrl s .urlMismatch) := by
  rw [ds.ofUrl?_of_text hurl, Url.parse?_eq_read?, hread]
  rfl

/-- **Any other URL leads to what its backend is registered to.** -/
theorem ofUrl?_of_read? (ds : Dialects) (hurl : url.core = .text s) {m : Reading Url.Part}
    (hread : Url.pattern.read? s.toList = some m) (h : ∀ port, ¬Url.HasBadPort s port) :
    ds.ofUrl? url = ds.resolve? (.text (Url.ofReading m).backend) := by
  have hparse : Url.parse? s = some (Url.ofReading m) := by
    rw [Url.parse?_eq_read?, hread]
    rfl
  exact ds.ofUrl?_of_parse hurl hparse (Url.checkPort_of_forall_not_hasBadPort hparse h)

/-- A text as a name finds a registered dialect, or it is reported as unknown. -/
theorem isAnswered_resolve? (ds : Dialects) (name : String) :
    IsAnswered (ds.resolve? (.text name)) fun dialect => ∃ key, ds.find? key = some dialect := by
  rw [ds.resolve?_of_text (Value.core_text name)]
  cases hfind : ds.find? (Text.lowercase name) with
  | some dialect => exact .inl ⟨dialect, rfl, _, hfind⟩
  | none => exact .inr ⟨_, rfl, rfl⟩

/-- A URL without such a port finds a registered dialect, or what is wrong with it is reported. -/
theorem isAnswered_ofUrl? (ds : Dialects) (hurl : url.core = .text s)
    (h : ∀ port, ¬Url.HasBadPort s port) :
    IsAnswered (ds.ofUrl? url) fun dialect => ∃ key, ds.find? key = some dialect := by
  cases hread : Url.pattern.read? s.toList with
  | none => exact .inr ⟨_, ds.ofUrl?_of_read?_eq_none hurl hread, rfl⟩
  | some m =>
    rw [ds.ofUrl?_of_read? hurl hread h]
    exact ds.isAnswered_resolve? _

end Dialects

/-! ## Settings -/

namespace Settings

open Environment

variable {ds : Dialects} {env : Environment} {arguments : List (String × Value)} {b : Bool}
  {port : List Char}

/-- Nothing but the URL in use names a dialect, and its port is no number. -/
structure RestsOnBadPort (env : Environment) (arguments : List (String × Value))
    (port : List Char) : Prop where
  noArgument : arguments.lookup "dialect" = none
  noVariable : env.dialect = none
  isUrl : ∃ s, (urlInUse env arguments).core = .text s ∧ Url.HasBadPort s port
  /-- The switch is read first. -/
  isSwitched : ∃ b, env.Switches b

/-- A URL in use is a text, if the argument for it is one. -/
theorem urlInUse_eq_null_or (env : Environment)
    (hurl : ∀ url, arguments.lookup "url" = some url → url = .null ∨ ∃ s, url.core = .text s) :
    urlInUse env arguments = .null ∨ ∃ s, (urlInUse env arguments).core = .text s := by
  have hvariable : (env.url.map Value.text).getD .null = .null
      ∨ ∃ s, ((env.url.map Value.text).getD .null).core = .text s := by
    cases env.url with
    | none => exact .inl rfl
    | some s => exact .inr ⟨s, rfl⟩
  unfold urlInUse
  split
  · exact hvariable
  · exact hvariable
  · next url _ hlookup => exact hurl url hlookup

theorem create?_of_requested_error {failure : Failure} (hb : env.Switches b)
    (h : Requested ds env arguments (.error failure)) :
    create? ds env arguments = .error failure := by
  rw [create?_of_switches ds arguments hb, h.dialectName?_eq_error]
  rfl

/-- **Settings that rest on a URL whose port is no number** fail like the URL. -/
theorem create?_of_restsOnBadPort (ds : Dialects) (h : RestsOnBadPort env arguments port) :
    create? ds env arguments = .error (Url.portFailure port) := by
  obtain ⟨s, hs, hport⟩ := h.isUrl
  obtain ⟨b, hb⟩ := h.isSwitched
  obtain ⟨u, hparse, -, -⟩ := Url.hasBadPort_iff.mp hport
  exact create?_of_requested_error hb (.badUrl h.noArgument h.noVariable
    (Value.truth?_of_parse? hs hparse) (ds.ofUrl?_of_hasBadPort hs hport))

/-- A name that is asked for gives settings with a registered dialect, or it is unknown. -/
theorem Requested.isAnswered_create? {name : String} (h : Requested ds env arguments (.ok name))
    (hb : env.Switches b) :
    IsAnswered (create? ds env arguments) fun settings =>
      ∃ dialect, settings.resolve? ds = .ok dialect := by
  rw [h.create?_eq hb]
  cases hfind : ds.find? (Text.lowercase name) with
  | some dialect => exact .inl ⟨_, rfl, dialect, resolve?_lowercase _ _ hfind⟩
  | none => exact .inr ⟨_, rfl, rfl⟩

/-- **All other settings are there**, or what is wrong with them is reported. -/
theorem isAnswered_create? (ds : Dialects)
    (hurl : ∀ url, arguments.lookup "url" = some url → url = .null ∨ ∃ s, url.core = .text s)
    (htext : ∀ name, arguments.lookup "dialect" = some name → ∃ s, name.core = .text s)
    (h : ∀ port, ¬RestsOnBadPort env arguments port) :
    IsAnswered (create? ds env arguments) fun settings =>
      ∃ dialect, settings.resolve? ds = .ok dialect := by
  rcases env.exists_switches_or with ⟨b, hb⟩ | ⟨raw, hset, hraw⟩
  · obtain ⟨outcome, hrequested⟩ := exists_requested ds env htext
    cases outcome with
    | ok name => exact hrequested.isAnswered_create? hb
    | error failure =>
      refine .inr ⟨failure, create?_of_requested_error hb hrequested, ?_⟩
      cases hrequested with
      | badUrl hargument henv htruthy hfound =>
        rcases urlInUse_eq_null_or env hurl with hnull | ⟨s, hs⟩
        · -- nothing is not looked at
          rw [hnull] at htruthy
          cases htruthy
        · have hport : ∀ port, ¬Url.HasBadPort s port := fun port hport =>
            h port ⟨hargument, henv, ⟨s, hs, hport⟩, b, hb⟩
          rcases ds.isAnswered_ofUrl? hs hport with ⟨dialect, hok, -⟩ | ⟨other, herror, hkind⟩
          · cases hfound.symm.trans hok
          · cases hfound.symm.trans herror
            exact hkind
      | unanswered hargument henv hunanswered =>
        -- neither nothing nor a text has to be asked
        rcases urlInUse_eq_null_or env hurl with hnull | ⟨s, hs⟩
        · rw [hnull] at hunanswered
          cases hunanswered
        · rw [Value.truth?, hs] at hunanswered
          cases hunanswered
  · exact .inr ⟨_, create?_of_badSwitch ds arguments hset hraw, rfl⟩

/-- What comes of a URL, and of settings that may rest on one. -/
structure ReportsUrl (ds : Dialects) (env : Environment) (arguments : List (String × Value)) :
    Prop where
  /-- A text that is no URL is reported as such. -/
  mismatch : ∀ (url : Value) (s : String), url.core = .text s →
    Url.pattern.read? s.toList = none → ds.ofUrl? url = .error (.badUrl s .urlMismatch)
  /-- Any other one leads to what its backend is registered to, but for its port. -/
  backend : ∀ (url : Value) (s : String) (m : Reading Url.Part), url.core = .text s →
    Url.pattern.read? s.toList = some m → (∀ port, ¬Url.HasBadPort s port) →
    ds.ofUrl? url = ds.resolve? (.text (Url.ofReading m).backend)
  /-- So there is a registered dialect or a failure of validation, but for the port. -/
  dialect : ∀ (url : Value) (s : String), url.core = .text s →
    (∀ port, ¬Url.HasBadPort s port) →
    IsAnswered (ds.ofUrl? url) fun dialect => ∃ key, ds.find? key = some dialect
  badPort : ∀ (url : Value) (s : String) (port : List Char), url.core = .text s →
    Url.HasBadPort s port → ds.ofUrl? url = .error (Url.portFailure port)
  settings : (∀ port, ¬RestsOnBadPort env arguments port) →
    IsAnswered (create? ds env arguments) fun settings =>
      ∃ dialect, settings.resolve? ds = .ok dialect
  settingsBadPort : ∀ port, RestsOnBadPort env arguments port →
    create? ds env arguments = .error (Url.portFailure port)
  /-- The failure of the numeral is none of validation. -/
  kind_portFailure : ∀ port, (Url.portFailure port).kind = .invalidValue

/-- **A URL that is no good is reported as a failure of validation, except for its port**, for every
catalog and environment, and for arguments with a text or nothing as the URL. -/
theorem reportsUrl (ds : Dialects) (env : Environment) (arguments : List (String × Value))
    (hurl : ∀ url, arguments.lookup "url" = some url → url = .null ∨ ∃ s, url.core = .text s)
    (htext : ∀ name, arguments.lookup "dialect" = some name → ∃ s, name.core = .text s) :
    ReportsUrl ds env arguments where
  mismatch _ _ hs hread := ds.ofUrl?_of_read?_eq_none hs hread
  backend _ _ _ hs hread h := ds.ofUrl?_of_read? hs hread h
  dialect _ _ hs h := ds.isAnswered_ofUrl? hs h
  badPort _ _ _ hs h := ds.ofUrl?_of_hasBadPort hs h
  settings h := isAnswered_create? ds hurl htext h
  settingsBadPort _ h := create?_of_restsOnBadPort ds h
  kind_portFailure _ := rfl

/-- A host in brackets, and a service in the place of its port. -/
def serviceUrl : List (String × Value) :=
  [("url", .text "mysql+async://reader:secret@[::1]:https/db")]

theorem restsOnBadPort_serviceUrl : RestsOnBadPort {} serviceUrl "https".toList where
  noArgument := rfl
  noVariable := rfl
  isUrl := by
    refine ⟨"mysql+async://reader:secret@[::1]:https/db", rfl, Url.hasBadPort_iff.mpr ?_⟩
    exact ⟨⟨"mysql+async".toList, some "https".toList⟩, by decide +kernel, rfl, by decide +kernel⟩
  isSwitched := ⟨false, rfl⟩

theorem reportsUrl_serviceUrl :
    (∀ url, serviceUrl.lookup "url" = some url → url = .null ∨ ∃ s, url.core = .text s)
      ∧ (∀ name, serviceUrl.lookup "dialect" = some name → ∃ s, name.core = .text s)
      ∧ RestsOnBadPort {} serviceUrl "https".toList
      ∧ create? .standard {} serviceUrl = .error (Url.portFailure "https".toList) := by
  have hurl : ∀ url, serviceUrl.lookup "url" = some url →
      url = .null ∨ ∃ s, url.core = .text s := by
    rintro _ ⟨⟩
    exact .inr ⟨_, rfl⟩
  have htext : ∀ name, serviceUrl.lookup "dialect" = some name → ∃ s, name.core = .text s := by
    intro name hname
    cases hname
  have hreports := reportsUrl .standard {} serviceUrl hurl htext
  exact ⟨hurl, htext, restsOnBadPort_serviceUrl,
    hreports.settingsBadPort _ restsOnBadPort_serviceUrl⟩

/-- The backend is registered, but neither is it found nor is a failure of validation reported. -/
theorem ofUrl?_namedPort :
    Dialects.standard.ofUrl? (.text "clickhouse://localhost:port/db") = .error (.badPort "'port'")
      ∧ ¬IsAnswered (Dialects.standard.ofUrl? (.text "clickhouse://localhost:port/db"))
        fun dialect => ∃ key, Dialects.standard.find? key = some dialect := by
  have hparse : Url.parse? "clickhouse://localhost:port/db"
      = some ⟨"clickhouse".toList, some "port".toList⟩ := by
    decide +kernel
  have hshown : Url.portFailure "port".toList = .badPort "'port'" := by
    decide +kernel
  have hfailed : Dialects.standard.ofUrl? (.text "clickhouse://localhost:port/db")
      = .error (.badPort "'port'") := by
    rw [← hshown]
    exact Dialects.standard.ofUrl?_of_hasBadPort (Value.core_text _)
      (Url.hasBadPort_iff.mpr ⟨_, hparse, rfl, by decide +kernel⟩)
  refine ⟨hfailed, ?_⟩
  rintro (⟨dialect, hok, -⟩ | ⟨failure, herror, hkind⟩)
  · cases hfailed.symm.trans hok
  · cases hfailed.symm.trans herror
    cases hkind

end Settings

end SqlText
