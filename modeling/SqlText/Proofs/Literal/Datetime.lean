import SqlText.Proofs.Calendar.Stamp
import SqlText.Proofs.Desk.Atomicity
import SqlText.Proofs.Desk.Rendering

/-!
The literals of datetimes. With no renderer registered, a datetime with an offset is written as the
fields that its instant has in UTC, and any other one as its own fields. Where the calendar has no
such fields, there is no literal, and what was to append it is refused and appends nothing.

* `Renderers.format?_of_core`: the literal of a datetime, whatever types it is derived from;
* `DateTime.IsLiteral.eq_of_eq`: a literal has one date and one time of the day;
* `DateTime.IsAt.exists_isLiteral`: the literal of a datetime that has fields in UTC;
* `writesInstant`: all of this, and that literals are equal just where the instants are.
-/

namespace SqlText

/-! ## The text of a literal -/

namespace DateTime

/-- `text` is the literal of the date and the time of `f`, in the format of datetimes between
apostrophes, and it reads back as them. -/
structure IsLiteral (f : DateTime) (text : String) : Prop where
  format : ∃ stamp, IsStamp f stamp ∧ text.toList = '\'' :: (stamp ++ ['\''])
  readBack : ∃ stamp, Quoting.readToken? '\'' text.toList = some (stamp, [])
    ∧ readStamp? stamp = some { f with zone := .none }

theorem isLiteral_token {f : DateTime} (h : f.IsValid) (hzone : f.zone.chars = []) :
    IsLiteral f (String.ofList (Quoting.token '\'' f.chars)) := by
  have hstamp := isStamp_chars h hzone
  refine ⟨⟨f.chars, hstamp, ?_⟩, f.chars, ?_, hstamp.readStamp?_eq⟩
  · rw [String.toList_ofList]
    exact Quoting.token_of_not_mem (hstamp.not_mem (by decide) (by decide))
      (hstamp.not_mem (by decide) (by decide))
  · have hquote : '\'' ≠ '\\' := by decide
    have hread := Quoting.readToken?_token hquote f.chars []
    rwa [List.append_nil, ← String.toList_ofList (l := Quoting.token '\'' f.chars)] at hread

/-- **A literal has one date and one time of the day.** -/
theorem IsLiteral.eq_of_eq {f g : DateTime} {text : String} (hf : f.IsLiteral text)
    (hg : g.IsLiteral text) : f.date = g.date ∧ f.clock = g.clock := by
  obtain ⟨stamp, htoken, hread⟩ := hf.readBack
  obtain ⟨other, hothertoken, hotherread⟩ := hg.readBack
  rw [htoken] at hothertoken
  cases hothertoken
  rw [hread] at hotherread
  obtain ⟨hdate, hclock, -⟩ := DateTime.mk.inj (Option.some.inj hotherread)
  exact ⟨hdate, hclock⟩

end DateTime

/-! ## Values -/

/-- A datetime, whatever types it is derived from, is written by the rule for datetimes. -/
theorem Value.tree?_of_core {v : Value} {t : DateTime} (hv : v.core = .datetime t)
    (hown : v.ownRenderer? = none) :
    v.IsPlain (fun _ => True) ∧ v.tree? = t.toUtc?.map fun utc => .quoted utc.chars := by
  induction v using core.induct with
  | case1 type own base ih =>
    rw [ownRenderer?, Option.or_eq_none_iff] at hown
    obtain ⟨rfl, hbase⟩ := hown
    obtain ⟨hplain, htree⟩ := ih hv hbase
    exact ⟨.derived type hplain, by rw [tree?, htree]⟩
  | case2 v hderived =>
    rw [core.eq_2 v hderived] at hv
    subst hv
    exact ⟨.datetime t trivial, by rw [tree?]⟩

theorem Renderers.format?_of_core {v : Value} {t : DateTime} (hv : v.core = .datetime t)
    (hown : v.ownRenderer? = none) :
    ({} : Renderers).format? v
      = match t.toUtc? with
        | some utc => .ok (String.ofList (Quoting.token '\'' utc.chars))
        | none => .error .dateOutOfRange := by
  obtain ⟨hplain, htree⟩ := Value.tree?_of_core hv hown
  rw [format?_eq hplain, htree]
  cases t.toUtc? with
  | none => rfl
  | some utc =>
    show Except.ok (String.ofList (Literal.chars (.quoted utc.chars))) = _
    rw [Literal.chars]

namespace DateTime

section Instant

variable {v : Value} {t : DateTime} {micros offset : Int}

/-- The literal of a datetime that has fields in UTC. -/
theorem IsAt.exists_isLiteral (hat : t.IsAt micros) (hv : v.core = .datetime t)
    (hown : v.ownRenderer? = none) (hzone : t.zone = .offset offset) {f : DateTime}
    (hf : f.IsCivil (micros - offset)) :
    ∃ text, ({} : Renderers).format? v = .ok text ∧ f.IsLiteral text := by
  have hutc := (hat.toUtc?_eq_some_iff hzone f).mpr hf
  have hsilent : f.zone.chars = [] := by
    rw [hf.zone]
    rfl
  refine ⟨_, ?_, isLiteral_token hf.isValid hsilent⟩
  rw [Renderers.format?_of_core hv hown, hutc]

/-- Without an offset, a datetime has a literal, which has its own fields. -/
theorem IsValid.exists_isLiteral (ht : t.IsValid) (hv : v.core = .datetime t)
    (hown : v.ownRenderer? = none) (hzone : ∀ offset, t.zone ≠ .offset offset) :
    ∃ text, ({} : Renderers).format? v = .ok text ∧ t.IsLiteral text := by
  obtain ⟨date, clock, zone⟩ := t
  cases zone with
  | none | silent =>
    refine ⟨_, ?_, isLiteral_token ht rfl⟩
    rw [Renderers.format?_of_core hv hown]
    rfl
  | offset micros => exact absurd rfl (hzone micros)

/-- Where the calendar has no fields in UTC, there is no literal. -/
theorem IsAt.format?_eq_error (hat : t.IsAt micros) (hv : v.core = .datetime t)
    (hown : v.ownRenderer? = none) (hzone : t.zone = .offset offset)
    (hlost : ∀ f, ¬ IsCivil f (micros - offset)) :
    ({} : Renderers).format? v = .error .dateOutOfRange := by
  have hutc : t.toUtc? = none := by
    rw [Option.eq_none_iff_forall_ne_some]
    exact fun f hf => hlost f ((hat.toUtc?_eq_some_iff hzone f).mp hf)
  rw [Renderers.format?_of_core hv hown, hutc]

/-- **Literals with an offset are equal just where the instants are.** -/
theorem IsAt.format?_eq_iff (hat : t.IsAt micros) (hv : v.core = .datetime t)
    (hown : v.ownRenderer? = none) (hzone : t.zone = .offset offset) {f : DateTime}
    (hf : f.IsCivil (micros - offset)) {w : Value} {other g : DateTime} {moment shift : Int}
    (hother : other.IsAt moment) (hw : w.core = .datetime other) (hwown : w.ownRenderer? = none)
    (hshift : other.zone = .offset shift) (hg : g.IsCivil (moment - shift)) :
    ({} : Renderers).format? v = ({} : Renderers).format? w
      ↔ micros - offset = moment - shift := by
  obtain ⟨text, htext, hliteral⟩ := hat.exists_isLiteral hv hown hzone hf
  obtain ⟨_, hwtext, hwliteral⟩ := hother.exists_isLiteral hw hwown hshift hg
  constructor
  · intro heq
    rw [htext, hwtext] at heq
    cases heq
    -- one text has one date and one time, and these are at one moment only
    obtain ⟨hdate, hclock⟩ := hliteral.eq_of_eq hwliteral
    rw [hf.moment.eq_localMicros, hg.moment.eq_localMicros, localMicros, localMicros, hdate,
      hclock]
  · intro hsame
    have hutc := (hat.toUtc?_eq_some_iff hzone f).mpr hf
    rw [hsame] at hf
    have hwutc := (hother.toUtc?_eq_some_iff hshift f).mpr hf
    rw [Renderers.format?_of_core hv hown, Renderers.format?_of_core hw hwown, hutc, hwutc]

end Instant

end DateTime

/-! ## All of it -/

/-- A literal that fails with what is not one of the library's own failures is refused with a
failure of formatting that has it as its cause, and nothing is appended. -/
theorem Desk.Appends.step_of_foreign {desk : Desk} {query : String} {command : Command} {v : Value}
    {owed : Option Value} {reply : Reply} (h : desk.Appends command (.literal v) owed reply)
    (hquery : desk.builder.query = some query) {cause : Failure}
    (hformat : desk.registries.renderers.format? v = .error cause)
    (hforeign : cause.kind.isOwn = false) :
    ∃ failure, (desk.step command).1 = .error failure ∧ failure.kind = .format
      ∧ failure.cause? = some cause ∧ (desk.step command).2.builder.query = some query := by
  obtain ⟨failure, hfail, hkind, -, hcause⟩ :=
    (rendersAlike hquery).foreign _ _ _ _ _ h hformat hforeign
  have hturn := step_turn desk command
  rw [hfail] at hturn
  -- an append is none of the commands that may lose the query
  have hkept : ¬LosesQuery desk command failure := by
    rintro ⟨rfl, -, -, -⟩
    cases h
  exact ⟨failure, hfail, hkind, hcause, (hturn.agree_of_error hkept).query.trans hquery⟩

/-- What is written of `v`, which is the datetime `t`, when no renderer is registered. The date and
the time of `t` are those of the moment `micros`; with an offset it denotes the moment that is
earlier by it. -/
structure WritesInstant (v : Value) (t : DateTime) (micros : Int) : Prop where
  moment : t.IsAt micros
  /-- Without an offset, the literal has the datetime's own fields. -/
  own : (∀ offset, t.zone ≠ .offset offset) →
    ∃ text, ({} : Renderers).format? v = .ok text ∧ t.IsLiteral text
  /-- With an offset, it has the fields of the instant. -/
  utc : ∀ (offset : Int) (f : DateTime), t.zone = .offset offset → f.IsCivil (micros - offset) →
    ∃ text, ({} : Renderers).format? v = .ok text ∧ f.IsLiteral text
  /-- If the calendar has no such fields, there is no literal, and an append fails because of that
  and appends nothing. -/
  outOfRange : ∀ offset, t.zone = .offset offset → (∀ f, ¬ DateTime.IsCivil f (micros - offset)) →
    ∃ cause, ({} : Renderers).format? v = .error cause ∧ cause.kind = .overflow
      ∧ ∀ desk query command owed reply, desk.registries.renderers = {} →
        desk.builder.query = some query → Desk.Appends desk command (.literal v) owed reply →
          ∃ failure, (desk.step command).1 = .error failure ∧ failure.kind = .format
            ∧ failure.cause? = some cause ∧ (desk.step command).2.builder.query = some query
  /-- Two literals are equal just where the instants are. -/
  sameInstant : ∀ (offset : Int) (f : DateTime), t.zone = .offset offset →
    f.IsCivil (micros - offset) →
      ∀ (w : Value) (other : DateTime) (moment shift : Int) (g : DateTime),
        w.core = .datetime other → w.ownRenderer? = none → other.IsAt moment →
        other.zone = .offset shift → g.IsCivil (moment - shift) →
        (({} : Renderers).format? v = ({} : Renderers).format? w
          ↔ micros - offset = moment - shift)

/-- **The literal of a datetime denotes its instant**, for every valid datetime, of whatever type
and in whatever zone. -/
theorem writesInstant {v : Value} {t : DateTime} (hv : v.core = .datetime t)
    (hown : v.ownRenderer? = none) (ht : t.IsValid) : WritesInstant v t t.localMicros where
  moment := ht.isAt
  own hzone := ht.exists_isLiteral hv hown hzone
  utc _ _ hzone hf := ht.isAt.exists_isLiteral hv hown hzone hf
  outOfRange _ hzone hlost := by
    have hformat := ht.isAt.format?_eq_error hv hown hzone hlost
    refine ⟨_, hformat, rfl, fun desk query command owed reply hempty hquery happends => ?_⟩
    rw [← hempty] at hformat
    exact happends.step_of_foreign hquery hformat rfl
  sameInstant _ _ hzone hf _ _ _ _ _ hw hwown hother hshift hg :=
    ht.isAt.format?_eq_iff hv hown hzone hf hother hw hwown hshift hg

/-- Half a second east of UTC, a quarter of a second past midnight: the fraction is borrowed from
the leap day before. And a microsecond east of UTC, the first midnight of the calendar has no fields
in UTC. -/
theorem writesInstant_borrowed :
    let past : DateTime := ⟨⟨2024, 3, 1⟩, ⟨0, 0, 0, 250000⟩, .offset 500000⟩
    let leap : DateTime := ⟨⟨2024, 2, 29⟩, ⟨23, 59, 59, 750000⟩, .none⟩
    let first : DateTime := ⟨⟨1, 1, 1⟩, ⟨0, 0, 0, 0⟩, .offset 1⟩
    let desk := Desk.plain "SELECT "
    let push := Command.builder (.push (.literal (.datetime first)))
    (∃ text, ({} : Renderers).format? (.datetime past) = .ok text ∧ leap.IsLiteral text)
      ∧ ∃ failure, (desk.step push).1 = .error failure ∧ failure.kind = .format
        ∧ (desk.step push).2.builder.query = some "SELECT " := by
  intro past leap first desk push
  have hpast : past.IsValid := ⟨by constructor <;> decide, by decide, by constructor <;> decide⟩
  have hfirst : first.IsValid := ⟨by constructor <;> decide, by decide, by constructor <;> decide⟩
  have hwrites := writesInstant (v := .datetime past) rfl rfl hpast
  have hlost := writesInstant (v := .datetime first) rfl rfl hfirst
  refine ⟨hwrites.utc _ leap rfl ?_, ?_⟩
  · exact (hwrites.moment.toUtc?_eq_some_iff rfl leap).mp (by decide +kernel)
  · obtain ⟨_, -, -, hrefused⟩ := hlost.outOfRange _ rfl fun f hf => by
      have hutc := (hlost.moment.toUtc?_eq_some_iff rfl f).mpr hf
      have hnone : first.toUtc? = none := by decide +kernel
      rw [hnone] at hutc
      cases hutc
    obtain ⟨failure, hfail, hkind, -, hquery⟩ := hrefused desk _ push _ _ rfl rfl (.builder _ rfl)
    exact ⟨failure, hfail, hkind, hquery⟩

end SqlText
