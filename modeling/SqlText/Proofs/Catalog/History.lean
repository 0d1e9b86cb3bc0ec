import Mathlib.Data.List.Induction
import SqlText.Proofs.Precedence

/-!
The catalog as the outcome of its history. A name finds the dialect of the last registration that
names it, in any case, and the one known from the start if there was none (`Dialects.IsHeld`). No
registration takes a name away, so that settings which were made once find a dialect for good, even
though they keep their name in lowercase and have it lowered again at every look-up.

* `Dialects.find?_after_iff`: what a name finds after any registrations;
* `Dialects.isSome_find?_after`: a name that finds something keeps finding something;
* `Dialects.tracksHistory`: names, registrations and settings, over every history.
-/

namespace SqlText

namespace Dialects

/-- A registration names what is the same as one of its names in lowercase. -/
def IsNamedBy (name : String) (call : Dialect × List String) : Prop :=
  ∃ key ∈ call.1.name :: call.2, Text.lowercase key = Text.lowercase name

instance (name : String) (call : Dialect × List String) : Decidable (IsNamedBy name call) :=
  inferInstanceAs (Decidable (∃ key ∈ _, _))

/-- The dialect of a name after registrations. -/
inductive IsHeld (ds : Dialects) (history : List (Dialect × List String)) (name : String) :
    Dialect → Prop
  /-- It was registered by the last call that names it. -/
  | registered {before later : List (Dialect × List String)} {dialect : Dialect}
      {aliases : List String} (hsplit : history = before ++ (dialect, aliases) :: later)
      (hnamed : IsNamedBy name (dialect, aliases)) (hlater : ∀ call ∈ later, ¬IsNamedBy name call) :
      IsHeld ds history name dialect
  /-- It was there from the start, and no call names it. -/
  | initial {dialect : Dialect} (hfound : ds.find? (Text.lowercase name) = some dialect)
      (hunnamed : ∀ call ∈ history, ¬IsNamedBy name call) : IsHeld ds history name dialect

/-! ## One registration -/

theorem mem_keys_iff {dialect : Dialect} {aliases : List String} {name : String} :
    Text.lowercase name ∈ keys dialect aliases ↔ IsNamedBy name (dialect, aliases) :=
  List.mem_map

/-- The names of a registration matter in lowercase only. -/
theorem register_congr (ds : Dialects) (dialect : Dialect) {aliases others : List String}
    (h : aliases.map Text.lowercase = others.map Text.lowercase) :
    ds.register dialect aliases = ds.register dialect others := by
  have hfold : ∀ names : List String,
      names.foldl (fun ds name => ds.insert (Text.lowercase name) dialect) ds
        = (names.map Text.lowercase).foldl (fun ds key => ds.insert key dialect) ds := by
    intro names
    rw [List.foldl_map]
  unfold register
  rw [hfold, hfold, List.map_cons, List.map_cons, h]

/-- A registration touches no name but its own. -/
theorem find?_register_of_not_isNamedBy (ds : Dialects) {dialect : Dialect} {aliases : List String}
    {name : String} (h : ¬IsNamedBy name (dialect, aliases)) :
    (ds.register dialect aliases).find? (Text.lowercase name)
      = ds.find? (Text.lowercase name) := by
  rw [find?_register, if_neg (mt mem_keys_iff.mp h)]

/-! ## All registrations -/

theorem after_append (ds : Dialects) (history later : List (Dialect × List String)) :
    ds.after (history ++ later) = (ds.after history).after later :=
  List.foldl_append

theorem isHeld_concat {ds : Dialects} {history : List (Dialect × List String)}
    {call : Dialect × List String} {name : String} {dialect : Dialect} :
    IsHeld ds (history ++ [call]) name dialect
      ↔ if IsNamedBy name call then call.1 = dialect else IsHeld ds history name dialect := by
  constructor
  · intro h
    cases h with
    | @registered before later _ aliases hsplit hnamed hlater =>
      -- the call that counts is the new one, or stands before it
      obtain rfl | ⟨later, last, rfl⟩ := List.eq_nil_or_concat later
      · obtain ⟨-, hcall⟩ := List.append_inj' hsplit rfl
        obtain rfl := List.singleton_inj.mp hcall
        rw [if_pos hnamed]
      · have hsplit' : history ++ [call] = (before ++ (dialect, aliases) :: later) ++ [last] := by
          simpa using hsplit
        obtain ⟨hhistory, hcall⟩ := List.append_inj' hsplit' rfl
        obtain rfl := List.singleton_inj.mp hcall
        rw [if_neg (hlater call (by simp))]
        exact .registered hhistory hnamed fun other hother => hlater other (by simp [hother])
    | initial hfound hunnamed =>
      rw [if_neg (hunnamed call (by simp))]
      exact .initial hfound fun other hother => hunnamed other (by simp [hother])
  · intro h
    split at h
    · next hnamed =>
      subst h
      have hsplit : history ++ [call] = history ++ call :: [] := rfl
      exact .registered hsplit hnamed nofun
    · next hcall =>
      -- nothing changes by a call that does not name it
      have hall : ∀ {calls : List (Dialect × List String)},
          (∀ other ∈ calls, ¬IsNamedBy name other) →
          ∀ other ∈ calls ++ [call], ¬IsNamedBy name other := by
        intro calls hcalls other hother
        rcases List.mem_append.mp hother with hother | hother
        · exact hcalls other hother
        · rwa [List.mem_singleton.mp hother]
      cases h with
      | @registered before later _ aliases hsplit hnamed hlater =>
        have hsplit' : history ++ [call] = before ++ (dialect, aliases) :: (later ++ [call]) := by
          simp [hsplit]
        exact .registered hsplit' hnamed (hall hlater)
      | initial hfound hunnamed => exact .initial hfound (hall hunnamed)

/-- **What a name finds after any registrations.** -/
theorem find?_after_iff (ds : Dialects) {history : List (Dialect × List String)} {name : String}
    {dialect : Dialect} :
    (ds.after history).find? (Text.lowercase name) = some dialect
      ↔ IsHeld ds history name dialect := by
  induction history using List.reverseRecOn with
  | nil =>
    constructor
    · exact fun h => .initial h nofun
    · intro h
      cases h with
      | registered hsplit => simp at hsplit
      | initial hfound => exact hfound
  | append_singleton history call ih =>
    obtain ⟨registered, aliases⟩ := call
    rw [after_append, isHeld_concat]
    show ((ds.after history).register registered aliases).find? (Text.lowercase name) = some dialect
      ↔ _
    rw [find?_register]
    by_cases hnamed : IsNamedBy name (registered, aliases)
    · rw [if_pos (mem_keys_iff.mpr hnamed), if_pos hnamed, Option.some.injEq]
    · rw [if_neg (mt mem_keys_iff.mp hnamed), if_neg hnamed, ih]

/-- **A name that finds something keeps finding something**, whatever is registered. -/
theorem isSome_find?_after (ds : Dialects) {key : String} (h : (ds.find? key).isSome)
    (history : List (Dialect × List String)) : ((ds.after history).find? key).isSome := by
  induction history generalizing ds with
  | nil => exact h
  | cons call rest ih =>
    refine ih (ds.register call.1 call.2) ?_
    rw [find?_register]
    split
    · rfl
    · exact h

/-! ## Names and settings -/

theorem resolve?_eq_ok_iff (ds : Dialects) {name : String} {dialect : Dialect} :
    ds.resolve? (.text name) = .ok dialect ↔ ds.find? (Text.lowercase name) = some dialect := by
  rw [ds.resolve?_of_text (Value.core_text name)]
  cases ds.find? (Text.lowercase name) <;> simp

/-- A name in lowercase finds what the name finds, as it is not lowered any further. -/
theorem resolve?_lowercase_eq_ok_iff (ds : Dialects) {name : String} {dialect : Dialect} :
    ds.resolve? (.text (Text.lowercase name)) = .ok dialect
      ↔ ds.resolve? (.text name) = .ok dialect := by
  rw [resolve?_eq_ok_iff, resolve?_eq_ok_iff, Text.lowercase_lowercase]

/-- Settings can be made with the names that find something, and keep their name in lowercase. -/
theorem make?_eq_ok_iff (ds : Dialects) {name : Value} {s : String} (hname : name.core = .text s)
    (logQueries options : Value) (settings : Settings) :
    Settings.make? ds name logQueries options = .ok settings
      ↔ (∃ dialect, ds.resolve? (.text s) = .ok dialect)
        ∧ settings = { dialect := .text (Text.lowercase s), logQueries, options } := by
  simp only [resolve?_eq_ok_iff]
  rw [Settings.make?_of_text hname]
  cases hfind : ds.find? (Text.lowercase s) with
  | none => simp
  | some dialect => simp [eq_comm]

/-- What the catalog tells after registrations, from the one that there is at the start. -/
structure TracksHistory (history : List (Dialect × List String)) : Prop where
  /-- A name finds the dialect that was registered last under it, or the one from the start. -/
  found : ∀ name dialect, (standard.after history).resolve? (.text name) = .ok dialect
    ↔ IsHeld standard history name dialect
  /-- A name without a dialect is reported, with the names that there are. -/
  unknown : ∀ name, (∀ dialect, ¬IsHeld standard history name dialect) → ∃ failure : Failure,
    (standard.after history).resolve? (.text name) = .error failure ∧ failure.kind = .validation
      ∧ failure = .unknownDialect name (Text.inspectText (Text.lowercase name))
        (standard.after history).names
  /-- Look-ups do not see case. -/
  caseless : ∀ name other, Text.lowercase name = Text.lowercase other → ∀ dialect,
    (standard.after history).resolve? (.text name) = .ok dialect
      ↔ (standard.after history).resolve? (.text other) = .ok dialect
  /-- Neither do registrations. -/
  recased : ∀ dialect aliases others, aliases.map Text.lowercase = others.map Text.lowercase →
    standard.after (history ++ [(dialect, aliases)])
      = standard.after (history ++ [(dialect, others)])
  /-- A registration touches no other name. -/
  confined : ∀ call name, ¬IsNamedBy name call → ∀ dialect,
    (standard.after (history ++ [call])).resolve? (.text name) = .ok dialect
      ↔ (standard.after history).resolve? (.text name) = .ok dialect
  /-- Settings keep the name in lowercase, and there are some for every name that finds a
  dialect. -/
  made : ∀ (name : Value) (s : String) (logQueries options : Value) (settings : Settings),
    name.core = .text s →
    (Settings.make? (standard.after history) name logQueries options = .ok settings
      ↔ (∃ dialect, (standard.after history).resolve? (.text s) = .ok dialect)
        ∧ settings = { dialect := .text (Text.lowercase s), logQueries, options })
  /-- Whatever is registered later, the settings find what the name finds by then. -/
  kept : ∀ (name : Value) (s : String) (logQueries options : Value) (settings : Settings),
    name.core = .text s →
    Settings.make? (standard.after history) name logQueries options = .ok settings →
    ∀ later, ∃ dialect, settings.resolve? (standard.after (history ++ later)) = .ok dialect
      ∧ (standard.after (history ++ later)).resolve? (.text s) = .ok dialect

/-- **The catalog tells its history**, whatever was registered, and in whatever case. -/
theorem tracksHistory (history : List (Dialect × List String)) : TracksHistory history where
  found name dialect := by
    rw [resolve?_eq_ok_iff, find?_after_iff]
  unknown name hnone := by
    have hfind : (standard.after history).find? (Text.lowercase name) = none :=
      Option.eq_none_iff_forall_ne_some.mpr fun dialect hsome =>
        hnone dialect ((find?_after_iff standard).mp hsome)
    refine ⟨_, ?_, rfl, rfl⟩
    rw [resolve?_of_text _ (Value.core_text name), hfind]
  caseless name other hcase dialect := by
    rw [resolve?_eq_ok_iff, resolve?_eq_ok_iff, hcase]
  recased dialect aliases others hcase := by
    rw [after_append, after_append]
    exact register_congr _ dialect hcase
  confined call name hnamed dialect := by
    rw [resolve?_eq_ok_iff, resolve?_eq_ok_iff, after_append]
    show ((standard.after history).register call.1 call.2).find? _ = _ ↔ _
    rw [find?_register_of_not_isNamedBy _ hnamed]
  made name s logQueries options settings hname :=
    make?_eq_ok_iff _ hname logQueries options settings
  kept name s logQueries options settings hname hmade later := by
    obtain ⟨⟨dialect, hdialect⟩, rfl⟩ :=
      (make?_eq_ok_iff _ hname logQueries options settings).mp hmade
    -- the name found something when the settings were made, so that it still does
    have hsome : ((standard.after history).find? (Text.lowercase s)).isSome := by
      rw [(resolve?_eq_ok_iff _).mp hdialect]
      rfl
    have hlater := isSome_find?_after _ hsome later
    rw [← after_append] at hlater
    obtain ⟨other, hother⟩ := Option.isSome_iff_exists.mp hlater
    have hfound := (resolve?_eq_ok_iff _).mpr hother
    exact ⟨other, (resolve?_lowercase_eq_ok_iff _).mpr hfound, hfound⟩

/-- A known name goes to another dialect, and an alias of the first one stays with it. -/
example :
    let ds := standard.after [({ name := "MySQL", identifierQuote := "\"" }, ["Maria"])]
    ds.find? (Text.lowercase "MYSQL") = some { name := "MySQL", identifierQuote := "\"" }
      ∧ ds.find? (Text.lowercase "MariaDB") = some { name := "mysql" } := by
  decide +kernel

end Dialects

end SqlText
