import SqlText.Dialect
import SqlText.Proofs.Lowercase

/-!
The catalog of dialects. A name finds the dialect that was registered last under it, in any case,
and a registration touches no other name (`Dialects.find?_register`). Every dialect is registered
under its own name too, but this name may be given to another dialect later, while the first one
stays where an alias holds it. Then the name of what an alias finds is the name of something else.
As long as no name is taken over, this does not happen.

* `find?_register`: what a name finds after one registration;
* `IsNamed.after`: whatever is registered, its own name finds something;
* `IsCanonical.after`: where no name is taken over, its own name finds the dialect itself.
-/

namespace SqlText

/-- To take the entries of a key out does not matter to the look-up of another one. -/
theorem find?_filter_ne {κ α : Type} [DecidableEq κ] (entries : List (κ × α)) {key other : κ}
    (h : other ≠ key) :
    (entries.filter (·.1 != key)).find? (·.1 == other) = entries.find? (·.1 == other) := by
  rw [List.find?_filter]
  congr 1
  funext e
  by_cases he : e.1 = other
  · simp [he, h]
  · simp [he]

@[simp] theorem Value.core_text (s : String) : (text s).core = text s :=
  rfl

namespace Dialects

/-! ## One registration -/

/-- The names that a registration sets, as they are looked up. -/
def keys (dialect : Dialect) (aliases : List String) : List String :=
  (dialect.name :: aliases).map Text.lowercase

theorem lowercase_name_mem_keys (dialect : Dialect) (aliases : List String) :
    Text.lowercase dialect.name ∈ keys dialect aliases :=
  List.mem_map_of_mem List.mem_cons_self

theorem find?_insert (ds : Dialects) (key : String) (dialect : Dialect) (other : String) :
    (ds.insert key dialect).find? other = if other = key then some dialect else ds.find? other := by
  unfold insert find?
  by_cases hkey : other = key
  · simp [hkey]
  · have hne : (key == other) = false := by simpa using Ne.symm hkey
    rw [if_neg hkey, List.find?_cons_of_neg (by simp [hne]), find?_filter_ne _ hkey]

/-- **What a name finds after a registration**: the dialect, if the name is one of those that it was
registered under, and what it found before, if not. -/
theorem find?_register (ds : Dialects) (dialect : Dialect) (aliases : List String) (key : String) :
    (ds.register dialect aliases).find? key
      = if key ∈ keys dialect aliases then some dialect else ds.find? key := by
  unfold register keys
  generalize dialect.name :: aliases = names
  induction names generalizing ds with
  | nil => simp
  | cons name rest ih =>
    rw [List.foldl_cons, ih, find?_insert, List.map_cons]
    by_cases hrest : key ∈ rest.map Text.lowercase
    · rw [if_pos hrest, if_pos (List.mem_cons_of_mem _ hrest)]
    · rw [if_neg hrest]
      by_cases hname : key = Text.lowercase name
      · rw [if_pos hname, if_pos (hname ▸ List.mem_cons_self)]
      · rw [if_neg hname, if_neg (by simp [hname, hrest])]

/-! ## Look-up by a value -/

/-- A text is looked up in lowercase, and an unknown one is reported as it was given. -/
theorem resolve?_of_text (ds : Dialects) {name : Value} {s : String} (h : name.core = .text s) :
    ds.resolve? name = match ds.find? (Text.lowercase s) with
      | some dialect => .ok dialect
      | none => .error (.unknownDialect s (Text.inspectText (Text.lowercase s)) ds.names) := by
  have hkey : name.lowercase? = .ok (.text (Text.lowercase s)) := by
    rw [Value.lowercase?, h]
    rfl
  have hshown : name.display? = .ok s := by
    rw [Value.display?, h]
    rfl
  unfold resolve?
  rw [hkey]
  show (match ds.find? (Text.lowercase s) with
    | some dialect => pure dialect
    | none => do throw (.unknownDialect (← name.display?)
        (← (Value.text (Text.lowercase s)).inspect?) ds.names) : Except Failure Dialect) = _
  cases ds.find? (Text.lowercase s) with
  | some dialect => rfl
  | none =>
    rw [hshown]
    rfl

theorem resolve?_of_find? {ds : Dialects} {name : String} {dialect : Dialect}
    (h : ds.find? (Text.lowercase name) = some dialect) :
    ds.resolve? (.text name) = .ok dialect := by
  rw [ds.resolve?_of_text (Value.core_text name), h]

/-! ## Histories of registrations -/

/-- The catalog after registrations of dialects with aliases, in order. -/
def after (ds : Dialects) (history : List (Dialect × List String)) : Dialects :=
  history.foldl (fun ds entry => ds.register entry.1 entry.2) ds

/-- The own name of every registered dialect finds something. -/
def IsNamed (ds : Dialects) : Prop :=
  ∀ key dialect, ds.find? key = some dialect → (ds.find? (Text.lowercase dialect.name)).isSome

/-- The own name of every registered dialect finds this dialect. -/
def IsCanonical (ds : Dialects) : Prop :=
  ∀ key dialect, ds.find? key = some dialect →
    ds.find? (Text.lowercase dialect.name) = some dialect

/-- No registration takes a name over from another dialect. -/
def KeepsNames (ds : Dialects) : List (Dialect × List String) → Prop
  | [] => True
  | (dialect, aliases) :: rest =>
    (∀ key ∈ keys dialect aliases, ∀ other, ds.find? key = some other → other = dialect)
      ∧ (ds.register dialect aliases).KeepsNames rest

theorem IsCanonical.isNamed {ds : Dialects} (h : ds.IsCanonical) : ds.IsNamed := by
  intro key dialect hfind
  rw [h key dialect hfind]
  rfl

/-- A name is never without a dialect again, so that a registration keeps every name it finds. -/
theorem IsNamed.register {ds : Dialects} (h : ds.IsNamed) (dialect : Dialect)
    (aliases : List String) : (ds.register dialect aliases).IsNamed := by
  intro key other hfind
  rw [find?_register] at hfind ⊢
  split
  · rfl
  · next hname =>
    split at hfind
    · cases hfind
      exact absurd (lowercase_name_mem_keys dialect aliases) hname
    · exact h key other hfind

theorem IsCanonical.register {ds : Dialects} (h : ds.IsCanonical) {dialect : Dialect}
    {aliases : List String}
    (hkeeps : ∀ key ∈ keys dialect aliases, ∀ other, ds.find? key = some other → other = dialect) :
    (ds.register dialect aliases).IsCanonical := by
  intro key other hfind
  rw [find?_register] at hfind ⊢
  split at hfind
  · -- the new dialect is found by its own name
    cases hfind
    rw [if_pos (lowercase_name_mem_keys dialect aliases)]
  · next hkey =>
    have hown := h key other hfind
    split
    · next hname => rw [hkeeps _ hname other hown]
    · exact hown

/-- **Whatever is registered, its own name finds something.** -/
theorem IsNamed.after {ds : Dialects} (h : ds.IsNamed) (history : List (Dialect × List String)) :
    (ds.after history).IsNamed := by
  induction history generalizing ds with
  | nil => exact h
  | cons entry rest ih => exact ih (h.register entry.1 entry.2)

/-- **Where no name is taken over, every dialect is found by its own name.** -/
theorem IsCanonical.after {ds : Dialects} (h : ds.IsCanonical)
    {history : List (Dialect × List String)} (hkeeps : ds.KeepsNames history) :
    (ds.after history).IsCanonical := by
  induction history generalizing ds with
  | nil => exact h
  | cons entry rest ih =>
    obtain ⟨hfirst, hrest⟩ := hkeeps
    exact ih (h.register hfirst) hrest

theorem isCanonical_standard : standard.IsCanonical := by
  intro key dialect hfind
  unfold find? standard at hfind
  obtain ⟨entry, hentry, rfl⟩ := Option.map_eq_some_iff.mp hfind
  have hmem := List.mem_of_find?_eq_some hentry
  simp only [List.mem_cons, List.not_mem_nil, or_false] at hmem
  rcases hmem with rfl | rfl | rfl <;> decide +kernel

end Dialects

end SqlText
