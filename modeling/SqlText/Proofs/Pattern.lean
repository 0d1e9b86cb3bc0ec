/-!
Patterns of text that are matched by trying. A pattern may match the start of a text in several ways,
and they come in an order of preference: a repetition rather takes more characters than fewer, and
an optional part is rather there than not. The first way is the one that counts, but where something
has to follow, a later one may be the first that can be continued.

* `flatMap_runs_append`: what can only follow a complete run follows the longest one;
* `read?_seq_of_isTotal`: before something that always matches, the first way is taken;
* `part?_of_mem_readings`: a match names no parts but those of its pattern.
-/

namespace SqlText

/-- Patterns, with names for the parts of what they match. -/
inductive Pattern (ν : Type)
  /-- One character of a class. -/
  | one (p : Char → Bool)
  /-- Any number of characters of a class. -/
  | many (p : Char → Bool)
  | seq (first second : Pattern ν)
  | alt (first second : Pattern ν)
  | opt (body : Pattern ν)
  | part (name : ν) (body : Pattern ν)

/-- One way in which a pattern matches the start of a text. -/
structure Reading (ν : Type) where
  taken : List Char
  parts : List (ν × List Char)
  rest : List Char

namespace Reading

variable {ν : Type}

/-- Nothing is taken. -/
def skip (cs : List Char) : Reading ν := ⟨[], [], cs⟩

/-- Two readings, one after the other. -/
def andThen (m n : Reading ν) : Reading ν := ⟨m.taken ++ n.taken, m.parts ++ n.parts, n.rest⟩

/-- All that is taken has a name. -/
def named (name : ν) (m : Reading ν) : Reading ν := { m with parts := (name, m.taken) :: m.parts }

/-- What the part of a name took, if the part is there. -/
def part? [BEq ν] (m : Reading ν) (name : ν) : Option (List Char) := m.parts.lookup name

@[simp] theorem rest_andThen (m n : Reading ν) : (m.andThen n).rest = n.rest :=
  rfl

@[simp] theorem rest_named (name : ν) (m : Reading ν) : (m.named name).rest = m.rest :=
  rfl

theorem part?_andThen [BEq ν] (m n : Reading ν) (name : ν) :
    (m.andThen n).part? name = (m.part? name).or (n.part? name) :=
  List.lookup_append

end Reading

namespace Pattern

variable {ν : Type} {a b : Pattern ν} {p : Char → Bool} {cs : List Char}

/-! ## The ways to match -/

/-- The runs of a class at the start of a text, longest first, and what follows each. -/
def runs (p : Char → Bool) : List Char → List (List Char × List Char)
  | [] => [([], [])]
  | c :: cs => (if p c then (runs p cs).map fun r => (c :: r.1, r.2) else []) ++ [([], c :: cs)]

/-- The ways to match the start of a text, in the order in which they are tried. -/
def readings : Pattern ν → List Char → List (Reading ν)
  | one _, [] => []
  | one p, c :: cs => if p c then [⟨[c], [], cs⟩] else []
  | many p, cs => (runs p cs).map fun r => ⟨r.1, [], r.2⟩
  | seq a b, cs => (a.readings cs).flatMap fun m => (b.readings m.rest).map m.andThen
  | alt a b, cs => a.readings cs ++ b.readings cs
  | opt a, cs => a.readings cs ++ [.skip cs]
  | part name a, cs => (a.readings cs).map (·.named name)

/-- The way that counts. -/
def read? (a : Pattern ν) (cs : List Char) : Option (Reading ν) := (a.readings cs).head?

/-- What may follow. -/
def ends (a : Pattern ν) (cs : List Char) : List (List Char) := (a.readings cs).map (·.rest)

/-- One given character. -/
def mark (c : Char) : Pattern ν := one (· == c)

/-- Characters of a class, at least one. -/
def atLeastOne (p : Char → Bool) : Pattern ν := seq (one p) (many p)

theorem map_rest_read? (a : Pattern ν) (cs : List Char) :
    (a.read? cs).map (·.rest) = (a.ends cs).head? :=
  List.head?_map.symm

/-! ## Runs -/

/-- **What can only follow a complete run follows the longest one.** -/
theorem flatMap_runs_append {β : Type} {f : List Char × List Char → List β}
    (hf : ∀ taken c rest, p c = true → f (taken, c :: rest) = [])
    (g : List Char × List Char → List β) (cs : List Char) :
    ((runs p cs).flatMap fun r => f r ++ g r)
      = f (cs.takeWhile p, cs.dropWhile p) ++ (runs p cs).flatMap g := by
  induction cs generalizing f g with
  | nil => simp [runs]
  | cons c cs ih =>
    by_cases hc : p c
    · -- longer runs come first, and the one that stops here is not complete
      have hlonger := ih (f := fun r => f (c :: r.1, r.2))
        (fun taken d rest hd => hf (c :: taken) d rest hd) (fun r => g (c :: r.1, r.2))
      have hhere : f ([], c :: cs) = [] := hf [] c cs hc
      simp only [runs, if_pos hc, List.flatMap_append, List.flatMap_map, List.flatMap_cons,
        List.flatMap_nil, List.append_nil, List.takeWhile_cons_of_pos hc,
        List.dropWhile_cons_of_pos hc]
      rw [hlonger, hhere, List.nil_append, List.append_assoc]
    · simp [runs, hc]

theorem flatMap_runs {β : Type} {f : List Char × List Char → List β}
    (hf : ∀ taken c rest, p c = true → f (taken, c :: rest) = []) (cs : List Char) :
    (runs p cs).flatMap f = f (cs.takeWhile p, cs.dropWhile p) := by
  have h := flatMap_runs_append hf (fun _ => []) cs
  simpa only [List.append_nil, List.flatMap_eq_nil_iff.mpr fun _ _ => rfl] using h

theorem head?_runs (p : Char → Bool) (cs : List Char) :
    (runs p cs).head? = some (cs.takeWhile p, cs.dropWhile p) := by
  induction cs with
  | nil => rfl
  | cons c cs ih =>
    by_cases hc : p c
    · simp [runs, hc, ih]
    · simp [runs, hc]

/-! ## What follows, by the shape of the pattern -/

theorem ends_mark_cons (c d : Char) (cs : List Char) :
    (mark c : Pattern ν).ends (d :: cs) = if d = c then [cs] else [] := by
  unfold ends mark readings
  by_cases h : d = c
  · simp [h]
  · simp [h]

theorem ends_many (p : Char → Bool) (cs : List Char) :
    (many p : Pattern ν).ends cs = (runs p cs).map Prod.snd := by
  simp [ends, readings]

theorem ends_seq (a b : Pattern ν) (cs : List Char) :
    (seq a b).ends cs = (a.ends cs).flatMap b.ends := by
  simp [ends, readings, List.map_flatMap, List.flatMap_map, Function.comp_def]

theorem ends_alt (a b : Pattern ν) (cs : List Char) :
    (alt a b).ends cs = a.ends cs ++ b.ends cs :=
  List.map_append

theorem ends_opt (a : Pattern ν) (cs : List Char) : (opt a).ends cs = a.ends cs ++ [cs] :=
  List.map_append

theorem ends_part (name : ν) (a : Pattern ν) (cs : List Char) :
    (part name a).ends cs = a.ends cs := by
  simp [ends, readings, Function.comp_def]

theorem ends_atLeastOne_cons (p : Char → Bool) (c : Char) (cs : List Char) :
    (atLeastOne p : Pattern ν).ends (c :: cs) = if p c then (many p : Pattern ν).ends cs else [] := by
  unfold atLeastOne
  rw [ends_seq]
  by_cases hc : p c
  · simp [ends, readings, hc]
  · simp [ends, readings, hc]

/-! ## The way that counts, by the shape of the pattern -/

/-- A pattern that matches the start of every text. -/
def IsTotal (a : Pattern ν) : Prop := ∀ cs, (a.read? cs).isSome

theorem read?_many (p : Char → Bool) (cs : List Char) :
    (many p : Pattern ν).read? cs = some ⟨cs.takeWhile p, [], cs.dropWhile p⟩ := by
  unfold read? readings
  rw [List.head?_map, head?_runs]
  rfl

theorem read?_opt (a : Pattern ν) (cs : List Char) :
    (opt a).read? cs = some ((a.read? cs).getD (.skip cs)) := by
  show (a.readings cs ++ [Reading.skip cs]).head? = some (((a.readings cs).head?).getD (.skip cs))
  rw [List.head?_append]
  cases (a.readings cs).head? <;> rfl

theorem read?_part (name : ν) (a : Pattern ν) (cs : List Char) :
    (part name a).read? cs = (a.read? cs).map (·.named name) :=
  List.head?_map

/-- A pattern that matches, by where it ends. -/
theorem exists_read?_of_head?_ends {rest : List Char} (h : (a.ends cs).head? = some rest) :
    ∃ m, a.read? cs = some m ∧ m.rest = rest := by
  rw [← map_rest_read?] at h
  exact Option.map_eq_some_iff.mp h

/-- Where a run ends that may be missing. -/
theorem head?_ends_atLeastOne (p : Char → Bool) (cs : List Char) :
    ((atLeastOne p : Pattern ν).ends cs).head?.getD cs = cs.dropWhile p := by
  cases cs with
  | nil => rfl
  | cons c cs =>
    rw [ends_atLeastOne_cons]
    by_cases hc : p c
    · rw [if_pos hc, ← map_rest_read?, read?_many, List.dropWhile_cons_of_pos hc]
      rfl
    · rw [if_neg hc, List.dropWhile_cons_of_neg hc]
      rfl

theorem isTotal_opt (a : Pattern ν) : (opt a).IsTotal := by
  intro cs
  rw [read?_opt]
  rfl

/-- **Before something that always matches, the first way is taken.** -/
theorem read?_seq_of_isTotal (hb : b.IsTotal) (a : Pattern ν) (cs : List Char) :
    (seq a b).read? cs = (a.read? cs).bind fun m => (b.read? m.rest).map m.andThen := by
  show ((a.readings cs).flatMap fun m => (b.readings m.rest).map m.andThen).head?
    = (a.readings cs).head?.bind fun m => (b.readings m.rest).head?.map m.andThen
  cases a.readings cs with
  | nil => rfl
  | cons m others =>
    obtain ⟨n, hn⟩ : ∃ n, (b.readings m.rest).head? = some n :=
      Option.isSome_iff_exists.mp (hb m.rest)
    rw [List.flatMap_cons, List.head?_append, List.head?_map, List.head?_cons, Option.bind_some, hn]
    rfl

theorem IsTotal.seq (ha : a.IsTotal) (hb : b.IsTotal) : (seq a b).IsTotal := by
  intro cs
  obtain ⟨m, hm⟩ := Option.isSome_iff_exists.mp (ha cs)
  rw [read?_seq_of_isTotal hb, hm, Option.bind_some, Option.isSome_map]
  exact hb m.rest

theorem read?_mark_seq_cons (c : Char) (a : Pattern ν) (cs : List Char) :
    (seq (mark c) a).read? (c :: cs) = (a.read? cs).map (Reading.andThen ⟨[c], [], cs⟩) := by
  unfold read? mark
  simp only [readings, beq_self_eq_true, if_true, List.flatMap_singleton, List.head?_map]

theorem readings_mark_seq_of_ne {c d : Char} (h : d ≠ c) (a : Pattern ν) (cs : List Char) :
    (seq (mark c) a).readings (d :: cs) = [] := by
  simp [readings, mark, h]

theorem read?_mark_seq_of_ne {c d : Char} (h : d ≠ c) (a : Pattern ν) (cs : List Char) :
    (seq (mark c) a).read? (d :: cs) = none := by
  rw [read?, readings_mark_seq_of_ne h]
  rfl

/-- What starts with a mark matches nothing else. -/
theorem eq_cons_of_read?_mark_seq {c : Char} {m : Reading ν}
    (h : (seq (mark c) a).read? cs = some m) :
    ∃ rest n, cs = c :: rest ∧ a.read? rest = some n := by
  cases cs with
  | nil => cases h
  | cons d rest =>
    by_cases hd : d = c
    · subst hd
      rw [read?_mark_seq_cons] at h
      obtain ⟨n, hn, -⟩ := Option.map_eq_some_iff.mp h
      exact ⟨rest, n, rfl, hn⟩
    · rw [read?_mark_seq_of_ne hd] at h
      cases h

/-- A named run before something that can only follow a complete one. -/
theorem read?_seq_part_atLeastOne {name : ν}
    (hb : ∀ c rest, p c = true → b.readings (c :: rest) = []) (cs : List Char) :
    (seq (part name (atLeastOne p)) b).read? cs
      = if cs.takeWhile p = [] then none
        else (b.read? (cs.dropWhile p)).map
          (Reading.andThen ⟨cs.takeWhile p, [(name, cs.takeWhile p)], cs.dropWhile p⟩) := by
  cases cs with
  | nil => rfl
  | cons c cs =>
    by_cases hc : p c
    · -- the first character is taken in any case, and then the longest run
      have hruns := flatMap_runs (p := p) (f := fun r => (b.readings r.2).map
        (Reading.andThen ⟨c :: r.1, [(name, c :: r.1)], r.2⟩))
        (fun taken d rest hd => by simp only [hb d rest hd, List.map_nil]) cs
      have hreadings : (seq (part name (atLeastOne p)) b).readings (c :: cs)
          = (runs p cs).flatMap fun r => (b.readings r.2).map
            (Reading.andThen ⟨c :: r.1, [(name, c :: r.1)], r.2⟩) := by
        simp [readings, atLeastOne, hc, List.flatMap_map, Reading.andThen, Reading.named]
      unfold read?
      rw [hreadings, hruns, List.head?_map, List.takeWhile_cons_of_pos hc,
        List.dropWhile_cons_of_pos hc, if_neg (by simp)]
    · rw [List.takeWhile_cons_of_neg hc, if_pos rfl]
      simp [read?, readings, atLeastOne, hc]

/-! ## Parts -/

/-- The names of the parts. -/
def names : Pattern ν → List ν
  | one _ | many _ => []
  | seq a b | alt a b => a.names ++ b.names
  | opt a => a.names
  | part name a => name :: a.names

/-- **A match names no parts but those of its pattern.** -/
theorem part?_of_mem_readings [DecidableEq ν] {name : ν} {m : Reading ν}
    (hm : m ∈ a.readings cs) (hname : name ∉ a.names) : m.part? name = none := by
  induction a generalizing cs m with
  | one p =>
    cases cs with
    | nil => simp [readings] at hm
    | cons c cs =>
      unfold readings at hm
      split at hm
      · obtain rfl := List.mem_singleton.mp hm
        rfl
      · simp at hm
  | many p =>
    obtain ⟨r, -, rfl⟩ := List.mem_map.mp hm
    rfl
  | seq a b iha ihb =>
    obtain ⟨k, hk, hm⟩ := List.mem_flatMap.mp hm
    obtain ⟨n, hn, rfl⟩ := List.mem_map.mp hm
    obtain ⟨ha, hb⟩ := not_or.mp (mt List.mem_append.mpr hname)
    rw [Reading.part?_andThen, iha hk ha, ihb hn hb]
    rfl
  | alt a b iha ihb =>
    obtain ⟨ha, hb⟩ := not_or.mp (mt List.mem_append.mpr hname)
    rcases List.mem_append.mp hm with hm | hm
    · exact iha hm ha
    · exact ihb hm hb
  | opt a ih =>
    rcases List.mem_append.mp hm with hm | hm
    · exact ih hm hname
    · obtain rfl := List.mem_singleton.mp hm
      rfl
  | part other a ih =>
    obtain ⟨n, hn, rfl⟩ := List.mem_map.mp hm
    obtain ⟨hother, ha⟩ := not_or.mp (mt List.mem_cons.mpr hname)
    have hne : (name == other) = false := by simpa using hother
    unfold Reading.part? Reading.named
    rw [List.lookup_cons, hne]
    exact ih hn ha

theorem part?_of_read? [DecidableEq ν] {name : ν} {m : Reading ν} (hm : a.read? cs = some m)
    (hname : name ∉ a.names) : m.part? name = none :=
  part?_of_mem_readings (List.mem_of_mem_head? hm) hname

end Pattern

end SqlText
