import SqlText.Proofs.Url.Outcome

/-!
The driver in the name of a URL. The name ends at the first colon, as a colon is no part of a name,
and what comes after the two slashes is read without regard to it: of the ways in which the rest can
match, the same one counts for every name (`Url.exists_read?_located`). So a driver changes nothing
but the name, and of the name it changes nothing but what comes after the backend.

* `Url.exists_read?_located`: how the grammar reads a name and what comes after it;
* `Url.parse?_located`: what is kept of it;
* `Dialects.ignoresDriver`: a URL with a driver and the same one without lead to the same.
-/

namespace SqlText

namespace Url

open Pattern

/-- A URL with a name, and all the rest. -/
def located (name rest : String) : String := name ++ "://" ++ rest

/-- The text in the place of the port, which the name has no part in. -/
def portIn? (rest : String) : Option (List Char) :=
  (afterSlashes.read? rest.toList).bind (·.part? .port)

/-- There is a number in the place of the port, or there is no such place. -/
def HasGoodPort (rest : String) : Prop :=
  portIn? rest = none ∨ ∃ port n, portIn? rest = some port ∧ Numeral.read? port = some n

/-- A name that can stand in front of the two slashes. -/
structure IsName (name : String) : Prop where
  nonempty : name ≠ ""
  nameChars : ∀ c ∈ name.toList, isNameChar c = true

/-- A name without a driver. -/
structure IsBackend (name : String) : Prop where
  nonempty : name ≠ ""
  wordChars : ∀ c ∈ name.toList, Text.isWord c = true

/-! ## Reading -/

theorem toList_located (name rest : String) :
    (located name rest).toList = name.toList ++ ':' :: '/' :: '/' :: rest.toList := by
  unfold located
  rw [String.toList_append, String.toList_append, List.append_assoc]
  rfl

/-- The name ends at the first colon. -/
theorem read?_located {name : String} (h : IsName name) (rest : String) :
    pattern.read? (located name rest).toList
      = (afterName.read? (':' :: '/' :: '/' :: rest.toList)).map
        (Reading.andThen
          ⟨name.toList, [(.name, name.toList)], ':' :: '/' :: '/' :: rest.toList⟩) := by
  have htake : (located name rest).toList.takeWhile isNameChar = name.toList := by
    rw [toList_located, List.takeWhile_append_of_pos h.nameChars,
      List.takeWhile_cons_of_neg (by decide), List.append_nil]
  have hdrop : (located name rest).toList.dropWhile isNameChar
      = ':' :: '/' :: '/' :: rest.toList := by
    rw [toList_located, List.dropWhile_append_of_pos h.nameChars,
      List.dropWhile_cons_of_neg (by decide)]
  have hnonempty : name.toList ≠ [] := by simpa using h.nonempty
  unfold pattern
  rw [read?_seq_part_atLeastOne fun _ rest hc => readings_afterName_of_isNameChar hc rest, htake,
    hdrop, if_neg hnonempty]

/-- **How the grammar reads a name and what comes after it.** The name is all of the name, and the
other parts are the same for every name. -/
theorem exists_read?_located (rest : String) :
    ∃ k : Reading Part, k.part? .port = portIn? rest ∧ ∀ name, IsName name →
      ∃ m, pattern.read? (located name rest).toList = some m ∧ m.rest = k.rest
        ∧ m.part? .name = some name.toList
        ∧ ∀ part, part ≠ .name → m.part? part = k.part? part := by
  obtain ⟨k, hk, -, hport⟩ := exists_read?_afterName_cons rest.toList
  obtain ⟨l, hl, -, hsame⟩ := exists_read?_afterSlashes rest.toList
  refine ⟨k, ?_, fun name h => ?_⟩
  · rw [hport, portIn?, hl, Option.bind_some, hsame]
  · rw [read?_located h, hk]
    refine ⟨_, rfl, rfl, rfl, fun part hpart => ?_⟩
    -- the name in front has no other part
    have hother : (Reading.part? ⟨name.toList, [(Part.name, name.toList)],
        ':' :: '/' :: '/' :: rest.toList⟩ part) = none := by
      rw [Reading.part?, List.lookup_cons, beq_false_of_ne hpart, List.lookup_nil]
    rw [Reading.part?_andThen, hother, Option.none_or]

/-- **What is kept of a URL with a name**: the name, and what is in the place of the port. -/
theorem parse?_located {name : String} (h : IsName name) (rest : String) :
    parse? (located name rest) = some ⟨name.toList, portIn? rest⟩ := by
  obtain ⟨k, hport, hread⟩ := exists_read?_located rest
  obtain ⟨m, hm, -, hname, hparts⟩ := hread name h
  rw [parse?_eq_read?, hm, Option.map_some, ofReading, hname, hparts .port (by decide), hport]
  rfl

theorem checkPort_eq_ok {rest : String} (h : HasGoodPort rest) (name : List Char) :
    checkPort ⟨name, portIn? rest⟩ = .ok () := by
  unfold checkPort
  rcases h with hnone | ⟨port, n, hport, hread⟩
  · rw [hnone]
    rfl
  · simp only [hport, hread]
    rfl

/-! ## Names and drivers -/

theorem IsBackend.isName {backend : String} (h : IsBackend backend) : IsName backend where
  nonempty := h.nonempty
  nameChars c hc := by
    rw [isNameChar, h.wordChars c hc]
    rfl

theorem IsBackend.isName_driver {backend driver : String} (h : IsBackend backend)
    (hdriver : ∀ c ∈ driver.toList, isNameChar c = true) : IsName (backend ++ "+" ++ driver) where
  nonempty hempty := by
    have hlist := congrArg String.toList hempty
    rw [String.toList_append, String.toList_append] at hlist
    simp at hlist
  nameChars c hc := by
    rw [String.toList_append, String.toList_append] at hc
    rcases List.mem_append.mp hc with hc | hc
    · rcases List.mem_append.mp hc with hc | hc
      · exact h.isName.nameChars c hc
      · obtain rfl := List.mem_singleton.mp hc
        decide
    · exact hdriver c hc

/-- A backend has no plus sign in it. -/
theorem IsBackend.ne_plus {backend : String} (h : IsBackend backend) :
    ∀ c ∈ backend.toList, (c != '+') = true := by
  intro c hc
  rw [bne_iff_ne]
  rintro rfl
  exact absurd (h.wordChars '+' hc) (by decide)

/-- The backend is the name up to the first plus sign. -/
theorem IsBackend.backend_append {backend : String} (h : IsBackend backend) {tail : List Char}
    (htail : tail.takeWhile (· != '+') = []) (port : Option (List Char)) :
    Url.backend ⟨backend.toList ++ tail, port⟩ = backend := by
  unfold Url.backend
  rw [List.takeWhile_append_of_pos h.ne_plus, htail, List.append_nil, String.ofList_toList]

theorem IsBackend.backend_eq {backend : String} (h : IsBackend backend)
    (port : Option (List Char)) : Url.backend ⟨backend.toList, port⟩ = backend := by
  have happend : Url.backend ⟨backend.toList ++ [], port⟩ = backend := h.backend_append rfl port
  rwa [List.append_nil] at happend

theorem IsBackend.backend_driver_eq {backend : String} (h : IsBackend backend) (driver : String)
    (port : Option (List Char)) :
    Url.backend ⟨(backend ++ "+" ++ driver).toList, port⟩ = backend := by
  have hname : (backend ++ "+" ++ driver).toList = backend.toList ++ '+' :: driver.toList := by
    rw [String.toList_append, String.toList_append, List.append_assoc]
    rfl
  rw [hname]
  exact h.backend_append (List.takeWhile_cons_of_neg (by decide)) port

theorem isBackend_clickhouse : IsBackend "clickhouse" where
  nonempty := by decide
  wordChars := List.all_eq_true.mp (by decide)

end Url

namespace Dialects

open Url

/-- A URL leads to what is in the place of its port, and then to its backend. -/
theorem ofUrl?_located (ds : Dialects) {name : String} (h : IsName name) (rest : String) :
    ds.ofUrl? (.text (located name rest))
      = (checkPort ⟨name.toList, portIn? rest⟩ >>= fun _ =>
        ds.resolve? (.text (Url.backend ⟨name.toList, portIn? rest⟩))) := by
  rw [ds.ofUrl?_of_text (Value.core_text _), parse?_located h]

/-- What a driver makes no difference to. -/
structure IgnoresDriver (ds : Dialects) (backend driver rest : String) : Prop where
  /-- The outcome is the same, and so is the failure if it is one. -/
  outcome : ds.ofUrl? (.text (located (backend ++ "+" ++ driver) rest))
    = ds.ofUrl? (.text (located backend rest))
  /-- Both match in the way that counts, up to the same place, and with the same parts but for the
  name. -/
  parts : ∃ m n, pattern.read? (located (backend ++ "+" ++ driver) rest).toList = some m
    ∧ pattern.read? (located backend rest).toList = some n ∧ m.rest = n.rest
    ∧ m.part? .name = some (backend ++ "+" ++ driver).toList
    ∧ n.part? .name = some backend.toList ∧ n.part? .port = portIn? rest
    ∧ ∀ part, part ≠ .name → m.part? part = n.part? part
  /-- A dialect that is found is that of the backend. -/
  dialect : ∀ dialect, ds.ofUrl? (.text (located backend rest)) = .ok dialect →
    ds.resolve? (.text backend) = .ok dialect
  /-- With a number in the place of the port, or with no such place, the outcome is that of the
  backend, the failure included. -/
  resolved : HasGoodPort rest →
    ds.ofUrl? (.text (located backend rest)) = ds.resolve? (.text backend)

/-- **The driver makes no difference**, for every catalog, and whatever comes after the slashes. -/
theorem ignoresDriver (ds : Dialects) {backend driver : String} (hbackend : IsBackend backend)
    (hdriver : ∀ c ∈ driver.toList, Text.isWord c = true ∨ c = '+') (rest : String) :
    IgnoresDriver ds backend driver rest := by
  have hname := hbackend.isName
  have hlong : IsName (backend ++ "+" ++ driver) :=
    hbackend.isName_driver fun c hc => by simpa [isNameChar] using hdriver c hc
  have hshort : ds.ofUrl? (.text (located backend rest))
      = (checkPort ⟨backend.toList, portIn? rest⟩ >>= fun _ => ds.resolve? (.text backend)) := by
    rw [ds.ofUrl?_located hname, hbackend.backend_eq]
  refine ⟨?_, ?_, fun dialect hfound => ?_, fun hport => ?_⟩
  · rw [hshort, ds.ofUrl?_located hlong, hbackend.backend_driver_eq]
    -- the name has no part in the check
    rfl
  · obtain ⟨k, hport, hread⟩ := exists_read?_located rest
    obtain ⟨m, hm, hmrest, hmname, hmparts⟩ := hread _ hlong
    obtain ⟨n, hn, hnrest, hnname, hnparts⟩ := hread _ hname
    refine ⟨m, n, hm, hn, hmrest.trans hnrest.symm, hmname, hnname, ?_, fun part hpart => ?_⟩
    · rw [hnparts .port (by decide), hport]
    · rw [hmparts part hpart, hnparts part hpart]
  · rw [hshort] at hfound
    cases hcheck : checkPort ⟨backend.toList, portIn? rest⟩ with
    | error failure =>
      rw [hcheck] at hfound
      cases hfound
    | ok _ =>
      rw [hcheck] at hfound
      exact hfound
  · rw [hshort, checkPort_eq_ok hport]
    rfl

/-- A driver with a plus sign of its own, in front of a user, an address and a port. -/
theorem ignoresDriver_native :
    IsBackend "clickhouse" ∧ HasGoodPort "user:pw@[::1]:9000/db?secure=1"
      ∧ IgnoresDriver standard "clickhouse" "native+x" "user:pw@[::1]:9000/db?secure=1"
      ∧ standard.ofUrl? (.text (located "clickhouse" "user:pw@[::1]:9000/db?secure=1"))
        = .ok { name := "clickhouse" } := by
  have hport : HasGoodPort "user:pw@[::1]:9000/db?secure=1" :=
    .inr ⟨['9', '0', '0', '0'], 9000, by decide +kernel, by decide +kernel⟩
  have hdriver : ∀ c ∈ "native+x".toList, Text.isWord c = true ∨ c = '+' := by
    have hall : ("native+x".toList.all fun c => Text.isWord c || c == '+') = true := by decide
    simpa only [List.all_eq_true, Bool.or_eq_true, beq_iff_eq] using hall
  have hsame := ignoresDriver standard isBackend_clickhouse hdriver "user:pw@[::1]:9000/db?secure=1"
  refine ⟨isBackend_clickhouse, hport, hsame, ?_⟩
  rw [hsame.resolved hport]
  rfl

/-- Nothing in the place of the port is no number, so the backend is not looked for. -/
theorem ofUrl?_emptyPort :
    portIn? "localhost:/db" = some []
      ∧ standard.resolve? (.text "clickhouse") = .ok { name := "clickhouse" }
      ∧ standard.ofUrl? (.text (located "clickhouse" "localhost:/db"))
        = .error (.badPort "''") := by
  have hport : portIn? "localhost:/db" = some [] := by decide +kernel
  refine ⟨hport, rfl, ?_⟩
  rw [standard.ofUrl?_located isBackend_clickhouse.isName, hport]
  rfl

end Dialects

end SqlText
