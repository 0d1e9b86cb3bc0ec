import SqlText.Proofs.Pattern
import SqlText.Url

/-!
The grammar of URLs. It is a pattern in which all but the name is optional, so that a text can match
in many ways: an at sign may end the user or stand in a password, a colon may open a password or the
port, and a bracket may close a host or belong to it. `Url.parse?` does not try them. It finds the
parts of the way that counts in one pass over each part of the text (`parse?_eq_read?`).

* `head?_ends_user`: where the user ends;
* `head?_ends_host`: where the host ends;
* `exists_read?_afterSlashes`: what is in the place of the port.
-/

namespace SqlText

namespace Url

open Pattern

/-! ## The grammar -/

/-- The parts of a URL that have a name. -/
inductive Part
  | name
  | username
  | password
  | bracketedHost
  | host
  | port
  | database
  | query
  deriving DecidableEq

/-- A user, with a password or without, and an at sign. -/
def userPattern : Pattern Part :=
  .opt (.seq (.part .username (.many isUserChar))
    (.seq (.opt (.seq (.mark ':') (.part .password (.many (· != '@'))))) (.mark '@')))

/-- A host in brackets, or one that ends before a colon. -/
def hostPattern : Pattern Part :=
  .opt (.alt
    (.seq (.mark '[') (.seq (.part .bracketedHost (.atLeastOne isAuthorityChar)) (.mark ']')))
    (.part .host (.atLeastOne fun c => isAuthorityChar c && c != ':')))

def portPattern : Pattern Part := .opt (.seq (.mark ':') (.part .port (.many isAuthorityChar)))

/-- The path and the query. -/
def targetPattern : Pattern Part :=
  .seq (.opt (.seq (.mark '/') (.part .database (.many (· != '?')))))
    (.opt (.seq (.mark '?') (.part .query (.many (· != '\n')))))

/-- All that comes after the two slashes. -/
def afterSlashes : Pattern Part :=
  .seq userPattern (.seq (.opt (.seq hostPattern portPattern)) targetPattern)

def afterName : Pattern Part :=
  .seq (.mark ':') (.seq (.mark '/') (.seq (.mark '/') afterSlashes))

def pattern : Pattern Part := .seq (.part .name (.atLeastOne isNameChar)) afterName

/-! ## Looking for a mark -/

/-- After a run that could take the mark, the mark is looked for from the end of the run. -/
theorem head?_ends_many_mark {p : Char → Bool} {c : Char} (hc : p c = true) (cs : List Char) :
    ((seq (many p) (mark c) : Pattern Part).ends cs).head?
      = (afterLast? c (cs.takeWhile p)).map (· ++ cs.dropWhile p) := by
  rw [ends_seq, ends_many, List.flatMap_map]
  induction cs with
  | nil => rfl
  | cons d cs ih =>
    by_cases hd : p d
    · simp only [runs, if_pos hd, List.flatMap_append, List.flatMap_map, List.flatMap_cons,
        List.flatMap_nil, List.append_nil, List.head?_append, List.takeWhile_cons_of_pos hd,
        List.dropWhile_cons_of_pos hd, afterLast?, ends_mark_cons]
      rw [ih, Option.map_or]
      by_cases h : d = c
      · simp [h, List.takeWhile_append_dropWhile]
      · simp [h]
    · -- the run is empty, and what follows it is not the mark
      have hne : d ≠ c := by
        rintro rfl
        exact hd hc
      simp [runs, hd, ends_mark_cons, hne, afterLast?]

theorem head?_ends_mark_dropWhile (c : Char) (cs : List Char) :
    ((mark c : Pattern Part).ends (cs.dropWhile (· != c))).head? = afterFirst? c cs := by
  induction cs with
  | nil => rfl
  | cons d cs ih =>
    by_cases h : d = c
    · rw [List.dropWhile_cons_of_neg (by simp [h]), ends_mark_cons, if_pos h, afterFirst?, if_pos h]
      rfl
    · rw [List.dropWhile_cons_of_pos (by simp [h]), afterFirst?, if_neg h]
      exact ih

/-- A run that cannot take the mark ends at the first one. -/
theorem head?_ends_until_mark (c : Char) (cs : List Char) :
    ((seq (many (· != c)) (mark c) : Pattern Part).ends cs).head? = afterFirst? c cs := by
  have hcomplete : ∀ (taken : List Char) d rest, (d != c) = true →
      (mark c : Pattern Part).ends (d :: rest) = [] := by
    intro _ d rest hd
    rw [ends_mark_cons, if_neg (by simpa using hd)]
  rw [ends_seq, ends_many, List.flatMap_map,
    flatMap_runs (f := fun r => (mark c : Pattern Part).ends r.2) hcomplete]
  exact head?_ends_mark_dropWhile c cs

/-! ## The user -/

/-- The password and the at sign after it. -/
def passwordEnds (cs : List Char) : List (List Char) :=
  ((.seq (.mark ':') (.part .password (.many (· != '@'))) : Pattern Part).ends cs).flatMap
    (mark '@' : Pattern Part).ends

theorem passwordEnds_eq_nil {cs : List Char} (h : ∀ rest, cs ≠ ':' :: rest) :
    passwordEnds cs = [] := by
  unfold passwordEnds
  rw [ends_seq]
  cases cs with
  | nil => rfl
  | cons c cs =>
    have hne : c ≠ ':' := by
      rintro rfl
      exact h cs rfl
    rw [ends_mark_cons, if_neg hne]
    rfl

theorem head?_passwordEnds_cons (cs : List Char) :
    (passwordEnds (':' :: cs)).head? = afterFirst? '@' cs := by
  unfold passwordEnds
  rw [ends_seq, ends_mark_cons, if_pos rfl, List.flatMap_singleton, ends_part, ← ends_seq,
    head?_ends_until_mark]

/-- Only a complete user can be followed by a password. -/
theorem ends_userPattern (cs : List Char) :
    userPattern.ends cs
      = passwordEnds (cs.dropWhile isUserChar)
        ++ (seq (many isUserChar) (mark '@') : Pattern Part).ends cs ++ [cs] := by
  have hcomplete : ∀ (taken : List Char) c rest, isUserChar c = true →
      passwordEnds (c :: rest) = [] := by
    intro _ c rest hc
    refine passwordEnds_eq_nil fun _ heq => ?_
    cases heq
    exact absurd hc (by decide)
  have hruns := flatMap_runs_append (f := fun r => passwordEnds r.2) hcomplete
    (fun r => (mark '@' : Pattern Part).ends r.2) cs
  unfold userPattern
  rw [ends_opt, ends_seq, ends_part, ends_many, List.flatMap_map, ends_seq, ends_many,
    List.flatMap_map, ← hruns]
  congr 2
  funext r
  rw [ends_seq, ends_opt, List.flatMap_append, List.flatMap_singleton]
  rfl

/-- **Where the user ends.** -/
theorem head?_ends_user (cs : List Char) :
    (userPattern.ends cs).head? = some (afterUser cs) := by
  unfold afterUser
  rw [ends_userPattern, List.head?_append, List.head?_append, List.head?_cons, Option.or_some,
    head?_ends_many_mark (by decide)]
  simp only
  split
  · next rest htail => rw [htail, head?_passwordEnds_cons]
  · next htail =>
    rw [passwordEnds_eq_nil htail]
    rfl

/-! ## The host and the port -/

/-- A host in brackets is followed by what comes after the last closing bracket. -/
theorem head?_ends_bracketedHost (cs : List Char) :
    ((.seq (.mark '[') (.seq (.part .bracketedHost (.atLeastOne isAuthorityChar)) (.mark ']')) :
      Pattern Part).ends cs).head? = afterBrackets? cs := by
  cases cs with
  | nil => rfl
  | cons d rest =>
    rw [ends_seq, ends_mark_cons]
    by_cases hd : d = '['
    · subst hd
      rw [if_pos rfl, List.flatMap_singleton, ends_seq, ends_part]
      cases rest with
      | nil => rfl
      | cons c rest =>
        rw [ends_atLeastOne_cons, afterBrackets?]
        split
        · rw [← ends_seq, head?_ends_many_mark (by decide)]
        · rfl
    · rw [if_neg hd, afterBrackets?]
      · rfl
      · rintro c cs h
        exact hd (List.cons.inj h).1

/-- **Where the host ends.** -/
theorem head?_ends_host (cs : List Char) :
    (hostPattern.ends cs).head? = some (afterHost cs) := by
  unfold hostPattern afterHost
  rw [ends_opt, ends_alt, List.head?_append, List.head?_append, head?_ends_bracketedHost, ends_part,
    ← head?_ends_atLeastOne]
  cases afterBrackets? cs with
  | some rest => rfl
  | none =>
    rw [Option.none_or, List.head?_cons, Option.getD_none, Option.or_some]

/-- What is in the place of the port. -/
theorem exists_read?_port (cs : List Char) :
    ∃ m, portPattern.read? cs = some m ∧ m.part? .port = portOf? cs := by
  unfold portPattern
  rw [read?_opt]
  refine ⟨_, rfl, ?_⟩
  cases cs with
  | nil => rfl
  | cons c rest =>
    by_cases hc : c = ':'
    · subst hc
      rw [read?_mark_seq_cons, read?_part, read?_many]
      rfl
    · rw [read?_mark_seq_of_ne hc, portOf?]
      · rfl
      · rintro cs h
        exact hc (List.cons.inj h).1

/-! ## All of it -/

theorem isTotal_portPattern : portPattern.IsTotal :=
  isTotal_opt _

theorem isTotal_targetPattern : targetPattern.IsTotal :=
  (isTotal_opt _).seq (isTotal_opt _)

/-- **What is in the place of the port**, after a user and a host that are found in one pass. -/
theorem exists_read?_afterSlashes (cs : List Char) :
    ∃ m, afterSlashes.read? cs = some m ∧ m.part? .name = none
      ∧ m.part? .port = portOf? (afterHost (afterUser cs)) := by
  obtain ⟨user, huser, hafterUser⟩ := exists_read?_of_head?_ends (head?_ends_user cs)
  obtain ⟨host, hhost, hafterHost⟩ := exists_read?_of_head?_ends (head?_ends_host (afterUser cs))
  obtain ⟨port, hport, hport?⟩ := exists_read?_port (afterHost (afterUser cs))
  obtain ⟨target, htarget⟩ := Option.isSome_iff_exists.mp (isTotal_targetPattern port.rest)
  have hauthority : (Pattern.opt (.seq hostPattern portPattern)).read? (afterUser cs)
      = some (host.andThen port) := by
    rw [read?_opt, read?_seq_of_isTotal isTotal_portPattern, hhost, Option.bind_some, hafterHost,
      hport]
    rfl
  have hread : afterSlashes.read? cs
      = some (user.andThen ((host.andThen port).andThen target)) := by
    unfold afterSlashes
    rw [read?_seq_of_isTotal ((isTotal_opt _).seq isTotal_targetPattern), huser, Option.bind_some,
      hafterUser, read?_seq_of_isTotal isTotal_targetPattern, hauthority, Option.bind_some,
      Reading.rest_andThen, htarget]
    rfl
  refine ⟨_, hread, part?_of_read? hread (by decide), ?_⟩
  -- no other part has the name of the port
  have huser? : user.part? .port = none := part?_of_read? huser (by decide)
  have hhost? : host.part? .port = none := part?_of_read? hhost (by decide)
  have htarget? : target.part? .port = none := part?_of_read? htarget (by decide)
  simp only [Reading.part?_andThen, huser?, hhost?, hport?, htarget?, Option.none_or,
    Option.or_none]

theorem exists_read?_afterName_cons (rest : List Char) :
    ∃ m, afterName.read? (':' :: '/' :: '/' :: rest) = some m ∧ m.part? .name = none
      ∧ m.part? .port = portOf? (afterHost (afterUser rest)) := by
  obtain ⟨m, hm, hname, hport⟩ := exists_read?_afterSlashes rest
  unfold afterName
  rw [read?_mark_seq_cons, read?_mark_seq_cons, read?_mark_seq_cons, hm]
  exact ⟨_, rfl, hname, hport⟩

theorem read?_afterName_eq_none {cs : List Char} (h : ∀ rest, cs ≠ ':' :: '/' :: '/' :: rest) :
    afterName.read? cs = none := by
  rw [Option.eq_none_iff_forall_not_mem]
  intro m hm
  obtain ⟨cs, k, rfl, hk⟩ := eq_cons_of_read?_mark_seq hm
  obtain ⟨cs, l, rfl, hl⟩ := eq_cons_of_read?_mark_seq hk
  obtain ⟨cs, n, rfl, -⟩ := eq_cons_of_read?_mark_seq hl
  exact h cs rfl

/-- Only a complete name can be followed by what comes after it. -/
theorem readings_afterName_of_isNameChar {c : Char} (hc : isNameChar c = true) (rest : List Char) :
    afterName.readings (c :: rest) = [] := by
  refine readings_mark_seq_of_ne ?_ _ rest
  rintro rfl
  exact absurd hc (by decide)

/-- What is kept of a URL. -/
def ofReading (m : Reading Part) : Url := ⟨(m.part? .name).getD [], m.part? .port⟩

/-- **A URL is read in the way that counts.** -/
theorem parse?_eq_read? (s : String) : parse? s = (pattern.read? s.toList).map ofReading := by
  unfold parse? pattern
  rw [read?_seq_part_atLeastOne fun _ rest hc => readings_afterName_of_isNameChar hc rest]
  split
  · next rest hrest =>
    obtain ⟨m, hm, hname, hport⟩ := exists_read?_afterName_cons rest
    rw [hrest, hm]
    by_cases hempty : s.toList.takeWhile isNameChar = []
    · rw [if_pos hempty, hempty]
      rfl
    · rw [if_neg hempty, if_neg (by simpa using hempty), Option.map_some, Option.map_some,
        ofReading, Reading.part?_andThen, Reading.part?_andThen, ← hport]
      rfl
  · next h =>
    rw [read?_afterName_eq_none h]
    split <;> rfl

end Url

end SqlText
