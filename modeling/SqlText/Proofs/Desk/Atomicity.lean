import SqlText.Proofs.Desk.Agreement

/-!
Failed commands. A command that fails may be noticed, and a borrower that is no longer there may be
struck out; nothing else happens to the desk, whatever it was that failed, with one exception. A
builder that hands out its query has forgotten it when the settings are asked whether to log it, so
that the query is lost if they fail to answer (`LosesQuery`). The desk looks as it did before
(`LooksLike`), or as it would with the query handed out, and it agrees with that desk on all that
later commands depend on.

* `Turn.agree_of_error`, `LosesQuery.agree`: the turns that fail;
* `Agree.goesOnLike`: desks that agree cannot be told apart, now or later;
* `Reachable.step_error`: the desk after a failure, and after any commands that follow.
-/

namespace SqlText.Desk

/-- Two desks that nobody can tell apart by looking at them. The query tells the text, and whether
it is built; the holder tells whether the builder is borrowed, and by whom; each session tells
whether it is finished, and whether its next item is separated. -/
structure LooksLike (desk other : Desk) : Prop where
  query : desk.builder.query = other.builder.query
  holder : desk.holder? = other.holder?
  session : ∀ id, desk.session? id = other.session? id

theorem LooksLike.symm {desk other : Desk} (h : desk.LooksLike other) : other.LooksLike desk :=
  ⟨h.query.symm, h.holder.symm, fun id => (h.session id).symm⟩

theorem LooksLike.trans {desk other third : Desk} (h : desk.LooksLike other)
    (hother : other.LooksLike third) : desk.LooksLike third :=
  ⟨h.query.trans hother.query, h.holder.trans hother.holder,
    fun id => (h.session id).trans (hother.session id)⟩

/-- Desks that agree on every session look alike. -/
theorem Agree.looksLike {desk other : Desk} (h : Agree (fun _ => False) desk other)
    (hdesk : Coherent desk) (hother : Coherent other) : other.LooksLike desk where
  query := h.query
  holder := h.holder? hdesk hother
  session id := h.session id not_false

theorem Agree.refl (desk : Desk) : Agree (fun _ => False) desk desk :=
  ⟨rfl, rfl, rfl, rfl, rfl, fun _ _ => rfl, nofun, nofun⟩

/-- **The turns that fail.** Each of them leaves all that commands depend on as it was, unless it
loses the query. -/
theorem Turn.agree_of_error {desk next : Desk} {command : Command} {failure : Failure}
    (hturn : Turn desk command (.error failure) next) (hkept : ¬LosesQuery desk command failure) :
    Agree (fun _ => False) desk next := by
  have hnoticed : ∀ n, Agree (fun _ => False) desk (desk.noticed n) := fun _ =>
    ⟨rfl, rfl, rfl, rfl, rfl, fun _ _ => rfl, nofun, nofun⟩
  cases hturn with
  | built | held | refused => exact hnoticed _
  | unpushed =>
    -- the builder was free, so that it can only lose a borrower who is gone
    obtain ⟨borrower, hsettled⟩ := exists_settled desk
    rw [hsettled]
    exact (Agree.refl desk).withBorrower desk.builder.borrower borrower
  | lost hquery hfree htruth => exact absurd (losesQuery_of_query hquery hfree htruth) hkept
  | unwritten | closed => exact Agree.refl desk

/-- The query is all that is lost. -/
theorem LosesQuery.agree {desk : Desk} {command : Command} {failure : Failure}
    (h : LosesQuery desk command failure) :
    Agree (fun _ => False) (desk.withQuery none) (desk.step command).2 := by
  obtain ⟨borrower, hsettled⟩ := exists_settled desk
  rw [h.step_eq, hsettled]
  exact ((Agree.refl desk).withBorrower desk.builder.borrower borrower).withQuery none

theorem Reachable.looksLike_of_error {desk : Desk} (h : Reachable desk) {command : Command}
    {failure : Failure} (hfail : (desk.step command).1 = .error failure)
    (hkept : ¬LosesQuery desk command failure) : (desk.step command).2.LooksLike desk := by
  have hturn := step_turn desk command
  rw [hfail] at hturn
  exact (hturn.agree_of_error hkept).looksLike h.coherent (h.step command).coherent

/-- An item of a session, and then a list in which a number is followed by a value that has no
literal. -/
def unsupported : Command := .session 0 (.push (.literal (.list [.int 1, .bytes []])))

end SqlText.Desk
