import SqlText.Proofs.Literal.Tree

/-!
Literals can be read back. The reader of `SqlText.Proofs.Literal.Grammar` takes the literal of a
plain value off the front of a text and returns the tree of the value; hence two values with one
literal have one tree, and are of one kind.
-/

namespace SqlText.Renderers

/-- **The literal of a plain value reads back as its tree.** With no renderer registered, a plain
value whose datetimes all have a UTC has a literal. Reading takes exactly this literal off the front
of any text where the rest does not go on as a word would, and returns the nesting, the order and
the texts of the value. The word of a number is the text of the number. So a plain value with the
same literal has the same tree: it is null, a truth value, a number, a text or an array like the
first, and an array of as many items. -/
theorem read?_format? {v : Value} (h : v.IsPlain fun t => t.toUtc?.isSome) :
    ∃ tree text, v.tree? = some tree ∧ ({} : Renderers).format? v = .ok text
      ∧ (∀ rest, Literal.Stops rest → Literal.read? (text.toList ++ rest) = some (tree, rest))
      ∧ (v.kind? = some .number → v.display? = .ok text)
      ∧ ∀ w : Value, w.IsPlain (fun t => t.toUtc?.isSome) →
          ({} : Renderers).format? w = .ok text → w.tree? = some tree ∧ w.kind? = v.kind? := by
  obtain ⟨tree, htree⟩ := Option.isSome_iff_exists.mp (Value.isSome_tree? h)
  have hformat : ({} : Renderers).format? v = .ok (String.ofList tree.chars) := by
    rw [format?_eq h, htree]
  refine ⟨tree, String.ofList tree.chars, htree, hformat, fun rest hrest => ?_,
    fun hnumber => Value.display?_of_number h hnumber htree, fun w hw hsame => ?_⟩
  · rw [String.toList_ofList]
    exact Literal.read?_chars tree hrest
  · -- two trees with one text are one tree
    obtain ⟨other, hother, hchars⟩ := exists_tree?_of_format?_eq_ok hw hsame
    rw [String.toList_ofList] at hchars
    have heq : tree = other := Literal.chars_injective hchars
    subst heq
    exact ⟨hother, by rw [Value.kind?_eq_of_tree? hw hother, Value.kind?_eq_of_tree? h htree]⟩

/-- An array in an array, a text with an apostrophe and a bracket, and a datetime east of UTC, in
front of more items. -/
theorem read?_format?_nested :
    ∃ text, ({} : Renderers).format? (.list [.null, .tuple [.text "it's]", .int (-7)],
        .datetime ⟨⟨2024, 1, 1⟩, ⟨0, 30, 0, 0⟩, .offset 3600000000⟩]) = .ok text
      ∧ Literal.read? (text.toList ++ ", 1]".toList)
        = some (.array [.word .null,
            .array [.quoted "it's]".toList, .word (.number (Written.isNumber_integer (-7)))],
            .quoted "2023-12-31 23:30:00".toList], ", 1]".toList) := by
  have hplain : Value.IsPlain (fun t => t.toUtc?.isSome) (.list [.null,
      .tuple [.text "it's]", .int (-7)],
      .datetime ⟨⟨2024, 1, 1⟩, ⟨0, 30, 0, 0⟩, .offset 3600000000⟩]) := by
    refine .list _ fun item hitem => ?_
    simp only [List.mem_cons, List.not_mem_nil, or_false] at hitem
    rcases hitem with rfl | rfl | rfl
    · exact .null
    · refine .tuple _ fun inner hinner => ?_
      simp only [List.mem_cons, List.not_mem_nil, or_false] at hinner
      rcases hinner with rfl | rfl
      · exact .text _
      · exact .int _
    · exact .datetime _ (by decide)
  obtain ⟨tree, text, htree, hformat, hread, -, -⟩ := read?_format? hplain
  have hshape : tree = .array [.word .null,
      .array [.quoted "it's]".toList, .word (.number (Written.isNumber_integer (-7)))],
      .quoted "2023-12-31 23:30:00".toList] :=
    Option.some.inj (htree.symm.trans rfl)
  rw [← hshape]
  exact ⟨text, hformat, hread _ (Literal.stops_cons (by decide))⟩

end SqlText.Renderers
