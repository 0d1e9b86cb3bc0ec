import SqlText.Proofs.Literal.Sequence
import SqlText.Proofs.Number.Decimal

/-!
Exact numbers as literals. Where no renderer has precedence, an integer is written as its canonical
numeral, and a decimal as the text from which its sign, its coefficient and its exponent can be read
again. So a literal is that of one integer, and of one decimal, at most.

* `Renderers.format?_of_core_int`, `Renderers.format?_of_core_decimal`: the literals, whatever types
  the number is derived from;
* `Renderers.writesExactly`: what the literals are and that they read back.
-/

namespace SqlText.Renderers

variable {rs : Renderers} {v : Value}

/-- Where the rule for the built-in type writes one piece, this is the literal. -/
theorem format?_of_put (hrule : rs.renderer? v = none) {piece : String}
    (hput : ∀ run whole, rs.builtIn run whole v.core = Writer.put piece) :
    rs.format? v = .ok piece := by
  have hwrite : rs.write v = Writer.put piece := by
    rw [write, writeWith_of_renderer?_eq_none _ _ hrule, ← builtIn_core, hput]
  rw [format?, hwrite, (Writer.yields_put piece).text_eq_ok, String.join_cons, String.join_nil,
    String.append_empty]

theorem format?_of_core_int (hrule : rs.renderer? v = none) {n : Int} (hv : v.core = .int n) :
    rs.format? v = .ok (String.ofList (Written.integer n)) :=
  format?_of_put hrule fun _ _ => by rw [hv, builtIn]

theorem format?_of_core_decimal (hrule : rs.renderer? v = none) {d : Decimal}
    (hv : v.core = .decimal d) : rs.format? v = .ok d.written :=
  format?_of_put hrule fun _ _ => by rw [hv, builtIn]

/-! ## What the literals say -/

/-- What is written of a value that is the integer `n`. -/
structure WritesInteger (rs : Renderers) (v : Value) (n : Int) : Prop where
  /-- The literal is the canonical numeral of the number, which has no other one. -/
  canonical : ∃ text, rs.format? v = .ok text ∧ ∀ cs, Written.IsInteger n cs ↔ cs = text.toList
  /-- It reads back as the number. -/
  readBack : ∃ text, rs.format? v = .ok text ∧ Numeral.read? text.toList = some n
  /-- Another integer has another literal. -/
  same : ∀ (w : Value) (m : Int), rs.renderer? w = none → w.core = .int m →
    (rs.format? w = rs.format? v ↔ m = n)

/-- What is written of a value that is the decimal `d`. -/
structure WritesDecimal (rs : Renderers) (v : Value) (d : Decimal) : Prop where
  /-- The literal reads back as the decimal: not only as the same number, but with the same sign,
  coefficient and exponent, or as the same infinity or NaN. -/
  readBack : ∃ text, rs.format? v = .ok text ∧ Decimal.read? text.toList = some d
  /-- Another decimal has another literal. -/
  same : ∀ (w : Value) (e : Decimal), rs.renderer? w = none → w.core = .decimal e →
    (rs.format? w = rs.format? v ↔ e = d)

theorem writesInteger (hrule : rs.renderer? v = none) {n : Int} (hv : v.core = .int n) :
    WritesInteger rs v n where
  canonical := by
    refine ⟨_, format?_of_core_int hrule hv, fun cs => ?_⟩
    rw [String.toList_ofList, Written.isInteger_iff]
  readBack := by
    refine ⟨_, format?_of_core_int hrule hv, ?_⟩
    rw [String.toList_ofList, Numeral.read?_integer]
  same w m hwrule hw := by
    rw [format?_of_core_int hrule hv, format?_of_core_int hwrule hw, Except.ok.injEq,
      String.ofList_inj]
    refine ⟨fun h => ?_, fun h => h ▸ rfl⟩
    have hread := Numeral.read?_integer m
    rw [h, Numeral.read?_integer] at hread
    exact (Option.some.inj hread).symm

theorem writesDecimal (hrule : rs.renderer? v = none) {d : Decimal} (hv : v.core = .decimal d) :
    WritesDecimal rs v d where
  readBack := by
    refine ⟨_, format?_of_core_decimal hrule hv, ?_⟩
    rw [Decimal.written, String.toList_ofList, Decimal.read?_chars]
  same w e hwrule hw := by
    rw [format?_of_core_decimal hrule hv, format?_of_core_decimal hwrule hw, Except.ok.injEq,
      Decimal.written, Decimal.written, String.ofList_inj]
    exact ⟨Decimal.chars_injective, fun h => h ▸ rfl⟩

/-- **Exact numbers keep their exact value.** Take a number of whatever type to which no registered
renderer applies and which carries none. -/
theorem writesExactly (hrule : rs.renderer? v = none) :
    (∀ n, v.core = .int n → WritesInteger rs v n)
      ∧ ∀ d, v.core = .decimal d → WritesDecimal rs v d :=
  ⟨fun _ => writesInteger hrule, fun _ => writesDecimal hrule⟩

/-- A price of minus nought with two places keeps the sign and the places, while a renderer is
registered for texts. The hundred and twenty that is owed is written by its digits. -/
theorem writesExactly_negativeZero :
    let rs := ({} : Renderers).register .text [.put "?"]
    let price : Value :=
      .derived (.declared "shop" "Price") none (.decimal (.finite true 0 (-2)))
    rs.renderer? price = none
      ∧ (∃ text, rs.format? price = .ok text
        ∧ Decimal.read? text.toList = some (.finite true 0 (-2)))
      ∧ rs.format? (.decimal (.finite true 0 0)) ≠ rs.format? price
      ∧ ∃ text, rs.format? (.int (-120)) = .ok text ∧ Numeral.read? text.toList = some (-120) := by
  intro rs price
  have hprice : WritesDecimal rs price (.finite true 0 (-2)) := (writesExactly rfl).2 _ rfl
  have howed : WritesInteger rs (.int (-120)) (-120) := (writesExactly rfl).1 _ rfl
  refine ⟨rfl, hprice.readBack, fun heq => ?_, howed.readBack⟩
  have hsame := (hprice.same (.decimal (.finite true 0 0)) _ rfl rfl).mp heq
  cases hsame

end SqlText.Renderers
