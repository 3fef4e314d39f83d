import Mathlib.Algebra.Field.Rat
import Mathlib.Tactic.NormNum
import NamedCells.Binary64.Shown
import NamedCells.Proofs.Messages
import NamedCells.Proofs.NearestDouble
import NamedCells.Proofs.Outcomes
import NamedCells.Session

/-!
# Giving a shown number back

A number is shown rounded to hundredths, and reading what is shown rounds once more, to a double.
An integer comes back as it was.  So does a number of at least 2⁴⁶: half a hundredth is less there
than half a step between doubles, and the only doubles below which the steps are smaller are the
powers of two, which are integers.  Below 2⁴⁶ it is the other way round: the double that is read is
less than half a hundredth away from the decimal, so that it is shown as the same decimal, be it
without the places when the double is an integer.

## Main definitions

* `Binary64.shownDecimal` — the decimal that a number is shown as.
* `Binary64.rational?` — the number that a numeral denotes.
* `Binary64.reread` — the double that is read from what is shown.

## Main results

* `Binary64.ofChars?_shown` — what is shown is read back as a decimal.
* `Binary64.reread_of_isInteger`, `Binary64.reread_of_large` — integers and large numbers come back.
* `Binary64.shownDecimal_reread` — the other numbers come back as what they were shown as.
* `shown_reads_back` — **what is shown may be given back.**
-/

namespace NamedCells

namespace Binary64

/-! ### The decimal that is shown -/

/-- The hundredths nearest to the magnitude of a finite double. -/
def hundredths (x : Binary64) : Nat := roundHalfEven (x.units * Nat.pow 10 shownPlaces) unitsPerOne

theorem hundredths_eq (x : Binary64) :
    x.hundredths = roundHalfEven (x.units * 100) unitsPerOne := rfl

/-- The decimal that a finite double is shown as, but for its sign: digits and exponent. -/
def shownDecimal (x : Binary64) : Nat × Int :=
  if x.isInteger ∧ x.units < shownIntegerBound * unitsPerOne then (x.units / unitsPerOne, 0)
  else (x.hundredths, -2)

/-- Hundredths are written with two places. -/
theorem positional_neg_two (n : Nat) : positional n (-2) = pointed n shownPlaces := rfl

theorem shownMagnitude_eq_positional (x : Binary64) :
    x.shownMagnitude = positional x.shownDecimal.1 x.shownDecimal.2 := by
  unfold shownMagnitude shownDecimal
  split
  · exact (List.append_nil _).symm
  · dsimp only
    rw [positional_neg_two, hundredths]

variable {x : Binary64}

/-- A finite double is shown as a decimal with a sign. -/
theorem toList_shown (finite : x.isFinite = true) :
    x.shown.toList =
      if x.isNegative then '-' :: positional x.shownDecimal.1 x.shownDecimal.2
      else positional x.shownDecimal.1 x.shownDecimal.2 := by
  have exponent : x.exponent ≠ 2047 := of_decide_eq_true finite
  have number : ¬ x.isNaN = true := by simp [isNaN, exponent]
  have bounded : ¬ x.isInfinite = true := by simp [isInfinite, exponent]
  unfold shown
  rw [if_neg number, if_neg bounded, String.toList_ofList, shownMagnitude_eq_positional]

/-- The other doubles are shown as words. -/
theorem isFinite_or_shown_mem (x : Binary64) :
    x.isFinite = true ∨ x.shown ∈ ["#NAN!", "#INF!", "-#INF!"] := by
  unfold shown
  by_cases nan : x.isNaN = true
  · rw [if_pos nan]
    exact .inr (by decide)
  by_cases infinite : x.isInfinite = true
  · rw [if_neg nan, if_pos infinite]
    refine .inr ?_
    cases x.isNegative <;> decide
  · refine .inl ?_
    simp only [isNaN, isInfinite, isFinite, decide_eq_true_eq] at *
    omega

/-- A number that is shown brings no control character along. -/
theorem plain_shown (x : Binary64) : Text.Plain x.shown.toList := by
  rcases x.isFinite_or_shown_mem with finite | word
  · have sign : Text.Plain ['-'] := by decide
    rw [toList_shown finite]
    split
    · exact Text.plain_append.mpr ⟨sign, plain_positional _ _⟩
    · exact plain_positional _ _
  · have words : ∀ s ∈ ["#NAN!", "#INF!", "-#INF!"], Text.Plain s.toList := by decide
    exact words _ word

/-- A number that is shown does not look like a refusal. -/
theorem not_refusal_shown (x : Binary64) : ¬ "#ERR ".toList <+: x.shown.toList := by
  rcases x.isFinite_or_shown_mem with finite | word
  · obtain ⟨c, cs, written, digit⟩ := exists_positional_eq_cons x.shownDecimal.1 x.shownDecimal.2
    have other : '#' ≠ c := (Text.ne_of_apply digit (by decide)).symm
    rw [toList_shown finite, written]
    split
    · exact fun refusal => absurd (List.cons_prefix_cons.mp refusal).1 (by decide)
    · exact fun refusal => other (List.cons_prefix_cons.mp refusal).1
  · have words : ∀ s ∈ ["#NAN!", "#INF!", "-#INF!"], ¬ "#ERR ".toList <+: s.toList := by decide
    exact words _ word

/-- The reader takes the sign that is shown. -/
theorem takeSign_shown (finite : x.isFinite = true) :
    takeSign x.shown.toList = (x.isNegative, positional x.shownDecimal.1 x.shownDecimal.2) := by
  obtain ⟨c, cs, written, digit⟩ := exists_positional_eq_cons x.shownDecimal.1 x.shownDecimal.2
  have minus : c ≠ '-' := Text.ne_of_apply digit (by decide)
  have plus : c ≠ '+' := Text.ne_of_apply digit (by decide)
  rw [toList_shown finite, written]
  cases x.isNegative with
  | true => rfl
  | false => exact takeSign_of_head minus plus cs

/-- The reader finds the decimal that is shown. -/
theorem decimal?_shownDecimal (x : Binary64) :
    decimal? (positional x.shownDecimal.1 x.shownDecimal.2) = some x.shownDecimal := by
  have integer (n : Nat) : decimal? (positional n 0) = some (n, 0) := by
    rw [decimal?_positional]
    exact congrArg (fun m => some (m, (0 : Int))) (Nat.mul_one n)
  have pointed (n : Nat) : decimal? (positional n (-2)) = some (n, -2) := decimal?_positional n (-2)
  unfold shownDecimal
  split <;> dsimp only
  · rw [integer]
  · rw [pointed]

/-- The double that is read from what is shown of a finite double. -/
def reread (x : Binary64) : Binary64 :=
  ofDecimal x.isNegative x.shownDecimal.1 x.shownDecimal.2

/-- **What is shown is read back as a decimal.** -/
theorem ofChars?_shown (finite : x.isFinite = true) :
    ofChars? x.shown.toList = some x.reread := by
  simp only [ofChars?, takeSign_shown finite, decimal?_shownDecimal]
  rfl

/-! ### The double that is read -/

/-- A decimal is rounded, unless its exponent is far away. -/
theorem ofDecimal_eq_ofScaled {negative : Bool} {n : Nat} {e : Int} (few : e ≤ 310)
    (many : -330 ≤ e) : ofDecimal negative n e = ofScaled negative n e := by
  unfold ofDecimal
  by_cases none : n = 0
  · have nothing (d : Nat) : nearest negative 0 d = zero negative := by
      simp [nearest, magnitudeBitsOfUnits, roundHalfEven, zero]
    rw [if_pos none, none]
    cases e with
    | ofNat k => rw [ofScaled, Nat.zero_mul, nothing]
    | negSucc k => rw [ofScaled, nothing]
  · rw [if_neg none, if_neg (by omega), if_neg (by omega)]

/-- The number one is a power of two.  Its exponent has a name, so that nothing multiplies the power
out. -/
theorem exists_unitsPerOne_eq : ∃ p, p = 1074 ∧ unitsPerOne = 2 ^ p := by
  obtain ⟨p, places⟩ : ∃ p, p = 1074 := ⟨_, rfl⟩
  refine ⟨p, places, ?_⟩
  unfold unitsPerOne
  rw [← places]
  exact Nat.pow_eq

theorem unitsPerOne_pos : 0 < unitsPerOne := by
  obtain ⟨p, -, power⟩ := exists_unitsPerOne_eq
  rw [power]
  exact Nat.two_pow_pos p

/-- An integer is a multiple of the units of the number one. -/
theorem units_of_isInteger (whole : x.isInteger = true) :
    x.units = x.units / unitsPerOne * unitsPerOne := by
  have remainder : x.units % unitsPerOne = 0 := by
    simpa [isInteger] using (Bool.and_eq_true_iff.mp whole).2
  exact (Nat.div_mul_cancel (Nat.dvd_of_mod_eq_zero remainder)).symm

/-- The hundredths of an integer are not rounded. -/
theorem hundredths_of_isInteger (whole : x.isInteger = true) :
    x.hundredths = x.units / unitsPerOne * 100 := by
  have regroup : x.units * 100 = x.units / unitsPerOne * 100 * unitsPerOne := by
    rw [Nat.mul_right_comm, ← units_of_isInteger whole]
  rw [hundredths_eq, regroup, roundHalfEven_mul_right _ unitsPerOne_pos]

/-- The double that is read is the one nearest to the integer that is shown, or the one nearest to
the hundredths. -/
theorem reread_eq (x : Binary64) :
    x.reread =
      if x.isInteger ∧ x.units < shownIntegerBound * unitsPerOne then
        nearest x.isNegative (x.units / unitsPerOne) 1
      else nearest x.isNegative x.hundredths 100 := by
  have integer (n : Nat) : ofDecimal x.isNegative n 0 = nearest x.isNegative n 1 := by
    rw [ofDecimal_eq_ofScaled (by decide) (by decide)]
    exact congrArg (nearest x.isNegative · 1) (Nat.mul_one n)
  have pointed (n : Nat) : ofDecimal x.isNegative n (-2) = nearest x.isNegative n 100 :=
    ofDecimal_eq_ofScaled (by decide) (by decide)
  unfold reread shownDecimal
  split <;> dsimp only
  · rw [integer]
  · rw [pointed]

/-- **An integer comes back.** -/
theorem reread_of_isInteger (whole : x.isInteger = true) : x.reread = x := by
  have finite : x.isFinite = true := (Bool.and_eq_true_iff.mp whole).1
  have multiple := units_of_isInteger whole
  rw [reread_eq]
  split
  · refine nearest_of_units finite Nat.one_pos ?_
    rw [Nat.mul_one]
    exact multiple.symm
  · rw [hundredths_of_isInteger whole]
    refine nearest_of_units finite (by decide) ?_
    rw [Nat.mul_right_comm, ← multiple]

/-- A number that is no integer is shown by its hundredths. -/
theorem reread_of_not_isInteger (fractional : ¬ x.isInteger = true) :
    x.reread = nearest x.isNegative x.hundredths 100 := by
  rw [reread_eq, if_neg (fun small => fractional small.1)]

/-- The hundredths are within half of one. -/
theorem hundredths_bounds (x : Binary64) :
    2 * (x.units * 100) ≤ 2 * (x.hundredths * unitsPerOne) + unitsPerOne ∧
      2 * (x.hundredths * unitsPerOne) ≤ 2 * (x.units * 100) + unitsPerOne := by
  have down := two_mul_le_roundHalfEven_add (x.units * 100) unitsPerOne_pos
  have up := two_mul_mul_roundHalfEven_le (x.units * 100) unitsPerOne
  rw [Nat.mul_comm x.hundredths, hundredths_eq]
  exact ⟨down, up⟩

/-- A double of at least 2⁴⁶ that is no integer has fifty-three bits, and is no power of two. -/
theorem exists_units_eq (finite : x.isFinite = true) (fractional : ¬ x.isInteger = true)
    (large : 2 ^ 46 * unitsPerOne ≤ x.units) :
    ∃ m e, x.units = m * 2 ^ e ∧ 2 ^ 52 < m ∧ m < 2 ^ 53 ∧ 1068 ≤ e := by
  obtain ⟨p, places, power⟩ := exists_unitsPerOne_eq
  have least : 2 ^ (46 + p) ≤ x.units := by
    rwa [power, ← Nat.pow_add] at large
  have nonzero : x.units ≠ 0 := Nat.ne_of_gt (Nat.lt_of_lt_of_le (Nat.two_pow_pos _) least)
  have bits : 46 + p ≤ Nat.log2 x.units := (Nat.le_log2 nonzero).mpr least
  obtain ⟨m, units, -⟩ := x.units_eq
  obtain ⟨e, dropped⟩ : ∃ e, Nat.log2 x.units = 52 + e := Nat.exists_eq_add_of_le (by omega)
  rw [dropped, Nat.add_sub_cancel_left, Nat.pow_eq] at units
  have step : 0 < 2 ^ e := Nat.two_pow_pos e
  obtain ⟨low, high⟩ := (Nat.log2_eq_iff nonzero).mp dropped
  rw [units, Nat.pow_add] at low
  rw [units, Nat.add_right_comm, Nat.pow_add] at high
  have atLeast : 2 ^ 52 ≤ m := Nat.le_of_mul_le_mul_right low step
  have atMost : m < 2 ^ 53 := Nat.lt_of_mul_lt_mul_right high
  have noPower : m ≠ 2 ^ 52 := by
    rintro rfl
    refine fractional (Bool.and_eq_true_iff.mpr ⟨finite, ?_⟩)
    have multiple : unitsPerOne ∣ x.units := by
      rw [units, power, ← Nat.pow_add]
      exact Nat.pow_dvd_pow 2 (by omega)
    exact beq_iff_eq.mpr (Nat.mod_eq_zero_of_dvd multiple)
  exact ⟨m, e, units, Nat.lt_of_le_of_ne atLeast noPower.symm, atMost, by omega⟩

/-- **A number of at least 2⁴⁶ comes back.** -/
theorem reread_of_large (finite : x.isFinite = true) (large : 2 ^ 46 * unitsPerOne ≤ x.units) :
    x.reread = x := by
  by_cases whole : x.isInteger = true
  · exact reread_of_isInteger whole
  · obtain ⟨m, e, units, above, below, wide⟩ := exists_units_eq finite whole large
    obtain ⟨p, places, power⟩ := exists_unitsPerOne_eq
    -- half a hundredth is less than half a step
    have narrow : unitsPerOne < 2 ^ e * 100 := by
      calc unitsPerOne
          = 2 ^ p := power
        _ ≤ 2 ^ (e + 6) := Nat.pow_le_pow_right (by decide) (by omega)
        _ = 2 ^ e * 64 := Nat.pow_add 2 e 6
        _ < 2 ^ e * 100 := Nat.mul_lt_mul_of_pos_left (by decide) (Nat.two_pow_pos e)
    obtain ⟨down, up⟩ := x.hundredths_bounds
    rw [reread_of_not_isInteger whole]
    exact nearest_eq_of_near finite units above below (by omega) (by omega)

/-- Below 2⁴⁶ a number that is no integer comes back with its sign and its hundredths. -/
theorem reread_of_small (fractional : ¬ x.isInteger = true)
    (small : x.units < 2 ^ 46 * unitsPerOne) :
    x.reread.isFinite = true ∧ x.reread.isNegative = x.isNegative ∧
      x.reread.hundredths = x.hundredths := by
  obtain ⟨p, places, power⟩ := exists_unitsPerOne_eq
  obtain ⟨e, split⟩ : ∃ e, p = e + 7 := ⟨1067, places⟩
  have unit : unitsPerOne = 2 ^ e * 128 := by rw [power, split, Nat.pow_add]
  have bound : 2 ^ (e + 53) = 2 ^ 46 * unitsPerOne := by
    rw [power, ← Nat.pow_add]
    exact congrArg (2 ^ ·) (by omega)
  have step : 0 < 2 ^ e := Nat.two_pow_pos e
  have room : x.units + 2 ^ e ≤ 2 ^ (e + 53) := units_add_le (bound ▸ small)
  obtain ⟨-, up⟩ := x.hundredths_bounds
  have below : x.hundredths * unitsPerOne < 2 ^ (e + 53) * 100 := by omega
  obtain ⟨finite, sign, low, high⟩ :=
    nearest_error x.isNegative (by decide) (by omega) below
  rw [reread_of_not_isInteger fractional]
  refine ⟨finite, sign, ?_⟩
  -- the step between doubles is less than a hundredth
  rw [hundredths_eq]
  exact roundHalfEven_eq_of_near (by omega) (by omega)

/-- **A finite double comes back with its sign and its hundredths.** -/
theorem reread_spec (finite : x.isFinite = true) :
    x.reread.isFinite = true ∧ x.reread.isNegative = x.isNegative ∧
      x.reread.hundredths = x.hundredths := by
  rcases Nat.lt_or_ge x.units (2 ^ 46 * unitsPerOne) with small | large
  · by_cases whole : x.isInteger = true
    · rw [reread_of_isInteger whole]
      exact ⟨finite, rfl, rfl⟩
    · exact reread_of_small whole small
  · rw [reread_of_large finite large]
    exact ⟨finite, rfl, rfl⟩

/-- **The decimal comes back**, but an integer may lose its places. -/
theorem shownDecimal_reread (finite : x.isFinite = true) :
    x.reread.shownDecimal = x.shownDecimal ∨
      ∃ n, x.shownDecimal = (n * 100, -2) ∧ x.reread.shownDecimal = (n, 0) := by
  obtain ⟨-, -, same⟩ := reread_spec finite
  by_cases whole : x.isInteger = true
  · exact .inl (by rw [reread_of_isInteger whole])
  · have before : x.shownDecimal = (x.hundredths, -2) := if_neg fun shown => whole shown.1
    by_cases after : x.reread.isInteger = true ∧
        x.reread.units < shownIntegerBound * unitsPerOne
    · refine .inr ⟨x.reread.units / unitsPerOne, ?_, if_pos after⟩
      rw [before, ← same, hundredths_of_isInteger after.1]
    · refine .inl ?_
      rw [before, ← same]
      exact if_neg after

/-! ### The number that a numeral denotes -/

/-- The number with a sign and a decimal. -/
def signedDecimal (negative : Bool) (d : Nat × Int) : ℚ :=
  (if negative then -1 else 1) * (d.1 * 10 ^ d.2)

/-- The number that a numeral with a sign denotes. -/
def rational? (cs : List Char) : Option ℚ :=
  (decimal? (takeSign cs).2).map (signedDecimal (takeSign cs).1)

/-- A finite double is shown as a numeral. -/
theorem rational?_shown (finite : x.isFinite = true) :
    rational? x.shown.toList = some (signedDecimal x.isNegative x.shownDecimal) := by
  rw [rational?, takeSign_shown finite, decimal?_shownDecimal, Option.map_some]

/-- The number that is shown does not change. -/
theorem rational?_shown_reread (finite : x.isFinite = true) :
    rational? x.reread.shown.toList = rational? x.shown.toList := by
  obtain ⟨finite', sign, -⟩ := reread_spec finite
  rw [rational?_shown finite, rational?_shown finite', sign]
  rcases shownDecimal_reread finite with same | ⟨n, places, integer⟩
  · rw [same]
  · rw [places, integer]
    have value : ((n * 100 : Nat) : ℚ) * 10 ^ (-2 : Int) = n * 10 ^ (0 : Int) := by
      rw [Nat.cast_mul, mul_assoc]
      congr 1
      norm_num
    simp only [signedDecimal, value]

/-- Hundredths of an integer have two zeros behind the point. -/
theorem positional_mul_hundred (n : Nat) :
    positional (n * 100) (-2) = positional n 0 ++ ".00".toList := by
  have whole : n * 100 / Nat.pow 10 2 = n := Nat.mul_div_cancel n (by decide)
  have rest : n * 100 % Nat.pow 10 2 = 0 := Nat.mul_mod_left n 100
  show pointed (n * 100) 2 = (numeral n ++ []) ++ ".00".toList
  rw [pointed, whole, rest, List.append_nil]
  rfl

/-- The text that is shown does not change either, but an integer may lose its places. -/
theorem shown_reread (finite : x.isFinite = true) :
    x.reread.shown = x.shown ∨ x.shown = x.reread.shown ++ ".00" := by
  obtain ⟨finite', sign, -⟩ := reread_spec finite
  rcases shownDecimal_reread finite with same | ⟨n, places, integer⟩
  · refine .inl (String.toList_inj.mp ?_)
    rw [toList_shown finite, toList_shown finite', sign, same]
  · refine .inr (String.toList_inj.mp ?_)
    rw [String.toList_append, toList_shown finite, toList_shown finite', sign, places, integer]
    dsimp only
    rw [positional_mul_hundred]
    cases x.isNegative <;> rfl

end Binary64

/-! ### Cells -/

/-- A cell that shows a number is given another one, and then shows that. -/
theorem Session.execute_set_of_get {g : Engine} {name : String} {x y : Binary64}
    (held : (g.get name).1 = .ok x) (finite : y.isFinite = true) :
    let got := execute g (.get name)
    let set := execute got.2 (.set name y)
    got.1 = .output x.shown ∧ set.1 = .done ∧ (execute set.2 (.get name)).1 = .output y.shown := by
  intro got set
  have shown : got.1 = .output x.shown := congrArg (Outcome.ofAnswer _) held
  have outcome := g.registry.lookup_outcome name
  simp only [Engine.get, Engine.afterReading] at held
  generalize g.registry.lookup name = result at outcome held
  cases outcome with
  | badName | absent => cases held
  | found good cell taken =>
    have assigned : g.registry.assign name y =
        (.ok cell.value, g.registry.put name (cell.write y .assigned)) :=
      (Registry.AssignOutcome.assigned good (.inr finite) cell taken).eq
    have done : set = (.done, ⟨g.registry.put name (cell.write y .assigned), .clear⟩) := by
      simp only [set, got, execute, Engine.get, Engine.set, Engine.afterReading, assigned]
      rfl
    have found : (g.registry.put name (cell.write y .assigned)).lookup name =
        .ok (cell.write y .assigned) :=
      Registry.lookup_eq_ok good (Registry.get?_put_self _ _ _)
    refine ⟨shown, by rw [done], ?_⟩
    rw [done]
    simp only [execute, Engine.get, Engine.afterReading, found]
    rfl

/-- **What is shown may be given back.**  The text of a finite double is read as a finite double
`y`: the same one, if it is an integer or at least 2⁴⁶ in magnitude, and in any case one that is
shown as the same number, where only the two places of an integer may be missing.  So giving a cell
the text that it showed is never refused and never changes the number that it shows. -/
theorem shown_reads_back {x : Binary64} (finite : x.isFinite = true) :
    ∃ y, Command.number x.shown.toList = .ok y ∧ y.isFinite = true ∧
      (x.isInteger = true ∨ 2 ^ 46 * Binary64.unitsPerOne ≤ x.units → y = x) ∧
      (∃ q, Binary64.rational? x.shown.toList = some q ∧
        Binary64.rational? y.shown.toList = some q) ∧
      (y.shown = x.shown ∨ x.shown = y.shown ++ ".00") ∧
      ∀ (g : Engine) (name : String), (g.get name).1 = .ok x →
        let got := Session.execute g (.get name)
        let set := Session.execute got.2 (.set name y)
        got.1 = .output x.shown ∧
        Command.ofKeyword .set [name.toList, x.shown.toList] = .ok (.set name y) ∧
        set.1 = .done ∧ (Session.execute set.2 (.get name)).1 = .output y.shown := by
  have read : Command.number x.shown.toList = .ok x.reread := by
    rw [Command.number, Binary64.ofChars?_shown finite]
  have finite' : x.reread.isFinite = true := (Binary64.reread_spec finite).1
  refine ⟨x.reread, read, finite', ?_, ?_, Binary64.shown_reread finite, ?_⟩
  · rintro (whole | large)
    · exact Binary64.reread_of_isInteger whole
    · exact Binary64.reread_of_large finite large
  · refine ⟨_, Binary64.rational?_shown finite, ?_⟩
    rw [Binary64.rational?_shown_reread finite, Binary64.rational?_shown finite]
  · intro g name held got set
    obtain ⟨shown, done, shown'⟩ := Session.execute_set_of_get held finite'
    have given : Command.ofKeyword .set [name.toList, x.shown.toList] =
        .ok (.set name x.reread) := by
      rw [Command.ofKeyword, read, Except.map, String.ofList_toList]
    exact ⟨shown, given, done, shown'⟩

/-- The double nearest to 0.999 is shown as `1.00`; given back it is one, which is shown without
places. -/
theorem shown_reads_back_rounded_up :
    let x : Binary64 := ⟨0x3feff7ced916872b⟩
    let g := ((Engine.new {}).run [.create "a" x]).2
    let got := Session.execute g (.get "a")
    let set := Session.execute got.2 (.set "a" (.ofNat 1))
    x.isFinite = true ∧ (g.get "a").1 = .ok x ∧ got.1 = .output "1.00" ∧
      Command.ofKeyword .set ["a".toList, "1.00".toList] = .ok (.set "a" (.ofNat 1)) ∧
      set.1 = .done ∧ (Session.execute set.2 (.get "a")).1 = .output "1" := by
  intro x g got set
  have finite : x.isFinite = true := by decide
  have held : (g.get "a").1 = .ok x := by decide +kernel
  have shown : x.shown = "1.00" := by decide +kernel
  have one : (Binary64.ofNat 1).shown = "1" := by decide +kernel
  have number : Command.number "1.00".toList = .ok (.ofNat 1) := by decide +kernel
  obtain ⟨y, read, -, -, -, -, cells⟩ := shown_reads_back finite
  rw [shown, number] at read
  obtain rfl := Except.ok.inj read
  obtain ⟨gotten, given, done, again⟩ := cells g "a" held
  rw [shown] at gotten given
  rw [one] at again
  exact ⟨finite, held, gotten, given, done, again⟩

end NamedCells
