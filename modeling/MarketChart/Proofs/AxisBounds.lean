import MarketChart.Picture.Trace
import MarketChart.Proofs.DoubleSums
import MarketChart.Proofs.RangeHulls

/-!
# The bounds of a value axis

An axis has bounds exactly if a trace has a finite value, and all finite values lie between them
(`yBounds_spec`). The margin is a twentieth of their difference but at least `Number.epsilon`, and
both roundings of it go the right way: whatever the margin is, the lower bound is not raised by it
and the upper one not lowered. So two values that differ have bounds that differ.

For one value the margin is epsilon, which says little, since doubles beyond two are further apart
than that. There is a multiple of epsilon on either side of a value up to two
(`Number.rounded_lt_of_short`). From two to four, epsilon makes a tie, which an even mantissa draws
to itself; from four on it is rounded away (`Number.nearest_lt_iff`).
-/

namespace MarketChart

/-! ## Ties -/

namespace Number

open Float.Model

section

variable {m : Nat} (hlow : 2 ^ 52 ≤ m) (hhigh : m < 2 ^ 53)

include hlow hhigh

/-- One is too little to raise a mantissa that is followed by two zeros. -/
theorem nearest_add_one (i : Nat) : nearest (m * 2 ^ (i + 2) + 1) = m * 2 ^ (i + 2) := by
  have hpos := Nat.two_pow_pos i
  have hpow : 2 ^ (i + 2) = 4 * 2 ^ i := by rw [Nat.pow_add, Nat.mul_comm]
  rw [nearest_mul_add hlow hhigh (by omega), if_pos (by omega)]

/-- One is too little to lower it. Below a power of two there is a tie, and the power of two is
even. -/
theorem nearest_sub_one (i : Nat) : nearest (m * 2 ^ (i + 2) - 1) = m * 2 ^ (i + 2) := by
  have hpos := Nat.two_pow_pos i
  have hpow : 2 ^ (i + 2) = 4 * 2 ^ i := by rw [Nat.pow_add, Nat.mul_comm]
  rcases Nat.lt_or_eq_of_le hlow with hlow | rfl
  · obtain ⟨q, rfl⟩ : ∃ q, m = q + 1 := ⟨m - 1, by omega⟩
    have hn : (q + 1) * 2 ^ (i + 2) - 1 = q * 2 ^ (i + 2) + (2 ^ (i + 2) - 1) := by
      rw [Nat.succ_mul]
      omega
    rw [hn, nearest_mul_add (by omega) (by omega) (by omega), if_neg (by omega),
      if_pos (by omega)]
  · -- The number below has the bits of all ones, and one digit less behind them.
    have hpow' : 2 ^ (i + 1) = 2 * 2 ^ i := by rw [Nat.pow_add, Nat.mul_comm]
    have hn : 2 ^ 52 * 2 ^ (i + 2) - 1 = (2 ^ 53 - 1) * 2 ^ (i + 1) + (2 ^ (i + 1) - 1) := by
      omega
    rw [hn, nearest_mul_add (by decide) (by decide) (by omega), if_neg (by omega)]
    split <;> omega

/-- With one zero behind the mantissa both neighbours are ties, which an even mantissa draws to
itself and an odd one sends away. -/
theorem nearest_tie_lt_iff (hlong : 2 ^ 52 < m) :
    nearest (m * 2 - 1) < nearest (m * 2 + 1) ↔ m % 2 = 1 := by
  obtain ⟨q, rfl⟩ : ∃ q, m = q + 1 := ⟨m - 1, by omega⟩
  have hbelow : (q + 1) * 2 - 1 = q * 2 ^ 1 + 1 := by omega
  have habove : (q + 1) * 2 + 1 = (q + 1) * 2 ^ 1 + 1 := by omega
  rw [hbelow, habove, nearest_mul_add (by omega) (by omega) (by decide),
    nearest_mul_add hlow hhigh (by decide), if_neg (by decide), if_neg (by decide),
    if_neg (by decide), if_neg (by decide)]
  omega

theorem nearest_lt_iff {i : Nat} (hlong : 2 ^ 53 < m * 2 ^ (i + 1)) :
    nearest (m * 2 ^ (i + 1) - 1) < nearest (m * 2 ^ (i + 1) + 1) ↔ i = 0 ∧ m % 2 = 1 := by
  cases i with
  | zero =>
    rw [Nat.pow_one] at hlong ⊢
    rw [nearest_tie_lt_iff hlow hhigh (by omega)]
    omega
  | succ i =>
    rw [nearest_add_one hlow hhigh, nearest_sub_one hlow hhigh]
    omega

end

/-! ## Units that epsilon moves -/

/-- Up to 53 bits of steps, there is a multiple of the step on either side. -/
theorem rounded_lt_of_short {u k : Nat} (hu : u ≤ 2 ^ 53 * 2 ^ k)
    (hk : 2 ^ 53 * 2 ^ k ≤ overflow) :
    rounded (u - (2 ^ k : Nat)) < rounded (u + (2 ^ k : Nat)) := by
  have hstep := Nat.two_pow_pos k
  rcases Nat.eq_zero_or_pos u with rfl | hpos
  · have hright : 0 < rounded (2 ^ k : Nat) := rounded_pos_iff.2 (by omega)
    rw [Int.natCast_zero, Int.zero_sub, Int.zero_add, rounded_neg]
    omega
  · -- `u` lies between the multiples `j` and `j + 1`, and both of them have few enough bits.
    obtain ⟨j, hj⟩ : ∃ j, (u - 1) / 2 ^ k = j := ⟨_, rfl⟩
    have hbelow : j * 2 ^ k ≤ u - 1 := hj ▸ Nat.div_mul_le_self (u - 1) (2 ^ k)
    have habove : u - 1 < (j + 1) * 2 ^ k := (Nat.div_lt_iff_lt_mul hstep).1 (by omega)
    have hshort : j < 2 ^ 53 := by
      rw [← hj, Nat.div_lt_iff_lt_mul hstep]
      omega
    have hmax : (j + 1) * 2 ^ k ≤ overflow := (Nat.mul_le_mul_right _ hshort).trans hk
    rw [Nat.succ_mul] at habove
    calc rounded (u - (2 ^ k : Nat)) ≤ rounded (j * 2 ^ k : Nat) := rounded_mono (by omega)
      _ = (j * 2 ^ k : Nat) := rounded_of_short (by omega) (by rw [Nat.succ_mul] at hmax; omega)
      _ < ((j + 1) * 2 ^ k : Nat) := by rw [Nat.succ_mul]; omega
      _ = rounded ((j + 1) * 2 ^ k : Nat) := (rounded_of_short (by omega) hmax).symm
      _ ≤ rounded (u + (2 ^ k : Nat)) := rounded_mono (by rw [Nat.succ_mul]; omega)

/-- Beyond, only an odd mantissa followed by one zero moves. -/
theorem rounded_lt_iff_of_long {m i k : Nat} (hlow : 2 ^ 52 ≤ m) (hhigh : m < 2 ^ 53)
    (hlong : 2 ^ 53 < m * 2 ^ (i + 1)) (hmax : m * 2 ^ (i + 1) * 2 ^ k < overflow) :
    rounded ((m * 2 ^ (i + 1) * 2 ^ k : Nat) - (2 ^ k : Nat)) <
      rounded ((m * 2 ^ (i + 1) * 2 ^ k : Nat) + (2 ^ k : Nat)) ↔ i = 0 ∧ m % 2 = 1 := by
  have hself : nearest (m * 2 ^ (i + 1)) = m * 2 ^ (i + 1) := by
    rw [nearest_mul_two_pow, nearest_of_short hhigh]
  rw [← nearest_lt_iff hlow hhigh hlong]
  obtain ⟨n, hn⟩ : ∃ n, m * 2 ^ (i + 1) = n + 1 := ⟨m * 2 ^ (i + 1) - 1, by omega⟩
  rw [hn] at hmax hself ⊢
  have hbelow : (((n + 1) * 2 ^ k : Nat) - (2 ^ k : Nat) : ℤ) = (n * 2 ^ k : Nat) := by
    rw [Nat.succ_mul]
    omega
  have habove : (((n + 1) * 2 ^ k : Nat) + (2 ^ k : Nat) : ℤ) = ((n + 1 + 1) * 2 ^ k : Nat) := by
    rw [Nat.succ_mul (n + 1)]
    omega
  have hle : nearest n * 2 ^ k ≤ (n + 1) * 2 ^ k :=
    Nat.mul_le_mul_right _ (hself ▸ nearest_mono n.le_succ)
  rw [hbelow, habove, rounded_mul_two_pow, rounded_mul_two_pow, Int.ofNat_lt, Nat.add_sub_cancel,
    min_eq_left (by omega), lt_min_iff, Nat.mul_lt_mul_right (Nat.two_pow_pos k)]
  omega

theorem rounded_lt_iff_natAbs (u e : ℤ) :
    rounded (u - e) < rounded (u + e) ↔ rounded (u.natAbs - e) < rounded (u.natAbs + e) := by
  rcases Int.natAbs_eq u with h | h
  · rw [← h]
  · have hbelow : u - e = -(u.natAbs + e) := by omega
    have habove : u + e = -(u.natAbs - e) := by omega
    rw [hbelow, habove, rounded_neg, rounded_neg, neg_lt_neg_iff]

/-- The exponent of epsilon, counted from that of the units. -/
@[irreducible] def epsilonExponent : Nat := 1022

theorem epsilonExponent_eq : epsilonExponent = 1022 := by
  unfold epsilonExponent
  rfl

/-- The units in a power of two. -/
theorem units_of_unpack_two_pow {x : Float} {e : Int} {k : Nat}
    (h : x.toModel.unpack = .finite .positive (2 ^ 52) e (by decide))
    (hk : 52 + (e + 1074).toNat = k) : units x = (2 ^ k : Nat) := by
  rw [units, h, unitsOf, UnpackedFloat.Sign.apply, magnitude, ← Nat.pow_add, hk]

theorem units_epsilon : units epsilon = (2 ^ epsilonExponent : Nat) :=
  units_of_unpack_two_pow (e := -104) rfl (by rw [epsilonExponent_eq]; decide)

theorem units_two : units 2.0 = (2 ^ 53 * 2 ^ epsilonExponent : Nat) := by
  rw [← Nat.pow_add]
  exact units_of_unpack_two_pow (e := -51) rfl (by rw [epsilonExponent_eq]; decide)

theorem units_four : units 4.0 = (2 ^ 54 * 2 ^ epsilonExponent : Nat) := by
  rw [← Nat.pow_add]
  exact units_of_unpack_two_pow (e := -50) rfl (by rw [epsilonExponent_eq]; decide)

theorem steps_to_two_le_overflow : 2 ^ 53 * 2 ^ epsilonExponent ≤ overflow := by
  have htwo := ((isFinite_iff_units (x := 2.0) rfl).1 (by decide)).2
  rw [units_two] at htwo
  omega

/-- Epsilon is not lost in the double : it is at most two from zero, or less than four and an odd
number of steps of twice epsilon, which are what doubles differ by there. -/
def FeelsEpsilon (y : Float) : Prop :=
  (-2.0 ≤ y ∧ y ≤ 2.0) ∨
    (-4.0 < y ∧ y < 4.0 ∧ ∃ k : ℤ, units y = (2 * k + 1) * (2 * units epsilon))

theorem exists_odd_mul_iff_natAbs {u : ℤ} {d : Nat} :
    (∃ k : ℤ, u = (2 * k + 1) * d) ↔ ∃ q : Nat, q % 2 = 1 ∧ u.natAbs = q * d := by
  constructor
  · rintro ⟨k, rfl⟩
    exact ⟨(2 * k + 1).natAbs, by omega, by rw [Int.natAbs_mul, Int.natAbs_natCast]⟩
  · rintro ⟨q, hodd, hq⟩
    rcases Int.natAbs_eq u with h | h
    · refine ⟨q / 2, ?_⟩
      rw [h, hq, Int.natCast_mul, show (2 * ((q : ℤ) / 2) + 1) = q by omega]
    · refine ⟨-(q / 2) - 1, ?_⟩
      rw [h, hq, Int.natCast_mul, show (2 * (-((q : ℤ) / 2) - 1) + 1) = -q by omega, Int.neg_mul]

theorem feelsEpsilon_iff_units {y : Float} (hy : y.isNaN = false) : FeelsEpsilon y ↔
    (units y).natAbs ≤ 2 ^ 53 * 2 ^ epsilonExponent ∨
      (units y).natAbs < 2 ^ 54 * 2 ^ epsilonExponent ∧
        ∃ q, q % 2 = 1 ∧ (units y).natAbs = q * (2 * 2 ^ epsilonExponent) := by
  have hodd := exists_odd_mul_iff_natAbs (u := units y) (d := 2 * 2 ^ epsilonExponent)
  rw [Int.natCast_mul] at hodd
  unfold FeelsEpsilon
  rw [le_iff_units (isNaN_neg 2.0) hy, le_iff_units hy rfl, lt_iff_units (isNaN_neg 4.0) hy,
    lt_iff_units hy rfl, units_neg, units_neg, units_two, units_four, units_epsilon, ← hodd,
    ← and_assoc, ← abs_le, ← abs_lt, Int.abs_eq_natAbs, Int.ofNat_le, Int.ofNat_lt]
  rfl

theorem feelsEpsilon_congr {x y : Float} (hx : x.isNaN = false) (hy : y.isNaN = false)
    (h : units x = units y) : FeelsEpsilon x ↔ FeelsEpsilon y := by
  rw [feelsEpsilon_iff_units hx, feelsEpsilon_iff_units hy, h]

/-- Beyond two, the units in a double are a mantissa, at least one zero and the steps. -/
theorem exists_natAbs_units {y : Float} (hy : y.isFinite = true)
    (hlong : 2 ^ 53 * 2 ^ epsilonExponent < (units y).natAbs) :
    ∃ m i, 2 ^ 52 ≤ m ∧ m < 2 ^ 53 ∧
      (units y).natAbs = m * 2 ^ (i + 1) * 2 ^ epsilonExponent := by
  have hreduced := reduced_unpack y
  have hyf : y.toModel.unpack.isFinite = true := hy
  rw [units] at hlong ⊢
  cases hu : y.toModel.unpack with
  | notANumber => simp [hu, UnpackedFloat.isFinite] at hyf
  | infinity s => simp [hu, UnpackedFloat.isFinite] at hyf
  | zero s => simp [hu, unitsOf] at hlong
  | finite s m e hm =>
    rw [hu] at hreduced hlong
    obtain ⟨hhigh, he, -, hlow⟩ := hreduced
    have habs : (unitsOf (.finite s m e hm)).natAbs = magnitude m e := by
      cases s <;> simp [unitsOf, UnpackedFloat.Sign.apply]
    rw [habs] at hlong ⊢
    have hexp : epsilonExponent < (e + 1074).toNat := by
      by_contra hle
      have : magnitude m e ≤ 2 ^ 53 * 2 ^ epsilonExponent :=
        Nat.mul_le_mul hhigh.le (Nat.pow_le_pow_right (by decide) (not_lt.1 hle))
      omega
    refine ⟨m, (e + 1074).toNat - (epsilonExponent + 1), hlow.resolve_right ?_, hhigh, ?_⟩
    · rw [epsilonExponent_eq] at hexp
      omega
    · rw [magnitude, Nat.mul_assoc, ← Nat.pow_add]
      congr 2
      omega

/-- Equal doubles, one less epsilon and one with it, differ exactly where epsilon is felt. -/
theorem sub_epsilon_lt_add_epsilon_iff {x y : Float} (hx : x.isFinite = true)
    (hy : y.isFinite = true) (h : units x = units y) :
    x - epsilon < y + epsilon ↔ FeelsEpsilon y := by
  have hnumber := isNaN_of_isFinite hy
  have hbelow := rounds_sub hx (y := epsilon) (by decide)
  have habove := rounds_add hy (y := epsilon) (by decide)
  have hstep := Nat.two_pow_pos epsilonExponent
  rw [lt_iff_units hbelow.number habove.number, hbelow.units, habove.units, h, units_epsilon,
    rounded_lt_iff_natAbs, feelsEpsilon_iff_units hnumber]
  by_cases hshort : (units y).natAbs ≤ 2 ^ 53 * 2 ^ epsilonExponent
  · exact iff_of_true (rounded_lt_of_short hshort steps_to_two_le_overflow) (.inl hshort)
  · obtain ⟨m, i, hlow, hhigh, habs⟩ := exists_natAbs_units hy (not_le.1 hshort)
    have hmax := (isFinite_iff_units hnumber).1 hy
    rw [or_iff_right hshort]
    rw [habs, not_le, Nat.mul_lt_mul_right hstep] at hshort
    rw [habs, rounded_lt_iff_of_long hlow hhigh hshort (by omega), Nat.mul_lt_mul_right hstep]
    constructor
    · rintro ⟨rfl, hodd⟩
      exact ⟨by omega, m, hodd, by rw [Nat.mul_assoc, Nat.zero_add, Nat.pow_one]⟩
    · rintro ⟨hlt, q, hodd, hq⟩
      have hi : i = 0 := by
        by_contra hi
        have : 2 ^ 52 * 2 ^ 2 ≤ m * 2 ^ (i + 1) :=
          Nat.mul_le_mul hlow (Nat.pow_le_pow_right (by decide) (by omega))
        omega
      subst hi
      rw [Nat.mul_assoc] at hq
      exact ⟨rfl, Nat.eq_of_mul_eq_mul_right (by omega) hq ▸ hodd⟩

/-! ## The margin -/

theorem Reduced.eq_zero {u : UnpackedFloat} (h : Reduced u) (hn : u ≠ .notANumber)
    (hunits : unitsOf u = 0) : ∃ s, u = .zero s := by
  have hbounds := h.unitsOf_bounds
  rcases u with (_ | _) | _ | s | ⟨_ | _, m, e, hm⟩ <;>
    simp only [unitsOf, UnpackedFloat.Sign.apply] at hunits hbounds
  case zero => exact ⟨s, rfl⟩
  case notANumber => exact absurd rfl hn
  all_goals omega

/-- A twentieth of nothing leaves epsilon as the margin. -/
theorem larger_epsilon_of_units_eq_zero {x : Float} (hx : x.isNaN = false) (h : units x = 0) :
    larger (x * 0.05) epsilon = epsilon := by
  obtain ⟨s, hs⟩ := (reduced_unpack x).eq_zero (unpack_ne_of_isNaN hx) h
  have hmul : x * 0.05 = .ofModel (Float.Model.pack
    (UnpackedFloat.mul .binary64 x.toModel.unpack (0.05 : Float).toModel.unpack)) := rfl
  rw [hmul, hs]
  cases s <;> rfl

/-- No finite double is further from zero than the largest. -/
theorem Reduced.unitsOf_le_of_isFinite {u : UnpackedFloat} (h : Reduced u)
    (hfinite : u.isFinite = true) :
    -(magnitude (2 ^ 53 - 1) 971 : ℤ) ≤ unitsOf u ∧ unitsOf u ≤ magnitude (2 ^ 53 - 1) 971 := by
  cases u with
  | notANumber => simp [UnpackedFloat.isFinite] at hfinite
  | infinity s => simp [UnpackedFloat.isFinite] at hfinite
  | zero s =>
    rw [unitsOf]
    omega
  | finite s m e hm =>
    obtain ⟨hhigh, -, he, -⟩ := h
    have hle : magnitude m e ≤ magnitude (2 ^ 53 - 1) 971 :=
      Nat.mul_le_mul (by omega) (Nat.pow_le_pow_right (by decide) (by omega))
    cases s <;> simp only [unitsOf, UnpackedFloat.Sign.apply] <;> omega

theorem units_le_units_largest {x : Float} (hx : x.isFinite = true) :
    -units largest ≤ units x ∧ units x ≤ units largest :=
  (reduced_unpack x).unitsOf_le_of_isFinite hx

/-- Folded from a double that comes after all of them, the extreme of some doubles has the key of
one of them. -/
theorem Picks.exists_key_foldl {κ : Type} [LinearOrder κ] {pick : Float → Float → Float}
    {key : Float → κ} (h : Picks pick key) {l : List Float} {z : Float}
    (hl : ∀ x ∈ z :: l, x.isNaN = false) (hz : ∀ x ∈ l, key x ≤ key z) (hne : l ≠ []) :
    ∃ x ∈ l, key (l.foldl pick z) = key x := by
  rcases List.mem_cons.1 (h.foldl_mem hl) with heq | hmem
  · obtain ⟨x, hx⟩ := List.exists_mem_of_ne_nil l hne
    have hle := ((h.key_foldl hl).2 _).1 le_rfl x (List.mem_cons_of_mem z hx)
    exact ⟨x, hx, hle.antisymm ((hz x hx).trans_eq (congrArg key heq.symm))⟩
  · exact ⟨_, hmem, rfl⟩

theorem isFinite_of_units_eq {x y : Float} (hx : x.isNaN = false) (hy : y.isFinite = true)
    (h : units x = units y) : x.isFinite = true := by
  rw [isFinite_iff_units hx, h]
  exact (isFinite_iff_units (isNaN_of_isFinite hy)).1 hy

section

variable {values : List Float} (hvalues : ∀ y ∈ values, y.isFinite = true) (hne : values ≠ [])

include hvalues hne

/-- Folded from the largest double, the smallest of some finite values is equal to one of them. -/
theorem smallest_of_finite :
    (values.foldl smaller largest).isFinite = true ∧
      (∀ y ∈ values, values.foldl smaller largest ≤ y) ∧
      ∃ y ∈ values, units (values.foldl smaller largest) = units y := by
  have hnumbers : ∀ y ∈ largest :: values, y.isNaN = false :=
    List.forall_mem_cons.2 ⟨rfl, fun y hy => isNaN_of_isFinite (hvalues y hy)⟩
  obtain ⟨y, hy, heq⟩ := picks_smaller_units.exists_key_foldl hnumbers
    (fun y hy => (units_le_units_largest (hvalues y hy)).2) hne
  exact ⟨isFinite_of_units_eq (picks_smaller_units.key_foldl hnumbers).1 (hvalues y hy) heq,
    (List.forall_mem_cons.1 (smallest_spec hnumbers).2).2, y, hy, heq⟩

theorem largest_of_finite :
    (values.foldl larger (-largest)).isFinite = true ∧
      (∀ y ∈ values, y ≤ values.foldl larger (-largest)) ∧
      ∃ y ∈ values, units (values.foldl larger (-largest)) = units y := by
  have hnumbers : ∀ y ∈ -largest :: values, y.isNaN = false :=
    List.forall_mem_cons.2 ⟨rfl, fun y hy => isNaN_of_isFinite (hvalues y hy)⟩
  have hlowest : ∀ y ∈ values, units (-largest) ≤ units y := by
    intro y hy
    rw [units_neg]
    exact (units_le_units_largest (hvalues y hy)).1
  obtain ⟨y, hy, heq⟩ := picks_larger_units.exists_key_foldl hnumbers
    (fun y hy => OrderDual.toDual_le_toDual.2 (hlowest y hy)) hne
  replace heq := OrderDual.toDual.injective heq
  exact ⟨isFinite_of_units_eq (picks_larger_units.key_foldl hnumbers).1 (hvalues y hy) heq,
    (List.forall_mem_cons.1 (largest_spec hnumbers).2).2, y, hy, heq⟩

end

/-- Bounds with a margin are apart exactly if the bounds themselves are, or if epsilon is felt. -/
theorem widened_lt_iff {low high : Float} (hlow : low.isFinite = true)
    (hhigh : high.isFinite = true) (hle : low ≤ high) :
    let margin := larger ((high - low) * 0.05) epsilon
    low - margin ≤ low ∧ high ≤ high + margin ∧
      (low - margin < high + margin ↔ low < high ∨ FeelsEpsilon high) := by
  intro margin
  have hlowNumber := isNaN_of_isFinite hlow
  have hhighNumber := isNaN_of_isFinite hhigh
  have hepsilon : 0 ≤ units epsilon := by
    rw [units_epsilon]
    exact Int.natCast_nonneg _
  obtain ⟨hmargin, hmarginLe⟩ := le_larger ((high - low) * 0.05) (y := epsilon) rfl
  obtain ⟨hlo, hloLe⟩ := sub_le_self hlow hmargin (hepsilon.trans hmarginLe)
  obtain ⟨hhi, hleHi⟩ := le_add_self hhigh hmargin (hepsilon.trans hmarginLe)
  refine ⟨hloLe, hleHi, ?_⟩
  rw [le_iff_units hlowNumber hhighNumber] at hle
  rw [lt_iff_units hlowNumber hhighNumber]
  rcases hle.lt_or_eq with hlt | heq
  · rw [le_iff_units hlo hlowNumber] at hloLe
    rw [le_iff_units hhighNumber hhi] at hleHi
    rw [lt_iff_units hlo hhi]
    exact iff_of_true (by omega) (.inl hlt)
  · -- The difference is a zero, of one sign or the other, and epsilon takes the place of its share.
    have hdiff := rounds_sub hhigh hlow
    rw [heq, Int.sub_self] at hdiff
    have hflat : margin = epsilon :=
      larger_epsilon_of_units_eq_zero hdiff.number (hdiff.units.trans rfl)
    rw [hflat, sub_epsilon_lt_add_epsilon_iff hlow hhigh heq, heq, or_iff_right (lt_irrefl _)]

end Number

/-! ## The values of traces -/

open Number

/-- The double is a finite value of one of the traces. -/
def HasValue (traces : List Trace) (y : Float) : Prop :=
  y.isFinite = true ∧ ∃ t ∈ traces, ∃ p ∈ t.points, p.2 = y

theorem mem_finiteValues {traces : List Trace} {y : Float} :
    y ∈ finiteValues traces ↔ HasValue traces y := by
  simp only [finiteValues, HasValue, List.mem_filter, List.mem_flatMap, List.mem_map, and_comm]

theorem yBounds_of_finiteValues_eq_nil {traces : List Trace} (h : finiteValues traces = []) :
    yBounds traces = none := by
  have hlt : -largest < largest := by decide
  rw [yBounds, h]
  exact if_pos hlt

/-- The extremes of finite values, widened, hold all values between them. -/
theorem yBounds_of_value {traces : List Trace} {v : Float} (hv : HasValue traces v) :
    ∃ lo hi, yBounds traces = some (lo, hi) ∧ (∀ y, HasValue traces y → lo ≤ y ∧ y ≤ hi) ∧
      (lo < hi ↔
        (∃ y y', HasValue traces y ∧ HasValue traces y' ∧ y < y') ∨ FeelsEpsilon v) := by
  have hnumber {y : Float} (hy : HasValue traces y) : y.isNaN = false := isNaN_of_isFinite hy.1
  simp only [← mem_finiteValues] at hv hnumber ⊢
  have hfinite : ∀ y ∈ finiteValues traces, y.isFinite = true := fun y hy =>
    (mem_finiteValues.1 hy).1
  obtain ⟨hlow, hlowLe, a, ha, hlowEq⟩ := smallest_of_finite hfinite (List.ne_nil_of_mem hv)
  obtain ⟨hhigh, hleHigh, b, hb, hhighEq⟩ := largest_of_finite hfinite (List.ne_nil_of_mem hv)
  rw [yBounds]
  generalize (finiteValues traces).foldl smaller largest = low at *
  generalize (finiteValues traces).foldl larger (-largest) = high at *
  have hle : low ≤ high := le_of_le_of_le (hlowLe v hv) (hleHigh v hv)
  obtain ⟨hloLe, hleHi, hlt⟩ := widened_lt_iff hlow hhigh hle
  have hlowNumber := isNaN_of_isFinite hlow
  have hhighNumber := isNaN_of_isFinite hhigh
  rw [le_iff_units hlowNumber hhighNumber] at hle
  have hnot : ¬high < low := by
    rw [lt_iff_units hhighNumber hlowNumber]
    omega
  refine ⟨_, _, if_neg hnot, fun y hy =>
    ⟨le_of_le_of_le hloLe (hlowLe y hy), le_of_le_of_le (hleHigh y hy) hleHi⟩, hlt.trans ?_⟩
  have hunits : ∀ y ∈ finiteValues traces, units low ≤ units y ∧ units y ≤ units high :=
    fun y hy => ⟨(le_iff_units hlowNumber (hnumber hy)).1 (hlowLe y hy),
      (le_iff_units (hnumber hy) hhighNumber).1 (hleHigh y hy)⟩
  rw [lt_iff_units hlowNumber hhighNumber]
  by_cases hapart : units low < units high
  · refine iff_of_true (.inl hapart) (.inl ⟨a, b, ha, hb, ?_⟩)
    rw [lt_iff_units (hnumber ha) (hnumber hb)]
    omega
  · have hflat : ¬∃ y y', y ∈ finiteValues traces ∧ y' ∈ finiteValues traces ∧ y < y' := by
      rintro ⟨y, y', hy, hy', hlt⟩
      rw [lt_iff_units (hnumber hy) (hnumber hy')] at hlt
      have := hunits y hy
      have := hunits y' hy'
      omega
    have hv' := hunits v hv
    rw [or_iff_right hapart, or_iff_right hflat]
    exact feelsEpsilon_congr hhighNumber (hnumber hv) (by omega)

/-- Traces have bounds exactly if they have a finite value. All finite values lie between them, and
they are apart exactly if two of the values differ, or if the one value that there is feels
epsilon. -/
theorem yBounds_spec (traces : List Trace) :
    (yBounds traces = none ↔ ∀ y, ¬HasValue traces y) ∧
    ∀ v, HasValue traces v → ∃ lo hi, yBounds traces = some (lo, hi) ∧
      (∀ y, HasValue traces y → lo ≤ y ∧ y ≤ hi) ∧
      (lo < hi ↔
        (∃ y y', HasValue traces y ∧ HasValue traces y' ∧ y < y') ∨ FeelsEpsilon v) := by
  refine ⟨⟨fun hnone v hv => ?_, fun h => ?_⟩, fun v => yBounds_of_value⟩
  · obtain ⟨lo, hi, hbounds, -⟩ := yBounds_of_value hv
    rw [hnone] at hbounds
    cases hbounds
  · refine yBounds_of_finiteValues_eq_nil (List.eq_nil_iff_forall_not_mem.2 fun y hy => ?_)
    exact h y (mem_finiteValues.1 hy)

/-- One value with an odd mantissa, among traces of which one is broken : epsilon makes ties of it
that are rounded away. -/
theorem yBounds_spec_flat :
    let y : Float := Float.ofBits 0x4000000000000001
    let traces : List Trace := [⟨[(0.0, y), (1.0, Number.notANumber)], .white⟩, ⟨[(2.0, y)], .red⟩]
    HasValue traces y ∧ FeelsEpsilon y ∧
      ∃ lo hi, yBounds traces = some (lo, hi) ∧ (lo ≤ y ∧ y ≤ hi) ∧ lo < hi := by
  intro y traces
  have hfinite : (Float.ofBits 0x4000000000000001).isFinite = true := by decide
  have hvalue : HasValue traces y := ⟨hfinite, _, List.mem_cons_self, _, List.mem_cons_self, rfl⟩
  have hfeels : FeelsEpsilon y := (sub_epsilon_lt_add_epsilon_iff hfinite hfinite rfl).1 (by decide)
  obtain ⟨lo, hi, hbounds, hbetween, hlt⟩ := (yBounds_spec traces).2 y hvalue
  exact ⟨hvalue, hfeels, lo, hi, hbounds, hbetween y hvalue, hlt.2 (.inr hfeels)⟩

/-- Epsilon is lost in ten : a flat series of tens has bounds that are not apart. -/
theorem flat_axis_of_ten :
    yBounds [⟨[(0.0, 10.0), (1.0, 10.0)], .white⟩] = some (10.0, 10.0) ∧
      ¬(10.0 : Float) < 10.0 := by
  decide

end MarketChart
