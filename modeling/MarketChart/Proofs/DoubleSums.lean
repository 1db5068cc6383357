import MarketChart.Proofs.DoubleUnits

/-!
# Sums and differences of doubles

Adding is subtracting the negated double (`Number.add_eq_sub_neg`), so the sum of finite doubles is
the sum of their units, rounded (`Number.rounds_add`). A sum or difference of a finite double with
an infinite one is infinite, and of all there is the order is kept: what is not negative does not
raise a double from which it is subtracted (`Number.sub_le_self`) nor lower one to which it is added
(`Number.le_add_self`), and adding the same to two doubles keeps their order
(`Number.add_le_add_right`).
-/

namespace MarketChart.Number

open Float.Model
open Float.Model.UnpackedFloat

/-! ## Rounding with a known exponent -/

theorem roundHalfEven_mul_add {q r d : Nat} (hr : r < d) : roundHalfEven (q * d + r) d =
    if 2 * r < d then q else if d < 2 * r then q + 1 else q + q % 2 := by
  have hd : 0 < d := by omega
  have hdiv : (q * d + r) / d = q := by
    rw [Nat.mul_comm, Nat.mul_add_div hd, Nat.div_eq_of_lt hr, Nat.add_zero]
  have hmod : (q * d + r) % d = r := by
    rw [Nat.mul_comm, Nat.mul_add_mod, Nat.mod_eq_of_lt hr]
  simp only [roundHalfEven, hdiv, hmod]

/-- A mantissa with more digits behind it keeps its bits, up to the one that is rounded. -/
theorem nearest_mul_add {m k r : Nat} (hlow : 2 ^ 52 ≤ m) (hhigh : m < 2 ^ 53) (hr : r < 2 ^ k) :
    nearest (m * 2 ^ k + r) =
      (if 2 * r < 2 ^ k then m else if 2 ^ k < 2 * r then m + 1 else m + m % 2) * 2 ^ k := by
  have hle : 2 ^ (52 + k) ≤ m * 2 ^ k := by
    rw [Nat.pow_add]
    exact Nat.mul_le_mul_right _ hlow
  have hlt : (m + 1) * 2 ^ k ≤ 2 ^ (52 + k + 1) := by
    rw [show 52 + k + 1 = 53 + k by omega, Nat.pow_add 2 53]
    exact Nat.mul_le_mul_right _ hhigh
  have hpos := Nat.two_pow_pos (52 + k)
  rw [Nat.succ_mul] at hlt
  have hlog : (m * 2 ^ k + r).log2 - 52 = k := by
    rw [(Nat.log2_eq_iff (by omega)).2 ⟨hle.trans (Nat.le_add_right ..), by omega⟩]
    omega
  rw [nearest, hlog, roundHalfEven_mul_add hr]

theorem rounded_mul_two_pow (n k : Nat) :
    rounded (n * 2 ^ k : Nat) = (min (nearest n * 2 ^ k) overflow : Nat) := by
  rw [rounded_natCast, nearest_mul_two_pow]

theorem rounded_of_short {n k : Nat} (hn : n ≤ 2 ^ 53) (hk : n * 2 ^ k ≤ overflow) :
    rounded (n * 2 ^ k : Nat) = (n * 2 ^ k : Nat) := by
  have hnearest : nearest n = n := by
    rcases Nat.lt_or_eq_of_le hn with hlt | rfl
    · exact nearest_of_short hlt
    · exact (nearest_mul_two_pow 1 53).trans (by rw [nearest_of_short (by decide), Nat.one_mul])
  rw [rounded_mul_two_pow, hnearest, min_eq_left hk]

/-! ## Negation -/

theorem Reduced.neg {u : UnpackedFloat} (h : Reduced u) : Reduced u.neg := by
  cases u <;> exact h

theorem unpack_neg (x : Float) : (-x).toModel.unpack = x.toModel.unpack.neg :=
  unpack_pack_of_reduced (reduced_unpack x).neg

theorem units_neg (x : Float) : units (-x) = -units x := by
  rw [units, units, unpack_neg]
  rcases x.toModel.unpack with (_ | _) | _ | _ | ⟨_ | _, m, e, hm⟩ <;>
    simp [UnpackedFloat.neg, unitsOf, Sign.apply]

theorem isNaN_neg (x : Float) : (-x).isNaN = x.isNaN := by
  have hunpack : ∀ y : Float, y.isNaN = y.toModel.unpack.isNaN := fun _ => rfl
  rw [hunpack, hunpack, unpack_neg]
  cases x.toModel.unpack <;> rfl

theorem apply_neg (s : Sign) (n : ℤ) : (-s).apply n = -s.apply n := by
  cases s <;> simp [Sign.apply]

theorem unpacked_sub_neg (u v : UnpackedFloat) :
    UnpackedFloat.sub .binary64 u v.neg = UnpackedFloat.add .binary64 u v := by
  rcases u with s | _ | s | ⟨s, m, e, hm⟩ <;> rcases v with s' | _ | s' | ⟨s', m', e', hm'⟩
  case finite.finite =>
    simp only [UnpackedFloat.neg, UnpackedFloat.sub, UnpackedFloat.add, apply_neg, Int.sub_neg]
  all_goals first | rfl | (cases s <;> cases s' <;> rfl)

theorem add_eq_sub_neg (x y : Float) : x + y = x - -y := by
  have hadd : x + y = .ofModel (Float.Model.pack
    (UnpackedFloat.add .binary64 x.toModel.unpack y.toModel.unpack)) := rfl
  have hsub : x - -y = .ofModel (Float.Model.pack
    (UnpackedFloat.sub .binary64 x.toModel.unpack (-y).toModel.unpack)) := rfl
  rw [hadd, hsub, unpack_neg, unpacked_sub_neg]

/-- The sum of finite doubles is that of their units, rounded. -/
theorem rounds_add {x y : Float} (hx : x.isFinite = true) (hy : y.isFinite = true) :
    Rounds (Number.units x + Number.units y) (x + y) := by
  have hround := rounds_sub hx ((isFinite_neg y).trans hy)
  rwa [units_neg, Int.sub_neg, ← add_eq_sub_neg] at hround

/-! ## Infinite doubles -/

theorem Reduced.unitsOf_le {u : UnpackedFloat} (h : Reduced u) :
    -(overflow : ℤ) ≤ unitsOf u ∧ unitsOf u ≤ overflow := by
  have hbounds := h.unitsOf_bounds
  rcases u with (_ | _) | _ | _ | ⟨_ | _, m, e, hm⟩ <;>
    simp only [unitsOf, Sign.apply] at hbounds ⊢ <;> omega

theorem units_le (x : Float) : -(overflow : ℤ) ≤ units x ∧ units x ≤ overflow :=
  (reduced_unpack x).unitsOf_le

/-- The double is infinite. -/
def IsInfinite (x : Float) (s : Sign) : Prop := x.toModel.unpack = .infinity s

theorem exists_isInfinite {x : Float} (hx : x.isNaN = false) (hf : x.isFinite = false) :
    ∃ s, IsInfinite x s := by
  have hfinite : x.isFinite = x.toModel.unpack.isFinite := rfl
  have hnumber := unpack_ne_of_isNaN hx
  unfold IsInfinite
  rw [hfinite] at hf
  cases hu : x.toModel.unpack <;> simp_all [UnpackedFloat.isFinite]

theorem IsInfinite.rounds {x : Float} {s : Sign} (h : IsInfinite x s) :
    Rounds (s.apply overflow) x :=
  rounds_of_unpack h (by simp) (rounded_unitsOf (u := .infinity s) trivial).symm

theorem IsInfinite.units {x : Float} {s : Sign} (h : IsInfinite x s) :
    Number.units x = s.apply overflow := by
  rw [Number.units, h, unitsOf]

theorem IsInfinite.units_eq {x : Float} {s : Sign} (h : IsInfinite x s) :
    Number.units x = overflow ∨ Number.units x = -overflow := by
  rw [h.units]
  cases s with
  | positive => exact .inl rfl
  | negative => exact .inr rfl

/-- What is infinite stays so when a finite double is subtracted. -/
theorem IsInfinite.sub {x y : Float} {s : Sign} (hx : IsInfinite x s) (hy : y.isFinite = true) :
    IsInfinite (x - y) s := by
  have hsub : (x - y).toModel.unpack = (Float.Model.pack
    (UnpackedFloat.sub .binary64 x.toModel.unpack y.toModel.unpack)).unpack := rfl
  have hyf : y.toModel.unpack.isFinite = true := hy
  rw [IsInfinite] at hx
  rw [IsInfinite, hsub, hx]
  cases hu : y.toModel.unpack with
  | notANumber => simp [hu, UnpackedFloat.isFinite] at hyf
  | infinity s' => simp [hu, UnpackedFloat.isFinite] at hyf
  | zero s' => exact unpack_pack_of_reduced (u := .infinity s) trivial
  | finite s' m e hm => exact unpack_pack_of_reduced (u := .infinity s) trivial

/-- An infinite double that is subtracted from a finite one leaves an infinite one. -/
theorem IsInfinite.of_sub {x y : Float} {s : Sign} (hx : x.isFinite = true)
    (hy : IsInfinite y s) : IsInfinite (x - y) (-s) := by
  have hsub : (x - y).toModel.unpack = (Float.Model.pack
    (UnpackedFloat.sub .binary64 x.toModel.unpack y.toModel.unpack)).unpack := rfl
  have hxf : x.toModel.unpack.isFinite = true := hx
  rw [IsInfinite] at hy
  rw [IsInfinite, hsub, hy]
  cases hu : x.toModel.unpack with
  | notANumber => simp [hu, UnpackedFloat.isFinite] at hxf
  | infinity s' => simp [hu, UnpackedFloat.isFinite] at hxf
  | zero s' => exact unpack_pack_of_reduced (u := .infinity (-s)) trivial
  | finite s' m e hm => exact unpack_pack_of_reduced (u := .infinity (-s)) trivial

/-! ## Order -/

/-- A double that is subtracted moves the other against its sign, or not at all. -/
theorem sub_moves {x y : Float} (hx : x.isFinite = true) (hy : y.isNaN = false) :
    (x - y).isNaN = false ∧ (0 ≤ units y → x - y ≤ x) ∧ (units y ≤ 0 → x ≤ x - y) := by
  have hself := rounds_self (isNaN_of_isFinite hx)
  have hbounds := (isFinite_iff_units hself.number).1 hx
  cases hyf : y.isFinite with
  | true =>
    have hround := rounds_sub hx hyf
    exact ⟨hround.number, fun h => hround.le hself (by omega), fun h => hself.le hround (by omega)⟩
  | false =>
    obtain ⟨s, hs⟩ := exists_isInfinite hy hyf
    have hinf := IsInfinite.of_sub hx hs
    have hsub : units (x - y) = -units y := by rw [hinf.units, apply_neg, hs.units]
    have hy := hs.units_eq
    have hpos := overflow_pos
    rw [le_iff_units hinf.rounds.number hself.number, le_iff_units hself.number hinf.rounds.number]
    exact ⟨hinf.rounds.number, fun h => by omega, fun h => by omega⟩

theorem sub_le_self {x y : Float} (hx : x.isFinite = true) (hy : y.isNaN = false)
    (h : 0 ≤ units y) : (x - y).isNaN = false ∧ x - y ≤ x :=
  ⟨(sub_moves hx hy).1, (sub_moves hx hy).2.1 h⟩

theorem le_add_self {x y : Float} (hx : x.isFinite = true) (hy : y.isNaN = false)
    (h : 0 ≤ units y) : (x + y).isNaN = false ∧ x ≤ x + y := by
  obtain ⟨hnumber, -, hle⟩ := sub_moves hx ((isNaN_neg y).trans hy)
  rw [add_eq_sub_neg]
  exact ⟨hnumber, hle (by rw [units_neg]; omega)⟩

/-- Adding the same keeps the order, also of a double that is infinitely small. -/
theorem add_le_add_right {x y b : Float} (hx : x.isNaN = false) (hy : y.isFinite = true)
    (hb : b.isFinite = true) (h : x ≤ y) : (x + b).isNaN = false ∧ x + b ≤ y + b := by
  have hyn := isNaN_of_isFinite hy
  have hround := rounds_add hy hb
  have hunits := (le_iff_units hx hyn).1 h
  cases hxf : x.isFinite with
  | true =>
    have hround' := rounds_add hxf hb
    exact ⟨hround'.number, hround'.le hround (by omega)⟩
  | false =>
    obtain ⟨s, hs⟩ := exists_isInfinite hx hxf
    have hinf := hs.sub ((isFinite_neg b).trans hb)
    have hlow := (units_le (y + b)).1
    have hhigh := ((isFinite_iff_units hyn).1 hy).2
    have hx := hs.units_eq
    rw [add_eq_sub_neg x b]
    refine ⟨hinf.rounds.number, ?_⟩
    rw [le_iff_units hinf.rounds.number hround.number, hinf.units, ← hs.units]
    omega

/-- A number that is the second operand bounds the larger one, whatever the first is. -/
theorem le_larger (x : Float) {y : Float} (hy : y.isNaN = false) :
    (larger x y).isNaN = false ∧ units y ≤ units (larger x y) := by
  cases hx : x.isNaN with
  | true =>
    rw [larger, if_pos hx]
    exact ⟨hy, le_rfl⟩
  | false =>
    obtain ⟨hnumber, hunits⟩ := units_larger hx hy
    exact ⟨hnumber, hunits ▸ le_max_right ..⟩

end MarketChart.Number
