import MarketChart.Proofs.CanonicalCandles

/-!
# Doubles in units of the smallest one

Every finite double is a whole number of units of `2 ^ -1074`, the smallest double above zero. Let
an infinite one have as many units as the first double that would be too large. Then doubles are
compared as their units are (`Number.le_iff_units`), and the difference of two finite doubles is
the difference of their units, rounded (`Number.rounds_sub`). Rounding is monotone
(`Number.rounded_mono`) and leaves the units of doubles as they are (`Number.rounds_self`): these
two facts are all that is needed to bound the result of a computation by a double.
-/

namespace MarketChart.Number

open Float.Model
open Float.Model.UnpackedFloat

/-! ## Rounding to 53 bits -/

theorem roundHalfEven_mono {n n' : Nat} (d : Nat) (h : n ≤ n') :
    roundHalfEven n d ≤ roundHalfEven n' d := by
  have hq : n / d ≤ n' / d := Nat.div_le_div_right h
  have hn := Nat.div_add_mod n d
  have hn' := Nat.div_add_mod n' d
  unfold roundHalfEven
  rcases Nat.lt_or_eq_of_le hq with hlt | heq
  · grind
  · rw [heq] at hn ⊢
    grind

theorem roundHalfEven_mul_mul (n d : Nat) {c : Nat} (hc : 0 < c) :
    roundHalfEven (n * c) (d * c) = roundHalfEven n d := by
  unfold roundHalfEven
  simp only [Nat.mul_div_mul_right n d hc, Nat.mul_mod_mul_right, ← Nat.mul_assoc,
    Nat.mul_lt_mul_right hc]

/-- A whole number rounded to 53 bits. -/
def nearest (n : Nat) : Nat :=
  roundHalfEven n (2 ^ (n.log2 - 52)) * 2 ^ (n.log2 - 52)

theorem nearest_of_dvd {n : Nat} (h : 2 ^ (n.log2 - 52) ∣ n) : nearest n = n :=
  roundHalfEven_mul_of_dvd (Nat.two_pow_pos _) h

theorem nearest_of_short {n : Nat} (h : n < 2 ^ 53) : nearest n = n := by
  refine nearest_of_dvd ?_
  have hlog : n.log2 - 52 = 0 := by
    rcases Nat.eq_zero_or_pos n with rfl | hn
    · rfl
    · have := (Nat.log2_lt hn.ne').2 h
      omega
  rw [hlog]
  exact one_dvd n

theorem nearest_mul_two_pow (n k : Nat) : nearest (n * 2 ^ k) = nearest n * 2 ^ k := by
  have hpow := Nat.two_pow_pos k
  rcases Nat.eq_zero_or_pos n with rfl | hn
  · simp [nearest_of_short]
  have hlog := log2_mul_two_pow hn.ne' k
  by_cases hlong : 52 ≤ n.log2
  · have hexp : 2 ^ (n.log2 + k - 52) = 2 ^ (n.log2 - 52) * 2 ^ k := by
      rw [← Nat.pow_add]
      congr 1
      omega
    rw [nearest, nearest, hlog, hexp, roundHalfEven_mul_mul _ _ hpow, Nat.mul_assoc]
  · -- Too few bits to be rounded, with the zeros behind them too.
    have hshort : n < 2 ^ 53 := by
      rw [← Nat.log2_lt hn.ne']
      omega
    rw [nearest_of_short hshort, nearest_of_dvd]
    rw [hlog]
    exact (Nat.pow_dvd_pow 2 (by omega)).mul_left n

/-- Rounding stays on the same side of a power of two. -/
theorem nearest_le_two_pow {n : Nat} : nearest n ≤ 2 ^ (n.log2 + 1) := by
  have hpow : 2 ^ (n.log2 - 52) ∣ 2 ^ (n.log2 + 1) := Nat.pow_dvd_pow 2 (by omega)
  calc nearest n ≤ roundHalfEven (2 ^ (n.log2 + 1)) (2 ^ (n.log2 - 52)) * 2 ^ (n.log2 - 52) :=
        Nat.mul_le_mul_right _ (roundHalfEven_mono _ Nat.lt_log2_self.le)
    _ = 2 ^ (n.log2 + 1) := roundHalfEven_mul_of_dvd (Nat.two_pow_pos _) hpow

theorem two_pow_le_nearest {n : Nat} (hn : n ≠ 0) : 2 ^ n.log2 ≤ nearest n := by
  have hpow : 2 ^ (n.log2 - 52) ∣ 2 ^ n.log2 := Nat.pow_dvd_pow 2 (by omega)
  calc 2 ^ n.log2 = roundHalfEven (2 ^ n.log2) (2 ^ (n.log2 - 52)) * 2 ^ (n.log2 - 52) :=
        (roundHalfEven_mul_of_dvd (Nat.two_pow_pos _) hpow).symm
    _ ≤ nearest n := Nat.mul_le_mul_right _ (roundHalfEven_mono _ (Nat.log2_self_le hn))

theorem nearest_mono : Monotone nearest := by
  intro n n' h
  rcases Nat.eq_zero_or_pos n with rfl | hn
  · simp [nearest_of_short]
  have hlog : n.log2 ≤ n'.log2 := by
    rw [Nat.le_log2 (by omega)]
    exact (Nat.log2_self_le hn.ne').trans h
  rcases Nat.lt_or_eq_of_le hlog with hlt | heq
  · calc nearest n ≤ 2 ^ (n.log2 + 1) := nearest_le_two_pow
      _ ≤ 2 ^ n'.log2 := Nat.pow_le_pow_right (by decide) hlt
      _ ≤ nearest n' := two_pow_le_nearest (by omega)
  · rw [nearest, nearest, heq]
    exact Nat.mul_le_mul_right _ (roundHalfEven_mono _ h)

/-! ## Units -/

/-- The form that doubles are unpacked to: a mantissa of 53 bits, or one of fewer bits with the
least exponent. -/
def Reduced : UnpackedFloat → Prop
  | .finite _ m e _ => m < 2 ^ 53 ∧ -1074 ≤ e ∧ e ≤ 971 ∧ (2 ^ 52 ≤ m ∨ e = -1074)
  | _ => True

theorem reduced_unpack_bits (b : BitVec Format.binary64.numBits) :
    Reduced (UnpackedFloat.unpack .binary64 b) := by
  have hbias : (Format.binary64.exponentBias : Int) = 1023 := rfl
  rw [UnpackedFloat.unpack]
  have hm : (unpackMantissa b).toNat < 2 ^ 52 := (unpackMantissa b).isLt
  have he : (unpackExponent b).toNat < 2 ^ 11 := (unpackExponent b).isLt
  split
  · split <;> trivial
  · next hones =>
    have hones : (unpackExponent b).toNat ≠ 2047 := fun h => hones (BitVec.eq_of_toNat_eq h)
    split
    · next hzero =>
      split
      · trivial
      · simp only [Reduced, hzero, BitVec.toNat_zero, hbias]
        omega
    · next hzero =>
      have hzero : (unpackExponent b).toNat ≠ 0 := fun h => hzero (BitVec.eq_of_toNat_eq h)
      simp only [Reduced, toNat_one_append, hbias]
      omega

/-- The units in a mantissa with an exponent. -/
def magnitude (m : Nat) (e : Int) : Nat := m * 2 ^ (e + 1074).toNat

/-- The number of units from which on doubles are infinite. -/
@[irreducible] def overflow : Nat := magnitude (2 ^ 52) 972

/-- The units in a double. -/
def unitsOf : UnpackedFloat → ℤ
  | .notANumber => 0
  | .infinity s => s.apply overflow
  | .zero _ => 0
  | .finite s m e _ => s.apply (magnitude m e)

def units (x : Float) : ℤ := unitsOf x.toModel.unpack

theorem magnitude_pos {m : Nat} (hm : 0 < m) (e : Int) : 0 < magnitude m e :=
  Nat.mul_pos hm (Nat.two_pow_pos _)

/-- A greater exponent outweighs every mantissa. -/
theorem magnitude_lt_of_lt {m m' : Nat} {e e' : Int} (hm : m < 2 ^ 53) (he : -1074 ≤ e)
    (hlt : e < e') (hm' : 2 ^ 52 ≤ m') : magnitude m e < magnitude m' e' := by
  have hexp : 53 + (e + 1074).toNat ≤ 52 + (e' + 1074).toNat := by omega
  calc magnitude m e < 2 ^ 53 * 2 ^ (e + 1074).toNat :=
        Nat.mul_lt_mul_of_pos_right hm (Nat.two_pow_pos _)
    _ = 2 ^ (53 + (e + 1074).toNat) := (Nat.pow_add 2 53 _).symm
    _ ≤ 2 ^ (52 + (e' + 1074).toNat) := Nat.pow_le_pow_right (by decide) hexp
    _ = 2 ^ 52 * 2 ^ (e' + 1074).toNat := Nat.pow_add 2 52 _
    _ ≤ magnitude m' e' := Nat.mul_le_mul_right _ hm'

theorem magnitude_lt_overflow {m : Nat} {e : Int} (hm : m < 2 ^ 53) (he : -1074 ≤ e)
    (he' : e ≤ 971) : magnitude m e < overflow := by
  unfold overflow
  exact magnitude_lt_of_lt hm he (by omega) le_rfl

theorem overflow_le_magnitude {m : Nat} {e : Int} (hm : 2 ^ 52 ≤ m) (he : 972 ≤ e) :
    overflow ≤ magnitude m e := by
  unfold overflow
  exact Nat.mul_le_mul hm (Nat.pow_le_pow_right (by decide) (by omega))

theorem Reduced.magnitude_lt {s s' : Sign} {m m' : Nat} {e e' : Int} {hm : 0 < m} {hm' : 0 < m'}
    (h : Reduced (.finite s m e hm)) (h' : Reduced (.finite s' m' e' hm'))
    (hlt : e < e' ∨ e = e' ∧ m < m') : magnitude m e < magnitude m' e' := by
  obtain ⟨hm, he, -, -⟩ := h
  rcases hlt with hlt | ⟨rfl, hlt⟩
  · exact magnitude_lt_of_lt hm he hlt (h'.2.2.2.resolve_right (by omega))
  · exact Nat.mul_lt_mul_of_pos_right hlt (Nat.two_pow_pos _)

theorem overflow_pos : 0 < overflow := by
  unfold overflow
  exact magnitude_pos (by decide) _

/-- A finite double that is not zero has units, but fewer than an infinite one. -/
theorem Reduced.unitsOf_bounds {u : UnpackedFloat} (h : Reduced u) : match u with
    | .finite _ m e _ => 0 < magnitude m e ∧ magnitude m e < overflow
    | _ => 0 < overflow := by
  cases u with
  | finite s m e hm => exact ⟨magnitude_pos hm e, magnitude_lt_overflow h.1 h.2.1 h.2.2.1⟩
  | _ => exact overflow_pos

theorem unitsOf_lt_of_rankOf_lt {u v : UnpackedFloat} (hu : Reduced u) (hv : Reduced v)
    (hun : u ≠ .notANumber) (hvn : v ≠ .notANumber) (h : rankOf u < rankOf v) :
    unitsOf u < unitsOf v := by
  have hub := hu.unitsOf_bounds
  have hvb := hv.unitsOf_bounds
  rcases u with (_ | _) | _ | _ | ⟨_ | _, m, e, hm⟩ <;>
    rcases v with (_ | _) | _ | _ | ⟨_ | _, m', e', hm'⟩ <;>
    simp [rankOf, Prod.Lex.toLex_lt_toLex] at hun hvn h <;>
    simp only [unitsOf, Sign.apply] at hub hvb ⊢ <;> try omega
  · have := hv.magnitude_lt hu (by tauto)
    omega
  · exact Int.ofNat_lt.2 (hu.magnitude_lt hv h)

theorem unitsOf_eq_of_rankOf_eq {u v : UnpackedFloat} (hun : u ≠ .notANumber)
    (hvn : v ≠ .notANumber) (h : rankOf u = rankOf v) : unitsOf u = unitsOf v := by
  rcases u with (_ | _) | _ | _ | ⟨_ | _, m, e, hm⟩ <;>
    rcases v with (_ | _) | _ | _ | ⟨_ | _, m', e', hm'⟩ <;>
    simp_all [rankOf, unitsOf]

theorem reduced_unpack (x : Float) : Reduced x.toModel.unpack := reduced_unpack_bits _

section

variable {x y : Float} (hx : x.isNaN = false) (hy : y.isNaN = false)

include hx hy

theorem rank_lt_iff_units : rank x < rank y ↔ units x < units y := by
  have hxn := unpack_ne_of_isNaN hx
  have hyn := unpack_ne_of_isNaN hy
  have hmono : ∀ {u v : Float}, u.toModel.unpack ≠ .notANumber → v.toModel.unpack ≠ .notANumber →
      rank u < rank v → units u < units v := fun hu hv h =>
    unitsOf_lt_of_rankOf_lt (reduced_unpack _) (reduced_unpack _) hu hv h
  refine ⟨hmono hxn hyn, fun h => ?_⟩
  rcases lt_trichotomy (rank x) (rank y) with hlt | heq | hgt
  · exact hlt
  · exact absurd (unitsOf_eq_of_rankOf_eq hxn hyn heq) h.ne
  · exact absurd (hmono hyn hxn hgt) h.not_gt

/-- Doubles are compared as their units are. -/
theorem lt_iff_units : x < y ↔ units x < units y :=
  (lt_iff_rank hx hy).trans (rank_lt_iff_units hx hy)

theorem le_iff_units : x ≤ y ↔ units x ≤ units y := by
  rw [le_iff_rank hx hy, ← not_lt, rank_lt_iff_units hy hx, not_lt]

theorem beq_iff_units : (x == y) = true ↔ units x = units y := by
  rw [beq_iff_rank hx hy, le_antisymm_iff, le_antisymm_iff, ← not_lt, ← not_lt,
    rank_lt_iff_units hx hy, rank_lt_iff_units hy hx, not_lt, not_lt]

end

/-- Finite doubles have fewer units than infinite ones. -/
theorem Reduced.isFinite_iff {u : UnpackedFloat} (h : Reduced u) (hn : u ≠ .notANumber) :
    u.isFinite = true ↔ -overflow < unitsOf u ∧ unitsOf u < overflow := by
  have hbounds := h.unitsOf_bounds
  rcases u with (_ | _) | _ | _ | ⟨_ | _, m, e, hm⟩ <;>
    simp only [UnpackedFloat.isFinite, unitsOf, Sign.apply, Bool.false_eq_true, true_iff,
      false_iff] at hbounds ⊢
  · omega
  · omega
  · exact absurd rfl hn
  · omega
  · omega
  · omega

theorem isFinite_iff_units {x : Float} (hx : x.isNaN = false) :
    x.isFinite = true ↔ -overflow < units x ∧ units x < overflow :=
  (reduced_unpack x).isFinite_iff (unpack_ne_of_isNaN hx)

/-! ## Rounding -/

/-- A number of units, rounded to those of a double. -/
def rounded (n : ℤ) : ℤ := n.sign * (min (nearest n.natAbs) overflow : Nat)

theorem rounded_natCast (n : Nat) : rounded n = (min (nearest n) overflow : Nat) := by
  rcases Nat.eq_zero_or_pos n with rfl | hn
  · simp [rounded, nearest_of_short]
  · rw [rounded, Int.sign_natCast_of_ne_zero hn.ne', Int.natAbs_natCast, Int.one_mul]

theorem rounded_neg (n : ℤ) : rounded (-n) = -rounded n := by
  simp [rounded]

theorem rounded_apply (s : Sign) (n : Nat) :
    rounded (s.apply n) = s.apply (min (nearest n) overflow : Nat) := by
  cases s with
  | positive => exact rounded_natCast n
  | negative => exact (rounded_neg n).trans (congrArg _ (rounded_natCast n))

theorem rounded_mono : Monotone rounded := by
  have hnat : ∀ {a b : Nat}, a ≤ b → rounded a ≤ rounded b := by
    intro a b hab
    rw [rounded_natCast, rounded_natCast]
    exact Int.ofNat_le.2 (min_le_min_right overflow (nearest_mono hab))
  intro a b hab
  obtain ⟨m, rfl | rfl⟩ := a.eq_nat_or_neg <;> obtain ⟨n, rfl | rfl⟩ := b.eq_nat_or_neg
  · exact hnat (Int.ofNat_le.1 hab)
  · obtain rfl : m = 0 := by omega
    obtain rfl : n = 0 := by omega
    exact le_rfl
  · rw [rounded_neg, rounded_natCast, rounded_natCast]
    omega
  · rw [rounded_neg, rounded_neg]
    exact Int.neg_le_neg (hnat (by omega))

/-- The double is the number of units, rounded. -/
structure Rounds (n : ℤ) (x : Float) : Prop where
  number : x.isNaN = false
  units : units x = rounded n

theorem Rounds.le {n n' : ℤ} {x x' : Float} (h : Rounds n x) (h' : Rounds n' x') (hle : n ≤ n') :
    x ≤ x' := by
  rw [le_iff_units h.number h'.number, h.units, h'.units]
  exact rounded_mono hle

theorem nearest_magnitude {m : Nat} (hm : m < 2 ^ 53) (e : Int) :
    nearest (magnitude m e) = magnitude m e := by
  rw [magnitude, nearest_mul_two_pow, nearest_of_short hm]

/-- The units of a double are not rounded. -/
theorem rounded_unitsOf {u : UnpackedFloat} (h : Reduced u) : rounded (unitsOf u) = unitsOf u := by
  have hbounds := h.unitsOf_bounds
  cases u with
  | notANumber => simp [unitsOf, rounded]
  | zero s => simp [unitsOf, rounded]
  | infinity s =>
    have hoverflow : nearest overflow = overflow := by
      unfold overflow
      exact nearest_magnitude (by decide) 972
    rw [unitsOf, rounded_apply, hoverflow, min_self]
  | finite s m e hm =>
    rw [unitsOf, rounded_apply, nearest_magnitude h.1, min_eq_left hbounds.2.le]

theorem rounds_self {x : Float} (hx : x.isNaN = false) : Rounds (Number.units x) x :=
  ⟨hx, (rounded_unitsOf (reduced_unpack x)).symm⟩

/-! ## Packing -/

theorem rounds_of_unpack {x : Float} {u : UnpackedFloat} {n : ℤ} (h : x.toModel.unpack = u)
    (hn : u ≠ .notANumber) (hunits : unitsOf u = rounded n) : Rounds n x := by
  have hnan : x.isNaN = x.toModel.unpack.isNaN := rfl
  refine ⟨?_, by rw [Number.units, h, hunits]⟩
  rw [hnan, h]
  cases u with
  | notANumber => exact absurd rfl hn
  | _ => rfl

theorem unpack_pack_of_reduced {u : UnpackedFloat} (h : Reduced u) :
    (Float.Model.pack u).unpack = u := by
  cases u with
  | notANumber => rfl
  | infinity s => cases s <;> rfl
  | zero s => cases s <;> rfl
  | finite s m e hm =>
    obtain ⟨hhigh, he, he', hlow⟩ := h
    by_cases hlong : 2 ^ 52 ≤ m
    · exact unpack_pack s hm hlong hhigh he he'
    · obtain rfl := hlow.resolve_left hlong
      exact unpack_pack_subnormal s hm (by omega)

theorem rounds_of_reduced {u : UnpackedFloat} (h : Reduced u) (hn : u ≠ .notANumber) :
    Rounds (unitsOf u) (.ofModel (Float.Model.pack u)) :=
  rounds_of_unpack (unpack_pack_of_reduced h) hn (rounded_unitsOf h).symm

/-- A rounded mantissa is packed into the double that it is, or into an infinite one. -/
theorem rounds_pack (s : Sign) {m n : Nat} {e : Int} (hm : 0 < m) (hhigh : m < 2 ^ 53)
    (he : -1074 ≤ e) (hlow : 2 ^ 52 ≤ m ∨ e = -1074) (hn : magnitude m e = nearest n) :
    Rounds (s.apply n) (.ofModel (Float.Model.pack (.finite s m e hm))) := by
  by_cases hlarge : 972 ≤ e
  · have hmin := min_eq_right (overflow_le_magnitude (hlow.resolve_right (by omega)) hlarge)
    rw [pack_overflow s hm hlarge]
    refine rounds_of_unpack (unpack_pack_of_reduced (u := .infinity s) trivial) (by simp) ?_
    rw [unitsOf, rounded_apply, ← hn, hmin]
  · have hreduced : Reduced (.finite s m e hm) := ⟨hhigh, he, by omega, hlow⟩
    have hmin := min_eq_left (magnitude_lt_overflow hhigh he (by omega)).le
    refine rounds_of_unpack (unpack_pack_of_reduced hreduced) (by simp) ?_
    rw [unitsOf, rounded_apply, ← hn, hmin]

theorem magnitude_add (m : Nat) {e : Int} (he : -1074 ≤ e) (k : Nat) :
    magnitude m (e + k) = magnitude (m * 2 ^ k) e := by
  have hexp : (e + k + 1074).toNat = k + (e + 1074).toNat := by omega
  rw [magnitude, magnitude, hexp, Nat.pow_add, Nat.mul_assoc]

/-- A mantissa that has all its bits is rounded as the number of its units is. -/
theorem rounds_roundWithAccuracy (s : Sign) {m : Nat} {e : Int} (hm : 0 < m) (he : -1074 ≤ e)
    (hlow : 2 ^ 52 ≤ m ∨ e = -1074) : Rounds (s.apply (magnitude m e))
      (.ofModel (Float.Model.pack (roundWithAccuracy .binary64 s m e .exact))) := by
  obtain ⟨k, M, hM, -, hMhigh, hMlow, hk, hround, hvalue⟩ :=
    roundWithAccuracy_eq s hm Nat.one_pos (holds_exact m) rfl (e := e) (by omega)
  rw [hround]
  refine rounds_pack s hM hMhigh (by omega) ?_ ?_
  · rcases hlow with hlong | rfl
    · exact .inl (hMlow hlong)
    · rcases hk with hk | rfl
      · exact .inl hk
      · by_cases hlong : 2 ^ 52 ≤ m
        · exact .inl (hMlow hlong)
        · have := (Nat.log2_lt hm.ne').2 (not_le.1 hlong)
          omega
  · rw [magnitude_add _ (by omega), hvalue, magnitude_add _ he, Nat.one_mul, magnitude, magnitude,
      nearest_mul_two_pow, nearest]

theorem rounds_round (s : Sign) {m : Nat} {e : Int} (hm : 0 < m) (he : -1074 ≤ e) :
    Rounds (s.apply (magnitude m e))
      (.ofModel (Float.Model.pack (UnpackedFloat.round .binary64 s m e))) := by
  obtain ⟨k, hk⟩ : ∃ k, (e - Format.binary64.targetExponent (totalExponent m e)).toNat = k :=
    ⟨_, rfl⟩
  have hpow := Nat.two_pow_pos k
  rw [UnpackedFloat.round, decreaseExponent, hk]
  simp only [Format.targetExponent, totalExponent, Format.mantissaBits, Format.minExponent] at hk
  have hsame : magnitude (m * 2 ^ k) (e - k) = magnitude m e := by
    rw [← magnitude_add m (by omega) k, Int.sub_add_cancel]
  rw [← hsame, Nat.shiftLeft_eq]
  refine rounds_roundWithAccuracy s (Nat.mul_pos hm hpow) (by omega) ?_
  by_cases hlog : 52 ≤ (m * 2 ^ k).log2
  · exact .inl ((Nat.le_log2 (Nat.mul_pos hm hpow).ne').1 hlog)
  · rw [log2_mul_two_pow hm.ne'] at hlog
    omega

theorem apply_magnitude (s : Sign) (m : Nat) (e : Int) :
    s.apply (magnitude m e) = s.apply m * 2 ^ (e + 1074).toNat := by
  cases s <;> simp [Sign.apply, magnitude]

theorem rounds_normalize (n : ℤ) {e : Int} (he : -1074 ≤ e) :
    Rounds (n * 2 ^ (e + 1074).toNat)
      (.ofModel (Float.Model.pack (UnpackedFloat.normalize .binary64 n e .positive))) := by
  rcases Int.lt_trichotomy n 0 with hneg | rfl | hpos
  · obtain ⟨m, rfl⟩ : ∃ m : Nat, n = Sign.negative.apply m :=
      ⟨(-n).toNat, by simp only [Sign.apply]; omega⟩
    have hm : 0 < m := by
      simp only [Sign.apply] at hneg
      omega
    rw [UnpackedFloat.normalize, Int.compare_eq_lt.2 hneg, ← apply_magnitude]
    simpa [Sign.apply] using rounds_round .negative hm he
  · rw [Int.zero_mul]
    exact rounds_of_reduced (u := .zero .positive) trivial (by simp)
  · obtain ⟨m, rfl⟩ : ∃ m : Nat, n = Sign.positive.apply m :=
      ⟨n.toNat, by simp only [Sign.apply]; omega⟩
    have hm : 0 < m := by
      simp only [Sign.apply] at hpos
      omega
    rw [UnpackedFloat.normalize, Int.compare_eq_gt.2 hpos, ← apply_magnitude]
    simpa [Sign.apply] using rounds_round .positive hm he

/-! ## Differences and whole numbers -/

/-- A mantissa brought to a smaller exponent keeps its units. -/
theorem apply_decreaseExponent (s : Sign) (m : Nat) {e e' : Int} (he' : -1074 ≤ e') (h : e' ≤ e) :
    s.apply (decreaseExponent m e e').1 * 2 ^ (e' + 1074).toNat = s.apply (magnitude m e) := by
  have hexp : e = e' + (e - e').toNat := by omega
  rw [decreaseExponent, ← apply_magnitude, Nat.shiftLeft_eq, ← magnitude_add m he', ← hexp]

/-- The difference of finite doubles is that of their units, rounded. -/
theorem rounds_sub {x y : Float} (hx : x.isFinite = true) (hy : y.isFinite = true) :
    Rounds (Number.units x - Number.units y) (x - y) := by
  have hsub : x - y = .ofModel (Float.Model.pack
    (UnpackedFloat.sub .binary64 x.toModel.unpack y.toModel.unpack)) := rfl
  have hxr := reduced_unpack x
  have hyr := reduced_unpack y
  have hxf : x.toModel.unpack.isFinite = true := hx
  have hyf : y.toModel.unpack.isFinite = true := hy
  rw [hsub, Number.units, Number.units]
  generalize x.toModel.unpack = u at *
  generalize y.toModel.unpack = v at *
  rcases u with _ | _ | s | ⟨s, m, e, hm⟩ <;> rcases v with _ | _ | s' | ⟨s', m', e', hm'⟩ <;>
    simp only [UnpackedFloat.isFinite, Bool.false_eq_true] at hxf hyf
  · obtain ⟨t, ht⟩ : ∃ t, UnpackedFloat.sub .binary64 (.zero s) (.zero s') = .zero t := by
      cases s <;> cases s' <;> exact ⟨_, rfl⟩
    rw [ht]
    exact rounds_of_reduced (u := .zero t) trivial (by simp)
  · have hneg : unitsOf (.finite (-s') m' e' hm') =
        unitsOf (.zero s) - unitsOf (.finite s' m' e' hm') := by
      cases s' <;> simp [unitsOf, Sign.apply]
    rw [← hneg]
    exact rounds_of_reduced (u := .finite (-s') m' e' hm') hyr (by simp)
  · rw [show unitsOf (.zero s') = 0 from rfl, Int.sub_zero]
    exact rounds_of_reduced hxr (by simp)
  · have hmin : -1074 ≤ min e e' := le_min hxr.2.1 hyr.2.1
    have hround := rounds_normalize (s.apply (decreaseExponent m e (min e e')).1 -
      s'.apply (decreaseExponent m' e' (min e e')).1) hmin
    rw [Int.sub_mul, apply_decreaseExponent s m hmin (min_le_left e e'),
      apply_decreaseExponent s' m' hmin (min_le_right e e')] at hround
    exact hround

theorem rounds_ofNat (n : Nat) : Rounds (magnitude n 0) (Float.ofNat n) := by
  by_cases hshort : n < 2 ^ 53
  · have hunits : (magnitude n 0 : ℤ) = units (Float.ofNat n) := by
      rcases Nat.eq_zero_or_pos n with rfl | hn
      · rw [magnitude, Nat.zero_mul]
        rfl
      · obtain ⟨hlog, -⟩ := mantissa_bounds hn hshort
        have hexp : (0 : ℤ) = (n.log2 - 52) + (52 - n.log2 : Nat) := by omega
        rw [units, unpack_ofNat hn hshort (Nat.mul_pos hn (Nat.two_pow_pos _)), unitsOf,
          ← magnitude_add n (by omega), ← hexp]
        rfl
    rw [hunits]
    exact rounds_self (isNaN_of_isFinite (isFinite_ofNat (by omega)))
  · have hround := rounds_roundWithAccuracy .positive (m := n * 2 ^ 53) (e := -53) (by omega)
      (by omega) (by omega)
    rw [← toModel_ofNat_long (by omega), ← magnitude_add n (by omega) 53] at hround
    exact hround

/-! ## Signs, quotients and extremes -/

theorem units_zero : units 0.0 = 0 := rfl

/-- The least double is not rounded to zero. -/
theorem rounded_pos_iff {n : ℤ} : 0 < rounded n ↔ 0 < n := by
  have hzero : rounded 0 = 0 := rounded_unitsOf (u := .zero .positive) trivial
  have hone : rounded 1 = 1 := by
    have hround := rounded_natCast 1
    rw [nearest_of_short (by decide), min_eq_left (Nat.succ_le_of_lt overflow_pos)] at hround
    exact hround
  rcases Int.lt_or_le 0 n with hpos | hle
  · have hle : rounded 1 ≤ rounded n := rounded_mono hpos
    omega
  · have := rounded_mono hle
    omega

theorem Rounds.pos_iff {n : ℤ} {x : Float} (h : Rounds n x) : 0.0 < x ↔ 0 < n := by
  rw [lt_iff_units rfl h.number, units_zero, h.units, rounded_pos_iff]

theorem Rounds.neg_iff {n : ℤ} {x : Float} (h : Rounds n x) : x < 0.0 ↔ n < 0 := by
  rw [lt_iff_units h.number rfl, units_zero, h.units, ← neg_pos, ← rounded_neg, rounded_pos_iff,
    neg_pos]

/-- Positive doubles have units, but fewer than an infinite one. -/
theorem isPositive_iff_units {x : Float} (hx : x.isNaN = false) :
    Prices.isPositive x = true ↔ 0 < units x ∧ units x < overflow := by
  have hpos : 0.0 < x ↔ 0 < units x := lt_iff_units rfl hx
  rw [Prices.isPositive, Bool.and_eq_true, decide_eq_true_iff, isFinite_iff_units hx, hpos]
  omega

theorem div_self_of_isPositive {x : Float} (h : Prices.isPositive x = true) : x / x = 1.0 := by
  obtain ⟨m, e, hm, hx⟩ := isPositive_iff.1 h
  have hcore : divCore .binary64 m e m e = (2 ^ 52 * 2 ^ 1, -53, .exact) := by
    have htarget :
        Format.binary64.targetExponent (totalExponent m e - totalExponent m e) = -53 := by
      rw [Int.sub_self]
      rfl
    have hmin : min (e - e) (-53) = -53 := by omega
    have hshift : (e - e - -53).toNat = 53 := by omega
    simp only [divCore, htarget, hmin, hshift, Nat.shiftLeft_eq, Nat.mul_div_cancel_left _ hm,
      Nat.mul_mod_right, accuracyOfFraction, if_true]
    rfl
  have hdiv : x / x = .ofModel (Float.Model.pack
      (UnpackedFloat.div .binary64 x.toModel.unpack x.toModel.unpack)) := rfl
  rw [hdiv, hx, UnpackedFloat.div, hcore]
  simp only
  rw [roundWithAccuracy_exact _ (by decide) le_rfl (by decide) (by omega)]
  rfl

theorem zero_div_of_isPositive {x : Float} (h : Prices.isPositive x = true) : 0.0 / x = 0.0 := by
  obtain ⟨m, e, hm, hx⟩ := isPositive_iff.1 h
  have hdiv : 0.0 / x = .ofModel (Float.Model.pack
      (UnpackedFloat.div .binary64 (.zero .positive) x.toModel.unpack)) := rfl
  rw [hdiv, hx]
  rfl

theorem picks_smaller_units : Picks smaller units := by
  intro x y hy
  rw [picks_smaller x y hy]
  cases hx : x.isNaN with
  | true => rfl
  | false => simp only [rank_lt_iff_units hy hx]

theorem picks_larger_units : Picks larger (OrderDual.toDual ∘ units) := by
  intro x y hy
  rw [picks_larger x y hy]
  cases hx : x.isNaN with
  | true => rfl
  | false => simp only [Function.comp_apply, OrderDual.toDual_lt_toDual, rank_lt_iff_units hx hy]

theorem smaller_of_le {x y : Float} (hx : x.isNaN = false) (hy : y.isNaN = false) (h : x ≤ y) :
    smaller x y = x :=
  picks_smaller_units.of_key_le hx hy ((le_iff_units hx hy).1 h)

theorem larger_of_le {x y : Float} (hx : x.isNaN = false) (hy : y.isNaN = false) (h : y ≤ x) :
    larger x y = x :=
  picks_larger_units.of_key_le hx hy ((le_iff_units hy hx).1 h)

theorem units_smaller {x y : Float} (hx : x.isNaN = false) (hy : y.isNaN = false) :
    (smaller x y).isNaN = false ∧ units (smaller x y) = min (units x) (units y) :=
  picks_smaller_units.key_eq hx hy

theorem units_larger {x y : Float} (hx : x.isNaN = false) (hy : y.isNaN = false) :
    (larger x y).isNaN = false ∧ units (larger x y) = max (units x) (units y) :=
  picks_larger_units.key_eq hx hy

end MarketChart.Number
