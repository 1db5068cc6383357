import Mathlib
import MarketChart.Candle.Basic

/-!
# Seconds out of milliseconds

A time in milliseconds that a double holds exactly is divided by a thousand, rounded to the nearest
double, and rounded down. Up to `2 ^ 53` the result is the floor of the exact quotient
(`Number.floor_ofInt_div_thousand`), for times before the epoch too.

Rounding moves the quotient by half a unit in the last place at most, which is below a thousandth
as long as the quotient is below `2 ^ 44`. The quotient of whole milliseconds is a whole number of
seconds, or at least a thousandth away from one, so rounding never crosses a whole second
(`div_eq_div_of_near`). What the rounding steps keep is that the bits of a mantissa still hold one
and the same quotient (`Holds`).
-/

namespace MarketChart.Number

open Float.Model
open Float.Model.UnpackedFloat

/-! ## Rounding a mantissa -/

/-- The mantissa and the two bits after it hold the quotient `n / d` : the mantissa is its floor,
and the bits say how the rest compares with zero and with one half. -/
structure Holds (em : ExtendedMantissa) (n d : Nat) : Prop where
  mantissa : em.mantissa = n / d
  round : em.roundBit = decide (d ≤ 2 * (n % d))
  sticky : em.stickyBit = decide (n % d ≠ 0 ∧ 2 * (n % d) ≠ d)

theorem holds_exact (m : Nat) : Holds (.ofMantissaAndAccuracy m .exact) m 1 := by
  refine ⟨?_, ?_, ?_⟩ <;> simp [ExtendedMantissa.ofMantissaAndAccuracy, Nat.mod_one]

theorem holds_fraction (n : Nat) {d : Nat} (hd : 0 < d) :
    Holds (.ofMantissaAndAccuracy (n / d) (accuracyOfFraction (n % d) d)) n d := by
  have hlt := Nat.mod_lt n hd
  unfold accuracyOfFraction
  split
  · next h => refine ⟨?_, ?_, ?_⟩ <;> simp [ExtendedMantissa.ofMantissaAndAccuracy, h, hd.ne']
  · next h =>
    rcases Nat.lt_trichotomy (2 * (n % d)) d with hc | hc | hc
    · rw [Nat.compare_eq_lt.2 hc]
      refine ⟨?_, ?_, ?_⟩ <;> simp [ExtendedMantissa.ofMantissaAndAccuracy] <;> omega
    · rw [Nat.compare_eq_eq.2 hc]
      refine ⟨?_, ?_, ?_⟩ <;> simp [ExtendedMantissa.ofMantissaAndAccuracy] <;> omega
    · rw [Nat.compare_eq_gt.2 hc]
      refine ⟨?_, ?_, ?_⟩ <;> simp [ExtendedMantissa.ofMantissaAndAccuracy] <;> omega

/-- Shifting a mantissa to the right halves the quotient that it holds. -/
theorem Holds.shiftRightOne {em : ExtendedMantissa} {n d : Nat} (hd : 0 < d) (h : Holds em n d) :
    Holds em.shiftRightOne n (d * 2) := by
  have hdiv : n / (d * 2) = n / d / 2 := (Nat.div_div_eq_div_mul n d 2).symm
  have hmod : n % (d * 2) = n % d + d * (n / d % 2) := Nat.mod_mul
  have hlt := Nat.mod_lt n hd
  have hbit : n / d % 2 = 0 ∨ n / d % 2 = 1 := by omega
  have hround : em.shiftRightOne.roundBit = (n / d % 2 != 0) := by
    rw [ExtendedMantissa.shiftRightOne, h.mantissa]
  have hsticky : em.shiftRightOne.stickyBit =
      (decide (d ≤ 2 * (n % d)) || decide (n % d ≠ 0 ∧ 2 * (n % d) ≠ d)) := by
    rw [ExtendedMantissa.shiftRightOne, h.round, h.sticky]
  refine ⟨by rw [ExtendedMantissa.shiftRightOne, h.mantissa, hdiv], ?_, ?_⟩
  · rw [hround, hmod, Bool.eq_iff_iff]
    rcases hbit with hb | hb <;> simp [hb] <;> omega
  · rw [hsticky, hmod, Bool.eq_iff_iff]
    rcases hbit with hb | hb <;> simp [hb] <;> omega

theorem Holds.shiftRight {em : ExtendedMantissa} {n d : Nat} (hd : 0 < d) (h : Holds em n d) :
    ∀ k : Nat, Holds (em >>> k) n (d * 2 ^ k)
  | 0 => by simpa [HShiftRight.hShiftRight, Nat.repeat] using h
  | k + 1 => by
    have ih := (h.shiftRight hd k).shiftRightOne (Nat.mul_pos hd (Nat.two_pow_pos k))
    rw [Nat.pow_succ, ← Nat.mul_assoc]
    exact ih

/-- Rounding a mantissa rounds the quotient that it holds. -/
theorem Holds.roundedMantissa_eq {em : ExtendedMantissa} {n d : Nat} (hd : 0 < d)
    (h : Holds em n d) : em.roundedMantissa = roundHalfEven n d := by
  obtain ⟨m, r, s⟩ := em
  obtain ⟨rfl, hr, hs⟩ := h
  simp only at hr hs
  subst hr hs
  rw [ExtendedMantissa.roundedMantissa]
  unfold roundHalfEven
  rcases Nat.lt_trichotomy (2 * (n % d)) d with hlt | heq | hgt
  · have hge : ¬d ≤ 2 * (n % d) := by omega
    by_cases hz : n % d = 0
    · simp [ExtendedMantissa.accuracy, hz, hd.ne', hd, Accuracy.roundToNearestEven]
    · simp [ExtendedMantissa.accuracy, hge, hz, hlt, hlt.ne, Accuracy.roundToNearestEven]
  · simp [ExtendedMantissa.accuracy, heq, Accuracy.roundToNearestEven]
  · have hne : n % d ≠ 0 := by omega
    simp [ExtendedMantissa.accuracy, hgt.le, hgt.ne', hgt.not_gt, hgt, hne,
      Accuracy.roundToNearestEven]

/-- A rounded quotient is the floor or the number after it, and at most one half away. -/
theorem roundHalfEven_near (n : Nat) {d : Nat} (hd : 0 < d) :
    n / d ≤ roundHalfEven n d ∧ roundHalfEven n d ≤ n / d + 1 ∧
      2 * (d * roundHalfEven n d) ≤ 2 * n + d ∧ 2 * n ≤ 2 * (d * roundHalfEven n d) + d := by
  have hn := Nat.div_add_mod n d
  have hlt := Nat.mod_lt n hd
  have hbit : n / d % 2 = 0 ∨ n / d % 2 = 1 := by omega
  unfold roundHalfEven
  simp only
  split_ifs with hdown hup
  · omega
  · rw [Nat.mul_add]
    omega
  · rcases hbit with hbit | hbit <;> rw [hbit, Nat.mul_add] <;> omega

/-- Multiples are not rounded. -/
theorem roundHalfEven_mul_of_dvd {n d : Nat} (hd : 0 < d) (h : d ∣ n) :
    roundHalfEven n d * d = n := by
  have hmod : n % d = 0 := Nat.mod_eq_zero_of_dvd h
  unfold roundHalfEven
  simp only [hmod, Nat.mul_zero, hd, if_true]
  exact Nat.div_mul_cancel h

/-! ## Rounding to a double -/

theorem mantissa_ofMantissaAndAccuracy (m : Nat) (a : Accuracy) :
    (ExtendedMantissa.ofMantissaAndAccuracy m a).mantissa = m := by
  unfold ExtendedMantissa.ofMantissaAndAccuracy
  split <;> rfl

/-- The bits beyond the 53 of a mantissa are shifted out of it. -/
theorem shiftToTargetExponent_eq {m j : Nat} {e : Int} (hlog : m.log2 - 52 = j)
    (he : -1074 ≤ e + j) (a : Accuracy) :
    shiftToTargetExponent .binary64 m e a =
      (ExtendedMantissa.ofMantissaAndAccuracy m a >>> j, e + j) := by
  have hshift : (Format.binary64.targetExponent (totalExponent m e) - e).toNat = j := by
    simp only [Format.targetExponent, totalExponent, Format.mantissaBits, Format.minExponent]
    omega
  rw [shiftToTargetExponent, shiftToExponent, hshift]

/-- Rounding a quotient to a double: the mantissa loses the bits beyond its 53, and one more if
rounding makes it longer. -/
theorem roundWithAccuracy_eq (s : Sign) {m j n d : Nat} {e : Int} {a : Accuracy} (hm : 0 < m)
    (hd : 0 < d) (h : Holds (.ofMantissaAndAccuracy m a) n d) (hlog : m.log2 - 52 = j)
    (he : -1074 ≤ e + j) :
    ∃ (k M : Nat) (hM : 0 < M), k ≤ 1 ∧ M < 2 ^ 53 ∧ (2 ^ 52 ≤ m → 2 ^ 52 ≤ M) ∧
      (2 ^ 52 ≤ M ∨ k = 0) ∧
      roundWithAccuracy .binary64 s m e a = .finite s M (e + j + k) hM ∧
      M * 2 ^ k = roundHalfEven n (d * 2 ^ j) := by
  have hdj : 0 < d * 2 ^ j := Nat.mul_pos hd (Nat.two_pow_pos j)
  have hround := (h.shiftRight hd j).roundedMantissa_eq hdj
  have hbounds := (Nat.log2_eq_iff hm.ne').1 rfl
  have hfloor : n / (d * 2 ^ j) = m / 2 ^ j := by
    rw [← Nat.div_div_eq_div_mul, ← h.mantissa, mantissa_ofMantissaAndAccuracy]
  have hhigh : m / 2 ^ j < 2 ^ 53 := by
    rw [Nat.div_lt_iff_lt_mul (Nat.two_pow_pos j), ← Nat.pow_add]
    exact hbounds.2.trans_le (Nat.pow_le_pow_right (by decide) (by omega))
  have hlow : 2 ^ 52 ≤ m → 2 ^ 52 ≤ m / 2 ^ j := by
    intro hm
    have hlog' := (Nat.le_log2 (by omega)).2 hm
    rw [Nat.le_div_iff_mul_le (Nat.two_pow_pos j), ← Nat.pow_add]
    exact (Nat.pow_le_pow_right (by decide) (by omega)).trans hbounds.1
  have hpos : 0 < m / 2 ^ j := by
    rw [Nat.div_pos_iff]
    exact ⟨Nat.two_pow_pos j, (Nat.pow_le_pow_right (by decide) (by omega)).trans hbounds.1⟩
  obtain ⟨hle, hge, -⟩ := roundHalfEven_near n hdj
  have hfirst := shiftToTargetExponent_eq hlog he a
  generalize ExtendedMantissa.ofMantissaAndAccuracy m a >>> j = em at *
  rw [hfloor] at hle hge
  rw [← hround] at hle hge ⊢
  by_cases hM : em.roundedMantissa < 2 ^ 53
  · have hzero : em.roundedMantissa ≠ 0 := by omega
    have hlogM : em.roundedMantissa.log2 - 52 = 0 := by
      have := (Nat.log2_lt hzero).2 hM
      omega
    have hsecond := shiftToTargetExponent_eq hlogM (e := e + j) (by omega) .exact
    refine ⟨0, em.roundedMantissa, by omega, by omega, hM, fun hm => (hlow hm).trans hle, .inr rfl,
      ?_, by simp⟩
    rw [roundWithAccuracy, hfirst]
    simp only [hsecond]
    simp [HShiftRight.hShiftRight, Nat.repeat, mantissa_ofMantissaAndAccuracy, hzero]
  · have hM : em.roundedMantissa = 2 ^ 53 := by omega
    have hsecond := shiftToTargetExponent_eq (m := 2 ^ 53) (j := 1) (e := e + j)
      (by rw [Nat.log2_two_pow]) (by omega) .exact
    refine ⟨1, 2 ^ 52, by omega, le_rfl, by omega, fun _ => le_rfl, .inl le_rfl, ?_, by omega⟩
    rw [roundWithAccuracy, hfirst]
    simp only [hM, hsecond]
    rfl

theorem log2_mul_two_pow {n : Nat} (hn : n ≠ 0) (k : Nat) : (n * 2 ^ k).log2 = n.log2 + k := by
  obtain ⟨hle, hlt⟩ := (Nat.log2_eq_iff hn).1 rfl
  have hpow := Nat.two_pow_pos k
  refine (Nat.log2_eq_iff (Nat.mul_ne_zero hn hpow.ne')).2 ⟨?_, ?_⟩
  · rw [Nat.pow_add]
    exact Nat.mul_le_mul_right _ hle
  · rw [Nat.add_right_comm, Nat.pow_add]
    exact Nat.mul_lt_mul_of_pos_right hlt hpow

/-- A mantissa of 53 bits is not rounded, whatever zeros stand behind it. -/
theorem roundWithAccuracy_exact (s : Sign) {m j : Nat} {e : Int} (hm : 0 < m) (hlow : 2 ^ 52 ≤ m)
    (hhigh : m < 2 ^ 53) (he : -1074 ≤ e + j) :
    roundWithAccuracy .binary64 s (m * 2 ^ j) e .exact = .finite s m (e + j) hm := by
  have hpow := Nat.two_pow_pos j
  have hlog : (m * 2 ^ j).log2 - 52 = j := by
    rw [log2_mul_two_pow hm.ne', (Nat.log2_eq_iff hm.ne').2 ⟨hlow, hhigh⟩]
    omega
  obtain ⟨k, M, hM, hk, hMhigh, hMlow, -, hround, hvalue⟩ := roundWithAccuracy_eq s
    (Nat.mul_pos hm hpow) Nat.one_pos (holds_exact (m * 2 ^ j)) hlog he
  have hsame : M * 2 ^ k = m := by
    have hexact := roundHalfEven_mul_of_dvd hpow (Nat.dvd_mul_left (2 ^ j) m)
    rw [hvalue, Nat.one_mul]
    exact Nat.eq_of_mul_eq_mul_right hpow hexact
  rcases Nat.le_one_iff_eq_zero_or_eq_one.1 hk with rfl | rfl
  · obtain rfl : M = m := by simpa using hsame
    simpa using hround
  · have := hMlow (hlow.trans (Nat.le_mul_of_pos_right m hpow))
    omega

/-! ## Packing -/

theorem unpackSign_packComponents {spec : Format} (s : Sign) (e : BitVec spec.exponentBits)
    (m : BitVec spec.mantissaBitsWithoutImplicit) :
    unpackSign (packComponents spec s e m) = s.toBitVec := by
  ext i hi
  obtain rfl : i = 0 := by omega
  simp [unpackSign, packComponents, BitVec.getLsbD_eq_getElem, BitVec.getLsbD_append,
    BitVec.getElem_append]

theorem ofBitVec_toBitVec (s : Sign) : Sign.ofBitVec s.toBitVec = s := by cases s <;> rfl

theorem toNat_one_append (m : BitVec 52) : (1#1 ++ m).toNat = 2 ^ 52 + m.toNat := by
  have hone : (1#1).toNat = 1 := rfl
  rw [BitVec.toNat_append, hone, ← Nat.shiftLeft_add_eq_or_of_lt m.isLt, Nat.shiftLeft_eq]
  omega

/-- The leading bit of a mantissa is not stored, and comes back when the double is read. -/
theorem toNat_append_ofNat {m : Nat} (hlow : 2 ^ 52 ≤ m) (hhigh : m < 2 ^ 53) :
    (1#1 ++ BitVec.ofNat 52 m).toNat = m := by
  rw [toNat_one_append, BitVec.toNat_ofNat]
  omega

/-- The biased exponent of a finite double is none of the two that are set apart. -/
theorem ofNat_ne_of_toNat_ne {b : Nat} (hb : b < 2 ^ 11) {x : BitVec 11} (hx : x.toNat ≠ b) :
    BitVec.ofNat 11 b ≠ x := by
  rintro rfl
  rw [BitVec.toNat_ofNat, Nat.mod_eq_of_lt hb] at hx
  exact hx rfl

/-- A double with a mantissa of 53 bits is read back as it was packed. -/
theorem unpack_pack (s : Sign) {m : Nat} {e : Int} (hm : 0 < m) (hlow : 2 ^ 52 ≤ m)
    (hhigh : m < 2 ^ 53) (he : -1074 ≤ e) (he' : e ≤ 971) :
    (Float.Model.pack (.finite s m e hm)).unpack = .finite s m e hm := by
  have hlog : m.log2 = 52 := (Nat.log2_eq_iff hm.ne').2 ⟨hlow, hhigh⟩
  have hbias : (Format.binary64.exponentBias : Int) = 1023 := rfl
  obtain ⟨b, hb⟩ : ∃ b : Nat, e + 1023 + 52 = b := ⟨(e + 1023 + 52).toNat, by omega⟩
  have hpack : UnpackedFloat.pack .binary64 (.finite s m e hm) =
      packComponents .binary64 s (BitVec.ofNat 11 b) (BitVec.ofNat 52 m) := by
    have hbiased : (e + Format.binary64.exponentBias +
        Format.binary64.mantissaBitsWithoutImplicit).toNat = b := by
      have hwidth : (Format.binary64.mantissaBitsWithoutImplicit : Int) = 52 := rfl
      omega
    have hbits : m.log2 + 1 = Format.binary64.mantissaBits := by
      rw [hlog]
      rfl
    have hfits : ¬2 ^ Format.binary64.exponentBits ≤ b + 1 := by
      have hpow : 2 ^ Format.binary64.exponentBits = 2048 := rfl
      omega
    rw [UnpackedFloat.pack, hbiased]
    simp only [hbits, hfits, if_true, if_false]
  have hones : BitVec.ofNat 11 b ≠ -1#11 := by
    refine ofNat_ne_of_toNat_ne (by omega) ?_
    have hall : (-1#11).toNat = 2047 := rfl
    omega
  have hzero : BitVec.ofNat 11 b ≠ 0#11 := by
    refine ofNat_ne_of_toNat_ne (by omega) ?_
    have hnone : (0#11).toNat = 0 := rfl
    omega
  have hunpack : (Float.Model.pack (.finite s m e hm)).unpack =
      UnpackedFloat.unpack .binary64 (UnpackedFloat.pack .binary64 (.finite s m e hm)) := rfl
  have hexponent : ((BitVec.ofNat 11 b).toNat : Int) - (Format.binary64.exponentBias + 52) = e := by
    rw [BitVec.toNat_ofNat, Nat.mod_eq_of_lt (by omega), hbias]
    omega
  rw [hunpack, hpack, UnpackedFloat.unpack]
  simp only [unpackMantissa_packComponents, unpackExponent_packComponents,
    unpackSign_packComponents, ofBitVec_toBitVec, hones, hzero, if_false,
    toNat_append_ofNat hlow hhigh]
  congr 1

/-! ## Whole numbers -/

/-- A whole number of at most 53 bits as a mantissa of 53 bits. -/
theorem mantissa_bounds {n : Nat} (hn : 0 < n) (hlt : n < 2 ^ 53) :
    n.log2 ≤ 52 ∧ 2 ^ 52 ≤ n * 2 ^ (52 - n.log2) ∧ n * 2 ^ (52 - n.log2) < 2 ^ 53 := by
  have hlog : n.log2 ≤ 52 := by
    have := (Nat.log2_lt hn.ne').2 hlt
    omega
  have hlow := Nat.log2_self_le hn.ne'
  have hhigh := Nat.lt_log2_self (n := n)
  have hpow := Nat.two_pow_pos (52 - n.log2)
  refine ⟨hlog, ?_, ?_⟩
  · calc 2 ^ 52 = 2 ^ n.log2 * 2 ^ (52 - n.log2) := by rw [← Nat.pow_add]; congr 1; omega
      _ ≤ n * 2 ^ (52 - n.log2) := Nat.mul_le_mul_right _ hlow
  · calc n * 2 ^ (52 - n.log2) < 2 ^ (n.log2 + 1) * 2 ^ (52 - n.log2) :=
          Nat.mul_lt_mul_of_pos_right hhigh hpow
      _ = 2 ^ 53 := by rw [← Nat.pow_add]; congr 1; omega

theorem round_whole (s : Sign) {n : Nat} (hn : 0 < n) (hlt : n < 2 ^ 53)
    (hm : 0 < n * 2 ^ (52 - n.log2)) :
    UnpackedFloat.round .binary64 s n 0 = .finite s (n * 2 ^ (52 - n.log2)) (n.log2 - 52) hm := by
  obtain ⟨hlog, hlow, hhigh⟩ := mantissa_bounds hn hlt
  have htarget : Format.binary64.targetExponent (totalExponent n 0) = n.log2 - 52 := by
    simp only [Format.targetExponent, totalExponent, Format.mantissaBits, Format.minExponent]
    omega
  have hshift : (0 - ((n.log2 : Int) - 52)).toNat = 52 - n.log2 := by omega
  have hexact := roundWithAccuracy_exact s (j := 0) (e := (n.log2 : Int) - 52) hm hlow hhigh
    (by omega)
  have hexp : (0 : Int) - (52 - n.log2 : Nat) = n.log2 - 52 := by omega
  rw [UnpackedFloat.round, htarget, decreaseExponent, hshift, Nat.shiftLeft_eq]
  simp only [hexp]
  simpa using hexact

/-- A whole number below `2 ^ 53` is a double. -/
theorem unpack_ofNat {n : Nat} (hn : 0 < n) (hlt : n < 2 ^ 53) (hm : 0 < n * 2 ^ (52 - n.log2)) :
    (Float.ofNat n).toModel.unpack =
      .finite .positive (n * 2 ^ (52 - n.log2)) (n.log2 - 52) hm := by
  obtain ⟨hlog, hlow, hhigh⟩ := mantissa_bounds hn hlt
  have hword : n.toUInt64.toNat = n := by
    rw [Nat.toUInt64, UInt64.toNat_ofNat', Nat.mod_eq_of_lt (by omega)]
  have hmodel : (Float.Model.ofUInt64 n.toUInt64).unpack =
      .finite .positive (n * 2 ^ (52 - n.log2)) (n.log2 - 52) hm := by
    have hgt : compare (n : Int) 0 = .gt := Int.compare_eq_gt.2 (by omega)
    rw [Float.Model.ofUInt64, UnpackedFloat.ofUInt64, UnpackedFloat.ofNat, UnpackedFloat.ofInt,
      UnpackedFloat.normalize, hword, hgt]
    simp only [Int.toNat_natCast, round_whole .positive hn hlt hm]
    exact unpack_pack .positive hm hlow hhigh (by omega) (by omega)
  have hone : (Float.ofBits 0x3FF0000000000000).toModel.unpack =
      .finite .positive (2 ^ 52) (-52) (by decide) := rfl
  have hfloat : Float.ofNat n = n.toUInt64.toFloat * Float.ofBits 0x3FF0000000000000 := by
    show Float.ofScientific n false 0 = _
    rw [Float.ofScientific, dif_pos ⟨hlt, by decide⟩]
    rfl
  have hmul : (Float.ofNat n).toModel.unpack = (Float.Model.pack (mul .binary64
      (Float.Model.ofUInt64 n.toUInt64).unpack
      (Float.ofBits 0x3FF0000000000000).toModel.unpack)).unpack := by
    rw [hfloat]
    rfl
  have hexp : (n.log2 : Int) - 52 + -52 + (52 : Nat) = n.log2 - 52 := by omega
  rw [hmul, hmodel, hone, UnpackedFloat.mul, roundWithAccuracy_exact _ hm hlow hhigh (by omega)]
  simp only [hexp]
  exact unpack_pack .positive hm hlow hhigh (by omega) (by omega)

theorem unpack_ofInt (s : Sign) {n : Nat} (hn : 0 < n) (hlt : n < 2 ^ 53)
    (hm : 0 < n * 2 ^ (52 - n.log2)) :
    (Float.ofInt (s.apply n)).toModel.unpack =
      .finite s (n * 2 ^ (52 - n.log2)) (n.log2 - 52) hm := by
  cases s with
  | positive => exact unpack_ofNat hn hlt hm
  | negative =>
    obtain ⟨hlog, hlow, hhigh⟩ := mantissa_bounds hn hlt
    obtain ⟨n, rfl⟩ : ∃ k, n = k + 1 := ⟨n - 1, by omega⟩
    have hneg : (Float.ofInt (Sign.negative.apply (n + 1 : Nat))).toModel.unpack =
        (Float.Model.pack (Float.ofNat (n + 1)).toModel.unpack.neg).unpack := rfl
    rw [hneg, unpack_ofNat hn hlt hm, UnpackedFloat.neg]
    exact unpack_pack .negative hm hlow hhigh (by omega) (by omega)

/-! ## Dividing by a thousand -/

/-- A quotient that is rounded by less than half a thousandth stays between the same whole
numbers. -/
theorem div_eq_div_of_near (s : Sign) {n M P : Nat} (hP : 500 < P) (hle : 1000 * M ≤ n * P + 500)
    (hge : n * P ≤ 1000 * M + 500) : s.apply M / (P : Int) = s.apply n / 1000 := by
  -- With `n = 1000 q + r` the products below are all that is not linear.
  obtain ⟨q, r, hr, rfl⟩ : ∃ q r, r < 1000 ∧ n = 1000 * q + r :=
    ⟨n / 1000, n % 1000, by omega, by omega⟩
  have hrP : r * P ≤ 999 * P := Nat.mul_le_mul_right P (by omega)
  have hrP' : 0 < r → P ≤ r * P := fun h => Nat.le_mul_of_pos_left P h
  rw [Nat.add_mul, Nat.mul_assoc] at hle hge
  cases s with
  | positive =>
    have hfloor : M / P = q := by
      refine Nat.div_eq_of_lt_le ?_ ?_
      · omega
      · rw [Nat.add_mul]
        omega
    simp only [Sign.apply]
    rw [← Int.natCast_ediv, hfloor]
    omega
  | negative =>
    simp only [Sign.apply]
    rw [Int.ediv_eq_iff_of_pos (by omega)]
    rcases Nat.eq_zero_or_pos r with rfl | hpos
    · have hq : -((1000 * q + 0 : Nat) : Int) / 1000 = -q := by omega
      rw [hq, Int.neg_mul]
      omega
    · have hq : -((1000 * q + r : Nat) : Int) / 1000 = -(q + 1) := by omega
      rw [hq, Int.neg_mul, Int.add_mul]
      omega

theorem unpack_thousand : (1000.0 : Float).toModel.unpack =
    .finite .positive (1000 * 2 ^ 43) (-43) (by decide) := rfl

/-- The floor of a double that is read back. -/
theorem floor_pack (s : Sign) {M D : Nat} (hM : 0 < M) (hlow : 2 ^ 52 ≤ M) (hhigh : M < 2 ^ 53)
    (hD : 0 < D) (hD' : D ≤ 1074) :
    floor (.ofModel (Float.Model.pack (.finite s M (-D) hM))) = s.apply M / 2 ^ D := by
  have hread := unpack_pack s hM hlow hhigh (e := -D) (by omega) (by omega)
  have hnat : (-(-(D : Int))).toNat = D := by omega
  simp only [floor, hread, scaledFloor, hnat]
  rw [if_neg (by omega)]
  rfl

theorem log2_thousand : (1000 * 2 ^ 43 : Nat).log2 = 52 :=
  (Nat.log2_eq_iff (by decide)).2 ⟨by decide, by decide⟩

/-- The quotient is computed with at least 53 bits. -/
theorem divCore_thousand {m : Nat} {e : Int} (hlog : m.log2 = 52) (he : -52 ≤ e) :
    divCore .binary64 m e (1000 * 2 ^ 43) (-43) =
      (m * 2 ^ 53 / (1000 * 2 ^ 43), e - 10,
        accuracyOfFraction (m * 2 ^ 53 % (1000 * 2 ^ 43)) (1000 * 2 ^ 43)) := by
  have htarget : Format.binary64.targetExponent
      (totalExponent m e - totalExponent (1000 * 2 ^ 43) (-43)) = e - 10 := by
    simp only [Format.targetExponent, totalExponent, Format.mantissaBits, Format.minExponent, hlog,
      log2_thousand]
    omega
  have hmin : min (e - -43) (e - 10) = e - 10 := by omega
  have hshift : (e - -43 - (e - 10)).toNat = 53 := by omega
  simp only [divCore, htarget, hmin, hshift, Nat.shiftLeft_eq]

theorem log2_quotient {m : Nat} (hlow : 2 ^ 52 ≤ m) (hhigh : m < 2 ^ 53) :
    2 ^ 52 ≤ m * 2 ^ 53 / (1000 * 2 ^ 43) ∧
      ∃ j ≤ 1, (m * 2 ^ 53 / (1000 * 2 ^ 43)).log2 - 52 = j := by
  have hqlow : 2 ^ 52 ≤ m * 2 ^ 53 / (1000 * 2 ^ 43) := by
    rw [Nat.le_div_iff_mul_le (by decide)]
    omega
  have hqhigh : m * 2 ^ 53 / (1000 * 2 ^ 43) < 2 ^ 54 := by
    rw [Nat.div_lt_iff_lt_mul (by decide)]
    omega
  have hlog := (Nat.log2_lt (by omega)).2 hqhigh
  exact ⟨hqlow, _, by omega, rfl⟩

theorem floor_div_thousand (s : Sign) {n : Nat} (hn : 0 < n) (hlt : n < 2 ^ 53) :
    floor (Float.ofInt (s.apply n) / 1000.0) = s.apply n / 1000 := by
  obtain ⟨hlog, hlow, hhigh⟩ := mantissa_bounds hn hlt
  have hm : 0 < n * 2 ^ (52 - n.log2) := by omega
  have hmlog : (n * 2 ^ (52 - n.log2)).log2 = 52 := (Nat.log2_eq_iff hm.ne').2 ⟨hlow, hhigh⟩
  have hdiv : Float.ofInt (s.apply n) / 1000.0 = .ofModel (Float.Model.pack
      (UnpackedFloat.div .binary64 (Float.ofInt (s.apply n)).toModel.unpack
        (1000.0 : Float).toModel.unpack)) := rfl
  have hsign : s / Sign.positive = s := by cases s <;> rfl
  rw [hdiv, unpack_ofInt s hn hlt hm, unpack_thousand, UnpackedFloat.div,
    divCore_thousand hmlog (by omega), hsign]
  simp only
  generalize hk : 52 - n.log2 = k at *
  obtain ⟨hqlow, j, hj, hqlog⟩ := log2_quotient hlow hhigh
  obtain ⟨K, M, hM, hK, hMhigh, hMlow, -, hround, hvalue⟩ :=
    roundWithAccuracy_eq s (by omega) (by decide)
      (holds_fraction (n * 2 ^ k * 2 ^ 53) (by decide)) hqlog (e := (n.log2 : Int) - 52 - 10)
      (by omega)
  replace hMlow := hMlow hqlow
  obtain ⟨-, -, hle, hge⟩ := roundHalfEven_near (n * 2 ^ k * 2 ^ 53)
    (Nat.mul_pos (by decide) (Nat.two_pow_pos j) : 0 < 1000 * 2 ^ 43 * 2 ^ j)
  rw [← hvalue] at hle hge
  have hexp : (n.log2 : Int) - 52 - 10 + j + K = -((k + 10 - j - K : Nat) : Int) := by omega
  simp only [hround, hexp]
  rw [floor_pack s hM hMlow hMhigh (by omega) (by omega)]
  have hscale : s.apply M / (2 : Int) ^ (k + 10 - j - K) =
      s.apply (M * 2 ^ K : Nat) / ((2 ^ (k + 10 - j) : Nat) : Int) := by
    have happly : s.apply (M * 2 ^ K : Nat) = s.apply M * 2 ^ K := by
      cases s <;> simp [Sign.apply]
    have hpow : ((2 ^ (k + 10 - j) : Nat) : Int) = 2 ^ (k + 10 - j - K) * 2 ^ K := by
      rw [← Int.pow_add, Nat.sub_add_cancel (by omega)]
      simp
    rw [happly, hpow, Int.mul_ediv_mul_of_pos_left _ _ (Int.pow_pos (by decide))]
  rw [hscale]
  -- Both sides of the rounding bounds are divided by what the two mantissas have in common.
  have hcommon : 2 ^ k * 2 ^ 53 = 2 ^ 43 * 2 ^ j * 2 ^ (k + 10 - j) := by
    rw [← Nat.pow_add, ← Nat.pow_add, ← Nat.pow_add]
    congr 1
    omega
  have hpos : 0 < 2 ^ 43 * 2 ^ j := Nat.mul_pos (by decide) (Nat.two_pow_pos j)
  refine div_eq_div_of_near s ?_ ?_ ?_
  · calc 500 < 2 ^ 9 := by decide
      _ ≤ 2 ^ (k + 10 - j) := Nat.pow_le_pow_right (by decide) (by omega)
  · refine Nat.le_of_mul_le_mul_left (c := 2 ^ 43 * 2 ^ j) ?_ hpos
    linarith [congrArg (n * ·) hcommon]
  · refine Nat.le_of_mul_le_mul_left (c := 2 ^ 43 * 2 ^ j) ?_ hpos
    linarith [congrArg (n * ·) hcommon]

/-- The whole numbers up to `2 ^ 53` : the two bounds, zero, and a sign with at most 53 bits. -/
theorem whole_cases {n : Int} (hlow : -(2 ^ 53) ≤ n) (hhigh : n ≤ 2 ^ 53) :
    n = 2 ^ 53 ∨ n = -(2 ^ 53) ∨ n = 0 ∨
      ∃ (s : Sign) (k : Nat), 0 < k ∧ k < 2 ^ 53 ∧ n = s.apply k := by
  rcases eq_or_ne n (2 ^ 53) with h | hmax
  · exact .inl h
  rcases eq_or_ne n (-(2 ^ 53)) with h | hmin
  · exact .inr (.inl h)
  refine .inr (.inr ?_)
  rcases Int.lt_trichotomy n 0 with hneg | h | hpos
  · refine .inr ⟨.negative, (-n).toNat, by omega, by omega, ?_⟩
    simp only [Sign.apply]
    omega
  · exact .inl h
  · refine .inr ⟨.positive, n.toNat, by omega, by omega, ?_⟩
    simp only [Sign.apply]
    omega

/-- Up to `2 ^ 53` the seconds of a time in milliseconds are those of the exact quotient. -/
theorem floor_ofInt_div_thousand {ms : Int} (hlow : -(2 ^ 53) ≤ ms) (hhigh : ms ≤ 2 ^ 53) :
    floor (Float.ofInt ms / 1000.0) = ms / 1000 := by
  rcases whole_cases hlow hhigh with rfl | rfl | rfl | ⟨s, k, hk, hlt, rfl⟩
  · rfl
  · rfl
  · rfl
  · exact floor_div_thousand s hk hlt

end MarketChart.Number
