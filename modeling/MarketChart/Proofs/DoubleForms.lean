import MarketChart.Proofs.DoubleSeconds

/-!
# Doubles and their unpacked form

A double and its unpacked form, sign, mantissa and exponent, determine each other
(`Number.unpack_injective`). A double is finite unless its exponent is the one set apart, so
negation keeps it finite (`Number.isFinite_neg`), and every integer of 64 bits is a finite double
once it is rounded (`Number.isFinite_ofInt`).
-/

namespace MarketChart.Number

open Float.Model
open Float.Model.UnpackedFloat

/-! ## Packing undoes unpacking -/

theorem toBitVec_ofBitVec (b : BitVec 1) : (Sign.ofBitVec b).toBitVec = b := by
  revert b
  decide

/-- The three parts of a double make up its bits. -/
theorem packComponents_unpacked (b : BitVec Format.binary64.numBits) :
    packComponents .binary64 (Sign.ofBitVec (unpackSign b)) (unpackExponent b) (unpackMantissa b) =
      b := by
  simp only [packComponents, toBitVec_ofBitVec, unpackSign, unpackExponent, unpackMantissa,
    BitVec.extractLsb]
  ext i hi
  grind

/-- A mantissa that fits the bits stored is packed with the exponent zero. -/
theorem pack_subnormal (s : Sign) {m : BitVec 52} (hm : 0 < m.toNat) :
    UnpackedFloat.pack .binary64 (.finite s m.toNat (-1074) hm) =
      packComponents .binary64 s 0#11 m := by
  have hlog : m.toNat.log2 < 52 := (Nat.log2_lt hm.ne').2 m.isLt
  have hbits : ¬m.toNat.log2 + 1 = Format.binary64.mantissaBits := by
    have hwidth : Format.binary64.mantissaBits = 53 := rfl
    omega
  have hbiased : (-1074 + (Format.binary64.exponentBias : Int) +
      Format.binary64.mantissaBitsWithoutImplicit).toNat = 1 := rfl
  rw [UnpackedFloat.pack, hbiased]
  simp only [hbits, if_false]
  rw [if_neg (by decide), BitVec.ofNat_toNat, BitVec.setWidth_eq]

/-- A mantissa that fits the bits stored is read back as it was packed. -/
theorem unpack_pack_subnormal (s : Sign) {m : Nat} (hm : 0 < m) (hlt : m < 2 ^ 52) :
    (Float.Model.pack (.finite s m (-1074) hm)).unpack = .finite s m (-1074) hm := by
  obtain ⟨b, rfl⟩ : ∃ b : BitVec 52, b.toNat = m := ⟨BitVec.ofNat 52 m, by simp; omega⟩
  have hne : b ≠ 0#52 := by
    rintro rfl
    exact hm.ne' rfl
  have hunpack : (Float.Model.pack (.finite s b.toNat (-1074) hm)).unpack =
      UnpackedFloat.unpack .binary64
        (UnpackedFloat.pack .binary64 (.finite s b.toNat (-1074) hm)) := rfl
  have hones : (0#11 : BitVec 11) ≠ -1#11 := by decide
  rw [hunpack, pack_subnormal, UnpackedFloat.unpack]
  simp only [unpackMantissa_packComponents, unpackExponent_packComponents,
    unpackSign_packComponents, ofBitVec_toBitVec, hones, hne, if_false, if_true, dif_neg,
    not_false_eq_true]
  congr 1

/-- Beyond the exponents that can be stored a double is infinite. -/
theorem pack_overflow (s : Sign) {m : Nat} {e : Int} (hm : 0 < m) (he : 972 ≤ e) :
    Float.Model.pack (.finite s m e hm) = Float.Model.pack (.infinity s) := by
  have hbias : (Format.binary64.exponentBias : Int) = 1023 := rfl
  have hwidth : (Format.binary64.mantissaBitsWithoutImplicit : Int) = 52 := rfl
  have hpow : 2 ^ Format.binary64.exponentBits = 2048 := rfl
  have hpack : UnpackedFloat.pack .binary64 (.finite s m e hm) =
      UnpackedFloat.pack .binary64 (.infinity s) := by
    rw [UnpackedFloat.pack, UnpackedFloat.pack]
    exact if_pos (by omega)
  simp only [Float.Model.pack, hpack]
/-- A mantissa with a leading bit is packed without it. -/
theorem pack_normal (s : Sign) {e : BitVec 11} (he : e ≠ -1#11) {m : BitVec 52}
    (hm : 0 < (1#1 ++ m).toNat) :
    UnpackedFloat.pack .binary64 (.finite s (1#1 ++ m).toNat (e.toNat - 1075) hm) =
      packComponents .binary64 s e m := by
  have hlt := m.isLt
  have hvalue := toNat_one_append m
  have hlog : (1#1 ++ m).toNat.log2 = 52 := by
    rw [Nat.log2_eq_iff hm.ne', hvalue]
    omega
  have hbits : (1#1 ++ m).toNat.log2 + 1 = Format.binary64.mantissaBits := by
    rw [hlog]
    rfl
  have hbiased : ((e.toNat : Int) - 1075 + (Format.binary64.exponentBias : Int) +
      Format.binary64.mantissaBitsWithoutImplicit).toNat = e.toNat := by
    have hbias : (Format.binary64.exponentBias : Int) = 1023 := rfl
    have hwidth : (Format.binary64.mantissaBitsWithoutImplicit : Int) = 52 := rfl
    omega
  have hfits : ¬2 ^ Format.binary64.exponentBits ≤ e.toNat + 1 := by
    have hpow : 2 ^ Format.binary64.exponentBits = 2048 := rfl
    have hne : e.toNat ≠ 2047 := fun h => he (BitVec.eq_of_toNat_eq h)
    have := e.isLt
    omega
  have hstored : BitVec.ofNat 52 (1#1 ++ m).toNat = m := by
    refine BitVec.eq_of_toNat_eq ?_
    rw [BitVec.toNat_ofNat, hvalue]
    omega
  rw [UnpackedFloat.pack, hbiased]
  simp only [hbits, hfits, if_true, if_false]
  rw [BitVec.ofNat_toNat, BitVec.setWidth_eq, hstored]

/-- A double is packed into the bits that it was unpacked from. -/
theorem pack_unpack_bits {b : BitVec Format.binary64.numBits} (hb : Format.binary64.Valid b) :
    UnpackedFloat.pack .binary64 (UnpackedFloat.unpack .binary64 b) = b := by
  have hparts := packComponents_unpacked b
  rw [UnpackedFloat.unpack]
  split
  · next hones =>
    split
    · next hm =>
      rw [hones, hm] at hparts
      exact hparts
    · next hm => exact (hb.eq_packedNaN hones hm).symm
  · next hones =>
    split
    · next hzero =>
      split
      · next hm =>
        rw [hzero, hm] at hparts
        exact hparts
      · next hm =>
        simp only [hzero] at hparts ⊢
        exact (pack_subnormal _ _).trans hparts
    · exact (pack_normal _ hones _).trans hparts

theorem pack_unpack (x : Float.Model) : Float.Model.pack x.unpack = x := by
  obtain ⟨bits, valid⟩ := x
  simp only [Float.Model.pack, Float.Model.unpack, pack_unpack_bits valid]

/-- A double is determined by its unpacked form. -/
theorem unpack_injective {x y : Float} (h : x.toModel.unpack = y.toModel.unpack) : x = y := by
  obtain ⟨x⟩ := x
  obtain ⟨y⟩ := y
  rw [← pack_unpack x, ← pack_unpack y]
  exact congrArg (fun u => Float.ofModel (Float.Model.pack u)) h

/-! ## Finite doubles -/

theorem isNaN_of_isFinite {x : Float} (h : x.isFinite = true) : x.isNaN = false := by
  unfold Float.isNaN Float.Model.isNaN
  unfold Float.isFinite Float.Model.isFinite at h
  cases hx : x.toModel.unpack with
  | notANumber =>
    rw [hx] at h
    exact absurd h Bool.false_ne_true
  | _ => rfl

/-- A double is finite unless its exponent is the one set apart. -/
theorem isFinite_unpack (b : BitVec Format.binary64.numBits) :
    (UnpackedFloat.unpack .binary64 b).isFinite = true ↔ unpackExponent b ≠ -1#11 := by
  rw [UnpackedFloat.unpack]
  split
  · next h =>
    refine iff_of_false ?_ (not_not_intro h)
    split <;> exact Bool.false_ne_true
  · next h =>
    refine iff_of_true ?_ h
    split
    · split <;> rfl
    · rfl

/-- A double and its negation have the same exponent. -/
theorem unpackExponent_pack_neg (u : UnpackedFloat) :
    unpackExponent (UnpackedFloat.pack .binary64 u.neg) =
      unpackExponent (UnpackedFloat.pack .binary64 u) := by
  cases u with
  | notANumber => rfl
  | infinity s => simp [UnpackedFloat.neg, UnpackedFloat.pack, packedInfinity]
  | zero s => simp [UnpackedFloat.neg, UnpackedFloat.pack, packedZero]
  | finite s m e hm =>
    simp only [UnpackedFloat.neg, UnpackedFloat.pack]
    split
    · simp [packedInfinity]
    · split <;> simp

theorem isFinite_neg (x : Float) : (-x).isFinite = x.isFinite := by
  have hx : x.isFinite = (UnpackedFloat.unpack .binary64 x.toModel.toBits.toBitVec).isFinite := rfl
  have hneg : (-x).isFinite = (UnpackedFloat.unpack .binary64
      (UnpackedFloat.pack .binary64 x.toModel.unpack.neg)).isFinite := rfl
  rw [Bool.eq_iff_iff, hx, hneg, isFinite_unpack, isFinite_unpack, unpackExponent_pack_neg,
    Float.Model.unpack, pack_unpack_bits x.toModel.valid]

/-- A whole number of more than 53 bits is rounded with as many zeros behind it. -/
theorem toModel_ofNat_long {n : Nat} (h : 2 ^ 53 ≤ n) : (Float.ofNat n).toModel =
    Float.Model.pack (roundWithAccuracy .binary64 .positive (n * 2 ^ 53) (-53) .exact) := by
  have hscientific : UnpackedFloat.ofScientific .binary64 n 0 =
      roundWithAccuracy .binary64 .positive (n <<< 53 * 10 ^ (0 : Int).toNat) (-53) .exact := by
    have hpow : (2 : Int) ^ Format.binary64.exponentBits = 2048 := rfl
    rw [UnpackedFloat.ofScientific, dif_neg (by omega), if_neg (by omega), if_neg (by omega),
      if_pos le_rfl]
    rfl
  show (Float.ofScientific n false 0).toModel = _
  rw [Float.ofScientific, dif_neg fun hs => by omega]
  show Float.Model.pack (UnpackedFloat.ofScientific .binary64 n 0) = _
  rw [hscientific, Int.toNat_zero, Nat.pow_zero, Nat.mul_one, Nat.shiftLeft_eq]

theorem isFinite_ofNat {n : Nat} (h : n < 2 ^ 64) : (Float.ofNat n).isFinite = true := by
  have hfinite : (Float.ofNat n).isFinite = (Float.ofNat n).toModel.unpack.isFinite := rfl
  rcases Nat.eq_zero_or_pos n with rfl | hn
  · rfl
  by_cases hshort : n < 2 ^ 53
  · rw [hfinite, unpack_ofNat hn hshort (Nat.mul_pos hn (Nat.two_pow_pos _))]
    rfl
  · have hlog : n.log2 < 64 := (Nat.log2_lt hn.ne').2 h
    have hshifted : (n * 2 ^ 53).log2 - 52 = n.log2 + 1 := by
      rw [log2_mul_two_pow hn.ne']
      omega
    obtain ⟨k, M, hM, hk, hMhigh, hMlow, -, hround, -⟩ := roundWithAccuracy_eq .positive (by omega)
      Nat.one_pos (holds_exact (n * 2 ^ 53)) hshifted (e := -53) (by omega)
    rw [hfinite, toModel_ofNat_long (by omega), hround,
      unpack_pack _ hM (hMlow (by omega)) hMhigh (by omega) (by omega)]
    rfl

/-- Every integer of 64 bits, signed or not, is a finite double. -/
theorem isFinite_ofInt {n : Int} (hlow : -(2 ^ 64) < n) (hhigh : n < 2 ^ 64) :
    (Float.ofInt n).isFinite = true := by
  cases n with
  | ofNat n => exact isFinite_ofNat (n := n) (by simpa using hhigh)
  | negSucc n => exact (isFinite_neg _).trans (isFinite_ofNat (n := n + 1) (by omega))

end MarketChart.Number
