import MarketChart.Placement.ValueRange
import MarketChart.Proofs.DoubleUnits

/-!
# Overlap is symmetric

Which of two ranges comes first makes no difference to whether they overlap
(`ValueRange.overlaps_comm`), whatever their bounds are : out of order, infinite or not-a-number.

The extreme of two doubles depends on their order in one case only : of two zeros the first stands.
Doubles that differ in the sign of a zero at most have the same value (`Number.SameValue`). Their
differences have the same value too, so have their quotients by one double, and they compare alike.
A sign would only show in what is divided by, and there it cannot be, as ranges of span zero are
left out first.
-/

namespace MarketChart

namespace Number

open Float.Model
open Float.Model.UnpackedFloat

/-! ## Unpacked doubles up to the sign of zero -/

/-- The unpacked doubles are the same up to the sign of zero. -/
inductive SameUnpacked : UnpackedFloat → UnpackedFloat → Prop where
  | refl (u : UnpackedFloat) : SameUnpacked u u
  | zero (s t : Sign) : SameUnpacked (.zero s) (.zero t)

namespace SameUnpacked

/-- Only the two zeros share a place in the order of doubles. -/
theorem of_rankOf_eq {u v : UnpackedFloat} (h : rankOf u = rankOf v) : SameUnpacked u v := by
  rcases u with (_ | _) | _ | _ | ⟨_ | _, m, e, hm⟩ <;>
    rcases v with (_ | _) | _ | _ | ⟨_ | _, m', e', hm'⟩ <;>
    simp [rankOf] at h
  · exact .refl _
  · exact .refl _
  · exact .refl _
  · exact .zero _ _
  · obtain ⟨rfl, rfl⟩ := h
    exact .refl _
  · obtain ⟨rfl, rfl⟩ := h
    exact .refl _

theorem zero_sub_zero (s t : Sign) :
    ∃ r, UnpackedFloat.sub .binary64 (.zero s) (.zero t) = .zero r := by
  cases s <;> cases t <;> exact ⟨_, rfl⟩

variable {u u' v v' : UnpackedFloat}

/-- A zero leaves other doubles as they are, and two of them make a zero of some sign. -/
theorem sub (hu : SameUnpacked u u') (hv : SameUnpacked v v') :
    SameUnpacked (u.sub .binary64 v) (u'.sub .binary64 v') := by
  have hzeros (s t s' t' : Sign) : SameUnpacked (UnpackedFloat.sub .binary64 (.zero s) (.zero t))
      (UnpackedFloat.sub .binary64 (.zero s') (.zero t')) := by
    obtain ⟨r, hr⟩ := zero_sub_zero s t
    obtain ⟨r', hr'⟩ := zero_sub_zero s' t'
    rw [hr, hr']
    exact .zero r r'
  cases hu with
  | refl u =>
    cases hv with
    | refl v => exact .refl _
    | zero t t' =>
      cases u with
      | zero s => exact hzeros s t s t'
      | _ => exact .refl _
  | zero s s' =>
    cases hv with
    | refl v =>
      cases v with
      | zero t => exact hzeros s t s' t
      | _ => exact .refl _
    | zero t t' => exact hzeros s t s' t'

theorem div (hu : SameUnpacked u u') (v : UnpackedFloat) :
    SameUnpacked (u.div .binary64 v) (u'.div .binary64 v) := by
  cases hu with
  | refl u => exact .refl _
  | zero s s' => cases v <;> constructor

theorem compare_eq (hu : SameUnpacked u u') (v : UnpackedFloat) :
    u.compare v = u'.compare v ∧ v.compare u = v.compare u' := by
  cases hu with
  | refl u => exact ⟨rfl, rfl⟩
  | zero s s' => rcases v with (_ | _) | _ | _ | ⟨_ | _, m, e, hm⟩ <;> exact ⟨rfl, rfl⟩

theorem isNaN_eq (hu : SameUnpacked u u') : u.isNaN = u'.isNaN := by
  cases hu <;> rfl

theorem eq_of_ne_zero (hu : SameUnpacked u u') (hne : u.beq (.zero .positive) = false) :
    u = u' := by
  cases hu with
  | refl u => rfl
  | zero s s' => exact absurd hne (by cases s <;> decide)

end SameUnpacked

/-! ## Doubles up to the sign of zero -/

/-- The doubles are the same up to the sign of zero. -/
def SameValue (x y : Float) : Prop := SameUnpacked x.toModel.unpack y.toModel.unpack

theorem SameValue.refl (x : Float) : SameValue x x := SameUnpacked.refl _

theorem sameValue_pack {u v : UnpackedFloat} (h : SameUnpacked u v) :
    SameValue (.ofModel (Float.Model.pack u)) (.ofModel (Float.Model.pack v)) := by
  cases h with
  | refl u => exact .refl _
  | zero s t =>
    have hpack (r : Sign) : (Float.Model.pack (.zero r)).unpack = .zero r :=
      unpack_pack_of_reduced (u := .zero r) trivial
    show SameUnpacked (Float.Model.pack (.zero s)).unpack (Float.Model.pack (.zero t)).unpack
    rw [hpack, hpack]
    exact .zero s t

/-- Doubles of which neither is smaller have the same value. -/
theorem sameValue_of_not_lt {x y : Float} (hx : x.isNaN = false) (hy : y.isNaN = false)
    (hxy : ¬x < y) (hyx : ¬y < x) : SameValue x y := by
  rw [lt_iff_rank hx hy] at hxy
  rw [lt_iff_rank hy hx] at hyx
  exact .of_rankOf_eq (le_antisymm (not_lt.1 hyx) (not_lt.1 hxy))

theorem sameValue_of_isNaN {x y : Float} (hx : x.isNaN = true) (hy : y.isNaN = true) :
    SameValue x y := by
  rw [Float.isNaN_eq_decide_eq_nan, decide_eq_true_eq] at hx hy
  rw [hx, hy]
  exact .refl _

namespace SameValue

variable {x x' y y' : Float}

theorem sub (hx : SameValue x x') (hy : SameValue y y') : SameValue (x - y) (x' - y') :=
  sameValue_pack (SameUnpacked.sub hx hy)

theorem div (hx : SameValue x x') (y : Float) : SameValue (x / y) (x' / y) :=
  sameValue_pack (SameUnpacked.div hx y.toModel.unpack)

theorem lt_iff (hx : SameValue x x') (y : Float) : x < y ↔ x' < y := by
  rw [lt_iff_unpack, lt_iff_unpack, UnpackedFloat.lt, UnpackedFloat.lt,
    (SameUnpacked.compare_eq hx y.toModel.unpack).1]

theorem le_iff (hx : SameValue x x') (y : Float) : y ≤ x ↔ y ≤ x' := by
  have hle (z : Float) : y ≤ z ↔ y.toModel.unpack.le z.toModel.unpack = true := decide_eq_true_iff
  rw [hle, hle, UnpackedFloat.le, UnpackedFloat.le,
    (SameUnpacked.compare_eq hx y.toModel.unpack).2]

theorem isNaN_eq (hx : SameValue x x') : x.isNaN = x'.isNaN := SameUnpacked.isNaN_eq hx

/-- A double other than zero has its value alone. -/
theorem eq_of_ne_zero (hx : SameValue x x') (hne : (x == 0.0) = false) : x = x' :=
  unpack_injective (SameUnpacked.eq_of_ne_zero hx hne)

/-- The larger of a double and another does not depend on the sign of a zero. -/
theorem larger (hx : SameValue x x') (y : Float) :
    SameValue (Number.larger x y) (Number.larger x' y) := by
  simp only [Number.larger, hx.isNaN_eq, hx.lt_iff y]
  split
  · exact .refl y
  · split
    · exact .refl y
    · exact hx

end SameValue

/-! ## Extremes in either order -/

/-- The double that comes first under `r`, or the first of two that `r` does not tell apart, has the
same value in either order. -/
theorem sameValue_pick_comm {r : Float → Float → Prop} [DecidableRel r]
    (hnan : ∀ {x y}, r x y → x.isNaN = false ∧ y.isNaN = false)
    (hasymm : ∀ {x y}, r x y → ¬r y x)
    (htie : ∀ {x y}, x.isNaN = false → y.isNaN = false → ¬r x y → ¬r y x → SameValue x y)
    (x y : Float) :
    SameValue (if x.isNaN then y else if r y x then y else x)
      (if y.isNaN then x else if r x y then x else y) := by
  cases hx : x.isNaN <;> cases hy : y.isNaN
  · by_cases hxy : r x y
    · simp [hxy, hasymm hxy, SameValue.refl]
    · by_cases hyx : r y x
      · simp [hxy, hyx, SameValue.refl]
      · simpa [hxy, hyx] using htie hx hy hxy hyx
  · have hyx : ¬r y x := fun h => Bool.false_ne_true ((hnan h).1.symm.trans hy)
    simp [hyx, SameValue.refl]
  · have hxy : ¬r x y := fun h => Bool.false_ne_true ((hnan h).1.symm.trans hx)
    simp [hxy, SameValue.refl]
  · simpa using sameValue_of_isNaN hy hx

theorem smaller_comm (x y : Float) : SameValue (smaller x y) (smaller y x) :=
  sameValue_pick_comm (r := (· < ·)) isNaN_of_lt not_lt_of_lt sameValue_of_not_lt x y

theorem larger_comm (x y : Float) : SameValue (larger x y) (larger y x) :=
  sameValue_pick_comm (r := fun x y => y < x) (fun h => (isNaN_of_lt h).symm) not_lt_of_lt
    (fun hx hy hxy hyx => sameValue_of_not_lt hx hy hyx hxy) x y

theorem smaller_eq_or (x y : Float) : smaller x y = x ∨ smaller x y = y := by
  unfold smaller
  split
  · exact .inr rfl
  · split
    · exact .inr rfl
    · exact .inl rfl

end Number

/-! ## Ranges in either order -/

namespace ValueRange

open Number

theorem sharedSpan_comm (a b : ValueRange) : SameValue (sharedSpan a b) (sharedSpan b a) :=
  ((smaller_comm a.high b.high).sub (larger_comm a.low b.low)).larger 0.0

/-- The shorter of two spans is the same in either order if neither is zero. -/
theorem smaller_span_comm {a b : ValueRange} (ha : (a.span == 0.0) = false)
    (hb : (b.span == 0.0) = false) : smaller a.span b.span = smaller b.span a.span := by
  refine (smaller_comm a.span b.span).eq_of_ne_zero ?_
  rcases smaller_eq_or a.span b.span with h | h
  · rw [h, ha]
  · rw [h, hb]

/-- Two ranges overlap in either order or in none, whatever their bounds and the threshold are. -/
theorem overlaps_comm (a b : ValueRange) (threshold : Float) :
    a.overlaps b threshold = b.overlaps a threshold := by
  rw [overlaps, overlaps, Bool.or_comm]
  split
  case isTrue => rfl
  case isFalse hspans =>
    rw [Bool.not_eq_true, Bool.or_eq_false_iff] at hspans
    rw [smaller_span_comm hspans.2 hspans.1]
    exact decide_eq_decide.2 (((sharedSpan_comm a b).div _).le_iff threshold)

end ValueRange

end MarketChart
