import MarketChart.Placement.Basic
import MarketChart.Proofs.DoubleUnits

/-!
# Where ranges place an indicator

An indicator without a pane of its own goes to the prices if its values share enough of the shorter
of two ranges. Three rules follow that do not mention the computation
(`Classifier.classify_of_ranges`): a range without span keeps the indicator apart, a range that lies
in the other one puts it with the prices for every threshold up to one, and ranges without a common
value keep it apart for every threshold above zero.

The spans are rounded differences, and that of an indicator may be infinite. But rounding is
monotone, so the range that lies in the other has the smaller span. Its bounds are prices or lie
between prices, so that its span is finite and above zero, and the quotient is exactly one.
-/

namespace MarketChart

open Number

namespace ValueRange

/-- The bounds are finite and in order. -/
structure Proper (r : ValueRange) : Prop where
  low : r.low.isFinite = true
  high : r.high.isFinite = true
  ordered : units r.low ≤ units r.high

/-- All values of the first range are in the second. -/
def Inside (a b : ValueRange) : Prop := b.low ≤ a.low ∧ a.high ≤ b.high

/-- No value is in both ranges. -/
def Apart (a b : ValueRange) : Prop := a.high < b.low ∨ b.high < a.low

instance (a b : ValueRange) : Decidable (a.Inside b) := inferInstanceAs (Decidable (_ ∧ _))

instance (a b : ValueRange) : Decidable (a.Apart b) := inferInstanceAs (Decidable (_ ∨ _))

/-! ## Spans -/

section

variable {r : ValueRange} (h : r.Proper)

include h

theorem Proper.rounds_span : Rounds (units r.high - units r.low) r.span := rounds_sub h.high h.low

/-- A span is zero only if the bounds are equal. -/
theorem Proper.span_beq_zero : (r.span == 0.0) = (r.low == r.high) := by
  have hpos := h.rounds_span.pos_iff
  have hneg := h.rounds_span.neg_iff
  have hordered := h.ordered
  rw [lt_iff_units rfl h.rounds_span.number, units_zero] at hpos
  rw [lt_iff_units h.rounds_span.number rfl, units_zero] at hneg
  rw [Bool.eq_iff_iff, beq_iff_units h.rounds_span.number rfl,
    beq_iff_units (isNaN_of_isFinite h.low) (isNaN_of_isFinite h.high), units_zero]
  omega

theorem Proper.span_pos (hne : (r.span == 0.0) = false) : 0 < units r.span := by
  have hordered := h.ordered
  have hle : 0.0 ≤ r.span :=
    (rounds_self (x := 0.0) rfl).le h.rounds_span (by rw [units_zero]; omega)
  rw [le_iff_units rfl h.rounds_span.number, units_zero] at hle
  rw [← Bool.not_eq_true, beq_iff_units h.rounds_span.number rfl, units_zero] at hne
  omega

/-- A range above zero has a finite span. -/
theorem Proper.forall_isPositive (hlow : 0 < units r.low) (hspan : 0 < units r.span) :
    ∀ x ∈ [r.low, r.high, r.span], Prices.isPositive x = true := by
  have hhigh := isNaN_of_isFinite h.high
  have hfinite := (isFinite_iff_units hhigh).1 h.high
  have hordered := h.ordered
  have hle : r.span ≤ r.high := h.rounds_span.le (rounds_self hhigh) (by omega)
  rw [le_iff_units h.rounds_span.number hhigh] at hle
  simp only [List.forall_mem_cons, List.not_mem_nil, false_implies, implies_true, and_true]
  rw [isPositive_iff_units (isNaN_of_isFinite h.low), isPositive_iff_units hhigh,
    isPositive_iff_units h.rounds_span.number]
  omega

end

theorem Inside.units_le {a b : ValueRange} (h : a.Inside b) (ha : a.Proper) (hb : b.Proper) :
    units b.low ≤ units a.low ∧ units a.high ≤ units b.high := by
  rwa [Inside, le_iff_units (isNaN_of_isFinite hb.low) (isNaN_of_isFinite ha.low),
    le_iff_units (isNaN_of_isFinite ha.high) (isNaN_of_isFinite hb.high)] at h

/-- A range in another has no greater span. -/
theorem Inside.span_le {a b : ValueRange} (h : a.Inside b) (ha : a.Proper) (hb : b.Proper) :
    a.span ≤ b.span := by
  have hunits := h.units_le ha hb
  exact ha.rounds_span.le hb.rounds_span (by omega)

/-! ## Overlaps -/

/-- Of a range in another the whole is shared. -/
theorem overlaps_of_inside {a b : ValueRange} (ha : a.Proper) (hb : b.Proper)
    (hlow : 0 < units a.low) (hspan : 0 < units a.span) (h : a.Inside b) (threshold : Float) :
    a.overlaps b threshold = decide (threshold ≤ 1.0) := by
  have ha' := ha.rounds_span.number
  have hb' := hb.rounds_span.number
  have hle := h.span_le ha hb
  have hnonzero : ¬((a.span == 0.0 || b.span == 0.0) = true) := by
    rw [le_iff_units ha' hb'] at hle
    rw [Bool.or_eq_true, beq_iff_units ha' rfl, beq_iff_units hb' rfl, units_zero]
    omega
  have hhigh : smaller a.high b.high = a.high :=
    smaller_of_le (isNaN_of_isFinite ha.high) (isNaN_of_isFinite hb.high) h.2
  have hlows : larger a.low b.low = a.low :=
    larger_of_le (isNaN_of_isFinite ha.low) (isNaN_of_isFinite hb.low) h.1
  have hshared : sharedSpan a b = a.span := by
    rw [sharedSpan, hhigh, hlows]
    exact larger_of_le ha' rfl ((le_iff_units rfl ha').2 hspan.le)
  rw [overlaps, if_neg hnonzero, hshared, smaller_of_le ha' hb' hle,
    div_self_of_isPositive (ha.forall_isPositive hlow hspan a.span (by simp))]

/-- The first of two zeros is taken, so the ranges are interchangeable only above zero. -/
theorem overlaps_comm_of_isPositive {a b : ValueRange}
    (ha : ∀ x ∈ [a.low, a.high, a.span], Prices.isPositive x = true)
    (hb : ∀ x ∈ [b.low, b.high, b.span], Prices.isPositive x = true) (threshold : Float) :
    a.overlaps b threshold = b.overlaps a threshold := by
  simp only [List.forall_mem_cons] at ha hb
  obtain ⟨halow, hahigh, haspan, -⟩ := ha
  obtain ⟨hblow, hbhigh, hbspan, -⟩ := hb
  have hsmaller {x y : Float} :=
    picks_smaller.comm (fun _ _ hx => eq_of_rank_eq hx) (x := x) (y := y)
  have hlarger {x y : Float} := picks_larger.comm
    (fun _ _ hx heq => eq_of_rank_eq hx (OrderDual.toDual.injective heq)) (x := x) (y := y)
  rw [overlaps, overlaps, sharedSpan, sharedSpan, Bool.or_comm, hsmaller hahigh hbhigh,
    hlarger halow hblow, hsmaller haspan hbspan]

/-- Ranges without a common value share nothing. -/
theorem sharedSpan_of_apart {a b : ValueRange} (ha : a.Proper) (hb : b.Proper) (h : a.Apart b) :
    sharedSpan a b = 0.0 := by
  have hahigh := isNaN_of_isFinite ha.high
  have hbhigh := isNaN_of_isFinite hb.high
  have halow := isNaN_of_isFinite ha.low
  have hblow := isNaN_of_isFinite hb.low
  rw [Apart, lt_iff_units hahigh hblow, lt_iff_units hbhigh halow] at h
  obtain ⟨hhigh, hhighUnits⟩ := units_smaller hahigh hbhigh
  obtain ⟨hlow, hlowUnits⟩ := units_larger halow hblow
  have hfinite :
      (smaller a.high b.high).isFinite = true ∧ (larger a.low b.low).isFinite = true := by
    have := (isFinite_iff_units hahigh).1 ha.high
    have := (isFinite_iff_units hbhigh).1 hb.high
    have := (isFinite_iff_units halow).1 ha.low
    have := (isFinite_iff_units hblow).1 hb.low
    rw [isFinite_iff_units hhigh, isFinite_iff_units hlow]
    omega
  have hrounds := rounds_sub hfinite.1 hfinite.2
  have hnegative : smaller a.high b.high - larger a.low b.low < 0.0 :=
    hrounds.neg_iff.2 (by have := ha.ordered; have := hb.ordered; omega)
  rw [sharedSpan, larger, hrounds.number, if_neg Bool.false_ne_true, if_pos hnegative]

theorem overlaps_of_apart {a b : ValueRange} (ha : a.Proper) (hb : b.Proper)
    (hlow : 0 < units a.low) (h : a.Apart b) {threshold : Float} (ht : 0.0 < threshold) :
    a.overlaps b threshold = false := by
  rw [overlaps]
  split
  case isTrue => rfl
  case isFalse hspans =>
    rw [Bool.not_eq_true, Bool.or_eq_false_iff] at hspans
    have haspan := ha.span_pos hspans.1
    have hbspan := hb.span_pos hspans.2
    obtain ⟨hshorter, hunits⟩ := units_smaller ha.rounds_span.number hb.rounds_span.number
    have hpositive : Prices.isPositive (smaller a.span b.span) = true := by
      have hfinite := ha.forall_isPositive hlow haspan a.span (by simp)
      rw [isPositive_iff_units ha.rounds_span.number] at hfinite
      rw [isPositive_iff_units hshorter]
      omega
    have hthreshold := (isNaN_of_lt ht).2
    rw [lt_iff_units rfl hthreshold] at ht
    rw [sharedSpan_of_apart ha hb h, zero_div_of_isPositive hpositive, decide_eq_false_iff_not,
      le_iff_units hthreshold rfl]
    exact not_le.2 ht

end ValueRange

/-! ## The ranges of prices and of samples -/

/-- The smallest of some doubles and the largest of others, of which two are in order. -/
theorem ValueRange.proper_of_extremes {lows highs : List Float} {z z' x y : Float}
    (hlows : ∀ u ∈ z :: lows, u.isNaN = false ∧ -overflow < units u)
    (hhighs : ∀ u ∈ z' :: highs, u.isNaN = false ∧ units u < overflow)
    (hx : x ∈ z :: lows) (hy : y ∈ z' :: highs) (hle : units x ≤ units y) :
    (⟨lows.foldl smaller z, highs.foldl larger z'⟩ : ValueRange).Proper := by
  obtain ⟨hlow, hlowUnits⟩ := picks_smaller_units.key_foldl fun u hu => (hlows u hu).1
  obtain ⟨hhigh, hhighUnits⟩ := picks_larger_units.key_foldl fun u hu => (hhighs u hu).1
  have hlowLe : units (lows.foldl smaller z) ≤ units x := (hlowUnits _).1 le_rfl x hx
  have hleHigh : units y ≤ units (highs.foldl larger z') := (hhighUnits _).1 le_rfl y hy
  have hlowLt : -overflow + 1 ≤ units (lows.foldl smaller z) :=
    (hlowUnits _).2 fun u hu => (hlows u hu).2
  have hhighLt : units (highs.foldl larger z') ≤ overflow - 1 :=
    (hhighUnits (OrderDual.toDual (overflow - 1))).2
      fun u hu => Int.le_sub_one_of_lt (hhighs u hu).2
  exact ⟨(isFinite_iff_units hlow).2 (by omega), (isFinite_iff_units hhigh).2 (by omega),
    hlowLe.trans (hle.trans hleHigh)⟩

theorem proper_priceRange {candles : List Candle} (hne : candles ≠ [])
    (h : ∀ k ∈ candles, Prices.isPositive k.low = true ∧ Prices.isPositive k.high = true ∧
      k.low ≤ k.high) :
    (priceRange candles).Proper ∧ 0 < units (priceRange candles).low := by
  obtain ⟨c, rest, rfl⟩ := List.exists_cons_of_ne_nil hne
  have hoverflow : (0 : ℤ) < overflow := mod_cast overflow_pos
  have hnumbers : ∀ k ∈ c :: rest, k.low.isNaN = false ∧ k.high.isNaN = false :=
    fun k hk => ⟨isNaN_of_isPositive (h k hk).1, isNaN_of_isPositive (h k hk).2.1⟩
  have hunits : ∀ k ∈ c :: rest, 0 < units k.low ∧ units k.low ≤ units k.high ∧
      units k.high < overflow := by
    intro k hk
    obtain ⟨hlow, hhigh, hle⟩ := h k hk
    obtain ⟨hlow', hhigh'⟩ := hnumbers k hk
    exact ⟨((isPositive_iff_units hlow').1 hlow).1, (le_iff_units hlow' hhigh').1 hle,
      ((isPositive_iff_units hhigh').1 hhigh).2⟩
  -- The extremes start from the infinities, so the bounds of each list are on one side only.
  have hlows : ∀ x ∈ infinity :: (c :: rest).map Candle.low, x.isNaN = false ∧ 1 ≤ units x := by
    rw [List.forall_mem_cons, List.forall_mem_map]
    exact ⟨⟨rfl, hoverflow⟩, fun k hk => ⟨(hnumbers k hk).1, (hunits k hk).1⟩⟩
  have hhighs : ∀ x ∈ -infinity :: (c :: rest).map Candle.high,
      x.isNaN = false ∧ units x < overflow := by
    rw [List.forall_mem_cons, List.forall_mem_map]
    exact ⟨⟨rfl, neg_lt_self hoverflow⟩, fun k hk => ⟨(hnumbers k hk).2, (hunits k hk).2.2⟩⟩
  constructor
  · exact ValueRange.proper_of_extremes
      (fun x hx => ⟨(hlows x hx).1, by have := (hlows x hx).2; omega⟩) hhighs
      (List.mem_cons_of_mem _ List.mem_cons_self) (List.mem_cons_of_mem _ List.mem_cons_self)
      (hunits c List.mem_cons_self).2.1
  · exact ((picks_smaller_units.key_foldl fun x hx => (hlows x hx).1).2 1).2
      fun x hx => (hlows x hx).2

theorem ValueRange.foldl_widen (values : List Float) (r : ValueRange) :
    values.foldl widen r = ⟨values.foldl smaller r.low, values.foldl larger r.high⟩ := by
  induction values generalizing r with
  | nil => rfl
  | cons x values ih => exact ih _

theorem ValueRange.proper_ofValues {values : List Float} (h : ∀ x ∈ values, x.isFinite = true) :
    (ofValues values).Proper := by
  cases values with
  | nil => exact ⟨rfl, rfl, le_rfl⟩
  | cons x values =>
    have hnumber : ∀ y ∈ x :: values, y.isNaN = false := fun y hy => isNaN_of_isFinite (h y hy)
    have hunits : ∀ y ∈ x :: values, -overflow < units y ∧ units y < overflow :=
      fun y hy => (isFinite_iff_units (hnumber y hy)).1 (h y hy)
    rw [ofValues, foldl_widen]
    exact proper_of_extremes (fun y hy => ⟨hnumber y hy, (hunits y hy).1⟩)
      (fun y hy => ⟨hnumber y hy, (hunits y hy).2⟩) List.mem_cons_self List.mem_cons_self le_rfl

theorem Classifier.proper_indicatorRange (c : Classifier) (data : List Sample) :
    (c.indicatorRange data).Proper := by
  refine ValueRange.proper_ofValues fun x hx => ?_
  have heligible := (List.mem_filter.1 hx).2
  rw [isEligible, Bool.and_eq_true] at heligible
  exact heligible.1

/-! ## Where an indicator is placed -/

/-- A range without span keeps an indicator apart from the prices. Otherwise a range in the other
puts it with them for every threshold up to one, and ranges without a common value keep it apart for
every threshold above zero. A range has no span only if its bounds are equal. -/
theorem Classifier.classify_of_ranges (c : Classifier) {candles : List Candle} (hne : candles ≠ [])
    (h : ∀ k ∈ candles, Prices.isPositive k.low = true ∧ Prices.isPositive k.high = true ∧
      k.low ≤ k.high) (data : List Sample) :
    let prices := priceRange candles
    let values := c.indicatorRange data
    let flat := prices.span == 0.0 || values.span == 0.0
    (∀ r ∈ [prices, values], (r.span == 0.0) = (r.low == r.high)) ∧
    (flat = true → c.classify prices data = .indicator) ∧
    (flat = false → prices.Inside values ∨ values.Inside prices → c.overlapThreshold ≤ 1.0 →
      c.classify prices data = .main) ∧
    (flat = false → prices.Apart values → 0.0 < c.overlapThreshold →
      c.classify prices data = .indicator) := by
  intro prices values flat
  obtain ⟨hprices, hlow⟩ := proper_priceRange hne h
  have hvalues := c.proper_indicatorRange data
  have hspans (hflat : flat = false) : 0 < units prices.span ∧ 0 < units values.span := by
    rw [Bool.or_eq_false_iff] at hflat
    exact ⟨hprices.span_pos hflat.1, hvalues.span_pos hflat.2⟩
  have hclassify : c.classify prices data =
      if prices.overlaps values c.overlapThreshold then .main else .indicator := rfl
  rw [hclassify]
  refine ⟨?_, fun hflat => if_neg ?_, fun hflat hinside ht => if_pos ?_,
    fun _ hapart ht => if_neg ?_⟩
  · simp only [List.forall_mem_cons, List.not_mem_nil, false_implies, implies_true, and_true]
    exact ⟨hprices.span_beq_zero, hvalues.span_beq_zero⟩
  · rw [ValueRange.overlaps, if_pos hflat]
    exact Bool.false_ne_true
  · obtain ⟨hpricesSpan, hvaluesSpan⟩ := hspans hflat
    obtain hin | hin := hinside
    · rw [ValueRange.overlaps_of_inside hprices hvalues hlow hpricesSpan hin, decide_eq_true ht]
    · -- the values lie between prices, so they too are above zero
      have hvaluesLow := hlow.trans_le (hin.units_le hvalues hprices).1
      rw [ValueRange.overlaps_comm_of_isPositive (hprices.forall_isPositive hlow hpricesSpan)
          (hvalues.forall_isPositive hvaluesLow hvaluesSpan),
        ValueRange.overlaps_of_inside hvalues hprices hvaluesLow hvaluesSpan hin, decide_eq_true ht]
  · rw [ValueRange.overlaps_of_apart hprices hvalues hlow hapart ht]
    exact Bool.false_ne_true

/-- Prices at the least doubles, and values whose span is infinite. -/
theorem Classifier.classify_least_prices :
    let c : Classifier := ⟨1.0, true⟩
    let least := Float.ofBits 1
    let largest := Float.ofBits 0x7fefffffffffffff
    let candles : List Candle := [⟨0, least, Float.ofBits 2, least, least, 1.0⟩]
    let data : List Sample := [⟨0, some largest, true, none⟩, ⟨1, some (-largest), true, none⟩]
    (priceRange candles).Inside (c.indicatorRange data) ∧
    (priceRange candles).span = least ∧ (c.indicatorRange data).span = infinity ∧
    c.classify (priceRange candles) data = .main := by
  intro c least largest candles data
  have hinside : (priceRange candles).Inside (c.indicatorRange data) := by decide
  have hplace := c.classify_of_ranges (show candles ≠ [] by decide) (by decide) data
  exact ⟨hinside, by decide, by decide, hplace.2.2.1 (by decide) (.inl hinside) (by decide)⟩

end MarketChart
