import MarketChart.Proofs.CandleSeconds
import MarketChart.Proofs.RangePlacement

/-!
# Ranges are tight

The range of an indicator is the hull of the values that count, and that of the prices reaches from
a low to a high with all prices in between (`Classifier.tight_ranges`). The hull of some values is
determined by them up to the sign of zero (`ValueRange.Hull.sameBounds`), so it does not matter in
which order samples come, nor what samples there are besides that do not count.

The one range is computed from its first value on and the other from the infinities. Every finite
double takes the place of an infinite one (`Number.smaller_infinity`), so both are the extremes of a
list that begins with its first element.
-/

namespace MarketChart

/-! ## The extremes of a list -/

namespace Number

section

variable {l : List Float} {z : Float} (hl : ∀ x ∈ z :: l, x.isNaN = false)

include hl

/-- The smallest of some doubles is one of them. -/
theorem smallest_spec :
    l.foldl smaller z ∈ z :: l ∧ ∀ x ∈ z :: l, l.foldl smaller z ≤ x := by
  obtain ⟨hnumber, hle⟩ := picks_smaller_units.key_foldl hl
  refine ⟨picks_smaller_units.foldl_mem hl, fun x hx => ?_⟩
  rw [le_iff_units hnumber (hl x hx)]
  exact (hle _).1 le_rfl x hx

/-- The largest of some doubles is one of them. -/
theorem largest_spec :
    l.foldl larger z ∈ z :: l ∧ ∀ x ∈ z :: l, x ≤ l.foldl larger z := by
  obtain ⟨hnumber, hle⟩ := picks_larger_units.key_foldl hl
  refine ⟨picks_larger_units.foldl_mem hl, fun x hx => ?_⟩
  rw [le_iff_units (hl x hx) hnumber]
  exact (hle _).1 le_rfl x hx

end

section

variable {x : Float} (hx : x.isFinite = true)

include hx

theorem smaller_infinity : smaller infinity x = x := by
  have hnumber := isNaN_of_isFinite hx
  have hlt : x < infinity :=
    (lt_iff_units hnumber rfl).2 ((isFinite_iff_units hnumber).1 hx).2
  rw [smaller, if_neg (by decide), if_pos hlt]

theorem larger_neg_infinity : larger (-infinity) x = x := by
  have hnumber := isNaN_of_isFinite hx
  have hlt : -infinity < x :=
    (lt_iff_units rfl hnumber).2 ((isFinite_iff_units hnumber).1 hx).1
  rw [larger, if_neg (by decide), if_pos hlt]

end

end Number

/-! ## Hulls -/

namespace ValueRange

open Number

/-- The range fits some values : its bounds are among them, and all of them lie between the
bounds. -/
structure Hull (r : ValueRange) (values : Set Float) : Prop where
  low : r.low ∈ values
  high : r.high ∈ values
  between : ∀ x ∈ values, r.low ≤ x ∧ x ≤ r.high

/-- The bounds are equal as numbers. -/
def SameBounds (a b : ValueRange) : Prop := (a.low == b.low) = true ∧ (a.high == b.high) = true

theorem Hull.sameBounds {values : Set Float} (hvalues : ∀ x ∈ values, x.isNaN = false)
    {a b : ValueRange} (ha : a.Hull values) (hb : b.Hull values) : a.SameBounds b := by
  have hbeq {x y : Float} (hx : x ∈ values) (hy : y ∈ values) (hxy : x ≤ y) (hyx : y ≤ x) :
      (x == y) = true := by
    rw [le_iff_units (hvalues x hx) (hvalues y hy)] at hxy
    rw [le_iff_units (hvalues y hy) (hvalues x hx)] at hyx
    exact (beq_iff_units (hvalues x hx) (hvalues y hy)).2 (le_antisymm hxy hyx)
  exact ⟨hbeq ha.low hb.low (ha.between _ hb.low).1 (hb.between _ ha.low).1,
    hbeq ha.high hb.high (hb.between _ ha.high).2 (ha.between _ hb.high).2⟩

theorem hull_ofValues {values : List Float} (hne : values ≠ [])
    (h : ∀ x ∈ values, x.isNaN = false) : (ofValues values).Hull {x | x ∈ values} := by
  obtain ⟨x, rest, rfl⟩ := List.exists_cons_of_ne_nil hne
  obtain ⟨hlow, hlowLe⟩ := smallest_spec h
  obtain ⟨hhigh, hleHigh⟩ := largest_spec h
  rw [ofValues, foldl_widen]
  exact ⟨hlow, hhigh, fun y hy => ⟨hlowLe y hy, hleHigh y hy⟩⟩

end ValueRange

/-! ## The range of the prices -/

/-- Prices are folded from the infinities, which the first candle replaces. -/
theorem priceRange_cons {c : Candle} (hlow : c.low.isFinite = true) (hhigh : c.high.isFinite = true)
    (rest : List Candle) :
    priceRange (c :: rest) = ⟨(rest.map Candle.low).foldl Number.smaller c.low,
      (rest.map Candle.high).foldl Number.larger c.high⟩ := by
  simp only [priceRange, List.map_cons, List.foldl_cons, Number.smaller_infinity hlow,
    Number.larger_neg_infinity hhigh]

/-- The prices of canonical candles reach from a low to a high. -/
theorem priceRange_spec {candles : List Candle} (hne : candles ≠ [])
    (h : ∀ k ∈ candles, k.Canonical) :
    let r := priceRange candles
    r.low ∈ candles.map Candle.low ∧ r.high ∈ candles.map Candle.high ∧
      ∀ k ∈ candles, r.low ≤ k.low ∧ k.high ≤ r.high := by
  intro r
  obtain ⟨c, rest, rfl⟩ := List.exists_cons_of_ne_nil hne
  have hfinite : ∀ k ∈ c :: rest, k.low.isFinite = true ∧ k.high.isFinite = true := fun k hk =>
    ⟨((h k hk).positive k.low (by simp)).1, ((h k hk).positive k.high (by simp)).1⟩
  have hlows : ∀ x ∈ (c :: rest).map Candle.low, x.isNaN = false :=
    List.forall_mem_map.2 fun k hk => Number.isNaN_of_isFinite (hfinite k hk).1
  have hhighs : ∀ x ∈ (c :: rest).map Candle.high, x.isNaN = false :=
    List.forall_mem_map.2 fun k hk => Number.isNaN_of_isFinite (hfinite k hk).2
  obtain ⟨hlow, hlowLe⟩ := Number.smallest_spec hlows
  obtain ⟨hhigh, hleHigh⟩ := Number.largest_spec hhighs
  obtain ⟨hclow, hchigh⟩ := hfinite c List.mem_cons_self
  rw [show r = _ from priceRange_cons hclow hchigh rest]
  exact ⟨hlow, hhigh, fun k hk =>
    ⟨hlowLe _ (List.mem_map_of_mem hk), hleHigh _ (List.mem_map_of_mem hk)⟩⟩

/-! ## The range of an indicator -/

namespace Classifier

/-- The values of samples that count : the finite ones, without zeros if these are left out. -/
def counted (c : Classifier) (data : List Sample) : Set Float :=
  {x | (∃ s ∈ data, s.value = some x) ∧ x.isFinite = true ∧
    (c.ignoreZeroSamples = true → (x == 0.0) = false)}

section

variable (c : Classifier) {data data' : List Sample}

theorem isEligible_iff {x : Float} : c.isEligible x = true ↔
    x.isFinite = true ∧ (c.ignoreZeroSamples = true → (x == 0.0) = false) := by
  unfold isEligible
  cases c.ignoreZeroSamples <;> simp

theorem setOf_mem_filter_isEligible :
    {x | x ∈ (data.filterMap Sample.value).filter c.isEligible} = c.counted data := by
  ext x
  simp only [counted, Set.mem_ofPred_eq, List.mem_filter, List.mem_filterMap, isEligible_iff]

theorem isNaN_of_mem_counted {x : Float} (h : x ∈ c.counted data) : x.isNaN = false :=
  Number.isNaN_of_isFinite h.2.1

theorem indicatorRange_of_counted_empty (h : c.counted data = ∅) :
    c.indicatorRange data = .zero := by
  rw [← c.setOf_mem_filter_isEligible, Set.eq_empty_iff_forall_notMem] at h
  rw [indicatorRange, List.eq_nil_iff_forall_not_mem.2 h, ValueRange.ofValues]

theorem hull_indicatorRange (h : (c.counted data).Nonempty) :
    (c.indicatorRange data).Hull (c.counted data) := by
  rw [← c.setOf_mem_filter_isEligible] at h ⊢
  obtain ⟨x, hx⟩ := h
  refine ValueRange.hull_ofValues (List.ne_nil_of_mem hx) fun y hy => ?_
  exact c.isNaN_of_mem_counted (c.setOf_mem_filter_isEligible.subset hy)

/-- The range depends on the values that count only. -/
theorem sameBounds_indicatorRange (h : c.counted data' = c.counted data) :
    (c.indicatorRange data').SameBounds (c.indicatorRange data) := by
  rcases (c.counted data).eq_empty_or_nonempty with hempty | hne
  · rw [c.indicatorRange_of_counted_empty hempty, c.indicatorRange_of_counted_empty (h.trans hempty)]
    exact ⟨by decide, by decide⟩
  · have hhull := c.hull_indicatorRange (h.symm ▸ hne)
    rw [h] at hhull
    exact hhull.sameBounds (fun _ => c.isNaN_of_mem_counted) (c.hull_indicatorRange hne)

theorem counted_append : c.counted (data ++ data') = c.counted data ∪ c.counted data' := by
  ext x
  simp only [counted, Set.mem_union, Set.mem_ofPred_eq, List.mem_append, or_and_right, exists_or]

theorem counted_perm (h : data'.Perm data) : c.counted data' = c.counted data := by
  simp only [counted, h.mem_iff]

end

/-- The range of an indicator is zero if no value counts, and else the hull of those that do. It
does not depend on the order of the samples, nor on samples without a value that counts. The range
of the prices of canonical candles reaches from the low of one to the high of another, and all
prices lie in it. -/
theorem tight_ranges (c : Classifier) :
    (∀ data : List Sample,
      (c.counted data = ∅ → c.indicatorRange data = .zero) ∧
      ((c.counted data).Nonempty → (c.indicatorRange data).Hull (c.counted data)) ∧
      (∀ data', data'.Perm data →
        (c.indicatorRange data').SameBounds (c.indicatorRange data)) ∧
      ∀ before idle after, data = before ++ after → c.counted idle = ∅ →
        (c.indicatorRange (before ++ idle ++ after)).SameBounds (c.indicatorRange data)) ∧
    ∀ candles : List Candle, candles ≠ [] → (∀ k ∈ candles, k.Canonical) →
      (priceRange candles).low ∈ candles.map Candle.low ∧
      (priceRange candles).high ∈ candles.map Candle.high ∧
      ∀ k ∈ candles, ∀ x ∈ [k.opening, k.high, k.low, k.closing],
        (priceRange candles).low ≤ x ∧ x ≤ (priceRange candles).high := by
  refine ⟨fun data => ⟨c.indicatorRange_of_counted_empty, c.hull_indicatorRange,
    fun data' hperm => c.sameBounds_indicatorRange (c.counted_perm hperm), ?_⟩, ?_⟩
  · rintro before idle after rfl hidle
    refine c.sameBounds_indicatorRange ?_
    rw [c.counted_append, c.counted_append, c.counted_append, hidle, Set.union_empty]
  · intro candles hne h
    obtain ⟨hlow, hhigh, hbounds⟩ := priceRange_spec hne h
    refine ⟨hlow, hhigh, fun k hk x hx => ?_⟩
    obtain ⟨hlowLe, hleHigh⟩ := hbounds k hk
    obtain ⟨hxlow, hxhigh⟩ := (h k hk).bounds x hx
    exact ⟨Number.le_of_le_of_le hlowLe hxlow, Number.le_of_le_of_le hxhigh hleHigh⟩

/-- Zeros of both signs that count : the samples in reverse have another range, with bounds that are
the same as numbers. -/
theorem tight_ranges_zeros :
    let c : Classifier := ⟨0.3, false⟩
    let first : Sample := ⟨0, some 0.0, true, none⟩
    let second : Sample := ⟨1, some (-0.0), true, none⟩
    let idle : List Sample := [⟨2, none, true, none⟩, ⟨3, some Number.notANumber, true, none⟩]
    let rising : Candle := ⟨0, 10.0, 12.0, 9.0, 11.0, 100.0⟩
    let falling : Candle := ⟨60, 11.0, 11.0, 8.0, 9.0, 50.0⟩
    let prices := priceRange [rising, falling]
    c.indicatorRange idle = .zero ∧
    (c.indicatorRange [first, second]).Hull (c.counted [first, second]) ∧
    c.indicatorRange [second, first] ≠ c.indicatorRange [first, second] ∧
    (c.indicatorRange [second, first]).SameBounds (c.indicatorRange [first, second]) ∧
    (c.indicatorRange ([first] ++ idle ++ [second])).SameBounds
      (c.indicatorRange [first, second]) ∧
    prices.low ∈ [9.0, 8.0] ∧ prices.high ∈ [12.0, 11.0] ∧
    ∀ x ∈ [10.0, 12.0, 9.0, 11.0], prices.low ≤ x ∧ x ≤ prices.high := by
  intro c first second idle rising falling prices
  obtain ⟨hranges, hprices⟩ := c.tight_ranges
  have hidle : c.counted idle = ∅ := by
    refine Set.eq_empty_iff_forall_notMem.2 fun x hx => ?_
    obtain ⟨⟨s, hs, hvalue⟩, hfinite, -⟩ := hx
    simp only [idle, List.mem_cons, List.not_mem_nil, or_false] at hs
    rcases hs with rfl | rfl
    · simp at hvalue
    · obtain rfl := Option.some.inj hvalue
      exact absurd hfinite (by decide)
  have hcounted : (c.counted [first, second]).Nonempty :=
    ⟨0.0, ⟨first, List.mem_cons_self, rfl⟩, by decide, Bool.noConfusion⟩
  obtain ⟨-, hhull, hperm, hinsert⟩ := hranges [first, second]
  have hcanonical : ∀ k ∈ [rising, falling], k.Canonical := by
    simp only [List.forall_mem_cons, List.not_mem_nil, false_implies, implies_true, and_true]
    exact ⟨⟨by decide, by decide⟩, ⟨by decide, by decide⟩⟩
  obtain ⟨hlow, hhigh, hbetween⟩ := hprices [rising, falling] (by simp) hcanonical
  exact ⟨(hranges idle).1 hidle, hhull hcounted, by decide, hperm _ (.swap ..),
    hinsert [first] idle [second] rfl hidle, hlow, hhigh, hbetween rising List.mem_cons_self⟩

end Classifier

end MarketChart
