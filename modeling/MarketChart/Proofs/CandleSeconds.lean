import MarketChart.Proofs.CanonicalCandles
import MarketChart.Proofs.DoubleUnits
import MarketChart.Proofs.StreamPoints
import MarketChart.Proofs.TimeAxis

/-!
# From milliseconds to seconds and back

Records and samples have times in milliseconds, candles and drawn points in seconds. The time of a
record is divided as a double and then rounded down, that of a sample is divided as an integer. Up
to `2 ^ 53` both are the same second, before the epoch as well as after it
(`sanitize_adapt_same_second`), so that a candle and a point from the same millisecond stand at the
same place of an axis.

A candle can be written as a record again (`Candle.record`). Within the same bound this loses
nothing: the record of a canonical candle is valid and makes that candle
(`Candle.Canonical.normalize?_record`). As cleaning makes canonical candles only, cleaning once is
as good as cleaning twice (`sanitize_idempotent`).
-/

namespace MarketChart

/-! ## The second of a millisecond -/

theorem RawCandle.seconds?_eq_floor {r : RawCandle} {ms : ℤ} (hlow : -(2 ^ 53) ≤ ms)
    (hhigh : ms ≤ 2 ^ 53) (hopen : number? r.openTime = some (Float.ofInt ms)) :
    r.seconds? = some ⌊(ms : ℚ) / 1000⌋ := by
  have hopens : r.OpensAt ms := .inl ⟨hopen, hlow, hhigh⟩
  rw [hopens.seconds?]
  exact congrArg some (Rat.floor_intCast_div_natCast ms 1000).symm

theorem mem_sanitize_of_isValid {raw : List RawCandle} {r : RawCandle} (hr : r ∈ raw)
    (hvalid : r.isValid = true) :
    ∃ c ∈ sanitize raw, r.normalize? = some c ∧ r.Makes c := by
  obtain ⟨c, hc, hmakes⟩ := RawCandle.makes_of_isValid hvalid
  have hmem : c ∈ sanitize raw :=
    List.mem_filterMap.2 ⟨r, List.mem_filter.2 ⟨hr, hvalid⟩, hc⟩
  exact ⟨c, hmem, hc, hmakes⟩

theorem mem_adapt_of_isVisible {points : List PlotPoint} {p : PlotPoint} (hp : p ∈ points)
    (hvisible : p.isVisible = true) :
    ∃ q ∈ adapt points, q.time = p.seconds ∧ p.value = some q.value := by
  cases hfirst : points.findIdx? PlotPoint.isVisible with
  | none =>
    exact absurd (List.findIdx?_eq_none_iff.1 hfirst p hp) (by simp [hvisible])
  | some first =>
    obtain ⟨i, hi⟩ := List.mem_iff_getElem?.1 hp
    have hpoint := streamPoint_of_visible points first hvisible i
    obtain ⟨y, hy, -⟩ := PlotPoint.value_of_isVisible hvisible
    refine ⟨_, ?_, time_streamPoint hpoint, ?_⟩
    · rw [adapt_eq_filterMap hfirst]
      exact List.mem_filterMap.2 ⟨(p, i), List.mem_zipIdx_iff_getElem?.2 hi, hpoint⟩
    · rw [hy]
      cases hiddenAt points (i + 1) <;> simp [drawn, RenderPoint.ending, hy]

/-- A record and a sample from the same millisecond stand at the same second, also before the
epoch. So does the candle of the record, if it is valid, and the point of the sample, if it is
visible. -/
theorem sanitize_adapt_same_second {ms : ℤ} (hlow : -(2 ^ 53) ≤ ms) (hhigh : ms ≤ 2 ^ 53)
    {r : RawCandle} (hr : RawCandle.number? r.openTime = some (Float.ofInt ms)) {p : PlotPoint}
    (hp : p.time = ms) :
    (r.seconds? = some ⌊(ms : ℚ) / 1000⌋ ∧ p.seconds = ⌊(ms : ℚ) / 1000⌋) ∧
    ∀ raw points, r ∈ raw → r.isValid = true → p ∈ points → p.isVisible = true →
      ∃ c ∈ sanitize raw, ∃ q ∈ adapt points, r.normalize? = some c ∧ p.value = some q.value ∧
        c.time = ⌊(ms : ℚ) / 1000⌋ ∧ q.time = ⌊(ms : ℚ) / 1000⌋ := by
  have hsecond := RawCandle.seconds?_eq_floor hlow hhigh hr
  have hpoint : p.seconds = ⌊(ms : ℚ) / 1000⌋ := hp ▸ p.seconds_eq_floor
  refine ⟨⟨hsecond, hpoint⟩, fun raw points hraw hvalid hpoints hvisible => ?_⟩
  obtain ⟨c, hc, hnormal, hmakes⟩ := mem_sanitize_of_isValid hraw hvalid
  obtain ⟨q, hq, htime, hvalue⟩ := mem_adapt_of_isVisible hpoints hvisible
  have hcandle : c.time = ⌊(ms : ℚ) / 1000⌋ := Option.some.inj (hmakes.time.symm.trans hsecond)
  exact ⟨c, hc, q, hq, hnormal, hvalue, hcandle, htime.trans hpoint⟩

/-- The last odd number of milliseconds within the bound, before the epoch. -/
theorem sanitize_adapt_same_second_before_epoch :
    let r := RawCandle.steady (-9007199254740991)
    let p : PlotPoint := ⟨-9007199254740991, some 50.0, some "blue"⟩
    r.isValid = true ∧ p.isVisible = true ∧ r.seconds? = some (-9007199254741) ∧
      p.seconds = -9007199254741 ∧
      ∃ c ∈ sanitize [r], ∃ q ∈ adapt [p], c.time = -9007199254741 ∧ q.time = -9007199254741 := by
  intro r p
  have hfloor : ⌊((-9007199254740991 : ℤ) : ℚ) / 1000⌋ = -9007199254741 :=
    Rat.floor_intCast_div_natCast (-9007199254740991) 1000
  have hvalid : r.isValid = true := by decide
  have hvisible : p.isVisible = true := by decide
  have hlow : -(2 ^ 53) ≤ (-9007199254740991 : ℤ) := by decide
  obtain ⟨⟨hr, hp⟩, hlists⟩ := sanitize_adapt_same_second hlow (by decide)
    (show RawCandle.number? r.openTime = _ from rfl) (show p.time = _ from rfl)
  obtain ⟨c, hc, q, hq, -, -, hctime, hqtime⟩ :=
    hlists [r] [p] List.mem_cons_self hvalid List.mem_cons_self hvisible
  rw [hfloor] at hr hp hctime hqtime
  exact ⟨hvalid, hvisible, hr, hp, c, hc, q, hq, hctime, hqtime⟩

/-! ## Candles as records -/

/-- The candle as a record, at its time in milliseconds. -/
def Candle.record (c : Candle) : RawCandle :=
  .ofNumbers (c.time * 1000) c.opening c.high c.low c.closing c.volume

theorem Number.eq_of_le_of_le {x y : Float} (hx : Prices.isPositive x = true)
    (hy : Prices.isPositive y = true) (hxy : x ≤ y) (hyx : y ≤ x) : x = y := by
  rw [le_iff_rank (isNaN_of_isPositive hx) (isNaN_of_isPositive hy)] at hxy
  rw [le_iff_rank (isNaN_of_isPositive hy) (isNaN_of_isPositive hx)] at hyx
  exact eq_of_rank_eq hx (le_antisymm hxy hyx)

theorem Number.beq_self {x : Float} (hx : Prices.isPositive x = true) : (x == x) = true :=
  (beq_iff_rank (isNaN_of_isPositive hx) (isNaN_of_isPositive hx)).2 rfl

theorem RawCandle.number?_field {x : Float} (h : x.isFinite = true) :
    number? (field x) = some x := by
  rw [field, number?, Option.bind_some, Json.ofFloat, if_pos h]
  rfl

namespace Candle

/-- The prices of a candle. -/
def prices (c : Candle) : Prices := ⟨c.opening, c.high, c.low, c.closing⟩

theorem seconds?_record {c : Candle} (hlow : -(2 ^ 53) ≤ 1000 * c.time)
    (hhigh : 1000 * c.time ≤ 2 ^ 53) : c.record.seconds? = some c.time := by
  have hopens : c.record.OpensAt (c.time * 1000) := .inl ⟨rfl, by omega, by omega⟩
  rw [hopens.seconds?, Int.mul_ediv_cancel _ (by decide)]

namespace Canonical

variable {c : Candle} (h : c.Canonical)

include h

theorem isPositive : ∀ x ∈ [c.opening, c.high, c.low, c.closing, c.volume],
    Prices.isPositive x = true := by
  simpa only [Prices.isPositive, Bool.and_eq_true, decide_eq_true_iff] using h.positive

theorem number?_field : ∀ x ∈ [c.opening, c.high, c.low, c.closing, c.volume],
    RawCandle.number? (RawCandle.field x) = some x :=
  fun x hx => RawCandle.number?_field (h.positive x hx).1

theorem allPositive_prices : c.prices.allPositive = true :=
  Prices.allPositive_iff.2 fun x hx => h.isPositive x (List.mem_append_left [c.volume] hx)

theorem prices?_record : c.record.prices? = some c.prices := by
  have hfields := h.number?_field
  simp only [List.forall_mem_cons] at hfields
  obtain ⟨hopening, hhigh, hlow, hclosing, -⟩ := hfields
  simp [RawCandle.prices?, record, RawCandle.ofNumbers, hopening, hhigh, hlow, hclosing, prices]

theorem volumeOrDefault_record : c.record.volumeOrDefault = c.volume := by
  have hvolume := h.number?_field c.volume (by simp)
  have hpositive := h.isPositive c.volume (by simp)
  simp [RawCandle.volumeOrDefault, record, RawCandle.ofNumbers, hvolume, Option.filter_some,
    hpositive]

/-- All prices lie between the low and the high. -/
theorem bounds : ∀ x ∈ c.prices.toList, c.low ≤ x ∧ x ≤ c.high := by
  have hbetween := h.between
  have hpositive := h.isPositive
  simp only [List.forall_mem_cons] at hbetween hpositive
  obtain ⟨hopening, hhigh, hlow, hclosing, -⟩ := hpositive
  have hle {x y : Float} (hx : Prices.isPositive x = true) (hy : Prices.isPositive y = true) :=
    Number.le_iff_units (Number.isNaN_of_isPositive hx) (Number.isNaN_of_isPositive hy)
  simp only [prices, Prices.toList, List.forall_mem_cons, List.not_mem_nil, false_implies,
    implies_true, and_true, hle, hopening, hhigh, hlow, hclosing] at hbetween ⊢
  omega

/-- The extremes of the prices are in their places. -/
theorem extremes : c.prices.max = c.high ∧ c.prices.min = c.low := by
  have hall := h.allPositive_prices
  have hhigh := h.isPositive c.high (by simp)
  have hlow := h.isPositive c.low (by simp)
  have hmax : c.prices.max ≤ c.high :=
    (Prices.max_le_iff hall (Number.isNaN_of_isPositive hhigh)).2 fun x hx => (h.bounds x hx).2
  have hmin : c.low ≤ c.prices.min :=
    (Prices.le_min_iff hall (Number.isNaN_of_isPositive hlow)).2 fun x hx => (h.bounds x hx).1
  exact ⟨Number.eq_of_le_of_le (Prices.isPositive_max hall) hhigh hmax
      (Prices.le_max hall (by simp [prices, Prices.toList])),
    Number.eq_of_le_of_le (Prices.isPositive_min hall) hlow
      (Prices.min_le hall (by simp [prices, Prices.toList])) hmin⟩

/-- The record of a canonical candle makes that candle. -/
theorem normalize?_record (hlow : -(2 ^ 53) ≤ 1000 * c.time) (hhigh : 1000 * c.time ≤ 2 ^ 53) :
    c.record.isValid = true ∧ c.record.normalize? = some c := by
  obtain ⟨hmax, hmin⟩ := h.extremes
  have htime := seconds?_record hlow hhigh
  constructor
  · have hhigh := Number.beq_self (h.isPositive c.high (by simp))
    have hlow := Number.beq_self (h.isPositive c.low (by simp))
    simp only [RawCandle.isValid, h.prices?_record, htime, h.allPositive_prices, hmax, hmin]
    simp [prices, hhigh, hlow]
  · simp only [RawCandle.normalize?, h.prices?_record, htime, Option.bind_eq_bind,
      Option.bind_some, hmax, hmin, h.volumeOrDefault_record]
    rfl

end Canonical

end Candle

/-- Canonical candles are what cleaning makes of their records. -/
theorem sanitize_map_record {candles : List Candle} (h : ∀ c ∈ candles, c.Canonical)
    (htimes : ∀ c ∈ candles, -(2 ^ 53) ≤ 1000 * c.time ∧ 1000 * c.time ≤ 2 ^ 53) :
    (∀ r ∈ candles.map Candle.record, r.isValid = true) ∧
      sanitize (candles.map Candle.record) = candles := by
  have hrecord : ∀ c ∈ candles, c.record.isValid = true ∧ c.record.normalize? = some c :=
    fun c hc => (h c hc).normalize?_record (htimes c hc).1 (htimes c hc).2
  have hvalid : ∀ r ∈ candles.map Candle.record, r.isValid = true :=
    List.forall_mem_map.2 fun c hc => (hrecord c hc).1
  refine ⟨hvalid, ?_⟩
  rw [sanitize, List.filter_eq_self.2 hvalid, List.filterMap_map]
  exact (List.filterMap_congr fun c hc => (hrecord c hc).2).trans List.filterMap_some

/-- Cleaning is idempotent: the candles it makes, written as records at their times in milliseconds,
are all valid, and cleaning these gives the same candles. -/
theorem sanitize_idempotent {raw : List RawCandle}
    (h : ∀ c ∈ sanitize raw, -(2 ^ 53) ≤ 1000 * c.time ∧ 1000 * c.time ≤ 2 ^ 53) :
    (∀ r ∈ (sanitize raw).map Candle.record, r.isValid = true) ∧
      sanitize ((sanitize raw).map Candle.record) = sanitize raw := by
  refine sanitize_map_record (fun c hc => ?_) h
  obtain ⟨r, hr, hc⟩ := List.mem_filterMap.1 hc
  obtain ⟨c', hc', hmakes⟩ := RawCandle.makes_of_isValid (List.mem_filter.1 hr).2
  obtain rfl : c' = c := Option.some.inj (hc'.symm.trans hc)
  exact hmakes.canonical

/-- A record before the epoch, one whose low is not the lowest price, and one of negative volume. -/
theorem sanitize_idempotent_mixed :
    let raw : List RawCandle := [.ofNumbers (-1500) 10.0 12.0 9.0 11.0 100.0,
      .ofNumbers 0 10.0 12.0 11.0 11.0 100.0, .ofNumbers 1999 10.0 12.0 9.0 11.0 (-1.0)]
    sanitize raw = [⟨-2, 10.0, 12.0, 9.0, 11.0, 100.0⟩, ⟨1, 10.0, 12.0, 9.0, 11.0, 1000.0⟩] ∧
      sanitize ((sanitize raw).map Candle.record) = sanitize raw := by
  intro raw
  have hraw : sanitize raw =
      [⟨-2, 10.0, 12.0, 9.0, 11.0, 100.0⟩, ⟨1, 10.0, 12.0, 9.0, 11.0, 1000.0⟩] := by decide
  exact ⟨hraw, (sanitize_idempotent (by rw [hraw]; decide)).2⟩

end MarketChart
