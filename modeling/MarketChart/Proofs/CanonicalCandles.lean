import Mathlib.Data.List.Forall2
import MarketChart.Proofs.DoubleOrder

/-!
# Canonical candles

What cleaning a list of raw records guarantees, whatever the records hold: one candle for every
valid record, in order, and every candle canonical (`sanitize_canonical`). A candle is canonical
(`Candle.Canonical`) if its prices and its volume are finite and above zero and its opening and
closing prices lie between its low and its high.

A record is checked by comparing doubles, and such a comparison says less than it seems: nothing
compares with not-a-number, and the two zeros are equal. Both are out of the way once all four
prices are known to be positive. Then the extremes are those of a linear order
(`Prices.le_max`, `Prices.min_le`), and two prices that compare as equal are the same.
-/

namespace MarketChart

/-! ## Comparing doubles -/

namespace Number

open Float.Model
open Float.Model.UnpackedFloat

theorem beq_iff_rankOf {u v : UnpackedFloat} (hu : u ≠ .notANumber) (hv : v ≠ .notANumber) :
    u.beq v = true ↔ rankOf u = rankOf v := by
  unfold UnpackedFloat.beq
  rcases u with (_ | _) | _ | _ | ⟨_ | _, m, e, hm⟩ <;>
    rcases v with (_ | _) | _ | _ | ⟨_ | _, m', e', hm'⟩ <;>
    simp [UnpackedFloat.compare, rankOf] at hu hv ⊢
  · rfl
  · rfl

theorem le_eq_lt_or_beq (u v : UnpackedFloat) : u.le v = (u.lt v || u.beq v) := by
  unfold UnpackedFloat.le UnpackedFloat.lt UnpackedFloat.beq
  rcases u.compare v with _ | _ | _ | _ <;> rfl

theorem beq_iff_rank {x y : Float} (hx : x.isNaN = false) (hy : y.isNaN = false) :
    (x == y) = true ↔ rank x = rank y :=
  beq_iff_rankOf (unpack_ne_of_isNaN hx) (unpack_ne_of_isNaN hy)

theorem le_iff_rank {x y : Float} (hx : x.isNaN = false) (hy : y.isNaN = false) :
    x ≤ y ↔ rank x ≤ rank y := by
  have hle : x ≤ y ↔ x.toModel.unpack.le y.toModel.unpack = true := decide_eq_true_iff
  rw [hle, le_eq_lt_or_beq, Bool.or_eq_true, le_iff_lt_or_eq,
    lt_iff_rankOf (unpack_ne_of_isNaN hx) (unpack_ne_of_isNaN hy),
    beq_iff_rankOf (unpack_ne_of_isNaN hx) (unpack_ne_of_isNaN hy)]
  rfl

theorem isNaN_of_le {x y : Float} (h : x ≤ y) : x.isNaN = false ∧ y.isNaN = false := by
  have hx : x.isNaN = x.toModel.unpack.isNaN := rfl
  have hy : y.isNaN = y.toModel.unpack.isNaN := rfl
  have hle : x ≤ y ↔ x.toModel.unpack.le y.toModel.unpack = true := decide_eq_true_iff
  rw [hle] at h
  rw [hx, hy]
  cases hu : x.toModel.unpack <;> cases hv : y.toModel.unpack <;>
    simp [hu, hv, UnpackedFloat.le, UnpackedFloat.compare, UnpackedFloat.isNaN] at h ⊢

theorem le_of_le_of_le {x y z : Float} (hxy : x ≤ y) (hyz : y ≤ z) : x ≤ z := by
  obtain ⟨hx, hy⟩ := isNaN_of_le hxy
  have hz := (isNaN_of_le hyz).2
  rw [le_iff_rank hx hy] at hxy
  rw [le_iff_rank hy hz] at hyz
  rw [le_iff_rank hx hz]
  exact hxy.trans hyz

end Number

/-! ## The extremes of four prices -/

namespace Prices

/-- The four prices. -/
def toList (p : Prices) : List Float := [p.opening, p.high, p.low, p.closing]

theorem allPositive_iff {p : Prices} :
    p.allPositive = true ↔ ∀ x ∈ p.toList, isPositive x = true := by
  simp [allPositive, toList, and_assoc]

section

variable {κ : Type} [LinearOrder κ] {pick : Float → Float → Float} {key : Float → κ}
  (h : Number.Picks pick key) {p : Prices} (hp : p.allPositive = true)

include h hp

/-- What is picked among the four prices is positive and comes before all of them. -/
theorem picked_spec :
    let picked := pick (pick (pick p.opening p.high) p.low) p.closing
    isPositive picked = true ∧ ∀ k, k ≤ key picked ↔ ∀ x ∈ p.toList, k ≤ key x := by
  have hfold := h.key_foldl (z := p.opening) (l := [p.high, p.low, p.closing])
    fun x hx => Number.isNaN_of_isPositive (allPositive_iff.1 hp x hx)
  refine ⟨?_, hfold.2⟩
  simp only [allPositive_iff, toList, List.forall_mem_cons] at hp
  obtain ⟨hopening, hhigh, hlow, hclosing, -⟩ := hp
  exact h.isPositive (h.isPositive (h.isPositive hopening hhigh) hlow) hclosing

end

variable {p : Prices} (hp : p.allPositive = true)

include hp

theorem isPositive_max : isPositive p.max = true := (picked_spec Number.picks_larger hp).1

theorem isPositive_min : isPositive p.min = true := (picked_spec Number.picks_smaller hp).1

/-- The highest price is bounded by what bounds all prices. -/
theorem max_le_iff {x : Float} (hx : x.isNaN = false) : p.max ≤ x ↔ ∀ y ∈ p.toList, y ≤ x := by
  rw [Number.le_iff_rank (Number.isNaN_of_isPositive (isPositive_max hp)) hx]
  refine ((picked_spec Number.picks_larger hp).2 (OrderDual.toDual (Number.rank x))).trans ?_
  refine forall₂_congr fun y hy => ?_
  exact (Number.le_iff_rank (Number.isNaN_of_isPositive (allPositive_iff.1 hp y hy)) hx).symm

theorem le_min_iff {x : Float} (hx : x.isNaN = false) : x ≤ p.min ↔ ∀ y ∈ p.toList, x ≤ y := by
  rw [Number.le_iff_rank hx (Number.isNaN_of_isPositive (isPositive_min hp))]
  refine ((picked_spec Number.picks_smaller hp).2 (Number.rank x)).trans ?_
  refine forall₂_congr fun y hy => ?_
  exact (Number.le_iff_rank hx (Number.isNaN_of_isPositive (allPositive_iff.1 hp y hy))).symm

theorem le_max {x : Float} (hx : x ∈ p.toList) : x ≤ p.max := by
  have hmax := Number.isNaN_of_isPositive (isPositive_max hp)
  exact (max_le_iff hp hmax).1 ((Number.le_iff_rank hmax hmax).2 le_rfl) x hx

theorem min_le {x : Float} (hx : x ∈ p.toList) : p.min ≤ x := by
  have hmin := Number.isNaN_of_isPositive (isPositive_min hp)
  exact (le_min_iff hp hmin).1 ((Number.le_iff_rank hmin hmin).2 le_rfl) x hx

end Prices

/-- Positive doubles that compare as equal are the same. -/
theorem Number.eq_of_beq {x y : Float} (hx : Prices.isPositive x = true)
    (hy : Prices.isPositive y = true) (h : (x == y) = true) : x = y :=
  eq_of_rank_eq hx ((beq_iff_rank (isNaN_of_isPositive hx) (isNaN_of_isPositive hy)).1 h)

/-! ## The candles of records -/

/-- The prices and the volume are finite and above zero, and the prices at the ends of the period
lie between the low and the high. -/
structure Candle.Canonical (c : Candle) : Prop where
  positive : ∀ x ∈ [c.opening, c.high, c.low, c.closing, c.volume], x.isFinite = true ∧ 0.0 < x
  between : ∀ x ∈ [c.opening, c.closing], c.low ≤ x ∧ x ≤ c.high

namespace RawCandle

/-- The candle is canonical, and its time and its prices are those that the record states. -/
structure Makes (r : RawCandle) (c : Candle) : Prop where
  canonical : c.Canonical
  time : r.seconds? = some c.time
  opening : number? r.opening = some c.opening
  high : number? r.high = some c.high
  low : number? r.low = some c.low
  closing : number? r.closing = some c.closing

theorem isPositive_volumeOrDefault (r : RawCandle) :
    Prices.isPositive r.volumeOrDefault = true := by
  unfold volumeOrDefault
  cases hv : (number? r.volume).filter Prices.isPositive with
  | none =>
    show Prices.isPositive defaultVolume = true
    decide
  | some x => exact (Option.filter_eq_some_iff.1 hv).2

/-- A valid record states four positive prices, with the extremes in their places, and a time. -/
theorem of_isValid {r : RawCandle} (h : r.isValid = true) :
    ∃ p t, r.prices? = some p ∧ p.allPositive = true ∧ p.max = p.high ∧ p.min = p.low ∧
      r.seconds? = some t := by
  unfold isValid at h
  cases hp : r.prices? with
  | none => simp [hp] at h
  | some p =>
    simp only [hp, Bool.and_eq_true, Option.isSome_iff_exists] at h
    obtain ⟨⟨⟨hpositive, hmax⟩, hmin⟩, t, ht⟩ := h
    have hall := Prices.allPositive_iff.1 hpositive
    have hhigh : Prices.isPositive p.high = true := hall p.high (by simp [Prices.toList])
    have hlow : Prices.isPositive p.low = true := hall p.low (by simp [Prices.toList])
    exact ⟨p, t, rfl, hpositive, Number.eq_of_beq (Prices.isPositive_max hpositive) hhigh hmax,
      Number.eq_of_beq (Prices.isPositive_min hpositive) hlow hmin, ht⟩

theorem prices?_eq_some {r : RawCandle} {p : Prices} (h : r.prices? = some p) :
    number? r.opening = some p.opening ∧ number? r.high = some p.high ∧
      number? r.low = some p.low ∧ number? r.closing = some p.closing := by
  simp only [prices?, Option.bind_eq_bind, Option.bind_eq_some_iff, Option.pure_def,
    Option.some.injEq] at h
  obtain ⟨opening, hopening, high, hhigh, low, hlow, closing, hclosing, rfl⟩ := h
  exact ⟨hopening, hhigh, hlow, hclosing⟩

/-- Every valid record makes a canonical candle. -/
theorem makes_of_isValid {r : RawCandle} (h : r.isValid = true) :
    ∃ c, r.normalize? = some c ∧ r.Makes c := by
  obtain ⟨p, t, hp, hpositive, hmax, hmin, ht⟩ := of_isValid h
  obtain ⟨hopening, hhigh, hlow, hclosing⟩ := prices?_eq_some hp
  have hall := Prices.allPositive_iff.1 hpositive
  have hends : ∀ x ∈ [p.opening, p.closing], x ∈ p.toList := by simp [Prices.toList]
  refine ⟨⟨t, p.opening, p.max, p.min, p.closing, r.volumeOrDefault⟩, by simp [normalize?, hp, ht],
    ⟨?_, fun x hx => ?_⟩, ht, hopening, hmax ▸ hhigh, hmin ▸ hlow, hclosing⟩
  · have hpositives : ∀ x ∈ [p.opening, p.max, p.min, p.closing, r.volumeOrDefault],
        Prices.isPositive x = true := by
      simp only [List.forall_mem_cons]
      exact ⟨hall _ (hends _ (by simp)), Prices.isPositive_max hpositive,
        Prices.isPositive_min hpositive, hall _ (hends _ (by simp)), r.isPositive_volumeOrDefault,
        by simp⟩
    simpa only [Prices.isPositive, Bool.and_eq_true, decide_eq_true_iff] using hpositives
  · exact ⟨Prices.min_le hpositive (hends x hx), Prices.le_max hpositive (hends x hx)⟩

end RawCandle

/-- Whatever raw records hold, cleaning them gives one candle for each valid record, in order. The
candle is canonical, with the time and the prices that the record states. -/
theorem sanitize_canonical (raw : List RawCandle) :
    List.Forall₂ RawCandle.Makes (raw.filter RawCandle.isValid) (sanitize raw) := by
  induction raw with
  | nil => exact .nil
  | cons r raw ih =>
    cases hr : r.isValid with
    | false => simpa [sanitize, hr] using ih
    | true =>
      obtain ⟨c, hc, hmakes⟩ := RawCandle.makes_of_isValid hr
      have hcons : sanitize (r :: raw) = c :: sanitize raw := by simp [sanitize, hr, hc]
      rw [hcons, List.filter_cons_of_pos hr]
      exact .cons hmakes ih

end MarketChart
