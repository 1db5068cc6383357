import MarketChart.Candle.Sanitize
import MarketChart.Proofs.DoubleForms

/-!
# The order of doubles

Doubles that are numbers are compared as their ranks are (`Number.lt_iff_rank`), and a positive
double is alone in its rank. So among positive doubles `Number.smaller` and `Number.larger` commute
like the minimum and the maximum of a linear order, and the extreme of a list of them does not
depend on the order of the list (`Number.foldl_smaller_perm`, `Number.foldl_larger_perm`). Of other
doubles that would be false: the two zeros are equal, and the one that comes first stands.
-/

namespace MarketChart.Number

open Float.Model
open Float.Model.UnpackedFloat

/-! ## Ranks -/

/-- The place of a double among all that are numbers. -/
def rankOf : UnpackedFloat → ℤ ×ₗ ℤ ×ₗ ℤ
  | .notANumber => toLex (3, toLex (0, 0))
  | .infinity .positive => toLex (2, toLex (0, 0))
  | .finite .positive m e _ => toLex (1, toLex (e, m))
  | .zero _ => toLex (0, toLex (0, 0))
  | .finite .negative m e _ => toLex (-1, toLex (-e, -m))
  | .infinity .negative => toLex (-2, toLex (0, 0))

def rank (x : Float) : ℤ ×ₗ ℤ ×ₗ ℤ := rankOf x.toModel.unpack

theorem lt_iff_rankOf {u v : UnpackedFloat} (hu : u ≠ .notANumber) (hv : v ≠ .notANumber) :
    u.lt v = true ↔ rankOf u < rankOf v := by
  unfold UnpackedFloat.lt
  rcases u with (_ | _) | _ | _ | ⟨_ | _, m, e, hm⟩ <;>
    rcases v with (_ | _) | _ | _ | ⟨_ | _, m', e', hm'⟩ <;>
    simp [UnpackedFloat.compare, rankOf, Prod.Lex.toLex_lt_toLex] at hu hv ⊢
  · decide
  · rw [Ordering.then_eq_gt, compare_gt_iff_gt, compare_eq_iff_eq, compare_gt_iff_gt]
  · rw [Ordering.then_eq_lt, compare_lt_iff_lt, compare_eq_iff_eq, compare_lt_iff_lt]

theorem unpack_ne_of_isNaN {x : Float} (h : x.isNaN = false) : x.toModel.unpack ≠ .notANumber := by
  intro hx
  have hnan : x.isNaN = x.toModel.unpack.isNaN := rfl
  rw [hnan, hx] at h
  exact Bool.false_ne_true h.symm

theorem lt_iff_unpack {x y : Float} : x < y ↔ x.toModel.unpack.lt y.toModel.unpack = true :=
  decide_eq_true_iff

theorem lt_iff_rank {x y : Float} (hx : x.isNaN = false) (hy : y.isNaN = false) :
    x < y ↔ rank x < rank y := by
  rw [lt_iff_unpack, lt_iff_rankOf (unpack_ne_of_isNaN hx) (unpack_ne_of_isNaN hy)]
  rfl

/-- Nothing compares with not-a-number. -/
theorem isNaN_of_lt {x y : Float} (h : x < y) : x.isNaN = false ∧ y.isNaN = false := by
  have hx : x.isNaN = x.toModel.unpack.isNaN := rfl
  have hy : y.isNaN = y.toModel.unpack.isNaN := rfl
  rw [lt_iff_unpack] at h
  rw [hx, hy]
  cases hu : x.toModel.unpack <;> cases hv : y.toModel.unpack <;>
    simp [hu, hv, UnpackedFloat.lt, UnpackedFloat.compare, UnpackedFloat.isNaN] at h ⊢

theorem not_lt_of_lt {x y : Float} (h : x < y) : ¬y < x := by
  obtain ⟨hx, hy⟩ := isNaN_of_lt h
  rw [lt_iff_rank hx hy] at h
  rw [lt_iff_rank hy hx]
  exact lt_asymm h

theorem isPositive_iff {x : Float} : Prices.isPositive x = true ↔
    ∃ m e hm, x.toModel.unpack = .finite .positive m e hm := by
  have hzero : (0.0 : Float).toModel.unpack = .zero .positive := rfl
  have hfinite : x.isFinite = x.toModel.unpack.isFinite := rfl
  rw [Prices.isPositive, Bool.and_eq_true, decide_eq_true_iff, lt_iff_unpack, hzero, hfinite]
  rcases x.toModel.unpack with (_ | _) | _ | _ | ⟨_ | _, m, e, hm⟩ <;>
    simp [UnpackedFloat.isFinite, UnpackedFloat.lt, UnpackedFloat.compare]
  exact hm

theorem isNaN_of_isPositive {x : Float} (h : Prices.isPositive x = true) : x.isNaN = false := by
  obtain ⟨m, e, hm, hx⟩ := isPositive_iff.1 h
  have hnan : x.isNaN = x.toModel.unpack.isNaN := rfl
  rw [hnan, hx]
  rfl

/-- A positive double is alone in its place. -/
theorem eq_of_rank_eq {x y : Float} (hx : Prices.isPositive x = true) (h : rank x = rank y) :
    x = y := by
  obtain ⟨m, e, hm, hx⟩ := isPositive_iff.1 hx
  refine unpack_injective ?_
  rw [rank, rank, hx] at h
  rw [hx]
  generalize y.toModel.unpack = v at h
  rcases v with (_ | _) | _ | _ | ⟨_ | _, m', e', hm'⟩ <;> simp [rankOf] at h
  obtain ⟨rfl, rfl⟩ := h
  rfl

/-! ## Extremes -/

/-- The function picks the one of two doubles whose key is smaller, the first if their keys are the
same; a not-a-number gives way. -/
def Picks {κ : Type} [LinearOrder κ] (pick : Float → Float → Float) (key : Float → κ) : Prop :=
  ∀ x y, y.isNaN = false → pick x y = if x.isNaN then y else if key y < key x then y else x

theorem picks_smaller : Picks smaller rank := by
  intro x y hy
  unfold smaller
  cases hx : x.isNaN with
  | true => rfl
  | false => simp only [lt_iff_rank hy hx]

theorem picks_larger : Picks larger (OrderDual.toDual ∘ rank) := by
  intro x y hy
  unfold larger
  cases hx : x.isNaN with
  | true => rfl
  | false => simp only [lt_iff_rank hx hy, Function.comp_apply, OrderDual.toDual_lt_toDual]

section

variable {κ : Type} [LinearOrder κ] {pick : Float → Float → Float} {key : Float → κ}
  (h : Picks pick key)

include h

theorem Picks.of_number {x y : Float} (hx : x.isNaN = false) (hy : y.isNaN = false) :
    pick x y = if key y < key x then y else x := by
  rw [h x y hy, hx, if_neg Bool.false_ne_true]

theorem Picks.of_key_le {x y : Float} (hx : x.isNaN = false) (hy : y.isNaN = false)
    (hle : key x ≤ key y) : pick x y = x := by
  rw [h.of_number hx hy, if_neg (not_lt.2 hle)]

/-- What is picked is a number, and its key is the smaller one. -/
theorem Picks.key_eq {x y : Float} (hx : x.isNaN = false) (hy : y.isNaN = false) :
    (pick x y).isNaN = false ∧ key (pick x y) = min (key x) (key y) := by
  rw [h.of_number hx hy]
  split
  · next hlt => exact ⟨hy, (min_eq_right hlt.le).symm⟩
  · next hge => exact ⟨hx, (min_eq_left (not_lt.1 hge)).symm⟩

/-- The extreme of doubles comes before all of them. -/
theorem Picks.key_foldl {l : List Float} {z : Float} (hl : ∀ x ∈ z :: l, x.isNaN = false) :
    (l.foldl pick z).isNaN = false ∧
      ∀ k, k ≤ key (l.foldl pick z) ↔ ∀ x ∈ z :: l, k ≤ key x := by
  induction l generalizing z with
  | nil => exact ⟨hl z List.mem_cons_self, by simp⟩
  | cons x l ih =>
    simp only [List.forall_mem_cons] at hl ih ⊢
    obtain ⟨hz, hx, hl⟩ := hl
    obtain ⟨hpick, hkey⟩ := h.key_eq hz hx
    obtain ⟨hfold, hle⟩ := ih ⟨hpick, hl⟩
    refine ⟨hfold, fun k => ?_⟩
    rw [List.foldl_cons, hle, hkey, le_min_iff, and_assoc]

/-- The extreme of doubles is one of them. -/
theorem Picks.foldl_mem {l : List Float} {z : Float} (hl : ∀ x ∈ z :: l, x.isNaN = false) :
    l.foldl pick z ∈ z :: l := by
  induction l generalizing z with
  | nil => exact List.mem_cons_self
  | cons x l ih =>
    simp only [List.forall_mem_cons] at hl ih
    obtain ⟨hz, hx, hl⟩ := hl
    have hpick : pick z x ∈ [z, x] := by
      rw [h.of_number hz hx]
      split <;> simp
    have hfold := ih ⟨(h.key_eq hz hx).1, hl⟩
    simp only [List.mem_cons, List.not_mem_nil, or_false] at hpick hfold ⊢
    rw [List.foldl_cons]
    rcases hfold with heq | hmem
    · rw [heq, ← or_assoc]
      exact .inl hpick
    · exact .inr (.inr hmem)

theorem Picks.isPositive {x y : Float} (hx : Prices.isPositive x = true)
    (hy : Prices.isPositive y = true) : Prices.isPositive (pick x y) = true := by
  rw [h.of_number (isNaN_of_isPositive hx) (isNaN_of_isPositive hy)]
  split
  · exact hy
  · exact hx

variable (hkey : ∀ x y, Prices.isPositive x = true → key x = key y → x = y)

include hkey

theorem Picks.comm {x y : Float} (hx : Prices.isPositive x = true)
    (hy : Prices.isPositive y = true) : pick x y = pick y x := by
  rw [h.of_number (isNaN_of_isPositive hx) (isNaN_of_isPositive hy),
    h.of_number (isNaN_of_isPositive hy) (isNaN_of_isPositive hx)]
  rcases lt_trichotomy (key x) (key y) with hlt | heq | hlt
  · rw [if_pos hlt, if_neg hlt.not_gt]
  · rw [hkey x y hx heq]
  · rw [if_pos hlt, if_neg hlt.not_gt]

theorem Picks.right_comm {x y : Float} (hx : Prices.isPositive x = true)
    (hy : Prices.isPositive y = true) (z : Float) : pick (pick z x) y = pick (pick z y) x := by
  have hcomm := h.comm hkey hx hy
  have hxn := isNaN_of_isPositive hx
  have hyn := isNaN_of_isPositive hy
  cases hz : z.isNaN with
  | true =>
    rw [h z x hxn, h z y hyn, if_pos hz, if_pos hz]
    exact hcomm
  | false =>
    rw [h.of_number hz hxn, h.of_number hz hyn]
    by_cases hzx : key x < key z <;> by_cases hzy : key y < key z
    · rw [if_pos hzx, if_pos hzy]
      exact hcomm
    · have hyx : ¬key y < key x := fun hlt => hzy (hlt.trans hzx)
      rw [if_pos hzx, if_neg hzy, h.of_number hxn hyn, h.of_number hz hxn, if_neg hyx, if_pos hzx]
    · have hxy : ¬key x < key y := fun hlt => hzx (hlt.trans hzy)
      rw [if_neg hzx, if_pos hzy, h.of_number hz hyn, h.of_number hyn hxn, if_pos hzy, if_neg hxy]
    · rw [if_neg hzx, if_neg hzy, h.of_number hz hyn, h.of_number hz hxn, if_neg hzx, if_neg hzy]

/-- The extreme of positive doubles does not depend on their order. -/
theorem Picks.foldl_perm {l l' : List Float} (hperm : l.Perm l')
    (hpos : ∀ x ∈ l, Prices.isPositive x = true) (z : Float) : l.foldl pick z = l'.foldl pick z :=
  hperm.foldl_eq' (fun _ hx _ hy z => h.right_comm hkey (hpos _ hx) (hpos _ hy) z) z

end

theorem foldl_smaller_perm {l l' : List Float} (hperm : l.Perm l')
    (hpos : ∀ x ∈ l, Prices.isPositive x = true) (z : Float) :
    l.foldl smaller z = l'.foldl smaller z :=
  picks_smaller.foldl_perm (fun _ _ hx => eq_of_rank_eq hx) hperm hpos z

theorem foldl_larger_perm {l l' : List Float} (hperm : l.Perm l')
    (hpos : ∀ x ∈ l, Prices.isPositive x = true) (z : Float) :
    l.foldl larger z = l'.foldl larger z :=
  picks_larger.foldl_perm (fun _ _ hx heq => eq_of_rank_eq hx (OrderDual.toDual.injective heq))
    hperm hpos z

end MarketChart.Number
