import Mathlib.Data.List.TakeWhile
import MarketChart.Plot.Stream

/-!
# The times that a drawn stream keeps

A drawn stream has points for some of its samples only. Which ones depends on the samples that are
visible and on nothing else: every visible one, the one after each of these, and all that come
before the first (`mem_times_adapt`).
-/

namespace MarketChart

/-- The sample at a position has a point in the stream, given which of the samples are visible. -/
def Kept (shown : List Bool) (i : Nat) : Prop :=
  true ∈ shown ∧ (shown[i]? = some true ∨ (0 < i ∧ shown[i - 1]? = some true) ∨
    ∀ j < i, shown[j]? ≠ some true)

theorem kept_true_cons {shown : List Bool} {i : Nat} :
    Kept (true :: shown) i ↔
      (true :: shown)[i]? = some true ∨ (0 < i ∧ (true :: shown)[i - 1]? = some true) := by
  simp only [Kept, List.mem_cons_self, true_and]
  refine ⟨fun h => ?_, fun h => h.elim .inl fun h => .inr (.inl h)⟩
  rcases h with h | h | h
  · exact .inl h
  · exact .inr h
  · rcases Nat.eq_zero_or_pos i with rfl | hi
    · exact .inl rfl
    · exact absurd rfl (h 0 hi)

theorem kept_false_cons_zero {shown : List Bool} : Kept (false :: shown) 0 ↔ true ∈ shown := by
  simp [Kept]

theorem kept_false_cons_succ {shown : List Bool} {i : Nat} :
    Kept (false :: shown) (i + 1) ↔ Kept shown i := by
  have hprev : (false :: shown)[i]? = some true ↔ 0 < i ∧ shown[i - 1]? = some true := by
    cases i <;> simp
  have hbefore : (∀ j < i + 1, (false :: shown)[j]? ≠ some true) ↔
      ∀ j < i, shown[j]? ≠ some true := by
    refine ⟨fun h j hj => h (j + 1) (by omega), fun h j hj => ?_⟩
    cases j with
    | zero => simp
    | succ j => exact h j (by omega)
  have hnext : 0 < i + 1 ∧ (false :: shown)[i + 1 - 1]? = some true ↔
      0 < i ∧ shown[i - 1]? = some true := by
    simp [hprev]
  have hshown : true ∈ false :: shown ↔ true ∈ shown := by simp
  rw [Kept, hshown, hnext, hbefore, List.getElem?_cons_succ, Kept]

/-- A property of some element of a list and its position. -/
theorem exists_getElem?_cons {α : Type} {a : α} {l : List α} {q : Nat → α → Prop} :
    (∃ i x, (a :: l)[i]? = some x ∧ q i x) ↔
      q 0 a ∨ ∃ i x, l[i]? = some x ∧ q (i + 1) x := by
  rw [← Nat.or_exists_add_one]
  simp

/-- A sample has a point from the first visible one on if it is visible or follows one that is. -/
theorem mem_times_drawnFrom {t : Int} : ∀ {points : List PlotPoint} {after : Bool},
    t ∈ (drawnFrom after points).map RenderPoint.time ↔
      ∃ (i : Nat) (p : PlotPoint), points[i]? = some p ∧
      (p.isVisible = true ∨ (after :: points.map PlotPoint.isVisible)[i]? = some true) ∧
        p.seconds = t
  | [], after => by simp [drawnFrom]
  | p :: rest, after => by
    have hdrawn : ∀ gap, (drawn p gap).time = p.seconds := fun gap => by
      cases gap <;> rfl
    have htimes : t ∈ (drawnFrom after (p :: rest)).map RenderPoint.time ↔
        ((p.isVisible = true ∨ after = true) ∧ p.seconds = t) ∨
          t ∈ (drawnFrom p.isVisible rest).map RenderPoint.time := by
      rw [drawnFrom]
      cases p.isVisible <;> cases after <;>
        simp [hdrawn, RenderPoint.anchor, eq_comm]
    rw [htimes, mem_times_drawnFrom, exists_getElem?_cons]
    simp

theorem adapt_cons_of_visible {p : PlotPoint} (h : p.isVisible = true) (rest : List PlotPoint) :
    adapt (p :: rest) = drawnFrom false (p :: rest) := by
  simp [adapt, h]

/-- There is nothing to draw exactly if no sample is visible. -/
theorem dropWhile_hidden_eq_nil {points : List PlotPoint} :
    points.dropWhile (fun p => !p.isVisible) = [] ↔
      ¬true ∈ points.map PlotPoint.isVisible := by
  rw [List.dropWhile_eq_nil_iff]
  simp

theorem adapt_cons_of_hidden {p : PlotPoint} (h : p.isVisible = false) (rest : List PlotPoint) :
    adapt (p :: rest) = if true ∈ rest.map PlotPoint.isVisible then
      .anchor p.seconds :: adapt rest else [] := by
  by_cases hrest : true ∈ rest.map PlotPoint.isVisible
  · have hne := mt dropWhile_hidden_eq_nil.1 (not_not_intro hrest)
    simp [adapt, h, hne, hrest]
  · simp [adapt, h, dropWhile_hidden_eq_nil.2 hrest, hrest]

/-- The times of a drawn stream. -/
theorem mem_times_adapt {t : Int} : ∀ {points : List PlotPoint},
    t ∈ (adapt points).map RenderPoint.time ↔ ∃ (i : Nat) (p : PlotPoint), points[i]? = some p ∧
      Kept (points.map PlotPoint.isVisible) i ∧ p.seconds = t
  | [] => by simp [adapt]
  | p :: rest => by
    rw [List.map_cons]
    cases hp : p.isVisible with
    | true =>
      rw [adapt_cons_of_visible hp, mem_times_drawnFrom, List.map_cons, hp]
      refine exists_congr fun i => exists_congr fun x => and_congr_right fun hx => ?_
      have hshown : (true :: rest.map PlotPoint.isVisible)[i]? = some x.isVisible := by
        rw [← hp, ← List.map_cons, List.getElem?_map, hx, Option.map_some]
      rw [kept_true_cons, hshown, Option.some_inj]
      cases i <;> simp
    | false =>
      rw [adapt_cons_of_hidden hp, exists_getElem?_cons]
      simp only [kept_false_cons_zero, kept_false_cons_succ, ← mem_times_adapt]
      split
      · next h => simp [h, RenderPoint.anchor, eq_comm]
      · next h =>
        have hnone : adapt rest = [] := by
          simp [adapt, dropWhile_hidden_eq_nil.2 h]
        simp [h, hnone]

end MarketChart
