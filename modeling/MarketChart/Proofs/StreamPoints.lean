import Mathlib.Data.Rat.Floor
import MarketChart.Proofs.StreamRereading

/-!
# The points of a drawn stream, one by one

`adapt` goes through the samples once and remembers whether the last one was visible. Here is what
it makes of each sample, said by positions alone (`streamPoint`): the visible ones are drawn, the
line ends where the next sample is not visible, and an anchor stands for every sample before the
first visible one and for the first of each later run of samples that are not visible. A stream is
made of these points in the order of the samples (`adapt_spec`), from which its length, its values
and the order of its times can be read off.
-/

namespace MarketChart

/-! ## Positions -/

/-- There is a sample at the position, and it is visible. -/
def shownAt (points : List PlotPoint) (i : Nat) : Bool := points[i]?.any PlotPoint.isVisible

/-- There is a sample at the position, and it is not visible. -/
def hiddenAt (points : List PlotPoint) (i : Nat) : Bool := points[i]?.any fun p => !p.isVisible

/-- The point that a stream has for a sample and its position, if it has one; `first` is the
position of the first visible sample. -/
def streamPoint (points : List PlotPoint) (first : Nat) : PlotPoint × Nat → Option RenderPoint
  | (p, i) =>
    let time := ⌊(p.time : ℚ) / 1000⌋
    if p.isVisible then
      p.value.map fun y => ⟨time, y, if hiddenAt points (i + 1) then some transparent else none⟩
    else if i < first ∨ (first < i ∧ shownAt points (i - 1) = true) then
      some ⟨time, Number.notANumber, some transparent⟩
    else none

theorem hiddenAt_zero (points : List PlotPoint) : hiddenAt points 0 = gapFollows points := by
  cases points <;> rfl

theorem PlotPoint.seconds_eq_floor (p : PlotPoint) : p.seconds = ⌊(p.time : ℚ) / 1000⌋ :=
  (Rat.floor_intCast_div_natCast p.time 1000).symm

theorem PlotPoint.value_of_isVisible {p : PlotPoint} (h : p.isVisible = true) :
    ∃ y, p.value = some y ∧ y.isFinite = true := by
  simp only [isVisible, isValid, Bool.and_eq_true, Option.any_eq_true] at h
  exact h.1

theorem streamPoint_of_visible (points : List PlotPoint) (first : Nat) {p : PlotPoint}
    (h : p.isVisible = true) (i : Nat) :
    streamPoint points first (p, i) = some (drawn p (hiddenAt points (i + 1))) := by
  obtain ⟨y, hy, -⟩ := PlotPoint.value_of_isVisible h
  simp only [streamPoint, h, if_true, hy, Option.map_some, ← PlotPoint.seconds_eq_floor]
  cases hiddenAt points (i + 1) <;> simp [drawn, RenderPoint.ending, hy]

theorem streamPoint_of_hidden (points : List PlotPoint) (first : Nat) {p : PlotPoint}
    (h : p.isVisible = false) (i : Nat) : streamPoint points first (p, i) =
      if i < first ∨ (first < i ∧ shownAt points (i - 1) = true) then some (.anchor p.seconds)
      else none := by
  simp only [streamPoint, h, Bool.false_eq_true, if_false, PlotPoint.seconds_eq_floor]
  rfl

/-! ## The stream by positions -/

/-- What follows the samples `before`, among them the first visible one. -/
theorem drawnFrom_eq_filterMap {first : Nat} : ∀ (rest before : List PlotPoint),
    first < before.length → drawnFrom (shownAt before (before.length - 1)) rest =
      (rest.zipIdx before.length).filterMap (streamPoint (before ++ rest) first)
  | [], _, _ => rfl
  | p :: rest, before, h => by
    have hmore : first < (before ++ [p]).length := by
      rw [List.length_append]
      omega
    have ih := drawnFrom_eq_filterMap rest (before ++ [p]) hmore
    have hlast : shownAt (before ++ [p]) ((before ++ [p]).length - 1) = p.isVisible := by
      simp [shownAt]
    have hprev : shownAt (before ++ p :: rest) (before.length - 1) =
        shownAt before (before.length - 1) := by
      rw [shownAt, List.getElem?_append_left (by omega), shownAt]
    have hnext : hiddenAt (before ++ p :: rest) (before.length + 1) = gapFollows rest := by
      cases rest <;> simp [hiddenAt, gapFollows]
    rw [hlast, List.append_assoc, List.singleton_append, List.length_append,
      List.length_singleton] at ih
    rw [List.zipIdx_cons, List.filterMap_cons, drawnFrom]
    cases hp : p.isVisible with
    | true =>
      rw [hp] at ih
      simp [streamPoint_of_visible _ _ hp, hnext, ih]
    | false =>
      rw [hp] at ih
      rw [streamPoint_of_hidden _ _ hp, hprev]
      cases shownAt before (before.length - 1) <;> simp [h, Nat.not_lt.2 h.le, ih]

theorem adapt_eq_filterMap : ∀ {points : List PlotPoint} {first : Nat},
    points.findIdx? PlotPoint.isVisible = some first →
      adapt points = points.zipIdx.filterMap (streamPoint points first)
  | [], first, h => by simp at h
  | p :: rest, first, h => by
    cases hp : p.isVisible with
    | true =>
      obtain rfl : 0 = first := by simpa [List.findIdx?_cons, hp] using h
      have hrest : drawnFrom true rest = (rest.zipIdx 1).filterMap (streamPoint (p :: rest) 0) := by
        have hfrom := drawnFrom_eq_filterMap rest [p] Nat.one_pos
        rwa [show shownAt [p] ([p].length - 1) = true from hp] at hfrom
      rw [adapt_cons_of_visible hp, drawnFrom, if_pos hp, hrest, List.zipIdx_cons,
        List.filterMap_cons, streamPoint_of_visible _ _ hp, ← hiddenAt_zero]
      rfl
    | false =>
      obtain ⟨f, hf, rfl⟩ : ∃ f, rest.findIdx? PlotPoint.isVisible = some f ∧ f + 1 = first := by
        simpa [List.findIdx?_cons, hp] using h
      have hrest : true ∈ rest.map PlotPoint.isVisible := by
        obtain ⟨hlt, hvisible, -⟩ := List.findIdx?_eq_some_iff_getElem.1 hf
        exact List.mem_map.2 ⟨_, List.getElem_mem hlt, hvisible⟩
      rw [adapt_cons_of_hidden hp, if_pos hrest, adapt_eq_filterMap hf, List.zipIdx_cons,
        List.filterMap_cons, streamPoint_of_hidden _ _ hp, if_pos (.inl f.succ_pos),
        List.zipIdx_succ, List.filterMap_map]
      -- With one more sample in front all positions move on by one, that of the first visible one
      -- too.
      refine congrArg _ (List.filterMap_congr fun x _ => ?_)
      obtain ⟨q, i⟩ := x
      rw [Function.comp_apply]
      cases hq : q.isVisible with
      | true =>
        rw [streamPoint_of_visible _ _ hq, streamPoint_of_visible _ _ hq]
        rfl
      | false =>
        rw [streamPoint_of_hidden _ _ hq, streamPoint_of_hidden _ _ hq]
        refine if_congr (or_congr Nat.add_lt_add_iff_right.symm ?_) rfl rfl
        rw [Nat.add_lt_add_iff_right]
        refine and_congr_right fun hlt => ?_
        obtain ⟨j, rfl⟩ := Nat.exists_eq_succ_of_ne_zero (Nat.ne_zero_of_lt hlt)
        rfl

/-! ## Anchors -/

theorem not_isAnchor_head_drawnFrom : ∀ {points : List PlotPoint} {q : RenderPoint},
    q ∈ (drawnFrom false points).head? → q.isAnchor = false
  | p :: rest, q, h => by
    cases hp : p.isVisible with
    | true =>
      obtain rfl : drawn p (gapFollows rest) = q := by simpa [drawnFrom, hp] using h
      exact RenderPoint.isAnchor_drawn hp _
    | false =>
      have hrest : q ∈ (drawnFrom false rest).head? := by simpa [drawnFrom, hp] using h
      exact not_isAnchor_head_drawnFrom hrest

/-- From the first visible sample on, no anchor follows on another one. -/
theorem isChain_drawnFrom : ∀ (points : List PlotPoint) (after : Bool),
    (drawnFrom after points).IsChain fun q q' => q.isAnchor = false ∨ q'.isAnchor = false
  | [], _ => .nil
  | p :: rest, after => by
    rw [drawnFrom]
    split
    · next hp =>
      exact List.isChain_cons.2
        ⟨fun _ _ => .inl (RenderPoint.isAnchor_drawn hp _), isChain_drawnFrom rest true⟩
    · split
      · exact List.isChain_cons.2
          ⟨fun _ hq => .inr (not_isAnchor_head_drawnFrom hq), isChain_drawnFrom rest false⟩
      · exact isChain_drawnFrom rest false

/-- The anchors before the first value stand for the samples before the first visible one. -/
theorem dropWhile_isAnchor_adapt : ∀ points : List PlotPoint,
    (adapt points).dropWhile RenderPoint.isAnchor = drawnFrom false points
  | [] => rfl
  | p :: rest => by
    have ih := dropWhile_isAnchor_adapt rest
    cases hp : p.isVisible with
    | true =>
      have hfrom : drawnFrom false (p :: rest) =
          drawn p (gapFollows rest) :: drawnFrom true rest := by simp [drawnFrom, hp]
      rw [adapt_cons_of_visible hp, hfrom,
        List.dropWhile_cons_of_neg (by simp [RenderPoint.isAnchor_drawn hp])]
    | false =>
      have hfrom : drawnFrom false (p :: rest) = drawnFrom false rest := by simp [drawnFrom, hp]
      rw [adapt_cons_of_hidden hp, hfrom, ← ih]
      split
      · rw [List.dropWhile_cons_of_pos (isAnchor_anchor _)]
      · next hnone =>
        have hrest : adapt rest = [] := by simp [adapt, dropWhile_hidden_eq_nil.2 hnone]
        rw [hrest]

/-! ## The whole stream -/

theorem adapt_of_hidden {points : List PlotPoint} (h : ∀ p ∈ points, p.isVisible = false) :
    adapt points = [] := by
  have hrest : points.dropWhile (fun p => !p.isVisible) = [] :=
    dropWhile_hidden_eq_nil.2 (by simpa using h)
  simp [adapt, hrest]

theorem adapt_eq_nil_iff {points : List PlotPoint} :
    adapt points = [] ↔ ∀ p ∈ points, p.isVisible = false := by
  refine ⟨fun hnil p hp => ?_, adapt_of_hidden⟩
  by_contra hvisible
  cases hfirst : points.findIdx? PlotPoint.isVisible with
  | none => exact hvisible (List.findIdx?_eq_none_iff.1 hfirst p hp)
  | some first =>
    obtain ⟨i, hi, rfl⟩ := List.mem_iff_getElem.1 hp
    rw [adapt_eq_filterMap hfirst, List.filterMap_eq_nil_iff] at hnil
    have hnone := hnil (points[i], i) (by simp [List.mem_zipIdx_iff_getElem?])
    simp [streamPoint_of_visible _ _ (by simpa using hvisible)] at hnone

theorem time_streamPoint {points : List PlotPoint} {first : Nat} {x : PlotPoint × Nat}
    {q : RenderPoint} (h : streamPoint points first x = some q) : q.time = x.1.seconds := by
  obtain ⟨p, i⟩ := x
  cases hp : p.isVisible with
  | true =>
    rw [streamPoint_of_visible _ _ hp, Option.some.injEq] at h
    rw [← h]
    cases hiddenAt points (i + 1) <;> rfl
  | false =>
    rw [streamPoint_of_hidden _ _ hp] at h
    split at h
    · rw [← Option.some.inj h]
      rfl
    · simp at h

/-- The point of a sample has a finite value exactly if the sample is visible, and it is that of the
sample. -/
theorem value_streamPoint (points : List PlotPoint) (first : Nat) (x : PlotPoint × Nat) :
    ((streamPoint points first x).map RenderPoint.value).filter Float.isFinite =
      if x.1.isVisible then x.1.value else none := by
  obtain ⟨p, i⟩ := x
  cases hp : p.isVisible with
  | true =>
    obtain ⟨y, hy, hfinite⟩ := PlotPoint.value_of_isVisible hp
    have hvalue : (drawn p (hiddenAt points (i + 1))).value = y := by
      cases hiddenAt points (i + 1) <;> simp [drawn, RenderPoint.ending, hy]
    simp [streamPoint_of_visible _ _ hp, hvalue, hfinite, hy]
  | false =>
    have hanchor : (RenderPoint.anchor p.seconds).value.isFinite = false := by
      show Number.notANumber.isFinite = false
      decide
    rw [streamPoint_of_hidden _ _ hp]
    split <;> simp [hanchor]

/-- A stream is empty exactly if no sample is visible. If one is, and the first such sample stands
at `first`, the stream has the points that `streamPoint` says, in the order of the samples. So it is
no longer than the samples, its finite values are those of the visible samples in order, no anchor
follows on another once there was a value, and times that do not decrease stay so. -/
theorem adapt_spec (points : List PlotPoint) :
    (adapt points = [] ↔ ∀ p ∈ points, p.isVisible = false) ∧
      (∀ first, points.findIdx? PlotPoint.isVisible = some first →
        adapt points = points.zipIdx.filterMap (streamPoint points first)) ∧
      (adapt points).length ≤ points.length ∧
      ((adapt points).map RenderPoint.value).filter Float.isFinite =
        (points.filter PlotPoint.isVisible).filterMap PlotPoint.value ∧
      (((adapt points).dropWhile RenderPoint.isAnchor).IsChain fun q q' =>
        q.isAnchor = false ∨ q'.isAnchor = false) ∧
      ((points.Pairwise fun p p' => p.time ≤ p'.time) →
        (adapt points).Pairwise fun q q' => q.time ≤ q'.time) := by
  refine ⟨adapt_eq_nil_iff, fun _ => adapt_eq_filterMap, ?_⟩
  rw [dropWhile_isAnchor_adapt]
  cases hfirst : points.findIdx? PlotPoint.isVisible with
  | none =>
    have hhidden := List.findIdx?_eq_none_iff.1 hfirst
    have hfilter : points.filter PlotPoint.isVisible = [] := by simpa using hhidden
    rw [adapt_of_hidden hhidden, hfilter]
    exact ⟨Nat.zero_le _, rfl, isChain_drawnFrom points false, fun _ => .nil⟩
  | some first =>
    rw [adapt_eq_filterMap hfirst]
    refine ⟨?_, ?_, isChain_drawnFrom points false, fun htimes => ?_⟩
    · exact (List.length_filterMap_le _ _).trans_eq List.length_zipIdx
    · rw [List.map_filterMap, List.filter_filterMap, List.filterMap_filter]
      conv_rhs => rw [← List.zipIdx_map_fst 0 points, List.filterMap_map]
      exact List.filterMap_congr fun x _ => value_streamPoint points first x
    · rw [← List.zipIdx_map_fst 0 points, List.pairwise_map] at htimes
      refine htimes.filterMap _ fun x x' hle q hq q' hq' => ?_
      rw [time_streamPoint hq, time_streamPoint hq']
      exact Int.ediv_le_ediv (by decide) hle

end MarketChart
