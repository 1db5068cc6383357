import MarketChart.Picture.Segment
import MarketChart.Proofs.DoubleForms
import MarketChart.Proofs.KeptTimes

/-!
# A line is drawn run by run

A drawn stream and the line through it are made by two functions that know nothing of each other:
`adapt` marks where the samples have gaps, and `lineSegments` cuts the line at the marks. Together
they draw one segment for every run of visible samples, through those of its samples that lie on
the axis and within the window (`lineSegments_adapt`).

The induction follows `drawnFrom`. A segment that is under way goes on exactly while the next
sample is visible, for the last sample before a gap ends it; so a gap is always reached with no
segment under way, and its anchor cuts nothing.
-/

namespace MarketChart

/-- The longest runs of visible samples: the samples are cut at each one that is not visible. -/
def visibleRuns (points : List PlotPoint) : List (List PlotPoint) :=
  (points.splitOnP fun p => !p.isVisible).filter fun run => !run.isEmpty

/-- The line through samples, of which those that lie on the axis and within the window are
drawn. -/
def lineThrough (axis : List Int) (w : Window) (run : List PlotPoint) : Polyline :=
  run.filterMap fun p => do
    let i ← axis.idxOf? (p.time / 1000)
    let y ← p.value
    if w.left ≤ Float.ofNat i ∧ Float.ofNat i ≤ w.right then some (Float.ofNat i, y) else none

/-- The lines that have a point. -/
def nonempty (lines : List Polyline) : List Polyline := lines.filter fun line => !line.isEmpty

theorem closed_append_nonempty (current : Polyline) (lines : List Polyline) :
    closed current ++ nonempty lines = nonempty (current :: lines) := by
  cases current <;> rfl

/-! ## The drawn points of a stream -/

theorem isAnchor_anchor (time : Int) : (RenderPoint.anchor time).isAnchor = true := by
  have hnan : (RenderPoint.anchor time).value.isNaN = true := by
    show Number.notANumber.isNaN = true
    decide
  have hmark : (RenderPoint.anchor time).isTransparent = true := by
    simp [RenderPoint.isTransparent, RenderPoint.anchor]
  rw [RenderPoint.isAnchor, hnan, hmark, Bool.and_self]

theorem isTransparent_drawn (p : PlotPoint) (gap : Bool) : (drawn p gap).isTransparent = gap := by
  cases gap <;> rfl

theorem lineThrough_singleton (axis : List Int) (w : Window) {p : PlotPoint} {y : Float}
    (hy : p.value = some y) :
    lineThrough axis w [p] = ((position? axis w p.seconds).map (·, y)).toList := by
  unfold position? lineThrough PlotPoint.seconds
  cases hi : axis.idxOf? (p.time / 1000) with
  | none => simp [hi]
  | some i =>
    by_cases hw : w.left ≤ Float.ofNat i ∧ Float.ofNat i ≤ w.right
    · have hcontains : w.contains (Float.ofNat i) = true := by simpa [Window.contains] using hw
      simp [hi, hy, hw, hcontains, Option.filter]
    · have hcontains : w.contains (Float.ofNat i) = false := by simpa [Window.contains] using hw
      simp [hi, hy, hw, hcontains, Option.filter]

/-- A visible sample is added to the segment under way, and ends it when a gap follows. -/
theorem lineSegmentsFrom_drawn (axis : List Int) (w : Window) {p : PlotPoint}
    (h : p.isVisible = true) (gap : Bool) (current : Polyline) (rest : List RenderPoint) :
    lineSegmentsFrom axis w current (drawn p gap :: rest) =
      if gap then closed (current ++ lineThrough axis w [p]) ++ lineSegmentsFrom axis w [] rest
      else lineSegmentsFrom axis w (current ++ lineThrough axis w [p]) rest := by
  obtain ⟨y, hy, hfinite⟩ : ∃ y, p.value = some y ∧ y.isFinite = true := by
    simp only [PlotPoint.isVisible, PlotPoint.isValid, Bool.and_eq_true, Option.any_eq_true] at h
    exact h.1
  have htime : (drawn p gap).time = p.seconds := by cases gap <;> rfl
  have hvalue : (drawn p gap).value = y := by cases gap <;> simp [drawn, RenderPoint.ending, hy]
  have hanchor : (drawn p gap).isAnchor = false := by
    rw [RenderPoint.isAnchor, hvalue, Number.isNaN_of_isFinite hfinite, Bool.false_and]
  rw [lineSegmentsFrom, hanchor, htime, hvalue, isTransparent_drawn,
    lineThrough_singleton axis w hy]
  cases position? axis w p.seconds <;> simp

/-! ## Runs -/

/-- The samples between those that are not visible, some of them none at all. -/
abbrev pieces (points : List PlotPoint) : List (List PlotPoint) :=
  points.splitOnP fun p => !p.isVisible

theorem pieces_cons_of_visible {p : PlotPoint} (h : p.isVisible = true) (rest : List PlotPoint) :
    pieces (p :: rest) = (pieces rest).modifyHead (p :: ·) := by
  simp [pieces, List.splitOnP_cons_eq_if_modifyHead, h]

theorem pieces_cons_of_hidden {p : PlotPoint} (h : p.isVisible = false) (rest : List PlotPoint) :
    pieces (p :: rest) = [] :: pieces rest := by
  simp [pieces, List.splitOnP_cons_eq_if_modifyHead, h]

/-- The first piece and the others. -/
theorem pieces_eq_cons (points : List PlotPoint) : ∃ run runs, pieces points = run :: runs :=
  List.exists_cons_of_ne_nil (List.splitOnP_ne_nil _ points)

theorem flatten_pieces (points : List PlotPoint) :
    (pieces points).flatten = points.filter PlotPoint.isVisible := by
  induction points with
  | nil => rfl
  | cons p rest ih =>
    cases hp : p.isVisible with
    | false => simp [pieces_cons_of_hidden hp, ih, hp]
    | true =>
      obtain ⟨run, runs, hrest⟩ := pieces_eq_cons rest
      rw [pieces_cons_of_visible hp, List.filter_cons_of_pos hp, ← ih, hrest]
      rfl

section

variable (axis : List Int) (w : Window)

theorem lineThrough_cons (p : PlotPoint) (run : List PlotPoint) :
    lineThrough axis w (p :: run) = lineThrough axis w [p] ++ lineThrough axis w run :=
  List.filterMap_append (l := [p])

/-- A stream is drawn piece by piece. The first piece goes on with the segment under way, which
there is none of when a gap comes first. -/
theorem lineSegmentsFrom_drawnFrom : ∀ (points : List PlotPoint) (after : Bool)
    (current : Polyline) {run : List PlotPoint} {runs : List (List PlotPoint)},
    pieces points = run :: runs → current = [] ∨ gapFollows points = false →
      lineSegmentsFrom axis w current (drawnFrom after points) =
        nonempty ((current ++ lineThrough axis w run) :: runs.map (lineThrough axis w))
  | [], after, current, run, runs, hpieces, _ => by
    obtain ⟨rfl, rfl⟩ : [] = run ∧ [] = runs := by simpa [pieces] using hpieces
    rw [drawnFrom, lineSegmentsFrom, ← List.append_nil (closed current)]
    refine (closed_append_nonempty current []).trans ?_
    simp [lineThrough]
  | p :: rest, after, current, run, runs, hpieces, hcurrent => by
    obtain ⟨run', runs', hrest⟩ := pieces_eq_cons rest
    cases hp : p.isVisible with
    | false =>
      obtain rfl : current = [] := hcurrent.resolve_right (by simp [gapFollows, hp])
      have hfrom : lineSegmentsFrom axis w [] (drawnFrom after (p :: rest)) =
          lineSegmentsFrom axis w [] (drawnFrom false rest) := by
        cases after <;> simp [drawnFrom, hp, lineSegmentsFrom, isAnchor_anchor, closed]
      rw [pieces_cons_of_hidden hp, hrest] at hpieces
      obtain ⟨rfl, rfl⟩ := List.cons.inj hpieces
      rw [hfrom, lineSegmentsFrom_drawnFrom rest false [] hrest (.inl rfl)]
      rfl
    | true =>
      obtain ⟨rfl, rfl⟩ : p :: run' = run ∧ runs' = runs := by
        rw [pieces_cons_of_visible hp, hrest] at hpieces
        exact List.cons.inj hpieces
      rw [drawnFrom, if_pos hp, lineSegmentsFrom_drawn axis w hp]
      cases hgap : gapFollows rest with
      | true =>
        obtain rfl : run' = [] := by
          cases rest with
          | nil => simp [gapFollows] at hgap
          | cons q rest =>
            rw [pieces_cons_of_hidden (by simpa [gapFollows] using hgap)] at hrest
            exact (List.cons.inj hrest).1.symm
        rw [if_pos rfl, lineSegmentsFrom_drawnFrom rest true [] hrest (.inl rfl)]
        exact closed_append_nonempty (current ++ lineThrough axis w [p]) (runs'.map _)
      | false =>
        rw [if_neg Bool.false_ne_true, lineSegmentsFrom_drawnFrom rest true _ hrest (.inr hgap),
          lineThrough_cons axis w p run', List.append_assoc]

/-- A stream is drawn piece by piece, whatever comes before its first visible sample. -/
theorem lineSegments_adapt_pieces (points : List PlotPoint) : lineSegments (adapt points) axis w =
    nonempty ((pieces points).map (lineThrough axis w)) := by
  induction points with
  | nil => rfl
  | cons p rest ih =>
    cases hp : p.isVisible with
    | true =>
      obtain ⟨run, runs, hpieces⟩ := pieces_eq_cons (p :: rest)
      rw [adapt_cons_of_visible hp, lineSegments,
        lineSegmentsFrom_drawnFrom axis w (p :: rest) false [] hpieces (.inl rfl), hpieces]
      rfl
    | false =>
      have hpieces : nonempty ((pieces (p :: rest)).map (lineThrough axis w)) =
          nonempty ((pieces rest).map (lineThrough axis w)) := by
        rw [pieces_cons_of_hidden hp]
        rfl
      rw [hpieces, adapt_cons_of_hidden hp, ← ih]
      split
      · rw [lineSegments, lineSegmentsFrom, if_pos (isAnchor_anchor _)]
        rfl
      · next hnone =>
        have hrest : adapt rest = [] := by simp [adapt, dropWhile_hidden_eq_nil.2 hnone]
        rw [hrest]

/-- The line through a drawn stream has one segment for each run of visible samples that has a
sample on the axis and within the window. So no segment crosses a gap, no run is cut, and every such
sample is drawn, once and in its place. -/
theorem lineSegments_adapt (points : List PlotPoint) :
    lineSegments (adapt points) axis w =
        ((visibleRuns points).map (lineThrough axis w)).filter (fun line => !line.isEmpty) ∧
      (lineSegments (adapt points) axis w).flatten =
        lineThrough axis w (points.filter PlotPoint.isVisible) := by
  rw [lineSegments_adapt_pieces, nonempty]
  refine ⟨?_, ?_⟩
  · rw [visibleRuns, List.filter_map, List.filter_map, List.filter_filter]
    congr 1
    refine List.filter_congr fun run _ => ?_
    cases run <;> simp [lineThrough]
  · rw [List.flatten_filter_not_isEmpty, ← flatten_pieces, lineThrough, List.filterMap_flatten]
    rfl

end

end MarketChart
