import MarketChart.Plot.Point

/-!
# From samples to a drawn stream

`adapt` turns plotted samples into the points of a drawn series. Before the first visible sample
every sample leaves an anchor; from there on every visible sample is drawn, and a run of samples
that are not visible leaves one anchor, at its first. The last visible sample before such a run
ends the line.
-/

namespace MarketChart

/-- The next sample exists and is not visible. -/
def gapFollows : List PlotPoint → Bool
  | [] => false
  | p :: _ => !p.isVisible

/-- The drawn point of a visible sample, which ends the line when a gap follows. -/
def drawn (p : PlotPoint) (gap : Bool) : RenderPoint :=
  let point : RenderPoint := ⟨p.seconds, p.value.getD Number.notANumber, none⟩
  if gap then point.ending else point

/-- The stream of samples, after one that was visible or not. -/
def drawnFrom (afterVisible : Bool) : List PlotPoint → List RenderPoint
  | [] => []
  | p :: rest =>
    if p.isVisible then drawn p (gapFollows rest) :: drawnFrom true rest
    else if afterVisible then .anchor p.seconds :: drawnFrom false rest
    else drawnFrom false rest

/-- The drawn stream of plotted samples; empty when none is visible. -/
def adapt (points : List PlotPoint) : List RenderPoint :=
  let leading := points.takeWhile fun p => !p.isVisible
  let rest := points.dropWhile fun p => !p.isVisible
  if rest.isEmpty then []
  else leading.map (fun p => .anchor p.seconds) ++ drawnFrom false rest

/-- A plotted sample of a loosely typed item: its time has to be a finite number or the text of
one; a value or a colour of another type counts as absent. -/
def PlotPoint.ofItem? (item : Json) : Option PlotPoint := do
  let time ← (item.get "time").number?
  if time.isFinite then
    return {
      time := Number.clampWord (Number.floor time)
      value := (item.get "value").number?
      color := (item.get "color").text? }
  else none

/-- The drawn stream of loosely typed samples; items without a usable time are left out, and a
value that is no list has no samples. -/
def adaptItems (v : Json) : List RenderPoint :=
  match v with
  | .arr items => adapt (items.filterMap PlotPoint.ofItem?)
  | _ => []

end MarketChart
