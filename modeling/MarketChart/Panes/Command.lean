import MarketChart.Canvas.Command
import MarketChart.Panes.Basic

/-!
# Commands on the view of a pane
-/

namespace MarketChart.Panes

/-- The answer of an operation that changes the panes, or fails and changes nothing. -/
def settle (p : Panes) : Except Cause Panes → Panes × Answer
  | .ok p => (p, .done)
  | .error e => (p, .failed e)

/-- Runs a command on a view. -/
def perform (p : Panes) (v : View) : ViewCommand → Panes × Answer
  | .addSeries kind =>
    match v.addSeries p.faults kind with
    | .ok (v, id) => (p.put v, .id id)
    | .error e => (p, .failed e)
  | .setData id data => p.settle ((v.setData p.faults id data).map p.put)
  | .removeSeries id => p.settle ((v.removeSeries p.faults id).map p.put)
  | .window => (p, .window v.canvas.window)
  | .fit => p.settle (p.fitView v)
  | .setWidth width => p.settle ((v.setWidth p.faults width).map p.put)
  | .remove => (p.put (v.withCanvas v.canvas.remove), .done)

end MarketChart.Panes
