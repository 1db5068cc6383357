import MarketChart.Document.Pane
import MarketChart.Settings

/-!
# The layout of panes

The panes that an assignment of indicators asks for: the main one, and every other name in the
order in which it first occurs.
-/

namespace MarketChart

/-- The panes of a chart, the auxiliary ones in order. -/
structure PaneLayout where
  main : PaneConfig
  auxiliary : List (String × PaneConfig)
deriving DecidableEq, Inhabited

/-- The names that are not the main pane's, each where it first occurs. -/
def auxiliaryNames (assigned : List String) : List String :=
  (assigned.filter (· ≠ mainPane)).eraseDups

/-- The layout of an assignment. A pane has the height that the document gives it, else that of
the settings. -/
def PaneLayout.build (assignment : KeyMap String) (ui : UiConfig) (settings : Settings) :
    PaneLayout where
  main := settings.mainPane
  auxiliary := (auxiliaryNames assignment.values).map fun name =>
    (name, (ui.panes.find? name).getD settings.indicatorPane)

end MarketChart
