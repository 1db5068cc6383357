import MarketChart.Chart.Basic

/-!
# The dashboard

The chart with what the terminal adds to it: the pane in focus, the question before quitting, and
the status line. Keys become actions (`Action.ofInput`), and `Dashboard.handle` applies an action.
Quitting takes two steps: the first asks, and any other action then takes the question back and
does nothing else.
-/

namespace MarketChart

/-- A key of the keyboard. -/
inductive Key where
  | left
  | right
  | up
  | enter
  | escape
  | tab
  | backTab
  | char (c : Char)
deriving DecidableEq, Inhabited

/-- What the terminal reports. -/
inductive Input where
  | key (k : Key)
  | resize (width : Nat)
  | tick
deriving DecidableEq, Inhabited

/-- What the user asks for. -/
inductive Action where
  | quit
  | cancel
  | pan (bars : Float)
  | zoom (factor : Float)
  | focusNext
  | fit
  | refresh
deriving DecidableEq, Inhabited

/-- The action of a key. -/
def Action.ofKey : Key → Option Action
  | .char 'q' | .char 'Q' => some .quit
  | .escape => some .cancel
  | .left | .char 'h' => some (.pan (-1.0))
  | .right | .char 'l' => some (.pan 1.0)
  | .char 'H' => some (.pan (-10.0))
  | .char 'L' => some (.pan 10.0)
  | .char '+' | .char '=' => some (.zoom 0.8)
  | .char '-' => some (.zoom 1.25)
  | .tab => some .focusNext
  | .char 'f' => some .fit
  | .char 'r' => some .refresh
  | _ => none

/-- The action of an input; only keys have one. -/
def Action.ofInput : Input → Option Action
  | .key k => Action.ofKey k
  | _ => none

/-- The chart in the terminal. -/
structure Dashboard where
  chart : Chart
  running : Bool := true
  /-- The user was asked whether to quit. -/
  confirmQuit : Bool := false
  /-- The position of the pane that keys move. -/
  focused : Nat := 0
  status : Option String := none
deriving Inhabited

namespace Dashboard

/-- The name of the pane in focus. -/
def focusedPane (d : Dashboard) : Option String := d.chart.panes.names[d.focused]?

/-- Moves the focus to the next pane, after the last to the first. -/
def focusNext (d : Dashboard) : Dashboard :=
  let count := d.chart.panes.views.length
  if count = 0 then d else { d with focused := (d.focused + 1) % count }

/-- Brings the focus back to the first pane when its pane is gone. -/
def clampFocus (d : Dashboard) : Dashboard :=
  if d.chart.panes.views.length ≤ d.focused then { d with focused := 0 } else d

/-- Applies an operation to the pane in focus and shows its failure in the status line. -/
def onFocused (d : Dashboard) (f : Chart → String → Chart × Except Failure Unit) : Dashboard :=
  match d.focusedPane with
  | none => d
  | some pane =>
    match f d.chart pane with
    | (chart, .ok ()) => { d with chart }
    | (chart, .error e) => { d with chart, status := some ("Error: " ++ e.headline) }

/-- Moves the window of the pane in focus. -/
def pan (d : Dashboard) (bars : Float) : Dashboard := d.onFocused fun c pane => c.pan pane bars

/-- Zooms the window of the pane in focus. -/
def zoom (d : Dashboard) (factor : Float) : Dashboard :=
  d.onFocused fun c pane => c.zoom pane factor

/-- Loads the chart again; a failure shows in the status line. -/
def refresh (feed : Feed) (d : Dashboard) : Dashboard :=
  let (chart, result) := d.chart.refresh feed
  let d := { d with chart }
  let d := match result with
    | .ok () => d
    | .error e => { d with status := some ("Refresh failed: " ++ e.headline) }
  d.clampFocus

/-- The boundary of a frame. -/
def tick (d : Dashboard) : Dashboard := { d with chart := d.chart.onFrame.1 }

/-- Fits all panes to their content. -/
def fit (d : Dashboard) : Dashboard := { d with chart := d.chart.fitContent }

/-- Takes the question before quitting back. -/
def cancelQuit (d : Dashboard) : Dashboard := { d with confirmQuit := false }

/-- Applies an action. While the user is asked whether to quit, quitting does so and anything else
takes the question back. -/
def handle (feed : Feed) (d : Dashboard) (action : Action) : Dashboard :=
  if d.confirmQuit then
    match action with
    | .quit => { d with running := false }
    | _ => d.cancelQuit
  else
    let d := { d with status := none }
    match action with
    | .quit => { d with confirmQuit := true }
    | .cancel => d
    | .pan bars => d.pan bars
    | .zoom factor => d.zoom factor
    | .focusNext => d.focusNext
    | .fit => d.fit
    | .refresh => d.refresh feed

/-- Takes in what the terminal reports. A key without an action takes the question before quitting
back. -/
def step (feed : Feed) (d : Dashboard) (input : Input) : Dashboard :=
  match input with
  | .tick => d.tick
  | .resize width => { d with chart := d.chart.resize width }
  | .key k =>
    match Action.ofKey k with
    | some action => d.handle feed action
    | none => if d.confirmQuit then d.cancelQuit else d

/-- Takes in what the terminal reports as long as the dashboard is running. -/
def attend (feed : Feed) (d : Dashboard) (input : Input) : Dashboard :=
  if d.running then d.step feed input else d

end Dashboard

end MarketChart
