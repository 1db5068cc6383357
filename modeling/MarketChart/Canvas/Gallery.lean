import MarketChart.Canvas.Command

/-!
# Galleries of canvases

A gallery is a row of canvases, numbered in the order they were made, whose listeners are scripts:
a listener that is told of a window runs commands on the gallery, at once and within the round it
is called in. A script may set windows itself, so rounds nest; `Gallery.depthBound` is a depth
that no nesting reaches, because a round takes the listeners off its canvas and every listener
that a script adds is part of that script.
-/

namespace MarketChart

/-- A command on a gallery; `view` is the number of a canvas. -/
inductive Command where
  | create (container : String) (width height : Nat)
  | find (container : String)
  | living
  | on (view : Nat) (command : ViewCommand)
  | scroll (view : Nat) (w : Window)
  | reject (view : Nat) (refuse : Bool)
  | contents (view : Nat)
  | picture (view : Nat)
  /-- Adds a listener that runs a script each time it is called, or only the first time. -/
  | subscribe (view : Nat) (label : String) (script : List Command) (once : Bool)
  /-- Gives up the last subscription under a label, or the given one if there is none. -/
  | unsubscribe (view : Nat) (label : String) (id : Nat)
deriving Inhabited

/-- A listener of a gallery. -/
structure Reaction where
  label : String
  script : List Command
  once : Bool
  /-- The listener has been called. -/
  called : Bool := false
deriving Inhabited

/-- What happened while a command ran. -/
inductive Note where
  /-- A listener was told of a window. -/
  | told (label : String) (w : Option Window)
  /-- A command of a script answered. -/
  | did (answer : Answer)
deriving Inhabited

/-- A row of canvases. -/
structure Gallery where
  canvases : List (Canvas Reaction) := []
  /-- The last subscription under each label. -/
  labels : List (String × Nat) := []
  notes : List Note := []
deriving Inhabited

/-! ## The size of scripts -/

mutual

/-- The number of commands in a command, those of its script included. -/
def Command.size : Command → Nat
  | .subscribe _ _ script _ => 1 + scriptSize script
  | _ => 1

/-- The number of commands in a script. -/
def scriptSize : List Command → Nat
  | [] => 0
  | c :: rest => c.size + scriptSize rest

end

mutual

/-- How deep subscriptions are nested in a command. -/
def Command.height : Command → Nat
  | .subscribe _ _ script _ => 1 + scriptHeight script
  | _ => 0

/-- How deep subscriptions are nested in a script. -/
def scriptHeight : List Command → Nat
  | [] => 0
  | c :: rest => max c.height (scriptHeight rest)

end

namespace Gallery

/-- The scripts of all listeners. -/
def scripts (g : Gallery) : List (List Command) :=
  g.canvases.flatMap fun c => c.listeners.map fun l => l.2.script

/-- A depth that nested rounds do not reach. A script can start rounds only on the canvases that
it names, and what it subscribes is less deep than the listener it runs for. -/
def depthBound (g : Gallery) : Nat :=
  let size := (g.scripts.map scriptSize).foldr (· + ·) 0
  let height := (g.scripts.map scriptHeight).foldl max 0 + 1
  Nat.pow (size + 2) (height + 1) + 1

/-! ## Commands -/

/-- Notes what happened. -/
def note (g : Gallery) (n : Note) : Gallery := { g with notes := g.notes ++ [n] }

/-- Puts a canvas in the place of another. -/
def put (g : Gallery) (view : Nat) (c : Canvas Reaction) : Gallery :=
  { g with canvases := g.canvases.set view c }

/-- The answer of an operation that changes a canvas, or fails and changes nothing. -/
def settle (g : Gallery) (view : Nat) : Except Cause (Canvas Reaction) → Gallery × Answer
  | .ok c => (g.put view c, .done)
  | .error e => (g, .failed e)

/-- Runs a command on a canvas; `notify` tells its listeners of the window. -/
def performOn (notify : Nat → Gallery → Gallery) (view : Nat) (c : Canvas Reaction) (g : Gallery) :
    ViewCommand → Gallery × Answer
  | .addSeries kind =>
    match c.addSeries kind with
    | .ok (c, id) => (g.put view c, .id id)
    | .error e => (g, .failed e)
  | .setData id data => g.settle view (c.setData id data)
  | .removeSeries id => g.settle view (c.removeSeries id)
  | .window => (g, .window c.window)
  | .fit =>
    match c.fit with
    | .ok (some c) => (notify view (g.put view c), .done)
    | .ok none => (g, .done)
    | .error e => (g, .failed e)
  | .setWidth width => g.settle view (c.setWidth width)
  | .remove => (g.put view c.remove, .done)

/-- The number of the first living canvas with a container. -/
def find? (g : Gallery) (container : String) : Option Nat :=
  g.canvases.findIdx? fun c => !c.removed && c.container == container

/-- Runs what a command does to an existing canvas. -/
def withView (g : Gallery) (view : Nat) (f : Canvas Reaction → Gallery × Answer) :
    Gallery × Answer :=
  match g.canvases[view]? with
  | none => (g, .noView)
  | some c => f c

/-- Runs a command; `notify` tells the listeners of a canvas of its window. -/
def performWith (notify : Nat → Gallery → Gallery) (g : Gallery) : Command → Gallery × Answer
  | .create container width height =>
    ({ g with canvases := g.canvases ++ [{ container, width, height }] }, .done)
  | .find container => (g, .view (g.find? container))
  | .living => (g, .containers ((g.canvases.filter (!·.removed)).map Canvas.container))
  | .on view command => g.withView view fun c => performOn notify view c g command
  | .scroll view w =>
    g.withView view fun c =>
      match c.setWindow w with
      | .ok c => (notify view (g.put view c), .done)
      | .error e => (g, .failed e)
  | .reject view refuse => g.withView view fun c => (g.put view (c.reject refuse), .done)
  | .contents view => g.withView view fun c => (g, .contents c.series c.timeScale)
  | .picture view => g.withView view fun c => (g, .picture c.traces c.drawnWindow)
  | .subscribe view label script once =>
    g.withView view fun c =>
      let (c, id) := c.subscribe { label, script, once }
      ({ g.put view c with labels := (label, id) :: g.labels }, .id id)
  | .unsubscribe view label id =>
    g.withView view fun c =>
      (g.put view (c.unsubscribe ((g.labels.lookup label).getD id)), .done)

/-- Calls one listener: it runs its script, unless it does so only once and has done so. -/
def call (notify : Nat → Gallery → Gallery) (w : Option Window) (g : Gallery) (r : Reaction) :
    Gallery :=
  let g := g.note (.told r.label w)
  if r.once && r.called then g
  else
    r.script.foldl (fun g command =>
      let (g, answer) := performWith notify g command
      g.note (.did answer)) g

/-- Tells the listeners of a canvas of its window, with rounds nested up to a depth. -/
def dispatch : Nat → Nat → Gallery → Gallery
  | 0, _, g => g
  | depth + 1, view, g =>
    match g.canvases[view]? with
    | none => g
    | some c =>
      let g := c.listeners.foldl (fun g l => call (dispatch depth) c.window g l.2)
        (g.put view c.startRound)
      let called := c.listeners.map fun l => (l.1, { l.2 with called := true })
      { g with canvases := g.canvases.modify view (Canvas.endRound called) }

/-- Runs a command. -/
def perform (g : Gallery) (command : Command) : Gallery × Answer :=
  performWith (dispatch g.depthBound) g command

end Gallery

end MarketChart
