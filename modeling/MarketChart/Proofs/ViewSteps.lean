import Mathlib.Data.List.Basic
import MarketChart.Panes.Command

/-!
# What the operations of a view do

Between operations no round of calls is going on, and the canvas of a view carries at most one
listener, the one its subscription names (`View.WiredAs`). On such a view an operation either
fails or has a plain effect : a window that is set or fitted goes onto the canvas and is recorded
by the listener, and the listeners stay as they are (`View.Steady`).
-/

namespace MarketChart

/-! ## Canvases -/

namespace Canvas

variable {L : Type}

/-- The canvas takes no window : it was removed, or it refuses them. -/
def refuses (c : Canvas L) : Bool := c.removed || c.rejecting

/-- The canvas after a window was set on it. -/
def moved (c : Canvas L) (w : Window) : Canvas L :=
  { c with window := some w, updates := c.updates + 1 }

/-- The canvas with a window on view, and all else as it was. -/
def showing (c : Canvas L) (w : Window) : Canvas L := { c with window := some w }

/-- The window that fits the content, on a canvas that is there and has bars. -/
def fitWindow? (c : Canvas L) : Option Window :=
  if c.removed || c.timeScale.isEmpty then none else some (.ofBars c.timeScale.length)

/-- A whole round of calls that change nothing leaves the canvas as it was. -/
theorem endRound_startRound {c : Canvas L} (hu : c.unsubscribed = []) (hd : c.dispatching = false)
    (hr : c.removed = false) : c.startRound.endRound c.listeners = c := by
  obtain ⟨_, _, _, _, _, _, _, _, _, _, _, _⟩ := c
  simp only at hu hd hr
  subst hu hd hr
  simp [startRound, endRound]

theorem setWindow_of_refuses {c : Canvas L} (h : c.refuses = true) (w : Window) :
    ∃ cause, c.setWindow w = .error cause := by
  unfold setWindow
  cases hr : c.removed with
  | true => exact ⟨_, rfl⟩
  | false =>
    have hj : c.rejecting = true := by simpa [refuses, hr] using h
    exact ⟨.windowRejected c.container, by simp [hj]⟩

theorem setWindow_of_takes {c : Canvas L} (h : c.refuses = false) (w : Window) :
    c.setWindow w = .ok (c.moved w) := by
  obtain ⟨hr, hj⟩ : c.removed = false ∧ c.rejecting = false := by simpa [refuses] using h
  simp [setWindow, hr, hj, moved]

theorem fit_of_removed {c : Canvas L} (h : c.removed = true) :
    ∃ cause, c.fit = .error cause :=
  ⟨.viewRemoved c.container, by simp [fit, alive, h, Except.map]⟩

theorem fit_of_alive {c : Canvas L} (h : c.removed = false) :
    c.fit = .ok (c.fitWindow?.map c.showing) := by
  cases ht : c.timeScale with
  | nil => simp [fit, alive, h, Except.map, fitWindow?, ht]
  | cons t rest => simp [fit, alive, h, Except.map, fitWindow?, ht, showing]

end Canvas

/-! ## Views at rest -/

/-- What the listener of view `i` hears of a window, if there is one. -/
def Sync.hear (s : Sync) (i : Nat) (listening : Bool) (w : Window) : Sync :=
  if listening then s.record i (some w) else s

namespace View

/-- The canvas of the view carries a listener. -/
def listens (v : View) : Bool := !v.canvas.listeners.isEmpty

/-- No round of calls is going on, and the canvas carries no listener but the one that the
subscription names, which records the changes as those of view `i`. -/
structure WiredAs (i : Nat) (v : View) : Prop where
  dispatching : v.canvas.dispatching = false
  unsubscribed : v.canvas.unsubscribed = []
  listeners : v.canvas.listeners = [] ∨
    ∃ id, v.subscription = some id ∧ v.canvas.listeners = [(id, i)]

/-- `u` is the view `v` after an operation that leaves its listeners alone. -/
structure Steady (v u : View) : Prop where
  name : u.name = v.name
  serial : u.serial = v.serial
  subscription : u.subscription = v.subscription
  dispatching : u.canvas.dispatching = v.canvas.dispatching
  unsubscribed : u.canvas.unsubscribed = v.canvas.unsubscribed
  listeners : u.canvas.listeners = v.canvas.listeners
  removed : u.canvas.removed = v.canvas.removed

theorem Steady.refl (v : View) : v.Steady v := ⟨rfl, rfl, rfl, rfl, rfl, rfl, rfl⟩

theorem Steady.listens {v u : View} (h : v.Steady u) : u.listens = v.listens := by
  rw [View.listens, h.listeners, View.listens]

/-- `u` is the view `v` after an operation that renumbers no listener. -/
structure Keeps (v u : View) : Prop where
  name : u.name = v.name
  serial : u.serial = v.serial
  subscription : u.subscription = v.subscription
  wired : ∀ i, v.WiredAs i → u.WiredAs i

theorem Keeps.refl (v : View) : v.Keeps v := ⟨rfl, rfl, rfl, fun _ h => h⟩

theorem Steady.keeps {v u : View} (h : v.Steady u) : v.Keeps u where
  name := h.name
  serial := h.serial
  subscription := h.subscription
  wired i hv := by
    refine ⟨h.dispatching.trans hv.dispatching, h.unsubscribed.trans hv.unsubscribed, ?_⟩
    rw [h.listeners, h.subscription]
    exact hv.listeners

/-- Without a subscription there is no listener to number. -/
theorem WiredAs.of_subscription_none {i j : Nat} {v : View} (h : v.WiredAs i)
    (hs : v.subscription = none) : v.WiredAs j := by
  refine ⟨h.dispatching, h.unsubscribed, .inl ?_⟩
  rcases h.listeners with hl | ⟨id, hid, -⟩
  · exact hl
  · simp [hs] at hid

/-- Telling the listeners of a wired view leaves its canvas as it was. -/
theorem WiredAs.tell {i : Nat} {v : View} (h : v.WiredAs i) {c : Canvas Nat} {w : Window}
    (hl : c.listeners = v.canvas.listeners) (hu : c.unsubscribed = v.canvas.unsubscribed)
    (hd : c.dispatching = v.canvas.dispatching) (hr : c.removed = false) (hw : c.window = some w)
    (s : Sync) : c.tell s = (c, s.hear i v.listens w) := by
  have hround := Canvas.endRound_startRound (hu.trans h.unsubscribed) (hd.trans h.dispatching) hr
  unfold Canvas.tell
  rw [hround, hl, hw]
  rcases h.listeners with hv | ⟨id, -, hv⟩
  · simp [hv, listens, Sync.hear]
  · simp [hv, listens, Sync.hear]

/-! ## Windows -/

theorem attempt_nil {α : Type} (v : View) (operation : Operation)
    (run : Canvas Nat → Except Cause α) : v.attempt [] operation run = run v.canvas := by
  simp [attempt]

/-- A view that takes a window shows it, and its listener hears of it. -/
theorem scroll_of_takes {i : Nat} {v : View} (h : v.WiredAs i) (ht : v.canvas.refuses = false)
    (w : Window) (s : Sync) :
    v.canvas.scroll w s = .ok (v.canvas.moved w, s.hear i v.listens w) := by
  have hr : v.canvas.removed = false := by
    simp only [Canvas.refuses, Bool.or_eq_false_iff] at ht
    exact ht.1
  rw [Canvas.scroll, Canvas.setWindow_of_takes ht, Except.map,
    h.tell (c := v.canvas.moved w) (w := w) rfl rfl rfl hr rfl]

theorem scroll_of_refuses {v : View} (h : v.canvas.refuses = true) (w : Window) (s : Sync) :
    ∃ cause, v.canvas.scroll w s = .error cause := by
  obtain ⟨cause, hc⟩ := Canvas.setWindow_of_refuses h w
  exact ⟨cause, by rw [Canvas.scroll, hc, Except.map]⟩

/-- The view after a window was set on it, which it may refuse. -/
def setTo (v : View) (w : Window) : View :=
  if v.canvas.refuses then v else v.withCanvas (v.canvas.moved w)

theorem setWindow_of_takes {i : Nat} {v : View} (h : v.WiredAs i) (ht : v.canvas.refuses = false)
    (w : Window) (s : Sync) :
    v.setWindow [] w s = .ok (v.setTo w, s.hear i v.listens w) := by
  rw [setWindow, attempt_nil, scroll_of_takes h ht, Except.map, setTo, ht]
  rfl

theorem setWindow_of_refuses {v : View} (h : v.canvas.refuses = true) (w : Window) (s : Sync) :
    ∃ cause, v.setWindow [] w s = .error cause := by
  obtain ⟨cause, hc⟩ := scroll_of_refuses h w s
  exact ⟨cause, by rw [setWindow, attempt_nil, hc, Except.map]⟩

/-- The view after its content was fitted. -/
def fitted (v : View) : View :=
  match v.canvas.fitWindow? with
  | none => v
  | some w => v.withCanvas (v.canvas.showing w)

/-- Fitting shows all bars, if there are any, and the listener hears of it. On a removed canvas it
fails. -/
theorem fit_cases {i : Nat} {v : View} (h : v.WiredAs i) (s : Sync) :
    v.fit [] s = .ok (v.fitted, (v.canvas.fitWindow?.map (s.hear i v.listens)).getD s) ∨
      v.canvas.fitWindow? = none ∧ ∃ cause, v.fit [] s = .error cause := by
  rw [fit, attempt_nil, Canvas.fitContent]
  cases hr : v.canvas.removed with
  | true =>
    obtain ⟨cause, hc⟩ := Canvas.fit_of_removed hr
    exact .inr ⟨by simp [Canvas.fitWindow?, hr], cause, by rw [hc]; rfl⟩
  | false =>
    left
    rw [Canvas.fit_of_alive hr]
    cases hf : v.canvas.fitWindow? with
    | none => simp [Except.map, fitted, hf, withCanvas]
    | some w =>
      have ht := h.tell (c := v.canvas.showing w) (w := w) rfl rfl rfl hr rfl s
      simp [Except.map, fitted, hf, ht]

theorem fitted_of_none {v : View} (h : v.canvas.fitWindow? = none) : v.fitted = v := by
  rw [fitted, h]

/-! ## Operations that leave the listeners alone -/

theorem steady_withCanvas {v : View} {c : Canvas Nat} (hd : c.dispatching = v.canvas.dispatching)
    (hu : c.unsubscribed = v.canvas.unsubscribed) (hl : c.listeners = v.canvas.listeners)
    (hr : c.removed = v.canvas.removed) : v.Steady (v.withCanvas c) :=
  ⟨rfl, rfl, rfl, hd, hu, hl, hr⟩

theorem steady_setTo (v : View) (w : Window) : v.Steady (v.setTo w) := by
  unfold setTo
  split
  · exact .refl v
  · exact steady_withCanvas rfl rfl rfl rfl

theorem steady_fitted (v : View) : v.Steady v.fitted := by
  unfold fitted
  split
  · exact .refl v
  · exact steady_withCanvas rfl rfl rfl rfl

theorem steady_addSeries {v u : View} {kind : SeriesKind} {id : Nat}
    (h : v.addSeries [] kind = .ok (u, id)) : v.Steady u := by
  rw [addSeries, attempt_nil, Canvas.addSeries, Canvas.alive] at h
  split at h
  · simp [Except.map] at h
  · simp only [Except.map, Except.ok.injEq, Prod.mk.injEq] at h
    rw [← h.1]
    exact steady_withCanvas rfl rfl rfl rfl

theorem steady_of_holding {v u : View} {id : Nat} {f : Canvas Nat → Canvas Nat}
    (hf : v.Steady (v.withCanvas (f v.canvas)))
    (h : (((v.canvas.holding id).map f).map v.withCanvas) = .ok u) : v.Steady u := by
  unfold Canvas.holding at h
  split at h
  · simp [Except.map] at h
  · split at h
    · simp [Except.map] at h
    · simp only [Except.map, Except.ok.injEq] at h
      rw [← h]
      exact hf

theorem steady_setData {v u : View} {id : Nat} {data : SeriesData}
    (h : v.setData [] id data = .ok u) : v.Steady u := by
  rw [setData, attempt_nil, Canvas.setData] at h
  exact steady_of_holding (by exact steady_withCanvas rfl rfl rfl rfl) h

theorem steady_removeSeries {v u : View} {id : Nat} (h : v.removeSeries [] id = .ok u) :
    v.Steady u := by
  rw [removeSeries, attempt_nil, Canvas.removeSeries] at h
  exact steady_of_holding (by exact steady_withCanvas rfl rfl rfl rfl) h

theorem steady_setWidth {v u : View} {width : Nat} (h : v.setWidth [] width = .ok u) :
    v.Steady u := by
  rw [setWidth, attempt_nil, Canvas.setWidth, Canvas.alive] at h
  split at h
  · simp [Except.map] at h
  · simp only [Except.map, Except.ok.injEq] at h
    rw [← h]
    exact steady_withCanvas rfl rfl rfl rfl

/-- A new width changes nothing else. -/
theorem resize_eq (v : View) (faults : List Fault) (width : Nat) : ∃ w, v.resize faults width =
    { v with
      container := { v.container with width }
      canvas := { v.canvas with width := w } } := by
  unfold resize setWidth attempt
  simp only
  split
  · next u h =>
    split at h
    · simp [Except.map] at h
    · unfold Canvas.setWidth Canvas.alive at h
      split at h
      · simp [Except.map] at h
      · simp only [Except.map, Except.ok.injEq] at h
        exact ⟨width, h.symm⟩
  · exact ⟨v.canvas.width, rfl⟩

theorem steady_resize (v : View) (faults : List Fault) (width : Nat) :
    v.Steady (v.resize faults width) := by
  obtain ⟨w, hw⟩ := resize_eq v faults width
  rw [hw]
  exact ⟨rfl, rfl, rfl, rfl, rfl, rfl, rfl⟩

theorem window_resize (v : View) (faults : List Fault) (width : Nat) :
    (v.resize faults width).canvas.window = v.canvas.window := by
  obtain ⟨w, hw⟩ := resize_eq v faults width
  rw [hw]

/-- A removed canvas has lost its listeners. -/
theorem keeps_remove (v : View) : v.Keeps (v.withCanvas v.canvas.remove) :=
  ⟨rfl, rfl, rfl, fun _ h => ⟨h.dispatching, h.unsubscribed, .inl rfl⟩⟩

/-! ## Subscribing -/

/-- A view that gives up its listener carries none. -/
theorem WiredAs.unsubscribe {i : Nat} {v : View} (h : v.WiredAs i) :
    v.unsubscribe.canvas.listeners = [] ∧ v.unsubscribe.canvas.dispatching = false ∧
      v.unsubscribe.canvas.unsubscribed = [] := by
  unfold View.unsubscribe
  cases hs : v.subscription with
  | none =>
    refine ⟨?_, h.dispatching, h.unsubscribed⟩
    rcases h.listeners with hl | ⟨id, hid, -⟩
    · exact hl
    · simp [hs] at hid
  | some id =>
    simp only [Canvas.unsubscribe, h.dispatching, h.unsubscribed]
    refine ⟨?_, trivial, by simp⟩
    rcases h.listeners with hl | ⟨id', hid, hl⟩
    · simp [hl]
    · rw [hs] at hid
      simp [hl, Option.some.inj hid]

theorem serial_resubscribe (v : View) (j : Nat) :
    (v.unsubscribe.subscribe j).serial = v.serial := by
  show v.unsubscribe.serial = v.serial
  unfold View.unsubscribe
  split <;> rfl

theorem window_resubscribe (v : View) (j : Nat) :
    (v.unsubscribe.subscribe j).canvas.window = v.canvas.window := by
  show v.unsubscribe.canvas.window = v.canvas.window
  unfold View.unsubscribe
  split <;> rfl

theorem listens_subscribe (v : View) (j : Nat) : (v.subscribe j).listens = true := by
  simp [listens, subscribe, Canvas.subscribe]

/-- A view that takes a new listener is wired to it. -/
theorem WiredAs.resubscribe {i : Nat} {v : View} (h : v.WiredAs i) (j : Nat) :
    (v.unsubscribe.subscribe j).WiredAs j := by
  obtain ⟨hl, hd, hu⟩ := h.unsubscribe
  refine ⟨hd, hu, .inr ⟨v.unsubscribe.canvas.nextId, rfl, ?_⟩⟩
  simp [subscribe, Canvas.subscribe, hl]

end View

end MarketChart
