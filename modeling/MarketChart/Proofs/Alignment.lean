import MarketChart.Dashboard.Basic
import MarketChart.Proofs.FramePropagation
import MarketChart.Proofs.Loading

/-!
# Panes stay aligned

Whatever happens to a dashboard, either a window waits, and then it is the one on view at its
source, or all views have the same window (`Dashboard.aligned_run`). Nothing of what can happen
makes a canvas refuse windows.

The invariant is `Panes.InStep`. Every view carries a listener, so a view that takes a window leaves
one waiting, and while none waits no view has moved. Loading makes all views anew, or fails before
it has touched any.
-/

namespace MarketChart

/-! ## Views that go on taking windows -/

namespace View

/-- `u` refuses windows exactly if `v` does. -/
def SameRefusal (v u : View) : Prop := u.canvas.refuses = v.canvas.refuses

theorem SameRefusal.refl (v : View) : v.SameRefusal v := rfl

theorem sameRefusal_setTo (v : View) (w : Window) : v.SameRefusal (v.setTo w) := by
  unfold setTo
  split <;> rfl

theorem sameRefusal_fitted (v : View) : v.SameRefusal v.fitted := by
  unfold fitted
  split <;> rfl

theorem sameRefusal_resize (v : View) (faults : List Fault) (width : Nat) :
    v.SameRefusal (v.resize faults width) := by
  obtain ⟨w, hw⟩ := resize_eq v faults width
  rw [SameRefusal, hw]
  rfl

end View

/-! ## Panes in step -/

namespace Panes

/-- Every view takes windows and reports them; the views show the same window, unless one of them
waits to be passed on. -/
structure InStep (p : Panes) : Prop where
  wired : p.Wired id
  shown : p.Shown
  taking : ∀ v ∈ p.views, v.canvas.refuses = false
  listening : ∀ v ∈ p.views, v.listens = true
  aligned : p.sync.pending = none → ∀ u ∈ p.views, ∀ v ∈ p.views, u.canvas.window = v.canvas.window

/-- The change does not make a canvas refuse windows, and puts up no listeners. -/
def Change.isMove : Change → Bool
  | .reject .. | .synchronize => false
  | _ => true

theorem Change.ne_synchronize {c : Change} (hc : c.isMove = true) : c ≠ .synchronize := by
  rintro rfl
  simp [isMove] at hc

theorem sameRefusal_change {n : Nat → Nat} {p : Panes} (h : p.Wired n) {c : Change}
    (hc : c.isMove = true) : p.Alike View.SameRefusal (p.change c) := by
  refine (alike_change h (Change.ne_synchronize hc)).imp fun v u hu => ?_
  cases hu with
  | same => exact .refl v
  | set i w => exact View.sameRefusal_setTo v w
  | scroll i w => exact View.sameRefusal_setTo v w
  | fit i => exact View.sameRefusal_fitted v
  | fitAll => exact View.sameRefusal_fitted v
  | reject i on => simp [Change.isMove] at hc
  | resize width => exact View.sameRefusal_resize v _ width

/-- While every view reports the windows it takes, a change after which none waits moved no view. -/
theorem Step.taken_nil {p p' : Panes} {log : List Taken} (hs : p.Step id p' log)
    (hc : p.sync.Coherent) (hl : ∀ v ∈ p.views, v.listens = true)
    (hnone : p'.sync.pending = none) : p.sync.pending = none ∧ log = [] := by
  have hsource := source_foldl_note log hc
  rw [← hs.sync, hnone, Option.map_none, eq_comm, Option.or_eq_none_iff, Option.map_eq_none_iff,
    Option.map_eq_none_iff, List.find?_eq_none] at hsource
  refine ⟨hsource.1, List.eq_nil_iff_forall_not_mem.2 fun t ht => hsource.2 t ht ?_⟩
  obtain ⟨v, hv, hheard⟩ := hs.heard t ht
  rw [hheard]
  exact hl v (List.mem_of_getElem? hv)

/-- A move keeps the views in step. -/
theorem InStep.change {p : Panes} (h : p.InStep) {c : Change} (hc : c.isMove = true) :
    (p.change c).InStep := by
  have hstep := change_step h.wired (Change.ne_synchronize hc)
  refine ⟨h.wired.step hstep, h.shown.step hstep, fun u hu => ?_, fun u hu => ?_, fun hnone => ?_⟩
  · obtain ⟨v, hv, hvu⟩ := (sameRefusal_change h.wired hc).of_mem hu
    exact hvu.trans (h.taking v hv)
  · obtain ⟨v, hv, hvu⟩ := hstep.alike.of_mem hu
    exact hvu.listens.trans (h.listening v hv)
  · obtain ⟨hidle, hlog⟩ := hstep.taken_nil h.wired.coherent h.listening hnone
    have hwindow : ∀ u ∈ (p.change c).views, ∃ v ∈ p.views, u.canvas.window = v.canvas.window := by
      intro u hu
      obtain ⟨i, hi⟩ := List.mem_iff_getElem?.1 hu
      have hw := hstep.windows i
      rw [hi, hlog, Option.map_some] at hw
      obtain ⟨v, hv, hvw⟩ := Option.map_eq_some_iff.1 hw.symm
      exact ⟨v, List.mem_of_getElem? hv, by simpa [latest] using hvw.symm⟩
    intro u hu u' hu'
    obtain ⟨v, hv, huv⟩ := hwindow u hu
    obtain ⟨v', hv', huv'⟩ := hwindow u' hu'
    rw [huv, huv']
    exact h.aligned hidle v hv v' hv'

/-- A frame brings all views to the window that waits. -/
theorem InStep.onFrame {p : Panes} (h : p.InStep) : p.onFrame.1.InStep := by
  cases hq : p.sync.pending with
  | none =>
    rw [onFrame_of_idle hq]
    exact h
  | some q =>
    have hviews := onFrame_of_pending h.wired hq
    have hshows : ∀ u ∈ p.onFrame.1.views, ∃ v ∈ p.views, v.SameRefusal u ∧
        u.canvas.window = some q.window := by
      intro u hu
      rw [hviews] at hu
      obtain ⟨i, hi, rfl⟩ := List.mem_mapIdx.1 hu
      refine ⟨p.views[i], List.getElem_mem hi, ?_⟩
      split
      · next hsource =>
        obtain ⟨v, hv, hw, -⟩ := h.shown q hq
        rw [← hsource, List.getElem?_eq_getElem hi] at hv
        exact ⟨rfl, Option.some.inj hv ▸ hw⟩
      · refine ⟨View.sameRefusal_setTo _ _, ?_⟩
        simp [View.setTo, h.taking _ (List.getElem_mem hi), View.withCanvas, Canvas.moved]
    refine ⟨h.wired.onFrame, fun q' hq' => ?_, fun u hu => ?_, fun u hu => ?_,
      fun _ u hu v hv => ?_⟩
    · simp [hviews] at hq'
    · obtain ⟨v, hv, hvu, -⟩ := hshows u hu
      exact hvu.trans (h.taking v hv)
    · obtain ⟨v, hv, hvu⟩ := (alike_onFrame h.wired).of_mem hu
      exact hvu.listens.trans (h.listening v hv)
    · obtain ⟨_, _, _, huw⟩ := hshows u hu
      obtain ⟨_, _, _, hvw⟩ := hshows v hv
      rw [huw, hvw]

/-- Without views there is nothing to fall out of step. -/
theorem InStep.of_empty {p : Panes} (hv : p.views = []) (hf : p.faults = [])
    (hs : p.sync = {}) : p.InStep where
  wired := ⟨hf, by simp [hv], by simp [hv], by simp [hv], by rw [hs]; rfl⟩
  shown := by simp [Shown, hs]
  taking := by simp [hv]
  listening := by simp [hv]
  aligned := by simp [hv]

end Panes

/-! ## Drawing a plan -/

/-- The views that a plan is drawn on take windows and report them, and have none yet. -/
theorem Plan.fresh_of_mem_filled {plan : Plan} {width : Nat} {p : Panes} {v : View}
    (hv : v ∈ (plan.filled width p).synchronize.views) :
    v.canvas.refuses = false ∧ v.listens = true ∧ v.canvas.window = none := by
  obtain ⟨i, hi⟩ := List.mem_iff_getElem?.1 hv
  rw [Panes.getElem?_synchronize] at hi
  obtain ⟨x, hx, rfl⟩ := Option.map_eq_some_iff.1 hi
  obtain ⟨u, hu, rfl⟩ := List.mem_map.1 (List.mem_of_getElem? hx)
  obtain ⟨_, _, _, _, rfl⟩ := blank_of_mem_frames hu
  exact ⟨rfl, rfl, rfl⟩

/-- The views that a plan is drawn on are in step. -/
theorem Plan.inStep_drawn {plan : Plan} (hplan : plan.Placed) (width : Nat) {p : Panes}
    (hf : p.faults = []) (hs : p.sync = {}) : (plan.drawn width p).InStep := by
  have hc : p.sync.Coherent := by rw [hs]; rfl
  have hfilled : (plan.filled width p).synchronize.InStep := {
    wired := (wired_filled hplan width hf hc id).synchronize
    shown := fun q hq => by
      have hnone : (plan.filled width p).synchronize.sync.pending = none := congrArg Sync.pending hs
      simp [hnone] at hq
    taking := fun v hv => (fresh_of_mem_filled hv).1
    listening := fun v hv => (fresh_of_mem_filled hv).2.1
    aligned := fun _ u hu v hv =>
      (fresh_of_mem_filled hu).2.2.trans (fresh_of_mem_filled hv).2.2.symm }
  exact hfilled.change rfl

/-! ## Charts -/

namespace Chart

/-- What can happen to a chart. -/
inductive Event where
  | load
  | refresh
  | frame
  | resize (width : Nat)
  | fit
  | pan (pane : String) (bars : Float)
  | zoom (pane : String) (factor : Float)
  /-- The user scrolls the canvas of the view at a position. -/
  | scroll (i : Nat) (w : Window)

/-- The chart after an event. -/
def after (feed : Feed) (c : Chart) : Event → Chart
  | .load => (c.load feed).1
  | .refresh => (c.refresh feed).1
  | .frame => c.onFrame.1
  | .resize width => c.resize width
  | .fit => c.fitContent
  | .pan pane bars => (c.pan pane bars).1
  | .zoom pane factor => (c.zoom pane factor).1
  | .scroll i w => { c with panes := c.panes.change (.scroll i w) }

/-- The panes of the chart are in step, and there are none unless there is a main one. -/
structure InStep (c : Chart) : Prop where
  panes : c.panes.InStep
  main : (c.panes.views = [] ∧ c.panes.sync = {} ∧ c.router.entries = []) ∨
    mainPane ∈ c.panes.names

theorem inStep_new (settings : Settings) : (Chart.new settings).InStep :=
  ⟨.of_empty rfl rfl rfl, .inl ⟨rfl, rfl, rfl⟩⟩

theorem InStep.move {c : Chart} (h : c.InStep) {m : Panes.Change} (hm : m.isMove = true) :
    { c with panes := c.panes.change m }.InStep :=
  ⟨h.panes.change hm, Grounded.change h.main h.panes.wired (Panes.Change.ne_synchronize hm)⟩

theorem InStep.onFrame {c : Chart} (h : c.InStep) : c.onFrame.1.InStep :=
  ⟨h.panes.onFrame, Grounded.onFrame h.main h.panes.wired⟩

/-- Changing the window of a pane is a move, or nothing happens. -/
theorem updateWindow_cases (c : Chart) (pane : String) (f : Window → Window) :
    (c.updateWindow pane f).1 = c ∨ ∃ i w,
      (c.updateWindow pane f).1 = { c with panes := c.panes.change (.setWindow i w) } := by
  unfold updateWindow
  cases hv : c.panes.view? pane with
  | none => exact .inl rfl
  | some v =>
    cases hw : v.canvas.window with
    | none => exact .inl (by simp [hw])
    | some w =>
      obtain ⟨i, hi⟩ := List.mem_iff_getElem?.1 (List.mem_of_find?_eq_some hv)
      refine .inr ⟨i, f w, ?_⟩
      simp only [hw, Panes.change, Panes.onView, hi, Panes.settle]
      cases c.panes.setWindow v (f w) <;> rfl

/-- What can become of a chart in one event. -/
inductive Step (feed : Feed) (c : Chart) : Chart → Prop where
  | idle : Step feed c c
  | move {m : Panes.Change} (hm : m.isMove = true) :
    Step feed c { c with panes := c.panes.change m }
  | resize (width : Nat) : Step feed c { c with width, panes := c.panes.change (.resize width) }
  | frame : Step feed c c.onFrame.1
  | load : Step feed c (c.load feed).1
  | refresh : Step feed c (c.refresh feed).1

theorem after_step (feed : Feed) (c : Chart) (e : Event) : c.Step feed (c.after feed e) := by
  have hupdate : ∀ pane f, c.Step feed (c.updateWindow pane f).1 := by
    intro pane f
    rcases c.updateWindow_cases pane f with hu | ⟨i, w, hu⟩
    · rw [hu]
      exact .idle
    · rw [hu]
      exact .move rfl
  cases e with
  | load => exact .load
  | refresh => exact .refresh
  | frame => exact .frame
  | resize width =>
    simp only [Chart.after, Chart.resize]
    split
    · exact .idle
    · exact .resize width
  | fit => exact .move (m := .fitAll) rfl
  | pan pane bars => exact hupdate pane _
  | zoom pane factor => exact hupdate pane _
  | scroll i w => exact .move (m := .scroll i w) rfl

/-- Loading draws on fresh panes, or leaves the panes as they are. -/
theorem InStep.load {c : Chart} (h : c.InStep) (feed : Feed) : (c.load feed).1.InStep := by
  refine ⟨?_, Grounded.load h.main h.panes.wired.faults feed⟩
  have hload := loaded_load h.main h.panes.wired.faults feed
  generalize c.load feed = result at hload
  cases hload with
  | failed => exact h.panes
  | drawn hd hv hs hplan => exact Plan.inStep_drawn hplan c.width h.panes.wired.faults hs

/-- Whatever happens to a chart, its panes stay in step. -/
theorem InStep.after {c : Chart} (h : c.InStep) (feed : Feed) (e : Event) :
    (c.after feed e).InStep := by
  have hstep := c.after_step feed e
  generalize c.after feed e = c' at hstep
  cases hstep with
  | idle => exact h
  | move hm => exact h.move hm
  | resize width =>
    obtain ⟨hpanes, hmain⟩ := h.move (m := .resize width) rfl
    exact ⟨hpanes, hmain⟩
  | frame => exact h.onFrame
  | load => exact h.load feed
  | refresh =>
    have htorn : { c with panes := c.panes.teardown, router := .empty, loaded := none }.InStep :=
      ⟨.of_empty rfl h.panes.wired.faults rfl, .inl ⟨rfl, rfl, rfl⟩⟩
    exact htorn.load feed

end Chart

/-! ## Dashboards -/

namespace Dashboard

/-- What can happen to a dashboard : the terminal reports something, an action is asked for, or
something happens to the chart itself. -/
inductive Event where
  | input (i : Input)
  | action (a : Action)
  | chart (e : Chart.Event)

/-- The dashboard after an event. -/
def after (feed : Feed) (d : Dashboard) : Event → Dashboard
  | .input i => d.step feed i
  | .action a => d.handle feed a
  | .chart e => { d with chart := d.chart.after feed e }

/-- The dashboard after a sequence of events. -/
def run (feed : Feed) (d : Dashboard) (events : List Event) : Dashboard :=
  events.foldl (after feed) d

theorem chart_onFocused (d : Dashboard) (f : Chart → String → Chart × Except Failure Unit) :
    (d.onFocused f).chart = d.chart ∨ ∃ pane, (d.onFocused f).chart = (f d.chart pane).1 := by
  unfold onFocused
  cases d.focusedPane with
  | none => exact .inl rfl
  | some pane =>
    refine .inr ⟨pane, ?_⟩
    simp only
    split <;> simp [*]

theorem chart_refresh (feed : Feed) (d : Dashboard) :
    (d.refresh feed).chart = (d.chart.refresh feed).1 := by
  have hclamp : ∀ d : Dashboard, d.clampFocus.chart = d.chart := by
    intro d
    unfold clampFocus
    split <;> rfl
  unfold refresh
  simp only [hclamp]
  split <;> rfl

/-- The event of the chart that an action is, on one of the panes or on all of them. -/
inductive Causes : Action → Chart.Event → Prop where
  | pan (pane : String) (bars : Float) : Causes (.pan bars) (.pan pane bars)
  | zoom (pane : String) (factor : Float) : Causes (.zoom factor) (.zoom pane factor)
  | fit : Causes .fit .fit
  | refresh : Causes .refresh .refresh

/-- An action is at most one event of the chart. -/
theorem chart_handle (feed : Feed) (d : Dashboard) (a : Action) :
    (d.handle feed a).chart = d.chart ∨
      ∃ e, Causes a e ∧ (d.handle feed a).chart = d.chart.after feed e := by
  cases hq : d.confirmQuit with
  | true => cases a <;> exact .inl (by simp [handle, hq, cancelQuit])
  | false =>
    simp only [handle, hq, Bool.false_eq_true, if_false]
    cases a with
    | quit => exact .inl rfl
    | cancel => exact .inl rfl
    | pan bars =>
      exact (chart_onFocused _ _).imp id fun ⟨pane, hpane⟩ => ⟨_, .pan pane bars, hpane⟩
    | zoom factor =>
      exact (chart_onFocused _ _).imp id fun ⟨pane, hpane⟩ => ⟨_, .zoom pane factor, hpane⟩
    | focusNext =>
      left
      simp only [focusNext]
      split <;> rfl
    | fit => exact .inr ⟨_, .fit, rfl⟩
    | refresh => exact .inr ⟨_, .refresh, chart_refresh feed _⟩

/-- An event of the dashboard is at most one event of its chart. -/
theorem chart_after (feed : Feed) (d : Dashboard) (e : Event) :
    (d.after feed e).chart = d.chart ∨ ∃ e', (d.after feed e).chart = d.chart.after feed e' := by
  cases e with
  | chart e => exact .inr ⟨e, rfl⟩
  | action a => exact (chart_handle feed d a).imp id fun ⟨e, _, he⟩ => ⟨e, he⟩
  | input i =>
    cases i with
    | tick => exact .inr ⟨.frame, rfl⟩
    | resize width => exact .inr ⟨.resize width, rfl⟩
    | key k =>
      simp only [after, step]
      cases Action.ofKey k with
      | some a => exact (chart_handle feed d a).imp id fun ⟨e, _, he⟩ => ⟨e, he⟩
      | none =>
        left
        simp only
        split <;> rfl

theorem inStep_run (settings : Settings) (feed : Feed) (events : List Event) :
    (({ chart := .new settings } : Dashboard).run feed events).chart.InStep := by
  induction events using List.reverseRecOn with
  | nil => exact Chart.inStep_new settings
  | append_singleton events e ih =>
    rw [run, List.foldl_append, List.foldl_cons, List.foldl_nil]
    rcases chart_after feed (run feed { chart := .new settings } events) e with he | ⟨e', he⟩
    · exact he ▸ ih
    · exact he ▸ ih.after feed e'

/-- Whatever happens to a dashboard : while no window waits all views have the same one, and a
window that waits is on view at its source. -/
theorem aligned_run (settings : Settings) (feed : Feed) (events : List Event) :
    let panes := (({ chart := .new settings } : Dashboard).run feed events).chart.panes
    match panes.sync.pending with
    | none => ∀ u ∈ panes.views, ∀ v ∈ panes.views, u.canvas.window = v.canvas.window
    | some q => ∃ v, panes.views[q.source]? = some v ∧ v.canvas.window = some q.window := by
  intro panes
  have h : panes.InStep := (inStep_run settings feed events).panes
  cases hq : panes.sync.pending with
  | none => exact h.aligned hq
  | some q =>
    obtain ⟨v, hv, hw, -⟩ := h.shown q hq
    exact ⟨v, hv, hw⟩

end Dashboard

end MarketChart
