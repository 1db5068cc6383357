import MarketChart.Dashboard.Screen
import MarketChart.Proofs.Reloading

/-!
# Widths, positions and the focus

Whatever happens to a chart, its views stay arranged (`Chart.arranged_history`). So every view is as
wide as the chart, which has the width that was set last (`Chart.widths_history`). A chart that is
given the width it has does nothing at all, and that is right because no view has another.

A dashboard joins names, containers and canvases by position. Since the views are arranged, the
canvases that are there are those of the views, in their order, and each is found by its container.
The focus is on one of the views, or on the first position when there are none
(`Dashboard.ordered_run`). Only a refresh can take away the view in focus, and it brings the focus
back.
-/

namespace MarketChart

/-! ## Canvases that were closed -/

namespace Panes

theorem closed_change (p : Panes) (c : Change) : (p.change c).closed = p.closed := by
  have honView : ∀ (i : Nat) (f : View → Except Cause Panes),
      (∀ v p', f v = .ok p' → p'.closed = p.closed) → (p.onView i f).closed = p.closed := by
    intro i f hf
    unfold onView
    cases p.views[i]? with
    | none => rfl
    | some v =>
      cases hv : f v with
      | error cause => simp [settle, hv]
      | ok p' => simpa [settle, hv] using hf v p' hv
  have hmap : ∀ {α : Type} {r : Except Cause α} {g : α → Panes} {p' : Panes},
      (∀ a, (g a).closed = p.closed) → r.map g = .ok p' → p'.closed = p.closed := by
    intro α r g p' hg hr
    cases r with
    | error cause => simp [Except.map] at hr
    | ok a =>
      rw [Except.map, Except.ok.injEq] at hr
      exact hr ▸ hg a
  cases c with
  | setWindow i w => exact honView i _ fun v p' => hmap fun _ => rfl
  | scroll i w => exact honView i _ fun v p' => hmap fun _ => rfl
  | fit i => exact honView i _ fun v p' => hmap fun _ => rfl
  | fitAll => rfl
  | reject i on => exact honView i _ fun v p' hv => by rw [← Except.ok.inj hv]; rfl
  | resize width => rfl
  | synchronize => rfl

theorem closed_onFrame (p : Panes) : p.onFrame.1.closed = p.closed := by
  unfold onFrame
  split <;> rfl

end Panes

/-! ## Histories of charts -/

namespace Chart

/-- The views are arranged in the width of the chart, and the canvases that were closed are gone. -/
structure Arranged (c : Chart) : Prop where
  panes : c.panes.Arranged c.width
  closed : ∀ canvas ∈ c.panes.closed, canvas.removed = true

section

variable {settings : Settings} {c : Chart} (h : c.Arranged) (hs : c.Standing settings)

include h hs

theorem Arranged.change {m : Panes.Change} (hm : m ≠ .synchronize)
    (hw : ∀ width, m ≠ .resize width) : { c with panes := c.panes.change m }.Arranged where
  panes := h.panes.alike (Panes.sameFrame_change hs.wired hm hw)
  closed := by
    rw [Panes.closed_change]
    exact h.closed

theorem Arranged.onFrame : c.onFrame.1.Arranged where
  panes := h.panes.alike (Panes.sameFrame_onFrame hs.wired)
  closed := by
    rw [Chart.onFrame, Panes.closed_onFrame]
    exact h.closed

/-- If the chart has the width already then so have its views. -/
theorem Arranged.resize (width : Nat) : (c.resize width).Arranged := by
  unfold Chart.resize
  split
  · exact h
  · exact ⟨h.panes.resize hs.wired.faults width, h.closed⟩

theorem Arranged.load (feed : Feed) : (c.load feed).1.Arranged := by
  have hload := loaded_load hs.grounded hs.wired.faults feed
  generalize c.load feed = result at hload
  cases hload with
  | failed => exact ⟨h.panes, h.closed⟩
  | drawn hd hv hsync hplan =>
    exact ⟨Plan.arranged_drawn hplan c.width hs.wired.faults hs.wired.coherent, h.closed⟩

omit hs in
theorem Arranged.torn :
    { c with panes := c.panes.teardown, router := .empty, loaded := none }.Arranged where
  panes := .of_empty rfl c.width
  closed := by
    intro canvas hc
    rcases List.mem_append.1 hc with hc | hc
    · exact h.closed canvas hc
    · obtain ⟨v, -, rfl⟩ := List.mem_map.1 hc
      rfl

theorem Arranged.updateWindow (pane : String) (f : Window → Window) :
    (c.updateWindow pane f).1.Arranged := by
  rcases c.updateWindow_cases pane f with hu | ⟨i, w, hu⟩
  · rw [hu]
    exact h
  · rw [hu]
    exact h.change hs (by simp) (by simp)

theorem Arranged.after (feed : Feed) (e : Event) : (c.after feed e).Arranged := by
  cases e with
  | load => exact h.load hs feed
  | refresh => exact h.torn.load hs.torn feed
  | frame => exact h.onFrame hs
  | resize width => exact h.resize hs width
  | fit => exact h.change hs (m := .fitAll) (by simp) (by simp)
  | pan pane bars => exact h.updateWindow hs pane _
  | zoom pane factor => exact h.updateWindow hs pane _
  | scroll i w => exact h.change hs (by simp) (by simp)

end

theorem arranged_history (settings : Settings) (feed : Feed) (happenings : List Happening) :
    (history settings feed happenings).Arranged := by
  induction happenings using List.reverseRecOn with
  | nil => exact ⟨.of_empty rfl _, by simp [history, new]⟩
  | append_singleton happenings x ih =>
    have hs := standing_history settings feed happenings
    rw [history, List.foldl_append, List.foldl_cons, List.foldl_nil, ← history]
    cases x with
    | event e => exact ih.after hs feed e
    | reject i on => exact ih.change hs (m := .reject i on) (by simp) (by simp)

/-! ## Widths -/

/-- The width that is asked for, if any is. -/
def Happening.width? : Happening → Option Nat
  | .event (.resize width) => some width
  | _ => none

theorem width_load (feed : Feed) (c : Chart) : (c.load feed).1.width = c.width := by
  unfold load
  simp only
  split
  · rfl
  · split <;> rfl

theorem width_updateWindow (c : Chart) (pane : String) (f : Window → Window) :
    (c.updateWindow pane f).1.width = c.width := by
  rcases c.updateWindow_cases pane f with hu | ⟨i, w, hu⟩ <;> rw [hu]

theorem width_resize (c : Chart) (width : Nat) : (c.resize width).width = width := by
  unfold resize
  split
  · next h => exact h.symm
  · rfl

theorem width_undergo (feed : Feed) (c : Chart) (x : Happening) :
    (c.undergo feed x).width = x.width?.getD c.width := by
  cases x with
  | reject i on => rfl
  | event e =>
    cases e with
    | load => exact width_load feed c
    | refresh => exact width_load feed _
    | frame => rfl
    | resize width => exact width_resize c width
    | fit => rfl
    | pan pane bars => exact width_updateWindow c pane _
    | zoom pane factor => exact width_updateWindow c pane _
    | scroll i w => rfl

theorem width_history (settings : Settings) (feed : Feed) (happenings : List Happening) :
    (history settings feed happenings).width =
      (happenings.filterMap Happening.width?).getLast?.getD settings.containerWidth := by
  induction happenings using List.reverseRecOn with
  | nil => rfl
  | append_singleton happenings x ih =>
    rw [history, List.foldl_append, List.foldl_cons, List.foldl_nil, ← history, width_undergo, ih,
      List.filterMap_append]
    cases hx : x.width? with
    | none => simp [hx]
    | some width => simp [hx]

/-- Whatever happened, the chart has the width that was set last, or else the one of its settings,
and every view has it too, its container as well as its canvas. -/
theorem widths_history (settings : Settings) (feed : Feed) (happenings : List Happening) :
    let c := history settings feed happenings
    c.width = (happenings.filterMap Happening.width?).getLast?.getD settings.containerWidth ∧
      ∀ v ∈ c.panes.views, v.container.width = c.width ∧ v.canvas.width = c.width := by
  intro c
  refine ⟨width_history settings feed happenings, fun v hv => ?_⟩
  have hung := (arranged_history settings feed happenings).panes.hung v hv
  exact ⟨congrArg Container.width hung.container, hung.width⟩

end Chart

/-! ## Dashboards -/

namespace Panes

/-- All canvases that were made, those of the views that were torn down first. -/
def canvases (p : Panes) : List (Canvas Nat) :=
  p.closed ++ (p.views.mergeSort fun u v => u.serial ≤ v.serial).map View.canvas

/-- The canvases that are there are those of the views. -/
theorem filter_canvases {width : Nat} {p : Panes} (h : p.Arranged width)
    (hc : ∀ canvas ∈ p.closed, canvas.removed = true) :
    p.canvases.filter (!·.removed) = p.views.map View.canvas := by
  have hgone : p.closed.filter (!·.removed) = [] :=
    List.filter_eq_nil_iff.2 fun canvas hcanvas => by simp [hc canvas hcanvas]
  have hthere : ∀ canvas ∈ p.views.map View.canvas, (!canvas.removed) = true := by
    intro canvas hcanvas
    obtain ⟨v, hv, rfl⟩ := List.mem_map.1 hcanvas
    simp [(h.hung v hv).there]
  rw [canvases, List.filter_append, hgone, List.nil_append, h.mergeSort_views,
    List.filter_eq_self.2 hthere]

/-- The containers of the views lead to the views, position by position. -/
theorem Arranged.map_viewIn? {width : Nat} {p : Panes} (h : p.Arranged width) :
    p.containers.map (fun c => p.viewIn? c.id) = p.views.map some := by
  rw [containers, List.map_map]
  exact List.map_congr_left fun v hv => h.viewIn?_of_mem hv

end Panes

namespace Dashboard

/-- What the user and the program do with a dashboard: load the chart, take in what the terminal
reports, apply an action, or scroll the canvas of the view at a position. -/
inductive Turn where
  | load
  | input (i : Input)
  | action (a : Action)
  | scroll (i : Nat) (w : Window)

/-- A turn as an event. -/
def Turn.event : Turn → Event
  | .load => .chart .load
  | .input i => .input i
  | .action a => .action a
  | .scroll i w => .chart (.scroll i w)

/-- What happens to a dashboard happens to its chart. -/
theorem exists_history (settings : Settings) (feed : Feed) (events : List Event) :
    ∃ happenings, (({ chart := .new settings } : Dashboard).run feed events).chart =
      Chart.history settings feed happenings := by
  induction events using List.reverseRecOn with
  | nil => exact ⟨[], rfl⟩
  | append_singleton events e ih =>
    obtain ⟨happenings, hchart⟩ := ih
    rw [run, List.foldl_append, List.foldl_cons, List.foldl_nil, ← run]
    rcases chart_after feed (run feed { chart := .new settings } events) e with he | ⟨e', he⟩
    · exact ⟨happenings, he.trans hchart⟩
    · refine ⟨happenings ++ [.event e'], ?_⟩
      rw [he, hchart, Chart.history, Chart.history, List.foldl_append]
      rfl

/-! ## The focus -/

/-- The focus is on a view, or on the first position if there is none. -/
def Focused (d : Dashboard) : Prop :=
  d.focused < d.chart.panes.views.length ∨ d.chart.panes.views = [] ∧ d.focused = 0

theorem Focused.keep {d d' : Dashboard} (h : d.Focused) (hf : d'.focused = d.focused)
    (hl : d'.chart.panes.views.length = d.chart.panes.views.length) : d'.Focused := by
  unfold Focused at h ⊢
  rw [← List.length_eq_zero_iff] at h ⊢
  omega

theorem focused_clampFocus (d : Dashboard) : d.clampFocus.Focused := by
  unfold clampFocus
  split
  · rcases Nat.eq_zero_or_pos d.chart.panes.views.length with hnone | hsome
    · exact .inr ⟨List.length_eq_zero_iff.1 hnone, rfl⟩
    · exact .inl hsome
  · next hthere => exact .inl (Nat.lt_of_not_le hthere)

theorem Focused.focusNext {d : Dashboard} (h : d.Focused) : d.focusNext.Focused := by
  simp only [Dashboard.focusNext]
  split
  · exact h
  · next hcount => exact .inl (Nat.mod_lt _ (Nat.pos_of_ne_zero hcount))

theorem focused_onFocused (d : Dashboard) (f : Chart → String → Chart × Except Failure Unit) :
    (d.onFocused f).focused = d.focused := by
  unfold onFocused
  split
  · rfl
  · split <;> rfl

section

variable {settings : Settings} {d : Dashboard} (h : d.Focused) (hs : d.chart.Standing settings)

include h hs

theorem Focused.change {m : Panes.Change} (hm : m ≠ .synchronize) :
    { d with chart := { d.chart with panes := d.chart.panes.change m } }.Focused :=
  h.keep rfl (Panes.alike_change hs.wired hm).views.length_eq.symm

/-- Moving or zooming the pane in focus leaves the focus alone. -/
theorem Focused.onFocused (f : Window → Window) :
    (d.onFocused fun c pane => c.updateWindow pane f).Focused := by
  refine h.keep (focused_onFocused d _) ?_
  rcases chart_onFocused d fun c pane => c.updateWindow pane f with hc | ⟨pane, hc⟩
  · rw [hc]
  · rw [hc]
    rcases d.chart.updateWindow_cases pane f with hu | ⟨i, w, hu⟩
    · rw [hu]
    · rw [hu]
      exact (Panes.alike_change hs.wired (by simp)).views.length_eq.symm

theorem Focused.handle (feed : Feed) (a : Action) : (d.handle feed a).Focused := by
  cases hq : d.confirmQuit with
  | true => cases a <;> simpa [Dashboard.handle, hq, cancelQuit, Focused] using h
  | false =>
    have hclear : { d with status := none }.Focused := h
    unfold Dashboard.handle
    rw [if_neg (by simp [hq])]
    cases a with
    | quit => exact h
    | cancel => exact h
    | pan bars => exact hclear.onFocused hs _
    | zoom factor => exact hclear.onFocused hs _
    | focusNext => exact hclear.focusNext
    | fit => exact hclear.change hs (m := .fitAll) (by simp)
    | refresh => exact focused_clampFocus _

theorem Focused.load (feed : Feed) :
    { d with chart := (d.chart.load feed).1 }.Focused := by
  have hload := Chart.loaded_load hs.grounded hs.wired.faults feed
  generalize d.chart.load feed = result at hload
  cases hload with
  | failed => exact h
  | drawn hd hv hsync hplan =>
    have hnames := Plan.names_drawn hplan d.chart.width hs.wired.faults hs.wired.coherent
    have hlength := congrArg List.length hnames
    rw [Panes.names, List.length_map, List.length_cons] at hlength
    have hfirst : d.focused = 0 := by simpa [Focused, hv] using h
    left
    simp only [hlength, hfirst]
    omega

theorem Focused.after (feed : Feed) (t : Turn) : (d.after feed t.event).Focused := by
  cases t with
  | load => exact h.load hs feed
  | action a => exact h.handle hs feed a
  | scroll i w => exact h.change hs (m := .scroll i w) (by simp)
  | input i =>
    cases i with
    | tick => exact h.keep rfl (Panes.passed_onFrame hs.wired).views.length_eq.symm
    | resize width =>
      simp only [Turn.event, Dashboard.after, step, Chart.resize]
      split
      · exact h
      · exact h.change hs (m := .resize width) (by simp)
    | key k =>
      simp only [Turn.event, Dashboard.after, step]
      cases Action.ofKey k with
      | some a => exact h.handle hs feed a
      | none =>
        simp only
        split <;> exact h

end

theorem focused_run (settings : Settings) (feed : Feed) (turns : List Turn) :
    (({ chart := .new settings } : Dashboard).run feed (turns.map Turn.event)).Focused := by
  induction turns using List.reverseRecOn with
  | nil => exact .inr ⟨rfl, rfl⟩
  | append_singleton turns t ih =>
    obtain ⟨happenings, hchart⟩ := exists_history settings feed (turns.map Turn.event)
    have hs := Chart.standing_history settings feed happenings
    rw [← hchart] at hs
    rw [List.map_append, run, List.foldl_append]
    exact ih.after hs feed t

/-- Names, containers, canvases and pictures of a dashboard go together, position by position, and
the focus is on one of them. -/
structure Ordered (d : Dashboard) : Prop where
  /-- The canvases that are there are those of the views. -/
  canvases : d.chart.panes.canvases.filter (!·.removed) = d.chart.panes.views.map View.canvas
  living : d.chart.panes.living = d.chart.panes.views
  /-- The container at a position leads to the view at that position. -/
  containers : d.chart.panes.containers.map (fun c => d.chart.panes.viewIn? c.id) =
    d.chart.panes.views.map some
  /-- Every pane is drawn under its own name, and the one in focus as such. -/
  pictures : ∀ width, d.chart.panes.views ≠ [] → Screen.panePictures width d =
    d.chart.panes.views.mapIdx fun i v => Screen.panePicture width v.name (i == d.focused) v
  names : d.chart.panes.names.Nodup
  main : d.chart.panes.views ≠ [] → d.chart.panes.names.head? = some mainPane
  focus : d.focused < d.chart.panes.views.length ∨ d.chart.panes.views = [] ∧ d.focused = 0

theorem panePictures_eq {width : Nat} {d : Dashboard} (h : d.chart.panes.Arranged width)
    (width' : Nat) (hv : d.chart.panes.views ≠ []) : Screen.panePictures width' d =
      d.chart.panes.views.mapIdx fun i v =>
        Screen.panePicture width' v.name (i == d.focused) v := by
  have hshown : d.chart.panes.containers.filterMap (fun c => d.chart.panes.viewIn? c.id) =
      d.chart.panes.views := by
    have hall := congrArg (List.filterMap id) h.map_viewIn?
    simpa [List.filterMap_map] using hall
  simp only [Screen.panePictures, hshown, List.isEmpty_iff, hv, if_false]
  refine List.mapIdx_eq_mapIdx_iff.2 fun i hi => ?_
  simp [Panes.names, hi]

/-- Whatever is done with a dashboard, it stays in order. -/
theorem ordered_run (settings : Settings) (feed : Feed) (turns : List Turn) :
    (({ chart := .new settings } : Dashboard).run feed (turns.map Turn.event)).Ordered := by
  obtain ⟨happenings, hchart⟩ := exists_history settings feed (turns.map Turn.event)
  have h := Chart.arranged_history settings feed happenings
  rw [← hchart] at h
  exact {
    canvases := Panes.filter_canvases h.panes h.closed
    living := h.panes.living_eq
    containers := h.panes.map_viewIn?
    pictures := fun width => panePictures_eq h.panes width
    names := h.panes.names
    main := fun hv => h.panes.main.resolve_left hv
    focus := focused_run settings feed turns }

end Dashboard

end MarketChart
