import MarketChart.Proofs.Alignment
import MarketChart.Proofs.TimeAxis

/-!
# Fitting and the next frame

Fitting brings every view with bars to the window of all its bars, and the next frame brings all
views to one window. Which one depends on what waits: a window that waits is replaced only from its
own view, and with nothing waiting the first view that moves becomes the source. So the frame passes
on what fitting made of the source (`Panes.InStep.window_fitAll`). If the source has bars, all views
come to its whole axis. If it has none, fitting leaves it where it is, and the frame takes all views
to the window that waited before (`Dashboard.windows_fit_tick`), so the fit is lost
(`Dashboard.fit_lost`).
-/

namespace MarketChart

/-- Fitting shows the whole axis of a view, if there is one. -/
theorem View.window_fitted_eq {v : View} (h : v.canvas.removed = false) :
    v.fitted.canvas.window = if v.canvas.timeScale = [] then v.canvas.window
      else some (.ofBars v.canvas.timeScale.length) := by
  unfold fitted Canvas.fitWindow?
  by_cases hbars : v.canvas.timeScale = []
  · simp [h, hbars]
  · simp [h, hbars, withCanvas, Canvas.showing]

namespace Panes

/-- The first view that is heard of in a fit is the first one with bars. -/
theorem find?_heard_fits : ∀ (k : Nat) {views : List View},
    (∀ v ∈ views, v.listens = true ∧ v.canvas.removed = false) →
      (((views.zipIdx k).flatMap fun (v, i) => fits i v).find? Taken.heard).map Taken.view =
        (views.findIdx? fun v => v.canvas.timeScale ≠ []).map (k + ·)
  | _, [], _ => rfl
  | k, v :: rest, h => by
    obtain ⟨⟨hlistens, hremoved⟩, hrest⟩ := List.forall_mem_cons.1 h
    rw [List.zipIdx_cons, List.flatMap_cons, List.find?_append, List.findIdx?_cons, Option.map_or,
      find?_heard_fits (k + 1) hrest]
    by_cases hbars : v.canvas.timeScale = []
    · have hfits : fits k v = [] := by simp [fits, Canvas.fitWindow?, hbars]
      simp [hfits, hbars, Option.map_map, Function.comp_def, Nat.add_right_comm, Nat.add_assoc]
    · simp [fits, Canvas.fitWindow?, hbars, hremoved, hlistens]

section

variable {p : Panes} (h : p.InStep)

include h

/-- A frame leaves every view on the window that waited. -/
theorem InStep.window_onFrame {q : Pending} (hq : p.sync.pending = some q) {u : View}
    (hu : u ∈ p.onFrame.1.views) : u.canvas.window = some q.window := by
  have hpassed := passedOn_onFrame h.wired h.shown hq
  obtain ⟨v, -, hw, hv⟩ := hpassed.source
  have hidle : p.onFrame.1.sync.pending = none := by simpa [hasPending] using hpassed.idle
  rw [h.onFrame.aligned hidle u hu v (List.mem_of_getElem? hv), hw]

theorem InStep.removed {v : View} (hv : v ∈ p.views) : v.canvas.removed = false := by
  have hrefuses := h.taking v hv
  rw [Canvas.refuses, Bool.or_eq_false_iff] at hrefuses
  exact hrefuses.1

/-- After a fit, a frame leaves every view on what the fit made of the source. -/
theorem InStep.window_fitAll {s : Nat} {v : View}
    (hs : (p.change .fitAll).sync.pending.map Pending.source = some s)
    (hv : p.views[s]? = some v) {u : View} (hu : u ∈ (p.change .fitAll).onFrame.1.views) :
    u.canvas.window = if v.canvas.timeScale = [] then v.canvas.window
      else some (.ofBars v.canvas.timeScale.length) := by
  obtain ⟨q, hq, rfl⟩ := Option.map_eq_some_iff.1 hs
  have hfit : (p.change .fitAll).InStep := h.change rfl
  obtain ⟨x, hx, hw, -⟩ := hfit.shown q hq
  obtain rfl : v.fitted = x := by simpa [change_fitAll h.wired, hv] using hx
  rw [hfit.window_onFrame hq hu, ← hw,
    View.window_fitted_eq (h.removed (List.mem_of_getElem? hv))]

/-- A fit leaves the source as it is, and if there is none makes the first view with bars the
source. -/
theorem InStep.source_fitAll : (p.change .fitAll).sync.pending.map Pending.source =
    (p.sync.pending.map Pending.source).or
      (p.views.findIdx? fun v => v.canvas.timeScale ≠ []) := by
  have hviews : ∀ v ∈ p.views, v.listens = true ∧ v.canvas.removed = false := fun v hv =>
    ⟨h.listening v hv, h.removed hv⟩
  rw [change_fitAll h.wired, source_foldl_note _ h.wired.coherent]
  refine congrArg _ ((find?_heard_fits 0 hviews).trans ?_)
  simp

end

end Panes

namespace Dashboard

/-- Whatever happened to a dashboard, let no question before quitting stand and some view have bars.
Fitting and then a frame take all views to one window. If none waited before, it shows all bars of
the first view with bars. If one waited, it shows all bars of the source; but if the source has no
bars, it is the window that waited. -/
theorem windows_fit_tick (settings : Settings) (feed : Feed) (events : List Event)
    (hasked : (run feed { chart := .new settings } events).confirmQuit = false)
    (hbars : ∃ v ∈ (run feed { chart := .new settings } events).chart.panes.views,
      v.canvas.timeScale ≠ []) :
    let d := run feed { chart := .new settings } events
    let views := (d.run feed [.action .fit, .input .tick]).chart.panes.views
    match d.chart.panes.sync.pending with
    | none => ∃ v, d.chart.panes.views.find? (fun v => v.canvas.timeScale ≠ []) = some v ∧
        ∀ u ∈ views, u.canvas.window = some ⟨0.0, .ofNat (v.canvas.timeScale.length - 1)⟩
    | some q => ∃ v, d.chart.panes.views[q.source]? = some v ∧ ∀ u ∈ views, u.canvas.window =
        if v.canvas.timeScale = [] then some q.window
        else some ⟨0.0, .ofNat (v.canvas.timeScale.length - 1)⟩ := by
  intro d views
  have h : d.chart.panes.InStep := (inStep_run settings feed events).panes
  have hviews : views = (d.chart.panes.change .fitAll).onFrame.1.views := by
    have hfit : d.handle feed .fit = { d with status := none, chart := d.chart.fitContent } := by
      simp [handle, d, hasked, fit]
    simp only [views, run, List.foldl_cons, List.foldl_nil, after, step, tick, hfit]
    rfl
  have hsource := h.source_fitAll
  cases hq : d.chart.panes.sync.pending with
  | none =>
    obtain ⟨v, hv⟩ : ∃ v, d.chart.panes.views.find? (fun v => v.canvas.timeScale ≠ []) = some v :=
      Option.isSome_iff_exists.1 (List.find?_isSome.2 (by simpa using hbars))
    obtain ⟨s, hs, hget⟩ : ∃ s, d.chart.panes.views.findIdx? (fun v => v.canvas.timeScale ≠ []) =
        some s ∧ d.chart.panes.views[s]? = some v :=
      Option.bind_eq_some_iff.1 (List.find?_eq_bind_findIdx?_getElem?.symm.trans hv)
    have hscale : v.canvas.timeScale ≠ [] := by simpa using List.find?_some hv
    refine ⟨v, hv, fun u hu => ?_⟩
    rw [hq, Option.map_none, Option.none_or, hs] at hsource
    rw [h.window_fitAll hsource hget (hviews ▸ hu), if_neg hscale]
    rfl
  | some q =>
    obtain ⟨v, hv, hw, -⟩ := h.shown q hq
    refine ⟨v, hv, fun u hu => ?_⟩
    rw [hq, Option.map_some, Option.some_or] at hsource
    rw [h.window_fitAll hsource hv (hviews ▸ hu), hw]
    rfl

/-- A candle, and an indicator on a pane of its own whose one sample has no value. -/
def bareFeed : Feed := .ofList [⟨.ok (.ofSamples [{ time := 0 }]), fun _ => none⟩]

/-- The main pane is panned, and fitting takes it and the empty pane back. -/
theorem windows_fit_tick_panned :
    let events := [.chart .load, .input .tick, .input (.key .right)]
    let d := run bareFeed { chart := .new {} } events
    d.confirmQuit = false ∧ (∃ v ∈ d.chart.panes.views, v.canvas.timeScale ≠ []) ∧
      d.chart.panes.sync.pending = some ⟨0, 1.0, 1.0⟩ ∧
      ∀ u ∈ (d.run bareFeed [.action .fit, .input .tick]).chart.panes.views,
        u.canvas.window = some ⟨0.0, 0.0⟩ := by
  intro events d
  have hasked : d.confirmQuit = false := by decide +kernel
  have hbars : ∃ v ∈ d.chart.panes.views, v.canvas.timeScale ≠ [] := by decide +kernel
  have hq : d.chart.panes.sync.pending = some ⟨0, 1.0, 1.0⟩ := by decide +kernel
  have hscale : d.chart.panes.views[0]?.map (·.canvas.timeScale) = some [0] := by decide +kernel
  have hfit := windows_fit_tick {} bareFeed events hasked hbars
  simp only [show (run bareFeed { chart := .new {} } events).chart.panes.sync.pending = _ from hq]
    at hfit
  obtain ⟨v, hv, hwindows⟩ := hfit
  have hone : v.canvas.timeScale = [0] := by
    rw [show d.chart.panes.views[0]? = some v from hv] at hscale
    exact Option.some.inj hscale
  refine ⟨hasked, hbars, hq, fun u hu => ?_⟩
  rw [hwindows u hu, hone]
  rfl

/-- The empty pane is panned. Fitting does not move it, so its window still waits, and the next
frame takes the main pane there. -/
theorem fit_lost :
    let d := run bareFeed { chart := .new {} }
      [.chart .load, .input .tick, .input (.key .tab), .input (.key .right)]
    let views := (d.run bareFeed [.action .fit, .input .tick]).chart.panes.views
    d.confirmQuit = false ∧ d.chart.panes.views.map (·.canvas.timeScale) = [[0], []] ∧
      d.chart.panes.sync.pending = some ⟨1, 1.0, 1.0⟩ ∧
      views.map (·.canvas.timeScale) = [[0], []] ∧
      views.map (·.canvas.window) = [some ⟨1.0, 1.0⟩, some ⟨1.0, 1.0⟩] ∧
      ∀ u ∈ views, ∀ right, u.canvas.window ≠ some ⟨0.0, right⟩ := by
  intro d views
  have hwindows : views.map (·.canvas.window) = [some ⟨1.0, 1.0⟩, some ⟨1.0, 1.0⟩] := by
    decide +kernel
  refine ⟨by decide +kernel, by decide +kernel, by decide +kernel, by decide +kernel, hwindows,
    fun u hu right hw => ?_⟩
  have hmem : u.canvas.window ∈ views.map (·.canvas.window) := List.mem_map_of_mem hu
  have hshown : u.canvas.window = some ⟨1.0, 1.0⟩ := by simpa [hwindows] using hmem
  rw [hw, Option.some.injEq, Window.mk.injEq] at hshown
  exact absurd hshown.1 (by decide)

end Dashboard

end MarketChart
