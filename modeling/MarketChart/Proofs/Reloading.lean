import MarketChart.Proofs.Alignment
import MarketChart.Proofs.Arrangement

/-!
# Loading again

Whatever has happened to a chart before, a load either draws a document on panes that were empty or
fails and leaves the panes, the router and what is shown as they were (`Chart.load_atomic`). A
refresh is a first load: it leaves the chart as a new one of the same width would be after loading
the same delivery, and removes every canvas that there was (`Chart.refresh_eq_first`).

Views have serials that tell them apart from all views made before. They are the only trace of the
past on the views of a refreshed chart, so the two charts are compared with the serials left out
(`View.unnumbered`).
-/

namespace MarketChart

/-! ## Histories -/

namespace Chart

/-- What can happen to a chart: an event, or that the canvas of a view is made to refuse windows or
to accept them again. -/
inductive Happening where
  | event (e : Event)
  | reject (i : Nat) (on : Bool)

/-- The chart after one of these. -/
def undergo (feed : Feed) (c : Chart) : Happening → Chart
  | .event e => c.after feed e
  | .reject i on => { c with panes := c.panes.change (.reject i on) }

/-- A chart that all of this has happened to since it was new. -/
def history (settings : Settings) (feed : Feed) (happenings : List Happening) : Chart :=
  happenings.foldl (undergo feed) (.new settings)

/-- The chart has the settings it began with and a main view or nothing at all, and its panes are
wired. -/
structure Standing (settings : Settings) (c : Chart) : Prop where
  settings : c.settings = settings
  wired : c.panes.Wired id
  grounded : c.Grounded

section

variable {settings : Settings} {c : Chart} (h : c.Standing settings)

include h

theorem Standing.change {m : Panes.Change} (hm : m ≠ .synchronize) :
    { c with panes := c.panes.change m }.Standing settings :=
  ⟨h.settings, h.wired.step (Panes.change_step h.wired hm), h.grounded.change h.wired hm⟩

theorem Standing.load (feed : Feed) : (c.load feed).1.Standing settings := by
  have hgrounded := h.grounded.load h.wired.faults feed
  have hload := loaded_load h.grounded h.wired.faults feed
  generalize c.load feed = result at hgrounded hload
  cases hload with
  | failed => exact ⟨h.settings, h.wired, hgrounded⟩
  | drawn hd hv hs hplan =>
    exact ⟨h.settings, Plan.wired_drawn hplan c.width h.wired.faults h.wired.coherent, hgrounded⟩

theorem Standing.torn :
    { c with panes := c.panes.teardown, router := .empty, loaded := none }.Standing settings :=
  ⟨h.settings, Panes.wired_teardown h.wired, .inl ⟨rfl, rfl, rfl⟩⟩

theorem Standing.step {feed : Feed} {c' : Chart} (hstep : c.Step feed c') :
    c'.Standing settings := by
  cases hstep with
  | idle => exact h
  | move hm => exact h.change (Panes.Change.ne_synchronize hm)
  | resize width =>
    obtain ⟨hsettings, hwired, hgrounded⟩ := h.change (m := .resize width) (by simp)
    exact ⟨hsettings, hwired, hgrounded⟩
  | frame => exact ⟨h.settings, h.wired.onFrame, h.grounded.onFrame h.wired⟩
  | load => exact h.load feed
  | refresh => exact h.torn.load feed

end

theorem standing_history (settings : Settings) (feed : Feed) (happenings : List Happening) :
    (history settings feed happenings).Standing settings := by
  induction happenings using List.reverseRecOn with
  | nil => exact ⟨rfl, ⟨rfl, List.nodup_nil, by simp [history, new], by simp [history, new], rfl⟩,
      .inl ⟨rfl, rfl, rfl⟩⟩
  | append_singleton happenings e ih =>
    rw [history, List.foldl_append, List.foldl_cons, List.foldl_nil, ← history]
    cases e with
    | event e => exact ih.step (after_step feed _ e)
    | reject i on => exact ih.change (m := .reject i on) (by simp)

/-- Whatever happened before, a load fails exactly if there is no document to load or a main view is
there already, and a load that fails changes nothing that is shown. -/
theorem load_atomic (settings : Settings) (feed : Feed) (happenings : List Happening)
    (delivery : Delivery) :
    let c := history settings feed happenings
    let after := c.load fun _ => delivery
    ((∃ f, after.2 = .error f) ↔
        (∃ f, delivery.document = .error f) ∨ mainPane ∈ c.panes.names) ∧
      ((∃ f, after.2 = .error f) → after.1.panes = c.panes ∧ after.1.router = c.router ∧
        after.1.loaded = c.loaded ∧ after.1.width = c.width) := by
  intro c after
  have h : c.Standing settings := standing_history settings feed happenings
  have hload : c.Loaded (fun _ => delivery) after := loaded_load h.grounded h.wired.faults _
  clear_value after
  cases hload with
  | failed cause => exact ⟨⟨fun _ => cause, fun _ => ⟨_, rfl⟩⟩, fun _ => ⟨rfl, rfl, rfl, rfl⟩⟩
  | drawn hd hv hs hplan => simp [hd, Panes.names, hv]

end Chart

/-! ## Views without their serials -/

namespace View

/-- The view without the number that tells it from the views made before it. -/
def unnumbered (v : View) : View := { v with serial := 0 }

theorem look_unnumbered : Look unnumbered where
  resubscribe := by
    intro v i
    obtain ⟨name, container, canvas, subscription, serial⟩ := v
    cases subscription <;> rfl
  fit := by
    intro v faults s
    have hattempt : v.unnumbered.attempt faults .fit (·.fitContent s) =
        v.attempt faults .fit (·.fitContent s) := rfl
    rw [View.fit, hattempt, View.fit]
    cases v.attempt faults .fit (·.fitContent s) <;> rfl

/-- On a wired view, giving up the listener before the canvas is removed makes no difference. -/
theorem WiredAs.remove_unsubscribe {i : Nat} {v : View} (h : v.WiredAs i) :
    v.unsubscribe.canvas.remove = v.canvas.remove := by
  unfold View.unsubscribe
  split
  · rfl
  · simp [Canvas.remove, Canvas.unsubscribe, h.dispatching]

end View

namespace Panes

/-- The panes without what they remember of earlier views. -/
def unnumbered (p : Panes) : Panes where
  views := p.views.map View.unnumbered
  sync := p.sync
  faults := p.faults

theorem unnumbered_synchronize (p : Panes) :
    p.synchronize.unnumbered = p.unnumbered.synchronize :=
  congrArg (fun q => { views := q.views, sync := q.sync, faults := q.faults : Panes })
    (mapViews_synchronize View.look_unnumbered p)

theorem unnumbered_fitAll (p : Panes) :
    (p.change .fitAll).unnumbered = p.unnumbered.change .fitAll := by
  simp only [change, fitContent, unnumbered, fitViews_map View.look_unnumbered]

end Panes

/-! ## Drawing on what others left -/

theorem unnumbered_frames (plan : Plan) (width serial serial' : Nat) :
    (plan.frames width serial).map View.unnumbered =
      (plan.frames width serial').map View.unnumbered := by
  have haux : ∀ serial serial', (auxiliaryFrames width serial plan.layout.auxiliary).map
      View.unnumbered = (auxiliaryFrames width serial' plan.layout.auxiliary).map
        View.unnumbered := by
    intro serial serial'
    refine List.ext_getElem? fun i => ?_
    simp [auxiliaryFrames, Option.map_map, Function.comp_def, View.blank, View.unnumbered]
  simp [Plan.frames, haux (serial + 1) (serial' + 1), View.blank, View.unnumbered]

namespace Plan

/-- But for the serials, what a plan draws does not depend on the views there were before. -/
theorem unnumbered_drawn (plan : Plan) (width : Nat) {p p' : Panes} (hs : p.sync = p'.sync)
    (hf : p.faults = p'.faults) :
    (plan.drawn width p).unnumbered = (plan.drawn width p').unnumbered := by
  have hviews : ∀ q : Panes, (plan.filled width q).views.map View.unnumbered =
      ((plan.frames width q.made).map View.unnumbered).map fun u =>
        u.holding (content plan.candles plan.series.entries u.name) := by
    intro q
    simp only [filled, Panes.filled, List.map_map]
    rfl
  have hfilled : (plan.filled width p).unnumbered = (plan.filled width p').unnumbered := by
    rw [Panes.unnumbered, Panes.unnumbered, hviews, hviews,
      unnumbered_frames plan width p.made p'.made]
    simp only [filled, Panes.filled, hs, hf]
  rw [drawn, drawn, Panes.unnumbered_fitAll, Panes.unnumbered_fitAll, Panes.unnumbered_synchronize,
    Panes.unnumbered_synchronize, hfilled]

end Plan

/-! ## Starting over -/

namespace Chart

/-- Nothing has been drawn on the chart, or it has all been taken away. -/
structure Bare (c : Chart) : Prop where
  views : c.panes.views = []
  sync : c.panes.sync = {}
  faults : c.panes.faults = []
  router : c.router = .empty
  loaded : c.loaded = none

/-- The charts show the same, though their views may have been made at different times. -/
structure LooksLike (c c' : Chart) : Prop where
  settings : c.settings = c'.settings
  width : c.width = c'.width
  router : c.router = c'.router
  loaded : c.loaded = c'.loaded
  /-- The views with all that is on them, and the window that waits. -/
  panes : c.panes.unnumbered = c'.panes.unnumbered
  living : c.panes.living.map View.unnumbered = c'.panes.living.map View.unnumbered

theorem living_of_bare {c : Chart} (h : c.Bare) : c.panes.living = [] := by
  simp [Panes.living, h.views]

/-- Charts with nothing on them load alike. -/
theorem load_of_bare {c c' : Chart} (h : c.Bare) (h' : c'.Bare) (hs : c.settings = c'.settings)
    (hw : c.width = c'.width) (delivery : Delivery) :
    (c.load fun _ => delivery).2 = (c'.load fun _ => delivery).2 ∧
      (c.load fun _ => delivery).1.LooksLike (c'.load fun _ => delivery).1 := by
  cases hd : delivery.document with
  | error f =>
    rw [load_of_error (c := c) hd, load_of_error (c := c') hd]
    refine ⟨rfl, hs, hw, h.router.trans h'.router.symm, h.loaded.trans h'.loaded.symm, ?_, ?_⟩
    · simp only [Panes.unnumbered, h.views, h'.views, h.sync, h'.sync, h.faults, h'.faults]
    · rw [living_of_bare h, living_of_bare h']
  | ok document =>
    have hcoherent : ∀ c : Chart, c.Bare → c.panes.sync.Coherent := fun c h => by rw [h.sync]; rfl
    have hempty : ∀ c : Chart, c.Bare → c.router.entries = [] := fun c h => by rw [h.router]; rfl
    let feed : Feed := fun _ => delivery
    have hfeed : ∀ c : Chart, (feed c.loads).document = .ok document := fun _ => hd
    obtain ⟨r, hload, hr⟩ := load_of_empty h.views h.faults (hempty c h) (hfeed c)
    obtain ⟨r', hload', hr'⟩ := load_of_empty h'.views h'.faults (hempty c' h') (hfeed c')
    have hplan := Plan.placed_build c.settings
      (delivery.overrides document.metadata.strategyName) document
    have hdrawn := Plan.unnumbered_drawn (Plan.build c.settings
      (delivery.overrides document.metadata.strategyName) document) c.width
      (h.sync.trans h'.sync.symm) (h.faults.trans h'.faults.symm)
    rw [← hs] at hload' hr'
    rw [← hw] at hload'
    rw [hload, hload']
    refine ⟨rfl, rfl, rfl, KeyMap.ext (hr.trans hr'.symm), rfl, hdrawn, ?_⟩
    rw [(Plan.arranged_drawn hplan c.width h.faults (hcoherent c h)).living_eq,
      (Plan.arranged_drawn hplan c.width h'.faults (hcoherent c' h')).living_eq]
    exact congrArg Panes.views hdrawn

theorem resize_new (settings : Settings) (width : Nat) :
    (Chart.new settings).resize width = { Chart.new settings with width } := by
  unfold resize
  split
  · next h => rw [h]
  · rfl

/-- A load leaves the canvases alone that were closed before. -/
theorem closed_load_of_bare {c : Chart} (h : c.Bare) (feed : Feed) :
    (c.load feed).1.panes.closed = c.panes.closed := by
  have hload := loaded_load (.inl ⟨h.views, h.sync, by rw [h.router]; rfl⟩) h.faults feed
  generalize c.load feed = result at hload
  cases hload <;> rfl

/-- Whatever happened before, a refresh gives what a new chart of the same width makes of the same
delivery. Every canvas there was is removed with all it held, and if there is no document nothing is
left. -/
theorem refresh_eq_first (settings : Settings) (feed : Feed) (happenings : List Happening)
    (delivery : Delivery) :
    let c := history settings feed happenings
    let refreshed := c.refresh fun _ => delivery
    let first := ((Chart.new settings).resize c.width).load fun _ => delivery
    refreshed.2 = first.2 ∧ refreshed.1.LooksLike first.1 ∧
      refreshed.1.panes.closed = c.panes.closed ++ c.panes.views.map (fun v =>
        { v.canvas with removed := true, series := [], listeners := [] }) ∧
      ∀ f, delivery.document = .error f → ∀ chart ∈ [refreshed.1, first.1],
        chart.panes.views = [] ∧ chart.router = .empty ∧ chart.loaded = none := by
  intro c refreshed first
  have h : c.Standing settings := standing_history settings feed happenings
  let torn : Chart := { c with panes := c.panes.teardown, router := .empty, loaded := none }
  have htorn : torn.Bare := ⟨rfl, rfl, h.wired.faults, rfl, rfl⟩
  have hnew : ((Chart.new settings).resize c.width).Bare := by
    rw [resize_new]
    exact ⟨rfl, rfl, rfl, rfl, rfl⟩
  obtain ⟨hresult, hlooks⟩ := load_of_bare htorn hnew
    (by rw [resize_new]; exact h.settings) (by rw [resize_new]) delivery
  refine ⟨hresult, hlooks, ?_, fun f hd => ?_⟩
  · have hclosed : refreshed.1.panes.closed = c.panes.teardown.closed :=
      closed_load_of_bare htorn fun _ => delivery
    rw [hclosed]
    refine congrArg (c.panes.closed ++ ·) (List.map_congr_left fun v hv => ?_)
    obtain ⟨i, hi⟩ := List.mem_iff_getElem?.1 hv
    exact (h.wired.views i v hi).remove_unsubscribe
  · have hrefreshed : refreshed = _ := load_of_error (c := torn) hd
    have hfirst : first = _ := load_of_error (c := (Chart.new settings).resize c.width) hd
    simp only [hrefreshed, hfirst, List.forall_mem_cons, List.not_mem_nil, false_imp_iff,
      implies_true, and_true]
    exact ⟨⟨rfl, rfl, rfl⟩, hnew.views, hnew.router, hnew.loaded⟩

end Chart

end MarketChart
