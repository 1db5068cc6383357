import Mathlib.Data.Int.Interval
import MarketChart.Proofs.Fitting
import MarketChart.Proofs.PaneOrder
import MarketChart.Proofs.DoubleSums
import MarketChart.Proofs.StreamRereading

/-!
# Keys never turn a window around

Whatever keys are pressed, every window keeps its left edge left of its right edge, and zooming
keeps the right edge of the pane in focus (`Dashboard.upright_under_keys`).

The danger is in the left edge, which may become infinite when a window is zoomed out often enough.
All goes well as long as the right edge stays finite: then a zoom subtracts a number from it that is
at least two, whatever the span has become, and a pan adds the same to both edges. That the right
edge stays finite is a matter of rounding. It starts at a number of bars, of which there are at most
`2 ^ 64` because their times are words, and from there ten bars are too few to be added
(`Number.rounded_reach_add_ten`). So no number of pans takes it further.

A frame passes on a window that is on view elsewhere, so it is enough that every window on view is
upright (`View.Upright`).
-/

namespace MarketChart

open Number

/-! ## Windows -/

namespace Number

theorem magnitude_add_left (m n : Nat) (e : Int) :
    magnitude (m + n) e = magnitude m e + magnitude n e := Nat.add_mul ..

theorem magnitude_mono {m n : Nat} (h : m ≤ n) (e : Int) : magnitude m e ≤ magnitude n e :=
  Nat.mul_le_mul_right _ h

theorem rounded_magnitude (n : Nat) (e : Int) :
    rounded (magnitude n e) = (min (magnitude (nearest n) e) overflow : Nat) :=
  rounded_mul_two_pow n _

/-- The units in `2 ^ 64`. -/
@[irreducible] def reach : Nat := magnitude (2 ^ 64) 0

theorem reach_eq : reach = magnitude (2 ^ 64) 0 := by
  unfold reach
  rfl

theorem reach_lt_overflow : reach < overflow := by
  have hpow : 2 ^ 64 = 2 ^ 52 * 2 ^ 12 := by decide
  rw [reach_eq, hpow, ← magnitude_add _ (by decide)]
  exact magnitude_lt_overflow (by decide) (by decide) (by decide)

theorem units_ten : units 10.0 = magnitude 10 0 := by
  have hunpack : (10.0 : Float).toModel.unpack =
    .finite .positive (10 * 2 ^ 49) (-49) (by decide) := rfl
  have hzero : (-49 + (49 : Nat) : Int) = 0 := by decide
  rw [units, hunpack, unitsOf, ← magnitude_add 10 (by decide) 49, hzero]
  rfl

/-- Ten is too little to be added to `2 ^ 64`. -/
theorem rounded_reach_add_ten : rounded (reach + units 10.0) = reach := by
  have hnearest : nearest (2 ^ 64 + 10) = 2 ^ 64 :=
    (nearest_mul_add (m := 2 ^ 52) (k := 12) (r := 10) le_rfl (by decide) (by decide)).trans rfl
  have hle := reach_lt_overflow.le
  rw [reach_eq] at hle ⊢
  rw [units_ten, ← Int.natCast_add, ← magnitude_add_left, rounded_magnitude, hnearest,
    min_eq_left hle]

/-- What lies within ten of `2 ^ 64` is not rounded beyond it. -/
theorem abs_rounded_le_reach {n : ℤ} (h : |n| ≤ reach + units 10.0) : |rounded n| ≤ reach := by
  obtain ⟨hlow, hhigh⟩ := abs_le.1 h
  have hle := rounded_mono hhigh
  have hge := rounded_mono hlow
  rw [rounded_neg, rounded_reach_add_ten] at hge
  rw [rounded_reach_add_ten] at hle
  exact abs_le.2 ⟨hge, hle⟩

end Number

namespace Window

/-- The edges are in order, and the right one is at most `2 ^ 64` bars from zero. The left one may
be infinitely far away. -/
structure Upright (w : Window) : Prop where
  le : w.left ≤ w.right
  near : |units w.right| ≤ reach

section

variable {w : Window} (h : w.Upright)

include h

theorem Upright.number : w.left.isNaN = false ∧ w.right.isNaN = false := isNaN_of_le h.le

theorem Upright.isFinite : w.right.isFinite = true := by
  have hnear := abs_le.1 h.near
  have hlt := reach_lt_overflow
  exact (isFinite_iff_units h.number.2).2 (by omega)

/-- Moving a window by at most ten bars keeps it upright. -/
theorem Upright.shifted {bars : Float} (hlow : -10.0 ≤ bars) (hhigh : bars ≤ 10.0) :
    (w.shifted bars).Upright := by
  have hnumber := (isNaN_of_le hhigh).1
  have hten : (10.0 : Float).isFinite = true := by decide
  have htenUnits := (isFinite_iff_units rfl).1 hten
  rw [le_iff_units (isNaN_neg 10.0) hnumber, units_neg] at hlow
  rw [le_iff_units hnumber rfl] at hhigh
  have hbars : bars.isFinite = true := (isFinite_iff_units hnumber).2 (by omega)
  have hnear := abs_le.1 h.near
  refine ⟨(add_le_add_right h.number.1 h.isFinite hbars h.le).2, ?_⟩
  rw [Window.shifted, (rounds_add h.isFinite hbars).units]
  exact abs_rounded_le_reach (abs_le.2 (by omega))

/-- Zooming keeps a window upright: whatever the span comes to, no fewer than two bars are taken
from the right edge to find the left one. -/
theorem Upright.zoomed (factor : Float) : (w.zoomed factor).Upright := by
  have htwo : 0 ≤ units 2.0 := (le_iff_units (x := 0.0) rfl rfl).1 (by decide)
  obtain ⟨hspan, hle⟩ := le_larger (w.span * factor) (y := 2.0) rfl
  exact ⟨(sub_le_self h.isFinite hspan (htwo.trans hle)).2, h.near⟩

end

/-- The window of all bars is upright if the bars can be counted by a word. -/
theorem upright_ofBars {bars : Nat} (h : bars ≤ 2 ^ 64) : (ofBars bars).Upright := by
  have hround := rounds_ofNat (bars - 1)
  have hten : 0 ≤ units 10.0 := (le_iff_units (x := 0.0) rfl rfl).1 (by decide)
  have hbars : magnitude (bars - 1) 0 ≤ reach := by
    rw [reach_eq]
    exact magnitude_mono (by omega) 0
  constructor
  · have hright : 0 ≤ units (Float.ofNat (bars - 1)) := by
      rw [hround.units, rounded_natCast]
      exact Int.natCast_nonneg _
    exact (le_iff_units (x := 0.0) rfl hround.number).2 hright
  · have hnear : |rounded (magnitude (bars - 1) 0)| ≤ reach :=
      abs_rounded_le_reach (abs_le.2 (by omega))
    rwa [← hround.units] at hnear

end Window

/-! ## Axes -/

/-- An axis has at most as many bars as there are words. -/
theorem length_le_of_inWord {axis : List Int} (haxis : axis.Pairwise (· < ·))
    (h : ∀ t ∈ axis, RenderPoint.InWord t) : axis.length ≤ 2 ^ 64 := by
  have hnodup : axis.Nodup := haxis.imp fun hlt => hlt.ne
  have hsub : axis.toFinset ⊆ Finset.Ico (-(2 ^ 63)) (2 ^ 63) := fun t ht =>
    Finset.mem_Ico.2 (h t (List.mem_toFinset.1 ht))
  calc axis.length = axis.toFinset.card := (List.toFinset_card_of_nodup hnodup).symm
    _ ≤ (Finset.Ico (-(2 ^ 63) : Int) (2 ^ 63)).card := Finset.card_le_card hsub
    _ = 2 ^ 64 := by rw [Int.card_Ico]; decide

/-- The times of the samples are 64-bit words, which is how they are read. Those of the candles are
brought into that range. -/
def ChartDocument.InWords (document : ChartDocument) : Prop :=
  ∀ e ∈ document.indicators.entries, ∀ s ∈ e.2.data, RenderPoint.InWord s.time

theorem inWord_clampWord (n : Int) : RenderPoint.InWord (clampWord n) := by
  unfold RenderPoint.InWord clampWord
  omega

theorem RawCandle.inWord_seconds? {r : RawCandle} {t : Int} (h : r.seconds? = some t) :
    RenderPoint.InWord t := by
  unfold seconds? at h
  split at h
  · obtain rfl := Option.some.inj h
    exact inWord_clampWord _
  · obtain ⟨s, -, rfl⟩ := Option.map_eq_some_iff.1 h
    exact inWord_clampWord _

theorem inWord_of_mem_sanitize {raw : List RawCandle} {c : Candle} (h : c ∈ sanitize raw) :
    RenderPoint.InWord c.time := by
  obtain ⟨r, -, hr⟩ := List.mem_filterMap.1 h
  obtain ⟨p, -, hr⟩ := Option.bind_eq_some_iff.1 hr
  obtain ⟨t, ht, hr⟩ := Option.bind_eq_some_iff.1 hr
  obtain rfl := Option.some.inj hr
  exact RawCandle.inWord_seconds? ht

/-- The axes of a document of words have at most `2 ^ 64` bars. -/
theorem ChartDocument.InWords.length_timeScale {document : ChartDocument} (h : document.InWords)
    (settings : Settings) (overrides : Option Overrides) {width : Nat} {p : Panes}
    (hf : p.faults = []) (hc : p.sync.Coherent) {v : View}
    (hv : v ∈ ((Plan.build settings overrides document).drawn width p).views) :
    v.canvas.timeScale.length ≤ 2 ^ 64 := by
  refine length_le_of_inWord (Canvas.pairwise_timeScale _) fun t ht => ?_
  rcases (mem_timeScale_drawn settings overrides document hf hc hv).1 ht with ⟨-, ht⟩ | ht
  · obtain ⟨c, hcandle, rfl⟩ := List.mem_map.1 ht
    exact inWord_of_mem_sanitize (List.mem_mergeSort.1 hcandle)
  · obtain ⟨e, he, -, k, s, hs, -, rfl⟩ := ht
    have hword := h e he s (List.mem_of_getElem? hs)
    unfold RenderPoint.InWord at hword ⊢
    omega

/-! ## Views -/

namespace View

/-- The window of the view is upright, and so is the one that fits its content. -/
structure Upright (v : View) : Prop where
  axis : v.canvas.timeScale.length ≤ 2 ^ 64
  window : ∀ w, v.canvas.window = some w → w.Upright

section

variable {v : View} (h : v.Upright)

include h

theorem Upright.setTo {w : Window} (hw : w.Upright) : (v.setTo w).Upright := by
  unfold View.setTo
  split
  · exact h
  · exact ⟨h.axis, fun _ hmoved => Option.some.inj hmoved ▸ hw⟩

theorem Upright.fitted : v.fitted.Upright := by
  unfold View.fitted Canvas.fitWindow?
  split
  · exact h
  · next w hw =>
    obtain rfl : Window.ofBars v.canvas.timeScale.length = w := by
      split at hw
      · cases hw
      · exact Option.some.inj hw
    exact ⟨h.axis, fun _ hshown => Option.some.inj hshown ▸ Window.upright_ofBars h.axis⟩

theorem Upright.resize (faults : List Fault) (width : Nat) : (v.resize faults width).Upright := by
  obtain ⟨w, hw⟩ := resize_eq v faults width
  rw [hw]
  exact ⟨h.axis, h.window⟩

end

end View

namespace Panes

/-- All views are upright. -/
def Upright (p : Panes) : Prop := ∀ v ∈ p.views, v.Upright

section

variable {p : Panes} (hp : p.InStep) (h : p.Upright)

include hp h

/-- A change keeps views upright if the window that it sets on one of them is. -/
theorem Upright.change {c : Change} (hc : c.isMove = true)
    (hw : ∀ i w, c = .setWindow i w ∨ c = .scroll i w → w.Upright) : (p.change c).Upright := by
  intro u hu
  obtain ⟨v, hv, hvu⟩ := (alike_change hp.wired (Change.ne_synchronize hc)).of_mem hu
  have hupright := h v hv
  cases hvu with
  | same => exact hupright
  | set i w => exact hupright.setTo (hw i w (.inl rfl))
  | scroll i w => exact hupright.setTo (hw i w (.inr rfl))
  | fit i => exact hupright.fitted
  | fitAll => exact hupright.fitted
  | reject i on => simp [Change.isMove] at hc
  | resize width => exact hupright.resize _ width

/-- A frame passes on a window that is on view. -/
theorem Upright.onFrame : p.onFrame.1.Upright := by
  cases hq : p.sync.pending with
  | none =>
    rw [onFrame_of_idle hq]
    exact h
  | some q =>
    obtain ⟨x, hx, hxw, -⟩ := hp.shown q hq
    have hwindow := (h x (List.mem_of_getElem? hx)).window q.window hxw
    intro u hu
    rw [onFrame_of_pending hp.wired hq] at hu
    obtain ⟨i, hi, rfl⟩ := List.mem_mapIdx.1 hu
    have hupright := h p.views[i] (List.getElem_mem hi)
    split
    · exact hupright
    · exact hupright.setTo hwindow

end

end Panes

/-- A document of words is drawn on upright views. -/
theorem Plan.upright_drawn {document : ChartDocument} (h : document.InWords) (settings : Settings)
    (overrides : Option Overrides) (width : Nat) {p : Panes} (hf : p.faults = [])
    (hs : p.sync = {}) : ((Plan.build settings overrides document).drawn width p).Upright := by
  have hc : p.sync.Coherent := by rw [hs]; rfl
  have hwired := (wired_filled (Plan.placed_build settings overrides document) width hf hc
    id).synchronize
  intro v hv
  have haxis := h.length_timeScale settings overrides hf hc hv
  -- The view before the fit has no window yet, and the axis that it has after it.
  rw [drawn, Panes.change_fitAll hwired] at hv
  obtain ⟨u, hu, rfl⟩ := List.mem_map.1 hv
  have hscale : u.fitted.canvas.timeScale = u.canvas.timeScale := by
    rw [Canvas.timeScale, (View.sameDrawing_fitted u).series]
    rfl
  refine View.Upright.fitted ⟨hscale ▸ haxis, fun w hw => ?_⟩
  rw [(fresh_of_mem_filled hu).2.2] at hw
  cases hw

/-! ## Charts -/

/-- Every document of the feed has times that are words. -/
def Feed.InWords (feed : Feed) : Prop :=
  ∀ n document, (feed n).document = .ok document → document.InWords

namespace Chart

/-- The event moves windows by at most ten bars at a time, and no user scrolls. -/
def Event.IsGentle : Event → Prop
  | .pan _ bars => -10.0 ≤ bars ∧ bars ≤ 10.0
  | .scroll .. => False
  | _ => True

/-- Changing the window of a pane that is there sets it on the view of that name. -/
theorem updateWindow_of_window {c : Chart} {pane : String} {i : Nat} {v : View} {w : Window}
    (hv : c.panes.view? pane = some v) (hi : c.panes.views[i]? = some v)
    (hw : v.canvas.window = some w) (f : Window → Window) :
    (c.updateWindow pane f).1 = { c with panes := c.panes.change (.setWindow i (f w)) } := by
  simp only [updateWindow, hv, hw, Panes.change, Panes.onView, hi, Panes.settle]
  cases c.panes.setWindow v (f w) <;> rfl

section

variable {c : Chart} (hc : c.InStep) (h : c.panes.Upright)

include hc h

theorem upright_updateWindow (pane : String) {f : Window → Window}
    (hf : ∀ w, w.Upright → (f w).Upright) : (c.updateWindow pane f).1.panes.Upright := by
  cases hv : c.panes.view? pane with
  | none =>
    rw [updateWindow, hv]
    exact h
  | some v =>
    have hmem := List.mem_of_find?_eq_some hv
    cases hw : v.canvas.window with
    | none =>
      simp only [updateWindow, hv, hw]
      exact h
    | some w =>
      obtain ⟨i, hi⟩ := List.mem_iff_getElem?.1 hmem
      rw [updateWindow_of_window hv hi hw f]
      refine Panes.Upright.change hc.panes h rfl fun j w' hset => ?_
      obtain rfl : f w = w' := by
        rcases hset with hset | hset <;> cases hset
        rfl
      exact hf w ((h v hmem).window w hw)

variable {feed : Feed} (hfeed : feed.InWords)

include hfeed

theorem upright_load : (c.load feed).1.panes.Upright := by
  cases hd : (feed c.loads).document with
  | error f =>
    rw [load_of_error hd]
    exact h
  | ok document =>
    rcases hc.main with ⟨hv, hs, hr⟩ | hmain
    · obtain ⟨r, hload, -⟩ := load_of_empty hv hc.panes.wired.faults hr hd
      rw [hload]
      exact Plan.upright_drawn (hfeed _ _ hd) _ _ _ hc.panes.wired.faults hs
    · rw [load_of_main hmain hd]
      exact h

/-- What is gentle keeps all views upright. -/
theorem upright_after {e : Event} (he : e.IsGentle) : (c.after feed e).panes.Upright := by
  cases e with
  | load => exact upright_load hc h hfeed
  | refresh =>
    have htorn : { c with panes := c.panes.teardown, router := .empty, loaded := none }.InStep :=
      ⟨.of_empty rfl hc.panes.wired.faults rfl, .inl ⟨rfl, rfl, rfl⟩⟩
    exact upright_load htorn (fun v hv => absurd hv List.not_mem_nil) hfeed
  | frame => exact Panes.Upright.onFrame hc.panes h
  | resize width =>
    simp only [after, Chart.resize]
    split
    · exact h
    · exact Panes.Upright.change hc.panes h (c := .resize width) rfl (by simp)
  | fit => exact Panes.Upright.change hc.panes h (c := .fitAll) rfl (by simp)
  | pan pane bars =>
    exact upright_updateWindow hc h pane fun w hw => hw.shifted he.1 he.2
  | zoom pane factor => exact upright_updateWindow hc h pane fun w hw => hw.zoomed factor
  | scroll i w => exact he.elim

end

end Chart

/-! ## Dashboards -/

namespace Dashboard

theorem pan_of_ofKey {k : Key} {bars : Float} (h : Action.ofKey k = some (.pan bars)) :
    -10.0 ≤ bars ∧ bars ≤ 10.0 := by
  unfold Action.ofKey at h
  split at h <;> cases h <;> decide

/-- What the terminal reports is at most one gentle event of the chart. -/
theorem chart_step (feed : Feed) (d : Dashboard) (i : Input) :
    (d.step feed i).chart = d.chart ∨
      ∃ e : Chart.Event, e.IsGentle ∧ (d.step feed i).chart = d.chart.after feed e := by
  cases i with
  | tick => exact .inr ⟨.frame, trivial, rfl⟩
  | resize width => exact .inr ⟨.resize width, trivial, rfl⟩
  | key k =>
    rw [step]
    cases ha : Action.ofKey k with
    | none =>
      left
      simp only
      split <;> rfl
    | some a =>
      refine (chart_handle feed d a).imp id fun hcaused => ?_
      obtain ⟨e, hcauses, he⟩ := hcaused
      refine ⟨e, ?_, he⟩
      cases hcauses with
      | pan pane bars => exact pan_of_ofKey ha
      | zoom pane factor => trivial
      | fit => trivial
      | refresh => trivial

/-- A dashboard that has been loaded and then only heard from the terminal. -/
def attended (settings : Settings) (feed : Feed) (inputs : List Input) : Dashboard :=
  run feed { chart := .new settings } (.chart .load :: inputs.map .input)

theorem upright_attended (settings : Settings) {feed : Feed} (hfeed : feed.InWords)
    (inputs : List Input) : (attended settings feed inputs).chart.panes.Upright := by
  induction inputs using List.reverseRecOn with
  | nil =>
    exact Chart.upright_load (Chart.inStep_new settings) (fun v hv => absurd hv List.not_mem_nil)
      hfeed
  | append_singleton inputs i ih =>
    have hstep : attended settings feed (inputs ++ [i]) =
        (attended settings feed inputs).step feed i := by
      simp [attended, run, after]
    have hin : (attended settings feed inputs).chart.InStep := inStep_run settings feed _
    rw [hstep]
    rcases chart_step feed (attended settings feed inputs) i with he | ⟨e, hgentle, he⟩
    · exact he ▸ ih
    · exact he ▸ Chart.upright_after hin ih hfeed hgentle

theorem chart_onFocused_of_pane {d : Dashboard} {pane : String} (hpane : d.focusedPane = some pane)
    (f : Chart → String → Chart × Except Failure Unit) :
    (d.onFocused f).chart = (f d.chart pane).1 := by
  unfold onFocused
  rw [hpane]
  simp only
  split <;> simp [*]

/-- Zooming sets the zoomed window on the view in focus. -/
theorem window_zoom {d : Dashboard} (hin : d.chart.InStep) (hnames : d.chart.panes.names.Nodup)
    {v : View} {w : Window} (hv : d.chart.panes.views[d.focused]? = some v)
    (hw : v.canvas.window = some w) (factor : Float) :
    (d.zoom factor).focused = d.focused ∧ ∃ u,
      (d.zoom factor).chart.panes.views[d.focused]? = some u ∧
      u.canvas.window = some (w.zoomed factor) := by
  have hmem := List.mem_of_getElem? hv
  have hpane : d.focusedPane = some v.name := by simp [focusedPane, Panes.names, hv]
  have hview : d.chart.panes.view? v.name = some v := Panes.find?_name_of_mem hnames hmem
  have hset : (d.zoom factor).chart = _ :=
    (chart_onFocused_of_pane hpane _).trans
      (Chart.updateWindow_of_window hview hv hw (·.zoomed factor))
  refine ⟨focused_onFocused d _, v.setTo (w.zoomed factor), ?_, ?_⟩
  · rw [hset, Panes.change_window hin.panes.wired hv _ (.inl rfl)]
    simp [(List.getElem?_eq_some_iff.1 hv).1]
  · simp [View.setTo, hin.panes.taking v hmem, View.withCanvas, Canvas.moved]

/-- Whatever a dashboard hears from the terminal after it was loaded, every window has numbers for
edges and its left edge is not right of its right edge. A key that zooms leaves the right edge of
the pane in focus where it is; it zooms the window, unless it takes the question before quitting
back. -/
theorem upright_under_keys (settings : Settings) {feed : Feed} (hfeed : feed.InWords)
    (inputs : List Input) :
    let d := attended settings feed inputs
    (∀ v ∈ d.chart.panes.views, ∀ w, v.canvas.window = some w →
      w.left.isNaN = false ∧ w.right.isNaN = false ∧ w.left ≤ w.right) ∧
    ∀ k factor, Action.ofKey k = some (.zoom factor) →
      ∀ v w, d.chart.panes.views[d.focused]? = some v → v.canvas.window = some w →
        let zoomed := d.step feed (.key k)
        zoomed.focused = d.focused ∧ ∃ u w', zoomed.chart.panes.views[d.focused]? = some u ∧
          u.canvas.window = some w' ∧ w'.right = w.right ∧
          w' = if d.confirmQuit then w else w.zoomed factor := by
  intro d
  have hupright : d.chart.panes.Upright := upright_attended settings hfeed inputs
  have hin : d.chart.InStep := inStep_run settings feed _
  have hnames : d.chart.panes.names.Nodup := by
    obtain ⟨happenings, hchart⟩ := exists_history settings feed (.chart .load :: inputs.map .input)
    have harranged := Chart.arranged_history settings feed happenings
    rw [← hchart] at harranged
    exact harranged.panes.names
  refine ⟨fun v hv w hw => ?_, fun k factor hk v w hv hw => ?_⟩
  · have h := (hupright v hv).window w hw
    exact ⟨h.number.1, h.number.2, h.le⟩
  · intro zoomed
    have hzoomed : zoomed = d.handle feed (.zoom factor) := by
      simp only [zoomed, step, hk]
    cases hq : d.confirmQuit with
    | true =>
      have hsame : zoomed = d.cancelQuit := by simp [hzoomed, handle, hq]
      rw [hsame]
      exact ⟨rfl, v, w, hv, hw, rfl, rfl⟩
    | false =>
      have hzoom : zoomed = ({ d with status := none } : Dashboard).zoom factor := by
        simp [hzoomed, handle, hq]
      obtain ⟨hfocused, u, hu, huw⟩ :=
        window_zoom (d := { d with status := none }) hin hnames hv hw factor
      rw [hzoom]
      exact ⟨hfocused, u, _, hu, huw, rfl, rfl⟩

/-- The main pane has one bar. It is zoomed out and moved by ten bars, and the empty pane follows.
Zooming that one out then keeps its right edge. -/
theorem upright_under_keys_zoomed :
    let inputs := [.tick, .key (.char '-'), .key (.char 'L'), .key .tab, .tick]
    let d := attended {} bareFeed inputs
    bareFeed.InWords ∧ d.focused = 1 ∧
      d.chart.panes.views.map (·.canvas.window) = [some ⟨8.0, 10.0⟩, some ⟨8.0, 10.0⟩] ∧
      (∀ v ∈ d.chart.panes.views, ∀ w, v.canvas.window = some w → w.left ≤ w.right) ∧
      ∃ u, (d.step bareFeed (.key (.char '-'))).chart.panes.views[1]? = some u ∧
        u.canvas.window = some ⟨7.5, 10.0⟩ := by
  intro inputs d
  have hfeed : bareFeed.InWords := by
    intro n document hd
    have hsame : (bareFeed n).document = .ok (.ofSamples [{ time := 0 }]) := by cases n <;> rfl
    obtain rfl : .ofSamples [{ time := 0 }] = document := Except.ok.inj (hsame.symm.trans hd)
    intro e he s hs
    obtain rfl := List.mem_singleton.1 he
    obtain rfl := List.mem_singleton.1 hs
    unfold RenderPoint.InWord
    decide
  have hfocused : d.focused = 1 := by decide +kernel
  have hwindows : d.chart.panes.views.map (·.canvas.window) =
      [some ⟨8.0, 10.0⟩, some ⟨8.0, 10.0⟩] := by decide +kernel
  have hasked : d.confirmQuit = false := by decide +kernel
  obtain ⟨v, hv, hw⟩ : ∃ v, d.chart.panes.views[1]? = some v ∧
      v.canvas.window = some ⟨8.0, 10.0⟩ :=
    Option.map_eq_some_iff.1 (List.getElem?_map.symm.trans (congrArg (·[1]?) hwindows))
  obtain ⟨hordered, hzoom⟩ := upright_under_keys {} hfeed inputs
  rw [← hfocused] at hv
  obtain ⟨-, u, w', hu, huw, -, hw'⟩ := hzoom (.char '-') 1.25 rfl v _ hv hw
  obtain rfl : w' = ⟨7.5, 10.0⟩ := by
    rw [hw', show (attended {} bareFeed inputs).confirmQuit = false from hasked]
    decide
  rw [show (attended {} bareFeed inputs).focused = 1 from hfocused] at hu
  exact ⟨hfeed, hfocused, hwindows, fun v hv w hw => (hordered v hv w hw).2.2, u, hu, huw⟩

end Dashboard

end MarketChart
