import MarketChart.Chart.Stage
import MarketChart.Proofs.PaneRuns
import MarketChart.Proofs.SeriesIds

/-!
# Every indicator has one series

The router knows an indicator by a handle, a pane and an id on its canvas. As long as series are
only made by routing and only removed by moving them, handles and series correspond one to one
(`Stage.Reachable.matched`): no handle is left without its series, no series without its key, and no
two keys share a series. So a series that is to be moved is always found, and moving it cannot fail.

The proof carries the correspondence as an invariant (`Stage.Matched`). Adding a series to a pane
and entering its handle is one step of it, and taking a series away together with its handle is
another; moving a series is the second step followed by the first.
-/

namespace MarketChart

attribute [ext] Handle

/-! ## Where the lines and histograms stand -/

namespace Panes

/-- A line or a histogram stands under a handle. -/
def Plots (p : Panes) (handle : Handle) : Prop :=
  ∃ v ∈ p.views, v.name = handle.pane ∧ handle.id ∈ v.canvas.plotIds

/-- Panes in which a pane and an id name one series at most. -/
structure Stocked (p : Panes) : Prop where
  reachable : p.Reachable
  names : p.names.Nodup
  there : ∀ v ∈ p.views, v.canvas.removed = false
  numbered : ∀ v ∈ p.views, v.canvas.Numbered

theorem Reachable.exists_wired {p : Panes} (h : p.Reachable) : ∃ n, p.Wired n :=
  h.wired.elim (fun hw => ⟨_, hw⟩) fun hw => ⟨_, hw.1⟩

theorem Reachable.faults {p : Panes} (h : p.Reachable) : p.faults = [] :=
  h.exists_wired.elim fun _ hw => hw.faults

section

variable {p : Panes} (h : p.Stocked)

include h

/-- What stands on a pane stands on the canvas of its view. -/
theorem Stocked.plots_iff {v : View} (hv : v ∈ p.views) {handle : Handle}
    (hpane : handle.pane = v.name) : p.Plots handle ↔ handle.id ∈ v.canvas.plotIds := by
  constructor
  · rintro ⟨x, hx, hname, hid⟩
    rwa [← List.inj_on_of_nodup_map h.names hx hv (hname.trans hpane)]
  · exact fun hid => ⟨v, hv, hpane.symm, hid⟩

/-- An operation on the series of one view changes what stands on its pane, and nothing else. -/
theorem Stocked.put {v u : View} (hv : v ∈ p.views) {ids : List Nat} (hu : v.Restocks u ids)
    (hreach : (p.put u).Reachable) : (p.put u).Stocked ∧ ∀ handle, (p.put u).Plots handle ↔
      if handle.pane = v.name then handle.id ∈ ids else p.Plots handle := by
  obtain ⟨n, hwired⟩ := h.reachable.exists_wired
  have hnames : (p.put u).names = p.names :=
    (hwired.put hv hu.steady.keeps).1.map_eq fun _ _ hk => hk.name
  have hmem := fun x => hwired.mem_put (x := x) hv hu.steady.serial
  have hstocked : (p.put u).Stocked := by
    refine ⟨hreach, hnames ▸ h.names, fun x hx => ?_, fun x hx => ?_⟩
    · rcases (hmem x).1 hx with rfl | ⟨-, hx⟩
      · exact hu.steady.removed.trans (h.there v hv)
      · exact h.there x hx
    · rcases (hmem x).1 hx with rfl | ⟨-, hx⟩
      · exact hu.numbered (h.numbered v hv)
      · exact h.numbered x hx
  refine ⟨hstocked, fun handle => ?_⟩
  split
  · next hpane =>
    rw [hstocked.plots_iff ((hmem u).2 (.inl rfl)) (hpane.trans hu.steady.name.symm), hu.plotIds]
  · next hpane =>
    refine exists_congr fun x => ?_
    rw [hmem]
    constructor
    · rintro ⟨rfl | ⟨-, hx⟩, hname, hid⟩
      · exact absurd (hname.symm.trans hu.steady.name) hpane
      · exact ⟨hx, hname, hid⟩
    · rintro ⟨hx, hname, hid⟩
      exact ⟨.inr ⟨fun he => hpane (he ▸ hname.symm), hx⟩, hname, hid⟩

/-- A new view brings no series with it. -/
theorem Stocked.add {p' : Panes} {name : String} {container : Container} {height : Nat}
    (hname : name ∉ p.names) (hreach : p'.Reachable)
    (hviews : p'.views.Perm (p.newView name container height :: p.views)) :
    p'.Stocked ∧ ∀ handle, p'.Plots handle ↔ p.Plots handle := by
  have hmem : ∀ x, x ∈ p'.views ↔ x = p.newView name container height ∨ x ∈ p.views := fun x =>
    hviews.mem_iff.trans List.mem_cons
  refine ⟨⟨hreach, ?_, fun x hx => ?_, fun x hx => ?_⟩, fun handle => ?_⟩
  · exact (hviews.map View.name).nodup_iff.2 (List.nodup_cons.2 ⟨hname, h.names⟩)
  · rcases (hmem x).1 hx with rfl | hx
    · rfl
    · exact h.there x hx
  · rcases (hmem x).1 hx with rfl | hx
    · exact ⟨List.nodup_nil, by simp [newView]⟩
    · exact h.numbered x hx
  · constructor
    · rintro ⟨x, hx, hpane, hid⟩
      rcases (hmem x).1 hx with rfl | hx
      · simp [Canvas.plotIds, newView] at hid
      · exact ⟨x, hx, hpane, hid⟩
    · rintro ⟨x, hx, hpane, hid⟩
      exact ⟨x, (hmem x).2 (.inr hx), hpane, hid⟩

end

end Panes

/-! ## Stages -/

namespace Stage

/-- The stages that some sequence of operations leads to, if a key is routed only while the router
does not have it. An operation that fails leaves the stage as it was. -/
inductive Reachable : Stage → Prop where
  | start : Reachable {}
  | createMain {s : Stage} {p : Panes} (container : Container) (height : Nat) :
    Reachable s → s.panes.createMain container height = .ok p → Reachable { s with panes := p }
  | createAuxiliary {s : Stage} {p : Panes} (name : String) (height : Nat) :
    Reachable s → s.panes.createAuxiliary name height = .ok p → Reachable { s with panes := p }
  | addCandles {s : Stage} {v : View} (style : CandleStyle) : Reachable s → v ∈ s.panes.views →
    Reachable { s with panes := (s.panes.perform v (.addSeries (.candlestick style))).1 }
  | setPoints {s : Stage} {v : View} (id : Nat) (points : List RenderPoint) :
    Reachable s → v ∈ s.panes.views →
    Reachable { s with panes := (s.panes.perform v (.setData id (.points points))).1 }
  | route {s : Stage} {r : Router} {p : Panes} {handle : Option Handle} (key : String)
    (config : SeriesConfig) : Reachable s → s.router.find? key = none →
    s.router.route s.panes key config = .ok (r, p, handle) → Reachable ⟨p, r⟩
  /-- Moves a series, or finds that there is none to move. -/
  | reroute {s : Stage} (key pane : String) (config : SeriesConfig) : Reachable s →
    Reachable ⟨(s.router.reroute s.panes key pane config).panes,
      (s.router.reroute s.panes key pane config).router⟩
  /-- Removes all views and clears the router. -/
  | clear {s : Stage} : Reachable s → Reachable ⟨s.panes.teardown, .empty⟩

/-- The handles of the router are the places of the lines and histograms, each for one key. -/
structure Matched (s : Stage) : Prop where
  panes : s.panes.Stocked
  plots : ∀ handle, (∃ key, s.router.find? key = some handle) ↔ s.panes.Plots handle
  injective : ∀ {key key' : String} {handle : Handle}, s.router.find? key = some handle →
    s.router.find? key' = some handle → key = key'

theorem matched_of_empty {p : Panes} (hreach : p.Reachable) (hv : p.views = []) :
    Matched ⟨p, .empty⟩ where
  panes := ⟨hreach, by simp [Panes.names, hv], by simp [hv], by simp [hv]⟩
  plots := fun handle => by simp [Panes.Plots, hv, KeyMap.find?, KeyMap.empty]
  injective := fun hkey => by simp [KeyMap.find?, KeyMap.empty] at hkey

section

variable {s : Stage} (h : s.Matched)

include h

/-- An operation that neither adds nor removes a line or a histogram. -/
theorem Matched.keep {p : Panes}
    (hp : p.Stocked ∧ ∀ handle, p.Plots handle ↔ s.panes.Plots handle) :
    Matched { s with panes := p } :=
  ⟨hp.1, fun handle => (h.plots handle).trans (hp.2 handle).symm, h.injective⟩

theorem Matched.keep_put {v u : View} (hv : v ∈ s.panes.views)
    (hu : v.Restocks u v.canvas.plotIds) (hreach : (s.panes.put u).Reachable) :
    Matched { s with panes := s.panes.put u } := by
  obtain ⟨hstocked, hplots⟩ := h.panes.put hv hu hreach
  refine h.keep ⟨hstocked, fun handle => (hplots handle).trans ?_⟩
  split
  · next hpane => exact (h.panes.plots_iff hv hpane).symm
  · rfl

/-- A new series comes with the handle of a new key. -/
theorem Matched.enter {p : Panes} {key : String} {new : Handle} (hkey : s.router.find? key = none)
    (hnew : ¬s.panes.Plots new) (hp : p.Stocked)
    (hplots : ∀ handle, p.Plots handle ↔ handle = new ∨ s.panes.Plots handle) :
    Matched ⟨p, s.router.insert key new⟩ := by
  have hfind : ∀ {k : String} {handle : Handle},
      (s.router.insert key new).find? k = some handle ↔
        k = key ∧ handle = new ∨ k ≠ key ∧ s.router.find? k = some handle := by
    intro k handle
    rw [KeyMap.find?_insert]
    split
    · next hk => simp [hk, eq_comm]
    · next hk => simp [hk]
  refine ⟨hp, fun handle => ?_, fun {k k' handle} hk hk' => ?_⟩
  · rw [hplots, ← h.plots]
    constructor
    · rintro ⟨k, hk⟩
      exact (hfind.1 hk).imp And.right fun hold => ⟨k, hold.2⟩
    · rintro (rfl | ⟨k, hk⟩)
      · exact ⟨key, hfind.2 (.inl ⟨rfl, rfl⟩)⟩
      · exact ⟨k, hfind.2 (.inr ⟨fun he => by simp [he, hkey] at hk, hk⟩)⟩
  · rcases hfind.1 hk with ⟨rfl, rfl⟩ | ⟨-, hold⟩
    · rcases hfind.1 hk' with ⟨rfl, -⟩ | ⟨-, hold'⟩
      · rfl
      · exact absurd ((h.plots _).1 ⟨k', hold'⟩) hnew
    · rcases hfind.1 hk' with ⟨-, rfl⟩ | ⟨-, hold'⟩
      · exact absurd ((h.plots _).1 ⟨k, hold⟩) hnew
      · exact h.injective hold hold'

/-- A series goes together with its key. -/
theorem Matched.leave {p : Panes} {key : String} {old : Handle}
    (hkey : s.router.find? key = some old)
    (hp : p.Stocked) (hplots : ∀ handle, p.Plots handle ↔ handle ≠ old ∧ s.panes.Plots handle) :
    Matched ⟨p, s.router.erase key⟩ := by
  have hfind : ∀ {k : String} {handle : Handle}, (s.router.erase key).find? k = some handle ↔
      k ≠ key ∧ s.router.find? k = some handle := by
    intro k handle
    rw [KeyMap.find?_erase]
    split
    · next hk => simp [hk]
    · next hk => simp [hk]
  refine ⟨hp, fun handle => ?_, fun hk hk' => h.injective (hfind.1 hk).2 (hfind.1 hk').2⟩
  rw [hplots, ← h.plots]
  constructor
  · rintro ⟨k, hk⟩
    obtain ⟨hne, hold⟩ := hfind.1 hk
    exact ⟨fun he => hne (h.injective hold (he ▸ hkey)), k, hold⟩
  · rintro ⟨hne, k, hk⟩
    refine ⟨k, hfind.2 ⟨fun he => hne ?_, hk⟩⟩
    rw [he, hkey] at hk
    exact (Option.some.inj hk).symm

/-- Routing a new key cannot fail, and gives it a series if it finds its pane. -/
theorem Matched.route {key : String} (hkey : s.router.find? key = none) (config : SeriesConfig) :
    ∃ r p handle, s.router.route s.panes key config = .ok (r, p, handle) ∧ Matched ⟨p, r⟩ := by
  have hfaults := h.panes.reachable.faults
  cases hview : s.panes.view? config.paneName with
  | none => exact ⟨s.router, s.panes, none, by simp [Router.route, hview], h⟩
  | some v =>
    have hv := List.mem_of_find?_eq_some hview
    have hname : v.name = config.paneName := by simpa using List.find?_some hview
    have hadd := View.addSeries_of_alive (h.panes.there v hv) config.seriesKind
    have hplot : config.seriesKind.isPlot = true := by
      unfold SeriesConfig.seriesKind SeriesKind.ofPlot
      split <;> rfl
    have hids : v.Restocks (v.withCanvas (v.canvas.adding config.seriesKind))
        (v.canvas.plotIds ++ [v.canvas.nextId]) := by
      simpa [hplot] using View.restocks_adding v config.seriesKind
    have hreach := Panes.Reachable.perform (.addSeries config.seriesKind) h.panes.reachable hv
    simp only [Panes.perform, hfaults, hadd] at hreach
    obtain ⟨hstocked, hplots⟩ := h.panes.put hv hids hreach
    let new : Handle := ⟨config.paneName, v.canvas.nextId⟩
    have hroute : s.router.route s.panes key config = .ok (s.router.insert key new,
        s.panes.put (v.withCanvas (v.canvas.adding config.seriesKind)), some new) := by
      simp only [Router.route, hview, hfaults, hadd, inContext, Except.map, new]
    refine ⟨_, _, _, hroute, h.enter hkey ?_ hstocked fun handle => (hplots handle).trans ?_⟩
    · rw [h.panes.plots_iff hv hname.symm]
      exact fun hid => Nat.lt_irrefl _ ((h.panes.numbered v hv).lt_of_mem_plotIds hid)
    · have hhandle : handle = new ↔ handle.pane = v.name ∧ handle.id = v.canvas.nextId := by
        rw [hname]
        exact Handle.ext_iff
      rw [hhandle]
      split
      · next hpane => simp [hpane, h.panes.plots_iff hv hpane, or_comm]
      · next hpane => simp [hpane]

/-- A series that has a key can be taken off its pane. -/
theorem Matched.detach {key : String} {old : Handle} (hkey : s.router.find? key = some old) :
    ∃ p, Router.detach s.panes key old = .ok p ∧ Matched ⟨p, s.router.erase key⟩ := by
  have hfaults := h.panes.reachable.faults
  obtain ⟨v, hv, hname, hid⟩ := (h.plots old).1 ⟨key, hkey⟩
  have hview : s.panes.view? old.pane = some v := by
    rw [← hname]
    exact Panes.find?_name_of_mem h.panes.names hv
  have hremove := View.removeSeries_of_mem (h.panes.there v hv) (h.panes.numbered v hv) hid
  have hreach := Panes.Reachable.perform (.removeSeries old.id) h.panes.reachable hv
  simp only [Panes.perform, hfaults, hremove, Except.map, Panes.settle] at hreach
  obtain ⟨hstocked, hplots⟩ := h.panes.put hv (View.restocks_lacking v old.id) hreach
  refine ⟨_, by simp only [Router.detach, hview, hfaults, hremove, inContext, Except.map],
    h.leave hkey hstocked fun handle => (hplots handle).trans ?_⟩
  have hhandle : handle = old ↔ handle.pane = v.name ∧ handle.id = old.id := by
    rw [hname]
    exact Handle.ext_iff
  rw [Ne, hhandle]
  split
  · next hpane => simp [hpane, h.panes.plots_iff hv hpane, and_comm]
  · next hpane => simp [hpane]

/-- Moving a series cannot fail, wherever it is to go. -/
theorem Matched.reroute (key pane : String) (config : SeriesConfig) :
    (∃ handle, (s.router.reroute s.panes key pane config).result = .ok handle) ∧
      Matched ⟨(s.router.reroute s.panes key pane config).panes,
        (s.router.reroute s.panes key pane config).router⟩ := by
  cases hkey : s.router.find? key with
  | none =>
    simp only [Router.reroute, hkey]
    exact ⟨⟨_, rfl⟩, h⟩
  | some old =>
    obtain ⟨p, hdetach, hmatched⟩ := h.detach hkey
    have hgone : (s.router.erase key).find? key = none := by simp [KeyMap.find?_erase]
    obtain ⟨r, p', handle, hroute, hdone⟩ := hmatched.route hgone { config with pane := some pane }
    simp only [Router.reroute, hkey, hdetach, hroute]
    exact ⟨⟨_, rfl⟩, hdone⟩

end

/-- Along every sequence of operations the handles match the series. -/
theorem Reachable.matched {s : Stage} (h : s.Reachable) : s.Matched := by
  induction h with
  | start => exact matched_of_empty .start rfl
  | createMain container height _ hok ih =>
    have hreach := Panes.Reachable.createMain container height ih.panes.reachable hok
    obtain ⟨hname, rfl⟩ := Panes.createMain_eq_ok hok
    exact ih.keep (ih.panes.add hname hreach (.refl _))
  | createAuxiliary name height _ hok ih =>
    have hreach := Panes.Reachable.createAuxiliary name height ih.panes.reachable hok
    obtain ⟨-, hname, rfl⟩ := Panes.createAuxiliary_eq_ok hok
    exact ih.keep (ih.panes.add hname hreach (List.perm_append_singleton ..))
  | @addCandles s v style _ hv ih =>
    have hreach := Panes.Reachable.perform (.addSeries (.candlestick style)) ih.panes.reachable hv
    have hadd := View.addSeries_of_alive (ih.panes.there v hv) (.candlestick style)
    simp only [Panes.perform, ih.panes.reachable.faults, hadd] at hreach ⊢
    have hids : v.Restocks (v.withCanvas (v.canvas.adding (.candlestick style))) v.canvas.plotIds :=
      by simpa [SeriesKind.isPlot] using View.restocks_adding v (.candlestick style)
    exact ih.keep_put hv hids hreach
  | @setPoints s v id points _ hv ih =>
    have hreach := Panes.Reachable.perform (.setData id (.points points)) ih.panes.reachable hv
    simp only [Panes.perform, ih.panes.reachable.faults] at hreach ⊢
    cases hset : v.setData [] id (.points points) with
    | error cause => exact ih
    | ok u =>
      rw [hset] at hreach
      exact ih.keep_put hv (View.restocks_setData hset) hreach
  | route key config _ hkey hroute ih =>
    obtain ⟨r, p, handle, hroute', hmatched⟩ := ih.route hkey config
    rw [hroute, Except.ok.injEq, Prod.mk.injEq, Prod.mk.injEq] at hroute'
    obtain ⟨rfl, rfl, -⟩ := hroute'
    exact hmatched
  | reroute key pane config _ ih => exact (ih.reroute key pane config).2
  | clear _ ih => exact matched_of_empty (.teardown ih.panes.reachable) rfl

/-- The keys of the router and the lines and histograms on the canvases correspond one to one. -/
structure Bijective (s : Stage) : Prop where
  /-- A pane and an id name one series at most. -/
  apart : s.panes.names.Nodup ∧ ∀ v ∈ s.panes.views, (v.canvas.series.map (·.1)).Nodup
  /-- Under the handle of a key stands a line or a histogram, on a canvas that is there. -/
  found : ∀ key handle, s.router.find? key = some handle → ∃ v series,
    s.panes.view? handle.pane = some v ∧ v.canvas.removed = false ∧
    v.canvas.series? handle.id = some series ∧ series.kind.isPlot = true
  injective : ∀ key key' handle, s.router.find? key = some handle →
    s.router.find? key' = some handle → key = key'
  surjective : ∀ v ∈ s.panes.views, ∀ e ∈ v.canvas.series, e.2.kind.isPlot = true →
    ∃ key, s.router.find? key = some ⟨v.name, e.1⟩

/-- Along every sequence of operations the keys of the router correspond one to one to the lines and
histograms, and moving the series of a key does not fail. -/
theorem bijective_of_reachable {s : Stage} (h : s.Reachable) : s.Bijective ∧
    ∀ key pane config, ∃ handle,
      (s.router.reroute s.panes key pane config).result = .ok handle := by
  have hmatched := h.matched
  have hpanes := hmatched.panes
  refine ⟨⟨⟨hpanes.names, fun v hv => (hpanes.numbered v hv).distinct⟩, fun key handle hkey => ?_,
    fun _ _ _ => hmatched.injective, fun v hv e he hplot => ?_⟩,
    fun key pane config => (hmatched.reroute key pane config).1⟩
  · obtain ⟨v, hv, hname, hid⟩ := (hmatched.plots handle).1 ⟨key, hkey⟩
    obtain ⟨series, hseries, hplot⟩ := Canvas.mem_plotIds.1 hid
    have hview := Panes.find?_name_of_mem hpanes.names hv
    rw [hname] at hview
    exact ⟨v, series, hview, hpanes.there v hv,
      (hpanes.numbered v hv).series?_eq_some_iff.2 hseries, hplot⟩
  · exact (hmatched.plots ⟨v.name, e.1⟩).2 ⟨v, hv, rfl, Canvas.mem_plotIds.2 ⟨e.2, he, hplot⟩⟩

/-- Of two lines beside the candles one moves to a pane of its own, and the other to a pane that is
not there, where it is lost together with its key. -/
theorem bijective_of_reachable_moved : ∃ s : Stage, s.Reachable ∧
    s.router.entries = [("RSI", ⟨"rsi", 1⟩)] ∧
    s.panes.views.map (fun v => (v.name, v.canvas.series.map (·.1))) =
      [("main", [1]), ("rsi", [1])] ∧
    s.Bijective ∧ ∀ key pane config, ∃ handle,
      (s.router.reroute s.panes key pane config).result = .ok handle := by
  let line : SeriesConfig := ⟨some "main", .line, ⟨"", "", 1.0⟩⟩
  have hmain := Reachable.createMain ⟨"main-chart", 120⟩ 400 .start rfl
  have hrsi := Reachable.createAuxiliary "rsi" 200 hmain rfl
  have hcandles := Reachable.addCandles {} hrsi List.mem_cons_self
  have hfirst := Reachable.route "EMA" line hcandles rfl rfl
  have hsecond := Reachable.route "RSI" line hfirst rfl rfl
  have hmoved := Reachable.reroute "RSI" "rsi" line hsecond
  have hlost := Reachable.reroute "EMA" "nowhere" line hmoved
  exact ⟨_, hlost, rfl, rfl, bijective_of_reachable hlost⟩

end Stage

end MarketChart
