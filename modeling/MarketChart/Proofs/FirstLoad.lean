import MarketChart.Chart.Basic
import MarketChart.Proofs.Drawing

/-!
# What the first load shows

A chart that loads its first document shows all of it (`Chart.load_first`). There is a view for
every pane that an indicator was placed on, in the order in which the panes first occur; the series
of every indicator stands on its pane under the handle that the router has for it; and nothing else
is drawn but the candles.

The plan of a document always has a pane for every series (`Plan.placed_build`), so none of the
steps that draw it can fail and no series is left out.
-/

namespace MarketChart

/-! ## The panes of a layout -/

/-- Leaving out other elements keeps the order of first occurrence. -/
theorem idxOf_lt_of_filter {q : String → Bool} {a b : String} (ha : q a = true) (hb : q b = true) :
    ∀ {l : List String}, (l.filter q).idxOf a < (l.filter q).idxOf b → l.idxOf a < l.idxOf b
  | [], h => by simp at h
  | x :: l, h => by
    have hcons : ∀ (y : String) (l : List String),
        (x :: l).idxOf y = if x = y then 0 else l.idxOf y + 1 := by
      intro y l
      simp [List.idxOf_cons, cond_eq_ite]
    have ih := @idxOf_lt_of_filter q a b ha hb l
    rw [List.filter_cons] at h
    split at h
    · rw [hcons, hcons] at h ⊢
      split at h <;> split at h <;> simp_all
    · next hx =>
      have hne : ∀ y, q y = true → x ≠ y := fun y hy he => hx (he ▸ hy)
      rw [hcons, hcons, if_neg (hne a ha), if_neg (hne b hb)]
      exact Nat.succ_lt_succ (ih h)

/-- Leaving out repetitions keeps the order of first occurrence. -/
theorem pairwise_idxOf_eraseDups (l : List String) :
    l.eraseDups.Pairwise fun a b => l.idxOf a < l.idxOf b := by
  induction hn : l.length using Nat.strongRecOn generalizing l with
  | ind n ih =>
    cases l with
    | nil => simp
    | cons x l =>
      have hlen : (l.filter fun b => !b == x).length < n := by
        have := List.length_filter_le (fun b => !b == x) l
        simp only [List.length_cons] at hn
        omega
      rw [List.eraseDups_cons, List.pairwise_cons]
      have hrest : ∀ b ∈ (l.filter fun b => !b == x).eraseDups, (!b == x) = true := fun b hb =>
        (List.mem_filter.1 (List.mem_eraseDups.1 hb)).2
      refine ⟨fun b hb => ?_, ?_⟩
      · have hne : x ≠ b := fun he => by simpa [he] using hrest b hb
        simp [hne]
      · refine (ih _ hlen _ rfl).imp_of_mem fun {a b} ha hb hab => ?_
        have hlt : (l.filter fun b => !b == x).idxOf a < (l.filter fun b => !b == x).idxOf b := hab
        rw [show l.filter (fun b => !b == x) = (x :: l).filter (fun b => !b == x) by simp] at hlt
        exact idxOf_lt_of_filter (hrest a ha) (hrest b hb) hlt

theorem mem_auxiliaryNames {assigned : List String} {name : String} :
    name ∈ auxiliaryNames assigned ↔ name ≠ mainPane ∧ name ∈ assigned := by
  rw [auxiliaryNames, List.mem_eraseDups, List.mem_filter, decide_eq_true_iff, and_comm]

theorem pairwise_auxiliaryNames (assigned : List String) :
    (auxiliaryNames assigned).Pairwise fun a b => assigned.idxOf a < assigned.idxOf b := by
  refine (pairwise_idxOf_eraseDups _).imp_of_mem fun ha hb hab => ?_
  exact idxOf_lt_of_filter (List.mem_filter.1 (List.mem_eraseDups.1 ha)).2
    (List.mem_filter.1 (List.mem_eraseDups.1 hb)).2 hab

theorem nodup_layout (assigned : List String) : (mainPane :: auxiliaryNames assigned).Nodup := by
  refine List.nodup_cons.2 ⟨fun hm => (mem_auxiliaryNames.1 hm).1 rfl, ?_⟩
  exact (pairwise_auxiliaryNames assigned).imp fun hab he => by simp [he] at hab

/-! ## The plan of a document -/

section

variable (settings : Settings) (overrides : Option Overrides) (document : ChartDocument)

/-- The pane of an indicator : the one that its override names, else the one it declares, else the
one that its values among the prices give it. -/
def paneFor (key : String) (indicator : Indicator) : String :=
  (((overrides.bind (·.find? key)).bind Override.paneName).or indicator.declaredPane).getD
    (settings.classifier.classify (priceRange (sortByTime (sanitize document.candlestick)))
      indicator.data).paneName

/-- The panes of all indicators, by the names of the indicators. -/
def assignedPanes : List String :=
  document.indicators.entries.map fun e => paneFor settings overrides document e.1 e.2

theorem assignPane_eq (key : String) (indicator : Indicator) :
    settings.classifier.assignPane (priceRange (sortByTime (sanitize document.candlestick)))
      overrides key indicator = paneFor settings overrides document key indicator := by
  unfold Classifier.assignPane paneFor
  cases (overrides.bind (·.find? key)).bind Override.paneName with
  | some pane => rfl
  | none => cases indicator.declaredPane <;> rfl

theorem values_assignment : (Plan.build settings overrides document).assignment.values =
    assignedPanes settings overrides document := by
  simp [Plan.build, Classifier.assignAll, KeyMap.values, KeyMap.mapEntries, assignedPanes,
    assignPane_eq]

theorem auxiliary_build : (Plan.build settings overrides document).layout.auxiliary =
    (auxiliaryNames (assignedPanes settings overrides document)).map fun name =>
      (name, (document.ui.panes.find? name).getD settings.indicatorPane) := by
  rw [← values_assignment]
  rfl

theorem names_build : (Plan.build settings overrides document).layout.auxiliary.map (·.1) =
    auxiliaryNames (assignedPanes settings overrides document) := by
  simp [auxiliary_build, Function.comp_def]

theorem series_build : (Plan.build settings overrides document).series.entries =
    document.indicators.entries.map fun e => (e.1, Plan.plannedSeries settings overrides
      (Plan.build settings overrides document).assignment e.1 e.2) := rfl

/-- The series of an indicator goes to the pane of the indicator. -/
theorem paneName_plannedSeries {e : String × Indicator} (h : e ∈ document.indicators.entries) :
    (Plan.plannedSeries settings overrides (Plan.build settings overrides document).assignment
      e.1 e.2).config.paneName = paneFor settings overrides document e.1 e.2 := by
  have hfind := KeyMap.find?_mapEntries_of_mem (settings.classifier.assignPane
    (priceRange (sortByTime (sanitize document.candlestick))) overrides) h
  rw [assignPane_eq] at hfind
  simp only [Plan.plannedSeries, SeriesConfig.build, SeriesConfig.paneName, Option.getD_some]
  rw [show (Plan.build settings overrides document).assignment.find? e.1 = _ from hfind]
  rfl

/-- The layout of a plan has a pane for every series. -/
theorem Plan.placed_build : (Plan.build settings overrides document).Placed where
  names := by
    rw [names_build]
    exact nodup_layout _
  series := by
    intro x hx
    rw [series_build] at hx
    obtain ⟨e, he, rfl⟩ := List.mem_map.1 hx
    rw [names_build, paneName_plannedSeries settings overrides document he, List.mem_cons,
      mem_auxiliaryNames]
    have hmem : paneFor settings overrides document e.1 e.2 ∈
        assignedPanes settings overrides document := List.mem_map.2 ⟨e, he, rfl⟩
    by_cases hm : paneFor settings overrides document e.1 e.2 = mainPane
    · exact .inl hm
    · exact .inr ⟨hm, hmem⟩

/-- A chart shows all of a document, and nothing else. -/
structure Chart.Shows (c : Chart) : Prop where
  /-- The main view comes first, and then one for every other pane of an indicator, in the order in
  which these panes first occur. -/
  views : ∃ names, c.panes.names = mainPane :: names ∧
    (∀ name, name ∈ names ↔ name ≠ mainPane ∧ name ∈ assignedPanes settings overrides document) ∧
    names.Pairwise fun a b => (assignedPanes settings overrides document).idxOf a <
      (assignedPanes settings overrides document).idxOf b
  heights : ∀ v ∈ c.panes.views, v.canvas.height =
    if v.name = mainPane then settings.mainPane.height
    else ((document.ui.panes.find? v.name).getD settings.indicatorPane).height
  keys : c.router.keys = document.indicators.keys
  handles : c.router.values.Nodup
  /-- The series of an indicator stands on its pane under its handle. -/
  series : ∀ e ∈ document.indicators.entries, ∃ handle v options,
    c.router.find? e.1 = some handle ∧
    handle.pane = paneFor settings overrides document e.1 e.2 ∧
    c.panes.view? handle.pane = some v ∧
    v.canvas.series? handle.id = some
      ⟨if (e.2.style.merge ((overrides.bind (·.find? e.1)).bind Override.fields)).kind =
          some "histogram" then .histogram options else .line options,
        .points (adapt (e.2.data.map fun s =>
          ⟨s.time, s.value, if s.isDisplayed then some options.color else none⟩))⟩
  /-- All that is drawn apart from that are the candles on the main view. -/
  others : ∀ v ∈ c.panes.views,
    v.canvas.series.filter (fun e => ⟨v.name, e.1⟩ ∉ c.router.values) =
      if v.name = mainPane then
        [(1, ⟨.candlestick {}, .candles (sortByTime (sanitize document.candlestick))⟩)]
      else []

theorem ofPlot_ofStyle (style : Option String) (options : SeriesOptions) :
    SeriesKind.ofPlot (.ofStyle style) options =
      if style = some "histogram" then .histogram options else .line options := by
  by_cases h : style = some "histogram"
  · simp [PlotKind.ofStyle, SeriesKind.ofPlot, h]
  · simp [PlotKind.ofStyle, SeriesKind.ofPlot, h]

/-- The plan of a document, once it is drawn, shows the document. -/
theorem shows_drawn {c : Chart} {width : Nat} {p : Panes} (hf : p.faults = [])
    (hc : p.sync.Coherent) (hp : c.panes = (Plan.build settings overrides document).drawn width p)
    (hr : c.router.entries = handles (Plan.build settings overrides document).candles
      (Plan.build settings overrides document).series.entries) :
    Chart.Shows settings overrides document c := by
  have hplan := Plan.placed_build settings overrides document
  have hnames := Plan.names_drawn hplan width hf hc
  have hmem := fun v hv => Plan.of_mem_drawn hplan width hf hc (v := v) hv
  rw [← hp] at hnames hmem
  rw [names_build] at hnames
  refine ⟨⟨_, hnames, fun _ => mem_auxiliaryNames, pairwise_auxiliaryNames _⟩, ?_, ?_, ?_, ?_, ?_⟩
  · intro v hv
    rcases (hmem v hv).2 with ⟨hname, hheight⟩ | ⟨e, he, hname, hheight⟩
    · rw [hheight, if_pos hname]
      rfl
    · rw [auxiliary_build] at he
      obtain ⟨name, hn, rfl⟩ := List.mem_map.1 he
      rw [hheight, if_neg (by rw [hname]; exact (mem_auxiliaryNames.1 hn).1), hname]
  · rw [KeyMap.keys, hr, keys_handles, series_build]
    simp [KeyMap.keys, Function.comp_def]
  · rw [KeyMap.values, hr]
    exact nodup_handles _ _
  · intro e he
    have hpane := paneName_plannedSeries settings overrides document he
    have hplanned : (e.1, Plan.plannedSeries settings overrides
        (Plan.build settings overrides document).assignment e.1 e.2) ∈
        (Plan.build settings overrides document).series.entries := List.mem_map.2 ⟨e, he, rfl⟩
    obtain ⟨id, hhandle, hseries⟩ := series_of_mem_handles hplanned
    rw [← hr] at hhandle
    simp only [hpane] at hhandle hseries
    have hview : paneFor settings overrides document e.1 e.2 ∈ c.panes.names := by
      rw [hnames, ← names_build, ← hpane]
      exact hplan.series _ hplanned
    obtain ⟨v, hv, hname⟩ := Panes.view?_of_mem_names hview
    refine ⟨_, v, (Plan.plannedSeries settings overrides
      (Plan.build settings overrides document).assignment e.1 e.2).config.options,
      KeyMap.find?_eq_some_iff.2 hhandle, rfl, hv, ?_⟩
    rw [Canvas.series?, (hmem v (List.mem_of_find?_eq_some hv)).1, hname, hseries, ← ofPlot_ofStyle]
    rfl
  · intro v hv
    rw [(hmem v hv).1, KeyMap.values, hr, filter_numbered_content]
    simp only [content]
    split <;> rfl

end

/-- A chart without panes draws the document that it loads. -/
theorem Chart.load_of_empty {c : Chart} (hv : c.panes.views = []) (hf : c.panes.faults = [])
    (hr : c.router.entries = []) {feed : Feed} {document : ChartDocument}
    (hd : (feed c.loads).document = .ok document) :
    let plan := Plan.build c.settings
      ((feed c.loads).overrides document.metadata.strategyName) document
    ∃ r : Router, c.load feed = ({ c with
        panes := plan.drawn c.width c.panes
        router := r
        loaded := some plan.loaded
        loads := c.loads + 1
        asked := c.asked ++ [document.metadata.strategyName] }, .ok ()) ∧
      r.entries = handles plan.candles plan.series.entries := by
  intro plan
  have hplan : plan.Placed := Plan.placed_build _ _ _
  obtain ⟨r, hdraw, hrouter⟩ := Plan.draw_eq hplan c.width (s := ⟨c.panes, c.router⟩) hv hf hr
  refine ⟨r, ?_, hrouter⟩
  simp only [load, hd]
  rw [show (Plan.build _ _ _).draw c.width ⟨c.panes, c.router⟩ = _ from hdraw]

/-- The first load of a chart fails if there is no document, and else shows the document. -/
theorem Chart.load_first (settings : Settings) (feed : Feed) :
    match (feed 0).document with
    | .error f => ((Chart.new settings).load feed).2 = .error (f.within .loadingDocument)
    | .ok document => ((Chart.new settings).load feed).2 = .ok () ∧
        Chart.Shows settings ((feed 0).overrides document.metadata.strategyName) document
          ((Chart.new settings).load feed).1 := by
  cases hd : (feed 0).document with
  | error f => simp [Chart.load, Chart.new, hd]
  | ok document =>
    obtain ⟨r, hload, hr⟩ := Chart.load_of_empty (c := Chart.new settings) rfl rfl rfl hd
    rw [hload]
    exact ⟨rfl, shows_drawn settings _ document (p := (Chart.new settings).panes) rfl rfl rfl hr⟩

end MarketChart
