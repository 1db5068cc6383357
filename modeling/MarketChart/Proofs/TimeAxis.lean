import Mathlib.Data.List.Sort
import MarketChart.Proofs.DoubleForms
import MarketChart.Proofs.FirstLoad
import MarketChart.Proofs.KeptTimes

/-!
# The time axes of the panes

Windows are ranges of positions on a time axis, and every pane has an axis of its own: the times of
the points that are drawn on it. When the samples of all indicators stand at the times of the
candles, the axis of a pane is the part of the main axis that its series keep, and the two agree
exactly if the series keep every time (`Chart.axes_of_sampled`). They need not: of a run of samples
that are not shown, a series keeps the time of the first only (`Chart.axes_differ`).
-/

namespace MarketChart

/-! ## Distinct times -/

namespace Canvas

/-- The times that are left when repeated neighbours are left out. -/
theorem mem_eraseReps_loop {t : Int} : ∀ {l : List Int} {a : Int} {acc : List Int},
    t ∈ List.eraseRepsBy.loop (· == ·) a l acc ↔ t = a ∨ t ∈ l ∨ t ∈ acc
  | [], a, acc => by simp [List.eraseRepsBy.loop, or_comm]
  | b :: l, a, acc => by
    rw [List.eraseRepsBy.loop]
    split
    · next h =>
      rw [mem_eraseReps_loop, eq_of_beq h, List.mem_cons]
      tauto
    · rw [mem_eraseReps_loop, List.mem_cons, List.mem_cons]
      tauto

/-- Sorted times increase once repeated neighbours are left out. -/
theorem pairwise_eraseReps_loop : ∀ {l : List Int} {a : Int} {acc : List Int},
    (a :: l).Pairwise (· ≤ ·) → (a :: acc).Pairwise (· > ·) →
      (List.eraseRepsBy.loop (· == ·) a l acc).Pairwise (· < ·)
  | [], a, acc, _, hacc => by
    rw [List.eraseRepsBy.loop, List.pairwise_reverse]
    exact hacc
  | b :: l, a, acc, hsorted, hacc => by
    obtain ⟨hle, htail⟩ := List.pairwise_cons.1 hsorted
    rw [List.eraseRepsBy.loop]
    split
    · next h =>
      rw [← eq_of_beq h] at htail
      exact pairwise_eraseReps_loop htail hacc
    · next h =>
      have hlt : a < b := by
        have hab : a ≤ b := hle b List.mem_cons_self
        have hne : a ≠ b := fun he => by simp [he] at h
        omega
      refine pairwise_eraseReps_loop htail (List.pairwise_cons.2 ⟨fun x hx => ?_, hacc⟩)
      rcases List.mem_cons.1 hx with rfl | hx
      · exact hlt
      · exact Int.lt_trans ((List.pairwise_cons.1 hacc).1 x hx) hlt

theorem mem_distinctTimes {times : List Int} {t : Int} : t ∈ distinctTimes times ↔ t ∈ times := by
  have hsort : t ∈ times ↔ t ∈ times.mergeSort fun a b => a ≤ b := List.mem_mergeSort.symm
  rw [hsort, distinctTimes, List.eraseReps]
  cases times.mergeSort fun a b => a ≤ b with
  | nil => rfl
  | cons a l =>
    rw [List.eraseRepsBy, mem_eraseReps_loop]
    simp

theorem pairwise_distinctTimes (times : List Int) : (distinctTimes times).Pairwise (· < ·) := by
  have hsorted : (times.mergeSort fun a b => a ≤ b).Pairwise (· ≤ ·) := by
    refine (List.pairwise_mergeSort (fun a b c hab hbc => ?_) (fun a b => ?_) times).imp fun h => ?_
    · simp only [decide_eq_true_iff] at hab hbc ⊢
      exact Int.le_trans hab hbc
    · simp only [Bool.or_eq_true, decide_eq_true_iff]
      exact Int.le_total a b
    · exact decide_eq_true_iff.1 h
  rw [distinctTimes, List.eraseReps]
  cases hs : times.mergeSort fun a b => a ≤ b with
  | nil => exact .nil
  | cons a l =>
    rw [hs] at hsorted
    exact pairwise_eraseReps_loop hsorted (by simp)

variable {L : Type}

theorem mem_timeScale {c : Canvas L} {t : Int} :
    t ∈ c.timeScale ↔ ∃ s ∈ c.series.map (·.2), t ∈ s.data.times := by
  rw [timeScale, mem_distinctTimes, List.mem_flatMap]
  simp only [List.mem_map, exists_exists_and_eq_and]

theorem pairwise_timeScale (c : Canvas L) : c.timeScale.Pairwise (· < ·) :=
  pairwise_distinctTimes _

theorem timeScale_eq_of_mem {c : Canvas L} {axis : List Int} (haxis : axis.Pairwise (· < ·))
    (h : ∀ t, t ∈ c.timeScale ↔ t ∈ axis) : c.timeScale = axis :=
  c.pairwise_timeScale.eq_of_mem_iff haxis h

/-- Axes with the same times are the same. -/
theorem timeScale_eq_iff {c c' : Canvas L} :
    c.timeScale = c'.timeScale ↔ ∀ t, t ∈ c.timeScale ↔ t ∈ c'.timeScale := by
  refine ⟨fun h t => by rw [h], fun h => ?_⟩
  exact timeScale_eq_of_mem c'.pairwise_timeScale h

/-- An axis whose times are on another is a part of that one. -/
theorem timeScale_sublist {c c' : Canvas L} (h : c.timeScale ⊆ c'.timeScale) :
    c.timeScale.Sublist c'.timeScale :=
  List.sublist_of_subperm_of_pairwise
    (List.subperm_of_subset (c.pairwise_timeScale.imp Int.ne_of_lt) h)
    (c.pairwise_timeScale.imp Int.le_of_lt) (c'.pairwise_timeScale.imp Int.le_of_lt)

end Canvas

/-! ## The times of a document -/

namespace RawCandle

/-- The record opens at a time in milliseconds : it says so and doubles hold the number exactly, or
else its time in seconds is the right one all the same. -/
def OpensAt (r : RawCandle) (ms : Int) : Prop :=
  (number? r.openTime = some (Float.ofInt ms) ∧ -(2 ^ 53) ≤ ms ∧ ms ≤ 2 ^ 53) ∨
    r.seconds? = some (ms / 1000)

theorem OpensAt.seconds? {r : RawCandle} {ms : Int} (h : r.OpensAt ms) :
    r.seconds? = some (ms / 1000) := by
  rcases h with ⟨hopen, hlow, hhigh⟩ | h
  · have hword : (Float.ofInt ms).isFinite = true := Number.isFinite_ofInt (by omega) (by omega)
    have hfinite : finite? r.openTime = some (Float.ofInt ms) := by
      simp [finite?, hopen, hword]
    have hclamp : Number.clampWord (ms / 1000) = ms / 1000 := by
      unfold Number.clampWord
      omega
    simp only [RawCandle.seconds?, hfinite]
    rw [Number.floor_ofInt_div_thousand hlow hhigh, hclamp]
  · exact h

/-- A valid record has positive prices and makes a candle at its time. -/
theorem normalize?_of_isValid {r : RawCandle} (h : r.isValid = true) :
    ∃ (p : Prices) (t : Int), p.allPositive = true ∧ r.seconds? = some t ∧
      r.normalize? = some ⟨t, p.opening, p.max, p.min, p.closing, r.volumeOrDefault⟩ := by
  unfold isValid at h
  cases hp : r.prices? with
  | none => simp [hp] at h
  | some p =>
    simp only [hp, Bool.and_eq_true] at h
    obtain ⟨⟨⟨hpositive, -⟩, -⟩, htime⟩ := h
    obtain ⟨t, ht⟩ := Option.isSome_iff_exists.1 htime
    exact ⟨p, t, hpositive, ht, by simp [normalize?, hp, ht]⟩

end RawCandle

/-- The records of a document open at given times in milliseconds and are all valid, and every
indicator has one sample at each of these times. -/
structure ChartDocument.Sampled (document : ChartDocument) (opens : List Int) : Prop where
  candles : List.Forall₂ (fun r ms => r.isValid = true ∧ r.OpensAt ms) document.candlestick opens
  samples : ∀ e ∈ document.indicators.entries, (e.2.data.map Sample.time).Perm opens

theorem times_sanitize {raw : List RawCandle} {opens : List Int}
    (h : List.Forall₂ (fun r ms => r.isValid = true ∧ r.OpensAt ms) raw opens) :
    (sanitize raw).map Candle.time = opens.map (· / 1000) := by
  induction h with
  | nil => rfl
  | @cons r ms raw opens hr _ ih =>
    obtain ⟨p, t, -, htime, hc⟩ := RawCandle.normalize?_of_isValid hr.1
    obtain rfl : ms / 1000 = t := Option.some.inj (hr.2.seconds?.symm.trans htime)
    have hcons : sanitize (r :: raw) =
        ⟨ms / 1000, p.opening, p.max, p.min, p.closing, r.volumeOrDefault⟩ :: sanitize raw := by
      simp [sanitize, hr.1, hc]
    rw [hcons, List.map_cons, List.map_cons, ih]

theorem ChartDocument.Sampled.mem_times {document : ChartDocument} {opens : List Int}
    (h : document.Sampled opens) {t : Int} :
    t ∈ (sortByTime (sanitize document.candlestick)).map Candle.time ↔
      ∃ ms ∈ opens, ms / 1000 = t := by
  have hsort : t ∈ (sortByTime (sanitize document.candlestick)).map Candle.time ↔
      t ∈ (sanitize document.candlestick).map Candle.time := by
    simp [sortByTime]
  rw [hsort, times_sanitize h.candles, List.mem_map]

/-- The sample is displayed and has a finite value. -/
def Sample.isShown (s : Sample) : Bool := s.isDisplayed && s.value.any Float.isFinite

/-- The series of the indicator keeps a time in seconds. -/
def Indicator.Keeps (i : Indicator) (t : Int) : Prop :=
  ∃ (k : Nat) (s : Sample), i.data[k]? = some s ∧ Kept (i.data.map Sample.isShown) k ∧
    s.time / 1000 = t

theorem Indicator.mem_times_adapt_plotted {i : Indicator} {color : String} {t : Int} :
    t ∈ (adapt (i.plotted color)).map RenderPoint.time ↔ i.Keeps t := by
  have hshown : (i.plotted color).map PlotPoint.isVisible = i.data.map Sample.isShown := by
    rw [Indicator.plotted, List.map_map]
    refine List.map_congr_left fun s _ => ?_
    cases hs : s.isDisplayed <;>
      simp [PlotPoint.isVisible, PlotPoint.isValid, Sample.isShown, hs]
  rw [mem_times_adapt, hshown, Indicator.plotted, Indicator.Keeps]
  simp [PlotPoint.seconds]

theorem ChartDocument.Sampled.of_keeps {document : ChartDocument} {opens : List Int}
    (h : document.Sampled opens) {e : String × Indicator} (he : e ∈ document.indicators.entries)
    {t : Int} (ht : e.2.Keeps t) : ∃ ms ∈ opens, ms / 1000 = t := by
  obtain ⟨k, s, hs, -, htime⟩ := ht
  have hmem : s.time ∈ e.2.data.map Sample.time := List.mem_map_of_mem (List.mem_of_getElem? hs)
  exact ⟨s.time, (h.samples e he).mem_iff.1 hmem, htime⟩

/-! ## The axes of a loaded chart -/

section

variable (settings : Settings) (overrides : Option Overrides) (document : ChartDocument)

/-- A series that the document puts on a pane keeps the time. -/
def KeptOn (pane : String) (t : Int) : Prop :=
  ∃ e ∈ document.indicators.entries, paneFor settings overrides document e.1 e.2 = pane ∧
    e.2.Keeps t

/-- The axis of a view has the times that its series keep and, on the main view, those of the
candles. -/
theorem mem_timeScale_drawn {width : Nat} {p : Panes} (hf : p.faults = [])
    (hc : p.sync.Coherent) {v : View}
    (hv : v ∈ ((Plan.build settings overrides document).drawn width p).views) {t : Int} :
    t ∈ v.canvas.timeScale ↔
      (v.name = mainPane ∧ t ∈ (sortByTime (sanitize document.candlestick)).map Candle.time) ∨
        KeptOn settings overrides document v.name t := by
  have hplan := Plan.placed_build settings overrides document
  have hseries : (∃ s ∈ ((Plan.build settings overrides document).series.entries.filter
      (·.2.config.paneName = v.name)).map (fun e => e.2.onCanvas), t ∈ s.data.times) ↔
        KeptOn settings overrides document v.name t := by
    simp only [series_build, List.mem_map, List.mem_filter, decide_eq_true_iff,
      exists_exists_and_eq_and]
    constructor
    · rintro ⟨_, ⟨⟨e, he, rfl⟩, hpane⟩, ht⟩
      rw [paneName_plannedSeries settings overrides document he] at hpane
      exact ⟨e, he, hpane, Indicator.mem_times_adapt_plotted.1 ht⟩
    · rintro ⟨e, he, hpane, ht⟩
      refine ⟨_, ⟨⟨e, he, rfl⟩, ?_⟩, Indicator.mem_times_adapt_plotted.2 ht⟩
      rw [paneName_plannedSeries settings overrides document he, hpane]
  rw [Canvas.mem_timeScale, (Plan.of_mem_drawn hplan width hf hc hv).1, map_snd_numbered, content]
  simp only [List.mem_append, or_and_right, exists_or, hseries]
  refine or_congr_left ?_
  split
  · next hname => simp [hname, SeriesData.times, Plan.build]
  · next hname => simp [hname]

end

/-- The views of a chart after its first load, and their axes. -/
theorem Chart.axes_load (settings : Settings) {feed : Feed} {document : ChartDocument}
    (hd : (feed 0).document = .ok document) :
    let overrides := (feed 0).overrides document.metadata.strategyName
    let loaded := (Chart.new settings).load feed
    loaded.2 = .ok () ∧
      loaded.1.panes.names =
        mainPane :: auxiliaryNames (assignedPanes settings overrides document) ∧
      ∀ v ∈ loaded.1.panes.views, ∀ t, t ∈ v.canvas.timeScale ↔
        (v.name = mainPane ∧ t ∈ (sortByTime (sanitize document.candlestick)).map Candle.time) ∨
          KeptOn settings overrides document v.name t := by
  intro overrides loaded
  obtain ⟨r, hload, -⟩ := Chart.load_of_empty (c := Chart.new settings) rfl rfl rfl hd
  have hplan := Plan.placed_build settings overrides document
  have hnames := Plan.names_drawn hplan (Chart.new settings).width (p := (Chart.new settings).panes)
    rfl rfl
  rw [names_build] at hnames
  simp only [loaded, hload]
  exact ⟨trivial, hnames, fun v hv t => mem_timeScale_drawn settings overrides document
    (p := (Chart.new settings).panes) rfl rfl hv⟩

/-! ## Documents made of samples -/

/-- A record of steady prices that opens at a time in milliseconds. -/
def RawCandle.steady (ms : Int) : RawCandle := .ofNumbers ms 10.0 12.0 9.0 11.0 100.0

/-- A document with a candle at the time of every sample and an indicator on a pane of its own. -/
def ChartDocument.ofSamples (samples : List Sample) : ChartDocument where
  candlestick := samples.map fun s => .steady s.time
  indicators := KeyMap.empty.insert "rsi" { data := samples, pane := some "rsi" }

theorem RawCandle.isValid_steady {ms : Int} (h : (steady ms).seconds?.isSome = true) :
    (steady ms).isValid = true := by
  have hprices : (steady ms).prices? = some ⟨10.0, 12.0, 9.0, 11.0⟩ := rfl
  have hpositive : (⟨10.0, 12.0, 9.0, 11.0⟩ : Prices).allPositive = true := by decide
  simp only [isValid, hprices, h, hpositive]
  decide

theorem ChartDocument.sampled_ofSamples {samples : List Sample}
    (h : ∀ s ∈ samples, -(2 ^ 53) ≤ s.time ∧ s.time ≤ 2 ^ 53) :
    (ofSamples samples).Sampled (samples.map Sample.time) where
  candles := by
    rw [ofSamples, List.forall₂_map_left_iff, List.forall₂_map_right_iff, List.forall₂_same]
    intro s hs
    have hopens : (RawCandle.steady s.time).OpensAt s.time := .inl ⟨rfl, h s hs⟩
    exact ⟨RawCandle.isValid_steady (by simp [hopens.seconds?]), hopens⟩
  samples := by
    intro e he
    obtain rfl := List.mem_singleton.1 he
    exact .refl _

/-- The chart of a document at its first load, with default settings. -/
def Chart.first (document : ChartDocument) : Chart × Except Failure Unit :=
  (Chart.new {}).load (.ofList [⟨.ok document, fun _ => none⟩])

section

variable {samples : List Sample}

theorem Chart.names_ofSamples :
    (Chart.first (.ofSamples samples)).1.panes.names = [mainPane, "rsi"] := by
  have hd : ((Feed.ofList [⟨.ok (.ofSamples samples), fun _ => none⟩]) 0).document =
      .ok (.ofSamples samples) := rfl
  exact (Chart.axes_load {} hd).2.1.trans
    (by decide : mainPane :: auxiliaryNames ["rsi"] = [mainPane, "rsi"])

theorem keptOn_ofSamples {pane : String} {t : Int} :
    KeptOn {} none (.ofSamples samples) pane t ↔ "rsi" = pane ∧
      t ∈ (adapt (Indicator.plotted { data := samples } "")).map RenderPoint.time := by
  rw [Indicator.mem_times_adapt_plotted]
  constructor
  · rintro ⟨e, he, hpane, ht⟩
    obtain rfl := List.mem_singleton.1 he
    exact ⟨hpane, ht⟩
  · rintro ⟨hpane, ht⟩
    exact ⟨_, List.mem_singleton.2 rfl, hpane, ht⟩

/-- The axes of the main pane and of the indicator's pane. -/
theorem Chart.axes_ofSamples {axis paneAxis : List Int}
    (haxis : axis.Pairwise (· < ·)) (hpaneAxis : paneAxis.Pairwise (· < ·))
    (hcandles : (sanitize (samples.map fun s => .steady s.time)).map Candle.time = axis)
    (hpoints : (adapt (Indicator.plotted { data := samples } "")).map RenderPoint.time = paneAxis) :
    (Chart.first (.ofSamples samples)).2 = .ok () ∧
      ∃ main v, (Chart.first (.ofSamples samples)).1.panes.view? mainPane = some main ∧
        (Chart.first (.ofSamples samples)).1.panes.view? "rsi" = some v ∧
        main.canvas.timeScale = axis ∧ v.canvas.timeScale = paneAxis := by
  have hd : ((Feed.ofList [⟨.ok (.ofSamples samples), fun _ => none⟩]) 0).document =
      .ok (.ofSamples samples) := rfl
  obtain ⟨hok, -, haxes⟩ := Chart.axes_load {} hd
  replace haxes : ∀ v ∈ (Chart.first (.ofSamples samples)).1.panes.views, ∀ t,
      t ∈ v.canvas.timeScale ↔ (v.name = mainPane ∧ t ∈ (sortByTime (sanitize
        (samples.map fun s => .steady s.time))).map Candle.time) ∨
          KeptOn {} none (.ofSamples samples) v.name t := haxes
  have hmainName : mainPane ∈ (Chart.first (.ofSamples samples)).1.panes.names := by
    simp [names_ofSamples]
  have hpaneName : "rsi" ∈ (Chart.first (.ofSamples samples)).1.panes.names := by
    simp [names_ofSamples]
  obtain ⟨main, hmain, hname⟩ := Panes.view?_of_mem_names hmainName
  obtain ⟨v, hv, hvname⟩ := Panes.view?_of_mem_names hpaneName
  refine ⟨hok, main, v, hmain, hv, ?_, ?_⟩
  · refine Canvas.timeScale_eq_of_mem haxis fun t => ?_
    rw [haxes main (List.mem_of_find?_eq_some hmain), hname, keptOn_ofSamples, ← hcandles]
    simp [sortByTime, mainPane]
  · refine Canvas.timeScale_eq_of_mem hpaneAxis fun t => ?_
    rw [haxes v (List.mem_of_find?_eq_some hv), hvname, keptOn_ofSamples, hpoints]
    simp [mainPane]

end

/-! ## One axis or several -/

/-- The axes after the first load of a document whose indicators are sampled at the times of the
candles. The main axis has the times of all candles. That of any other pane is the part of it that
the series of the pane keep, and so the same axis exactly if they keep all times. -/
theorem Chart.axes_of_sampled (settings : Settings) {feed : Feed} {document : ChartDocument}
    {opens : List Int} (hd : (feed 0).document = .ok document) (h : document.Sampled opens) :
    let overrides := (feed 0).overrides document.metadata.strategyName
    let loaded := (Chart.new settings).load feed
    loaded.2 = .ok () ∧ ∃ main, loaded.1.panes.view? mainPane = some main ∧
      (∀ t, t ∈ main.canvas.timeScale ↔ ∃ ms ∈ opens, ms / 1000 = t) ∧
      ∀ v ∈ loaded.1.panes.views, v.name ≠ mainPane →
        v.canvas.timeScale.Sublist main.canvas.timeScale ∧
        (∀ t, t ∈ v.canvas.timeScale ↔ KeptOn settings overrides document v.name t) ∧
        (v.canvas.timeScale = main.canvas.timeScale ↔
          ∀ ms ∈ opens, KeptOn settings overrides document v.name (ms / 1000)) := by
  intro overrides loaded
  obtain ⟨hok, hnames, haxes⟩ := Chart.axes_load settings hd
  have hmainName : mainPane ∈ loaded.1.panes.names := by
    rw [hnames]
    exact List.mem_cons_self
  obtain ⟨main, hmain, hname⟩ := Panes.view?_of_mem_names hmainName
  have hmainAxis : ∀ t, t ∈ main.canvas.timeScale ↔ ∃ ms ∈ opens, ms / 1000 = t := by
    intro t
    rw [haxes main (List.mem_of_find?_eq_some hmain), h.mem_times]
    refine ⟨?_, fun ht => .inl ⟨hname, ht⟩⟩
    rintro (⟨-, ht⟩ | ⟨e, he, -, ht⟩)
    · exact ht
    · exact h.of_keeps he ht
  refine ⟨hok, main, hmain, hmainAxis, fun v hv hother => ?_⟩
  have haxis : ∀ t, t ∈ v.canvas.timeScale ↔ KeptOn settings overrides document v.name t :=
    fun t => (haxes v hv t).trans (or_iff_right fun hm => hother hm.1)
  have hsubset : v.canvas.timeScale ⊆ main.canvas.timeScale := by
    intro t ht
    obtain ⟨e, he, -, ht⟩ := (haxis t).1 ht
    exact (hmainAxis t).2 (h.of_keeps he ht)
  refine ⟨Canvas.timeScale_sublist hsubset, haxis, ?_⟩
  rw [Canvas.timeScale_eq_iff]
  constructor
  · intro hsame ms hms
    exact (haxis _).1 ((hsame _).2 ((hmainAxis _).2 ⟨ms, hms, rfl⟩))
  · intro hkept t
    refine ⟨fun ht => hsubset ht, fun ht => ?_⟩
    obtain ⟨ms, hms, rfl⟩ := (hmainAxis t).1 ht
    exact (haxis _).2 (hkept ms hms)

/-- Samples of which every other one is shown. -/
def alternatingSamples : List Sample :=
  [{ time := 0 }, { time := 60000, value := some 50.0 }, { time := 120000 },
    { time := 180000, value := some 40.0 }, { time := 240000 }]

theorem Chart.axes_of_sampled_alternating :
    (ChartDocument.ofSamples alternatingSamples).Sampled [0, 60000, 120000, 180000, 240000] ∧
      ∃ main v, (Chart.first (.ofSamples alternatingSamples)).1.panes.view? mainPane = some main ∧
        (Chart.first (.ofSamples alternatingSamples)).1.panes.view? "rsi" = some v ∧
        v.canvas.timeScale = main.canvas.timeScale := by
  have hsampled : (ChartDocument.ofSamples alternatingSamples).Sampled
      [0, 60000, 120000, 180000, 240000] := ChartDocument.sampled_ofSamples (by decide)
  have hd : ((Feed.ofList [⟨.ok (.ofSamples alternatingSamples), fun _ => none⟩]) 0).document =
      .ok (.ofSamples alternatingSamples) := rfl
  obtain ⟨-, main, hmain, -, hviews⟩ := Chart.axes_of_sampled {} hd hsampled
  have hpaneName : "rsi" ∈ (Chart.first (.ofSamples alternatingSamples)).1.panes.names := by
    simp [Chart.names_ofSamples]
  obtain ⟨v, hv, hname⟩ := Panes.view?_of_mem_names hpaneName
  refine ⟨hsampled, main, v, hmain, hv, ?_⟩
  have hother : v.name ≠ mainPane := by
    rw [hname]
    decide
  refine (hviews v (List.mem_of_find?_eq_some hv) hother).2.2.2 fun ms hms => ?_
  refine keptOn_ofSamples.2 ⟨hname.symm, ?_⟩
  revert ms
  decide

/-- Four samples, of which the two in the middle have no value. -/
def gapSamples : List Sample :=
  [{ time := 0, value := some 50.0 }, { time := 60000 }, { time := 120000 },
    { time := 180000, value := some 40.0 }]

/-- A sample at a number of milliseconds that doubles hold exactly, but whose thousandth they round
up to a whole number of seconds. -/
def lateSamples : List Sample := [{ time := 144115188075856992, value := some 50.0 }]

/-- The axes of two panes differ where a series leaves out a time, and where doubles round the times
of candles. -/
theorem Chart.axes_differ :
    ((ChartDocument.ofSamples gapSamples).Sampled [0, 60000, 120000, 180000] ∧
      (Chart.first (.ofSamples gapSamples)).2 = .ok () ∧
      ∃ main v, (Chart.first (.ofSamples gapSamples)).1.panes.view? mainPane = some main ∧
        (Chart.first (.ofSamples gapSamples)).1.panes.view? "rsi" = some v ∧
        main.canvas.timeScale = [0, 60, 120, 180] ∧ v.canvas.timeScale = [0, 60, 180]) ∧
    ((RawCandle.steady 144115188075856992).isValid = true ∧
      (Chart.first (.ofSamples lateSamples)).2 = .ok () ∧
      ∃ main v, (Chart.first (.ofSamples lateSamples)).1.panes.view? mainPane = some main ∧
        (Chart.first (.ofSamples lateSamples)).1.panes.view? "rsi" = some v ∧
        main.canvas.timeScale = [144115188075857] ∧ v.canvas.timeScale = [144115188075856]) := by
  refine ⟨⟨?_, ?_⟩, ?_, ?_⟩
  · exact ChartDocument.sampled_ofSamples (by decide)
  · exact Chart.axes_ofSamples (by decide) (by decide) rfl rfl
  · exact RawCandle.isValid_steady rfl
  · exact Chart.axes_ofSamples (by decide) (by decide) rfl rfl

end MarketChart
