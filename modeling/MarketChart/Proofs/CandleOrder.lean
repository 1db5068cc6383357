import MarketChart.Proofs.DoubleOrder
import MarketChart.Proofs.Reloading
import MarketChart.Proofs.TimeAxis

/-!
# The order of the records

A document lists its price records in some order, and what a chart makes of it does not depend on
that order (`Chart.load_perm`). The records that make a candle are the same, the prices span the
same range, so every indicator goes to the same pane, and the views and the router come out the
same. Candles are shown by time. Only where two of them have one time does the order of the records
show, in which of the two comes first; a view that is seen without the prices of its candles
(`View.unpriced`) is the same in any case.
-/

namespace MarketChart

/-! ## Candles by time -/

theorem perm_sortByTime (candles : List Candle) : (sortByTime candles).Perm candles :=
  List.mergeSort_perm _ _

section

variable (a b c : Candle)

theorem time_le_trans (hab : decide (a.time ≤ b.time) = true)
    (hbc : decide (b.time ≤ c.time) = true) : decide (a.time ≤ c.time) = true := by
  simp only [decide_eq_true_eq] at hab hbc ⊢
  omega

theorem time_le_total : (decide (a.time ≤ b.time) || decide (b.time ≤ a.time)) = true := by
  simp only [Bool.or_eq_true, decide_eq_true_eq]
  omega

end

theorem pairwise_sortByTime (candles : List Candle) :
    (sortByTime candles).Pairwise fun a b => a.time ≤ b.time :=
  (List.pairwise_mergeSort time_le_trans time_le_total candles).imp of_decide_eq_true

/-- Candles of one time keep their order. -/
theorem filter_sortByTime (candles : List Candle) (t : Int) :
    (sortByTime candles).filter (·.time = t) = candles.filter (·.time = t) := by
  have hsame : (candles.filter (·.time = t)).Pairwise fun a b => decide (a.time ≤ b.time) := by
    refine List.pairwise_of_forall_mem_list fun a ha b hb => ?_
    simp only [List.mem_filter, decide_eq_true_eq] at ha hb ⊢
    omega
  have hsub : (candles.filter (·.time = t)).Sublist (sortByTime candles) :=
    List.sublist_mergeSort time_le_trans time_le_total hsame List.filter_sublist
  have hfilter := hsub.filter (·.time = t)
  rw [List.filter_filter] at hfilter
  simp only [Bool.and_self] at hfilter
  exact (hfilter.eq_of_length ((perm_sortByTime candles).filter _).length_eq.symm).symm

theorem sortByTime_perm_of_perm {candles candles' : List Candle} (h : candles.Perm candles') :
    (sortByTime candles).Perm (sortByTime candles') :=
  (perm_sortByTime candles).trans (h.trans (perm_sortByTime candles').symm)

theorem sortByTime_eq_of_perm {candles candles' : List Candle} (h : candles.Perm candles')
    (hn : (candles.map Candle.time).Nodup) : sortByTime candles = sortByTime candles' := by
  refine (sortByTime_perm_of_perm h).eq_of_pairwise (fun a b ha hb hab hba => ?_)
    (pairwise_sortByTime candles) (pairwise_sortByTime candles')
  have hmem : ∀ x ∈ sortByTime candles', x ∈ candles := fun x hx =>
    h.symm.subset ((perm_sortByTime candles').subset hx)
  exact List.inj_on_of_nodup_map hn ((perm_sortByTime candles).subset ha) (hmem b hb)
    (Int.le_antisymm hab hba)

theorem times_sortByTime_eq_of_perm {candles candles' : List Candle} (h : candles.Perm candles') :
    (sortByTime candles).map Candle.time = (sortByTime candles').map Candle.time := by
  refine ((sortByTime_perm_of_perm h).map Candle.time).eq_of_pairwise
    (fun a b _ _ => Int.le_antisymm) ?_ ?_
  · exact List.pairwise_map.2 (pairwise_sortByTime candles)
  · exact List.pairwise_map.2 (pairwise_sortByTime candles')

/-! ## The candles of records -/

theorem sanitize_perm {raw raw' : List RawCandle} (h : raw.Perm raw') :
    (sanitize raw).Perm (sanitize raw') := (h.filter _).filterMap _

theorem mem_sanitize {raw : List RawCandle} {c : Candle} :
    c ∈ sanitize raw ↔ ∃ r ∈ raw, r.isValid = true ∧ r.normalize? = some c := by
  simp [sanitize, List.mem_filterMap, and_assoc]

theorem isPositive_of_mem_sanitize {raw : List RawCandle} {c : Candle} (h : c ∈ sanitize raw) :
    Prices.isPositive c.low = true ∧ Prices.isPositive c.high = true := by
  obtain ⟨r, -, hvalid, hc⟩ := mem_sanitize.1 h
  obtain ⟨p, t, hpositive, -, hc'⟩ := RawCandle.normalize?_of_isValid hvalid
  obtain rfl := Option.some.inj (hc'.symm.trans hc)
  simp only [Prices.allPositive, Bool.and_eq_true] at hpositive
  obtain ⟨⟨⟨hopening, hhigh⟩, hlow⟩, hclosing⟩ := hpositive
  refine ⟨?_, ?_⟩
  · have hpick := @Number.picks_smaller.isPositive
    exact hpick (hpick (hpick hopening hhigh) hlow) hclosing
  · have hpick := @Number.picks_larger.isPositive
    exact hpick (hpick (hpick hopening hhigh) hlow) hclosing

theorem map_time_sanitize : ∀ raw : List RawCandle,
    (sanitize raw).map (fun c => some c.time) = (raw.filter RawCandle.isValid).map (·.seconds?)
  | [] => rfl
  | r :: raw => by
    have ih := map_time_sanitize raw
    rw [sanitize] at ih ⊢
    rw [List.filter_cons]
    split
    · next hvalid =>
      obtain ⟨p, t, -, htime, hc⟩ := RawCandle.normalize?_of_isValid hvalid
      rw [List.filterMap_cons_some hc, List.map_cons, List.map_cons, ih, htime]
    · exact ih

/-- The range of the prices does not depend on the order of the candles. -/
theorem priceRange_perm {raw : List RawCandle} {candles candles' : List Candle}
    (hraw : candles.Perm (sanitize raw)) (h : candles.Perm candles') :
    priceRange candles = priceRange candles' := by
  have hlow := Number.foldl_smaller_perm (h.map Candle.low) fun x hx => by
    obtain ⟨c, hc, rfl⟩ := List.mem_map.1 hx
    exact (isPositive_of_mem_sanitize (hraw.subset hc)).1
  have hhigh := Number.foldl_larger_perm (h.map Candle.high) fun x hx => by
    obtain ⟨c, hc, rfl⟩ := List.mem_map.1 hx
    exact (isPositive_of_mem_sanitize (hraw.subset hc)).2
  cases candles with
  | nil => rw [h.nil_eq]
  | cons c rest =>
    cases candles' with
    | nil => exact absurd h.symm (List.nil_perm.not.2 (by simp))
    | cons c' rest' => rw [priceRange, priceRange, hlow, hhigh] <;> simp

/-! ## The plan of a document -/

section

variable (settings : Settings) (overrides : Option Overrides) (document : ChartDocument)
  {raw : List RawCandle} (h : raw.Perm document.candlestick)

include h

/-- The range of the prices in a document, whatever the order of its records. -/
theorem priceRange_eq_of_perm : priceRange (sortByTime (sanitize raw)) =
    priceRange (sortByTime (sanitize document.candlestick)) :=
  priceRange_perm (perm_sortByTime (sanitize raw)) (sortByTime_perm_of_perm (sanitize_perm h))

/-- In another order of the records only the candles can differ, and the trades that are valued by
them. -/
theorem Plan.build_of_perm :
    build settings overrides { document with candlestick := raw } =
      { build settings overrides document with
        candles := sortByTime (sanitize raw)
        trades := .build document.strategy (sortByTime (sanitize raw)) } := by
  simp only [build, priceRange_eq_of_perm document h]

end

/-! ## Views without prices -/

/-- The candle without its prices. -/
def Candle.unpriced (c : Candle) : Candle := ⟨c.time, 0.0, 0.0, 0.0, 0.0, 0.0⟩

/-- The data without the prices of candles. -/
def SeriesData.unpriced : SeriesData → SeriesData
  | .points ps => .points ps
  | .candles cs => .candles (cs.map Candle.unpriced)

/-- The series without the prices of candles. -/
def Series.unpriced (s : Series) : Series := ⟨s.kind, s.data.unpriced⟩

/-- The canvas without the prices of the candles on it. -/
def Canvas.unpriced (c : Canvas Nat) : Canvas Nat :=
  { c with series := c.series.map fun e => (e.1, e.2.unpriced) }

/-- The view without the prices of the candles on it. -/
def View.unpriced (v : View) : View := v.withCanvas v.canvas.unpriced

theorem SeriesData.times_unpriced (d : SeriesData) : d.unpriced.times = d.times := by
  cases d with
  | points => rfl
  | candles cs => simp [unpriced, times, Candle.unpriced, Function.comp_def]

theorem Canvas.timeScale_unpriced (c : Canvas Nat) : c.unpriced.timeScale = c.timeScale := by
  simp [timeScale, unpriced, Series.unpriced, List.flatMap_map, SeriesData.times_unpriced]

theorem Canvas.fitContent_unpriced (c : Canvas Nat) (s : Sync) :
    c.unpriced.fitContent s = (c.fitContent s).map fun (c, s) => (c.unpriced, s) := by
  have haxis := c.timeScale_unpriced
  have hremoved : c.unpriced.removed = c.removed := rfl
  unfold fitContent fit alive
  rw [hremoved]
  split
  · rfl
  · by_cases hbars : c.timeScale.length = 0
    · simp only [Except.map, haxis, if_pos hbars]
    · simp only [Except.map, haxis, if_neg hbars]
      rfl

theorem View.look_unpriced : Look unpriced where
  resubscribe := by
    intro v i
    obtain ⟨name, container, canvas, subscription, serial⟩ := v
    cases subscription <;> rfl
  fit := by
    intro v faults s
    have hcanvas : v.unpriced.canvas.fitContent s = _ := v.canvas.fitContent_unpriced s
    have hcontainer : v.unpriced.container = v.container := rfl
    simp only [View.fit, attempt, hcanvas, hcontainer]
    split
    · rfl
    · cases v.canvas.fitContent s <;> rfl

theorem View.unpriced_holding (v : View) (series : List Series) :
    (v.holding series).unpriced = v.holding (series.map Series.unpriced) := by
  have hnumbered : (numbered series).map (fun e => (e.1, e.2.unpriced)) =
      numbered (series.map Series.unpriced) := by
    refine List.ext_getElem? fun i => ?_
    simp [numbered, Option.map_map, Function.comp_def]
  simp [unpriced, Canvas.unpriced, holding, withCanvas, hnumbered]

/-- Of the candles only the times are seen on a pane without prices. -/
theorem map_unpriced_content {candles candles' : List Candle}
    (h : candles.map Candle.time = candles'.map Candle.time)
    (series : List (String × PlannedSeries)) (pane : String) :
    (content candles series pane).map Series.unpriced =
      (content candles' series pane).map Series.unpriced := by
  have hcandles : candles.map Candle.unpriced = candles'.map Candle.unpriced := by
    have hcomp := congrArg (List.map fun t => (⟨t, 0.0, 0.0, 0.0, 0.0, 0.0⟩ : Candle)) h
    rw [List.map_map, List.map_map] at hcomp
    exact hcomp
  unfold content
  rw [List.map_append, List.map_append]
  split
  · simp [Series.unpriced, SeriesData.unpriced, hcandles]
  · rfl

/-- Without prices, what a plan draws depends on its candles only by their times. -/
theorem Plan.unpriced_drawn (plan : Plan) {candles : List Candle} (trades : TradeTable)
    (h : candles.map Candle.time = plan.candles.map Candle.time) (width : Nat) (p : Panes) :
    ({ plan with candles, trades }.drawn width p).mapViews View.unpriced =
      (plan.drawn width p).mapViews View.unpriced := by
  have hfilled : ({ plan with candles, trades }.filled width p).mapViews View.unpriced =
      (plan.filled width p).mapViews View.unpriced := by
    simp only [Panes.mapViews, filled, Panes.filled, List.map_map, Function.comp_def,
      View.unpriced_holding, map_unpriced_content h]
    rfl
  rw [mapViews_drawn View.look_unpriced, mapViews_drawn View.look_unpriced, hfilled]

theorem length_content (candles candles' : List Candle) (series : List (String × PlannedSeries))
    (pane : String) :
    (content candles series pane).length = (content candles' series pane).length := by
  unfold content
  split <;> simp

/-- Where the series stand does not depend on the candles. -/
theorem handles_eq (candles candles' : List Candle) (series : List (String × PlannedSeries)) :
    handles candles series = handles candles' series := by
  simp only [handles, length_content candles candles']

/-! ## Loading -/

namespace Chart

/-- Whatever happened before, the order of the records makes no difference to a load : it succeeds
or fails alike, the prices span the same range, every indicator goes to the same pane under the same
handle, and the views are the same but for the prices of candles. If the valid records have times of
their own the charts are the same in everything. A load succeeds if there is no main view yet, and
then shows the candles of the records by time, those of one time in the order of the records. -/
theorem load_perm (settings : Settings) (feed : Feed) (happenings : List Happening)
    (overrides : String → Option Overrides) (document : ChartDocument) {raw : List RawCandle}
    (hperm : raw.Perm document.candlestick) :
    let c := history settings feed happenings
    let first := c.load fun _ => ⟨.ok document, overrides⟩
    let second := c.load fun _ => ⟨.ok { document with candlestick := raw }, overrides⟩
    priceRange (sortByTime (sanitize raw)) =
        priceRange (sortByTime (sanitize document.candlestick)) ∧
      second.2 = first.2 ∧
      second.1.loaded.map LoadedChart.assignment = first.1.loaded.map LoadedChart.assignment ∧
      second.1.router = first.1.router ∧
      second.1.panes.mapViews View.unpriced = first.1.panes.mapViews View.unpriced ∧
      (((document.candlestick.filter RawCandle.isValid).map RawCandle.seconds?).Nodup →
        second = first) ∧
      (first.2 = .ok () ↔ mainPane ∉ c.panes.names) ∧
      (first.2 = .ok () → ∃ shown, first.1.loaded = some shown ∧
        shown.candles.Perm (sanitize document.candlestick) ∧
        (shown.candles.Pairwise fun a b => a.time ≤ b.time) ∧
        ∀ t : Int, shown.candles.filter (·.time = t) =
          (sanitize document.candlestick).filter (·.time = t)) := by
  intro c first second
  have h : c.Standing settings := standing_history settings feed happenings
  refine ⟨priceRange_eq_of_perm document hperm, ?_⟩
  rcases h.grounded with ⟨hv, -, hr⟩ | hmain
  · let plan := Plan.build c.settings (overrides document.metadata.strategyName) document
    let candles := sortByTime (sanitize raw)
    let given : Feed := fun _ => ⟨.ok document, overrides⟩
    let permuted : Feed := fun _ => ⟨.ok { document with candlestick := raw }, overrides⟩
    have hd : (given c.loads).document = .ok document := rfl
    have hd' : (permuted c.loads).document = .ok { document with candlestick := raw } := rfl
    obtain ⟨r, hfirst, hrouter⟩ := load_of_empty hv h.wired.faults hr hd
    obtain ⟨r', hsecond, hrouter'⟩ := load_of_empty hv h.wired.faults hr hd'
    have hplan := Plan.build_of_perm c.settings (overrides document.metadata.strategyName)
      document hperm
    simp only [permuted, hplan] at hsecond hrouter'
    have hsame : r' = r :=
      KeyMap.ext ((hrouter'.trans (handles_eq _ _ _)).trans hrouter.symm)
    have htimes : candles.map Candle.time = plan.candles.map Candle.time :=
      times_sortByTime_eq_of_perm (sanitize_perm hperm)
    have hviews := plan.unpriced_drawn (.build document.strategy candles) htimes c.width c.panes
    have hdistinct : ((document.candlestick.filter RawCandle.isValid).map
        RawCandle.seconds?).Nodup → candles = plan.candles := by
      intro hn
      rw [← map_time_sanitize, ← Function.comp_def, ← List.map_map] at hn
      exact (sortByTime_eq_of_perm (sanitize_perm hperm).symm (.of_map _ hn)).symm
    have hfirst : first = _ := hfirst
    have hsecond : second = _ := hsecond
    rw [hfirst, hsecond, hsame]
    refine ⟨rfl, rfl, rfl, hviews, fun hn => ?_, ?_, fun _ => ⟨_, rfl, ?_, ?_, ?_⟩⟩
    · rw [show sortByTime (sanitize raw) = _ from hdistinct hn]
      rfl
    · simp [Panes.names, hv]
    · exact perm_sortByTime _
    · exact pairwise_sortByTime _
    · exact filter_sortByTime _
  · have hfirst : first = _ := load_of_main hmain rfl
    have hsecond : second = _ := load_of_main hmain rfl
    rw [hsecond, hfirst]
    refine ⟨rfl, rfl, rfl, rfl, fun _ => rfl, ?_, fun hok => ?_⟩
    · simp [hmain]
    · simp at hok

/-- Two records a minute apart make the same chart in either order. -/
theorem load_perm_swapped :
    ([.steady 60000, .steady 0] : List RawCandle).Perm [.steady 0, .steady 60000] ∧
      ((history {} (fun _ => .unavailable) []).load fun _ =>
        ⟨.ok { candlestick := [.steady 60000, .steady 0] }, fun _ => none⟩) =
      (history {} (fun _ => .unavailable) []).load fun _ =>
        ⟨.ok { candlestick := [.steady 0, .steady 60000] }, fun _ => none⟩ := by
  have htime : ∀ ms : Int, -(2 ^ 53) ≤ ms → ms ≤ 2 ^ 53 →
      (RawCandle.steady ms).seconds? = some (ms / 1000) :=
    fun ms hlow hhigh => RawCandle.OpensAt.seconds? (.inl ⟨rfl, hlow, hhigh⟩)
  have hzero := htime 0 (by omega) (by omega)
  have hminute := htime 60000 (by omega) (by omega)
  have hvalid : (RawCandle.steady 0).isValid = true ∧ (RawCandle.steady 60000).isValid = true :=
    ⟨RawCandle.isValid_steady (by simp [hzero]), RawCandle.isValid_steady (by simp [hminute])⟩
  have hn : (([.steady 0, .steady 60000] : List RawCandle).filter RawCandle.isValid
      |>.map RawCandle.seconds?).Nodup := by
    simp [hvalid.1, hvalid.2, hzero, hminute]
  exact ⟨.swap .., (load_perm {} (fun _ => .unavailable) [] (fun _ => none)
    { candlestick := [.steady 0, .steady 60000] } (.swap ..)).2.2.2.2.2.1 hn⟩

end Chart

end MarketChart
