import Mathlib.Data.List.Nodup
import MarketChart.Proofs.KeyMapLookup
import MarketChart.Proofs.ViewSteps

/-!
# The ids of series

The series of a canvas have ids of their own, all below the counter that the next id is drawn from
(`Canvas.Numbered`). Lines and histograms are the series of indicators; `Canvas.plotIds` lists their
ids. `View.Restocks` says what an operation on the series of a view does to that list: adding a
series appends its id unless it is a candlestick, new data leave it alone, and removing a series
takes out its id.
-/

namespace MarketChart

/-- The kind is that of an indicator, a line or a histogram. -/
def SeriesKind.isPlot : SeriesKind → Bool
  | .candlestick _ => false
  | _ => true

theorem kind_ofKind (kind : SeriesKind) : (Series.ofKind kind).kind = kind := by
  cases kind <;> rfl

namespace Canvas

variable {L : Type}

/-- Series have ids of their own, and the next id is above them all. -/
structure Numbered (c : Canvas L) : Prop where
  distinct : (c.series.map (·.1)).Nodup
  below : ∀ e ∈ c.series, e.1 < c.nextId

/-- The ids of lines and histograms. -/
def plotIds (c : Canvas L) : List Nat := (c.series.filter (·.2.kind.isPlot)).map (·.1)

theorem mem_plotIds {c : Canvas L} {id : Nat} :
    id ∈ c.plotIds ↔ ∃ s, (id, s) ∈ c.series ∧ s.kind.isPlot = true := by
  simp [plotIds]

theorem Numbered.series?_eq_some_iff {c : Canvas L} (h : c.Numbered) {id : Nat} {s : Series} :
    c.series? id = some s ↔ (id, s) ∈ c.series := lookup_eq_some_iff h.distinct

theorem Numbered.lt_of_mem_plotIds {c : Canvas L} (h : c.Numbered) {id : Nat}
    (hid : id ∈ c.plotIds) : id < c.nextId := by
  obtain ⟨s, hs, -⟩ := mem_plotIds.1 hid
  exact h.below _ hs

/-! ## Operations -/

/-- The canvas with a series added. -/
def adding (c : Canvas L) (kind : SeriesKind) : Canvas L :=
  { c with series := c.series ++ [(c.nextId, .ofKind kind)], nextId := c.nextId + 1 }

theorem addSeries_of_alive {c : Canvas L} (h : c.removed = false) (kind : SeriesKind) :
    c.addSeries kind = .ok (c.adding kind, c.nextId) := by
  simp [addSeries, alive, h, Except.map, adding]

theorem Numbered.adding {c : Canvas L} (h : c.Numbered) (kind : SeriesKind) :
    (c.adding kind).Numbered where
  distinct := by
    rw [Canvas.adding, List.map_append, List.nodup_append]
    refine ⟨h.distinct, List.nodup_singleton _, fun i hi j hj => ?_⟩
    obtain ⟨e, he, rfl⟩ := List.mem_map.1 hi
    rw [List.mem_singleton.1 hj]
    exact Nat.ne_of_lt (h.below e he)
  below := by
    intro e he
    rcases List.mem_append.1 he with he | he
    · exact Nat.lt_succ_of_lt (h.below e he)
    · rw [List.mem_singleton.1 he]
      exact Nat.lt_succ_self _

theorem plotIds_adding (c : Canvas L) (kind : SeriesKind) :
    (c.adding kind).plotIds = c.plotIds ++ if kind.isPlot then [c.nextId] else [] := by
  rw [plotIds, adding, List.filter_append, List.map_append]
  cases hk : kind.isPlot <;> simp [plotIds, kind_ofKind, hk]

/-- The canvas with the data of a series replaced. -/
def supplying (c : Canvas L) (id : Nat) (data : SeriesData) : Canvas L :=
  { c with series := c.series.map fun e => if e.1 = id then (e.1, { e.2 with data }) else e }

theorem setData_eq_ok {c c' : Canvas L} {id : Nat} {data : SeriesData}
    (h : c.setData id data = .ok c') : c' = c.supplying id data := by
  unfold setData holding at h
  split at h
  · simp [Except.map] at h
  · split at h
    · simp [Except.map] at h
    · simpa [Except.map, supplying] using h.symm

theorem ids_supplying (c : Canvas L) (id : Nat) (data : SeriesData) :
    (c.supplying id data).series.map (·.1) = c.series.map (·.1) := by
  simp only [supplying, List.map_map]
  refine List.map_congr_left fun e _ => ?_
  simp only [Function.comp]
  split <;> rfl

theorem Numbered.supplying {c : Canvas L} (h : c.Numbered) (id : Nat) (data : SeriesData) :
    (c.supplying id data).Numbered where
  distinct := by
    rw [ids_supplying]
    exact h.distinct
  below := by
    intro e he
    have hmem : e.1 ∈ (c.supplying id data).series.map (·.1) := List.mem_map_of_mem he
    rw [ids_supplying] at hmem
    obtain ⟨x, hx, hid⟩ := List.mem_map.1 hmem
    exact hid ▸ h.below x hx

theorem plotIds_supplying (c : Canvas L) (id : Nat) (data : SeriesData) :
    (c.supplying id data).plotIds = c.plotIds := by
  have hkind : ∀ e : Nat × Series,
      ((if e.1 = id then (e.1, { e.2 with data }) else e).2.kind = e.2.kind) ∧
        (if e.1 = id then (e.1, { e.2 with data }) else e).1 = e.1 := by
    intro e
    split <;> exact ⟨rfl, rfl⟩
  simp only [plotIds, supplying, List.filter_map, List.map_map, Function.comp_def, hkind]

/-- The canvas without a series. -/
def lacking (c : Canvas L) (id : Nat) : Canvas L :=
  { c with series := c.series.filter (·.1 ≠ id) }

theorem removeSeries_of_mem {c : Canvas L} (h : c.removed = false) (hn : c.Numbered) {id : Nat}
    (hid : id ∈ c.plotIds) : c.removeSeries id = .ok (c.lacking id) := by
  obtain ⟨s, hs, -⟩ := mem_plotIds.1 hid
  simp [removeSeries, holding, h, hn.series?_eq_some_iff.2 hs, Except.map, lacking]

theorem Numbered.lacking {c : Canvas L} (h : c.Numbered) (id : Nat) :
    (c.lacking id).Numbered where
  distinct := h.distinct.sublist (List.filter_sublist.map _)
  below := fun e he => h.below e (List.mem_of_mem_filter he)

theorem plotIds_lacking (c : Canvas L) (id : Nat) :
    (c.lacking id).plotIds = c.plotIds.filter (· ≠ id) := by
  simp only [plotIds, lacking, List.filter_map, List.filter_filter, Function.comp_def]
  congr 1
  refine List.filter_congr fun e _ => Bool.and_comm ..

end Canvas

namespace View

/-- `u` is the view `v` after an operation on its series, with lines and histograms under `ids`. -/
structure Restocks (v u : View) (ids : List Nat) : Prop where
  steady : v.Steady u
  numbered : v.canvas.Numbered → u.canvas.Numbered
  plotIds : u.canvas.plotIds = ids

theorem addSeries_of_alive {v : View} (h : v.canvas.removed = false) (kind : SeriesKind) :
    v.addSeries [] kind = .ok (v.withCanvas (v.canvas.adding kind), v.canvas.nextId) := by
  rw [addSeries, attempt_nil, Canvas.addSeries_of_alive h]
  rfl

theorem restocks_adding (v : View) (kind : SeriesKind) :
    v.Restocks (v.withCanvas (v.canvas.adding kind))
      (v.canvas.plotIds ++ if kind.isPlot then [v.canvas.nextId] else []) :=
  ⟨steady_withCanvas rfl rfl rfl rfl, fun h => h.adding kind, Canvas.plotIds_adding ..⟩

theorem restocks_setData {v u : View} {id : Nat} {data : SeriesData}
    (h : v.setData [] id data = .ok u) : v.Restocks u v.canvas.plotIds := by
  have hsteady := steady_setData h
  rw [setData, attempt_nil] at h
  cases hc : v.canvas.setData id data with
  | error cause => simp [hc, Except.map] at h
  | ok c =>
    obtain rfl : v.withCanvas c = u := by simpa [hc, Except.map] using h
    obtain rfl := Canvas.setData_eq_ok hc
    exact ⟨hsteady, fun hn => hn.supplying id data, Canvas.plotIds_supplying ..⟩

theorem removeSeries_of_mem {v : View} (h : v.canvas.removed = false) (hn : v.canvas.Numbered)
    {id : Nat} (hid : id ∈ v.canvas.plotIds) :
    v.removeSeries [] id = .ok (v.withCanvas (v.canvas.lacking id)) := by
  rw [removeSeries, attempt_nil, Canvas.removeSeries_of_mem h hn hid]
  rfl

theorem restocks_lacking (v : View) (id : Nat) :
    v.Restocks (v.withCanvas (v.canvas.lacking id)) (v.canvas.plotIds.filter (· ≠ id)) :=
  ⟨steady_withCanvas rfl rfl rfl rfl, fun h => h.lacking id, Canvas.plotIds_lacking ..⟩

end View

end MarketChart
