import Mathlib.Data.List.Induction
import MarketChart.Chart.Stage
import MarketChart.Proofs.KeyMapLookup
import MarketChart.Proofs.PaneRuns

/-!
# What drawing a plan leaves on the panes

Where there are no panes yet, a plan is drawn without failure. The views come in the order of the
layout (`Plan.frames`), every pane holds the candles if it is the main one and then the series of
its indicators by name (`Plan.content`), and the ids of the series count from one on each pane
(`Plan.handles`). `Plan.draw_eq` puts it together.

While series are added, the panes are always frames that hold some content (`Panes.filled`); each
step adds one series to the content of one pane (`drawCandles_filled`, `drawSeries_filled`).
-/

namespace MarketChart

/-! ## Series on a view -/

/-- Series under ids that count from one. -/
def numbered (series : List Series) : List (Nat × Series) := series.mapIdx fun i s => (i + 1, s)

theorem numbered_append (series rest : List Series) : numbered (series ++ rest) =
    numbered series ++ rest.mapIdx fun i s => (i + series.length + 1, s) := List.mapIdx_append

theorem numbered_concat (series : List Series) (s : Series) :
    numbered (series ++ [s]) = numbered series ++ [(series.length + 1, s)] := List.mapIdx_concat

theorem map_snd_numbered (series : List Series) : (numbered series).map (·.2) = series := by
  refine List.ext_getElem? fun i => ?_
  cases h : series[i]? <;> simp [numbered, h]

theorem le_of_mem_numbered {series : List Series} {e : Nat × Series} (h : e ∈ numbered series) :
    e.1 ≤ series.length := by
  obtain ⟨i, hi, rfl⟩ := List.mem_mapIdx.1 h
  exact hi

theorem lookup_numbered (series : List Series) (i : Nat) :
    (numbered series).lookup (i + 1) = series[i]? := by
  induction series using List.reverseRecOn with
  | nil => rfl
  | append_singleton series s ih =>
    rw [numbered_concat, List.lookup_append, ih, List.lookup_cons, List.lookup_nil]
    rcases Nat.lt_trichotomy i series.length with hi | rfl | hi
    · simp [hi, List.getElem?_append_left]
    · simp
    · have hb : (i + 1 == series.length + 1) = false := beq_eq_false_iff_ne.2 (by omega)
      have hnone : (series ++ [s])[i]? = none := by
        rw [List.getElem?_eq_none_iff, List.length_append, List.length_singleton]
        exact hi
      simp [hb, hnone, Nat.le_of_lt hi]

namespace View

/-- The view with series on it and nothing else that ever drew an id. -/
def holding (v : View) (series : List Series) : View :=
  v.withCanvas { v.canvas with series := numbered series, nextId := series.length + 1 }

@[simp] theorem name_holding (v : View) (series : List Series) : (v.holding series).name = v.name :=
  rfl

@[simp] theorem serial_holding (v : View) (series : List Series) :
    (v.holding series).serial = v.serial := rfl

/-- A view that was just made. -/
def blank (name : String) (container : Container) (height serial : Nat) : View where
  name := name
  container := container
  canvas := { container := container.id, width := container.width, height }
  serial := serial

theorem addSeries_holding {v : View} (h : v.canvas.removed = false) (series : List Series)
    (kind : SeriesKind) : (v.holding series).addSeries [] kind =
      .ok (v.holding (series ++ [.ofKind kind]), series.length + 1) := by
  have hc : (v.holding series).canvas.alive = .ok (v.holding series).canvas := by
    simp [Canvas.alive, holding, withCanvas, h]
  rw [addSeries, attempt_nil, Canvas.addSeries, hc]
  simp [Except.map, holding, withCanvas, numbered_concat]

theorem setData_holding {v : View} (h : v.canvas.removed = false) (series : List Series)
    (s : Series) (data : SeriesData) :
    (v.holding (series ++ [s])).setData [] (series.length + 1) data =
      .ok (v.holding (series ++ [{ s with data }])) := by
  have hs : (numbered (series ++ [s])).lookup (series.length + 1) = some s := by
    simp [lookup_numbered]
  have hc : (v.holding (series ++ [s])).canvas.holding (series.length + 1) =
      .ok (v.holding (series ++ [s])).canvas := by
    simp [Canvas.holding, Canvas.series?, holding, withCanvas, h, hs]
  have hmap : (numbered series).map (fun e => if e.1 = series.length + 1 then
      (e.1, (⟨e.2.kind, data⟩ : Series)) else e) = numbered series := by
    refine (List.map_congr_left fun e he => ?_).trans (List.map_id _)
    have hle := le_of_mem_numbered he
    exact if_neg (by omega)
  rw [setData, attempt_nil, Canvas.setData, hc]
  simp [Except.map, holding, withCanvas, numbered_concat, hmap]

/-- `u` holds the same series as `v`, in the same place. -/
structure SameDrawing (v u : View) : Prop where
  name : u.name = v.name
  container : u.container = v.container
  height : u.canvas.height = v.canvas.height
  series : u.canvas.series = v.canvas.series

theorem SameDrawing.trans {v u x : View} (h : v.SameDrawing u) (h' : u.SameDrawing x) :
    v.SameDrawing x :=
  ⟨h'.name.trans h.name, h'.container.trans h.container, h'.height.trans h.height,
    h'.series.trans h.series⟩

theorem sameDrawing_fitted (v : View) : v.SameDrawing v.fitted := by
  unfold fitted
  split <;> exact ⟨rfl, rfl, rfl, rfl⟩

theorem sameDrawing_resubscribe (v : View) (i : Nat) :
    v.SameDrawing (v.unsubscribe.subscribe i) := by
  unfold unsubscribe
  split <;> exact ⟨rfl, rfl, rfl, rfl⟩

end View

/-! ## Frames that hold content -/

theorem Panes.view?_of_mem_names {p : Panes} {name : String} (h : name ∈ p.names) :
    ∃ v, p.view? name = some v ∧ v.name = name := by
  obtain ⟨u, hu, rfl⟩ := List.mem_map.1 h
  cases hv : p.view? u.name with
  | none => simpa using List.find?_eq_none.1 hv u hu
  | some v => exact ⟨v, rfl, by simpa using List.find?_some hv⟩

/-- Views on which series can be drawn : they are there, and each has a name and a serial of its
own. -/
structure Frames (frames : List View) : Prop where
  names : (frames.map View.name).Nodup
  serials : (frames.map View.serial).Nodup
  there : ∀ u ∈ frames, u.canvas.removed = false

namespace Panes

/-- The panes whose views are frames that hold the content of their names. -/
def filled (p : Panes) (frames : List View) (content : String → List Series) : Panes :=
  { p with views := frames.map fun u => u.holding (content u.name) }

@[simp] theorem faults_filled (p : Panes) (frames : List View) (content : String → List Series) :
    (p.filled frames content).faults = p.faults := rfl

theorem view?_filled {frames : List View} (h : Frames frames) (p : Panes)
    (content : String → List Series) {u : View} (hu : u ∈ frames) :
    (p.filled frames content).view? u.name = some (u.holding (content u.name)) := by
  have hfind := find?_name_of_mem h.names hu
  simp only [view?, filled, List.find?_map, Function.comp_def, View.name_holding, hfind]
  rfl

theorem put_filled {frames : List View} (h : Frames frames) (p : Panes)
    (content : String → List Series) {u : View} (hu : u ∈ frames) (series : List Series) :
    (p.filled frames content).put (u.holding series) =
      p.filled frames (Function.update content u.name series) := by
  have hviews : ∀ x ∈ frames, (if (x.holding (content x.name)).serial = (u.holding series).serial
      then u.holding series else x.holding (content x.name)) =
        x.holding (Function.update content u.name series x.name) := by
    intro x hx
    by_cases hxu : x = u
    · subst hxu
      simp
    · have hserial : x.serial ≠ u.serial := fun he =>
        hxu (List.inj_on_of_nodup_map h.serials hx hu he)
      have hname : x.name ≠ u.name := fun he => hxu (List.inj_on_of_nodup_map h.names hx hu he)
      simp [hserial, hname]
  rw [put, filled, filled, List.map_map]
  simp only [Panes.mk.injEq, and_true]
  exact List.map_congr_left hviews

end Panes

/-! ## Drawing on frames -/

/-- The series of an indicator as it stands on a canvas. -/
def PlannedSeries.onCanvas (s : PlannedSeries) : Series := ⟨s.config.seriesKind, .points s.points⟩

namespace Stage

section

variable {frames : List View} (h : Frames frames) {p : Panes} (hf : p.faults = [])
  (content : String → List Series) {u : View} (hu : u ∈ frames)

include h hf hu

/-- Drawing candles adds them to the content of the main pane. -/
theorem drawCandles_filled (hmain : u.name = mainPane) (candles : List Candle) (r : Router) :
    drawCandles candles ⟨p.filled frames content, r⟩ =
      (⟨p.filled frames (Function.update content mainPane
        (content mainPane ++ [⟨.candlestick {}, .candles candles⟩])), r⟩, none) := by
  have hadd := View.addSeries_holding (h.there u hu) (content u.name) (.candlestick {})
  have hset := View.setData_holding (h.there u hu) (content u.name)
    (.ofKind (.candlestick {})) (.candles candles)
  simp only [drawCandles, ← hmain, Panes.view?_filled h p content hu, Panes.faults_filled, hf, hadd,
    put, Panes.put_filled h p _ hu, hset, Function.update_idem]
  rfl

/-- Drawing an indicator adds its series to the content of its pane. -/
theorem drawSeries_filled {s : PlannedSeries} (hname : s.config.paneName = u.name) (key : String)
    (r : Router) : drawSeries key s ⟨p.filled frames content, r⟩ =
      (⟨p.filled frames (Function.update content u.name (content u.name ++ [s.onCanvas])),
        r.insert key ⟨u.name, (content u.name).length + 1⟩⟩, none) := by
  have hadd := View.addSeries_holding (h.there u hu) (content u.name) s.config.seriesKind
  have hkind : Series.ofKind s.config.seriesKind = ⟨s.config.seriesKind, .points []⟩ := by
    unfold SeriesConfig.seriesKind SeriesKind.ofPlot
    split <;> rfl
  have hset := View.setData_holding (h.there u hu) (content u.name)
    ⟨s.config.seriesKind, .points []⟩ (.points s.points)
  rw [hkind] at hadd
  simp only [drawSeries, Router.route, hname, Panes.view?_filled h p content hu,
    Panes.faults_filled, hf, hadd, inContext, Except.map, Panes.put_filled h p _ hu, drawPoints]
  split
  · next hempty =>
    have hnil : s.points = [] := by simpa using hempty
    simp [PlannedSeries.onCanvas, hnil]
  · simp only [Panes.view?_filled h p _ hu, Function.update_self, hset, put,
      Panes.put_filled h p _ hu, Function.update_idem]
    rfl

end

theorem inTurn_append {s s' : Stage} : ∀ {steps : List Step} (rest : List Step),
    inTurn steps s = (s', none) → inTurn (steps ++ rest) s = inTurn rest s'
  | [], rest, h => by
    obtain rfl : s = s' := congrArg Prod.fst h
    rfl
  | step :: steps, rest, h => by
    rw [List.cons_append, inTurn]
    rw [inTurn] at h
    split at h
    · next s'' hstep => exact inTurn_append rest h
    · simp at h

end Stage

/-- What the candles and series of a plan put on a pane : the candles on the main one, and then the
series of the pane. -/
def content (candles : List Candle) (series : List (String × PlannedSeries)) (pane : String) :
    List Series :=
  (if pane = mainPane then [⟨.candlestick {}, .candles candles⟩] else []) ++
    (series.filter (·.2.config.paneName = pane)).map fun e => e.2.onCanvas

/-- Where the series of a plan stand : each under the first id that the series before it left free
on its pane. -/
def handles (candles : List Candle) (series : List (String × PlannedSeries)) :
    List (String × Handle) :=
  series.mapIdx fun i e => (e.1, ⟨e.2.config.paneName,
    (content candles (series.take i) e.2.config.paneName).length + 1⟩)

theorem content_append (candles : List Candle) (series rest : List (String × PlannedSeries))
    (pane : String) : content candles (series ++ rest) pane = content candles series pane ++
      (rest.filter (·.2.config.paneName = pane)).map fun e => e.2.onCanvas := by
  simp [content]

theorem content_concat (candles : List Candle) (series : List (String × PlannedSeries))
    (e : String × PlannedSeries) : content candles (series ++ [e]) =
      Function.update (content candles series) e.2.config.paneName
        (content candles series e.2.config.paneName ++ [e.2.onCanvas]) := by
  funext pane
  rw [content_append]
  by_cases hp : pane = e.2.config.paneName
  · subst hp
    simp
  · simp [hp, Ne.symm hp]

theorem handles_concat (candles : List Candle) (series : List (String × PlannedSeries))
    (e : String × PlannedSeries) : handles candles (series ++ [e]) = handles candles series ++
      [(e.1, ⟨e.2.config.paneName, (content candles series e.2.config.paneName).length + 1⟩)] := by
  rw [handles, List.mapIdx_concat, List.take_left]
  congr 1
  refine List.mapIdx_eq_mapIdx_iff.2 fun i hi => ?_
  rw [List.take_append_of_le_length (Nat.le_of_lt hi)]

theorem keys_handles (candles : List Candle) (series : List (String × PlannedSeries)) :
    (handles candles series).map (·.1) = series.map (·.1) := by
  refine List.ext_getElem? fun i => ?_
  simp [handles, Option.map_map, Function.comp_def]

/-- On a pane the ids above those of the candles are taken, one for each series. -/
theorem mem_handles_iff {candles : List Candle} {series : List (String × PlannedSeries)}
    {pane : String} {id : Nat} : ⟨pane, id⟩ ∈ (handles candles series).map (·.2) ↔
      (content candles [] pane).length < id ∧ id ≤ (content candles series pane).length := by
  induction series using List.reverseRecOn with
  | nil =>
    have hnone : handles candles [] = [] := rfl
    simp only [hnone, List.map_nil, List.not_mem_nil, false_iff]
    omega
  | append_singleton series e ih =>
    have hle : (content candles [] pane).length ≤ (content candles series pane).length := by
      have happend := content_append candles [] series pane
      rw [List.nil_append] at happend
      simp [happend]
    rw [handles_concat, List.map_append, List.mem_append, ih, content_concat]
    by_cases hp : pane = e.2.config.paneName
    · subst hp
      simp only [List.map_cons, List.map_nil, List.mem_singleton, Handle.mk.injEq, true_and,
        Function.update_self, List.length_append, List.length_singleton]
      omega
    · simp [hp]

theorem nodup_handles (candles : List Candle) (series : List (String × PlannedSeries)) :
    ((handles candles series).map (·.2)).Nodup := by
  induction series using List.reverseRecOn with
  | nil => exact List.nodup_nil
  | append_singleton series e ih =>
    rw [handles_concat, List.map_append, List.nodup_append]
    refine ⟨ih, List.nodup_singleton _, fun h hh h' hh' he => ?_⟩
    have hlast := List.mem_singleton.1 hh'
    rw [he, hlast, mem_handles_iff] at hh
    omega

/-- Under the handle of an indicator stands its series. -/
theorem series_of_mem_handles {candles : List Candle} {series : List (String × PlannedSeries)}
    {e : String × PlannedSeries} (he : e ∈ series) : ∃ id,
      (e.1, ⟨e.2.config.paneName, id⟩) ∈ handles candles series ∧
      (numbered (content candles series e.2.config.paneName)).lookup id = some e.2.onCanvas := by
  obtain ⟨before, after, rfl⟩ := List.append_of_mem he
  refine ⟨(content candles before e.2.config.paneName).length + 1,
    List.mem_mapIdx.2 ⟨before.length, by simp, by simp⟩, ?_⟩
  rw [lookup_numbered, content_append]
  simp

/-- The series of a pane that no indicator has are its candles. -/
theorem filter_numbered_content (candles : List Candle) (series : List (String × PlannedSeries))
    (pane : String) : (numbered (content candles series pane)).filter
      (fun e => ⟨pane, e.1⟩ ∉ (handles candles series).map (·.2)) =
        numbered (content candles [] pane) := by
  have happend := content_append candles [] series pane
  rw [List.nil_append] at happend
  have hfree : ∀ e ∈ numbered (content candles [] pane),
      ⟨pane, e.1⟩ ∉ (handles candles series).map (·.2) := by
    intro e he
    have hle := le_of_mem_numbered he
    rw [mem_handles_iff]
    omega
  have htaken : ∀ i < (content candles series pane).length, (content candles [] pane).length ≤ i →
      ⟨pane, i + 1⟩ ∈ (handles candles series).map (·.2) := by
    intro i hi hle
    rw [mem_handles_iff]
    omega
  rw [happend] at htaken ⊢
  rw [numbered_append, List.filter_append,
    List.filter_eq_self.2 fun e he => decide_eq_true (hfree e he), List.filter_eq_nil_iff.2,
    List.append_nil]
  · intro e he
    obtain ⟨i, hi, rfl⟩ := List.mem_mapIdx.1 he
    simpa using htaken (i + (content candles [] pane).length)
      (by rw [List.length_append]; omega) (by omega)

/-- Drawing series in the order of their names fills the frames. -/
theorem Stage.inTurn_drawSeries {frames : List View} (h : Frames frames) {p : Panes}
    (hf : p.faults = []) (candles : List Candle) : ∀ (rest series : List (String × PlannedSeries))
    (r : Router), SortedEntries (series ++ rest) →
    (∀ e ∈ rest, e.2.config.paneName ∈ frames.map View.name) → r.entries = handles candles series →
    ∃ r' : Router, inTurn (rest.map fun (key, s) => drawSeries key s)
        ⟨p.filled frames (content candles series), r⟩ =
        (⟨p.filled frames (content candles (series ++ rest)), r'⟩, none) ∧
      r'.entries = handles candles (series ++ rest)
  | [], series, r, _, _, hr => ⟨r, by simp [inTurn], by simpa using hr⟩
  | e :: rest, series, r, hs, hp, hr => by
    obtain ⟨u, hu, hname⟩ := List.mem_map.1 (hp e (by simp))
    have hstep := drawSeries_filled h hf (content candles series) hu hname.symm e.1 r
    have hlt : ∀ key ∈ r.entries.map (·.1), key < e.1 := by
      rw [hr, keys_handles]
      rintro key hkey
      obtain ⟨x, hx, rfl⟩ := List.mem_map.1 hkey
      exact (List.pairwise_append.1 hs).2.2 x hx e (by simp)
    have hinsert : (r.insert e.1 ⟨e.2.config.paneName,
        (content candles series e.2.config.paneName).length + 1⟩).entries =
          handles candles (series ++ [e]) := by
      rw [handles_concat, ← hr]
      exact insertEntry_of_forall_lt _ fun x hx => hlt _ (List.mem_map_of_mem hx)
    rw [hname, ← content_concat] at hstep
    obtain ⟨r', hdraw, hr'⟩ := inTurn_drawSeries h hf candles rest (series ++ [e]) _
      (by simpa using hs) (fun x hx => hp x (by simp [hx])) hinsert
    refine ⟨r', ?_, by simpa using hr'⟩
    simp only [List.map_cons, inTurn, hstep]
    simpa using hdraw

/-! ## Views seen in part -/

/-- A way to see views that leaves out nothing on which a new listener or a fit depends. -/
structure View.Look (see : View → View) : Prop where
  resubscribe : ∀ v i, see (v.unsubscribe.subscribe i) = (see v).unsubscribe.subscribe i
  fit : ∀ v faults s, (see v).fit faults s = (v.fit faults s).map fun (u, s) => (see u, s)

namespace Panes

/-- The panes with their views seen in part. -/
def mapViews (see : View → View) (p : Panes) : Panes := { p with views := p.views.map see }

section

variable {see : View → View} (h : View.Look see)

include h

theorem mapViews_synchronize (p : Panes) :
    p.synchronize.mapViews see = (p.mapViews see).synchronize := by
  have hviews : p.synchronize.views.map see = (p.mapViews see).synchronize.views := by
    refine List.ext_getElem? fun i => ?_
    rw [List.getElem?_map, getElem?_synchronize, getElem?_synchronize, Option.map_map, mapViews,
      List.getElem?_map, Option.map_map]
    simp only [Function.comp_def, h.resubscribe]
  rw [mapViews, hviews]
  rfl

theorem fitViews_map (faults : List Fault) : ∀ (views : List View) (s : Sync),
    fitViews faults (views.map see) s =
      ((fitViews faults views s).1.map see, (fitViews faults views s).2)
  | [], _ => rfl
  | v :: rest, s => by
    simp only [List.map_cons, fitViews, h.fit]
    cases v.fit faults s with
    | error cause => simp [Except.map, fitViews_map faults rest]
    | ok r => simp [Except.map, fitViews_map faults rest]

theorem mapViews_fitAll (p : Panes) :
    (p.change .fitAll).mapViews see = (p.mapViews see).change .fitAll := by
  simp only [change, fitContent, mapViews, fitViews_map h]

end

end Panes

/-! ## Making the frames -/

/-- The views of auxiliary panes before anything is drawn on them, their serials counted from
`serial`. -/
def auxiliaryFrames (width serial : Nat) (panes : List (String × PaneConfig)) : List View :=
  panes.mapIdx fun i (name, config) =>
    .blank name ⟨name ++ "-chart", width⟩ config.height (serial + i)

/-- The views of a plan before anything is drawn on them. -/
def Plan.frames (plan : Plan) (width serial : Nat) : List View :=
  .blank mainPane ⟨mainContainer, width⟩ plan.layout.main.height serial ::
    auxiliaryFrames width (serial + 1) plan.layout.auxiliary

theorem names_auxiliaryFrames (width serial : Nat) (panes : List (String × PaneConfig)) :
    (auxiliaryFrames width serial panes).map View.name = panes.map (·.1) := by
  refine List.ext_getElem? fun i => ?_
  simp [auxiliaryFrames, Option.map_map, Function.comp_def, View.blank]

theorem Stage.inTurn_createAuxiliary (width : Nat) (r : Router) :
    ∀ (panes : List (String × PaneConfig)) (p : Panes), p.faults = [] →
      (p.view? mainPane).map (·.container.width) = some width →
      (p.names ++ panes.map (·.1)).Nodup →
      inTurn (panes.map fun (name, config) => createAuxiliary name config.height) ⟨p, r⟩ =
        (⟨{ p with
          views := p.views ++ auxiliaryFrames width p.made panes
          made := p.made + panes.length }, r⟩, none)
  | [], p, _, _, _ => by simp [inTurn, auxiliaryFrames]
  | (name, config) :: panes, p, hf, hw, hn => by
    have hmem : mainPane ∈ p.names := by
      obtain ⟨v, hv, -⟩ := Option.map_eq_some_iff.1 hw
      have hname := List.find?_some hv
      exact List.mem_map.2 ⟨v, List.mem_of_find?_eq_some hv, by simpa using hname⟩
    have hnew : name ∉ p.names := fun hm =>
      (List.nodup_append.1 hn).2.2 name hm name (by simp) rfl
    have hmain : name ≠ mainPane := fun he => hnew (he ▸ hmem)
    have hcontainer : p.auxiliaryContainer name = ⟨name ++ "-chart", width⟩ := by
      simp [Panes.auxiliaryContainer, hw]
    let v := View.blank name ⟨name ++ "-chart", width⟩ config.height p.made
    have hcreate : p.createAuxiliary name config.height =
        .ok { p with views := p.views ++ [v], made := p.made + 1 } := by
      simp [Panes.createAuxiliary, hmain, hnew, Panes.refuses, hf, hcontainer, Panes.newView, v,
        View.blank]
    have hw' : (Panes.view? { p with views := p.views ++ [v], made := p.made + 1 } mainPane).map
        (·.container.width) = some width := by
      obtain ⟨u, hu, hwidth⟩ := Option.map_eq_some_iff.1 hw
      simp only [Panes.view?] at hu ⊢
      simp [hu, hwidth]
    have ih := inTurn_createAuxiliary width r panes
      { p with views := p.views ++ [v], made := p.made + 1 } hf hw'
      (by simpa [Panes.names, v, View.blank] using hn)
    simp only [List.map_cons, inTurn, createAuxiliary, onPanes, hcreate]
    refine ih.trans ?_
    simp [auxiliaryFrames, List.mapIdx_cons, v, Nat.add_assoc, Nat.add_comm 1]

theorem blank_of_mem_frames {plan : Plan} {width serial : Nat} {u : View}
    (h : u ∈ plan.frames width serial) :
    ∃ name container height serial, u = .blank name container height serial := by
  rcases List.mem_cons.1 h with rfl | h
  · exact ⟨_, _, _, _, rfl⟩
  · obtain ⟨i, hi, rfl⟩ := List.mem_mapIdx.1 h
    exact ⟨_, _, _, _, rfl⟩

theorem map_holding_nil_frames (plan : Plan) (width serial : Nat) :
    (plan.frames width serial).map (fun u => u.holding []) = plan.frames width serial := by
  refine (List.map_congr_left fun u hu => ?_).trans (List.map_id _)
  obtain ⟨_, _, _, _, rfl⟩ := blank_of_mem_frames hu
  rfl

theorem serials_frames (plan : Plan) (width serial : Nat) :
    (plan.frames width serial).map View.serial =
      List.range' serial (plan.layout.auxiliary.length + 1) := by
  refine List.ext_getElem (by simp [Plan.frames, auxiliaryFrames]) fun i hi hi' => ?_
  cases i with
  | zero => simp [Plan.frames, View.blank]
  | succ i =>
    simp only [Plan.frames, auxiliaryFrames, View.blank, List.map_cons, List.getElem_cons_succ,
      List.getElem_map, List.getElem_mapIdx, List.getElem_range']
    omega

/-- A new main pane and new auxiliary panes are frames to draw on. -/
theorem frames_frames (plan : Plan) (width serial : Nat)
    (hn : (mainPane :: plan.layout.auxiliary.map (·.1)).Nodup) :
    Frames (plan.frames width serial) where
  names := by simpa [Plan.frames, names_auxiliaryFrames, View.blank] using hn
  serials := by
    rw [serials_frames]
    exact List.nodup_range'
  there := by
    intro u hu
    obtain ⟨_, _, _, _, rfl⟩ := blank_of_mem_frames hu
    rfl

namespace Plan

/-- Every series of the plan has its pane in the layout, which names each pane once. -/
structure Placed (plan : Plan) : Prop where
  names : (mainPane :: plan.layout.auxiliary.map (·.1)).Nodup
  series : ∀ e ∈ plan.series.entries,
    e.2.config.paneName ∈ mainPane :: plan.layout.auxiliary.map (·.1)

/-- The panes with everything of the plan on them, before the views have listeners. -/
def filled (plan : Plan) (width : Nat) (p : Panes) : Panes :=
  { p with made := p.made + (plan.layout.auxiliary.length + 1) }.filled (plan.frames width p.made)
    (content plan.candles plan.series.entries)

/-- A plan is drawn without failure where there are no panes yet. -/
theorem inTurn_steps {plan : Plan} (hplan : plan.Placed) (width : Nat) {s : Stage}
    (hv : s.panes.views = []) (hf : s.panes.faults = []) (hr : s.router.entries = []) :
    ∃ r : Router, Stage.inTurn (plan.steps width) s = (⟨plan.filled width s.panes, r⟩, none) ∧
      r.entries = handles plan.candles plan.series.entries := by
  have hframes := frames_frames plan width s.panes.made hplan.names
  let main := View.blank mainPane ⟨mainContainer, width⟩ plan.layout.main.height s.panes.made
  let p : Panes := { s.panes with made := s.panes.made + (plan.layout.auxiliary.length + 1) }
  have hmain : Stage.createMain width plan.layout.main.height s =
      (⟨{ s.panes with views := [main], made := s.panes.made + 1 }, s.router⟩, none) := by
    simp [Stage.createMain, Stage.onPanes, Panes.createMain, Panes.names, hv, Panes.refuses, hf,
      Panes.newView, main, View.blank]
  have haux := Stage.inTurn_createAuxiliary width s.router plan.layout.auxiliary
    { s.panes with views := [main], made := s.panes.made + 1 } hf
    (by simp [Panes.view?, main, View.blank])
    (by simpa [Panes.names, main, View.blank] using hplan.names)
  have hcreate : Stage.inTurn (Stage.createMain width plan.layout.main.height ::
      plan.layout.auxiliary.map fun (name, config) => Stage.createAuxiliary name config.height) s =
      (⟨p.filled (plan.frames width s.panes.made) fun _ => [], s.router⟩, none) := by
    rw [Stage.inTurn, hmain]
    refine haux.trans ?_
    simp only [Panes.filled, map_holding_nil_frames]
    simp [p, Plan.frames, main, Nat.add_assoc, Nat.add_comm 1]
  have hcandles := Stage.drawCandles_filled hframes (p := p) hf (fun _ => [])
    (List.mem_cons_self ..) rfl plan.candles s.router
  have hplaced : ∀ e ∈ plan.series.entries,
      e.2.config.paneName ∈ (plan.frames width s.panes.made).map View.name := by
    rw [Plan.frames, List.map_cons, names_auxiliaryFrames]
    exact hplan.series
  obtain ⟨r, hseries, hrouter⟩ := Stage.inTurn_drawSeries hframes (p := p) hf plan.candles
    plan.series.entries [] s.router plan.series.sorted hplaced hr
  have hcontent : Function.update (fun _ => []) mainPane
      [⟨.candlestick {}, .candles plan.candles⟩] = content plan.candles [] := by
    funext pane
    simp [content, Function.update_apply]
  refine ⟨r, ?_, hrouter⟩
  rw [steps, Stage.inTurn_append _ hcreate, Stage.inTurn, hcandles]
  simp only [List.nil_append, hcontent]
  exact hseries

theorem wired_filled {plan : Plan} (hplan : plan.Placed) (width : Nat) {p : Panes}
    (hf : p.faults = []) (hc : p.sync.Coherent) (n : Nat → Nat) :
    (plan.filled width p).Wired n := by
  have hserials : (plan.filled width p).views.map View.serial =
      (plan.frames width p.made).map View.serial := by simp [filled, Panes.filled]
  refine ⟨hf, ?_, fun v hv => ?_, fun i v hv => ?_, hc⟩
  · rw [hserials]
    exact (frames_frames plan width p.made hplan.names).serials
  · have hmem : v.serial ∈ (plan.filled width p).views.map View.serial := List.mem_map_of_mem hv
    rw [hserials, serials_frames] at hmem
    exact (List.mem_range'_1.1 hmem).2
  · obtain ⟨u, hu, rfl⟩ := List.mem_map.1 (List.mem_of_getElem? hv)
    obtain ⟨_, _, _, _, rfl⟩ := blank_of_mem_frames hu
    exact ⟨rfl, rfl, .inl rfl⟩

/-- The panes on which a plan was drawn. -/
def drawn (plan : Plan) (width : Nat) (p : Panes) : Panes :=
  (plan.filled width p).synchronize.change .fitAll

theorem mapViews_drawn {see : View → View} (h : View.Look see) (plan : Plan) (width : Nat)
    (p : Panes) : (plan.drawn width p).mapViews see =
      ((plan.filled width p).mapViews see).synchronize.change .fitAll := by
  rw [drawn, Panes.mapViews_fitAll h, Panes.mapViews_synchronize h]

theorem draw_eq {plan : Plan} (hplan : plan.Placed) (width : Nat) {s : Stage}
    (hv : s.panes.views = []) (hf : s.panes.faults = []) (hr : s.router.entries = []) :
    ∃ r : Router, plan.draw width s =
        (⟨plan.drawn width s.panes, r⟩, none) ∧
      r.entries = handles plan.candles plan.series.entries := by
  obtain ⟨r, hsteps, hrouter⟩ := inTurn_steps hplan width hv hf hr
  exact ⟨r, by rw [draw, hsteps]; rfl, hrouter⟩

section

variable {plan : Plan} (hplan : plan.Placed) (width : Nat) {p : Panes} (hf : p.faults = [])
  (hc : p.sync.Coherent)

include hplan hf hc

/-- Putting up listeners and fitting the views leaves on them what was drawn. -/
theorem sameDrawing_drawn :
    (plan.filled width p).Alike View.SameDrawing (plan.drawn width p) := by
  rw [drawn, Panes.change_fitAll (wired_filled hplan width hf hc id).synchronize]
  refine ⟨List.forall₂_iff_get.2 ⟨by simp [Panes.synchronize], fun i hi hi' => ?_⟩, rfl, rfl⟩
  simp only [Panes.synchronize, List.get_eq_getElem, List.getElem_map, List.getElem_mapIdx]
  exact (View.sameDrawing_resubscribe _ i).trans (View.sameDrawing_fitted _)

theorem wired_drawn : (plan.drawn width p).Wired id := by
  have hwired := (wired_filled hplan width hf hc id).synchronize
  exact hwired.step (Panes.step_fitAll hwired)

theorem names_drawn :
    (plan.drawn width p).names = mainPane :: plan.layout.auxiliary.map (·.1) := by
  have hnames := (sameDrawing_drawn hplan width hf hc).map_eq fun _ _ h => h.name
  rw [Panes.names, hnames]
  simp [filled, Panes.filled, Function.comp_def, frames, names_auxiliaryFrames, View.blank]

/-- What is on a view once the plan is drawn. -/
theorem of_mem_drawn {v : View} (hv : v ∈ (plan.drawn width p).views) :
    v.canvas.series = numbered (content plan.candles plan.series.entries v.name) ∧
      ((v.name = mainPane ∧ v.canvas.height = plan.layout.main.height) ∨
        ∃ e ∈ plan.layout.auxiliary, v.name = e.1 ∧ v.canvas.height = e.2.height) := by
  obtain ⟨x, hx, hsame⟩ := (sameDrawing_drawn hplan width hf hc).of_mem hv
  obtain ⟨u, hu, rfl⟩ := List.mem_map.1 hx
  have hname : v.name = u.name := hsame.name
  have hheight : v.canvas.height = u.canvas.height := hsame.height
  rw [hsame.series, hname, hheight]
  refine ⟨rfl, ?_⟩
  rcases List.mem_cons.1 hu with rfl | hu
  · exact .inl ⟨rfl, rfl⟩
  · obtain ⟨j, hj, rfl⟩ := List.mem_mapIdx.1 hu
    exact .inr ⟨_, List.getElem_mem hj, rfl, rfl⟩

end

end Plan

end MarketChart
