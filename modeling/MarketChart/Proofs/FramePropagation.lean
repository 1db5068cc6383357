import MarketChart.Proofs.PaneRuns

/-!
# Passing a window on at the next frame

From panes at rest, any sequence of changes is followed by a frame. The first view that took a
window while it carried a listener is the source, and the last window it took is what the frame
gives to the other views (`onFrame_after_changes`). What other views took in between, and what
their listeners hear of the frame itself, changes nothing about that.

The argument has two halves. The source that waits is the first view that was heard
(`source_foldl_note`), and the window that waits is always the one on view there
(`Panes.Shown`), which is the last that the view took.
-/

namespace MarketChart.Panes

/-! ## What waits -/

theorem source_note {s : Sync} {q : Pending} (hq : s.pending = some q) (t : Taken) :
    (note id s t).pending.map Pending.source = some q.source := by
  unfold note Sync.hear Sync.record
  split
  · rw [hq]
    simp only
    split
    · next h => simp [h]
    · simp [hq]
  · simp [hq]

/-- Once a window waits its source stays, and the first view that is heard becomes the source. -/
theorem source_foldl_note : ∀ (log : List Taken) {s : Sync}, s.Coherent →
    (log.foldl (note id) s).pending.map Pending.source =
      (s.pending.map Pending.source).or ((log.find? Taken.heard).map Taken.view)
  | [], s, _ => by simp
  | t :: log, s, h => by
    have hc : (note id s t).Coherent := h.hear _ _ _
    rw [List.foldl_cons, source_foldl_note log hc]
    cases hq : s.pending with
    | some q => simp [source_note hq]
    | none =>
      have hu : s.updating = false := by rw [h, hq]; rfl
      cases ht : t.heard with
      | true => simp [note, Sync.hear, Sync.record, hq, hu, ht]
      | false => simp [note, Sync.hear, hq, ht]

/-- The window that waits is on view at its source, which carries a listener. -/
def Shown (p : Panes) : Prop :=
  ∀ q, p.sync.pending = some q →
    ∃ v, p.views[q.source]? = some v ∧ v.canvas.window = some q.window ∧ v.listens = true

/-- A window that is taken while another waits replaces it only on the same view, and there the
listener hears of it. Here `ls` and `ws` say which views carry a listener and what they show. -/
theorem shown_note {ls : Nat → Bool} {ws : Nat → Option Window} {s : Sync} {t : Taken}
    (ht : t.heard = ls t.view)
    (h : ∀ q, s.pending = some q → ls q.source = true ∧ ws q.source = some q.window) :
    ∀ q, (note id s t).pending = some q →
      ls q.source = true ∧ latest q.source (ws q.source) [t] = some q.window := by
  intro q hq
  cases hheard : t.heard with
  | false =>
    have hs : s.pending = some q := by simpa [note, Sync.hear, hheard] using hq
    obtain ⟨hl, hw⟩ := h q hs
    have hne : t.view ≠ q.source := fun he => by simp [he, hl, hheard] at ht
    exact ⟨hl, by rw [latest_of_ne (by simpa using hne), hw]⟩
  | true =>
    simp only [note, Sync.hear, hheard, if_true, Sync.record, id] at hq
    cases hs : s.pending with
    | none =>
      rw [hs] at hq
      simp only at hq
      split at hq
      · simp [hs] at hq
      · obtain rfl := Option.some.inj hq
        exact ⟨ht ▸ hheard, by simp [latest]⟩
    | some q' =>
      obtain ⟨hl, hw⟩ := h q' hs
      rw [hs] at hq
      simp only at hq
      split at hq
      · obtain rfl := Option.some.inj hq
        exact ⟨ht ▸ hheard, by simp [latest]⟩
      · next hne =>
        obtain rfl : q' = q := by simpa [hs] using hq
        exact ⟨hl, by rw [latest_of_ne (by simpa using Ne.symm hne), hw]⟩

theorem shown_foldl_note (ls : Nat → Bool) : ∀ (log : List Taken) (ws : Nat → Option Window)
    {s : Sync}, (∀ t ∈ log, t.heard = ls t.view) →
    (∀ q, s.pending = some q → ls q.source = true ∧ ws q.source = some q.window) →
    ∀ q, (log.foldl (note id) s).pending = some q →
      ls q.source = true ∧ latest q.source (ws q.source) log = some q.window
  | [], ws, s, _, h, q, hq => by simpa [latest] using h q hq
  | t :: log, ws, s, hl, h, q, hq => by
    have ht := shown_note (hl t (by simp)) h
    have ih := shown_foldl_note ls log (fun i => latest i (ws i) [t])
      (fun t' ht' => hl t' (by simp [ht'])) ht q hq
    rwa [← latest_append] at ih

theorem Shown.step {p p' : Panes} {log : List Taken} (h : p.Shown) (hs : p.Step id p' log) :
    p'.Shown := by
  intro q hq
  have hheard : ∀ t ∈ log, t.heard = (p.views[t.view]?.map View.listens).getD false := by
    intro t ht
    obtain ⟨v, hv, hl⟩ := hs.heard t ht
    simp [hv, hl]
  have hshown : ∀ q, p.sync.pending = some q →
      (p.views[q.source]?.map View.listens).getD false = true ∧
        p.views[q.source]?.bind (·.canvas.window) = some q.window := by
    intro q hq
    obtain ⟨v, hv, hw, hl⟩ := h q hq
    simp [hv, hw, hl]
  rw [hs.sync] at hq
  obtain ⟨hl, hw⟩ := shown_foldl_note (fun i => (p.views[i]?.map View.listens).getD false) log
    (fun i => p.views[i]?.bind (·.canvas.window)) hheard hshown q hq
  obtain ⟨v, hv, hlv⟩ : ∃ v, p.views[q.source]? = some v ∧ v.listens = true := by
    cases hv : p.views[q.source]? with
    | none => simp [hv] at hl
    | some v => exact ⟨v, rfl, by simpa [hv] using hl⟩
  have hwin := hs.windows q.source
  rw [hv, Option.map_some] at hwin
  obtain ⟨u, hu, huw⟩ := Option.map_eq_some_iff.1 hwin
  obtain ⟨v', hv', hsteady⟩ := hs.alike.getElem? hu
  obtain rfl : v' = v := by simpa [hv'] using hv
  refine ⟨u, hu, ?_, hsteady.listens.trans hlv⟩
  rw [huw]
  simpa [hv] using hw

/-- Putting up new listeners changes neither the windows nor what waits. -/
theorem Shown.synchronize {p : Panes} (h : p.Shown) : p.synchronize.Shown := by
  intro q hq
  obtain ⟨v, hv, hw, -⟩ := h q hq
  refine ⟨v.unsubscribe.subscribe q.source, by simp [getElem?_synchronize, hv], ?_, ?_⟩
  · rw [View.window_resubscribe]
    exact hw
  · exact View.listens_subscribe _ _

theorem windows_synchronize (p : Panes) (i : Nat) :
    p.synchronize.views[i]?.map (·.canvas.window) = p.views[i]?.map (·.canvas.window) := by
  simp [getElem?_synchronize, Option.map_map, Function.comp_def, View.window_resubscribe]

/-! ## Whole sequences of changes -/

/-- The windows that views take in a sequence of changes, in order. -/
def takenIn : Panes → List Change → List Taken
  | _, [] => []
  | p, c :: rest => p.taken c ++ (p.change c).takenIn rest

/-- A sequence of changes does what its changes do : the listeners record all windows that were
taken, in order, and every view shows the last one it took. -/
theorem run_spec : ∀ (changes : List Change) {p : Panes}, p.Wired id → p.Shown →
    (p.run changes).Wired id ∧ (p.run changes).Shown ∧
      (p.run changes).sync = (p.takenIn changes).foldl (note id) p.sync ∧
      ∀ i, (p.run changes).views[i]?.map (·.canvas.window) =
        p.views[i]?.map fun v => latest i v.canvas.window (p.takenIn changes)
  | [], p, h, hs => ⟨h, hs, rfl, fun i => by simp [run, takenIn, latest]⟩
  | c :: rest, p, h, hs => by
    have hwindows : ∀ log, (∀ i, (p.change c).views[i]?.map (·.canvas.window) =
        p.views[i]?.map fun v => latest i v.canvas.window log) →
        ∀ log' i, ((p.change c).views[i]?.map fun v => latest i v.canvas.window log') =
          p.views[i]?.map fun v => latest i v.canvas.window (log ++ log') := by
      intro log hlog log' i
      have hi := congrArg (Option.map (latest i · log')) (hlog i)
      simpa [Option.map_map, Function.comp_def, ← latest_append] using hi
    by_cases hc : c = .synchronize
    · subst hc
      obtain ⟨hw, hsh, hsync, hwin⟩ := run_spec rest h.synchronize hs.synchronize
      refine ⟨hw, hsh, hsync, fun i => (hwin i).trans (hwindows [] (fun j => ?_) _ i)⟩
      simpa [latest, change] using windows_synchronize p j
    · have hstep := change_step h hc
      obtain ⟨hw, hsh, hsync, hwin⟩ := run_spec rest (h.step hstep) (hs.step hstep)
      refine ⟨hw, hsh, ?_, fun i => (hwin i).trans (hwindows _ hstep.windows _ i)⟩
      rw [takenIn, List.foldl_append, ← hstep.sync]
      exact hsync

/-! ## The next frame -/

/-- What a frame does to panes `p` when the view at position `s` moved to `w` : the source stays,
every other view that takes windows is set to `w`, one that refuses them stays, and then nothing
waits any more. -/
structure PassedOn (s : Nat) (w : Window) (p : Panes) (result : Panes × Nat) : Prop where
  length : result.1.views.length = p.views.length
  source : ∃ v, p.views[s]? = some v ∧ v.canvas.window = some w ∧ result.1.views[s]? = some v
  taking : ∀ i v, i ≠ s → p.views[i]? = some v → v.canvas.refuses = false →
    result.1.views[i]? = some (v.withCanvas
      { v.canvas with window := some w, updates := v.canvas.updates + 1 })
  refusing : ∀ i v, i ≠ s → p.views[i]? = some v → v.canvas.refuses = true →
    result.1.views[i]? = some v
  count : result.2 = p.views.zipIdx.countP fun (v, i) => i ≠ s && !v.canvas.refuses
  idle : result.1.hasPending = false
  again : result.1.onFrame = (result.1, 0)

theorem passedOn_onFrame {p : Panes} (h : p.Wired id) (hs : p.Shown) {q : Pending}
    (hq : p.sync.pending = some q) : PassedOn q.source q.window p p.onFrame := by
  obtain ⟨v, hv, hw, -⟩ := hs q hq
  rw [onFrame_of_pending h hq]
  exact {
    length := by simp
    source := ⟨v, hv, hw, by simp [hv]⟩
    taking := fun i v hi hv ht => by simp [hv, hi, View.setTo, ht, Canvas.moved]
    refusing := fun i v hi hv ht => by simp [hv, hi, View.setTo, ht]
    count := rfl
    idle := rfl
    again := onFrame_of_idle rfl }

/-- Let panes be at rest, with the main view there since listeners were put up, and change them in
any way. If some view took a window while it carried a listener, the next frame passes the last
window that the first such view took on to the others. If none did, the frame does nothing. -/
theorem onFrame_after_changes {p : Panes} (hp : p.Reachable) (hidle : p.hasPending = false)
    (hmain : p.MainSettled) (changes : List Change) :
    match (p.takenIn changes).find? Taken.heard with
    | none => (p.run changes).onFrame = (p.run changes, 0)
    | some first => ∃ last,
        ((p.takenIn changes).filter (·.view = first.view)).getLast? = some last ∧
        PassedOn first.view last.window (p.run changes) (p.run changes).onFrame := by
  have hwired := hp.wired_id hmain
  have hnone : p.sync.pending = none := by simpa [hasPending] using hidle
  have hshown : p.Shown := fun q hq => by simp [hnone] at hq
  obtain ⟨hw, hs, hsync, hwin⟩ := run_spec changes hwired hshown
  have hsource := source_foldl_note (p.takenIn changes) hwired.coherent
  rw [← hsync, hnone, Option.map_none, Option.none_or] at hsource
  cases hfirst : (p.takenIn changes).find? Taken.heard with
  | none =>
    rw [hfirst] at hsource
    exact onFrame_of_idle (by simpa using hsource)
  | some first =>
    rw [hfirst, Option.map_some] at hsource
    obtain ⟨q, hq, hqs⟩ := Option.map_eq_some_iff.1 hsource
    -- The window that waits is on view at the source, so it is the last that the source took.
    obtain ⟨u, hu, huw, -⟩ := hs q hq
    have hlast := hwin q.source
    rw [hu, Option.map_some, huw] at hlast
    obtain ⟨v, hv, hlv⟩ := Option.map_eq_some_iff.1 hlast.symm
    have hmem : first ∈ (p.takenIn changes).filter (·.view = first.view) := by
      simp [List.mem_of_find?_eq_some hfirst]
    obtain ⟨last, hl⟩ : ∃ last, ((p.takenIn changes).filter (·.view = first.view)).getLast? =
        some last := ⟨_, List.getLast?_eq_some_getLast (List.ne_nil_of_mem hmem)⟩
    refine ⟨last, hl, ?_⟩
    have hwindow : last.window = q.window := by
      simpa only [latest, hqs, hl, Option.map_some, Option.some_or, Option.some.injEq] using hlv
    rw [← hqs, hwindow]
    exact passedOn_onFrame hw hs hq

/-- Of three views the second is scrolled twice, the first in between, and the third refuses. -/
theorem onFrame_after_changes_three : ∃ (p : Panes) (changes : List Change),
    p.Reachable ∧ p.hasPending = false ∧ p.MainSettled ∧
      p.takenIn changes = [⟨1, ⟨0.0, 10.0⟩, true⟩, ⟨0, ⟨5.0, 6.0⟩, true⟩, ⟨1, ⟨2.0, 12.0⟩, true⟩] ∧
      PassedOn 1 ⟨2.0, 12.0⟩ (p.run changes) (p.run changes).onFrame := by
  obtain ⟨p, changes, hreach, hidle, hmain, htaken⟩ : ∃ (p : Panes) (changes : List Change),
      p.Reachable ∧ p.hasPending = false ∧ p.MainSettled ∧ p.takenIn changes =
        [⟨1, ⟨0.0, 10.0⟩, true⟩, ⟨0, ⟨5.0, 6.0⟩, true⟩, ⟨1, ⟨2.0, 12.0⟩, true⟩] :=
    ⟨_, [.reject 2 true, .scroll 1 ⟨0.0, 10.0⟩, .setWindow 0 ⟨5.0, 6.0⟩, .scroll 2 ⟨7.0, 8.0⟩,
        .setWindow 1 ⟨2.0, 12.0⟩],
      .change (.resize 100) (.change .synchronize (.createAuxiliary "volume" 10
        (.createAuxiliary "rsi" 10 (.createMain ⟨"main-chart", 80⟩ 20 .start rfl) rfl) rfl)), rfl,
      (mainSettled_synchronize _).kept (alike_map (fun v => (View.steady_resize v _ 100).keeps) _),
      rfl⟩
  refine ⟨p, changes, hreach, hidle, hmain, htaken, ?_⟩
  have h := onFrame_after_changes hreach hidle hmain changes
  rw [htaken] at h
  obtain ⟨last, hlast, h⟩ := h
  obtain rfl := Option.some.inj hlast
  exact h

end MarketChart.Panes
