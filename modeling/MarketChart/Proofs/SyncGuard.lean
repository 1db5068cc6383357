import MarketChart.Proofs.PaneEvents

/-!
# The next change is always recorded

While the panes are updating and nothing waits, listeners record nothing, so panes left like that
would never pass a window on again. No event leaves them so (`Guarded.after`). Between events they
are updating exactly while a window waits, and with nothing waiting the next window that a view with
a listener takes is the one that waits (`Panes.guarded_run`).
-/

namespace MarketChart.Panes

/-! ## What every event keeps -/

/-- The main view comes first and has put up no listener. -/
theorem GuardedBy.cons {p : Panes} (h : p.GuardedBy id) (container : Container) (height : Nat) :
    GuardedBy Nat.pred { p with
      views := p.newView mainPane container height :: p.views
      made := p.made + 1 } where
  wired := h.wired.cons container height
  attached := List.forall_mem_cons.2 ⟨fun hs => by simp [newView] at hs, h.attached⟩
  closed := h.closed

theorem GuardedBy.append {n : Nat → Nat} {p : Panes} (h : p.GuardedBy n) (name : String)
    (container : Container) (height : Nat) :
    GuardedBy n { p with
      views := p.views ++ [p.newView name container height]
      made := p.made + 1 } where
  wired := h.wired.append name container height
  attached := List.forall_mem_append.2 ⟨h.attached, by simp [View.Attached, newView]⟩
  closed := h.closed

theorem GuardedBy.synchronize {n : Nat → Nat} {p : Panes} (h : p.GuardedBy n) :
    p.synchronize.GuardedBy id where
  wired := h.wired.synchronize
  attached := by
    intro u hu _
    obtain ⟨i, hi⟩ := List.mem_iff_getElem?.1 hu
    rw [getElem?_synchronize] at hi
    obtain ⟨v, -, rfl⟩ := Option.map_eq_some_iff.1 hi
    exact .inr (View.listens_subscribe _ i)
  closed := h.closed

theorem guardedBy_teardown {n : Nat → Nat} {p : Panes} (h : p.GuardedBy n) :
    p.teardown.GuardedBy id where
  wired := wired_teardown h.wired
  attached := by simp [teardown]
  closed := by
    refine List.forall_mem_append.2 ⟨h.closed, fun c hc => ?_⟩
    obtain ⟨v, -, rfl⟩ := List.mem_map.1 hc
    rfl

/-- Listeners record under the position of their view, or the main view is fresh and the views
behind it record under the position before. -/
def Numbered (n : Nat → Nat) (p : Panes) : Prop := n = id ∨ n = Nat.pred ∧ p.FreshMain

theorem Numbered.alike {n : Nat → Nat} {p p' : Panes} (h : p.Numbered n)
    (ha : p.Alike View.Tends p') : p'.Numbered n :=
  h.imp_right fun hf => ⟨hf.1, hf.2.kept (ha.imp fun _ _ => View.Tends.keeps)⟩

/-- What holds of panes between events: the listeners are numbered, and a recorded change waits
exactly while the panes are updating. -/
def Guarded (p : Panes) : Prop := ∃ n, p.GuardedBy n ∧ p.Numbered n

theorem Guarded.createMain {p : Panes} (h : p.Guarded) (hmain : mainPane ∉ p.names)
    (container : Container) (height : Nat) : Guarded { p with
      views := p.newView mainPane container height :: p.views
      made := p.made + 1 } := by
  obtain ⟨n, h, rfl | ⟨-, v, rest, hviews, hname, -⟩⟩ := h
  · exact ⟨Nat.pred, h.cons container height, .inr ⟨rfl, _, _, rfl, rfl, rfl⟩⟩
  -- A fresh main view is there already, and a second one is not made.
  · exact absurd (by simp [names, hviews, hname]) hmain

theorem Guarded.createAuxiliary {p : Panes} (h : p.Guarded) (name : String)
    (container : Container) (height : Nat) : Guarded { p with
      views := p.views ++ [p.newView name container height]
      made := p.made + 1 } := by
  obtain ⟨n, h, hn⟩ := h
  refine ⟨n, h.append name container height, hn.imp_right fun hf => ⟨hf.1, ?_⟩⟩
  obtain ⟨v, rest, hviews, hname, hsub⟩ := hf.2
  exact ⟨v, rest ++ [_], by rw [hviews]; rfl, hname, hsub⟩

theorem Guarded.onClosed {p : Panes} (h : p.Guarded) (k : Nat)
    {f : Canvas Nat → Except Cause (Canvas Nat × Sync)} (hf : Inert p.sync f) :
    (p.onClosed k f).Guarded := by
  obtain ⟨n, h, hn⟩ := h
  obtain ⟨closed, heq, hclosed⟩ := onClosed_eq h k hf
  have hwired : Wired n { p with faults := [], closed } :=
    ⟨rfl, h.wired.serials, h.wired.made, h.wired.views, h.wired.coherent⟩
  rw [heq]
  exact ⟨n, ⟨hwired, h.attached, hclosed⟩, hn⟩

/-- No event leaves the panes stuck. -/
theorem Guarded.after {p : Panes} (hp : p.Guarded) (e : Event) : (p.after e).Guarded := by
  have ⟨n, h, hn⟩ := hp
  cases e with
  | createMain container height =>
    rcases after_createMain p container height with heq | ⟨hmain, heq⟩
    · rw [heq]
      exact hp
    · rw [heq]
      exact hp.createMain hmain container height
  | createAuxiliary name height =>
    rcases after_createAuxiliary p name height with heq | heq
    · rw [heq]
      exact hp
    · rw [heq]
      exact hp.createAuxiliary ..
  | change c =>
    by_cases hc : c = .synchronize
    · subst hc
      exact ⟨id, h.synchronize, .inl rfl⟩
    · have hfollows := follows_change h hc
      exact ⟨n, h.follows hfollows, hn.alike hfollows.alike⟩
  | perform i command =>
    have hfollows := follows_perform h i command
    exact ⟨n, h.follows hfollows, hn.alike hfollows.alike⟩
  | frame =>
    obtain ⟨halike, hsync, hclosed⟩ := onFrame_rests h
    exact ⟨n, h.alike halike (by rw [Panes.after, hsync]; rfl) hclosed, hn.alike halike⟩
  | teardown => exact ⟨id, guardedBy_teardown h, .inl rfl⟩
  | fault fault on => exact ⟨n, ⟨h.wired, h.attached, h.closed⟩, hn⟩
  | scrollClosed k w => exact hp.onClosed k (inert_scroll w p.sync)
  | fitClosed k => exact hp.onClosed k (inert_fitContent p.sync)
  | rejectClosed k on => exact hp.onClosed k (inert_reject on p.sync)

theorem Guarded.afterAll {p : Panes} (h : p.Guarded) (events : List Event) :
    (p.afterAll events).Guarded := by
  induction events generalizing p with
  | nil => exact h
  | cons e rest ih => exact ih (h.after e)

theorem guarded_start : Guarded {} :=
  ⟨id, ⟨⟨rfl, List.nodup_nil, by simp, by simp, rfl⟩, by simp, by simp⟩, .inl rfl⟩

/-! ## What waits after an event -/

theorem of_mem_takes {i : Nat} {v : View} {w : Option Window} {t : Taken} (h : t ∈ takes i v w) :
    t.view = i ∧ t.heard = v.subscription.isSome := by
  obtain ⟨w', -, rfl⟩ : ∃ w', w = some w' ∧ _ = t := by simpa [takes] using h
  exact ⟨rfl, rfl⟩

theorem of_mem_takenAt {p : Panes} {i : Nat} {w : View → Option Window} {t : Taken}
    (h : t ∈ p.takenAt i w) :
    ∃ v, p.views[t.view]? = some v ∧ t.heard = v.subscription.isSome := by
  obtain ⟨v, hv, ht⟩ := List.mem_flatMap.1 h
  obtain ⟨rfl, hheard⟩ := of_mem_takes ht
  exact ⟨v, by simpa using hv, hheard⟩

/-- A window is heard of if its view has put up a listener. -/
theorem of_mem_accepted {p : Panes} {e : Event} {t : Taken} (h : t ∈ p.accepted e) :
    ∃ v, p.views[t.view]? = some v ∧ t.heard = v.subscription.isSome := by
  unfold accepted at h
  split at h
  · exact of_mem_takenAt h
  · exact of_mem_takenAt h
  · exact of_mem_takenAt h
  · exact of_mem_takenAt h
  · obtain ⟨⟨v, i⟩, hv, ht⟩ := List.mem_flatMap.1 h
    obtain ⟨rfl, hheard⟩ := of_mem_takes ht
    exact ⟨v, List.mem_zipIdx_iff_getElem?.1 hv, hheard⟩
  · simp at h

theorem pairwise_takes (i : Nat) (v : View) (w : Option Window) :
    (takes i v w).Pairwise (·.view < ·.view) := by
  cases w <;> simp [takes]

theorem pairwise_takenAt (p : Panes) (i : Nat) (w : View → Option Window) :
    (p.takenAt i w).Pairwise (·.view < ·.view) := by
  unfold takenAt
  cases p.views[i]? with
  | none => simp
  | some v => simpa using pairwise_takes i v (w v)

/-- An event goes through the views in order. -/
theorem pairwise_accepted (p : Panes) (e : Event) :
    (p.accepted e).Pairwise (·.view < ·.view) := by
  unfold accepted
  split
  · exact pairwise_takenAt ..
  · exact pairwise_takenAt ..
  · exact pairwise_takenAt ..
  · exact pairwise_takenAt ..
  · have hpositions : p.views.zipIdx.Pairwise (·.2 < ·.2) := by
      rw [← List.pairwise_map (f := Prod.snd), List.zipIdx_map_snd]
      exact List.pairwise_lt_range' ..
    refine List.pairwise_flatMap.2 ⟨fun x _ => pairwise_takes .., ?_⟩
    refine hpositions.imp fun {x y} hxy t ht t' ht' => ?_
    rw [(of_mem_takes ht).1, (of_mem_takes ht').1]
    exact hxy
  · exact .nil

/-- A fresh main view has no listener, so a view that is heard of stands behind it. -/
theorem FreshMain.pos {p : Panes} (h : p.FreshMain) {e : Event} {t : Taken}
    (ht : t ∈ p.accepted e) (hheard : t.heard = true) : 0 < t.view := by
  obtain ⟨v, rest, hviews, -, hsub⟩ := h
  obtain ⟨u, hu, hlisten⟩ := of_mem_accepted ht
  refine Nat.pos_of_ne_zero fun h0 => ?_
  obtain rfl : v = u := by simpa [h0, hviews] using hu
  simp [hheard, hsub] at hlisten

section

variable {n : Nat → Nat} {p : Panes} (h : p.Numbered n) {e : Event} {t : Taken}
  (ht : t ∈ p.accepted e) (hheard : t.heard = true)

include h ht hheard

/-- A view is heard of under its position, or the one before behind a fresh main view. -/
theorem Numbered.source : n t.view = t.view ∨ p.FreshMain ∧ n t.view + 1 = t.view := by
  rcases h with rfl | ⟨rfl, hfresh⟩
  · exact .inl rfl
  · exact .inr ⟨hfresh, Nat.succ_pred_eq_of_pos (hfresh.pos ht hheard)⟩

/-- Views behind one that is heard of have other numbers. -/
theorem Numbered.ne {i : Nat} (hi : t.view < i) : n t.view ≠ n i := by
  rcases h with rfl | ⟨rfl, hfresh⟩
  · exact Nat.ne_of_lt hi
  · have hpos := hfresh.pos ht hheard
    simp only [Nat.pred_eq_sub_one]
    omega

end

/-- What waits stays while only other numbers are recorded. -/
theorem foldl_note_of_ne {n : Nat → Nat} {s : Sync} {q : Pending} (hq : s.pending = some q) :
    ∀ {log : List Taken}, (∀ t ∈ log, q.source ≠ n t.view) → log.foldl (note n) s = s
  | [], _ => rfl
  | t :: log, h => by
    have hnote : note n s t = s := by
      unfold note Sync.hear Sync.record
      simp [hq, h t (by simp)]
    rw [List.foldl_cons, hnote]
    exact foldl_note_of_ne hq fun t ht => h t (by simp [ht])

/-- From rest, the first window that is heard of waits. -/
theorem pending_foldl_note {n : Nat → Nat} : ∀ {log : List Taken},
    log.Pairwise (fun t t' => t.heard = true → n t.view ≠ n t'.view) →
      (log.foldl (note n) {}).pending =
        (log.find? Taken.heard).map fun t => ⟨n t.view, t.window⟩
  | [], _ => rfl
  | t :: log, h => by
    obtain ⟨ht, hlog⟩ := List.pairwise_cons.1 h
    rw [List.foldl_cons]
    cases hheard : t.heard with
    | false =>
      have hnote : note n {} t = {} := by simp [note, Sync.hear, hheard]
      rw [hnote, pending_foldl_note hlog, List.find?_cons_of_neg (by simp [hheard])]
    | true =>
      have hnote : note n {} t = ⟨true, some ⟨n t.view, t.window⟩⟩ := by
        simp [note, Sync.hear, hheard, Sync.record]
      rw [hnote, foldl_note_of_ne rfl fun t' ht' => ht t' ht' hheard,
        List.find?_cons_of_pos hheard]
      rfl

/-- With nothing waiting, the listeners record what views take, and nothing else does. -/
theorem sync_after {n : Nat → Nat} {p : Panes} (h : p.GuardedBy n) (hrest : p.sync = {})
    (e : Event) : (p.after e).sync = (p.accepted e).foldl (note n) p.sync := by
  cases e with
  | createMain container height =>
    rcases after_createMain p container height with heq | ⟨-, heq⟩
    · rw [heq]
      rfl
    · rw [heq]
      rfl
  | createAuxiliary name height =>
    rcases after_createAuxiliary p name height with heq | heq
    · rw [heq]
      rfl
    · rw [heq]
      rfl
  | change c =>
    by_cases hc : c = .synchronize
    · subst hc
      rfl
    · exact (follows_change h hc).sync
  | perform i command => exact (follows_perform h i command).sync
  | frame => exact (onFrame_rests h).2.1.trans hrest.symm
  | teardown => exact hrest.symm
  | fault fault on => rfl
  | scrollClosed k w => exact sync_onClosed h k (inert_scroll w p.sync)
  | fitClosed k => exact sync_onClosed h k (inert_fitContent p.sync)
  | rejectClosed k on => exact sync_onClosed h k (inert_reject on p.sync)

/-- The window that view `t.view` took waits. Its source is the position of the view, or the one
before if the main view was made after the listeners were put up. -/
def Waits (p p' : Panes) (t : Taken) : Prop :=
  ∃ s, p'.sync.pending = some ⟨s, t.window⟩ ∧ (s = t.view ∨ p.FreshMain ∧ s + 1 = t.view)

/-- With nothing waiting, the first window that is heard of in an event waits after it. -/
theorem Guarded.waits_after {p : Panes} (h : p.Guarded) (hidle : p.hasPending = false)
    (e : Event) :
    match (p.accepted e).find? Taken.heard with
    | none => (p.after e).hasPending = false
    | some t => p.Waits (p.after e) t := by
  obtain ⟨n, h, hn⟩ := h
  have hrest : p.sync = {} := h.wired.coherent.eq_rest (by simpa [hasPending] using hidle)
  have hpending : (p.after e).sync.pending =
      ((p.accepted e).find? Taken.heard).map fun t => ⟨n t.view, t.window⟩ := by
    rw [sync_after h hrest e, hrest]
    exact pending_foldl_note
      ((pairwise_accepted p e).imp_of_mem fun ht _ hlt hheard => hn.ne ht hheard hlt)
  cases hfind : (p.accepted e).find? Taken.heard with
  | none => simp [hasPending, hpending, hfind]
  | some t =>
    exact ⟨n t.view, by simp [hpending, hfind],
      hn.source (List.mem_of_find?_eq_some hfind) (List.find?_some hfind)⟩

/-- While no window is heard of, nothing waits. -/
theorem Guarded.idle_afterAll {p : Panes} (h : p.Guarded) (hidle : p.hasPending = false) :
    ∀ {quiet : List Event}, (∀ t ∈ p.acceptedIn quiet, t.heard = false) →
      (p.afterAll quiet).hasPending = false
  | [], _ => hidle
  | e :: rest, hquiet => by
    obtain ⟨he, hrest⟩ := List.forall_mem_append.1 hquiet
    have hafter := h.waits_after hidle e
    have hnone : (p.accepted e).find? Taken.heard = none :=
      List.find?_eq_none.2 fun t ht => by simp [he t ht]
    rw [hnone] at hafter
    exact (h.after e).idle_afterAll hafter hrest

/-- Whatever happened to the panes, they are updating exactly while a window waits. So let nothing
wait, and let views with a listener take no window for a while. If one takes a window in the next
event, the first such window waits, and otherwise still nothing does. -/
theorem guarded_run (events : List Event) :
    let p := afterAll {} events
    (p.sync.updating = true ↔ p.hasPending = true) ∧
      (p.hasPending = false → ∀ (quiet : List Event) (e : Event),
        (∀ t ∈ p.acceptedIn quiet, t.heard = false) →
          let p' := p.afterAll quiet
          match (p'.accepted e).find? Taken.heard with
          | none => (p'.after e).hasPending = false
          | some t => p'.Waits (p'.after e) t) := by
  intro p
  have h : p.Guarded := guarded_start.afterAll events
  constructor
  · obtain ⟨n, hn, -⟩ := h
    have hcoherent : p.sync.updating = p.hasPending := hn.wired.coherent
    rw [hcoherent]
  · intro hidle quiet e hquiet
    exact (h.afterAll quiet).waits_after (h.idle_afterAll hidle hquiet) e

/-- The main view is made after listeners were put up on two others. One of them is scrolled, and
the other fails in the frame. Then the main view moves without a listener, and the others refuse
windows or fail to take them, until the last one is scrolled by the user. -/
theorem guarded_run_failing :
    let p := afterAll {} [.createAuxiliary "rsi" 10, .createAuxiliary "volume" 10,
      .change .synchronize, .createMain ⟨"main-chart", 80⟩ 20,
      .fault ⟨.setWindow, "volume-chart"⟩ true, .change (.scroll 1 ⟨0.0, 10.0⟩), .frame]
    let quiet := [.change (.scroll 0 ⟨5.0, 6.0⟩), .change (.reject 1 true),
      .change (.setWindow 1 ⟨7.0, 8.0⟩), .change (.setWindow 2 ⟨7.0, 8.0⟩), .frame]
    let p' := p.afterAll quiet
    p.hasPending = false ∧ p.acceptedIn quiet = [⟨0, ⟨5.0, 6.0⟩, false⟩] ∧
      (p'.accepted (.change (.scroll 2 ⟨2.0, 12.0⟩))).find? Taken.heard =
        some ⟨2, ⟨2.0, 12.0⟩, true⟩ ∧
      p'.Waits (p'.after (.change (.scroll 2 ⟨2.0, 12.0⟩))) ⟨2, ⟨2.0, 12.0⟩, true⟩ := by
  intro p quiet p'
  have hidle : p.hasPending = false := rfl
  have htaken : p.acceptedIn quiet = [⟨0, ⟨5.0, 6.0⟩, false⟩] := rfl
  have hquiet : ∀ t ∈ p.acceptedIn quiet, t.heard = false := by simp [htaken]
  have hfind : (p'.accepted (.change (.scroll 2 ⟨2.0, 12.0⟩))).find? Taken.heard =
      some ⟨2, ⟨2.0, 12.0⟩, true⟩ := rfl
  have hwaits := (guarded_run _).2 hidle quiet (.change (.scroll 2 ⟨2.0, 12.0⟩)) hquiet
  exact ⟨hidle, htaken, hfind, hwaits⟩

end MarketChart.Panes
