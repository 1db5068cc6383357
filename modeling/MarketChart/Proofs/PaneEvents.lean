import MarketChart.Proofs.PaneRuns

/-!
# What events do to panes

Panes go through any sequence of operations (`Panes.Event`). Any of them may be made to fail, views
are made and torn down in any order, and canvases are touched after their views were torn down.

`View.Moves` says what an operation that may move a view does to it, whether it is made to fail or
not. From that `Panes.Follows` says what an event does: the listeners record the windows that views
take (`Panes.accepted`), and no listener is taken off a canvas that stays. After a frame the panes
are at rest, whichever views failed (`onFrame_rests`).
-/

namespace MarketChart

theorem Sync.Coherent.eq_rest {s : Sync} (h : s.Coherent) (hp : s.pending = none) : s = {} := by
  obtain ⟨updating, pending⟩ := s
  obtain rfl : pending = none := hp
  obtain rfl : updating = false := h
  rfl

/-! ## Views that may be made to fail -/

namespace View

/-- The listener that the view has put up is there, unless the canvas was removed. -/
def Attached (v : View) : Prop :=
  v.subscription.isSome = true → v.canvas.removed = true ∨ v.listens = true

theorem listens_eq {m : Nat} {v : View} (h : v.WiredAs m) (ha : v.Attached)
    (hr : v.canvas.removed = false) : v.listens = v.subscription.isSome := by
  cases hs : v.subscription with
  | none =>
    rcases h.listeners with hl | ⟨id, hid, -⟩
    · simp [listens, hl]
    · simp [hs] at hid
  | some id =>
    rcases ha (by simp [hs]) with hremoved | hl
    · simp [hr] at hremoved
    · exact hl

/-- An operation that succeeds was not made to fail. -/
theorem ok_of_faults {α β : Type} {v : View} {faults : List Fault} {operation : Operation}
    {run : Canvas Nat → Except Cause α} {f : α → β} {b : β}
    (h : (v.attempt faults operation run).map f = .ok b) :
    (v.attempt [] operation run).map f = .ok b := by
  unfold attempt at h
  split at h
  · simp [Except.map] at h
  · rw [attempt_nil]
    exact h

/-- What becomes of a view, and of what waits, when it is to take a window. The listener, if there
is one, records under `m`. -/
inductive Moves (m : Nat) (v : View) (s : Sync) :
    Option Window → Except Cause (View × Sync) → Prop where
  | taken {u : View} (w : Window) (hu : v.Steady u) :
    Moves m v s (some w) (.ok (u, s.hear m v.subscription.isSome w))
  | idle {u : View} (hu : v.Steady u) : Moves m v s none (.ok (u, s))
  | failed (cause : Cause) : Moves m v s none (.error cause)

/-- The window to which fitting brings the view, if that succeeds and there are bars. Whether it
succeeds does not depend on what waits. -/
def fitsTo? (v : View) (faults : List Fault) : Option Window :=
  if (v.fit faults {}).isOk ∧ v.canvas.timeScale ≠ [] then
    some (.ofBars v.canvas.timeScale.length)
  else none

theorem fitsTo?_eq (v : View) (faults : List Fault) : v.fitsTo? faults =
    if faults.contains ⟨.fit, v.container.id⟩ then none else v.canvas.fitWindow? := by
  unfold fitsTo? fit attempt
  split
  · rfl
  · cases hr : v.canvas.removed with
    | true =>
      obtain ⟨cause, hc⟩ := Canvas.fit_of_removed hr
      simp [Canvas.fitContent, hc, Except.map, Except.isOk, Except.toBool, Canvas.fitWindow?, hr]
    | false =>
      simp [Canvas.fitContent, Canvas.fit_of_alive hr, Except.map, Except.isOk, Except.toBool,
        Canvas.fitWindow?, hr]

section

variable {m : Nat} {v : View} (h : v.WiredAs m) (ha : v.Attached)

include h ha

theorem moves_scroll (w : Window) (s : Sync) :
    v.Moves m s (if (v.canvas.scroll w s).isOk then some w else none)
      ((v.canvas.scroll w s).map fun x => (v.withCanvas x.1, x.2)) := by
  cases ht : v.canvas.refuses with
  | true =>
    obtain ⟨cause, hc⟩ := scroll_of_refuses ht w s
    rw [hc]
    exact .failed cause
  | false =>
    have hr : v.canvas.removed = false := (Bool.or_eq_false_iff.1 ht).1
    rw [scroll_of_takes h ht, listens_eq h ha hr]
    exact .taken w (steady_withCanvas rfl rfl rfl rfl)

theorem moves_setWindow (faults : List Fault) (w : Window) (s : Sync) :
    v.Moves m s (if (v.setWindow faults w s).isOk then some w else none)
      (v.setWindow faults w s) := by
  cases hset : v.setWindow faults w s with
  | error cause => exact .failed cause
  | ok x =>
    have hx : v.setWindow [] w s = .ok x := ok_of_faults hset
    have hmoves := moves_scroll h ha w s
    rw [setWindow, attempt_nil] at hx
    cases hscroll : v.canvas.scroll w s with
    | error cause => simp [hscroll, Except.map] at hx
    | ok y =>
      rw [hscroll] at hx hmoves
      obtain rfl := Except.ok.inj hx
      exact hmoves

theorem moves_fit (faults : List Fault) (s : Sync) :
    v.Moves m s (v.fitsTo? faults) (v.fit faults s) := by
  rw [fitsTo?_eq]
  cases hfault : faults.contains ⟨.fit, v.container.id⟩ with
  | true =>
    rw [fit, attempt, hfault]
    exact .failed _
  | false =>
    have hnil : v.fit faults s = v.fit [] s := by
      rw [fit, fit, attempt, hfault, attempt_nil]
      rfl
    rw [hnil]
    rcases fit_cases h s with hfit | ⟨hw, cause, hfit⟩
    · rw [hfit]
      cases hw : v.canvas.fitWindow? with
      | none => exact .idle (steady_fitted v)
      | some w =>
        have hr : v.canvas.removed = false := by
          cases hr : v.canvas.removed with
          | false => rfl
          | true => simp [Canvas.fitWindow?, hr] at hw
        rw [listens_eq h ha hr]
        exact .taken w (steady_fitted v)
    · rw [hfit, hw]
      exact .failed cause

end

/-- `u` is the view `v` after an operation that takes no listener off a canvas that stays. -/
structure Tends (v u : View) : Prop where
  keeps : v.Keeps u
  attached : v.Attached → u.Attached

theorem Steady.tends {v u : View} (h : v.Steady u) : v.Tends u where
  keeps := h.keeps
  attached ha := by
    rw [Attached, h.subscription, h.removed, h.listens]
    exact ha

theorem Tends.refl (v : View) : v.Tends v := ⟨.refl v, id⟩

theorem tends_remove (v : View) : v.Tends (v.withCanvas v.canvas.remove) :=
  ⟨keeps_remove v, fun _ _ => .inl rfl⟩

end View

/-! ## Events -/

namespace Panes

/-- An operation on the panes. Views are named by their positions, and canvases of views that were
torn down by theirs among the closed ones. -/
inductive Event where
  | createMain (container : Container) (height : Nat)
  | createAuxiliary (name : String) (height : Nat)
  | change (c : Change)
  /-- Anything else that is done to one view. -/
  | perform (i : Nat) (command : ViewCommand)
  | frame
  | teardown
  /-- Makes an operation fail in a container, or work again. -/
  | fault (fault : Fault) (on : Bool)
  | scrollClosed (k : Nat) (w : Window)
  | fitClosed (k : Nat)
  | rejectClosed (k : Nat) (on : Bool)

/-- Applies an operation to a closed canvas. Where it fails, all stays as it is. -/
def onClosed (p : Panes) (k : Nat) (f : Canvas Nat → Except Cause (Canvas Nat × Sync)) : Panes :=
  match p.closed[k]? with
  | none => p
  | some c =>
    match f c with
    | .ok (c, sync) => { p with closed := p.closed.set k c, sync }
    | .error _ => p

/-- The panes after an event. One that fails leaves them as they are. -/
def after (p : Panes) : Event → Panes
  | .createMain container height => (p.createMain container height).toOption.getD p
  | .createAuxiliary name height => (p.createAuxiliary name height).toOption.getD p
  | .change c => p.change c
  | .perform i command => (p.views[i]?.map fun v => (p.perform v command).1).getD p
  | .frame => p.onFrame.1
  | .teardown => p.teardown
  | .fault fault on => p.setFault fault on
  | .scrollClosed k w => p.onClosed k (·.scroll w p.sync)
  | .fitClosed k => p.onClosed k (·.fitContent p.sync)
  | .rejectClosed k on => p.onClosed k fun c => .ok (c.reject on, p.sync)

/-- The panes after a sequence of events. -/
def afterAll (p : Panes) (events : List Event) : Panes := events.foldl after p

/-- What the view at position `i` takes, if it takes a window. It is heard of if the view has put up
a listener. -/
def takes (i : Nat) (v : View) (w : Option Window) : List Taken :=
  (w.map (⟨i, ·, v.subscription.isSome⟩)).toList

/-- What the view at position `i` takes, if there is one; `w` gives the window that it comes to. -/
def takenAt (p : Panes) (i : Nat) (w : View → Option Window) : List Taken :=
  p.views[i]?.toList.flatMap fun v => takes i v (w v)

/-- The windows that views take in an event because it sets or fits them, in order. A window is
taken if setting it succeeds, and a view with bars takes one if fitting it succeeds. -/
def accepted (p : Panes) : Event → List Taken
  | .change (.setWindow i w) =>
    p.takenAt i fun v => if (v.setWindow p.faults w p.sync).isOk then some w else none
  | .change (.scroll i w) =>
    p.takenAt i fun v => if (v.canvas.scroll w p.sync).isOk then some w else none
  | .change (.fit i) | .perform i .fit => p.takenAt i (·.fitsTo? p.faults)
  | .change .fitAll => p.views.zipIdx.flatMap fun (v, i) => takes i v (v.fitsTo? p.faults)
  | _ => []

/-- The windows that views take in a sequence of events, in order. -/
def acceptedIn : Panes → List Event → List Taken
  | _, [] => []
  | p, e :: rest => p.accepted e ++ (p.after e).acceptedIn rest

/-! ## What an event does -/

/-- The panes are wired by `n`, whatever is made to fail, and closed canvases are removed. -/
structure GuardedBy (n : Nat → Nat) (p : Panes) : Prop where
  wired : Wired n { p with faults := [] }
  attached : ∀ v ∈ p.views, v.Attached
  closed : ∀ c ∈ p.closed, c.removed = true

/-- From `p` to `p'` the views take the windows of `log`, and the listeners stay as they are. -/
structure Follows (n : Nat → Nat) (p p' : Panes) (log : List Taken) : Prop where
  alike : p.Alike View.Tends p'
  sync : p'.sync = log.foldl (note n) p.sync
  closed : p'.closed = p.closed

theorem Follows.refl (n : Nat → Nat) (p : Panes) : p.Follows n p [] := ⟨.refl .refl p, rfl, rfl⟩

theorem foldl_takes (n : Nat → Nat) (i : Nat) (v : View) (w : Option Window) (s : Sync) :
    (takes i v w).foldl (note n) s = (w.map (s.hear (n i) v.subscription.isSome)).getD s := by
  cases w <;> rfl

section

variable {n : Nat → Nat} {p : Panes} (h : p.GuardedBy n)

include h

theorem GuardedBy.alike {p' : Panes} (ha : p.Alike View.Tends p') (hs : p'.sync.Coherent)
    (hc : p'.closed = p.closed) : p'.GuardedBy n where
  wired := h.wired.kept ⟨ha.views.imp fun _ _ => View.Tends.keeps, rfl, ha.made⟩ hs
  attached := by
    intro u hu
    obtain ⟨v, hv, hvu⟩ := ha.of_mem hu
    exact hvu.attached (h.attached v hv)
  closed := by
    rw [hc]
    exact h.closed

theorem GuardedBy.follows {p' : Panes} {log : List Taken} (hf : p.Follows n p' log) :
    p'.GuardedBy n := by
  refine h.alike hf.alike ?_ hf.closed
  rw [hf.sync]
  exact coherent_foldl_note n log h.wired.coherent

theorem follows_put {i : Nat} {v u : View} (hv : p.views[i]? = some v) (ht : v.Tends u)
    (s : Sync) {log : List Taken} (hs : s = log.foldl (note n) p.sync) :
    p.Follows n { p.put u with sync := s } log := by
  rw [put_eq_set (p := p) h.wired.serials hv ht.keeps.serial]
  exact ⟨alike_set .refl hv ht s, hs, rfl⟩

/-- One view is to take a window. -/
theorem follows_moves {i : Nat} {w : View → Option Window}
    {r : View → Except Cause (View × Sync)}
    (hr : ∀ v : View, v.WiredAs (n i) → v.Attached → v.Moves (n i) p.sync (w v) (r v)) :
    p.Follows n (p.onView i fun v => (r v).map fun x => { p.put x.1 with sync := x.2 })
      (p.takenAt i w) := by
  cases hv : p.views[i]? with
  | none => simpa [onView, takenAt, hv] using Follows.refl n p
  | some v =>
    have hmoves := hr v (h.wired.views i v hv) (h.attached v (List.mem_of_getElem? hv))
    have hlog : p.takenAt i w = takes i v (w v) := by simp [takenAt, hv]
    rw [hlog]
    simp only [onView, hv]
    generalize w v = x at hmoves
    generalize r v = y at hmoves
    cases hmoves with
    | taken w hu => exact follows_put h hv hu.tends _ rfl
    | idle hu => exact follows_put h hv hu.tends _ rfl
    | failed cause => exact .refl n p

end

/-- Views are fitted one after the other. -/
theorem fitViews_takes (n : Nat → Nat) (faults : List Fault) :
    ∀ (k : Nat) (views : List View) (s : Sync),
      (∀ (i : Nat) (v : View), views[i]? = some v → v.WiredAs (n (k + i)) ∧ v.Attached) →
        List.Forall₂ View.Steady views (fitViews faults views s).1 ∧
          (fitViews faults views s).2 =
            ((views.zipIdx k).flatMap fun (v, i) => takes i v (v.fitsTo? faults)).foldl (note n) s
  | _, [], _, _ => ⟨.nil, rfl⟩
  | k, v :: rest, s, h => by
    obtain ⟨hwired, hattached⟩ := h 0 v rfl
    have hmoves := View.moves_fit hwired hattached faults s
    -- What waits changes from view to view, so the hypothesis is needed for every state of it.
    have ih := fun s => fitViews_takes n faults (k + 1) rest s fun i u hu => by
      have := h (i + 1) u (by simpa using hu)
      rwa [show k + (i + 1) = k + 1 + i by omega] at this
    rw [List.zipIdx_cons, List.flatMap_cons, List.foldl_append, foldl_takes]
    unfold fitViews
    generalize v.fitsTo? faults = x at hmoves
    generalize v.fit faults s = y at hmoves
    cases hmoves with
    | taken w hu => exact ⟨.cons hu (ih _).1, (ih _).2⟩
    | idle hu => exact ⟨.cons hu (ih _).1, (ih _).2⟩
    | failed cause => exact ⟨.cons (.refl v) (ih _).1, (ih _).2⟩

section

variable {n : Nat → Nat} {p : Panes} (h : p.GuardedBy n)

include h

theorem follows_change {c : Change} (hc : c ≠ .synchronize) :
    p.Follows n (p.change c) (p.accepted (.change c)) := by
  cases c with
  | setWindow i w =>
    exact follows_moves h fun v hv ha => View.moves_setWindow hv ha p.faults w p.sync
  | scroll i w =>
    -- The user scrolls the canvas past the view, which is not asked whether it fails.
    have hscroll : (fun v => p.scroll v w) = fun v =>
        ((v.canvas.scroll w p.sync).map fun x => (v.withCanvas x.1, x.2)).map
          fun x => { p.put x.1 with sync := x.2 } := by
      funext v
      unfold scroll
      cases v.canvas.scroll w p.sync <;> rfl
    rw [change, hscroll]
    exact follows_moves h fun v hv ha => View.moves_scroll hv ha w p.sync
  | fit i => exact follows_moves h fun v hv ha => View.moves_fit hv ha p.faults p.sync
  | fitAll =>
    have hviews := fitViews_takes n p.faults 0 p.views p.sync fun i v hv => by
      rw [Nat.zero_add]
      exact ⟨h.wired.views i v hv, h.attached v (List.mem_of_getElem? hv)⟩
    exact ⟨⟨hviews.1.imp fun _ _ => View.Steady.tends, rfl, rfl⟩, hviews.2, rfl⟩
  | reject i on =>
    cases hv : p.views[i]? with
    | none => simpa [change, onView, accepted, hv] using Follows.refl n p
    | some v =>
      have hsteady : v.Steady (v.withCanvas (v.canvas.reject on)) :=
        View.steady_withCanvas rfl rfl rfl rfl
      simp only [change, onView, hv]
      exact follows_put h hv hsteady.tends p.sync rfl
  | resize width =>
    exact ⟨alike_map (fun v => (View.steady_resize v p.faults width).tends) p.sync, rfl, rfl⟩
  | synchronize => exact absurd rfl hc

/-- A command that changes one view, or fails. -/
theorem follows_settle {i : Nat} {v : View} (hv : p.views[i]? = some v) {r : Except Cause View}
    (hr : ∀ u, r = .ok u → v.Steady u) : p.Follows n (p.settle (r.map p.put)).1 [] := by
  cases r with
  | error cause => exact .refl n p
  | ok u => exact follows_put h hv (hr u rfl).tends p.sync rfl

theorem follows_perform (i : Nat) (command : ViewCommand) :
    p.Follows n (p.after (.perform i command)) (p.accepted (.perform i command)) := by
  cases hv : p.views[i]? with
  | none =>
    have hlog : p.accepted (.perform i command) = [] := by
      cases command <;> simp [accepted, takenAt, hv]
    rw [hlog]
    simpa [after, hv] using Follows.refl n p
  | some v =>
    have hafter : p.after (.perform i command) = (p.perform v command).1 := by simp [after, hv]
    rw [hafter]
    cases command with
    | addSeries kind =>
      simp only [perform]
      cases ha : v.addSeries p.faults kind with
      | error cause => exact .refl n p
      | ok r =>
        have hsteady : v.Steady r.1 := View.steady_addSeries (View.ok_of_faults ha)
        exact follows_put h hv hsteady.tends p.sync rfl
    | setData id data =>
      exact follows_settle h hv fun u hu => View.steady_setData (View.ok_of_faults hu)
    | removeSeries id =>
      exact follows_settle h hv fun u hu => View.steady_removeSeries (View.ok_of_faults hu)
    | window => exact .refl n p
    | fit =>
      have hfit := follows_change h (c := .fit i) (by simp)
      have hchange : p.change (.fit i) = (p.perform v .fit).1 := by
        simp [perform, change, onView, hv]
      rwa [hchange] at hfit
    | setWidth width =>
      exact follows_settle h hv fun u hu => View.steady_setWidth (View.ok_of_faults hu)
    | remove => exact follows_put h hv (View.tends_remove v) p.sync rfl

end

/-! ## What a frame does -/

/-- While the panes are updating and nothing waits, passing a window on leaves it at that, whichever
views fail. -/
theorem passOn_steady (faults : List Fault) (q : Pending) {s : Sync} (hp : s.pending = none)
    (hu : s.updating = true) : ∀ (k : Nat) (views : List View),
      (∀ v ∈ views, (∃ m, v.WiredAs m) ∧ v.Attached) →
        List.Forall₂ View.Steady views (passOn faults q k views s).1 ∧
          (passOn faults q k views s).2.1 = s
  | _, [], _ => ⟨.nil, rfl⟩
  | k, v :: rest, h => by
    have ih := passOn_steady faults q hp hu (k + 1) rest fun u hu => h u (by simp [hu])
    unfold passOn
    split
    · exact ⟨.cons (.refl v) ih.1, ih.2⟩
    · obtain ⟨⟨m, hwired⟩, hattached⟩ := h v (by simp)
      have hmoves := View.moves_setWindow hwired hattached faults q.window s
      generalize (if (v.setWindow faults q.window s).isOk then some q.window else none) = x
        at hmoves
      generalize v.setWindow faults q.window s = y at hmoves
      cases hmoves with
      | taken w hsteady =>
        -- The listener hears of the window, and records nothing because the panes are updating.
        rw [hear_of_updating hp hu]
        exact ⟨.cons hsteady ih.1, ih.2⟩
      | idle hsteady => exact ⟨.cons hsteady ih.1, ih.2⟩
      | failed cause => exact ⟨.cons (.refl v) ih.1, ih.2⟩

/-- After a frame the panes are at rest, whichever views failed. -/
theorem onFrame_rests {n : Nat → Nat} {p : Panes} (h : p.GuardedBy n) :
    p.Alike View.Tends p.onFrame.1 ∧ p.onFrame.1.sync = {} ∧ p.onFrame.1.closed = p.closed := by
  cases hq : p.sync.pending with
  | none =>
    rw [onFrame_of_idle hq]
    exact ⟨.refl .refl p, h.wired.coherent.eq_rest hq, rfl⟩
  | some q =>
    have hu : p.sync.updating = true := h.wired.coherent.trans (by simp [hq])
    obtain ⟨hviews, hsync⟩ := passOn_steady p.faults q (s := { p.sync with pending := none }) rfl hu
      0 p.views fun v hv => by
        obtain ⟨i, hi⟩ := List.mem_iff_getElem?.1 hv
        exact ⟨⟨n i, h.wired.views i v hi⟩, h.attached v hv⟩
    have hframe : p.onFrame.1 = { p with
        views := (passOn p.faults q 0 p.views { p.sync with pending := none }).1
        sync := {} } := by
      simp only [onFrame, hq, hsync]
    rw [hframe]
    exact ⟨⟨hviews.imp fun _ _ => View.Steady.tends, rfl, rfl⟩, rfl, rfl⟩

/-! ## Closed canvases -/

/-- What is done to a removed canvas fails, or it stays removed and tells nobody. -/
def Inert (s : Sync) (f : Canvas Nat → Except Cause (Canvas Nat × Sync)) : Prop :=
  ∀ c, c.removed = true →
    (∃ cause, f c = .error cause) ∨ ∃ d, f c = .ok (d, s) ∧ d.removed = true

theorem inert_scroll (w : Window) (s : Sync) : Inert s (·.scroll w s) := by
  intro c hr
  obtain ⟨cause, hc⟩ := Canvas.setWindow_of_refuses (c := c) (by simp [Canvas.refuses, hr]) w
  exact .inl ⟨cause, by simp only [Canvas.scroll, hc, Except.map]⟩

theorem inert_fitContent (s : Sync) : Inert s (·.fitContent s) := by
  intro c hr
  obtain ⟨cause, hc⟩ := Canvas.fit_of_removed hr
  exact .inl ⟨cause, by simp only [Canvas.fitContent, hc, Except.map]⟩

theorem inert_reject (on : Bool) (s : Sync) : Inert s fun c => .ok (c.reject on, s) :=
  fun c hr => .inr ⟨c.reject on, rfl, hr⟩

/-- What is done to a closed canvas changes nothing but that canvas. -/
theorem onClosed_eq {n : Nat → Nat} {p : Panes} (h : p.GuardedBy n) (k : Nat)
    {f : Canvas Nat → Except Cause (Canvas Nat × Sync)} (hf : Inert p.sync f) :
    ∃ closed, p.onClosed k f = { p with closed } ∧ ∀ c ∈ closed, c.removed = true := by
  cases hc : p.closed[k]? with
  | none => exact ⟨p.closed, by simp [onClosed, hc], h.closed⟩
  | some c =>
    rcases hf c (h.closed c (List.mem_of_getElem? hc)) with ⟨cause, hcause⟩ | ⟨d, hd, hr⟩
    · exact ⟨p.closed, by simp [onClosed, hc, hcause], h.closed⟩
    · refine ⟨p.closed.set k d, by simp [onClosed, hc, hd], fun x hx => ?_⟩
      rcases List.mem_or_eq_of_mem_set hx with hx | rfl
      · exact h.closed x hx
      · exact hr

theorem sync_onClosed {n : Nat → Nat} {p : Panes} (h : p.GuardedBy n) (k : Nat)
    {f : Canvas Nat → Except Cause (Canvas Nat × Sync)} (hf : Inert p.sync f) :
    (p.onClosed k f).sync = p.sync := by
  obtain ⟨closed, heq, -⟩ := onClosed_eq h k hf
  rw [heq]

/-! ## Making views -/

theorem after_createMain (p : Panes) (container : Container) (height : Nat) :
    p.after (.createMain container height) = p ∨
      mainPane ∉ p.names ∧ p.after (.createMain container height) = { p with
        views := p.newView mainPane container height :: p.views
        made := p.made + 1 } := by
  cases hok : p.createMain container height with
  | error f => exact .inl (by simp [after, hok, Except.toOption])
  | ok p' =>
    obtain ⟨hnames, rfl⟩ := createMain_eq_ok hok
    exact .inr ⟨hnames, by simp [after, hok, Except.toOption]⟩

theorem after_createAuxiliary (p : Panes) (name : String) (height : Nat) :
    p.after (.createAuxiliary name height) = p ∨
      p.after (.createAuxiliary name height) = { p with
        views := p.views ++ [p.newView name (p.auxiliaryContainer name) height]
        made := p.made + 1 } := by
  cases hok : p.createAuxiliary name height with
  | error f => exact .inl (by simp [after, hok, Except.toOption])
  | ok p' =>
    obtain ⟨-, -, rfl⟩ := createAuxiliary_eq_ok hok
    exact .inr (by simp [after, hok, Except.toOption])

end Panes

end MarketChart
