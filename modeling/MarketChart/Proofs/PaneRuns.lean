import MarketChart.Proofs.PaneSteps

/-!
# Reachable panes

`Panes.Reachable` holds of the panes that some sequence of operations leads to. All of them are
wired (`Reachable.wired`). A listener records under the position of its view, unless the main view
was made after the listeners were put up; then every other view has moved on by one.
-/

namespace MarketChart.Panes

/-- The panes that some sequence of operations leads to. -/
inductive Reachable : Panes → Prop where
  | start : Reachable {}
  | createMain {p p' : Panes} (container : Container) (height : Nat) :
    Reachable p → p.createMain container height = .ok p' → Reachable p'
  | createAuxiliary {p p' : Panes} (name : String) (height : Nat) :
    Reachable p → p.createAuxiliary name height = .ok p' → Reachable p'
  | change {p : Panes} (c : Change) : Reachable p → Reachable (p.change c)
  /-- Anything else that is done to one view. -/
  | perform {p : Panes} {v : View} (command : ViewCommand) :
    Reachable p → v ∈ p.views → Reachable (p.perform v command).1
  | frame {p : Panes} : Reachable p → Reachable p.onFrame.1
  | teardown {p : Panes} : Reachable p → Reachable p.teardown

/-! ## Making views -/

/-- A view that was just made has nothing on its canvas. -/
theorem wiredAs_newView (p : Panes) (name : String) (container : Container) (height i : Nat) :
    (p.newView name container height).WiredAs i := ⟨rfl, rfl, .inl rfl⟩

theorem createMain_eq_ok {p p' : Panes} {container : Container} {height : Nat}
    (h : p.createMain container height = .ok p') :
    mainPane ∉ p.names ∧ p' = { p with
      views := p.newView mainPane container height :: p.views
      made := p.made + 1 } := by
  unfold createMain at h
  split at h
  · simp at h
  · next hn =>
    split at h
    · simp at h
    · exact ⟨by simpa using hn, by simpa using h.symm⟩

theorem createAuxiliary_eq_ok {p p' : Panes} {name : String} {height : Nat}
    (h : p.createAuxiliary name height = .ok p') :
    name ≠ mainPane ∧ name ∉ p.names ∧ p' = { p with
      views := p.views ++ [p.newView name (p.auxiliaryContainer name) height]
      made := p.made + 1 } := by
  unfold createAuxiliary at h
  simp only at h
  split at h
  · simp at h
  · next hn =>
    obtain ⟨hmain, hname⟩ := not_or.1 hn
    split at h
    · simp at h
    · exact ⟨hmain, by simpa using hname, by simpa using h.symm⟩

/-- The main view comes first, and the views behind it keep the numbers they had. -/
theorem Wired.cons {p : Panes} (h : p.Wired id) (container : Container) (height : Nat) :
    Wired Nat.pred { p with
      views := p.newView mainPane container height :: p.views
      made := p.made + 1 } where
  faults := h.faults
  serials := by
    refine List.nodup_cons.2 ⟨fun hm => ?_, h.serials⟩
    obtain ⟨v, hv, hs⟩ := List.mem_map.1 hm
    have := h.made v hv
    simp only [newView] at hs
    omega
  made := by
    intro v hv
    rcases List.mem_cons.1 hv with rfl | hv
    · exact Nat.lt_succ_self _
    · exact Nat.lt_succ_of_lt (h.made v hv)
  views := by
    intro i v hv
    cases i with
    | zero =>
      obtain rfl : p.newView mainPane container height = v := by simpa using hv
      exact wiredAs_newView ..
    | succ i => exact h.views i v (by simpa using hv)
  coherent := h.coherent

theorem Wired.append {n : Nat → Nat} {p : Panes} (h : p.Wired n) (name : String)
    (container : Container) (height : Nat) :
    Wired n { p with
      views := p.views ++ [p.newView name container height]
      made := p.made + 1 } where
  faults := h.faults
  serials := by
    rw [List.map_append, List.nodup_append]
    refine ⟨h.serials, by simp, fun k hk j hj => ?_⟩
    obtain ⟨v, hv, rfl⟩ := List.mem_map.1 hk
    obtain rfl : j = p.made := by simpa [newView] using hj
    exact Nat.ne_of_lt (h.made v hv)
  made := by
    intro v hv
    rcases List.mem_append.1 hv with hv | hv
    · exact Nat.lt_succ_of_lt (h.made v hv)
    · rw [List.mem_singleton.1 hv]
      exact Nat.lt_succ_self _
  views := by
    intro i v hv
    rcases Nat.lt_or_ge i p.views.length with hi | hi
    · exact h.views i v (by simpa [List.getElem?_append_left hi] using hv)
    · rw [List.getElem?_append_right hi] at hv
      rw [List.mem_singleton.1 (List.mem_of_getElem? hv)]
      exact wiredAs_newView ..
  coherent := h.coherent

theorem wired_teardown {n : Nat → Nat} {p : Panes} (h : p.Wired n) : p.teardown.Wired id where
  faults := h.faults
  serials := List.nodup_nil
  made := by simp [teardown]
  views := by simp [teardown]
  coherent := rfl

/-! ## Commands on one view -/

theorem Wired.put {n : Nat → Nat} {p : Panes} (h : p.Wired n) {v u : View} (hv : v ∈ p.views)
    (hk : v.Keeps u) : p.Kept (p.put u) ∧ (p.put u).Wired n := by
  obtain ⟨i, hi, rfl⟩ := List.mem_iff_getElem.1 hv
  have hget := List.getElem?_eq_getElem hi
  rw [put_eq_set h.serials hget hk.serial]
  have hkept : p.Kept { p with views := p.views.set i u } := alike_set .refl hget hk p.sync
  exact ⟨hkept, h.kept hkept h.coherent⟩

theorem Wired.settle {n : Nat → Nat} {p : Panes} (h : p.Wired n) {v : View} (hv : v ∈ p.views)
    {r : Except Cause View} (hr : ∀ u, r = .ok u → v.Keeps u) :
    p.Kept (p.settle (r.map p.put)).1 ∧ (p.settle (r.map p.put)).1.Wired n := by
  cases r with
  | error cause => exact ⟨.refl .refl p, h⟩
  | ok u => exact h.put hv (hr u rfl)

/-- No command on a view touches the wiring. -/
theorem Wired.perform {n : Nat → Nat} {p : Panes} (h : p.Wired n) {v : View} (hv : v ∈ p.views)
    (command : ViewCommand) :
    p.Kept (p.perform v command).1 ∧ (p.perform v command).1.Wired n := by
  cases command with
  | addSeries kind =>
    simp only [Panes.perform, h.faults]
    cases ha : v.addSeries [] kind with
    | error cause => exact ⟨.refl .refl p, h⟩
    | ok r => exact h.put hv (View.steady_addSeries ha).keeps
  | setData id data => exact h.settle hv fun u hu =>
    (View.steady_setData (by rwa [← h.faults])).keeps
  | removeSeries id => exact h.settle hv fun u hu =>
    (View.steady_removeSeries (by rwa [← h.faults])).keeps
  | window => exact ⟨.refl .refl p, h⟩
  | fit =>
    obtain ⟨i, hi, rfl⟩ := List.mem_iff_getElem.1 hv
    have hstep := change_step h (c := .fit i) (by simp)
    have hchange : (p.perform p.views[i] .fit).1 = p.change (.fit i) := by
      simp [Panes.perform, change, onView, hi]
    rw [hchange]
    exact ⟨hstep.alike.kept, h.step hstep⟩
  | setWidth width => exact h.settle hv fun u hu =>
    (View.steady_setWidth (by rwa [← h.faults])).keeps
  | remove => exact h.put hv (View.keeps_remove v)

/-! ## Reachable panes -/

/-- The main view has no listener, as one that was made after they were put up. -/
def FreshMain (p : Panes) : Prop :=
  ∃ v rest, p.views = v :: rest ∧ v.name = mainPane ∧ v.subscription = none

theorem FreshMain.kept {p p' : Panes} (h : p.FreshMain) (hk : p.Kept p') : p'.FreshMain := by
  obtain ⟨v, rest, hviews, hname, hsub⟩ := h
  have hf := hk.views
  rw [hviews] at hf
  obtain ⟨u, rest', hvu, -, hu⟩ := List.forall₂_cons_left_iff.1 hf
  exact ⟨u, rest', hu, hvu.name.trans hname, hvu.subscription.trans hsub⟩

/-- Every listener records under the position of its view, or the main view is fresh and the views
behind it record under the position before. -/
theorem Reachable.wired {p : Panes} (h : p.Reachable) :
    p.Wired id ∨ p.Wired Nat.pred ∧ p.FreshMain := by
  induction h with
  | start => exact .inl ⟨rfl, List.nodup_nil, by simp, by simp, rfl⟩
  | createMain container height _ hok ih =>
    obtain ⟨hn, rfl⟩ := createMain_eq_ok hok
    rcases ih with h | ⟨-, v, rest, hviews, hname, -⟩
    · exact .inr ⟨h.cons container height, _, _, rfl, rfl, rfl⟩
    · exact absurd (by simp [names, hviews, hname]) hn
  | createAuxiliary name height _ hok ih =>
    obtain ⟨-, -, rfl⟩ := createAuxiliary_eq_ok hok
    rcases ih with h | ⟨h, v, rest, hviews, hname, hsub⟩
    · exact .inl (h.append ..)
    · exact .inr ⟨h.append .., v, rest ++ [_], by rw [hviews]; rfl, hname, hsub⟩
  | change c _ ih =>
    by_cases hc : c = .synchronize
    · subst hc
      rcases ih with h | ⟨h, -⟩
      · exact .inl h.synchronize
      · exact .inl h.synchronize
    · rcases ih with h | ⟨h, hf⟩
      · exact .inl (h.step (change_step h hc))
      · exact .inr ⟨h.step (change_step h hc), hf.kept (change_step h hc).alike.kept⟩
  | perform command _ hv ih =>
    rcases ih with h | ⟨h, hf⟩
    · exact .inl (h.perform hv command).2
    · exact .inr ⟨(h.perform hv command).2, hf.kept (h.perform hv command).1⟩
  | frame _ ih =>
    rcases ih with h | ⟨h, hf⟩
    · exact .inl h.onFrame
    · exact .inr ⟨h.onFrame, hf.kept (alike_onFrame h).kept⟩
  | teardown _ ih =>
    rcases ih with h | ⟨h, -⟩
    · exact .inl (wired_teardown h)
    · exact .inl (wired_teardown h)

/-- The main view, if there is one, was there when listeners were last put up : it has one, or no
view has. -/
def MainSettled (p : Panes) : Prop :=
  ∀ v ∈ p.views, v.name = mainPane →
    v.subscription.isSome ∨ ∀ u ∈ p.views, u.subscription = none

/-- Putting up listeners settles the main view. -/
theorem mainSettled_synchronize (p : Panes) : p.synchronize.MainSettled := by
  intro v hv _
  obtain ⟨i, hi, rfl⟩ := List.mem_mapIdx.1 hv
  exact .inl rfl

/-- Only making a main view can unsettle it. -/
theorem MainSettled.kept {p p' : Panes} (h : p.MainSettled) (hk : p.Kept p') : p'.MainSettled := by
  intro u hu hname
  obtain ⟨i, hi, rfl⟩ := List.mem_iff_getElem.1 hu
  obtain ⟨v, hv, hvu⟩ := hk.getElem? (List.getElem?_eq_getElem hi)
  rcases h v (List.mem_of_getElem? hv) (hvu.name ▸ hname) with hs | hnone
  · exact .inl (by rw [hvu.subscription]; exact hs)
  · refine .inr fun x hx => ?_
    obtain ⟨j, hj, rfl⟩ := List.mem_iff_getElem.1 hx
    obtain ⟨y, hy, hyx⟩ := hk.getElem? (List.getElem?_eq_getElem hj)
    rw [hyx.subscription]
    exact hnone y (List.mem_of_getElem? hy)

/-- With the main view settled, every listener records under the position of its view. -/
theorem Reachable.wired_id {p : Panes} (h : p.Reachable) (hm : p.MainSettled) : p.Wired id := by
  rcases h.wired with h | ⟨h, v, rest, hviews, hname, hsub⟩
  · exact h
  · rcases hm v (by simp [hviews]) hname with hs | hnone
    · simp [hsub] at hs
    · exact { h with
        views := fun i u hu =>
          (h.views i u hu).of_subscription_none (hnone u (List.mem_of_getElem? hu)) }

end MarketChart.Panes
