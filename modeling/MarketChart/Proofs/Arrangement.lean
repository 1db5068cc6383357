import Mathlib.Data.List.Find
import MarketChart.Proofs.Loading

/-!
# How views are arranged

A view hangs in the container that is named after it, and its container and its canvas are equally
wide (`View.Hangs`). The views of a chart come in the order in which they were made, the main one
first, and no two have the same name (`Panes.Arranged`). Where views are arranged, the views that
are alive are all of them, in order (`Arranged.living_eq`), and a container leads to the view that
hangs in it (`Arranged.viewIn?_of_mem`), because the name can be read off the container.

Only a new width touches any of this (`Panes.sameFrame_change`), and it changes all views alike.
-/

namespace MarketChart

/-! ## Views in their containers -/

namespace View

/-- The view is alive in the container of its name, and all of it is `width` wide. -/
structure Hangs (width : Nat) (v : View) : Prop where
  container : v.container = ⟨v.name ++ "-chart", width⟩
  place : v.canvas.container = v.container.id
  width : v.canvas.width = width
  there : v.canvas.removed = false

/-- `u` is the view `v` in the same place, as wide and as alive as it was. -/
structure SameFrame (v u : View) : Prop where
  name : u.name = v.name
  serial : u.serial = v.serial
  container : u.container = v.container
  place : u.canvas.container = v.canvas.container
  width : u.canvas.width = v.canvas.width
  removed : u.canvas.removed = v.canvas.removed

theorem SameFrame.refl (v : View) : v.SameFrame v := ⟨rfl, rfl, rfl, rfl, rfl, rfl⟩

theorem Hangs.sameFrame {width : Nat} {v u : View} (h : v.Hangs width) (hu : v.SameFrame u) :
    u.Hangs width where
  container := by rw [hu.container, hu.name, h.container]
  place := by rw [hu.place, hu.container, h.place]
  width := hu.width.trans h.width
  there := hu.removed.trans h.there

theorem sameFrame_setTo (v : View) (w : Window) : v.SameFrame (v.setTo w) := by
  unfold setTo
  split <;> exact ⟨rfl, rfl, rfl, rfl, rfl, rfl⟩

theorem sameFrame_fitted (v : View) : v.SameFrame v.fitted := by
  unfold fitted
  split <;> exact ⟨rfl, rfl, rfl, rfl, rfl, rfl⟩

theorem sameFrame_resubscribe (v : View) (i : Nat) : v.SameFrame (v.unsubscribe.subscribe i) := by
  unfold unsubscribe
  split <;> exact ⟨rfl, rfl, rfl, rfl, rfl, rfl⟩

theorem sameFrame_holding (v : View) (series : List Series) : v.SameFrame (v.holding series) :=
  ⟨rfl, rfl, rfl, rfl, rfl, rfl⟩

theorem resize_of_there {v : View} (h : v.canvas.removed = false) (width : Nat) :
    v.resize [] width = { v with
      container := { v.container with width }
      canvas := { v.canvas with width } } := by
  simp [resize, setWidth, attempt_nil, Canvas.setWidth, Canvas.alive, h, Except.map, withCanvas]

/-- A new width reaches the container and the canvas. -/
theorem Hangs.resize {width : Nat} {v : View} (h : v.Hangs width) (width' : Nat) :
    (v.resize [] width').Hangs width' := by
  rw [resize_of_there h.there]
  exact ⟨by simp [h.container], h.place, rfl, h.there⟩

end View

/-! ## Arranged panes -/

namespace Panes

/-- The views hang in containers of one width, in the order they were made. Their names are
distinct, and if there are views the main one is the first. -/
structure Arranged (width : Nat) (p : Panes) : Prop where
  hung : ∀ v ∈ p.views, v.Hangs width
  serials : (p.views.map View.serial).Pairwise (· < ·)
  names : p.names.Nodup
  main : p.views = [] ∨ p.names.head? = some mainPane

theorem Arranged.of_empty {p : Panes} (hv : p.views = []) (width : Nat) : p.Arranged width where
  hung := by simp [hv]
  serials := by simp [hv]
  names := by simp [Panes.names, hv]
  main := .inl hv

section

variable {width : Nat} {p : Panes} (h : p.Arranged width)

include h

theorem Arranged.mergeSort_views :
    p.views.mergeSort (fun u v => u.serial ≤ v.serial) = p.views := by
  have hsorted : p.views.Pairwise fun u v => decide (u.serial ≤ v.serial) :=
    (List.pairwise_map.1 h.serials).imp fun hlt => decide_eq_true (Nat.le_of_lt hlt)
  exact List.mergeSort_of_pairwise hsorted

/-- The views that are alive are all views, in their order. -/
theorem Arranged.living_eq : p.living = p.views := by
  have hthere : p.views.filter (!·.canvas.removed) = p.views :=
    List.filter_eq_self.2 fun v hv => by simp [(h.hung v hv).there]
  rw [living, hthere, h.mergeSort_views]

/-- A container leads to the view that hangs in it: two names with the same container are equal. -/
theorem Arranged.viewIn?_of_mem {v : View} (hv : v ∈ p.views) :
    p.viewIn? v.container.id = some v := by
  have hsame : ∀ u ∈ p.views, (u.canvas.container == v.container.id) = (u.name == v.name) := by
    intro u hu
    rw [(h.hung u hu).place, (h.hung u hu).container, (h.hung v hv).container, Bool.eq_iff_iff,
      beq_iff_eq, beq_iff_eq]
    exact String.append_left_inj "-chart"
  rw [viewIn?, h.living_eq, List.find?_congr hsame]
  exact find?_name_of_mem h.names hv

/-- Views that stay in place stay arranged. -/
theorem Arranged.alike {p' : Panes} (ha : p.Alike View.SameFrame p') : p'.Arranged width where
  hung := by
    intro u hu
    obtain ⟨v, hv, hvu⟩ := ha.of_mem hu
    exact (h.hung v hv).sameFrame hvu
  serials := by
    rw [ha.map_eq fun _ _ hs => hs.serial]
    exact h.serials
  names := by
    rw [Panes.names, ha.map_eq fun _ _ hs => hs.name]
    exact h.names
  main := by
    refine h.main.imp (fun hv => ?_) fun hmain => ?_
    · have hlength := ha.views.length_eq
      rw [hv] at hlength
      exact List.length_eq_zero_iff.1 hlength.symm
    · rw [Panes.names, ha.map_eq fun _ _ hs => hs.name]
      exact hmain

theorem Arranged.resize (hf : p.faults = []) (width' : Nat) :
    (p.resize width').Arranged width' := by
  have hmap : ∀ {α : Type} (f : View → α), (∀ v, f (v.resize [] width') = f v) →
      (p.resize width').views.map f = p.views.map f := by
    intro α f heq
    simp only [Panes.resize, hf, List.map_map]
    exact List.map_congr_left fun v _ => heq v
  have hnames : (p.resize width').names = p.names :=
    hmap View.name fun v => (View.steady_resize v [] width').name
  refine ⟨fun u hu => ?_, ?_, ?_, ?_⟩
  · obtain ⟨v, hv, rfl⟩ := List.mem_map.1 hu
    rw [hf]
    exact (h.hung v hv).resize width'
  · rw [hmap View.serial fun v => (View.steady_resize v [] width').serial]
    exact h.serials
  · rw [hnames]
    exact h.names
  · rw [hnames]
    exact h.main.imp (fun hv => by simp [Panes.resize, hv]) id

end

/-! ## What leaves views in place -/

theorem sameFrame_synchronize (p : Panes) : p.Alike View.SameFrame p.synchronize := by
  refine ⟨List.forall₂_iff_get.2 ⟨by simp [synchronize], fun i hi hi' => ?_⟩, rfl, rfl⟩
  simp only [synchronize, List.get_eq_getElem, List.getElem_map, List.getElem_mapIdx]
  exact View.sameFrame_resubscribe _ i

section

variable {n : Nat → Nat} {p : Panes} (h : p.Wired n)

include h

theorem sameFrame_change {c : Change} (hc : c ≠ .synchronize) (hw : ∀ width, c ≠ .resize width) :
    p.Alike View.SameFrame (p.change c) := by
  refine (alike_change h hc).imp fun v u hu => ?_
  cases hu with
  | same => exact .refl v
  | set i w => exact View.sameFrame_setTo v w
  | scroll i w => exact View.sameFrame_setTo v w
  | fit i => exact View.sameFrame_fitted v
  | fitAll => exact View.sameFrame_fitted v
  | reject i on => exact ⟨rfl, rfl, rfl, rfl, rfl, rfl⟩
  | resize width => exact absurd rfl (hw width)

theorem sameFrame_onFrame : p.Alike View.SameFrame p.onFrame.1 := by
  refine (passed_onFrame h).imp fun v u hu => ?_
  rcases hu with rfl | ⟨w, rfl⟩
  · exact .refl _
  · exact View.sameFrame_setTo v w

end

end Panes

/-! ## Drawing a plan -/

theorem hangs_of_mem_frames {plan : Plan} {width serial : Nat} {u : View}
    (h : u ∈ plan.frames width serial) : u.Hangs width := by
  rcases List.mem_cons.1 h with rfl | h
  · exact ⟨rfl, rfl, rfl, rfl⟩
  · obtain ⟨i, hi, rfl⟩ := List.mem_mapIdx.1 h
    exact ⟨rfl, rfl, rfl, rfl⟩

/-- A plan is drawn on views that are arranged. -/
theorem Plan.arranged_drawn {plan : Plan} (hplan : plan.Placed) (width : Nat) {p : Panes}
    (hf : p.faults = []) (hc : p.sync.Coherent) : (plan.drawn width p).Arranged width := by
  let frames : Panes := { p with
    views := plan.frames width p.made
    made := p.made + (plan.layout.auxiliary.length + 1) }
  have hframes : frames.Arranged width := {
    hung := fun u hu => hangs_of_mem_frames hu
    serials := by
      simp only [frames, serials_frames]
      exact List.pairwise_lt_range'
    names := (frames_frames plan width p.made hplan.names).names
    main := .inr rfl }
  have hfilled : (plan.filled width p).Arranged width :=
    hframes.alike (Panes.alike_map (fun u => View.sameFrame_holding u _) p.sync)
  have hwired := (wired_filled hplan width hf hc id).synchronize
  exact (hfilled.alike (Panes.sameFrame_synchronize _)).alike
    (Panes.sameFrame_change hwired (by simp) (by simp))

end MarketChart
