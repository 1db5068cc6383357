import Mathlib.Data.List.Forall2
import Mathlib.Data.List.Nodup
import MarketChart.Proofs.ViewSteps

/-!
# What changes and frames do to panes

The windows of panes are changed one operation at a time (`Panes.Change`). The panes are wired
(`Panes.Wired`) if views have serials of their own, the listener of the view at position `i`
records under one number `n i`, and a recorded change waits exactly while the panes are updating.

`Panes.taken` lists the windows that views take in a change. `Panes.Step` says what a change does
in terms of that list : the listeners record its entries in order, and each view shows the last
window it took (`change_step`). A frame gives the window that waits to every view but its source
(`onFrame_of_pending`).
-/

namespace MarketChart

/-! ## The state of passing on -/

namespace Sync

/-- A change waits exactly while the panes are updating. -/
def Coherent (s : Sync) : Prop := s.updating = s.pending.isSome

theorem Coherent.record {s : Sync} (h : s.Coherent) (i : Nat) (w : Option Window) :
    (s.record i w).Coherent := by
  unfold Sync.record
  split
  · exact h
  · split
    · next hp =>
      have hu : s.updating = true := by rw [h, hp]; rfl
      split
      · exact hu
      · exact h
    · split
      · exact h
      · rfl

theorem Coherent.hear {s : Sync} (h : s.Coherent) (i : Nat) (listening : Bool) (w : Window) :
    (s.hear i listening w).Coherent := by
  unfold Sync.hear
  split
  · exact h.record i (some w)
  · exact h

end Sync

/-! ## Changes -/

namespace Panes

/-- An operation on the windows of views that are there. Views are named by their positions. -/
inductive Change where
  /-- Sets the window of a view. -/
  | setWindow (i : Nat) (w : Window)
  /-- Sets the window of the canvas of a view, as a user does who scrolls it. -/
  | scroll (i : Nat) (w : Window)
  | fit (i : Nat)
  | fitAll
  /-- Makes the canvas of a view refuse windows, or accept them again. -/
  | reject (i : Nat) (on : Bool)
  | resize (width : Nat)
  | synchronize

/-- Applies an operation to the view at a position. Without such a view, and where the operation
fails, the panes stay as they are. -/
def onView (p : Panes) (i : Nat) (f : View → Except Cause Panes) : Panes :=
  match p.views[i]? with
  | none => p
  | some v => (p.settle (f v)).1

/-- The panes after a change. -/
def change (p : Panes) : Change → Panes
  | .setWindow i w => p.onView i (p.setWindow · w)
  | .scroll i w => p.onView i (p.scroll · w)
  | .fit i => p.onView i p.fitView
  | .fitAll => p.fitContent
  | .reject i on => p.onView i fun v => .ok (p.reject v on)
  | .resize width => p.resize width
  | .synchronize => p.synchronize

/-- The panes after a sequence of changes. -/
def run (p : Panes) (changes : List Change) : Panes := changes.foldl change p

/-! ## Wiring -/

/-- The panes are wired by `n` : the listener of the view at position `i` records under `n i`. -/
structure Wired (n : Nat → Nat) (p : Panes) : Prop where
  faults : p.faults = []
  serials : (p.views.map View.serial).Nodup
  made : ∀ v ∈ p.views, v.serial < p.made
  views : ∀ (i : Nat) (v : View), p.views[i]? = some v → v.WiredAs (n i)
  coherent : p.sync.Coherent

/-- The views of `p'` are those of `p`, each as `R` allows it to change. -/
structure Alike (R : View → View → Prop) (p p' : Panes) : Prop where
  views : List.Forall₂ R p.views p'.views
  faults : p'.faults = p.faults
  made : p'.made = p.made

/-- The views of `p'` are those of `p`, none with a renumbered listener. -/
abbrev Kept (p p' : Panes) : Prop := p.Alike View.Keeps p'

theorem Alike.imp {R S : View → View → Prop} (hRS : ∀ v u, R v u → S v u) {p p' : Panes}
    (h : p.Alike R p') : p.Alike S p' :=
  ⟨h.views.imp hRS, h.faults, h.made⟩

theorem Alike.kept {p p' : Panes} (h : p.Alike View.Steady p') : p.Kept p' :=
  h.imp fun _ _ => View.Steady.keeps

theorem Alike.refl {R : View → View → Prop} (hR : ∀ v, R v v) (p : Panes) : p.Alike R p :=
  ⟨List.forall₂_same.2 fun v _ => hR v, rfl, rfl⟩

theorem Alike.getElem? {R : View → View → Prop} {p p' : Panes} (h : p.Alike R p') {i : Nat}
    {u : View} (hu : p'.views[i]? = some u) : ∃ v, p.views[i]? = some v ∧ R v u := by
  obtain ⟨hlen, hget⟩ := List.forall₂_iff_get.1 h.views
  obtain ⟨hi, rfl⟩ := List.getElem?_eq_some_iff.1 hu
  have hi' : i < p.views.length := by omega
  exact ⟨p.views[i], List.getElem?_eq_getElem hi', by simpa using hget i hi' hi⟩

theorem Alike.of_mem {R : View → View → Prop} {p p' : Panes} (h : p.Alike R p') {u : View}
    (hu : u ∈ p'.views) : ∃ v ∈ p.views, R v u := by
  obtain ⟨i, hi⟩ := List.mem_iff_getElem?.1 hu
  obtain ⟨v, hv, hvu⟩ := h.getElem? hi
  exact ⟨v, List.mem_of_getElem? hv, hvu⟩

/-- What `R` does not let change about a view is the same on both sides. -/
theorem Alike.map_eq {R : View → View → Prop} {α : Type} {f : View → α}
    (hR : ∀ v u, R v u → f u = f v) {p p' : Panes} (h : p.Alike R p') :
    p'.views.map f = p.views.map f := by
  have hs := h.views
  generalize p.views = vs at hs
  generalize p'.views = us at hs
  induction hs with
  | nil => rfl
  | cons hk _ ih => rw [List.map_cons, List.map_cons, hR _ _ hk, ih]

theorem Kept.serials {p p' : Panes} (h : p.Kept p') :
    p'.views.map View.serial = p.views.map View.serial :=
  h.map_eq fun _ _ hk => hk.serial

theorem Wired.kept {n : Nat → Nat} {p p' : Panes} (h : p.Wired n) (hk : p.Kept p')
    (hc : p'.sync.Coherent) : p'.Wired n where
  faults := hk.faults.trans h.faults
  serials := by rw [hk.serials]; exact h.serials
  made := by
    have hm : ∀ k ∈ p.views.map View.serial, k < p.made := by simpa using h.made
    rw [← hk.serials, ← hk.made] at hm
    simpa using hm
  views := by
    intro i u hu
    obtain ⟨v, hv, hvu⟩ := hk.getElem? hu
    exact hvu.wired _ (h.views i v hv)
  coherent := hc

/-- A view of its own serial is put in the place of the one it came from. -/
theorem put_eq_set {p : Panes} (hs : (p.views.map View.serial).Nodup) {i : Nat} {v u : View}
    (hv : p.views[i]? = some v) (hu : u.serial = v.serial) :
    p.put u = { p with views := p.views.set i u } := by
  obtain ⟨hi, rfl⟩ := List.getElem?_eq_some_iff.1 hv
  have hviews : (p.views.map fun x => if x.serial = u.serial then u else x) = p.views.set i u := by
    refine List.ext_getElem (by simp) fun j hj hj' => ?_
    have hlt : j < p.views.length := by simpa using hj
    rw [List.getElem_map, List.getElem_set]
    by_cases hij : i = j
    · subst hij
      simp [hu]
    · have hne : p.views[j].serial ≠ u.serial := by
        intro he
        have hi' : i < (p.views.map View.serial).length := by simpa using hi
        have hj' : j < (p.views.map View.serial).length := by simpa using hlt
        have hsame : (p.views.map View.serial)[i] = (p.views.map View.serial)[j] := by simp [he, hu]
        exact hij (hs.getElem_inj_iff.1 hsame)
      simp [hij, hne]
  rw [put, hviews]

/-- Where names are distinct, a view is found under its own. -/
theorem find?_name_of_mem {views : List View} (hn : (views.map View.name).Nodup) {v : View}
    (hv : v ∈ views) : views.find? (·.name == v.name) = some v := by
  obtain ⟨before, after, rfl⟩ := List.append_of_mem hv
  rw [List.map_append, List.map_cons, List.nodup_append] at hn
  refine List.find?_eq_some_iff_append.2 ⟨by simp, before, after, rfl, fun a ha => ?_⟩
  simpa using hn.2.2 _ (List.mem_map_of_mem ha) v.name (by simp)

/-- A view that is put in the place of another leaves the rest alone. -/
theorem Wired.mem_put {n : Nat → Nat} {p : Panes} (h : p.Wired n) {v u x : View} (hv : v ∈ p.views)
    (hu : u.serial = v.serial) : x ∈ (p.put u).views ↔ x = u ∨ x ≠ v ∧ x ∈ p.views := by
  have hserial : ∀ y ∈ p.views, y.serial = u.serial ↔ y = v := fun y hy =>
    ⟨fun he => List.inj_on_of_nodup_map h.serials hy hv (he.trans hu), fun he => he ▸ hu.symm⟩
  rw [put, List.mem_map]
  constructor
  · rintro ⟨y, hy, rfl⟩
    by_cases hyv : y = v
    · exact .inl (if_pos ((hserial y hy).2 hyv))
    · rw [if_neg (mt (hserial y hy).1 hyv)]
      exact .inr ⟨hyv, hy⟩
  · rintro (rfl | ⟨hxv, hx⟩)
    · exact ⟨v, hv, if_pos hu.symm⟩
    · exact ⟨x, hx, if_neg (mt (hserial x hx).1 hxv)⟩

theorem alike_set {R : View → View → Prop} (hR : ∀ v, R v v) {p : Panes} {i : Nat} {v u : View}
    (hv : p.views[i]? = some v) (h : R v u) (s : Sync) :
    p.Alike R { p with views := p.views.set i u, sync := s } where
  views := by
    obtain ⟨hi, rfl⟩ := List.getElem?_eq_some_iff.1 hv
    refine List.forall₂_iff_get.2 ⟨by simp, fun j hj hj' => ?_⟩
    simp only [List.get_eq_getElem, List.getElem_set]
    split
    · next hij =>
      subst hij
      exact h
    · exact hR _
  faults := rfl
  made := rfl

theorem alike_map {R : View → View → Prop} {p : Panes} {f : View → View} (hf : ∀ v, R v (f v))
    (s : Sync) : p.Alike R { p with views := p.views.map f, sync := s } where
  views := by
    refine List.forall₂_iff_get.2 ⟨by simp, fun j hj hj' => ?_⟩
    simpa using hf _
  faults := rfl
  made := rfl

/-! ## The windows that views take -/

/-- A window that the view at a position took, and whether a listener heard of it. -/
structure Taken where
  view : Nat
  window : Window
  heard : Bool

/-- What a view takes of a window that is set on it. -/
def sets (i : Nat) (w : Window) (v : View) : List Taken :=
  if v.canvas.refuses then [] else [⟨i, w, v.listens⟩]

/-- What a view takes when it is fitted to its content. -/
def fits (i : Nat) (v : View) : List Taken :=
  (v.canvas.fitWindow?.map fun w => ⟨i, w, v.listens⟩).toList

/-- The windows that views take in a change, in order. -/
def taken (p : Panes) : Change → List Taken
  | .setWindow i w | .scroll i w => p.views[i]?.toList.flatMap (sets i w)
  | .fit i => p.views[i]?.toList.flatMap (fits i)
  | .fitAll => p.views.zipIdx.flatMap fun (v, i) => fits i v
  | .reject .. | .resize _ | .synchronize => []

/-- What is recorded of a window that was taken. -/
def note (n : Nat → Nat) (s : Sync) (t : Taken) : Sync := s.hear (n t.view) t.heard t.window

/-- The window on view at position `i` once the windows of `log` were taken, `w` before. -/
def latest (i : Nat) (w : Option Window) (log : List Taken) : Option Window :=
  ((log.filter (·.view = i)).getLast?.map Taken.window).or w

theorem latest_append (i : Nat) (w : Option Window) (log log' : List Taken) :
    latest i w (log ++ log') = latest i (latest i w log) log' := by
  unfold latest
  rw [List.filter_append, List.getLast?_append, Option.map_or, Option.or_assoc]

theorem latest_of_ne {i : Nat} {log : List Taken} (h : ∀ t ∈ log, t.view ≠ i)
    (w : Option Window) : latest i w log = w := by
  have hf : log.filter (·.view = i) = [] := List.filter_eq_nil_iff.2 (by simpa using h)
  simp [latest, hf]

theorem coherent_foldl_note (n : Nat → Nat) (log : List Taken) {s : Sync} (h : s.Coherent) :
    (log.foldl (note n) s).Coherent := by
  induction log generalizing s with
  | nil => exact h
  | cons t log ih => exact ih (h.hear _ _ _)

theorem of_mem_sets {i : Nat} {w : Window} {v : View} {t : Taken} (h : t ∈ sets i w v) :
    t.view = i ∧ t.heard = v.listens := by
  unfold sets at h
  split at h
  · simp at h
  · rw [List.mem_singleton.1 h]
    exact ⟨rfl, rfl⟩

theorem of_mem_fits {i : Nat} {v : View} {t : Taken} (h : t ∈ fits i v) :
    t.view = i ∧ t.heard = v.listens := by
  unfold fits at h
  obtain ⟨w, -, rfl⟩ : ∃ w, v.canvas.fitWindow? = some w ∧ _ = t := by simpa using h
  exact ⟨rfl, rfl⟩

theorem foldl_fits (n : Nat → Nat) (i : Nat) (v : View) (s : Sync) :
    (fits i v).foldl (note n) s =
      (v.canvas.fitWindow?.map (s.hear (n i) v.listens)).getD s := by
  unfold fits
  cases v.canvas.fitWindow? <;> rfl

theorem window_setTo (i : Nat) (w : Window) (v : View) :
    (v.setTo w).canvas.window = latest i v.canvas.window (sets i w v) := by
  unfold View.setTo sets
  split
  · rfl
  · simp [latest, View.withCanvas, Canvas.moved]

theorem window_fitted (i : Nat) (v : View) :
    v.fitted.canvas.window = latest i v.canvas.window (fits i v) := by
  unfold View.fitted fits
  cases v.canvas.fitWindow? with
  | none => rfl
  | some w => simp [latest, View.withCanvas, Canvas.showing]

/-! ## What a change does -/

/-- From `p` to `p'` the views take the windows of `log`, and nothing happens to the wiring. -/
structure Step (n : Nat → Nat) (p p' : Panes) (log : List Taken) : Prop where
  alike : p.Alike View.Steady p'
  sync : p'.sync = log.foldl (note n) p.sync
  heard : ∀ t ∈ log, ∃ v, p.views[t.view]? = some v ∧ t.heard = v.listens
  windows : ∀ i, p'.views[i]?.map (·.canvas.window) =
    p.views[i]?.map fun v => latest i v.canvas.window log

theorem Step.refl (n : Nat → Nat) (p : Panes) : p.Step n p [] :=
  ⟨.refl .refl p, rfl, by simp, fun _ => rfl⟩

/-- One view takes windows and the others stay as they are. -/
theorem step_set (n : Nat → Nat) {p : Panes} {i : Nat} {v u : View} {log : List Taken}
    (hv : p.views[i]? = some v) (hk : v.Steady u)
    (hl : ∀ t ∈ log, t.view = i ∧ t.heard = v.listens)
    (hw : u.canvas.window = latest i v.canvas.window log) :
    p.Step n { p with views := p.views.set i u, sync := log.foldl (note n) p.sync } log where
  alike := alike_set .refl hv hk _
  sync := rfl
  heard t ht := ⟨v, (hl t ht).1 ▸ hv, (hl t ht).2⟩
  windows j := by
    obtain ⟨hi, rfl⟩ := List.getElem?_eq_some_iff.1 hv
    by_cases hij : i = j
    · subst hij
      simp [hi, hw]
    · have hne : ∀ t ∈ log, t.view ≠ j := fun t ht => (hl t ht).1 ▸ hij
      simp [List.getElem?_set_ne hij, latest_of_ne hne]

theorem fitViews_eq (n : Nat → Nat) : ∀ (k : Nat) (views : List View) (s : Sync),
    (∀ (i : Nat) (v : View), views[i]? = some v → v.WiredAs (n (k + i))) →
      fitViews [] views s = (views.map View.fitted,
        ((views.zipIdx k).flatMap fun (v, i) => fits i v).foldl (note n) s)
  | _, [], _, _ => rfl
  | k, v :: rest, s, h => by
    have ih := fitViews_eq n (k + 1) rest ((fits k v).foldl (note n) s) fun i u hu => by
      have := h (i + 1) u (by simpa using hu)
      rwa [show k + (i + 1) = k + 1 + i by omega] at this
    rw [foldl_fits] at ih
    rcases View.fit_cases (h 0 v rfl) s with hf | ⟨hw, cause, hf⟩
    · simp only [fitViews, hf, ih, Nat.add_zero]
      simp [List.foldl_append, foldl_fits]
    · simp only [hw, Option.map_none, Option.getD_none] at ih
      simp only [fitViews, hf, ih]
      simp [List.foldl_append, foldl_fits, hw, View.fitted_of_none]

theorem latest_fits {w : Option Window} : ∀ (k : Nat) (views : List View) (i : Nat) (v : View),
    views[i]? = some v →
      latest (k + i) w ((views.zipIdx k).flatMap fun (v, i) => fits i v) =
        latest (k + i) w (fits (k + i) v)
  | _, [], _, _, h => by simp at h
  | k, u :: rest, 0, v, h => by
    obtain rfl : u = v := by simpa using h
    rw [List.zipIdx_cons, List.flatMap_cons, latest_append]
    refine latest_of_ne (fun t ht => ?_) _
    obtain ⟨⟨x, j⟩, hx, ht⟩ := List.mem_flatMap.1 ht
    have hj : k + 1 ≤ j := List.le_snd_of_mem_zipIdx hx
    rw [(of_mem_fits ht).1]
    omega
  | k, u :: rest, i + 1, v, h => by
    have hne : ∀ t ∈ fits k u, t.view ≠ k + (i + 1) := fun t ht => by
      rw [(of_mem_fits ht).1]
      omega
    have ih := latest_fits (w := w) (k + 1) rest i v (by simpa using h)
    rw [show k + 1 + i = k + (i + 1) by omega] at ih
    rw [List.zipIdx_cons, List.flatMap_cons, latest_append, latest_of_ne hne]
    exact ih

/-- What a change can make of a view, unless it puts up new listeners. -/
inductive Becomes (faults : List Fault) : Change → View → View → Prop where
  | same (c : Change) (v : View) : Becomes faults c v v
  | set (i : Nat) (w : Window) (v : View) : Becomes faults (.setWindow i w) v (v.setTo w)
  | scroll (i : Nat) (w : Window) (v : View) : Becomes faults (.scroll i w) v (v.setTo w)
  | fit (i : Nat) (v : View) : Becomes faults (.fit i) v v.fitted
  | fitAll (v : View) : Becomes faults .fitAll v v.fitted
  | reject (i : Nat) (on : Bool) (v : View) :
    Becomes faults (.reject i on) v (v.withCanvas (v.canvas.reject on))
  | resize (width : Nat) (v : View) : Becomes faults (.resize width) v (v.resize faults width)

theorem getElem?_synchronize (p : Panes) (i : Nat) :
    p.synchronize.views[i]? = p.views[i]?.map fun v => v.unsubscribe.subscribe i := by
  simp [synchronize, Option.map_map, Function.comp_def]

section

variable {n : Nat → Nat} {p : Panes} (h : p.Wired n)

include h

/-- A window set on a view, by its owner or by the user. -/
theorem change_window {i : Nat} {v : View} (hv : p.views[i]? = some v) (w : Window) {c : Change}
    (hc : c = .setWindow i w ∨ c = .scroll i w) :
    p.change c = { p with
      views := p.views.set i (v.setTo w)
      sync := (sets i w v).foldl (note n) p.sync } := by
  have hself : p.views.set i v = p.views := by
    obtain ⟨hi, rfl⟩ := List.getElem?_eq_some_iff.1 hv
    simp
  have hwired := h.views i v hv
  cases ht : v.canvas.refuses with
  | true =>
    obtain ⟨cause, hset⟩ := View.setWindow_of_refuses ht w p.sync
    obtain ⟨cause', hscroll⟩ := View.scroll_of_refuses ht w p.sync
    rw [← h.faults] at hset
    rcases hc with rfl | rfl
    · simp [change, onView, hv, settle, setWindow, hset, Except.map, View.setTo, sets, ht, hself]
    · simp [change, onView, hv, settle, scroll, hscroll, Except.map, View.setTo, sets, ht, hself]
  | false =>
    have hput : p.put (v.setTo w) = { p with views := p.views.set i (v.setTo w) } :=
      put_eq_set h.serials hv (View.steady_setTo v w).serial
    have hset := View.setWindow_of_takes hwired ht w p.sync
    have hscroll := View.scroll_of_takes hwired ht w p.sync
    have hto : v.withCanvas (v.canvas.moved w) = v.setTo w := by simp [View.setTo, ht]
    rw [← h.faults] at hset
    rcases hc with rfl | rfl
    · simp [change, onView, hv, settle, setWindow, hset, Except.map, sets, ht, hput, note]
    · simp [change, onView, hv, settle, scroll, hscroll, Except.map, sets, ht, hto, hput, note]

theorem change_fit {i : Nat} {v : View} (hv : p.views[i]? = some v) :
    p.change (.fit i) = { p with
      views := p.views.set i v.fitted
      sync := (fits i v).foldl (note n) p.sync } := by
  have hput : p.put v.fitted = { p with views := p.views.set i v.fitted } :=
    put_eq_set h.serials hv (View.steady_fitted v).serial
  have hcases := View.fit_cases (h.views i v hv) p.sync
  rw [← h.faults] at hcases
  rcases hcases with hf | ⟨hw, cause, hf⟩
  · simp only [change, onView, hv, settle, fitView, hf, Except.map, hput, foldl_fits]
  · obtain ⟨hi, rfl⟩ := List.getElem?_eq_some_iff.1 hv
    simp [change, onView, hv, settle, fitView, hf, Except.map, foldl_fits, hw, View.fitted_of_none]

theorem change_fitAll :
    p.change .fitAll = { p with
      views := p.views.map View.fitted
      sync := (p.taken .fitAll).foldl (note n) p.sync } := by
  have hviews := fitViews_eq n 0 p.views p.sync fun i v hv => by simpa using h.views i v hv
  rw [← h.faults] at hviews
  simp only [change, fitContent, hviews]
  rfl

theorem change_reject {i : Nat} {v : View} (hv : p.views[i]? = some v) (on : Bool) :
    p.change (.reject i on) =
      { p with views := p.views.set i (v.withCanvas (v.canvas.reject on)) } := by
  have hput := put_eq_set h.serials hv (u := v.withCanvas (v.canvas.reject on)) rfl
  simp only [change, onView, hv, settle, reject, hput]

/-- Every view becomes what the change can make of it. -/
theorem alike_change {c : Change} (hc : c ≠ .synchronize) :
    p.Alike (Becomes p.faults c) (p.change c) := by
  have hidle : ∀ {i : Nat} {f : View → Except Cause Panes}, p.views[i]? = none →
      p.Alike (Becomes p.faults c) (p.onView i f) := by
    intro i f hv
    simpa [onView, hv] using Alike.refl (.same c) p
  cases c with
  | setWindow i w =>
    cases hv : p.views[i]? with
    | none => exact hidle hv
    | some v =>
      rw [change_window h hv w (.inl rfl)]
      exact alike_set (.same _) hv (.set i w v) _
  | scroll i w =>
    cases hv : p.views[i]? with
    | none => exact hidle hv
    | some v =>
      rw [change_window h hv w (.inr rfl)]
      exact alike_set (.same _) hv (.scroll i w v) _
  | fit i =>
    cases hv : p.views[i]? with
    | none => exact hidle hv
    | some v =>
      rw [change_fit h hv]
      exact alike_set (.same _) hv (.fit i v) _
  | fitAll =>
    rw [change_fitAll h]
    exact alike_map .fitAll _
  | reject i on =>
    cases hv : p.views[i]? with
    | none => exact hidle hv
    | some v =>
      rw [change_reject h hv]
      exact alike_set (.same _) hv (.reject i on v) p.sync
  | resize width => exact alike_map (.resize width) p.sync
  | synchronize => exact absurd rfl hc

theorem step_fitAll : p.Step n (p.change .fitAll) (p.taken .fitAll) := by
  rw [change_fitAll h]
  refine ⟨alike_map View.steady_fitted _, rfl, fun t ht => ?_, fun i => ?_⟩
  · obtain ⟨⟨v, i⟩, hv, ht⟩ := List.mem_flatMap.1 ht
    obtain ⟨rfl, hheard⟩ := of_mem_fits ht
    exact ⟨v, List.mem_zipIdx_iff_getElem?.1 hv, hheard⟩
  rw [List.getElem?_map, Option.map_map]
  cases hv : p.views[i]? with
  | none => rfl
  | some v =>
    have hl := latest_fits (w := v.canvas.window) 0 p.views i v hv
    simp only [Nat.zero_add] at hl
    simp only [Option.map_some, Function.comp, taken]
    rw [hl, window_fitted i v]

/-- What a change does, unless it puts up new listeners. -/
theorem change_step {c : Change} (hc : c ≠ .synchronize) : p.Step n (p.change c) (p.taken c) := by
  cases c with
  | setWindow i w =>
    cases hv : p.views[i]? with
    | none => simpa [change, onView, taken, hv] using Step.refl n p
    | some v =>
      rw [change_window h hv w (.inl rfl)]
      simpa [taken, hv] using step_set n hv (View.steady_setTo v w)
        (fun _ => of_mem_sets) (window_setTo i w v)
  | scroll i w =>
    cases hv : p.views[i]? with
    | none => simpa [change, onView, taken, hv] using Step.refl n p
    | some v =>
      rw [change_window h hv w (.inr rfl)]
      simpa [taken, hv] using step_set n hv (View.steady_setTo v w)
        (fun _ => of_mem_sets) (window_setTo i w v)
  | fit i =>
    cases hv : p.views[i]? with
    | none => simpa [change, onView, taken, hv] using Step.refl n p
    | some v =>
      rw [change_fit h hv]
      simpa [taken, hv] using step_set n hv (View.steady_fitted v)
        (fun _ => of_mem_fits) (window_fitted i v)
  | fitAll => exact step_fitAll h
  | reject i on =>
    cases hv : p.views[i]? with
    | none => simpa [change, onView, taken, hv] using Step.refl n p
    | some v =>
      have hk : v.Steady (v.withCanvas (v.canvas.reject on)) :=
        View.steady_withCanvas rfl rfl rfl rfl
      rw [change_reject h hv]
      exact step_set n hv hk
        (by simp : ∀ t ∈ ([] : List Taken), t.view = i ∧ t.heard = v.listens) rfl
  | resize width =>
    refine ⟨alike_map (fun v => View.steady_resize v _ width) _, rfl, by simp [taken], fun i => ?_⟩
    · simp only [change, resize, List.getElem?_map, Option.map_map, taken]
      cases p.views[i]? with
      | none => rfl
      | some v => simp [latest, View.window_resize]
  | synchronize => exact absurd rfl hc

theorem Wired.step {p' : Panes} {log : List Taken} (hs : p.Step n p' log) : p'.Wired n :=
  h.kept hs.alike.kept (by rw [hs.sync]; exact coherent_foldl_note n log h.coherent)

/-- New listeners are numbered by position. -/
theorem Wired.synchronize : p.synchronize.Wired id where
  faults := h.faults
  serials := by
    have hs : p.synchronize.views.map View.serial = p.views.map View.serial := by
      refine List.ext_getElem? fun i => ?_
      simp [getElem?_synchronize, Option.map_map, Function.comp_def, View.serial_resubscribe]
    rw [hs]
    exact h.serials
  made := by
    intro v hv
    obtain ⟨i, hi⟩ := List.mem_iff_getElem?.1 hv
    rw [getElem?_synchronize] at hi
    obtain ⟨u, hu, rfl⟩ := Option.map_eq_some_iff.1 hi
    rw [View.serial_resubscribe]
    exact h.made u (List.mem_of_getElem? hu)
  views := by
    intro i v hv
    rw [getElem?_synchronize] at hv
    obtain ⟨u, hu, rfl⟩ := Option.map_eq_some_iff.1 hv
    exact (h.views i u hu).resubscribe i
  coherent := h.coherent

end

/-! ## What a frame does -/

/-- While the panes are updating and nothing waits, listeners record nothing. -/
theorem hear_of_updating {s : Sync} (hp : s.pending = none) (hu : s.updating = true) (i : Nat)
    (listening : Bool) (w : Window) : s.hear i listening w = s := by
  cases listening with
  | false => rfl
  | true => simp [Sync.hear, Sync.record, hp, hu]

/-- The windows go to every view but the source, and what the listeners hear of that is lost. -/
theorem passOn_eq (q : Pending) : ∀ (k : Nat) (views : List View) (s : Sync),
    s.pending = none → s.updating = true → (∀ v ∈ views, ∃ m, v.WiredAs m) →
      passOn [] q k views s =
        ((views.zipIdx k).map fun (v, i) => if i = q.source then v else v.setTo q.window, s,
          (views.zipIdx k).countP fun (v, i) => i ≠ q.source && !v.canvas.refuses)
  | _, [], _, _, _, _ => rfl
  | k, v :: rest, s, hp, hu, h => by
    have ih := passOn_eq q (k + 1) rest s hp hu fun u hu => h u (by simp [hu])
    by_cases hk : k = q.source
    · simp [passOn, ← hk, ih]
    · cases ht : v.canvas.refuses with
      | true =>
        obtain ⟨cause, hset⟩ := View.setWindow_of_refuses ht q.window s
        simp [passOn, hk, hset, ih, View.setTo, ht]
      | false =>
        obtain ⟨m, hm⟩ := h v (by simp)
        have hset := View.setWindow_of_takes hm ht q.window s
        rw [hear_of_updating hp hu] at hset
        simp [passOn, hk, hset, ih, ht]

theorem onFrame_of_idle {p : Panes} (h : p.sync.pending = none) : p.onFrame = (p, 0) := by
  simp [onFrame, h]

/-- A frame passes the window that waits to every view but its source. -/
theorem onFrame_of_pending {n : Nat → Nat} {p : Panes} (h : p.Wired n) {q : Pending}
    (hq : p.sync.pending = some q) :
    p.onFrame = ({ p with
      views := p.views.mapIdx fun i v => if i = q.source then v else v.setTo q.window
      sync := {} },
      p.views.zipIdx.countP fun (v, i) => i ≠ q.source && !v.canvas.refuses) := by
  have hu : p.sync.updating = true := by rw [h.coherent, hq]; rfl
  have hpass := passOn_eq q 0 p.views { p.sync with pending := none } rfl hu fun v hv => by
    obtain ⟨i, hi, rfl⟩ := List.mem_iff_getElem.1 hv
    exact ⟨n i, h.views i _ (List.getElem?_eq_getElem hi)⟩
  rw [← h.faults] at hpass
  simp only [onFrame, hq, hpass, List.mapIdx_eq_zipIdx_map]

/-- In a frame a view stays as it is, or a window is set on it. -/
theorem passed_onFrame {n : Nat → Nat} {p : Panes} (h : p.Wired n) :
    p.Alike (fun v u => u = v ∨ ∃ w, u = v.setTo w) p.onFrame.1 := by
  cases hq : p.sync.pending with
  | none =>
    rw [onFrame_of_idle hq]
    exact .refl (fun _ => .inl rfl) p
  | some q =>
    rw [onFrame_of_pending h hq]
    refine ⟨List.forall₂_iff_get.2 ⟨by simp, fun i hi hi' => ?_⟩, rfl, rfl⟩
    simp only [List.get_eq_getElem, List.getElem_mapIdx]
    split
    · exact .inl rfl
    · exact .inr ⟨q.window, rfl⟩

theorem alike_onFrame {n : Nat → Nat} {p : Panes} (h : p.Wired n) :
    p.Alike View.Steady p.onFrame.1 := by
  refine (passed_onFrame h).imp fun v u hu => ?_
  rcases hu with rfl | ⟨w, rfl⟩
  · exact .refl _
  · exact View.steady_setTo v w

theorem Wired.onFrame {n : Nat → Nat} {p : Panes} (h : p.Wired n) : p.onFrame.1.Wired n := by
  refine h.kept (alike_onFrame h).kept ?_
  cases hq : p.sync.pending with
  | none =>
    rw [onFrame_of_idle hq]
    exact h.coherent
  | some q =>
    rw [onFrame_of_pending h hq]
    rfl

end Panes

end MarketChart
