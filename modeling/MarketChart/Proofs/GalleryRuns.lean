import MarketChart.Canvas.Gallery
import MarketChart.Proofs.CanvasLog

/-!
# What a gallery does to its canvases

A command on a gallery that changes a canvas is an operation on it: it leaves the canvas that the
operation leaves and gives its answer, and only if the operation says so the listeners are told
(`Gallery.performWith_operation`). Listeners run scripts of such commands within a round. So all
that commands do to a canvas, however deep the rounds are nested, is a sequence of acts
(`Gallery.grows_performAll`), and what holds of every log holds of what a gallery makes of it.
-/

namespace MarketChart

/-! ## Commands -/

/-- The operation that a command on a canvas is, if it is one. -/
def ViewCommand.operation? {L : Type} : ViewCommand → Option (Canvas.Operation L)
  | .addSeries kind => some (.addSeries kind)
  | .setData id data => some (.setData id data)
  | .removeSeries id => some (.removeSeries id)
  | .window => none
  | .fit => some .fit
  | .setWidth width => some (.setWidth width)
  | .remove => some .remove

/-- The operation that a command is, if it is one, and the number of the canvas that it is on. -/
def Command.operation? (g : Gallery) : Command → Option (Nat × Canvas.Operation Reaction)
  | .on view command => command.operation?.map (view, ·)
  | .scroll view w => some (view, .setWindow w)
  | .reject view refuse => some (view, .reject refuse)
  | .subscribe view label script once => some (view, .subscribe { label, script, once })
  | .unsubscribe view label id => some (view, .unsubscribe ((g.labels.lookup label).getD id))
  | .create .. | .find _ | .living | .contents _ | .picture _ => none

namespace Gallery

theorem put_self {g : Gallery} {view : Nat} {c : Canvas Reaction}
    (h : g.canvases[view]? = some c) : g.put view c = g := by
  obtain ⟨hlt, rfl⟩ := List.getElem?_eq_some_iff.1 h
  simp [put]

/-- The gallery after an operation on a canvas: it has the canvas that the operation left, and the
listeners are told if they are to be told. -/
def carryOut (notify : Nat → Gallery → Gallery) (g : Gallery) (view : Nat)
    (r : Canvas Reaction × Canvas.Reply) : Gallery :=
  bif r.2.tells then notify view (g.put view r.1) else g.put view r.1

section

variable (notify : Nat → Gallery → Gallery) {g : Gallery} {view : Nat} {c : Canvas Reaction}
  (hc : g.canvases[view]? = some c)

include hc

theorem settle_eq (r : Except Cause (Canvas Reaction)) :
    g.settle view r = (g.carryOut notify view (c.settle r), (c.settle r).2.answer) := by
  cases r with
  | ok c' => rfl
  | error cause => simp [settle, Canvas.settle, carryOut, put_self hc]

theorem performOn_operation {command : ViewCommand} {op : Canvas.Operation Reaction}
    (hop : command.operation? = some op) : performOn notify view c g command =
      (g.carryOut notify view (c.operate op), (c.operate op).2.answer) := by
  cases command with
  | window => simp [ViewCommand.operation?] at hop
  | addSeries kind =>
    obtain rfl := Option.some.inj hop
    simp only [performOn, Canvas.operate]
    cases c.addSeries kind with
    | ok r => rfl
    | error cause => simp [carryOut, put_self hc]
  | setData id data =>
    obtain rfl := Option.some.inj hop
    exact settle_eq notify hc (c.setData id data)
  | removeSeries id =>
    obtain rfl := Option.some.inj hop
    exact settle_eq notify hc (c.removeSeries id)
  | setWidth width =>
    obtain rfl := Option.some.inj hop
    exact settle_eq notify hc (c.setWidth width)
  | remove =>
    obtain rfl := Option.some.inj hop
    rfl
  | fit =>
    obtain rfl := Option.some.inj hop
    simp only [performOn, Canvas.operate]
    cases c.fit with
    | error cause => simp [carryOut, put_self hc]
    | ok r =>
      cases r with
      | none => simp [carryOut, put_self hc]
      | some c' => rfl

/-- A command that is an operation is carried out as the operation, and answers as it does. -/
theorem performWith_operation {command : Command} {op : Canvas.Operation Reaction}
    (hop : command.operation? g = some (view, op)) :
    ∃ labels, performWith notify g command =
      (carryOut notify { g with labels } view (c.operate op), (c.operate op).2.answer) := by
  cases command with
  | on v command =>
    obtain ⟨op', hop', heq⟩ := Option.map_eq_some_iff.1 hop
    obtain ⟨rfl, rfl⟩ := Prod.mk.inj heq
    exact ⟨g.labels, by simp only [performWith, withView, hc, performOn_operation notify hc hop']⟩
  | scroll v w =>
    obtain ⟨rfl, rfl⟩ := Prod.mk.inj (Option.some.inj hop)
    refine ⟨g.labels, ?_⟩
    simp only [performWith, withView, hc, Canvas.operate]
    cases c.setWindow w with
    | ok c' => rfl
    | error cause => simp [carryOut, put_self hc]
  | reject v refuse =>
    obtain ⟨rfl, rfl⟩ := Prod.mk.inj (Option.some.inj hop)
    exact ⟨g.labels, by simp only [performWith, withView, hc]; rfl⟩
  | subscribe v label script once =>
    obtain ⟨rfl, rfl⟩ := Prod.mk.inj (Option.some.inj hop)
    exact ⟨(label, c.nextId) :: g.labels, by simp only [performWith, withView, hc]; rfl⟩
  | unsubscribe v label id =>
    obtain ⟨rfl, rfl⟩ := Prod.mk.inj (Option.some.inj hop)
    exact ⟨g.labels, by simp only [performWith, withView, hc]; rfl⟩
  | create container width height => simp [Command.operation?] at hop
  | find container => simp [Command.operation?] at hop
  | living => simp [Command.operation?] at hop
  | contents v => simp [Command.operation?] at hop
  | picture v => simp [Command.operation?] at hop

end

/-- A command carries out an operation, or leaves the canvases alone but may make new ones. -/
theorem performWith_cases (notify : Nat → Gallery → Gallery) (g : Gallery) (command : Command) :
    (∃ labels view c op, g.canvases[view]? = some c ∧ (performWith notify g command).1 =
      carryOut notify { g with labels } view (Canvas.operate c op)) ∨
      ∃ new, (performWith notify g command).1.canvases = g.canvases ++ new := by
  have hlooks : ∀ {view : Nat} {f : Canvas Reaction → Gallery × Answer},
      (∀ c, g.canvases[view]? = some c → (f c).1.canvases = g.canvases) →
        ∃ new, (g.withView view f).1.canvases = g.canvases ++ new := by
    intro view f hf
    refine ⟨[], ?_⟩
    unfold withView
    split
    · simp
    · next c hc => simpa using hf c hc
  have hoperates : ∀ {view : Nat} {op : Canvas.Operation Reaction}
      {f : Canvas Reaction → Gallery × Answer}, command.operation? g = some (view, op) →
      performWith notify g command = g.withView view f →
        (∃ labels view c op, g.canvases[view]? = some c ∧ (performWith notify g command).1 =
          carryOut notify { g with labels } view (Canvas.operate c op)) ∨
          ∃ new, (performWith notify g command).1.canvases = g.canvases ++ new := by
    intro view op f hop hf
    cases hc : g.canvases[view]? with
    | none => exact .inr (hf ▸ hlooks (by simp [hc]))
    | some c =>
      obtain ⟨labels, hperform⟩ := performWith_operation notify hc hop
      exact .inl ⟨labels, view, c, op, hc, congrArg Prod.fst hperform⟩
  cases command with
  | create container width height => exact .inr ⟨_, rfl⟩
  | find container => exact .inr ⟨[], by simp [performWith]⟩
  | living => exact .inr ⟨[], by simp [performWith]⟩
  | contents view => exact .inr (hlooks fun _ _ => rfl)
  | picture view => exact .inr (hlooks fun _ _ => rfl)
  | scroll view w => exact hoperates rfl rfl
  | reject view refuse => exact hoperates rfl rfl
  | subscribe view label script once => exact hoperates rfl rfl
  | unsubscribe view label id => exact hoperates rfl rfl
  | on view command =>
    cases command with
    | window => exact .inr (hlooks fun _ _ => rfl)
    | _ => exact hoperates rfl rfl

/-! ## Scripts -/

/-- From `g` to `g'` canvases may be made, and those there were go through acts. -/
def Grows (g g' : Gallery) : Prop :=
  ∀ (view : Nat) (c : Canvas Reaction), g.canvases[view]? = some c →
    ∃ acts, g'.canvases[view]? = some (c.run acts)

theorem Grows.of_append {g g' : Gallery} {new : List (Canvas Reaction)}
    (h : g'.canvases = g.canvases ++ new) : g.Grows g' := by
  intro view c hc
  obtain ⟨hlt, -⟩ := List.getElem?_eq_some_iff.1 hc
  exact ⟨[], by rw [h, List.getElem?_append_left hlt, hc]; rfl⟩

theorem Grows.refl (g : Gallery) : g.Grows g := .of_append (List.append_nil _).symm

theorem Grows.trans {g g' g'' : Gallery} (h : g.Grows g') (h' : g'.Grows g'') : g.Grows g'' := by
  intro view c hc
  obtain ⟨acts, hacts⟩ := h view c hc
  obtain ⟨acts', hacts'⟩ := h' view _ hacts
  exact ⟨acts ++ acts', by rw [hacts', Canvas.run, Canvas.run, Canvas.run, List.foldl_append]⟩

theorem Grows.foldl {α : Type} {f : Gallery → α → Gallery} (hf : ∀ g a, Grows g (f g a)) :
    ∀ (as : List α) (g : Gallery), g.Grows (as.foldl f g)
  | [], g => .refl g
  | a :: as, g => (hf g a).trans (Grows.foldl hf as (f g a))

/-- One act on one canvas. -/
theorem grows_modify (g : Gallery) (view : Nat) (a : Canvas.Act Reaction) :
    g.Grows { g with canvases := g.canvases.modify view (·.act a) } := by
  intro k c hc
  by_cases hk : view = k
  · exact ⟨[a], by simp [hk, hc, Canvas.run]⟩
  · exact ⟨[], by simp [hk, hc, Canvas.run]⟩

theorem grows_put {g : Gallery} {view : Nat} {c : Canvas Reaction}
    (hc : g.canvases[view]? = some c) (a : Canvas.Act Reaction) :
    g.Grows (g.put view (c.act a)) := by
  have hmodify := grows_modify g view a
  rwa [List.modify_eq_set, hc] at hmodify

section

variable {notify : Nat → Gallery → Gallery} (hn : ∀ view g, Grows g (notify view g))

include hn

theorem grows_performWith (g : Gallery) (command : Command) :
    g.Grows (performWith notify g command).1 := by
  rcases performWith_cases notify g command with ⟨labels, view, c, op, hc, hperform⟩ | ⟨new, hnew⟩
  · have hput : g.Grows ({ g with labels }.put view (c.operate op).1) := grows_put hc (.operate op)
    rw [hperform, carryOut]
    cases (c.operate op).2.tells with
    | true => exact hput.trans (hn view _)
    | false => exact hput
  · exact .of_append hnew

theorem grows_call (w : Option Window) (g : Gallery) (r : Reaction) :
    g.Grows (call notify w g r) := by
  have hnote : ∀ (g : Gallery) (n : Note), g.Grows (g.note n) := fun g n =>
    .of_append (List.append_nil _).symm
  simp only [call]
  split
  · exact hnote _ _
  · refine (hnote g _).trans (Grows.foldl (fun g command => ?_) _ _)
    exact (grows_performWith hn g command).trans (hnote _ _)

end

theorem grows_dispatch : ∀ (depth view : Nat) (g : Gallery), g.Grows (dispatch depth view g)
  | 0, _, g => .refl g
  | depth + 1, view, g => by
    cases hc : g.canvases[view]? with
    | none =>
      simp only [dispatch, hc]
      exact .refl g
    | some c =>
      have hcall : ∀ (g : Gallery) (l : Nat × Reaction),
          g.Grows (call (dispatch depth) c.window g l.2) := fun g l =>
        grows_call (grows_dispatch depth) c.window g l.2
      simp only [dispatch, hc]
      exact ((grows_put hc .startRound).trans (.foldl hcall _ _)).trans
        (grows_modify _ view (.endRound _))

/-- All that a command does to a canvas, with the scripts it sets off, is a sequence of acts. -/
theorem grows_perform (g : Gallery) (command : Command) : g.Grows (g.perform command).1 :=
  grows_performWith (grows_dispatch _) g command

/-- From its making on, whatever commands follow, a canvas goes through a sequence of acts. -/
theorem grows_performAll (g : Gallery) (commands : List Command) :
    g.Grows (commands.foldl (fun g command => (g.perform command).1) g) :=
  Grows.foldl grows_perform commands g

end Gallery

end MarketChart
