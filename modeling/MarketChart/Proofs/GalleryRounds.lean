import MarketChart.Proofs.GalleryRuns
import MarketChart.Proofs.NestedRounds

/-!
# What rounds leave in a gallery

`Gallery.history` follows a command through the scripts that it sets off and writes down what
happens to the listeners of one canvas. It is true to what the gallery does
(`Gallery.passes_perform`): a canvas goes through its history, and one that is made on the way does
so from the time it is new. Between commands no round is going on (`Gallery.idle_ofCommands`), so
what a command that tells the listeners leaves of them is what a round leaves.
-/

namespace MarketChart

namespace Canvas

variable {L : Type}

/-- What an operation does to the listeners, up to telling them. -/
def historyOf (c : Canvas L) : Operation L → History
  | .subscribe _ => .subscribed c.nextId .done
  | .unsubscribe id => .unsubscribed id .done
  | .remove => .removed .done
  | _ => .done

/-- The operation is about the listeners, or does away with them. -/
def Operation.concernsListeners : Operation L → Bool
  | .subscribe _ | .unsubscribe _ | .remove => true
  | _ => false

/-- All other operations leave the listeners alone. -/
theorem sameListeners_operate (c : Canvas L) {op : Operation L}
    (hop : op.concernsListeners = false) : c.SameListeners (c.operate op).1 := by
  by_cases h : op.RefusedBy c
  · obtain ⟨cause, hc⟩ := operate_of_refused h
    rw [hc]
    exact .refl c
  cases op with
  | subscribe listener => cases hop
  | unsubscribe id => cases hop
  | remove => cases hop
  | addSeries kind =>
    have hr : c.removed = false := by simpa [Operation.RefusedBy] using h
    simp only [operate, addSeries_of_alive hr]
    exact ⟨rfl, rfl, rfl, rfl, Nat.le_succ _⟩
  | setData id data =>
    obtain ⟨hr, hid⟩ : c.removed = false ∧ id ∈ c.ids := by simpa [Operation.RefusedBy] using h
    simp only [operate, setData, holding_of_mem hr hid, Except.map, settle]
    exact ⟨rfl, rfl, rfl, rfl, Nat.le_refl _⟩
  | removeSeries id =>
    obtain ⟨hr, hid⟩ : c.removed = false ∧ id ∈ c.ids := by simpa [Operation.RefusedBy] using h
    simp only [operate, removeSeries, holding_of_mem hr hid, Except.map, settle]
    exact ⟨rfl, rfl, rfl, rfl, Nat.le_refl _⟩
  | setWindow w =>
    have ht : c.refuses = false := by simpa [refuses, Operation.RefusedBy] using h
    simp only [operate, setWindow_of_takes ht]
    exact ⟨rfl, rfl, rfl, rfl, Nat.le_refl _⟩
  | fit =>
    have hr : c.removed = false := by simpa [Operation.RefusedBy] using h
    simp only [operate, fit_of_alive hr]
    cases c.fitWindow? with
    | none => exact .refl c
    | some w => exact ⟨rfl, rfl, rfl, rfl, Nat.le_refl _⟩
  | setWidth width =>
    have hr : c.removed = false := by simpa [Operation.RefusedBy] using h
    simp only [operate, setWidth, alive, hr, Bool.false_eq_true, if_false, Except.map, settle]
    exact ⟨rfl, rfl, rfl, hr.symm, Nat.le_refl _⟩
  | reject on => exact ⟨rfl, rfl, rfl, rfl, Nat.le_refl _⟩

/-- An operation on a canvas leaves the listeners alone, except where its history says so. -/
theorem undergoes_operate (c : Canvas L) (op : Operation L) :
    Undergoes c (c.historyOf op) (c.operate op).1 := by
  cases op with
  | subscribe listener => exact .subscribed listener (.done _)
  | unsubscribe id => exact .unsubscribed id (.done _)
  | remove => exact .removed (.done _)
  | _ => exact .same (c.sameListeners_operate rfl) (.done _)

theorem tells_settle (c : Canvas L) (r : Except Cause (Canvas L)) :
    (c.settle r).2.tells = false := by
  cases r <;> rfl

/-- Only setting and fitting the window of a canvas that is there tells its listeners. -/
theorem of_tells {c : Canvas L} {op : Operation L} (ht : (c.operate op).2.tells = true) :
    c.removed = false ∧ ((∃ w, op = .setWindow w) ∨ op = .fit) := by
  have hop : (∃ w, op = .setWindow w) ∨ op = .fit := by
    cases op with
    | setWindow w => exact .inl ⟨w, rfl⟩
    | fit => exact .inr rfl
    | addSeries kind =>
      simp only [operate] at ht
      split at ht <;> cases ht
    | setData id data => exact absurd ht (by simp [operate, tells_settle])
    | removeSeries id => exact absurd ht (by simp [operate, tells_settle])
    | setWidth width => exact absurd ht (by simp [operate, tells_settle])
    | _ => cases ht
  refine ⟨Bool.eq_false_iff.2 fun hr => ?_, hop⟩
  have hrefused : op.RefusedBy c := by
    rcases hop with ⟨w, rfl⟩ | rfl
    · exact .inl hr
    · exact hr
  obtain ⟨cause, hc⟩ := operate_of_refused hrefused
  rw [hc] at ht
  cases ht

theorem idle_new (container : String) (width height : Nat) :
    ({ container, width, height } : Canvas L).Idle where
  ordered := List.Pairwise.nil
  below := fun _ hid => nomatch hid
  dispatching := rfl
  unsubscribed := rfl

/-- What becomes of a canvas that may not be there yet. -/
inductive Passes : Option (Canvas L) → History → Option (Canvas L) → Prop where
  | absent : Passes none .done none
  | made {c c' : Canvas L} {h : History} (hc : c.Idle) (hu : Undergoes c h c') :
    Passes none h (some c')
  | kept {c c' : Canvas L} {h : History} (hu : Undergoes c h c') : Passes (some c) h (some c')

namespace Passes

theorem refl : ∀ o : Option (Canvas L), Passes o .done o
  | none => .absent
  | some c => .kept (.done c)

theorem trans {o o₁ o' : Option (Canvas L)} {h h' : History} (hp : Passes o h o₁)
    (hp' : Passes o₁ h' o') : Passes o (h ++ h') o' := by
  cases hp with
  | absent => exact hp'
  | made hc hu =>
    cases hp' with
    | kept hu' => exact .made hc (hu.append hu')
  | kept hu =>
    cases hp' with
    | kept hu' => exact .kept (hu.append hu')

/-- A canvas that is there stays. -/
theorem of_some {c : Canvas L} {h : History} {o' : Option (Canvas L)}
    (hp : Passes (some c) h o') : ∃ c', o' = some c' ∧ Undergoes c h c' := by
  cases hp with
  | kept hu => exact ⟨_, rfl, hu⟩

/-- What goes on during a command is over after it. -/
theorem idle {o : Option (Canvas L)} {h : History} {c' : Canvas L} (hp : Passes o h (some c'))
    (ho : ∀ c, o = some c → c.Idle) : c'.Idle := by
  cases hp with
  | made hc hu => exact hu.idle hc
  | kept hu => exact hu.idle (ho _ rfl)

end Passes

end Canvas

namespace Gallery

open Canvas (Passes)

/-! ## Histories -/

/-- The history of steps that are taken one after the other. -/
def foldHistory {α : Type} (step : Gallery → α → Gallery) (history : Gallery → α → History) :
    Gallery → List α → History
  | _, [] => .done
  | g, a :: as => history g a ++ foldHistory step history (step g a) as

section

variable (view : Nat)

/-- What happens to the listeners of a canvas while a command runs; `told` is what happens while
the listeners of a canvas are told. -/
def commandHistory (told : Nat → Gallery → History) (g : Gallery) (command : Command) : History :=
  match command.operation? g with
  | none => .done
  | some (v, op) =>
    match g.canvases[v]? with
    | none => .done
    | some c =>
      (if v = view then c.historyOf op else .done) ++
        if (c.operate op).2.tells then told v (g.put v (c.operate op).1) else .done

/-- What happens to the listeners of a canvas while a listener is called. -/
def callHistory (notify : Nat → Gallery → Gallery) (told : Nat → Gallery → History)
    (w : Option Window) (g : Gallery) (r : Reaction) : History :=
  if r.once && r.called then .done
  else
    foldHistory (fun g command =>
      let (g, answer) := performWith notify g command
      g.note (.did answer)) (commandHistory view told) (g.note (.told r.label w)) r.script

/-- What happens to the listeners of a canvas while those of a canvas are told. -/
def dispatchHistory : Nat → Nat → Gallery → History
  | 0, _, _ => .done
  | depth + 1, v, g =>
    match g.canvases[v]? with
    | none => .done
    | some c =>
      let during := foldHistory (fun g l => call (dispatch depth) c.window g l.2)
        (fun g l => callHistory view (dispatch depth) (dispatchHistory depth) c.window g l.2)
        (g.put v c.startRound) c.listeners
      if v = view then .round during .done else during

/-- What happens to the listeners of a canvas when a command is run. -/
def history (g : Gallery) (command : Command) : History :=
  commandHistory view (dispatchHistory view g.depthBound) g command

end

/-! ## Commands -/

/-- A command that is an operation does nothing on a canvas that is not there. -/
theorem performWith_of_absent (notify : Nat → Gallery → Gallery) {g : Gallery} {command : Command}
    {view : Nat} {op : Canvas.Operation Reaction} (hop : command.operation? g = some (view, op))
    (hc : g.canvases[view]? = none) : (performWith notify g command).1 = g := by
  cases command with
  | on v command =>
    obtain ⟨op', -, heq⟩ := Option.map_eq_some_iff.1 hop
    obtain ⟨rfl, rfl⟩ := Prod.mk.inj heq
    simp only [performWith, withView, hc]
  | scroll v w =>
    obtain ⟨rfl, rfl⟩ := Prod.mk.inj (Option.some.inj hop)
    simp only [performWith, withView, hc]
  | reject v refuse =>
    obtain ⟨rfl, rfl⟩ := Prod.mk.inj (Option.some.inj hop)
    simp only [performWith, withView, hc]
  | subscribe v label script once =>
    obtain ⟨rfl, rfl⟩ := Prod.mk.inj (Option.some.inj hop)
    simp only [performWith, withView, hc]
  | unsubscribe v label id =>
    obtain ⟨rfl, rfl⟩ := Prod.mk.inj (Option.some.inj hop)
    simp only [performWith, withView, hc]
  | _ => simp [Command.operation?] at hop

/-- A command that is no operation leaves the canvases alone, but may make a new one. -/
theorem performWith_of_none (notify : Nat → Gallery → Gallery) {g : Gallery} {command : Command}
    (hop : command.operation? g = none) : ∃ new : List (Canvas Reaction),
      (performWith notify g command).1.canvases = g.canvases ++ new ∧
        ∀ c ∈ new, ∃ container width height, c = { container, width, height } := by
  have hlooks : ∀ {view : Nat} {f : Canvas Reaction → Gallery × Answer},
      (∀ c, (f c).1 = g) → (g.withView view f).1.canvases = g.canvases ++ [] := by
    intro view f hf
    unfold withView
    split <;> simp [hf]
  cases command with
  | create container width height =>
    refine ⟨_, rfl, fun c hc => ?_⟩
    exact ⟨container, width, height, List.mem_singleton.1 hc⟩
  | find container => exact ⟨[], (List.append_nil _).symm, by simp⟩
  | living => exact ⟨[], (List.append_nil _).symm, by simp⟩
  | contents view => exact ⟨[], hlooks fun _ => rfl, by simp⟩
  | picture view => exact ⟨[], hlooks fun _ => rfl, by simp⟩
  | on view command =>
    cases command with
    | window => exact ⟨[], hlooks fun _ => rfl, by simp⟩
    | _ => simp [Command.operation?, ViewCommand.operation?] at hop
  | _ => simp [Command.operation?] at hop

/-- A command that tells listeners does so once the canvas is what the operation left. -/
theorem performWith_of_tells (notify : Nat → Gallery → Gallery) {g : Gallery} {command : Command}
    {view : Nat} {c : Canvas Reaction} {op : Canvas.Operation Reaction}
    (hc : g.canvases[view]? = some c) (hop : command.operation? g = some (view, op))
    (ht : (c.operate op).2.tells = true) :
    (performWith notify g command).1 = notify view (g.put view (c.operate op).1) := by
  cases command with
  | on v command =>
    obtain ⟨op', hop', heq⟩ := Option.map_eq_some_iff.1 hop
    obtain ⟨rfl, rfl⟩ := Prod.mk.inj heq
    simp only [performWith, withView, hc, performOn_operation notify hc hop', carryOut, ht,
      cond_true]
  | scroll v w =>
    obtain ⟨rfl, rfl⟩ := Prod.mk.inj (Option.some.inj hop)
    simp only [Canvas.operate] at ht ⊢
    simp only [performWith, withView, hc]
    cases hw : c.setWindow w with
    | ok c' => rfl
    | error cause => simp [hw] at ht
  | reject v refuse =>
    obtain ⟨rfl, rfl⟩ := Prod.mk.inj (Option.some.inj hop)
    cases ht
  | subscribe v label script once =>
    obtain ⟨rfl, rfl⟩ := Prod.mk.inj (Option.some.inj hop)
    cases ht
  | unsubscribe v label id =>
    obtain ⟨rfl, rfl⟩ := Prod.mk.inj (Option.some.inj hop)
    cases ht
  | _ => simp [Command.operation?] at hop

/-! ## What a canvas goes through -/

section

variable {view : Nat}

theorem getElem?_put_self {g : Gallery} {c : Canvas Reaction} (hc : g.canvases[view]? = some c)
    (c' : Canvas Reaction) : (g.put view c').canvases[view]? = some c' := by
  obtain ⟨hlt, -⟩ := List.getElem?_eq_some_iff.1 hc
  rw [put, List.getElem?_set_self hlt]

theorem getElem?_put_of_ne {v : Nat} (hv : v ≠ view) (g : Gallery) (c : Canvas Reaction) :
    (g.put v c).canvases[view]? = g.canvases[view]? := by
  rw [put, List.getElem?_set_ne hv]

theorem passes_put {g : Gallery} {v : Nat} {c c' : Canvas Reaction} {h : History}
    (hc : g.canvases[v]? = some c) (hu : c.Undergoes h c') :
    Passes g.canvases[view]? (if v = view then h else .done) (g.put v c').canvases[view]? := by
  by_cases hv : v = view
  · subst hv
    rw [if_pos rfl, hc, getElem?_put_self hc]
    exact .kept hu
  · rw [if_neg hv, getElem?_put_of_ne hv]
    exact .refl _

theorem passes_foldl {α : Type} {step : Gallery → α → Gallery} {history : Gallery → α → History}
    (hstep : ∀ g a, Passes g.canvases[view]? (history g a) (step g a).canvases[view]?) :
    ∀ (as : List α) (g : Gallery),
      Passes g.canvases[view]? (foldHistory step history g as) (as.foldl step g).canvases[view]?
  | [], _ => .refl _
  | a :: as, g => (hstep g a).trans (passes_foldl hstep as (step g a))

variable {notify : Nat → Gallery → Gallery} {told : Nat → Gallery → History}
  (hn : ∀ v g, Passes g.canvases[view]? (told v g) (notify v g).canvases[view]?)

include hn

theorem passes_performWith (g : Gallery) (command : Command) :
    Passes g.canvases[view]? (commandHistory view told g command)
      (performWith notify g command).1.canvases[view]? := by
  cases hop : command.operation? g with
  | none =>
    obtain ⟨new, hnew, hfresh⟩ := performWith_of_none notify hop
    simp only [commandHistory, hop, hnew]
    cases hc : g.canvases[view]? with
    | some c =>
      obtain ⟨hlt, -⟩ := List.getElem?_eq_some_iff.1 hc
      rw [List.getElem?_append_left hlt, hc]
      exact .refl _
    | none =>
      cases hc' : (g.canvases ++ new)[view]? with
      | none => exact .absent
      | some c' =>
        have hmem : c' ∈ new := by
          rw [List.getElem?_append_right (List.getElem?_eq_none_iff.1 hc)] at hc'
          exact List.mem_of_getElem? hc'
        obtain ⟨container, width, height, rfl⟩ := hfresh c' hmem
        exact .made (Canvas.idle_new container width height) (.done _)
  | some target =>
    obtain ⟨v, op⟩ := target
    cases hc : g.canvases[v]? with
    | none =>
      simp only [commandHistory, hop, hc, performWith_of_absent notify hop hc]
      exact .refl _
    | some c =>
      simp only [commandHistory, hop, hc]
      refine (passes_put hc (c.undergoes_operate op)).trans ?_
      split
      · next ht =>
        rw [performWith_of_tells notify hc hop ht]
        exact hn v _
      · next ht =>
        obtain ⟨labels, hperform⟩ := performWith_operation notify hc hop
        rw [hperform, carryOut, Bool.eq_false_iff.2 ht]
        exact .refl _

theorem passes_call (w : Option Window) (g : Gallery) (r : Reaction) :
    Passes g.canvases[view]? (callHistory view notify told w g r)
      (call notify w g r).canvases[view]? := by
  simp only [callHistory, call]
  split
  · exact .refl _
  · have hstep : ∀ (g : Gallery) (command : Command),
        Passes g.canvases[view]? (commandHistory view told g command)
          ((performWith notify g command).1.note
            (.did (performWith notify g command).2)).canvases[view]? := passes_performWith hn
    exact passes_foldl hstep r.script (g.note (.told r.label w))

end

theorem passes_dispatch {view : Nat} : ∀ (depth v : Nat) (g : Gallery),
    Passes g.canvases[view]? (dispatchHistory view depth v g) (dispatch depth v g).canvases[view]?
  | 0, _, _ => .refl _
  | depth + 1, v, g => by
    cases hc : g.canvases[v]? with
    | none =>
      simp only [dispatchHistory, dispatch, hc]
      exact .refl _
    | some c =>
      have hcalls := passes_foldl (fun g (l : Nat × Reaction) =>
        passes_call (@passes_dispatch view depth) c.window g l.2) c.listeners (g.put v c.startRound)
      simp only [dispatchHistory, dispatch, hc]
      by_cases hv : v = view
      · subst hv
        rw [getElem?_put_self hc] at hcalls
        obtain ⟨c₁, hc₁, hduring⟩ := hcalls.of_some
        rw [if_pos rfl, hc, List.getElem?_modify_eq, hc₁]
        exact .kept (.round hduring (by simp [Canvas.subscriptions]) (.done _))
      · rw [getElem?_put_of_ne hv] at hcalls
        rw [if_neg hv, List.getElem?_modify_ne _ _ hv]
        exact hcalls

/-- The history of a command is what a canvas goes through while it runs. -/
theorem passes_perform (view : Nat) (g : Gallery) (command : Command) :
    Passes g.canvases[view]? (g.history view command) (g.perform command).1.canvases[view]? :=
  passes_performWith (passes_dispatch _) g command

/-! ## Between commands -/

/-- The gallery that commands make. -/
def ofCommands (commands : List Command) : Gallery :=
  commands.foldl (fun g command => (g.perform command).1) {}

/-- Between commands no round is going on. -/
theorem idle_ofCommands (commands : List Command) {view : Nat} {c : Canvas Reaction}
    (hc : (ofCommands commands).canvases[view]? = some c) : c.Idle := by
  induction commands using List.reverseRecOn generalizing c with
  | nil => simp [ofCommands] at hc
  | append_singleton commands command ih =>
    have hp := passes_perform view (ofCommands commands) command
    rw [ofCommands, List.foldl_append] at hc
    exact (hc ▸ hp).idle fun c hc => ih hc

/-- A command that tells the listeners of a canvas is a round for them. -/
theorem history_of_tells {g : Gallery} {command : Command} {view : Nat} {c : Canvas Reaction}
    {op : Canvas.Operation Reaction} (hc : g.canvases[view]? = some c)
    (hop : command.operation? g = some (view, op)) (ht : (c.operate op).2.tells = true) :
    ∃ during, g.history view command = .round during .done := by
  have hquiet : c.historyOf op = .done := by
    rcases (Canvas.of_tells ht).2 with ⟨w, rfl⟩ | rfl <;> rfl
  simp only [history, commandHistory, hop, hc, if_true, hquiet, ht, History.done_append, depthBound,
    dispatchHistory, getElem?_put_self hc]
  exact ⟨_, rfl⟩

/-- What becomes of the listeners of a canvas when a command sets or fits its window, whatever
their scripts do: the canvas has then been through the round that the command's history tells of.
A listener that was given up in between comes back if a round took it off the canvas before it was
given up, and a round began within that round. -/
theorem settles_perform (commands : List Command) {command : Command} {view : Nat}
    {c : Canvas Reaction} {op : Canvas.Operation Reaction}
    (hc : (ofCommands commands).canvases[view]? = some c)
    (hop : command.operation? (ofCommands commands) = some (view, op))
    (ht : (c.operate op).2.tells = true) :
    ∃ during c', (ofCommands commands).history view command = .round during .done ∧
      ((ofCommands commands).perform command).1.canvases[view]? = some c' ∧
      c.Settles c' during := by
  obtain ⟨during, hduring⟩ := history_of_tells hc hop ht
  have hp := passes_perform view (ofCommands commands) command
  rw [hc, hduring] at hp
  obtain ⟨c', hc', hu⟩ := hp.of_some
  exact ⟨during, c', hduring, hc', hu.settles (idle_ofCommands commands hc) (Canvas.of_tells ht).1⟩

/-- Two listeners, of which the first has a script. -/
def rivals (script : List Command) : List Command :=
  [.create "main-chart" 80 20, .subscribe 0 "a" script false, .subscribe 0 "b" [] false]

/-- The first listener gives up the second and subscribes a third, which takes its place. -/
theorem settles_perform_replaced :
    let g := ofCommands (rivals [.unsubscribe 0 "b" 0, .subscribe 0 "d" [] false])
    ∃ c c', g.canvases[0]? = some c ∧ (c.operate (.setWindow ⟨0.0, 10.0⟩)).2.tells = true ∧
      c.subscriptions = [1, 2] ∧
      (g.perform (.scroll 0 ⟨0.0, 10.0⟩)).1.canvases[0]? = some c' ∧ c'.subscriptions = [1, 3] := by
  intro g
  have hhistory : g.history 0 (.scroll 0 ⟨0.0, 10.0⟩) =
      .round (.unsubscribed 2 (.subscribed 3 .done)) .done := by decide +kernel
  have hop : Command.operation? g (.scroll 0 ⟨0.0, 10.0⟩) =
      some (0, .setWindow ⟨0.0, 10.0⟩) := rfl
  obtain ⟨c, hc, hbefore, ht⟩ : ∃ c, g.canvases[0]? = some c ∧ c.subscriptions = [1, 2] ∧
    (c.operate (.setWindow ⟨0.0, 10.0⟩)).2.tells = true := ⟨_, rfl, rfl, rfl⟩
  obtain ⟨during, c', hduring, hc', hsettles⟩ := settles_perform _ hc hop ht
  obtain ⟨rfl, -⟩ := History.round.inj (hhistory.symm.trans hduring)
  refine ⟨c, c', hc, ht, hbefore, hc', ?_⟩
  rw [hsettles.plain hsettles.removed (by decide) (by decide), hbefore]
  decide

/-- The first listener gives up the second and sets the window. The round that this begins within
the first one makes the second listener come back. -/
theorem given_up_comes_back :
    let g := ofCommands (rivals [.unsubscribe 0 "b" 0, .scroll 0 ⟨1.0, 2.0⟩])
    g.history 0 (.scroll 0 ⟨0.0, 10.0⟩) =
        .round (.unsubscribed 2 (.round .done .done)) .done ∧
      (g.perform (.scroll 0 ⟨0.0, 10.0⟩)).1.canvases.map Canvas.subscriptions = [[1, 2]] := by
  decide +kernel

end Gallery

end MarketChart
