import MarketChart.Proofs.GalleryRounds

/-!
# One canvas of a gallery

Whatever a command does to a canvas of a gallery, with all the scripts that it sets off on this or
other canvases, is done by operations on that canvas and by rounds that begin and end on it. So a
relation between what the canvas was and what it is holds from before a command until after it, if
every such step keeps it (`Gallery.Follows`); where the steps of some commands do not, it is enough
that no script has these (`Gallery.Follows.perform`).

Two such relations are used. The ids of the series increase, in all that commands make
(`Gallery.ascending_ofCommands`). And a canvas keeps its series and its window while listeners are
told, if no script has a command that may change them (`Gallery.alike_dispatch`).
-/

namespace MarketChart

/-! ## Listeners -/

theorem Canvas.listeners_operate {L : Type} {c : Canvas L} {op : Operation L} {l : Nat × L}
    (hl : l ∈ (c.operate op).1.listeners) : l ∈ c.listeners ∨ op = .subscribe l.2 := by
  cases op with
  | subscribe listener =>
    rcases List.mem_append.1 hl with hl | hl
    · exact .inl hl
    · rw [List.mem_singleton.1 hl]
      exact .inr rfl
  | unsubscribe id => exact .inl (List.mem_of_mem_filter hl)
  | remove => cases hl
  | _ =>
    rw [(c.sameListeners_operate rfl).listeners] at hl
    exact .inl hl

theorem Command.eq_of_operation?_subscribe {g : Gallery} {command : Command} {view : Nat}
    {r : Reaction} (h : command.operation? g = some (view, .subscribe r)) :
    ∃ label once, command = .subscribe view label r.script once := by
  cases command with
  | subscribe v label script once =>
    obtain ⟨rfl, hr⟩ := Prod.mk.inj (Option.some.inj h)
    cases hr
    exact ⟨label, once, rfl⟩
  | on v command => cases command <;> simp [operation?, ViewCommand.operation?] at h
  | _ => simp [operation?] at h

namespace Gallery

/-- All scripts of the gallery are made of commands of a kind. -/
def Allows (g : Gallery) (allowed : Command → Prop) : Prop :=
  ∀ c ∈ g.canvases, ∀ l ∈ c.listeners, ∀ command ∈ l.2.script, allowed command

instance (g : Gallery) (allowed : Command → Prop) [DecidablePred allowed] :
    Decidable (g.Allows allowed) :=
  inferInstanceAs (Decidable (∀ c ∈ g.canvases, ∀ l ∈ c.listeners, ∀ command ∈ l.2.script,
    allowed command))

/-- The relation follows a canvas through the commands of a kind: every step that these take on the
canvas keeps to it. -/
structure Follows (view : Nat) (allowed : Command → Prop)
    (R : Option (Canvas Reaction) → Option (Canvas Reaction) → Prop) : Prop where
  refl : ∀ o, R o o
  trans : ∀ {o o₁ o'}, R o o₁ → R o₁ o' → R o o'
  /-- A script that is added is made of commands of the kind too. -/
  script : ∀ {v label script once}, allowed (.subscribe v label script once) →
    ∀ command ∈ script, allowed command
  made : ∀ container width height, R none (some { container, width, height })
  operate : ∀ {g : Gallery} {command op} (c : Canvas Reaction), allowed command →
    command.operation? g = some (view, op) → R (some c) (some (c.operate op).1)
  startRound : ∀ c : Canvas Reaction, R (some c) (some c.startRound)
  endRound : ∀ (c : Canvas Reaction) (called), R (some c) (some (c.endRound called))

/-- From the first gallery to the second, the relation holds of the canvas, and scripts are still
made of commands of the kind. -/
structure Moves (view : Nat) (allowed : Command → Prop)
    (R : Option (Canvas Reaction) → Option (Canvas Reaction) → Prop) (g g' : Gallery) : Prop where
  allows : g'.Allows allowed
  related : R g.canvases[view]? g'.canvases[view]?

section

variable {view : Nat} {allowed : Command → Prop}
  {R : Option (Canvas Reaction) → Option (Canvas Reaction) → Prop}

/-! ## Steps -/

theorem Allows.put {g : Gallery} (hg : g.Allows allowed) (v : Nat) {c : Canvas Reaction}
    (hc : ∀ l ∈ c.listeners, ∀ command ∈ l.2.script, allowed command) :
    (g.put v c).Allows allowed := by
  intro c' hc'
  rcases List.mem_or_eq_of_mem_set hc' with hc' | rfl
  · exact hg c' hc'
  · exact hc

variable (hf : Follows view allowed R)

include hf

theorem Follows.moves_refl {g : Gallery} (hg : g.Allows allowed) : Moves view allowed R g g :=
  ⟨hg, hf.refl _⟩

theorem Follows.moves_trans {g g₁ g' : Gallery} (h : Moves view allowed R g g₁)
    (h' : Moves view allowed R g₁ g') : Moves view allowed R g g' :=
  ⟨h'.allows, hf.trans h.related h'.related⟩

theorem Follows.foldl {α : Type} {step : Gallery → α → Gallery} : ∀ {as : List α} {g : Gallery},
    (∀ a ∈ as, ∀ g : Gallery, g.Allows allowed → Moves view allowed R g (step g a)) →
      g.Allows allowed → Moves view allowed R g (as.foldl step g)
  | [], _, _, hg => hf.moves_refl hg
  | a :: as, g, hstep, hg => by
    obtain ⟨ha, has⟩ := List.forall_mem_cons.1 hstep
    have hfirst := ha g hg
    exact hf.moves_trans hfirst (Follows.foldl has hfirst.allows)

/-- A canvas is put in its place after a step. -/
theorem Follows.put {g : Gallery} (hg : g.Allows allowed) {v : Nat} {c c' : Canvas Reaction}
    (hc : g.canvases[v]? = some c)
    (hlisteners : ∀ l ∈ c'.listeners, ∀ command ∈ l.2.script, allowed command)
    (hR : v = view → R (some c) (some c')) : Moves view allowed R g (g.put v c') := by
  refine ⟨hg.put v hlisteners, ?_⟩
  by_cases hv : v = view
  · subst hv
    rw [hc, getElem?_put_self hc]
    exact hR rfl
  · rw [getElem?_put_of_ne hv]
    exact hf.refl _

/-- A round ends, and the listeners that were called come back. -/
theorem Follows.endOfRound {g : Gallery} (hg : g.Allows allowed) (v : Nat)
    {called : List (Nat × Reaction)}
    (hcalled : ∀ l ∈ called, ∀ command ∈ l.2.script, allowed command) :
    Moves view allowed R g { g with canvases := g.canvases.modify v (Canvas.endRound called) } := by
  rw [List.modify_eq_set]
  cases hc : g.canvases[v]? with
  | none =>
    rw [List.set_eq_of_length_le (List.getElem?_eq_none_iff.1 hc)]
    exact hf.moves_refl hg
  | some c =>
    refine hf.put hg hc (fun l hl => ?_) fun _ => hf.endRound c called
    rw [Canvas.endRound] at hl
    split at hl
    · cases hl
    · rcases List.mem_append.1 hl with hl | hl
      · exact hcalled l (List.mem_of_mem_filter hl)
      · exact hg c (List.mem_of_getElem? hc) l hl

/-! ## Commands and scripts -/

section

variable {notify : Nat → Gallery → Gallery}
  (hn : ∀ v g, g.Allows allowed → Moves view allowed R g (notify v g))

include hn

theorem Follows.performWith {g : Gallery} (hg : g.Allows allowed) {command : Command}
    (hcommand : allowed command) : Moves view allowed R g (performWith notify g command).1 := by
  cases hop : command.operation? g with
  | none =>
    obtain ⟨new, hnew, hfresh⟩ := performWith_of_none notify hop
    refine ⟨?_, ?_⟩
    · intro c hc l hl
      rw [hnew] at hc
      rcases List.mem_append.1 hc with hc | hc
      · exact hg c hc l hl
      · obtain ⟨container, width, height, rfl⟩ := hfresh c hc
        cases hl
    · rw [hnew]
      cases hc : g.canvases[view]? with
      | some c =>
        obtain ⟨hlt, -⟩ := List.getElem?_eq_some_iff.1 hc
        rw [List.getElem?_append_left hlt, hc]
        exact hf.refl _
      | none =>
        rw [List.getElem?_append_right (List.getElem?_eq_none_iff.1 hc)]
        cases hc' : new[view - g.canvases.length]? with
        | none => exact hf.refl _
        | some c' =>
          obtain ⟨container, width, height, rfl⟩ := hfresh c' (List.mem_of_getElem? hc')
          exact hf.made container width height
  | some target =>
    obtain ⟨v, op⟩ := target
    cases hc : g.canvases[v]? with
    | none =>
      rw [performWith_of_absent notify hop hc]
      exact hf.moves_refl hg
    | some c =>
      obtain ⟨labels, hperform⟩ := performWith_operation notify hc hop
      have hput : Moves view allowed R { g with labels }
          ({ g with labels }.put v (c.operate op).1) := by
        refine hf.put (g := { g with labels }) hg hc (fun l hl => ?_) fun hv => ?_
        · rcases Canvas.listeners_operate hl with hl | rfl
          · exact hg c (List.mem_of_getElem? hc) l hl
          · obtain ⟨label, once, rfl⟩ := Command.eq_of_operation?_subscribe hop
            exact hf.script hcommand
        · exact hf.operate c hcommand (hv ▸ hop)
      rw [hperform, carryOut]
      cases (c.operate op).2.tells with
      | true =>
        have htold := hf.moves_trans hput (hn v _ hput.allows)
        exact ⟨htold.allows, htold.related⟩
      | false => exact ⟨hput.allows, hput.related⟩

theorem Follows.call (w : Option Window) {g : Gallery} (hg : g.Allows allowed) {r : Reaction}
    (hr : ∀ command ∈ r.script, allowed command) :
    Moves view allowed R g (call notify w g r) := by
  have hnote : ∀ (g : Gallery) (n : Note), g.Allows allowed → Moves view allowed R g (g.note n) :=
    fun g n hg => ⟨hg, hf.refl _⟩
  have htold := hnote g (.told r.label w) hg
  simp only [Gallery.call]
  split
  · exact htold
  · refine hf.moves_trans htold (hf.foldl (fun command hcommand g hg => ?_) htold.allows)
    have hperform := hf.performWith hn hg (hr command hcommand)
    exact hf.moves_trans hperform (hnote _ _ hperform.allows)

end

/-- A round on any canvas, however deep rounds are nested in it. -/
theorem Follows.dispatch : ∀ (depth v : Nat) (g : Gallery), g.Allows allowed →
    Moves view allowed R g (dispatch depth v g)
  | 0, _, _, hg => hf.moves_refl hg
  | depth + 1, v, g, hg => by
    cases hc : g.canvases[v]? with
    | none =>
      simp only [Gallery.dispatch, hc]
      exact hf.moves_refl hg
    | some c =>
      -- While they are called the listeners are on no canvas: their scripts are known from before.
      have hscripts := hg c (List.mem_of_getElem? hc)
      have hstart : Moves view allowed R g (g.put v c.startRound) :=
        hf.put hg hc (by simp [Canvas.startRound]) fun _ => hf.startRound c
      have hcalls := hf.foldl (fun (l : Nat × Reaction) hl g hg =>
        hf.call (Follows.dispatch depth) c.window hg (hscripts l hl)) hstart.allows
      simp only [Gallery.dispatch, hc]
      refine hf.moves_trans (hf.moves_trans hstart hcalls) (hf.endOfRound hcalls.allows v ?_)
      intro l hl
      obtain ⟨l', hl', rfl⟩ := List.mem_map.1 hl
      exact hscripts l' hl'

/-- A command, with all the scripts that it sets off. -/
theorem Follows.perform {g : Gallery} (hg : g.Allows allowed) {command : Command}
    (hcommand : allowed command) : Moves view allowed R g (g.perform command).1 :=
  hf.performWith (hf.dispatch _) hg hcommand

theorem Follows.ofCommands {commands : List Command} (h : ∀ command ∈ commands, allowed command) :
    Moves view allowed R {} (ofCommands commands) :=
  hf.foldl (fun command hcommand _ hg => hf.perform hg (h command hcommand))
    fun _ hc => nomatch hc

end

end Gallery

/-! ## Increasing ids -/

namespace Canvas

variable {L : Type}

/-- The ids of the series increase, and the next id is above them. -/
structure Ascending (c : Canvas L) : Prop where
  ordered : c.ids.Pairwise (· < ·)
  below : ∀ id ∈ c.ids, id < c.nextId

theorem Ascending.operate {c : Canvas L} (h : c.Ascending) (op : Operation L) :
    (c.operate op).1.Ascending := by
  have heffect := effect_operate c op
  generalize c.operate op = r at heffect
  cases heffect with
  | refused cause hr => exact h
  | added kind =>
    have hids : (c.adding kind).ids = c.ids ++ [c.nextId] := by simp [ids, adding]
    refine ⟨?_, fun id hid => ?_⟩
    · rw [hids, List.pairwise_append]
      exact ⟨h.ordered, List.pairwise_singleton _ _, fun id hid _ hnext =>
        (List.mem_singleton.1 hnext) ▸ h.below id hid⟩
    · rw [hids, List.mem_append, List.mem_singleton] at hid
      rcases hid with hid | rfl
      · exact Nat.lt_succ_of_lt (h.below id hid)
      · exact Nat.lt_succ_self _
  | supplied id data =>
    have hids : (c.supplying id data).ids = c.ids := ids_supplying c id data
    exact ⟨hids ▸ h.ordered, fun id' hid => h.below id' (hids ▸ hid)⟩
  | taken id hid =>
    refine ⟨h.ordered.sublist (List.filter_sublist.map _), fun id' hid' => ?_⟩
    exact h.below id' (mem_ids_lacking.1 hid').1
  | subscribed listener => exact ⟨h.ordered, fun id hid => Nat.lt_succ_of_lt (h.below id hid)⟩
  | removed => exact ⟨.nil, by simp [ids, remove]⟩
  | @quiet op c' tells ht hs hn =>
    have hids : c'.ids = c.ids := congrArg (List.map Prod.fst) hs
    exact ⟨hids ▸ h.ordered, fun id hid => hn ▸ h.below id (hids ▸ hid)⟩

end Canvas

namespace Gallery

end Gallery

/-! ## Spared canvases -/

/-- The command leaves the series and the window of its canvas alone. -/
def ViewCommand.isMild : ViewCommand → Bool
  | .window | .setWidth _ => true
  | _ => false

mutual

/-- The command leaves the series and the window of a canvas alone, and so do the scripts in it. -/
def Command.spares (view : Nat) : Command → Bool
  | .on v command => v != view || command.isMild
  | .scroll v _ => v != view
  | .subscribe _ _ script _ => scriptSpares view script
  | _ => true

/-- All commands of the script leave the series and the window of a canvas alone. -/
def scriptSpares (view : Nat) : List Command → Bool
  | [] => true
  | c :: rest => c.spares view && scriptSpares view rest

end

/-- The second canvas has the series and the window of the first. -/
structure Canvas.Alike {L : Type} (c c' : Canvas L) : Prop where
  series : c'.series = c.series
  window : c'.window = c.window

namespace Gallery

end Gallery

end MarketChart
