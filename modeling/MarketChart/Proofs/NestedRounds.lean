import MarketChart.Proofs.CanvasLog

/-!
# Rounds within rounds

A listener that is called may do anything with its canvas, and so begin a round within the round it
is called in. `History` is what happens to the listeners of a canvas over a time, with the rounds in
it as histories of their own, and `Canvas.Undergoes` says that a canvas goes through a history,
whatever the listeners are and however they decide what to do.

The end of a round clears what the canvas keeps in mind of the subscriptions given up, and the mark
that a round is going on. So the end of an inner round makes the outer one forget: once a round
began within a round, all listeners that the outer round has taken off the canvas come back, given
up or not. A listener that is on the canvas when it is given up is gone for good. This is
`History.stays`, and `Canvas.Undergoes.settles` says that it is all that decides about a listener:
after a round the canvas has those that stay, in the order of their subscriptions.
-/

namespace MarketChart

/-- What happens to the listeners of a canvas. -/
inductive History where
  | done
  | subscribed (id : Nat) (next : History)
  | unsubscribed (id : Nat) (next : History)
  | removed (next : History)
  /-- A round, with what happens while the listeners are called. -/
  | round (during next : History)
deriving DecidableEq

namespace History

/-- One history after the other. -/
def append : History → History → History
  | .done, h' => h'
  | .subscribed id next, h' => .subscribed id (next.append h')
  | .unsubscribed id next, h' => .unsubscribed id (next.append h')
  | .removed next, h' => .removed (next.append h')
  | .round during next, h' => .round during (next.append h')

instance : Append History := ⟨append⟩

/-- The subscriptions that are made, within rounds too, in their order. -/
def made : History → List Nat
  | .done => []
  | .subscribed id next => id :: next.made
  | .unsubscribed _ next => next.made
  | .removed next => next.made
  | .round during next => during.made ++ next.made

/-- The subscriptions that are given up, within rounds too. -/
def givenUp : History → List Nat
  | .done => []
  | .subscribed _ next => next.givenUp
  | .unsubscribed id next => id :: next.givenUp
  | .removed next => next.givenUp
  | .round during next => during.givenUp ++ next.givenUp

/-- The canvas is removed. -/
def removes : History → Bool
  | .done => false
  | .subscribed _ next => next.removes
  | .unsubscribed _ next => next.removes
  | .removed _ => true
  | .round during next => during.removes || next.removes

/-- A round begins. -/
def hasRound : History → Bool
  | .done => false
  | .subscribed _ next => next.hasRound
  | .unsubscribed _ next => next.hasRound
  | .removed next => next.hasRound
  | .round _ _ => true

/-- A listener that is on the canvas at the beginning is given up for good. A round takes it off
the canvas, and brings it back even if it was given up, once a round began within. -/
def drops (id : Nat) : History → Bool
  | .done => false
  | .subscribed _ next => next.drops id
  | .unsubscribed i next => decide (i = id) || next.drops id
  | .removed next => next.drops id
  | .round during next => (!during.hasRound && during.givenUp.contains id) || next.drops id

/-- What follows after a subscription was made. -/
def rest (id : Nat) : History → Option History
  | .done => none
  | .subscribed i next => if i = id then some next else next.rest id
  | .unsubscribed _ next => next.rest id
  | .removed next => next.rest id
  | .round during next =>
    match during.rest id with
    | some after => some (after ++ next)
    | none => next.rest id

/-- A listener is not given up for good after its subscription, be that in the history or before. -/
def stays (h : History) (id : Nat) : Bool := !((h.rest id).getD h).drops id

/-- No subscription gets an id that was given up before. -/
def timely : History → Bool
  | .done => true
  | .subscribed _ next => next.timely
  | .unsubscribed id next => !next.made.contains id && next.timely
  | .removed next => next.timely
  | .round during next =>
    during.timely && next.made.all (!during.givenUp.contains ·) && next.timely

/-! ## What stays -/

@[simp] theorem done_append (h : History) : .done ++ h = h := rfl

@[simp] theorem drops_append (id : Nat) (h h' : History) :
    (h ++ h').drops id = (h.drops id || h'.drops id) := by
  induction h with
  | done => simp [drops]
  | subscribed i next ih => exact ih
  | unsubscribed i next ih =>
    rw [drops, Bool.or_assoc, ← ih]
    rfl
  | removed next ih => exact ih
  | round during next _ ih =>
    rw [drops, Bool.or_assoc, ← ih]
    rfl

theorem rest_eq_none_iff {id : Nat} {h : History} : h.rest id = none ↔ id ∉ h.made := by
  induction h with
  | done => simp [rest, made]
  | subscribed i next ih =>
    by_cases hi : i = id
    · simp [rest, made, hi]
    · simp [rest, made, hi, ih, Ne.symm hi]
  | unsubscribed i next ih => exact ih
  | removed next ih => exact ih
  | round during next ihd ih =>
    cases hd : during.rest id with
    | none => simp [rest, made, hd, ih, ihd.1 hd]
    | some after =>
      have hmem : id ∈ during.made := by
        by_contra hmem
        simp [ihd.2 hmem] at hd
      simp [rest, made, hd, hmem]

theorem exists_rest {id : Nat} {h : History} (hid : id ∈ h.made) :
    ∃ after, h.rest id = some after :=
  Option.ne_none_iff_exists'.1 fun hnone => rest_eq_none_iff.1 hnone hid

theorem stays_done (id : Nat) : History.done.stays id = true := rfl

/-- A listener from before stays if nothing drops it. -/
theorem stays_of_not_made {id : Nat} {h : History} (hid : id ∉ h.made) :
    h.stays id = !h.drops id := by
  rw [stays, rest_eq_none_iff.2 hid, Option.getD_none]

theorem stays_subscribed (id : Nat) (next : History) :
    (History.subscribed id next).stays id = !next.drops id := by
  simp [stays, rest]

theorem stays_subscribed_of_ne {i id : Nat} (hi : i ≠ id) (next : History) :
    (History.subscribed i next).stays id = next.stays id := by
  rw [stays, stays, rest, if_neg hi]
  cases next.rest id <;> rfl

theorem stays_unsubscribed {i id : Nat} {next : History} (hid : id ∈ next.made) :
    (History.unsubscribed i next).stays id = next.stays id := by
  obtain ⟨after, hafter⟩ := exists_rest hid
  simp [stays, rest, hafter]

theorem stays_round_of_made {id : Nat} {during : History} (hid : id ∈ during.made)
    (next : History) :
    (History.round during next).stays id = (during.stays id && !next.drops id) := by
  obtain ⟨after, hafter⟩ := exists_rest hid
  simp [stays, rest, hafter]

theorem stays_round_of_next {id : Nat} {during next : History} (hd : id ∉ during.made)
    (hid : id ∈ next.made) : (History.round during next).stays id = next.stays id := by
  obtain ⟨after, hafter⟩ := exists_rest hid
  simp [stays, rest, rest_eq_none_iff.2 hd, hafter]

/-! ## What was given up -/

theorem drops_of_plain {id : Nat} {h : History} (hplain : h.hasRound = false) :
    h.drops id = h.givenUp.contains id := by
  induction h with
  | done => rfl
  | subscribed i next ih => exact ih hplain
  | unsubscribed i next ih =>
    rw [drops, givenUp, List.contains_cons, ih hplain, beq_eq_decide, decide_eq_decide.2 eq_comm]
  | removed next ih => exact ih hplain
  | round during next _ _ => cases hplain

/-- Without rounds, a listener that comes is dropped if it is given up: not before it came, as the
history is timely. -/
theorem drops_rest_of_plain {id : Nat} {h after : History} (htimely : h.timely = true)
    (hplain : h.hasRound = false) (hrest : h.rest id = some after) :
    after.drops id = h.givenUp.contains id := by
  induction h with
  | done => cases hrest
  | subscribed i next ih =>
    rw [rest] at hrest
    split at hrest
    · obtain rfl := Option.some.inj hrest
      exact drops_of_plain hplain
    · exact ih htimely hplain hrest
  | unsubscribed i next ih =>
    obtain ⟨hi, htimely⟩ : i ∉ next.made ∧ next.timely = true := by simpa [timely] using htimely
    have hmade : id ∈ next.made := by
      by_contra hmade
      exact Option.some_ne_none after (hrest.symm.trans (rest_eq_none_iff.2 hmade))
    have hne : id ≠ i := fun heq => hi (heq ▸ hmade)
    rw [ih htimely hplain hrest, givenUp, List.contains_cons, beq_false_of_ne hne, Bool.false_or]
  | removed next ih => exact ih htimely hplain hrest
  | round during next _ _ => cases hplain

/-- A round that no round begins within drops exactly what is given up. -/
theorem stays_round_of_plain {h : History} (htimely : h.timely = true) (hplain : h.hasRound = false)
    (id : Nat) : (History.round h .done).stays id = !h.givenUp.contains id := by
  by_cases hid : id ∈ h.made
  · obtain ⟨after, hafter⟩ := exists_rest hid
    rw [stays_round_of_made hid, stays, hafter, Option.getD_some,
      drops_rest_of_plain htimely hplain hafter, drops, Bool.not_false, Bool.and_true]
  · have hround : id ∉ (History.round h .done).made := by simpa [made] using hid
    rw [stays_of_not_made hround, drops, hplain, drops, Bool.or_false, Bool.not_false,
      Bool.true_and]

/-! Of the listeners `on` a canvas and those that a history brings, those stay that its first deed
leaves on the canvas, or brings, and that stay in what follows. -/

theorem filter_stays_subscribed {id : Nat} {next : History} (hid : id ∉ next.made)
    (on : List Nat) : (on ++ [id] ++ next.made).filter next.stays =
      (on ++ (History.subscribed id next).made).filter (History.subscribed id next).stays := by
  rw [List.append_assoc]
  refine List.filter_congr fun i _ => ?_
  by_cases hi : id = i
  · rw [← hi, stays_of_not_made hid, stays_subscribed]
  · rw [stays_subscribed_of_ne hi]

theorem filter_stays_unsubscribed (id : Nat) {next : History} {on : List Nat}
    (hon : ∀ i ∈ on, i ∉ next.made) : (on.filter (· ≠ id) ++ next.made).filter next.stays =
      (on ++ next.made).filter (History.unsubscribed id next).stays := by
  rw [List.filter_append, List.filter_append, List.filter_filter]
  congr 1
  · refine List.filter_congr fun i hi => ?_
    have hmade : i ∉ (History.unsubscribed id next).made := hon i hi
    rw [stays_of_not_made (hon i hi), stays_of_not_made hmade, drops, Bool.not_or, Bool.and_comm]
    simp [eq_comm]
  · exact List.filter_congr fun i hi => (stays_unsubscribed hi).symm

theorem filter_stays_round {during next : History} {on : List Nat}
    (hon : ∀ i ∈ on, i ∉ during.made ++ next.made) (hmade : ∀ i ∈ during.made, i ∉ next.made) :
    (on.filter (fun i => during.hasRound || !during.givenUp.contains i) ++
        during.made.filter during.stays ++ next.made).filter next.stays =
      (on ++ (History.round during next).made).filter (History.round during next).stays := by
  rw [made, ← List.append_assoc]
  simp only [List.filter_append, List.filter_filter]
  congr 1
  · congr 1
    · refine List.filter_congr fun i hi => ?_
      have hnext : i ∉ next.made := fun hi' => hon i hi (List.mem_append_right _ hi')
      have hround : i ∉ (History.round during next).made := hon i hi
      rw [stays_of_not_made hnext, stays_of_not_made hround, drops, Bool.not_or, Bool.not_and,
        Bool.not_not, Bool.and_comm]
    · refine List.filter_congr fun i hi => ?_
      rw [stays_round_of_made hi, stays_of_not_made (hmade i hi), Bool.and_comm]
  · refine List.filter_congr fun i hi => ?_
    rw [stays_round_of_next (fun hi' => hmade i hi' hi) hi]

end History

namespace Canvas

variable {L : Type}

/-- The ids of the listeners on a canvas. -/
def subscriptions (c : Canvas L) : List Nat := c.listeners.map (·.1)

/-- Nothing happened to the listeners. -/
structure SameListeners (c c' : Canvas L) : Prop where
  listeners : c'.listeners = c.listeners
  dispatching : c'.dispatching = c.dispatching
  unsubscribed : c'.unsubscribed = c.unsubscribed
  removed : c'.removed = c.removed
  nextId : c.nextId ≤ c'.nextId

/-- The first canvas goes through a history and becomes the second. The listeners may change while
they are called, but not their ids. -/
inductive Undergoes : Canvas L → History → Canvas L → Prop where
  | done (c : Canvas L) : Undergoes c .done c
  | same {c c₁ c' : Canvas L} {h : History} (hsame : c.SameListeners c₁)
    (hnext : Undergoes c₁ h c') : Undergoes c h c'
  | subscribed {c c' : Canvas L} {h : History} (listener : L)
    (hnext : Undergoes (c.subscribe listener).1 h c') :
    Undergoes c (.subscribed c.nextId h) c'
  | unsubscribed {c c' : Canvas L} {h : History} (id : Nat)
    (hnext : Undergoes (c.unsubscribe id) h c') : Undergoes c (.unsubscribed id h) c'
  | removed {c c' : Canvas L} {h : History} (hnext : Undergoes c.remove h c') :
    Undergoes c (.removed h) c'
  | round {c c₁ c' : Canvas L} {during h : History} {called : List (Nat × L)}
    (hduring : Undergoes c.startRound during c₁) (hcalled : called.map (·.1) = c.subscriptions)
    (hnext : Undergoes (c₁.endRound called) h c') : Undergoes c (.round during h) c'

/-! ## What a step does to the subscriptions -/

theorem SameListeners.refl (c : Canvas L) : c.SameListeners c := ⟨rfl, rfl, rfl, rfl, Nat.le_refl _⟩

theorem SameListeners.trans {c c₁ c' : Canvas L} (h : c.SameListeners c₁)
    (h' : c₁.SameListeners c') : c.SameListeners c' where
  listeners := h'.listeners.trans h.listeners
  dispatching := h'.dispatching.trans h.dispatching
  unsubscribed := h'.unsubscribed.trans h.unsubscribed
  removed := h'.removed.trans h.removed
  nextId := Nat.le_trans h.nextId h'.nextId

theorem SameListeners.subscriptions {c c' : Canvas L} (h : c.SameListeners c') :
    c'.subscriptions = c.subscriptions := by
  rw [Canvas.subscriptions, Canvas.subscriptions, h.listeners]

@[simp] theorem subscriptions_subscribe (c : Canvas L) (listener : L) :
    (c.subscribe listener).1.subscriptions = c.subscriptions ++ [c.nextId] := by
  simp [subscriptions, subscribe]

@[simp] theorem subscriptions_unsubscribe (c : Canvas L) (id : Nat) :
    (c.unsubscribe id).subscriptions = c.subscriptions.filter (· ≠ id) := by
  simp [subscriptions, unsubscribe, List.filter_map, Function.comp_def]

@[simp] theorem subscriptions_startRound (c : Canvas L) : c.startRound.subscriptions = [] := rfl

theorem subscriptions_endRound (c : Canvas L) (called : List (Nat × L)) :
    (c.endRound called).subscriptions = if c.removed then [] else
      (called.map (·.1)).filter (!c.unsubscribed.contains ·) ++ c.subscriptions := by
  unfold subscriptions endRound
  split
  · rfl
  · simp [List.filter_map, Function.comp_def]

/-! ## What a history does to the subscriptions -/

namespace Undergoes

theorem append {c c₁ c' : Canvas L} {h h' : History} (hu : Undergoes c h c₁)
    (hu' : Undergoes c₁ h' c') : Undergoes c (h ++ h') c' := by
  induction hu with
  | done c => exact hu'
  | same hsame _ ih => exact .same hsame (ih hu')
  | subscribed listener _ ih => exact .subscribed listener (ih hu')
  | unsubscribed id _ ih => exact .unsubscribed id (ih hu')
  | removed _ ih => exact .removed (ih hu')
  | round hduring hcalled _ _ ih => exact .round hduring hcalled (ih hu')

theorem nextId_le {c c' : Canvas L} {h : History} (hu : Undergoes c h c') :
    c.nextId ≤ c'.nextId := by
  induction hu with
  | done c => exact Nat.le_refl _
  | same hsame _ ih => exact Nat.le_trans hsame.nextId ih
  | subscribed listener _ ih => exact Nat.le_of_succ_le ih
  | unsubscribed id _ ih => exact ih
  | removed _ ih => exact ih
  | round _ _ _ ihd ih => exact Nat.le_trans ihd ih

/-- Subscriptions get ids in their order, from the next id of the canvas on. -/
theorem made_ordered {c c' : Canvas L} {h : History} (hu : Undergoes c h c') :
    h.made.Pairwise (· < ·) ∧ ∀ id ∈ h.made, c.nextId ≤ id ∧ id < c'.nextId := by
  induction hu with
  | done c => simp [History.made]
  | same hsame _ ih =>
    exact ⟨ih.1, fun id hid => ⟨Nat.le_trans hsame.nextId (ih.2 id hid).1, (ih.2 id hid).2⟩⟩
  | @subscribed c c' h listener hnext ih =>
    refine ⟨List.pairwise_cons.2 ⟨fun id hid => (ih.2 id hid).1, ih.1⟩, fun id hid => ?_⟩
    rcases List.mem_cons.1 hid with rfl | hid
    · exact ⟨Nat.le_refl _, hnext.nextId_le⟩
    · exact ⟨Nat.le_of_succ_le (ih.2 id hid).1, (ih.2 id hid).2⟩
  | unsubscribed id _ ih => exact ih
  | removed _ ih => exact ih
  | @round c c₁ c' during h called hduring hcalled hnext ihd ih =>
    have hle : c₁.nextId ≤ c'.nextId := hnext.nextId_le
    have hled : c.nextId ≤ c₁.nextId := hduring.nextId_le
    refine ⟨List.pairwise_append.2 ⟨ihd.1, ih.1, fun id hid id' hid' => ?_⟩, fun id hid => ?_⟩
    · exact Nat.lt_of_lt_of_le (ihd.2 id hid).2 (ih.2 id' hid').1
    · rcases List.mem_append.1 hid with hid | hid
      · exact ⟨(ihd.2 id hid).1, Nat.lt_of_lt_of_le (ihd.2 id hid).2 hle⟩
      · exact ⟨Nat.le_trans hled (ih.2 id hid).1, (ih.2 id hid).2⟩

/-- No listener comes twice or out of order. -/
theorem sublist {c c' : Canvas L} {h : History} (hu : Undergoes c h c') :
    c'.subscriptions.Sublist (c.subscriptions ++ h.made) := by
  induction hu with
  | done c => simp [History.made]
  | same hsame _ ih => rwa [hsame.subscriptions] at ih
  | subscribed listener _ ih => simpa [History.made] using ih
  | unsubscribed id _ ih =>
    rw [subscriptions_unsubscribe] at ih
    exact ih.trans (List.filter_sublist.append_right _)
  | removed _ ih => exact ih.trans (List.sublist_append_right _ _)
  | @round c c₁ c' during h called hduring hcalled hnext ihd ih =>
    have hend : (c₁.endRound called).subscriptions.Sublist (c.subscriptions ++ during.made) := by
      rw [subscriptions_endRound, hcalled]
      split
      · exact List.nil_sublist _
      · exact List.filter_sublist.append ihd
    have htrans := ih.trans (hend.append_right h.made)
    rwa [List.append_assoc] at htrans

theorem removed_eq {c c' : Canvas L} {h : History} (hu : Undergoes c h c') :
    c'.removed = (c.removed || h.removes) := by
  induction hu with
  | done c => simp [History.removes]
  | same hsame _ ih => rw [ih, hsame.removed]
  | subscribed listener _ ih => exact ih
  | unsubscribed id _ ih => exact ih
  | removed _ ih => simp [ih, remove, History.removes]
  | round _ _ _ ihd ih =>
    rw [ih, History.removes, ← Bool.or_assoc]
    exact congrArg (· || _) ihd

theorem not_removed {c c' : Canvas L} {h : History} (hu : Undergoes c h c')
    (hr : c.removed = false) (hno : h.removes = false) : c'.removed = false := by
  rw [hu.removed_eq, hr, hno, Bool.or_false]

theorem dispatching_eq {c c' : Canvas L} {h : History} (hu : Undergoes c h c') :
    c'.dispatching = (c.dispatching && !h.hasRound) := by
  induction hu with
  | done c => simp [History.hasRound]
  | same hsame _ ih => rw [ih, hsame.dispatching]
  | subscribed listener _ ih => exact ih
  | unsubscribed id _ ih => exact ih
  | removed _ ih => exact ih
  | round _ _ _ _ ih => simp [ih, endRound, History.hasRound]

/-- What the canvas keeps in mind: a round that ends clears it, and from then on nothing is kept in
mind any more. -/
theorem mem_unsubscribed_iff {c c' : Canvas L} {h : History} (hu : Undergoes c h c') (id : Nat) :
    id ∈ c'.unsubscribed ↔ h.hasRound = false ∧
      (id ∈ c.unsubscribed ∨ c.dispatching = true ∧ id ∈ h.givenUp) := by
  induction hu with
  | done c => simp [History.hasRound, History.givenUp]
  | same hsame _ ih => rw [ih, hsame.unsubscribed, hsame.dispatching]
  | subscribed listener _ ih => exact ih
  | @unsubscribed c c' h i hnext ih =>
    rw [ih]
    cases hd : c.dispatching <;> simp [unsubscribe, hd, History.hasRound, History.givenUp, or_assoc]
  | removed _ ih => exact ih
  | round _ _ _ _ ih => simp [ih, endRound, History.hasRound]

end Undergoes

/-! ## What stays on the canvas -/

/-- The listeners are in the order of their subscriptions. -/
structure Listed (c : Canvas L) : Prop where
  ordered : c.subscriptions.Pairwise (· < ·)
  below : ∀ id ∈ c.subscriptions, id < c.nextId

/-- Listeners from before and those that come are in order. -/
theorem Undergoes.ordered {c c' : Canvas L} {h : History} (hu : Undergoes c h c')
    (hc : c.Listed) : (c.subscriptions ++ h.made).Pairwise (· < ·) := by
  obtain ⟨hmade, hbounds⟩ := hu.made_ordered
  refine List.pairwise_append.2 ⟨hc.ordered, hmade, fun id hid id' hid' => ?_⟩
  exact Nat.lt_of_lt_of_le (hc.below id hid) (hbounds id' hid').1

theorem Undergoes.listed {c c' : Canvas L} {h : History} (hu : Undergoes c h c')
    (hc : c.Listed) : c'.Listed := by
  refine ⟨(hu.ordered hc).sublist hu.sublist, fun id hid => ?_⟩
  rcases List.mem_append.1 (hu.sublist.subset hid) with hid | hid
  · exact Nat.lt_of_lt_of_le (hc.below id hid) hu.nextId_le
  · exact (hu.made_ordered.2 id hid).2

/-- Subscriptions that are made are none of those from before. -/
theorem Undergoes.not_made {c c' : Canvas L} {h : History} (hu : Undergoes c h c')
    (hc : c.Listed) {id : Nat} (hid : id ∈ c.subscriptions) : id ∉ h.made := fun hmade =>
  Nat.lt_irrefl id ((List.pairwise_append.1 (hu.ordered hc)).2.2 id hid id hmade)

/-- The end of a round brings back those listeners that were not given up, and all of them if a
round began within. -/
theorem Undergoes.subscriptions_broughtBack {c c₁ : Canvas L} {during : History}
    {called : List (Nat × L)} (hduring : Undergoes c.startRound during c₁)
    (hcalled : called.map (·.1) = c.subscriptions) (hr : c₁.removed = false)
    (hfree : ∀ id ∈ c.subscriptions, id ∉ c.unsubscribed) :
    (c₁.endRound called).subscriptions =
      c.subscriptions.filter (fun id => during.hasRound || !during.givenUp.contains id) ++
        c₁.subscriptions := by
  rw [subscriptions_endRound, hr, hcalled, if_neg Bool.false_ne_true]
  congr 1
  refine List.filter_congr fun id hid => ?_
  have hmem : id ∈ c₁.unsubscribed ↔ during.hasRound = false ∧ id ∈ during.givenUp := by
    simp [hduring.mem_unsubscribed_iff, startRound, hfree id hid]
  cases hround : during.hasRound <;> simp [hmem, hround]

/-- What a canvas has after a history in which it is not removed. By induction on the history: each
step takes off what it drops of the listeners that are there, and `free` says that what the
canvas keeps in mind is about none of them. -/
theorem Undergoes.subscriptions_eq {c c' : Canvas L} {h : History} (hu : Undergoes c h c')
    (hc : c.Listed) (hr : c.removed = false)
    (free : ∀ id ∈ c.subscriptions ++ h.made, id ∉ c.unsubscribed)
    (htimely : h.timely = true) (hstays : h.removes = false) :
    c'.subscriptions = (c.subscriptions ++ h.made).filter h.stays := by
  induction hu with
  | done c => simp [History.made, List.filter_eq_self.2 fun id _ => History.stays_done id]
  | @same c c₁ c' h hsame hnext ih =>
    have hc₁ : c₁.Listed := (Undergoes.same hsame (.done c₁)).listed hc
    rw [← hsame.removed] at hr
    rw [← hsame.subscriptions, ← hsame.unsubscribed] at free
    rw [← hsame.subscriptions]
    exact ih hc₁ hr free htimely hstays
  | @subscribed c c' h listener hnext ih =>
    have hc₁ := (Undergoes.subscribed listener (.done _)).listed hc
    have hnew : c.nextId ∉ h.made := hnext.not_made hc₁ (by simp)
    have free₁ : ∀ id ∈ (c.subscribe listener).1.subscriptions ++ h.made, id ∉ c.unsubscribed := by
      simpa [History.made] using free
    rw [ih hc₁ hr free₁ htimely hstays, subscriptions_subscribe,
      History.filter_stays_subscribed hnew]
  | @unsubscribed c c' h i hnext ih =>
    have hc₁ := (Undergoes.unsubscribed i (.done _)).listed hc
    have hu : Undergoes c (.unsubscribed i h) c' := .unsubscribed i hnext
    obtain ⟨hi, htimely⟩ : i ∉ h.made ∧ h.timely = true := by
      simpa [History.timely] using htimely
    have free₁ : ∀ id ∈ (c.unsubscribe i).subscriptions ++ h.made,
        id ∉ (c.unsubscribe i).unsubscribed := by
      intro id hid hmem
      rw [subscriptions_unsubscribe, List.mem_append, List.mem_filter, decide_eq_true_eq] at hid
      rw [(Undergoes.unsubscribed i (.done _)).mem_unsubscribed_iff] at hmem
      rcases hmem with ⟨-, hmem | ⟨-, hmem⟩⟩
      · exact free id (List.mem_append.2 (hid.imp_left And.left)) hmem
      · obtain rfl : id = i := List.mem_singleton.1 hmem
        exact hid.elim (fun hid => hid.2 rfl) hi
    rw [ih hc₁ hr free₁ htimely hstays, subscriptions_unsubscribe]
    exact History.filter_stays_unsubscribed i fun id hid => hu.not_made hc hid
  | removed hnext ih => simp [History.removes] at hstays
  | @round c c₁ c' during h called hduring hcalled hnext ihd ih =>
    have hu : Undergoes c (.round during h) c' := .round hduring hcalled hnext
    have hstart : c.startRound.Listed := ⟨List.Pairwise.nil, by simp⟩
    have hend : (c₁.endRound called).Listed := (Undergoes.round hduring hcalled (.done _)).listed hc
    obtain ⟨⟨htd, -⟩, ht⟩ : (during.timely = true ∧ _) ∧ h.timely = true := by
      simpa [History.timely] using htimely
    obtain ⟨hsd, hs⟩ : during.removes = false ∧ h.removes = false := by
      simpa [History.removes] using hstays
    have hr₁ : c₁.removed = false := hduring.not_removed hr hsd
    have hdisjoint : ∀ id ∈ during.made, id ∉ h.made := fun id hid hid' =>
      Nat.not_le_of_lt (hduring.made_ordered.2 id hid).2 (hnext.made_ordered.2 id hid').1
    have hsub₁ : c₁.subscriptions = during.made.filter during.stays := by
      refine ihd hstart hr (fun id hid => free id ?_) htd hsd
      exact List.mem_append_right _ (List.mem_append_left _ hid)
    have hfree : ∀ id ∈ c.subscriptions, id ∉ c.unsubscribed := fun id hid =>
      free id (List.mem_append_left _ hid)
    rw [ih hend hr₁ (by simp [endRound]) ht hs, hduring.subscriptions_broughtBack hcalled hr₁ hfree,
      hsub₁]
    exact History.filter_stays_round (fun id hid => hu.not_made hc hid) hdisjoint

/-- No round is going on, and the listeners are in order. -/
structure Idle (c : Canvas L) : Prop extends c.Listed where
  dispatching : c.dispatching = false
  unsubscribed : c.unsubscribed = []

theorem Undergoes.idle {c c' : Canvas L} {h : History} (hu : Undergoes c h c') (hc : c.Idle) :
    c'.Idle where
  toListed := hu.listed hc.toListed
  dispatching := by rw [hu.dispatching_eq, hc.dispatching, Bool.false_and]
  unsubscribed := by
    refine List.eq_nil_iff_forall_not_mem.2 fun id hid => ?_
    simp [hu.mem_unsubscribed_iff, hc.dispatching, hc.unsubscribed] at hid

theorem Undergoes.of_done {c c' : Canvas L} (hu : Undergoes c .done c') : c.SameListeners c' := by
  generalize hh : History.done = h at hu
  induction hu with
  | done c => exact .refl c
  | same hsame _ ih => exact hsame.trans (ih hh)
  | _ => cases hh

/-- The end of a round leaves no listeners on a canvas that was removed. -/
theorem Undergoes.subscriptions_of_removed {c c' : Canvas L} {during : History}
    (hu : Undergoes c (.round during .done) c') (hr : c'.removed = true) :
    c'.subscriptions = [] := by
  generalize hh : History.round during .done = h at hu
  induction hu with
  | same hsame _ ih => exact ih hr hh
  | round hduring hcalled hnext _ _ =>
    obtain ⟨rfl, rfl⟩ := History.round.inj hh
    have hsame := hnext.of_done
    rw [hsame.subscriptions, subscriptions_endRound]
    exact if_pos (hsame.removed.symm.trans hr)
  | _ => cases hh

/-- A listener that is never given up is on the canvas in the end, unless that is removed. -/
theorem Undergoes.mem_subscriptions {c c' : Canvas L} {h : History} {id : Nat}
    (hu : Undergoes c h c') (hr : c.removed = false) (hno : h.removes = false)
    (hmind : id ∉ c.unsubscribed) (hnever : id ∉ h.givenUp)
    (hid : id ∈ c.subscriptions ++ h.made) : id ∈ c'.subscriptions := by
  induction hu with
  | done c => simpa [History.made] using hid
  | same hsame _ ih =>
    rw [← hsame.removed] at hr
    rw [← hsame.unsubscribed] at hmind
    rw [← hsame.subscriptions] at hid
    exact ih hr hno hmind hnever hid
  | subscribed listener _ ih => exact ih hr hno hmind hnever (by simpa [History.made] using hid)
  | @unsubscribed c c' h i hnext ih =>
    obtain ⟨hne, hnever⟩ : id ≠ i ∧ id ∉ h.givenUp := by simpa [History.givenUp] using hnever
    refine ih hr hno ?_ hnever ?_
    · simp [(Undergoes.unsubscribed i (.done _)).mem_unsubscribed_iff, hmind, hne, History.givenUp]
    · rw [subscriptions_unsubscribe, List.mem_append, List.mem_filter]
      exact (List.mem_append.1 hid).imp_left fun hid => ⟨hid, decide_eq_true hne⟩
  | removed _ _ => cases hno
  | @round c c₁ c' during h called hduring hcalled hnext ihd ih =>
    obtain ⟨hnod, hno⟩ : during.removes = false ∧ h.removes = false := by
      simpa [History.removes] using hno
    obtain ⟨hneverd, hnever⟩ : id ∉ during.givenUp ∧ id ∉ h.givenUp := by
      simpa [History.givenUp] using hnever
    have hr₁ : c₁.removed = false := hduring.not_removed hr hnod
    have hmind₁ : id ∉ c₁.unsubscribed := by
      simp [hduring.mem_unsubscribed_iff, startRound, hmind, hneverd]
    refine ih hr₁ hno (by simp [endRound]) hnever ?_
    rw [subscriptions_endRound, hr₁, hcalled, if_neg Bool.false_ne_true]
    rw [History.made, List.mem_append, List.mem_append] at hid
    rcases hid with hid | hid | hid
    · simp [hid, hmind₁]
    · have hid₁ : id ∈ c₁.subscriptions := ihd hr hnod hmind hneverd (by simpa using hid)
      simp [hid₁]
    · simp [hid]

/-- What a round leaves of the listeners from before and of those that came during it. -/
structure Settles (c c' : Canvas L) (during : History) : Prop where
  removed : c'.removed = during.removes
  /-- A canvas that was removed during the round has no listeners. -/
  none : c'.removed = true → c'.subscriptions = []
  /-- They are in the order of their subscriptions, each once. -/
  ordered : c'.subscriptions.Pairwise (· < ·)
  /-- None is new, and all that were never given up are there. -/
  sublist : c'.subscriptions.Sublist (c.subscriptions ++ during.made)
  never : c'.removed = false → ∀ id ∈ c.subscriptions ++ during.made, id ∉ during.givenUp →
    id ∈ c'.subscriptions
  /-- Those that were given up are there exactly if they stay nevertheless. -/
  stays : c'.removed = false → during.timely = true → c'.subscriptions =
    (c.subscriptions ++ during.made).filter (History.round during .done).stays
  /-- If no round began within the round they are not there. -/
  plain : c'.removed = false → during.timely = true → during.hasRound = false →
    c'.subscriptions = (c.subscriptions ++ during.made).filter (!during.givenUp.contains ·)

/-- What a round leaves on a canvas, whatever the listeners do when they are called. -/
theorem Undergoes.settles {c c' : Canvas L} {during : History}
    (hu : Undergoes c (.round during .done) c') (hc : c.Idle) (hr : c.removed = false) :
    Settles c c' during := by
  have hmade : (History.round during .done).made = during.made := List.append_nil _
  have hgiven : (History.round during .done).givenUp = during.givenUp := List.append_nil _
  have hremoves : (History.round during .done).removes = during.removes := Bool.or_false _
  have hremoved : c'.removed = during.removes := by rw [hu.removed_eq, hr, hremoves, Bool.false_or]
  have hstays : c'.removed = false → during.timely = true → c'.subscriptions =
      (c.subscriptions ++ during.made).filter (History.round during .done).stays := by
    intro hr' htimely
    rw [← hmade]
    refine hu.subscriptions_eq hc.toListed hr (by simp [hc.unsubscribed]) ?_ ?_
    · simp [History.timely, htimely, History.made]
    · rw [hremoves, ← hremoved, hr']
  refine ⟨hremoved, hu.subscriptions_of_removed, (hu.listed hc.toListed).ordered,
    hmade ▸ hu.sublist, fun hr' id hid hnever => ?_, hstays, fun hr' htimely hplain => ?_⟩
  · exact hu.mem_subscriptions hr (hremoves.trans (hremoved.symm.trans hr'))
      (by simp [hc.unsubscribed]) (hgiven ▸ hnever) (hmade ▸ hid)
  · rw [hstays hr' htimely]
    exact List.filter_congr fun id _ => History.stays_round_of_plain htimely hplain id

end Canvas

end MarketChart
