import Mathlib.Data.List.Induction
import MarketChart.Canvas.Command
import MarketChart.Proofs.SeriesIds

/-!
# What a canvas answers over time

An operation on a canvas answers, and may have to tell the listeners (`Canvas.operate`). In between,
rounds of calls begin and end; what listeners do when they are called are operations of the same
kind, so a canvas goes through one sequence of acts, however deep the calls are nested
(`Canvas.Act`). The log of such a sequence holds every operation with the canvas it found.

The logs of a new canvas are lawful (`Canvas.lawful_log`): ids are given out once, an operation
fails exactly if it is refused (`Operation.RefusedBy`), a series that was removed is never heard of
again, and what fails changes nothing and tells nobody. Two facts carry this. The next id is above
all that were given out, so it never comes back; and an id below it that no series has stays without
one (`Canvas.Vacant`).
-/

namespace MarketChart

namespace Canvas

/-! ## Operations -/

/-- An operation on a canvas with listeners of type `L`. -/
inductive Operation (L : Type) where
  | addSeries (kind : SeriesKind)
  | setData (id : Nat) (data : SeriesData)
  | removeSeries (id : Nat)
  | subscribe (listener : L)
  | unsubscribe (id : Nat)
  | setWindow (w : Window)
  | fit
  | setWidth (width : Nat)
  | reject (on : Bool)
  | remove

/-- What comes of an operation: its answer, and whether the listeners are to be told. -/
structure Reply where
  answer : Answer
  tells : Bool := false

/-- The operation failed. -/
def Reply.Failed (r : Reply) : Prop := ∃ cause, r.answer = .failed cause

variable {L : Type}

/-- The ids of the series on a canvas. -/
def ids (c : Canvas L) : List Nat := c.series.map (·.1)

/-- What comes of an operation that changes the canvas, or fails and changes nothing. -/
def settle (c : Canvas L) : Except Cause (Canvas L) → Canvas L × Reply
  | .ok c => (c, { answer := .done })
  | .error e => (c, { answer := .failed e })

/-- Runs an operation, up to telling the listeners. -/
def operate (c : Canvas L) : Operation L → Canvas L × Reply
  | .addSeries kind =>
    match c.addSeries kind with
    | .ok (c, id) => (c, { answer := .id id })
    | .error e => (c, { answer := .failed e })
  | .setData id data => c.settle (c.setData id data)
  | .removeSeries id => c.settle (c.removeSeries id)
  | .subscribe listener =>
    let (c, id) := c.subscribe listener
    (c, { answer := .id id })
  | .unsubscribe id => (c.unsubscribe id, { answer := .done })
  | .setWindow w =>
    match c.setWindow w with
    | .ok c => (c, { answer := .done, tells := true })
    | .error e => (c, { answer := .failed e })
  | .fit =>
    match c.fit with
    | .ok (some c) => (c, { answer := .done, tells := true })
    | .ok none => (c, { answer := .done })
    | .error e => (c, { answer := .failed e })
  | .setWidth width => c.settle (c.setWidth width)
  | .reject on => (c.reject on, { answer := .done })
  | .remove => (c.remove, { answer := .done })

/-- A canvas refuses what needs it once it was removed, what needs a series it does not hold, and
windows if it is made to. -/
def Operation.RefusedBy (c : Canvas L) : Operation L → Prop
  | .addSeries _ | .fit | .setWidth _ => c.removed = true
  | .setData id _ | .removeSeries id => c.removed = true ∨ id ∉ c.ids
  | .setWindow _ => c.removed = true ∨ c.rejecting = true
  | .subscribe _ | .unsubscribe _ | .reject _ | .remove => False

/-- The series that an operation is about. -/
def Operation.target? : Operation L → Option Nat
  | .setData id _ | .removeSeries id => some id
  | _ => none

/-! ## What an operation does -/

/-- What an operation can do. -/
inductive Effect (c : Canvas L) : Operation L → Canvas L × Reply → Prop where
  /-- What is refused fails, changes nothing and tells nobody. -/
  | refused {op : Operation L} (cause : Cause) (h : op.RefusedBy c) :
    Effect c op (c, { answer := .failed cause })
  | added (kind : SeriesKind) :
    Effect c (.addSeries kind) (c.adding kind, { answer := .id c.nextId })
  | supplied (id : Nat) (data : SeriesData) :
    Effect c (.setData id data) (c.supplying id data, { answer := .done })
  | taken (id : Nat) (h : id ∈ c.ids) :
    Effect c (.removeSeries id) (c.lacking id, { answer := .done })
  | subscribed (listener : L) :
    Effect c (.subscribe listener) ((c.subscribe listener).1, { answer := .id c.nextId })
  | removed : Effect c .remove (c.remove, { answer := .done })
  /-- All other operations leave the series and the next id alone. -/
  | quiet {op : Operation L} {c' : Canvas L} (tells : Bool) (ht : op.target? = none)
    (hs : c'.series = c.series) (hn : c'.nextId = c.nextId) :
    Effect c op (c', { answer := .done, tells })

theorem series?_isNone_iff (c : Canvas L) (id : Nat) : (c.series? id).isNone ↔ id ∉ c.ids := by
  rw [Option.isNone_iff_eq_none, series?, List.lookup_eq_none_iff, ids, List.mem_map]
  constructor
  · rintro h ⟨e, he, rfl⟩
    simpa using h e he
  · intro h e he
    simpa using fun heq : id = e.1 => h ⟨e, he, heq.symm⟩

theorem holding_of_mem {c : Canvas L} {id : Nat} (hr : c.removed = false) (h : id ∈ c.ids) :
    c.holding id = .ok c := by
  have hsome : ¬(c.series? id).isNone := fun hnone => (series?_isNone_iff c id).1 hnone h
  rw [holding, if_neg (by simp [hr]), if_neg hsome]

theorem holding_of_refused {c : Canvas L} {id : Nat} (h : c.removed = true ∨ id ∉ c.ids) :
    ∃ cause, c.holding id = .error cause := by
  unfold holding
  split
  · exact ⟨_, rfl⟩
  · next hr =>
    rw [if_pos ((series?_isNone_iff c id).2 (h.resolve_left hr))]
    exact ⟨_, rfl⟩

theorem operate_of_refused {c : Canvas L} {op : Operation L} (h : op.RefusedBy c) :
    ∃ cause, c.operate op = (c, { answer := .failed cause }) := by
  have halive : c.removed = true → c.alive = .error (.viewRemoved c.container) := by
    intro hr
    rw [alive, if_pos hr]
  cases op with
  | addSeries kind =>
    exact ⟨.viewRemoved c.container, by simp [operate, addSeries, halive h, Except.map]⟩
  | setData id data =>
    obtain ⟨cause, hc⟩ := holding_of_refused h
    exact ⟨cause, by simp [operate, setData, hc, Except.map, settle]⟩
  | removeSeries id =>
    obtain ⟨cause, hc⟩ := holding_of_refused h
    exact ⟨cause, by simp [operate, removeSeries, hc, Except.map, settle]⟩
  | setWindow w =>
    have hrefuses : c.refuses = true := Bool.or_eq_true_iff.2 h
    obtain ⟨cause, hc⟩ := setWindow_of_refuses hrefuses w
    exact ⟨cause, by simp [operate, hc]⟩
  | fit =>
    obtain ⟨cause, hc⟩ := fit_of_removed h
    exact ⟨cause, by simp [operate, hc]⟩
  | setWidth width =>
    exact ⟨.viewRemoved c.container, by simp [operate, setWidth, halive h, Except.map, settle]⟩
  | subscribe listener => exact h.elim
  | unsubscribe id => exact h.elim
  | reject on => exact h.elim
  | remove => exact h.elim

theorem effect_operate (c : Canvas L) (op : Operation L) : Effect c op (c.operate op) := by
  by_cases h : op.RefusedBy c
  · obtain ⟨cause, hc⟩ := operate_of_refused h
    rw [hc]
    exact .refused cause h
  cases op with
  | addSeries kind =>
    have hr : c.removed = false := by simpa [Operation.RefusedBy] using h
    simp only [operate, addSeries_of_alive hr]
    exact .added kind
  | setData id data =>
    obtain ⟨hr, hid⟩ : c.removed = false ∧ id ∈ c.ids := by simpa [Operation.RefusedBy] using h
    simp only [operate, setData, holding_of_mem hr hid, Except.map, settle]
    exact .supplied id data
  | removeSeries id =>
    obtain ⟨hr, hid⟩ : c.removed = false ∧ id ∈ c.ids := by simpa [Operation.RefusedBy] using h
    simp only [operate, removeSeries, holding_of_mem hr hid, Except.map, settle]
    exact .taken id hid
  | setWindow w =>
    have ht : c.refuses = false := by simpa [refuses, Operation.RefusedBy] using h
    simp only [operate, setWindow_of_takes ht]
    exact .quiet true rfl rfl rfl
  | fit =>
    have hr : c.removed = false := by simpa [Operation.RefusedBy] using h
    simp only [operate, fit_of_alive hr]
    cases c.fitWindow? with
    | none => exact .quiet false rfl rfl rfl
    | some w => exact .quiet true rfl rfl rfl
  | setWidth width =>
    have hr : c.removed = false := by simpa [Operation.RefusedBy] using h
    simp only [operate, setWidth, alive, hr, Bool.false_eq_true, if_false, Except.map, settle]
    exact .quiet false rfl rfl rfl
  | subscribe listener => exact .subscribed listener
  | unsubscribe id => exact .quiet false rfl rfl rfl
  | reject on => exact .quiet false rfl rfl rfl
  | remove => exact .removed

theorem failed_operate_iff (c : Canvas L) (op : Operation L) :
    (c.operate op).2.Failed ↔ op.RefusedBy c := by
  constructor
  · rintro ⟨cause, hf⟩
    have heffect := effect_operate c op
    generalize c.operate op = r at hf heffect
    cases heffect with
    | refused cause h => exact h
    | _ => simp at hf
  · intro h
    obtain ⟨cause, hc⟩ := operate_of_refused h
    exact ⟨cause, by rw [hc]⟩

/-! ## Ids -/

/-- No series has the id, and none will: the next ids are above it. -/
structure Vacant (id : Nat) (c : Canvas L) : Prop where
  below : id < c.nextId
  absent : id ∉ c.ids

theorem nextId_le_operate (c : Canvas L) (op : Operation L) :
    c.nextId ≤ (c.operate op).1.nextId := by
  have heffect := effect_operate c op
  generalize c.operate op = r at heffect
  cases heffect with
  | added kind => exact Nat.le_succ _
  | subscribed listener => exact Nat.le_succ _
  | quiet tells ht hs hn => exact Nat.le_of_eq hn.symm
  | _ => exact Nat.le_refl _

/-- The id that is given out is the next one, which moves on. -/
theorem of_answer_id {c : Canvas L} {op : Operation L} {id : Nat}
    (h : (c.operate op).2.answer = .id id) :
    id = c.nextId ∧ c.nextId < (c.operate op).1.nextId := by
  have heffect := effect_operate c op
  generalize c.operate op = r at h heffect
  cases heffect with
  | added kind => exact ⟨(Answer.id.inj h).symm, Nat.lt_succ_self _⟩
  | subscribed listener => exact ⟨(Answer.id.inj h).symm, Nat.lt_succ_self _⟩
  | _ => simp at h

theorem mem_ids_lacking {c : Canvas L} {id id' : Nat} :
    id' ∈ (c.lacking id).ids ↔ id' ∈ c.ids ∧ id' ≠ id := by
  simp only [ids, lacking, List.mem_map, List.mem_filter, decide_eq_true_eq]
  constructor
  · rintro ⟨e, ⟨he, hne⟩, rfl⟩
    exact ⟨⟨e, he, rfl⟩, hne⟩
  · rintro ⟨⟨e, he, rfl⟩, hne⟩
    exact ⟨e, ⟨he, hne⟩, rfl⟩

/-- A vacant id stays so, whatever is done. -/
theorem Vacant.operate {id : Nat} {c : Canvas L} (h : Vacant id c) (op : Operation L) :
    Vacant id (c.operate op).1 := by
  refine ⟨Nat.lt_of_lt_of_le h.below (nextId_le_operate c op), ?_⟩
  have heffect := effect_operate c op
  generalize c.operate op = r at heffect
  cases heffect with
  | refused cause hr => exact h.absent
  | added kind =>
    have hne : id ≠ c.nextId := Nat.ne_of_lt h.below
    simpa [ids, adding, hne] using h.absent
  | supplied id' data =>
    rw [ids, ids_supplying]
    exact h.absent
  | taken id' hid => exact fun hmem => h.absent (mem_ids_lacking.1 hmem).1
  | subscribed listener => exact h.absent
  | removed => simp [ids, remove]
  | quiet tells ht hs hn =>
    rw [ids, hs]
    exact h.absent

theorem Numbered.operate {c : Canvas L} (h : c.Numbered) (op : Operation L) :
    (c.operate op).1.Numbered := by
  have heffect := effect_operate c op
  generalize c.operate op = r at heffect
  cases heffect with
  | refused cause hr => exact h
  | added kind => exact h.adding kind
  | supplied id data => exact h.supplying id data
  | taken id hid => exact h.lacking id
  | subscribed listener => exact ⟨h.distinct, fun e he => Nat.lt_succ_of_lt (h.below e he)⟩
  | removed => exact ⟨List.nodup_nil, by simp [remove]⟩
  | quiet tells ht hs hn => exact ⟨hs ▸ h.distinct, by rw [hs, hn]; exact h.below⟩

/-- A series that was removed leaves its id vacant. -/
theorem vacant_of_removed {c : Canvas L} (h : c.Numbered) {id : Nat}
    (hok : ¬(c.operate (.removeSeries id)).2.Failed) :
    Vacant id (c.operate (.removeSeries id)).1 := by
  rw [failed_operate_iff] at hok
  have heffect := effect_operate c (.removeSeries id)
  generalize c.operate (.removeSeries id) = r at heffect
  cases heffect with
  | refused cause hr => exact absurd hr hok
  | taken id hid =>
    obtain ⟨e, he, rfl⟩ := List.mem_map.1 hid
    exact ⟨h.below e he, fun hmem => (mem_ids_lacking.1 hmem).2 rfl⟩
  | quiet tells ht hs hn => simp [Operation.target?] at ht

/-! ## Logs -/

/-- What a canvas goes through: operations, and rounds of calls that begin and end. What listeners
do when they are called are operations too, so rounds may begin within rounds. -/
inductive Act (L : Type) where
  | operate (op : Operation L)
  | startRound
  | endRound (called : List (Nat × L))

/-- The canvas after an act. -/
def act (c : Canvas L) : Act L → Canvas L
  | .operate op => (c.operate op).1
  | .startRound => c.startRound
  | .endRound called => c.endRound called

/-- The canvas after a sequence of acts. -/
def run (c : Canvas L) (acts : List (Act L)) : Canvas L := acts.foldl act c

/-- An operation and the canvas that it found. -/
structure Entry (L : Type) where
  before : Canvas L
  operation : Operation L

namespace Entry

/-- The canvas that the operation left. -/
def after (e : Entry L) : Canvas L := (e.before.operate e.operation).1

/-- What came of the operation. -/
def reply (e : Entry L) : Reply := (e.before.operate e.operation).2

/-- The id of the series or the subscription that was added. -/
def id? (e : Entry L) : Option Nat :=
  match e.reply.answer with
  | .id id => some id
  | _ => none

end Entry

/-- The operations among the acts, in order, each with the canvas that it found. -/
def log (c : Canvas L) : List (Act L) → List (Entry L)
  | [] => []
  | .operate op :: acts => ⟨c, op⟩ :: (c.act (.operate op)).log acts
  | a :: acts => (c.act a).log acts

theorem Vacant.act {id : Nat} {c : Canvas L} (h : Vacant id c) (a : Act L) :
    Vacant id (c.act a) := by
  cases a with
  | operate op => exact h.operate op
  | _ => exact ⟨h.below, h.absent⟩

theorem Numbered.act {c : Canvas L} (h : c.Numbered) (a : Act L) : (c.act a).Numbered := by
  cases a with
  | operate op => exact h.operate op
  | _ => exact ⟨h.distinct, h.below⟩

theorem Entry.of_id? {e : Entry L} {id : Nat} (h : e.id? = some id) :
    id = e.before.nextId ∧ e.before.nextId < e.after.nextId := by
  unfold Entry.id? at h
  split at h
  · next hanswer => exact Option.some.inj h ▸ of_answer_id hanswer
  · simp at h

/-- The ids in a log increase, from the next id of the canvas on. -/
theorem ids_log : ∀ (acts : List (Act L)) (c : Canvas L),
    ((c.log acts).filterMap Entry.id?).Pairwise (· < ·) ∧
      ∀ id ∈ (c.log acts).filterMap Entry.id?, c.nextId ≤ id
  | [], c => by simp [log]
  | .operate op :: acts, c => by
    obtain ⟨hsorted, hlow⟩ := ids_log acts (c.act (.operate op))
    have hle := nextId_le_operate c op
    rw [log, List.filterMap_cons]
    cases hid : Entry.id? ⟨c, op⟩ with
    | none => exact ⟨hsorted, fun id hmem => Nat.le_trans hle (hlow id hmem)⟩
    | some id =>
      obtain ⟨rfl, hlt⟩ := Entry.of_id? hid
      have hfirst : ∀ id ∈ ((c.act (.operate op)).log acts).filterMap Entry.id?, c.nextId < id :=
        fun id hmem => Nat.lt_of_lt_of_le hlt (hlow id hmem)
      refine ⟨List.pairwise_cons.2 ⟨hfirst, hsorted⟩, ?_⟩
      rintro id (_ | ⟨_, hmem⟩)
      · exact Nat.le_refl _
      · exact Nat.le_of_lt (hfirst id hmem)
  | .startRound :: acts, c => ids_log acts c.startRound
  | .endRound called :: acts, c => ids_log acts (c.endRound called)

/-- An id that is vacant at the beginning of a log is vacant throughout. -/
theorem vacant_log {id : Nat} : ∀ (acts : List (Act L)) {c : Canvas L}, Vacant id c →
    ∀ e ∈ c.log acts, Vacant id e.before ∧ Vacant id e.after
  | [], c, _, e, he => by simp [log] at he
  | .operate op :: acts, c, h, e, he => by
    rcases List.mem_cons.1 he with rfl | he
    · exact ⟨h, h.operate op⟩
    · exact vacant_log acts (h.act _) e he
  | .startRound :: acts, c, h, e, he => vacant_log acts (h.act .startRound) e he
  | .endRound called :: acts, c, h, e, he => vacant_log acts (h.act (.endRound called)) e he

/-- Once a series was removed its id is vacant. -/
theorem removed_log : ∀ (acts : List (Act L)) {c : Canvas L}, c.Numbered →
    (c.log acts).Pairwise fun e e' => ∀ id, e.operation = .removeSeries id → ¬e.reply.Failed →
      Vacant id e'.before ∧ Vacant id e'.after
  | [], c, _ => List.Pairwise.nil
  | .operate op :: acts, c, h => by
    refine List.pairwise_cons.2 ⟨fun e' he' id hop hok => ?_, removed_log acts (h.act _)⟩
    obtain rfl : op = .removeSeries id := hop
    exact vacant_log acts (vacant_of_removed h hok) e' he'
  | .startRound :: acts, c, h => removed_log acts (h.act .startRound)
  | .endRound called :: acts, c, h => removed_log acts (h.act (.endRound called))

/-- What holds of the operations on one canvas, in the order in which they happened. -/
structure Lawful (log : List (Entry L)) : Prop where
  /-- No id is given out twice, be it to a series or to a subscription. -/
  ids : (log.filterMap Entry.id?).Nodup
  /-- An operation fails exactly if the canvas refuses it. -/
  refused : ∀ e ∈ log, e.reply.Failed ↔ e.operation.RefusedBy e.before
  /-- Once a series was removed no series has its id, and what is about that id fails. -/
  removed : log.Pairwise fun e e' => ∀ id, e.operation = .removeSeries id → ¬e.reply.Failed →
    id ∉ e'.before.ids ∧ id ∉ e'.after.ids ∧ (e'.operation.target? = some id → e'.reply.Failed)
  /-- What fails changes nothing and tells nobody. -/
  failed : ∀ e ∈ log, e.reply.Failed → e.after = e.before ∧ e.reply.tells = false

/-- Whatever a new canvas goes through, what it answers is lawful. -/
theorem lawful_log (container : String) (width height : Nat) (acts : List (Act L)) :
    Lawful (({ container, width, height } : Canvas L).log acts) where
  ids := (ids_log acts _).1.imp Nat.ne_of_lt
  refused := fun e _ => failed_operate_iff e.before e.operation
  removed := by
    have hnew : ({ container, width, height } : Canvas L).Numbered := ⟨List.nodup_nil, by simp⟩
    refine (removed_log acts hnew).imp fun {e e'} h id hop hok => ?_
    obtain ⟨hbefore, hafter⟩ := h id hop hok
    refine ⟨hbefore.absent, hafter.absent, fun ht => ?_⟩
    rw [Entry.reply, failed_operate_iff]
    unfold Operation.target? at ht
    split at ht
    · next heq => exact heq ▸ .inr (Option.some.inj ht ▸ hbefore.absent)
    · next heq => exact heq ▸ .inr (Option.some.inj ht ▸ hbefore.absent)
    · simp at ht
  failed := by
    intro e _ hf
    obtain ⟨cause, hc⟩ := operate_of_refused ((failed_operate_iff _ _).1 hf)
    rw [Entry.after, Entry.reply, hc]
    exact ⟨rfl, rfl⟩

end Canvas

end MarketChart
