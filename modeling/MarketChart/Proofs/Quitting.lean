import Mathlib.Data.List.Infix
import Mathlib.Data.List.Induction
import MarketChart.Dashboard.Basic

/-!
# Quitting

What the question before quitting makes of a whole run. Only two flags of the dashboard are about
quitting, and one report of the terminal changes them in a way that depends on nothing else: a key
leaves the question standing exactly when it is the quit key, and the quit key ends the run exactly
when the question stands (`running_step`, `confirmQuit_step`). So a run ends at the first quit key
that follows on another one, with nothing but frames and changes of width between the two.
-/

namespace MarketChart

/-- What a report says about quitting: of a key, whether it is the quit key. Other reports say
nothing. -/
def Input.quit? : Input → Option Bool
  | .key k => some (decide (Action.ofKey k = some .quit))
  | _ => none

namespace Dashboard

/-! ## One report -/

/-- Only the rest of the dashboard differs. -/
def SameFlags (d d' : Dashboard) : Prop :=
  d'.running = d.running ∧ d'.confirmQuit = d.confirmQuit

theorem sameFlags_onFocused (d : Dashboard) (f : Chart → String → Chart × Except Failure Unit) :
    d.SameFlags (d.onFocused f) := by
  unfold onFocused
  split
  · exact ⟨rfl, rfl⟩
  · split <;> exact ⟨rfl, rfl⟩

theorem sameFlags_focusNext (d : Dashboard) : d.SameFlags d.focusNext := by
  simp only [focusNext]
  split <;> exact ⟨rfl, rfl⟩

theorem sameFlags_clampFocus (d : Dashboard) : d.SameFlags d.clampFocus := by
  unfold clampFocus
  split <;> exact ⟨rfl, rfl⟩

theorem sameFlags_refresh (feed : Feed) (d : Dashboard) : d.SameFlags (d.refresh feed) := by
  unfold refresh
  rcases d.chart.refresh feed with ⟨chart, result⟩
  cases result with
  | ok => exact sameFlags_clampFocus { d with chart }
  | error e =>
    exact sameFlags_clampFocus { d with chart, status := some ("Refresh failed: " ++ e.headline) }

/-- With no question standing, all actions but quitting go about something else. -/
theorem sameFlags_handle (feed : Feed) {d : Dashboard} (hq : d.confirmQuit = false)
    {a : Action} (ha : a ≠ .quit) : d.SameFlags (d.handle feed a) := by
  unfold handle
  rw [if_neg (by simp [hq])]
  cases a with
  | quit => contradiction
  | cancel => exact ⟨rfl, rfl⟩
  | pan bars => exact sameFlags_onFocused { d with status := none } _
  | zoom factor => exact sameFlags_onFocused { d with status := none } _
  | focusNext => exact sameFlags_focusNext { d with status := none }
  | fit => exact ⟨rfl, rfl⟩
  | refresh => exact sameFlags_refresh feed { d with status := none }

/-- While the question stands, a key that is not the quit key takes it back and does nothing
else. -/
theorem step_of_asked (feed : Feed) {d : Dashboard} (hq : d.confirmQuit = true) {k : Key}
    (hk : Action.ofKey k ≠ some .quit) : d.step feed (.key k) = d.cancelQuit := by
  cases hkey : Action.ofKey k with
  | none => simp [step, hkey, hq]
  | some a =>
    simp only [step, hkey, handle, hq, if_true]
    cases a with
    | quit => exact absurd hkey hk
    | _ => rfl

theorem step_quit_of_asked (feed : Feed) {d : Dashboard} (hq : d.confirmQuit = true) {k : Key}
    (hk : Action.ofKey k = some .quit) : d.step feed (.key k) = { d with running := false } := by
  simp [step, hk, handle, hq]

theorem step_quit (feed : Feed) {d : Dashboard} (hq : d.confirmQuit = false) {k : Key}
    (hk : Action.ofKey k = some .quit) :
    d.step feed (.key k) = { d with status := none, confirmQuit := true } := by
  simp [step, hk, handle, hq]

/-- With no question standing, a key that is not the quit key goes about something else. -/
theorem sameFlags_step (feed : Feed) {d : Dashboard} (hq : d.confirmQuit = false) {k : Key}
    (hk : Action.ofKey k ≠ some .quit) : d.SameFlags (d.step feed (.key k)) := by
  cases hkey : Action.ofKey k with
  | none => simp [step, hkey, hq, SameFlags]
  | some a =>
    simp only [step, hkey]
    exact sameFlags_handle feed hq fun ha => hk (ha ▸ hkey)

/-- The run ends at a quit key that finds the question standing. -/
theorem running_step (feed : Feed) (d : Dashboard) (input : Input) :
    (d.step feed input).running =
      (d.running && !(d.confirmQuit && input.quit? == some true)) := by
  cases input with
  | tick => simp [step, tick, Input.quit?]
  | resize width => simp [step, Input.quit?]
  | key k =>
    by_cases hk : Action.ofKey k = some .quit <;> cases hq : d.confirmQuit
    · simp [step_quit feed hq hk]
    · simp [step_quit_of_asked feed hq hk, Input.quit?, hk]
    · simp [(sameFlags_step feed hq hk).1]
    · simp [step_of_asked feed hq hk, cancelQuit, Input.quit?, hk]

/-- After a key the question stands exactly when that was the quit key. Nothing else puts it or
takes it back. -/
theorem confirmQuit_step (feed : Feed) (d : Dashboard) (input : Input) :
    (d.step feed input).confirmQuit = input.quit?.getD d.confirmQuit := by
  cases input with
  | tick => simp [step, tick, Input.quit?]
  | resize width => simp [step, Input.quit?]
  | key k =>
    by_cases hk : Action.ofKey k = some .quit <;> cases hq : d.confirmQuit
    · simp [step_quit feed hq hk, Input.quit?, hk]
    · simp [step_quit_of_asked feed hq hk, Input.quit?, hk, hq]
    · simp [(sameFlags_step feed hq hk).2, Input.quit?, hk, hq]
    · simp [step_of_asked feed hq hk, cancelQuit, Input.quit?, hk]

/-! ## A run -/

/-- The dashboard after reports of the terminal, each with what the source gives at that time. -/
def attendAll (d : Dashboard) (reports : List (Feed × Input)) : Dashboard :=
  reports.foldl (fun d report => d.attend report.1 report.2) d

/-- The keys among reports: for each, whether it is the quit key. -/
def quitKeys (reports : List (Feed × Input)) : List Bool := reports.filterMap (·.2.quit?)

theorem attendAll_concat (d : Dashboard) (reports : List (Feed × Input)) (report : Feed × Input) :
    d.attendAll (reports ++ [report]) = (d.attendAll reports).attend report.1 report.2 := by
  simp [attendAll]

theorem quitKeys_concat (reports : List (Feed × Input)) (report : Feed × Input) :
    quitKeys (reports ++ [report]) = quitKeys reports ++ report.2.quit?.toList := by
  cases h : report.2.quit? <;> simp [quitKeys, h]

/-- A key makes two quit keys in a row when it is one and the key before it was one. -/
theorem twice_infix_concat (keys : List Bool) (key : Bool) :
    [true, true] <:+: keys ++ [key] ↔
      [true, true] <:+: keys ∨ key = true ∧ keys.getLast? = some true := by
  have hlast : [true] <:+ keys ↔ keys.getLast? = some true := by
    simp [List.getLast?_eq_some_iff, List.IsSuffix, eq_comm]
  have hsuffix : [true] ++ [true] <:+ keys ++ [key] ↔ key = true ∧ keys.getLast? = some true := by
    rw [List.suffix_append_inj_of_length_eq (by rfl), hlast]
    simp [and_comm, eq_comm]
  rw [List.infix_concat_iff, or_comm]
  exact or_congr_right hsuffix

/-- What the keys of a run say about its end: it is over once two quit keys came in a row, and until
then the question stands when the last key was the quit key. -/
structure Heeds (keys : List Bool) (d : Dashboard) : Prop where
  stopped : d.running = false ↔ [true, true] <:+: keys
  asked : d.running = true → d.confirmQuit = (keys.getLast? == some true)

theorem Heeds.attend {keys : List Bool} {d : Dashboard} (h : d.Heeds keys) (feed : Feed)
    (input : Input) : (d.attend feed input).Heeds (keys ++ input.quit?.toList) := by
  unfold Dashboard.attend
  cases hr : d.running with
  | false =>
    -- Keys that come after the end are not taken in, so nothing is said about the question then.
    have htwice : [true, true] <:+: keys ++ input.quit?.toList :=
      (h.stopped.1 hr).trans (List.prefix_append _ _).isInfix
    exact ⟨by simp [hr, htwice], by simp [hr]⟩
  | true =>
    have hnot : ¬ [true, true] <:+: keys := by simp [← h.stopped, hr]
    have hasked := h.asked hr
    rw [if_pos rfl]
    cases hkey : input.quit? with
    | none =>
      refine ⟨?_, fun _ => ?_⟩
      · simp [running_step, hkey, hr, hnot]
      · simp [confirmQuit_step, hkey, hasked]
    | some key =>
      refine ⟨?_, fun _ => ?_⟩
      · simp [running_step, hkey, hr, hasked, twice_infix_concat, hnot, and_comm]
      · simp [confirmQuit_step, hkey]

theorem heeds_attendAll {d : Dashboard} (hr : d.running = true) (hq : d.confirmQuit = false)
    (reports : List (Feed × Input)) : (d.attendAll reports).Heeds (quitKeys reports) := by
  induction reports using List.reverseRecOn with
  | nil => exact ⟨by simp [attendAll, quitKeys, hr], by simp [attendAll, quitKeys, hq]⟩
  | append_singleton reports report ih =>
    rw [attendAll_concat, quitKeys_concat]
    exact ih.attend report.1 report.2

/-- A run of the dashboard that starts with no question standing is over exactly when two quit keys
came in a row among its keys. While it is not, the question stands exactly when the last key was the
quit key; the next report ends the run exactly when it is the quit key and so was the key before;
and a key that takes the question back does nothing else. -/
theorem quits_in_two_steps (d : Dashboard) (hr : d.running = true) (hq : d.confirmQuit = false)
    (reports : List (Feed × Input)) :
    let after := d.attendAll reports
    (after.running = false ↔ [true, true] <:+: quitKeys reports) ∧
      (after.running = true →
        (after.confirmQuit = true ↔ (quitKeys reports).getLast? = some true) ∧
        ∀ feed, (∀ input, (after.attend feed input).running = false ↔
            input.quit? = some true ∧ (quitKeys reports).getLast? = some true) ∧
          ∀ k, Action.ofKey k ≠ some .quit → after.confirmQuit = true →
            after.attend feed (.key k) = { after with confirmQuit := false }) := by
  intro after
  have h : after.Heeds (quitKeys reports) := heeds_attendAll hr hq reports
  refine ⟨h.stopped, fun hrunning => ?_⟩
  have hasked := h.asked hrunning
  refine ⟨by simp [hasked], fun feed => ⟨fun input => ?_, fun k hk hconfirm => ?_⟩⟩
  · rw [Dashboard.attend, if_pos hrunning, running_step, hrunning, hasked]
    simp [and_comm]
  · rw [Dashboard.attend, if_pos hrunning]
    exact step_of_asked feed hconfirm hk

/-- The quit key, a frame, a key that takes the question back, and then the quit key twice with a
change of width in between: the run lasts until the third quit key. -/
theorem quits_at_the_third_quit_key :
    let feed : Feed := fun _ => .unavailable
    let d : Dashboard := { chart := .new {} }
    let reports := [.key (.char 'q'), .tick, .key .up, .key (.char 'Q'), .resize 80].map (feed, ·)
    ((d.attendAll reports).running = true ∧ (d.attendAll reports).confirmQuit = true) ∧
      ((d.attendAll reports).attend feed (.key (.char 'q'))).running = false := by
  intro feed d reports
  obtain ⟨hstopped, hasked⟩ := quits_in_two_steps d rfl rfl reports
  have hrunning : (d.attendAll reports).running = true := by
    rw [← Bool.not_eq_false, hstopped]
    decide
  obtain ⟨hconfirm, hnext⟩ := hasked hrunning
  exact ⟨⟨hrunning, hconfirm.2 rfl⟩, ((hnext feed).1 _).2 ⟨rfl, rfl⟩⟩

end Dashboard

end MarketChart
