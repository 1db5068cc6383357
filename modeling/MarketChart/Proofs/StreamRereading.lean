import MarketChart.Proofs.VisibleRuns
import MarketChart.Proofs.WrittenForms

/-!
# Writing a drawn stream

A drawn stream holds the points of visible samples and anchors. The point of a sample is read back
as it was. An anchor has no value, is written with `null` for it, and `null` is refused where a
point is read. So a stream comes back exactly if it has no anchors, that is if all samples are
visible or none is (`RenderPoint.reread_adapt`).
-/

namespace MarketChart

/-! ## The points of a stream -/

/-- The point stands for a visible sample, or is an anchor at the time of one that is not. -/
def RenderPoint.StandsFor (q : RenderPoint) (p : PlotPoint) : Prop :=
  (p.isVisible = true ∧ ∃ gap, q = drawn p gap) ∨ (p.isVisible = false ∧ q = .anchor p.seconds)

theorem standsFor_of_mem_drawnFrom {q : RenderPoint} : ∀ {points : List PlotPoint} {after : Bool},
    q ∈ drawnFrom after points → ∃ p ∈ points, q.StandsFor p
  | p :: rest, after, h => by
    have hrest : ∀ {after : Bool}, q ∈ drawnFrom after rest → ∃ x ∈ p :: rest, q.StandsFor x := by
      intro after hq
      obtain ⟨x, hx, hstands⟩ := standsFor_of_mem_drawnFrom hq
      exact ⟨x, List.mem_cons_of_mem _ hx, hstands⟩
    rw [drawnFrom] at h
    split at h
    · next hp =>
      rcases List.mem_cons.1 h with rfl | h
      · exact ⟨p, by simp, .inl ⟨hp, _, rfl⟩⟩
      · exact hrest h
    · next hp =>
      split at h
      · rcases List.mem_cons.1 h with rfl | h
        · exact ⟨p, by simp, .inr ⟨by simpa using hp, rfl⟩⟩
        · exact hrest h
      · exact hrest h

theorem standsFor_of_mem_adapt {q : RenderPoint} : ∀ {points : List PlotPoint},
    q ∈ adapt points → ∃ p ∈ points, q.StandsFor p
  | p :: rest, h => by
    cases hp : p.isVisible with
    | true =>
      rw [adapt_cons_of_visible hp] at h
      exact standsFor_of_mem_drawnFrom h
    | false =>
      rw [adapt_cons_of_hidden hp] at h
      split at h
      · rcases List.mem_cons.1 h with rfl | h
        · exact ⟨p, by simp, .inr ⟨hp, rfl⟩⟩
        · obtain ⟨x, hx, hstands⟩ := standsFor_of_mem_adapt h
          exact ⟨x, List.mem_cons_of_mem _ hx, hstands⟩
      · simp at h

/-- The first sample that is not visible after visible ones leaves an anchor. -/
theorem exists_anchor_drawnFrom : ∀ {points : List PlotPoint},
    (∃ p ∈ points, p.isVisible = false) → ∃ t, .anchor t ∈ drawnFrom true points
  | p :: rest, h => by
    cases hp : p.isVisible with
    | true =>
      obtain ⟨x, hx, hhidden⟩ := h
      have hrest : x ∈ rest := (List.mem_cons.1 hx).resolve_left fun heq => by simp_all
      obtain ⟨t, ht⟩ := exists_anchor_drawnFrom ⟨x, hrest, hhidden⟩
      exact ⟨t, by simp [drawnFrom, hp, ht]⟩
    | false => exact ⟨p.seconds, by simp [drawnFrom, hp]⟩

/-- A stream has an anchor as soon as some samples are visible and some are not. -/
theorem exists_anchor_adapt {points : List PlotPoint} (hshown : ∃ p ∈ points, p.isVisible = true)
    (hhidden : ∃ p ∈ points, p.isVisible = false) : ∃ t, .anchor t ∈ adapt points := by
  cases points with
  | nil => simp at hshown
  | cons p rest =>
    cases hp : p.isVisible with
    | true =>
      have hrest : ∃ x ∈ rest, x.isVisible = false := by simpa [hp] using hhidden
      obtain ⟨t, ht⟩ := exists_anchor_drawnFrom hrest
      exact ⟨t, by simp [adapt_cons_of_visible hp, drawnFrom, hp, ht]⟩
    | false =>
      have hrest : true ∈ rest.map PlotPoint.isVisible := by
        simpa [hp, List.mem_map] using hshown
      exact ⟨p.seconds, by simp [adapt_cons_of_hidden hp, hrest]⟩

/-! ## Reading the points back -/

namespace RenderPoint

/-- The time is a signed 64-bit word. -/
def InWord (t : Int) : Prop := -(2 ^ 63) ≤ t ∧ t < 2 ^ 63

/-- A point is read back as it was if its value is finite, and is refused if not. -/
theorem decode?_encode {q : RenderPoint} (ht : InWord q.time) :
    decode? q.encode = if q.value.isFinite then some q else none := by
  obtain ⟨hlow, hhigh⟩ := ht
  have htime : Json.int64? (.int q.time) = some q.time :=
    Json.intBetween?_int ⟨by omega, by omega⟩
  have hfields : decode? q.encode = (Json.int64? (.int q.time)).bind fun time =>
      (Json.ofFloat q.value).float?.bind fun value => some ⟨time, value, q.color⟩ := by
    obtain ⟨time, value, _ | color⟩ := q
    · rfl
    · rfl
  rw [hfields, htime, Option.bind_some]
  cases hv : q.value.isFinite with
  | true =>
    rw [Json.float?_ofFloat hv]
    rfl
  | false =>
    rw [Json.ofFloat, hv]
    rfl

theorem same_self (q : RenderPoint) : q.same q = true := by
  simp [same, Classical.em]

theorem sameList_self : ∀ qs : List RenderPoint, sameList qs qs = true
  | [] => rfl
  | q :: qs => by
    have ih := sameList_self qs
    simp only [sameList, beq_self_eq_true, Bool.true_and, List.zipWith_cons_cons, List.all_cons,
      same_self] at ih ⊢
    exact ih

theorem isFinite_drawn {p : PlotPoint} (h : p.isVisible = true) (gap : Bool) :
    (drawn p gap).value.isFinite = true := by
  simp only [PlotPoint.isVisible, PlotPoint.isValid, Bool.and_eq_true, Option.any_eq_true] at h
  obtain ⟨⟨x, hx, hfinite⟩, -⟩ := h
  cases gap <;> simpa [drawn, ending, hx] using hfinite

theorem isAnchor_drawn {p : PlotPoint} (h : p.isVisible = true) (gap : Bool) :
    (drawn p gap).isAnchor = false := by
  rw [isAnchor, Number.isNaN_of_isFinite (isFinite_drawn h gap), Bool.false_and]

section

variable {points : List PlotPoint} (ht : ∀ p ∈ points, InWord p.time)

include ht

/-- The anchors of a stream are refused, and its other points are read back as they were. -/
theorem decode?_encode_of_mem_adapt {q : RenderPoint} (hq : q ∈ adapt points) :
    decode? q.encode = if q.isAnchor then none else some q := by
  obtain ⟨p, hp, hstands⟩ := standsFor_of_mem_adapt hq
  have htime : InWord p.seconds := by
    obtain ⟨hlow, hhigh⟩ := ht p hp
    unfold InWord PlotPoint.seconds
    omega
  rcases hstands with ⟨hvisible, gap, rfl⟩ | ⟨-, rfl⟩
  · have hseconds : (drawn p gap).time = p.seconds := by cases gap <;> rfl
    rw [decode?_encode (hseconds ▸ htime), isFinite_drawn hvisible, isAnchor_drawn hvisible]
    rfl
  · have hvalue : (anchor p.seconds).value.isFinite = false := by
      show Number.notANumber.isFinite = false
      decide
    rw [decode?_encode htime, isAnchor_anchor, hvalue]
    rfl

/-- Of a drawn stream, the points of visible samples are read back as they were and the anchors are
refused. The whole stream is read back exactly if all samples are visible or none is. -/
theorem reread_adapt :
    (∀ q ∈ adapt points, decode? q.encode = if q.isAnchor then none else some q) ∧
      ((∃ qs, Json.list? decode? (.ofList encode (adapt points)) = some qs ∧
          sameList qs (adapt points) = true) ↔
        (∀ p ∈ points, p.isVisible = true) ∨ ∀ p ∈ points, p.isVisible = false) := by
  refine ⟨fun q hq => decode?_encode_of_mem_adapt ht hq, ⟨?_, ?_⟩⟩
  · rintro ⟨qs, hqs, -⟩
    by_contra hmixed
    simp only [not_or, not_forall, Bool.not_eq_true, Bool.not_eq_false, exists_prop] at hmixed
    obtain ⟨t, hanchor⟩ := exists_anchor_adapt hmixed.2 hmixed.1
    have hsome := isSome_of_mapM hqs _ (List.mem_map_of_mem hanchor)
    rw [decode?_encode_of_mem_adapt ht hanchor, isAnchor_anchor] at hsome
    simp at hsome
  · intro h
    have hback : ∀ q ∈ adapt points, decode? q.encode = some (id q) := by
      intro q hq
      have hanchor : q.isAnchor = false := by
        rcases h with hshown | hhidden
        · obtain ⟨p, hp, ⟨hvisible, gap, rfl⟩ | ⟨hinvisible, -⟩⟩ := standsFor_of_mem_adapt hq
          · exact isAnchor_drawn hvisible gap
          · simp [hshown p hp] at hinvisible
        · have hnil : points.dropWhile (fun p => !p.isVisible) = [] :=
            dropWhile_hidden_eq_nil.2 (by simpa [List.mem_map] using hhidden)
          simp [adapt, hnil] at hq
      rw [decode?_encode_of_mem_adapt ht hq, hanchor]
      rfl
    have hlist := mapM_map_eq_some hback
    rw [List.map_id] at hlist
    exact ⟨adapt points, hlist, sameList_self _⟩

end

/-- A sample that is shown and one that is missing. -/
def gapPoints : List PlotPoint :=
  [{ time := 0, value := some 1.0, color := some "red" }, { time := 60000 }]

/-- Samples that are all shown. -/
def fullPoints : List PlotPoint :=
  [{ time := 0, value := some 1.0, color := some "red" },
    { time := 60000, value := some 2.0, color := some "red" }]

/-- A stream without gaps comes back. -/
theorem reread_adapt_full :
    (∀ p ∈ fullPoints, InWord p.time) ∧
      ∃ qs, Json.list? decode? (.ofList encode (adapt fullPoints)) = some qs ∧
        sameList qs (adapt fullPoints) = true := by
  have ht : ∀ p ∈ fullPoints, InWord p.time := by simp [fullPoints, InWord]
  have hshown : ∀ p ∈ fullPoints, p.isVisible = true := by decide
  exact ⟨ht, (reread_adapt ht).2.2 (.inl hshown)⟩

/-- A stream with a gap has an anchor, which is written with `null` and refused. -/
theorem reread_adapt_gap :
    adapt gapPoints = [⟨0, 1.0, some transparent⟩, anchor 60] ∧
      (anchor 60).encode = .obj [("time", .int 60), ("value", .null), ("color", .str transparent)] ∧
      decode? (anchor 60).encode = none ∧
      Json.list? decode? (.ofList encode (adapt gapPoints)) = none :=
  ⟨rfl, rfl, rfl, rfl⟩

end RenderPoint

end MarketChart
