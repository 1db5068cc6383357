import MarketChart.Plot.Stream
import MarketChart.Proofs.DoubleForms
import MarketChart.Proofs.StreamPoints
import MarketChart.Proofs.TreeParts

/-!
# Loosely typed samples

A list of loosely typed items has one sample for every item with a usable time, in the order of the
items; what is no value or no colour is absent from it (`SamplesOf`). There is exactly one such list
of samples, and the stream that is drawn of the items is that of the samples. Where every item is an
object that is read as a sample, that is the stream of the samples that are read, as long as doubles
hold their times exactly (`adaptItems_spec`).
-/

namespace MarketChart

open Float.Model.UnpackedFloat

/-! ## What a value denotes -/

namespace Json

/-- The value is a number or the text of one. -/
inductive Denotes : Json → Float → Prop
  | int (n : Int) : Denotes (.int n) (Float.ofInt n)
  | float (x : Float) : Denotes (.float x) x
  | text {s : String} {x : Float} (h : Number.ofText? s = some x) : Denotes (.str s) x

theorem number?_eq_some_iff {v : Json} {x : Float} : v.number? = some x ↔ v.Denotes x := by
  constructor
  · intro h
    cases v with
    | int n => exact Option.some.inj h ▸ .int n
    | float y => exact Option.some.inj h ▸ .float y
    | str s => exact .text h
    | _ => simp [number?, float?] at h
  · rintro (n | y | h)
    · rfl
    · rfl
    · exact h

theorem text?_eq_some_iff {v : Json} {s : String} : v.text? = some s ↔ v = .str s := by
  cases v <;> simp [text?]

theorem eq_int_of_int64? {v : Json} {n : Int} (h : v.int64? = some n) : v = .int n := by
  cases v with
  | int m =>
    simp only [int64?, intBetween?] at h
    split at h
    · rw [Option.some.inj h]
    · simp at h
  | _ => simp [int64?, intBetween?] at h

theorem number?_normal (v : Json) : v.normal.number? = v.number? := by
  cases v <;> rfl

/-- A sample is read as the number that it denotes. -/
theorem number?_of_lenient? {v : Json} {value : Option Float} (h : v.lenient? = some value) :
    v.number? = value := by
  obtain ⟨kept, hkept, rfl⟩ := Option.map_eq_some_iff.1 h
  unfold raw? at hkept
  split at hkept
  · split at hkept
    · obtain rfl := Option.some.inj hkept
      rfl
    · obtain rfl := Option.some.inj hkept
      exact (number?_normal v).symm
  · simp at hkept

theorem text?_of_nullable? {v : Json} {text : Option String} (h : nullable? text? v = some text) :
    v.text? = text := by
  unfold nullable? at h
  split at h
  · exact Option.some.inj h
  · obtain ⟨s, hs, rfl⟩ := Option.map_eq_some_iff.1 h
    exact hs

end Json

/-! ## Whole numbers -/

theorem Number.floor_ofInt {n : Int} (hlow : -(2 ^ 53) ≤ n) (hhigh : n ≤ 2 ^ 53) :
    floor (Float.ofInt n) = n := by
  rcases whole_cases hlow hhigh with rfl | rfl | rfl | ⟨s, k, hk, hlt, rfl⟩
  · rfl
  · rfl
  · rfl
  · obtain ⟨hlog, hlong, -⟩ := mantissa_bounds hk hlt
    have hm : 0 < k * 2 ^ (52 - k.log2) := by omega
    have hexp : (k.log2 : Int) - 52 = -((52 - k.log2 : Nat) : Int) := by omega
    simp only [floor, unpack_ofInt s hk hlt hm, hexp]
    generalize 52 - k.log2 = j
    rcases Nat.eq_zero_or_pos j with rfl | hj
    · simp [scaledFloor, Int.pow]
    · have happly : s.apply (k * 2 ^ j : Nat) = s.apply k * 2 ^ j := by
        cases s <;> simp [Sign.apply]
      have hnat : (-(-(j : Int))).toNat = j := by omega
      rw [scaledFloor, if_neg (by omega), hnat, happly]
      exact Int.mul_ediv_cancel _ (Int.pow_pos (by decide)).ne'

/-! ## Samples of items -/

/-- The item is an object with a time that is a finite number or the text of one. -/
def Json.HasTime (item : Json) : Prop :=
  (∃ entries, item = .obj entries) ∧ ∃ t, (item.get "time").Denotes t ∧ t.isFinite = true

namespace PlotPoint

/-- The sample is the one of the item : its time is that of the item, rounded down to whole
milliseconds that a word holds, and its value and its colour are those of the item, if the item has
them. -/
structure Describes (p : PlotPoint) (item : Json) : Prop where
  time : ∃ t, (item.get "time").Denotes t ∧ t.isFinite = true ∧
    p.time = Number.clampWord (Number.floor t)
  value : ∀ x, p.value = some x ↔ (item.get "value").Denotes x
  color : ∀ c, p.color = some c ↔ item.get "color" = .str c

theorem ofItem?_eq_some_iff {item : Json} {p : PlotPoint} :
    ofItem? item = some p ↔ p.Describes item := by
  simp only [ofItem?, Option.bind_eq_bind, Option.bind_eq_some_iff]
  constructor
  · rintro ⟨t, ht, hp⟩
    split at hp
    · next hfinite =>
      obtain rfl := Option.some.inj hp
      exact ⟨⟨t, Json.number?_eq_some_iff.1 ht, hfinite, rfl⟩,
        fun _ => Json.number?_eq_some_iff, fun _ => Json.text?_eq_some_iff⟩
    · simp at hp
  · intro h
    obtain ⟨t, ht, hfinite, htime⟩ := h.time
    have hvalue : (item.get "value").number? = p.value :=
      Option.ext fun x => Json.number?_eq_some_iff.trans (h.value x).symm
    have hcolor : (item.get "color").text? = p.color :=
      Option.ext fun c => Json.text?_eq_some_iff.trans (h.color c).symm
    refine ⟨t, Json.number?_eq_some_iff.2 ht, ?_⟩
    rw [if_pos hfinite, hvalue, hcolor, ← htime]
    rfl

/-- The items that have a sample are those with a usable time. -/
theorem isSome_ofItem?_iff {item : Json} : (ofItem? item).isSome = true ↔ item.HasTime := by
  rw [Option.isSome_iff_exists]
  constructor
  · rintro ⟨p, hp⟩
    obtain ⟨t, ht, hfinite, -⟩ := (ofItem?_eq_some_iff.1 hp).time
    refine ⟨?_, t, ht, hfinite⟩
    cases item with
    | obj entries => exact ⟨entries, rfl⟩
    | _ => cases ht
  · rintro ⟨-, t, ht, hfinite⟩
    simp [ofItem?, Json.number?_eq_some_iff.2 ht, hfinite]

end PlotPoint

/-- The samples are those of the items : one for every item with a usable time, in their order. -/
inductive SamplesOf : List Json → List PlotPoint → Prop
  | nil : SamplesOf [] []
  | skip {item : Json} {items : List Json} {points : List PlotPoint} (h : ¬item.HasTime)
    (rest : SamplesOf items points) : SamplesOf (item :: items) points
  | take {item : Json} {items : List Json} {p : PlotPoint} {points : List PlotPoint}
    (h : p.Describes item) (rest : SamplesOf items points) :
    SamplesOf (item :: items) (p :: points)

theorem samplesOf_iff {items : List Json} {points : List PlotPoint} :
    SamplesOf items points ↔ items.filterMap PlotPoint.ofItem? = points := by
  constructor
  · intro h
    induction h with
    | nil => rfl
    | skip h _ ih =>
      rw [List.filterMap_cons_none, ih]
      rwa [← PlotPoint.isSome_ofItem?_iff, Option.not_isSome_iff_eq_none] at h
    | take h _ ih => rw [List.filterMap_cons_some (PlotPoint.ofItem?_eq_some_iff.2 h), ih]
  · rintro rfl
    induction items with
    | nil => exact .nil
    | cons item items ih =>
      cases hp : PlotPoint.ofItem? item with
      | none =>
        rw [List.filterMap_cons_none hp]
        refine .skip (fun h => ?_) ih
        simp [hp, ← PlotPoint.isSome_ofItem?_iff] at h
      | some p =>
        rw [List.filterMap_cons_some hp]
        exact .take (PlotPoint.ofItem?_eq_some_iff.1 hp) ih

/-! ## Values that are not finite -/

theorem PlotPoint.isVisible_reread (p : PlotPoint) : p.reread.isVisible = p.isVisible := by
  obtain ⟨time, _ | x, color⟩ := p
  · rfl
  · cases hx : x.isFinite <;> simp [reread, isVisible, isValid, Option.filter_some, hx]

theorem drawnFrom_reread : ∀ (points : List PlotPoint) (after : Bool),
    drawnFrom after (points.map PlotPoint.reread) = drawnFrom after points
  | [], _ => rfl
  | p :: rest, after => by
    have hgap : gapFollows (rest.map PlotPoint.reread) = gapFollows rest := by
      cases rest with
      | nil => rfl
      | cons q rest => simp only [List.map_cons, gapFollows, PlotPoint.isVisible_reread]
    have hdrawn : p.isVisible = true → ∀ gap, drawn p.reread gap = drawn p gap := by
      intro hp gap
      obtain ⟨x, hx, hfinite⟩ := PlotPoint.value_of_isVisible hp
      simp [drawn, PlotPoint.reread, hx, Option.filter_some, hfinite, PlotPoint.seconds]
    have hseconds : p.reread.seconds = p.seconds := rfl
    simp only [List.map_cons, drawnFrom, PlotPoint.isVisible_reread, hgap, hseconds,
      drawnFrom_reread rest]
    split
    · next hp => rw [hdrawn hp]
    · rfl

/-- A value that is not finite may as well be absent. -/
theorem adapt_reread (points : List PlotPoint) :
    adapt (points.map PlotPoint.reread) = adapt points := by
  have hseconds : ∀ p : PlotPoint, p.reread.seconds = p.seconds := fun _ => rfl
  simp only [adapt, List.takeWhile_map, List.dropWhile_map, Function.comp_def,
    PlotPoint.isVisible_reread, List.isEmpty_map, List.map_map, hseconds, drawnFrom_reread]

/-! ## Typed and loosely typed samples -/

/-- An object that is read as a sample has that sample, if a double holds its time. -/
theorem PlotPoint.describes_of_decode? {entries : List (String × Json)} {p : PlotPoint}
    (h : decode? (.obj entries) = some p) (hlow : -(2 ^ 53) ≤ p.time) (hhigh : p.time ≤ 2 ^ 53) :
    p.Describes (.obj entries) := by
  simp only [decode?, Option.bind_eq_bind, Option.bind_eq_some_iff] at h
  obtain ⟨fields, hrecord, time, htime, value, hvalue, color, hcolor, hp⟩ := h
  obtain rfl := Option.some.inj hp
  have hget : ∀ name ∈ ["time", "value", "color"],
      (Json.obj entries).get name = (fields.lookup name).getD .null := by
    intro name hname
    simp only [Json.record?] at hrecord
    split at hrecord
    · rw [Json.get, ← Option.some.inj hrecord,
        lookup_filter_of_accepted (List.contains_iff_mem.2 hname)]
    · simp at hrecord
  refine ⟨?_, fun x => ?_, fun c => ?_⟩
  · obtain ⟨v, hv, hint⟩ := Option.bind_eq_some_iff.1 htime
    obtain rfl : v = .int time := Json.eq_int_of_int64? hint
    replace hlow : -(2 ^ 53) ≤ time := hlow
    replace hhigh : time ≤ 2 ^ 53 := hhigh
    refine ⟨Float.ofInt time, ?_, Number.isFinite_ofInt (by omega) (by omega), ?_⟩
    · rw [hget "time" (by simp), hv]
      exact .int time
    · rw [Number.floor_ofInt hlow hhigh]
      simp only [Number.clampWord]
      omega
  · rw [← Json.number?_eq_some_iff, hget "value" (by simp)]
    unfold Json.Fields.withDefault at hvalue
    split at hvalue
    · next hnone => simp [hnone, ← Option.some.inj hvalue, Json.number?, Json.float?]
    · next v hv => simp [hv, Json.number?_of_lenient? hvalue]
  · rw [← Json.text?_eq_some_iff, hget "color" (by simp)]
    unfold Json.Fields.optional Json.Fields.withDefault at hcolor
    split at hcolor
    · next hnone => simp [hnone, ← Option.some.inj hcolor, Json.text?]
    · next v hv => simp [hv, Json.text?_of_nullable? hcolor]

/-- The stream drawn of loosely typed items is that of their samples, of which there is one for
every item with a usable time, and in which a value that is not finite may as well be absent. Where
every item is an object that is read as a sample with a time that a double holds, it is the stream
of the samples that are read. -/
theorem adaptItems_spec (items : List Json) :
    (∃ points, SamplesOf items points ∧ (∀ others, SamplesOf items others → others = points) ∧
        adaptItems (.arr items) = adapt points ∧
        adaptItems (.arr items) = adapt (points.map PlotPoint.reread)) ∧
      ∀ points, (∀ item ∈ items, ∃ entries, item = .obj entries) →
        Json.list? PlotPoint.decode? (.arr items) = some points →
        (∀ p ∈ points, -(2 ^ 53) ≤ p.time ∧ p.time ≤ 2 ^ 53) →
        adaptItems (.arr items) = adapt points := by
  refine ⟨⟨_, samplesOf_iff.2 rfl, fun _ h => (samplesOf_iff.1 h).symm, rfl,
    (adapt_reread _).symm⟩, fun points hobjects hread htimes => ?_⟩
  have hsamples : SamplesOf items points := by
    replace hread : List.Forall₂ (fun v p => PlotPoint.decode? v = some p) items points :=
      mapM_eq_some_iff.1 hread
    induction hread with
    | nil => exact .nil
    | @cons item p items points hp hrest ih =>
      rw [List.forall_mem_cons] at hobjects htimes
      obtain ⟨entries, rfl⟩ := hobjects.1
      exact .take (PlotPoint.describes_of_decode? hp htimes.1.1 htimes.1.2) (ih hobjects.2 htimes.2)
  rw [← samplesOf_iff.1 hsamples]
  rfl

/-- A sample before the epoch with a text for a value, and one with a value that is none. -/
def typedItems : List Json :=
  [.obj [("color", .str "red"), ("time", .int (-1)), ("value", .str " 12.5 ")],
    .obj [("time", .int 60000), ("value", .obj []), ("note", .null), ("color", .str "red")]]

def typedPoints : List PlotPoint :=
  [{ time := -1, value := some 12.5, color := some "red" }, { time := 60000, color := some "red" }]

theorem adaptItems_spec_typed :
    (∀ item ∈ typedItems, ∃ entries, item = .obj entries) ∧
      Json.list? PlotPoint.decode? (.arr typedItems) = some typedPoints ∧
      (∀ p ∈ typedPoints, -(2 ^ 53) ≤ p.time ∧ p.time ≤ 2 ^ 53) ∧
      adaptItems (.arr typedItems) = adapt typedPoints := by
  have hobjects : ∀ item ∈ typedItems, ∃ entries, item = .obj entries := by simp [typedItems]
  have hread : Json.list? PlotPoint.decode? (.arr typedItems) = some typedPoints := rfl
  have htimes : ∀ p ∈ typedPoints, -(2 ^ 53) ≤ p.time ∧ p.time ≤ 2 ^ 53 := by simp [typedPoints]
  exact ⟨hobjects, hread, htimes, (adaptItems_spec typedItems).2 _ hobjects hread htimes⟩

end MarketChart
