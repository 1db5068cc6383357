import MarketChart.Json.Reader
import MarketChart.Proofs.DoubleForms

/-!
# The range of the numbers in a text

Every number that is read from a text is finite, and is an integer only if 64 bits hold it
(`Json.inRange_of_read?`). Such a number is again a finite double when it is asked for as one, which
is what makes writing it possible: the notation has no form for infinities.

The tokens of a text are in range (`Json.Token.inRange_of_scanFrom?`), and the machine that builds
the tree keeps all that it holds in range from token to token (`Json.Machine.InRange.step?`).
-/

namespace MarketChart.Json

mutual

/-- Every integer in the tree fits into 64 bits, with or without a sign, and every other number is
finite. -/
def inRange : Json → Bool
  | .int n => decide (-(2 ^ 63) ≤ n) && decide (n < 2 ^ 64)
  | .float x => x.isFinite
  | .arr items => inRangeItems items
  | .obj entries => inRangeEntries entries
  | _ => true

/-- `inRange` for the items of an array. -/
def inRangeItems : List Json → Bool
  | [] => true
  | v :: rest => v.inRange && inRangeItems rest

/-- `inRange` for the entries of an object. -/
def inRangeEntries : List (String × Json) → Bool
  | [] => true
  | (_, v) :: rest => v.inRange && inRangeEntries rest

end

theorem inRangeItems_iff : ∀ {items : List Json},
    inRangeItems items = true ↔ ∀ v ∈ items, v.inRange = true
  | [] => by simp [inRangeItems]
  | v :: rest => by simp [inRangeItems, inRangeItems_iff]

theorem inRangeEntries_iff : ∀ {entries : List (String × Json)},
    inRangeEntries entries = true ↔ ∀ e ∈ entries, e.2.inRange = true
  | [] => by simp [inRangeEntries]
  | (_, v) :: rest => by simp [inRangeEntries, inRangeEntries_iff]

/-! ## Tokens -/

namespace Token

/-- A tree that stands in a token is in range. -/
def inRange : Token → Bool
  | .scalar v => v.inRange
  | _ => true

/-- A magnitude that is not finite denotes nothing, and the sign does not matter. -/
theorem inRange_signed (negative : Bool) (x : Float) :
    (if x.isFinite then Json.float (if negative then -x else x) else .broken).inRange = true := by
  split
  · next h =>
    cases negative with
    | false => exact h
    | true => exact (Number.isFinite_neg x).trans h
  · rfl

theorem inRange_ofInteger (negative : Bool) (n : Numeral) :
    (ofInteger negative n).inRange = true := by
  have hword : ∀ m : Nat, m < 2 ^ 64 → (Json.int m).inRange = true := by
    intro m hm
    simp only [Json.inRange, Bool.and_eq_true, decide_eq_true_eq]
    omega
  have hnegative : ∀ m : Nat, m ≤ 2 ^ 63 → (Json.int (-m)).inRange = true := by
    intro m hm
    simp only [Json.inRange, Bool.and_eq_true, decide_eq_true_eq]
    omega
  have hrest := inRange_signed negative n.toFloat
  dsimp only [ofInteger]
  generalize (if n.toFloat.isFinite then Json.float (if negative then -n.toFloat else n.toFloat)
    else .broken) = rest at hrest ⊢
  split_ifs with hzero hlow hhigh
  · rfl
  · exact hnegative _ (of_decide_eq_true (Bool.and_eq_true_iff.1 hlow).2)
  · exact hword _ (of_decide_eq_true (Bool.and_eq_true_iff.1 hhigh).2)
  · exact hrest

theorem inRange_of_ofNumber? {cs : List Char} {t : Token} (h : ofNumber? cs = some t) :
    t.inRange = true := by
  obtain ⟨n, -, h⟩ := Option.bind_eq_some_iff.1 h
  dsimp only at h
  split at h
  · simp at h
  · split at h
    · obtain rfl := Option.some.inj h
      exact inRange_ofInteger _ n
    · obtain rfl := Option.some.inj h
      exact inRange_signed _ n.toFloat

theorem inRange_of_ofWord? {cs : List Char} {t : Token} (h : ofWord? cs = some t) :
    t.inRange = true := by
  unfold ofWord? at h
  split at h
  · obtain rfl := Option.some.inj h
    rfl
  · obtain rfl := Option.some.inj h
    rfl
  · obtain rfl := Option.some.inj h
    rfl
  · exact inRange_of_ofNumber? h

theorem inRange_of_enter? {c : Char} {tokens : List Token} {mode : Mode}
    (h : enter? c = some (tokens, mode)) : ∀ t ∈ tokens, t.inRange = true := by
  unfold enter? at h
  split at h
  case h_12 =>
    split at h
    · obtain ⟨rfl, -⟩ := Prod.mk.inj (Option.some.inj h)
      simp
    · simp at h
  all_goals
    obtain ⟨rfl, -⟩ := Prod.mk.inj (Option.some.inj h)
    simp [inRange]

/-- Cutting a text into tokens adds tokens that are in range to those found before. -/
theorem inRange_of_scanFrom? (mode : Mode) (cs : List Char) (found : List Token) :
    (∀ t ∈ found, t.inRange = true) → ∀ {tokens : List Token},
      scanFrom? mode cs found = some tokens → ∀ t ∈ tokens, t.inRange = true := by
  -- The induction follows the scanner; only the ends of words add a tree.
  fun_induction scanFrom? mode cs found with
  | case1 found =>
    intro hfound tokens h t ht
    obtain rfl := Option.some.inj h
    exact hfound t (List.mem_reverse.1 ht)
  | case2 read found =>
    intro hfound tokens h t ht
    obtain ⟨word, hword, rfl⟩ := Option.map_eq_some_iff.1 h
    rcases List.mem_cons.1 (List.mem_reverse.1 ht) with rfl | ht
    · exact inRange_of_ofWord? hword
    · exact hfound t ht
  | case3 => simp
  | case4 c cs found ih =>
    intro hfound tokens h
    obtain ⟨⟨new, mode⟩, henter, h⟩ := Option.bind_eq_some_iff.1 h
    exact ih new mode (List.forall_mem_append.2 ⟨inRange_of_enter? henter, hfound⟩) h
  | case5 read c cs found hc ih => exact ih
  | case6 read c cs found hc ih =>
    intro hfound tokens h
    obtain ⟨word, hword, h⟩ := Option.bind_eq_some_iff.1 h
    obtain ⟨⟨new, mode⟩, henter, h⟩ := Option.bind_eq_some_iff.1 h
    exact ih word new mode (List.forall_mem_append.2 ⟨inRange_of_enter? henter,
      List.forall_mem_cons.2 ⟨inRange_of_ofWord? hword, hfound⟩⟩) h
  | case7 t cs found ih =>
    intro hfound
    exact ih (List.forall_mem_cons.2 ⟨rfl, hfound⟩)
  | case8 t a b c d cs found ih =>
    intro hfound tokens h
    obtain ⟨u, -, h⟩ := Option.bind_eq_some_iff.1 h
    exact ih u hfound h
  | case9 t c cs found hc ih =>
    intro hfound tokens h
    obtain ⟨e, -, h⟩ := Option.bind_eq_some_iff.1 h
    exact ih e hfound h
  | case10 => simp
  | case11 t c cs found _ _ _ _ ih => exact ih

end Token

/-! ## Trees -/

/-- What a container holds so far is in range. -/
def Frame.inRange : Frame → Bool
  | .arr items => inRangeItems items
  | .obj entries _ _ => inRangeEntries entries

namespace Machine

/-- All that the machine holds is in range. -/
structure InRange (m : Machine) : Prop where
  stack : ∀ f ∈ m.stack, f.inRange = true
  result : m.result.inRange = true

section

variable {m : Machine} (h : m.InRange)

include h

theorem InRange.complete {v : Json} (hv : v.inRange = true) : (m.complete v).InRange := by
  unfold Machine.complete
  have hstack := h.stack
  split
  · next hs => exact ⟨by simp [hs], hv⟩
  all_goals
    next hs =>
    rw [hs, List.forall_mem_cons] at hstack
    refine ⟨List.forall_mem_cons.2 ⟨?_, hstack.2⟩, h.result⟩
    simpa [Frame.inRange, inRangeItems, inRangeEntries, hv] using hstack.1

theorem InRange.push {f : Frame} (hf : f.inRange = true) (e : Expect) : (m.push f e).InRange :=
  ⟨List.forall_mem_cons.2 ⟨hf, h.stack⟩, h.result⟩

theorem InRange.close {outer : List Frame} (ho : ∀ f ∈ outer, f.inRange = true) {v : Json}
    (hv : v.inRange = true) : (m.close outer v).InRange := by
  have houter : ({ m with stack := outer, depth := m.depth - 1 } : Machine).InRange :=
    ⟨ho, h.result⟩
  refine houter.complete ?_
  split
  · exact hv
  · rfl

theorem InRange.closeArray? {m' : Machine} (hm : m.closeArray? = some m') : m'.InRange := by
  unfold Machine.closeArray? at hm
  split at hm
  · next items outer hs =>
    obtain rfl := Option.some.inj hm
    have hstack := h.stack
    rw [hs, List.forall_mem_cons] at hstack
    refine h.close hstack.2 (inRangeItems_iff.2 fun v hv => ?_)
    exact inRangeItems_iff.1 hstack.1 v (List.mem_reverse.1 hv)
  · simp at hm

theorem InRange.closeObject? {m' : Machine} (hm : m.closeObject? = some m') : m'.InRange := by
  unfold Machine.closeObject? at hm
  split at hm
  · next entries named name outer hs =>
    obtain rfl := Option.some.inj hm
    have hstack := h.stack
    rw [hs, List.forall_mem_cons] at hstack
    refine h.close hstack.2 ?_
    split
    · refine inRangeEntries_iff.2 fun e he => ?_
      exact inRangeEntries_iff.1 hstack.1 e (List.mem_reverse.1 he)
    · rfl
  · simp at hm

theorem InRange.value? {t : Token} (ht : t.inRange = true) {m' : Machine}
    (hm : m.value? t = some m') : m'.InRange := by
  cases t with
  | openArray => exact Option.some.inj hm ▸ h.push rfl _
  | openObject => exact Option.some.inj hm ▸ h.push rfl _
  | text s => cases s <;> exact Option.some.inj hm ▸ h.complete rfl
  | scalar v => exact Option.some.inj hm ▸ h.complete ht
  | closeArray => simp [Machine.value?] at hm
  | closeObject => simp [Machine.value?] at hm
  | colon => simp [Machine.value?] at hm
  | comma => simp [Machine.value?] at hm

theorem InRange.name? {t : Token} {m' : Machine} (hm : m.name? t = some m') : m'.InRange := by
  unfold Machine.name? at hm
  split at hm
  · next entries named name outer s hs =>
    obtain rfl := Option.some.inj hm
    have hstack := h.stack
    rw [hs, List.forall_mem_cons] at hstack
    exact ⟨List.forall_mem_cons.2 hstack, h.result⟩
  · simp at hm

theorem InRange.step? {t : Token} (ht : t.inRange = true) {m' : Machine}
    (hm : m.step? t = some m') : m'.InRange := by
  unfold Machine.step? at hm
  have hexpect : ∀ e : Expect, ({ m with expect := e } : Machine).InRange :=
    fun _ => ⟨h.stack, h.result⟩
  split at hm
  · exact h.value? ht hm
  · exact h.closeArray? hm
  · exact h.value? ht hm
  · exact h.closeObject? hm
  · exact h.name? hm
  · exact h.name? hm
  · exact Option.some.inj hm ▸ hexpect _
  · exact h.closeArray? hm
  · exact h.closeObject? hm
  · split at hm
    · exact Option.some.inj hm ▸ hexpect _
    · exact Option.some.inj hm ▸ hexpect _
    · simp at hm
  · simp at hm

end

/-- The machine keeps all that it holds in range. -/
theorem InRange.foldlM : ∀ {tokens : List Token} {m m' : Machine}, m.InRange →
    (∀ t ∈ tokens, t.inRange = true) → tokens.foldlM Machine.step? m = some m' → m'.InRange
  | [], m, m', h, _, hm => by
    obtain rfl : m = m' := by simpa using hm
    exact h
  | t :: tokens, m, m', h, ht, hm => by
    rw [List.foldlM_cons] at hm
    obtain ⟨next, hnext, hm⟩ := Option.bind_eq_some_iff.1 hm
    rw [List.forall_mem_cons] at ht
    exact InRange.foldlM (h.step? ht.1 hnext) ht.2 hm

end Machine

/-- What is read from a text is in range. -/
theorem inRange_of_read? {s : String} {v : Json} (h : read? s = some v) : v.inRange = true := by
  obtain ⟨tokens, hscan, h⟩ := Option.bind_eq_some_iff.1 h
  obtain ⟨m, hrun, h⟩ := Option.bind_eq_some_iff.1 h
  have htokens := Token.inRange_of_scanFrom? .between s.toList [] (by simp) hscan
  have hm : m.InRange := .foldlM ⟨by simp, rfl⟩ htokens hrun
  split at h
  · exact Option.some.inj h ▸ hm.result
  · simp at h

end MarketChart.Json
