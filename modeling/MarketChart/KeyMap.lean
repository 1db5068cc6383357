/-!
# Maps by name

A finite map from names to values, kept as the list of its entries by increasing name. Names are
ordered by code point. The order is part of the type, so two maps with the same entries are
equal, and everything that walks a map walks it by increasing name.
-/

namespace MarketChart

/-- Puts an entry into a list sorted by name; an entry of the same name gives way. -/
def insertEntry {α : Type} (key : String) (value : α) :
    List (String × α) → List (String × α)
  | [] => [(key, value)]
  | (k, v) :: rest =>
    if key < k then (key, value) :: (k, v) :: rest
    else if key = k then (key, value) :: rest
    else (k, v) :: insertEntry key value rest

/-- Entries by strictly increasing name. -/
def SortedEntries {α : Type} (entries : List (String × α)) : Prop :=
  entries.Pairwise fun a b => a.1 < b.1

theorem mem_insertEntry {α : Type} {key : String} {value : α} {e : String × α} :
    ∀ {entries : List (String × α)}, e ∈ insertEntry key value entries →
      e = (key, value) ∨ e ∈ entries
  | [], h => by simpa [insertEntry] using h
  | (k, v) :: rest, h => by
    unfold insertEntry at h
    split at h
    · simpa using h
    · split at h
      · rcases List.mem_cons.1 h with h | h
        · exact .inl h
        · exact .inr (List.mem_cons_of_mem _ h)
      · rcases List.mem_cons.1 h with h | h
        · exact .inr (h ▸ List.mem_cons_self)
        · exact (mem_insertEntry h).imp id (List.mem_cons_of_mem _)

theorem SortedEntries.insertEntry {α : Type} (key : String) (value : α) :
    ∀ {entries : List (String × α)}, SortedEntries entries →
      SortedEntries (insertEntry key value entries)
  | [], _ => by simp [SortedEntries, MarketChart.insertEntry]
  | (k, v) :: rest, h => by
    obtain ⟨hk, hrest⟩ := List.pairwise_cons.1 h
    unfold MarketChart.insertEntry
    split
    · next hlt =>
      refine List.pairwise_cons.2 ⟨fun e he => ?_, h⟩
      rcases List.mem_cons.1 he with rfl | he
      · exact hlt
      · exact String.lt_trans hlt (hk e he)
    · next hlt =>
      split
      · next heq =>
        subst heq
        exact List.pairwise_cons.2 ⟨hk, hrest⟩
      · next hne =>
        refine List.pairwise_cons.2 ⟨fun e he => ?_, SortedEntries.insertEntry key value hrest⟩
        rcases mem_insertEntry he with rfl | he
        · rcases Decidable.em (k < key) with h | h
          · exact h
          · exact absurd (String.le_antisymm (String.not_lt.1 h) (String.not_lt.1 hlt)) hne
        · exact hk e he

/-- A map from names to values. -/
structure KeyMap (α : Type) where
  entries : List (String × α)
  sorted : SortedEntries entries

namespace KeyMap

variable {α β : Type}

theorem ext {a b : KeyMap α} (h : a.entries = b.entries) : a = b := by
  cases a; cases b; simpa using h

/-- The map without entries. -/
def empty : KeyMap α := ⟨[], List.Pairwise.nil⟩

instance : Inhabited (KeyMap α) := ⟨empty⟩

/-- Adds an entry, or replaces the one of the same name. -/
def insert (m : KeyMap α) (key : String) (value : α) : KeyMap α :=
  ⟨insertEntry key value m.entries, m.sorted.insertEntry key value⟩

/-- The map of a list of entries; of several entries of one name the last counts. -/
def ofList (entries : List (String × α)) : KeyMap α :=
  entries.foldl (fun m e => m.insert e.1 e.2) empty

/-- The value under a name. -/
def find? (m : KeyMap α) (key : String) : Option α := m.entries.lookup key

/-- The map without the entry of a name. -/
def erase (m : KeyMap α) (key : String) : KeyMap α :=
  ⟨m.entries.filter (·.1 ≠ key), m.sorted.filter _⟩

/-- The names, by increasing order. -/
def keys (m : KeyMap α) : List String := m.entries.map (·.1)

/-- The values, by increasing name. -/
def values (m : KeyMap α) : List α := m.entries.map (·.2)

/-- Each value replaced by a function of its name and itself. -/
def mapEntries (f : String → α → β) (m : KeyMap α) : KeyMap β :=
  ⟨m.entries.map fun e => (e.1, f e.1 e.2),
    by simpa [SortedEntries, List.pairwise_map] using m.sorted⟩

end KeyMap

end MarketChart
