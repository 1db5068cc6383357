import MarketChart.KeyMap

/-!
# Looking up in maps by name

The names of a map are distinct, so a look-up finds exactly its entries
(`KeyMap.find?_eq_some_iff`). Adding or removing an entry changes what is found under its name and
nothing else (`KeyMap.find?_insert`, `KeyMap.find?_erase`). Names that come in order are inserted at
the end (`insertEntry_of_forall_lt`), so a map is the map of its own entries
(`KeyMap.ofList_entries`).
-/

namespace MarketChart

variable {α β : Type}

/-- An entry whose name is above all others goes to the end. -/
theorem insertEntry_of_forall_lt {key : String} (value : α) :
    ∀ {entries : List (String × α)}, (∀ e ∈ entries, e.1 < key) →
      insertEntry key value entries = entries ++ [(key, value)]
  | [], _ => rfl
  | (k, v) :: rest, h => by
    have hk : k < key := h (k, v) (by simp)
    have hlt : ¬key < k := fun hlt => String.lt_irrefl k (String.lt_trans hk hlt)
    have hne : key ≠ k := fun he => String.lt_irrefl k (by rwa [he] at hk)
    rw [insertEntry, if_neg hlt, if_neg hne,
      insertEntry_of_forall_lt value fun e he => h e (by simp [he])]
    rfl

/-- A look-up finds exactly the entries of a list whose keys are distinct. -/
theorem lookup_eq_some_iff {κ : Type} [DecidableEq κ] {key : κ} {value : α} :
    ∀ {entries : List (κ × α)}, (entries.map (·.1)).Nodup →
      (entries.lookup key = some value ↔ (key, value) ∈ entries)
  | [], _ => by simp
  | (k, v) :: rest, h => by
    obtain ⟨hk, hrest⟩ := List.nodup_cons.1 h
    rw [List.lookup_cons, List.mem_cons, Prod.mk.injEq]
    by_cases hkey : key = k
    · subst hkey
      have hnot : (key, value) ∉ rest := fun hm => hk (List.mem_map.2 ⟨_, hm, rfl⟩)
      simp [hnot, eq_comm]
    · rw [beq_eq_false_iff_ne.2 hkey]
      simpa [hkey] using lookup_eq_some_iff hrest

theorem SortedEntries.nodup_keys {entries : List (String × α)} (h : SortedEntries entries) :
    (entries.map (·.1)).Nodup := by
  refine List.pairwise_map.2 (h.imp ?_)
  intro a b hlt heq
  exact String.lt_irrefl b.1 (heq ▸ hlt)

theorem lookup_cons_eq_ite (name k : String) (v : α) (rest : List (String × α)) :
    ((k, v) :: rest).lookup name = if name = k then some v else rest.lookup name := by
  rw [List.lookup_cons]
  by_cases hname : name = k
  · simp [hname]
  · simp [beq_eq_false_iff_ne.2 hname, hname]

theorem lookup_insertEntry (key name : String) (value : α) : ∀ entries : List (String × α),
    (insertEntry key value entries).lookup name =
      if name = key then some value else entries.lookup name
  | [] => lookup_cons_eq_ite ..
  | (k, v) :: rest => by
    unfold insertEntry
    split
    · exact lookup_cons_eq_ite ..
    · split
      · next heq =>
        rw [lookup_cons_eq_ite, lookup_cons_eq_ite, ← heq]
        split <;> rfl
      · next hne =>
        rw [lookup_cons_eq_ite, lookup_cons_eq_ite, lookup_insertEntry]
        split
        · next hname => rw [hname, if_neg (Ne.symm hne)]
        · rfl

theorem lookup_filter_ne (key name : String) : ∀ entries : List (String × α),
    (entries.filter (·.1 ≠ key)).lookup name = if name = key then none else entries.lookup name
  | [] => by simp
  | (k, v) :: rest => by
    have ih := lookup_filter_ne key name rest
    rw [List.filter_cons]
    split
    · next hk =>
      have hne : k ≠ key := by simpa using hk
      rw [lookup_cons_eq_ite, lookup_cons_eq_ite, ih]
      split
      · next hname => rw [hname, if_neg hne]
      · rfl
    · next hk =>
      have heq : k = key := by simpa using hk
      rw [lookup_cons_eq_ite, ih, heq]
      split <;> rfl

namespace KeyMap

theorem find?_insert (m : KeyMap α) (key name : String) (value : α) :
    (m.insert key value).find? name = if name = key then some value else m.find? name :=
  lookup_insertEntry key name value m.entries

theorem find?_erase (m : KeyMap α) (key name : String) :
    (m.erase key).find? name = if name = key then none else m.find? name :=
  lookup_filter_ne key name m.entries

theorem find?_eq_some_iff {m : KeyMap α} {key : String} {value : α} :
    m.find? key = some value ↔ (key, value) ∈ m.entries :=
  lookup_eq_some_iff m.sorted.nodup_keys

theorem find?_mapEntries (f : String → α → β) (m : KeyMap α) (key : String) :
    (m.mapEntries f).find? key = (m.find? key).map (f key) := by
  have hlookup : ∀ entries : List (String × α),
      (entries.map fun e => (e.1, f e.1 e.2)).lookup key = (entries.lookup key).map (f key) := by
    intro entries
    induction entries with
    | nil => rfl
    | cons e rest ih =>
      rw [List.map_cons, lookup_cons_eq_ite, lookup_cons_eq_ite, ih]
      split
      · next hkey => rw [hkey, Option.map_some]
      · rfl
  exact hlookup m.entries

theorem find?_mapEntries_of_mem (f : String → α → β) {m : KeyMap α} {e : String × α}
    (h : e ∈ m.entries) : (m.mapEntries f).find? e.1 = some (f e.1 e.2) :=
  find?_eq_some_iff.2 (List.mem_map.2 ⟨e, h, rfl⟩)

/-- The entries of the map of a list come from the list. -/
theorem mem_of_mem_ofList {entries : List (String × α)} {e : String × α}
    (h : e ∈ (ofList entries).entries) : e ∈ entries := by
  have hfold : ∀ (rest : List (String × α)) (m : KeyMap α),
      e ∈ (rest.foldl (fun m x => m.insert x.1 x.2) m).entries → e ∈ m.entries ∨ e ∈ rest := by
    intro rest
    induction rest with
    | nil => exact fun m hm => .inl hm
    | cons x rest ih =>
      intro m hm
      rcases ih (m.insert x.1 x.2) hm with hm | hm
      · exact (mem_insertEntry hm).elim (fun he => .inr (by simp [he])) .inl
      · exact .inr (List.mem_cons_of_mem _ hm)
  exact (hfold entries empty h).resolve_left (by simp [empty])

theorem ofList_entries (m : KeyMap α) : ofList m.entries = m := by
  have hfold : ∀ (rest : List (String × α)) (m : KeyMap α), SortedEntries (m.entries ++ rest) →
      (rest.foldl (fun m x => m.insert x.1 x.2) m).entries = m.entries ++ rest := by
    intro rest
    induction rest with
    | nil => exact fun m _ => (List.append_nil _).symm
    | cons x rest ih =>
      intro m hsorted
      have hlast : (m.insert x.1 x.2).entries = m.entries ++ [x] :=
        insertEntry_of_forall_lt x.2 fun e he =>
          (List.pairwise_append.1 hsorted).2.2 e he x (by simp)
      rw [List.foldl_cons, ih (m.insert x.1 x.2) (by simpa [hlast] using hsorted), hlast]
      simp
  exact ext (hfold m.entries empty m.sorted)

end KeyMap

end MarketChart
