import Mathlib.Data.List.Basic
import MarketChart.Proofs.Rereading

/-!
# Parts of trees and parts of what is read from them

A part of a value can be looked at and replaced. Where a decoder combines others, parts of the tree
belong to parts of what is read: the part is read by a decoder of its own, and when it is replaced
by another tree that this decoder accepts, what was read from it is replaced and nothing else
(`ReadsPart`). That holds of the items of an array (`ReadsPart.item`), of the values of a map
(`ReadsPart.value`) and of the fields of a record in either of its forms
(`Json.record?_put_field`), and it holds of parts of parts (`ReadsPart.comp`).

A record that is an object may also be given an entry that it did not have (`Json.withEntry`).
-/

namespace MarketChart

variable {α β γ : Type}

/-! ## Parts -/

/-- A part of a value, which may be missing : how to look at it, and how to replace it. -/
structure Part (α β : Type) where
  get? : α → Option β
  put : α → β → α

namespace Part

/-- A part of a part. -/
def comp (p : Part α β) (q : Part β γ) : Part α γ where
  get? a := (p.get? a).bind q.get?
  put a c := ((p.get? a).map fun b => p.put a (q.put b c)).getD a

theorem put_comp {p : Part α β} {q : Part β γ} {a : α} {b : β} (h : p.get? a = some b) (c : γ) :
    (p.comp q).put a c = p.put a (q.put b c) := by
  simp [comp, h]

/-- The element at a position. -/
def item (i : Nat) : Part (List α) α := ⟨(·[i]?), fun l a => l.set i a⟩

/-- The value under a name. -/
def value (name : String) : Part (KeyMap α) α := ⟨(·.find? name), (·.insert name ·)⟩

end Part

/-! ## Entries of a list -/

/-- The entries, with another value under a name. -/
def replaceEntry (name : String) (value : α) (entries : List (String × α)) :
    List (String × α) :=
  entries.map fun e => if e.1 = name then (e.1, value) else e

section

variable (name : String) (value : α) (entries : List (String × α))

theorem names_replaceEntry : (replaceEntry name value entries).map (·.1) = entries.map (·.1) := by
  rw [replaceEntry, List.map_map]
  refine List.map_congr_left fun e _ => ?_
  simp only [Function.comp_apply]
  split <;> rfl

theorem filter_replaceEntry (accept : String → Bool) :
    (replaceEntry name value entries).filter (fun e => accept e.1) =
      replaceEntry name value (entries.filter fun e => accept e.1) := by
  rw [replaceEntry, List.filter_map, replaceEntry]
  congr 1
  refine List.filter_congr fun e _ => ?_
  simp only [Function.comp_apply]
  split <;> rfl

theorem reverse_replaceEntry :
    (replaceEntry name value entries).reverse = replaceEntry name value entries.reverse :=
  List.map_reverse.symm

theorem lookup_replaceEntry (other : String) : (replaceEntry name value entries).lookup other =
    if other = name then (entries.lookup name).map fun _ => value else entries.lookup other := by
  induction entries with
  | nil => simp [replaceEntry]
  | cons e rest ih =>
    have hcons : replaceEntry name value (e :: rest) =
        (e.1, if e.1 = name then value else e.2) :: replaceEntry name value rest := by
      rw [replaceEntry, List.map_cons, replaceEntry]
      split <;> rfl
    rw [hcons, lookup_cons_eq_ite, lookup_cons_eq_ite, lookup_cons_eq_ite, ih]
    grind

end

theorem lookup_filter_of_accepted {accept : String → Bool} {name : String}
    (h : accept name = true) : ∀ entries : List (String × α),
      (entries.filter fun e => accept e.1).lookup name = entries.lookup name
  | [] => rfl
  | (k, v) :: rest => by
    have ih := lookup_filter_of_accepted h rest
    rw [List.filter_cons, lookup_cons_eq_ite]
    split
    · rw [lookup_cons_eq_ite, ih]
    · next hk =>
      have hne : name ≠ k := fun heq => hk (heq ▸ h)
      rw [if_neg hne, ih]

/-- A list gives the values of names that stand beside it. -/
theorem lookup_zip (name : String) : ∀ (names : List String) (items : List α),
    (names.zip items).lookup name = if name ∈ names then items[names.idxOf name]? else none
  | [], _ => rfl
  | n :: names, [] => by simp
  | n :: names, a :: items => by
    rw [List.zip_cons_cons, lookup_cons_eq_ite, lookup_zip name names items, List.idxOf_cons]
    by_cases hn : name = n
    · simp [hn]
    · simp [hn, beq_eq_false_iff_ne.2 (Ne.symm hn)]

/-! ## Maps of a list of entries -/

namespace KeyMap

/-- Maps that find the same are the same. -/
theorem ext_find? {m m' : KeyMap α} (h : ∀ name, m.find? name = m'.find? name) : m = m' := by
  refine ext (List.Perm.eq_of_pairwise ?_ m.sorted m'.sorted ?_)
  · intro a b _ _ hab hba
    exact absurd (String.lt_trans hab hba) (String.lt_irrefl a.1)
  · refine (List.perm_ext_iff_of_nodup m.sorted.nodup_keys.of_map m'.sorted.nodup_keys.of_map).2 ?_
    intro e
    rw [← find?_eq_some_iff, ← find?_eq_some_iff, h]

theorem find?_ofList (name : String) (entries : List (String × α)) :
    (ofList entries).find? name = entries.reverse.lookup name := by
  induction entries using List.reverseRecOn with
  | nil => rfl
  | append_singleton entries e ih =>
    rw [ofList, List.foldl_append, List.foldl_cons, List.foldl_nil, ← ofList, find?_insert, ih,
      List.reverse_append, List.reverse_singleton, List.singleton_append, lookup_cons_eq_ite]

/-- Another value under a name of the list is another value under that name of the map. -/
theorem ofList_replaceEntry {name : String} {value a : α} {entries : List (String × α)}
    (h : (ofList entries).find? name = some a) :
    ofList (replaceEntry name value entries) = (ofList entries).insert name value := by
  refine ext_find? fun other => ?_
  rw [find?_ofList] at h
  rw [find?_insert, find?_ofList, find?_ofList, reverse_replaceEntry, lookup_replaceEntry, h]
  rfl

end KeyMap

/-! ## Parts of trees -/

namespace Json

/-- An item of an array. -/
def item (i : Nat) : Part Json Json where
  get?
    | .arr items => items[i]?
    | _ => none
  put
    | .arr items, w => .arr (items.set i w)
    | v, _ => v

/-- What an object has under a name; of several entries of one name the last counts. -/
def entry (name : String) : Part Json Json where
  get?
    | .obj entries => entries.reverse.lookup name
    | _ => none
  put
    | .obj entries, w => .obj (replaceEntry name w entries)
    | v, _ => v

/-- A field of a record, given by its name or by its place. -/
def field (declared : List String) (name : String) : Part Json Json where
  get?
    | .obj entries => entries.lookup name
    | .arr items => (declared.zip items).lookup name
    | _ => none
  put
    | .obj entries, w => .obj (replaceEntry name w entries)
    | .arr items, w => .arr (items.set (declared.idxOf name) w)
    | v, _ => v

/-- A record with another value for one of its fields has the other fields that it had. -/
theorem record?_put_field {declared : List String} {name : String} (hname : name ∈ declared)
    {v x : Json} {fields : Fields} (hf : v.record? declared = some fields)
    (hx : (field declared name).get? v = some x) :
    fields.lookup name = some x ∧ ∀ w, ∃ fields',
      ((field declared name).put v w).record? declared = some fields' ∧
        ∀ other, fields'.lookup other = if other = name then some w else fields.lookup other := by
  cases v with
  | arr items =>
    simp only [record?] at hf
    split at hf
    · next hlen =>
      obtain rfl := Option.some.inj hf
      refine ⟨hx, fun w => ⟨_, if_pos (by simpa using hlen), fun other => ?_⟩⟩
      have hx : items[declared.idxOf name]? = some x := by
        rw [← hx]
        simp [field, lookup_zip, hname]
      obtain ⟨hplace, -⟩ := List.getElem?_eq_some_iff.1 hx
      rw [lookup_zip, lookup_zip, List.getElem?_set]
      by_cases hother : other = name
      · simp [hother, hname, hplace]
      · by_cases hmem : other ∈ declared
        · simp [hmem, hother, Ne.symm hother, List.idxOf_inj hname]
        · simp [hmem, hother]
    · simp at hf
  | obj entries =>
    simp only [record?] at hf
    split at hf
    · next hnodup =>
      obtain rfl := Option.some.inj hf
      have hlookup : (entries.filter fun e => declared.contains e.1).lookup name = some x :=
        (lookup_filter_of_accepted (by simpa using hname) entries).trans hx
      refine ⟨hlookup, fun w => ⟨replaceEntry name w (entries.filter fun e =>
        declared.contains e.1), ?_, fun other => ?_⟩⟩
      · simp only [field, record?, filter_replaceEntry, names_replaceEntry, if_pos hnodup]
      · rw [lookup_replaceEntry, hlookup]
        rfl
    · simp at hf
  | _ => simp [record?] at hf

/-- The entries of an object, with a value under a name that it may not have had. -/
def withEntry (name : String) (w : Json) (entries : List (String × Json)) :
    List (String × Json) :=
  if name ∈ entries.map (·.1) then replaceEntry name w entries else entries ++ [(name, w)]

theorem lookup_withEntry (name other : String) (w : Json) (entries : List (String × Json)) :
    (withEntry name w entries).lookup other =
      if other = name then some w else entries.lookup other := by
  unfold withEntry
  split
  · next hmem =>
    obtain ⟨e, he, rfl⟩ := List.mem_map.1 hmem
    rw [lookup_replaceEntry]
    split
    · have hsome : (entries.lookup e.1).isSome = true :=
        List.lookup_isSome_iff.2 ⟨e, he, beq_self_eq_true _⟩
      obtain ⟨x, hx⟩ := Option.isSome_iff_exists.1 hsome
      rw [hx, Option.map_some]
    · rfl
  · next hmem =>
    have hnone : entries.lookup name = none := by
      rw [List.lookup_eq_none_iff]
      intro e he
      have hne : name ≠ e.1 := fun heq => hmem (heq ▸ List.mem_map_of_mem he)
      exact bne_iff_ne.2 hne
    rw [List.lookup_append, lookup_cons_eq_ite, List.lookup_nil]
    split
    · next heq => rw [heq, hnone, Option.none_or]
    · exact Option.or_none

/-- An object that gives no field twice still does so with a value under a name. -/
theorem nodup_withEntry (declared : List String) (name : String) (w : Json)
    {entries : List (String × Json)}
    (h : ((entries.filter fun e => declared.contains e.1).map (·.1)).Nodup) :
    (((withEntry name w entries).filter fun e => declared.contains e.1).map (·.1)).Nodup := by
  unfold withEntry
  split
  · rwa [filter_replaceEntry, names_replaceEntry]
  · next hmem =>
    rw [List.filter_append, List.map_append]
    refine h.append ?_ ?_
    · exact List.Sublist.nodup (List.filter_sublist.map _) (List.nodup_singleton name)
    · intro n hn hn'
      obtain ⟨e, he, rfl⟩ := List.mem_map.1 hn
      have hname : e.1 = name := by
        obtain ⟨e', he', heq⟩ := List.mem_map.1 hn'
        rw [← heq, List.mem_singleton.1 (List.mem_filter.1 he').1]
      exact hmem (hname ▸ List.mem_map_of_mem (List.mem_filter.1 he).1)

/-- A record with a value under a name has the other fields that it had. -/
theorem record?_withEntry {declared : List String} (name : String) (w : Json)
    {entries : List (String × Json)} {fields : Fields}
    (hf : record? declared (.obj entries) = some fields) :
    ∃ fields', record? declared (.obj (withEntry name w entries)) = some fields' ∧
      ∀ other ∈ declared, fields'.lookup other =
        if other = name then some w else fields.lookup other := by
  simp only [record?] at hf
  split at hf
  · next hnodup =>
    obtain rfl := Option.some.inj hf
    refine ⟨_, if_pos (nodup_withEntry declared name w hnodup), fun other hother => ?_⟩
    have haccepted : declared.contains other = true := List.contains_iff_mem.2 hother
    rw [lookup_filter_of_accepted haccepted, lookup_filter_of_accepted haccepted, lookup_withEntry]
  · simp at hf

end Json

/-! ## Reading parts -/

/-- A list is read as another if it is so element by element. -/
theorem mapM_eq_some_iff {f : α → Option β} : ∀ {l : List α} {l' : List β},
    l.mapM f = some l' ↔ List.Forall₂ (fun a b => f a = some b) l l'
  | [], l' => by simp [eq_comm]
  | a :: l, l' => by
    rw [List.mapM_cons, List.forall₂_cons_left_iff]
    simp only [Option.bind_eq_bind, Option.bind_eq_some_iff, mapM_eq_some_iff, Option.pure_def,
      Option.some.injEq, eq_comm (b := l')]
    grind

/-- The part of the tree is read as the part of the value : it has a decoder of its own, and another
tree that this decoder accepts, put in its place, replaces that part of the value. -/
def ReadsPart (decode : Json → Option α) (decodePart : Json → Option β) (tree : Part Json Json)
    (data : Part α β) : Prop :=
  ∀ ⦃v a x⦄, decode v = some a → tree.get? v = some x →
    ∃ b, decodePart x = some b ∧ data.get? a = some b ∧
      ∀ ⦃y c⦄, decodePart y = some c → decode (tree.put v y) = some (data.put a c)

/-- What is found in a list of entries is read as what is found in the list that was read. -/
theorem exists_lookup_of_forall₂ {decode : Json → Option α} {name : String} {x : Json}
    {entries : List (String × Json)} {read : List (String × α)}
    (h : List.Forall₂ (fun e r => ((decode e.2).map fun a => (e.1, a)) = some r) entries read)
    (hx : entries.lookup name = some x) : ∃ b, decode x = some b ∧ read.lookup name = some b := by
  induction h with
  | nil => simp at hx
  | @cons e r entries read her hrest ih =>
    obtain ⟨a, ha, rfl⟩ := Option.map_eq_some_iff.1 her
    rw [lookup_cons_eq_ite] at hx ⊢
    split at hx
    · next hname =>
      obtain rfl := Option.some.inj hx
      exact ⟨a, ha, if_pos hname⟩
    · next hname =>
      obtain ⟨b, hb, hlookup⟩ := ih hx
      exact ⟨b, hb, (if_neg hname).trans hlookup⟩

namespace ReadsPart

theorem comp {decode : Json → Option α} {decodePart : Json → Option β}
    {decodeInner : Json → Option γ} {tree inner : Part Json Json} {data : Part α β}
    {dataInner : Part β γ} (h : ReadsPart decode decodePart tree data)
    (h' : ReadsPart decodePart decodeInner inner dataInner) :
    ReadsPart decode decodeInner (tree.comp inner) (data.comp dataInner) := by
  intro v a z ha hz
  obtain ⟨x, hx, hz⟩ := Option.bind_eq_some_iff.1 hz
  obtain ⟨b, hb, hget, hput⟩ := h ha hx
  obtain ⟨c, hc, hget', hput'⟩ := h' hb hz
  refine ⟨c, hc, Option.bind_eq_some_iff.2 ⟨b, hget, hget'⟩, fun y c' hy => ?_⟩
  rw [Part.put_comp hx, Part.put_comp hget]
  exact hput (hput' hy)

theorem item (decode : Json → Option α) (i : Nat) :
    ReadsPart (Json.list? decode) decode (Json.item i) (Part.item i) := by
  intro v l x hl hx
  cases v with
  | arr items =>
    have hread := mapM_eq_some_iff.1 hl
    have hlen := hread.length_eq
    obtain ⟨hi, rfl⟩ := List.getElem?_eq_some_iff.1 hx
    have hi' : i < l.length := hlen ▸ hi
    refine ⟨l[i], hread.get hi hi', List.getElem?_eq_getElem hi', fun y c hy => ?_⟩
    refine mapM_eq_some_iff.2 (List.forall₂_iff_get.2 ⟨by simp [Part.item, hlen], ?_⟩)
    intro j hj hj'
    simp only [Part.item, List.get_eq_getElem, List.getElem_set]
    split
    · exact hy
    · exact hread.get _ _
  | _ => simp [Json.item] at hx

theorem value (decode : Json → Option α) (name : String) :
    ReadsPart (Json.map? decode) decode (Json.entry name) (Part.value name) := by
  intro v m x hm hx
  cases v with
  | obj entries =>
    obtain ⟨read, hread, rfl⟩ := Option.map_eq_some_iff.1 hm
    rw [mapM_eq_some_iff] at hread
    obtain ⟨b, hb, hlookup⟩ := exists_lookup_of_forall₂ (List.rel_reverse hread) hx
    have hfind : (KeyMap.ofList read).find? name = some b := (KeyMap.find?_ofList ..).trans hlookup
    refine ⟨b, hb, hfind, fun y c hy => ?_⟩
    have hreplaced : (replaceEntry name y entries).mapM
        (fun e => (decode e.2).map fun a => (e.1, a)) = some (replaceEntry name c read) := by
      refine mapM_eq_some_iff.2 (List.rel_map (fun e r her => ?_) hread)
      obtain ⟨a, ha, rfl⟩ := Option.map_eq_some_iff.1 her
      by_cases hname : e.1 = name
      · simp [hname, hy]
      · simp [hname, ha]
    rw [Json.entry, Json.map?, hreplaced, Option.map_some, KeyMap.ofList_replaceEntry hfind]
    rfl
  | _ => simp [Json.entry] at hx

end ReadsPart

end MarketChart
