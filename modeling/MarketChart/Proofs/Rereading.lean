import MarketChart.Json.Decode
import MarketChart.Proofs.KeyMapLookup
import MarketChart.Proofs.ReadRange

/-!
# Reading what was written

A decoder and an encoder belong together if what is written of a value that was read can be read
again. The second reading need not give the same value: the notation has no infinities, and it does
not tell a colour that was left out from one that is none. It gives a value that is written the same
way (`Restores`), so writing and reading again changes nothing any more (`Restores.settles`).

The law holds of the plain decoders and passes through the ways to combine them: values that may be
absent, lists, maps, and the fields of a record, which are required, have a default, or are left out
when absent.
-/

namespace MarketChart

/-- Whatever the tree is read as, what is written of that is read again, and then written the same
way. -/
def Settles {α : Type} (decode : Json → Option α) (encode : α → Json) (v : Json) : Prop :=
  ∀ a, decode v = some a → ∃ b, decode (encode a) = some b ∧ encode b = encode a

/-- What is written of a value that was read is read again as `reread` makes it, and that is written
the same way. -/
structure Restores {α : Type} (decode : Json → Option α) (encode : α → Json) (reread : α → α) :
    Prop where
  back : ∀ {v : Json} {a : α}, v.inRange = true → decode v = some a →
    decode (encode a) = some (reread a)
  alike : ∀ a, encode (reread a) = encode a

theorem Restores.settles {α : Type} {decode : Json → Option α} {encode : α → Json}
    {reread : α → α} (h : Restores decode encode reread) {v : Json} (hv : v.inRange = true) :
    Settles decode encode v := fun a ha => ⟨reread a, h.back hv ha, h.alike a⟩

/-! ## Trees -/

namespace Json

/-- Induction over trees, with the hypothesis for every item of an array and every entry of an
object. -/
@[elab_as_elim]
theorem induction {motive : Json → Prop} (null : motive .null) (bool : ∀ b, motive (.bool b))
    (int : ∀ n, motive (.int n)) (float : ∀ x, motive (.float x)) (str : ∀ s, motive (.str s))
    (arr : ∀ items, (∀ v ∈ items, motive v) → motive (.arr items))
    (obj : ∀ entries, (∀ e ∈ entries, motive e.2) → motive (.obj entries))
    (broken : motive .broken) (v : Json) : motive v :=
  @Json.rec motive (fun items => ∀ v ∈ items, motive v) (fun entries => ∀ e ∈ entries, motive e.2)
    (fun e => motive e.2) null bool int float str arr obj broken (by simp)
    (fun _ _ hv hrest => List.forall_mem_cons.2 ⟨hv, hrest⟩) (by simp)
    (fun _ _ he hrest => List.forall_mem_cons.2 ⟨he, hrest⟩) (fun _ _ hv => hv) v

theorem soundItems_iff : ∀ {items : List Json},
    soundItems items = true ↔ ∀ v ∈ items, v.sound = true
  | [] => by simp [soundItems]
  | v :: rest => by simp [soundItems, soundItems_iff]

theorem soundEntries_iff : ∀ {entries : List (String × Json)},
    soundEntries entries = true ↔ ∀ e ∈ entries, e.2.sound = true
  | [] => by simp [soundEntries]
  | (_, v) :: rest => by simp [soundEntries, soundEntries_iff]

theorem normalItems_eq_map : ∀ items : List Json, normalItems items = items.map normal
  | [] => rfl
  | v :: rest => by rw [normalItems, normalItems_eq_map rest, List.map_cons]

theorem normalEntries_eq_map : ∀ entries : List (String × Json),
    normalEntries entries = entries.map fun e => (e.1, e.2.normal)
  | [] => rfl
  | (k, v) :: rest => by rw [normalEntries, normalEntries_eq_map rest, List.map_cons]

/-- The entries of a normal object are entries of the object, made normal. -/
theorem mem_normal_obj {entries : List (String × Json)} {e : String × Json}
    (h : e ∈ (KeyMap.ofList (normalEntries entries)).entries) :
    ∃ x ∈ entries, (x.1, x.2.normal) = e := by
  have hmem := KeyMap.mem_of_mem_ofList h
  rw [normalEntries_eq_map] at hmem
  exact List.mem_map.1 hmem

theorem normal_normal (v : Json) : v.normal.normal = v.normal := by
  induction v using induction with
  | arr items ih =>
    simp only [normal, normalItems_eq_map, List.map_map]
    exact congrArg Json.arr (List.map_congr_left ih)
  | obj entries ih =>
    have hfixed : ∀ e ∈ (KeyMap.ofList (normalEntries entries)).entries, e.2.normal = e.2 := by
      intro e he
      obtain ⟨x, hx, rfl⟩ := mem_normal_obj he
      exact ih x hx
    have hentries : normalEntries (KeyMap.ofList (normalEntries entries)).entries =
        (KeyMap.ofList (normalEntries entries)).entries := by
      rw [normalEntries_eq_map]
      refine (List.map_congr_left fun e he => ?_).trans (List.map_id _)
      rw [hfixed e he]
      rfl
    rw [normal, normal, hentries, KeyMap.ofList_entries]
  | _ => rfl

theorem sound_normal {v : Json} (h : v.sound = true) : v.normal.sound = true := by
  induction v using induction with
  | arr items ih =>
    rw [normal, sound, soundItems_iff, normalItems_eq_map]
    intro w hw
    obtain ⟨v, hv, rfl⟩ := List.mem_map.1 hw
    exact ih v hv (soundItems_iff.1 h v hv)
  | obj entries ih =>
    rw [normal, sound, soundEntries_iff]
    intro e he
    obtain ⟨x, hx, rfl⟩ := mem_normal_obj he
    exact ih x hx (soundEntries_iff.1 h x hx)
  | _ => exact h

/-! ## Plain values -/

theorem restores_bool : Restores bool? .bool id := ⟨fun _ _ => rfl, fun _ => rfl⟩

theorem restores_text : Restores text? .str id := ⟨fun _ _ => rfl, fun _ => rfl⟩

theorem intBetween?_eq_some {low high n : Int} {v : Json} (h : intBetween? low high v = some n) :
    low ≤ n ∧ n ≤ high := by
  cases v with
  | int m =>
    rw [intBetween?] at h
    split at h
    · next hm =>
      obtain rfl := Option.some.inj h
      simpa using hm
    · simp at h
  | _ => simp [intBetween?] at h

theorem intBetween?_int {low high n : Int} (h : low ≤ n ∧ n ≤ high) :
    intBetween? low high (.int n) = some n := by
  simp [intBetween?, h.1, h.2]

theorem restores_int64 : Restores int64? .int id where
  back := fun _ h => intBetween?_int (intBetween?_eq_some h)
  alike := fun _ => rfl

theorem restores_natBelow (bound : Nat) :
    Restores (natBelow? bound) (fun n => .int (Int.ofNat n)) id where
  back := by
    intro v n _ h
    obtain ⟨m, hm, rfl⟩ := Option.map_eq_some_iff.1 h
    have hbounds := intBetween?_eq_some hm
    have hcast : Int.ofNat m.toNat = m := Int.toNat_of_nonneg hbounds.1
    rw [natBelow?, hcast, intBetween?_int hbounds]
    rfl
  alike := fun _ => rfl

theorem isFinite_of_float? {v : Json} {x : Float} (hv : v.inRange = true)
    (h : v.float? = some x) : x.isFinite = true := by
  cases v with
  | int n =>
    obtain rfl := Option.some.inj h
    simp only [inRange, Bool.and_eq_true, decide_eq_true_eq] at hv
    exact Number.isFinite_ofInt (by omega) hv.2
  | float y => exact Option.some.inj h ▸ hv
  | _ => simp [float?] at h

theorem float?_ofFloat {x : Float} (h : x.isFinite = true) : (ofFloat x).float? = some x := by
  rw [ofFloat, if_pos h]
  rfl

theorem restores_float : Restores float? ofFloat id where
  back := fun hv h => float?_ofFloat (isFinite_of_float? hv h)
  alike := fun _ => rfl

/-- A sample is read again without the infinities and the not-a-number that a text may denote. -/
theorem restores_lenient :
    Restores lenient? (ofOption ofFloat) (Option.filter Float.isFinite) where
  back := by
    rintro v (_ | x) _ _
    · rfl
    · cases hx : x.isFinite with
      | true =>
        simp [ofOption, ofFloat, hx, lenient?, raw?, sound, normal, number?, float?,
          Option.filter_some]
      | false => simp [ofOption, ofFloat, hx, lenient?, raw?, sound, Option.filter_some]
  alike := by
    rintro (_ | x)
    · rfl
    · cases hx : x.isFinite with
      | true => simp [Option.filter_some, hx]
      | false => simp [Option.filter_some, hx, ofOption, ofFloat]

/-- A value that is kept as it is stands in its normal form already. -/
theorem restores_raw : Restores raw? (ofOption id) id where
  back := by
    intro v a _ h
    have hkept : ∀ w : Json, w.sound = true → w.normal ≠ .null →
        raw? w.normal = some (some w.normal) := by
      intro w hw hnull
      have hsound := sound_normal hw
      have hnormal := normal_normal w
      unfold raw?
      rw [if_pos hsound]
      split
      · next heq => exact absurd heq hnull
      · rw [hnormal]
    unfold raw? at h
    split at h
    · next hsound =>
      split at h
      · obtain rfl := Option.some.inj h
        rfl
      · next hnull =>
        obtain rfl := Option.some.inj h
        refine hkept v hsound fun heq => ?_
        cases v <;> simp [normal] at heq hnull
    · simp at h
  alike := fun _ => rfl

end Json

/-! ## Combinations -/

theorem exists_of_mapM {α β : Type} {f : α → Option β} : ∀ {l : List α} {l' : List β},
    l.mapM f = some l' → ∀ b ∈ l', ∃ a ∈ l, f a = some b
  | [], l', h, b, hb => by
    obtain rfl : [] = l' := by simpa using h
    simp at hb
  | a :: l, l', h, b, hb => by
    rw [List.mapM_cons] at h
    obtain ⟨c, hc, h⟩ := Option.bind_eq_some_iff.1 h
    obtain ⟨rest, hrest, h⟩ := Option.bind_eq_some_iff.1 h
    obtain rfl : c :: rest = l' := Option.some.inj h
    rcases List.mem_cons.1 hb with rfl | hb
    · exact ⟨a, by simp, hc⟩
    · obtain ⟨x, hx, hfx⟩ := exists_of_mapM hrest b hb
      exact ⟨x, List.mem_cons_of_mem _ hx, hfx⟩

theorem isSome_of_mapM {α β : Type} {f : α → Option β} : ∀ {l : List α} {l' : List β},
    l.mapM f = some l' → ∀ a ∈ l, (f a).isSome = true
  | a :: l, l', h, b, hb => by
    rw [List.mapM_cons] at h
    obtain ⟨c, hc, h⟩ := Option.bind_eq_some_iff.1 h
    obtain ⟨rest, hrest, -⟩ := Option.bind_eq_some_iff.1 h
    rcases List.mem_cons.1 hb with rfl | hb
    · rw [hc, Option.isSome_some]
    · exact isSome_of_mapM hrest b hb

theorem mapM_map_eq_some {α β γ : Type} {f : β → Option γ} {p : α → β} {g : α → γ} :
    ∀ {l : List α}, (∀ a ∈ l, f (p a) = some (g a)) → (l.map p).mapM f = some (l.map g)
  | [], _ => rfl
  | a :: l, h => by
    rw [List.forall_mem_cons] at h
    simp [h.1, mapM_map_eq_some h.2]

section

variable {α : Type} {decode : Json → Option α} {encode : α → Json} {reread : α → α}
  (h : Restores decode encode reread)

include h

/-- A decoder that refuses `null` accepts nothing that would be written as `null`. -/
theorem Restores.nullable (hnull : decode .null = none) :
    Restores (Json.nullable? decode) (Json.ofOption encode) (Option.map reread) where
  back := by
    have hpresent : ∀ w a, decode w = some a → Json.nullable? decode w = some (some a) := by
      intro w a ha
      unfold Json.nullable?
      split
      · simp [hnull] at ha
      · rw [ha]
        rfl
    rintro v (_ | a) hv ha
    · rfl
    · unfold Json.nullable? at ha
      split at ha
      · simp at ha
      · obtain ⟨b, hb, heq⟩ := Option.map_eq_some_iff.1 ha
        obtain rfl := Option.some.inj heq
        exact hpresent _ _ (h.back hv hb)
  alike := by
    rintro (_ | a)
    · rfl
    · exact h.alike a

theorem Restores.list :
    Restores (Json.list? decode) (Json.ofList encode) (List.map reread) where
  back := by
    intro v l hv hl
    unfold Json.list? at hl
    split at hl
    · next items =>
      refine mapM_map_eq_some fun a ha => ?_
      obtain ⟨w, hw, hdecode⟩ := exists_of_mapM hl a ha
      exact h.back (Json.inRangeItems_iff.1 hv w hw) hdecode
    · simp at hl
  alike := by
    intro l
    simp [Json.ofList, h.alike]

theorem Restores.map :
    Restores (Json.map? decode) (Json.ofMap encode) (KeyMap.mapEntries fun _ => reread) where
  back := by
    intro v m hv hm
    unfold Json.map? at hm
    split at hm
    · next entries =>
      obtain ⟨read, hread, rfl⟩ := Option.map_eq_some_iff.1 hm
      -- Every value of the map was read from an entry of the object.
      have hback : ∀ e ∈ (KeyMap.ofList read).entries,
          decode (encode e.2) = some (reread e.2) := by
        intro e he
        obtain ⟨x, hx, hentry⟩ := exists_of_mapM hread e (KeyMap.mem_of_mem_ofList he)
        obtain ⟨a, ha, rfl⟩ := Option.map_eq_some_iff.1 hentry
        exact h.back (Json.inRangeEntries_iff.1 hv x hx) ha
      generalize KeyMap.ofList read = m at hback
      have hentries : (m.entries.map fun e => (e.1, encode e.2)).mapM
          (fun e => (decode e.2).map fun v => (e.1, v)) =
            some (m.mapEntries fun _ => reread).entries :=
        mapM_map_eq_some fun e he => by rw [hback e he]; rfl
      rw [Json.ofMap, Json.map?, hentries, Option.map_some, KeyMap.ofList_entries]
    · simp at hm
  alike := by
    intro m
    simp [Json.ofMap, KeyMap.mapEntries, h.alike]

end

section

-- Where a value is read again as it was, so is a combination of such values.
variable {α : Type} {decode : Json → Option α} {encode : α → Json}
  (h : Restores decode encode id)

include h

theorem Restores.nullable_id (hnull : decode .null = none) :
    Restores (Json.nullable? decode) (Json.ofOption encode) id := by
  simpa only [Option.map_id] using h.nullable hnull

theorem Restores.list_id : Restores (Json.list? decode) (Json.ofList encode) id := by
  simpa only [List.map_id_fun] using h.list

theorem Restores.map_id : Restores (Json.map? decode) (Json.ofMap encode) id := by
  have hid : KeyMap.mapEntries (fun _ (a : α) => id a) = id := by
    funext m
    exact KeyMap.ext (List.map_id _)
  simpa only [hid] using h.map

end

theorem Json.restores_optionalText : Restores (nullable? text?) (ofOption .str) id :=
  restores_text.nullable_id rfl

theorem Json.restores_optionalFloat : Restores (nullable? float?) (ofOption ofFloat) id :=
  restores_float.nullable_id rfl

/-! ## Records -/

namespace Json

/-- An object that gives only fields that are declared, in their order. -/
theorem record?_of_sublist {declared : List String} {fields : Fields}
    (h : (fields.map (·.1)).Sublist declared) (hn : declared.Nodup) :
    record? declared (.obj fields) = some fields := by
  have hknown : fields.filter (fun e => declared.contains e.1) = fields := by
    refine List.filter_eq_self.2 fun e he => ?_
    exact List.contains_iff_mem.2 (h.subset (List.mem_map_of_mem he))
  simp only [record?, hknown, if_pos (h.nodup hn)]

theorem inRange_of_record? {declared : List String} {v : Json} {fields : Fields}
    (hv : v.inRange = true) (h : v.record? declared = some fields) :
    inRangeEntries fields = true := by
  rw [inRangeEntries_iff]
  cases v with
  | arr items =>
    rw [record?] at h
    split at h
    · obtain rfl := Option.some.inj h
      intro e he
      exact inRangeItems_iff.1 hv e.2 (List.of_mem_zip he).2
    · simp at h
  | obj entries =>
    simp only [record?] at h
    split at h
    · obtain rfl := Option.some.inj h
      intro e he
      exact inRangeEntries_iff.1 hv e (List.mem_filter.1 he).1
    · simp at h
  | _ => simp [record?] at h

theorem inRange_renamed (second first : String) {v : Json} (hv : v.inRange = true) :
    (v.renamed second first).inRange = true := by
  cases v with
  | obj entries =>
    refine inRangeEntries_iff.2 fun e he => ?_
    obtain ⟨x, hx, rfl⟩ := List.mem_map.1 he
    exact inRangeEntries_iff.1 hv x hx
  | _ => exact hv

/-- There is nothing to rename in an object that does not use the second name. -/
theorem renamed_of_not_mem {second first : String} {fields : Fields}
    (h : second ∉ fields.map (·.1)) : (Json.obj fields).renamed second first = .obj fields := by
  refine congrArg Json.obj ((List.map_congr_left fun e he => ?_).trans (List.map_id _))
  have hne : e.1 ≠ second := fun heq => h (heq ▸ List.mem_map_of_mem he)
  simp [hne]

theorem inRange_of_lookup : ∀ {fields : Fields}, inRangeEntries fields = true →
    ∀ {name : String} {v : Json}, fields.lookup name = some v → v.inRange = true
  | (k, w) :: rest, hf, name, v, h => by
    simp only [inRangeEntries, Bool.and_eq_true] at hf
    rw [lookup_cons_eq_ite] at h
    split at h
    · exact Option.some.inj h ▸ hf.1
    · exact inRange_of_lookup hf.2 h

section

variable {α : Type} (name : String) (encode : α → Json) (a : Option α)

theorem names_ofPresent : ((ofPresent name encode a).map (·.1)).Sublist [name] := by
  cases a with
  | none => exact List.nil_sublist _
  | some a => exact .refl _

theorem lookup_ofPresent (other : String) :
    (ofPresent name encode a).lookup other = if other = name then a.map encode else none := by
  cases a with
  | none => simp [ofPresent]
  | some a => rw [ofPresent, lookup_cons_eq_ite, List.lookup_nil, Option.map_some]

end

end Json

section

variable {α : Type} {decode : Json → Option α} {encode : α → Json} {reread : α → α}
  (h : Restores decode encode reread) {fields written : Json.Fields}
  (hf : Json.inRangeEntries fields = true) {name : String} {a : α}

include h hf

theorem Restores.required (ha : fields.required name decode = some a)
    (hw : written.lookup name = some (encode a)) :
    written.required name decode = some (reread a) := by
  obtain ⟨v, hv, ha⟩ := Option.bind_eq_some_iff.1 ha
  rw [Json.Fields.required, hw]
  exact h.back (Json.inRange_of_lookup hf hv) ha

/-- A field that was absent is written with its default. -/
theorem Restores.withDefault {default : α} (hd : decode (encode default) = some (reread default))
    (ha : fields.withDefault name decode default = some a)
    (hw : written.lookup name = some (encode a)) :
    written.withDefault name decode default = some (reread a) := by
  simp only [Json.Fields.withDefault, hw]
  unfold Json.Fields.withDefault at ha
  split at ha
  · exact Option.some.inj ha ▸ hd
  · next v hv => exact h.back (Json.inRange_of_lookup hf hv) ha

end

/-- A field that is left out when absent. -/
theorem Restores.present {α : Type} {decode : Json → Option (Option α)} {encode : α → Json}
    {reread : Option α → Option α} (h : Restores decode (Json.ofOption encode) reread)
    (hnone : reread none = none) {fields written : Json.Fields}
    (hf : Json.inRangeEntries fields = true) {name : String} {a : Option α}
    (ha : fields.withDefault name decode none = some a)
    (hw : written.lookup name = a.map encode) :
    written.withDefault name decode none = some (reread a) := by
  unfold Json.Fields.withDefault at ha ⊢
  cases a with
  | none => simp [hw, hnone]
  | some a =>
    simp only [hw, Option.map_some]
    split at ha
    · simp at ha
    · next v hv => exact h.back (Json.inRange_of_lookup hf hv) ha

end MarketChart
