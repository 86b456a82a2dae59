import InfraTemplate.Proofs.Overriding

/-!
The law of merging: what is under a path once one map is merged into another follows from what the
two have there, and the keys keep their order at every level.
-/

namespace InfraTemplate

theorem Entries.put_of_present {α : Type} {name : String} {a : α} {es : Entries α}
    (h : find? name es = some a) : put name a es = es := by
  induction es with
  | nil => cases h
  | cons e es ih =>
    obtain ⟨k, b⟩ := e
    rw [find?_cons] at h
    rw [put]
    by_cases hk : k = name
    · subst hk
      rw [if_pos rfl] at h
      cases h
      rw [if_pos rfl]
    · rw [if_neg (Ne.symm hk)] at h
      rw [if_neg hk, ih h]

namespace Node

inductive Distinct : Node → Prop where
  | map {m : Mapping} (nodup : (Entries.keys m).Nodup) (values : ∀ e ∈ m, Distinct e.2) :
      Distinct (.map m)
  | other {n : Node} (h : ∀ m, n ≠ .map m) : Distinct n

section Merging

variable {key : String} {path : List String} {a b base changes m : Mapping} {n v : Node}
  {old : Option Node}

theorem Distinct.nodup (h : (Node.map m).Distinct) : (Entries.keys m).Nodup := by
  cases h with
  | map hn _ => exact hn
  | other h => exact absurd rfl (h m)

theorem Distinct.find? (h : (Node.map m).Distinct) (hv : Entries.find? key m = some v) :
    v.Distinct := by
  cases h with
  | map _ hvalues => exact hvalues _ (Entries.mem_of_find? hv)
  | other h => exact absurd rfl (h m)

theorem Distinct.held? (h : n.Distinct) (hv : n.held? path = some v) : v.Distinct := by
  induction path generalizing n with
  | nil =>
    cases hv
    exact h
  | cons key rest ih =>
    cases n with
    | map m =>
      obtain ⟨x, hx, hv⟩ := held?_map_eq_some.mp hv
      exact ih (h.find? hx) hv
    | null | bool _ | number _ | string _ | seq _ | tag _ | document _ => cases hv

theorem mergeValue_of_other (h : ∀ m, n ≠ .map m) : mergeValue old n = n := by
  cases n with
  | map m => exact absurd rfl (h m)
  | null | bool _ | number _ | string _ | seq _ | tag _ | document _ => rfl

theorem mergeValue_map (base changes : Mapping) :
    mergeValue (some (.map base)) (.map changes) = .map (deepMerge base changes) := by
  rw [mergeValue]

theorem mergeValue_none (n : Node) : mergeValue none n = n := by
  cases n <;> rfl

theorem mergeValue_onto_other (h : ∀ m, old ≠ some (.map m)) : mergeValue old n = n := by
  cases n with
  | map changes =>
    unfold mergeValue
    split
    · exact absurd rfl (h _)
    · rfl
  | null | bool _ | number _ | string _ | seq _ | tag _ | document _ => rfl

theorem map_or_other (old : Option Node) :
    (∃ base, old = some (.map base)) ∨ ∀ m, old ≠ some (.map m) := by
  by_cases h : ∃ base, old = some (.map base)
  · exact .inl h
  · exact .inr fun m hm => h ⟨m, hm⟩

theorem held?_of_other (h : ∀ m, old ≠ some (.map m)) (rest : List String) :
    (old.bind fun o => o.held? (key :: rest)) = none := by
  cases old with
  | none => rfl
  | some o =>
    cases o with
    | map m => exact absurd rfl (h m)
    | null | bool _ | number _ | string _ | seq _ | tag _ | document _ => rfl

theorem keys_deepMerge (hn : (Entries.keys changes).Nodup) :
    Entries.keys (deepMerge base changes) =
      Entries.keys base ++ (Entries.keys changes).filter fun k => k ∉ Entries.keys base := by
  induction changes generalizing base with
  | nil => simp [deepMerge, Entries.keys]
  | cons e changes ih =>
    obtain ⟨k, x⟩ := e
    obtain ⟨hk, hn⟩ := List.nodup_cons.mp hn
    rw [deepMerge, ih hn, Entries.keys_put]
    change _ = _ ++ List.filter _ (k :: Entries.keys changes)
    split
    · rename_i hmem
      rw [List.filter_cons_of_neg (by simpa using hmem)]
    · rename_i hmem
      rw [List.filter_cons_of_pos (by simpa using hmem), List.append_assoc, List.singleton_append]
      -- The key does not come again, so what is new to the map with it is new to the map without it.
      have hrest : (Entries.keys changes).filter (fun k' => k' ∉ Entries.keys base ++ [k]) =
          (Entries.keys changes).filter fun k' => k' ∉ Entries.keys base := by
        refine List.filter_congr fun k' hk' => ?_
        have hne : k' ≠ k := fun he => hk (he ▸ hk')
        simp [hne]
      rw [hrest]

theorem held?_merged (old : Option Node) (hn : n.Distinct) (hv : n.held? path = some v) :
    (mergeValue old n).held? path = some (mergeValue (old.bind fun o => o.held? path) v) := by
  induction path generalizing n old with
  | nil =>
    cases hv
    rw [held?]
    cases old <;> rfl
  | cons key rest ih =>
    cases n with
    | map changes =>
      obtain ⟨x, hx, hv⟩ := held?_map_eq_some.mp hv
      rcases map_or_other old with ⟨base, rfl⟩ | hother
      · have hfind : Entries.find? key (deepMerge base changes) =
            some (mergeValue (Entries.find? key base) x) := by
          rw [find?_deepMerge hn.nodup, hx]
        rw [mergeValue_map, held?, hfind, Option.bind_some, ih _ (hn.find? hx) hv]
        rfl
      · rw [mergeValue_onto_other hother, held?_of_other hother, mergeValue_none]
        exact held?_map_eq_some.mpr ⟨x, hx, hv⟩
    | null | bool _ | number _ | string _ | seq _ | tag _ | document _ => cases hv

theorem not_overlays (hm : (map m).Distinct) (hnone : (map m).held? path = none)
    (hmaps : ∀ front v, front <+: path → (map m).held? front = some v → ∃ m', v = .map m') :
    ¬Overlays m path := by
  induction path generalizing m with
  | nil => cases hnone
  | cons key rest ih =>
    rintro ⟨x, hx, hover⟩
    have hfind := (Entries.find?_eq_some_iff_mem hm.nodup).mpr hx
    have hheld (front : List String) : (map m).held? (key :: front) = x.held? front := by
      rw [held?, hfind, Option.bind_some]
    have hfront {front : List String} (hp : front <+: rest) : key :: front <+: key :: rest :=
      List.cons_prefix_cons.mpr ⟨rfl, hp⟩
    obtain ⟨inner, rfl⟩ := hmaps [key] x (hfront (List.nil_prefix ..)) (hheld [])
    exact ih (hm.find? hfind) (hheld rest ▸ hnone)
      (fun front v hp hv => hmaps _ v (hfront hp) (hheld front ▸ hv)) (hover inner rfl)

theorem deepMerge_eq_self
    (h : ∀ e ∈ changes, ∃ y, Entries.find? e.1 base = some y ∧ mergeValue (some y) e.2 = y) :
    deepMerge base changes = base := by
  induction changes with
  | nil => rw [deepMerge]
  | cons e changes ih =>
    obtain ⟨⟨y, hy, hmerge⟩, hrest⟩ := List.forall_mem_cons.mp h
    rw [deepMerge, hy, hmerge, Entries.put_of_present hy, ih hrest]

theorem mergeValue_again (hn : n.Distinct) (old : Option Node) :
    mergeValue (some (mergeValue old n)) n = mergeValue old n := by
  induction hn generalizing old with
  | other h => rw [mergeValue_of_other h, mergeValue_of_other h]
  | @map changes hnodup hvalues ih =>
    have hfind {e : String × Node} (he : e ∈ changes) : Entries.find? e.1 changes = some e.2 :=
      (Entries.find?_eq_some_iff_mem hnodup).mpr he
    rcases map_or_other old with ⟨base, rfl⟩ | hother
    · rw [mergeValue_map, mergeValue_map]
      refine congrArg map (deepMerge_eq_self fun e he => ?_)
      refine ⟨mergeValue (Entries.find? e.1 base) e.2, ?_, ih e he _⟩
      rw [find?_deepMerge hnodup, hfind he]
    · rw [mergeValue_onto_other hother, mergeValue_map]
      refine congrArg map (deepMerge_eq_self fun e he => ⟨e.2, hfind he, ?_⟩)
      simpa only [mergeValue_none] using ih e he none

theorem deepMerge_self (ha : (map a).Distinct) : deepMerge a a = a := by
  have h := mergeValue_again ha none
  rw [mergeValue_none, mergeValue_map] at h
  exact map.inj h

theorem deepMerge_again (hb : (map b).Distinct) (a : Mapping) :
    deepMerge (deepMerge a b) b = deepMerge a b := by
  have h := mergeValue_again hb (some (.map a))
  rw [mergeValue_map, mergeValue_map] at h
  exact map.inj h

theorem deepMerge_of_new (hn : (Entries.keys changes).Nodup)
    (hnew : ∀ k ∈ Entries.keys changes, k ∉ Entries.keys base) :
    deepMerge base changes = base ++ changes := by
  induction changes generalizing base with
  | nil => rw [deepMerge, List.append_nil]
  | cons e changes ih =>
    obtain ⟨k, x⟩ := e
    obtain ⟨hk, hn⟩ := List.nodup_cons.mp hn
    obtain ⟨hkbase, hnew⟩ := List.forall_mem_cons.mp hnew
    have hnone : Entries.find? k base = none := Entries.find?_eq_none_iff.mpr hkbase
    rw [deepMerge, hnone, mergeValue_none, Entries.put_of_not_mem hkbase, ih hn,
      List.append_assoc, List.singleton_append]
    intro k' hk' hmem
    rw [Entries.keys, List.map_append, List.mem_append] at hmem
    rcases hmem with hmem | hmem
    · exact hnew k' hk' hmem
    · exact hk (List.mem_singleton.mp hmem ▸ hk')

end Merging

structure Merges (a b r : Mapping) : Prop where
  keys : ∀ path ma mb, (map a).held? path = some (.map ma) → (map b).held? path = some (.map mb) →
    ∃ mr, (map r).held? path = some (.map mr) ∧ Entries.keys mr =
      Entries.keys ma ++ (Entries.keys mb).filter fun k => k ∉ Entries.keys ma
  replaced : ∀ path v, (∀ m, v ≠ .map m) → (map b).held? path = some v →
    (map r).held? path = some v
  kept : ∀ path, (map b).held? path = none →
    (∀ front v, front <+: path → front ≠ path → (map b).held? front = some v → ∃ m, v = .map m) →
    (map r).held? path = (map a).held? path
  added : ∀ path m, (map b).held? path = some (.map m) →
    (∀ m', (map a).held? path ≠ some (.map m')) → (map r).held? path = some (.map m)

theorem merges_deepMerge {a b : Mapping} (hb : (map b).Distinct) : Merges a b (deepMerge a b) where
  keys path ma mb ha hmb := by
    have hr := held?_merged (some (.map a)) hb hmb
    rw [mergeValue_map, Option.bind_some, ha, mergeValue_map] at hr
    exact ⟨_, hr, keys_deepMerge (hb.held? hmb).nodup⟩
  replaced path v hv hheld := by
    have hr := held?_merged (some (.map a)) hb hheld
    rwa [mergeValue_map, mergeValue_of_other hv] at hr
  kept path hnone hmaps := by
    refine held?_deepMerge (not_overlays hb hnone fun front v hfront hv => ?_)
    refine hmaps front v hfront ?_ hv
    rintro rfl
    rw [hnone] at hv
    cases hv
  added path m hheld ha := by
    have hr := held?_merged (some (.map a)) hb hheld
    rwa [mergeValue_map, Option.bind_some, mergeValue_onto_other ha] at hr

theorem deepMerge_law {a b : Mapping} (ha : (map a).Distinct) (hb : (map b).Distinct) :
    Merges a b (deepMerge a b) ∧ deepMerge a [] = a ∧ deepMerge [] b = b ∧ deepMerge a a = a ∧
      deepMerge (deepMerge a b) b = deepMerge a b := by
  refine ⟨merges_deepMerge hb, by rw [deepMerge], ?_, deepMerge_self ha, deepMerge_again hb a⟩
  rw [deepMerge_of_new hb.nodup fun _ _ => List.not_mem_nil, List.nil_append]

-- A map goes together with a map, and takes the place of a text.
theorem deepMerge_law_settings :
    ∃ a b : Mapping, (map a).Distinct ∧ (map b).Distinct ∧
      a = [("tags", .map [("app", .string "web"), ("tier", .null)]), ("size", .string "small")] ∧
      b = [("size", .map [("cpu", .null)]), ("tags", .map [("tier", .string "1"), ("team", .null)])] ∧
      deepMerge a b = [("tags", .map [("app", .string "web"), ("tier", .string "1"), ("team", .null)]),
        ("size", .map [("cpu", .null)])] ∧
      Merges a b (deepMerge a b) ∧ deepMerge a [] = a ∧ deepMerge [] b = b ∧ deepMerge a a = a ∧
      deepMerge (deepMerge a b) b = deepMerge a b := by
  have leaf {n : Node} (h : n.isScalar = true) : n.Distinct :=
    .other (by rintro m rfl; cases h)
  have pair {k l : String} {x y : Node} (hk : k ≠ l) (hx : x.Distinct) (hy : y.Distinct) :
      (map [(k, x), (l, y)]).Distinct :=
    .map (by simp [Entries.keys, hk]) (by simp [hx, hy])
  have one {k : String} {x : Node} (hx : x.Distinct) : (map [(k, x)]).Distinct :=
    .map (by simp [Entries.keys]) (by simp [hx])
  have ha : (map [("tags", .map [("app", .string "web"), ("tier", .null)]),
      ("size", .string "small")]).Distinct :=
    pair (by decide) (pair (by decide) (leaf rfl) (leaf rfl)) (leaf rfl)
  have hb : (map [("size", .map [("cpu", .null)]),
      ("tags", .map [("tier", .string "1"), ("team", .null)])]).Distinct :=
    pair (by decide) (one (leaf rfl)) (pair (by decide) (leaf rfl) (leaf rfl))
  exact ⟨_, _, ha, hb, rfl, rfl, rfl, deepMerge_law ha hb⟩

end Node

end InfraTemplate
