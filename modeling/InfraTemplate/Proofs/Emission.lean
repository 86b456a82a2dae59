import InfraTemplate.Proofs.InstanceNames

namespace InfraTemplate

open Evaluator

structure Emission where
  naming : NameScope
  name : String
  key : String
  written? : Option Node
  node : Node

namespace Emission

def IsFlagged (e : Emission) : Prop :=
  (∃ n, e.written? = some n ∧ Sections.isGlobal n) ∨ Sections.isGlobal e.node

def IsExempt (e : Emission) : Prop := e.IsFlagged ∨ e.name ∈ e.naming.exempt

def Stays (e : Emission) : Prop := e.IsExempt ∨ isPseudo e.name

def KeepsName (e : Emission) : Prop :=
  (∃ n, e.written? = some n ∧ Sections.isGlobal n) ∨ isPseudo e.name ∨ e.name ∈ e.naming.exempt

theorem KeepsName.stays {e : Emission} (h : e.KeepsName) : e.Stays := by
  rcases h with h | h | h
  · exact .inl (.inl (.inl h))
  · exact .inr h
  · exact .inl (.inr h)

theorem keepsName_iff_isPseudo {e : Emission} (h : ¬e.IsExempt) : e.KeepsName ↔ isPseudo e.name := by
  constructor
  · rintro (h' | h' | h')
    · exact absurd (.inl (.inl h')) h
    · exact h'
    · exact absurd (.inr h') h
  · exact fun h' => .inr (.inl h')

def IsNamed (e : Emission) : Prop :=
  e.key = e.naming.lead ++ e.name ∨ e.key = e.name ∧ e.Stays

def IsUnmarked (e : Emission) : Prop := ¬e.node.Carries globalMarker

def IsPlain (e : Emission) : Prop :=
  ∃ m, e.written? = some (.map m) ∧
    ∀ key ∈ Entries.keys m, isMergeKey key = false ∧ Interpolation.hasPlaceholders key = false

end Emission

abbrev Instance.ReachesEntry (k : Nat) (i : Instance) (path : Path) (s : Sections) (name : String)
    (n : Node) (t : Sections) : Prop :=
  Reaches (fun e => (upTo k).resourceEntry path i.env e.1 e.2) i.resources s (name, n) t

/-- The run of the section of resources at `path` from the state `s` emits the resource, in the
instance or in one inside it. -/
inductive Emits : Nat → Instance → Path → Sections → Emission → Prop
  | entry {k : Nat} {i : Instance} {path : Path} {s t u : Sections} {name key : String}
      {n node : Node} :
      i.ReachesEntry k path s name n t →
      Contributes (upTo k) path i.env name n t (.entry key node) u →
      Emits (k + 1) i path s ⟨i.naming, name, key, some n, node⟩
  | merged {k : Nat} {i : Instance} {path : Path} {s t u : Sections} {block name : String}
      {n node : Node} {m : Mapping} :
      i.ReachesEntry k path s block n t →
      Contributes (upTo k) path i.env block n t (.merged m) u → (name, node) ∈ m →
      Emits (k + 1) i path s ⟨i.naming, name, name, none, node⟩
  | nested {k : Nat} {i j : Instance} {path : Path} {s t u v : Sections} {name template : String}
      {m : Mapping} {d : Document} {e : Emission} :
      i.ReachesEntry k path s name (.map m) t →
      isBookkeeping name = false → isMergeKey name = false →
      Returns ((upTo k).classify name m (path.child name) i.env) t (.template template d) u →
      Returns ((upTo k).instanceOf name m d (path.child name) i.env) u j v →
      Emits k j ((path.child name).child resourcesKey) v e → Emits (k + 1) i path s e

namespace Evaluator

variable {ev : Evaluator} {s t : Sections} {path : Path} {env : Env}

theorem returns_instantiate {name template : String} {m out : Mapping} {d : Document}
    (h : Returns (ev.instantiate name m template d path env) s out t) :
    ∃ i u v, Returns (ev.instanceOf name m d path env) s i u ∧
      Returns (ev.instanceResources template i.body path env i.env) u out v ∧
      Returns (Sections.hoisted.forM (ev.hoist i.body path env i.env i.naming)) v () t := by
  simp only [instantiate, returns_bind, returns_pure] at h
  obtain ⟨i, u, hi, resources, v, hr, _, _, hh, rfl, rfl⟩ := h
  exact ⟨i, u, v, hi, hr, hh⟩

theorem returns_instanceResources {k : Nat} {template : String} {i : Instance} {out : Mapping}
    {outer : Env}
    (h : Returns ((upTo k).instanceResources template i.body path outer i.env) s out t) :
    out = [] ∧ i.resources = [] ∨
      ∃ l, k = l + 1 ∧
        Returns ((upTo l).resourceSection i.resources (path.child resourcesKey) i.env) s out t := by
  unfold instanceResources at h
  split at h
  · rename_i hf
    obtain ⟨rfl, -⟩ := returns_pure.mp h
    exact .inl ⟨rfl, by rw [Instance.resources, hf]⟩
  · rename_i resources hf
    have hi : i.resources = resources := by rw [Instance.resources, hf]
    cases k with
    | zero => exact absurd h Eval.returns_unfinished
    | succ l => exact .inr ⟨l, rfl, hi ▸ h⟩
  · exact absurd h Eval.returns_malformed

theorem entry_of_mapEntry {key : String} {n : Node} {c : Contribution}
    (hb : isBookkeeping key = false) (hg : isMergeKey key = false)
    (hp : Interpolation.hasPlaceholders key = false)
    (h : Returns (ev.mapEntry path env key n) s c t) : ∃ v, c = .entry key v := by
  simp only [mapEntry, hb, hg, interpolated, hp, Bool.false_eq_true, ↓reduceIte, returns_bind,
    returns_pure] at h
  obtain ⟨v, _, -, _, _, ⟨rfl, rfl⟩, rfl, -⟩ := h
  exact ⟨v, rfl⟩

theorem given_mapEntry {key field : String} {n x : Node} {c : Contribution}
    (h : Returns (ev.mapEntry path env key n) s c t) (hm : isMergeKey key = false)
    (hp : Interpolation.hasPlaceholders key = false) (hx : (field, x) ∈ c.given) :
    field = key ∧ Returns (ev.mapValue key n path env) s x t := by
  simp only [mapEntry, hm, interpolated, hp, Bool.false_eq_true, ↓reduceIte] at h
  split at h
  · obtain ⟨rfl, -⟩ := returns_pure.mp h
    cases hx
  · simp only [returns_bind, returns_pure] at h
    obtain ⟨value, _, hv, _, _, ⟨rfl, rfl⟩, rfl, rfl⟩ := h
    cases List.mem_singleton.mp hx
    exact ⟨rfl, hv⟩

theorem literal_unmarked {name emitted : String} {m : Mapping} {resource : Node}
    (h : Returns (ev.literal name m path env) s (emitted, resource) t)
    (hm : ∀ key ∈ Entries.keys m,
      isMergeKey key = false ∧ Interpolation.hasPlaceholders key = false) :
    ¬resource.Carries globalMarker := by
  obtain ⟨body, hb, -, rfl⟩ := literal_spec h
  rintro ⟨_, he, hc⟩
  cases he
  rw [Resource.keys_qualifyNamed] at hc
  obtain ⟨cs, hcs, rfl⟩ := returns_map.mp hb
  obtain ⟨c, hmem, hg⟩ := Contribution.mem_keys_assemble.mp hc
  obtain ⟨⟨key, n⟩, u, v, hreach, hr⟩ := (mem_iff_reaches hcs c).mp hmem
  have hkey : key ∈ Entries.keys (Sections.takeGlobal m).1 :=
    List.mem_map_of_mem hreach.mem
  obtain ⟨hkm, hne⟩ := Entries.mem_keys_remove.mp hkey
  obtain ⟨hm', hp⟩ := hm key hkm
  obtain ⟨⟨_, x⟩, hx, rfl⟩ := List.mem_map.mp hg
  exact hne (given_mapEntry hr hm' hp hx).1.symm

end Evaluator

namespace Emits

variable {k : Nat} {i : Instance} {path : Path} {s t : Sections} {e : Emission}

theorem sound_of_inherited {P : Node → Prop} (hP : Node.Inherited P) {template key : String}
    {out : Mapping} {node : Node} {outer : Env}
    (h : Returns ((upTo k).instanceResources template i.body path outer i.env) s out t)
    (hk : (key, node) ∈ out) :
    ∃ e, Emits k i (path.child resourcesKey) s e ∧ e.key = key ∧ (P node → P e.node) := by
  -- An instance inside this one runs its resources one level down.
  induction k generalizing template i path outer s out t key node with
  | zero =>
    rcases returns_instanceResources h with ⟨rfl, -⟩ | ⟨l, hl, -⟩
    · cases hk
    · cases hl
  | succ k ih =>
    rcases returns_instanceResources h with ⟨rfl, -⟩ | ⟨l, hl, hr⟩
    · cases hk
    · cases hl
      obtain ⟨cs, hcs, rfl⟩ := returns_resourceSection.mp hr
      obtain ⟨c, hc, node', hg, hf⟩ := Contribution.mem_assemble hP hk
      obtain ⟨⟨name, n⟩, u, v, hreach, hentry⟩ := (mem_iff_reaches hcs c).mp hc
      have hcon := returns_resourceEntry.mp hentry
      cases returns_resourceEntry.mp hentry with
      | bookkeeping => cases hg
      | merged => exact ⟨_, .merged hreach hcon hg, rfl, hf⟩
      | literal =>
        cases List.mem_singleton.mp hg
        exact ⟨_, .entry hreach hcon, rfl, hf⟩
      | evaluated =>
        cases List.mem_singleton.mp hg
        exact ⟨_, .entry hreach hcon, rfl, hf⟩
      | template hb hm hcl hi =>
        obtain ⟨j, w, x, hj, hres, -⟩ := returns_instantiate hi
        obtain ⟨e, he, hek, hef⟩ := ih hres hg
        exact ⟨e, .nested hreach hb hm hcl hj he, hek, hef ∘ hf⟩

theorem sound (field : String) {template key : String} {out : Mapping} {node : Node} {outer : Env}
    (h : Returns ((upTo k).instanceResources template i.body path outer i.env) s out t)
    (hk : (key, node) ∈ out) :
    ∃ e, Emits k i (path.child resourcesKey) s e ∧ e.key = key ∧
      (node.Carries field → e.node.Carries field) :=
  sound_of_inherited (Node.inherited_carries field) h hk

theorem complete {template : String} {out : Mapping} {outer : Env}
    (h : Returns ((upTo k).instanceResources template i.body path outer i.env) s out t)
    (he : Emits k i (path.child resourcesKey) s e) : e.key ∈ Entries.keys out := by
  induction k generalizing template i path outer s out t with
  | zero => cases he
  | succ k ih =>
    rcases returns_instanceResources h with ⟨-, hnil⟩ | ⟨l, hl, hr⟩
    · cases he with
      | entry hreach => cases hnil ▸ hreach.mem
      | merged hreach => cases hnil ▸ hreach.mem
      | nested hreach => cases hnil ▸ hreach.mem
    · cases hl
      obtain ⟨cs, hcs, rfl⟩ := returns_resourceSection.mp hr
      rw [Contribution.mem_keys_assemble]
      cases he with
      | entry hreach hc =>
        obtain ⟨c, v, hv, hmem⟩ := hreach.returns hcs
        obtain ⟨rfl, -⟩ := hv.unique (returns_resourceEntry.mpr hc)
        exact ⟨_, hmem, List.mem_singleton.mpr rfl⟩
      | merged hreach hc hn =>
        obtain ⟨c, v, hv, hmem⟩ := hreach.returns hcs
        obtain ⟨rfl, -⟩ := hv.unique (returns_resourceEntry.mpr hc)
        exact ⟨_, hmem, List.mem_map_of_mem hn⟩
      | nested hreach hb hm hcl hj he =>
        obtain ⟨c, v, hv, hmem⟩ := hreach.returns hcs
        cases returns_resourceEntry.mp hv with
        | bookkeeping hb' => rw [hb] at hb'; cases hb'
        | merged _ hm' => rw [hm] at hm'; cases hm'
        | literal _ _ hcl' => cases (hcl.unique hcl').1
        | evaluated _ _ hne => exact absurd rfl (hne _)
        | template _ _ hcl' hi =>
          obtain ⟨hkind, rfl⟩ := hcl.unique hcl'
          cases hkind
          obtain ⟨j', w, x, hj', hres, -⟩ := returns_instantiate hi
          obtain ⟨rfl, rfl⟩ := hj.unique hj'
          exact ⟨_, hmem, ih hres he⟩

theorem mem_keys_iff {template key : String} {out : Mapping} {outer : Env}
    (h : Returns ((upTo k).instanceResources template i.body path outer i.env) s out t) :
    key ∈ Entries.keys out ↔ ∃ e, Emits k i (path.child resourcesKey) s e ∧ e.key = key := by
  constructor
  · intro hk
    obtain ⟨⟨_, node⟩, hmem, rfl⟩ := List.mem_map.mp hk
    obtain ⟨e, he, hek, -⟩ := sound globalMarker h hmem
    exact ⟨e, he, hek⟩
  · rintro ⟨e, he, rfl⟩
    exact he.complete h

theorem lead_eq (hi : i.env.naming? = some i.naming) (h : Emits k i path s e) :
    ∃ owns, e.naming.lead = i.naming.lead ++ String.join owns := by
  induction h with
  | entry => exact ⟨[], by simp⟩
  | merged => exact ⟨[], by simp⟩
  | nested _ _ _ _ hj _ ih =>
    obtain ⟨own, _, -, hn, henv⟩ := instanceOf_spec hj
    obtain ⟨owns, ho⟩ := ih henv
    refine ⟨own :: owns, ?_⟩
    rw [ho, hn, Env.lead_of_naming hi, String.join_cons, String.append_assoc]

theorem key_of_merged (h : Emits k i path s e) (hw : e.written? = none) : e.key = e.name := by
  induction h with
  | entry => cases hw
  | merged => rfl
  | nested _ _ _ _ _ _ ih => exact ih hw

theorem key_of_written (hi : i.env.naming? = some i.naming) (h : Emits k i path s e) {n : Node}
    (hw : e.written? = some n) :
    e.KeepsName ∧ e.key = e.name ∨ ¬e.KeepsName ∧ e.key = e.naming.lead ++ e.name := by
  have qualified {naming : NameScope} {env : Env} (hn : env.naming? = some naming) (name : String)
      {n : Node} (hg : Sections.isGlobal n = false) (node : Node) :
      Emission.KeepsName ⟨naming, name, env.qualify name, some n, node⟩ ∧ env.qualify name = name ∨
        ¬Emission.KeepsName ⟨naming, name, env.qualify name, some n, node⟩ ∧
          env.qualify name = naming.lead ++ name := by
    rw [Env.qualify_of_naming hn]
    by_cases hx : isPseudo name = true ∨ name ∈ naming.exempt
    · exact .inl ⟨.inr hx, NameScope.qualify_of_exempt hx⟩
    · refine .inr ⟨?_, NameScope.qualify_of_not_exempt hx⟩
      rintro (⟨n', hn', hg'⟩ | hx')
      · cases hn'
        rw [hg] at hg'
        cases hg'
      · exact hx hx'
  induction h with
  | merged => cases hw
  | nested _ _ _ _ hj _ ih =>
    obtain ⟨_, _, -, -, henv⟩ := instanceOf_spec hj
    exact ih henv hw
  | @entry _ _ _ _ _ _ _ _ n _ _ hc =>
    cases hc with
    | evaluated _ _ hne =>
      have hg : Sections.isGlobal n = false := by
        cases n with
        | map m => exact absurd rfl (hne m)
        | _ => rfl
      exact qualified hi _ hg _
    | @literal m _ _ _ _ _ _ _ _ hl =>
      obtain ⟨_, -, rfl, -⟩ := literal_spec hl
      split
      · rename_i hg
        exact .inl ⟨.inl ⟨_, rfl, hg⟩, rfl⟩
      · rename_i hg
        have hg' : Sections.isGlobal (.map m) = false := Bool.eq_false_iff.mpr hg
        exact qualified hi _ hg' _

theorem isNamed_of_written (hi : i.env.naming? = some i.naming) (h : Emits k i path s e) {n : Node}
    (hw : e.written? = some n) : e.IsNamed := by
  rcases h.key_of_written hi hw with ⟨hk, he⟩ | ⟨-, he⟩
  · exact .inr ⟨he, hk.stays⟩
  · exact .inl he

theorem isUnmarked_of_isPlain (h : Emits k i path s e) (hp : e.IsPlain) : e.IsUnmarked := by
  induction h with
  | merged => obtain ⟨m, hw, -⟩ := hp; cases hw
  | nested _ _ _ _ _ _ ih => exact ih hp
  | entry _ hc =>
    obtain ⟨m, hw, hm⟩ := hp
    cases hw
    cases hc with
    | evaluated _ _ hne => exact absurd rfl (hne m)
    | literal _ _ _ hl => exact literal_unmarked hl hm

theorem isNamed_merged_iff (h : Emits k i path s e) (hw : e.written? = none) :
    e.IsNamed ↔ e.naming.lead = "" ∨ e.Stays := by
  have hlead : e.name = e.naming.lead ++ e.name ↔ e.naming.lead = "" := by
    rw [← String.toList_inj, String.toList_append]
    simp
  rw [Emission.IsNamed, h.key_of_merged hw, hlead]
  simp

end Emits

namespace Sections

def nodes (heading : String) (s : Sections) : List Node :=
  match Entries.find? heading s with
  | some (.map entries) => entries.map (·.2)
  | some (.seq items) => items
  | _ => []

theorem unmarked_not_carries (n : Node) : ¬(unmarked n).Carries globalMarker := by
  rintro ⟨m, hm, hc⟩
  cases n <;> cases hm
  exact (Entries.mem_keys_remove.mp hc).2 rfl

theorem mem_addEntries {naming : NameScope} {target entries : Mapping} {key : String} {x : Node}
    (h : (key, x) ∈ addEntries naming target entries) :
    (key, x) ∈ target ∨ ∃ e ∈ entries, x = unmarked e.2 := by
  induction entries generalizing target with
  | nil => exact .inl h
  | cons e entries ih =>
    have h' : (key, x) ∈ addEntries naming
        (Entries.put (emittedName naming e.1 e.2) (unmarked e.2) target) entries := h
    rcases ih h' with h | ⟨e', he', hx⟩
    · rcases Entries.mem_put h with h | ⟨-, hx⟩
      · exact .inl h
      · exact .inr ⟨e, List.mem_cons_self .., hx⟩
    · exact .inr ⟨e', List.mem_cons_of_mem _ he', hx⟩

theorem fold_unmarked {s t : Sections} {heading : String} {value x : Node} {naming : NameScope}
    (h : fold s heading value naming = .ok t) (hh : heading ≠ transformSection)
    (hx : x ∈ nodes heading t) (hn : x ∉ nodes heading s) : ¬x.Carries globalMarker := by
  unfold fold at h
  rw [if_neg hh] at h
  cases value with
  | null =>
    cases h
    exact absurd hx hn
  | map entries =>
    simp only at h
    split at h
    · rename_i target ht
      cases h
      rw [nodes, Entries.find?_put_self, List.mem_map] at hx
      obtain ⟨⟨key, y⟩, hy, rfl⟩ := hx
      rcases mem_addEntries hy with hy | ⟨e, -, rfl⟩
      · refine absurd ?_ hn
        cases hs : Entries.find? heading s with
        | none =>
          rw [hs] at ht
          cases ht
          cases hy
        | some old =>
          rw [hs] at ht
          rw [nodes, hs, show old = .map target from ht]
          exact List.mem_map_of_mem hy
      · exact unmarked_not_carries e.2
    · cases h
      exact absurd hx hn
  | _ => cases h

end Sections

namespace Instance

def Folds (i : Instance) (k : Nat) (path : Path) (outer : Env) (u : Sections) (heading : String)
    (value : Node) (s t : Sections) : Prop :=
  ∃ before after n v, Sections.hoisted = before ++ heading :: after ∧
    Returns (before.forM ((upTo k).hoist i.body path outer i.env i.naming)) u () v ∧
      Entries.find? heading i.body = some n ∧
        Returns ((upTo k).node n (path.child heading) i.env) v value s ∧
          Sections.fold s heading value i.naming = .ok t

def FoldsUnmarked (i : Instance) (k : Nat) (path : Path) (outer : Env) (u : Sections)
    (heading : String) : Prop :=
  ∀ value s t, i.Folds k path outer u heading value s t →
    ∀ x ∈ Sections.nodes heading t, x ∉ Sections.nodes heading s → ¬x.Carries globalMarker

def EmitsLawfully (i : Instance) (k : Nat) (path : Path) (outer : Env) (s u : Sections) : Prop :=
  (∀ e, Emits k i (path.child resourcesKey) s e → e.IsNamed ∧ e.IsUnmarked) ∧
    ∀ heading, i.FoldsUnmarked k path outer u heading

structure EmitsPlainly (i : Instance) (k : Nat) (path : Path) (outer : Env) (s u : Sections) :
    Prop where
  named (e : Emission) : Emits k i (path.child resourcesKey) s e → e.written? = none →
    e.naming.lead = "" ∨ e.Stays
  unmarked (e : Emission) : Emits k i (path.child resourcesKey) s e → ¬e.IsPlain → e.IsUnmarked
  transforms : i.FoldsUnmarked k path outer u Sections.transformSection

theorem emitsLawfully_iff {i : Instance} (hi : i.env.naming? = some i.naming) {k : Nat}
    {path : Path} {outer : Env} {s u : Sections} :
    i.EmitsLawfully k path outer s u ↔ i.EmitsPlainly k path outer s u := by
  constructor
  · rintro ⟨he, hf⟩
    constructor
    · intro e h hw
      exact (h.isNamed_merged_iff hw).mp (he e h).1
    · intro e h _
      exact (he e h).2
    · exact hf _
  · intro h
    refine ⟨fun e he => ⟨?_, ?_⟩, ?_⟩
    · cases hw : e.written? with
      | none => exact (he.isNamed_merged_iff hw).mpr (h.named e he hw)
      | some n => exact he.isNamed_of_written hi hw
    · by_cases hp : e.IsPlain
      · exact he.isUnmarked_of_isPlain hp
      · exact h.unmarked e he hp
    · intro heading value s t hf x hx hn
      by_cases hh : heading = Sections.transformSection
      · subst hh
        exact h.transforms value s t hf x hx hn
      · obtain ⟨_, _, _, _, -, -, -, -, hf⟩ := hf
        exact Sections.fold_unmarked hf hh hx hn

theorem folds_of_hoisted {k : Nat} {i : Instance} {path : Path} {outer : Env} {heading : String}
    {u t : Sections}
    (h : Returns (Sections.hoisted.forM ((upTo k).hoist i.body path outer i.env i.naming)) u () t)
    (hh : heading ∈ Sections.hoisted) (hb : heading ∈ Entries.keys i.body) :
    ∃ value v w, i.Folds k path outer u heading value v w := by
  obtain ⟨before, after, he⟩ := List.append_of_mem hh
  rw [he, List.forM_eq_forM, List.forM_append, List.forM_cons] at h
  simp only [returns_bind] at h
  obtain ⟨_, v, hv, _, w, hw, -⟩ := h
  unfold hoist at hw
  split at hw
  · rename_i hf
    exact absurd hb (Entries.find?_eq_none_iff.mp hf)
  · rename_i n hf
    simp only [returns_bind, returns_get] at hw
    obtain ⟨value, x, hx, _, _, ⟨rfl, rfl⟩, hw⟩ := hw
    split at hw
    · rename_i y hy
      exact ⟨value, _, y, before, after, n, v, he, hv, hf, hx, hy⟩
    · exact absurd hw Eval.returns_malformed

end Instance

/-- The resources of an instance are those it and the instances inside it emit, all under the lead of
the instance; they obey the rules for names and markers exactly if blocks bring no names that have to
change and the marker is only in entries that are written out. -/
theorem emission_law_iff {k : Nat} {name template : String} {m out : Mapping} {d : Document}
    {path : Path} {env : Env} {s t : Sections}
    (h : Returns ((upTo k).instantiate name m template d path env) s out t) :
    ∃ i own u v w, Returns ((upTo k).instanceOf name m d path env) s i u ∧
      Returns ((upTo k).ownLead name m path env) s own w ∧ i.naming.lead = env.lead ++ own ∧
      (∀ key, key ∈ Entries.keys out ↔
        ∃ e, Emits k i (path.child resourcesKey) u e ∧ e.key = key) ∧
      (∀ key node, (key, node) ∈ out → node.Carries globalMarker →
        ∃ e, Emits k i (path.child resourcesKey) u e ∧ e.key = key ∧ ¬e.IsUnmarked) ∧
      (∀ e, Emits k i (path.child resourcesKey) u e →
        ∃ owns, e.naming.lead = i.naming.lead ++ String.join owns) ∧
      Returns (Sections.hoisted.forM ((upTo k).hoist i.body path env i.env i.naming)) v () t ∧
      (∀ heading ∈ Sections.hoisted, heading ∈ Entries.keys i.body →
        ∃ value x y, i.Folds k path env v heading value x y) ∧
      (i.EmitsLawfully k path env u v ↔ i.EmitsPlainly k path env u v) := by
  obtain ⟨i, u, v, hi, hr, hv⟩ := returns_instantiate h
  obtain ⟨own, w, ho, hn, henv⟩ := instanceOf_spec hi
  refine ⟨i, own, u, v, w, hi, ho, by rw [hn], fun key => Emits.mem_keys_iff hr, ?_,
    fun e he => he.lead_eq henv, hv, fun heading => Instance.folds_of_hoisted hv,
    Instance.emitsLawfully_iff henv⟩
  intro key node hmem hc
  obtain ⟨e, he, hek, hf⟩ := Emits.sound globalMarker hr hmem
  exact ⟨e, he, hek, fun hu => hu (hf hc)⟩

section Example

def typeT : Mapping := [("Type", .string "t")]

def bucketDocument : Document :=
  ⟨"t.yaml", [("Resources", .map [("Bucket", .map bucketMap)])], [], .empty⟩

theorem emission_law_iff_bucket :
    Returns ((upTo 3).instantiate "Logs" typeT "t" bucketDocument "Root.Resources.Logs" siteEnv) []
        [("LogsBucket", .map bucketMap)] [] ∧
      ∃ i u v, Returns ((upTo 3).instanceOf "Logs" typeT bucketDocument "Root.Resources.Logs"
          siteEnv) [] i u ∧
        (∃ e, Emits 3 i "Root.Resources.Logs.Resources" u e ∧ e.key = "LogsBucket") ∧
        (i.EmitsLawfully 3 "Root.Resources.Logs" siteEnv u v ↔
          i.EmitsPlainly 3 "Root.Resources.Logs" siteEnv u v) := by
  have h : Returns ((upTo 3).instantiate "Logs" typeT "t" bucketDocument "Root.Resources.Logs"
      siteEnv) [] [("LogsBucket", .map bucketMap)] [] := rfl
  obtain ⟨i, _, u, v, _, hi, -, -, hkeys, -, -, -, -, hlaw⟩ := emission_law_iff h
  exact ⟨h, i, u, v, hi, (hkeys "LogsBucket").mp (List.mem_singleton.mpr rfl), hlaw⟩

def markedMap : Mapping := bucketMap ++ [("$global", .bool true)]

def extraBlock : Node := .map [("Extra", .map bucketMap)]

def sharedTag : Node := .tag (.apply .merge (.seq [.map markedMap]))

def extraDocument : Document :=
  ⟨"t.yaml", [("Resources", .map [("$mergeExtra", extraBlock), ("Shared", sharedTag)])], [], .empty⟩

def extraInstance : Instance where
  body := extraDocument.body
  naming := ⟨"Logs", []⟩
  env := ⟨.frame 0 [("Prefix", .value (.string "Logs"))] .empty,
    [⟨"root.yaml", "Root"⟩, ⟨"t.yaml", "Root.Resources.Logs"⟩], some ⟨"Logs", []⟩, "t.yaml", 1, 50⟩

theorem emits_unlawfully_extra :
    Returns ((upTo 5).instanceOf "Logs" typeT extraDocument "Root.Resources.Logs" siteEnv) []
        extraInstance [] ∧
      Returns ((upTo 5).instantiate "Logs" typeT "t" extraDocument "Root.Resources.Logs" siteEnv) []
        [("Extra", .map bucketMap), ("LogsShared", .map markedMap)] [] ∧
      (∃ e, Emits 5 extraInstance "Root.Resources.Logs.Resources" [] e ∧ e.key = "Extra" ∧
        ¬e.IsNamed) ∧
      (∃ e, Emits 5 extraInstance "Root.Resources.Logs.Resources" [] e ∧ e.key = "LogsShared" ∧
        ¬e.IsUnmarked) ∧
      ¬extraInstance.EmitsLawfully 5 "Root.Resources.Logs" siteEnv [] [] := by
  have rx : extraInstance.ReachesEntry 4 "Root.Resources.Logs.Resources" [] "$mergeExtra"
      extraBlock [] := ⟨[], [("Shared", sharedTag)], [], rfl, rfl⟩
  have rs : extraInstance.ReachesEntry 4 "Root.Resources.Logs.Resources" [] "Shared" sharedTag [] :=
    ⟨[("$mergeExtra", extraBlock)], [], [.merged [("Extra", .map bucketMap)]], rfl, rfl⟩
  have hx : Contributes (upTo 4) "Root.Resources.Logs.Resources" extraInstance.env "$mergeExtra"
      extraBlock [] (.merged [("Extra", .map bucketMap)]) [] :=
    .merged (by decide) (by decide) rfl
  have hs : Contributes (upTo 4) "Root.Resources.Logs.Resources" extraInstance.env "Shared"
      sharedTag [] (.entry "LogsShared" (.map markedMap)) [] :=
    .evaluated (by decide) (by decide) (fun m he => by cases he) rfl
  have extra := Emits.merged rx hx (List.mem_singleton.mpr rfl)
  have shared := Emits.entry rs hs
  have hn : ¬Emission.IsNamed ⟨extraInstance.naming, "Extra", "Extra", none, .map bucketMap⟩ := by
    rintro (h | ⟨-, ((⟨n, hn, -⟩ | h) | h) | h⟩)
    · revert h
      decide
    · cases hn
    · revert h
      decide
    · cases h
    · revert h
      decide
  refine ⟨rfl, rfl, ⟨_, extra, rfl, hn⟩, ⟨_, shared, rfl, ?_⟩, ?_⟩
  · intro hu
    exact hu ⟨markedMap, rfl, by decide⟩
  · intro hl
    exact hn (hl.1 _ extra).1

end Example

end InfraTemplate
