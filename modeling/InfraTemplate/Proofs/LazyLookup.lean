import InfraTemplate.Proofs.Emission
import InfraTemplate.Proofs.Reading

/-!
A lookup path into an import is followed before the import is evaluated. It leads to the value that
is under the path in the value of the whole import, as far as the path is spelled out there.
-/

namespace InfraTemplate

namespace Evaluator

def MapAdds (path : Path) (env : Env) (name : String) (n : Node) (c : Contribution) : Prop :=
  ∃ k s t, Returns ((upTo k).mapEntry path env name n) s c t

def SectionAdds (path : Path) (env : Env) (name : String) (n : Node) (c : Contribution) : Prop :=
  ∃ k s t, Returns ((upTo k).resourceEntry path env name n) s c t

def Untouched (env : Env) (m : Mapping) : List String → Prop
  | [] => Sections.unmarked (.map m) = .map m ∧ env.naming? = none
  | key :: _ => key ≠ globalMarker ∧ (key ∈ Resource.nameKeys → env.naming? = none)

structure Ordinary (path : Path) (env : Env) (name : String) (n : Node) : Prop where
  fixed : Interpolation.hasPlaceholders name = false
  undated : name ≠ formatVersionKey
  unnested : name = resourcesKey → ∀ r, n ≠ .map r
  unmarked : Sections.unmarked n = n
  single : ∀ out, ¬SectionAdds path env name n (.entries out)

/-- The path leads through the node as it is written, up to a construct if there is one. Each key is
that of an entry which comes out under it and is not changed by later ones. In a section of resources
the path goes on to a resource that stands for itself, or it ends there if all of them do. It does
not lead from outside into overrides. -/
inductive SpelledOut : Path → Env → Node → List String → Prop
  | here {path : Path} {env : Env} {n : Node} : SpelledOut path env n []
  | construct {path : Path} {env : Env} {t : Tag Node} {key : String} {rest : List String} :
      SpelledOut path env (.tag t) (key :: rest)
  | document {path : Path} {env inner : Env} {d : Document} {key : String} {rest : List String}
      (enters : env.enterDocument d path = .ok inner)
      (body : SpelledOut path inner (.map d.body) (key :: rest)) :
      SpelledOut path env (.document d) (key :: rest)
  | item {path : Path} {env : Env} {items : List Node} {key : String} {i : Nat} {n : Node}
      {rest : List String} (index : Text.index? key.toList = some i) (item : items[i]? = some n)
      (more : SpelledOut (path.item i) env n rest) : SpelledOut path env (.seq items) (key :: rest)
  | entry {path : Path} {env : Env} {m : Mapping} {key : String} {n : Node} {rest : List String}
      (stands : Stands (MapAdds path env) m key rest n)
      (ordinary : key = resourcesKey → path.hasSegment overridesKey = false → ∀ r, n ≠ .map r)
      (level : path.hasSegment overridesKey = true ∨ Path.hasSegment key overridesKey = false)
      (more : SpelledOut (path.child key) env n rest) : SpelledOut path env (.map m) (key :: rest)
  | resource {path : Path} {env : Env} {m resources : Mapping} {name : String} {n : Node}
      {rest : List String}
      (stands : Stands (MapAdds path env) m resourcesKey (name :: rest) (.map resources))
      (outside : path.hasSegment overridesKey = false)
      (kept : Stands (SectionAdds (path.child resourcesKey) env) resources name rest n)
      (untouched : ∀ r, n = .map r → Untouched env r rest)
      (level : Path.hasSegment name overridesKey = false)
      (more : SpelledOut ((path.child resourcesKey).child name) env (Sections.unmarked n) rest) :
      SpelledOut path env (.map m) (resourcesKey :: name :: rest)
  | resources {path : Path} {env : Env} {m resources : Mapping}
      (stands : Stands (MapAdds path env) m resourcesKey [] (.map resources))
      (outside : path.hasSegment overridesKey = false) (unnamed : env.naming? = none)
      (ordinary : ∀ e ∈ resources, Ordinary (path.child resourcesKey) env e.1 e.2) :
      SpelledOut path env (.map m) [resourcesKey]

def Agrees (keys : List String) (found w : Node) : Prop :=
  found = w ∨ keys.getLast? = some formatVersionKey ∧ calendarDate found = w

theorem Agrees.cons {rest : List String} {found w : Node} (h : Agrees rest found w) (key : String) :
    Agrees (key :: rest) found w := by
  refine h.imp_right fun ⟨hlast, hw⟩ => ⟨?_, hw⟩
  cases rest with
  | nil => cases hlast
  | cons key' rest => rwa [List.getLast?_cons_cons]

def Coincides (place : Path) (inside : Env) (n : Node) (keys : List String) : Prop :=
  ∀ {k l : Nat} {s t : Sections} {v w : Node} {env outer : Env} {path : Path} {expr : String},
    Returns ((upTo k).node n place inside) s v t → v.follow? keys = some w → k ≤ l →
    env.Trails inside → place.hasSegment overridesKey = path.hasSegment overridesKey →
    ∀ s', ∃ found t', Returns ((upTo l).read expr path outer ⟨n, env, false⟩ keys) s' found t' ∧
      Agrees keys found w

section Coincidence

variable {ev : Evaluator} {k l : Nat} {expr key : String} {place path : Path}
  {outer env inside : Env} {n v w : Node} {m : Mapping} {rest : List String} {s t : Sections}

theorem coincides_nil : Coincides place inside n [] := by
  intro k l s t v w env outer path expr hr hw hk h hp s'
  cases hw
  obtain ⟨t', hr'⟩ := read_here hk h hp hr s'
  exact ⟨v, t', hr', .inl rfl⟩

theorem coincides_construct {tag : Tag Node} : Coincides place inside (.tag tag) (key :: rest) := by
  intro k l s t v w env outer path expr hr hw hk h hp s'
  -- The construct is evaluated with fewer documents entered, and from then on there are values.
  obtain ⟨t', hr'⟩ := returns_of_eases hk h.eases hp hr s'
  rw [read_construct]
  exact ⟨w, t', returns_bind.mpr ⟨v, t', hr', returns_read_value hw⟩, .inl rfl⟩

theorem coincides_document {d : Document} {inner : Env}
    (enters : inside.enterDocument d place = .ok inner)
    (body : Coincides place inner (.map d.body) (key :: rest)) :
    Coincides place inside (.document d) (key :: rest) := by
  intro k l s t v w env outer path expr hr hw hk h hp s'
  cases k with
  | zero => exact absurd hr Eval.returns_unfinished
  | succ k =>
    obtain ⟨inner', u, hi, hr⟩ := returns_bind.mp hr
    obtain ⟨hi', rfl⟩ := Eval.returns_ofExcept.mp hi
    cases enters.symm.trans hi'
    obtain ⟨out, u', hm, hr'⟩ := returns_bind.mp hr
    obtain ⟨rfl, rfl⟩ := returns_pure.mp hr'
    obtain ⟨env', he, ht⟩ := h.enterDocument enters path
    obtain ⟨found, t', hf, ha⟩ := body (returns_map_iff.mpr hm) hw hk ht hp s'
    rw [read_document]
    exact ⟨found, t', returns_bind.mpr ⟨env', s', Eval.returns_ofExcept.mpr ⟨he, rfl⟩, hf⟩, ha⟩

theorem returns_item {items outs : List Node} {i : Nat} {x : Node}
    (h : Returns (ev.items items path env) s outs t) (hi : items[i]? = some n)
    (hx : outs[i]? = some x) : ∃ u u', Returns (ev.node n (path.item i) env) u x u' := by
  obtain ⟨⟨n', j⟩, u, u', hn, hr⟩ := returns_mapM_getElem h hx
  rw [List.getElem?_zipIdx, hi] at hn
  cases hn
  rw [Nat.zero_add] at hr
  exact ⟨u, u', hr⟩

theorem coincides_item {items : List Node} {i : Nat} (index : Text.index? key.toList = some i)
    (item : items[i]? = some n) (more : Coincides (place.item i) inside n rest) :
    Coincides place inside (.seq items) (key :: rest) := by
  intro k l s t v w env outer path expr hr hw hk h hp s'
  cases k with
  | zero => exact absurd hr Eval.returns_unfinished
  | succ k =>
    obtain ⟨outs, u, ho, hr⟩ := returns_bind.mp hr
    obtain ⟨rfl, rfl⟩ := returns_pure.mp hr
    obtain ⟨x, hx, hf⟩ := Node.follow?_cons_eq_some.mp hw
    have hx' : outs[i]? = some x := by simpa [Node.child?, index] using hx
    have hn : (Node.seq items).child? key = some n := by simpa [Node.child?, index] using item
    obtain ⟨_, _, hi⟩ := returns_item ho item hx'
    rw [← Path.hasSegment_item place i] at hp
    obtain ⟨found, t', hf, ha⟩ := more hi hf (Nat.le_of_succ_le hk) h hp s'
    rw [read_of_child? hn]
    exact ⟨found, t', hf, ha.cons key⟩

theorem returns_stands (stands : Stands (MapAdds place inside) m key rest n)
    (hr : Returns ((upTo k).node (.map m) place inside) s v t)
    (hw : v.follow? (key :: rest) = some w) :
    ∃ j x u u', k = j + 1 ∧ Returns ((upTo j).mapValue key n place inside) u x u' ∧
      x.follow? rest = some w := by
  cases k with
  | zero => exact absurd hr Eval.returns_unfinished
  | succ k =>
    obtain ⟨out, _, hm, hr⟩ := returns_bind.mp hr
    obtain ⟨rfl, rfl⟩ := returns_pure.mp hr
    obtain ⟨cs, hcs, rfl⟩ := returns_map.mp hm
    obtain ⟨x, _, _, hx, hf⟩ := stands.returns (fun e s c t he => ⟨k, s, t, he⟩) hcs hw
    have hentry : Returns ((upTo k).mapEntry place inside key n) _ (.entry key x) _ := hx
    unfold mapEntry at hentry
    split at hentry
    · cases (returns_pure.mp hentry).1
    · split at hentry
      · obtain ⟨_, _, -, hc⟩ := returns_bind.mp hentry
        cases (returns_pure.mp hc).1
      · obtain ⟨value, u, hv, hc⟩ := returns_bind.mp hentry
        obtain ⟨_, _, -, hc⟩ := returns_bind.mp hc
        cases (returns_pure.mp hc).1
        exact ⟨k, x, _, u, rfl, hv, hf⟩

theorem returns_mapValue
    (ho : key = resourcesKey → place.hasSegment overridesKey = false → ∀ r, n ≠ .map r)
    (h : Returns (ev.mapValue key n place inside) s v t) :
    ∃ x, Returns (ev.node n (place.child key) inside) s x t ∧
      (v = x ∨ key = formatVersionKey ∧ v = calendarDate x) := by
  unfold mapValue at h
  split at h
  · rename_i hc
    obtain ⟨hk, hl⟩ : key = resourcesKey ∧ place.hasSegment overridesKey = false := by
      simpa using hc
    split at h
    · exact absurd rfl (ho hk hl _)
    · exact ⟨v, h, .inl rfl⟩
  · split at h
    · rename_i hk
      obtain ⟨x, u, hx, h⟩ := returns_bind.mp h
      obtain ⟨rfl, rfl⟩ := returns_pure.mp h
      exact ⟨x, hx, .inr ⟨hk, rfl⟩⟩
    · exact ⟨v, h, .inl rfl⟩

theorem calendarDate_cases (v : Node) :
    calendarDate v = v ∨ ∃ s, calendarDate v = .string s := by
  cases v with
  | string s =>
    refine .inr ?_
    simp only [calendarDate]
    split
    · split
      · exact ⟨_, rfl⟩
      · exact ⟨s, rfl⟩
    · exact ⟨s, rfl⟩
  | null | bool _ | number _ | seq _ | map _ | tag _ | document _ => exact .inl rfl

theorem coincides_entry (stands : Stands (MapAdds place inside) m key rest n)
    (ordinary : key = resourcesKey → place.hasSegment overridesKey = false → ∀ r, n ≠ .map r)
    (level : place.hasSegment overridesKey = true ∨ Path.hasSegment key overridesKey = false)
    (more : Coincides (place.child key) inside n rest) :
    Coincides place inside (.map m) (key :: rest) := by
  intro k l s t v w env outer path expr hr hw hk h hp s'
  obtain ⟨j, x, _, _, rfl, hv, hf⟩ := returns_stands stands hr hw
  obtain ⟨y, hy, hxy⟩ := returns_mapValue ordinary hv
  have hj : j ≤ l := Nat.le_of_succ_le hk
  have hp' : (place.child key).hasSegment overridesKey = path.hasSegment overridesKey := by
    rw [Path.hasSegment_child, ← hp]
    rcases level with hl | hl
    · rw [hl, Bool.true_or]
    · rw [hl, Bool.or_false]
  rw [read_of_child? (n := .map m) stands.find?]
  have same (hf : y.follow? rest = some w) :
      ∃ found t', Returns ((upTo l).read expr path outer ⟨n, env, false⟩ rest) s' found t' ∧
        Agrees (key :: rest) found w := by
    obtain ⟨found, t', hr, ha⟩ := more hy hf hj h hp' s'
    exact ⟨found, t', hr, ha.cons key⟩
  rcases hxy with rfl | ⟨rfl, rfl⟩
  · exact same hf
  · cases rest with
    | nil =>
      cases hf
      obtain ⟨found, t', hr, ha⟩ := more hy rfl hj h hp' s'
      rcases ha with rfl | ⟨hlast, -⟩
      · exact ⟨found, t', hr, .inr ⟨rfl, rfl⟩⟩
      · cases hlast
    | cons key' rest =>
      -- Nothing is under a key of a date, so the path has led through something else.
      rcases calendarDate_cases y with hc | ⟨d, hc⟩
      · exact same (hc ▸ hf)
      · rw [hc] at hf
        cases hf

section Resources

variable {resources : Mapping} {name : String}

theorem hasSegment_resources (place : Path) :
    (place.child resourcesKey).hasSegment overridesKey = place.hasSegment overridesKey := by
  have hres : Path.hasSegment resourcesKey overridesKey = false := by decide +kernel
  rw [Path.hasSegment_child, hres, Bool.or_false]

theorem literal_of_unnamed {emitted : String} (unnamed : inside.naming? = none)
    (h : Returns (ev.literal name m place inside) s (emitted, v) t) :
    emitted = name ∧ ∃ body, v = .map body ∧
      Returns (ev.map (Sections.takeGlobal m).1 place inside) s body t := by
  obtain ⟨body, hbody, rfl, rfl⟩ := literal_spec h
  rw [Env.qualify, Resource.qualifyNamed, unnamed, ite_self]
  exact ⟨rfl, body, rfl, hbody⟩

theorem remove_of_unmarked (h : Sections.unmarked (.map m) = .map m) :
    Entries.remove globalMarker m = m := Node.map.inj h

theorem read_unmarked (h : ∀ r, n = .map r → Untouched inside r rest) :
    ev.read expr path outer ⟨Sections.unmarked n, env, false⟩ rest =
      ev.read expr path outer ⟨n, env, false⟩ rest := by
  cases n with
  | map r =>
    cases rest with
    | nil => rw [(h r rfl).1]
    | cons key rest =>
      have descend (m : Mapping) : Located.descend ev ⟨.map m, env, false⟩ key path =
          pure (Located.child? ⟨.map m, env, false⟩ key) := rfl
      have hc : (Node.map (Entries.remove globalMarker r)).child? key = (Node.map r).child? key :=
        Entries.find?_remove_of_ne (h r rfl).1 r
      rw [Sections.unmarked, Sections.takeGlobal, read_cons, read_cons, descend, descend,
        child?_located, child?_located, hc]
  | null | bool _ | number _ | string _ | seq _ | tag _ | document _ => rfl

theorem follow?_qualifyNamed {body : Mapping} (h : Untouched inside m rest) :
    (Node.map (Resource.qualifyNamed inside body)).follow? rest = (Node.map body).follow? rest := by
  cases hn : inside.naming? with
  | none => rw [Resource.qualifyNamed, hn]
  | some naming =>
    cases rest with
    | nil => exact absurd (hn.symm.trans h.2) (by simp)
    | cons key rest =>
      have hk : key ∉ Resource.nameKeys := fun hk => absurd (hn.symm.trans (h.2 hk)) (by simp)
      refine Node.follow?_congr ?_ rest
      rw [Node.child?, Node.child?, Resource.find?_qualifyNamed hn]
      simp [hk]

theorem returns_resources (outside : place.hasSegment overridesKey = false)
    (h : Returns ((upTo k).mapValue resourcesKey (.map resources) place inside) s v t) :
    ∃ j cs, k = j + 1 ∧ v = .map (Contribution.assemble cs) ∧
      Returns ((upTo j).resourceEntries resources (place.child resourcesKey) inside) s cs t := by
  simp only [mapValue, outside, Bool.not_false, decide_true, Bool.and_self, ↓reduceIte,
    returns_bind, returns_pure] at h
  obtain ⟨out, _, hr, rfl, rfl⟩ := h
  cases k with
  | zero => exact absurd hr Eval.returns_unfinished
  | succ j =>
    obtain ⟨cs, hcs, rfl⟩ := returns_resourceSection.mp hr
    exact ⟨j, cs, rfl, rfl, hcs⟩

theorem value_of_resourceEntry {emitted : String}
    (h : Returns (ev.resourceEntry place inside name n) s (.entry emitted v) t) :
    (∃ r body u u', n = .map r ∧ v = .map (Resource.qualifyNamed inside body) ∧
      Returns (ev.map (Sections.takeGlobal r).1 (place.child name) inside) u body u') ∨
    Sections.unmarked n = n ∧ ∃ u u', Returns (ev.node n (place.child name) inside) u v u' := by
  generalize hc : Contribution.entry emitted v = c at h
  cases returns_resourceEntry.mp h with
  | bookkeeping | merged | template => cases hc
  | literal hb hg hkind hl =>
    cases hc
    obtain ⟨body, hbody, -, rfl⟩ := literal_spec hl
    exact .inl ⟨_, body, _, _, rfl, rfl, hbody⟩
  | evaluated hb hg hn hv =>
    cases hc
    refine .inr ⟨?_, _, _, hv⟩
    cases n with
    | map r => exact absurd rfl (hn r)
    | null | bool _ | number _ | string _ | seq _ | tag _ | document _ => rfl

theorem coincides_resource
    (stands : Stands (MapAdds place inside) m resourcesKey (name :: rest) (.map resources))
    (outside : place.hasSegment overridesKey = false)
    (kept : Stands (SectionAdds (place.child resourcesKey) inside) resources name rest n)
    (untouched : ∀ r, n = .map r → Untouched inside r rest)
    (level : Path.hasSegment name overridesKey = false)
    (more : Coincides ((place.child resourcesKey).child name) inside (Sections.unmarked n) rest) :
    Coincides place inside (.map m) (resourcesKey :: name :: rest) := by
  intro k l s t v w env outer path expr hr hw hk h hp s'
  obtain ⟨_, x, _, _, rfl, hv, hf⟩ := returns_stands stands hr hw
  obtain ⟨j, cs, rfl, rfl, hcs⟩ := returns_resources outside hv
  obtain ⟨y, _, _, hy, hf⟩ := kept.returns (fun e s c t he => ⟨j, s, t, he⟩) hcs hf
  have hp' : ((place.child resourcesKey).child name).hasSegment overridesKey =
      path.hasSegment overridesKey := by
    rw [Path.hasSegment_child, hasSegment_resources, level, Bool.or_false, hp]
  rw [read_of_child? (n := .map m) stands.find?, read_of_child? (n := .map resources) kept.find?,
    ← read_unmarked untouched]
  have same {i : Nat} {z : Node} {u u' : Sections} (hi : i ≤ j + 1)
      (hz : Returns ((upTo i).node (Sections.unmarked n) ((place.child resourcesKey).child name)
        inside) u z u') (hf : z.follow? rest = some w) :
      ∃ found t', Returns ((upTo l).read expr path outer ⟨Sections.unmarked n, env, false⟩ rest) s'
        found t' ∧ Agrees (resourcesKey :: name :: rest) found w := by
    have hl : i ≤ l := by omega
    obtain ⟨found, t', hr, ha⟩ := more hz hf hl h hp' s'
    exact ⟨found, t', hr, (ha.cons name).cons resourcesKey⟩
  rcases value_of_resourceEntry hy with ⟨r, body, _, _, rfl, rfl, hbody⟩ | ⟨hu, _, _, hv⟩
  · rw [follow?_qualifyNamed (untouched _ rfl)] at hf
    exact same (Nat.le_refl _) (returns_map_iff.mpr hbody) hf
  · exact same (Nat.le_succ j) (hu.symm ▸ hv) hf

theorem mapValue_of_ordinary (ho : Ordinary place inside name n) :
    ev.mapValue name n path env = ev.node n (path.child name) env := by
  unfold mapValue
  split
  · rename_i hc
    have hk : name = resourcesKey := by
      rw [Bool.and_eq_true, decide_eq_true_eq] at hc
      exact hc.1
    split
    · exact absurd rfl (ho.unnested hk _)
    · rfl
  · rw [if_neg ho.undated]

theorem returns_mapEntry_of_ordinary (ho : Ordinary place inside name n)
    (unnamed : inside.naming? = none) (he : env.Eases inside)
    (hp : place.hasSegment overridesKey = path.hasSegment overridesKey) (hk : k + 1 ≤ l)
    {c : Contribution} (hr : Returns ((upTo k).resourceEntry place inside name n) s c t)
    (s' : Sections) : ∃ t', Returns ((upTo l).mapEntry path env name n) s' c t' := by
  have hp' : (place.child name).hasSegment overridesKey =
      (path.child name).hasSegment overridesKey := by
    rw [Path.hasSegment_child, Path.hasSegment_child, hp]
  have single {i : Nat} {x : Node} {u u' : Sections} (hi : i ≤ k + 1)
      (hb : isBookkeeping name = false) (hg : isMergeKey name = false)
      (hx : Returns ((upTo i).node n (place.child name) inside) u x u') :
      ∃ t', Returns ((upTo l).mapEntry path env name n) s' (.entry name x) t' := by
    obtain ⟨t', hx'⟩ := returns_of_eases (Nat.le_trans hi hk) he hp' hx s'
    simp only [mapEntry, hb, hg, mapValue_of_ordinary ho, interpolated, ho.fixed,
      Bool.false_eq_true, ↓reduceIte, pure_bind]
    exact ⟨t', returns_bind.mpr ⟨x, t', hx', returns_pure.mpr ⟨rfl, rfl⟩⟩⟩
  cases returns_resourceEntry.mp hr with
  | bookkeeping hb =>
    rw [mapEntry, hb, if_pos rfl]
    exact ⟨s', returns_pure.mpr ⟨rfl, rfl⟩⟩
  | @merged _ merged _ _ hb hg hm =>
    obtain ⟨x, u, hx, hm⟩ := returns_bind.mp hm
    obtain ⟨t', hx'⟩ := returns_of_eases (Nat.le_of_succ_le hk) he hp' hx s'
    have hmerge : Returns ((upTo l).mergeBlock name n (path.child name) env) s' merged t' := by
      refine returns_bind.mpr ⟨x, t', hx', ?_⟩
      cases x with
      | null | map _ =>
        obtain ⟨rfl, rfl⟩ := returns_pure.mp hm
        exact returns_pure.mpr ⟨rfl, rfl⟩
      | bool _ | number _ | string _ | seq _ | tag _ | document _ =>
        exact absurd hm Eval.returns_malformed
    simp only [mapEntry, hb, hg, Bool.false_eq_true, ↓reduceIte]
    exact ⟨t', returns_bind.mpr ⟨merged, t', hmerge, returns_pure.mpr ⟨rfl, rfl⟩⟩⟩
  | @literal r _ _ _ _ _ hb hg hkind hl =>
    obtain ⟨rfl, body, rfl, hbody⟩ := literal_of_unnamed unnamed hl
    have hremove : (Sections.takeGlobal r).1 = r := remove_of_unmarked ho.unmarked
    rw [hremove] at hbody
    exact single (Nat.le_refl _) hb hg (returns_map_iff.mpr hbody)
  | template hb hg hkind hi => exact absurd ⟨k, s, t, hr⟩ (ho.single _)
  | evaluated hb hg hn hv =>
    rw [Env.qualify, unnamed]
    exact single (Nat.le_succ k) hb hg hv

theorem coincides_resources (stands : Stands (MapAdds place inside) m resourcesKey [] (.map resources))
    (outside : place.hasSegment overridesKey = false) (unnamed : inside.naming? = none)
    (ordinary : ∀ e ∈ resources, Ordinary (place.child resourcesKey) inside e.1 e.2) :
    Coincides place inside (.map m) [resourcesKey] := by
  intro k l s t v w env outer path expr hr hw hk h hp s'
  obtain ⟨_, x, _, _, rfl, hv, hf⟩ := returns_stands stands hr hw
  obtain ⟨j, cs, rfl, rfl, hcs⟩ := returns_resources outside hv
  cases hf
  rw [← hasSegment_resources] at hp
  obtain ⟨l, rfl⟩ : ∃ i, l = i + 1 := ⟨l - 1, by omega⟩
  obtain ⟨inner, hi, he⟩ := h.enter env.location path
  have entries : ∀ e ∈ resources, ∀ s c t,
      Returns ((upTo j).resourceEntry (place.child resourcesKey) inside e.1 e.2) s c t →
      ∀ s', ∃ t', Returns ((upTo l).mapEntry path inner e.1 e.2) s' c t' := fun e he' s c t hr =>
    returns_mapEntry_of_ordinary (ordinary e he') unnamed he hp (by omega) hr
  obtain ⟨t', hr'⟩ := returns_mapM_from entries hcs s'
  have hmap : Returns ((upTo l).map resources path inner) s' (Contribution.assemble cs) t' :=
    returns_map.mpr ⟨cs, hr', rfl⟩
  rw [read_of_child? (n := .map m) stands.find?, read_nil]
  exact ⟨_, t', returns_bind.mpr ⟨inner, s', Eval.returns_ofExcept.mpr ⟨hi, rfl⟩,
    returns_map_iff.mpr hmap⟩, .inl rfl⟩

end Resources

theorem coincides_of_spelledOut {keys : List String} (h : SpelledOut place inside n keys) :
    Coincides place inside n keys := by
  induction h with
  | here => exact coincides_nil
  | construct => exact coincides_construct
  | document enters _ body => exact coincides_document enters body
  | item index item _ more => exact coincides_item index item more
  | entry stands ordinary level _ more => exact coincides_entry stands ordinary level more
  | resource stands outside kept untouched level _ more =>
    exact coincides_resource stands outside kept untouched level more
  | resources stands outside unnamed ordinary =>
    exact coincides_resources stands outside unnamed ordinary

theorem stands_of_plain (before : Mapping) {after : Mapping} (hm : m = before ++ (key, n) :: after)
    (hkey : key ∉ Entries.keys before) (hafter : key ∉ Entries.keys after)
    (hplain : ∀ name ∈ key :: Entries.keys after, isBookkeeping name = false ∧
      isMergeKey name = false ∧ Interpolation.hasPlaceholders name = false) :
    Stands (MapAdds place inside) m key rest n := by
  have entry (name : String) (hname : name ∈ key :: Entries.keys after) (x : Node)
      (c : Contribution) (hc : MapAdds place inside name x c) : ∃ y, c = .entry name y := by
    obtain ⟨hb, hg, hp⟩ := hplain name hname
    obtain ⟨_, _, _, hr⟩ := hc
    exact entry_of_mapEntry hb hg hp hr
  refine ⟨before, after, hm, hkey, entry key (List.mem_cons_self ..) n, fun e he c hc => ?_⟩
  have hmem : e.1 ∈ Entries.keys after := List.mem_map_of_mem he
  obtain ⟨y, rfl⟩ := entry e.1 (List.mem_cons_of_mem _ hmem) e.2 c hc
  rintro rfl
  exact hafter hmem

theorem classify_of_literalType {name type : String}
    (htype : Entries.find? "Type" m = some (.string type))
    (hp : Interpolation.hasPlaceholders type = false) (hl : Resource.isLiteralType type = true) :
    ev.classify name m path env = pure .literal := by
  simp only [classify, htype, resourceType, interpolated, hp, hl, Bool.false_eq_true, ↓reduceIte,
    pure_bind]

theorem entry_of_literalType {name type : String} {c : Contribution}
    (hb : isBookkeeping name = false) (hg : isMergeKey name = false)
    (unnamed : inside.naming? = none) (htype : Entries.find? "Type" m = some (.string type))
    (hp : Interpolation.hasPlaceholders type = false) (hl : Resource.isLiteralType type = true)
    (h : SectionAdds place inside name (.map m) c) : ∃ x, c = .entry name x := by
  obtain ⟨_, _, _, hr⟩ := h
  cases returns_resourceEntry.mp hr with
  | bookkeeping hb' => exact absurd (hb.symm.trans hb') Bool.false_ne_true
  | merged _ hg' _ => exact absurd (hg.symm.trans hg') Bool.false_ne_true
  | literal _ _ _ hliteral =>
    obtain ⟨rfl, -⟩ := literal_of_unnamed unnamed hliteral
    exact ⟨_, rfl⟩
  | template _ _ hc _ =>
    rw [classify_of_literalType htype hp hl] at hc
    cases (returns_pure.mp hc).1
  | evaluated _ _ hn _ => exact absurd rfl (hn m)

end Coincidence

/-- A lookup of a part of an import comes to the part of what a lookup of the import comes to, as far
as the path to it is spelled out in the import. -/
theorem lookup_of_part {k : Nat} {path : Path} {env inner : Env} {whole part : String}
    {head : List Char} {keys : List String} {n v w : Node} {scope : Scope} {s t : Sections}
    (hwhole : LookupPath.parse? whole = some [.name head])
    (hpart : LookupPath.parse? part =
      some (.name head :: keys.map fun key => .name key.toList))
    (hfind : env.scope.find? (String.ofList head) = some (.raw n scope))
    (hinner : env.enter env.location path scope = .ok inner)
    (hspelled : SpelledOut path inner n keys)
    (hv : Returns ((upTo k).node (.tag (.lookup whole)) path env) s v t)
    (hw : v.follow? keys = some w) (s' : Sections) :
    ∃ found t', Returns ((upTo k).node (.tag (.lookup part)) path env) s' found t' ∧
      Agrees keys found w := by
  match k with
  | 0 | 1 => exact absurd hv Eval.returns_unfinished
  | k + 2 =>
    have hlookup : Returns ((upTo k).lookup whole path env) s v t := hv
    have hread : (upTo k).lookup whole path env =
        (upTo k).read whole path env ⟨n, env.withScope scope, false⟩ [] :=
      lookup_eq_read hwhole hfind
    rw [hread, read_nil] at hlookup
    obtain ⟨inner', u, hi, hr⟩ := returns_bind.mp hlookup
    obtain ⟨hi', rfl⟩ := Eval.returns_ofExcept.mp hi
    cases hinner.symm.trans hi'
    obtain ⟨found, t', hfound, ha⟩ := coincides_of_spelledOut hspelled hr hw (Nat.le_refl k)
      (Env.trails_of_enter hinner) rfl s'
    rw [← lookup_eq_read hpart hfind] at hfound
    exact ⟨found, t', hfound, ha⟩

section Example

def importEnv (n : Node) (scope : Scope) : Env :=
  Env.root (.frame 1 [("a", .raw n scope)] .empty) "root.yaml" 9

def zonesDocument : Document :=
  ⟨"zones.yaml", [("zones", .seq [.string "z", .tag (.lookup "second")]),
    (resourcesKey, .map [("Topic", .map [("Type", .string "AWS::SNS::Topic"),
      ("Zone", .tag (.lookup "second"))])])], [],
    .frame 2 [("second", .value (.map [("name", .string "y")]))] .empty⟩

def zones : Node :=
  .map [("zones", .seq [.string "z", .map [("name", .string "y")]]),
    (resourcesKey, .map [("Topic", .map [("Type", .string "AWS::SNS::Topic"),
      ("Zone", .map [("name", .string "y")])])])]

theorem lookup_of_part_zones :
    (∃ found t', Returns ((upTo 9).node (.tag (.lookup "a.zones.1.name")) Path.root
      (importEnv (.document zonesDocument) .empty)) [] found t' ∧
        Agrees ["zones", "1", "name"] found (.string "y")) ∧
    ∃ found t', Returns ((upTo 9).node (.tag (.lookup "a.Resources.Topic.Zone.name")) Path.root
      (importEnv (.document zonesDocument) .empty)) [] found t' ∧
        Agrees [resourcesKey, "Topic", "Zone", "name"] found (.string "y") := by
  have hv : Returns ((upTo 9).node (.tag (.lookup "a")) Path.root
      (importEnv (.document zonesDocument) .empty)) [] zones [] := by
    with_unfolding_all exact rfl
  have hwhole : LookupPath.parse? "a" = some [.name ['a']] := by decide +kernel
  have hpart : LookupPath.parse? "a.zones.1.name" = some (.name ['a'] ::
      ["zones", "1", "name"].map fun key => .name key.toList) := by decide +kernel
  have hresource : LookupPath.parse? "a.Resources.Topic.Zone.name" = some (.name ['a'] ::
      [resourcesKey, "Topic", "Zone", "name"].map fun key => .name key.toList) := by
    decide +kernel
  constructor
  · refine lookup_of_part hwhole hpart rfl rfl ?_ hv rfl []
    refine .document rfl (.entry (stands_of_plain [] rfl ?_ ?_ ?_) ?_ ?_ ?_)
    · decide
    · decide
    · decide +kernel
    · intro h
      exact absurd h (by decide)
    · decide +kernel
    · exact .item (i := 1) (by decide) rfl .construct
  · refine lookup_of_part hwhole hresource rfl rfl ?_ hv rfl []
    refine .document rfl (.resource (stands_of_plain [_] rfl ?_ ?_ ?_) ?_
      ⟨[], [], rfl, ?_, fun c hc => ?_, ?_⟩ ?_ ?_ ?_)
    · decide
    · decide
    · decide +kernel
    · decide +kernel
    · decide
    · exact entry_of_literalType (by decide) (by decide) rfl rfl (by decide +kernel) (by decide) hc
    · simp
    · intro r hr
      cases hr
      exact ⟨by decide, by decide⟩
    · decide +kernel
    · refine .entry (stands_of_plain [_] rfl ?_ ?_ ?_) ?_ ?_ .construct
      · decide
      · decide
      · decide +kernel
      · intro h
        exact absurd h (by decide)
      · decide +kernel

def IsPart (n : Node) (scope : Scope) (keys : List String) : Prop :=
  ∀ k s t v w, Returns ((upTo k).node (.tag (.lookup "a")) Path.root (importEnv n scope)) s v t →
    v.follow? keys = some w →
    ∃ l t', Returns ((upTo l).node (.tag (.lookup (".".intercalate ("a" :: keys)))) Path.root
      (importEnv n scope)) s w t'

theorem not_isPart {n : Node} {scope : Scope} {keys : List String} (v w : Node)
    (r : Except Error Node)
    (hv : Returns ((upTo 9).node (.tag (.lookup "a")) Path.root (importEnv n scope)) [] v [])
    (hw : v.follow? keys = some w)
    (hr : ((upTo 9).node (.tag (.lookup (".".intercalate ("a" :: keys)))) Path.root
      (importEnv n scope)).outcome [] = some (r, [])) (hne : r ≠ .ok w) :
    ¬IsPart n scope keys := by
  intro h
  obtain ⟨l, t, hl⟩ := h 9 [] [] v w hv hw
  exact hne (congrArg Prod.fst (outcome_upTo_unique hr hl))

def markedResources : Node := .map [(resourcesKey, .map [("B", .map [(globalMarker, .bool true)])])]

/-- Merged maps, keys with placeholders, dates, markers and overrides make the two disagree. -/
theorem lookups_disagree :
    ¬IsPart (.map [("$merge", .map [("x", .ofNat 1)])]) .empty ["x"] ∧
    ¬IsPart (.map [("x", .ofNat 1), ("$merge", .map [("x", .ofNat 2)])]) .empty ["x"] ∧
    ¬IsPart (.map [("\x7b\x7bkey\x7d\x7d", .ofNat 1)])
      (.frame 2 [("key", .value (.string "x"))] .empty) ["x"] ∧
    ¬IsPart (.map [(formatVersionKey, .string "2010-09-09T00:00:00Z")]) .empty [formatVersionKey] ∧
    ¬IsPart markedResources .empty [resourcesKey, "B"] ∧
    ¬IsPart (.map [(overridesKey, markedResources)]) .empty [overridesKey] := by
  refine ⟨not_isPart (.map [("x", .ofNat 1)]) (.ofNat 1)
      (.error (.undefined "a.x" Path.root [⟨"root.yaml", Path.root⟩])) ?_ rfl ?_ ?_,
    not_isPart (.map [("x", .ofNat 2)]) (.ofNat 2) (.ok (.ofNat 1)) ?_ rfl ?_ ?_,
    not_isPart (.map [("x", .ofNat 1)]) (.ofNat 1)
      (.error (.undefined "a.x" Path.root [⟨"root.yaml", Path.root⟩])) ?_ rfl ?_ ?_,
    not_isPart (.map [(formatVersionKey, .string "2010-09-09")]) (.string "2010-09-09")
      (.ok (.string "2010-09-09T00:00:00Z")) ?_ rfl ?_ ?_,
    not_isPart (.map [(resourcesKey, .map [("B", .map [])])]) (.map [])
      (.ok (.map [(globalMarker, .bool true)])) ?_ rfl ?_ ?_,
    not_isPart (.map [(overridesKey, markedResources)]) markedResources
      (.ok (.map [(resourcesKey, .map [("B", .map [])])])) ?_ rfl ?_ ?_⟩
  all_goals first | with_unfolding_all exact rfl | simp [Node.ofNat, markedResources]

end Example

end Evaluator

end InfraTemplate
