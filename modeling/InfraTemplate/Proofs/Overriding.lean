import InfraTemplate.Proofs.Accumulation
import InfraTemplate.Proofs.LazyLookup
import InfraTemplate.Proofs.StaticDocument

/-!
The overrides of an instance are evaluated in the scope around it and merged into the template, which
is evaluated in its own. So a value that they hold is kept exactly if it comes to itself there.
-/

namespace InfraTemplate

namespace Node

def held? : Node → List String → Option Node
  | n, [] => some n
  | .map m, key :: rest => (Entries.find? key m).bind fun x => x.held? rest
  | _, _ :: _ => none

def Holds : Node → List String → Node → Prop
  | n, [], v => n = v
  | .map m, key :: rest, v => (Entries.keys m).Nodup ∧ ∃ x, (key, x) ∈ m ∧ x.Holds rest v
  | _, _ :: _, _ => False

section Held

variable {key : String} {keys rest : List String} {m base changes : Mapping} {n v w : Node}

theorem held?_map_eq_some :
    (Node.map m).held? (key :: rest) = some w ↔
      ∃ x, Entries.find? key m = some x ∧ x.held? rest = some w :=
  Option.bind_eq_some_iff

theorem held?_cons_cons {key' : String} : (Node.map m).held? (key :: key' :: rest) = some w ↔
    ∃ inner, Entries.find? key m = some (.map inner) ∧
      (Node.map inner).held? (key' :: rest) = some w := by
  rw [held?_map_eq_some]
  constructor
  · rintro ⟨x, hx, hw⟩
    cases x with
    | map inner => exact ⟨inner, hx, hw⟩
    | null | bool _ | number _ | string _ | seq _ | tag _ | document _ => cases hw
  · rintro ⟨inner, hx, hw⟩
    exact ⟨_, hx, hw⟩

theorem held?_congr {m' : Mapping} (h : Entries.find? key m = Entries.find? key m')
    (rest : List String) : (Node.map m).held? (key :: rest) = (Node.map m').held? (key :: rest) := by
  rw [held?, held?, h]

theorem holds_cons : n.Holds (key :: rest) v ↔
    ∃ m x, n = .map m ∧ (Entries.keys m).Nodup ∧ Entries.find? key m = some x ∧ x.Holds rest v := by
  cases n with
  | map m =>
    constructor
    · rintro ⟨hn, x, hx, hr⟩
      exact ⟨m, x, rfl, hn, (Entries.find?_eq_some_iff_mem hn).mpr hx, hr⟩
    · rintro ⟨_, x, ⟨⟩, hn, hx, hr⟩
      exact ⟨hn, x, Entries.mem_of_find? hx, hr⟩
  | null | bool _ | number _ | string _ | seq _ | tag _ | document _ =>
    constructor
    · exact False.elim
    · rintro ⟨_, _, ⟨⟩, -⟩

theorem held?_of_holds (h : n.Holds keys v) : n.held? keys = some v := by
  induction keys generalizing n with
  | nil => exact congrArg some h
  | cons key rest ih =>
    obtain ⟨m, x, rfl, -, hx, hr⟩ := holds_cons.mp h
    exact held?_map_eq_some.mpr ⟨x, hx, ih hr⟩

theorem find?_deepMerge (hn : (Entries.keys changes).Nodup) :
    Entries.find? key (deepMerge base changes) =
      match Entries.find? key changes with
      | some x => some (mergeValue (Entries.find? key base) x)
      | none => Entries.find? key base := by
  induction changes generalizing base with
  | nil => rw [deepMerge, Entries.find?_nil]
  | cons e changes ih =>
    obtain ⟨k, x⟩ := e
    obtain ⟨hk, hn⟩ := List.nodup_cons.mp hn
    rw [deepMerge, ih hn, Entries.find?_cons]
    by_cases he : key = k
    · subst he
      have hnone : Entries.find? key changes = none := Entries.find?_eq_none_iff.mpr hk
      rw [hnone, if_pos rfl, Entries.find?_put_self]
    · rw [if_neg he, Entries.find?_put_of_ne he]

theorem held?_mergeValue {old : Option Node} (h : n.Holds keys v) (hv : ∀ c, v ≠ .map c) :
    (mergeValue old n).held? keys = some v := by
  induction keys generalizing n old with
  | nil =>
    have hn : n = v := h
    cases n with
    | map c => exact absurd hn.symm (hv c)
    | null | bool _ | number _ | string _ | seq _ | tag _ | document _ => exact congrArg some hn
  | cons key rest ih =>
    obtain ⟨changes, x, rfl, hn, hx, hr⟩ := holds_cons.mp h
    unfold mergeValue
    split
    · rename_i base
      refine held?_map_eq_some.mpr ⟨mergeValue (Entries.find? key base) x, ?_, ih hr⟩
      rw [find?_deepMerge hn, hx]
    · exact held?_of_holds h

theorem overlays_of_held? (h : (Node.map m).held? keys = some w) : Overlays m keys := by
  induction keys generalizing m with
  | nil => trivial
  | cons key rest ih =>
    obtain ⟨x, hx, hr⟩ := held?_map_eq_some.mp h
    refine ⟨x, Entries.mem_of_find? hx, ?_⟩
    rintro m' rfl
    exact ih hr

theorem held?_deepMerge (hn : ¬Overlays changes keys) :
    (Node.map (deepMerge base changes)).held? keys = (Node.map base).held? keys := by
  induction keys generalizing base changes with
  | nil => exact absurd trivial hn
  | cons key rest ihKeys =>
    induction changes generalizing base with
    | nil => rw [deepMerge]
    | cons e changes ih =>
      obtain ⟨k, x⟩ := e
      rw [deepMerge, ih fun ⟨y, hy, hm⟩ => hn ⟨y, List.mem_cons_of_mem _ hy, hm⟩]
      by_cases hk : key = k
      · subst hk
        obtain ⟨inner, rfl, hm⟩ : ∃ inner, x = .map inner ∧ ¬Overlays inner rest := by
          by_contra hne
          refine hn ⟨x, List.mem_cons_self .., fun inner hx => ?_⟩
          by_contra hi
          exact hne ⟨inner, hx, hi⟩
        have hinner : (Node.map inner).held? rest = none :=
          Option.eq_none_iff_forall_ne_some.mpr fun w hw => hm (overlays_of_held? hw)
        rw [held?, held?, Entries.find?_put_self, Option.bind_some]
        -- Only a map that has been there goes together with the one that is merged in.
        unfold mergeValue
        split
        · rename_i old hold
          rw [hold, Option.bind_some, ihKeys hm]
        · rename_i hold
          rw [hinner]
          cases rest with
          | nil => exact absurd trivial hm
          | cons key' rest =>
            cases hf : Entries.find? key base with
            | none => rfl
            | some old =>
              cases old with
              | map m => exact absurd hf (hold m)
              | null | bool _ | number _ | string _ | seq _ | tag _ | document _ => rfl
      · exact held?_congr (Entries.find?_put_of_ne hk ..) rest

end Held

end Node

namespace Contribution

variable {key : String} {rest : List String} {out : Mapping}

theorem held?_addTo {c : Contribution} (hc : ¬c.Brings key rest) :
    (Node.map (c.addTo out)).held? (key :: rest) = (Node.map out).held? (key :: rest) := by
  cases c with
  | nothing => rfl
  | merged m => exact Node.held?_deepMerge hc
  | entry name x =>
    have hne : key ≠ name := Ne.symm hc
    exact Node.held?_congr (Entries.find?_put_of_ne hne x out) rest
  | entries m => exact Node.held?_congr (Entries.find?_putAll_of_not_mem hc) rest

theorem held?_foldl {cs : List Contribution} (hcs : ∀ c ∈ cs, ¬c.Brings key rest) :
    (Node.map (cs.foldl addTo out)).held? (key :: rest) = (Node.map out).held? (key :: rest) := by
  induction cs generalizing out with
  | nil => rfl
  | cons c cs ih =>
    obtain ⟨hc, hcs⟩ := List.forall_mem_cons.mp hcs
    rw [List.foldl_cons, ih hcs, held?_addTo hc]

theorem held?_assemble {front back : List Contribution} {x : Node}
    (hback : ∀ c ∈ back, ¬c.Brings key rest) :
    (Node.map (assemble (front ++ .entry key x :: back))).held? (key :: rest) = x.held? rest := by
  rw [assemble, List.foldl_append, List.foldl_cons, held?_foldl hback, addTo, Node.held?,
    Entries.find?_put_self, Option.bind_some]

end Contribution

def Unshadowed (adds : String → Node → Contribution → Prop) (m : Mapping) (key out : String)
    (rest : List String) : Prop :=
  ∃ before n after, m = before ++ (key, n) :: after ∧ key ∉ Entries.keys before ∧
    ∀ e ∈ after, ∀ c, adds e.1 e.2 c → ¬c.Brings out rest

theorem Unshadowed.returns {adds : String → Node → Contribution → Prop}
    {f : String × Node → Eval Contribution} {m : Mapping} {key out : String} {rest : List String}
    {n : Node} {s t : Sections} {cs : List Contribution} (h : Unshadowed adds m key out rest)
    (hadds : ∀ e s c t, Returns (f e) s c t → adds e.1 e.2 c) (hn : Entries.find? key m = some n)
    (hr : Returns (m.mapM f) s cs t) :
    ∃ u c v, Returns (f (key, n)) u c v ∧ ∀ x, c = .entry out x →
      (Node.map (Contribution.assemble cs)).held? (out :: rest) = x.held? rest := by
  obtain ⟨before, n', after, rfl, hb, hafter⟩ := h
  have hnone : before.lookup key = none := Entries.find?_eq_none_iff.mpr hb
  rw [Entries.find?, List.lookup_append, hnone, Option.none_or, List.lookup_cons_self] at hn
  cases hn
  obtain ⟨front, u, _, -, hrest, rfl⟩ := returns_mapM_append.mp hr
  obtain ⟨c, v, back, hc, hback, rfl⟩ := returns_mapM_cons.mp hrest
  refine ⟨u, c, v, hc, ?_⟩
  rintro x rfl
  refine Contribution.held?_assemble fun c' hc' => ?_
  obtain ⟨e, u', v', hreach, he⟩ := (mem_iff_reaches hback c').mp hc'
  exact hafter e hreach.mem c' (hadds _ _ _ _ he)

theorem Stands.unshadowed {adds : String → Node → Contribution → Prop} {m : Mapping} {key : String}
    {rest : List String} {n : Node} (h : Stands adds m key rest n) :
    Unshadowed adds m key key rest := by
  obtain ⟨before, after, hm, hb, -, hafter⟩ := h
  exact ⟨before, n, after, hm, hb, hafter⟩

namespace Evaluator

def PlainKey (key : String) : Prop :=
  isBookkeeping key = false ∧ isMergeKey key = false ∧ Interpolation.hasPlaceholders key = false

section Values

variable {ev : Evaluator} {k l : Nat} {key : String} {path : Path} {env : Env} {n v w x y : Node}
  {m out : Mapping} {rest : List String} {s s' t t' : Sections}

theorem mapValue_eq_map (hv : ∀ c, v ≠ .map c) :
    ev.mapValue key v path env =
      (if key = formatVersionKey then calendarDate else id) <$> ev.node v (path.child key) env := by
  unfold mapValue
  split
  · rename_i hc
    obtain ⟨rfl, -⟩ := Bool.and_eq_true_iff.mp hc |>.imp_left of_decide_eq_true
    have hne : resourcesKey ≠ formatVersionKey := by decide
    rw [if_neg hne, id_map]
    split
    · exact absurd rfl (hv _)
    · rfl
  · split
    · rw [map_eq_pure_bind]
    · rw [id_map]

theorem mapValue_unique (hv : ∀ c, v ≠ .map c)
    (hx : Returns ((upTo k).mapValue key v path env) s x t)
    (hy : Returns ((upTo l).mapValue key v path env) s' y t') : x = y := by
  rw [mapValue_eq_map hv, returns_map] at hx hy
  obtain ⟨a, ha, rfl⟩ := hx
  obtain ⟨b, hb, rfl⟩ := hy
  rw [value_unique ha hb]

theorem returns_mapValue_scalar (hv : v.isScalar = true)
    (hs : ∀ text, v = .string text → Interpolation.isVerbatim text = true)
    (hk : key ≠ formatVersionKey) : Returns ((upTo 1).mapValue key v path env) s v s := by
  have hmap : ∀ c, v ≠ .map c := by
    rintro c rfl
    cases hv
  rw [mapValue_eq_map hmap, if_neg hk, id_map]
  have hstep : (upTo 1).node v (path.child key) env = pure v := by
    cases v with
    | string text =>
      change (upTo 0).step (.string text) (path.child key) env = _
      rw [step, interpolated_verbatim (hs text rfl), pure_bind]
    | null | bool _ | number _ => rfl
    | seq _ | map _ | tag _ | document _ => cases hv
  exact hstep ▸ returns_pure.mpr ⟨rfl, rfl⟩

theorem held?_map (hkey : PlainKey key) (hn : Entries.find? key m = some n)
    (hu : Unshadowed (MapAdds path env) m key key rest)
    (hr : Returns ((upTo k).map m path env) s out t) :
    ∃ x u u', Returns ((upTo k).mapValue key n path env) u x u' ∧
      (Node.map out).held? (key :: rest) = x.held? rest := by
  obtain ⟨hb, hg, hp⟩ := hkey
  obtain ⟨cs, hcs, rfl⟩ := returns_map.mp hr
  obtain ⟨u, c, u', hc, hheld⟩ := hu.returns (fun e s c t he => ⟨k, s, t, he⟩) hn hcs
  obtain ⟨x, rfl⟩ := entry_of_mapEntry hb hg hp hc
  obtain ⟨-, hx⟩ := given_mapEntry hc hg hp (List.mem_singleton_self _)
  exact ⟨x, u, u', hx, hheld x rfl⟩

theorem returns_properties (h : Returns ((upTo k).mapValue "Properties" (.map m) path env) s v t) :
    ∃ inner u u' l, v = .map inner ∧
      Returns ((upTo l).map m (path.child "Properties") env) u inner u' := by
  obtain ⟨x, hx, hsame⟩ := returns_mapValue (fun he => absurd he (by decide)) h
  obtain rfl : v = x := hsame.resolve_right fun hd => absurd hd.1 (by decide)
  cases k with
  | zero => exact absurd hx Eval.returns_unfinished
  | succ l =>
    obtain ⟨inner, _, hinner, hp⟩ := returns_bind.mp hx
    obtain ⟨rfl, rfl⟩ := returns_pure.mp hp
    exact ⟨inner, _, _, l, rfl, hinner⟩

theorem held?_qualifyNamed {naming : NameScope} (hi : env.naming? = some naming)
    (hk : key ∉ Resource.nameKeys) : (Node.map (Resource.qualifyNamed env m)).held? (key :: rest) =
      (Node.map m).held? (key :: rest) := by
  refine Node.held?_congr ?_ rest
  rw [Resource.find?_qualifyNamed hi]
  simp [hk]

end Values

section Instances

variable {ev : Evaluator} {k j : Nat} {name template : String} {m overrides out : Mapping}
  {d : Document} {path : Path} {env : Env} {i : Instance} {n v : Node} {s s' t t' : Sections}

theorem body_of_instanceOf (h : Returns (ev.instanceOf name m d path env) s i t) :
    ∃ o u v, Returns (ev.instanceMap overridesKey m path env) u o v ∧
      i.body = Node.deepMerge d.body o := by
  simp only [instanceOf, returns_bind, returns_pure] at h
  obtain ⟨_, _, -, o, v, ho, _, _, -, _, _, -, _, _, -, rfl, -⟩ := h
  exact ⟨o, _, v, ho, rfl⟩

theorem returns_instanceMap {key : String} (hn : Entries.find? key m = some n)
    (h : Returns (ev.instanceMap key m path env) s out t) :
    ∃ x, Returns (ev.node n (path.child key) env) s x t ∧ (x = .map out ∨ x = .null ∧ out = []) := by
  rw [instanceMap, hn] at h
  obtain ⟨x, u, hx, h⟩ := returns_bind.mp h
  cases x with
  | map entries =>
    obtain ⟨rfl, rfl⟩ := returns_pure.mp h
    exact ⟨_, hx, .inl rfl⟩
  | null =>
    obtain ⟨rfl, rfl⟩ := returns_pure.mp h
    exact ⟨_, hx, .inr ⟨rfl, rfl⟩⟩
  | bool _ | number _ | string _ | seq _ | tag _ | document _ => exact absurd h Eval.returns_malformed

theorem held?_body {keys : List String} (h : Returns ((upTo k).instanceOf name m d path env) s i t)
    (hn : Entries.find? overridesKey m = some n)
    (ho : Returns ((upTo j).node n (path.child overridesKey) env) s' (.map overrides) t')
    (hv : (Node.map overrides).Holds keys v) (hm : ∀ c, v ≠ .map c) :
    (Node.map i.body).held? keys = some v := by
  obtain ⟨o, _, _, hr, hbody⟩ := body_of_instanceOf h
  obtain ⟨x, hx, hcases⟩ := returns_instanceMap hn hr
  obtain rfl : x = .map overrides := value_unique hx ho
  obtain ho | ⟨⟨⟩, -⟩ := hcases
  cases ho
  have hmerge : Node.mergeValue (some (.map d.body)) (.map overrides) = .map i.body := by
    rw [Node.mergeValue, hbody]
  exact hmerge ▸ Node.held?_mergeValue hv hm

end Instances

end Evaluator

namespace Instance

open Evaluator

def propertyKeys (i : Instance) (entry key : String) (resource : Mapping) : List String :=
  [Sections.emittedName i.naming entry (.map resource), "Properties", key]

def Evaluates (i : Instance) (place : Path) (entry key : String) (v w : Node) : Prop :=
  ∃ k s t,
    Returns ((upTo k).mapValue key v ((place.child entry).child "Properties") i.env) s w t

/-- The resource stands for itself, and nothing that comes after it in the template, or after the
property in it, brings something in the place of the property. -/
structure Exposes (i : Instance) (place : Path) (entry key : String) (resource properties : Mapping) :
    Prop where
  literal : ∀ k s kind t,
    Returns ((upTo k).classify entry resource (place.child entry) i.env) s kind t → kind = .literal
  among : Unshadowed (SectionAdds place i.env) i.resources entry
    (Sections.emittedName i.naming entry (.map resource)) ["Properties", key]
  inside : Unshadowed (MapAdds (place.child entry) i.env) (Sections.takeGlobal resource).1
    "Properties" "Properties" [key]
  beside : Unshadowed (MapAdds ((place.child entry).child "Properties") i.env) properties key key []

theorem Exposes.returns {i : Instance} {k : Nat} {place : Path} {entry key : String}
    {resource properties out : Mapping} {v : Node} {s t : Sections}
    (h : i.Exposes place entry key resource properties) (hi : i.env.naming? = some i.naming)
    (hresource : Entries.find? entry i.resources = some (.map resource))
    (hproperties : Entries.find? "Properties" resource = some (.map properties))
    (hv : Entries.find? key properties = some v) (hb : isBookkeeping entry = false)
    (hg : isMergeKey entry = false) (hkey : PlainKey key)
    (hr : Returns ((upTo k).resourceSection i.resources place i.env) s out t) :
    ∃ w, i.Evaluates place entry key v w ∧
      (Node.map out).held? (i.propertyKeys entry key resource) = some w := by
  obtain ⟨cs, hcs, rfl⟩ := returns_resourceSection.mp hr
  obtain ⟨_, c, _, hc, hheld⟩ := h.among.returns (fun e s c t he => ⟨k, s, t, he⟩) hresource hcs
  cases returns_resourceEntry.mp hc with
  | bookkeeping hb' => exact absurd (hb.symm.trans hb') Bool.false_ne_true
  | merged _ hg' => exact absurd (hg.symm.trans hg') Bool.false_ne_true
  | template _ _ hkind => cases h.literal _ _ _ _ hkind
  | evaluated _ _ hne => exact absurd rfl (hne resource)
  | literal _ _ _ hl =>
    obtain ⟨body, hbody, rfl, rfl⟩ := literal_spec hl
    have hfound : Entries.find? "Properties" (Sections.takeGlobal resource).1 =
        some (.map properties) := (Entries.find?_remove_of_ne (by decide) resource).trans hproperties
    have hplain : PlainKey "Properties" := ⟨by decide, by decide, by decide +kernel⟩
    obtain ⟨x, _, _, hx, hout⟩ := held?_map hplain hfound h.inside hbody
    obtain ⟨inner, _, _, l, rfl, hinner⟩ := returns_properties hx
    obtain ⟨w, a, b, hw, hin⟩ := held?_map hkey hv h.beside hinner
    refine ⟨w, ⟨l, a, b, hw⟩, ?_⟩
    rw [propertyKeys, hheld (.map (Resource.qualifyNamed i.env body)) ?_,
      held?_qualifyNamed hi (by decide), hout, hin, Node.held?]
    rw [Sections.emittedName, ← Env.qualify_of_naming hi]
    rfl

end Instance

open Evaluator

/-- A value, but not a map, that the overrides of an instance hold in the place of a property of a
resource is evaluated once more in the template. The resource has it exactly if it comes to itself
there, as a scalar does that is no text with placeholders. -/
theorem override_kept_iff {k j : Nat} {name template entry key : String}
    {m overrides out : Mapping} {d : Document} {path : Path} {env : Env} {n v : Node}
    {s s' t t' : Sections}
    (h : Returns ((upTo k).instantiate name m template d path env) s out t)
    (hn : Entries.find? overridesKey m = some n)
    (ho : Returns ((upTo j).node n (path.child overridesKey) env) s' (.map overrides) t')
    (hv : (Node.map overrides).Holds [resourcesKey, entry, "Properties", key] v)
    (hm : ∀ c, v ≠ .map c) (hb : isBookkeeping entry = false) (hg : isMergeKey entry = false)
    (hkey : PlainKey key) :
    ∃ i u resource properties, Returns ((upTo k).instanceOf name m d path env) s i u ∧
      Entries.find? entry i.resources = some (.map resource) ∧
      Entries.find? "Properties" resource = some (.map properties) ∧
      Entries.find? key properties = some v ∧
      (i.Exposes (path.child resourcesKey) entry key resource properties →
        (∃ w, (Node.map out).held? (i.propertyKeys entry key resource) = some w) ∧
        (∀ w, (Node.map out).held? (i.propertyKeys entry key resource) = some w ↔
          i.Evaluates (path.child resourcesKey) entry key v w) ∧
        (v.isScalar = true → key ≠ formatVersionKey →
          (∀ text, v = .string text → Interpolation.isVerbatim text = true) →
          (Node.map out).held? (i.propertyKeys entry key resource) = some v)) := by
  obtain ⟨i, u, u', hi, hr, -⟩ := returns_instantiate h
  obtain ⟨_, _, -, -, henv⟩ := instanceOf_spec hi
  have hbody := held?_body hi hn ho hv hm
  obtain ⟨resources, hresources, hbody⟩ := Node.held?_cons_cons.mp hbody
  obtain ⟨resource, hresource, hbody⟩ := Node.held?_cons_cons.mp hbody
  obtain ⟨properties, hproperties, hbody⟩ := Node.held?_cons_cons.mp hbody
  obtain ⟨_, hfound, ⟨⟩⟩ := Node.held?_map_eq_some.mp hbody
  have hi' : i.resources = resources := by rw [Instance.resources, hresources]
  subst hi'
  refine ⟨i, u, resource, properties, hi, hresource, hproperties, hfound, fun he => ?_⟩
  obtain ⟨-, hnil⟩ | ⟨l, rfl, hs⟩ := returns_instanceResources hr
  · rw [hnil] at hresource
    cases hresource
  · obtain ⟨w, hw, hheld⟩ := he.returns henv hresource hproperties hfound hb hg hkey hs
    have again (w' : Node) : (Node.map out).held? (i.propertyKeys entry key resource) = some w' ↔
        i.Evaluates (path.child resourcesKey) entry key v w' := by
      constructor
      · intro hw'
        cases hheld.symm.trans hw'
        exact hw
      · rintro ⟨_, _, _, hw'⟩
        obtain ⟨_, _, _, hw⟩ := hw
        rw [hheld, mapValue_unique hm hw hw']
    refine ⟨⟨w, hheld⟩, again, fun hscalar hk hverbatim => (again v).mpr ?_⟩
    exact ⟨1, [], [], returns_mapValue_scalar hscalar hverbatim hk⟩

section Example

def taggedMap (v : Node) : Mapping :=
  bucketMap ++ [("Properties", .map [("Tag", v), ("Size", .ofNat 1)])]

def taggedDocument : Document :=
  ⟨"t.yaml", [(resourcesKey, .map [("Bucket", .map (taggedMap (.string "old")))])], [], .empty⟩

def tagging (v : Node) : Mapping :=
  [(resourcesKey, .map [("Bucket", .map [("Properties", .map [("Tag", v)])])])]

def taggedT (v : Node) : Mapping := typeT ++ [(overridesKey, .map (tagging v))]

def taggedInstance : Instance where
  body := [(resourcesKey, .map [("Bucket", .map (taggedMap (.string "new")))])]
  naming := ⟨"Logs", []⟩
  env := ⟨.frame 0 [("Prefix", .value (.string "Logs"))] .empty,
    [⟨"root.yaml", "Root"⟩, ⟨"t.yaml", "Root.Resources.Logs"⟩], some ⟨"Logs", []⟩, "t.yaml", 1, 50⟩

theorem exposes_tagged : taggedInstance.Exposes "Root.Resources.Logs.Resources" "Bucket" "Tag"
    (taggedMap (.string "new")) [("Tag", .string "new"), ("Size", .ofNat 1)] where
  literal k s kind t h := by
    rw [classify_of_literalType rfl (by decide +kernel) (by decide)] at h
    exact (returns_pure.mp h).1
  among := ⟨[], _, [], rfl, by decide, by simp⟩
  inside := ⟨[_], _, [], rfl, by decide, by simp⟩
  beside := (stands_of_plain [] rfl (by decide) (by decide) (by decide +kernel)).unshadowed

theorem override_kept_iff_tag :
    Returns ((upTo 6).instantiate "Logs" (taggedT (.string "new")) "t" taggedDocument
        "Root.Resources.Logs" siteEnv) [] [("LogsBucket", .map (taggedMap (.string "new")))] [] ∧
      Returns ((upTo 6).instanceOf "Logs" (taggedT (.string "new")) taggedDocument
        "Root.Resources.Logs" siteEnv) [] taggedInstance [] ∧
      taggedInstance.Evaluates "Root.Resources.Logs.Resources" "Bucket" "Tag" (.string "new")
        (.string "new") := by
  have h : Returns ((upTo 6).instantiate "Logs" (taggedT (.string "new")) "t" taggedDocument
      "Root.Resources.Logs" siteEnv) [] [("LogsBucket", .map (taggedMap (.string "new")))] [] := by
    with_unfolding_all exact rfl
  have hi : Returns ((upTo 6).instanceOf "Logs" (taggedT (.string "new")) taggedDocument
      "Root.Resources.Logs" siteEnv) [] taggedInstance [] := by
    with_unfolding_all exact rfl
  have ho : Returns ((upTo 6).node (.map (tagging (.string "new")))
      (Path.child "Root.Resources.Logs" overridesKey) siteEnv) []
        (.map (tagging (.string "new"))) [] := by
    with_unfolding_all exact rfl
  have hv : (Node.map (tagging (.string "new"))).Holds
      [resourcesKey, "Bucket", "Properties", "Tag"] (.string "new") := by
    simp [tagging, Node.Holds, Entries.keys]
  obtain ⟨_, _, _, _, hi', hresource, hproperties, -, hall⟩ :=
    override_kept_iff h rfl ho hv (by simp) (by decide) (by decide)
      ⟨by decide, by decide, by decide +kernel⟩
  obtain ⟨rfl, -⟩ := hi.unique hi'
  cases hresource
  cases hproperties
  obtain ⟨-, heval, -⟩ := hall exposes_tagged
  exact ⟨h, hi, (heval _).mp rfl⟩

theorem override_evaluated_again :
    Returns ((upTo 8).node (.map (tagging (.tag (.apply .escape (.string "\x7b\x7bStage\x7d\x7d")))))
        "Root.Resources.Logs.Overrides" siteEnv) []
      (.map (tagging (.string "\x7b\x7bStage\x7d\x7d"))) [] ∧
    Returns (quietly.transform (.map [(defsKey, .map [("t", .map [
          (paramsKey, .seq [.map [("Name", .string "Stage"), ("Default", .string "prod")]]),
          (resourcesKey, .map [("Bucket", .map (taggedMap (.string "old")))])])]),
        (resourcesKey, .map [("Logs", .map
          (taggedT (.tag (.apply .escape (.string "\x7b\x7bStage\x7d\x7d")))))])]) "a.yaml") .start
      ⟨.map [(formatVersionKey, .string Assembly.formatVersion),
        (resourcesKey, .map [("LogsBucket", .map (taggedMap (.string "prod")))])], []⟩
      ⟨[], [], 2⟩ := by
  constructor <;> with_unfolding_all exact rfl

end Example

end InfraTemplate
