import InfraTemplate.Proofs.Provenance

namespace InfraTemplate

section Evaluation

variable {k k' limit : Nat} {n : Node} {m out : Mapping} {path : Path} {env : Env} {s t : Sections}
  {v : Node}

theorem Env.widens_of_limit (h : env.limit ≤ limit) : Env.Widens { env with limit := limit } env :=
  ⟨fun _ _ hb => hb, rfl, rfl, h⟩

theorem Evaluator.returns_node_raised (limit : Nat) (hk : k ≤ k') (hl : env.limit ≤ limit)
    (h : Returns ((upTo k).node n path env) s v t) :
    Returns ((upTo k').node n path { env with limit := limit }) s v t :=
  returns_upTo_mono hk (returns_of_widens (Env.widens_of_limit hl) h)

theorem Evaluator.returns_map_raised (limit : Nat) (hk : k ≤ k') (hl : env.limit ≤ limit)
    (h : Returns ((upTo k).map m path env) s out t) :
    Returns ((upTo k').map m path { env with limit := limit }) s out t :=
  returns_map_iff.mp (returns_node_raised limit (Nat.succ_le_succ hk) hl (returns_map_iff.mpr h))

end Evaluation

namespace Loading

section Raising

variable {ev ev' : Evaluator} {resolver : Resolver} {limit limit' : Nat}
  {graphs graphs' : Mapping → String → Progress → ImportGraph → Progress → Prop} {base : String}
  {p q : Progress} {scope final : Scope} {edges : List ImportEdge}
  (hn : ∀ m location p g q, graphs m location p g q → graphs' m location p g q)

include hn

theorem Imports.mono {imports : Mapping}
    (h : Imports ⟨ev, resolver, limit⟩ graphs base imports scope p edges final q) :
    Imports ⟨ev', resolver, limit'⟩ graphs' base imports scope p edges final q := by
  induction h with
  | nil => exact .nil
  | leaf located resolved plain _ ih => exact .leaf located resolved plain ih
  | node located resolved extended loaded _ ih =>
    exact .node located resolved extended (hn _ _ _ _ _ loaded) ih

variable (hev : ∀ n path scope location s v t,
  Returns (ev.node n path (Env.root scope location limit)) s v t →
    Returns (ev'.node n path (Env.root scope location limit')) s v t)

include hev

theorem Defines.mono {defs : Mapping}
    (h : Defines ⟨ev, resolver, limit⟩ graphs base defs scope p edges final q) :
    Defines ⟨ev', resolver, limit'⟩ graphs' base defs scope p edges final q := by
  induction h with
  | nil => exact .nil
  | document extended loaded _ ih => exact .document extended (hn _ _ _ _ _ loaded) ih
  | value plain evaluated _ ih => exact .value plain (hev _ _ _ _ _ _ _ evaluated) ih

theorem OfDocument.mono {m : Mapping} {location : String} {g : ImportGraph}
    (h : OfDocument ⟨ev, resolver, limit⟩ graphs m location p g q) :
    OfDocument ⟨ev', resolver, limit'⟩ graphs' m location p g q := by
  cases h with
  | intro definitions importing parameters checked defines binds =>
    exact .intro definitions importing parameters checked (defines.mono hn hev) (binds.mono hn)

end Raising

end Loading

section Loads

variable {k k' limit limit' : Nat} {resolver : Resolver} {m : Mapping} {location : String}
  {p q : Progress}

theorem Loader.Loads.raised (hk : k ≤ k') (hl : limit ≤ limit') {depth depth' : Nat}
    (hd : depth ≤ depth') {g : ImportGraph}
    (h : Loader.Loads ⟨.upTo k, resolver, limit⟩ depth m location p g q) :
    Loader.Loads ⟨.upTo k', resolver, limit'⟩ depth' m location p g q := by
  -- By induction on how deep documents may be nested under the lower limit.
  induction depth generalizing depth' m location p g q with
  | zero => exact h.elim
  | succ depth ih =>
    obtain ⟨rest, rfl⟩ : ∃ rest, depth' = rest + 1 := ⟨depth' - 1, by omega⟩
    refine Loading.OfDocument.mono (fun m location p g q => ih (Nat.le_of_succ_le_succ hd)) ?_ h
    intro n path scope location s v t
    exact Evaluator.returns_node_raised limit' hk hl

theorem Loader.returns_load_raised (hk : k ≤ k') (hl : limit ≤ limit') {d : Document}
    (h : Returns (Loader.load ⟨.upTo k, resolver, limit⟩ m location) p d q) :
    Returns (Loader.load ⟨.upTo k', resolver, limit'⟩ m location) p d q := by
  obtain ⟨g, hg, hd⟩ := Loader.returns_loadWithin.mp h
  exact Loader.returns_loadWithin.mpr ⟨g, hg.raised hk hl (Nat.succ_le_succ hl), hd⟩

end Loads

section Raised

variable {k k' limit limit' : Nat} {omitMetadata : Bool} {resolver : Resolver} {host : String}

namespace Setting

theorem returns_transformMap_raised (hk : k ≤ k') (hl : limit ≤ limit') {m : Mapping}
    {location : String} {p q : Progress} {t : Transformed}
    (h : Returns (transformMap ⟨⟨omitMetadata, limit⟩, resolver, host, .upTo k⟩ m location) p t q) :
    Returns (transformMap ⟨⟨omitMetadata, limit'⟩, resolver, host, .upTo k'⟩ m location) p t q := by
  simp only [transformMap, returns_bind, Load.returns_ofEval, returns_get, returns_pure] at h ⊢
  obtain ⟨d, u, hd, body, _, ⟨s, hbody, rfl⟩, _, _, ⟨rfl, rfl⟩, rfl, rfl⟩ := h
  have hload := Loader.returns_load_raised hk hl hd
  have hmap := Evaluator.returns_map_raised limit' hk hl hbody
  exact ⟨d, u, hload, body, _, ⟨s, hmap, rfl⟩, _, _, ⟨rfl, rfl⟩, rfl, rfl⟩

theorem returns_transform_raised (hk : k ≤ k') (hl : limit ≤ limit') {root : Node}
    {location : String} {p q : Progress} {t : Transformed}
    (h : Returns (transform ⟨⟨omitMetadata, limit⟩, resolver, host, .upTo k⟩ root location) p t q) :
    Returns (transform ⟨⟨omitMetadata, limit'⟩, resolver, host, .upTo k'⟩ root location) p t q := by
  cases root with
  | map m => exact returns_transformMap_raised hk hl h
  | null | bool _ | number _ | string _ | seq _ | tag _ | document _ =>
    simp only [transform, returns_bind, Load.returns_ofEval, returns_pure] at h ⊢
    obtain ⟨v, _, ⟨s, hv, rfl⟩, rfl, rfl⟩ := h
    have hnode := Evaluator.returns_node_raised limit' hk hl hv
    exact ⟨v, _, ⟨s, hnode, rfl⟩, rfl, rfl⟩

end Setting

/-- A higher limit changes nothing where the lower one suffices: the document, its records and the
list of its imports are the same. -/
theorem limit_raised (hk : k ≤ k') (hl : limit ≤ limit') (location : String) (p q : Progress) :
    (∀ root t,
      Returns (Setting.transform ⟨⟨omitMetadata, limit⟩, resolver, host, .upTo k⟩ root location)
        p t q →
      Returns (Setting.transform ⟨⟨omitMetadata, limit'⟩, resolver, host, .upTo k'⟩ root location)
        p t q) ∧
    (∀ text t,
      Returns (Setting.transformText ⟨⟨omitMetadata, limit⟩, resolver, host, .upTo k⟩ text location)
        p t q →
      Returns (Setting.transformText ⟨⟨omitMetadata, limit'⟩, resolver, host, .upTo k'⟩ text
        location) p t q) ∧
    ∀ text records,
      Returns (Setting.imports ⟨⟨omitMetadata, limit⟩, resolver, host, .upTo k⟩ text location)
        p records q →
      Returns (Setting.imports ⟨⟨omitMetadata, limit'⟩, resolver, host, .upTo k'⟩ text location)
        p records q := by
  refine ⟨fun root t => Setting.returns_transform_raised hk hl, fun text t h => ?_,
    fun text records h => ?_⟩
  · obtain ⟨root, u, hroot, h⟩ := returns_bind.mp h
    exact returns_bind.mpr ⟨root, u, hroot, Setting.returns_transform_raised hk hl h⟩
  · obtain ⟨root, u, hroot, h⟩ := returns_bind.mp h
    refine returns_bind.mpr ⟨root, u, hroot, ?_⟩
    cases root with
    | map m =>
      obtain ⟨d, v, hd, h⟩ := returns_bind.mp h
      exact returns_bind.mpr ⟨d, v, Loader.returns_load_raised hk hl hd, h⟩
    | null | bool _ | number _ | string _ | seq _ | tag _ | document _ => exact h

end Raised

section Example

def expandingMap : Mapping :=
  [(defsKey, .map [("t", .map [(paramsKey, .seq []), ("x", .bool true)])]),
    ("out", .tag (.expand (.string "t") (.map [])))]

abbrev expanding (limit k : Nat) : Load Transformed :=
  Setting.transform ⟨⟨true, limit⟩, World.empty.resolver, "", .upTo k⟩ (.map expandingMap) "a.yaml"

theorem limit_raised_expansion :
    Fails (expanding 0 4) .start (.tooDeep 0 "a.yaml" []) .start ∧
      Returns (expanding 1 4) .start ⟨.map [("out", .map [("x", .bool true)])], []⟩ ⟨[], [], 2⟩ ∧
      Returns (expanding 50 6) .start ⟨.map [("out", .map [("x", .bool true)])], []⟩ ⟨[], [], 2⟩ ∧
      ∃ q, Returns (stackSetting.imports stackText "a.yaml") .start stackRecords q ∧
        Returns (Setting.imports { stackSetting with options := ⟨false, 7⟩ } stackText "a.yaml")
          .start stackRecords q := by
  have hfail : Fails (expanding 0 4) .start (.tooDeep 0 "a.yaml" []) .start := by
    with_unfolding_all exact rfl
  have hone : Returns (expanding 1 4) .start ⟨.map [("out", .map [("x", .bool true)])], []⟩
      ⟨[], [], 2⟩ := by
    with_unfolding_all exact rfl
  obtain ⟨g, q, hg, -, hrecorded⟩ := loads_stackMap
  have hload : Returns (stackSetting.loader.load stackMap "a.yaml") .start g.loaded q :=
    Loader.returns_loadWithin.mpr ⟨g, hg, rfl⟩
  have hrecords : q.records = stackRecords := hg.records.trans hrecorded
  have himports : Returns (stackSetting.imports stackText "a.yaml") .start stackRecords q := by
    refine returns_bind.mpr ⟨_, _, Load.returns_ofExcept.mpr ⟨parse_stackText, rfl⟩, ?_⟩
    refine returns_bind.mpr ⟨_, _, hload, returns_bind.mpr ⟨q, q, returns_get.mpr ⟨rfl, rfl⟩, ?_⟩⟩
    exact returns_pure.mpr ⟨hrecords.symm, rfl⟩
  exact ⟨hfail, hone, (limit_raised (by decide) (by decide) "a.yaml" _ _).1 _ _ hone, q,
    himports, (limit_raised (Nat.le_refl 2) (by decide) "a.yaml" _ _).2.2 _ _ himports⟩

end Example

end InfraTemplate
