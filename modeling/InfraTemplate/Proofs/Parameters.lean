import InfraTemplate.Proofs.LoadedDocument
import InfraTemplate.Proofs.Parts

namespace InfraTemplate

def Document.Loaded (d : Document) : Prop :=
  ∃ (c : Loader) (k : ℕ) (m : Mapping) (location : String) (p q : Progress),
    Returns (c.loadWithin k m location) p d q

theorem Loader.Loads.loaded {c : Loader} {k : ℕ} {m : Mapping} {location : String}
    {p q : Progress} {g h : ImportGraph} (hg : c.Loads k m location p g q) (hc : g.Contains h) :
    h.loaded.Loaded := by
  obtain ⟨j, location', p', q', hj⟩ := hg.within hc
  exact ⟨c, j, h.source, location', p', q', Loader.returns_loadWithin.mpr ⟨h, hj, rfl⟩⟩

namespace Evaluator

section Declared

variable {ev : Evaluator} {caller : Mapping} {target : String} {path : Path} {env defaults : Env}
  {params : List (Param Node)} {s t u : Sections} {e : Error} {vars : List (String × Bound)}

def Assigns (ev : Evaluator) (caller : Mapping) (path : Path) (defaults : Env) (p : Param Node)
    (b : String × Bound) : Prop :=
  ∃ x, b = (p.name, .value x) ∧ p.validate (some x) = .ok () ∧
    ∃ s t, Returns (ev.paramValue p caller path defaults) s (some x) t

theorem forall₂_of_declaredParams
    (h : Returns (ev.declaredParams caller target path env defaults params) s vars t) :
    List.Forall₂ (ev.Assigns caller path defaults) params vars := by
  simp only [declaredParams, returns_bind, returns_pure] at h
  obtain ⟨bindings, _, hb, rfl, rfl⟩ := h
  induction params generalizing s bindings with
  | nil =>
    obtain ⟨rfl, -⟩ := returns_mapM_nil.mp hb
    exact .nil
  | cons p params ih =>
    obtain ⟨b, u, rest, hp, hrest, rfl⟩ := returns_mapM_cons.mp hb
    rw [List.flatten_cons]
    simp only [returns_bind] at hp
    obtain ⟨value?, v, hv, hp⟩ := hp
    split at hp
    · rename_i hval
      obtain ⟨rfl, rfl⟩ := returns_pure.mp hp
      cases value? with
      | none => cases hval
      | some x => exact .cons ⟨x, rfl, hval, s, _, hv⟩ (ih _ hrest)
    · exact absurd hp returns_throw

theorem keys_of_assigned (h : List.Forall₂ (ev.Assigns caller path defaults) params vars) :
    Entries.keys vars = params.map Param.name := by
  induction h with
  | nil => rfl
  | cons hb _ ih =>
    obtain ⟨x, rfl, -⟩ := hb
    exact congrArg (List.cons _) ih

end Declared

section Template

variable {ev : Evaluator} {d : Document} {caller : Mapping} {target : String}
  {naming? : Option NameScope} {path : Path} {env inner : Env} {s t u : Sections} {e : Error}
  {vars : List (String × Bound)}

theorem scope_of_enter {location : String} {scope : Scope}
    (h : env.enter location path scope = .ok inner) : inner.scope = scope := by
  unfold Env.enter at h
  split at h
  · cases h
  · cases h
    rfl

def undeclared (d : Document) (caller : Mapping) : List (String × Bound) :=
  (caller.filter fun (k, _) => !d.params.any fun p => p.name == k).map fun (k, n) =>
    (k, Bound.value n)

theorem returns_bindParams :
    Returns (ev.bindParams d caller target naming? path env) s vars t ↔
      ∃ defaults declared, env.enterDocument d path = .ok defaults ∧
        Returns (ev.declaredParams caller target path env (defaults.withNaming naming?) d.params) s
          declared t ∧
        vars = declared ++ undeclared d caller := by
  simp only [bindParams, returns_bind, Eval.returns_ofExcept, returns_pure]
  constructor
  · rintro ⟨defaults, _, ⟨hdefaults, rfl⟩, declared, _, hdeclared, rfl, rfl⟩
    exact ⟨defaults, declared, hdefaults, hdeclared, rfl⟩
  · rintro ⟨defaults, declared, hdefaults, hdeclared, rfl⟩
    exact ⟨defaults, s, ⟨hdefaults, rfl⟩, declared, t, hdeclared, rfl, rfl⟩

end Template

end Evaluator

section Example

end Example

end InfraTemplate
