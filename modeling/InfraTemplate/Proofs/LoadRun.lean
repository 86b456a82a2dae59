import InfraTemplate.Proofs.Outcome
import Mathlib.Logic.Relation

/-!
The documents that are loaded in the run of a loader, and what becomes of the run if one of them fails.
-/

namespace InfraTemplate

namespace Load

variable {α : Type} {r : Except Error α} {p q : Progress}

@[simp] theorem returns_ofExcept {a : α} : Returns (ofExcept r) p a q ↔ r = .ok a ∧ q = p := by
  change some (r, p) = some (Except.ok a, q) ↔ _
  simp only [Option.some.injEq, Prod.mk.injEq]
  exact and_congr Iff.rfl eq_comm

@[simp] theorem fails_ofExcept {e : Error} : Fails (ofExcept r) p e q ↔ r = .error e ∧ q = p := by
  change some (r, p) = some (Except.error e, q) ↔ _
  simp only [Option.some.injEq, Prod.mk.injEq]
  exact and_congr Iff.rfl eq_comm

theorem returns_ofEval {m : Eval α} {a : α} :
    Returns (ofEval m) p a q ↔
      ∃ s, Returns m p.sections a s ∧ q = { p with sections := s } := by
  change (m.run p.sections).bind _ = some _ ↔ _
  simp only [Returns]
  rcases m.run p.sections with _ | ⟨r, s⟩
  · simp
  · change some (r, _) = _ ↔ _
    simp only [Option.some.injEq, Prod.mk.injEq]
    constructor
    · rintro ⟨hr, hq⟩
      exact ⟨s, ⟨hr, rfl⟩, hq.symm⟩
    · rintro ⟨_, ⟨hr, rfl⟩, hq⟩
      exact ⟨hr, hq.symm⟩

theorem fails_ofEval {m : Eval α} {e : Error} :
    Fails (ofEval m) p e q ↔
      ∃ s, Fails m p.sections e s ∧ q = { p with sections := s } := by
  change (m.run p.sections).bind _ = some _ ↔ _
  simp only [Fails]
  rcases m.run p.sections with _ | ⟨r, s⟩
  · simp
  · change some (r, _) = _ ↔ _
    simp only [Option.some.injEq, Prod.mk.injEq]
    constructor
    · rintro ⟨hr, hq⟩
      exact ⟨s, ⟨hr, rfl⟩, hq.symm⟩
    · rintro ⟨_, ⟨hr, rfl⟩, hq⟩
      exact ⟨hr, hq.symm⟩

theorem returns_bind1 {scope scope' : Scope} {name : String} {b : Bound} :
    Returns (bind1 scope name b) p scope' q ↔
      scope' = scope.extend p.label [(name, b)] ∧ q = { p with label := p.label + 1 } := by
  change some (Except.ok _, _) = some (Except.ok _, _) ↔ _
  simp only [Option.some.injEq, Prod.mk.injEq, Except.ok.injEq]
  exact and_congr eq_comm eq_comm

end Load

namespace Loading

theorem eq_map_of_extended? {n : Node} {m : Mapping} (h : extended? n = some m) :
    n = .map m := by
  unfold extended? at h
  split at h
  · split at h
    · cases h
      rfl
    · cases h
  · cases h

variable {c : Loader} {base name t : String} {q u : Progress}

theorem fails_fetch {failure : ImportFailure}
    (h : c.resolver q.records.length t base = .error failure) :
    Fails (fetch c base name t) q (.failedImport t base failure) q := by
  simp only [fetch, fails_bind, fails_get, returns_get, false_or]
  refine ⟨q, q, ⟨rfl, rfl⟩, .inl ?_⟩
  rw [h]
  exact Load.fails_ofExcept.mpr ⟨rfl, rfl⟩

theorem returns_fetch {fetched : Fetched} :
    Returns (fetch c base name t) q fetched u ↔
      c.resolver q.records.length t base = .ok fetched ∧
        u = { q with records := q.records ++
          [⟨name, base, fetched.resolved, digestText fetched.raw⟩] } := by
  simp only [fetch, returns_bind, returns_get, Load.returns_ofExcept, returns_set, returns_pure]
  constructor
  · rintro ⟨p, p', ⟨hp, hp'⟩, fetched', p'', ⟨hr, hp''⟩, _, _, rfl, rfl, rfl⟩
    rw [hp] at hr ⊢
    cases hc : c.resolver q.records.length t base with
    | error failure =>
      rw [hc] at hr
      cases hr
    | ok found =>
      rw [hc] at hr
      cases hr
      exact ⟨rfl, rfl⟩
  · rintro ⟨hc, rfl⟩
    refine ⟨q, q, ⟨rfl, rfl⟩, fetched, q, ⟨?_, rfl⟩, (), _, rfl, rfl, rfl⟩
    rw [hc]
    rfl

end Loading

structure Site where
  budget : Nat
  map : Mapping
  location : String
  origin? : Option Location
  progress : Progress

namespace Site

open Loading

def base (s : Site) : String := declaredLocation s.map s.location

def root (c : Loader) (m : Mapping) (location : String) : Site :=
  ⟨c.limit + 1, m, location, none, .start⟩

def load (c : Loader) (s : Site) : Load Document := c.loadWithin s.budget s.map s.location

structure Declares (s : Site) (k : Nat) (defs imports : Mapping) : Prop where
  within : s.budget = k + 1
  defined : declared s.map defsKey s.base = .ok defs
  imported : declared s.map importsKey s.base = .ok imports
  checked : ∃ params, Param.declarations (Entries.find? paramsKey s.map) s.base = .ok params ∧
    checkNames defs imports params s.base = .ok ()

def defineAll (c : Loader) (s : Site) (k : Nat) (defs : Mapping) : Load Scope :=
  defs.foldlM (fun scope (name, n) => define c (c.loadWithin k) s.base scope name n) .empty

def importAll (c : Loader) (s : Site) (k : Nat) (imports : Mapping) (scope : Scope) : Load Scope :=
  imports.foldlM (fun scope (name, n) => addImport c (c.loadWithin k) s.base scope name n) scope

def ReachesDefinition (c : Loader) (s : Site) (k : Nat) (name : String) (n : Node) (scope : Scope)
    (q : Progress) : Prop :=
  ∃ before after imports, s.Declares k (before ++ (name, n) :: after) imports ∧
    Returns (s.defineAll c k before) s.progress scope q

def ReachesImport (c : Loader) (s : Site) (k : Nat) (name : String) (n : Node) (scope : Scope)
    (q : Progress) : Prop :=
  ∃ defs before after defined p, s.Declares k defs (before ++ (name, n) :: after) ∧
    Returns (s.defineAll c k defs) s.progress defined p ∧
      Returns (s.importAll c k before defined) p scope q

def Requests (c : Loader) (s : Site) (t : String) : Prop :=
  ∃ k name n scope q, s.ReachesImport c k name n scope q ∧ target s.base scope name n = .ok t

inductive Step (c : Loader) : Site → Site → Prop
  | inline {s : Site} {k : Nat} {name : String} {n : Node} {m : Mapping} {scope : Scope}
      {q : Progress} :
      s.ReachesDefinition c k name n scope q → extended? n = some m →
      Step c s ⟨k, m, s.base, s.origin?, q⟩
  | imported {s : Site} {k : Nat} {name t : String} {n : Node} {m : Mapping} {scope : Scope}
      {q u : Progress} {l : Location} {fetched : Fetched} :
      s.ReachesImport c k name n scope q → target s.base scope name n = .ok t →
      Location.resolve t s.base = .ok l → Returns (fetch c s.base name t) q fetched u →
      extended? fetched.parsed = some m →
      Step c s ⟨k, m, fetched.resolved, some l, u⟩

variable {c : Loader} {s s' : Site} {k : Nat} {name : String} {n : Node} {scope : Scope}
  {q u : Progress} {e : Error}

theorem fails_load {defs imports : Mapping} (h : s.Declares k defs imports)
    (hf : Fails (s.defineAll c k defs) s.progress e u ∨
      ∃ scope q, Returns (s.defineAll c k defs) s.progress scope q ∧
        Fails (s.importAll c k imports scope) q e u) : Fails (s.load c) s.progress e u := by
  obtain ⟨params, hp, hn⟩ := h.checked
  rw [load, h.within, Loader.loadWithin, document]
  simp only [fails_bind]
  refine .inr ⟨defs, _, Load.returns_ofExcept.mpr ⟨h.defined, rfl⟩, ?_⟩
  refine .inr ⟨imports, _, Load.returns_ofExcept.mpr ⟨h.imported, rfl⟩, ?_⟩
  refine .inr ⟨params, _, Load.returns_ofExcept.mpr ⟨hp, rfl⟩, ?_⟩
  refine .inr ⟨(), _, Load.returns_ofExcept.mpr ⟨hn, rfl⟩, ?_⟩
  rcases hf with hf | ⟨scope, q, hd, hf⟩
  · exact .inl hf
  · exact .inr ⟨scope, q, hd, .inl hf⟩

theorem fails_load_of_definition (h : s.ReachesDefinition c k name n scope q)
    (hf : Fails (define c (c.loadWithin k) s.base scope name n) q e u) :
    Fails (s.load c) s.progress e u := by
  obtain ⟨before, after, imports, hd, hb⟩ := h
  refine fails_load hd (.inl ?_)
  exact fails_foldlM_of_reached hb hf

theorem fails_load_of_import (h : s.ReachesImport c k name n scope q)
    (hf : Fails (addImport c (c.loadWithin k) s.base scope name n) q e u) :
    Fails (s.load c) s.progress e u := by
  obtain ⟨defs, before, after, defined, p, hd, hdefs, hb⟩ := h
  refine fails_load hd (.inr ⟨defined, p, hdefs, ?_⟩)
  exact fails_foldlM_of_reached hb hf

theorem Step.fails (h : Step c s s') (hf : Fails (s'.load c) s'.progress e u) :
    Fails (s.load c) s.progress e u := by
  cases h with
  | inline hr hx =>
    apply fails_load_of_definition hr
    simp only [define, definition, hx, fails_bind]
    exact .inl (.inl hf)
  | imported hr ht hl hfetch hx =>
    apply fails_load_of_import hr
    simp only [addImport, fails_bind]
    refine .inr ⟨_, _, Load.returns_ofExcept.mpr ⟨ht, rfl⟩, .inr ⟨_, _, hfetch, ?_⟩⟩
    simp only [hx, fails_bind, fails_map]
    exact .inl hf

theorem fails_of_reaches (h : Relation.ReflTransGen (Step c) s s')
    (hf : Fails (s'.load c) s'.progress e u) : Fails (s.load c) s.progress e u := by
  induction h using Relation.ReflTransGen.head_induction_on with
  | refl => exact hf
  | head hs _ ih => exact hs.fails ih

end Site

end InfraTemplate
