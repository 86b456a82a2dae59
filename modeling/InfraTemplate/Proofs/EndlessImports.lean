import InfraTemplate.Proofs.Accumulation
import InfraTemplate.Proofs.RaisedLimit
import Mathlib.Data.List.Induction

namespace InfraTemplate

section Ending

variable {σ α β : Type} {s t : σ}

def Settles (m : Nat → Stateful σ α) (s : σ) (r : Except Error α) (t : σ) : Prop :=
  ∃ k, ∀ j, k ≤ j → (m j).run s = some (r, t)

def Ends (m : Nat → Stateful σ α) (s : σ) : Prop := ∃ r t, Settles m s r t

theorem ends_of_run {m : Nat → Stateful σ α} {r : Except Error α}
    (h : ∀ j, (m j).run s = some (r, t)) : Ends m s :=
  ⟨r, t, 0, fun j _ => h j⟩

theorem ends_pure (a : α) (s : σ) : Ends (fun _ => (pure a : Stateful σ α)) s :=
  ends_of_run fun _ => rfl

theorem Settles.returns {m : Nat → Stateful σ α} {a : α} (h : Settles m s (.ok a) t) :
    ∃ k, Returns (m k) s a t := by
  obtain ⟨k, hk⟩ := h
  exact ⟨k, hk k (Nat.le_refl k)⟩

theorem Ends.bind {m : Nat → Stateful σ α} {f : Nat → α → Stateful σ β} (hm : Ends m s)
    (hf : ∀ a t, Settles m s (.ok a) t → Ends (fun j => f j a) t) :
    Ends (fun j => m j >>= f j) s := by
  obtain ⟨r, t, k, hk⟩ := hm
  cases r with
  | error e =>
    refine ⟨.error e, t, k, fun j hj => ?_⟩
    rw [run_bind, hk j hj]
    rfl
  | ok a =>
    obtain ⟨r, u, l, hl⟩ := hf a t ⟨k, hk⟩
    refine ⟨r, u, max k l, fun j hj => ?_⟩
    rw [run_bind, hk j (by omega)]
    exact hl j (by omega)

theorem ends_foldlM {f : Nat → β → α → Stateful σ β} {xs : List α} {b : β}
    (h : ∀ before x after c t, xs = before ++ x :: after →
      Settles (fun j => before.foldlM (f j) b) s (.ok c) t → Ends (fun j => f j c x) t) :
    Ends (fun j => xs.foldlM (f j) b) s := by
  induction xs using List.reverseRecOn with
  | nil => exact ends_pure b s
  | append_singleton xs x ih =>
    have hxs : Ends (fun j => xs.foldlM (f j) b) s := by
      refine ih fun before y after c t he hb => ?_
      exact h before y (after ++ [x]) c t (by rw [he, List.append_assoc]; rfl) hb
    simp only [List.foldlM_append]
    refine hxs.bind fun c t hc => ?_
    simp only [List.foldlM_cons, List.foldlM_nil]
    exact (h xs x [] c t rfl hc).bind fun c t _ => ends_pure c t

end Ending

structure Arrival where
  map : Mapping
  location : String
  progress : Progress

def Arrival.base (a : Arrival) : String := Loading.declaredLocation a.map a.location

namespace Loading

structure Header (a : Arrival) (defs imports : Mapping) : Prop where
  definitions : declared a.map defsKey a.base = .ok defs
  importing : declared a.map importsKey a.base = .ok imports
  checked : ∃ params, Param.declarations (Entries.find? paramsKey a.map) a.base = .ok params ∧
    checkNames defs imports params a.base = .ok ()

abbrev defineAll (c : Loader) (k : Nat) (base : String) (defs : Mapping) (scope : Scope) :
    Load Scope :=
  defs.foldlM (fun scope (name, n) => define c (c.loadWithin k) base scope name n) scope

abbrev importAll (c : Loader) (k : Nat) (base : String) (imports : Mapping) (scope : Scope) :
    Load Scope :=
  imports.foldlM (fun scope (name, n) => addImport c (c.loadWithin k) base scope name n) scope

section Following

variable (resolver : Resolver) (limit : Nat)

inductive Opens (k : Nat) (a : Arrival) : Arrival → Prop
  | definition {i : Nat} {defs imports before after m : Mapping} {name : String} {n : Node}
      {scope : Scope} {q : Progress} (header : Header a defs imports)
      (split : defs = before ++ (name, n) :: after)
      (defined : Returns (defineAll ⟨.upTo i, resolver, limit⟩ k a.base before .empty)
        a.progress scope q)
      (extended : extended? n = some m) : Opens k a ⟨m, a.base, q⟩
  | imported {i : Nat} {defs imports before after m : Mapping} {name t : String} {n : Node}
      {defined scope : Scope} {q r : Progress} {fetched : Fetched} (header : Header a defs imports)
      (split : imports = before ++ (name, n) :: after)
      (defines : Returns (defineAll ⟨.upTo i, resolver, limit⟩ k a.base defs .empty)
        a.progress defined q)
      (binds : Returns (importAll ⟨.upTo i, resolver, limit⟩ k a.base before defined) q scope r)
      (located : target a.base scope name n = .ok t)
      (resolved : resolver r.records.length t a.base = .ok fetched)
      (extended : extended? fetched.parsed = some m) :
      Opens k a ⟨m, fetched.resolved, r.fetched (fetched.record name a.base)⟩

inductive Evaluates (k : Nat) (a : Arrival) : Call → Sections → Prop
  | intro {i : Nat} {defs imports before after : Mapping} {name : String} {n : Node}
      {scope : Scope} {q : Progress} (header : Header a defs imports)
      (split : defs = before ++ (name, n) :: after)
      (defined : Returns (defineAll ⟨.upTo i, resolver, limit⟩ k a.base before .empty)
        a.progress scope q)
      (plain : extended? n = none) :
      Evaluates k a ⟨n, (Path.root.child defsKey).child name, Env.root scope a.base limit⟩ q.sections

def Meets : Nat → Arrival → Call → Sections → Prop
  | 0, _, _, _ => False
  | k + 1, a, x, s =>
    Evaluates resolver limit k a x s ∨ ∃ b, Opens resolver limit k a b ∧ Meets k b x s

end Following

section Ending

variable {resolver : Resolver} {limit k : Nat}

theorem ends_ofEval {m : Nat → Eval Node} {p : Progress} {o : Except Error Node × Sections}
    (h : ∃ i, ∀ j, i ≤ j → (m j).outcome p.sections = some o) :
    Ends (fun j => Load.ofEval (m j)) p := by
  obtain ⟨i, hi⟩ := h
  refine ⟨o.1, { p with sections := o.2 }, i, fun j hj => ?_⟩
  change ((m j).outcome p.sections).bind _ = _
  rw [hi j hj]
  rfl

theorem ends_bind1 (scope : Scope) (name : String) (b : Bound) (p : Progress) :
    Ends (fun _ => Load.bind1 scope name b) p :=
  ends_of_run fun _ => rfl

theorem ends_ofExcept_bind {α β : Type} {r : Except Error α} {f : Nat → α → Load β} {p : Progress}
    (h : ∀ a, r = .ok a → Ends (fun j => f j a) p) : Ends (fun j => Load.ofExcept r >>= f j) p := by
  cases r with
  | error e =>
    refine ends_of_run (r := .error e) (t := p) fun j => ?_
    exact fails_bind.mpr (.inl (Load.fails_ofExcept.mpr ⟨rfl, rfl⟩))
  | ok a => exact h a rfl

theorem ends_fetch (base name t : String) (p : Progress) :
    Ends (fun j => fetch ⟨.upTo j, resolver, limit⟩ base name t) p := by
  cases h : resolver p.records.length t base with
  | error failure =>
    exact ends_of_run fun j => fails_fetch (c := ⟨.upTo j, resolver, limit⟩) h
  | ok fetched =>
    refine ends_of_run (r := .ok fetched) (t := p.fetched (fetched.record name base)) fun j => ?_
    exact (returns_fetch (c := ⟨.upTo j, resolver, limit⟩)).mpr ⟨h, rfl⟩

theorem ends_define {base name : String} {scope : Scope} {n : Node} {q : Progress}
    (hnested : ∀ m, extended? n = some m →
      Ends (fun j => Loader.loadWithin ⟨.upTo j, resolver, limit⟩ k m base) q)
    (hvalue : extended? n = none → ∃ i, ((Evaluator.upTo i).node n
      ((Path.root.child defsKey).child name) (Env.root scope base limit)).outcome q.sections ≠ none) :
    Ends (fun j => define ⟨.upTo j, resolver, limit⟩
      (Loader.loadWithin ⟨.upTo j, resolver, limit⟩ k) base scope name n) q := by
  refine Ends.bind ?_ fun v t _ => ends_bind1 ..
  unfold definition
  cases hx : extended? n with
  | some m => exact (hnested m hx).bind fun d t _ => ends_pure ..
  | none =>
    obtain ⟨i, hi⟩ := hvalue hx
    obtain ⟨o, ho⟩ := Option.ne_none_iff_exists'.mp hi
    exact ends_ofEval ⟨i, fun j hj => Evaluator.outcome_upTo_mono hj ho⟩

theorem ends_addImport {base name : String} {scope : Scope} {n : Node} {q : Progress}
    (hnested : ∀ t fetched m, target base scope name n = .ok t →
      resolver q.records.length t base = .ok fetched → extended? fetched.parsed = some m →
      Ends (fun j => Loader.loadWithin ⟨.upTo j, resolver, limit⟩ k m fetched.resolved)
        (q.fetched (fetched.record name base))) :
    Ends (fun j => addImport ⟨.upTo j, resolver, limit⟩
      (Loader.loadWithin ⟨.upTo j, resolver, limit⟩ k) base scope name n) q := by
  refine ends_ofExcept_bind fun t ht => ?_
  refine (ends_fetch base name t q).bind fun fetched u hs => ?_
  obtain ⟨_, hr⟩ := hs.returns
  obtain ⟨hf, hu⟩ := returns_fetch.mp hr
  subst u
  cases hx : extended? fetched.parsed with
  | some m =>
    simp only [map_eq_pure_bind, bind_assoc, pure_bind]
    exact (hnested t fetched m ht hf hx).bind fun d t _ => ends_bind1 ..
  | none =>
    simp only [pure_bind]
    exact ends_bind1 ..

theorem ends_loadWithin {a : Arrival}
    (h : ∀ x s, Meets resolver limit k a x s →
      ∃ i, ((Evaluator.upTo i).node x.node x.path x.env).outcome s ≠ none) :
    Ends (fun j => Loader.loadWithin ⟨.upTo j, resolver, limit⟩ k a.map a.location) a.progress := by
  -- By induction on how deep documents may still be nested.
  induction k generalizing a with
  | zero =>
    refine ends_of_run (r := .error (.tooDeep limit a.location [])) (t := a.progress) fun j => ?_
    exact fails_throw.mpr ⟨rfl, rfl⟩
  | succ k ih =>
    have inner {b : Arrival} (hb : Opens resolver limit k a b) :
        Ends (fun j => Loader.loadWithin ⟨.upTo j, resolver, limit⟩ k b.map b.location) b.progress :=
      ih fun x s hx => h x s (.inr ⟨b, hb, hx⟩)
    refine ends_ofExcept_bind fun defs hdefs => ?_
    refine ends_ofExcept_bind fun imports himports => ?_
    refine ends_ofExcept_bind fun params hparams => ?_
    refine ends_ofExcept_bind fun _ hchecked => ?_
    have header : Header a defs imports := ⟨hdefs, himports, params, hparams, hchecked⟩
    refine Ends.bind (ends_foldlM ?_) fun defined q hq => ?_
    · intro before e after scope q split hbefore
      obtain ⟨i, hbefore⟩ := hbefore.returns
      refine ends_define (fun m hx => ?_) fun hx => ?_
      · exact inner (.definition (i := i) header split hbefore hx)
      · exact h _ _ (.inl (.intro (i := i) header split hbefore hx))
    refine Ends.bind (ends_foldlM ?_) fun final r _ => ends_pure ..
    intro before e after scope r split hbefore
    obtain ⟨i, hi⟩ := hq
    obtain ⟨l, hl⟩ := hbefore
    refine ends_addImport fun t fetched m ht hf hx => ?_
    refine inner (b := ⟨m, fetched.resolved, r.fetched (fetched.record e.1 a.base)⟩) ?_
    exact .imported (i := max i l) header split (hi _ (Nat.le_max_left ..))
      (hl _ (Nat.le_max_right ..)) ht hf hx

end Ending

section Bounded

variable {resolver : Resolver} {limit i j k l : Nat} {base : String} {p q q' : Progress}
  {scope final final' : Scope}

theorem defineAll_raised {defs : Mapping} (hi : i ≤ j) (hk : k ≤ l)
    (h : Returns (defineAll ⟨.upTo i, resolver, limit⟩ k base defs scope) p final q) :
    Returns (defineAll ⟨.upTo j, resolver, limit⟩ l base defs scope) p final q := by
  obtain ⟨edges, hd⟩ := (returns_defineAll fun _ _ _ _ _ => Loader.returns_loadWithin).mp h
  refine (returns_defineAll fun _ _ _ _ _ => Loader.returns_loadWithin).mpr ⟨edges, ?_⟩
  refine hd.mono (fun _ _ _ _ _ hg => hg.raised hi (Nat.le_refl limit) hk) ?_
  intro n path scope location s v t
  exact Evaluator.returns_upTo_mono hi

theorem importAll_raised {imports : Mapping} (hi : i ≤ j) (hk : k ≤ l)
    (h : Returns (importAll ⟨.upTo i, resolver, limit⟩ k base imports scope) p final q) :
    Returns (importAll ⟨.upTo j, resolver, limit⟩ l base imports scope) p final q := by
  obtain ⟨edges, hb⟩ := (returns_importAll fun _ _ _ _ _ => Loader.returns_loadWithin).mp h
  refine (returns_importAll fun _ _ _ _ _ => Loader.returns_loadWithin).mpr ⟨edges, ?_⟩
  exact hb.mono fun _ _ _ _ _ hg => hg.raised hi (Nat.le_refl limit) hk

theorem defineAll_unique {defs : Mapping}
    (h : Returns (defineAll ⟨.upTo i, resolver, limit⟩ k base defs scope) p final q)
    (h' : Returns (defineAll ⟨.upTo j, resolver, limit⟩ l base defs scope) p final' q') :
    final = final' ∧ q = q' :=
  (defineAll_raised (Nat.le_max_left i j) (Nat.le_max_left k l) h).unique
    (defineAll_raised (Nat.le_max_right i j) (Nat.le_max_right k l) h')

theorem importAll_unique {imports : Mapping}
    (h : Returns (importAll ⟨.upTo i, resolver, limit⟩ k base imports scope) p final q)
    (h' : Returns (importAll ⟨.upTo j, resolver, limit⟩ l base imports scope) p final' q') :
    final = final' ∧ q = q' :=
  (importAll_raised (Nat.le_max_left i j) (Nat.le_max_left k l) h).unique
    (importAll_raised (Nat.le_max_right i j) (Nat.le_max_right k l) h')

theorem returns_of_opens {a b : Arrival} {d : Document}
    (h : Returns (Loader.loadWithin ⟨.upTo i, resolver, limit⟩ (k + 1) a.map a.location)
      a.progress d q) (hb : Opens resolver limit l a b) :
    ∃ d q, Returns (Loader.loadWithin ⟨.upTo i, resolver, limit⟩ k b.map b.location)
      b.progress d q := by
  simp only [Loader.loadWithin, document, returns_bind, Load.returns_ofExcept, returns_pure] at h
  obtain ⟨defs, _, ⟨hdefs, rfl⟩, imports, _, ⟨himports, rfl⟩, params, _, ⟨-, rfl⟩, _, _, ⟨-, rfl⟩,
    defined, u, hdefine, final, v, himport, -, -⟩ := h
  cases hb with
  | definition header split hbefore extended =>
    cases header.definitions.symm.trans hdefs
    rw [split, List.foldlM_append, returns_bind] at hdefine
    obtain ⟨scope, w, hfront, hrest⟩ := hdefine
    obtain ⟨rfl, rfl⟩ := defineAll_unique hbefore hfront
    rw [List.foldlM_cons, returns_bind] at hrest
    obtain ⟨_, _, hdefined, -⟩ := hrest
    rcases (returns_define fun _ _ _ _ _ => Loader.returns_loadWithin).mp hdefined with
      ⟨m, g, w', hx, hg, -⟩ | ⟨_, _, hx, -⟩
    · cases extended.symm.trans hx
      exact ⟨_, w', Loader.returns_loadWithin.mpr ⟨g, hg, rfl⟩⟩
    · cases extended.symm.trans hx
  | imported header split hdefines hbefore located resolved extended =>
    cases header.definitions.symm.trans hdefs
    cases header.importing.symm.trans himports
    obtain ⟨rfl, rfl⟩ := defineAll_unique hdefines hdefine
    rw [split, List.foldlM_append, returns_bind] at himport
    obtain ⟨scope, w, hfront, hrest⟩ := himport
    obtain ⟨rfl, rfl⟩ := importAll_unique hbefore hfront
    rw [List.foldlM_cons, returns_bind] at hrest
    obtain ⟨_, _, hbound, -⟩ := hrest
    obtain ⟨t, fetched, ht, hf, hvalue⟩ :=
      (returns_addImport fun _ _ _ _ _ => Loader.returns_loadWithin).mp hbound
    cases located.symm.trans ht
    cases resolved.symm.trans hf
    rcases hvalue with ⟨m, g, w', hx, hg, -⟩ | ⟨hx, -⟩
    · cases extended.symm.trans hx
      exact ⟨_, w', Loader.returns_loadWithin.mpr ⟨g, hg, rfl⟩⟩
    · cases extended.symm.trans hx

theorem lt_of_chain {n : Nat} (arrivals : Nat → Arrival) {d : Document}
    (h : Returns (Loader.loadWithin ⟨.upTo i, resolver, limit⟩ k (arrivals 0).map
      (arrivals 0).location) (arrivals 0).progress d q)
    (hc : ∀ i < n, ∃ l, Opens resolver limit l (arrivals i) (arrivals (i + 1))) : n < k := by
  induction k generalizing n arrivals d q with
  | zero => exact absurd h returns_throw
  | succ k ih =>
    cases n with
    | zero => exact Nat.succ_pos k
    | succ n =>
      obtain ⟨l, hl⟩ := hc 0 (Nat.succ_pos n)
      obtain ⟨d', q', h'⟩ := returns_of_opens h hl
      have hrest := ih (fun i => arrivals (i + 1)) h' fun i hi =>
        hc (i + 1) (Nat.succ_lt_succ hi)
      exact Nat.succ_lt_succ hrest

end Bounded

end Loading

inductive ImportGraph.Leads : Nat → ImportGraph → ImportGraph → Prop
  | self {g : ImportGraph} : Leads 0 g g
  | hop {g h h' : ImportGraph} {e : ImportEdge} {n : Nat} (mem : e ∈ g.edges)
      (ends : e.end? = some h) (more : Leads n h h') : Leads (n + 1) g h'

theorem Loader.Loads.lt_of_leads {c : Loader} {k n : Nat} {m : Mapping} {location : String}
    {p q : Progress} {g h : ImportGraph} (hg : c.Loads k m location p g q) (hl : g.Leads n h) :
    n < k := by
  induction k generalizing n m location p q g with
  | zero => exact hg.elim
  | succ k ih =>
    cases hl with
    | self => exact Nat.succ_pos k
    | hop mem ends more =>
      obtain ⟨_, _, _, hnested⟩ := Loading.OfDocument.nested_of_edge hg mem ends
      exact Nat.succ_lt_succ (ih hnested more)

open Loading in
/-- A load that returns has followed definitions and imports into one another no more often than the
limit allows. A load ends if all that it evaluates does; so where imports can be followed forever it
ends with an error. -/
theorem endless_imports_rejected (resolver : Resolver) (limit : Nat) (m : Mapping)
    (location : String) (p : Progress) :
    (∀ k d q, Returns (Loader.load ⟨.upTo k, resolver, limit⟩ m location) p d q →
      (∃ g, Loader.Loads ⟨.upTo k, resolver, limit⟩ (limit + 1) m location p g q ∧ g.loaded = d ∧
        ∀ n h, g.Leads n h → n ≤ limit) ∧
      ∀ (n : Nat) (arrivals : Nat → Arrival), arrivals 0 = ⟨m, location, p⟩ →
        (∀ i < n, ∃ l, Opens resolver limit l (arrivals i) (arrivals (i + 1))) → n ≤ limit) ∧
    ((∀ x s, Meets resolver limit (limit + 1) ⟨m, location, p⟩ x s →
        ∃ k, ((Evaluator.upTo k).node x.node x.path x.env).outcome s ≠ none) →
      ∃ r q, Settles (fun k => Loader.load ⟨.upTo k, resolver, limit⟩ m location) p r q ∧
        ∀ arrivals : Nat → Arrival, arrivals 0 = ⟨m, location, p⟩ →
          (∀ i, ∃ l, Opens resolver limit l (arrivals i) (arrivals (i + 1))) → ∃ e, r = .error e) := by
  have hchain {k n : Nat} {arrivals : Nat → Arrival} {d : Document} {q : Progress}
      (h : Returns (Loader.load ⟨.upTo k, resolver, limit⟩ m location) p d q)
      (hstart : arrivals 0 = ⟨m, location, p⟩)
      (hc : ∀ i < n, ∃ l, Opens resolver limit l (arrivals i) (arrivals (i + 1))) : n ≤ limit := by
    refine Nat.le_of_lt_succ (lt_of_chain (i := k) (d := d) (q := q) arrivals ?_ hc)
    rw [hstart]
    exact h
  refine ⟨fun k d q h => ⟨?_, fun n arrivals hstart hc => hchain h hstart hc⟩, fun hends => ?_⟩
  · obtain ⟨g, hg, hd⟩ := Loader.returns_loadWithin.mp h
    exact ⟨g, hg, hd, fun n h hl => Nat.le_of_lt_succ (hg.lt_of_leads hl)⟩
  · obtain ⟨r, q, hsettles⟩ := ends_loadWithin (a := ⟨m, location, p⟩) hends
    refine ⟨r, q, hsettles, fun arrivals hstart hc => ?_⟩
    cases r with
    | error e => exact ⟨e, rfl⟩
    | ok d =>
      obtain ⟨k, h⟩ := hsettles.returns
      have hbound := hchain (n := limit + 1) h hstart fun i _ => hc i
      exact absurd hbound (Nat.not_succ_le_self limit)

section Example

open Loading

def loopMap : Mapping :=
  [(defsKey, .map [("on", .bool true)]), (importsKey, .map [("again", .string "a.yaml")])]

def loopFetched : Fetched := ⟨"a.yaml", .empty, .map loopMap⟩

def loopResolver : Resolver := fun _ _ _ => .ok loopFetched

def loopProgress (i : Nat) : Progress :=
  ⟨[], List.replicate i (loopFetched.record "again" "a.yaml"), i + 1⟩

def loopArrival (i : Nat) : Arrival := ⟨loopMap, "a.yaml", loopProgress i⟩

theorem header_loopMap {a : Arrival} (h : a.map = loopMap) :
    Header a [("on", .bool true)] [("again", .string "a.yaml")] := by
  refine ⟨?_, ?_, [], ?_, rfl⟩
  all_goals rw [h]; rfl

theorem opens_loopArrival (i : Nat) : Opens loopResolver 5 0 (loopArrival i) (loopArrival (i + 1)) := by
  have hnext : loopArrival (i + 1) = ⟨loopMap, loopFetched.resolved,
      (loopProgress i).bound.fetched (loopFetched.record "again" "a.yaml")⟩ := by
    rw [loopArrival, loopProgress, List.replicate_succ']
    rfl
  have hsplit : [("again", Node.string "a.yaml")] = [] ++ ("again", .string "a.yaml") :: [] := rfl
  have hdefine : Returns (defineAll ⟨.upTo 1, loopResolver, 5⟩ 0 "a.yaml" [("on", .bool true)] .empty)
      (loopProgress i) (.frame (i + 1) [("on", .value (.bool true))] .empty)
      (loopProgress i).bound := by
    with_unfolding_all exact rfl
  rw [hnext]
  refine .imported (i := 1) (t := "a.yaml") (header_loopMap rfl) hsplit hdefine
    (returns_pure.mpr ⟨rfl, rfl⟩) ?_ rfl ?_
  all_goals with_unfolding_all exact rfl

theorem node_of_split {e : String × Node} {name : String} {n : Node} {before after : Mapping}
    (h : [e] = before ++ (name, n) :: after) : e = (name, n) := by
  have hmem : (name, n) ∈ [e] := h ▸ List.mem_append_right _ (List.mem_cons_self ..)
  exact (List.mem_singleton.mp hmem).symm

theorem meets_loopMap {k : Nat} {a : Arrival} (ha : a.map = loopMap) {x : Call} {s : Sections}
    (h : Meets loopResolver 5 k a x s) : x.node = .bool true := by
  induction k generalizing a with
  | zero => exact h.elim
  | succ k ih =>
    have header := header_loopMap ha
    rcases h with h | ⟨b, hb, h⟩
    · cases h with
      | intro hd split _ _ =>
        cases header.definitions.symm.trans hd.definitions
        cases node_of_split split
        rfl
    · refine ih ?_ h
      cases hb with
      | definition hd split _ extended =>
        cases header.definitions.symm.trans hd.definitions
        cases node_of_split split
        cases extended
      | imported _ _ _ _ _ resolved extended =>
        cases resolved
        exact (Option.some.inj extended).symm

theorem endless_imports_rejected_loop : ∃ e q,
    Settles (fun k => Loader.load ⟨.upTo k, loopResolver, 5⟩ loopMap "a.yaml") .start
      (.error e) q := by
  obtain ⟨r, q, hsettles, herror⟩ :=
    (endless_imports_rejected loopResolver 5 loopMap "a.yaml" .start).2 fun x s hx => by
      refine ⟨1, ?_⟩
      rw [meets_loopMap rfl hx]
      nofun
  obtain ⟨e, rfl⟩ := herror loopArrival rfl fun i => ⟨0, opens_loopArrival i⟩
  exact ⟨e, q, hsettles⟩

end Example

end InfraTemplate
