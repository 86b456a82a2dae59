import InfraTemplate.Proofs.OwnNames
import InfraTemplate.Proofs.Written
import Mathlib.Data.List.Forall2

/-!
The loop over the entries of a map. As it cannot have a filter, it has one result for each entry, and
the results get the keys of their entries back.
-/

namespace InfraTemplate

namespace Collection

def entryItem (e : String × Node) : Node := .map [("key", .string e.1), ("value", e.2)]

structure Binds (inner env : Env) (name : String) (item : Node) (i : Nat) : Prop where
  item : inner.scope.find? name = some (.value item)
  index : inner.scope.find? (name ++ "Idx") = some (.value (.ofNat i))
  others : ∀ other, other ≠ name → other ≠ name ++ "Idx" →
    inner.scope.find? other = env.scope.find? other
  rest : inner.withScope env.scope = env

theorem binds_loopEnv (env : Env) (name : String) (item : Node) (i : Nat) :
    Binds (loopEnv env name item i) env name item i := by
  have hne : name ≠ name ++ "Idx" := fun he => by
    have hlength := congrArg String.length he
    rw [String.length_append, show "Idx".length = 3 from rfl] at hlength
    omega
  have hfind (other : String) : (loopEnv env name item i).scope.find? other =
      if other = name ++ "Idx" then some (.value (.ofNat i))
      else if other = name then some (.value item) else env.scope.find? other := by
    rw [loopEnv, Env.extend, Scope.find?_extend, Entries.find?_ofPairs]
    simp only [List.reverse_cons, List.reverse_nil, List.nil_append, List.singleton_append,
      Entries.find?_cons, Entries.find?_nil]
    split_ifs <;> rfl
  constructor
  · rw [hfind, if_neg hne, if_pos rfl]
  · rw [hfind, if_pos rfl]
  · intro other hname hindex
    rw [hfind, if_neg hindex, if_neg hname]
  · rfl

end Collection

open Collection

theorem Tag.unfiltered_of_ofPayload {payload : Node} {t : Tag Node}
    (h : ofPayload LoopKind.mapValues.name payload = .ok t) :
    ∃ l, t = .loop .mapValues l ∧ l.filter? = none := by
  have hloop : Payload.asLoop .mapValues payload = .ok t := h
  obtain ⟨_, items, template, v, -, -, -, -, hfilter, rfl⟩ := Payload.asLoop_eq_ok.mp hloop
  refine ⟨_, rfl, Option.not_isSome_iff_eq_none.mp fun hf => ?_⟩
  cases hfilter hf

theorem flatten_mapM_singleton {α β : Type} {m : Type → Type} [Monad m] [LawfulMonad m] (f : α → m β)
    (xs : List α) : List.flatten <$> xs.mapM (fun x => (fun b => [b]) <$> f x) = xs.mapM f := by
  induction xs with
  | nil => simp
  | cons x xs ih => simp [← ih]

namespace Evaluator

variable {ev : Evaluator} {l : Loop Node} {path : Path} {env : Env} {s u : Sections}

theorem run_unfiltered (hl : l.filter? = none) (xs : List Node) : ev.run l xs path env =
    xs.zipIdx.mapM fun e => ev.node l.template (path.item e.2) (loopEnv env l.loopVar e.1 e.2) := by
  rw [← flatten_mapM_singleton]
  simp only [run, hl, pure_bind, if_true, bind_pure_comp]

theorem map_or_null_of_mapValues {v : Node} (h : Returns (ev.mapValues l path env) s v u) :
    ∃ (x : Node) (entries : Mapping) (t : Sections) (results : List Node),
      Returns (ev.node l.items (path.child "items") env) s x t ∧
      (x = .map entries ∨ x = .null ∧ entries = []) ∧
      Returns (ev.run l (entries.map entryItem) path env) t results u ∧
      v = .map ((Entries.keys entries).zip results) := by
  obtain ⟨x, t, hx, h⟩ := returns_bind.mp h
  have after (entries : Mapping) (h : Returns (ev.run l (entries.map entryItem) path env >>=
      fun results => pure (.map ((Entries.keys entries).zip results))) t v u) :
      ∃ results, Returns (ev.run l (entries.map entryItem) path env) t results u ∧
        v = .map ((Entries.keys entries).zip results) := by
    obtain ⟨results, _, hrun, h⟩ := returns_bind.mp h
    obtain ⟨rfl, rfl⟩ := returns_pure.mp h
    exact ⟨results, hrun, rfl⟩
  cases x with
  | map m =>
    obtain ⟨results, hrun⟩ := after m h
    exact ⟨_, m, t, results, hx, .inl rfl, hrun⟩
  | null =>
    obtain ⟨results, hrun⟩ := after [] h
    exact ⟨_, [], t, results, hx, .inr ⟨rfl, rfl⟩, hrun⟩
  | bool _ | number _ | string _ | seq _ | tag _ | document _ =>
    obtain ⟨_, _, hitems, -⟩ := returns_bind.mp h
    exact absurd hitems Eval.returns_malformed

structure Replaces (l : Loop Node) (path : Path) (env : Env) (e : String × Node) (i : Nat)
    (result : String × Node) : Prop where
  key : result.1 = e.1
  value : ∃ k s t, Returns ((upTo k).node l.template (path.item i)
    (loopEnv env l.loopVar (entryItem e) i)) s result.2 t
  binds : Binds (loopEnv env l.loopVar (entryItem e) i) env l.loopVar (entryItem e) i

theorem forall₂_replaces {k i : Nat} {entries : Mapping} {results : List Node}
    (h : Returns (((entries.map entryItem).zipIdx i).mapM fun e =>
      (upTo k).node l.template (path.item e.2) (loopEnv env l.loopVar e.1 e.2)) s results u) :
    List.Forall₂ (fun e r => Replaces l path env e.1 e.2 r) (entries.zipIdx i)
      ((Entries.keys entries).zip results) := by
  induction entries generalizing s i results with
  | nil => exact .nil
  | cons e entries ih =>
    rw [List.map_cons, List.zipIdx_cons] at h
    obtain ⟨y, t, rest, hy, hrest, rfl⟩ := returns_mapM_cons.mp h
    exact .cons ⟨rfl, ⟨k, s, t, hy⟩, binds_loopEnv ..⟩ (ih hrest)

theorem mapValues_aligned {payload v : Node} {t : Tag Node} {k : Nat}
    (ht : Tag.ofPayload LoopKind.mapValues.name payload = .ok t)
    (h : Returns ((upTo k).node (.tag t) path env) s v u) :
    ∃ (l : Loop Node) (entries results : Mapping), t = .loop .mapValues l ∧
      (∃ k x s', Returns ((upTo k).node l.items (path.child "items") env) s x s' ∧
        (x = .map entries ∨ x = .null ∧ entries = [])) ∧
      v = .map results ∧ Entries.keys results = Entries.keys entries ∧
      List.Forall₂ (fun e r => Replaces l path env e.1 e.2 r) entries.zipIdx results := by
  obtain ⟨l, rfl, hl⟩ := Tag.unfiltered_of_ofPayload ht
  cases k with
  | zero => exact absurd h Eval.returns_unfinished
  | succ k =>
    change Returns ((upTo k).mapValues l path env) s v u at h
    obtain ⟨x, entries, s', results, hx, hentries, hrun, rfl⟩ := map_or_null_of_mapValues h
    rw [run_unfiltered hl] at hrun
    have hall := forall₂_replaces hrun
    have hlength : (Entries.keys entries).length ≤ results.length := by
      have hzip := hall.length_eq
      rw [List.length_zipIdx, List.length_zip, Entries.keys, List.length_map] at hzip
      rw [Entries.keys, List.length_map, hzip]
      exact Nat.min_le_right ..
    exact ⟨l, entries, _, rfl, ⟨k, x, s', hx, hentries⟩, rfl, List.map_fst_zip hlength, hall⟩

-- Its results tell from which entry they are.
def portLoop : Loop Node where
  items := .map [("http", .ofNat 80), ("ssh", .ofNat 22)]
  template := .seq [.tag (.lookup "port.key"), .tag (.lookup "port.value"), .tag (.lookup "portIdx")]
  varName? := some "port"
  filter? := none

theorem mapValues_aligned_ports : ∃ (v : Node) (entries results : Mapping),
    v = .map [("http", .seq [.string "http", .ofNat 80, .ofNat 0]),
      ("ssh", .seq [.string "ssh", .ofNat 22, .ofNat 1])] ∧
    Tag.ofPayload LoopKind.mapValues.name ((Tag.loop .mapValues portLoop).payload Node.builder) =
      .ok (.loop .mapValues portLoop) ∧
    Returns ((upTo 4).node (.tag (.loop .mapValues portLoop)) Path.root
      (Env.root .empty "t.yaml" 1)) [] v [] ∧
    v = .map results ∧ Entries.keys results = Entries.keys entries ∧
    List.Forall₂ (fun e r => Replaces portLoop Path.root (Env.root .empty "t.yaml" 1) e.1 e.2 r)
      entries.zipIdx results := by
  have ht : Tag.ofPayload LoopKind.mapValues.name
      ((Tag.loop .mapValues portLoop).payload Node.builder) = .ok (.loop .mapValues portLoop) := rfl
  have h : Returns ((upTo 4).node (.tag (.loop .mapValues portLoop)) Path.root
      (Env.root .empty "t.yaml" 1)) []
      (.map [("http", .seq [.string "http", .ofNat 80, .ofNat 0]),
        ("ssh", .seq [.string "ssh", .ofNat 22, .ofNat 1])]) [] := by
    with_unfolding_all rfl
  obtain ⟨l, entries, results, hl, -, hv, hkeys, hall⟩ := mapValues_aligned ht h
  cases hl
  exact ⟨_, entries, results, rfl, ht, h, hv, hkeys, hall⟩

end Evaluator

end InfraTemplate
