import InfraTemplate.Proofs.Contributions
import Mathlib.Algebra.Ring.Nat
import Mathlib.Data.List.Basic
import Mathlib.Data.List.Forall2
import Mathlib.Data.List.Induction

namespace InfraTemplate

namespace Collection

structure Partitions (pairs : Entries Node) (groups : Entries (List Node)) : Prop where
  nodup : (Entries.keys groups).Nodup
  keys : ∀ key, key ∈ Entries.keys groups ↔ key ∈ Entries.keys pairs
  ordered : (Entries.keys groups).Pairwise fun k l =>
    (Entries.keys pairs).idxOf k < (Entries.keys pairs).idxOf l
  members : ∀ key group, (key, group) ∈ groups →
    group = (pairs.filter fun p => p.1 = key).map (·.2)
  nonempty : ∀ g ∈ groups, g.2 ≠ []
  perm : (groups.flatMap (·.2)).Perm (pairs.map (·.2))

section Groups

variable {pairs : Entries Node} {groups : Entries (List Node)} {key : String} {m : Node}

theorem keys_addMember : Entries.keys (addMember key m groups) =
    if key ∈ Entries.keys groups then Entries.keys groups else Entries.keys groups ++ [key] :=
  Entries.keys_put ..

theorem flatMap_addMember_perm (groups : Entries (List Node)) :
    ((addMember key m groups).flatMap (·.2)).Perm (groups.flatMap (·.2) ++ [m]) := by
  induction groups with
  | nil => exact .refl _
  | cons g groups ih =>
    obtain ⟨k, group⟩ := g
    by_cases hk : k = key
    · subst hk
      have hput : addMember k m ((k, group) :: groups) = (k, group ++ [m]) :: groups := by
        rw [addMember, Entries.find?_cons, if_pos rfl, Entries.put, if_pos rfl]
        rfl
      rw [hput, List.flatMap_cons, List.flatMap_cons, List.append_assoc, List.append_assoc]
      exact (List.perm_append_comm).append_left group
    · have hput : addMember key m ((k, group) :: groups) = (k, group) :: addMember key m groups := by
        rw [addMember, Entries.find?_cons, if_neg (Ne.symm hk), Entries.put, if_neg hk]
        rfl
      rw [hput, List.flatMap_cons, List.flatMap_cons, List.append_assoc]
      exact ih.append_left group

theorem Partitions.getD_find? (h : Partitions pairs groups) (key : String) :
    (Entries.find? key groups).getD [] = (pairs.filter fun p => p.1 = key).map (·.2) := by
  cases hf : Entries.find? key groups with
  | some group => exact h.members key group (Entries.mem_of_find? hf)
  | none =>
    have hkey : key ∉ Entries.keys pairs := fun hmem =>
      Entries.find?_eq_none_iff.mp hf ((h.keys key).mpr hmem)
    have hnone : (pairs.filter fun p => p.1 = key) = [] := by
      refine List.filter_eq_nil_iff.mpr fun p hp => ?_
      rw [decide_eq_true_eq]
      rintro rfl
      exact hkey (List.mem_map_of_mem hp)
    rw [hnone]
    rfl

theorem Partitions.ordered_addMember (h : Partitions pairs groups) :
    (Entries.keys (addMember key m groups)).Pairwise fun k l =>
      (Entries.keys pairs ++ [key]).idxOf k < (Entries.keys pairs ++ [key]).idxOf l := by
  have hidx {k : String} (hk : k ∈ Entries.keys groups) :
      (Entries.keys pairs ++ [key]).idxOf k = (Entries.keys pairs).idxOf k :=
    List.idxOf_append_of_mem ((h.keys k).mp hk)
  have hold : (Entries.keys groups).Pairwise fun k l =>
      (Entries.keys pairs ++ [key]).idxOf k < (Entries.keys pairs ++ [key]).idxOf l :=
    h.ordered.imp_of_mem fun hk hl hlt => by rwa [hidx hk, hidx hl]
  rw [keys_addMember]
  split
  · exact hold
  · rename_i hkey
    refine List.pairwise_append.mpr ⟨hold, List.pairwise_singleton .., fun k hk l hl => ?_⟩
    rw [List.mem_singleton.mp hl, hidx hk,
      List.idxOf_append_of_notMem fun hmem => hkey ((h.keys key).mpr hmem)]
    have hlt := List.idxOf_lt_length_iff.mpr ((h.keys k).mp hk)
    exact Nat.lt_add_right _ hlt

theorem partitions_nil : Partitions [] [] where
  nodup := .nil
  keys _ := Iff.rfl
  ordered := .nil
  members _ _ := nofun
  nonempty := nofun
  perm := .nil

theorem Partitions.addMember (h : Partitions pairs groups) (key : String) (m : Node) :
    Partitions (pairs ++ [(key, m)]) (addMember key m groups) := by
  have hpairs : Entries.keys (pairs ++ [(key, m)]) = Entries.keys pairs ++ [key] := List.map_append
  have hnodup : (Entries.keys (Collection.addMember key m groups)).Nodup :=
    Entries.keys_put_nodup h.nodup
  have hkeys (k : String) : k ∈ Entries.keys (Collection.addMember key m groups) ↔
      k ∈ Entries.keys (pairs ++ [(key, m)]) := by
    rw [hpairs, keys_addMember, List.mem_append, List.mem_singleton, ← h.keys]
    split
    · rename_i hmem
      exact ⟨.inl, fun hk => hk.elim id fun hk => hk ▸ hmem⟩
    · rw [List.mem_append, List.mem_singleton]
  have hmembers (k : String) (group : List Node)
      (hg : (k, group) ∈ Collection.addMember key m groups) :
      group = ((pairs ++ [(key, m)]).filter fun p => p.1 = k).map (·.2) := by
    rw [List.filter_append, List.map_append, ← h.getD_find? k]
    have hf := (Entries.find?_eq_some_iff_mem hnodup).mpr hg
    by_cases hk : k = key
    · subst hk
      rw [Collection.addMember, Entries.find?_put_self] at hf
      cases hf
      simp
    · rw [Collection.addMember, Entries.find?_put_of_ne hk] at hf
      simp [hf, Ne.symm hk]
  have hnonempty (g : String × List Node) (hg : g ∈ Collection.addMember key m groups) :
      g.2 ≠ [] := by
    obtain ⟨p, hp, hpg⟩ := List.mem_map.mp ((hkeys g.1).mp (List.mem_map_of_mem hg))
    rw [hmembers g.1 g.2 hg, ne_eq, List.map_eq_nil_iff]
    exact List.ne_nil_of_mem (List.mem_filter.mpr ⟨hp, decide_eq_true hpg⟩)
  have hperm : ((Collection.addMember key m groups).flatMap (·.2)).Perm
      ((pairs ++ [(key, m)]).map (·.2)) := by
    rw [List.map_append]
    exact (flatMap_addMember_perm groups).trans (h.perm.append_right [m])
  exact ⟨hnodup, hkeys, hpairs ▸ h.ordered_addMember, hmembers, hnonempty, hperm⟩

def grouped (pairs : Entries Node) : Entries (List Node) :=
  pairs.foldl (fun groups (key, m) => addMember key m groups) []

theorem partitions_grouped (pairs : Entries Node) : Partitions pairs (grouped pairs) := by
  induction pairs using List.reverseRecOn with
  | nil => exact partitions_nil
  | append_singleton pairs p ih =>
    rw [grouped, List.foldl_append]
    exact ih.addMember p.1 p.2

end Groups

end Collection

open Collection

theorem foldlM_eq_mapM {α β γ : Type} {m : Type → Type} [Monad m] [LawfulMonad m] (f : α → m β)
    (g : γ → β → γ) (xs : List α) (c : γ) :
    xs.foldlM (fun c x => g c <$> f x) c = (fun bs => bs.foldl g c) <$> xs.mapM f := by
  induction xs generalizing c with
  | nil => rw [List.foldlM_nil, List.mapM_nil, map_pure, List.foldl_nil]
  | cons x xs ih =>
    simp only [List.foldlM_cons, List.mapM_cons, bind_map_left, map_bind, bind_pure_comp,
      Functor.map_map, List.foldl_cons, ih]

namespace Evaluator

section Items

variable {ev : Evaluator} {g : Grouping Node} {path : Path} {env : Env}

def keyed (ev : Evaluator) (g : Grouping Node) (path : Path) (env : Env) (x : Node) (i : Nat) :
    Eval (String × Node) := do
  let inner := loopEnv env g.loopVar x i
  let key ← ev.node g.key ((path.item i).child "key") inner
  let member ←
    match g.template? with
    | some template => ev.node template (path.item i) inner
    | none => pure x
  return (key.text, member)

theorem groupBy_eq : ev.groupBy g path env = (do
    let xs ← ev.loopItems "$groupBy" g.items path env
    let pairs ← xs.zipIdx.mapM fun e => ev.keyed g path env e.1 e.2
    return .map ((grouped pairs).map fun e => (e.1, .seq e.2))) := by
  unfold groupBy
  refine congrArg _ (funext fun xs => ?_)
  have hgrouped := foldlM_eq_mapM (m := Eval) (fun e => ev.keyed g path env e.1 e.2)
    (fun groups (key, m) => addMember key m groups) xs.zipIdx []
  refine Eq.trans ?_ (bind_map_left grouped _ fun groups =>
    pure (Node.map (groups.map fun e => (e.1, Node.seq e.2))))
  refine congrArg (· >>= _) (Eq.trans ?_ hgrouped)
  refine congrArg (fun f => xs.zipIdx.foldlM f []) (funext fun groups => funext fun (x, i) => ?_)
  unfold keyed
  cases g.template? with
  | none => simp
  | some template => simp

theorem seq_or_null_of_loopItems {construct : String} {n : Node} {xs : List Node} {s t : Sections}
    (h : Returns (ev.loopItems construct n path env) s xs t) :
    ∃ x, Returns (ev.node n (path.child "items") env) s x t ∧ (x = .seq xs ∨ x = .null ∧ xs = []) := by
  obtain ⟨x, u, hx, h⟩ := returns_bind.mp h
  cases x with
  | seq ys =>
    obtain ⟨rfl, rfl⟩ := returns_pure.mp h
    exact ⟨_, hx, .inl rfl⟩
  | null =>
    obtain ⟨rfl, rfl⟩ := returns_pure.mp h
    exact ⟨_, hx, .inr ⟨rfl, rfl⟩⟩
  | bool _ | number _ | string _ | map _ | tag _ | document _ =>
    exact absurd h Eval.returns_malformed

structure Files (g : Grouping Node) (path : Path) (env : Env) (x : Node) (i : Nat)
    (p : String × Node) : Prop where
  key : ∃ k n s t, Returns ((upTo k).node g.key ((path.item i).child "key")
    (loopEnv env g.loopVar x i)) s n t ∧ n.text = p.1
  templated : ∀ template, g.template? = some template → ∃ k s t,
    Returns ((upTo k).node template (path.item i) (loopEnv env g.loopVar x i)) s p.2 t
  untemplated : g.template? = none → p.2 = x

theorem files_of_keyed {k : Nat} {x : Node} {i : Nat} {p : String × Node} {s t : Sections}
    (h : Returns ((upTo k).keyed g path env x i) s p t) : Files g path env x i p := by
  cases ht : g.template? with
  | none =>
    simp only [keyed, ht, pure_bind, returns_bind, returns_pure] at h
    obtain ⟨n, u, hn, rfl, rfl⟩ := h
    refine ⟨⟨k, n, s, t, hn, rfl⟩, fun _ h => ?_, fun _ => rfl⟩
    rw [ht] at h
    cases h
  | some template =>
    simp only [keyed, ht, returns_bind, returns_pure] at h
    obtain ⟨n, u, hn, member, _, hmember, rfl, rfl⟩ := h
    refine ⟨⟨k, n, s, u, hn, rfl⟩, fun _ h => ?_, fun h => ?_⟩
    · rw [ht] at h
      cases h
      exact ⟨k, u, t, hmember⟩
    · rw [ht] at h
      cases h

theorem forall₂_files {k : Nat} {items : List (Node × Nat)} {pairs : Entries Node} {s t : Sections}
    (h : Returns (items.mapM fun e => (upTo k).keyed g path env e.1 e.2) s pairs t) :
    List.Forall₂ (fun e p => Files g path env e.1 e.2 p) items pairs := by
  induction items generalizing s pairs with
  | nil =>
    obtain ⟨rfl, -⟩ := returns_mapM_nil.mp h
    exact .nil
  | cons item items ih =>
    obtain ⟨p, u, rest, hp, hrest, rfl⟩ := returns_mapM_cons.mp h
    exact .cons (files_of_keyed hp) (ih hrest)

/-- A grouping that comes to a value takes its items apart into groups of one key each. -/
theorem groupBy_partitions {k : Nat} {s t : Sections} {v : Node}
    (h : Returns ((upTo k).node (.tag (.groupBy g)) path env) s v t) :
    ∃ (xs : List Node) (pairs : Entries Node) (groups : Entries (List Node)),
      (∃ k x u, Returns ((upTo k).node g.items (path.child "items") env) s x u ∧
        (x = .seq xs ∨ x = .null ∧ xs = [])) ∧
      List.Forall₂ (fun e p => Files g path env e.1 e.2 p) xs.zipIdx pairs ∧
      v = .map (groups.map fun e => (e.1, .seq e.2)) ∧ Partitions pairs groups ∧
      (groups.map fun e => e.2.length).sum = xs.length := by
  cases k with
  | zero => exact absurd h Eval.returns_unfinished
  | succ k =>
    change Returns ((upTo k).groupBy g path env) s v t at h
    rw [groupBy_eq] at h
    obtain ⟨xs, u, hxs, h⟩ := returns_bind.mp h
    obtain ⟨pairs, _, hpairs, h⟩ := returns_bind.mp h
    obtain ⟨rfl, rfl⟩ := returns_pure.mp h
    obtain ⟨x, hx, hseq⟩ := seq_or_null_of_loopItems hxs
    have hfiles := forall₂_files hpairs
    have hgroups := partitions_grouped pairs
    refine ⟨xs, pairs, grouped pairs, ⟨k, x, u, hx, hseq⟩, hfiles, rfl, hgroups, ?_⟩
    have hlength := hgroups.perm.length_eq
    rw [List.length_flatMap, List.length_map, ← hfiles.length_eq, List.length_zipIdx] at hlength
    exact hlength

end Items

-- Of three items the first and the last have the same key.
theorem groupBy_partitions_zones : ∃ (g : Grouping Node) (v : Node) (k : Nat),
    g = ⟨.seq [.string "b", .string "a", .string "b"], .tag (.lookup "item"), none, none⟩ ∧
      v = .map [("b", .seq [.string "b", .string "b"]), ("a", .seq [.string "a"])] ∧
      Returns ((upTo k).node (.tag (.groupBy g)) Path.root (Env.root .empty "t.yaml" 1)) [] v [] ∧
      ∃ (xs : List Node) (pairs : Entries Node) (groups : Entries (List Node)), List.Forall₂
        (fun e p => Files g Path.root (Env.root .empty "t.yaml" 1) e.1 e.2 p) xs.zipIdx pairs ∧
        v = .map (groups.map fun e => (e.1, .seq e.2)) ∧ Partitions pairs groups := by
  have h : Returns ((upTo 4).node (.tag (.groupBy
      ⟨.seq [.string "b", .string "a", .string "b"], .tag (.lookup "item"), none, none⟩)) Path.root
      (Env.root .empty "t.yaml" 1)) []
      (.map [("b", .seq [.string "b", .string "b"]), ("a", .seq [.string "a"])]) [] := by
    with_unfolding_all rfl
  obtain ⟨xs, pairs, groups, -, hfiles, hv, hgroups, -⟩ := groupBy_partitions h
  exact ⟨_, _, 4, rfl, rfl, h, xs, pairs, groups, hfiles, hv, hgroups⟩

end Evaluator

end InfraTemplate
