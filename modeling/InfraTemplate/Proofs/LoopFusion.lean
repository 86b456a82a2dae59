import InfraTemplate.Proofs.Likeness

namespace InfraTemplate

def Error.nameless : Error → Error
  | malformed _ path defect trace => malformed "" path defect trace
  | e => e

section Agreement

variable {σ α β : Type} {s t : σ} {a : α} {e : Error}

def nameless (p : Except Error α × σ) : Except Error α × σ := (p.1.mapError Error.nameless, p.2)

def Agrees (m m' : Stateful σ α) : Prop := ∀ s, (m.run s).map nameless = (m'.run s).map nameless

variable {m m' : Stateful σ α}

theorem Agrees.refl (m : Stateful σ α) : Agrees m m := fun _ => rfl

theorem Agrees.symm (h : Agrees m m') : Agrees m' m := fun s => (h s).symm

theorem Agrees.returns (h : Agrees m m') (hm : Returns m s a t) : Returns m' s a t := by
  have hs := h s
  rw [show m.run s = some (.ok a, t) from hm] at hs
  obtain ⟨⟨r, t'⟩, hm', he⟩ := Option.map_eq_some_iff.mp hs.symm
  cases r with
  | ok b =>
    cases he
    exact hm'
  | error e => cases he

theorem Agrees.fails (h : Agrees m m') (hm : Fails m s e t) :
    ∃ e', Fails m' s e' t ∧ e'.nameless = e.nameless := by
  have hs := h s
  rw [show m.run s = some (.error e, t) from hm] at hs
  obtain ⟨⟨r, t'⟩, hm', he⟩ := Option.map_eq_some_iff.mp hs.symm
  cases r with
  | ok b => cases he
  | error e' =>
    obtain ⟨he, rfl⟩ := Prod.mk.inj he
    exact ⟨e', hm', Except.error.inj he⟩

theorem Agrees.bind {f f' : α → Stateful σ β} (hm : Agrees m m') (hf : ∀ a, Agrees (f a) (f' a)) :
    Agrees (m >>= f) (m' >>= f') := by
  intro s
  rw [run_bind, run_bind]
  cases h : m.run s with
  | none =>
    have hnone : m'.run s = none := Option.map_eq_none_iff.mp (by rw [← hm s, h]; rfl)
    rw [hnone, Option.bind_none, Option.bind_none]
  | some p =>
    obtain ⟨r, t⟩ := p
    cases r with
    | ok a =>
      rw [show m'.run s = some (.ok a, t) from hm.returns h]
      exact hf a t
    | error e =>
      obtain ⟨e', h', he⟩ := hm.fails h
      rw [show m'.run s = some (.error e', t) from h']
      exact congrArg (fun e => some (Except.error e, t)) he.symm

theorem Agrees.foldlM {f f' : β → α → Stateful σ β} (h : ∀ b a, Agrees (f b a) (f' b a))
    (xs : List α) (b : β) : Agrees (xs.foldlM f b) (xs.foldlM f' b) := by
  induction xs generalizing b with
  | nil => exact .refl _
  | cons x xs ih =>
    rw [List.foldlM_cons, List.foldlM_cons]
    exact (h b x).bind ih

theorem agrees_malformed {construct construct' : String} {path : Path} {env : Env} {d : Defect} :
    Agrees (malformed construct path env d : Eval α) (malformed construct' path env d) :=
  fun _ => rfl

end Agreement

open Collection

section Combining

variable {construct construct' : String} {path : Path} {env : Env}

theorem agrees_merged (parts : List Node) :
    Agrees (merged construct path env parts) (merged construct' path env parts) := by
  refine Agrees.foldlM (fun acc (part, i) => ?_) _ _
  cases part with
  | map _ | null => exact .refl _
  | bool _ | number _ | string _ | seq _ | tag _ | document _ => exact agrees_malformed

theorem agrees_paired (pairs : List Node) :
    Agrees (paired construct path env pairs) (paired construct' path env pairs) := by
  refine Agrees.foldlM (fun acc (p, i) => ?_) _ _
  dsimp only
  split
  · exact .refl _
  · exact agrees_malformed

theorem flatten_eq_flattened {parts : List Node} {lists : List (List Node)} {s t : Sections} {i : Nat}
    (h : Returns ((parts.zipIdx i).mapM fun (part, i) =>
      match part with
      | .seq items => return items
      | n => malformed construct (path.item i) env (.notSequence n.kind)) s lists t) :
    lists.flatten = flattened parts ∧ t = s := by
  induction parts generalizing s lists i with
  | nil =>
    obtain ⟨rfl, rfl⟩ := returns_mapM_nil.mp h
    exact ⟨rfl, rfl⟩
  | cons part parts ih =>
    rw [List.zipIdx_cons] at h
    obtain ⟨items, u, rest, hpart, hrest, rfl⟩ := returns_mapM_cons.mp h
    cases part with
    | seq xs =>
      obtain ⟨rfl, rfl⟩ := returns_pure.mp hpart
      obtain ⟨hflat, rfl⟩ := ih hrest
      exact ⟨congrArg (items ++ ·) hflat, rfl⟩
    | null | bool _ | number _ | string _ | map _ | tag _ | document _ =>
      exact absurd hpart Eval.returns_malformed

theorem flattened_of_concatenated {parts xs : List Node} {s t : Sections}
    (h : Returns (concatenated construct path env parts) s xs t) : xs = flattened parts ∧ t = s := by
  obtain ⟨lists, _, hlists, h⟩ := returns_bind.mp h
  obtain ⟨rfl, rfl⟩ := returns_pure.mp h
  exact flatten_eq_flattened hlists

end Combining

namespace Evaluator

section Loops

variable {ev : Evaluator} {construct construct' : String} {l : Loop Node} {path : Path} {env : Env}
  {k : Nat}

theorem agrees_loopItems (construct construct' : String) (n : Node) :
    Agrees (ev.loopItems construct n path env) (ev.loopItems construct' n path env) := by
  refine (Agrees.refl _).bind fun x => ?_
  cases x with
  | seq _ | null => exact .refl _
  | bool _ | number _ | string _ | map _ | tag _ | document _ => exact agrees_malformed

theorem sequence_loop : (upTo (k + 1)).sequence construct (.tag (.loop .map l)) path env =
    (do (upTo k).run l (← (upTo k).loopItems "$map" l.items path env) path env) := by
  have hnode : (upTo (k + 1)).node (.tag (.loop .map l)) path env = (do
      let xs ← (upTo k).loopItems "$map" l.items path env
      let results ← (upTo k).run l xs path env
      return .seq results) := rfl
  rw [sequence, hnode]
  simp only [bind_assoc, pure_bind, bind_pure]

theorem agrees_combined {combine combine' : List Node → Eval Mapping}
    (h : ∀ results, Agrees (combine results) (combine' results)) :
    Agrees
      (do
        let xs ← ev.loopItems construct l.items path env
        let results ← ev.run l xs path env
        return Node.map (← combine results))
      (do
        let results ← (do ev.run l (← ev.loopItems construct' l.items path env) path env)
        return Node.map (← combine' results)) := by
  rw [bind_assoc]
  refine (agrees_loopItems _ _ l.items).bind fun xs => ?_
  refine (Agrees.refl _).bind fun results => ?_
  exact (h results).bind fun m => .refl _

theorem agrees_mergeMap : Agrees ((upTo (k + 1)).node (.tag (.loop .mergeMap l)) path env)
    ((upTo (k + 2)).node (.tag (.apply .merge (.tag (.loop .map l)))) path env) := by
  change Agrees ((upTo k).loop .mergeMap l path env) ((upTo (k + 1)).merge _ path env)
  rw [merge, sequence_loop]
  exact agrees_combined agrees_merged

theorem agrees_mapListToHash :
    Agrees ((upTo (k + 1)).node (.tag (.loop .mapListToHash l)) path env)
      ((upTo (k + 2)).node (.tag (.apply .fromPairs (.tag (.loop .map l)))) path env) := by
  change Agrees ((upTo k).loop .mapListToHash l path env) ((upTo (k + 1)).fromPairs _ path env)
  rw [fromPairs, sequence_loop]
  exact agrees_combined agrees_paired

theorem returns_concatMap {v : Node} {s t : Sections}
    (h : Returns ((upTo (k + 2)).node (.tag (.apply .concat (.tag (.loop .map l)))) path env) s v t) :
    Returns ((upTo (k + 1)).node (.tag (.loop .concatMap l)) path env) s v t := by
  change Returns ((upTo (k + 1)).concat _ path env) s v t at h
  change Returns ((upTo k).loop .concatMap l path env) s v t
  rw [concat, sequence_loop, bind_assoc] at h
  obtain ⟨xs, u, hxs, h⟩ := returns_bind.mp h
  obtain ⟨results, u', hresults, h⟩ := returns_bind.mp h
  obtain ⟨flat, _, hflat, h⟩ := returns_bind.mp h
  obtain ⟨rfl, rfl⟩ := returns_pure.mp h
  obtain ⟨rfl, rfl⟩ := flattened_of_concatenated hflat
  have hitems := (agrees_loopItems _ LoopKind.concatMap.name l.items).returns hxs
  exact returns_bind.mpr ⟨xs, u, hitems, returns_bind.mpr ⟨results, _, hresults,
    returns_pure.mpr ⟨rfl, rfl⟩⟩⟩

end Loops

structure Interchangeable (n m : Node) (path : Path) (env : Env) (s : Sections) : Prop where
  returns : ∀ v t, (∃ k, Returns ((upTo k).node n path env) s v t) ↔
    ∃ k, Returns ((upTo k).node m path env) s v t
  fails : ∀ e t, (∃ k, Fails ((upTo k).node n path env) s e t) →
    ∃ k e', Fails ((upTo k).node m path env) s e' t ∧ e'.nameless = e.nameless
  failed : ∀ e t, (∃ k, Fails ((upTo k).node m path env) s e t) →
    ∃ k e', Fails ((upTo k).node n path env) s e' t ∧ e'.nameless = e.nameless

-- The payload of a construct is one step further in, so the two evaluations take different numbers of
-- steps.
theorem interchangeable_of_agrees {n m : Node} {path : Path} {env : Env} {i j : Nat}
    (h : ∀ k, Agrees ((upTo (k + i)).node n path env) ((upTo (k + j)).node m path env))
    (s : Sections) : Interchangeable n m path env s where
  returns v t := by
    constructor
    · rintro ⟨k, hk⟩
      exact ⟨k + j, (h k).returns (returns_upTo_mono (Nat.le_add_right k i) hk)⟩
    · rintro ⟨k, hk⟩
      exact ⟨k + i, (h k).symm.returns (returns_upTo_mono (Nat.le_add_right k j) hk)⟩
  fails e t := by
    rintro ⟨k, hk⟩
    exact ⟨k + j, (h k).fails (outcome_upTo_mono (Nat.le_add_right k i) hk)⟩
  failed e t := by
    rintro ⟨k, hk⟩
    exact ⟨k + i, (h k).symm.fails (outcome_upTo_mono (Nat.le_add_right k j) hk)⟩

/-- Loops that combine their results go like the constructs that combine what a plain loop collects. -/
theorem loop_fusion (l : Loop Node) (path : Path) (env : Env) (s : Sections) :
    Interchangeable (.tag (.loop .mergeMap l)) (.tag (.apply .merge (.tag (.loop .map l)))) path env s ∧
    Interchangeable (.tag (.loop .mapListToHash l))
      (.tag (.apply .fromPairs (.tag (.loop .map l)))) path env s ∧
    ∀ v t, (∃ k, Returns
        ((upTo k).node (.tag (.apply .concat (.tag (.loop .map l)))) path env) s v t) →
      ∃ k, Returns ((upTo k).node (.tag (.loop .concatMap l)) path env) s v t := by
  refine ⟨interchangeable_of_agrees (fun _ => agrees_mergeMap) s,
    interchangeable_of_agrees (fun _ => agrees_mapListToHash) s, ?_⟩
  rintro v t ⟨k, hk⟩
  exact ⟨k + 1, returns_concatMap (returns_upTo_mono (Nat.le_add_right k 2) hk)⟩

-- For each of two items the template is a sequence of one value.
theorem loop_fusion_twice :
    ∃ l : Loop Node, l = ⟨.seq [.null, .null], .seq [.bool true], none, none⟩ ∧
      (∃ k, Returns ((upTo k).node (.tag (.apply .concat (.tag (.loop .map l)))) Path.root
        (Env.root .empty "t.yaml" 1)) [] (.seq [.bool true, .bool true]) []) ∧
      ∃ k, Returns ((upTo k).node (.tag (.loop .concatMap l)) Path.root
        (Env.root .empty "t.yaml" 1)) [] (.seq [.bool true, .bool true]) [] := by
  have h : ∃ k, Returns ((upTo k).node (.tag (.apply .concat (.tag (.loop .map
      ⟨.seq [.null, .null], .seq [.bool true], none, none⟩)))) Path.root
      (Env.root .empty "t.yaml" 1)) [] (.seq [.bool true, .bool true]) [] := ⟨4, rfl⟩
  exact ⟨_, rfl, h, (loop_fusion _ _ _ _).2.2 _ _ h⟩

end Evaluator

end InfraTemplate
