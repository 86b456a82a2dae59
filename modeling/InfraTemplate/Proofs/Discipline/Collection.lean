import InfraTemplate.Proofs.Discipline.Basic

namespace InfraTemplate

namespace Discipline

open Judgement

variable {ι : Type} {D : Discipline ι} {ev : ι → Evaluator} {env : ι → Env} {path : ι → Path}

theorem call_loopEnv {n x : Node} (hn : D.Call n env) (hx : D.Value x) (name : String) (j : Nat) :
    D.Call n fun i => Collection.loopEnv (env i) name x j := by
  refine D.call_extend hn ?_
  intro b hb
  rcases List.mem_pair.mp hb with rfl | rfl
  · exact ⟨x, hx, rfl⟩
  · exact ⟨.ofNat j, D.value_ofNat j, rfl⟩

theorem merged (hw : D.Within env) (hp : D.Along path) (construct : String) {parts : List Node}
    (h : ∀ x ∈ parts, D.Value x) :
    D.Gives (fun i => Collection.merged construct (path i) (env i) parts)
      fun m => D.Value (.map m) := by
  refine Gives.foldlM D.value_empty ?_
  rintro acc ⟨part, j⟩ hj hacc
  have hv := h part (List.fst_mem_of_mem_zipIdx hj)
  cases part with
  | map m => exact Gives.pure (D.value_deepMerge hacc hv)
  | null => exact Gives.pure hacc
  | bool _ | number _ | string _ | seq _ | tag _ | document _ =>
    exact D.malformed hw (D.along_item hp j) _ _ _

theorem value_pair {p k v : Node} (h : Collection.pair? p = some (k, v)) (hp : D.Value p) :
    D.Value v := by
  unfold Collection.pair? at h
  split at h
  · split at h
    · rename_i hv
      cases h
      exact D.value_entry hp hv
    · cases h
  · cases h
    exact D.value_seq.mp hp v (by simp)
  · cases h

theorem paired (hw : D.Within env) (hp : D.Along path) (hk : ∀ k, D.Key k) (construct : String)
    {pairs : List Node} (h : ∀ x ∈ pairs, D.Value x) :
    D.Gives (fun i => Collection.paired construct (path i) (env i) pairs)
      fun m => D.Value (.map m) := by
  refine Gives.foldlM D.value_empty ?_
  rintro acc ⟨p, j⟩ hj hacc
  have hv := h p (List.fst_mem_of_mem_zipIdx hj)
  dsimp only
  cases hpair : Collection.pair? p with
  | some kv => exact Gives.pure (D.value_put hacc (hk _) (value_pair hpair hv))
  | none => exact D.malformed hw (D.along_item hp j) _ _ _

theorem value_flattened {xs : List Node} (h : ∀ x ∈ xs, D.Value x) :
    ∀ x ∈ Collection.flattened xs, D.Value x := by
  intro x hx
  obtain ⟨y, hy, hx⟩ := List.mem_flatMap.mp hx
  have hv := h y hy
  cases y with
  | seq inner => exact D.value_seq.mp hv x hx
  | null | bool _ | number _ | string _ | map _ | tag _ | document _ =>
    cases List.mem_singleton.mp hx
    exact hv

theorem concatenated (hw : D.Within env) (hp : D.Along path) (construct : String)
    {parts : List Node} (h : ∀ x ∈ parts, D.Value x) :
    D.Gives (fun i => Collection.concatenated construct (path i) (env i) parts)
      fun xs => ∀ x ∈ xs, D.Value x := by
  refine (Gives.mapM (Q := fun xs => ∀ x ∈ xs, D.Value x) ?_).bind fun lists hl => Gives.pure ?_
  · rintro ⟨part, j⟩ hj
    have hv := h part (List.fst_mem_of_mem_zipIdx hj)
    cases part with
    | seq xs => exact Gives.pure (D.value_seq.mp hv)
    | null | bool _ | number _ | string _ | map _ | tag _ | document _ =>
      exact D.malformed hw (D.along_item hp j) _ _ _
  · intro x hx
    obtain ⟨xs, hxs, hx⟩ := List.mem_flatten.mp hx
    exact hl xs hxs x hx

section Loops

variable {l : Loop Node} {xs : List Node}

theorem loopItem (hev : D.Obeys ev) (hp : D.Along path) {l : Loop Node} {x : Node}
    (h : ∀ n ∈ (Tag.loop .map l).parts, D.Call n env) (hx : D.Value x) (j : Nat) :
    D.Gives (fun i => do
      let inner := Collection.loopEnv (env i) l.loopVar x j
      let passes ←
        match l.filter? with
        | some filter => Node.isTruthy <$> (ev i).node filter (((path i).item j).child "filter") inner
        | none => pure true
      if passes then return [← (ev i).node l.template ((path i).item j) inner] else return [])
      fun out => ∀ x ∈ out, D.Value x := by
  have inside {n : Node} (hn : n ∈ (Tag.loop .map l).parts) := call_loopEnv (h n hn) hx l.loopVar j
  have finish (passes : Bool) : D.Gives (fun i =>
      if passes then do
        return [← (ev i).node l.template ((path i).item j) (Collection.loopEnv (env i) l.loopVar x j)]
      else return []) fun out => ∀ x ∈ out, D.Value x := by
    cases passes with
    | false => exact Gives.pure fun _ hx => absurd hx List.not_mem_nil
    | true =>
      refine (hev.node (inside (by simp [Tag.parts])) (D.along_item hp j)).bind fun out ho =>
        Gives.pure ?_
      intro y hy
      cases List.mem_singleton.mp hy
      exact ho
  cases hf : l.filter? with
  | some filter =>
    have hfilter := hev.node (inside (n := filter) (by simp [Tag.parts, hf]))
      (D.along_child (D.along_item hp j) "filter")
    exact (hfilter.map (Q := fun _ => True) _ fun _ _ => trivial).bind fun b _ => finish b
  | none => exact (Gives.pure (P := fun _ => True) trivial).bind fun b _ => finish b

theorem run (hev : D.Obeys ev) (hp : D.Along path) (h : ∀ n ∈ (Tag.loop .map l).parts, D.Call n env)
    (hx : ∀ x ∈ xs, D.Value x) :
    D.Gives (fun i => (ev i).run l xs (path i) (env i)) fun out => ∀ x ∈ out, D.Value x := by
  refine (Gives.mapM (Q := fun out => ∀ x ∈ out, D.Value x) ?_).bind fun lists hl => Gives.pure ?_
  · rintro ⟨x, j⟩ hj
    exact loopItem hev hp h (hx x (List.fst_mem_of_mem_zipIdx hj)) j
  · intro x hx
    obtain ⟨out, ho, hx⟩ := List.mem_flatten.mp hx
    exact hl out ho x hx

theorem loopItems (hev : D.Obeys ev) (hw : D.Within env) (hp : D.Along path) (construct : String)
    {n : Node} (hn : D.Call n env) :
    D.Gives (fun i => (ev i).loopItems construct n (path i) (env i))
      fun xs => ∀ x ∈ xs, D.Value x := by
  refine (hev.node hn (D.along_child hp _)).bind fun out ho => ?_
  cases out with
  | seq xs => exact Gives.pure (D.value_seq.mp ho)
  | null => exact Gives.pure fun _ hx => absurd hx List.not_mem_nil
  | bool _ | number _ | string _ | map _ | tag _ | document _ => exact D.malformed hw hp _ _ _

theorem value_entryMap {e : String × Node} (h : D.Value e.2) :
    D.Value (.map [("key", .string e.1), ("value", e.2)]) := by
  have hk := D.value_single (D.key (k := "key") (by decide) (by decide +kernel)) (D.value_string e.1)
  exact D.value_put hk (D.key (k := "value") (by decide) (by decide +kernel)) h

theorem mapValues (hev : D.Obeys ev) (hw : D.Within env) (hp : D.Along path)
    (h : ∀ n ∈ (Tag.loop .map l).parts, D.Call n env) :
    D.Gives (fun i => (ev i).mapValues l (path i) (env i)) D.Value := by
  unfold Evaluator.mapValues
  refine (hev.node (h l.items (by simp [Tag.parts])) (D.along_child hp _)).bind fun out ho => ?_
  have finish (entries : Mapping) (he : D.Value (.map entries)) :
      D.Gives (fun i => do
        let pairs := entries.map fun e => Node.map [("key", .string e.1), ("value", e.2)]
        let results ← (ev i).run l pairs (path i) (env i)
        return .map ((Entries.keys entries).zip results)) D.Value := by
    refine (run hev hp h ?_).bind fun results hr => Gives.pure ?_
    · intro x hx
      obtain ⟨e, hm, rfl⟩ := List.mem_map.mp hx
      exact value_entryMap (D.value_map.mp he e hm).2
    · rw [D.value_map]
      rintro ⟨k, v⟩ hkv
      obtain ⟨hk, hv⟩ := List.of_mem_zip hkv
      obtain ⟨e, hm, rfl⟩ := List.mem_map.mp hk
      exact ⟨(D.value_map.mp he e hm).1, hr v hv⟩
  cases out with
  | map m => exact Gives.bind (P := fun m => D.Value (.map m)) (Gives.pure ho) finish
  | null => exact Gives.bind (P := fun m => D.Value (.map m)) (Gives.pure D.value_empty) finish
  | bool _ | number _ | string _ | seq _ | tag _ | document _ =>
    exact Gives.bind (P := fun m => D.Value (.map m)) (D.malformed hw hp _ _ _) finish

theorem loop (hev : D.Obeys ev) (hp : D.Along path) {kind : LoopKind}
    (h : D.Ready (.tag (.loop kind l)) env) :
    D.Gives (fun i => (ev i).loop kind l (path i) (env i)) D.Value := by
  have hitems := h.part l.items (by simp [Node.parts, Tag.parts])
  have listed (kind : LoopKind) :
      D.Gives (fun i => (ev i).loopItems kind.name l.items (path i) (env i))
        fun xs => ∀ x ∈ xs, D.Value x :=
    loopItems hev h.within hp kind.name hitems
  have results {xs : List Node} (hx : ∀ x ∈ xs, D.Value x) :
      D.Gives (fun i => (ev i).run l xs (path i) (env i)) fun out => ∀ x ∈ out, D.Value x :=
    run hev hp h.part hx
  cases kind with
  | mapValues => exact mapValues hev h.within hp h.part
  | map =>
    refine (listed .map).bind fun xs hx => (results hx).bind fun out ho => ?_
    exact Gives.pure (D.value_seq.mpr ho)
  | concatMap =>
    refine (listed .concatMap).bind fun xs hx => (results hx).bind fun out ho => ?_
    exact Gives.pure (D.value_seq.mpr (value_flattened ho))
  | mergeMap =>
    refine (listed .mergeMap).bind fun xs hx => (results hx).bind fun out ho => ?_
    exact (merged h.within hp _ ho).bind fun m hm => Gives.pure hm
  | mapListToHash =>
    refine (listed .mapListToHash).bind fun xs hx => (results hx).bind fun out ho => ?_
    have hk := D.key_computed h.source trivial
    exact (paired h.within hp hk _ ho).bind fun m hm => Gives.pure hm

end Loops

theorem members_addMember {key : String} {n : Node} {groups : Entries (List Node)}
    (hn : D.Value n) (h : ∀ e ∈ groups, ∀ x ∈ e.2, D.Value x) :
    ∀ e ∈ Collection.addMember key n groups, ∀ x ∈ e.2, D.Value x := by
  refine Entries.forall_put h ?_
  intro x hx
  rcases List.mem_append.mp hx with hx | hx
  · cases hf : Entries.find? key groups with
    | none => simp [hf] at hx
    | some members =>
      rw [hf] at hx
      exact Entries.of_find? h hf x hx
  · cases List.mem_singleton.mp hx
    exact hn

theorem groupBy (hev : D.Obeys ev) (hp : D.Along path) {g : Grouping Node}
    (h : D.Ready (.tag (.groupBy g)) env) :
    D.Gives (fun i => (ev i).groupBy g (path i) (env i)) D.Value := by
  have hk := D.key_computed h.source trivial
  refine (loopItems hev h.within hp _ (h.part g.items (by simp [Node.parts, Tag.parts]))).bind
    fun xs hx => ?_
  refine Gives.bind (P := fun groups => ∀ e ∈ groups, ∀ x ∈ e.2, D.Value x) ?_ fun groups hg => ?_
  · refine Gives.foldlM (fun _ he => absurd he List.not_mem_nil) ?_
    rintro groups ⟨x, j⟩ hj hg
    have hv := hx x (List.fst_mem_of_mem_zipIdx hj)
    have inside {n : Node} (hn : n ∈ (Tag.groupBy g).parts) :=
      call_loopEnv (h.part n hn) hv g.loopVar j
    refine (hev.node (inside (by simp [Tag.parts]))
      (D.along_child (D.along_item hp j) _)).bind fun key _ => ?_
    have finish (member : Node) (hm : D.Value member) :
        D.Gives (fun _ => pure (Collection.addMember key.text member groups))
          fun groups => ∀ e ∈ groups, ∀ x ∈ e.2, D.Value x :=
      Gives.pure (members_addMember hm hg)
    cases ht : g.template? with
    | some template =>
    exact (hev.node (inside (by simp [Tag.parts, ht])) (D.along_item hp j)).bind finish
    | none => exact (Gives.pure hv).bind finish
  · refine Gives.pure ?_
    rw [D.value_map]
    intro e he
    obtain ⟨⟨k, members⟩, hm, rfl⟩ := List.mem_map.mp he
    exact ⟨hk k, D.value_seq.mpr (hg _ hm)⟩

theorem sequence (hev : D.Obeys ev) (hw : D.Within env) (hp : D.Along path) (construct : String)
    {n : Node} (hn : D.Call n env) :
    D.Gives (fun i => (ev i).sequence construct n (path i) (env i))
      fun xs => ∀ x ∈ xs, D.Value x := by
  refine (hev.node hn hp).bind fun out ho => ?_
  cases out with
  | seq xs => exact Gives.pure (D.value_seq.mp ho)
  | null | bool _ | number _ | string _ | map _ | tag _ | document _ =>
    exact D.malformed hw hp _ _ _

theorem split (hev : D.Obeys ev) (hw : D.Within env) (hp : D.Along path) {delimiter value : Node}
    (hd : D.Call delimiter env) (hv : D.Call value env) :
    D.Gives (fun i => (ev i).split delimiter value (path i) (env i)) D.Value := by
  refine (hev.node hd (D.along_item hp 0)).bind fun d _ => ?_
  refine (hev.node hv (D.along_item hp 1)).bind fun s _ => ?_
  split
  · split
    · exact D.malformed hw hp _ _ _
    · refine Gives.pure (D.value_seq.mpr ?_)
      intro x hx
      obtain ⟨piece, -, rfl⟩ := List.mem_map.mp hx
      exact D.value_string piece
  · exact D.malformed hw hp _ _ _

end Discipline

end InfraTemplate
