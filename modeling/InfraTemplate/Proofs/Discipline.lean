import InfraTemplate.Proofs.Discipline.Collection
import InfraTemplate.Proofs.Discipline.Name
import InfraTemplate.Proofs.Discipline.Resource

namespace InfraTemplate

structure Regime.Permits {ι : Type} (R : Regime ι) (n : Node) (env : ι → Env) : Prop where
  lookup : ∀ expr, n = .tag (.lookup expr) → ¬R.Shared expr env
  escape : ∀ payload, n = .tag (.apply .escape payload) → R.Value payload

namespace Discipline

open Judgement

variable {ι : Type} {D : Discipline ι} {ev : ι → Evaluator} {env : ι → Env} {path : ι → Path}

theorem operation (hev : D.Obeys ev) (hp : D.Along path) {op : Operator} {n : Node}
    (h : D.Ready (.tag (.apply op n)) env) (hpermits : D.Permits (.tag (.apply op n)) env) :
    D.Gives (fun i => (ev i).operation op n (path i) (env i)) D.Value := by
  have hn : D.Call n env := h.part n (List.mem_singleton_self n)
  have node := hev.node hn hp
  cases op with
  | escape => exact Gives.pure (hpermits.escape n rfl)
  | toString =>
    refine node.bind fun out _ => ?_
    exact Gives.pure (D.value_string _)
  | parseYaml =>
    refine node.bind fun out _ => ?_
    cases out with
    | string s => exact (D.parse h.within h.source s).bind fun m hm => hev.node hm hp
    | null | bool _ | number _ | seq _ | map _ | tag _ | document _ =>
      exact D.malformed h.within hp _ _ _
  | not =>
    refine node.bind fun out _ => ?_
    exact Gives.pure (D.value_bool _)
  | concat =>
    refine (sequence hev h.within hp _ hn).bind fun parts hparts => ?_
    refine (concatenated h.within hp _ hparts).bind fun xs hx => ?_
    exact Gives.pure (D.value_seq.mpr hx)
  | merge =>
    refine (sequence hev h.within hp _ hn).bind fun parts hparts => ?_
    refine (merged h.within hp _ hparts).bind fun m hm => ?_
    exact Gives.pure hm
  | fromPairs =>
    refine (sequence hev h.within hp _ hn).bind fun pairs hpairs => ?_
    refine (paired h.within hp (D.key_computed h.source trivial) _ hpairs).bind fun m hm => ?_
    exact Gives.pure hm
  | ref => exact ref hev h.within hp hn
  | getAtt => exact getAtt hev h.within hp hn
  | sub => exact sub hev h.within hp hn
  | intrinsic f =>
    refine node.bind fun out ho => value_intrinsic (D.key ?_ ?_) ho
    · cases f <;> decide
    · cases f <;> decide +kernel

theorem letIn (hev : D.Obeys ev) (hp : D.Along path) {bindings : Mapping} {body : Node}
    (h : D.Ready (.tag (.letIn bindings body)) env) :
    D.Gives (fun i => (ev i).letIn bindings body (path i) (env i)) D.Value := by
  refine Gives.bind (P := D.Binds) (Gives.mapM ?_) fun vars hv => ?_
  · intro e he
    have hc : D.Call e.2 env := h.part e.2 (List.mem_cons_of_mem _ (List.mem_map_of_mem he))
    refine (hev.node hc (D.along_child hp _)).bind fun out ho => ?_
    exact Gives.pure ⟨out, ho, rfl⟩
  · exact hev.node (D.call_extend (h.part body (List.mem_cons_self ..)) hv) (D.along_child hp _)

def Refers (D : Discipline ι) (path : ι → Path) (env : ι → Env) (named : ι → String × Document) :
    Prop :=
  ∃ (names : ι → String) (d : Document), D.Source (.document d) ∧
    D.Hosts d names names path env ∧ named = fun i => (names i, d)

theorem expandParts (templates params : ι → Node) (hev : D.Obeys ev)
    (ht : D.Holds (fun i => (ev i).templateDocument (templates i) (path i) (env i))
      (D.Refers path env))
    (hps : D.Gives (fun i => (ev i).paramsMap (params i) (path i) (env i))
      fun m => D.Value (.map m)) :
    D.Gives (fun i => (ev i).expand (templates i) (params i) (path i) (env i)) D.Value := by
  refine D.bind ht ?_
  rintro _ ⟨names, d, hd, h, rfl⟩
  refine hps.bind fun caller hc => ?_
  obtain ⟨e, he⟩ := h.naming
  refine (bindParams hev h hd hc _ ⟨_, he⟩).bind fun vars hv => ?_
  refine D.bind (h.enters _ hv) fun inner hi => ?_
  refine (map hev (readyEntries (ready_of_open hi.1 (D.source_body hd))) h.along).bind
    fun m hm => ?_
  exact Gives.pure hm

theorem expand (hev : D.Obeys ev) (hp : D.Along path) {template params : Node}
    (h : D.Ready (.tag (.expand template params)) env) :
    D.Gives (fun i => (ev i).expand template params (path i) (env i)) D.Value := by
  have ht : D.Call template env := h.part template (by simp [Node.parts, Tag.parts])
  have hps : D.Call params env := h.part params (by simp [Node.parts, Tag.parts])
  refine expandParts (fun _ => template) (fun _ => params) hev ?_ (paramsMap hev h.within hp hps)
  refine Judgement.holds_mono (templateDocument hev h.within hp h.ask ht) ?_
  rintro _ ⟨⟨name, d⟩, hd, rfl⟩
  exact ⟨fun _ => name, d, hd, hosts h.within hp hd name name, rfl⟩

theorem tag (hev : D.Obeys ev) (hp : D.Along path) {t : Tag Node} (h : D.Ready (.tag t) env)
    (hpermits : D.Permits (.tag t) env) :
    D.Gives (fun i => (ev i).tag t (path i) (env i)) D.Value := by
  cases t with
  | lookup expr =>
    exact (hev.reference (h.ask expr) hp).mono fun n hn =>
      hn.2.resolve_left (hpermits.lookup expr rfl)
  | expand template params => exact expand hev hp h
  | apply op n => exact operation hev hp h hpermits
  | pair op x y =>
    have hx : D.Call x env := h.part x (by simp [Node.parts, Tag.parts])
    have hy : D.Call y env := h.part y (by simp [Node.parts, Tag.parts])
    cases op with
    | equal =>
      refine (hev.node hx (D.along_item hp 0)).bind fun x _ => ?_
      refine (hev.node hy (D.along_item hp 1)).bind fun y _ => ?_
      exact Gives.pure (D.value_bool _)
    | split => exact split hev h.within hp hx hy
  | choose test consequent alternative? =>
    have ht : D.Call test env := h.part test (by simp [Node.parts, Tag.parts])
    have hc : D.Call consequent env := h.part consequent (by simp [Node.parts, Tag.parts])
    refine (hev.node ht (D.along_child hp _)).bind fun out _ => ?_
    split
    · exact hev.node hc (D.along_child hp _)
    · cases alternative? with
      | some n =>
        exact hev.node (h.part n (by simp [Node.parts, Tag.parts])) (D.along_child hp _)
      | none => exact Gives.pure D.value_null
  | letIn bindings body => exact letIn hev hp h
  | loop kind l => exact loop hev hp h
  | groupBy g => exact groupBy hev hp h

theorem step (hev : D.Obeys ev) (hp : D.Along path) {n : Node} (h : D.Ready n env)
    (hpermits : D.Permits n env) :
    D.Gives (fun i => (ev i).step n (path i) (env i)) D.Value := by
  cases n with
  | null | bool _ | number _ => exact Gives.pure (D.value_scalar rfl)
  | string s =>
    refine (interpolated hev h.within hp h.ask s).bind fun out _ => ?_
    exact Gives.pure (D.value_string out)
  | seq xs =>
    refine (items hev hp h.part).bind fun out ho => ?_
    exact Gives.pure (D.value_seq.mpr ho)
  | map m =>
    refine (map hev (readyEntries h) hp).bind fun out ho => ?_
    exact Gives.pure ho
  | tag t => exact tag hev hp h hpermits
  | document d =>
    refine D.bind (D.enterDocument h.within h.source hp _ (fun _ hb => absurd hb List.not_mem_nil))
      fun inner hi => ?_
    refine (map hev (readyEntries (ready_of_open hi.1 (D.source_body h.source))) hp).bind
      fun out ho => ?_
    exact Gives.pure ho

end Discipline

end InfraTemplate
