import InfraTemplate.Proofs.Discipline.Basic

namespace InfraTemplate

namespace Discipline

open Judgement

variable {ι : Type} {D : Discipline ι} {ev : ι → Evaluator} {env : ι → Env} {path : ι → Path}
  {n : Node}

theorem value_intrinsic {key : String} (hk : D.Key key) (hn : D.Value n) :
    D.Gives (fun _ : ι => pure (Node.map [(key, n)])) D.Value :=
  Gives.pure (D.value_single hk hn)

theorem ref (hev : D.Obeys ev) (hw : D.Within env) (hp : D.Along path) (hn : D.Call n env) :
    D.Gives (fun i => (ev i).ref n (path i) (env i)) D.Value := by
  have hk : D.Key "Ref" := D.key (by decide) (by decide +kernel)
  obtain ⟨e, he, -⟩ := D.naming hw
  refine (hev.node hn hp).bind fun out ho => ?_
  cases out with
  | string name =>
    simp only [fun i => Env.qualify_congr (he i)]
    exact value_intrinsic hk (D.value_string _)
  | null | bool _ | number _ | seq _ | map _ | tag _ | document _ => exact value_intrinsic hk ho

theorem getAtt (hev : D.Obeys ev) (hw : D.Within env) (hp : D.Along path) (hn : D.Call n env) :
    D.Gives (fun i => (ev i).getAtt n (path i) (env i)) D.Value := by
  have hk : D.Key "Fn::GetAtt" := D.key (by decide) (by decide +kernel)
  obtain ⟨e, he, -⟩ := D.naming hw
  refine (hev.node hn hp).bind fun out ho => ?_
  have finish (value : Node) (hv : D.Value value) :
      D.Gives (fun _ => pure (Node.map [("Fn::GetAtt", value)])) D.Value := value_intrinsic hk hv
  cases out with
  | string target =>
    simp only [fun i => Env.qualify_congr (he i)]
    cases Text.splitFirst '.' target.toList with
    | some parts =>
      refine Gives.bind (P := D.Value) (Gives.pure (D.value_seq.mpr ?_)) finish
      intro x hx
      rcases List.mem_pair.mp hx with rfl | rfl
      · exact D.value_string _
      · exact D.value_string _
    | none => exact Gives.bind (P := D.Value) (D.malformed hw hp _ _ _) finish
  | seq xs =>
    match xs with
    | .string resource :: rest =>
      simp only [fun i => Env.qualify_congr (he i)]
      refine Gives.bind (P := D.Value) (Gives.pure (D.value_seq.mpr ?_)) finish
      intro x hx
      rcases List.mem_cons.mp hx with rfl | hx
      · exact D.value_string _
      · exact D.value_seq.mp ho x (List.mem_cons_of_mem _ hx)
    | [] | .null :: _ | .bool _ :: _ | .number _ :: _ | .seq _ :: _ | .map _ :: _ | .tag _ :: _
    | .document _ :: _ => exact (Gives.pure ho).bind finish
  | null | bool _ | number _ | map _ | tag _ | document _ => exact (Gives.pure ho).bind finish

theorem sub (hev : D.Obeys ev) (hw : D.Within env) (hp : D.Along path) (hn : D.Call n env) :
    D.Gives (fun i => (ev i).sub n (path i) (env i)) D.Value := by
  have hk : D.Key "Fn::Sub" := D.key (by decide) (by decide +kernel)
  obtain ⟨e, he, -⟩ := D.naming hw
  simp only [Evaluator.sub, he]
  refine (hev.node hn hp).bind fun out ho => value_intrinsic hk ?_
  split
  · exact D.value_string _
  · rename_i s vars
    rw [D.value_seq]
    intro x hx
    rcases List.mem_pair.mp hx with rfl | rfl
    · exact D.value_string _
    · exact D.value_seq.mp ho _ (by simp)
  · exact ho

end Discipline

end InfraTemplate
