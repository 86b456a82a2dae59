import InfraTemplate.Proofs.Discipline.Reference

namespace InfraTemplate

structure Regime.Hosts {ι : Type} (R : Regime ι) (d : Document) (name template : ι → String)
    (path : ι → Path) (env : ι → Env) : Prop where
  along : R.Along path
  naming : ∃ e : Env, ∀ i, (env i).naming? = e.naming?
  enters : R.Enters d path env
  rejects : R.Rejects name path env
  resources : ∀ kind, R.Fault fun i =>
    .malformed ("!" ++ Evaluator.resourcesKey) (path i) (.templateResources (template i) kind)
      (env i).stack
  addSection : ∀ {value : Node}, R.Value value → ∀ heading ∈ Sections.hoisted, ∀ naming,
    R.Gives (fun i => Eval.addSection heading value naming (path i) (env i)) fun _ => True

namespace Discipline

open Judgement

variable {ι : Type} {D : Discipline ι} {ev : ι → Evaluator} {env : ι → Env} {path : ι → Path}
  {n : Node}

theorem hosts (hw : D.Within env) (hp : D.Along path) {d : Document} (hd : D.Source (.document d))
    (name template : String) :
    D.Hosts d (fun _ => name) (fun _ => template) path env where
  along := hp
  naming := (D.naming hw).imp fun _ h => h.1
  enters := D.enterDocument hw hd hp
  rejects := D.rejects hw hp name
  resources kind :=
    D.fault hw hp _ (raised_malformed _ (.templateResources template kind))
  addSection hv := D.addSection hw hv hp

theorem templateName (hev : D.Obeys ev) (hw : D.Within env) (hp : D.Along path)
    (hn : D.Call n env) :
    D.Gives (fun i => (ev i).templateName n (path i) (env i)) fun _ => True := by
  cases n with
  | string s => exact Gives.pure trivial
  | tag t =>
    cases t with
    | lookup expr => exact Gives.pure trivial
    | expand _ _ | apply _ _ | pair _ _ _ | choose _ _ _ | letIn _ _ | loop _ _ | groupBy _ =>
      refine (hev.node hn hp).bind fun _ _ => ?_
      exact Gives.pure trivial
  | null | bool _ | number _ | seq _ | map _ | document _ => exact D.malformed hw hp _ _ _

theorem templateDocument (hev : D.Obeys ev) (hw : D.Within env) (hp : D.Along path)
    (ha : ∀ expr, D.Ask expr env) (hn : D.Call n env) :
    D.Gives (fun i => (ev i).templateDocument n (path i) (env i))
      fun p => D.Source (.document p.2) := by
  refine (templateName hev hw hp hn).bind fun name _ => ?_
  refine D.bind (locate_of_obeys hev hw hp ha) fun at_ h => ?_
  obtain ⟨m, hm, he⟩ := leads_node h
  simp only [he]
  cases m with
  | document d => exact Gives.pure hm
  | null | bool _ | number _ | string _ | seq _ | map _ | tag _ => exact D.malformed hw hp _ _ _

section Params

variable {d : Document} {caller : Mapping} {target : ι → String}

theorem paramValue {p : Param Node} {defaults : ι → Env} (hev : D.Obeys ev) (hp : D.Along path)
    (hc : D.Value (.map caller)) (hd : ∀ n, p.default? = some n → D.Call n defaults) :
    D.Gives (fun i => (ev i).paramValue p caller (path i) (defaults i))
      fun value? => ∀ n, value? = some n → D.Value n := by
  unfold Evaluator.paramValue
  split
  · rename_i n hn
    refine Gives.pure ?_
    rintro _ ⟨⟩
    exact D.value_entry hc hn
  · rename_i n _ hn
    refine (hev.node (hd n hn) (D.along_child hp _)).bind fun out ho => Gives.pure ?_
    rintro _ ⟨⟩
    exact ho
  · exact Gives.pure nofun

theorem declaredParams {params : List (Param Node)} {defaults : ι → Env} (hev : D.Obeys ev)
    (hp : D.Along path) (hr : D.Rejects target path env) (hc : D.Value (.map caller))
    (hd : ∀ p ∈ params, ∀ n, p.default? = some n → D.Call n defaults) :
    D.Gives (fun i => (ev i).declaredParams caller (target i) (path i) (env i) (defaults i) params)
      D.Binds := by
  refine Gives.bind (P := fun bindings => ∀ vars ∈ bindings, D.Binds vars) (Gives.mapM ?_)
    fun bindings hb => Gives.pure ?_
  · intro p hmem
    refine (paramValue hev hp hc (hd p hmem)).bind fun value? hv => ?_
    cases p.validate value? with
    | ok _ =>
      refine Gives.pure ?_
      intro b hb
      obtain ⟨n, hn, rfl⟩ := List.mem_map.mp hb
      exact ⟨n, hv n (Option.mem_toList.mp hn), rfl⟩
    | error v => exact D.fail (hr p.name v)
  · intro b hb'
    obtain ⟨vars, hvars, hb'⟩ := List.mem_flatten.mp hb'
    exact hb vars hvars b hb'

theorem bindParams {template : ι → String} (hev : D.Obeys ev)
    (h : D.Hosts d target template path env) (hd : D.Source (.document d))
    (hc : D.Value (.map caller)) (naming? : ι → Option NameScope)
    (hn : ∃ fixed, ∀ i, naming? i = fixed) :
    D.Gives (fun i => (ev i).bindParams d caller (target i) (naming? i) (path i) (env i))
      D.Binds := by
  obtain ⟨fixed, hn⟩ := hn
  simp only [hn]
  refine D.bind (h.enters [] fun _ hb => absurd hb List.not_mem_nil) fun inner hi => ?_
  refine (declaredParams hev h.along h.rejects hc ?_).bind fun vars hv => Gives.pure ?_
  · intro p hmem n hdef
    exact (hi.2 fixed).call n (D.source_part hd (Node.mem_parts_default hmem hdef))
  · intro b hb
    rcases List.mem_append.mp hb with hb | hb
    · exact hv b hb
    · obtain ⟨e, he, rfl⟩ := List.mem_map.mp hb
      exact ⟨e.2, (D.value_map.mp hc e (List.mem_of_mem_filter he)).2, rfl⟩

end Params

theorem paramsMap (hev : D.Obeys ev) (hw : D.Within env) (hp : D.Along path) (hn : D.Call n env) :
    D.Gives (fun i => (ev i).paramsMap n (path i) (env i)) fun m => D.Value (.map m) := by
  refine (hev.node hn (D.along_child hp _)).bind fun out ho => ?_
  cases out with
  | map m => exact Gives.pure ho
  | null => exact Gives.pure D.value_empty
  | bool _ | number _ | string _ | seq _ | tag _ | document _ => exact D.malformed hw hp _ _ _

end Discipline

end InfraTemplate
