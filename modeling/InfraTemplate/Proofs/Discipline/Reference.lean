import InfraTemplate.Proofs.Discipline.Basic

namespace InfraTemplate

def Evaluator.settle (ev : Evaluator) (at_ : Located) (path : Path) : Eval Node := do
  if at_.evaluated then return at_.node
  else
    let inner ← Eval.ofExcept (at_.env.enter at_.env.location path at_.env.scope)
    ev.node at_.node path inner

namespace Discipline

open Judgement

variable {ι : Type} {D : Discipline ι} {ev : ι → Evaluator} {env : ι → Env} {path : ι → Path}
  {expr : String} {at_ : ι → Located}

theorem answer_of_value {n : Node} (h : D.Value n) : D.Answer expr env n :=
  ⟨D.source_of_value h, .inr h⟩

theorem leads_forced (hev : ∀ {n : Node} {env : ι → Env} {path : ι → Path}, D.Call n env →
      D.Along path → D.Gives (fun i => (ev i).node n (path i) (env i)) D.Value)
    (hp : D.Along path) (h : D.Leads expr env at_) :
    D.Holds (fun i => (at_ i).forced (ev i) (path i)) (D.Leads expr env) := by
  cases h with
  | value within answer =>
    rename_i n inner
    cases n with
    | null | bool _ | number _ | string _ | seq _ | map _ | tag _ | document _ =>
      exact D.ret (.value within answer)
  | pending within call =>
    rename_i n inner
    cases n with
    | tag t =>
      refine (hev call hp).bind fun out ho => D.ret ?_
      exact .value within (answer_of_value ho)
    | null | bool _ | number _ | string _ | seq _ | map _ | document _ =>
      exact D.ret (.pending within call)

theorem leads_entered (hp : D.Along path) (h : D.Leads expr env at_) :
    D.Holds (fun i => (at_ i).entered (path i)) (D.Leads expr env) := by
  have noVars : D.Binds [] := fun _ hb => absurd hb List.not_mem_nil
  cases h with
  | value within answer =>
    rename_i n inner
    cases n with
    | document d =>
      refine D.bind (D.enterDocument within answer.1 hp [] noVars) fun inner hi => D.ret ?_
      refine .value hi.1.within ⟨D.source_body answer.1, answer.2.imp_right D.value_body⟩
    | null | bool _ | number _ | string _ | seq _ | map _ | tag _ =>
      exact D.ret (.value within answer)
  | pending within call =>
    rename_i n inner
    cases n with
    | document d =>
      have hs := D.call_source call
      refine D.bind (D.enterDocument within hs hp [] noVars) fun inner hi => D.ret ?_
      exact .pending hi.1.within (hi.1.call _ (D.source_body hs))
    | null | bool _ | number _ | string _ | seq _ | map _ | tag _ =>
      exact D.ret (.pending within call)

theorem child?_cases (n : Node) (key : String) :
    (∃ m ∈ n.parts, (D.Value n → D.Value m) ∧ ∀ (e : Env) (evaluated : Bool),
        Located.child? ⟨n, e, evaluated⟩ key = some ⟨m, e, evaluated⟩) ∨
      ∀ (e : Env) (evaluated : Bool), Located.child? ⟨n, e, evaluated⟩ key = none := by
  cases n with
  | map entries =>
    cases hf : Entries.find? key entries with
    | some m =>
      refine .inl ⟨m, Node.mem_parts_map (Entries.mem_of_find? hf), fun hv => D.value_entry hv hf, ?_⟩
      intro e evaluated
      simp only [Located.child?, hf, Option.map_some]
    | none => exact .inr fun e evaluated => by simp only [Located.child?, hf, Option.map_none]
  | seq xs =>
    cases hf : (Text.index? key.toList).bind fun i => xs[i]? with
    | some m =>
      obtain ⟨i, -, hi⟩ := Option.bind_eq_some_iff.mp hf
      have hm := List.mem_of_getElem? hi
      refine .inl ⟨m, hm, fun hv => D.value_seq.mp hv m hm, ?_⟩
      intro e evaluated
      simp only [Located.child?, hf, Option.map_some]
    | none => exact .inr fun e evaluated => by simp only [Located.child?, hf, Option.map_none]
  | null | bool _ | number _ | string _ | tag _ | document _ => exact .inr fun _ _ => rfl

theorem leads_child (h : D.Leads expr env at_) (key : String) :
    (∃ next, D.Leads expr env next ∧ ∀ i, (at_ i).child? key = some (next i)) ∨
      ∀ i, (at_ i).child? key = none := by
  cases h with
  | value within answer =>
    rename_i n inner
    rcases child?_cases (D := D) n key with ⟨m, hm, hv, hc⟩ | hc
    · have answer' : D.Answer expr env m :=
        ⟨D.source_part answer.1 hm, answer.2.imp_right hv⟩
      exact .inl ⟨_, .value within answer', fun i => hc (inner i) true⟩
    · exact .inr fun i => hc (inner i) true
  | pending within call =>
    rename_i n inner
    rcases child?_cases (D := D) n key with ⟨m, hm, -, hc⟩ | hc
    · exact .inl ⟨_, .pending within (D.call_part call hm), fun i => hc (inner i) false⟩
    · exact .inr fun i => hc (inner i) false

theorem locate_eq {e : Env} {path : Path} {head : List Char} {rest : List Segment} (ev : Evaluator)
    (h : LookupPath.parse? expr = some (.name head :: rest)) :
    ev.locate expr path e =
      Located.find expr path e (String.ofList head) >>= fun at_ => ev.walk expr path e at_ rest := by
  simp only [Evaluator.locate, Located.find, h]
  cases e.scope.find? (String.ofList head) <;> rfl

inductive Keyed (D : Discipline ι) (ev : ι → Evaluator) (path : ι → Path) (env : ι → Env) :
    (ι → List Segment) → Prop
  | nil : Keyed D ev path env fun _ => []
  | cons {s : ι → Segment} {rest : ι → List Segment}
      (key : D.Gives (fun i => (ev i).segmentKey (path i) (env i) (s i)) fun _ => True)
      (more : Keyed D ev path env rest) : Keyed D ev path env fun i => s i :: rest i

theorem keyed_of_asked (segments : List Segment) (hask : ∀ inner, .dynamic inner ∈ segments →
      D.Gives (fun i => (ev i).reference (String.ofList inner) (path i) (env i)) fun _ => True) :
    Keyed D ev path env fun _ => segments := by
  induction segments with
  | nil => exact .nil
  | cons s rest ih =>
    refine .cons ?_ (ih fun inner hi => hask inner (List.mem_cons_of_mem _ hi))
    cases s with
    | name key => exact Gives.pure trivial
    | dynamic inner =>
      refine (hask inner (List.mem_cons_self ..)).bind fun out _ => ?_
      exact Gives.pure trivial

section Walking

variable (hnode : ∀ {n : Node} {env : ι → Env} {path : ι → Path}, D.Call n env → D.Along path →
  D.Gives (fun i => (ev i).node n (path i) (env i)) D.Value)

include hnode

theorem walk {exprs : ι → String} {outer : ι → Env} {segments : ι → List Segment}
    (hp : D.Along path) (hf : D.Fault fun i => .undefined (exprs i) (path i) (outer i).stack)
    (hk : Keyed D ev path outer segments) (h : D.Leads expr env at_) :
    D.Holds (fun i => (ev i).walk (exprs i) (path i) (outer i) (at_ i) (segments i))
      (D.Leads expr env) := by
  -- What leads on stays a value or something pending, whichever segment comes next.
  induction hk generalizing at_ with
  | nil => exact D.ret h
  | cons key _ ih =>
    refine key.bind fun key _ => ?_
    refine D.bind (m := fun i => (at_ i).descend (ev i) key (path i))
      (P := fun next? => (∃ next, D.Leads expr env next ∧ next? = fun i => some (next i)) ∨
        next? = fun _ => none) ?_ ?_
    · refine D.bind (leads_forced hnode hp h) fun at_ h => ?_
      refine D.bind (leads_entered hp h) fun at_ h => ?_
      rcases leads_child h key with ⟨next, hn, hc⟩ | hc
      · exact D.ret (.inl ⟨next, hn, funext hc⟩)
      · exact D.ret (.inr (funext hc))
    · rintro _ (⟨next, hn, rfl⟩ | rfl)
      · exact ih hn
      · exact D.fail hf

theorem settle (hp : D.Along path) (h : D.Leads expr env at_) :
    D.Gives (fun i => (ev i).settle (at_ i) (path i)) (D.Answer expr env) := by
  cases h with
  | value within answer => exact Gives.pure answer
  | pending within call =>
    refine D.bind (D.enter call hp) fun inner hi => ?_
    exact (hnode hi hp).mono fun _ => answer_of_value

theorem locate (hw : D.Within env) (hp : D.Along path)
    (hask : ∀ segments, LookupPath.parse? expr = some segments → ∀ inner,
      .dynamic inner ∈ segments → D.Gives
        (fun i => (ev i).reference (String.ofList inner) (path i) (env i)) fun _ => True) :
    D.Holds (fun i => (ev i).locate expr (path i) (env i)) (D.Leads expr env) := by
  match hparse : LookupPath.parse? expr with
  | some (.name head :: rest) =>
    simp only [locate_eq _ hparse]
    refine D.bind (D.find hw hparse hp) fun at_ h => ?_
    have hf := D.fault hw hp _ (raised_undefined expr)
    exact walk hnode hp hf (keyed_of_asked rest fun inner hi =>
      hask _ hparse inner (List.mem_cons_of_mem _ hi)) h
  | none | some [] | some (.dynamic _ :: _) =>
    simp only [Evaluator.locate, hparse]
    exact D.malformed hw hp _ _ _

theorem lookup (hw : D.Within env) (hp : D.Along path)
    (hask : ∀ segments, LookupPath.parse? expr = some segments → ∀ inner,
      .dynamic inner ∈ segments → D.Gives
        (fun i => (ev i).reference (String.ofList inner) (path i) (env i)) fun _ => True) :
    D.Gives (fun i => (ev i).lookup expr (path i) (env i)) (D.Answer expr env) :=
  D.bind (locate hnode hw hp hask) fun _ h => settle hnode hp h

end Walking

theorem locate_of_obeys (hev : D.Obeys ev) (hw : D.Within env) (hp : D.Along path)
    (ha : ∀ expr, D.Ask expr env) :
    D.Holds (fun i => (ev i).locate expr (path i) (env i)) (D.Leads expr env) :=
  locate hev.node hw hp fun _ _ _ _ => (hev.reference (ha _) hp).mono fun _ _ => trivial

theorem leads_node (h : D.Leads expr env at_) : ∃ n, D.Source n ∧ ∀ i, (at_ i).node = n := by
  cases h with
  | value _ answer => exact ⟨_, answer.1, fun _ => rfl⟩
  | pending _ call => exact ⟨_, D.call_source call, fun _ => rfl⟩

end Discipline

end InfraTemplate
