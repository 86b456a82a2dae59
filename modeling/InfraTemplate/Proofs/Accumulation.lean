import InfraTemplate.Proofs.Likeness

namespace InfraTemplate

structure Sections.Addition where
  heading : String
  value : Node
  naming : NameScope

def Sections.addAll (s : Sections) (cs : List Addition) : Except Defect Sections :=
  cs.foldlM (fun s c => fold s c.heading c.value c.naming) s

theorem Sections.addAll_singleton (s : Sections) (c : Addition) :
    addAll s [c] = fold s c.heading c.value c.naming := by
  rw [addAll, List.foldlM_cons]
  cases fold s c.heading c.value c.naming <;> rfl

theorem Sections.addAll_append {s t u : Sections} {before after : List Addition}
    (hb : addAll s before = .ok t) (ha : addAll t after = .ok u) :
    addAll s (before ++ after) = .ok u := by
  rw [addAll] at hb ⊢
  rw [List.foldlM_append, hb]
  exact ha

section Runs

variable {σ α β : Type}

/-- From all states that differ in their sections the computation comes to the same and adds the
same, also where it fails. The states are those with sections put in the place for them. -/
def Accumulates (place : σ → Sections → σ) (m : Stateful σ α) (Q : α → Prop) : Prop :=
  ∀ p : σ, (∀ s, m.run (place p s) = none) ∨
    ∃ (r : Except Error α) (q : σ) (cs : List Sections.Addition), (∀ a, r = .ok a → Q a) ∧
      ∀ s, ∃ t, Sections.addAll s cs = .ok t ∧ m.run (place p s) = some (r, place q t)

variable {place : σ → Sections → σ} {m : Stateful σ α}

theorem accumulates_of_run {Q : α → Prop} (next : σ → σ) (r : σ → Except Error α)
    (hQ : ∀ p a, r p = .ok a → Q a)
    (h : ∀ p s, m.run (place p s) = some (r p, place (next p) s)) : Accumulates place m Q := by
  intro p
  refine .inr ⟨r p, next p, [], hQ p, fun s => ⟨s, rfl, ?_⟩⟩
  exact h p s

theorem accumulates_pure {a : α} {Q : α → Prop} (h : Q a) :
    Accumulates place (pure a : Stateful σ α) Q := by
  refine accumulates_of_run id (fun _ => .ok a) ?_ fun _ _ => rfl
  rintro _ _ ⟨⟩
  exact h

theorem accumulates_throw (e : Error) (Q : α → Prop) :
    Accumulates place (throw e : Stateful σ α) Q :=
  accumulates_of_run id (fun _ => .error e) (by rintro _ _ ⟨⟩) fun _ _ => rfl

theorem accumulates_bind {f : α → Stateful σ β} {P : α → Prop} {Q : β → Prop}
    (hm : Accumulates place m P) (hf : ∀ a, P a → Accumulates place (f a) Q) :
    Accumulates place (m >>= f) Q := by
  intro p
  simp only [run_bind]
  rcases hm p with hnone | ⟨r, q, cs, hP, hrun⟩
  · left
    intro s
    rw [hnone]
    rfl
  · cases r with
    | error e =>
      refine .inr ⟨.error e, q, cs, (by rintro _ ⟨⟩), fun s => ?_⟩
      obtain ⟨t, ht, hrun⟩ := hrun s
      exact ⟨t, ht, by rw [hrun]; rfl⟩
    | ok a =>
      -- What comes next starts from the state that differs from run to run in its sections only.
      rcases hf a (hP a rfl) q with hnone | ⟨r', q', cs', hQ, hrun'⟩
      · left
        intro s
        obtain ⟨t, -, hrun⟩ := hrun s
        rw [hrun]
        exact hnone t
      · refine .inr ⟨r', q', cs ++ cs', hQ, fun s => ?_⟩
        obtain ⟨t, ht, hrun⟩ := hrun s
        obtain ⟨u, hu, hrun'⟩ := hrun' t
        refine ⟨u, Sections.addAll_append ht hu, ?_⟩
        rw [hrun]
        exact hrun'

theorem accumulates_report {P : α → Prop} (e : Error) (hm : Accumulates place m P) :
    Accumulates place (reporting e m) P := by
  intro p
  simp only [run_reporting]
  rcases hm p with hnone | ⟨r, q, cs, hP, hrun⟩
  · left
    intro s
    rw [hnone]
    rfl
  · right
    cases r with
    | ok a =>
      refine ⟨.ok a, q, cs, hP, fun s => ?_⟩
      obtain ⟨t, ht, hrun⟩ := hrun s
      exact ⟨t, ht, by rw [hrun]; rfl⟩
    | error e' =>
      refine ⟨.error (reported e e'), q, cs, (by rintro _ ⟨⟩), fun s => ?_⟩
      obtain ⟨t, ht, hrun⟩ := hrun s
      exact ⟨t, ht, by rw [hrun]; rfl⟩

def Judgement.accumulating (place : σ → Sections → σ) : Judgement Unit σ where
  Holds m Q := Accumulates place (m ()) fun a => Q fun _ => a
  Fault _ := True
  ret hQ := accumulates_pure hQ
  bind hm hf := accumulates_bind hm fun a ha => hf (fun _ => a) ha
  fail _ := accumulates_throw _ _
  report hm _ := accumulates_report _ hm

theorem gives_accumulating {m : Unit → Stateful σ α} {P : α → Prop}
    (hm : Accumulates place (m ()) P) : (Judgement.accumulating place).Gives m P :=
  Judgement.holds_mono (J := .accumulating place) (m := m) (P := fun a => P (a ())) hm
    fun a ha => ⟨a (), ha, rfl⟩

theorem accumulates_of_gives {P : α → Prop}
    (hm : (Judgement.accumulating place).Gives (fun _ => m) P) : Accumulates place m P :=
  Judgement.holds_mono (J := .accumulating place) (Q := fun a => P (a ())) hm
    (by rintro _ ⟨x, hx, rfl⟩; exact hx)

end Runs

namespace Eval

variable {α : Type}

def place (_ : Sections) (s : Sections) : Sections := s

theorem accumulates_ofExcept (r : Except Error α) : Accumulates place (ofExcept r) fun _ => True :=
  accumulates_of_run id (fun _ => r) (fun _ _ _ => trivial) fun _ _ => rfl

theorem accumulates_find (expr : String) (path : Path) (env : Env) (name : String) :
    Accumulates place (Located.find expr path env name) fun _ => True := by
  unfold Located.find
  cases env.scope.find? name with
  | none => exact accumulates_throw _ _
  | some b => exact accumulates_pure trivial

theorem accumulates_addSection (heading : String) (value : Node) (naming : NameScope) (path : Path)
    (env : Env) : Accumulates place (addSection heading value naming path env) fun _ => True := by
  intro p
  right
  rcases Sections.fold_cases heading value naming with hok | ⟨d, hd⟩
  · refine ⟨.ok (), p, [⟨heading, value, naming⟩], fun _ _ => trivial, fun s => ?_⟩
    obtain ⟨t, ht⟩ := hok s
    refine ⟨t, ?_, returns_addSection.mpr ht⟩
    rw [Sections.addAll_singleton]
    exact ht
  · refine ⟨.error (.malformed ("!" ++ heading) path d env.stack), p, [], (by rintro _ ⟨⟩),
      fun s => ⟨s, rfl, ?_⟩⟩
    exact fails_addSection.mpr ⟨rfl, d, hd s, rfl⟩

end Eval

namespace Likeness

def accumulating : Likeness Unit where
  toJudgement := .accumulating Eval.place
  Alike _ := True
  Along := Together
  along_child := Together.child
  along_overrides := Together.overrides
  fault _ _ _ _ := trivial
  naming {env} _ := ⟨env (), fun _ => rfl⟩
  withNaming _ _ := trivial
  extend _ _ := trivial
  parse _ _ := gives_accumulating (Eval.accumulates_ofExcept _)
  enter _ _ := Eval.accumulates_ofExcept _
  enterScope _ _ _ _ := Eval.accumulates_ofExcept _
  find {env path} _ _ expr name := by
    refine Judgement.holds_mono (J := .accumulating Eval.place) (P := fun _ => True) ?_
      fun at_ _ => ⟨(at_ ()).node, (at_ ()).evaluated, fun i => (at_ i).env, trivial, rfl⟩
    exact Eval.accumulates_find expr (path ()) (env ()) name
  addSection _ _ heading _ value naming :=
    gives_accumulating (Eval.accumulates_addSection heading value naming _ _)

end Likeness

namespace Evaluator

open Likeness

theorem obeys_accumulating (k : Nat) : accumulating.discipline.Obeys fun _ => upTo k := by
  have obeys := accumulating.obeys_watched () (fun _ _ _ => true)
    (by intro α m Q hm p; left; intro s; rw [hm]; rfl) (fun _ _ _ => rfl) (fun _ => k)
    fun _ => Nat.le_refl k
  rw [watched_true] at obeys
  exact obeys

theorem accumulates_node (k : Nat) (n : Node) (path : Path) (env : Env) :
    Accumulates Eval.place ((upTo k).node n path env) fun _ => True := by
  have hn : accumulating.discipline.Call n fun _ => env := trivial
  exact accumulates_of_gives ((obeys_accumulating k).node hn ⟨path, rfl⟩)

theorem accumulates_map (k : Nat) (m : Mapping) (path : Path) (env : Env) :
    Accumulates Eval.place ((upTo k).map m path env) fun _ => True := by
  have hopen : accumulating.regime.Open fun _ => env := open_of_alike accumulating trivial
  have hready : accumulating.discipline.ReadyEntries m fun _ => env :=
    Discipline.readyEntries (Discipline.ready_of_open hopen trivial)
  exact accumulates_of_gives (Discipline.map (obeys_accumulating k) hready ⟨path, rfl⟩)

end Evaluator

structure Call where
  node : Node
  path : Path
  env : Env

def Evaluator.each (ev : Evaluator) :
    List Call → Sections → Option (List (Except Error Node) × Sections)
  | [], s => some ([], s)
  | c :: rest, s => do
    let (r, t) ← (ev.node c.node c.path c.env).outcome s
    let (rs, u) ← ev.each rest t
    return (r :: rs, u)

theorem Evaluator.outcome_fst (k : Nat) (c : Call) (s t : Sections) :
    (((upTo k).node c.node c.path c.env).outcome s).map (·.1) =
      (((upTo k).node c.node c.path c.env).outcome t).map (·.1) := by
  rcases accumulates_node k c.node c.path c.env [] with hnone | ⟨r, q, cs, -, hrun⟩
  · have hs := hnone s
    have ht := hnone t
    simp only [Eval.place] at hs ht
    rw [Eval.outcome, Eval.outcome, hs, ht]
  · obtain ⟨u, -, hs⟩ := hrun s
    obtain ⟨v, -, ht⟩ := hrun t
    simp only [Eval.place] at hs ht
    rw [Eval.outcome, Eval.outcome, hs, ht]
    rfl

theorem Evaluator.value_unique {k l : Nat} {n v w : Node} {path : Path} {env : Env}
    {s s' t t' : Sections} (hv : Returns ((upTo k).node n path env) s v t)
    (hw : Returns ((upTo l).node n path env) s' w t') : v = w := by
  have hfst := outcome_fst l ⟨n, path, env⟩ s' s
  rw [show ((upTo l).node n path env).outcome s' = some (.ok w, t') from hw] at hfst
  obtain ⟨p, hp, hfst⟩ := Option.map_eq_some_iff.mp hfst.symm
  have heq := congrArg Prod.fst (outcome_upTo_unique hv hp)
  rw [hfst] at heq
  cases heq
  rfl

theorem Evaluator.each_fst (k : Nat) (calls : List Call) (s : Sections) :
    ((upTo k).each calls s).map (·.1) =
      calls.mapM fun c => (((upTo k).node c.node c.path c.env).outcome []).map (·.1) := by
  induction calls generalizing s with
  | nil => rfl
  | cons c rest ih =>
    rw [List.mapM_cons, ← outcome_fst k c s [], each]
    cases ((upTo k).node c.node c.path c.env).outcome s with
    | none => rfl
    | some p =>
      have hrest := ih p.2
      simp only [Option.bind_eq_bind, Option.bind_some, Option.map_some] at hrest ⊢
      rw [← hrest]
      cases (upTo k).each rest p.2 <;> rfl

/-- The value or error of a node does not depend on the sections that are there before, and neither
does what its evaluation adds to them. So nodes evaluated one after another come to the same as each
of them alone. -/
theorem evaluation_accumulates :
    (∀ (n : Node) (path : Path) (env : Env),
      (∀ k s, ((Evaluator.upTo k).node n path env).outcome s = none) ∨
        ∃ k r cs, ∀ j, k ≤ j → ∀ s, ∃ t, Sections.addAll s cs = .ok t ∧
          ((Evaluator.upTo j).node n path env).outcome s = some (r, t)) ∧
    ∀ (k : Nat) (calls : List Call) (s : Sections),
      ((Evaluator.upTo k).each calls s).map (·.1) =
        calls.mapM fun c => (((Evaluator.upTo k).node c.node c.path c.env).outcome []).map (·.1) := by
  refine ⟨fun n path env => ?_, Evaluator.each_fst⟩
  by_cases hends : ∃ k s, ((Evaluator.upTo k).node n path env).outcome s ≠ none
  · obtain ⟨k, s, hs⟩ := hends
    rcases Evaluator.accumulates_node k n path env [] with hnone | ⟨r, q, cs, -, hrun⟩
    · exact absurd (hnone s) hs
    · refine .inr ⟨k, r, cs, fun j hj s => ?_⟩
      obtain ⟨t, ht, hk⟩ := hrun s
      refine ⟨t, ht, ?_⟩
      rw [← Evaluator.watched_true] at hk ⊢
      exact Evaluator.watched_mono (fun _ _ _ => rfl) hj hk
  · left
    intro k s
    by_contra hne
    exact hends ⟨k, s, hne⟩

end InfraTemplate
