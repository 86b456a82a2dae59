import InfraTemplate.Proofs.Watch

/-!
Runs in like environments. What they evaluate and what comes out is not restricted, only that they
come to the same.
-/

namespace InfraTemplate

def Same {α : Type} (a : Bool → α) : Prop := a false = a true

theorem Same.const {α : Type} {a : Bool → α} (h : Same a) (b : Bool) : a b = a false := by
  cases b with
  | false => rfl
  | true => exact h.symm

theorem same_const {α : Type} (x : α) : Same fun _ => x := rfl

structure Likeness (ι : Type) extends Judgement ι Sections where
  Alike : (ι → Env) → Prop
  Along : (ι → Path) → Prop
  along_child : ∀ {path : ι → Path}, Along path → ∀ key, Along fun i => (path i).child key
  along_overrides : ∀ {path : ι → Path}, Along path →
    ∃ b, ∀ i, (path i).hasSegment Evaluator.overridesKey = b
  fault : ∀ {env : ι → Env} {path : ι → Path}, Alike env → Along path → ∀ e : Path → Env → Error,
    Raised e → Fault fun i => e (path i) (env i)
  naming : ∀ {env : ι → Env}, Alike env → ∃ e : Env, ∀ i, (env i).naming? = e.naming?
  withNaming : ∀ {env : ι → Env}, Alike env → ∀ naming?, Alike fun i => (env i).withNaming naming?
  extend : ∀ {env : ι → Env}, Alike env → ∀ vars, Alike fun i => (env i).extend vars
  parse : ∀ {env : ι → Env}, Alike env → ∀ text,
    toJudgement.Gives (fun i => Eval.ofExcept (Node.parse text (env i).location)) fun _ => True
  enter : ∀ {env : ι → Env} {path : ι → Path}, Alike env → Along path →
    Holds (fun i => Eval.ofExcept ((env i).enter (env i).location (path i) (env i).scope)) Alike
  enterScope : ∀ {env : ι → Env} {path : ι → Path}, Alike env → Along path → ∀ location scope,
    Holds (fun i => Eval.ofExcept ((env i).enter location (path i) scope)) Alike
  find : ∀ {env : ι → Env} {path : ι → Path}, Alike env → Along path → ∀ expr name,
    Holds (fun i => Located.find expr (path i) (env i) name) fun at_ =>
      ∃ n evaluated inner, Alike inner ∧ at_ = fun i => ⟨n, inner i, evaluated⟩
  addSection : ∀ {env : ι → Env} {path : ι → Path}, Alike env → Along path →
    ∀ heading ∈ Sections.hoisted, ∀ value naming,
      toJudgement.Gives (fun i => Eval.addSection heading value naming (path i) (env i))
        fun _ => True

namespace Likeness

def Level (path : Bool → Path) : Prop := Same fun b => (path b).hasSegment Evaluator.overridesKey

theorem Level.child {path : Bool → Path} (h : Level path) (key : String) :
    Level fun b => (path b).child key := by
  have hb := fun b => h.const b
  simp only [Level, Same, Path.hasSegment_child, hb]

theorem Level.overrides {path : Bool → Path} (h : Level path) :
    ∃ b, ∀ i, (path i).hasSegment Evaluator.overridesKey = b := ⟨_, h.const⟩

variable {ι : Type} (L : Likeness ι)

def regime : Regime ι where
  toJudgement := L.toJudgement
  Source _ := True
  Value _ := True
  Key _ := True
  Within := L.Alike
  Along := L.Along
  Call _ := L.Alike
  Ask _ := L.Alike
  Shared _ _ := False

theorem open_of_alike {env : ι → Env} (h : L.Alike env) : L.regime.Open env :=
  ⟨h, fun _ _ => h, fun _ => h⟩

def discipline : Discipline ι where
  toRegime := L.regime
  along_child := L.along_child
  along_overrides := L.along_overrides
  fault := L.fault
  naming h := (L.naming h).imp fun _ he => ⟨he, fun _ _ => trivial⟩
  source_part _ _ := trivial
  source_of_value _ := trivial
  source_merge _ _ := trivial
  call_source _ := trivial
  call_part h _ := h
  call_extend h _ := L.extend h _
  parse h _ text := (L.parse h text).mono fun _ _ => h
  enter := L.enter
  enterDocument h _ hp _ _ := Judgement.holds_mono (L.enterScope h hp _ _) fun _ hi =>
    ⟨L.open_of_alike hi, fun naming? => L.open_of_alike (L.withNaming hi naming?)⟩
  find h _ hp := by
    refine Judgement.holds_mono (L.find h hp _ _) ?_
    rintro _ ⟨n, evaluated, inner, hi, rfl⟩
    cases evaluated with
    | true => exact .value hi ⟨trivial, .inr trivial⟩
    | false => exact .pending hi hi
  addSection h _ hp heading hh naming := L.addSection h hp heading hh _ naming
  value_scalar _ := trivial
  value_seq := by simp [regime]
  value_map := by simp [regime]
  value_body _ := trivial
  key _ _ := trivial
  key_computed _ _ _ := trivial

theorem ready_of_alike {n : Node} {env : ι → Env} (h : L.Alike env) : L.discipline.Ready n env :=
  Discipline.ready_of_open (L.open_of_alike h) trivial

theorem permits {n : Node} {env : ι → Env} : L.discipline.Permits n env :=
  ⟨fun _ _ => not_false, fun _ _ => trivial⟩

theorem obeys_watched (lead : ι) (allows : ι → Node → Env → Bool)
    (hgiven : ∀ {α : Type} {m : ι → Eval α} {Q : (ι → α) → Prop},
      m lead = Eval.unfinished → L.Holds m Q)
    (hallows : ∀ {n : Node} {env : ι → Env}, L.Alike env → allows lead n (env lead) = true →
      ∀ i, allows i n (env i) = true)
    (fuel : ι → Nat) (hfuel : ∀ i, fuel lead ≤ fuel i) :
    L.discipline.Obeys fun i => Evaluator.watched (allows i) (fuel i) :=
  Discipline.obeys_watched L.ready_of_alike (fun h => ⟨h, fun _ => h⟩) lead allows hgiven
    (fun h hl => ⟨L.permits, hallows h hl⟩) fuel hfuel

section Same

variable {α : Type} {I : Sections → Prop}

theorem led_same {m : Eval α} (hr : ∀ s a t, I s → Returns m s a t → I t)
    (hf : ∀ s e t, I s → Fails m s e t → I t) :
    Led false (fun ss => ∃ s, I s ∧ ss = fun _ => s) True (fun es => ∃ e, es = fun _ => e)
      (fun _ : Bool => m) fun as => ∃ a, True ∧ as = fun _ => a :=
  led_const (fun _ e => ⟨e, rfl⟩) (fun _ => hf) fun s a t hs h => ⟨trivial, hr s a t hs h⟩

theorem led_same_ofExcept (r : Except Error α) :
    Led false (fun ss => ∃ s, I s ∧ ss = fun _ => s) True (fun es => ∃ e, es = fun _ => e)
      (fun _ : Bool => Eval.ofExcept r) fun as => ∃ a, True ∧ as = fun _ => a := by
  refine led_same (fun s a t hs h => ?_) fun s e t hs h => ?_
  · obtain ⟨-, rfl⟩ := Eval.returns_ofExcept.mp h
    exact hs
  · obtain ⟨-, rfl⟩ := Eval.fails_ofExcept.mp h
    exact hs

def keeping (hI : ∀ heading ∈ Sections.hoisted, ∀ s value naming t, I s →
    Sections.fold s heading value naming = .ok t → I t) : Likeness Bool where
  toJudgement := .led false (fun ss => ∃ s, I s ∧ ss = fun _ => s) True
    (fun es => ∃ e, es = fun _ => e) (by rintro _ _ ⟨e, rfl⟩ ⟨e', rfl⟩; exact ⟨_, rfl⟩)
  Alike env := ∃ e, env = fun _ => e
  Along := Together
  along_child := Together.child
  along_overrides := Together.overrides
  fault := by
    rintro _ _ ⟨e, rfl⟩ ⟨p, rfl⟩ f _
    exact ⟨f p e, rfl⟩
  naming := by
    rintro _ ⟨e, rfl⟩
    exact ⟨e, fun _ => rfl⟩
  withNaming := by
    rintro _ ⟨e, rfl⟩ naming?
    exact ⟨_, rfl⟩
  extend := by
    rintro _ ⟨e, rfl⟩ vars
    exact ⟨_, rfl⟩
  parse := by
    rintro _ ⟨e, rfl⟩ text
    exact led_same_ofExcept _
  enter := by
    rintro _ _ ⟨e, rfl⟩ ⟨p, rfl⟩
    exact Judgement.holds_mono (J := .led _ _ _ _ _) (led_same_ofExcept _)
      fun _ ⟨e', _, he⟩ => ⟨e', he⟩
  enterScope := by
    rintro _ _ ⟨e, rfl⟩ ⟨p, rfl⟩ location scope
    exact Judgement.holds_mono (J := .led _ _ _ _ _) (led_same_ofExcept _)
      fun _ ⟨e', _, he⟩ => ⟨e', he⟩
  find := by
    rintro _ _ ⟨e, rfl⟩ ⟨p, rfl⟩ expr name
    simp only [Located.find_eq]
    refine Judgement.holds_mono (J := .led _ _ _ _ _) (led_same_ofExcept _) ?_
    rintro _ ⟨at_, -, rfl⟩
    exact ⟨at_.node, at_.evaluated, _, ⟨at_.env, rfl⟩, rfl⟩
  addSection := by
    rintro _ _ ⟨e, rfl⟩ ⟨p, rfl⟩ heading hh value naming
    refine led_same (fun s a t hs h => ?_) fun s e t hs h => ?_
    · exact hI heading hh s value naming t hs (Eval.returns_addSection.mp h)
    · obtain ⟨rfl, -⟩ := Eval.fails_addSection.mp h
      exact hs

def same : Likeness Bool :=
  keeping (I := fun _ => True) fun _ _ _ _ _ _ _ _ => trivial

end Same

end Likeness

theorem Evaluator.watched_mono {allows allows' : Node → Env → Bool}
    (ha : ∀ n e, allows n e = true → allows' n e = true) {k l : Nat} (hkl : k ≤ l) {n : Node}
    {path : Path} {env : Env} {s : Sections} {p : Except Error Node × Sections}
    (h : ((watched allows k).node n path env).outcome s = some p) :
    ((watched allows' l).node n path env).outcome s = some p := by
  have obeys := Likeness.same.obeys_watched false (fun b => bif b then allows' else allows)
    (fun hm => led_of_unfinished fun _ => by rw [hm]; rfl)
    (fun ⟨e, he⟩ hl b => by
      subst he
      cases b with
      | false => exact hl
      | true => exact ha _ _ hl)
    (fun b => bif b then l else k)
    (fun b => by cases b with | false => exact Nat.le_refl k | true => exact hkl)
  have hc : Likeness.same.discipline.Call n fun _ => env := ⟨env, rfl⟩
  obtain ⟨hr, hf⟩ := obeys.node hc ⟨path, rfl⟩ (fun _ => s) ⟨s, trivial, rfl⟩
  obtain ⟨r, t⟩ := p
  cases r with
  | ok v =>
    obtain ⟨_, ts, ⟨x, -, rfl⟩, ⟨u, -, rfl⟩, hall⟩ := hr v t h
    obtain ⟨rfl, rfl⟩ := Returns.unique h (hall false)
    exact hall true
  | error e =>
    obtain ⟨_, ts, ⟨e', rfl⟩, ⟨u, -, rfl⟩, hall⟩ := hf trivial e t h
    obtain ⟨rfl, rfl⟩ := Fails.unique h (hall false)
    exact hall true

theorem Evaluator.outcome_upTo_mono {k k' : Nat} {n : Node} {path : Path} {env : Env}
    {s : Sections} {p : Except Error Node × Sections} (hk : k ≤ k')
    (h : ((upTo k).node n path env).outcome s = some p) :
    ((upTo k').node n path env).outcome s = some p := by
  rw [← watched_true] at h ⊢
  exact watched_mono (fun _ _ h => h) hk h

theorem Evaluator.returns_upTo_mono {k k' : Nat} {n v : Node} {path : Path} {env : Env}
    {s t : Sections} (hk : k ≤ k') (h : Returns ((upTo k).node n path env) s v t) :
    Returns ((upTo k').node n path env) s v t := outcome_upTo_mono hk h

theorem Evaluator.outcome_upTo_unique {k l : Nat} {n : Node} {path : Path} {env : Env}
    {s : Sections} {p q : Except Error Node × Sections}
    (hp : ((upTo k).node n path env).outcome s = some p)
    (hq : ((upTo l).node n path env).outcome s = some q) : p = q := by
  have hk := outcome_upTo_mono (Nat.le_max_left k l) hp
  have hl := outcome_upTo_mono (Nat.le_max_right k l) hq
  exact Option.some.inj (hk.symm.trans hl)

theorem Evaluator.returns_map_iff {k : Nat} {m out : Mapping} {path : Path} {env : Env}
    {s t : Sections} : Returns ((upTo (k + 1)).node (.map m) path env) s (.map out) t ↔
      Returns ((upTo k).map m path env) s out t := by
  have hstep : (upTo (k + 1)).node (.map m) path env = Node.map <$> (upTo k).map m path env := by
    rw [map_eq_pure_bind]
    rfl
  rw [hstep, returns_map]
  constructor
  · rintro ⟨out', h, he⟩
    cases he
    exact h
  · intro h
    exact ⟨out, h, rfl⟩

theorem Evaluator.keeps_node {I : Sections → Prop}
    (hI : ∀ heading ∈ Sections.hoisted, ∀ s value naming t, I s →
      Sections.fold s heading value naming = .ok t → I t)
    {k : Nat} {n v : Node} {path : Path} {env : Env} {s t : Sections} (hs : I s)
    (h : Returns ((upTo k).node n path env) s v t) : I t := by
  have obeys := (Likeness.keeping hI).obeys_watched false (fun _ _ _ => true)
    (fun hm => led_of_unfinished fun _ => by rw [hm]; rfl) (fun _ _ _ => rfl) (fun _ => k)
    fun _ => Nat.le_refl k
  have hc : (Likeness.keeping hI).discipline.Call n fun _ => env := ⟨env, rfl⟩
  rw [← watched_true] at h
  obtain ⟨_, _, -, ⟨u, hu, rfl⟩, hall⟩ := (obeys.node hc ⟨path, rfl⟩ _ ⟨s, hs, rfl⟩).1 v t h
  obtain ⟨-, rfl⟩ := h.unique (hall false)
  exact hu

end InfraTemplate
