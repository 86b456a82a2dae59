import InfraTemplate.Proofs.Likeness

namespace InfraTemplate

structure Env.WellFormed (env : Env) : Prop where
  length : env.stack.length = env.depth + 1
  location : env.stack.getLast?.map Visit.location = some env.location

namespace Env.WellFormed

variable {env inner : Env}

theorem root (scope : Scope) (location : String) (limit : Nat) :
    (Env.root scope location limit).WellFormed := ⟨rfl, rfl⟩

theorem extend (h : env.WellFormed) (vars : List (String × Bound)) : (env.extend vars).WellFormed :=
  ⟨h.length, h.location⟩

theorem withScope (h : env.WellFormed) (scope : Scope) : (env.withScope scope).WellFormed :=
  ⟨h.length, h.location⟩

theorem withNaming (h : env.WellFormed) (naming? : Option NameScope) :
    (env.withNaming naming?).WellFormed := ⟨h.length, h.location⟩

theorem enter (h : env.WellFormed) {location : String} {path : Path} {scope : Scope}
    (he : env.enter location path scope = .ok inner) : inner.WellFormed := by
  obtain ⟨-, rfl⟩ := Env.enter_eq_ok.mp he
  constructor
  · rw [List.length_append, h.length]
    rfl
  · rw [List.getLast?_concat]
    rfl

end Env.WellFormed

/-- The trace of the error, if its kind has one, is empty or goes on where the stack `base` ends, and it
is no longer than the limit allows. At the limit it is that long. -/
structure Error.Traced (base : Trace) (limit : Nat) (e : Error) : Prop where
  begins : ∀ t, e.trace? = some t → t = [] ∨ base <+: t
  length_le : ∀ t, e.trace? = some t → t.length ≤ limit + 1
  full : ∀ n path t, e = .tooDeep n path t → n = limit ∧ base <+: t ∧ t.length = limit + 1

structure Env.Above (base : Trace) (limit : Nat) (env : Env) : Prop where
  wellFormed : env.WellFormed
  stack : base <+: env.stack
  limit_eq : env.limit = limit
  depth_le : env.depth ≤ limit

section Traces

variable {base : Trace} {limit : Nat} {env inner : Env} {path : Path} {location : String}
  {scope : Scope} {e : Error}

theorem Error.traced_of_untraced (h : ∀ t, e.trace? = some t → t = [])
    (hkind : e.kind ≠ .tooDeep) : e.Traced base limit where
  begins t ht := .inl (h t ht)
  length_le t ht := by
    rw [h t ht]
    exact Nat.zero_le _
  full := by
    rintro n path t rfl
    exact absurd rfl hkind

theorem Env.Above.length_le (h : env.Above base limit) : env.stack.length ≤ limit + 1 := by
  rw [h.wellFormed.length]
  exact Nat.succ_le_succ h.depth_le

theorem Env.Above.raised (h : env.Above base limit) {e : Path → Env → Error} (he : Raised e) :
    (e path env).Traced base limit := by
  rcases he.trace path env with ht | ht
  · refine ⟨fun t hs => ?_, fun t hs => ?_, fun n p t hdeep => ?_⟩
    · rw [ht] at hs
      cases hs
      exact .inr h.stack
    · rw [ht] at hs
      cases hs
      exact h.length_le
    · exact absurd (congrArg Error.kind hdeep) (he.limit path env)
  · refine Error.traced_of_untraced (fun t hs => ?_) (he.limit path env)
    rw [ht] at hs
    cases hs
    rfl

theorem Env.Above.enter (h : env.Above base limit) (he : env.enter location path scope = .ok inner) :
    inner.Above base limit := by
  have hw := h.wellFormed.enter he
  obtain ⟨hd, rfl⟩ := Env.enter_eq_ok.mp he
  refine ⟨hw, h.stack.trans (List.prefix_append ..), h.limit_eq, ?_⟩
  rw [h.limit_eq] at hd
  exact hd

theorem Env.Above.enter_error (h : env.Above base limit)
    (he : env.enter location path scope = .error e) : e.Traced base limit := by
  unfold Env.enter at he
  split at he
  · rename_i hdeep
    cases he
    have hlength : env.stack.length = limit + 1 := by
      have := h.wellFormed.length
      have := h.depth_le
      have := h.limit_eq
      omega
    refine ⟨fun t ht => ?_, fun t ht => ?_, fun n p t ht => ?_⟩
    · cases ht
      exact .inr h.stack
    · cases ht
      exact Nat.le_of_eq hlength
    · cases ht
      exact ⟨h.limit_eq, h.stack, hlength⟩
  · cases he

end Traces

section Reading

variable {e : Error}

def Error.Unplaced (e : Error) : Prop :=
  (∃ construct path defect, e = malformedAt construct path defect) ∨
    ∃ location reason, e = .unreadable location reason

theorem Error.Unplaced.traced (h : e.Unplaced) (base : Trace) (limit : Nat) :
    e.Traced base limit := by
  rcases h with ⟨construct, path, defect, rfl⟩ | ⟨location, reason, rfl⟩
  · refine Error.traced_of_untraced (fun t ht => ?_) nofun
    cases ht
    rfl
  · exact Error.traced_of_untraced (fun t ht => nomatch ht) nofun

theorem map_eq_error {α β : Type} {m : Except Error α} {f : α → β} (h : m.map f = .error e) :
    m = .error e := by
  cases m with
  | ok a => cases h
  | error e' =>
    cases h
    rfl

theorem bind_eq_error {α β : Type} {m : Except Error α} {f : α → Except Error β}
    (h : m >>= f = .error e) : m = .error e ∨ ∃ a, m = .ok a ∧ f a = .error e := by
  cases m with
  | ok a => exact .inr ⟨a, rfl, h⟩
  | error e' =>
    cases h
    exact .inl rfl

namespace Node

mutual

theorem unplaced_ofYaml {path : String} :
    (v : Yaml.Value) → ofYaml path v = .error e → e.Unplaced
  | .null, h | .bool _, h | .number _, h | .string _, h => by
    rw [ofYaml] at h
    cases h
  | .sequence items, h => by
    rw [ofYaml] at h
    exact unplaced_itemsOfYaml items (map_eq_error h)
  | .mapping entries, h => by
    rw [ofYaml] at h
    exact unplaced_entriesOfYaml entries (map_eq_error h)
  | .tagged name content, h => by
    rw [ofYaml] at h
    rcases bind_eq_error h with h | ⟨n, -, h⟩
    · exact unplaced_ofYaml content h
    · split at h
      · cases h
      · cases h
        exact .inl ⟨_, _, _, rfl⟩

theorem unplaced_itemsOfYaml {path : String} {i : Nat} :
    (items : List Yaml.Value) → itemsOfYaml path i items = .error e → e.Unplaced
  | [], h => by
    rw [itemsOfYaml] at h
    cases h
  | v :: items, h => by
    rw [itemsOfYaml] at h
    rcases bind_eq_error h with h | ⟨y, -, h⟩
    · exact unplaced_ofYaml v h
    · rcases bind_eq_error h with h | ⟨ys, -, h⟩
      · exact unplaced_itemsOfYaml items h
      · cases h

theorem unplaced_entriesOfYaml {path : String} {done : Mapping} :
    (entries : List (Yaml.Value × Yaml.Value)) → entriesOfYaml path done entries = .error e →
      e.Unplaced
  | [], h => by
    rw [entriesOfYaml] at h
    cases h
  | (k, v) :: rest, h => by
    rw [entriesOfYaml] at h
    split at h
    · rcases bind_eq_error h with h | ⟨y, -, h⟩
      · exact unplaced_ofYaml v h
      · exact unplaced_entriesOfYaml rest h
    · cases h
      exact .inl ⟨_, _, _, rfl⟩

end

theorem unplaced_parse {text location : String} (h : parse text location = .error e) :
    e.Unplaced := by
  unfold parse at h
  split at h
  · exact unplaced_ofYaml _ h
  · cases h
    exact .inr ⟨_, _, rfl⟩

end Node

end Reading

namespace Likeness

section Tracing

variable {base : Trace} {limit : Nat} {α : Type}

def Tells (base : Trace) (limit : Nat) (es : Unit → Error) : Prop := (es ()).Traced base limit

theorem led_alone {m : Unit → Eval α} {Q : (Unit → α) → Prop}
    (hr : ∀ s a t, Returns (m ()) s a t → Q fun _ => a)
    (hf : ∀ s e t, Fails (m ()) s e t → e.Traced base limit) :
    Led () (fun _ => True) True (Tells base limit) m Q := by
  intro s _
  refine ⟨fun a t ha => ?_, fun _ e t he => ?_⟩
  · exact ⟨fun _ => a, fun _ => t, hr _ a t ha, trivial, fun _ => ha⟩
  · exact ⟨fun _ => e, fun _ => t, hf _ e t he, trivial, fun _ => he⟩

theorem led_told {r : Unit → Except Error α} {Q : (Unit → α) → Prop}
    (hok : ∀ a, r () = .ok a → Q fun _ => a) (herr : ∀ e, r () = .error e → e.Traced base limit) :
    Led () (fun _ => True) True (Tells base limit) (fun i => Eval.ofExcept (r i)) Q :=
  led_alone (fun _ a _ ha => hok a (Eval.returns_ofExcept.mp ha).1)
    fun _ e _ he => herr e (Eval.fails_ofExcept.mp he).1

theorem led_enter_above {env : Unit → Env} (h : (env ()).Above base limit) (location : Unit → String)
    (path : Unit → Path) (scope : Unit → Scope) :
    Led () (fun _ => True) True (Tells base limit)
      (fun i => Eval.ofExcept ((env i).enter (location i) (path i) (scope i)))
      fun inner => (inner ()).Above base limit :=
  led_told (fun _ he => h.enter he) fun _ he => h.enter_error he

theorem led_find_above {env : Unit → Env} {path : Unit → Path} (h : (env ()).Above base limit)
    (expr name : String) :
    Led () (fun _ => True) True (Tells base limit)
      (fun i => Located.find expr (path i) (env i) name) fun at_ =>
        ∃ (n : Node) (evaluated : Bool) (inner : Unit → Env), (inner ()).Above base limit ∧
          at_ = fun i => ⟨n, inner i, evaluated⟩ := by
  simp only [Located.find_eq]
  refine led_told (fun at_ hat => ?_) fun e he => ?_
  · split at hat
    · rename_i b hb
      cases hat
      cases b with
      | value n => exact ⟨n, true, env, h, rfl⟩
      | raw n scope =>
        have hs : ((env ()).withScope scope).Above base limit :=
          ⟨h.wellFormed.withScope scope, h.stack, h.limit_eq, h.depth_le⟩
        exact ⟨n, false, fun i => (env i).withScope scope, hs, rfl⟩
    · cases hat
  · split at he
    · cases he
    · cases he
      exact h.raised (raised_undefined expr)

theorem led_addSection_above {env : Unit → Env} {path : Unit → Path}
    (h : (env ()).Above base limit) (heading : String) (value : Node) (naming : NameScope) :
    Led () (fun _ => True) True (Tells base limit)
      (fun i => Eval.addSection heading value naming (path i) (env i))
      fun u => ∃ x, True ∧ u = fun _ => x := by
  refine led_alone (fun _ u _ _ => ⟨u, trivial, rfl⟩) fun s e t he => ?_
  obtain ⟨-, d, -, rfl⟩ := Eval.fails_addSection.mp he
  exact h.raised (raised_malformed ("!" ++ heading) d)

def tracing (base : Trace) (limit : Nat) : Likeness Unit where
  toJudgement := .led () (fun _ => True) True (Tells base limit) fun e es he hes => by
    change (reported (e ()) (es ())).Traced base limit
    rcases reported_cases (e ()) (es ()) with h | h
    · rw [h]
      exact he
    · rw [h]
      exact hes
  Alike env := (env ()).Above base limit
  Along := Together
  along_child := Together.child
  along_overrides := Together.overrides
  fault h _ _ he := h.raised he
  naming {env} _ := ⟨env (), fun _ => rfl⟩
  withNaming h naming? := ⟨h.wellFormed.withNaming naming?, h.stack, h.limit_eq, h.depth_le⟩
  extend h vars := ⟨h.wellFormed.extend vars, h.stack, h.limit_eq, h.depth_le⟩
  parse {env} _ text :=
    led_told (r := fun i => Node.parse text (env i).location) (fun n _ => ⟨n, trivial, rfl⟩)
      fun _ he => (Node.unplaced_parse he).traced base limit
  enter {env path} h _ :=
    led_enter_above h (fun i => (env i).location) path fun i => (env i).scope
  enterScope {_ path} h _ location scope :=
    led_enter_above h (fun _ => location) path fun _ => scope
  find h _ := led_find_above h
  addSection h _ heading _ := led_addSection_above h heading

theorem obeys_tracing (base : Trace) (limit k : Nat) :
    (tracing base limit).discipline.Obeys fun _ => Evaluator.upTo k := by
  have h := (tracing base limit).obeys_watched () (fun _ _ _ => true)
    (fun hm => led_of_unfinished fun _ => by rw [hm]; rfl) (fun _ _ _ => rfl) (fun _ => k)
    fun _ => Nat.le_refl k
  simpa only [Evaluator.watched_true] using h

end Tracing

end Likeness

theorem Evaluator.traced_of_fails {k : Nat} {n : Node} {path : Path} {env : Env} {s t : Sections}
    {e : Error} (hw : env.WellFormed) (hd : env.depth ≤ env.limit)
    (h : Fails ((upTo k).node n path env) s e t) : e.Traced env.stack env.limit := by
  have hc : (Likeness.tracing env.stack env.limit).discipline.Call n fun _ => env :=
    ⟨hw, List.prefix_rfl, rfl, hd⟩
  have node := (Likeness.obeys_tracing env.stack env.limit k).node hc ⟨path, rfl⟩
  obtain ⟨es, ts, hes, -, hall⟩ := (node (fun _ => s) trivial).2 trivial e t h
  obtain ⟨rfl, -⟩ := h.unique (hall ())
  exact hes

/-- The environments that evaluation derives are well formed, and whenever it fails its error has no
trace, an empty one or one that goes on where the stack of the environment ends. -/
theorem errors_extend_stack :
    (∀ scope location limit, (Env.root scope location limit).WellFormed) ∧
    (∀ env : Env, env.WellFormed →
      (∀ vars, (env.extend vars).WellFormed) ∧ (∀ scope, (env.withScope scope).WellFormed) ∧
      (∀ naming?, (env.withNaming naming?).WellFormed) ∧
      ∀ location path scope inner, env.enter location path scope = .ok inner → inner.WellFormed) ∧
    ∀ (k : Nat) (n : Node) (path : Path) (env : Env) (s t : Sections) (e : Error), env.WellFormed →
      env.depth ≤ env.limit → Fails ((Evaluator.upTo k).node n path env) s e t →
        e.Traced env.stack env.limit :=
  ⟨Env.WellFormed.root, fun _ h => ⟨h.extend, h.withScope, h.withNaming, fun _ _ _ _ => h.enter⟩,
    fun _ _ _ _ _ _ _ => Evaluator.traced_of_fails⟩

-- Inside a template one more document may be entered, and there are two, one inside the other.
def nestedEnv : Env where
  scope := .frame 0 [("x", .raw (.tag (.lookup "y")) (.frame 1 [("y", .raw .null .empty)] .empty))] .empty
  stack := [⟨"a.yaml", "Root"⟩, ⟨"t.yaml", "Root.out"⟩]
  naming? := none
  location := "t.yaml"
  depth := 1
  limit := 2

def nestedVisit : Visit := ⟨"t.yaml", "Root.out.x"⟩

theorem errors_extend_stack_nested : nestedEnv.WellFormed ∧ nestedEnv.depth ≤ nestedEnv.limit ∧
    Fails ((Evaluator.upTo 5).node (.tag (.lookup "x")) "Root.out.x" nestedEnv) []
      (.tooDeep 2 "Root.out.x" (nestedEnv.stack ++ [nestedVisit])) [] ∧
    (Error.tooDeep 2 "Root.out.x" (nestedEnv.stack ++ [nestedVisit])).Traced nestedEnv.stack 2 := by
  have hw : nestedEnv.WellFormed := ⟨rfl, rfl⟩
  have hd : nestedEnv.depth ≤ nestedEnv.limit := by decide
  have hf : Fails ((Evaluator.upTo 5).node (.tag (.lookup "x")) "Root.out.x" nestedEnv) []
      (.tooDeep 2 "Root.out.x" (nestedEnv.stack ++ [nestedVisit])) [] := by
    with_unfolding_all rfl
  exact ⟨hw, hd, hf, errors_extend_stack.2.2 _ _ _ _ _ _ _ hw hd hf⟩

end InfraTemplate
