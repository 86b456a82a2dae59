import InfraTemplate.Evaluation
import InfraTemplate.Proofs.Judgement
import InfraTemplate.Proofs.Parts

/-!
What runs of evaluation keep to, in one account for all purposes. A discipline says what may be
evaluated and where, and what comes out of it; its laws are all that the constructs of the language
rely on.
-/

namespace InfraTemplate

def Node.ComputesKeys : Node → Prop
  | .map m => ∃ key ∈ Entries.keys m, Interpolation.hasPlaceholders key = true
  | .tag (.apply .fromPairs _) => True
  | .tag (.loop .mapListToHash _) => True
  | .tag (.groupBy _) => True
  | _ => False

theorem Env.qualify_congr {e e' : Env} (h : e.naming? = e'.naming?) (name : String) :
    e.qualify name = e'.qualify name := by
  rw [qualify, qualify, h]

theorem Env.enter_eq_ok {env inner : Env} {location : String} {path : Path} {scope : Scope} :
    env.enter location path scope = .ok inner ↔ env.depth < env.limit ∧
      inner = { env with scope := scope, stack := env.stack ++ [⟨location, path⟩],
                         location := location, depth := env.depth + 1 } := by
  unfold enter
  split
  · rename_i h
    simp [Nat.not_lt.mpr (Nat.le_of_lt_succ h)]
  · rename_i h
    simp [Nat.lt_of_succ_le (Nat.le_of_not_lt h), eq_comm]

def Located.find (expr : String) (path : Path) (env : Env) (name : String) : Eval Located :=
  match env.scope.find? name with
  | some b => return .ofBound env b
  | none => throw (.undefined expr path env.stack)

theorem Located.find_eq (expr : String) (path : Path) (env : Env) (name : String) :
    find expr path env name = Eval.ofExcept (match env.scope.find? name with
      | some b => .ok (.ofBound env b)
      | none => .error (.undefined expr path env.stack)) := by
  unfold find
  cases env.scope.find? name <;> rfl

def Eval.addSection (heading : String) (value : Node) (naming : NameScope) (path : Path)
    (env : Env) : Eval Unit := do
  match Sections.fold (← get) heading value naming with
  | .ok s => set s
  | .error d => malformed heading path env d

theorem Eval.returns_addSection {heading : String} {value : Node} {naming : NameScope} {path : Path}
    {env : Env} {s t : Sections} {u : Unit} :
    Returns (addSection heading value naming path env) s u t ↔
      Sections.fold s heading value naming = .ok t := by
  simp only [addSection, returns_bind, returns_get]
  constructor
  · rintro ⟨_, _, ⟨rfl, rfl⟩, h⟩
    split at h
    · rename_i s hs
      rw [hs, returns_set.mp h]
    · exact absurd h Eval.returns_malformed
  · intro h
    refine ⟨s, s, ⟨rfl, rfl⟩, ?_⟩
    rw [h]
    exact returns_set.mpr rfl

theorem Eval.fails_addSection {heading : String} {value : Node} {naming : NameScope} {path : Path}
    {env : Env} {s t : Sections} {e : Error} :
    Fails (addSection heading value naming path env) s e t ↔
      t = s ∧ ∃ d, Sections.fold s heading value naming = .error d ∧
        e = .malformed ("!" ++ heading) path d env.stack := by
  simp only [addSection, fails_bind, fails_get, returns_get, false_or]
  constructor
  · rintro ⟨_, _, ⟨rfl, rfl⟩, h⟩
    split at h
    · exact absurd h fails_set
    · rename_i d hd
      obtain ⟨rfl, rfl⟩ := fails_throw.mp h
      exact ⟨rfl, d, hd, rfl⟩
  · rintro ⟨rfl, d, hd, rfl⟩
    refine ⟨t, t, ⟨rfl, rfl⟩, ?_⟩
    rw [hd]
    exact fails_throw.mpr ⟨rfl, rfl⟩

theorem Sections.fold_cases (heading : String) (value : Node) (naming : NameScope) :
    (∀ s, ∃ t, fold s heading value naming = .ok t) ∨
      ∃ d, ∀ s, fold s heading value naming = .error d := by
  unfold fold
  by_cases hh : heading = transformSection
  · refine .inl fun s => ?_
    rw [if_pos hh]
    split <;> exact ⟨_, rfl⟩
  · simp only [if_neg hh]
    cases value with
    | null => exact .inl fun s => ⟨s, rfl⟩
    | map entries =>
      refine .inl fun s => ?_
      dsimp only
      split <;> exact ⟨_, rfl⟩
    | bool _ | number _ | string _ | seq _ | tag _ | document _ => exact .inr ⟨_, fun _ => rfl⟩

def Together {ι : Type} (path : ι → Path) : Prop := ∃ p, path = fun _ => p

theorem Together.child {ι : Type} {path : ι → Path} (h : Together path) (key : String) :
    Together fun i => (path i).child key := by
  obtain ⟨p, rfl⟩ := h
  exact ⟨p.child key, rfl⟩

theorem Together.overrides {ι : Type} {path : ι → Path} (h : Together path) :
    ∃ b, ∀ i, (path i).hasSegment Evaluator.overridesKey = b := by
  obtain ⟨p, rfl⟩ := h
  exact ⟨_, fun _ => rfl⟩

structure Raised (e : Path → Env → Error) : Prop where
  kind : ∀ p a q b, (e p a).kind = (e q b).kind
  limit : ∀ p a, (e p a).kind ≠ .tooDeep
  trace : ∀ p a, (e p a).trace? = some a.stack ∨ (e p a).trace? = some []

theorem raised_malformed (construct : String) (d : Defect) :
    Raised fun path env => .malformed construct path d env.stack :=
  ⟨fun _ _ _ _ => rfl, fun _ _ => nofun, fun _ _ => .inl rfl⟩

theorem raised_undefined (expr : String) :
    Raised fun path env => .undefined expr path env.stack :=
  ⟨fun _ _ _ _ => rfl, fun _ _ => nofun, fun _ _ => .inl rfl⟩

/-- What runs side by side evaluate and what they find: from a `Source` they come to a `Value`, whose
maps have it under a `Key`. The runs are at places `Along` and in environments `Within`; there they
`Call` for the value of a node and `Ask` for that of a lookup path, and a `Shared` path may end in what
has not been evaluated. -/
structure Regime (ι : Type) extends Judgement ι Sections where
  Source : Node → Prop
  Value : Node → Prop
  Key : String → Prop
  Within : (ι → Env) → Prop
  Along : (ι → Path) → Prop
  Call : Node → (ι → Env) → Prop
  Ask : String → (ι → Env) → Prop
  Shared : String → (ι → Env) → Prop

namespace Regime

variable {ι : Type} (R : Regime ι)

def Binds (vars : List (String × Bound)) : Prop := ∀ b ∈ vars, ∃ n, R.Value n ∧ b.2 = .value n

structure Open (env : ι → Env) : Prop where
  within : R.Within env
  call : ∀ n, R.Source n → R.Call n env
  ask : ∀ expr, R.Ask expr env

structure Ready (n : Node) (env : ι → Env) : Prop where
  within : R.Within env
  source : R.Source n
  part : ∀ m ∈ n.parts, R.Call m env
  ask : ∀ expr, R.Ask expr env

structure ReadyEntries (m : Mapping) (env : ι → Env) : Prop where
  within : R.Within env
  call : ∀ e ∈ m, R.Call e.2 env
  key : ∀ e ∈ m, Interpolation.hasPlaceholders e.1 = true → ∀ k, R.Key k
  ask : ∀ expr, R.Ask expr env

def Answer (expr : String) (env : ι → Env) (n : Node) : Prop :=
  R.Source n ∧ (R.Shared expr env ∨ R.Value n)

inductive Leads (expr : String) (env : ι → Env) : (ι → Located) → Prop where
  | value {n : Node} {inner : ι → Env} (within : R.Within inner) (answer : R.Answer expr env n) :
      Leads expr env fun i => ⟨n, inner i, true⟩
  | pending {n : Node} {inner : ι → Env} (within : R.Within inner) (call : R.Call n inner) :
      Leads expr env fun i => ⟨n, inner i, false⟩

def Enters (d : Document) (path : ι → Path) (env : ι → Env) : Prop :=
  ∀ vars, R.Binds vars →
    R.Holds (fun i => Eval.ofExcept ((env i).enter d.location (path i) (d.scope.extend 0 vars)))
      fun inner => R.Open inner ∧ ∀ naming?, R.Open fun i => (inner i).withNaming naming?

def Rejects (target : ι → String) (path : ι → Path) (env : ι → Env) : Prop :=
  ∀ name violation,
    R.Fault fun i => .invalidParameter name (target i) (path i) violation (env i).stack

def Adds : Contribution → Prop
  | .nothing => True
  | .merged m => R.Value (.map m)
  | .entry key n => R.Key key ∧ R.Value n
  | .entries m => R.Value (.map m)

end Regime

/-- A regime under which every construct can be evaluated. -/
structure Discipline (ι : Type) extends Regime ι where
  along_child : ∀ {path : ι → Path}, Along path → ∀ key, Along fun i => (path i).child key
  along_overrides : ∀ {path : ι → Path}, Along path →
    ∃ b, ∀ i, (path i).hasSegment Evaluator.overridesKey = b
  fault : ∀ {env : ι → Env} {path : ι → Path}, Within env → Along path → ∀ e : Path → Env → Error,
    Raised e → Fault fun i => e (path i) (env i)
  naming : ∀ {env : ι → Env}, Within env → ∃ e : Env, (∀ i, (env i).naming? = e.naming?) ∧
    ∀ k, Key k → Key (e.qualify k)
  source_part : ∀ {n m : Node}, Source n → m ∈ n.parts → Source m
  source_of_value : ∀ {n : Node}, Value n → Source n
  source_merge : ∀ {d : Document} {m : Mapping}, Source (.document d) → Value (.map m) →
    Source (.map (Node.deepMerge d.body m))
  call_source : ∀ {n : Node} {env : ι → Env}, Call n env → Source n
  call_part : ∀ {n m : Node} {env : ι → Env}, Call n env → m ∈ n.parts → Call m env
  call_extend : ∀ {n : Node} {env : ι → Env} {vars : List (String × Bound)}, Call n env →
    toRegime.Binds vars → Call n fun i => (env i).extend vars
  parse : ∀ {n : Node} {env : ι → Env}, Within env → Source (.tag (.apply .parseYaml n)) →
    ∀ text, toJudgement.Gives (fun i => Eval.ofExcept (Node.parse text (env i).location)) fun m =>
      Call m env
  enter : ∀ {n : Node} {env : ι → Env} {path : ι → Path}, Call n env → Along path →
    Holds (fun i => Eval.ofExcept ((env i).enter (env i).location (path i) (env i).scope)) (Call n)
  enterDocument : ∀ {d : Document} {env : ι → Env} {path : ι → Path}, Within env →
    Source (.document d) → Along path → toRegime.Enters d path env
  find : ∀ {expr : String} {env : ι → Env} {head : List Char} {rest : List Segment}
    {path : ι → Path}, Within env → LookupPath.parse? expr = some (.name head :: rest) → Along path →
      Holds (fun i => Located.find expr (path i) (env i) (String.ofList head))
        (toRegime.Leads expr env)
  addSection : ∀ {value : Node} {env : ι → Env} {path : ι → Path}, Within env → Value value →
    Along path → ∀ heading ∈ Sections.hoisted, ∀ naming,
      toJudgement.Gives (fun i => Eval.addSection heading value naming (path i) (env i))
        fun _ => True
  value_scalar : ∀ {n : Node}, n.isScalar = true → Value n
  value_seq : ∀ {xs : List Node}, Value (.seq xs) ↔ ∀ x ∈ xs, Value x
  value_map : ∀ {m : Mapping}, Value (.map m) ↔ ∀ e ∈ m, Key e.1 ∧ Value e.2
  value_body : ∀ {d : Document}, Value (.document d) → Value (.map d.body)
  key : ∀ {k : String}, isBookkeeping k = false → Interpolation.hasPlaceholders k = false → Key k
  key_computed : ∀ {n : Node}, Source n → n.ComputesKeys → ∀ k, Key k

structure Regime.Obeys {ι : Type} (R : Regime ι) (ev : ι → Evaluator) : Prop where
  node : ∀ {n : Node} {env : ι → Env} {path : ι → Path}, R.Call n env → R.Along path →
    R.Gives (fun i => (ev i).node n (path i) (env i)) R.Value
  reference : ∀ {expr : String} {env : ι → Env} {path : ι → Path}, R.Ask expr env → R.Along path →
    R.Gives (fun i => (ev i).reference expr (path i) (env i)) (R.Answer expr env)
  resources : ∀ {m : Mapping} {env : ι → Env} {path : ι → Path}, R.Call (.map m) env → R.Along path →
    R.Gives (fun i => (ev i).resources m (path i) (env i)) fun out => R.Value (.map out)

namespace Discipline

variable {ι : Type} (D : Discipline ι)

theorem malformed {α : Type} {env : ι → Env} {path : ι → Path} (h : D.Within env)
    (hp : D.Along path) (construct : String) (d : Defect) (Q : (ι → α) → Prop) :
    D.Holds (fun i => InfraTemplate.malformed construct (path i) (env i) d) Q :=
  D.fail (D.fault h hp _ (raised_malformed ("!" ++ construct) d))

theorem rejects {env : ι → Env} {path : ι → Path} (h : D.Within env) (hp : D.Along path)
    (target : String) : D.Rejects (fun _ => target) path env := fun name violation =>
  D.fault h hp (fun path env => .invalidParameter name target path violation env.stack)
    ⟨fun _ _ _ _ => rfl, fun _ _ => nofun, fun _ _ => .inl rfl⟩

theorem along_item {path : ι → Path} (h : D.Along path) (j : Nat) :
    D.Along fun i => (path i).item j :=
  D.along_child h (toString j)

theorem value_string (s : String) : D.Value (.string s) := D.value_scalar rfl

theorem value_null : D.Value .null := D.value_scalar rfl

theorem value_bool (b : Bool) : D.Value (.bool b) := D.value_scalar rfl

theorem value_ofNat (n : Nat) : D.Value (.ofNat n) := D.value_scalar rfl

theorem value_empty : D.Value (.map []) := by
  rw [D.value_map]
  intro e he
  cases he

theorem value_entry {m : Mapping} {key : String} {n : Node} (h : D.Value (.map m))
    (hn : Entries.find? key m = some n) : D.Value n :=
  (Entries.of_find? (D.value_map.mp h) hn).2

theorem value_put {m : Mapping} {key : String} {n : Node} (h : D.Value (.map m)) (hk : D.Key key)
    (hn : D.Value n) : D.Value (.map (Entries.put key n m)) :=
  D.value_map.mpr (Entries.forall_put (D.value_map.mp h) ⟨hk, hn⟩)

theorem value_deepMerge {m changes : Mapping} (h : D.Value (.map m))
    (hc : D.Value (.map changes)) : D.Value (.map (Node.deepMerge m changes)) :=
  D.value_map.mpr <|
    Node.forall_deepMerge (fun _ => D.value_map) (D.value_map.mp h) changes (D.value_map.mp hc)

theorem value_single {key : String} {n : Node} (hk : D.Key key) (hn : D.Value n) :
    D.Value (.map [(key, n)]) :=
  D.value_put D.value_empty hk hn

theorem source_body {d : Document} (h : D.Source (.document d)) : D.Source (.map d.body) := by
  simpa only [Node.deepMerge] using D.source_merge h D.value_empty

variable {D} {ev : ι → Evaluator} {env : ι → Env} {n : Node} {m : Mapping} {path : ι → Path}

theorem readyEntries (h : D.Ready (.map m) env) : D.ReadyEntries m env where
  within := h.within
  call _ he := h.part _ (Node.mem_parts_map he)
  key _ he hp := D.key_computed h.source ⟨_, List.mem_map_of_mem he, hp⟩
  ask := h.ask

theorem ready_of_call (hn : D.Call n env) (hw : D.Within env) (ha : ∀ expr, D.Ask expr env) :
    D.Ready n env :=
  ⟨hw, D.call_source hn, fun _ hm => D.call_part hn hm, ha⟩

theorem ready_of_open (h : D.Open env) (hn : D.Source n) : D.Ready n env :=
  ready_of_call (h.call n hn) h.within h.ask

theorem fault_untraced (hw : D.Within env) (hp : D.Along path) (construct : String) (d : Defect) :
    D.Fault fun i => .malformed construct (path i) d [] :=
  D.fault hw hp (fun p _ => .malformed construct p d [])
    ⟨fun _ _ _ _ => rfl, fun _ _ => nofun, fun _ _ => .inr rfl⟩

theorem rendered (hev : D.Obeys ev) (hw : D.Within env) (hp : D.Along path)
    (ha : ∀ expr, D.Ask expr env) (span : Span) :
    D.Gives (fun i => Span.render (path i) (fun name => (ev i).reference name (path i) (env i)) span)
      fun _ => True := by
  cases span with
  | char c => exact Judgement.Gives.pure trivial
  | placeholder inner =>
    simp only [Span.render]
    split
    · exact Judgement.Gives.pure trivial
    · have asked (name : String) := hev.reference (ha name) hp
      split
      · refine (asked _).bind fun _ _ => ?_
        exact Judgement.Gives.pure trivial
      · split
        · refine (asked _).bind fun _ _ => ?_
          exact Judgement.Gives.pure trivial
        · exact D.fail (fault_untraced hw hp _ _)
      · exact D.fail (fault_untraced hw hp _ _)

theorem interpolated (hev : D.Obeys ev) (hw : D.Within env) (hp : D.Along path)
    (ha : ∀ expr, D.Ask expr env) (s : String) :
    D.Gives (fun i => (ev i).interpolated s (path i) (env i)) fun out =>
      Interpolation.hasPlaceholders s = false → out = s := by
  unfold Evaluator.interpolated
  cases hs : Interpolation.hasPlaceholders s with
  | false => exact Judgement.Gives.pure fun _ => rfl
  | true =>
    simp only [↓reduceIte, Interpolation.interpolate]
    refine Judgement.Gives.bind (P := fun _ => True) ?_ fun _ _ => Judgement.Gives.pure nofun
    exact (Judgement.Gives.mapM fun span _ => rendered hev hw hp ha span).mono fun _ _ => trivial

theorem items (hev : D.Obeys ev) (hp : D.Along path) {xs : List Node} (h : ∀ x ∈ xs, D.Call x env) :
    D.Gives (fun i => (ev i).items xs (path i) (env i)) fun out => ∀ x ∈ out, D.Value x := by
  refine Judgement.Gives.mapM ?_
  rintro ⟨x, i⟩ hx
  exact hev.node (h x (List.fst_mem_of_mem_zipIdx hx)) (D.along_item hp i)

end Discipline

end InfraTemplate
