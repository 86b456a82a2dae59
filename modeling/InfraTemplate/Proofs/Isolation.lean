import InfraTemplate.Proofs.Accumulation

namespace InfraTemplate

section Runs

variable {α β : Type} {m : Bool → Eval α} {P Q : (Bool → α) → Prop}

inductive Agree (m : Bool → Eval α) (Q : (Bool → α) → Prop) : Prop where
  | endless (h : ∀ b s, (m b).outcome s = none)
  | value (a : Bool → α) (cs : List Sections.Addition) (holds : Q a)
      (h : ∀ s, ∃ t, Sections.addAll s cs = .ok t ∧ ∀ b, Returns (m b) s (a b) t)
  | error (e : Bool → Error) (kind : Same fun b => (e b).kind)
      (h : ∀ b s, ∃ t, Fails (m b) s (e b) t)

theorem agree_value {a : Bool → α} (hQ : Q a) (h : ∀ b s, Returns (m b) s (a b) s) : Agree m Q :=
  .value a [] hQ fun s => ⟨s, rfl, fun b => h b s⟩

theorem agree_throw {e : Bool → Error} (h : Same fun b => (e b).kind) :
    Agree (fun b => throw (e b)) Q :=
  .error e h fun _ s => ⟨s, fails_throw.mpr ⟨rfl, rfl⟩⟩

theorem agree_bind {f : Bool → α → Eval β} {Q : (Bool → β) → Prop} (hm : Agree m P)
    (hf : ∀ a, P a → Agree (fun b => f b (a b)) Q) : Agree (fun b => m b >>= f b) Q := by
  cases hm with
  | endless h =>
    refine .endless fun b s => ?_
    have hb : (m b).run s = none := h b s
    rw [Eval.outcome, run_bind, hb]
    rfl
  | error e kind h =>
    refine .error e kind fun b s => ?_
    obtain ⟨t, ht⟩ := h b s
    exact ⟨t, fails_bind.mpr (.inl ht)⟩
  | value a cs hP h =>
    -- The second computations start from where the first ones ended, which is any sections again.
    cases hf a hP with
    | endless h' =>
      refine .endless fun b s => ?_
      obtain ⟨t, -, ht⟩ := h s
      have hb : (m b).run s = some (.ok (a b), t) := ht b
      rw [Eval.outcome, run_bind, hb]
      exact h' b t
    | error e kind h' =>
      refine .error e kind fun b s => ?_
      obtain ⟨t, -, ht⟩ := h s
      obtain ⟨u, hu⟩ := h' b t
      exact ⟨u, fails_bind.mpr (.inr ⟨_, _, ht b, hu⟩)⟩
    | value a' cs' hQ h' =>
      refine .value a' (cs ++ cs') hQ fun s => ?_
      obtain ⟨t, hcs, ht⟩ := h s
      obtain ⟨u, hcs', hu⟩ := h' t
      exact ⟨u, Sections.addAll_append hcs hcs', fun b => returns_bind.mpr ⟨_, _, ht b, hu b⟩⟩

theorem kind_reported (e e' : Error) :
    (reported e e').kind = if e'.kind = .undefined then e.kind else e'.kind := by
  cases e' <;> rfl

theorem agree_report {e : Bool → Error} (hm : Agree m P) (he : Same fun b => (e b).kind) :
    Agree (fun b => reporting (e b) (m b)) P := by
  cases hm with
  | endless h =>
    refine .endless fun b s => ?_
    have hb : (m b).run s = none := h b s
    rw [Eval.outcome, run_reporting, hb]
    rfl
  | value a cs hP h =>
    refine .value a cs hP fun s => ?_
    obtain ⟨t, hcs, ht⟩ := h s
    exact ⟨t, hcs, fun b => returns_reporting.mpr (ht b)⟩
  | error e' kind h =>
    refine .error (fun b => reported (e b) (e' b)) ?_ fun b s => ?_
    · simp only [Same, kind_reported] at kind he ⊢
      rw [kind, he]
    · obtain ⟨t, ht⟩ := h b s
      exact ⟨t, fails_reporting_iff.mpr ⟨_, ht, rfl⟩⟩

def Judgement.agreeing : Judgement Bool Sections where
  Holds := Agree
  Fault e := Same fun b => (e b).kind
  ret hQ := agree_value hQ fun _ _ => returns_pure.mpr ⟨rfl, rfl⟩
  bind := agree_bind
  fail := agree_throw
  report := agree_report

theorem agree_mono {P Q : (Bool → α) → Prop} (h : Agree m P) (hPQ : ∀ a, P a → Q a) : Agree m Q :=
  Judgement.holds_mono (J := .agreeing) h hPQ

theorem gives_of_agree (h : Agree m Same) : Judgement.agreeing.Gives m fun _ => True :=
  agree_mono h fun a ha => ⟨a false, trivial, funext ha.const⟩

theorem agree_of_gives {P : α → Prop} (h : Judgement.agreeing.Gives m P) : Agree m Same := by
  refine agree_mono h ?_
  rintro _ ⟨x, -, rfl⟩
  exact same_const x

theorem agree_ofExcept {r : Except Error α} : Agree (fun _ => Eval.ofExcept r) Same := by
  cases r with
  | ok a => exact agree_value (same_const a) fun _ _ => Eval.returns_ofExcept.mpr ⟨rfl, rfl⟩
  | error e => exact agree_throw (same_const e.kind)

end Runs

structure Env.Peers (env : Bool → Env) : Prop where
  naming : Same fun b => (env b).naming?
  depth : Same fun b => (env b).depth
  limit : Same fun b => (env b).limit

structure Env.Twins (env : Bool → Env) : Prop extends Env.Peers env where
  scope : Same fun b => (env b).scope

theorem Env.Peers.withScope {env : Bool → Env} (h : Env.Peers env) (scope : Scope) :
    Env.Twins fun b => (env b).withScope scope :=
  ⟨⟨h.naming, h.depth, h.limit⟩, same_const scope⟩

section Places

variable {env : Bool → Env} {path : Bool → Path} {location : Bool → String} {scope : Bool → Scope}

theorem agree_enter (h : Env.Peers env) (hs : Same scope) :
    Agree (fun b => Eval.ofExcept ((env b).enter (location b) (path b) (scope b))) Env.Twins := by
  have full (b : Bool) :
      ((env b).limit < (env b).depth + 1) = ((env false).limit < (env false).depth + 1) := by
    rw [h.limit.const b, h.depth.const b]
  simp only [Env.enter, full]
  split
  · exact agree_throw (same_const ErrorKind.tooDeep)
  · refine agree_value ?_ fun _ _ => Eval.returns_ofExcept.mpr ⟨rfl, rfl⟩
    exact ⟨⟨h.naming, congrArg (· + 1) h.depth, h.limit⟩, hs⟩

theorem agree_find (h : Env.Twins env) (expr name : String) :
    Agree (fun b => Located.find expr (path b) (env b) name) fun at_ =>
      ∃ n evaluated inner, Env.Twins inner ∧ at_ = fun b => ⟨n, inner b, evaluated⟩ := by
  simp only [Located.find, h.scope.const]
  cases (env false).scope.find? name with
  | none => exact agree_throw (same_const ErrorKind.undefined)
  | some bound =>
    refine agree_value (a := fun b => .ofBound (env b) bound) ?_
      fun _ _ => returns_pure.mpr ⟨rfl, rfl⟩
    cases bound with
    | value n => exact ⟨n, true, env, h, rfl⟩
    | raw n scope => exact ⟨n, false, _, h.toPeers.withScope scope, rfl⟩

theorem agree_addSection (heading : String) (value : Node) (naming : NameScope) :
    Agree (fun b => Eval.addSection heading value naming (path b) (env b)) Same := by
  rcases Sections.fold_cases heading value naming with hok | ⟨d, hd⟩
  · refine .value (fun _ => ()) [⟨heading, value, naming⟩] rfl fun s => ?_
    obtain ⟨t, ht⟩ := hok s
    refine ⟨t, ?_, fun _ => Eval.returns_addSection.mpr ht⟩
    rw [Sections.addAll_singleton]
    exact ht
  · refine .error (fun b => .malformed ("!" ++ heading) (path b) d (env b).stack) rfl fun _ s => ?_
    exact ⟨s, Eval.fails_addSection.mpr ⟨rfl, d, hd s, rfl⟩⟩

theorem agree_parse (text : String) :
    Agree (fun b => Eval.ofExcept (Node.parse text (location b))) Same := by
  unfold Node.parse
  cases Yaml.parse? text with
  | none => exact agree_throw (same_const ErrorKind.unreadable)
  | some v => exact agree_ofExcept

end Places

namespace Likeness

def isolating : Likeness Bool where
  toJudgement := .agreeing
  Alike := Env.Twins
  Along := Level
  along_child := Level.child
  along_overrides := Level.overrides
  fault _ _ _ he := he.kind _ _ _ _
  naming {env} h := ⟨env false, h.naming.const⟩
  withNaming h naming? := ⟨⟨same_const naming?, h.depth, h.limit⟩, h.scope⟩
  extend h vars := ⟨⟨h.naming, h.depth, h.limit⟩, congrArg (Scope.extend · 0 vars) h.scope⟩
  parse _ text := gives_of_agree (agree_parse text)
  enter h _ := agree_enter h.toPeers h.scope
  enterScope h _ _ scope := agree_enter h.toPeers (same_const scope)
  find h _ := agree_find h
  addSection _ _ heading _ value naming := gives_of_agree (agree_addSection heading value naming)

theorem obeys_isolating (k : Nat) : isolating.discipline.Obeys fun _ => Evaluator.upTo k := by
  -- Both runs may take the same number of steps, so neither ends before the other.
  induction k with
  | zero => constructor <;> intros <;> exact .endless fun _ _ => rfl
  | succ k ih =>
    refine Discipline.obeys_next isolating.ready_of_alike (fun h => ⟨h, fun _ => h⟩) ih ?_
    intro n env path hn hp
    exact Discipline.step ih hp (isolating.ready_of_alike hn) isolating.permits

section References

variable {k : Nat} {env : Bool → Env} {path : Bool → Path}

theorem hosts_of_peers (hp : Level path) (h : Env.Peers env) (d : Document)
    (names templates : Bool → String) :
    isolating.discipline.Hosts d names templates path env where
  along := hp
  naming := ⟨env false, h.naming.const⟩
  enters _ _ := agree_mono (agree_enter h (same_const _)) fun _ hi =>
    ⟨isolating.open_of_alike hi,
      fun naming? => isolating.open_of_alike (isolating.withNaming hi naming?)⟩
  rejects _ _ := same_const ErrorKind.invalidParameter
  resources _ := same_const ErrorKind.malformed
  addSection _ heading _ naming := gives_of_agree (agree_addSection heading _ naming)

theorem agree_expand (hp : Level path) (h : Env.Peers env) {templates params : Bool → Node}
    (ht : Agree (fun b => (Evaluator.upTo k).templateDocument (templates b) (path b) (env b))
      fun named => Same fun b => (named b).2)
    (hps : Agree (fun b => (Evaluator.upTo k).paramsMap (params b) (path b) (env b)) Same) :
    Agree (fun b => (Evaluator.upTo k).expand (templates b) (params b) (path b) (env b)) Same := by
  refine agree_of_gives
    (Discipline.expandParts templates params (obeys_isolating k) ?_ (gives_of_agree hps))
  refine agree_mono ht fun named hn => ?_
  refine ⟨fun b => (named b).1, (named false).2, trivial, hosts_of_peers hp h .., ?_⟩
  funext b
  rw [← hn.const b]

theorem agree_instantiate (hp : Level path) (h : Env.Peers env) {names templates : Bool → String}
    {entries : Bool → Mapping} {d : Document}
    (hl : Agree (fun b => (Evaluator.upTo k).ownLead (names b) (entries b) (path b) (env b)) Same)
    (ho : Agree (fun b => (Evaluator.upTo k).instanceMap Evaluator.overridesKey (entries b) (path b)
      (env b)) Same)
    (hps : Agree (fun b => (Evaluator.upTo k).instanceMap "Properties" (entries b) (path b) (env b))
      Same) :
    Agree (fun b => (Evaluator.upTo k).instantiate (names b) (entries b) (templates b) d (path b)
      (env b)) Same :=
  agree_of_gives (Discipline.instantiate entries (obeys_isolating k)
    (hosts_of_peers hp h d names templates) trivial (gives_of_agree hl) (gives_of_agree ho)
    (gives_of_agree hps))

theorem keyed_of_agree {segments : List (Bool → Segment)}
    (h : ∀ s ∈ segments,
      Agree (fun b => (Evaluator.upTo k).segmentKey (path b) (env b) (s b)) Same) :
    Discipline.Keyed isolating.discipline (fun _ => Evaluator.upTo k) path env
      fun b => segments.map fun s => s b := by
  induction segments with
  | nil => exact .nil
  | cons s rest ih =>
    refine .cons (gives_of_agree (h s (List.mem_cons_self ..))) (ih ?_)
    intro s' hs'
    exact h s' (List.mem_cons_of_mem _ hs')

theorem agree_lookup_raw (hp : Level path) (h : Env.Peers env) {exprs : Bool → String}
    {heads : Bool → List Char} {segments : List (Bool → Segment)} {n : Node} {scope : Scope}
    (hparse : ∀ b,
      LookupPath.parse? (exprs b) = some (.name (heads b) :: segments.map fun s => s b))
    (hfind : ∀ b, (env b).scope.find? (String.ofList (heads b)) = some (.raw n scope))
    (hkeys : ∀ s ∈ segments,
      Agree (fun b => (Evaluator.upTo k).segmentKey (path b) (env b) (s b)) Same) :
    Agree (fun b => (Evaluator.upTo k).lookup (exprs b) (path b) (env b)) Same := by
  -- From the head on there is only the scope that the import captured.
  have inner := h.withScope scope
  have located (b : Bool) : (Evaluator.upTo k).locate (exprs b) (path b) (env b) =
      (Evaluator.upTo k).walk (exprs b) (path b) (env b) ⟨n, (env b).withScope scope, false⟩
        (segments.map fun s => s b) := by
    rw [Discipline.locate_eq _ (hparse b), Located.find, hfind b]
    rfl
  have leads : isolating.discipline.Holds
      (fun b => (Evaluator.upTo k).locate (exprs b) (path b) (env b))
      (isolating.discipline.Leads "" fun b => (env b).withScope scope) := by
    simp only [located]
    exact Discipline.walk (obeys_isolating k).node hp (same_const ErrorKind.undefined)
      (keyed_of_agree hkeys) (.pending inner inner)
  refine agree_of_gives (P := fun _ => True) (isolating.discipline.bind leads fun at_ hat => ?_)
  exact (Discipline.settle (obeys_isolating k).node hp hat).mono fun _ _ => trivial

end References

end Likeness

/-- Templates and imports are lexically isolated. Two references to one of them come to the same if
what is evaluated for them outside does, and the instance around them, the number of documents
entered and whether they are in overrides are the same. Names, breadcrumbs and locations may differ. -/
theorem lexical_isolation (k : Nat) {path : Bool → Path} {env : Bool → Env}
    (hpath : Same fun b => (path b).hasSegment Evaluator.overridesKey) (henv : Env.Peers env) :
    (∀ templates params : Bool → Node,
      Agree (fun b => (Evaluator.upTo k).templateDocument (templates b) (path b) (env b))
        (fun named => Same fun b => (named b).2) →
      Agree (fun b => (Evaluator.upTo k).paramsMap (params b) (path b) (env b)) Same →
      Agree (fun b => (Evaluator.upTo k).expand (templates b) (params b) (path b) (env b)) Same) ∧
    (∀ (names types : Bool → String) (entries : Bool → Mapping) (d : Document),
      Agree (fun b => (Evaluator.upTo k).ownLead (names b) (entries b) (path b) (env b)) Same →
      Agree (fun b => (Evaluator.upTo k).instanceMap Evaluator.overridesKey (entries b) (path b)
        (env b)) Same →
      Agree (fun b => (Evaluator.upTo k).instanceMap "Properties" (entries b) (path b) (env b))
        Same →
      Agree (fun b => (Evaluator.upTo k).instantiate (names b) (entries b) (types b) d (path b)
        (env b)) Same) ∧
    ∀ (exprs : Bool → String) (heads : Bool → List Char) (segments : List (Bool → Segment))
      (n : Node) (scope : Scope),
      (∀ b, LookupPath.parse? (exprs b) =
        some (.name (heads b) :: segments.map fun s => s b)) →
      (∀ b, (env b).scope.find? (String.ofList (heads b)) = some (.raw n scope)) →
      (∀ s ∈ segments,
        Agree (fun b => (Evaluator.upTo k).segmentKey (path b) (env b) (s b)) Same) →
      Agree (fun b => (Evaluator.upTo k).lookup (exprs b) (path b) (env b)) Same :=
  ⟨fun _ _ => Likeness.agree_expand hpath henv,
    fun _ _ _ _ => Likeness.agree_instantiate hpath henv,
    fun _ _ _ _ _ => Likeness.agree_lookup_raw hpath henv⟩

section Example

def storeBody : Mapping :=
  [(Evaluator.resourcesKey, .map [("Bucket", .map [("Type", .string "AWS::S3::Bucket"),
    ("Size", .tag (.lookup "size"))])])]

def storeDocument : Document :=
  ⟨"store.yaml", storeBody, [⟨"size", none, none, none, none, none⟩], .empty⟩

def zoneMap : Node := .map [("name", .tag (.lookup "host"))]

def zoneScope : Scope := .frame 1 [("host", .value (.string "h"))] .empty

def storeEnv (b : Bool) : Env :=
  let here : Scope := .frame 4 [("t", .value (.document storeDocument)),
    ("zone", .raw zoneMap zoneScope), ("host", .value .null), ("size", .value (.ofNat 99))] .empty
  let there : Scope := .frame 4 [("u", .value (.document storeDocument)),
    ("z", .raw zoneMap zoneScope), ("key", .value (.string "name")), ("big", .value (.ofNat 3))]
    .empty
  bif b then { Env.root there "app.yaml" 5 with stack := [] } else Env.root here "root.yaml" 5

def storePath (b : Bool) : Path := bif b then Path.root.child "app" else Path.root

def storeParams (b : Bool) : Node := .map [("size", bif b then .tag (.lookup "big") else .ofNat 3)]

def storeEntry (b : Bool) : Mapping :=
  ("Properties", storeParams b) :: bif b then [("NamePrefix", .string "A")] else []

theorem lexical_isolation_store :
    Agree (fun b => (Evaluator.upTo 6).expand (.string (bif b then "u" else "t")) (storeParams b)
      (storePath b) (storeEnv b)) Same ∧
    Agree (fun b => (Evaluator.upTo 6).instantiate (bif b then "B" else "A") (storeEntry b)
      (bif b then "u" else "t") storeDocument (storePath b) (storeEnv b)) Same ∧
    Agree (fun b => (Evaluator.upTo 6).lookup (bif b then "z[key]" else "zone.name") (storePath b)
      (storeEnv b)) Same := by
  have hpath : Same fun b => (storePath b).hasSegment Evaluator.overridesKey := by
    with_unfolding_all exact rfl
  have henv : Env.Peers storeEnv := ⟨rfl, rfl, rfl⟩
  obtain ⟨hexpand, hinstance, himport⟩ := lexical_isolation 6 hpath henv
  refine ⟨hexpand _ _ ?_ ?_, hinstance _ _ _ _ ?_ ?_ ?_, ?_⟩
  · refine agree_value (a := fun b => (bif b then "u" else "t", storeDocument)) rfl fun b _ => ?_
    cases b <;> with_unfolding_all exact rfl
  · refine agree_value (same_const [("size", .ofNat 3)]) fun b _ => ?_
    cases b <;> with_unfolding_all exact rfl
  · refine agree_value (same_const "A") fun b _ => ?_
    cases b <;> with_unfolding_all exact rfl
  · refine agree_value (same_const []) fun b _ => ?_
    cases b <;> with_unfolding_all exact rfl
  · refine agree_value (same_const [("size", .ofNat 3)]) fun b _ => ?_
    cases b <;> with_unfolding_all exact rfl
  · let segment (b : Bool) : Segment := bif b then .dynamic "key".toList else .name "name".toList
    refine himport _ (fun b => bif b then ['z'] else "zone".toList) [segment] zoneMap zoneScope
      ?_ ?_ ?_
    · decide +kernel
    · intro b
      cases b <;> with_unfolding_all exact rfl
    · intro s hs
      cases List.mem_singleton.mp hs
      refine agree_value (same_const "name") fun b _ => ?_
      cases b <;> with_unfolding_all exact rfl

end Example

end InfraTemplate
