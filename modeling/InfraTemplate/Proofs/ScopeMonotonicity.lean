import InfraTemplate.Proofs.Likeness

namespace InfraTemplate

section Order

variable {σ α β : Type} {f : α → Stateful σ β} {s t : σ} {bs : List β}

theorem returns_mapM_from {g : α → Stateful σ β} {xs : List α}
    (hf : ∀ x ∈ xs, ∀ s b t, Returns (f x) s b t → ∀ s', ∃ t', Returns (g x) s' b t')
    (h : Returns (xs.mapM f) s bs t) (s' : σ) : ∃ t', Returns (xs.mapM g) s' bs t' := by
  induction xs generalizing s bs s' with
  | nil =>
    obtain ⟨rfl, -⟩ := returns_mapM_nil.mp h
    exact ⟨s', returns_mapM_nil.mpr ⟨rfl, rfl⟩⟩
  | cons x xs ih =>
    obtain ⟨b, u, rest, hb, hr, rfl⟩ := returns_mapM_cons.mp h
    obtain ⟨u', hb'⟩ := hf x (List.mem_cons_self ..) s b u hb s'
    obtain ⟨t', hr'⟩ := ih (fun y hy => hf y (List.mem_cons_of_mem _ hy)) hr u'
    exact ⟨t', returns_mapM_cons.mpr ⟨b, u', rest, hb', hr', rfl⟩⟩

theorem returns_mapM_perm {xs ys : List α} (hp : xs.Perm ys)
    (hf : ∀ x s b t, Returns (f x) s b t → ∀ s', ∃ t', Returns (f x) s' b t')
    (h : Returns (xs.mapM f) s bs t) (s' : σ) :
    ∃ bs' t', bs.Perm bs' ∧ Returns (ys.mapM f) s' bs' t' := by
  induction hp generalizing s bs t s' with
  | nil =>
    obtain ⟨rfl, -⟩ := returns_mapM_nil.mp h
    exact ⟨[], s', .nil, returns_mapM_nil.mpr ⟨rfl, rfl⟩⟩
  | cons x _ ih =>
    obtain ⟨b, u, rest, hb, hr, rfl⟩ := returns_mapM_cons.mp h
    obtain ⟨u', hb'⟩ := hf x s b u hb s'
    obtain ⟨rest', t', hperm, hr'⟩ := ih hr u'
    exact ⟨b :: rest', t', hperm.cons b, returns_mapM_cons.mpr ⟨b, u', rest', hb', hr', rfl⟩⟩
  | swap x y l =>
    obtain ⟨b, u, _, hb, hr, rfl⟩ := returns_mapM_cons.mp h
    obtain ⟨c, v, rest, hc, hrest, rfl⟩ := returns_mapM_cons.mp hr
    obtain ⟨u', hc'⟩ := hf x u c v hc s'
    obtain ⟨v', hb'⟩ := hf y s b u hb u'
    obtain ⟨t', hr'⟩ := returns_mapM_from (fun z _ => hf z) hrest v'
    have hcons := returns_mapM_cons.mpr ⟨b, v', rest, hb', hr', rfl⟩
    exact ⟨c :: b :: rest, t', .swap c b rest, returns_mapM_cons.mpr ⟨c, u', _, hc', hcons, rfl⟩⟩
  | trans _ _ ih ih' =>
    obtain ⟨bs', t', hperm, h'⟩ := ih h s'
    obtain ⟨bs'', t'', hperm', h''⟩ := ih' h' s'
    exact ⟨bs'', t'', hperm.trans hperm', h''⟩

end Order

structure Env.Widens (wide narrow : Env) : Prop where
  scope : ∀ name b, narrow.scope.find? name = some b → wide.scope.find? name = some b
  naming : wide.naming? = narrow.naming?
  depth : wide.depth = narrow.depth
  limit : narrow.limit ≤ wide.limit

structure Env.Eases (wide narrow : Env) : Prop where
  scope : ∀ name b, narrow.scope.find? name = some b → wide.scope.find? name = some b
  naming : wide.naming? = narrow.naming?
  depth : wide.depth ≤ narrow.depth
  limit : narrow.limit ≤ wide.limit

theorem Env.Widens.eases {wide narrow : Env} (h : wide.Widens narrow) : wide.Eases narrow :=
  ⟨h.scope, h.naming, Nat.le_of_eq h.depth, h.limit⟩

namespace Env.Eases

variable {wide narrow : Env}

theorem withScope (h : wide.Eases narrow) (scope : Scope) :
    (wide.withScope scope).Eases (narrow.withScope scope) :=
  ⟨fun _ _ hb => hb, h.naming, h.depth, h.limit⟩

theorem withNaming (h : wide.Eases narrow) (naming? : Option NameScope) :
    (wide.withNaming naming?).Eases (narrow.withNaming naming?) :=
  ⟨h.scope, rfl, h.depth, h.limit⟩

theorem extend (h : wide.Eases narrow) (vars : List (String × Bound)) :
    (wide.extend vars).Eases (narrow.extend vars) := by
  refine ⟨fun name b hb => ?_, h.naming, h.depth, h.limit⟩
  simp only [Env.extend, Scope.find?_extend] at hb ⊢
  split at hb
  · exact hb
  · exact h.scope name b hb

theorem enter (h : wide.Eases narrow) {inner : Env} {location : String} {path : Path}
    {scope scope' : Scope} (location' : String) (path' : Path)
    (hs : ∀ name b, scope.find? name = some b → scope'.find? name = some b)
    (hi : narrow.enter location path scope = .ok inner) :
    ∃ inner', wide.enter location' path' scope' = .ok inner' ∧ inner'.Eases inner := by
  obtain ⟨hd, rfl⟩ := Env.enter_eq_ok.mp hi
  have hd' : wide.depth < wide.limit :=
    Nat.lt_of_lt_of_le (Nat.lt_of_le_of_lt h.depth hd) h.limit
  exact ⟨_, Env.enter_eq_ok.mpr ⟨hd', rfl⟩, hs, h.naming, Nat.succ_le_succ h.depth, h.limit⟩

end Env.Eases

def CarriesSections (S : (Bool → Sections) → Prop) : Prop :=
  ∀ s, S s → ∀ heading value naming t, Sections.fold (s false) heading value naming = .ok t →
    ∃ ts, S ts ∧ ∀ b, Sections.fold (s b) heading value naming = .ok (ts b)

theorem carriesSections_same : CarriesSections fun s => s false = s true := by
  intro s hs heading value naming t ht
  refine ⟨fun _ => t, rfl, fun b => ?_⟩
  cases b with
  | false => exact ht
  | true => rw [← hs, ht]

theorem carriesSections_any : CarriesSections fun _ => True := by
  intro s _ heading value naming t ht
  rcases Sections.fold_cases heading value naming with h | ⟨d, h⟩
  · choose ts hts using fun b => h (s b)
    exact ⟨ts, trivial, hts⟩
  · rw [h] at ht
    cases ht

namespace Likeness

section Easing

variable {S : (Bool → Sections) → Prop} {α : Type}

theorem led_ofExcept {ι : Type} {lead : ι} {S : (ι → Sections) → Prop} {F : (ι → Error) → Prop}
    {r : ι → Except Error α} {Q : (ι → α) → Prop}
    (h : ∀ a, r lead = .ok a → ∃ as, Q as ∧ ∀ i, r i = .ok (as i)) :
    Led lead S False F (fun i => Eval.ofExcept (r i)) Q := by
  intro s hs
  refine ⟨fun a t ha => ?_, False.elim⟩
  obtain ⟨hr, -⟩ := Eval.returns_ofExcept.mp ha
  obtain ⟨as, hQ, has⟩ := h a hr
  exact ⟨as, s, hQ, hs, fun i => Eval.returns_ofExcept.mpr ⟨has i, rfl⟩⟩

def Easier (env : Bool → Env) : Prop := (env true).Eases (env false)

theorem led_enter {env : Bool → Env} (h : Easier env) (location : Bool → String)
    (path : Bool → Path) (scope : Bool → Scope)
    (hs : ∀ name b, (scope false).find? name = some b → (scope true).find? name = some b) :
    Led false S False (fun _ => True)
      (fun i => Eval.ofExcept ((env i).enter (location i) (path i) (scope i))) Easier := by
  refine led_ofExcept fun inner hi => ?_
  obtain ⟨inner', hi', hw⟩ := h.enter (location true) (path true) hs hi
  refine ⟨fun b => bif b then inner' else inner, hw, fun b => ?_⟩
  cases b with
  | false => exact hi
  | true => exact hi'

theorem parse_eq_ok {text location location' : String} {n : Node}
    (h : Node.parse text location = .ok n) : Node.parse text location' = .ok n := by
  unfold Node.parse at h ⊢
  split at h
  · exact h
  · cases h

def easing (hS : CarriesSections S) : Likeness Bool where
  toJudgement := .led false S False (fun _ => True) fun _ _ _ _ => trivial
  Alike := Easier
  Along := Level
  along_child := Level.child
  along_overrides := Level.overrides
  fault _ _ _ _ := trivial
  naming {env} h := by
    refine ⟨env false, fun b => ?_⟩
    cases b with
    | false => rfl
    | true => exact h.naming
  withNaming h naming? := h.withNaming naming?
  extend h vars := h.extend vars
  parse {env} _ text := led_ofExcept (r := fun i => Node.parse text (env i).location) fun n hn =>
    ⟨fun _ => n, ⟨n, trivial, rfl⟩, fun _ => parse_eq_ok hn⟩
  enter {env path} h _ :=
    led_enter h (fun i => (env i).location) path (fun i => (env i).scope) h.scope
  enterScope {_ path} h _ location scope :=
    led_enter h (fun _ => location) path (fun _ => scope) fun _ _ hb => hb
  find {env _} h _ expr name := by
    intro s hs
    refine ⟨fun at_ t ha => ?_, False.elim⟩
    simp only [Located.find] at ha
    split at ha
    · rename_i b hb
      have hall : ∀ i, (env i).scope.find? name = some b := by
        intro i
        cases i with
        | false => exact hb
        | true => exact h.scope name b hb
      refine ⟨fun i => .ofBound (env i) b, s, ?_, hs, fun i => ?_⟩
      · cases b with
        | value n => exact ⟨n, true, env, h, rfl⟩
        | raw n scope => exact ⟨n, false, fun i => (env i).withScope scope, h.withScope scope, rfl⟩
      · simp only [Located.find, hall]
        exact returns_pure.mpr ⟨rfl, rfl⟩
    · exact absurd ha returns_throw
  addSection _ _ heading _ value naming := by
    intro s hs
    refine ⟨fun u t ht => ?_, False.elim⟩
    obtain ⟨ts, hts, hall⟩ := hS s hs heading value naming t (Eval.returns_addSection.mp ht)
    exact ⟨fun _ => u, ts, ⟨u, trivial, rfl⟩, hts, fun i => Eval.returns_addSection.mpr (hall i)⟩

theorem obeys_upTo (hS : CarriesSections S) {k l : Nat} (hk : k ≤ l) :
    (easing hS).discipline.Obeys fun b => Evaluator.upTo (bif b then l else k) := by
  have h := (easing hS).obeys_watched false (fun _ _ _ => true)
    (fun hm => led_of_unfinished fun _ => by rw [hm]; rfl) (fun _ _ _ => rfl)
    (fun b => bif b then l else k)
    (fun b => by cases b with | false => exact Nat.le_refl k | true => exact hk)
  simpa only [Evaluator.watched_true] using h

end Easing

end Likeness

section

variable {k l : Nat} {n : Node} {path : Path} {narrow wide : Env} {s t : Sections} {v : Node}

theorem returns_eased {S : (Bool → Sections) → Prop} (hS : CarriesSections S) (hk : k ≤ l)
    (h : wide.Eases narrow) {path' : Path}
    (hp : path.hasSegment Evaluator.overridesKey = path'.hasSegment Evaluator.overridesKey)
    (ss : Bool → Sections) (hs : S ss)
    (hr : Returns ((Evaluator.upTo k).node n path narrow) (ss false) v t) :
    ∃ ts, S ts ∧ ts false = t ∧
      Returns ((Evaluator.upTo l).node n path' wide) (ss true) v (ts true) := by
  have hc : (Likeness.easing hS).discipline.Call n fun b => bif b then wide else narrow := h
  have hl : (Likeness.easing hS).discipline.Along fun b => bif b then path' else path := hp
  have node := (Likeness.obeys_upTo hS hk).node hc hl
  obtain ⟨_, ts, ⟨x, -, rfl⟩, hts, hall⟩ := (node ss hs).1 v t hr
  obtain ⟨rfl, rfl⟩ := hr.unique (hall false)
  exact ⟨ts, hts, rfl, hall true⟩

theorem returns_of_widens (h : wide.Widens narrow)
    (hr : Returns ((Evaluator.upTo k).node n path narrow) s v t) :
    Returns ((Evaluator.upTo k).node n path wide) s v t := by
  obtain ⟨ts, he, rfl, hw⟩ :=
    returns_eased carriesSections_same (Nat.le_refl k) h.eases rfl (fun _ => s) rfl hr
  rwa [he]

theorem returns_of_eases (hk : k ≤ l) (h : wide.Eases narrow) {path' : Path}
    (hp : path.hasSegment Evaluator.overridesKey = path'.hasSegment Evaluator.overridesKey)
    (hr : Returns ((Evaluator.upTo k).node n path narrow) s v t) (s' : Sections) :
    ∃ t', Returns ((Evaluator.upTo l).node n path' wide) s' v t' := by
  obtain ⟨ts, -, -, hw⟩ :=
    returns_eased carriesSections_any hk h hp (fun b => bif b then s' else s) trivial hr
  exact ⟨_, hw⟩

theorem returns_of_widens_from (h : wide.Widens narrow)
    (hr : Returns ((Evaluator.upTo k).node n path narrow) s v t) (s' : Sections) :
    ∃ t', Returns ((Evaluator.upTo k).node n path wide) s' v t' :=
  returns_of_eases (Nat.le_refl k) h.eases rfl hr s'

theorem Env.Widens.refl (env : Env) : env.Widens env := ⟨fun _ _ h => h, rfl, rfl, Nat.le_refl _⟩

theorem Env.extend_widens {env : Env} {name : String} (h : env.scope.has name = false) (b : Bound) :
    (env.extend [(name, b)]).Widens env := by
  refine ⟨fun other c hc => ?_, rfl, rfl, Nat.le_refl _⟩
  have hne : other ≠ name := by
    rintro rfl
    simp [Scope.has, hc] at h
  rw [Env.extend, Scope.find?_extend]
  simpa [Entries.ofPairs, Entries.putAll, Entries.put, Entries.find?_cons, hne] using hc

theorem Env.extend_widens_of_perm (env : Env) {vars vars' : List (String × Bound)}
    (hp : vars.Perm vars') (hn : (Entries.keys vars).Nodup) :
    (env.extend vars').Widens (env.extend vars) := by
  refine ⟨fun name b hb => ?_, rfl, rfl, Nat.le_refl _⟩
  have hn' : (Entries.keys vars').Nodup := (hp.map _).nodup hn
  simp only [Env.extend, Scope.find?_extend] at hb ⊢
  rwa [Entries.ofPairs_of_nodup hn', ← Entries.find?_perm hp hn, ← Entries.ofPairs_of_nodup hn]

def Evaluator.letVars (ev : Evaluator) (bindings : Mapping) (path : Path) (env : Env) :
    Eval (List (String × Bound)) :=
  bindings.mapM fun (name, n) => return (name, Bound.value (← ev.node n (path.child name) env))

theorem keys_letVars {ev : Evaluator} {bindings : Mapping} {env : Env}
    {vars : List (String × Bound)} (h : Returns (ev.letVars bindings path env) s vars t) :
    Entries.keys vars = Entries.keys bindings := by
  induction bindings generalizing s vars with
  | nil =>
    obtain ⟨rfl, -⟩ := returns_mapM_nil.mp h
    rfl
  | cons e bindings ih =>
    obtain ⟨b, u, rest, hb, hr, rfl⟩ := returns_mapM_cons.mp h
    obtain ⟨x, _, -, hx⟩ := returns_bind.mp hb
    obtain ⟨rfl, -⟩ := returns_pure.mp hx
    exact congrArg (e.1 :: ·) (ih hr)

theorem returns_letIn_of_perm {env : Env} {bindings bindings' : Mapping} {body : Node}
    (hp : bindings.Perm bindings') (hn : (Entries.keys bindings).Nodup)
    (h : Returns ((Evaluator.upTo k).node (.tag (.letIn bindings body)) path env) s v t)
    (s' : Sections) :
    ∃ t', Returns ((Evaluator.upTo k).node (.tag (.letIn bindings' body)) path env) s' v t' := by
  cases k with
  | zero => exact absurd h Eval.returns_unfinished
  | succ k =>
    obtain ⟨vars, u, hvars, hbody⟩ := returns_bind.mp h
    have same := Env.Widens.refl env
    have hf : ∀ (e : String × Node) s b t,
        Returns (do
          let x ← (Evaluator.upTo k).node e.2 (path.child e.1) env
          return (e.1, Bound.value x)) s b t →
        ∀ s', ∃ t', Returns (do
          let x ← (Evaluator.upTo k).node e.2 (path.child e.1) env
          return (e.1, Bound.value x)) s' b t' := by
      intro e s b t hb s'
      obtain ⟨x, u, hx, hb⟩ := returns_bind.mp hb
      obtain ⟨t', hx'⟩ := returns_of_widens_from same hx s'
      obtain ⟨rfl, -⟩ := returns_pure.mp hb
      exact ⟨t', returns_bind.mpr ⟨x, t', hx', returns_pure.mpr ⟨rfl, rfl⟩⟩⟩
    -- In another order the bindings meet other sections, so each is taken from any sections.
    obtain ⟨vars', u', hperm, hvars'⟩ := returns_mapM_perm hp hf hvars s'
    have hkeys : (Entries.keys vars).Nodup := by
      rw [keys_letVars hvars]
      exact hn
    obtain ⟨t', hbody'⟩ := returns_of_widens_from (env.extend_widens_of_perm hperm hkeys) hbody u'
    exact ⟨t', returns_bind.mpr ⟨vars', u', hvars', hbody'⟩⟩

end

/-- Evaluation in an environment in which more names are bound, and those of before alike, gives the
same value and adds the same sections. So does a binding of a new name; and the bindings of a `$let`
give the same value in any order. -/
theorem evaluation_monotone_in_scope (k : Nat) (path : Path) :
    (∀ (n : Node) (narrow wide : Env), wide.Widens narrow → ∀ s v t,
      Returns ((Evaluator.upTo k).node n path narrow) s v t →
        Returns ((Evaluator.upTo k).node n path wide) s v t) ∧
    (∀ (n : Node) (env : Env) (name : String) (b : Bound), env.scope.has name = false → ∀ s v t,
      Returns ((Evaluator.upTo k).node n path env) s v t →
        Returns ((Evaluator.upTo k).node n path (env.extend [(name, b)])) s v t) ∧
    ∀ (bindings bindings' : Mapping) (body : Node) (env : Env), bindings.Perm bindings' →
      (Entries.keys bindings).Nodup → ∀ s v t,
        Returns ((Evaluator.upTo k).node (.tag (.letIn bindings body)) path env) s v t →
          ∃ t', Returns ((Evaluator.upTo k).node (.tag (.letIn bindings' body)) path env) s v t' :=
  ⟨fun _ _ _ h _ _ _ => returns_of_widens h,
    fun _ _ _ b h _ _ _ => returns_of_widens (Env.extend_widens h b),
    fun _ _ _ _ hp hn s _ _ h => returns_letIn_of_perm hp hn h s⟩

section Example

def portEnv : Env :=
  Env.root (.frame 2 [("port", .value (.ofNat 80))] (.frame 1 [("host", .value (.string "h"))] .empty))
    "root.yaml" 50

def zoneEnv : Env :=
  Env.root (.frame 1 [("host", .value (.string "h")), ("zone", .value .null),
    ("port", .value (.ofNat 80))] .empty) "root.yaml" 50

def lookups (names : List String) : Node := .seq (names.map fun name => .tag (.lookup name))

def renamed : Mapping := [("a", .tag (.lookup "host")), ("b", .tag (.lookup "port"))]

def hostAndPort : Node := .seq [.string "h", .ofNat 80]

theorem zoneEnv_widens : zoneEnv.Widens portEnv := by
  refine ⟨fun name b h => ?_, rfl, rfl, Nat.le_refl _⟩
  simp only [portEnv, zoneEnv, Env.root, Scope.find?, Entries.find?_cons, Entries.find?_nil] at h ⊢
  by_cases hp : name = "port"
  · simpa [hp] using h
  · by_cases hh : name = "host"
    · simpa [hh] using h
    · simp [hp, hh] at h

theorem evaluation_monotone_in_scope_port :
    Returns ((Evaluator.upTo 4).node (lookups ["host", "port"]) Path.root portEnv) [] hostAndPort []
    ∧ Returns ((Evaluator.upTo 4).node (lookups ["host", "port"]) Path.root zoneEnv) [] hostAndPort []
    ∧ Returns ((Evaluator.upTo 4).node (lookups ["host", "port"]) Path.root
        (portEnv.extend [("zone", .value .null)])) [] hostAndPort []
    ∧ ∃ t, Returns ((Evaluator.upTo 4).node (.tag (.letIn renamed.reverse (lookups ["a", "b"])))
        Path.root portEnv) [] hostAndPort t := by
  have hn : Returns ((Evaluator.upTo 4).node (lookups ["host", "port"]) Path.root portEnv) []
      hostAndPort [] := by
    with_unfolding_all exact rfl
  have hl : Returns ((Evaluator.upTo 4).node (.tag (.letIn renamed (lookups ["a", "b"]))) Path.root
      portEnv) [] hostAndPort [] := by
    with_unfolding_all exact rfl
  have hz : portEnv.scope.has "zone" = false := by with_unfolding_all exact rfl
  obtain ⟨wider, added, reordered⟩ := evaluation_monotone_in_scope 4 Path.root
  refine ⟨hn, wider _ _ _ zoneEnv_widens _ _ _ hn, added _ _ _ _ hz _ _ _ hn, ?_⟩
  exact reordered _ _ _ _ (List.reverse_perm _).symm (by decide) _ _ _ hl

end Example

end InfraTemplate
