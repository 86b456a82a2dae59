import InfraTemplate.Proofs.Emission
import InfraTemplate.Proofs.Watch

/-!
What evaluation results in is plain: scalars, sequences and maps, with nothing in them that is still
to be evaluated but for what is let through. It is so wherever no lookup path names a document that
is passed on as it is, and nothing is escaped that is not let through itself.
-/

namespace InfraTemplate

namespace Node

section

variable (spared : Node → Bool) (key : String → Bool)

mutual

def isPlainBut : Node → Bool
  | seq xs => arePlainBut xs
  | map m => entriesArePlainBut m
  | tag t => spared (tag t)
  | document d => spared (document d)
  | _ => true

def arePlainBut : List Node → Bool
  | [] => true
  | x :: xs => isPlainBut x && arePlainBut xs

def entriesArePlainBut : List (String × Node) → Bool
  | [] => true
  | (k, x) :: rest => key k && isPlainBut x && entriesArePlainBut rest

end

end

variable {spared : Node → Bool} {key : String → Bool}

theorem isPlainBut_seq {xs : List Node} :
    (seq xs).isPlainBut spared key = true ↔ ∀ x ∈ xs, x.isPlainBut spared key = true := by
  rw [isPlainBut]
  induction xs with
  | nil => simp [arePlainBut]
  | cons x xs ih => simp [arePlainBut, ih]

theorem isPlainBut_map {m : Mapping} :
    (map m).isPlainBut spared key = true ↔
      ∀ e ∈ m, key e.1 = true ∧ e.2.isPlainBut spared key = true := by
  rw [isPlainBut]
  induction m with
  | nil => simp [entriesArePlainBut]
  | cons e m ih =>
    obtain ⟨k, x⟩ := e
    simp [entriesArePlainBut, ih, and_assoc]

theorem isPlainBut_scalar {n : Node} (h : n.isScalar = true) :
    n.isPlainBut spared key = true := by
  cases n with
  | null | bool _ | number _ | string _ => rfl
  | seq _ | map _ | tag _ | document _ => cases h

def isPlain (n : Node) : Bool := n.isPlainBut (fun _ => false) fun _ => true

mutual

theorem isPlainBut_strip (hk : ∀ k, isBookkeeping k = false → key k = true) :
    (n : Node) → n.isPlainBut spared (fun _ => true) = true →
      n.stripBookkeeping.isPlainBut spared key = true
  | seq xs, h => by
    rw [stripBookkeeping, isPlainBut_seq]
    exact arePlainBut_strip hk xs (isPlainBut_seq.mp h)
  | map m, h => by
    rw [stripBookkeeping, isPlainBut_map]
    exact entriesArePlainBut_strip hk m fun e he => (isPlainBut_map.mp h e he).2
  | null, _ | bool _, _ | number _, _ | string _, _ => rfl
  | tag _, h | document _, h => h

theorem arePlainBut_strip (hk : ∀ k, isBookkeeping k = false → key k = true) :
    (xs : List Node) → (∀ x ∈ xs, x.isPlainBut spared (fun _ => true) = true) →
      ∀ x ∈ stripItems xs, x.isPlainBut spared key = true
  | [], _ => fun _ hx => absurd hx List.not_mem_nil
  | x :: xs, h => by
    rw [stripItems]
    intro y hy
    rcases List.mem_cons.mp hy with rfl | hy
    · exact isPlainBut_strip hk x (h x (List.mem_cons_self ..))
    · exact arePlainBut_strip hk xs (fun z hz => h z (List.mem_cons_of_mem _ hz)) y hy

theorem entriesArePlainBut_strip (hk : ∀ k, isBookkeeping k = false → key k = true) :
    (m : List (String × Node)) → (∀ e ∈ m, e.2.isPlainBut spared (fun _ => true) = true) →
      ∀ e ∈ stripEntries m, key e.1 = true ∧ e.2.isPlainBut spared key = true
  | [], _ => fun _ he => absurd he List.not_mem_nil
  | (k, x) :: rest, h => by
    have hrest := entriesArePlainBut_strip hk rest fun e he => h e (List.mem_cons_of_mem _ he)
    rw [stripEntries]
    split
    · exact hrest
    · rename_i hb
      intro e he
      rcases List.mem_cons.mp he with rfl | he
      · exact ⟨hk k (Bool.eq_false_iff.mpr hb), isPlainBut_strip hk x (h _ (List.mem_cons_self ..))⟩
      · exact hrest e he

end

end Node

/-- Whether the first name of a lookup path is bound to a document. Such a document passes as a
value, and so does what the path finds in it. -/
def Env.shares (env : Env) (expr : String) : Bool :=
  match LookupPath.parse? expr with
  | some (.name head :: _) =>
    match env.scope.find? (String.ofList head) with
    | some (.value (.document _)) => true
    | _ => false
  | _ => false

theorem Env.shares_eq_true {env : Env} {expr : String} : env.shares expr = true ↔
    ∃ head rest d, LookupPath.parse? expr = some (.name head :: rest) ∧
      env.scope.find? (String.ofList head) = some (.value (.document d)) := by
  unfold shares
  constructor
  · intro h
    split at h
    · rename_i head rest hp
      split at h
      · rename_i d hf
        exact ⟨head, rest, d, hp, hf⟩
      · cases h
    · cases h
  · rintro ⟨head, rest, d, hp, hf⟩
    simp only [hp, hf]

/-- What evaluation lets through: constructs that are `spared`, and which keys. `here` is true of all that
is evaluated. -/
structure Purity where
  spared : Node → Bool
  key : String → Bool
  here : Node → Prop
  spared_document : ∀ d, spared (.document d) = false
  key_plain : ∀ {k}, isBookkeeping k = false → Interpolation.hasPlaceholders k = false →
    key k = true
  here_scalar : ∀ {n : Node}, n.isScalar = true → here n
  here_seq : ∀ xs, here (.seq xs)
  here_map : ∀ {m : Mapping}, (∀ e ∈ m, key e.1 = true) → here (.map m)
  key_computed : ∀ {n : Node}, here n → n.ComputesKeys → ∀ k, key k = true
  key_of_document : ∀ {d : Document}, here (.document d) → ∀ k, key k = true
  parsed : ∀ {n : Node}, here (.tag (.apply .parseYaml n)) → ∀ {text location : String} {m : Node},
    Node.parse text location = .ok m → ∀ β, m.Throughout here β

namespace Purity

variable (P : Purity)

def pure (n : Node) : Prop := n.isPlainBut P.spared P.key = true

def Binding : Bound → Prop
  | .value (.document _) => True
  | .value n => P.pure n
  | .raw _ _ => True

def Source (n : Node) : Prop := n.Throughout P.here P.Binding

def Value (n : Node) : Prop := P.pure n ∧ P.Source n

def Sound (s : Sections) : Prop := (∀ k, P.key k = true) → ∀ e ∈ s, P.Value e.2

def Within (e : Env) : Prop :=
  e.scope.Throughout P.here P.Binding ∧ (e.naming? = none ∨ ∀ k, P.key k = true)

def regime : Regime Bool where
  toJudgement := .led false (fun ss => ∃ s, P.Sound s ∧ ss = fun _ => s) False (fun _ => True)
    fun _ _ _ _ => trivial
  Source := P.Source
  Value := P.Value
  Key k := P.key k = true
  Within env := ∃ e, P.Within e ∧ env = fun _ => e
  Along := Together
  Call n env := ∃ e, (P.Within e ∧ P.Source n) ∧ env = fun _ => e
  Ask _ env := ∃ e, P.Within e ∧ env = fun _ => e
  Shared expr env := (env false).shares expr = true

variable {P}

theorem led {α : Type} {m : Eval α} {Q : α → Prop}
    (h : ∀ s a t, P.Sound s → Returns m s a t → Q a ∧ P.Sound t) :
    P.regime.Holds (fun _ => m) fun as => ∃ a, Q a ∧ as = fun _ => a :=
  led_const False.elim (fun hf => hf.elim) h

theorem led_ofExcept {α : Type} {r : Except Error α} {Q : α → Prop} (h : ∀ a, r = .ok a → Q a) :
    P.regime.Holds (fun _ => Eval.ofExcept r) fun as => ∃ a, Q a ∧ as = fun _ => a := by
  refine led fun s a t hs hr => ?_
  obtain ⟨ha, rfl⟩ := Eval.returns_ofExcept.mp hr
  exact ⟨h a ha, hs⟩

theorem source_map {m : Mapping} : P.Source (.map m) ↔ P.here (.map m) ∧ ∀ e ∈ m, P.Source e.2 :=
  Node.throughout_map

theorem value_seq {xs : List Node} : P.Value (.seq xs) ↔ ∀ x ∈ xs, P.Value x := by
  constructor
  · rintro ⟨hp, hs⟩ x hx
    exact ⟨Node.isPlainBut_seq.mp hp x hx, hs.part hx⟩
  · intro h
    exact ⟨Node.isPlainBut_seq.mpr fun x hx => (h x hx).1,
      Node.throughout_seq.mpr ⟨P.here_seq xs, fun x hx => (h x hx).2⟩⟩

theorem value_map {m : Mapping} :
    P.Value (.map m) ↔ ∀ e ∈ m, P.key e.1 = true ∧ P.Value e.2 := by
  constructor
  · rintro ⟨hp, hs⟩ e he
    obtain ⟨hk, hv⟩ := Node.isPlainBut_map.mp hp e he
    exact ⟨hk, hv, hs.part (Node.mem_parts_map he)⟩
  · intro h
    exact ⟨Node.isPlainBut_map.mpr fun e he => ⟨(h e he).1, (h e he).2.1⟩,
      source_map.mpr ⟨P.here_map fun e he => (h e he).1, fun e he => (h e he).2.2⟩⟩

theorem value_scalar {n : Node} (h : n.isScalar = true) : P.Value n :=
  ⟨Node.isPlainBut_scalar h, Node.throughout_of_scalar h (P.here_scalar h)⟩

theorem not_value_document (d : Document) : ¬P.Value (.document d) := by
  rintro ⟨hp, -⟩
  rw [pure, Node.isPlainBut, P.spared_document] at hp
  cases hp

theorem binding_of_pure {n : Node} (h : P.pure n) : P.Binding (.value n) := by
  cases n with
  | document d => trivial
  | null | bool _ | number _ | string _ | seq _ | map _ | tag _ => exact h

theorem throughout_binds {vars : List (String × Bound)} (h : P.regime.Binds vars) :
    ∀ b ∈ vars, b.2.Throughout P.here P.Binding := by
  intro b hb
  obtain ⟨n, hv, hn⟩ := h b hb
  rw [hn]
  exact .value (binding_of_pure hv.1) hv.2

theorem within_enter {e inner : Env} {location : String} {path : Path} {scope : Scope}
    (he : P.Within e) (hs : scope.Throughout P.here P.Binding)
    (h : e.enter location path scope = .ok inner) : P.Within inner := by
  obtain ⟨-, rfl⟩ := Env.enter_eq_ok.mp h
  exact ⟨hs, he.2⟩

theorem open_of_within {e : Env} (h : P.Within e) : P.regime.Open fun _ => e :=
  ⟨⟨e, h, rfl⟩, fun _ hn => ⟨e, ⟨h, hn⟩, rfl⟩, fun _ => ⟨e, h, rfl⟩⟩

theorem leads_find {expr : String} {head : List Char} {rest : List Segment} {e : Env}
    (he : P.Within e) (hp : LookupPath.parse? expr = some (.name head :: rest)) (path : Path) :
    P.regime.Holds (fun _ => Located.find expr path e (String.ofList head))
      (P.regime.Leads expr fun _ => e) := by
  unfold Located.find
  cases hb : e.scope.find? (String.ofList head) with
  | none => exact P.regime.fail trivial
  | some b =>
    refine P.regime.ret ?_
    match b, he.1.found hb with
    | .value n, .value hn hs =>
      refine .value ⟨e, he, rfl⟩ ⟨hs, ?_⟩
      cases n with
      | document d => exact .inl (Env.shares_eq_true.mpr ⟨head, rest, d, hp, hb⟩)
      | null | bool _ | number _ | string _ | seq _ | map _ | tag _ => exact .inr ⟨hn, hs⟩
    | .raw n scope, .raw _ hn hs =>
      have hw : P.Within (e.withScope scope) := ⟨hs, he.2⟩
      exact .pending ⟨_, hw, rfl⟩ ⟨_, ⟨hw, hn⟩, rfl⟩

theorem mem_addMissing {items more : List Node} {x : Node}
    (h : x ∈ Sections.addMissing items more) : x ∈ items ∨ x ∈ more := by
  unfold Sections.addMissing at h
  induction more generalizing items with
  | nil => exact .inl h
  | cons y more ih =>
    rw [List.foldl_cons] at h
    rcases ih h with h | h
    · split at h
      · exact .inl h
      · rcases List.mem_append.mp h with h | h
        · exact .inl h
        · exact .inr (List.mem_singleton.mp h ▸ List.mem_cons_self ..)
    · exact .inr (List.mem_cons_of_mem _ h)

theorem value_transforms {n : Node} (h : P.Value n) : ∀ x ∈ Sections.transforms n, P.Value x := by
  intro x hx
  cases n with
  | seq xs => exact value_seq.mp h x hx
  | null => cases hx
  | bool _ | number _ | string _ | map _ | tag _ | document _ =>
    cases List.mem_singleton.mp hx
    exact h

theorem value_unmarked {n : Node} (h : P.Value n) : P.Value (Sections.unmarked n) := by
  cases n with
  | map m => exact value_map.mpr fun e he => value_map.mp h e (List.mem_of_mem_filter he)
  | null | bool _ | number _ | string _ | seq _ | tag _ | document _ => exact h

theorem value_addEntries (hk : ∀ k, P.key k = true) (naming : NameScope)
    {target entries : Mapping} (ht : P.Value (.map target)) (he : P.Value (.map entries)) :
    P.Value (.map (Sections.addEntries naming target entries)) := by
  refine value_map.mpr ?_
  rintro ⟨k, x⟩ hx
  refine ⟨hk k, ?_⟩
  rcases Sections.mem_addEntries hx with hx | ⟨e, hmem, rfl⟩
  · exact (value_map.mp ht _ hx).2
  · exact value_unmarked (value_map.mp he e hmem).2

theorem sound_put {s : Sections} {heading : String} {n : Node} (hs : P.Sound s)
    (h : (∀ k, P.key k = true) → P.Value n) : P.Sound (Entries.put heading n s) := fun hk =>
  Entries.forall_put (P := fun e => P.Value e.2) (hs hk) (h hk)

theorem value_section {s : Sections} (hs : P.Sound s) (hk : ∀ k, P.key k = true) (heading : String)
    {n : Node} (hn : P.Value n) : P.Value ((Entries.find? heading s).getD n) := by
  cases hf : Entries.find? heading s with
  | none => exact hn
  | some m => exact Entries.of_find? (P := fun e => P.Value e.2) (hs hk) hf

theorem sound_fold {s t : Sections} {heading : String} {value : Node} {naming : NameScope}
    (hs : P.Sound s) (hv : P.Value value) (h : Sections.fold s heading value naming = .ok t) :
    P.Sound t := by
  unfold Sections.fold at h
  split at h
  · split at h
    · rename_i items hi
      cases h
      refine sound_put hs fun hk => value_seq.mpr fun x hx => ?_
      have hold : P.Value (.seq items) :=
        hi ▸ value_section hs hk heading (value_seq.mpr fun _ hx => absurd hx List.not_mem_nil)
      rcases mem_addMissing hx with hx | hx
      · exact value_seq.mp hold x hx
      · exact value_transforms hv x hx
    · cases h
      exact hs
  · split at h
    · cases h
      exact hs
    · split at h
      · rename_i target ht
        cases h
        refine sound_put hs fun hk => value_addEntries hk naming ?_ hv
        exact ht ▸ value_section hs hk heading (value_map.mpr fun _ he => absurd he List.not_mem_nil)
      · cases h
        exact hs
    · cases h

variable (P)

def discipline : Discipline Bool where
  toRegime := P.regime
  along_child := Together.child
  along_overrides := Together.overrides
  fault _ _ _ _ := trivial
  naming := by
    rintro _ ⟨e, he, rfl⟩
    refine ⟨e, fun _ => rfl, fun k hk => ?_⟩
    rcases he.2 with hn | hall
    · rwa [Env.qualify, hn]
    · exact hall _
  source_part h hm := h.part hm
  source_of_value h := h.2
  source_merge {d m} hd hm := by
    -- The overrides bring keys of their own; where there is a document any key may be.
    have hk := P.key_of_document hd.here
    have hV : ∀ m, P.Source (.map m) ↔ ∀ e ∈ m, P.key e.1 = true ∧ P.Source e.2 := fun m =>
      ⟨fun h e he => ⟨hk _, (source_map.mp h).2 e he⟩,
        fun h => source_map.mpr ⟨P.here_map fun e _ => hk e.1, fun e he => (h e he).2⟩⟩
    have hbody : ∀ e ∈ d.body, P.key e.1 = true ∧ P.Source e.2 := fun e he =>
      ⟨hk _, hd.part (Node.mem_parts_body he)⟩
    exact (hV _).mpr (Node.forall_deepMerge (K := fun k => P.key k = true) (V := P.Source) hV hbody m
      ((hV m).mp hm.2))
  call_source := by
    rintro n _ ⟨e, h, rfl⟩
    exact h.2
  call_part := by
    rintro n m _ ⟨e, h, rfl⟩ hm
    exact ⟨e, ⟨h.1, h.2.part hm⟩, rfl⟩
  call_extend := by
    rintro n _ vars ⟨e, h, rfl⟩ hv
    exact ⟨e.extend vars, ⟨⟨h.1.1.extend (throughout_binds hv), h.1.2⟩, h.2⟩, rfl⟩
  parse := by
    rintro n _ ⟨e, he, rfl⟩ hs text
    refine Judgement.holds_mono (led_ofExcept fun m hm => P.parsed hs.here hm P.Binding) ?_
    rintro _ ⟨m, hm, rfl⟩
    exact ⟨m, ⟨e, ⟨he, hm⟩, rfl⟩, rfl⟩
  enter := by
    rintro n _ _ ⟨e, h, rfl⟩ ⟨p, rfl⟩
    refine Judgement.holds_mono (led_ofExcept fun inner hi => within_enter h.1 h.1.1 hi) ?_
    rintro _ ⟨inner, hi, rfl⟩
    exact ⟨inner, ⟨hi, h.2⟩, rfl⟩
  enterDocument := by
    rintro d _ _ ⟨e, he, rfl⟩ hd ⟨p, rfl⟩ vars hv
    have hs : (d.scope.extend 0 vars).Throughout P.here P.Binding :=
      hd.captured.extend (throughout_binds hv)
    refine Judgement.holds_mono (led_ofExcept fun inner hi => within_enter he hs hi) ?_
    rintro _ ⟨inner, hi, rfl⟩
    exact ⟨open_of_within hi, fun naming? =>
      open_of_within ⟨hi.1, .inr (P.key_of_document hd.here)⟩⟩
  find := by
    rintro expr _ head rest _ ⟨e, he, rfl⟩ hp ⟨p, rfl⟩
    exact leads_find he hp p
  addSection := by
    rintro value _ _ ⟨e, he, rfl⟩ hv ⟨p, rfl⟩ heading _ naming
    exact led fun s _ t hs hr =>
      ⟨trivial, sound_fold hs hv (Eval.returns_addSection.mp hr)⟩
  value_scalar := value_scalar
  value_seq := value_seq
  value_map := value_map
  value_body h := absurd h (not_value_document _)
  key := P.key_plain
  key_computed hs := P.key_computed hs.here

theorem obeys (allows : Node → Env → Bool)
    (hp : ∀ {n : Node} {e : Env}, P.Within e → P.Source n → allows n e = true →
      P.regime.Permits n fun _ => e) (k : Nat) :
    P.regime.Obeys fun b => Evaluator.watched (bif b then fun _ _ => true else allows) k := by
  refine P.discipline.obeys_watched ?_ ?_ false (fun b => bif b then fun _ _ => true else allows)
    (fun hm => led_of_unfinished fun _ => by rw [hm]; rfl) ?_ (fun _ => k) fun _ => Nat.le_refl k
  · rintro n _ ⟨e, h, rfl⟩
    exact Discipline.ready_of_open (open_of_within h.1) h.2
  · rintro expr _ ⟨e, he, rfl⟩
    exact ⟨⟨e, he, rfl⟩, fun _ => ⟨e, he, rfl⟩⟩
  · rintro n _ ⟨e, h, rfl⟩ hl
    refine ⟨hp h.1 h.2 hl, fun b => ?_⟩
    cases b with
    | false => exact hl
    | true => rfl

end Purity

end InfraTemplate
