import InfraTemplate.Proofs.Likeness

/-!
Evaluation ends. Each evaluation inside another one is of a smaller node, or in a scope that a name
of the scope captured, or inside one more document, of which only so many are entered. Only the text
that `$parseYaml` is given can hide what does not end so.
-/

namespace InfraTemplate

mutual

/-- How often, from name to name, a scope leads on to a scope that was captured. -/
def Scope.rank : Scope → Nat
  | .empty => 0
  | .frame _ vars outer => max (Scope.rankOfVars vars) outer.rank

def Scope.rankOfVars : List (String × Bound) → Nat
  | [] => 0
  | (_, b) :: rest => max b.rank (Scope.rankOfVars rest)

def Bound.rank : Bound → Nat
  | .value _ => 0
  | .raw _ s => s.rank + 1

end

theorem Scope.rank_of_mem {vars : List (String × Bound)} {e : String × Bound} (h : e ∈ vars) :
    e.2.rank ≤ Scope.rankOfVars vars := by
  induction vars with
  | nil => cases h
  | cons e' vars ih =>
    obtain ⟨k, b⟩ := e'
    rw [Scope.rankOfVars]
    rcases List.mem_cons.mp h with rfl | h
    · exact Nat.le_max_left ..
    · exact Nat.le_trans (ih h) (Nat.le_max_right ..)

theorem Scope.rank_of_find? {s : Scope} {name : String} {b : Bound} (h : s.find? name = some b) :
    b.rank ≤ s.rank := by
  match s with
  | .empty => cases h
  | .frame label vars outer =>
    rw [find?] at h
    rw [rank]
    split at h
    · rename_i c hc
      cases h
      exact Nat.le_trans (rank_of_mem (Entries.mem_of_find? hc)) (Nat.le_max_left ..)
    · exact Nat.le_trans (rank_of_find? h) (Nat.le_max_right ..)

theorem Scope.rankOfVars_values {vars : List (String × Bound)} (h : ∀ e ∈ vars, e.2.rank = 0) :
    rankOfVars vars = 0 := by
  induction vars with
  | nil => rfl
  | cons e vars ih =>
    rw [rankOfVars, h e (List.mem_cons_self ..), ih fun e' he' => h e' (List.mem_cons_of_mem _ he')]
    rfl

theorem Scope.rank_extend {s : Scope} {label : Nat} {vars : List (String × Bound)}
    (h : ∀ e ∈ vars, e.2.rank = 0) : (s.extend label vars).rank ≤ s.rank := by
  have hv : ∀ e ∈ Entries.ofPairs vars, e.2.rank = 0 :=
    Entries.forall_putAll (fun _ he => absurd he List.not_mem_nil) h
  unfold extend
  split
  · exact Nat.le_refl _
  · rename_i vars' hvars
    exact Nat.le_of_eq (by rw [rank, rankOfVars_values hv, Nat.zero_max])

namespace LookupPath

theorem length_trim (cs : List Char) : (Text.trim cs).length ≤ cs.length := by
  rw [Text.trim, Text.trimEnd, Text.trimStart, List.length_reverse]
  refine Nat.le_trans (List.dropWhile_sublist _).length_le ?_
  rw [List.length_reverse]
  exact (List.dropWhile_sublist _).length_le

theorem length_inner_of_closing? {depth : Nat} {cs inner rest : List Char}
    (h : closing? depth cs = some (inner, rest)) : inner.length < cs.length := by
  induction cs generalizing depth inner with
  | nil => simp [closing?] at h
  | cons c cs ih =>
    simp only [closing?] at h
    split at h
    · split at h
      · cases h
        simp
      · obtain ⟨⟨_, _⟩, h', he⟩ := Option.map_eq_some_iff.mp h
        cases he
        exact Nat.succ_lt_succ (ih h')
    · obtain ⟨⟨_, _⟩, h', he⟩ := Option.map_eq_some_iff.mp h
      cases he
      exact Nat.succ_lt_succ (ih h')

theorem length_inner_of_first? {cs inner rest : List Char}
    (h : first? cs = some (.dynamic inner, rest)) : inner.length < cs.length := by
  cases cs with
  | nil => cases h
  | cons c cs =>
    simp only [first?] at h
    split at h
    · split at h
      · rename_i heq
        split at h
        · cases h
        · cases h
          exact Nat.lt_of_le_of_lt (length_trim _)
            (Nat.lt_succ_of_lt (length_inner_of_closing? heq))
      · cases h
    · split at h
      · cases h
      · cases h

theorem length_inner {cs inner : List Char} {segments : List Segment}
    (h : segments? cs = some segments) (hi : .dynamic inner ∈ segments) :
    inner.length < cs.length := by
  induction hn : cs.length using Nat.strongRecOn generalizing cs segments with
  | ind n ih =>
    subst hn
    rw [segments?] at h
    split at h
    · cases h
      cases hi
    · split at h
      · cases h
      · rename_i s rest hfirst
        split at h
        · cases h
        · rename_i more hmore
          obtain ⟨tail, htail, rfl⟩ := Option.map_eq_some_iff.mp h
          rcases List.mem_cons.mp hi with rfl | hi
          · exact length_inner_of_first? hfirst
          · have hr := length_of_first? hfirst
            have hm := length_of_afterDot? hmore
            exact Nat.lt_trans (ih _ (by omega) htail hi rfl) (by omega)

theorem length_inner_of_parse? {expr : String} {inner : List Char} {segments : List Segment}
    (h : parse? expr = some segments) (hi : .dynamic inner ∈ segments) :
    inner.length < expr.toList.length :=
  Nat.lt_of_lt_of_le (length_inner h hi) (length_trim _)

end LookupPath

abbrev Weight := Nat × Nat × Nat × Nat

namespace Weight

def Below (a b : Weight) : Prop := Prod.Lex (· < ·) (Prod.Lex (· < ·) (Prod.Lex (· < ·) (· < ·))) a b

theorem below_iff {a b : Weight} : a.Below b ↔ a.1 < b.1 ∨ a.1 = b.1 ∧ (a.2.1 < b.2.1 ∨
    a.2.1 = b.2.1 ∧ (a.2.2.1 < b.2.2.1 ∨ a.2.2.1 = b.2.2.1 ∧ a.2.2.2 < b.2.2.2)) := by
  simp only [Below, Prod.lex_def]

theorem below_wf : WellFounded Below :=
  (Prod.lex Nat.lt_wfRel (Prod.lex Nat.lt_wfRel (Prod.lex Nat.lt_wfRel Nat.lt_wfRel))).wf

noncomputable def ofNode (n : Node) (e : Env) : Weight :=
  (e.limit - e.depth, e.scope.rank, 1, sizeOf n)

def ofPath (expr : String) (e : Env) : Weight :=
  (e.limit - e.depth, e.scope.rank, 0, expr.toList.length)

end Weight

def Node.ParsesNothing (n : Node) : Prop := ∀ text, n ≠ .tag (.apply .parseYaml text)

abbrev Node.Unparsing (n : Node) : Prop := n.Throughout Node.ParsesNothing fun _ => True

abbrev Scope.Unparsing (s : Scope) : Prop := s.Throughout Node.ParsesNothing fun _ => True

namespace Halting

structure Confined (bound : Nat) (e : Env) : Prop where
  scope : e.scope.Unparsing
  depth : e.depth ≤ bound
  limit : e.limit ≤ bound

theorem parsesNothing_scalar {n : Node} (h : n.isScalar = true) : n.ParsesNothing := by
  rintro text rfl
  cases h

theorem unparsing_scalar {n : Node} (h : n.isScalar = true) : n.Unparsing :=
  Node.throughout_of_scalar h (parsesNothing_scalar h)

theorem unparsing_seq {xs : List Node} : (Node.seq xs).Unparsing ↔ ∀ x ∈ xs, x.Unparsing :=
  Node.throughout_seq.trans (and_iff_right (by simp [Node.ParsesNothing]))

theorem unparsing_map {m : Mapping} :
    (Node.map m).Unparsing ↔ ∀ e ∈ m, True ∧ e.2.Unparsing := by
  refine (Node.throughout_map.trans (and_iff_right (by simp [Node.ParsesNothing]))).trans ?_
  simp only [true_and]

theorem eventual_ofExcept {α : Type} {r : Except Error α} {P : α → Prop}
    (h : ∀ a, r = .ok a → P a) :
    Eventual (fun _ => Eval.ofExcept r) fun as => ∃ a, P a ∧ as = fun _ => a := by
  intro s
  cases hr : r with
  | ok a => exact .inl ⟨0, _, s, ⟨a, h a hr, rfl⟩, fun _ _ => Eval.returns_ofExcept.mpr ⟨rfl, rfl⟩⟩
  | error e => exact .inr ⟨0, fun _ => e, s, fun _ _ => rfl⟩

theorem confined_enter {bound : Nat} {e inner : Env} {location : String} {path : Path}
    {scope : Scope} (he : Confined bound e) (hs : scope.Unparsing)
    (h : e.enter location path scope = .ok inner) :
    Confined bound inner ∧ inner.limit - inner.depth < e.limit - e.depth ∧ inner.scope = scope := by
  obtain ⟨hd, rfl⟩ := Env.enter_eq_ok.mp h
  have := he.limit
  exact ⟨⟨hs, by dsimp only; omega, he.limit⟩, by dsimp only; omega, rfl⟩

section Discipline

variable (bound : Nat) (w : Weight)

def Within (env : Nat → Env) : Prop :=
  ∃ e, env = (fun _ => e) ∧ Confined bound e ∧
    (e.limit - e.depth < w.1 ∨ e.limit - e.depth = w.1 ∧ e.scope.rank ≤ w.2.1)

def Call (n : Node) (env : Nat → Env) : Prop :=
  ∃ e, env = (fun _ => e) ∧ Confined bound e ∧ n.Unparsing ∧ (Weight.ofNode n e).Below w

def Ask (expr : String) (env : Nat → Env) : Prop :=
  ∃ e, env = (fun _ => e) ∧ Confined bound e ∧ (Weight.ofPath expr e).Below w

def regime : Regime Nat where
  toJudgement := .eventual
  Source := Node.Unparsing
  Value := Node.Unparsing
  Key _ := True
  Within := Within bound w
  Along := Together
  Call := Call bound w
  Ask := Ask bound w
  Shared _ _ := False

variable {bound w}

theorem open_of_deeper {e : Env} (he : Confined bound e) (h : e.limit - e.depth < w.1) :
    (regime bound w).Open fun _ => e where
  within := ⟨e, rfl, he, .inl h⟩
  call _ hn := ⟨e, rfl, he, hn, Weight.below_iff.mpr (.inl h)⟩
  ask _ := ⟨e, rfl, he, Weight.below_iff.mpr (.inl h)⟩

theorem binds_rank {vars : List (String × Bound)} (h : (regime bound w).Binds vars) :
    ∀ b ∈ vars, b.2.rank = 0 := by
  intro b hb
  obtain ⟨n, -, hn⟩ := h b hb
  rw [hn, Bound.rank]

theorem binds_unparsing {vars : List (String × Bound)} (h : (regime bound w).Binds vars) :
    ∀ b ∈ vars, b.2.Throughout Node.ParsesNothing fun _ => True := by
  intro b hb
  obtain ⟨n, hv, hn⟩ := h b hb
  rw [hn]
  exact .value trivial hv

theorem call_extend {n : Node} {env : Nat → Env} {vars : List (String × Bound)}
    (h : Call bound w n env) (hv : (regime bound w).Binds vars) :
    Call bound w n fun i => (env i).extend vars := by
  obtain ⟨e, rfl, he, hn, hw⟩ := h
  refine ⟨e.extend vars, rfl, ⟨he.scope.extend (binds_unparsing hv), he.depth, he.limit⟩, hn, ?_⟩
  -- Only values are bound, which captured no scope.
  have hr : (e.extend vars).scope.rank ≤ e.scope.rank := Scope.rank_extend (binds_rank hv)
  have hd : (e.extend vars).limit - (e.extend vars).depth = e.limit - e.depth := rfl
  rw [Weight.below_iff] at hw ⊢
  simp only [Weight.ofNode, hd] at hw ⊢
  omega

theorem enter {n : Node} {env : Nat → Env} {path : Nat → Path} (h : Call bound w n env)
    (hp : Together path) :
    Eventual (fun i => Eval.ofExcept ((env i).enter (env i).location (path i) (env i).scope))
      (Call bound w n) := by
  obtain ⟨e, rfl, he, hn, hw⟩ := h
  obtain ⟨p, rfl⟩ := hp
  refine Judgement.holds_mono (J := .eventual)
    (eventual_ofExcept fun inner hi => confined_enter he he.scope hi) ?_
  rintro _ ⟨inner, ⟨hc, hd, hs⟩, rfl⟩
  refine ⟨inner, rfl, hc, hn, ?_⟩
  rw [Weight.below_iff] at hw ⊢
  simp only [Weight.ofNode] at hw ⊢
  omega

theorem enterDocument {d : Document} {env : Nat → Env} {path : Nat → Path}
    (h : Within bound w env) (hd : (Node.document d).Unparsing) (hp : Together path) :
    (regime bound w).Enters d path env := by
  intro vars hv
  obtain ⟨e, rfl, he, hw⟩ := h
  obtain ⟨p, rfl⟩ := hp
  have hs : (d.scope.extend 0 vars).Unparsing := hd.captured.extend (binds_unparsing hv)
  refine Judgement.holds_mono (J := .eventual)
    (eventual_ofExcept fun inner hi => confined_enter he hs hi) ?_
  rintro _ ⟨inner, ⟨hc, hlt, -⟩, rfl⟩
  have deeper : inner.limit - inner.depth < w.1 := by omega
  exact ⟨open_of_deeper hc deeper, fun _ => open_of_deeper ⟨hc.scope, hc.depth, hc.limit⟩ deeper⟩

theorem find {expr name : String} {env : Nat → Env} {path : Nat → Path} (h : Within bound w env)
    (hp : Together path) :
    Eventual (fun i => Located.find expr (path i) (env i) name)
      ((regime bound w).Leads expr env) := by
  obtain ⟨e, rfl, he, hw⟩ := h
  obtain ⟨p, rfl⟩ := hp
  simp only [Located.find]
  cases hb : e.scope.find? name with
  | none => exact Judgement.eventual.fail trivial
  | some b =>
    refine Judgement.eventual.ret ?_
    cases he.scope.found hb with
    | value _ hn => exact .value ⟨e, rfl, he, hw⟩ ⟨hn, .inr hn⟩
    | @raw n scope _ hn hs =>
      -- No document is entered here; it is the captured scope that is smaller.
      have hr : scope.rank < e.scope.rank := Scope.rank_of_find? hb
      have hc : Confined bound (e.withScope scope) := ⟨hs, he.depth, he.limit⟩
      have hd : (e.withScope scope).limit - (e.withScope scope).depth = e.limit - e.depth := rfl
      have hscope : (e.withScope scope).scope.rank = scope.rank := rfl
      refine .pending ⟨_, rfl, hc, ?_⟩ ⟨_, rfl, hc, hn, ?_⟩
      · omega
      · rw [Weight.below_iff]
        simp only [Weight.ofNode]
        omega

theorem addSection {value : Node} {env : Nat → Env} {path : Nat → Path} (h : Within bound w env)
    (hp : Together path) (heading : String) (naming : NameScope) :
    Eventual (fun i => Eval.addSection heading value naming (path i) (env i))
      fun as => ∃ u, True ∧ as = fun _ => u := by
  obtain ⟨e, rfl, -, -⟩ := h
  obtain ⟨p, rfl⟩ := hp
  intro s
  rcases Sections.fold_cases heading value naming with hok | ⟨d, herr⟩
  · choose ts hts using fun i => hok (s i)
    exact .inl ⟨0, fun _ => (), ts, ⟨(), trivial, rfl⟩, fun i _ => Eval.returns_addSection.mpr (hts i)⟩
  · exact .inr ⟨0, _, s, fun i _ => Eval.fails_addSection.mpr ⟨rfl, d, herr (s i), rfl⟩⟩

variable (bound w)

def discipline : Discipline Nat where
  toRegime := regime bound w
  along_child := Together.child
  along_overrides := Together.overrides
  fault _ _ _ _ := trivial
  naming := by
    rintro _ ⟨e, rfl, -, -⟩
    exact ⟨e, fun _ => rfl, fun _ _ => trivial⟩
  source_part h hm := h.part hm
  source_of_value h := h
  source_merge {d m} hd hm := by
    have hbody : ∀ e ∈ d.body, True ∧ e.2.Unparsing := fun e he =>
      ⟨trivial, hd.part (Node.mem_parts_body he)⟩
    exact unparsing_map.mpr (Node.forall_deepMerge (K := fun _ => True) (V := Node.Unparsing)
      (fun _ => unparsing_map) hbody m (unparsing_map.mp hm))
  call_source := by
    rintro n _ ⟨e, rfl, -, hn, -⟩
    exact hn
  call_part := by
    rintro n m _ ⟨e, rfl, he, hn, hw⟩ hm
    refine ⟨e, rfl, he, hn.part hm, ?_⟩
    have := Node.sizeOf_part hm
    rw [Weight.below_iff] at hw ⊢
    simp only [Weight.ofNode] at hw ⊢
    omega
  call_extend := call_extend
  parse _ hs := absurd rfl (hs.here _)
  enter := enter
  enterDocument := enterDocument
  find h _ hp := find h hp
  addSection h _ hp heading _ naming := addSection h hp heading naming
  value_scalar := unparsing_scalar
  value_seq := unparsing_seq
  value_map := unparsing_map
  value_body h := unparsing_map.mpr fun _ he => ⟨trivial, h.part (Node.mem_parts_body he)⟩
  key _ _ := trivial
  key_computed _ _ _ := trivial

end Discipline

open Judgement

def shallow (bound : Nat) : Node → Env → Bool := fun _ e => decide (e.depth ≤ bound)

theorem gives_of_succ {α : Type} {m : Nat → Eval α} {P : α → Prop}
    (h : eventual.Gives (fun k => m (k + 1)) P) : eventual.Gives m P := by
  intro s
  rcases h fun i => s (i + 1) with ⟨k, _, ts, ⟨x, hx, rfl⟩, hr⟩ | ⟨k, es, ts, hf⟩
  · refine .inl ⟨k + 1, _, fun i => ts (i - 1), ⟨x, hx, rfl⟩, fun i hi => ?_⟩
    obtain ⟨j, rfl⟩ := Nat.exists_eq_add_of_le' (Nat.le_trans (Nat.le_add_left 1 k) hi)
    exact hr j (Nat.le_of_succ_le_succ hi)
  · refine .inr ⟨k + 1, fun i => es (i - 1), fun i => ts (i - 1), fun i hi => ?_⟩
    obtain ⟨j, rfl⟩ := Nat.exists_eq_add_of_le' (Nat.le_trans (Nat.le_add_left 1 k) hi)
    exact hf j (Nat.le_of_succ_le_succ hi)

structure Ends (bound : Nat) (w : Weight) : Prop where
  node : ∀ {n : Node} {e : Env}, Confined bound e → n.Unparsing → Weight.ofNode n e = w → ∀ path,
    eventual.Gives (fun k => (Evaluator.watched (shallow bound) k).node n path e) Node.Unparsing
  resources : ∀ {m : Mapping} {e : Env}, Confined bound e → (Node.map m).Unparsing →
    Weight.ofNode (.map m) e = w → ∀ path,
      eventual.Gives (fun k => (Evaluator.watched (shallow bound) k).resources m path e)
        fun out => (Node.map out).Unparsing
  reference : ∀ {expr : String} {e : Env}, Confined bound e → Weight.ofPath expr e = w → ∀ path,
    eventual.Gives (fun k => (Evaluator.watched (shallow bound) k).reference expr path e)
      Node.Unparsing

variable {bound : Nat} {w : Weight}

theorem obeys (h : ∀ w', w'.Below w → Ends bound w') :
    (discipline bound w).Obeys (Evaluator.watched (shallow bound)) where
  node := by
    rintro n _ _ ⟨e, rfl, he, hn, hw⟩ ⟨path, rfl⟩
    exact (h _ hw).node he hn rfl path
  reference := by
    rintro expr _ _ ⟨e, rfl, he, hw⟩ ⟨path, rfl⟩
    exact ((h _ hw).reference he rfl path).mono fun n hn => ⟨hn, .inr hn⟩
  resources := by
    rintro m _ _ ⟨e, rfl, he, hm, hw⟩ ⟨path, rfl⟩
    exact (h _ hw).resources he hm rfl path

theorem ready {n : Node} {e : Env} (he : Confined bound e) (hn : n.Unparsing) :
    (discipline bound (Weight.ofNode n e)).Ready n fun _ => e where
  within := ⟨e, rfl, he, .inr ⟨rfl, Nat.le_refl _⟩⟩
  source := hn
  part m hm := by
    refine ⟨e, rfl, he, hn.part hm, Weight.below_iff.mpr ?_⟩
    exact .inr ⟨rfl, .inr ⟨rfl, .inr ⟨rfl, Node.sizeOf_part hm⟩⟩⟩
  ask expr := by
    refine ⟨e, rfl, he, Weight.below_iff.mpr ?_⟩
    exact .inr ⟨rfl, .inr ⟨rfl, .inl Nat.zero_lt_one⟩⟩

theorem ends (w : Weight) : Ends bound w := by
  -- Whatever weighs less ends, so evaluation keeps to the discipline of what weighs less.
  induction w using Weight.below_wf.induction with
  | _ w ih =>
    have inner := obeys ih
    refine ⟨fun {n e} he hn hw path => ?_, fun {m e} he hm hw path => ?_,
      fun {expr e} he hw path => ?_⟩
    · subst hw
      refine gives_of_succ ?_
      simp only [Evaluator.watched, shallow, he.depth, decide_true, ↓reduceIte]
      exact Discipline.step inner ⟨path, rfl⟩ (ready he hn) ⟨fun _ _ => not_false, fun _ hp =>
        hn.part (by rw [hp]; exact List.mem_singleton_self _)⟩
    · subst hw
      exact gives_of_succ
        (Discipline.resourceSection inner (Discipline.readyEntries (ready he hm)) ⟨path, rfl⟩)
    · subst hw
      have hwithin : (discipline bound (Weight.ofPath expr e)).Within fun _ => e :=
        ⟨e, rfl, he, .inr ⟨rfl, Nat.le_refl _⟩⟩
      refine gives_of_succ ((Discipline.lookup inner.node hwithin ⟨path, rfl⟩ ?_).mono
        fun _ hn => hn.1)
      intro segments hp name hname
      have hlt : (String.ofList name).toList.length < expr.toList.length := by
        rw [String.toList_ofList]
        exact LookupPath.length_inner_of_parse? hp hname
      have hbelow : (Weight.ofPath (String.ofList name) e).Below (Weight.ofPath expr e) :=
        Weight.below_iff.mpr (.inr ⟨rfl, .inr ⟨rfl, .inr ⟨rfl, hlt⟩⟩⟩)
      exact (inner.reference ⟨e, rfl, he, hbelow⟩ ⟨path, rfl⟩).mono fun _ _ => trivial

end Halting

/-- Where no text is parsed, evaluation ends with a value or an error, and does so without ever
going on inside more documents than may be entered, or than are entered already. -/
theorem evaluation_halts (n : Node) (path : Path) (env : Env) (hn : n.Unparsing)
    (hs : env.scope.Unparsing) (s : Sections) :
    ∃ k p, ∀ j, k ≤ j →
      ((Evaluator.upTo j).node n path env).outcome s = some p ∧
        ((Evaluator.watched (Halting.shallow (max env.depth env.limit)) j).node n path env).outcome s
          = some p := by
  have he : Halting.Confined (max env.depth env.limit) env :=
    ⟨hs, Nat.le_max_left .., Nat.le_max_right ..⟩
  obtain ⟨k, p, hp⟩ : ∃ k p,
      ((Evaluator.watched (Halting.shallow (max env.depth env.limit)) k).node n path env).outcome s
        = some p := by
    rcases (Halting.ends _).node he hn rfl path fun _ => s with
      ⟨k, as, ts, -, hr⟩ | ⟨k, es, ts, hf⟩
    · exact ⟨k, _, hr k (Nat.le_refl k)⟩
    · exact ⟨k, _, hf k (Nat.le_refl k)⟩
  refine ⟨k, p, fun j hj => ⟨?_, Evaluator.watched_mono (fun _ _ h => h) hj hp⟩⟩
  rw [← Evaluator.watched_true]
  exact Evaluator.watched_mono (fun _ _ _ => rfl) hj hp

section Example

def selfExpansion : Node := .tag (.expand (.string "t") (.map [("t", .tag (.lookup "t"))]))

def selfTemplate : Document :=
  ⟨"t.yaml", [("inside", selfExpansion)], [⟨"t", none, none, none, none, none⟩], .empty⟩

def selfEnv : Env :=
  Env.root (.frame 1 [("t", .value (.document selfTemplate))] .empty) "root.yaml" 3

theorem unparsing_selfExpansion : selfExpansion.Unparsing := by
  refine Node.throughout_tag.mpr ⟨by simp [Node.ParsesNothing], fun n hn => ?_⟩
  rcases List.mem_pair.mp hn with rfl | rfl
  · exact Halting.unparsing_scalar rfl
  · refine Halting.unparsing_map.mpr fun e he => ⟨trivial, ?_⟩
    cases List.mem_singleton.mp he
    refine Node.throughout_tag.mpr ⟨by simp [Node.ParsesNothing], fun m hm => ?_⟩
    exact absurd hm List.not_mem_nil

theorem unparsing_selfEnv : selfEnv.scope.Unparsing := by
  change (Scope.empty.extend 1 [("t", .value (.document selfTemplate))]).Unparsing
  refine Scope.Throughout.extend .empty ?_
  intro e he
  cases List.mem_singleton.mp he
  refine .value trivial (.intro (by simp [Node.ParsesNothing]) ?_ ?_)
  · intro n hn
    cases List.mem_singleton.mp hn
    exact unparsing_selfExpansion
  · rintro _ ⟨⟩
    exact .empty

theorem evaluation_halts_selfExpansion : ∃ k p, ∀ j, k ≤ j →
    ((Evaluator.upTo j).node selfExpansion Path.root selfEnv).outcome [] = some p ∧
      ((Evaluator.watched (Halting.shallow (max 0 3)) j).node selfExpansion Path.root selfEnv).outcome
        [] = some p :=
  evaluation_halts selfExpansion Path.root selfEnv unparsing_selfExpansion unparsing_selfEnv []

end Example

end InfraTemplate
