import InfraTemplate.Proofs.ResourceTypes

namespace InfraTemplate

open Evaluator Interpolation Resource

namespace Evaluator

variable {ev : Evaluator} {k l : Nat} {name s p : String} {m : Mapping} {type : Node}
  {path path' : Path} {env : Env} {s₀ s₁ t : Sections} {r : Except Error ResourceKind}

theorem classify_put_plain (ev : Evaluator) (name : String) (m : Mapping) (path : Path) (env : Env)
    (hs : hasPlaceholders s = false) :
    ev.classify name (Entries.put "Type" (.string s) m) path env = ev.kindOfType name s path env := by
  rw [classify_of_type name (Entries.find?_put_self ..), resourceType, interpolated, hs,
    if_neg Bool.false_ne_true, pure_bind]

theorem classify_denoted_outcome (name : String) (hf : Entries.find? "Type" m = some type)
    (hn : ∀ p, type ≠ .tag (.lookup p))
    (hv : Returns ((upTo k).node type (path.child "Type") env) s₀ (.string s) s₁) :
    ((upTo k).classify name m path env).outcome s₀ =
      ((upTo k).kindOfType name s path env).outcome s₁ := by
  have htype : ((upTo k).resourceType type path env).run s₀ = some (.ok s, s₁) :=
    returns_resourceType hn hv
  rw [classify_of_type name hf, Eval.outcome, run_bind, htype]
  rfl

theorem returns_locate_at (hk : k ≤ l)
    (hp : path.hasSegment overridesKey = path'.hasSegment overridesKey) {at_ : Located}
    (h : Returns ((upTo k).locate p path env) s₀ at_ t) (s' : Sections) :
    ∃ at' t', Returns ((upTo l).locate p path' env) s' at' t' ∧ at'.node = at_.node := by
  have hobeys := Likeness.obeys_upTo carriesSections_any hk
  have hw : (Likeness.easing carriesSections_any).discipline.Within fun _ => env :=
    (Env.Widens.refl env).eases
  have hl : (Likeness.easing carriesSections_any).discipline.Along
      fun b => bif b then path' else path := hp
  have hask (expr : String) : (Likeness.easing carriesSections_any).discipline.Ask expr
      fun _ => env := hw
  obtain ⟨as, ts, hleads, -, hall⟩ := (Discipline.locate_of_obeys hobeys hw hl hask
    (fun b => bif b then s' else s₀) trivial).1 at_ t h
  obtain ⟨n, -, hn⟩ := Discipline.leads_node hleads
  obtain ⟨rfl, -⟩ := h.unique (hall false)
  exact ⟨as true, ts true, hall true, (hn true).trans (hn false).symm⟩

theorem located_of_lookup (h : Returns ((upTo k).lookup p path env) s₀ (.string s) s₁) :
    ∃ at_ t, Returns ((upTo k).locate p path env) s₀ at_ t ∧ ∀ d, at_.node ≠ .document d := by
  obtain ⟨at_, t, hat, h⟩ := returns_bind.mp h
  refine ⟨at_, t, hat, ?_⟩
  intro d hd
  split at h
  · obtain ⟨hs, -⟩ := returns_pure.mp h
    rw [hd] at hs
    cases hs
  · obtain ⟨inner, u, -, h⟩ := returns_bind.mp h
    rw [hd] at h
    cases k with
    | zero => exact absurd h Eval.returns_unfinished
    | succ k =>
      obtain ⟨inner', v, -, h⟩ := returns_bind.mp h
      obtain ⟨out, w, -, h⟩ := returns_bind.mp h
      obtain ⟨hs, -⟩ := returns_pure.mp h
      cases hs

theorem leadsAstray_of_lookup
    (hv : Returns ((upTo k).node (.tag (.lookup p)) (path.child "Type") env) s₀ (.string s) s₁)
    (s' : Sections) : ∃ t, LeadsAstray (upTo k) p path env s' t := by
  match k with
  | 0 | 1 => exact absurd hv Eval.returns_unfinished
  | n + 2 =>
    obtain ⟨at_, t, hat, hno⟩ := located_of_lookup (k := n) hv
    obtain ⟨at', t', hat', hnode⟩ :=
      returns_locate_at (Nat.le_add_right n 2) (level_type path) hat s'
    exact ⟨t', .inl ⟨at', hat', fun d => hnode ▸ hno d⟩⟩

theorem kindOfType_astray (name : String) (h : ∃ t, LeadsAstray ev p path env s₀ t) :
    ∃ t, (ev.kindOfType name p path env).outcome s₀ = some
      (if isLiteralType p then .ok .literal else .error (.invalidResource name p path env.stack),
        t) := by
  by_cases hl : isLiteralType p = true
  · rw [if_pos hl, kindOfType_of_literal hl]
    exact ⟨s₀, rfl⟩
  · obtain ⟨t, ht⟩ := h
    rw [if_neg hl]
    exact ⟨t, fails_kindOfType name (Bool.eq_false_iff.mpr hl) ht⟩

def IsVerdict (name type : String) (path : Path) (env : Env) : Except Error ResourceKind → Prop
  | .ok _ => True
  | .error e => e = .invalidResource name type path env.stack

theorem classify_lookup_iff (hf : Entries.find? "Type" m = some (.tag (.lookup p)))
    (hv : Returns ((upTo k).node (.tag (.lookup p)) (path.child "Type") env) s₀ (.string s) s₁)
    (hr : ((upTo k).kindOfType name s path env).outcome s₁ = some (r, t))
    (hverdict : IsVerdict name s path env r) :
    (∃ t', ((upTo k).classify name m path env).outcome s₀ = some (r, t')) ↔
      p = s ∨ isLiteralType p = true ∧ isLiteralType s = true := by
  have hread : (upTo k).classify name m path env = (upTo k).kindOfType name p path env := by
    rw [classify_of_type name hf]
    exact pure_bind ..
  obtain ⟨u, hu⟩ := kindOfType_astray name (leadsAstray_of_lookup hv s₀)
  rw [hread, hu]
  constructor
  · rintro ⟨t', h⟩
    cases h
    by_cases hl : isLiteralType p = true
    · rw [if_pos hl] at hr
      exact .inr ⟨hl, (literal_of_kindOfType hr).1⟩
    · rw [if_neg hl] at hverdict
      cases hverdict
      exact .inl rfl
  · rintro (rfl | ⟨hp, hs⟩)
    · obtain ⟨v, hv⟩ := kindOfType_astray name (leadsAstray_of_lookup hv s₁)
      rw [hr] at hv
      cases hv
      exact ⟨u, rfl⟩
    · rw [kindOfType_of_literal hs] at hr
      cases hr
      rw [if_pos hp]
      exact ⟨u, rfl⟩

end Evaluator

/-- A resource is taken for what its type denotes if the type is no lookup, or if the path of the lookup
is the text itself, or if both are literal types. -/
theorem classify_denoted_iff {k : Nat} (name : String) {s : String} {m : Mapping} {type : Node}
    {path : Path} {env : Env} {s₀ s₁ : Sections} (hf : Entries.find? "Type" m = some type)
    (hv : Returns ((upTo k).node type (path.child "Type") env) s₀ (.string s) s₁) :
    (hasPlaceholders s = false →
      (upTo k).classify name (Entries.put "Type" (.string s) m) path env =
        (upTo k).kindOfType name s path env) ∧
    ((∀ p, type ≠ .tag (.lookup p)) →
      ((upTo k).classify name m path env).outcome s₀ =
        ((upTo k).kindOfType name s path env).outcome s₁) ∧
    ∀ r t, ((upTo k).kindOfType name s path env).outcome s₁ = some (r, t) →
      IsVerdict name s path env r →
      ((∃ t', ((upTo k).classify name m path env).outcome s₀ = some (r, t')) ↔
        ∀ p, type = .tag (.lookup p) →
          p = s ∨ isLiteralType p = true ∧ isLiteralType s = true) := by
  refine ⟨classify_put_plain _ name m path env,
    fun hn => classify_denoted_outcome name hf hn hv, fun r t hr hverdict => ?_⟩
  by_cases hlookup : ∃ p, type = .tag (.lookup p)
  · obtain ⟨p, rfl⟩ := hlookup
    rw [classify_lookup_iff hf hv hr hverdict]
    constructor
    · rintro h _ ⟨⟩
      exact h
    · exact fun h => h p rfl
  · have hn : ∀ p, type ≠ .tag (.lookup p) := fun p hp => hlookup ⟨p, hp⟩
    rw [classify_denoted_outcome name hf hn hv]
    exact ⟨fun _ p hp => absurd hp (hn p), fun _ => ⟨t, hr⟩⟩

def bucketEnv : Env :=
  .root (.frame 0 [("kind", .value (.string "AWS::S3::Bucket"))] .empty) "root.yaml" 10

theorem classify_denoted_iff_placeholder :
    let type := Node.string "\x7b\x7bkind\x7d\x7d"
    let m : Mapping := [("Type", type)]
    let path := "Root.Resources.X"
    Returns ((upTo 3).node type (Path.child path "Type") bucketEnv) [] (.string "AWS::S3::Bucket") [] ∧
      ((upTo 3).classify "X" (Entries.put "Type" (.string "AWS::S3::Bucket") m) path
        bucketEnv).outcome [] = some (.ok .literal, []) ∧
      ((upTo 3).classify "X" m path bucketEnv).outcome [] = some (.ok .literal, []) := by
  intro type m path
  have hv : Returns ((upTo 3).node type (Path.child path "Type") bucketEnv) []
      (.string "AWS::S3::Bucket") [] := by
    with_unfolding_all rfl
  have hkind : ((upTo 3).kindOfType "X" "AWS::S3::Bucket" path bucketEnv).outcome [] =
      some (.ok .literal, []) := by
    rw [kindOfType_of_literal (by decide +kernel)]
    rfl
  have hf : Entries.find? "Type" m = some type := rfl
  obtain ⟨hplain, hdenoted, -⟩ := classify_denoted_iff "X" hf hv
  refine ⟨hv, ?_, ?_⟩
  · rw [hplain (by decide +kernel), hkind]
  · rw [hdenoted nofun, hkind]

theorem classify_denoted_lookup :
    let type := Node.tag (.lookup "kind")
    let m : Mapping := [("Type", type)]
    let path := "Root.Resources.X"
    Returns ((upTo 3).node type (Path.child path "Type") bucketEnv) [] (.string "AWS::S3::Bucket") [] ∧
      ((upTo 3).classify "X" (Entries.put "Type" (.string "AWS::S3::Bucket") m) path
        bucketEnv).outcome [] = some (.ok .literal, []) ∧
      ((upTo 3).classify "X" m path bucketEnv).outcome [] =
        some (.error (.invalidResource "X" "kind" path bucketEnv.stack), []) := by
  intro type m path
  refine ⟨?_, ?_, ?_⟩
  · with_unfolding_all rfl
  · rw [classify_put_plain _ _ _ _ _ (by decide +kernel), kindOfType_of_literal (by decide +kernel)]
    rfl
  · with_unfolding_all rfl

end InfraTemplate
