import InfraTemplate.Proofs.Emission
import InfraTemplate.Proofs.Parameters
import Mathlib.Data.List.Induction

namespace InfraTemplate

namespace Entries

variable {α : Type} {name : String}

theorem find?_ofPairs (name : String) (es : List (String × α)) :
    find? name (ofPairs es) = find? name es.reverse := by
  -- The last pair is put last, so the induction takes pairs from the end.
  induction es using List.reverseRecOn with
  | nil => rfl
  | append_singleton es e ih =>
    obtain ⟨k, a⟩ := e
    have hput : ofPairs (es ++ [(k, a)]) = put k a (ofPairs es) := List.foldl_append ..
    rw [hput, List.reverse_append, List.reverse_singleton, List.singleton_append, find?_cons]
    by_cases hk : name = k
    · rw [if_pos hk, hk, find?_put_self]
    · rw [if_neg hk, find?_put_of_ne hk, ih]

theorem find?_ofPairs_append (name : String) (front back : List (String × α)) :
    find? name (ofPairs (front ++ back)) =
      (find? name (ofPairs back)).or (find? name (ofPairs front)) := by
  rw [find?_ofPairs, find?_ofPairs, find?_ofPairs, List.reverse_append]
  exact List.lookup_append

end Entries

theorem Document.Loaded.find?_param {d : Document} (h : d.Loaded) {p : Param Node}
    (hp : p ∈ d.params) : d.scope.find? p.name = none := by
  obtain ⟨c, k, m, location, q, r, hr⟩ := h
  obtain ⟨g, hg, rfl⟩ := Loader.returns_loadWithin.mp hr
  obtain ⟨defs, imports, hd⟩ := hg.represents
  exact hd.unbound p hp

namespace Evaluator

variable {ev : Evaluator} {d : Document} {caller : Mapping} {target name : String}
  {naming? : Option NameScope} {path : Path} {env inner : Env} {s t : Sections}
  {vars : List (String × Bound)}

/-- What comes in the place of a name that a template binds: what the caller gives under the name, or
else a variable of the instance. -/
def replacement? (caller : Mapping) (front : List (String × Bound)) (name : String) :
    Option Bound :=
  ((Entries.find? name (Entries.ofPairs caller)).map Bound.value).or
    (Entries.find? name (Entries.ofPairs front))

theorem find?_undeclared (h : ∀ p ∈ d.params, p.name ≠ name) :
    Entries.find? name (Entries.ofPairs (undeclared d caller)) =
      (Entries.find? name (Entries.ofPairs caller)).map Bound.value := by
  have hp : (!d.params.any fun p => p.name == name) = true := by
    rw [Bool.not_eq_true', List.any_eq_false]
    intro p hp
    simpa using h p hp
  simp only [Entries.find?_ofPairs, undeclared, ← List.map_reverse, ← List.filter_reverse]
  rw [Entries.find?_map, Entries.find?_filter (p := fun k => !d.params.any fun p => p.name == k) hp]

theorem find?_own (front : List (String × Bound)) (hd : d.Loaded)
    (h : Returns (ev.bindParams d caller target naming? path env) s vars t)
    (hi : inner.scope = d.scope.extend 0 (front ++ vars)) {b : Bound}
    (hb : d.scope.find? name = some b) :
    inner.scope.find? name = some ((replacement? caller front name).getD b) := by
  have hparam : ∀ p ∈ d.params, p.name ≠ name := by
    rintro p hp rfl
    rw [hd.find?_param hp] at hb
    cases hb
  obtain ⟨defaults, declared, -, hdeclared, rfl⟩ := returns_bindParams.mp h
  have hnone : Entries.find? name (Entries.ofPairs declared) = none := by
    rw [Entries.find?_ofPairs, Entries.find?_eq_none_iff, Entries.keys, List.map_reverse,
      List.mem_reverse, ← Entries.keys, keys_of_assigned (forall₂_of_declaredParams hdeclared)]
    intro hm
    obtain ⟨p, hp, hname⟩ := List.mem_map.mp hm
    exact hparam p hp hname
  have hvars : Entries.find? name (Entries.ofPairs (front ++ (declared ++ undeclared d caller))) =
      replacement? caller front name := by
    rw [Entries.find?_ofPairs_append, Entries.find?_ofPairs_append, hnone, Option.or_none,
      find?_undeclared hparam, replacement?]
  rw [hi, Scope.find?_extend, hvars]
  cases replacement? caller front name with
  | none => exact hb
  | some b' => rfl

end Evaluator

def Document.KeepsOwn (d : Document) (inner : Env) : Prop :=
  ∀ name b, d.scope.find? name = some b → inner.scope.find? name = some b

structure Document.Layered (d : Document) (caller : Mapping) (front : List (String × Bound))
    (inner : Env) : Prop where
  own : ∀ name b, d.scope.find? name = some b →
    inner.scope.find? name = some ((Evaluator.replacement? caller front name).getD b)
  kept : d.KeepsOwn inner ↔ ∀ name b b', d.scope.find? name = some b →
    Evaluator.replacement? caller front name = some b' → b' = b

theorem Document.layered_of_own {d : Document} {caller : Mapping} {front : List (String × Bound)}
    {inner : Env} (h : ∀ name b, d.scope.find? name = some b →
      inner.scope.find? name = some ((Evaluator.replacement? caller front name).getD b)) :
    d.Layered caller front inner := by
  refine ⟨h, fun hkeeps name b b' hb hr => ?_, fun hsame name b hb => ?_⟩
  · have hfound := (h name b hb).symm.trans (hkeeps name b hb)
    rw [hr] at hfound
    exact Option.some.inj hfound
  · rw [h name b hb]
    cases hr : Evaluator.replacement? caller front name with
    | none => rfl
    | some b' => exact congrArg some (hsame name b b' hb hr)

/-- In the environment in which the body of a template is evaluated its own names are bound as the
template binds them, but for those that the caller gives and for that of the lead in an instance. -/
theorem own_names_kept_iff (ev : Evaluator) {d : Document} (hd : d.Loaded) (path : Path) (env : Env)
    (s : Sections) :
    (∀ template params name s₁, Returns (ev.templateDocument template path env) s (name, d) s₁ →
      ∀ n t, Returns (ev.expand template params path env) s n t →
        ∃ caller s₂ inner u out, Returns (ev.paramsMap params path env) s₁ caller s₂ ∧
          Returns (ev.map d.body path inner) u out t ∧ n = .map out ∧
          d.Layered caller [] inner) ∧
    ∀ name m template out t, Returns (ev.instantiate name m template d path env) s out t →
      ∃ i u v caller s₁ s₂, Returns (ev.instanceOf name m d path env) s i u ∧
        Returns (ev.instanceResources template i.body path env i.env) u out v ∧
        Returns (Sections.hoisted.forM (ev.hoist i.body path env i.env i.naming)) v () t ∧
        Returns (ev.instanceMap "Properties" m path env) s₁ caller s₂ ∧
        d.Layered caller [("Prefix", .value (.string i.naming.lead))] i.env := by
  constructor
  · intro template params name s₁ ht n t h
    simp only [Evaluator.expand, returns_bind, returns_pure] at h
    obtain ⟨⟨name', d'⟩, _, ht', caller, s₂, hc, vars, u, hb, inner, _, hi, out, _, hm, rfl, rfl⟩ := h
    obtain ⟨he, rfl⟩ := ht.unique ht'
    cases he
    obtain ⟨hinner, rfl⟩ := Eval.returns_ofExcept.mp hi
    have hscope := Evaluator.scope_of_enter hinner
    exact ⟨caller, s₂, inner, _, out, hc, hm, rfl,
      Document.layered_of_own fun _ _ => Evaluator.find?_own [] hd hb hscope⟩
  · intro name m template out t h
    obtain ⟨i, u, v, hi, hr, hh⟩ := Evaluator.returns_instantiate h
    have hi' := hi
    simp only [Evaluator.instanceOf, returns_bind, returns_pure] at hi'
    obtain ⟨own, _, -, overrides, s₁, -, caller, s₂, hc, vars, _, hb, inner, _, hinner, rfl, -⟩ :=
      hi'
    obtain ⟨hinner, -⟩ := Eval.returns_ofExcept.mp hinner
    have hscope := Evaluator.scope_of_enter hinner
    exact ⟨_, u, v, caller, s₁, s₂, hi, hr, hh, hc,
      Document.layered_of_own fun _ _ => Evaluator.find?_own [_] hd hb hscope⟩

section Example

open Evaluator (resourcesKey upTo)

def prefixTopicMap : Mapping := [("Type", .string "AWS::SNS::Topic"), ("Name", .tag (.lookup "Prefix"))]

def topicBody : Mapping :=
  [("Size", .tag (.lookup "size")), (resourcesKey, .map [("Topic", .map prefixTopicMap)])]

def topicDocument : Document :=
  ⟨"t.yaml", topicBody, [], .frame 2 [("Prefix", .value (.string "own"))]
    (.frame 1 [("size", .value (.ofNat 3))] .empty)⟩

def namedTopic (name : String) : Node :=
  .map [("Type", .string "AWS::SNS::Topic"), ("Name", .string name)]

def sizedTopic (size : Nat) : Mapping :=
  [("Size", .ofNat size), (resourcesKey, .map [("Topic", namedTopic "own")])]

def topicEnv : Env :=
  Env.root (.frame 9 [("t", .value (.document topicDocument))] .empty) "root.yaml" 5

theorem loaded_topicDocument : topicDocument.Loaded := by
  refine ⟨⟨upTo 2, fun _ _ _ => .error (.notFound ""), 5⟩, 1,
    [(defsKey, .map [("size", .ofNat 3), ("Prefix", .string "own")]), (paramsKey, .seq [])] ++
      topicBody, "t.yaml", .start, ⟨[], [], 3⟩, ?_⟩
  with_unfolding_all exact rfl

def topicInstance : Instance where
  body := topicBody
  naming := ⟨"A", []⟩
  env := ⟨topicDocument.scope.extend 0 [("Prefix", .value (.string "A"))],
    [⟨"root.yaml", Path.root⟩, ⟨"t.yaml", Path.root⟩], some ⟨"A", []⟩, "t.yaml", 1, 5⟩

theorem returns_topicInstance :
    Returns ((upTo 6).instanceOf "A" [("Type", .string "t")] topicDocument Path.root
      topicEnv) [] topicInstance [] := by
  with_unfolding_all exact rfl

theorem keepsOwn_topicDocument {front : List (String × Bound)} {inner : Env}
    (hl : topicDocument.Layered [] front inner) (hf : Entries.find? "size" front.reverse = none)
    (hp : Entries.find? "Prefix" front.reverse = none) : topicDocument.KeepsOwn inner := by
  refine hl.kept.mpr fun name b b' hb hr => ?_
  rw [Evaluator.replacement?, Entries.find?_ofPairs _ front] at hr
  have hname : name = "size" ∨ name = "Prefix" := by
    by_contra hne
    rw [not_or] at hne
    simp [topicDocument, Scope.find?, Entries.find?_cons, hne.1, hne.2] at hb
  rcases hname with rfl | rfl
  · simp [Entries.ofPairs, Entries.putAll, hf] at hr
  · simp [Entries.ofPairs, Entries.putAll, hp] at hr

theorem own_names_kept_iff_topic :
    (∃ inner u, topicDocument.KeepsOwn inner ∧
      Returns ((upTo 6).map topicBody Path.root inner) u (sizedTopic 3) []) ∧
    topicDocument.Layered [] [("Prefix", .value (.string "A"))] topicInstance.env := by
  obtain ⟨hexpand, hinstance⟩ :=
    own_names_kept_iff (.upTo 6) loaded_topicDocument Path.root topicEnv []
  constructor
  · have ht : Returns ((upTo 6).templateDocument (.string "t") Path.root topicEnv) []
        ("t", topicDocument) [] := by
      with_unfolding_all exact rfl
    have hn : Returns ((upTo 6).expand (.string "t") .null Path.root topicEnv) []
        (.map (sizedTopic 3)) [] := by
      with_unfolding_all exact rfl
    have hc : Returns ((upTo 6).paramsMap .null Path.root topicEnv) [] [] [] := by
      with_unfolding_all exact rfl
    obtain ⟨caller, _, inner, u, out, hc', hbody, hout, hlayered⟩ := hexpand _ _ _ _ ht _ _ hn
    obtain ⟨rfl, -⟩ := hc.unique hc'
    cases hout
    exact ⟨inner, u, keepsOwn_topicDocument hlayered rfl rfl, hbody⟩
  · have ht : Returns ((upTo 6).instantiate "A" [("Type", .string "t")] "t" topicDocument
        Path.root topicEnv) [] [("ATopic", namedTopic "A")] [] := by
      with_unfolding_all exact rfl
    obtain ⟨i, u, v, caller, s₁, s₂, hi, -, -, hc, hlayered⟩ := hinstance _ _ _ _ _ ht
    obtain ⟨rfl, -⟩ := returns_topicInstance.unique hi
    obtain ⟨rfl, -⟩ := returns_pure.mp hc
    exact hlayered

theorem own_names_replaced :
    topicDocument.Loaded ∧
      topicDocument.scope.find? "size" = some (.value (.ofNat 3)) ∧
      topicDocument.scope.find? "Prefix" = some (.value (.string "own")) ∧
      Returns ((upTo 6).expand (.string "t") (.map [("size", .ofNat 99)]) Path.root topicEnv) []
        (.map (sizedTopic 99)) [] ∧
      (∀ inner s t, Returns (Evaluator.enterTemplate topicDocument [("size", .value (.ofNat 99))]
        Path.root topicEnv) s inner t → ¬topicDocument.KeepsOwn inner) ∧
      Returns ((upTo 6).instantiate "A" [("Type", .string "t")] "t" topicDocument Path.root
        topicEnv) [] [("ATopic", namedTopic "A")] [] ∧
      ¬topicDocument.KeepsOwn topicInstance.env := by
  refine ⟨loaded_topicDocument, rfl, rfl, ?_, fun inner s t h hkeeps => ?_, ?_, fun hkeeps => ?_⟩
  · with_unfolding_all exact rfl
  · obtain ⟨hinner, -⟩ := Eval.returns_ofExcept.mp h
    have hsize := hkeeps "size" _ rfl
    rw [Evaluator.scope_of_enter hinner] at hsize
    have hgiven : (topicDocument.scope.extend 0 [("size", .value (.ofNat 99))]).find? "size" =
        some (.value (.ofNat 99)) := rfl
    rw [hgiven] at hsize
    cases hsize
  · with_unfolding_all exact rfl
  · have hprefix := hkeeps "Prefix" _ rfl
    have hlead : topicInstance.env.scope.find? "Prefix" = some (.value (.string "A")) := rfl
    rw [hlead] at hprefix
    simp at hprefix

end Example

end InfraTemplate
