import InfraTemplate.Proofs.PlainLoading

namespace InfraTemplate

def isOutward (key : String) : Bool := !isBookkeeping key

def isFixed (key : String) : Bool := isOutward key && !Interpolation.hasPlaceholders key

namespace Node

def isConstruct : Node → Bool
  | tag _ => true
  | _ => false

theorem isPlainBut_everything (n : Node) : n.isPlainBut (fun _ => true) (fun _ => true) = true := by
  induction n using of_parts with
  | step n ih =>
    cases n with
    | null | bool _ | number _ | string _ => exact isPlainBut_scalar rfl
    | seq xs => exact isPlainBut_seq.mpr fun x hx => ih x hx
    | map m => exact isPlainBut_map.mpr fun e he => ⟨rfl, ih e.2 (mem_parts_map he)⟩
    | tag _ | document _ => rfl

theorem isPlainBut_mono {spared : Node → Bool} {key key' : String → Bool}
    (hk : ∀ k, key k = true → key' k = true) {n : Node} (h : n.isPlainBut spared key = true) :
    n.isPlainBut spared key' = true := by
  induction n using of_parts with
  | step n ih =>
    cases n with
    | null | bool _ | number _ | string _ => exact isPlainBut_scalar rfl
    | seq xs => exact isPlainBut_seq.mpr fun x hx => ih x hx (isPlainBut_seq.mp h x hx)
    | map m =>
      refine isPlainBut_map.mpr fun e he => ?_
      obtain ⟨hkey, hv⟩ := isPlainBut_map.mp h e he
      exact ⟨hk _ hkey, ih e.2 (mem_parts_map he) hv⟩
    | tag _ | document _ => exact h

structure Settled (n : Node) : Prop where
  undocumented : n.kind ≠ .document
  keys : ¬n.ComputesKeys
  text : ∀ m, n ≠ tag (.apply .parseYaml m)
  escaped : ∀ m, n = tag (.apply .escape m) → m.isPlainBut isConstruct isFixed = true

theorem settled_of_kind {n : Node} (hd : n.kind ≠ .document) (ht : n.kind ≠ .tag)
    (hk : ¬n.ComputesKeys) : n.Settled where
  undocumented := hd
  keys := hk
  text m he := absurd (by rw [he, kind]) ht
  escaped m he := absurd (by rw [he, kind]) ht

end Node

namespace Purity

def fixed : Purity where
  spared := Node.isConstruct
  key := isFixed
  here := Node.Settled
  spared_document _ := rfl
  key_plain hb hp := by simp [isFixed, isOutward, hb, hp]
  here_scalar {n} h := by
    cases n with
    | null | bool _ | number _ | string _ =>
      exact Node.settled_of_kind (by simp [Node.kind]) (by simp [Node.kind]) id
    | seq _ | map _ | tag _ | document _ => cases h
  here_seq _ := Node.settled_of_kind (by simp [Node.kind]) (by simp [Node.kind]) id
  here_map h := by
    refine Node.settled_of_kind (by simp [Node.kind]) (by simp [Node.kind]) ?_
    rintro ⟨key, hkey, hp⟩
    obtain ⟨e, he, rfl⟩ := List.mem_map.mp hkey
    simpa [isFixed, hp] using h e he
  key_computed h hc := absurd hc h.keys
  key_of_document h := absurd rfl h.undocumented
  parsed h := absurd rfl (h.text _)

theorem permits_of_settled {n : Node} {e : Env} (he : fixed.Within e) (hn : fixed.Source n) :
    fixed.regime.Permits n fun _ => e where
  lookup expr _ hs := by
    obtain ⟨head, rest, d, -, hf⟩ := Env.shares_eq_true.mp hs
    cases he.1.found hf with
    | value _ hd => exact hd.here.undocumented rfl
  escape payload hp := by
    subst hp
    exact ⟨hn.here.escaped payload rfl, hn.part (List.mem_singleton_self _)⟩

theorem obeys_fixed (k : Nat) : fixed.regime.Obeys fun _ => Evaluator.upTo k := by
  have h := fixed.obeys (fun _ _ => true) (fun he hn _ => permits_of_settled he hn) k
  simpa only [Bool.cond_self, Evaluator.watched_true] using h

end Purity

section

variable {c : Setting} {location : String} {k : Nat} {m : Mapping} {root : Node} {t : Transformed}
  {p q : Progress}

theorem outward_of_not_bookkeeping (key : String) (h : isBookkeeping key = false) :
    isOutward key = true := by
  rw [isOutward, h, Bool.not_false]

theorem Setting.outward_transformMap (ht : Returns (c.transformMap m location) p t q) :
    t.document.isPlainBut (fun _ => true) isOutward = true := by
  simp only [transformMap, returns_bind, returns_get, returns_pure] at ht
  obtain ⟨d, _, -, body, _, -, _, _, ⟨rfl, rfl⟩, rfl, rfl⟩ := ht
  exact Node.isPlainBut_strip outward_of_not_bookkeeping _ (Node.isPlainBut_everything _)

theorem Setting.fixed_transform {options : Options} {resolver : Resolver} {host : String}
    (hm : ∀ m, root ≠ .map m) (hroot : root.Throughout Node.Settled fun _ => True)
    (ht : Returns (transform ⟨options, resolver, host, .upTo k⟩ root location) p t q) :
    t.document.isPlainBut Node.isConstruct isFixed = true := by
  have hsource : Purity.fixed.Source root := hroot.undocumented fun _ h => ⟨h, h.undocumented⟩
  have hcall : Purity.fixed.regime.Call root fun _ => Env.root .empty location options.limit :=
    ⟨_, ⟨Purity.within_root .empty, hsource⟩, rfl⟩
  have hsound : Purity.fixed.Sound p.sections := fun hk => absurd (hk importsKey) (by decide)
  unfold transform at ht
  split at ht
  · exact absurd rfl (hm _)
  · simp only [returns_bind, Load.returns_ofEval, returns_pure] at ht
    obtain ⟨n, _, ⟨s, hn, rfl⟩, rfl, rfl⟩ := ht
    obtain ⟨_, _, ⟨n, hv, rfl⟩, -, hall⟩ :=
      (((Purity.obeys_fixed k).node hcall ⟨_, rfl⟩) _ ⟨_, hsound, rfl⟩).1 _ _ hn
    obtain ⟨rfl, -⟩ := hn.unique (hall false)
    exact hv.1

end

/-- The output has no keys of declarations. Of a map it has none outside constructs and documents,
and none at all where no lookup names a definition that is a document; there are no documents then,
and constructs only where they were escaped. Of anything else it has none if that is settled. -/
theorem output_keys_outward {options : Options} {resolver : Resolver} {host location : String}
    {t : Transformed} :
    (∀ m ev p q,
      Returns (Setting.transform ⟨options, resolver, host, ev⟩ (.map m) location) p t q →
        t.document.isPlainBut (fun _ => true) isOutward = true) ∧
    (∀ m k q, resolver.Plain → (Node.map m).Written →
      Returns (Setting.transform ⟨options, resolver, host, .guarded Node.isConstruct k⟩ (.map m)
        location) .start t q →
      Returns (Setting.transform ⟨options, resolver, host, .upTo k⟩ (.map m) location) .start t q ∧
        t.document.isPlainBut Node.isConstruct isOutward = true) ∧
    ∀ root k p q, (∀ m, root ≠ .map m) → root.Throughout Node.Settled (fun _ => True) →
      Returns (Setting.transform ⟨options, resolver, host, .upTo k⟩ root location) p t q →
        t.document.isPlainBut Node.isConstruct isOutward = true := by
  refine ⟨fun m ev p q ht => ?_, fun m k q hresolver hm ht => ?_, fun root k p q hroot hs ht => ?_⟩
  · exact Setting.outward_transformMap ht
  · exact Purity.Loads.unguarded
      (f := fun ev => Setting.transform ⟨options, resolver, host, ev⟩ (.map m) location)
      (Purity.loads_transformMap (h := fun _ => rfl) hresolver outward_of_not_bookkeeping hm) ht
  · refine Node.isPlainBut_mono (fun key hkey => ?_) (Setting.fixed_transform hroot hs ht)
    exact (Bool.and_eq_true_iff.mp hkey).1

def declaring : Node := .map [(defsKey, .map [("y", .bool true)]), ("out", .tag (.lookup "y"))]

theorem written_declaring : declaring.Written := by
  have htrue : (Node.bool true).Written := Node.written_scalar rfl
  simp [declaring, Node.written_map, Node.written_tag, Tag.parts, htrue]

def undeclaring : Node := .seq [.map [(defsKey, .bool true), ("x", .bool true)]]

theorem settled_undeclaring : undeclaring.Throughout Node.Settled fun _ => True := by
  have leaf : (Node.bool true).Throughout Node.Settled fun _ => True :=
    Node.throughout_of_scalar rfl (Purity.fixed.here_scalar rfl)
  have keys : ¬(Node.map [(defsKey, .bool true), ("x", .bool true)]).ComputesKeys := by
    rintro ⟨key, hkey, hp⟩
    rcases List.mem_pair.mp hkey with rfl | rfl
    · exact absurd hp (by decide)
    · exact absurd hp (by decide)
  have items : (Node.map [(defsKey, .bool true), ("x", .bool true)]).Settled :=
    Node.settled_of_kind (by simp [Node.kind]) (by simp [Node.kind]) keys
  refine Node.throughout_seq.mpr ⟨Purity.fixed.here_seq _, fun n hn => ?_⟩
  obtain rfl := List.mem_singleton.mp hn
  refine Node.throughout_map.mpr ⟨items, fun e he => ?_⟩
  rcases List.mem_pair.mp he with rfl | rfl
  · exact leaf
  · exact leaf

theorem output_keys_outward_definition :
    (Node.map [("out", .bool true)]).isPlainBut (fun _ => true) isOutward = true ∧
    (Returns (Setting.transform ⟨.standard, World.empty.resolver, "", .upTo 2⟩ declaring "a.yaml")
        .start ⟨.map [("out", .bool true)], []⟩ ⟨[], [], 2⟩ ∧
      (Node.map [("out", .bool true)]).isPlainBut Node.isConstruct isOutward = true) ∧
    (Node.seq [.map [("x", .bool true)]]).isPlainBut Node.isConstruct isOutward = true := by
  have hmap : Returns
      (Setting.transform ⟨.standard, World.empty.resolver, "", .guarded Node.isConstruct 2⟩
        declaring "a.yaml") .start ⟨.map [("out", .bool true)], []⟩ ⟨[], [], 2⟩ := by
    with_unfolding_all exact rfl
  have hseq : Returns (Setting.transform ⟨.standard, World.empty.resolver, "", .upTo 3⟩
      undeclaring "a.yaml") .start ⟨.seq [.map [("x", .bool true)]], []⟩ .start := by
    with_unfolding_all exact rfl
  have hroot (m : Mapping) : undeclaring ≠ .map m := by
    simp [undeclaring]
  exact ⟨output_keys_outward.1 _ _ _ _ hmap,
    output_keys_outward.2.1 _ _ _ World.empty.plain_resolver written_declaring hmap,
    output_keys_outward.2.2 undeclaring _ _ _ hroot settled_undeclaring hseq⟩

def importsPairs : Node := .seq [.seq [.string importsKey, .bool true]]

theorem importsPairs_stay (path : Path) (env : Env) :
    (Evaluator.upTo 3).node importsPairs path env = pure importsPairs := by
  have hk : Interpolation.hasPlaceholders importsKey = false := by decide
  simp [importsPairs, Evaluator.upTo, Evaluator.step, Evaluator.items, Evaluator.interpolated, hk]

theorem output_keys_inward :
    (Returns (Setting.transform ⟨.standard, World.empty.resolver, "", .upTo 4⟩
        (.tag (.apply .fromPairs importsPairs)) "a.yaml") .start
        ⟨.map [(importsKey, .bool true)], []⟩ .start ∧
      (Node.map [(importsKey, .bool true)]).isPlainBut (fun _ => true) isOutward = false) ∧
    Returns (Setting.transform ⟨.standard, World.empty.resolver, "", .upTo 2⟩
      (.map [(defsKey, .map [("n", .map [(paramsKey, .null), ("x", .map [(defsKey, .null)])])]),
        ("out", .tag (.lookup "n"))]) "a.yaml") .start
      ⟨.map [("out", .document ⟨"a.yaml", [("x", .map [(defsKey, .null)])], [], .empty⟩)], []⟩
      ⟨[], [], 2⟩ := by
  refine ⟨⟨?_, rfl⟩, ?_⟩
  · refine returns_bind.mpr ⟨_, _, Load.returns_ofEval.mpr ⟨[], ?_, rfl⟩,
      returns_pure.mpr ⟨rfl, rfl⟩⟩
    change Returns ((Evaluator.upTo 3).fromPairs importsPairs _ _) [] _ []
    rw [Evaluator.fromPairs, Evaluator.sequence, importsPairs_stay]
    rfl
  · with_unfolding_all exact rfl

end InfraTemplate
