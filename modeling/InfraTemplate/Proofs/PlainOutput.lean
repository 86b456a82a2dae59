import InfraTemplate.Proofs.PlainLoading

namespace InfraTemplate

variable {options : Options} {resolver : Resolver} {host location : String} {k : Nat} {root : Node}
  {t : Transformed} {p : Progress}

/-- Where no lookup names a definition that is itself a document, and nothing is escaped that is
still to be evaluated, nothing in the output is still to be evaluated. -/
theorem output_plain (hresolver : resolver.Plain) (hroot : root.Written)
    (ht : Returns (Setting.transform ⟨options, resolver, host, .guarded (fun _ => false) k⟩ root
      location) .start t p) :
    Returns (Setting.transform ⟨options, resolver, host, .upTo k⟩ root location) .start t p ∧
      t.document.isPlain = true :=
  Purity.Loads.unguarded
    (f := fun ev => Setting.transform ⟨options, resolver, host, ev⟩ root location)
    (Purity.loads_transform (h := fun _ => rfl) hresolver hroot) ht

def nestedDefinition (use : Node) : Node :=
  .map [(defsKey, .map [("n", .map [(defsKey, .map [("y", .bool true)]), ("x", .tag (.lookup "y"))])]),
    ("out", use)]

theorem written_nestedDefinition {use : Node} (h : use.Written) :
    (nestedDefinition use).Written := by
  have ht : (Node.bool true).Written := Node.written_scalar rfl
  simp [nestedDefinition, Node.written_map, Node.written_tag, Tag.parts, ht, h]

theorem output_plain_expansion :
    Returns (Setting.transform ⟨.standard, World.empty.resolver, "", .upTo 4⟩
        (nestedDefinition (.tag (.expand (.tag (.lookup "n")) (.map [])))) "a.yaml") .start
        ⟨.map [("out", .map [("x", .bool true)])], []⟩ ⟨[], [], 3⟩ ∧
      (Node.map [("out", .map [("x", .bool true)])]).isPlain = true := by
  refine output_plain World.empty.plain_resolver (written_nestedDefinition ?_) ?_
  · simp [Node.written_map, Node.written_tag, Tag.parts]
  · with_unfolding_all exact rfl

theorem output_unplain_lookup :
    Returns (Setting.transform ⟨.standard, World.empty.resolver, "", .upTo 4⟩
        (nestedDefinition (.tag (.lookup "n.x"))) "a.yaml") .start
        ⟨.map [("out", .tag (.lookup "y"))], []⟩ ⟨[], [], 3⟩ ∧
      (Node.map [("out", .tag (.lookup "y"))]).isPlain = false := by
  refine ⟨?_, rfl⟩
  with_unfolding_all exact rfl

end InfraTemplate
