import InfraTemplate.Proofs.HoistedSections

namespace InfraTemplate

open Evaluator

namespace Evaluator

variable {ev : Evaluator} {k : Nat} {s t : Sections} {path : Path} {env : Env} {name : String}

theorem returns_string_eq {v : Node} (hp : Interpolation.hasPlaceholders name = false)
    (h : Returns ((upTo k).node (.string name) path env) s v t) : v = .string name := by
  cases k with
  | zero => exact absurd h Eval.returns_unfinished
  | succ k =>
    have hs : Returns ((upTo k).step (.string name) path env) s v t := h
    simp only [step, interpolated, hp, returns_bind, returns_pure] at hs
    obtain ⟨_, _, ⟨rfl, rfl⟩, rfl, -⟩ := hs
    rfl

theorem returns_seq_head {xs : List Node} {v : Node}
    (hp : Interpolation.hasPlaceholders name = false)
    (h : Returns ((upTo k).node (.seq (.string name :: xs)) path env) s v t) :
    ∃ ys, v = .seq (.string name :: ys) := by
  cases k with
  | zero => exact absurd h Eval.returns_unfinished
  | succ k =>
    have hs : Returns ((upTo k).step (.seq (.string name :: xs)) path env) s v t := h
    simp only [step, items, List.zipIdx_cons, returns_bind, returns_pure, returns_mapM_cons] at hs
    obtain ⟨_, _, ⟨x, _, ys, hx, -, rfl⟩, rfl, -⟩ := hs
    exact ⟨ys, by rw [returns_string_eq hp hx]⟩

theorem returns_intrinsic {f : Intrinsic} {n v : Node}
    (h : Returns ((upTo k).node (.tag (.apply (.intrinsic f) n)) path env) s v t) :
    ∃ l x, k = l + 1 ∧ Returns ((upTo l).node n path env) s x t ∧ v = .map [(f.longName, x)] := by
  cases k with
  | zero => exact absurd h Eval.returns_unfinished
  | succ l =>
    have hs : Returns ((upTo l).operation (.intrinsic f) n path env) s v t := h
    simp only [operation, returns_bind, returns_pure] at hs
    obtain ⟨x, _, hx, rfl, rfl⟩ := hs
    exact ⟨l, x, rfl, hx, rfl⟩

theorem returns_map_entry {entries : Mapping} {n v : Node} (hm : (name, n) ∈ entries)
    (hb : isBookkeeping name = false) (hg : isMergeKey name = false)
    (hp : Interpolation.hasPlaceholders name = false)
    (h : Returns ((upTo k).node (.map entries) path env) s v t) :
    ∃ values x, v = .map values ∧ Entries.find? name values = some x := by
  cases k with
  | zero => exact absurd h Eval.returns_unfinished
  | succ k =>
    have hs : Returns ((upTo k).step (.map entries) path env) s v t := h
    simp only [step, returns_bind, returns_pure] at hs
    obtain ⟨values, _, hv, rfl, -⟩ := hs
    obtain ⟨cs, hcs, rfl⟩ := returns_map.mp hv
    obtain ⟨_, c, _, -, hc, hmem⟩ := reaches_of_mem hcs hm
    obtain ⟨x, rfl⟩ := entry_of_mapEntry hb hg hp hc
    have hkey : name ∈ Entries.keys (Contribution.assemble cs) :=
      Contribution.mem_keys_assemble.mpr ⟨_, hmem, List.mem_singleton.mpr rfl⟩
    obtain ⟨x, hx⟩ := Option.isSome_iff_exists.mp (Entries.has_iff.mpr hkey)
    exact ⟨_, x, rfl, hx⟩

theorem literal_names {entry emitted key : String} {m body : Mapping} {resource names : Node}
    {place : List Nat} {naming : NameScope} (hn : env.naming? = some naming)
    (hkey : Resource.nameKeys.contains key = true)
    (hl : Returns (ev.literal entry m path env) s (emitted, resource) t)
    (hm : Returns (ev.map (Sections.takeGlobal m).1 path env) s body t)
    (hf : Entries.find? key body = some names) (hp : names.textAt? place = some name) :
    ∃ attributes names', resource = .map attributes ∧ Entries.find? key attributes = some names' ∧
      names'.textAt? place = some (naming.qualify name) := by
  obtain ⟨body', hm', -, rfl⟩ := literal_spec hl
  obtain ⟨rfl, -⟩ := hm.unique hm'
  refine ⟨_, Resource.qualifyNames env names, rfl, ?_, ?_⟩
  · rw [Resource.find?_qualifyNamed hn, hf, hkey]
    rfl
  · rw [Resource.textAt?_qualifyNames, hp, ← Env.qualify_of_naming hn]
    rfl

end Evaluator

namespace Sections

theorem mem_keys_addEntries {naming : NameScope} {target entries : Mapping} {name : String}
    {n : Node} (h : Entries.find? name entries = some n) :
    emittedName naming name n ∈ Entries.keys (addEntries naming target entries) := by
  have hname : (emitted naming (name, n)).1 = emittedName naming name n :=
    congrArg Prod.fst (emitted_eq naming (name, n))
  rw [addEntries_eq]
  refine Entries.mem_keys_putAll.mpr (.inr ?_)
  exact List.mem_map.mpr ⟨_, List.mem_map_of_mem (Entries.mem_of_find? h), hname⟩

theorem mem_keys_fold {s t : Sections} {cs : List Addition} {heading name : String}
    {values : Mapping} {naming : NameScope} {v : Node} (hh : heading ≠ transformSection)
    (hs : addAll [] cs = .ok s) (h : fold s heading (.map values) naming = .ok t)
    (hv : Entries.find? name values = some v) :
    ∃ folded, Entries.find? heading t = some (.map folded) ∧
      emittedName naming name v ∈ Entries.keys folded := by
  have hnil : (Entries.find? heading ([] : Sections)).getD (.map []) = .map [] := rfl
  have hsection := section_addAll hh hnil hs
  rw [fold, if_neg hh] at h
  simp only [hsection] at h
  cases h
  exact ⟨_, Entries.find?_put_self .., mem_keys_addEntries hv⟩

end Sections

theorem writtenName_eq_self {owns : List String} {i : Instance} {name : String} :
    writtenName owns i name = name ↔
      isPseudo name = true ∨ name ∈ Resource.exemptNames i.body ∨ String.join owns = "" := by
  unfold writtenName
  split
  · rename_i h
    rcases h with h | h
    · exact iff_of_true rfl (.inl h)
    · exact iff_of_true rfl (.inr (.inl h))
  · rename_i h
    obtain ⟨hp, hx⟩ := not_or.mp h
    rw [← String.toList_inj, String.toList_append, ← String.toList_inj]
    simp [hp, hx]

/-- A condition or a mapping of an instance is folded under the name that the condition of a resource
comes to, unless only its evaluation marks it as global. The operands of intrinsics keep the name as
it is written, so they name the entry only where the name does not change. -/
theorem section_names {owns : List String} {i : Instance} (h : Nested owns i)
    {heading name : String} {entries : Mapping} {n : Node}
    (hh : heading = "Conditions" ∨ heading = "Mappings")
    (hs : Entries.find? heading i.body = some (.map entries))
    (hm : Entries.find? name entries = some n) (hb : isBookkeeping name = false)
    (hg : isMergeKey name = false) (hp : Interpolation.hasPlaceholders name = false) :
    (∀ k path outer u t,
      Returns (Sections.hoisted.forM ((upTo k).hoist i.body path outer i.env i.naming)) u () t →
        ∃ value s t', i.Folds k path outer u heading value s t') ∧
    (∀ k path outer u value s t, i.Folds k path outer u heading value s t →
      ∃ values v, value = .map values ∧ Entries.find? name values = some v ∧
        (∀ cs, Sections.addAll [] cs = .ok s → ∃ folded,
          Entries.find? heading t = some (.map folded) ∧
            Sections.emittedName i.naming name v ∈ Entries.keys folded) ∧
        ((Sections.isGlobal v = true → Sections.isGlobal n = true) →
          Sections.emittedName i.naming name v = writtenName owns i name)) ∧
    (∀ env, i.Within env → ∀ k entry emitted m body resource names place path s t,
      Returns ((upTo k).literal entry m path env) s (emitted, resource) t →
      Returns ((upTo k).map (Sections.takeGlobal m).1 path env) s body t →
      Entries.find? "Condition" body = some names → names.textAt? place = some name →
      ∃ attributes names', resource = .map attributes ∧
        Entries.find? "Condition" attributes = some names' ∧
          names'.textAt? place = some (writtenName owns i name)) ∧
    (∀ (f : Intrinsic) env k path s t v,
      (Returns ((upTo k).node (.tag (.apply (.intrinsic f) (.string name))) path env) s v t →
        v = .map [(f.longName, .string name)]) ∧
      ∀ xs, Returns ((upTo k).node (.tag (.apply (.intrinsic f) (.seq (.string name :: xs)))) path
          env) s v t →
        ∃ ys, v = .map [(f.longName, .seq (.string name :: ys))]) ∧
    (writtenName owns i name = name ↔
      isPseudo name = true ∨ name ∈ Resource.exemptNames i.body ∨ String.join owns = "") := by
  have hmem := Entries.mem_of_find? hm
  have hhoisted : heading ∈ Sections.hoisted ∧ heading ∈ Resource.exemptSections ∧
      heading ≠ Sections.transformSection := by
    rcases hh with rfl | rfl <;> decide
  obtain ⟨hin, hexempt, hne⟩ := hhoisted
  refine ⟨?_, ?_, ?_, ?_, writtenName_eq_self⟩
  · intro k path outer u t hr
    have hkey : heading ∈ Entries.keys i.body := List.mem_map_of_mem (Entries.mem_of_find? hs)
    exact Instance.folds_of_hoisted hr hin hkey
  · rintro k path outer u value s t ⟨before, after, n', w, -, -, hf, hv, hfold⟩
    rw [hs] at hf
    cases hf
    obtain ⟨values, v, rfl, hfind⟩ := returns_map_entry hmem hb hg hp hv
    refine ⟨values, v, rfl, hfind, fun cs hcs => ?_, fun hmark => ?_⟩
    · exact Sections.mem_keys_fold hne hcs hfold hfind
    · rw [Sections.emittedName]
      split
      · rename_i hglobal
        have hname : name ∈ Resource.exemptNames i.body :=
          mem_exemptNames.mpr ⟨heading, hexempt, entries, n, hs, hmem, hmark hglobal⟩
        rw [writtenName, if_pos (.inr hname)]
      · exact h.qualify_eq name
  · intro env henv k entry emitted m body resource names place path s t hl hbody hf hplace
    rw [← h.qualify_eq]
    exact literal_names (henv.naming?_eq h.naming_eq.2) (by decide) hl hbody hf hplace
  · intro f env k path s t v
    constructor
    · intro hr
      obtain ⟨l, x, -, hx, rfl⟩ := returns_intrinsic hr
      rw [returns_string_eq hp hx]
    · intro xs hr
      obtain ⟨l, x, -, hx, rfl⟩ := returns_intrinsic hr
      obtain ⟨ys, rfl⟩ := returns_seq_head hp hx
      exact ⟨ys, rfl⟩

section Example

def intrinsic (f : Intrinsic) (n : Node) : Node := .tag (.apply (.intrinsic f) n)

def texts (names : List String) : Node := .seq (names.map .string)

def prodProperties : Node :=
  .map [("Tier", intrinsic .if (texts ["IsProd", "a", "b"])),
    ("Size", intrinsic .findInMap (texts ["Sizes", "a", "b"]))]

def prodBucket : Mapping :=
  bucketMap ++ [("Condition", .string "IsProd"), ("Properties", prodProperties)]

def prodBody : Mapping :=
  [("Conditions", .map [("IsProd", intrinsic .equals (texts ["a", "a"])),
      ("IsTest", intrinsic .not (.seq [intrinsic .condition (.string "IsProd")]))]),
    ("Mappings", .map [("Sizes", .map [("a", .map [("b", .string "c")])])]),
    ("Resources", .map [("Bucket", .map prodBucket)])]

def prodInstance : Instance where
  body := prodBody
  naming := ⟨"Logs", []⟩
  env := ⟨.frame 0 [("Prefix", .value (.string "Logs"))] .empty,
    [⟨"root.yaml", "Root"⟩, ⟨"t.yaml", "Root.Resources.Logs"⟩], some ⟨"Logs", []⟩, "t.yaml", 1, 50⟩

def prodDocument : Document := ⟨"t.yaml", prodBody, [], .empty⟩

theorem nested_prod : Nested ["Logs"] prodInstance :=
  @Nested.outermost 0 "Logs" "Logs" typeT prodDocument "Root.Resources.Logs" siteEnv prodInstance
    [] [] [] rfl rfl rfl

def emittedProperties : Node :=
  .map [("Tier", .map [("Fn::If", texts ["IsProd", "a", "b"])]),
    ("Size", .map [("Fn::FindInMap", texts ["Sizes", "a", "b"])])]

def emittedBucket : Mapping :=
  bucketMap ++ [("Condition", .string "LogsIsProd"), ("Properties", emittedProperties)]

def evaluatedConditions : Node :=
  .map [("IsProd", .map [("Fn::Equals", texts ["a", "a"])]),
    ("IsTest", .map [("Fn::Not", .seq [.map [("Condition", .string "IsProd")]])])]

def foldedMappings : String × Node :=
  ("Mappings", .map [("LogsSizes", .map [("a", .map [("b", .string "c")])])])

def foldedConditions : String × Node :=
  ("Conditions", .map [("LogsIsProd", .map [("Fn::Equals", texts ["a", "a"])]),
    ("LogsIsTest", .map [("Fn::Not", .seq [.map [("Condition", .string "IsProd")]])])])

theorem section_names_prod :
    prodInstance.Folds 5 "Root.Resources.Logs" siteEnv [] "Conditions" evaluatedConditions
        [foldedMappings] [foldedMappings, foldedConditions] ∧
      (∃ folded, Entries.find? "Conditions" [foldedMappings, foldedConditions] = some (.map folded) ∧
        "LogsIsProd" ∈ Entries.keys folded) ∧
      Returns ((upTo 5).literal "Bucket" prodBucket "Root.Bucket" prodInstance.env) []
        ("LogsBucket", .map emittedBucket) [] ∧
      ∃ attributes names, Node.map emittedBucket = .map attributes ∧
        Entries.find? "Condition" attributes = some names ∧ names.textAt? [] = some "LogsIsProd" := by
  have hdeclared : Entries.find? "IsProd" [("IsProd", intrinsic .equals (texts ["a", "a"])),
      ("IsTest", intrinsic .not (.seq [intrinsic .condition (.string "IsProd")]))] =
        some (intrinsic .equals (texts ["a", "a"])) := rfl
  obtain ⟨-, hfolded, hcondition, -⟩ := section_names nested_prod (.inl rfl) rfl hdeclared
    (by decide) (by decide) (by decide)
  have hwritten : writtenName ["Logs"] prodInstance "IsProd" = "LogsIsProd" := by decide
  have hf : prodInstance.Folds 5 "Root.Resources.Logs" siteEnv [] "Conditions" evaluatedConditions
      [foldedMappings] [foldedMappings, foldedConditions] :=
    ⟨["Parameters", "Metadata", "Mappings"], ["Transform", "Outputs"], _, [foldedMappings],
      rfl, rfl, rfl, rfl, rfl⟩
  have hl : Returns ((upTo 5).literal "Bucket" prodBucket "Root.Bucket" prodInstance.env) []
      ("LogsBucket", .map emittedBucket) [] := rfl
  have hbody : Returns ((upTo 5).map prodBucket "Root.Bucket" prodInstance.env) [] (bucketMap ++
      [("Condition", .string "IsProd"), ("Properties", emittedProperties)]) [] := rfl
  refine ⟨hf, ?_, hl, ?_⟩
  · obtain ⟨values, v, hvalues, hv, hkey, hname⟩ := hfolded _ _ _ _ _ _ _ hf
    cases hvalues
    cases hv
    obtain ⟨folded, hfind, hmem⟩ := hkey
      [⟨"Mappings", .map [("Sizes", .map [("a", .map [("b", .string "c")])])], ⟨"Logs", []⟩⟩] rfl
    rw [hname fun hmarked => Bool.noConfusion hmarked, hwritten] at hmem
    exact ⟨folded, hfind, hmem⟩
  · rw [hwritten] at hcondition
    exact hcondition prodInstance.env .own 5 "Bucket" "LogsBucket" prodBucket _ _ _ [] _ _ _ hl
      hbody rfl rfl

theorem section_names_differ :
    Nested ["Logs"] prodInstance ∧
      Returns ((upTo 5).instantiate "Logs" typeT "t" prodDocument "Root.Resources.Logs" siteEnv) []
        [("LogsBucket", .map emittedBucket)] [foldedMappings, foldedConditions] ∧
      Entries.find? "Properties" emittedBucket = some (.map [
        ("Tier", .map [("Fn::If", texts ["IsProd", "a", "b"])]),
        ("Size", .map [("Fn::FindInMap", texts ["Sizes", "a", "b"])])]) ∧
      (∀ folded, foldedConditions.2 = .map folded → "IsProd" ∉ Entries.keys folded) ∧
      ∀ folded, foldedMappings.2 = .map folded → "Sizes" ∉ Entries.keys folded := by
  refine ⟨nested_prod, rfl, rfl, ?_, ?_⟩
  · rintro folded ⟨⟩
    decide
  · rintro folded ⟨⟩
    decide

end Example

end InfraTemplate
