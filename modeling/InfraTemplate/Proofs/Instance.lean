import InfraTemplate.Evaluation
import InfraTemplate.Proofs.Outcome

/-!
Instances of templates: how their names are written, and that every environment made inside an
instance writes them alike.
-/

namespace InfraTemplate

open Resource

theorem mem_globalNames {name : String} {n : Node} :
    name ∈ globalNames n ↔
      ∃ entries entry, n = .map entries ∧ (name, entry) ∈ entries ∧ Sections.isGlobal entry := by
  cases n <;> simp [globalNames]

theorem mem_exemptNames {name : String} {body : Mapping} :
    name ∈ exemptNames body ↔ ∃ heading ∈ exemptSections, ∃ entries entry,
      Entries.find? heading body = some (.map entries) ∧ (name, entry) ∈ entries ∧
        Sections.isGlobal entry := by
  simp only [exemptNames, List.mem_flatMap]
  refine exists_congr fun heading => and_congr_right fun _ => ?_
  cases Entries.find? heading body with
  | none => simp
  | some n => simp [mem_globalNames]

theorem NameScope.qualify_of_exempt {naming : NameScope} {name : String}
    (h : isPseudo name = true ∨ name ∈ naming.exempt) : naming.qualify name = name := by
  rw [qualify, if_pos]
  rcases h with h | h <;> simp [h]

theorem NameScope.qualify_of_not_exempt {naming : NameScope} {name : String}
    (h : ¬(isPseudo name = true ∨ name ∈ naming.exempt)) :
    naming.qualify name = naming.lead ++ name := by
  rw [not_or] at h
  rw [qualify, if_neg]
  simp [h.1, h.2]

namespace Env

theorem qualify_of_naming {env : Env} {naming : NameScope} (h : env.naming? = some naming)
    (name : String) : env.qualify name = naming.qualify name := by
  rw [qualify, h]

theorem lead_of_naming {env : Env} {naming : NameScope} (h : env.naming? = some naming) :
    env.lead = naming.lead := by
  rw [lead, h]

theorem naming?_enter {env inner : Env} {location : String} {path : Path} {scope : Scope}
    (h : env.enter location path scope = .ok inner) : inner.naming? = env.naming? := by
  unfold enter at h
  split at h
  · cases h
  · cases h
    rfl

end Env

namespace Instance

def resources (i : Instance) : Mapping :=
  match Entries.find? Evaluator.resourcesKey i.body with
  | some (.map m) => m
  | _ => []

theorem find?_resources {i : Instance} {e : String × Node} (h : e ∈ i.resources) :
    Entries.find? Evaluator.resourcesKey i.body = some (.map i.resources) := by
  unfold resources at h ⊢
  split at h
  · rename_i heq
    exact heq
  · cases h

theorem mem_exemptNames_of_marked {i : Instance} {name : String} {m : Mapping}
    (h : (name, .map m) ∈ i.resources) (hm : (Sections.takeGlobal m).2 = true) :
    name ∈ exemptNames i.body :=
  mem_exemptNames.mpr ⟨Evaluator.resourcesKey, by decide, i.resources, .map m,
    find?_resources h, h, hm⟩

inductive Within (i : Instance) : Env → Prop
  | own : Within i i.env
  | defaults {env inner : Env} {d : Document} {path : Path} :
      env.enterDocument d path = .ok inner → Within i (inner.withNaming (some i.naming))
  | extend {env : Env} (vars : List (String × Bound)) : Within i env → Within i (env.extend vars)
  | withScope {env : Env} (scope : Scope) : Within i env → Within i (env.withScope scope)
  | withNaming {env outer : Env} : Within i env → Within i outer →
      Within i (env.withNaming outer.naming?)
  | enter {env inner : Env} {location : String} {path : Path} {scope : Scope} :
      Within i env → env.enter location path scope = .ok inner → Within i inner

theorem Within.naming?_eq {i : Instance} (hi : i.env.naming? = some i.naming) {env : Env}
    (h : Within i env) : env.naming? = some i.naming := by
  induction h with
  | own => exact hi
  | defaults _ => rfl
  | extend vars _ ih => exact ih
  | withScope scope _ ih => exact ih
  | withNaming _ _ _ ih => exact ih
  | enter _ h ih => exact (Env.naming?_enter h).trans ih

end Instance

namespace Evaluator

variable {ev : Evaluator} {s t : Sections} {name : String} {m : Mapping} {d : Document}
  {path : Path} {env : Env}

theorem instanceOf_spec {i : Instance} (h : Returns (ev.instanceOf name m d path env) s i t) :
    ∃ own u, Returns (ev.ownLead name m path env) s own u ∧
      i.naming = ⟨env.lead ++ own, exemptNames i.body⟩ ∧ i.env.naming? = some i.naming := by
  simp only [instanceOf, returns_bind, returns_pure] at h
  obtain ⟨own, u, ho, overrides, _, -, properties, _, -, values, _, -, inner, _, -, rfl, -⟩ := h
  exact ⟨own, u, ho, rfl, rfl⟩

end Evaluator

/-- An instance that is reached from an environment outside all instances by instances inside one
another, with their own leads from the outermost in. -/
inductive Nested : List String → Instance → Prop
  | outermost {k : Nat} {name own : String} {m : Mapping} {d : Document} {path : Path} {env : Env}
      {i : Instance} {s t u : Sections} :
      env.naming? = none →
      Returns ((Evaluator.upTo k).ownLead name m path env) s own t →
      Returns ((Evaluator.upTo k).instanceOf name m d path env) s i u → Nested [own] i
  | inside {k : Nat} {name own : String} {m : Mapping} {d : Document} {path : Path} {env : Env}
      {i j : Instance} {owns : List String} {s t u : Sections} :
      Nested owns j → j.Within env →
      Returns ((Evaluator.upTo k).ownLead name m path env) s own t →
      Returns ((Evaluator.upTo k).instanceOf name m d path env) s i u → Nested (owns ++ [own]) i

theorem Nested.naming_eq {owns : List String} {i : Instance} (h : Nested owns i) :
    i.naming = ⟨String.join owns, exemptNames i.body⟩ ∧ i.env.naming? = some i.naming := by
  induction h with
  | outermost henv ho hi =>
    obtain ⟨own', u, ho', hn, he⟩ := Evaluator.instanceOf_spec hi
    obtain ⟨rfl, -⟩ := ho.unique ho'
    refine ⟨?_, he⟩
    rw [hn, Env.lead, henv]
    simp
  | inside hj henv ho hi ih =>
    obtain ⟨own', u, ho', hn, he⟩ := Evaluator.instanceOf_spec hi
    obtain ⟨rfl, -⟩ := ho.unique ho'
    refine ⟨?_, he⟩
    rw [hn, Env.lead_of_naming (henv.naming?_eq ih.2), ih.1, String.join_append]
    simp

end InfraTemplate
