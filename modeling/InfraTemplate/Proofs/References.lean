import InfraTemplate.Proofs.Instance
import InfraTemplate.Proofs.SubstitutionText

/-!
The ways in which a part of an instance names another entry, and the names they come to.
-/

namespace InfraTemplate

namespace Node

def textAt? : List Nat → Node → Option String
  | [], .string s => some s
  | i :: place, .seq items => items[i]?.bind (textAt? place)
  | _, _ => none

end Node

namespace Resource

theorem qualifyNamesIn_eq_map (env : Env) (xs : List Node) :
    qualifyNamesIn env xs = xs.map (qualifyNames env) := by
  induction xs with
  | nil => rfl
  | cons x xs ih => rw [qualifyNamesIn, ih, List.map_cons]

theorem textAt?_qualifyNames (env : Env) (place : List Nat) (n : Node) :
    (qualifyNames env n).textAt? place = (n.textAt? place).map env.qualify := by
  induction place generalizing n with
  | nil => cases n <;> rfl
  | cons i place ih =>
    cases n with
    | seq items =>
      rw [qualifyNames, qualifyNamesIn_eq_map, Node.textAt?, Node.textAt?, List.getElem?_map]
      cases items[i]? with
      | none => rfl
      | some x => exact ih x
    | _ => rfl

theorem find?_qualifyNamed {env : Env} {naming : NameScope} (h : env.naming? = some naming)
    (key : String) (body : Mapping) :
    Entries.find? key (qualifyNamed env body) =
      (Entries.find? key body).map fun n =>
        if nameKeys.contains key then qualifyNames env n else n := by
  rw [qualifyNamed, h]
  induction body with
  | nil => rfl
  | cons e body ih =>
    obtain ⟨k, n⟩ := e
    rw [List.map_cons, Entries.find?_cons, Entries.find?_cons, ih]
    by_cases hk : key = k
    · simp [hk]
    · simp [hk]

theorem keys_qualifyNamed (env : Env) (body : Mapping) :
    Entries.keys (qualifyNamed env body) = Entries.keys body := by
  rw [qualifyNamed]
  split
  · rfl
  · simp [Entries.keys, Function.comp_def]

end Resource

namespace Interpolation

end Interpolation

namespace Evaluator

variable {ev : Evaluator} {k : Nat} {s t : Sections} {path : Path} {env : Env}

theorem literal_spec {name emitted : String} {m : Mapping} {resource : Node}
    (h : Returns (ev.literal name m path env) s (emitted, resource) t) :
    ∃ body, Returns (ev.map (Sections.takeGlobal m).1 path env) s body t ∧
      emitted = (if (Sections.takeGlobal m).2 then name else env.qualify name) ∧
        resource = .map (Resource.qualifyNamed env body) := by
  simp only [literal, returns_bind, returns_pure, Prod.mk.injEq] at h
  obtain ⟨body, u, hb, ⟨rfl, rfl⟩, rfl⟩ := h
  exact ⟨body, hb, rfl, rfl⟩

end Evaluator

end InfraTemplate
