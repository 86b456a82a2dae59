import InfraTemplate.Proofs.Contributions
import InfraTemplate.Proofs.References

namespace InfraTemplate

open Evaluator

def writtenName (owns : List String) (i : Instance) (name : String) : String :=
  if isPseudo name ∨ name ∈ Resource.exemptNames i.body then name else String.join owns ++ name

theorem Nested.qualify_eq {owns : List String} {i : Instance} (h : Nested owns i) (name : String) :
    i.naming.qualify name = writtenName owns i name := by
  obtain ⟨hn, -⟩ := h.naming_eq
  unfold writtenName
  split
  · rename_i hx
    exact NameScope.qualify_of_exempt (by rw [hn]; exact hx)
  · rename_i hx
    rw [NameScope.qualify_of_not_exempt (by rw [hn]; exact hx), hn]

theorem Nested.emitted_eq {owns : List String} {i : Instance} (h : Nested owns i) {ev : Evaluator}
    {name emitted : String} {m : Mapping} (hm : (name, .map m) ∈ i.resources) {path : Path}
    {s t : Sections} {body : Node}
    (hl : Returns (ev.literal name m path i.env) s (emitted, body) t) :
    emitted = writtenName owns i name := by
  obtain ⟨_, -, he, -⟩ := literal_spec hl
  rw [he]
  split
  · rename_i hx
    rw [writtenName, if_pos (.inr (Instance.mem_exemptNames_of_marked hm hx))]
  · rw [Env.qualify_of_naming h.naming_eq.2, h.qualify_eq]

section Example

def bucketMap : Mapping := [("Type", .string "AWS::S3::Bucket")]

def siteEnv : Env := Env.root .empty "root.yaml" 50

end Example

end InfraTemplate
