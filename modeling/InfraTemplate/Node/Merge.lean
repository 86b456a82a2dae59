import InfraTemplate.Node

namespace InfraTemplate.Node

mutual

def deepMerge (base : Mapping) : List (String × Node) → Mapping
  | [] => base
  | (k, x) :: changes => deepMerge (Entries.put k (mergeValue (Entries.find? k base) x) base) changes

def mergeValue (old : Option Node) : Node → Node
  | map changes =>
    match old with
    | some (map base) => map (deepMerge base changes)
    | _ => map changes
  | x => x

end

end InfraTemplate.Node
