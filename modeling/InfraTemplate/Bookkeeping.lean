import InfraTemplate.Node

namespace InfraTemplate

def importsKey : String := "$imports"

def defsKey : String := "$defs"

def paramsKey : String := "$params"

def locationKey : String := "$location"

def envValuesKey : String := "$envValues"

def bookkeepingKeys : List String := [importsKey, defsKey, paramsKey, locationKey, envValuesKey]

def isBookkeeping (key : String) : Bool := bookkeepingKeys.contains key

def isExtended (m : Mapping) : Bool :=
  Entries.has importsKey m || Entries.has defsKey m || Entries.has paramsKey m

namespace Node

mutual

/-- Drops bookkeeping keys from maps at every level, but not from inside tags and documents. -/
def stripBookkeeping : Node → Node
  | map entries => map (stripEntries entries)
  | seq items => seq (stripItems items)
  | n => n

def stripItems : List Node → List Node
  | [] => []
  | x :: xs => stripBookkeeping x :: stripItems xs

def stripEntries : List (String × Node) → Mapping
  | [] => []
  | (k, x) :: rest =>
    if isBookkeeping k then stripEntries rest else (k, stripBookkeeping x) :: stripEntries rest

end

end Node

end InfraTemplate
