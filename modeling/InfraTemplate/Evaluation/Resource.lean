import InfraTemplate.Bookkeeping
import InfraTemplate.Evaluation.Template
import InfraTemplate.Node.Merge

/-!
Maps and sections of resources. A resource whose type names a template is an instance of it: its
names are qualified, its sections are added to the document.
-/

namespace InfraTemplate

def mergeLead : String := "$merge"

def isMergeKey (key : String) : Bool := Text.hasHead mergeLead.toList key.toList

inductive ResourceKind where
  | literal
  | template (name : String) (d : Document)

inductive Contribution where
  | nothing
  | merged (m : Mapping)
  | entry (key : String) (n : Node)
  | entries (m : Mapping)

def Contribution.addTo (out : Mapping) : Contribution → Mapping
  | nothing => out
  | merged m => Node.deepMerge out m
  | entry key n => Entries.put key n out
  | entries m => Entries.putAll out m

def Contribution.assemble (cs : List Contribution) : Mapping := cs.foldl addTo []

structure Instance where
  body : Mapping
  naming : NameScope
  env : Env

namespace Resource

def isLiteralType (type : String) : Bool :=
  ["AWS::", "Custom::", "Alexa::"].any (fun lead => Text.hasHead lead.toList type.toList) ||
    3 ≤ (Text.splitOnText "::".toList 0 type.toList).length

def exemptSections : List String := ["Parameters", "Resources", "Mappings", "Conditions"]

def globalNames : Node → List String
  | .map entries => (entries.filter fun (_, n) => Sections.isGlobal n).map (·.1)
  | _ => []

def exemptNames (body : Mapping) : List String :=
  exemptSections.flatMap fun s => ((Entries.find? s body).map globalNames).getD []

def nameKeys : List String := ["DependsOn", "Condition"]

mutual

def qualifyNames (env : Env) : Node → Node
  | .string name => .string (env.qualify name)
  | .seq items => .seq (qualifyNamesIn env items)
  | n => n

def qualifyNamesIn (env : Env) : List Node → List Node
  | [] => []
  | x :: xs => qualifyNames env x :: qualifyNamesIn env xs

end

def qualifyNamed (env : Env) (body : Mapping) : Mapping :=
  match env.naming? with
  | none => body
  | some _ => body.map fun (k, n) => (k, if nameKeys.contains k then qualifyNames env n else n)

end Resource

namespace Evaluator

open Resource

variable (ev : Evaluator)

def mergeBlock (key : String) (n : Node) (path : Path) (env : Env) : Eval Mapping := do
  match ← ev.node n path env with
  | .null => return []
  | .map m => return m
  | n => malformed key path env (.mergeBlock n.kind)

def calendarDate : Node → Node
  | .string s =>
    let dashAt (n : Nat) := (Text.dropBytes? n s.toList).any fun rest => rest.head? == some '-'
    match Text.dropBytes? 10 s.toList with
    | some rest =>
      if !rest.isEmpty && dashAt 4 && dashAt 7 then
        .string (String.ofList (s.toList.take (s.length - rest.length)))
      else .string s
    | none => .string s
  | n => n

def formatVersionKey : String := "AWSTemplateFormatVersion"

def resourcesKey : String := "Resources"

def overridesKey : String := "Overrides"

def mapValue (key : String) (n : Node) (path : Path) (env : Env) : Eval Node := do
  let child := path.child key
  if key = resourcesKey && !path.hasSegment overridesKey then
    match n with
    | .map resources => return .map (← ev.resources resources child env)
    | n => ev.node n child env
  else if key = formatVersionKey then return calendarDate (← ev.node n child env)
  else ev.node n child env

def mapEntry (path : Path) (env : Env) (key : String) (n : Node) : Eval Contribution := do
  if isBookkeeping key then return .nothing
  else if isMergeKey key then return .merged (← ev.mergeBlock key n (path.child key) env)
  else
    let value ← ev.mapValue key n path env
    let key ← ev.interpolated key (path.child key) env
    return .entry key value

def mapEntries (m : Mapping) (path : Path) (env : Env) : Eval (List Contribution) :=
  m.mapM fun (key, n) => ev.mapEntry path env key n

def map (m : Mapping) (path : Path) (env : Env) : Eval Mapping :=
  Contribution.assemble <$> ev.mapEntries m path env

def resourceType (type : Node) (path : Path) (env : Env) : Eval String :=
  match type with
  | .string s => ev.interpolated s path env
  | .tag (.lookup expr) => return expr
  | n => return (← ev.node n (path.child "Type") env).text

def classify (name : String) (m : Mapping) (path : Path) (env : Env) : Eval ResourceKind :=
  match Entries.find? "Type" m with
  | none => return .literal
  | some type => do
    let type ← ev.resourceType type path env
    if isLiteralType type then return .literal
    else
      let found ← tryCatch (some <$> ev.locate type path env) fun
        | .undefined .. => return none
        | e => throw e
      match found.map Located.node with
      | some (.document d) => return .template type d
      | _ => throw (.invalidResource name type path env.stack)

def literal (name : String) (m : Mapping) (path : Path) (env : Env) : Eval (String × Node) := do
  let (m, isGlobal) := Sections.takeGlobal m
  let body ← ev.map m path env
  return (if isGlobal then name else env.qualify name, .map (qualifyNamed env body))

def instanceMap (key : String) (m : Mapping) (path : Path) (env : Env) : Eval Mapping :=
  match Entries.find? key m with
  | none => return []
  | some n => do
    match ← ev.node n (path.child key) env with
    | .map entries => return entries
    | .null => return []
    | n => malformed key path env (.notMap n.kind)

def hoist (body : Mapping) (path : Path) (env inner : Env) (naming : NameScope) (name : String) :
    Eval Unit :=
  match Entries.find? name body with
  | none => return ()
  | some n => do
    let value ← ev.node n (path.child name) inner
    match Sections.fold (← get) name value naming with
    | .ok s => set s
    | .error d => malformed name path env d

def instanceResources (template : String) (body : Mapping) (path : Path) (env inner : Env) :
    Eval Mapping :=
  match Entries.find? resourcesKey body with
  | none => return []
  | some (.map resources) => ev.resources resources (path.child resourcesKey) inner
  | some n => malformed resourcesKey path env (.templateResources template n.kind)

def ownLead (name : String) (m : Mapping) (path : Path) (env : Env) : Eval String :=
  match Entries.find? "NamePrefix" m with
  | some n => return (← ev.node n (path.child "NamePrefix") env).text
  | none => return name

def instanceOf (name : String) (m : Mapping) (d : Document) (path : Path) (env : Env) :
    Eval Instance := do
  let lead := env.lead ++ (← ev.ownLead name m path env)
  let overrides ← ev.instanceMap overridesKey m path env
  let body := Node.deepMerge d.body overrides
  let naming : NameScope := ⟨lead, exemptNames body⟩
  let properties ← ev.instanceMap "Properties" m path env
  let values ← ev.bindParams d properties name (some naming) path env
  let inner ← enterTemplate d (("Prefix", .value (.string lead)) :: values) path env
  return ⟨body, naming, inner.withNaming (some naming)⟩

def instantiate (name : String) (m : Mapping) (template : String) (d : Document) (path : Path)
    (env : Env) : Eval Mapping := do
  let i ← ev.instanceOf name m d path env
  let resources ← ev.instanceResources template i.body path env i.env
  Sections.hoisted.forM (ev.hoist i.body path env i.env i.naming)
  return resources

def resourceEntry (path : Path) (env : Env) (name : String) (n : Node) : Eval Contribution := do
  let child := path.child name
  if isBookkeeping name then return .nothing
  else if isMergeKey name then return .merged (← ev.mergeBlock name n child env)
  else
    match n with
    | .map m =>
      match ← ev.classify name m child env with
      | .literal =>
        let (emitted, body) ← ev.literal name m child env
        return .entry emitted body
      | .template template d => return .entries (← ev.instantiate name m template d child env)
    | n => return .entry (env.qualify name) (← ev.node n child env)

def resourceEntries (resources : Mapping) (path : Path) (env : Env) : Eval (List Contribution) :=
  resources.mapM fun (name, n) => ev.resourceEntry path env name n

def resourceSection (resources : Mapping) (path : Path) (env : Env) : Eval Mapping :=
  Contribution.assemble <$> ev.resourceEntries resources path env

end Evaluator

end InfraTemplate
