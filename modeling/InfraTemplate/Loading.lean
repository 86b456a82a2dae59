import InfraTemplate.Evaluation
import InfraTemplate.Import
import InfraTemplate.Param.Declaration

/-!
Loading of documents: definitions, imports and parameters, each in the scope of those declared
before it. Documents nested deeper than the limit are refused, so loading ends on every import graph.
-/

namespace InfraTemplate

structure Progress where
  sections : Sections
  records : List Record
  label : Nat

def Progress.start : Progress := ⟨[], [], 1⟩

abbrev Load := ExceptT Error (StateT Progress Option)

structure Loader where
  evaluator : Evaluator
  resolver : Resolver
  limit : Nat

namespace Load

variable {α : Type}

def ofExcept (r : Except Error α) : Load α := ExceptT.mk (pure r)

def ofEval (m : Eval α) : Load α := ExceptT.mk fun progress => do
  let (r, sections) ← m.outcome progress.sections
  return (r, { progress with sections := sections })

def bind1 (scope : Scope) (name : String) (b : Bound) : Load Scope := do
  let progress ← get
  set { progress with label := progress.label + 1 }
  return scope.extend progress.label [(name, b)]

end Load

namespace Loading

def declared (m : Mapping) (key location : String) : Except Error Mapping :=
  match Entries.find? key m with
  | none | some .null => .ok []
  | some (.map entries) => .ok entries
  | some n => .error (.malformed key location (.notMap n.kind) [])

def paramClash? (defs imports : Mapping) (earlier : List String) (name : String) : Option Clash :=
  if Entries.has name defs then some .paramAndDef
  else if Entries.has name imports then some .paramAndImport
  else if earlier.contains name then some .paramTwice
  else none

def checkParams (defs imports : Mapping) (location : String) (earlier : List String) :
    List String → Except Error Unit
  | [] => .ok ()
  | name :: rest =>
    match paramClash? defs imports earlier name with
    | some clash => .error (.collision name location clash)
    | none => checkParams defs imports location (earlier ++ [name]) rest

def checkNames (defs imports : Mapping) (params : List (Param Node)) (location : String) :
    Except Error Unit :=
  match (Entries.keys imports).find? fun k => Entries.has k defs with
  | some name => .error (.collision name location .defAndImport)
  | none => checkParams defs imports location [] (params.map Param.name)

def plainChild? (n : Node) (key : List Char) : Option Node :=
  match n with
  | .map entries => Entries.find? (String.ofList key) entries
  | .document d => Entries.find? (String.ofList key) d.body
  | .seq items => (Text.index? key).bind fun i => items[i]?
  | _ => none

def plainWalk? (n : Node) : List (List Char) → Option Node
  | [] => some n
  | key :: rest => (plainChild? n key).bind fun child => plainWalk? child rest

def plainLookup (scope : Scope) (path : String) (expr : String) : Except Error Node :=
  let found? :=
    match Text.splitAll (· == '.') expr.toList with
    | [] => none
    | head :: rest => (scope.find? (String.ofList head)).bind fun b => plainWalk? b.node rest
  match found? with
  | none => .error (.undefined expr path [])
  | some (.tag _) | some (.document _) => .error (.malformed importsKey path (.notPlain expr) [])
  | some n => .ok n

def declaredLocation (m : Mapping) (location : String) : String :=
  match Entries.find? locationKey m with
  | some (.string s) => s
  | _ => location

section

variable (c : Loader) (nested : Mapping → String → Load Document)

def extended? : Node → Option Mapping
  | .map m => if isExtended m then some m else none
  | _ => none

def definition (location : String) (scope : Scope) (name : String) (n : Node) : Load Node := do
  match extended? n with
  | some m => return .document (← nested m location)
  | none =>
    let path := (Path.root.child defsKey).child name
    Load.ofEval (c.evaluator.node n path (Env.root scope location c.limit))

def define (location : String) (scope : Scope) (name : String) (n : Node) : Load Scope := do
  let value ← definition c nested location scope name n
  Load.bind1 scope name (.value value)

def fetch (location name target : String) : Load Fetched := do
  let progress ← get
  let fetched ← Load.ofExcept
    ((c.resolver progress.records.length target location).mapError (.failedImport target location))
  let record : Record := ⟨name, location, fetched.resolved, digestText fetched.raw⟩
  set { progress with records := progress.records ++ [record] }
  return fetched

def target (location : String) (scope : Scope) (name : String) : Node → Except Error String
  | .string s =>
    let path := location ++ "." ++ importsKey ++ "." ++ name
    Interpolation.interpolate path (plainLookup scope path) s
  | n => .error (.malformed importsKey (location ++ "." ++ name) (.importNotString n.kind) [])

def addImport (location : String) (scope : Scope) (name : String) (n : Node) : Load Scope := do
  let target ← Load.ofExcept (target location scope name n)
  let fetched ← fetch c location name target
  let value ←
    match extended? fetched.parsed with
    | some m => Node.document <$> nested m fetched.resolved
    | none => pure fetched.parsed
  Load.bind1 scope name (.raw value scope)

def document (m : Mapping) (location : String) : Load Document := do
  let location := declaredLocation m location
  let defs ← Load.ofExcept (declared m defsKey location)
  let imports ← Load.ofExcept (declared m importsKey location)
  let params ← Load.ofExcept (Param.declarations (Entries.find? paramsKey m) location)
  Load.ofExcept (checkNames defs imports params location)
  let scope ← defs.foldlM (fun scope (name, n) => define c nested location scope name n) .empty
  let scope ← imports.foldlM (fun scope (name, n) => addImport c nested location scope name n) scope
  return ⟨location, m.filter fun (k, _) => !isBookkeeping k, params, scope⟩

end

end Loading

namespace Loader

def loadWithin (c : Loader) : Nat → Mapping → String → Load Document
  | 0, _, location => throw (.tooDeep c.limit location [])
  | n + 1, m, location => Loading.document c (loadWithin c n) m location

def load (c : Loader) (m : Mapping) (location : String) : Load Document :=
  c.loadWithin (c.limit + 1) m location

end Loader

end InfraTemplate
