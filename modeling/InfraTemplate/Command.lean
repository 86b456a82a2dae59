import InfraTemplate.Command.Arguments
import InfraTemplate.Node.Rendering
import InfraTemplate.Transform

namespace InfraTemplate

inductive Task where
  | render (output? : Option String) (omitMetadata : Bool)
  | imports
deriving DecidableEq, Repr

structure Command where
  task : Task
  input : String
  format : Format
  limit : Nat
deriving DecidableEq, Repr

namespace Command

def formatOption : CommandOption := ⟨"format", .valued none, "STENCIL_FORMAT"⟩

def outputOption : CommandOption := ⟨"output", .valued (some 'o'), "STENCIL_OUTPUT"⟩

def omitMetadataOption : CommandOption := ⟨"omit-metadata", .flag, "STENCIL_OMIT_METADATA"⟩

def maxDepthOption : CommandOption := ⟨"max-depth", .valued none, "STENCIL_MAX_DEPTH"⟩

def renderOptions : List CommandOption :=
  [formatOption, outputOption, omitMetadataOption, maxDepthOption]

def importsOptions : List CommandOption := [formatOption, maxDepthOption]

def format? : String → Option Format
  | "yaml" => some .yaml
  | "json" => some .json
  | _ => none

def bool? : String → Option Bool
  | "true" => some true
  | "false" => some false
  | _ => none

def depth? (s : String) : Option Nat :=
  let ds :=
    match s.toList with
    | '+' :: ds => ds
    | ds => ds
  if ds.isEmpty || !ds.all Text.isDigit || Nat.pow 2 64 ≤ Text.digitsValue ds then none
  else some (Text.digitsValue ds)

def valueOf {α : Type} (read? : String → Option α) (o : CommandOption) (env : Entries String)
    (a : Arguments) : Except Stop (Option α) :=
  match a.value? env o with
  | none => .ok none
  | some text =>
    match read? text with
    | some value => .ok (some value)
    | none => .error (.misuse (.invalidValue o.name text))

def formatOf (env : Entries String) (outer inner : Arguments) : Except Stop Format := do
  let ahead ← valueOf format? formatOption env outer
  let after ← valueOf format? formatOption env inner
  let chosen := if Entries.has formatOption.name inner.given then after else ahead
  return chosen.getD .yaml

def inputOf (a : Arguments) : Except Stop String :=
  match a.operands ++ a.unread with
  | [] => .error (.misuse .missingInput)
  | [input] => .ok input
  | _ :: text :: _ => .error (.misuse (.unexpectedOperand text))

def limitOf (env : Entries String) (a : Arguments) : Except Stop Nat :=
  (valueOf depth? maxDepthOption env a).map fun depth => depth.getD Options.standard.limit

def commandNames : List String := ["render", "imports", "help"]

def ofArguments (args : List String) (env : Entries String) : Except Stop Command := do
  let outer ← Arguments.read [formatOption] 0 .empty args
  match outer.operands, outer.unread with
  | [], "render" :: rest =>
    let inner ← Arguments.read renderOptions 1 .empty rest
    let output? ← valueOf some outputOption env inner
    let omitMetadata ← valueOf bool? omitMetadataOption env inner
    return ⟨.render output? (omitMetadata.getD false), ← inputOf inner, ← formatOf env outer inner,
      ← limitOf env inner⟩
  | [], "imports" :: rest =>
    let inner ← Arguments.read importsOptions 1 .empty rest
    return ⟨.imports, ← inputOf inner, ← formatOf env outer inner, ← limitOf env inner⟩
  | [], ["help"] => throw .help
  | [], ["help", name] =>
    throw (if commandNames.contains name then .help else .misuse (.unknownCommand name))
  | [], name :: _ => throw (.misuse (.unknownCommand name))
  | [], [] => throw (.misuse .missingCommand)
  | text :: _, _ => throw (.misuse (.unexpectedOperand text))

def usage : String :=
  "Render templated infrastructure documents\n\n" ++
  "Usage: stencil [--format yaml|json] render <input|-> [-o|--output <file>] [--omit-metadata] " ++
  "[--max-depth <depth>]\n" ++
  "       stencil [--format yaml|json] imports <input|-> [--max-depth <depth>]\n"

end Command

end InfraTemplate
