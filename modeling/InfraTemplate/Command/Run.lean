import InfraTemplate.Command
import InfraTemplate.Import.Listing
import InfraTemplate.Importing

namespace InfraTemplate

namespace Command

inductive Failure where
  | stdin
  | document (path : String)
  | rendering (location : String) (cause : Error)
  | importing (location : String) (cause : Error)
  | output (path : String)
deriving DecidableEq, Repr

namespace Failure

def message : Failure → String
  | stdin => "Failed to read stdin"
  | document path => "Failed to read document: " ++ path
  | rendering location _ => "Failed to render " ++ location
  | importing location _ => "Failed to load imports of " ++ location
  | output path => "Failed to write output: " ++ path

def cause? : Failure → Option Error
  | rendering _ cause | importing _ cause => some cause
  | _ => none

def lastRead? : Failure → Option String
  | document path => some path
  | rendering _ (.failedImport target importer _) | importing _ (.failedImport target importer _) =>
    (Location.resolve target importer).toOption.bind Importing.localTarget?
  | _ => none

end Failure

def readsStdin (c : Command) : Bool := c.input == "-"

def source (c : Command) (w : World) (stdin : ByteArray) : Except Failure String :=
  if c.readsStdin then
    match String.fromUTF8? stdin with
    | some text => .ok text
    | none => .error .stdin
  else
    match (Importing.readFile w c.input).toOption.bind String.fromUTF8? with
    | some text => .ok text
    | none => .error (.document c.input)

def setting (c : Command) (w : World) (ev : Evaluator) : Setting :=
  let omitMetadata :=
    match c.task with
    | .render _ omitMetadata => omitMetadata
    | .imports => false
  ⟨Options.make omitMetadata c.limit, w.resolver, w.host, ev⟩

def run (c : Command) (w : World) (stdin : ByteArray) (ev : Evaluator) :
    Option (Except Failure String) :=
  match c.source w stdin with
  | .error f => some (.error f)
  | .ok text =>
    let s := c.setting w ev
    match c.task with
    | .render .. =>
      (s.transformText text c.input).outcome.map fun r =>
        (r.map fun t => t.document.render c.format).mapError (.rendering c.input)
    | .imports =>
      (s.imports text c.input).outcome.map fun r =>
        (r.map fun rs => Record.listText rs c.format).mapError (.importing c.input)

def output? (c : Command) : Option String :=
  match c.task with
  | .render output? _ => output?
  | .imports => none

def deliver (c : Command) (text : String) (files : FileTree) : Except Failure (String × FileTree) :=
  match c.output? with
  | none => .ok (text, files)
  | some path =>
    match files.write path text.toUTF8 with
    | .ok files => .ok ("", files)
    | .error _ => .error (.output path)

end Command

end InfraTemplate
