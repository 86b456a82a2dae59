import InfraTemplate.Import
import InfraTemplate.Node.Reading
import InfraTemplate.RandomName
import InfraTemplate.Text.Base64
import InfraTemplate.Text.Utf8
import InfraTemplate.World

namespace InfraTemplate

namespace Importing

abbrev Fetch := Except ImportFailure

structure Content where
  resolved : String
  raw : ByteArray
  parsed? : Option Node

def Content.bytes (resolved : String) (raw : ByteArray) : Content := ⟨resolved, raw, none⟩

def Content.text (resolved text : String) : Content := ⟨resolved, text.toUTF8, some (.string text)⟩

def Content.json (resolved : String) (j : Json) : Content :=
  ⟨resolved, j.compact.toUTF8, some (.ofJson j)⟩

def decoded {α : Type} (r : Except Error α) : Fetch α := r.mapError fun e => .decode e.message

def extension? (location : String) : Option String :=
  let path := location.toList.takeWhile fun c => c != '?' && c != '#'
  (Text.splitFirst '.' path.reverse).map fun (tail, _) => String.ofList (tail.reverse.map Char.toLower)

def sniff (location : String) (raw : ByteArray) : Fetch Node :=
  match extension? location with
  | some "yaml" | some "yml" =>
    match String.fromUTF8? raw with
    | some text => decoded (Node.parse text location)
    | none => .error (.decode (location ++ ": not UTF-8"))
  | some "json" => decoded (Node.parseJson raw location)
  | _ => .ok (.string (Text.lossyText raw))

def pathFailure (path : String) : PathFault → ImportFailure
  | .missing => .notFound path
  | .notDirectory => .io "not a directory"
  | .tooLong => .io "name too long"
  | .malformed => .io "malformed path"
  | .unread => .io "not read yet"

def readFile (w : World) (path : String) : Fetch ByteArray :=
  match w.files path with
  | .ok (.file content) => .ok content
  | .ok (.directory _) => .error (.io "is a directory")
  | .error f => .error (pathFailure path f)

def file (w : World) (l : Location) : Fetch Content :=
  (readFile w l.path).map (.bytes l.path)

def missingHash : String := "FILE_MISSING"

def hashText (scheme : Scheme) (digest : List UInt8) : String :=
  if scheme = .fileHashBase64 then Text.base64Text ⟨digest.toArray⟩ else Text.hexText digest

def hashTarget (l : Location) : Bool × String :=
  match l.path.toList with
  | '?' :: rest => (true, l.localPath (String.ofList rest))
  | _ => (false, l.localPath l.path)

def fileHash (w : World) (l : Location) : Fetch Content :=
  let (isOptional, path) := hashTarget l
  match w.files path with
  | .ok t => .ok (.text l.text (hashText l.scheme t.contentHash))
  | .error .missing => if isOptional then .ok (.text l.text missingHash) else .error (.notFound path)
  | .error f => .error (pathFailure path f)

def localTarget? (l : Location) : Option String :=
  match l.scheme with
  | .file => some l.path
  | .fileHash | .fileHashBase64 => some (hashTarget l).2
  | _ => none

def contentHash (w : World) (path : String) : Fetch (List UInt8) :=
  match w.files path with
  | .ok t => .ok t.contentHash
  | .error _ => .error (.io "no such file")

def env (w : World) (l : Location) : Fetch Content :=
  let (name, default?) :=
    match Text.splitFirst ':' l.path.toList with
    | some (name, rest) => (String.ofList name, some (String.ofList rest))
    | none => (l.path, none)
  match Entries.find? name w.env, default? with
  | some value, _ => .ok (.text l.text value)
  | none, some value => .ok (.text l.text value)
  | none, none => .error (.notFound ("environment variable " ++ name))

def gitArguments? : String → Option String
  | "branch" => some "rev-parse --abbrev-ref HEAD"
  | "describe" => some "describe --dirty --tags"
  | "sha" => some "rev-parse HEAD"
  | _ => none

def hasDirectory (w : World) (l : Location) : Bool :=
  match l.directory? with
  | none => true
  | some dir =>
    match w.files dir with
    | .ok (.directory _) => true
    | _ => false

private def trimmedBytes (raw : ByteArray) : String := Text.trimText (Text.lossyText raw)

def git (w : World) (l : Location) : Fetch Content :=
  match gitArguments? l.path with
  | none => .error (.invalidLocation ("git:" ++ l.path ++ " (expected branch, describe or sha)"))
  | some arguments =>
    match w.git? with
    | none => .error (.io "no git")
    | some answers =>
      if !hasDirectory w l then .error (.io "no such directory")
      else
        match (Entries.find? arguments answers).getD ⟨99, .empty, .empty⟩ with
        | ⟨0, stdout, _⟩ => .ok (.text l.text (trimmedBytes stdout))
        | ⟨_, _, stderr⟩ =>
          .error (.request ("git " ++ arguments ++ " failed: " ++ trimmedBytes stderr))

def random (w : World) (turn : Nat) (l : Location) : Fetch Content :=
  match RandomKind.ofName? l.path with
  | some kind => .ok (.text l.text (kind.generate (w.seed + turn)))
  | none => .error (.invalidLocation ("random:" ++ l.path ++ " (expected name, dashed-name or int)"))

def objectAddress (path : String) : Fetch (String × String) :=
  match Url.parse path with
  | .error f => .error (.invalidLocation (path ++ ": " ++ f.message))
  | .ok url =>
    let bucket := url.host?.getD ""
    let key := String.ofList (url.pathText.dropWhile (· == '/'))
    if bucket.isEmpty then .error (.invalidLocation (path ++ ": no bucket"))
    else if key.isEmpty then .error (.invalidLocation (path ++ ": no key"))
    else .ok (bucket, key)

def object (w : World) (l : Location) : Fetch Content :=
  match w.objects? with
  | none => .error (.notConfigured l.scheme.name)
  | some objects => do
    let (bucket, key) ← objectAddress l.path
    match Entries.find? (bucket ++ "/" ++ key) objects with
    | some raw => return .bytes l.path raw
    | none => throw (.notFound ("s3://" ++ bucket ++ "/" ++ key))

def page (w : World) (l : Location) : Fetch Content :=
  match w.pages? with
  | none => .error (.request "no connection")
  | some pages =>
    match Entries.find? l.path pages with
    | some raw => .ok (.bytes l.path raw)
    | none => .error (.notFound l.path)

inductive ValueFormat where
  | text
  | json
  | yaml
deriving DecidableEq, Repr

namespace ValueFormat

def split (path : String) : String × ValueFormat :=
  match Text.beforeTail? ":json".toList path.toList, Text.beforeTail? ":yaml".toList path.toList with
  | some name, _ => (String.ofList name, json)
  | none, some name => (String.ofList name, yaml)
  | none, none => (path, text)

def decode (f : ValueFormat) (value location : String) : Fetch Node :=
  match f with
  | text => .ok (.string value)
  | json => decoded (Node.parseJson value.toUTF8 location)
  | yaml => decoded (Node.parse value location)

end ValueFormat

def parameter (w : World) (l : Location) : Fetch Content :=
  match w.parameters? with
  | none => .error (.notConfigured l.scheme.name)
  | some store => do
    let (name, format) := ValueFormat.split l.path
    match Entries.find? name store.values with
    | some value => return ⟨l.text, value.toUTF8, some (← format.decode value l.text)⟩
    | none => throw (.notFound name)

private def dropTrailing (c : Char) (cs : List Char) : List Char := (cs.reverse.dropWhile (· == c)).reverse

def shortName (lead : List Char) (full : String) : String :=
  String.ofList (((Text.afterHead? lead full.toList).getD full.toList).dropWhile (· == '/'))

def listingMap (lead : List Char) (format : ValueFormat) (listing : List (String × String)) :
    Fetch Mapping :=
  listing.foldlM (fun acc (full, value) => do
    return Entries.put (shortName lead full) (← format.decode value full) acc) []

def listingBytes (listing : List (String × String)) : ByteArray :=
  (Json.ofFields (listing.map fun (full, value) => (full, .string value))).compact.toUTF8

def parameterPath (w : World) (l : Location) : Fetch Content :=
  match w.parameters? with
  | none => .error (.notConfigured l.scheme.name)
  | some store => do
    let (name, format) := ValueFormat.split l.path
    match Entries.find? name store.listings with
    | some listing =>
      let values ← listingMap (dropTrailing '/' name.toList) format listing
      return ⟨l.text, listingBytes listing, some (.map values)⟩
    | none => throw (.notFound name)

def findStack (i : StackInspector) (name : String) : Fetch Stack :=
  match Entries.find? name i.deployed with
  | some s => .ok s
  | none => .error (.notFound ("stack " ++ name))

def stackEntry (i : StackInspector) (resolved kind stack key : String) : Fetch Content := do
  let s ← findStack i stack
  let missing : ImportFailure := .notFound (kind ++ " " ++ key ++ " of stack " ++ stack)
  let text (entries : Entries String) : Fetch Content :=
    match Entries.find? key entries with
    | some value => .ok (.text resolved value)
    | none => .error missing
  match kind with
  | "output" => text s.outputs
  | "parameter" => text s.parameters
  | "tag" => text s.tags
  | "resource" =>
    match Entries.find? key s.resources with
    | some j => return .json resolved j
    | none => throw missing
  | _ => throw (.invalidLocation resolved)

def stack (w : World) (l : Location) : Fetch Content :=
  match w.stacks? with
  | none => .error (.notConfigured l.scheme.name)
  | some i =>
    match Text.splitFirst ':' l.path.toList with
    | none => .error (.invalidLocation l.text)
    | some (kind, rest) =>
      match String.ofList kind with
      | "export" =>
        match Entries.find? (String.ofList rest) i.exports with
        | some value => .ok (.text l.text value)
        | none => .error (.notFound ("export " ++ String.ofList rest))
      | "stack" => (findStack i (String.ofList rest)).map fun s => .json l.text s.raw
      | kind =>
        match Text.splitFirst '/' rest with
        | none => .error (.invalidLocation l.text)
        | some (name, key) => stackEntry i l.text kind (String.ofList name) (String.ofList key)

def content (w : World) (turn : Nat) (l : Location) : Fetch Content :=
  match l.scheme with
  | .file => file w l
  | .fileHash | .fileHashBase64 => fileHash w l
  | .env => env w l
  | .git => git w l
  | .random => random w turn l
  | .s3 => object w l
  | .http | .https => page w l
  | .ssm => parameter w l
  | .ssmPath => parameterPath w l
  | .cfn => stack w l

end Importing

def World.resolver (w : World) : Resolver := fun turn target base => do
  let l ← Location.resolve target base
  let c ← Importing.content w turn l
  match c.parsed? with
  | some n => return ⟨c.resolved, c.raw, n⟩
  | none => return ⟨c.resolved, c.raw, ← Importing.sniff c.resolved c.raw⟩

end InfraTemplate
