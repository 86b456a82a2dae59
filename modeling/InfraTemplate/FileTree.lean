import InfraTemplate.Sha256
import InfraTemplate.Text.Blank
import InfraTemplate.Text.Hex

namespace InfraTemplate

inductive FileTree where
  | file (content : ByteArray)
  | directory (entries : List (String × FileTree))

inductive PathFault where
  | missing
  | notDirectory
  | tooLong
  | malformed
  | unread
deriving DecidableEq, Repr

namespace FileTree

instance : Inhabited FileTree := ⟨directory []⟩

def step (trail : List FileTree) (part : String) : Except PathFault (List FileTree) :=
  match trail.headD (directory []) with
  | file _ => .error .notDirectory
  | directory entries =>
    if part.isEmpty || part == "." then .ok trail
    else if part == ".." then .ok (trail.drop 1)
    else if 255 < part.utf8ByteSize then .error .tooLong
    else
      match entries.lookup part with
      | some t => .ok (t :: trail)
      | none => .error .missing

def find (t : FileTree) (path : String) : Except PathFault FileTree :=
  if path.isEmpty then .error .missing
  else if path.toList.contains '\x00' then .error .malformed
  else if 4095 < path.utf8ByteSize then .error .tooLong
  else
    let parts := (Text.splitAll (· == '/') path.toList).map String.ofList
    let start := if path.toList.head? == some '/' then [] else [t]
    (parts.foldlM step start).map fun trail => trail.headD (directory [])

abbrev FilePath := List String

def pathLe : FilePath → FilePath → Bool
  | [], _ => true
  | _ :: _, [] => false
  | a :: as, b :: bs => if a = b then pathLe as bs else decide (a < b)

mutual

def files : FileTree → List (FilePath × ByteArray)
  | file content => [([], content)]
  | directory entries => filesOf entries

def filesOf : List (String × FileTree) → List (FilePath × ByteArray)
  | [] => []
  | (name, t) :: rest => (files t).map (fun (path, content) => (name :: path, content)) ++ filesOf rest

end

def sortedFiles (t : FileTree) : List (FilePath × ByteArray) :=
  t.files.mergeSort fun a b => pathLe a.1 b.1

def contentHash : FileTree → List UInt8
  | file content => Sha256.digest content.toList
  | directory entries =>
    Sha256.digest ((directory entries).sortedFiles.flatMap fun (_, content) =>
      (Text.hexText (Sha256.digest content.toList)).toUTF8.toList)

mutual

def insert (t : FileTree) (path : FilePath) (new : FileTree) : FileTree :=
  match path with
  | [] => new
  | name :: rest =>
    match t with
    | directory entries => directory (insertIn entries name rest new)
    | file _ => directory [(name, insert (directory []) rest new)]
termination_by (path.length, 0)

def insertIn (entries : List (String × FileTree)) (name : String) (rest : FilePath)
    (new : FileTree) : List (String × FileTree) :=
  match entries with
  | [] => [(name, insert (directory []) rest new)]
  | (k, t) :: more =>
    if k = name then (k, insert t rest new) :: more else (k, t) :: insertIn more name rest new
termination_by (rest.length, entries.length + 1)

end

def at? (t : FileTree) : FilePath → Option FileTree
  | [] => some t
  | name :: rest =>
    match t with
    | directory entries => (entries.lookup name).bind fun t => at? t rest
    | file _ => none

def isDirectory : FileTree → Bool
  | directory _ => true
  | file _ => false

def enter (t : FileTree) (names : FilePath) (part : String) : Except PathFault FilePath :=
  if part.isEmpty || part == "." then .ok names
  else if part == ".." then if names.isEmpty then .error .missing else .ok names.dropLast
  else
    match t.at? (names ++ [part]) with
    | some (directory _) => .ok (names ++ [part])
    | some (file _) => .error .notDirectory
    | none => .error .missing

def write (t : FileTree) (path : String) (content : ByteArray) : Except PathFault FileTree := do
  let parts := (Text.splitAll (· == '/') path.toList).map String.ofList
  let name := parts.getLastD ""
  if path.toList.head? == some '/' || ["", ".", ".."].contains name then throw .missing
  if path.toList.contains '\x00' then throw .malformed
  if 255 < name.utf8ByteSize then throw .tooLong
  let names ← parts.dropLast.foldlM t.enter []
  if (t.at? (names ++ [name])).any isDirectory then throw .notDirectory
  return t.insert (names ++ [name]) (file content)

end FileTree

end InfraTemplate
