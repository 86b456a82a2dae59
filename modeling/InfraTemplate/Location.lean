import InfraTemplate.Error
import InfraTemplate.LocalPath
import InfraTemplate.Text.Piece
import InfraTemplate.Url

namespace InfraTemplate

inductive Scheme where
  | file
  | env
  | git
  | random
  | fileHash
  | fileHashBase64
  | s3
  | http
  | https
  | ssm
  | ssmPath
  | cfn
deriving DecidableEq, Repr

namespace Scheme

def all : List Scheme :=
  [file, env, git, random, fileHash, fileHashBase64, s3, http, https, ssm, ssmPath, cfn]

def name : Scheme → String
  | file => "file"
  | env => "env"
  | git => "git"
  | random => "random"
  | fileHash => "filehash"
  | fileHashBase64 => "filehash-base64"
  | s3 => "s3"
  | http => "http"
  | https => "https"
  | ssm => "ssm"
  | ssmPath => "ssm-path"
  | cfn => "cfn"

def ofName? (s : String) : Option Scheme := all.find? fun scheme => scheme.name == s

theorem ofName?_name (s : Scheme) : ofName? s.name = some s := by cases s <;> decide

theorem name_of_ofName? {name : String} {s : Scheme} (h : ofName? name = some s) :
    s.name = name := by
  simpa using List.find?_some h

def isRemote : Scheme → Bool
  | s3 | http | https => true
  | _ => false

def isLocalOnly : Scheme → Bool
  | file | env => true
  | _ => false

def isBuiltIn : Scheme → Bool
  | s3 | ssm | ssmPath | cfn => false
  | _ => true

end Scheme

structure Location where
  scheme : Scheme
  /-- The whole URL for a remote scheme, else what follows the colon. -/
  path : String
  directory? : Option String
deriving DecidableEq, Repr

namespace Location

def text (l : Location) : String :=
  if l.scheme.isRemote then l.path else l.scheme.name ++ ":" ++ l.path

def isSchemeChar (c : Char) : Bool := ('a' ≤ c && c ≤ 'z') || Text.isDigit c || c == '-'

def splitScheme (location : String) : Except ImportFailure (Option (Scheme × String)) :=
  match Text.splitFirst ':' location.toList with
  | none => .ok none
  | some (head, rest) =>
    if head.isEmpty || !head.all isSchemeChar then .ok none
    else
      match Scheme.ofName? (String.ofList head) with
      | some scheme => .ok (some (scheme, String.ofList rest))
      | none => .error (.unknownScheme (String.ofList head))

def ofDocument? (base : String) : Option Location :=
  if base.isEmpty || base == "-" then none
  else
    match splitScheme base with
    | .ok (some (scheme, rest)) => some ⟨scheme, if scheme.isRemote then base else rest, none⟩
    | _ => some ⟨.file, base, none⟩

def directoryOf (l : Location) : Option String :=
  if l.scheme = .file then LocalPath.directory? l.path else none

def resolve (target base : String) : Except ImportFailure Location := do
  let target := Text.trimText target
  let document? := ofDocument? base
  let directory? := document?.bind directoryOf
  let remote? := document?.filter fun l => l.scheme.isRemote
  match ← splitScheme target, remote? with
  | some (scheme, rest), remote? =>
    if scheme.isLocalOnly && remote?.isSome then throw (.forbidden target)
    let path :=
      if scheme.isRemote then target
      else if scheme = .file then LocalPath.join directory? rest
      else rest
    return ⟨scheme, path, directory?⟩
  | none, some remote =>
    let url ← (Url.parse remote.path).mapError fun f =>
      .invalidLocation (base ++ ": " ++ f.message)
    let joined ← (url.join target).mapError fun f =>
      .invalidLocation (target ++ ": " ++ f.message)
    return ⟨remote.scheme, joined.text, none⟩
  | none, none => return ⟨.file, LocalPath.join directory? target, directory?⟩

def localPath (l : Location) (path : String) : String := LocalPath.join l.directory? path

end Location

end InfraTemplate
