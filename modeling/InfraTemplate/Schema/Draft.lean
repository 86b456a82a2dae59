import InfraTemplate.Json
import InfraTemplate.Text.Blank
import InfraTemplate.Text.Piece
import InfraTemplate.Url.Percent
import InfraTemplate.Text.Utf8

namespace InfraTemplate

inductive Draft where
  | four
  | six
  | seven
  | nineteen
  | twenty
deriving DecidableEq, Repr

namespace Draft

def rank : Draft → Nat
  | four => 4
  | six => 6
  | seven => 7
  | nineteen => 19
  | twenty => 20

def url : Draft → String
  | four => "http://json-schema.org/draft-04/schema"
  | six => "http://json-schema.org/draft-06/schema"
  | seven => "http://json-schema.org/draft-07/schema"
  | nineteen => "https://json-schema.org/draft/2019-09/schema"
  | twenty => "https://json-schema.org/draft/2020-12/schema"

def all : List Draft := [four, six, seven, nineteen, twenty]

private def withoutHash (s : String) : List Char := (s.toList.reverse.dropWhile (· == '#')).reverse

def ofSchema? (schema : Json) : Option Draft :=
  match schema.field? "$schema" with
  | some (.string s) => all.find? fun d => d.url.toList == withoutHash s
  | _ => some twenty

def idKey : Draft → String
  | four => "id"
  | _ => "$id"

end Draft

namespace Json

mutual

def height : Json → Nat
  | .array items => heightItems items + 1
  | .object fields => heightFields fields + 1
  | _ => 1

def heightItems : List Json → Nat
  | [] => 0
  | x :: xs => max (height x) (heightItems xs)

def heightFields : List (String × Json) → Nat
  | [] => 0
  | (_, x) :: rest => max (height x) (heightFields rest)

end

mutual

def parts : Json → List Json
  | .array items => .array items :: partsOfItems items
  | .object fields => .object fields :: partsOfFields fields
  | v => [v]

def partsOfItems : List Json → List Json
  | [] => []
  | x :: xs => parts x ++ partsOfItems xs

def partsOfFields : List (String × Json) → List Json
  | [] => []
  | (_, x) :: rest => parts x ++ partsOfFields rest

end

private def unescape : List Char → List Char
  | '~' :: '1' :: cs => '/' :: unescape cs
  | '~' :: '0' :: cs => '~' :: unescape cs
  | c :: cs => c :: unescape cs
  | [] => []

def pointer? (v : Json) : List (List Char) → Option Json
  | [] => some v
  | key :: rest =>
    match v with
    | .object fields => ((fields.lookup (String.ofList (unescape key))).bind fun x => pointer? x rest)
    | .array items => ((Text.index? key).bind fun i => items[i]?).bind fun x => pointer? x rest
    | _ => none

end Json

namespace Schema

structure Context where
  draft : Draft
  root : Json

private def fragment? (base : Json) (d : Draft) (cs : List Char) : Option Json :=
  let cs := Text.decodeLossy (Url.percentDecode cs)
  match cs with
  | [] => some base
  | '/' :: rest => base.pointer? (Text.splitAll (· == '/') rest)
  | name =>
    base.parts.find? fun v =>
      ["$anchor", "$dynamicAnchor"].any (fun k =>
        match v.field? k with
        | some (.string s) => s.toList == name
        | _ => false) ||
      (match v.field? d.idKey with
        | some (.string s) => s.toList == '#' :: name
        | _ => false)

def Context.resolve? (c : Context) (ref : String) : Option Json :=
  let (front, fragment) := (Text.splitFirst '#' ref.toList).getD (ref.toList, [])
  let base? :=
    if front.isEmpty then some c.root
    else
      c.root.parts.find? fun v =>
        match v.field? c.draft.idKey with
        | some (.string s) => s.toList == front || s.toList == front ++ ['#']
        | _ => false
  base?.bind fun base => fragment? base c.draft fragment

end Schema

end InfraTemplate
