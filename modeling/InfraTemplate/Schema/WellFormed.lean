import InfraTemplate.Pattern.Parser
import InfraTemplate.Schema.Draft
import InfraTemplate.Schema.Number

namespace InfraTemplate.Schema

def typeNames : List String :=
  ["null", "boolean", "object", "array", "number", "string", "integer"]

def asString? : Json → Option String
  | .string s => some s
  | _ => none

def equal : Nat → Json → Json → Bool
  | 0, _, _ => false
  | n + 1, x, y =>
    match x, y with
    | .null, .null => true
    | .bool a, .bool b => a == b
    | .number a, .number b => a.agrees b
    | .string a, .string b => a == b
    | .array xs, .array ys => xs.length == ys.length && (xs.zip ys).all fun (a, b) => equal n a b
    | .object xs, .object ys =>
      xs.length == ys.length && (xs.zip ys).all fun ((k, a), (l, b)) => k == l && equal n a b
    | _, _ => false

def same (x y : Json) : Bool := equal (x.height + 1) x y

def distinct : List Json → Bool
  | [] => true
  | x :: xs => !xs.any (same x) && distinct xs

private def isNumber : Json → Bool
  | .number _ => true
  | _ => false

private def isCount : Json → Bool
  | .number n => n.toNat?.isSome
  | _ => false

private def isText : Json → Bool
  | .string _ => true
  | _ => false

private def isFlag : Json → Bool
  | .bool _ => true
  | _ => false

private def isList : Json → Bool
  | .array _ => true
  | _ => false

private def isNames : Json → Bool
  | .array items => items.all isText && distinct items
  | _ => false

private def isTypeName : Json → Bool
  | .string s => typeNames.contains s
  | _ => false

inductive Place where
  | itself
  | list
  | fields
  | itselfOrList
  | fieldsOrNames

def places (d : Draft) : List (String × Place) :=
  let since (n : Nat) (ks : List (String × Place)) := if n ≤ d.rank then ks else []
  [("additionalProperties", .itself), ("not", .itself), ("allOf", .list), ("anyOf", .list),
    ("oneOf", .list), ("properties", .fields), ("patternProperties", .fields),
    ("definitions", .fields), ("dependencies", .fieldsOrNames),
    ("items", if d = .twenty then .itself else .itselfOrList)] ++
  since 6 [("contains", .itself), ("propertyNames", .itself)] ++
  since 7 [("if", .itself), ("then", .itself), ("else", .itself)] ++
  since 19 [("$defs", .fields), ("dependentSchemas", .fields), ("unevaluatedItems", .itself),
    ("unevaluatedProperties", .itself)] ++
  (if d = .twenty then [("prefixItems", .list)] else [("additionalItems", .itself)])

def schemasOf? : Place → Json → Option (List Json)
  | .itself, v => some [v]
  | .list, .array items => if items.isEmpty then none else some items
  | .fields, .object fields => some (fields.map (·.2))
  | .itselfOrList, .array items => if items.isEmpty then none else some items
  | .itselfOrList, v => some [v]
  | .fieldsOrNames, .object fields =>
    fields.foldr (fun (_, v) acc =>
      match v with
      | .array _ => if isNames v then acc else none
      | v => acc.map (v :: ·)) (some [])
  | _, _ => none

def plainKeyword (d : Draft) (key : String) (v : Json) : Bool :=
  match key with
  | "type" =>
    match v with
    | .array items => !items.isEmpty && items.all isTypeName && distinct items
    | v => isTypeName v
  | "minimum" | "maximum" => isNumber v
  | "exclusiveMinimum" | "exclusiveMaximum" => if d = .four then isFlag v else isNumber v
  | "multipleOf" =>
    match v with
    | .number n => Number.lt (.int 0) n
    | _ => false
  | "minLength" | "maxLength" | "minItems" | "maxItems" | "minProperties" | "maxProperties" =>
    isCount v
  | "minContains" | "maxContains" => d.rank < 19 || isCount v
  | "uniqueItems" => isFlag v
  | "pattern" | "$ref" | "title" | "description" | "format" | "$schema" => isText v
  | "required" =>
    match v with
    | .array items => isNames v && (d != .four || !items.isEmpty)
    | _ => false
  | "enum" =>
    match v with
    | .array items => 19 ≤ d.rank || (d != .four && d != .six) || (!items.isEmpty && distinct items)
    | _ => false
  | "dependentRequired" =>
    d.rank < 19 ||
      (match v with
        | .object fields => fields.all fun (_, names) => isNames names
        | _ => false)
  | "$comment" => d.rank < 7 || isText v
  | "readOnly" => d.rank < 7 || isFlag v
  | "writeOnly" | "deprecated" => d.rank < 19 || isFlag v
  | "examples" => d.rank < 6 || isList v
  | "$anchor" | "$dynamicAnchor" | "$dynamicRef" | "$recursiveRef" => d.rank < 19 || isText v
  | "$id" => d = .four || isText v
  | "id" => d != .four || isText v
  | _ => true

def shaped (d : Draft) : Nat → Json → Bool
  | 0, _ => false
  | n + 1, schema =>
    match schema with
    | .bool _ => d != .four
    | .object fields =>
      fields.all (fun (k, v) =>
        plainKeyword d k v &&
          (match (places d).lookup k with
            | some place =>
              match v, k with
              | .bool _, "additionalProperties" => true
              | .bool _, "additionalItems" => true
              | v, _ =>
                match schemasOf? place v with
                | some schemas => schemas.all (shaped d n)
                | none => false
            | none => true)) &&
      (d != .four || ((fields.lookup "exclusiveMinimum").isNone || (fields.lookup "minimum").isSome) &&
        ((fields.lookup "exclusiveMaximum").isNone || (fields.lookup "maximum").isSome))
    | _ => false

def pattern? (source : String) : Option Pattern := Pattern.parse? Pattern.schema source

def reachable (c : Context) : Nat → List String → Json → Bool
  | 0, _, _ => true
  | n + 1, seen, schema =>
    match schema with
    | .object fields =>
      let refs := ["$ref", "$dynamicRef", "$recursiveRef"].filterMap fun k =>
        (fields.lookup k).bind asString?
      let onlyRef := c.draft.rank < 19 && (fields.lookup "$ref").isSome
      refs.all (fun ref =>
        seen.contains ref ||
          (match c.resolve? ref with
            | some target => reachable c n (ref :: seen) target
            | none => false)) &&
      (onlyRef || fields.all fun (k, v) =>
        match k, v with
        | "pattern", .string s => (pattern? s).isSome
        | "$defs", _ => true
        | "definitions", _ => true
        | k, v =>
          (k != "patternProperties" ||
            (match v with
              | .object patterns => patterns.all fun (p, _) => (pattern? p).isSome
              | _ => true)) &&
          (match (places c.draft).lookup k with
            | some place => ((schemasOf? place v).getD []).all (reachable c n seen)
            | none => true))
    | _ => true

def wellFormed (c : Context) : Bool :=
  shaped c.draft (c.root.height + 1) c.root && reachable c 1000 [] c.root

end InfraTemplate.Schema
