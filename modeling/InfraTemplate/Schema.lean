import InfraTemplate.Schema.Format
import InfraTemplate.Schema.WellFormed

namespace InfraTemplate.Schema

/-- What the keywords of a schema have looked at: properties by name, and items by index. -/
structure Seen where
  properties : List String
  items : List Nat

def Seen.nothing : Seen := ⟨[], []⟩

def Seen.join (a b : Seen) : Seen := ⟨a.properties ++ b.properties, a.items ++ b.items⟩

abbrev Verdict := Option Seen

def accept : Verdict := some .nothing

def demand (b : Bool) : Verdict := if b then accept else none

def every (vs : List Verdict) : Verdict :=
  vs.foldr (fun v acc => v.bind fun a => acc.map a.join) accept

def hasType (d : Draft) (v : Json) (name : String) : Bool :=
  match name, v with
  | "null", .null => true
  | "boolean", .bool _ => true
  | "object", .object _ => true
  | "array", .array _ => true
  | "string", .string _ => true
  | "number", .number _ => true
  | "integer", .number (.int _) => true
  | "integer", .number n => d != .four && n.isWhole
  | _, _ => false

private def names : Json → List String
  | .string s => [s]
  | .array items => items.filterMap asString?
  | _ => []

private def items? : Json → Option (List Json)
  | .array items => some items
  | _ => none

private def fields? : Json → Option (List (String × Json))
  | .object fields => some fields
  | _ => none

private def limit (n : Json) (count : Nat) (below : Bool) : Bool :=
  match n with
  | .number n => if below then n.le (.int count) else Number.le (.int count) n
  | _ => true

private def patternMatches (source text : String) : Bool :=
  match pattern? source with
  | some p => p.matchesIn text
  | none => false

def checkPlain (d : Draft) (fields : List (String × Json)) (key : String) (k v : Json) : Bool :=
  match key, k, v with
  | "type", k, v => (names k).any (hasType d v)
  | "enum", .array items, v => items.any (same v)
  | "const", k, v => d = .four || same k v
  | "minimum", .number n, .number x =>
    if d = .four && (fields.lookup "exclusiveMinimum").any (same (.bool true)) then n.lt x else n.le x
  | "maximum", .number n, .number x =>
    if d = .four && (fields.lookup "exclusiveMaximum").any (same (.bool true)) then x.lt n else x.le n
  | "exclusiveMinimum", .number n, .number x => n.lt x
  | "exclusiveMaximum", .number n, .number x => x.lt n
  | "multipleOf", .number n, .number x => x.isMultipleOf n
  | "minLength", n, .string s => limit n s.length true
  | "maxLength", n, .string s => limit n s.length false
  | "pattern", .string p, .string s => patternMatches p s
  | "format", .string name, .string s => (Format.ofName? d name).all fun f => f.holds s
  | "minItems", n, .array items => limit n items.length true
  | "maxItems", n, .array items => limit n items.length false
  | "uniqueItems", .bool true, .array items => distinct items
  | "minProperties", n, .object fs => limit n fs.length true
  | "maxProperties", n, .object fs => limit n fs.length false
  | "required", .array ks, .object fs => (ks.filterMap asString?).all fun k => (fs.lookup k).isSome
  | "dependentRequired", .object deps, .object fs =>
    d.rank < 19 || deps.all fun (k, ks) =>
      (fs.lookup k).isNone || (names ks).all fun l => (fs.lookup l).isSome
  | _, _, _ => true

def checkApplied (d : Draft) (sub : Json → Json → Verdict) (fields : List (String × Json))
    (key : String) (k v : Json) : Verdict :=
  let since (n : Nat) (x : Verdict) : Verdict := if n ≤ d.rank then x else accept
  match key, k, v with
  | "allOf", .array schemas, v => every (schemas.map fun s => sub s v)
  | "anyOf", .array schemas, v =>
    let accepted := schemas.filterMap fun s => sub s v
    if accepted.isEmpty then none else some (accepted.foldr Seen.join .nothing)
  | "oneOf", .array schemas, v =>
    match schemas.filterMap fun s => sub s v with
    | [seen] => some seen
    | _ => none
  | "not", s, v => demand (sub s v).isNone
  | "if", s, v =>
    since 7 <|
      match sub s v with
      | some seen => every [some seen, ((fields.lookup "then").map fun t => sub t v).getD accept]
      | none => ((fields.lookup "else").map fun t => sub t v).getD accept
  | "properties", .object props, .object fs =>
    every (fs.filterMap fun (name, x) =>
      (props.lookup name).map fun s => (sub s x).map fun _ => ⟨[name], []⟩)
  | "patternProperties", .object props, .object fs =>
    every (fs.flatMap fun (name, x) =>
      (props.filter fun (p, _) => patternMatches p name).map fun (_, s) =>
        (sub s x).map fun _ => ⟨[name], []⟩)
  | "additionalProperties", s, .object fs =>
    let declared := ((fields.lookup "properties").bind fields?).getD []
    let patterns := ((fields.lookup "patternProperties").bind fields?).getD []
    let extra := fs.filter fun (name, _) =>
      (declared.lookup name).isNone && !patterns.any fun (p, _) => patternMatches p name
    every (extra.map fun (name, x) => (sub s x).map fun _ => ⟨[name], []⟩)
  | "propertyNames", s, .object fs =>
    since 6 (every (fs.map fun (name, _) => (sub s (.string name)).map fun _ => .nothing))
  | "dependentSchemas", .object deps, v =>
    match v with
    | .object fs =>
      since 19 (every ((deps.filter fun (k, _) => (fs.lookup k).isSome).map fun (_, s) => sub s v))
    | _ => accept
  | "dependencies", .object deps, v =>
    match v with
    | .object fs =>
      every ((deps.filter fun (k, _) => (fs.lookup k).isSome).map fun (_, s) =>
        match s with
        | .array ks => demand ((ks.filterMap asString?).all fun l => (fs.lookup l).isSome)
        | s => sub s v)
    | _ => accept
  | "prefixItems", .array schemas, .array items =>
    if d = .twenty then
      every ((schemas.zip items).zipIdx.map fun ((s, x), i) => (sub s x).map fun _ => ⟨[], [i]⟩)
    else accept
  | "items", .array schemas, .array items =>
    every ((schemas.zip items).zipIdx.map fun ((s, x), i) => (sub s x).map fun _ => ⟨[], [i]⟩)
  | "items", s, .array items =>
    let start :=
      if d = .twenty then (((fields.lookup "prefixItems").bind items?).getD []).length else 0
    every (((items.zipIdx).drop start).map fun (x, i) => (sub s x).map fun _ => ⟨[], [i]⟩)
  | "additionalItems", s, .array items =>
    match fields.lookup "items" with
    | some (.array schemas) =>
      if d = .twenty then accept
      else every (((items.zipIdx).drop schemas.length).map fun (x, i) => (sub s x).map fun _ => ⟨[], [i]⟩)
    | _ => accept
  | "contains", s, .array items =>
    since 6 <|
      let hits := items.zipIdx.filterMap fun (x, i) => (sub s x).map fun _ => i
      let bound (k : String) : Option Nat :=
        if d.rank < 19 then none
        else
          match fields.lookup k with
          | some (.number n) => n.toNat?
          | _ => none
      let least := (bound "minContains").getD 1
      if hits.length < least || (bound "maxContains").any (· < hits.length) then none
      else some ⟨[], if d = .twenty then hits else []⟩
  | _, _, _ => accept

def checkRest (d : Draft) (sub : Json → Json → Verdict) (fields : List (String × Json))
    (v : Json) (seen : Seen) : Verdict :=
  if d.rank < 19 then some seen
  else
    let properties : Verdict :=
      match fields.lookup "unevaluatedProperties", v with
      | some s, .object fs =>
        every ((fs.filter fun (name, _) => !seen.properties.contains name).map fun (name, x) =>
          (sub s x).map fun _ => ⟨[name], []⟩)
      | _, _ => accept
    let items : Verdict :=
      match fields.lookup "unevaluatedItems", v with
      | some s, .array xs =>
        every ((xs.zipIdx.filter fun (_, i) => !seen.items.contains i).map fun (x, i) =>
          (sub s x).map fun _ => ⟨[], [i]⟩)
      | _, _ => accept
    every [some seen, properties, items]

def check (c : Context) : Nat → Json → Json → Verdict
  | 0, _, _ => none
  | n + 1, schema, v =>
    match schema with
    | .bool b => demand b
    | .object fields =>
      let sub := check c n
      let refs := ["$ref", "$dynamicRef", "$recursiveRef"].filterMap fun k =>
        ((fields.lookup k).bind asString?).map fun ref =>
          match c.resolve? ref with
          | some target => sub target v
          | none => none
      if c.draft.rank < 19 && (fields.lookup "$ref").isSome then every refs
      else
        (every (refs ++ fields.map fun (key, k) =>
          if checkPlain c.draft fields key k v then checkApplied c.draft sub fields key k v
          else none)).bind (checkRest c.draft sub fields v)
    | _ => accept

def fuel : Nat := 10000

inductive Fault where
  | schema
  | value
deriving DecidableEq, Repr

def validate (schema value : Json) : Except Fault Unit :=
  match Draft.ofSchema? schema with
  | none => .error .schema
  | some d =>
    let c : Context := ⟨d, schema⟩
    if !wellFormed c then .error .schema
    else if (check c fuel schema value).isSome then .ok ()
    else .error .value

end InfraTemplate.Schema
