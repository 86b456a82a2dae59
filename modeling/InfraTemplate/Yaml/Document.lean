import InfraTemplate.Yaml.Event
import InfraTemplate.Yaml.Scalar.Resolution

namespace InfraTemplate.Yaml

/-- The events of a document with its anchors resolved: references name a place in the list.
A name is filed under the number of names before it, so that a name declared anew can share its
place with a later one; what is filed last holds for all references. -/
structure Document where
  events : List Event
  files : List (Nat × Nat)
  references : List (Nat × Nat)

namespace Document

private structure Anchors where
  names : List (String × Nat)
  files : List (Nat × Nat)
  references : List (Nat × Nat)

private def setName (name : String) (n : Nat) : List (String × Nat) → List (String × Nat)
  | [] => [(name, n)]
  | (k, m) :: rest => if k = name then (k, n) :: rest else (k, m) :: setName name n rest

private def anchorOf : Event → Option String
  | .scalar p _ _ => p.anchor
  | .sequence p => p.anchor
  | .mapping p => p.anchor
  | _ => none

private def note (s : Anchors) (position : Nat) (e : Event) : Option Anchors :=
  match e with
  | .reference name => do
    let n ← s.names.lookup name
    return { s with references := (position, n) :: s.references }
  | e =>
    match anchorOf e with
    | some name =>
      let n := s.names.length
      some { s with names := setName name n s.names, files := (n, position) :: s.files }
    | none => some s

def ofEvents? (events : List Event) : Option Document := do
  let s ← (events.zipIdx).foldlM (fun s (e, i) => note s i e) ⟨[], [], []⟩
  return ⟨events, s.files, s.references⟩

def target? (d : Document) (position : Nat) : Option (Nat × List Event) := do
  let n ← d.references.lookup position
  let p ← d.files.lookup n
  return (p, d.events.drop p)

end Document

namespace Value

def boolTag : String := "tag:yaml.org,2002:bool"

def intTag : String := "tag:yaml.org,2002:int"

def floatTag : String := "tag:yaml.org,2002:float"

def nullTag : String := "tag:yaml.org,2002:null"

private def ofResolved : Resolved → Option Value
  | .value v => some v
  | .outOfRange => none

def ofScalar? (tag : Option String) (text : String) (plain : Bool) : Option Value :=
  match tag with
  | none => if plain then ofResolved (resolve text) else some (.string text)
  | some t =>
    if t = boolTag then (bool? text).map .bool
    else if t = intTag then
      match wholeNumber? text.toList with
      | some i => if Number.inRange i then some (.number (.int i)) else none
      | none => none
    else if t = floatTag then (double? text).map fun x => .number (.float x)
    else if t = nullTag then if isNullText text then some .null else none
    else some (.string text)

def localTag? (p : Properties) : Option String :=
  match p.tag with
  | some t =>
    match t.toList with
    | '!' :: cs => some (String.ofList (cs.dropWhile (· == '!')))
    | _ => none
  | none => none

abbrev Rest := Nat × List Event

abbrev Read := StateT Nat Option

private def refuse {α : Type} : Read α := fun _ => none

private def spend : Read Unit := fun n => if n = 0 then none else some ((), n - 1)

mutual

/-- The node at the head of the events. Nesting is limited by `depth`; a node inside a tag ignores
its own tag, and so do the keys of a mapping inside a tag. -/
private def read (d : Document) (tagged : Bool) : Nat → Nat → Rest → Read (Value × Rest)
  | 0, _, _ => refuse
  | fuel + 1, depth, (at_, events) =>
    match events with
    | .reference _ :: rest => do
      spend
      match d.target? at_ with
      | some start => do
        let (v, _) ← read d false fuel depth start
        return (v, (at_ + 1, rest))
      | none => refuse
    | .scalar p text plain :: rest =>
      match if tagged then none else localTag? p with
      | some name =>
        match if plain then ofResolved (resolve text) else some (.string text) with
        | some v => return (.tagged name v, (at_ + 1, rest))
        | none => refuse
      | none =>
        match ofScalar? (if tagged then none else p.tag) text plain with
        | some v => return (v, (at_ + 1, rest))
        | none => refuse
    | .sequence p :: rest => do
      if depth = 0 then refuse
      let (items, rest) ← readItems d fuel (depth - 1) (at_ + 1, rest)
      return (wrap tagged p (.sequence items), rest)
    | .mapping p :: rest => do
      if depth = 0 then refuse
      let inside := tagged || (localTag? p).isSome
      let (entries, rest) ← readEntries d inside fuel (depth - 1) [] (at_ + 1, rest)
      return (wrap tagged p (.mapping entries), rest)
    | _ => refuse
where
  wrap (tagged : Bool) (p : Properties) (v : Value) : Value :=
    match if tagged then none else localTag? p with
    | some name => .tagged name v
    | none => v

private def readItems (d : Document) : Nat → Nat → Rest → Read (List Value × Rest)
  | 0, _, _ => refuse
  | fuel + 1, depth, (at_, events) =>
    match events with
    | .sequenceEnd :: rest => return ([], (at_ + 1, rest))
    | events => do
      let (v, rest) ← read d false fuel depth (at_, events)
      let (vs, rest) ← readItems d fuel depth rest
      return (v :: vs, rest)

private def readEntries (d : Document) (inside : Bool) :
    Nat → Nat → List (Value × Value) → Rest → Read (List (Value × Value) × Rest)
  | 0, _, _, _ => refuse
  | fuel + 1, depth, seen, (at_, events) =>
    match events with
    | .mappingEnd :: rest => return (seen.reverse, (at_ + 1, rest))
    | events => do
      let (k, rest) ← read d inside fuel depth (at_, events)
      if seen.any fun (l, _) => l.same k then refuse
      let (v, rest) ← read d false fuel depth rest
      readEntries d inside fuel depth ((k, v) :: seen) rest

end

def maxNesting : Nat := 128

def maxRepetition : Nat := 100

def ofDocument? (d : Document) : Option Value :=
  if d.events.isEmpty then some .null
  else
    -- at most this many calls are nested: one a level, and one an entry at each level
    let fuel := (maxNesting + 2) * (d.events.length + 2)
    match read d false fuel maxNesting (0, d.events) (maxRepetition * d.events.length) with
    | some ((v, _), _) => some v
    | none => none

end Value

def parse? (s : String) : Option Value := do
  let tokens ← tokens? s
  let events ← Event.ofTokens? tokens
  let document ← Document.ofEvents? events
  Value.ofDocument? document

end InfraTemplate.Yaml
