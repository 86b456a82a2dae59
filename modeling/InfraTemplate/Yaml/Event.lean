import InfraTemplate.Yaml.Token

namespace InfraTemplate.Yaml

structure Properties where
  anchor : Option String
  tag : Option String
deriving DecidableEq, Repr

inductive Event where
  | reference (name : String)
  | scalar (props : Properties) (text : String) (plain : Bool)
  | sequence (props : Properties)
  | sequenceEnd
  | mapping (props : Properties)
  | mappingEnd
deriving DecidableEq, Repr

abbrev Handles := List (String × String)

def defaultHandles : Handles := [("!", "!"), ("!!", "tag:yaml.org,2002:")]

namespace Event

def noProperties : Properties := ⟨none, none⟩

def empty : Event := .scalar noProperties "" true

private def expandTag (handles : Handles) (handle rest : String) : Option String :=
  if handle.isEmpty then some rest else (handles.lookup handle).map (· ++ rest)

private def properties (handles : Handles) : List Token → Option (Properties × List Token)
  | .anchor a :: .tag h r :: ts => do
    let t ← expandTag handles h r
    return (⟨some a, some t⟩, ts)
  | .tag h r :: .anchor a :: ts => do
    let t ← expandTag handles h r
    return (⟨some a, some t⟩, ts)
  | .anchor a :: ts => some (⟨some a, none⟩, ts)
  | .tag h r :: ts => do
    let t ← expandTag handles h r
    return (⟨none, some t⟩, ts)
  | ts => some (noProperties, ts)

abbrev Progress := List Token × List Event

mutual

private def node (handles : Handles) (block indentless : Bool) :
    Nat → Progress → Option Progress
  | 0, _ => none
  | fuel + 1, (ts, acc) =>
    match ts with
    | .reference name :: ts => some (ts, .reference name :: acc)
    | ts =>
      match properties handles ts with
      | none => none
      | some (p, ts) =>
        match ts with
        | .entry :: _ =>
          if indentless then indentlessEntries handles fuel (ts, .sequence p :: acc)
          else if p = noProperties then none
          else some (ts, .scalar p "" true :: acc)
        | .scalar text plain :: ts => some (ts, .scalar p text plain :: acc)
        | .flowSequence :: ts => flowEntries handles true fuel (ts, .sequence p :: acc)
        | .flowMapping :: ts => flowPairs handles true fuel (ts, .mapping p :: acc)
        | .blockSequence :: rest =>
          if block then blockEntries handles fuel (rest, .sequence p :: acc)
          else if p = noProperties then none
          else some (ts, .scalar p "" true :: acc)
        | .blockMapping :: rest =>
          if block then blockPairs handles fuel (rest, .mapping p :: acc)
          else if p = noProperties then none
          else some (ts, .scalar p "" true :: acc)
        | ts => if p = noProperties then none else some (ts, .scalar p "" true :: acc)

private def blockEntries (handles : Handles) : Nat → Progress → Option Progress
  | 0, _ => none
  | fuel + 1, (ts, acc) =>
    match ts with
    | .blockEnd :: ts => some (ts, .sequenceEnd :: acc)
    | .entry :: ts =>
      match ts with
      | .entry :: _ => blockEntries handles fuel (ts, empty :: acc)
      | .blockEnd :: _ => blockEntries handles fuel (ts, empty :: acc)
      | ts =>
        match node handles true false fuel (ts, acc) with
        | none => none
        | some p => blockEntries handles fuel p
    | _ => none

private def indentlessEntries (handles : Handles) : Nat → Progress → Option Progress
  | 0, _ => none
  | fuel + 1, (ts, acc) =>
    match ts with
    | .entry :: ts =>
      match ts with
      | .entry :: _ => indentlessEntries handles fuel (ts, empty :: acc)
      | .key :: _ => indentlessEntries handles fuel (ts, empty :: acc)
      | .value :: _ => indentlessEntries handles fuel (ts, empty :: acc)
      | .blockEnd :: _ => indentlessEntries handles fuel (ts, empty :: acc)
      | ts =>
        match node handles true false fuel (ts, acc) with
        | none => none
        | some p => indentlessEntries handles fuel p
    | ts => some (ts, .sequenceEnd :: acc)

private def blockPairs (handles : Handles) : Nat → Progress → Option Progress
  | 0, _ => none
  | fuel + 1, (ts, acc) =>
    match ts with
    | .blockEnd :: ts => some (ts, .mappingEnd :: acc)
    | .key :: ts =>
      match ts with
      | .key :: _ => blockValue handles fuel (ts, empty :: acc)
      | .value :: _ => blockValue handles fuel (ts, empty :: acc)
      | .blockEnd :: _ => blockValue handles fuel (ts, empty :: acc)
      | ts =>
        match node handles true true fuel (ts, acc) with
        | none => none
        | some p => blockValue handles fuel p
    | _ => none

private def blockValue (handles : Handles) : Nat → Progress → Option Progress
  | 0, _ => none
  | fuel + 1, (ts, acc) =>
    match ts with
    | .value :: ts =>
      match ts with
      | .key :: _ => blockPairs handles fuel (ts, empty :: acc)
      | .value :: _ => blockPairs handles fuel (ts, empty :: acc)
      | .blockEnd :: _ => blockPairs handles fuel (ts, empty :: acc)
      | ts =>
        match node handles true true fuel (ts, acc) with
        | none => none
        | some p => blockPairs handles fuel p
    | ts => blockPairs handles fuel (ts, empty :: acc)

private def flowEntries (handles : Handles) (first : Bool) : Nat → Progress → Option Progress
  | 0, _ => none
  | fuel + 1, (ts, acc) =>
    match ts with
    | .flowSequenceEnd :: ts => some (ts, .sequenceEnd :: acc)
    | ts =>
      let separated : Option (List Token) :=
        match first, ts with
        | true, ts => some ts
        | false, .comma :: ts => some ts
        | false, _ => none
      match separated with
      | none => none
      | some (.flowSequenceEnd :: ts) => some (ts, .sequenceEnd :: acc)
      | some (.key :: ts) =>
        let acc := .mapping noProperties :: acc
        match ts with
        | .value :: ts => flowPairValue handles fuel (ts, empty :: acc)
        | .comma :: ts => flowPairValue handles fuel (ts, empty :: acc)
        | .flowSequenceEnd :: ts => flowPairValue handles fuel (ts, empty :: acc)
        | ts =>
          match node handles false false fuel (ts, acc) with
          | none => none
          | some p => flowPairValue handles fuel p
      | some ts =>
        match node handles false false fuel (ts, acc) with
        | none => none
        | some p => flowEntries handles false fuel p

private def flowPairValue (handles : Handles) : Nat → Progress → Option Progress
  | 0, _ => none
  | fuel + 1, (ts, acc) =>
    match ts with
    | .value :: ts =>
      match ts with
      | .comma :: _ => flowEntries handles false fuel (ts, .mappingEnd :: empty :: acc)
      | .flowSequenceEnd :: _ => flowEntries handles false fuel (ts, .mappingEnd :: empty :: acc)
      | ts =>
        match node handles false false fuel (ts, acc) with
        | none => none
        | some (ts, acc) => flowEntries handles false fuel (ts, .mappingEnd :: acc)
    | ts => flowEntries handles false fuel (ts, .mappingEnd :: empty :: acc)

private def flowPairs (handles : Handles) (first : Bool) : Nat → Progress → Option Progress
  | 0, _ => none
  | fuel + 1, (ts, acc) =>
    match ts with
    | .flowMappingEnd :: ts => some (ts, .mappingEnd :: acc)
    | ts =>
      let separated : Option (List Token) :=
        match first, ts with
        | true, ts => some ts
        | false, .comma :: ts => some ts
        | false, _ => none
      match separated with
      | none => none
      | some (.flowMappingEnd :: ts) => some (ts, .mappingEnd :: acc)
      | some (.key :: ts) =>
        match ts with
        | .value :: _ => flowValue handles fuel (ts, empty :: acc)
        | .comma :: _ => flowValue handles fuel (ts, empty :: acc)
        | .flowMappingEnd :: _ => flowValue handles fuel (ts, empty :: acc)
        | ts =>
          match node handles false false fuel (ts, acc) with
          | none => none
          | some p => flowValue handles fuel p
      | some ts =>
        match node handles false false fuel (ts, acc) with
        | none => none
        | some (ts, acc) => flowPairs handles false fuel (ts, empty :: acc)

private def flowValue (handles : Handles) : Nat → Progress → Option Progress
  | 0, _ => none
  | fuel + 1, (ts, acc) =>
    match ts with
    | .value :: ts =>
      match ts with
      | .comma :: _ => flowPairs handles false fuel (ts, empty :: acc)
      | .flowMappingEnd :: _ => flowPairs handles false fuel (ts, empty :: acc)
      | ts =>
        match node handles false false fuel (ts, acc) with
        | none => none
        | some p => flowPairs handles false fuel p
    | ts => flowPairs handles false fuel (ts, empty :: acc)

end

private def directives (version : Bool) (handles : Handles) :
    List Token → Option (Handles × List Token)
  | .version major minor :: ts =>
    if version || major ≠ 1 || (minor ≠ 1 && minor ≠ 2) then none else directives true handles ts
  | .tagHandle h e :: ts =>
    if (handles.lookup h).isSome then none else directives version (handles ++ [(h, e)]) ts
  | ts => some (handles ++ defaultHandles, ts)

private def endsContent : List Token → Bool
  | .version .. :: _ => true
  | .tagHandle .. :: _ => true
  | .documentStart :: _ => true
  | .documentEnd :: _ => true
  | .streamEnd :: _ => true
  | _ => false

private def root (handles : Handles) (ts : List Token) : Option Progress :=
  node handles true false (4 * ts.length + 8) (ts, [])

private def explicit (ts : List Token) : Option Progress := do
  let (handles, ts) ← directives false [] ts
  match ts with
  | .documentStart :: ts => if endsContent ts then some (ts, [empty]) else root handles ts
  | _ => none

def ofTokens? (ts : List Token) : Option (List Event) := do
  let (rest, events) ←
    match ts with
    | .streamEnd :: _ => some (ts, [])
    | .version .. :: _ => explicit ts
    | .tagHandle .. :: _ => explicit ts
    | .documentStart :: _ => explicit ts
    | ts => root defaultHandles ts
  if rest.dropWhile (· == .documentEnd) = [.streamEnd] then return events.reverse else none

end Event

end InfraTemplate.Yaml
