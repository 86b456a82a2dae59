import InfraTemplate.Command.Run

namespace InfraTemplate.Main

abbrev Known := List (String × Except PathFault FileTree)

def look (path : String) : IO (Except PathFault FileTree) := do
  try
    return .ok (.file (← IO.FS.readBinFile path))
  catch
    | .noFileOrDirectory .. => return .error .missing
    | _ => return .error .malformed

def environment : IO (Entries String) := do
  try
    let raw ← IO.FS.readBinFile "/proc/self/environ"
    let text := (String.fromUTF8? raw).getD ""
    return (Text.splitAll (· == '\x00') text.toList).filterMap fun assignment =>
      (Text.splitFirst '=' assignment).map fun (name, value) =>
        (String.ofList name, String.ofList value)
  catch _ => return []

def world (env : Entries String) (seed : Nat) (known : Known) : World :=
  { World.empty with
    files := fun path => (known.lookup path).getD (.error .unread)
    env := env
    seed := seed }

def evaluator : Evaluator := Evaluator.upTo (Nat.pow 2 62)

partial def settle (c : Command) (env : Entries String) (seed : Nat) (stdin : ByteArray)
    (known : Known) : IO (Option (Except Command.Failure String)) := do
  let result := c.run (world env seed known) stdin evaluator
  match result with
  | some (.error f) =>
    match f.lastRead? with
    | some path =>
      if (known.lookup path).isSome then return result
      else settle c env seed stdin ((path, ← look path) :: known)
    | none => return result
  | _ => return result

def fail (f : Command.Failure) : IO UInt32 := do
  IO.eprintln ("Error: " ++ f.message)
  if let some cause := f.cause? then IO.eprintln ("\nCaused by:\n    " ++ cause.message)
  return 1

def deliver (c : Command) (text : String) : IO UInt32 := do
  match c.output? with
  | none =>
    IO.print text
    return 0
  | some path =>
    try
      IO.FS.writeFile path text
      return 0
    catch _ => fail (.output path)

def perform (c : Command) (env : Entries String) : IO UInt32 := do
  let stdin ← if c.readsStdin then (← IO.getStdin).readBinToEnd else pure .empty
  let known := [(World.hostFile, ← look World.hostFile)]
  match ← settle c env (← IO.rand 0 0x7FFFFFFF) stdin known with
  | some (.ok text) => deliver c text
  | some (.error f) => fail f
  | none =>
    IO.eprintln "Error: evaluation takes too many steps"
    return 1

end InfraTemplate.Main

def main (args : List String) : IO UInt32 := do
  let env ← InfraTemplate.Main.environment
  match InfraTemplate.Command.ofArguments args env with
  | .ok c => InfraTemplate.Main.perform c env
  | .error .help =>
    IO.print InfraTemplate.Command.usage
    return 0
  | .error (.misuse m) =>
    IO.eprint ("error: " ++ m.message ++ "\n\n" ++ InfraTemplate.Command.usage)
    return 2
