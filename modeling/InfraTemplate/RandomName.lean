namespace InfraTemplate

inductive RandomKind where
  | name
  | dashedName
  | int
deriving DecidableEq, Repr

namespace RandomKind

def ofName? : String → Option RandomKind
  | "name" => some name
  | "dashed-name" => some dashedName
  | "int" => some int
  | _ => none

def adjectives : List String :=
  ["amber", "brave", "calm", "dapper", "eager", "fancy", "gentle", "happy", "jolly", "keen",
    "lucid", "mellow", "nimble", "proud", "quiet", "swift"]

def nouns : List String :=
  ["badger", "comet", "dolphin", "falcon", "glacier", "harbor", "island", "lagoon", "meadow",
    "otter", "pebble", "quasar", "river", "summit", "tiger", "willow"]

def advance (seed : Nat) : Nat :=
  (seed * 6364136223846793005 + 1442695040888963407) % 0x10000000000000000

def pick (words : List String) (seed : Nat) : String := words.getD (seed / 0x200000000 % 16) "x"

def generate (k : RandomKind) (seed : Nat) : String :=
  let a := advance seed
  let b := advance a
  match k with
  | name => pick adjectives a ++ pick nouns b
  | dashedName => pick adjectives a ++ "-" ++ pick nouns b
  | int => toString (a / 0x200000000 % 1000 + 1)

end RandomKind

end InfraTemplate
