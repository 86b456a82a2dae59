import InfraTemplate.Location
import InfraTemplate.Sha256
import InfraTemplate.Text.Hex

namespace InfraTemplate

structure Fetched where
  resolved : String
  raw : ByteArray
  parsed : Node

structure Record where
  key : String
  importer : String
  imported : String
  digest : String
deriving DecidableEq, Repr

/-- Fetches the location written as the first text in the document at the second. The number says
how many imports came before. -/
abbrev Resolver := Nat → String → String → Except ImportFailure Fetched

def digestText (raw : ByteArray) : String := Text.hexText (Sha256.digest raw.toList)

end InfraTemplate
