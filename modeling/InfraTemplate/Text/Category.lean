import InfraTemplate.Text.CategoryTable

namespace InfraTemplate.Text.Category

def inRuns (runs : Runs) (c : Char) : Bool :=
  runs.any fun (first, last, step) =>
    first ≤ c.toNat && c.toNat ≤ last && (c.toNat - first) % step == 0

def table : List (String × Runs) :=
  [("Lu", uppercaseLetters), ("Ll", lowercaseLetters), ("Lt", titlecaseLetters),
    ("Lm", modifierLetters), ("Lo", otherLetters), ("Mn", nonspacingMarks), ("Mc", spacingMarks),
    ("Me", enclosingMarks), ("Nd", decimalNumbers), ("Nl", letterNumbers), ("No", otherNumbers),
    ("Pc", connectorPunctuation), ("Pd", dashPunctuation), ("Ps", openPunctuation),
    ("Pe", closePunctuation), ("Pi", initialPunctuation), ("Pf", finalPunctuation),
    ("Po", otherPunctuation), ("Sm", mathSymbols), ("Sc", currencySymbols),
    ("Sk", modifierSymbols), ("So", otherSymbols), ("Zs", spaceSeparators),
    ("Zl", lineSeparators), ("Zp", paragraphSeparators), ("Cc", controls), ("Cf", formats),
    ("Co", privateUse)]

def has (name : String) (c : Char) : Bool :=
  table.any fun (short, runs) => name.toList.isPrefixOf short.toList && inRuns runs c

def isAssigned (c : Char) : Bool := table.any fun (_, runs) => inRuns runs c

end InfraTemplate.Text.Category
