import InfraTemplate.Pattern.Parser
import InfraTemplate.Schema.Draft
import InfraTemplate.Url.Host

/-!
The formats of text that a schema can name. Drafts 4, 6 and 7 hold a value to them; later drafts
take them as a remark.
-/

namespace InfraTemplate.Schema

inductive Format where
  | date
  | time
  | dateTime
  | email
  | hostname
  | addressOfFour
  | addressOfSix
  | pattern
  | identifier
  | identifierReference
  | wideIdentifier
  | wideIdentifierReference
  | identifierTemplate
  | pointer
  | relativePointer
deriving DecidableEq, Repr

namespace Format

def table : List (String × Nat × Format) :=
  [("date", 4, date), ("time", 4, time), ("date-time", 4, dateTime), ("email", 4, email),
    ("idn-email", 4, email), ("hostname", 4, hostname), ("ipv4", 4, addressOfFour),
    ("ipv6", 4, addressOfSix), ("regex", 4, pattern), ("uri", 4, identifier),
    ("uri-reference", 6, identifierReference), ("uri-template", 6, identifierTemplate),
    ("json-pointer", 6, pointer), ("iri", 7, wideIdentifier),
    ("iri-reference", 7, wideIdentifierReference), ("relative-json-pointer", 7, relativePointer)]

def ofName? (d : Draft) (name : String) : Option Format :=
  if d.rank < 19 then
    match table.lookup name with
    | some (since, f) => if since ≤ d.rank then some f else none
    | none => none
  else none

section Calendar

private def twoDigits? (a b : Char) : Option Nat :=
  if Text.isDigit a && Text.isDigit b then some (Text.digitsValue [a, b]) else none

def isLeapYear (y : Nat) : Bool := (y % 4 == 0 && y % 100 != 0) || y % 400 == 0

def daysIn (year month : Nat) : Nat :=
  if month = 2 then if isLeapYear year then 29 else 28
  else if [4, 6, 9, 11].contains month then 30
  else 31

def isDate : List Char → Bool
  | [a, b, c, d, '-', e, f, '-', g, h] =>
    match twoDigits? a b, twoDigits? c d, twoDigits? e f, twoDigits? g h with
    | some century, some year, some month, some day =>
      1 ≤ month && month ≤ 12 && 1 ≤ day && day ≤ daysIn (century * 100 + year) month
    | _, _, _, _ => false
  | _ => false

private def zone? : List Char → Option Int
  | ['Z'] | ['z'] => some 0
  | [sign, a, b, ':', c, d] =>
    match twoDigits? a b, twoDigits? c d with
    | some hours, some minutes =>
      if 23 < hours || 59 < minutes then none
      else if sign = '+' then some (hours * 60 + minutes : Nat)
      else if sign = '-' then some (-(hours * 60 + minutes : Nat))
      else none
    | _, _ => none
  | _ => none

private def afterFraction? : List Char → Option (List Char)
  | '.' :: c :: cs => if Text.isDigit c then some (cs.dropWhile Text.isDigit) else none
  | '.' :: [] => none
  | cs => some cs

def isTime : List Char → Bool
  | a :: b :: ':' :: c :: d :: ':' :: e :: f :: rest =>
    match twoDigits? a b, twoDigits? c d, twoDigits? e f, (afterFraction? rest).bind zone? with
    | some hour, some minute, some second, some ahead =>
      hour ≤ 23 && minute ≤ 59 && second ≤ 60 &&
        (second < 60 || ((hour * 60 + minute : Nat) - ahead) % 1440 == 1439)
    | _, _, _, _ => false
  | _ => false

def isDateTime (cs : List Char) : Bool :=
  isDate (cs.take 10) &&
    (match cs.drop 10 with
      | 'T' :: rest | 't' :: rest => isTime rest
      | _ => false)

end Calendar

section Host

private def isLetter (c : Char) : Bool := ('a' ≤ c && c ≤ 'z') || ('A' ≤ c && c ≤ 'Z')

def isHostname (cs : List Char) : Bool :=
  !cs.isEmpty && cs.head? != some '-' && cs.getLast? != some '-' && cs.length ≤ 255 &&
    cs.all (fun c => isLetter c || Text.isDigit c || c == '-' || c == '.') &&
    (Text.splitAll (· == '.') cs).all fun label => label.length ≤ 63

def isAddressOfFour (cs : List Char) : Bool :=
  let parts := Text.splitAll (· == '.') cs
  parts.length == 4 && parts.all fun p =>
    !p.isEmpty && p.length ≤ 3 && p.all Text.isDigit && (p.head? != some '0' || p.length == 1) &&
      Text.digitsValue p < 256

def isAddressOfSix (cs : List Char) : Bool := (Url.addressOfSix? cs).isSome

private def isAtom (c : Char) : Bool :=
  isLetter c || Text.isDigit c || "!#$%&'*+-/=?^_\x60\x7b|\x7d~".toList.contains c || 0x80 ≤ c.toNat

private def isQuotedText : List Char → Bool
  | [] => true
  | '\\' :: _ :: cs => isQuotedText cs
  | c :: cs => c != '"' && c != '\\' && (c == ' ' || c == '\t' || 0x20 < c.toNat) && isQuotedText cs

private def isMailbox (cs : List Char) : Bool :=
  let quoted :=
    match cs with
    | '"' :: rest => rest.getLast? == some '"' && isQuotedText rest.dropLast
    | _ => false
  !cs.isEmpty && cs.length ≤ 64 &&
    (quoted || (Text.splitAll (· == '.') cs).all fun part => !part.isEmpty && part.all isAtom)

private def isMailHost (cs : List Char) : Bool :=
  match cs with
  | '[' :: rest =>
    rest.getLast? == some ']' &&
      (match Text.afterHead? "IPv6:".toList rest.dropLast with
        | some inside => isAddressOfSix inside
        | none => isAddressOfFour rest.dropLast)
  | cs => isHostname cs && (Text.splitAll (· == '.') cs).all fun label => !label.isEmpty

def isEmail (cs : List Char) : Bool :=
  match Text.splitFirst '@' cs.reverse with
  | some (host, mailbox) => isMailbox mailbox.reverse && isMailHost host.reverse
  | none => false

end Host

section Identifier

private def isWide (c : Char) : Bool :=
  let n := c.toNat
  (0xA0 ≤ n && n ≤ 0xD7FF) || (0xF900 ≤ n && n ≤ 0xFDCF) || (0xFDF0 ≤ n && n ≤ 0xFFEF) ||
    (0x10000 ≤ n && n ≤ 0xEFFFD && n % 0x10000 ≤ 0xFFFD && !(0xE0000 ≤ n && n ≤ 0xE0FFF))

private def isPrivate (c : Char) : Bool :=
  let n := c.toNat
  (0xE000 ≤ n && n ≤ 0xF8FF) || (0xF0000 ≤ n && n % 0x10000 ≤ 0xFFFD)

private def isUnreserved (c : Char) : Bool :=
  isLetter c || Text.isDigit c || "-._~".toList.contains c

private def isSpelled (wide : Bool) (more : List Char) : List Char → Bool
  | [] => true
  | '%' :: a :: b :: cs =>
    (Text.hexValue? a).isSome && (Text.hexValue? b).isSome && isSpelled wide more cs
  | c :: cs =>
    (isUnreserved c || "!$&'()*+,;=".toList.contains c || more.contains c || (wide && isWide c)) &&
      isSpelled wide more cs

private def isFutureAddress : List Char → Bool
  | v :: cs =>
    (v == 'v' || v == 'V') &&
      (match Text.splitFirst '.' cs with
        | some (version, rest) =>
          !version.isEmpty && version.all (fun c => (Text.hexValue? c).isSome) && !rest.isEmpty &&
            !rest.contains '%' && isSpelled false [':'] rest
        | none => false)
  | [] => false

private def isHostAndPort (wide : Bool) (cs : List Char) : Bool :=
  match cs with
  | '[' :: rest =>
    match Text.splitFirst ']' rest with
    | some (inside, after) =>
      (isAddressOfSix inside || isFutureAddress inside) &&
        (match after with
          | [] => true
          | ':' :: number => number.all Text.isDigit
          | _ => false)
    | none => false
  | cs =>
    match Text.splitFirst ':' cs with
    | some (host, number) => isSpelled wide [] host && number.all Text.isDigit
    | none => isSpelled wide [] cs

private def isAuthority (wide : Bool) (cs : List Char) : Bool :=
  match Text.splitFirst '@' cs with
  | some (user, rest) => isSpelled wide [':'] user && isHostAndPort wide rest
  | none => isHostAndPort wide cs

private def isHierarchy (wide : Bool) : List Char → Bool
  | '/' :: '/' :: cs =>
    isAuthority wide (cs.takeWhile (· != '/')) &&
      isSpelled wide [':', '@', '/'] (cs.dropWhile (· != '/'))
  | cs => isSpelled wide [':', '@', '/'] cs

def isIdentifier (wide whole : Bool) (cs : List Char) : Bool :=
  let (front, fragment) := (Text.splitFirst '#' cs).getD (cs, [])
  let (path, query) := (Text.splitFirst '?' front).getD (front, [])
  isSpelled wide [':', '@', '/', '?'] fragment &&
    isSpelled wide [':', '@', '/', '?'] (query.filter fun c => !(wide && isPrivate c)) &&
    (match Text.splitFirst ':' (path.takeWhile (· != '/')) with
      | some (c :: scheme, _) =>
        isLetter c && scheme.all (fun d => isLetter d || Text.isDigit d || "+-.".toList.contains d) &&
          isHierarchy wide (path.drop (scheme.length + 2))
      | some ([], _) => false
      | none => !whole && isHierarchy wide path)

def templatePattern : String :=
  let name := "(?:[A-Za-z0-9_]|%[0-9A-Fa-f]\x7b2\x7d)+(?::[1-9][0-9]\x7b0,3\x7d|\\*)?"
  "^(?:[^\\x00-\\x20\"'<>%\\\\^\\x60\x7b|\x7d]|%[0-9A-Fa-f]\x7b2\x7d|\\\x7b[+#./;?&=,!@|]?" ++
    name ++ "(?:," ++ name ++ ")*\\\x7d)*$"

end Identifier

section Pointer

private def isEscaped : List Char → Bool
  | [] => true
  | '~' :: c :: cs => (c == '0' || c == '1') && isEscaped cs
  | c :: cs => c != '~' && isEscaped cs

def isPointer (cs : List Char) : Bool :=
  cs.isEmpty || (cs.head? == some '/' && isEscaped cs)

def isRelativePointer (cs : List Char) : Bool :=
  let up := cs.takeWhile Text.isDigit
  let rest := cs.dropWhile Text.isDigit
  !up.isEmpty && (up.head? != some '0' || up.length == 1) && (rest == ['#'] || isPointer rest)

end Pointer

def holds (f : Format) (s : String) : Bool :=
  match f with
  | date => isDate s.toList
  | time => isTime s.toList
  | dateTime => isDateTime s.toList
  | email => isEmail s.toList
  | hostname => isHostname s.toList
  | addressOfFour => isAddressOfFour s.toList
  | addressOfSix => isAddressOfSix s.toList
  | pattern => (Pattern.parse? Pattern.schema s).isSome
  | identifier => isIdentifier false true s.toList
  | identifierReference => isIdentifier false false s.toList
  | wideIdentifier => isIdentifier true true s.toList
  | wideIdentifierReference => isIdentifier true false s.toList
  | identifierTemplate =>
    match Pattern.parse? Pattern.schema templatePattern with
    | some p => p.matchesIn s
    | none => false
  | pointer => isPointer s.toList
  | relativePointer => isRelativePointer s.toList

end Format

end InfraTemplate.Schema
