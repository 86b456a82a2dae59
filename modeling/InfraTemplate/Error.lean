import InfraTemplate.Node

namespace InfraTemplate

structure Visit where
  location : String
  path : String
deriving DecidableEq, Repr

abbrev Trace := List Visit

def Visit.text (v : Visit) : String := "\n  in " ++ v.location ++ " at " ++ v.path

def Trace.text (t : Trace) : String := String.join (t.reverse.map Visit.text)

inductive ImportFailure where
  | unknownScheme (scheme : String)
  | forbidden (location : String)
  | invalidLocation (reason : String)
  | notFound (what : String)
  | notConfigured (client : String)
  | request (reason : String)
  | decode (reason : String)
  | io (reason : String)
deriving DecidableEq, Repr

def ImportFailure.message : ImportFailure → String
  | unknownScheme scheme => "unknown import scheme \"" ++ scheme ++ "\""
  | forbidden location => "remote documents may not import local location " ++ location
  | invalidLocation reason => "invalid location: " ++ reason
  | notFound what => "not found: " ++ what
  | notConfigured client => "no " ++ client ++ " client configured"
  | request reason => "request failed: " ++ reason
  | decode reason => "could not decode: " ++ reason
  | io reason => "IO error: " ++ reason

inductive Defect where
  | unknownTag
  | keyNotScalar
  | missingKey (key : String)
  | notLookupPath (found : Kind)
  | expandKeys
  | notMap (found : Kind)
  | notSequence (found : Kind)
  | notString (found : Kind)
  | notPair (found : Kind)
  | pairLength (length : Nat)
  | variableNotString (found : Kind)
  | filterOutsideMap
  | unknownHelper (name : String)
  | placeholder (text : String)
  | invalidLookup (expr : String)
  | mergeBlock (found : Kind)
  | paramsNotMap (found : Kind)
  | templateNotNamed (found : Kind)
  | notTemplate (name : String) (found : Kind)
  | itemsNotSequence (found : Kind)
  | itemsNotMap (found : Kind)
  | splitOperands
  | emptyDelimiter
  | notKeyValue
  | attributeReference (text : String)
  | templateResources (template : String) (found : Kind)
  | sectionNotMap (heading : String) (found : Kind)
  | importNotString (found : Kind)
  | notPlain (expr : String)
  | paramNotMap
  | paramName
  | paramField (field : String)
  | allowedValues
deriving DecidableEq, Repr

def Defect.message : Defect → String
  | unknownTag => "unknown tag"
  | keyNotScalar => "map keys must be scalars, found "
  | missingKey key => "missing required key " ++ key
  | notLookupPath found => "expected a lookup path, found " ++ found.name
  | expandKeys => "payload must have exactly the keys template and params"
  | notMap found => "expected a map, found " ++ found.name
  | notSequence found => "expected a sequence, found " ++ found.name
  | notString found => "expected a string, found " ++ found.name
  | notPair found => "expected a two-element sequence, found " ++ found.name
  | pairLength length =>
    "expected a two-element sequence, found " ++ toString length ++ " elements"
  | variableNotString found => "var must be a string, found " ++ found.name
  | filterOutsideMap => "filter is only supported by !$map"
  | unknownHelper name => "unknown helper " ++ name
  | placeholder text => "cannot interpret placeholder " ++ text
  | invalidLookup expr => "invalid lookup path " ++ expr
  | mergeBlock found => "merge block must evaluate to a map, found " ++ found.name
  | paramsNotMap found => "params must be a map, found " ++ found.name
  | templateNotNamed found => "template must name a document, found " ++ found.name
  | notTemplate name found => name ++ " is a " ++ found.name ++ ", not a template document"
  | itemsNotSequence found => "items must be a sequence, found " ++ found.name
  | itemsNotMap found => "items must be a map, found " ++ found.name
  | splitOperands => "delimiter and value must be strings"
  | emptyDelimiter => "delimiter must not be empty"
  | notKeyValue => "expected a \x7bkey, value\x7d map or a [key, value] pair"
  | attributeReference text => "expected Resource.Attribute, found " ++ text
  | templateResources template found =>
    "template " ++ template ++ " has " ++ found.name ++ " resources"
  | sectionNotMap heading found => heading ++ " must be a map, found " ++ found.name
  | importNotString found => "import location must be a string, found " ++ found.name
  | notPlain expr => expr ++ " is not a plain value and cannot be used in an import location"
  | paramNotMap => "parameter must be a map"
  | paramName => "parameter needs a string Name"
  | paramField field => field ++ " must be a string"
  | allowedValues => "AllowedValues must be a sequence"

inductive Clash where
  | defAndImport
  | paramAndDef
  | paramAndImport
  | paramTwice
deriving DecidableEq, Repr

def Clash.message : Clash → String
  | defAndImport => "bound in both $defs and $imports"
  | paramAndDef => "parameter shadows a $defs entry"
  | paramAndImport => "parameter shadows an import"
  | paramTwice => "parameter declared twice"

inductive Violation where
  | missing
  | invalidSchema (reason : String)
  | schema (reasons : String)
  | notAllowed (value : String) (allowed : List String)
  | invalidPattern (pattern reason : String)
  | noMatch (value pattern : String)
  | kind (expected : String) (found : Kind)
  | unknownType (name : String)
deriving DecidableEq, Repr

def Violation.message : Violation → String
  | missing => "missing value and no default"
  | invalidSchema reason => "invalid Schema: " ++ reason
  | schema reasons => "schema validation failed: " ++ reasons
  | notAllowed value allowed =>
    value ++ " is not one of [" ++ String.intercalate ", " allowed ++ "]"
  | invalidPattern pattern reason => "invalid AllowedPattern " ++ pattern ++ ": " ++ reason
  | noMatch value pattern => value ++ " does not match " ++ pattern
  | kind expected found => "expected " ++ expected ++ ", found " ++ found.name
  | unknownType name => "unknown parameter type " ++ name

inductive Error where
  | failedImport (location importer : String) (cause : ImportFailure)
  | undefined (name path : String) (trace : Trace)
  | collision (name location : String) (clash : Clash)
  | malformed (construct path : String) (defect : Defect) (trace : Trace)
  | invalidParameter (param target path : String) (violation : Violation) (trace : Trace)
  | invalidResource (name type path : String) (trace : Trace)
  | tooDeep (limit : Nat) (path : String) (trace : Trace)
  | unreadable (location reason : String)
deriving DecidableEq, Repr

def Error.message : Error → String
  | failedImport location importer cause =>
    "could not import " ++ location ++ " (imported from " ++ importer ++ "): " ++ cause.message
  | undefined name path trace => name ++ " is not defined, at " ++ path ++ trace.text
  | collision name location clash =>
    name ++ " is declared more than once in " ++ location ++ ": " ++ clash.message
  | malformed construct path defect trace =>
    "malformed " ++ construct ++ " at " ++ path ++ ": " ++ defect.message ++ trace.text
  | invalidParameter param target path violation trace =>
    "invalid parameter " ++ param ++ " for " ++ target ++ ": " ++ violation.message ++ ", at " ++
      path ++ trace.text
  | invalidResource name type path trace =>
    "invalid resource type " ++ type ++ " for " ++ name ++ ", at " ++ path ++ trace.text
  | tooDeep limit path trace =>
    "expansion depth limit of " ++ toString limit ++ " exceeded at " ++ path ++ trace.text
  | unreadable location reason => "could not parse " ++ location ++ ": " ++ reason

end InfraTemplate
