import InfraTemplate.Error
import InfraTemplate.Node.Equality
import InfraTemplate.Node.Json
import InfraTemplate.Pattern.Parser
import InfraTemplate.Schema
import InfraTemplate.Text.Blank

namespace InfraTemplate

namespace Param

def identifierTypes : List String :=
  ["AWS::EC2::AvailabilityZone::Name", "AWS::EC2::Image::Id", "AWS::EC2::Instance::Id",
    "AWS::EC2::KeyPair::KeyName", "AWS::EC2::SecurityGroup::GroupName",
    "AWS::EC2::SecurityGroup::Id", "AWS::EC2::Subnet::Id", "AWS::EC2::Volume::Id",
    "AWS::EC2::VPC::Id", "AWS::Route53::HostedZone::Id", "AWS::SSM::Parameter::Name",
    "AWS::SSM::Parameter::Value<String>"]

def between? (head tail s : String) : Option String :=
  ((Text.afterHead? head.toList s.toList).bind (Text.beforeTail? tail.toList)).map String.ofList

def isIdentifierType (type : String) : Bool :=
  identifierTypes.contains type || (between? "AWS::SSM::Parameter::Value<" ">" type).isSome

private def isListLike : Node → Bool
  | .seq _ | .string _ => true
  | _ => false

private def lowerText (cs : List Char) : String := String.ofList (cs.map Char.toLower)

def isNumeral (s : String) : Bool :=
  let cs := Text.trim s.toList
  let unsigned :=
    match cs with
    | c :: rest => if c = '+' || c = '-' then rest else cs
    | [] => []
  if ["inf", "infinity", "nan"].contains (lowerText unsigned) then true
  else
    let whole := unsigned.takeWhile Text.isDigit
    let rest := unsigned.dropWhile Text.isDigit
    let (fraction, rest) :=
      match rest with
      | '.' :: rest => (rest.takeWhile Text.isDigit, rest.dropWhile Text.isDigit)
      | rest => ([], rest)
    let exponentOk :=
      match rest with
      | [] => true
      | e :: rest =>
        let ds :=
          match rest with
          | c :: more => if c = '+' || c = '-' then more else rest
          | [] => []
        (e = 'e' || e = 'E') && !ds.isEmpty && ds.all Text.isDigit
    !(whole.isEmpty && fraction.isEmpty) && exponentOk

def isNumeric : Node → Bool
  | .number _ => true
  | .string s => isNumeral s
  | _ => false

def typeAccepts? (type : String) (n : Node) : Option Bool :=
  match type with
  | "string" => some (n.kind == .string)
  | "number" => some (n.kind == .number)
  | "boolean" => some (n.kind == .boolean)
  | "object" => some (n.kind == .map)
  | "array" => some (n.kind == .sequence)
  | "String" => some n.isScalar
  | "Number" => some (isNumeric n)
  | "CommaDelimitedList" | "List<Number>" => some (isListLike n)
  | type =>
    if isIdentifierType type then some true
    else
      match between? "List<" ">" type with
      | some item => if isIdentifierType item then some (isListLike n) else none
      | none => none

def checkType (type : String) (n : Node) : Except Violation Unit :=
  match typeAccepts? type n with
  | some true => .ok ()
  | some false => .error (.kind type n.kind)
  | none => .error (.unknownType type)

def checkSchema (schema n : Node) : Except Violation Unit :=
  match Schema.validate schema.toJson n.toJson with
  | .ok () => .ok ()
  | .error .schema => .error (.invalidSchema "not a JSON Schema")
  | .error .value => .error (.schema "the value does not satisfy it")

def checkPattern (source : String) (n : Node) : Except Violation Unit :=
  match Pattern.parse? Pattern.unicode ("^(?:" ++ source ++ ")$") with
  | some p => if p.matchesIn n.text then .ok () else .error (.noMatch n.text source)
  | none => .error (.invalidPattern source "not a regular expression")

/-- Checks the value a parameter is to have. Only one rule applies: the schema, else the allowed
values, else the pattern, else the type. -/
def validate (p : Param Node) (value? : Option Node) : Except Violation Unit :=
  match value? with
  | none => .error .missing
  | some n =>
    match p.schema?, p.allowedValues?, p.allowedPattern?, p.type? with
    | some schema, _, _, _ => checkSchema schema n
    | none, some allowed, _, _ =>
      if Node.isIn n allowed then .ok () else .error (.notAllowed n.text (allowed.map Node.text))
    | none, none, some pattern, _ => checkPattern pattern n
    | none, none, none, some type => checkType type n
    | none, none, none, none => .ok ()

end Param

end InfraTemplate
