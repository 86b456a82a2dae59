import InfraTemplate.Entries
import InfraTemplate.Text.Piece

namespace InfraTemplate

inductive Misuse where
  | unknownOption (text : String)
  | unexpectedValue (option : String)
  | missingValue (option : String)
  | repeated (option : String)
  | invalidValue (option value : String)
  | missingCommand
  | unknownCommand (name : String)
  | missingInput
  | unexpectedOperand (text : String)
deriving DecidableEq, Repr

def Misuse.message : Misuse → String
  | unknownOption text => "unknown option " ++ text
  | unexpectedValue option => "--" ++ option ++ " takes no value"
  | missingValue option => "--" ++ option ++ " needs a value"
  | repeated option => "--" ++ option ++ " is given more than once"
  | invalidValue option value => "invalid value " ++ value ++ " for --" ++ option
  | missingCommand => "a command is needed"
  | unknownCommand name => "unknown command " ++ name
  | missingInput => "an input is needed"
  | unexpectedOperand text => "unexpected argument " ++ text

inductive Stop where
  | help
  | misuse (m : Misuse)
deriving DecidableEq, Repr

inductive OptionForm where
  | flag
  | valued (letter? : Option Char)
deriving DecidableEq, Repr

structure CommandOption where
  name : String
  form : OptionForm
  envName : String
deriving DecidableEq, Repr

inductive Argument where
  | operand
  | ending
  | long (name : List Char) (value? : Option (List Char))
  | short (letter : Char) (more : List Char)
deriving DecidableEq, Repr

def Argument.read : List Char → Argument
  | ['-', '-'] => ending
  | '-' :: '-' :: cs =>
    match Text.splitFirst '=' cs with
    | some (name, value) => long name (some value)
    | none => long cs none
  | '-' :: c :: cs => short c cs
  | _ => operand

structure Arguments where
  given : Entries String
  operands : List String
  unread : List String
deriving DecidableEq, Repr

namespace Arguments

def empty : Arguments := ⟨[], [], []⟩

def give (a : Arguments) (o : CommandOption) (value : String) : Except Stop Arguments :=
  if Entries.has o.name a.given then .error (.misuse (.repeated o.name))
  else .ok { a with given := a.given ++ [(o.name, value)] }

def named (options : List CommandOption) :
    Argument → Except Stop (Option (CommandOption × Option String))
  | .operand | .ending => .ok none
  | .long name value? =>
    let name := String.ofList name
    match options.find? fun o => o.name == name with
    | some o => .ok (some (o, value?.map String.ofList))
    | none =>
      if name == "help" && value?.isNone then .error .help
      else .error (.misuse (.unknownOption ("--" ++ name)))
  | .short letter more =>
    match options.find? fun o => o.form = .valued (some letter) with
    | some o =>
      .ok (some (o,
        match more with
        | [] => none
        | '=' :: value => some (String.ofList value)
        | value => some (String.ofList value)))
    | none =>
      if letter == 'h' then .error .help
      else .error (.misuse (.unknownOption (String.ofList ['-', letter])))

def read (options : List CommandOption) (room : Nat) (a : Arguments) :
    List String → Except Stop Arguments
  | [] => .ok a
  | arg :: rest => do
    match ← named options (Argument.read arg.toList) with
    | some (o, value?) =>
      match o.form, value? with
      | .flag, none => read options room (← a.give o "true") rest
      | .flag, some _ => throw (.misuse (.unexpectedValue o.name))
      | .valued _, some value => read options room (← a.give o value) rest
      | .valued _, none =>
        match rest with
        | value :: rest =>
          if Argument.read value.toList = .operand then
            read options room (← a.give o value) rest
          else throw (.misuse (.missingValue o.name))
        | [] => throw (.misuse (.missingValue o.name))
    | none =>
      if Argument.read arg.toList = .ending then
        return { a with operands := a.operands ++ rest }
      else
        match room with
        | 0 => return { a with unread := arg :: rest }
        | room + 1 => read options room { a with operands := a.operands ++ [arg] } rest

def value? (a : Arguments) (env : Entries String) (o : CommandOption) : Option String :=
  match Entries.find? o.name a.given with
  | some value => some value
  | none => Entries.find? o.envName env

end Arguments

end InfraTemplate
