import TermSync.Json.Writer
import TermSync.Text.Quoted

/-!
# Why an argument does not fit

An event prescribes what its arguments look like. The causes of a mismatch are kept apart here
from their wording, which is in `Mismatch.message` and `ArgumentFault.reason`.
-/

namespace TermSync.Wire

open Json (Value)

/-- What was expected where something else was found. -/
inductive Expected where
  | text
  | boolean
  | sequence
  | portNumber
  | report (shape : String)
deriving DecidableEq, Repr

/-- Why a value is not the report that an event carries. -/
inductive Mismatch where
  /-- A required field is absent. -/
  | missingField (name : String)
  /-- A value of the wrong type. -/
  | wrongType (found : Value) (expected : Expected)
  /-- An integer that is no port number. -/
  | outOfRange (n : Int)
  /-- An array that ends before the required fields. -/
  | tooShort (count : Nat) (shape : String) (fields : Nat)
  /-- An array that goes on after the last field. -/
  | tooLong (count : Nat)
deriving Repr

/-- Why the argument at a position is refused. -/
inductive ArgumentFault where
  | missing (index : Nat)
  | notText (index : Nat)
  | notBoolean (index : Nat)
  | notDimension (index : Nat)
  | dimensionTooLarge (index : Nat)
  | mismatch (index : Nat) (cause : Mismatch)
deriving Repr

/-- The name of what was expected. -/
def Expected.describe : Expected → String
  | .text => "a string"
  | .boolean => "a boolean"
  | .sequence => "a sequence"
  | .portNumber => "u16"
  | .report shape => "struct " ++ shape

/-- A value, as a message names it. -/
def describeValue : Value → String
  | .null => "null"
  | .bool b => "boolean `" ++ (if b then "true" else "false") ++ "`"
  | .number (.integer i) => "integer `" ++ String.ofList (Json.writeInteger i) ++ "`"
  | .number (.double d) => "floating point `" ++ String.ofList (Json.writeDouble d) ++ "`"
  | .text s => "string " ++ Text.quoted s
  | .array _ => "sequence"
  | .object _ => "map"

/-- The wording of a mismatch. -/
def Mismatch.message : Mismatch → String
  | .missingField name => "missing field `" ++ name ++ "`"
  | .wrongType found expected =>
    "invalid type: " ++ describeValue found ++ ", expected " ++ expected.describe
  | .outOfRange n =>
    "invalid value: integer `" ++ String.ofList (Json.writeInteger n) ++ "`, expected " ++
      Expected.portNumber.describe
  | .tooShort count shape fields =>
    "invalid length " ++ toString count ++ ", expected struct " ++ shape ++ " with " ++
      toString fields ++ " elements"
  | .tooLong count =>
    "invalid length " ++ toString count ++ ", expected fewer elements in array"

/-- The wording of a refusal. -/
def ArgumentFault.reason : ArgumentFault → String
  | .missing i => "missing argument " ++ toString i
  | .notText i => "argument " ++ toString i ++ " is not a string"
  | .notBoolean i => "argument " ++ toString i ++ " is not a boolean"
  | .notDimension i => "argument " ++ toString i ++ " is not a dimension"
  | .dimensionTooLarge i =>
    "argument " ++ toString i ++ ": number too large to fit in target type"
  | .mismatch i cause => "argument " ++ toString i ++ ": " ++ cause.message

end TermSync.Wire
