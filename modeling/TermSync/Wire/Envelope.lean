import TermSync.Json.Reader
import TermSync.Json.Shape
import TermSync.Json.Writer

/-!
# Frames on the wire

Every frame is a JSON text that holds an event's name and its arguments by position.
-/

namespace TermSync.Wire

open Json (Node Value)

/-- A frame: the name of an event and its arguments. -/
structure Envelope where
  name : String
  args : List Value := []
deriving Repr

namespace Envelope

/-- The names of a frame's fields, in the order in which they are written. -/
def fieldNames : List String := ["name", "args"]

/-- How deep the arrays and objects of one argument may be nested. A frame may nest 127 of them,
the frame itself and the list of its arguments included. -/
def argumentDepth : Nat := 125

/-- The values of a list of arguments. -/
def argumentsOfNode? : Node → Option (List Value)
  | .array items => Json.itemsToValues? argumentDepth items
  | _ => none

/-- Read a frame. The name is required; without arguments there are none. -/
def ofNode? (n : Node) : Option Envelope := do
  match ← n.fields? fieldNames with
  | [name, args] =>
    return { name := ← (← name).text?, args := ← Node.fieldD argumentsOfNode? [] args }
  | _ => none

/-- Read a frame from its text. -/
def decode? (s : String) : Option Envelope := (Node.ofText? s).bind ofNode?

/-- The JSON form of a frame. -/
def toValue (e : Envelope) : Value := .object [("name", .text e.name), ("args", .array e.args)]

/-- The text of a frame. -/
def encode (e : Envelope) : String := e.toValue.toText

end Envelope
end TermSync.Wire
