import TermSync.Json.Writer
import TermSync.Terminal.Geometry
import TermSync.Text.Utf8

/-!
# Commands

What the user, or a terminal on the user's behalf, asks for.
-/

namespace TermSync.Session

open Json (Value textMember)
open Terminal (Geometry)
open Text (Bytes)

/-- What a new instance should be like. All of it may be left to the backend. -/
structure CreateRequest where
  image : Option String := none
  hostname : Option String := none
  kind : Option String := none
deriving DecidableEq, Repr

namespace CreateRequest

/-- Whether everything is left to the backend. -/
def isEmpty (r : CreateRequest) : Bool :=
  r.image.isNone && r.hostname.isNone && r.kind.isNone

/-- The JSON form of a request, without what is left to the backend. -/
def toValue (r : CreateRequest) : Value :=
  .object (textMember "ImageName" r.image ++ textMember "Hostname" r.hostname ++
    textMember "Type" r.kind)

/-- The JSON text of a request. -/
def toText (r : CreateRequest) : String := r.toValue.toText

end CreateRequest

/-- Something that is asked for. -/
inductive Command where
  /-- A new instance. -/
  | create (request : CreateRequest)
  /-- The end of an instance. -/
  | delete (name : String)
  /-- To show an instance. -/
  | select (name : String)
  /-- To type into an instance's terminal. -/
  | input (name : String) (data : Bytes)
  /-- The local viewport has a new geometry. -/
  | resize (geometry : Geometry)
  /-- The local viewport changed; the terminal shown knows what fits. -/
  | fit
  /-- The end of the session. -/
  | close
deriving DecidableEq, Repr

/-- The verb of a command, for messages. -/
def Command.action : Command → String
  | .create _ => "create"
  | .delete _ => "delete"
  | .select _ => "select"
  | .input .. => "input"
  | .resize _ | .fit => "resize"
  | .close => "close"

end TermSync.Session
