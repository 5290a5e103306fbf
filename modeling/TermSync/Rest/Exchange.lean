import TermSync.Rest.Endpoint
import TermSync.Rest.SessionRecord
import TermSync.Rest.Status
import TermSync.Rest.Target
import TermSync.Session.Command
import TermSync.Session.Failure

/-!
# Requests and replies

Three things can be asked of the backend: to describe the session, to create an instance and to
delete one. The status of a reply decides what it means: a session that is not there is not found,
and an instance that is gone already counts as deleted.
-/

namespace TermSync.Rest

open Json (Node)
open Roster (Record)
open Session (CreateRequest Failure)
open Text (Bytes)

/-- What a request wants. -/
inductive Method where
  | get
  | post
  | delete
deriving DecidableEq, Repr

namespace Method

/-- The name of a method as it is sent. -/
def name : Method → String
  | .get => "GET"
  | .post => "POST"
  | .delete => "DELETE"

end Method

/-- A request. If it has a body, that is JSON. -/
structure Request where
  method : Method
  url : String
  body : Option String := none
deriving DecidableEq, Repr

namespace Request

/-- Ask for a session. -/
def describe (server session : String) : Request :=
  { method := .get, url := sessionUrl server session }

/-- Ask for a new instance. A request that leaves everything to the backend has no body. -/
def create (server session : String) (r : CreateRequest) : Request where
  method := .post
  url := instancesUrl server session
  body := if r.isEmpty then none else some r.toText

/-- Ask for the end of an instance. -/
def delete (server session name : String) : Request :=
  { method := .delete, url := instanceUrl server session name }

/-- What the request asks for as it is sent, if its URL is a web address. -/
def target? (r : Request) : Option Target := Target.ofUrl? r.url

end Request

/-- What comes back. Reasons are worded by whoever carries requests. -/
inductive Reply where
  /-- The backend was not reached, or did not answer in time. -/
  | unreachable
  /-- The connection was lost on the way. -/
  | lost (reason : String)
  /-- The backend answered, and its body came through or not. -/
  | answered (status : Nat) (body : Except String Bytes)

namespace Reply

/-- The reason given when a body is not what it should be. -/
def undecodable : String := "error decoding response body"

/-- Read a body as JSON text. -/
def read (ofNode? : Node → Option α) (body : Except String Bytes) : Except Failure α :=
  match body with
  | .error reason => .error (.request reason)
  | .ok bytes =>
    match (Text.Utf8.decode? bytes).bind fun cs => (Node.ofChars? cs).bind ofNode? with
    | some a => .ok a
    | none => .error (.request undecodable)

/-- What a reply means: a body to be read if the request was carried out, and otherwise what its
status stands for. -/
def result (ok : Except String Bytes → Except Failure α)
    (refused : Nat → Except String Bytes → Except Failure α) : Reply → Except Failure α
  | .unreachable => .error .connectivity
  | .lost reason => .error (.request reason)
  | .answered status body => if Status.isSuccess status then ok body else refused status body

/-- The description of a session. -/
def described (session : String) : Reply → Except Failure SessionRecord :=
  result (read SessionRecord.ofNode?) fun status _ =>
    if status = 404 then .error (.notFound session)
    else .error (.request ("failed to load session " ++ session ++ ": " ++ Status.toText status))

/-- The text of a body in which everything that is no character is replaced, and a byte order mark
at the beginning is left out. -/
def lossyText (body : Except String Bytes) : List Char :=
  match body with
  | .error _ => []
  | .ok bytes =>
    match Text.Utf8.decodeLossy bytes with
    | '\uFEFF' :: cs => cs
    | cs => cs

/-- The cause in the body of a refusal: empty if there is none. -/
def cause? (n : Node) : Option String := do
  match ← n.fields? ["error"] with
  | [error] => Node.fieldD Node.text? "" error
  | _ => none

/-- Whether a refusal is about the room that the backend has. -/
def isOutOfCapacity (body : Except String Bytes) : Bool :=
  ((Node.ofChars? (lossyText body)).bind cause?) == some "out_of_capacity"

/-- A new instance. -/
def created : Reply → Except Failure Record :=
  result (read Record.ofNode?) fun status body =>
    if status = 409 then .error .capacity
    else if status = 503 ∧ isOutOfCapacity body then .error .resourceExhausted
    else .error (.request ("instance creation failed: " ++ Status.toText status))

/-- The end of an instance. -/
def deleted (name : String) : Reply → Except Failure Unit :=
  result (fun _ => .ok ()) fun status _ =>
    if status = 404 then .ok ()
    else .error (.request ("failed to delete " ++ name ++ ": " ++ Status.toText status))

end Reply
end TermSync.Rest
