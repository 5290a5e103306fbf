import TermSync.Terminal.Geometry
import TermSync.Wire.Envelope

/-!
# Outbound events

What the client tells the backend, and the two sets of names that backends know.
-/

namespace TermSync.Wire

open Json (Value)
open Terminal (Geometry)

/-- Which set of outbound names to use. -/
inductive Version where
  /-- Short names. -/
  | legacy
  /-- Names that say what they belong to. -/
  | current
deriving DecidableEq, Repr

/-- Something that the client tells the backend. -/
inductive Outbound where
  /-- Typed input for an instance. -/
  | terminalIn (name : String) (data : String)
  /-- The local viewport changed. -/
  | viewportResize (geometry : Geometry)
  /-- The session is to end. -/
  | sessionClose
deriving DecidableEq, Repr

namespace Version

/-- The name of a version. -/
def name : Version → String
  | .legacy => "legacy"
  | .current => "current"

/-- The version with exactly this name. -/
def ofName? (s : String) : Option Version :=
  if s = "legacy" then some .legacy
  else if s = "current" then some .current
  else none

/-- A text in lower case, as far as ASCII letters go. -/
def lowered (s : String) : String := String.ofList (s.toList.map Char.toLower)

/-- The version that a text names, in ASCII letters of either case. A failure is told with the
text in lower case. -/
def parse (s : String) : Except String Version :=
  match ofName? (lowered s) with
  | some v => .ok v
  | none => .error ("unknown protocol version: " ++ lowered s)

end Version

namespace Outbound

/-- The name of an event on the wire. -/
def name : Outbound → Version → String
  | .terminalIn .., .legacy => "terminal in"
  | .terminalIn .., .current => "instance terminal in"
  | .viewportResize _, .legacy => "viewport resize"
  | .viewportResize _, .current => "instance viewport resize"
  | .sessionClose, _ => "session close"

/-- The arguments of an event. -/
def args : Outbound → List Value
  | .terminalIn name data => [.text name, .text data]
  | .viewportResize g =>
    [.number (.integer g.cols.toNat), .number (.integer g.rows.toNat)]
  | .sessionClose => []

/-- The frame of an event. -/
def toEnvelope (e : Outbound) (v : Version) : Envelope := { name := e.name v, args := e.args }

/-- The text of an event's frame. -/
def encode (e : Outbound) (v : Version) : String := (e.toEnvelope v).encode

end Outbound
end TermSync.Wire
