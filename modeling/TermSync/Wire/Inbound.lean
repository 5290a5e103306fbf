import TermSync.Roster.Record
import TermSync.Terminal.Geometry
import TermSync.Text.Utf8
import TermSync.Wire.Envelope
import TermSync.Wire.EventKind
import TermSync.Wire.Report

/-!
# Inbound events

A frame is decoded once, into one of the events below; what follows never sees JSON. The kind of
the event prescribes its arguments, and arguments beyond these are ignored. Dimensions may be
written as integers or, because the backend computes them so, as other numbers, whose fraction
is dropped.
-/

namespace TermSync.Wire

open Json (Value)
open Roster (Record)
open Terminal (Geometry)
open Text (Bytes)

/-- Something that the backend, or the channel itself, has told the client. -/
inductive Inbound where
  /-- Bytes that an instance's terminal printed. -/
  | terminalOut (name : String) (data : Bytes)
  /-- An instance exists, perhaps created by another client. -/
  | instanceNew (record : Record)
  /-- An instance is gone. -/
  | instanceDelete (name : String)
  /-- The shared viewport changed; every terminal follows. -/
  | viewportResize (geometry : Geometry)
  /-- The session has ended. -/
  | sessionEnd
  /-- Whether the session is done provisioning. -/
  | sessionReady (ready : Bool)
  /-- Bytes that the builder's console printed. -/
  | builderOut (data : Bytes)
  /-- The connection of an instance's terminal. -/
  | terminalStatus (name : String) (status : String)
  /-- Resource usage of an instance. -/
  | instanceStats (report : StatsReport)
  /-- Role in a swarm. -/
  | swarmStatus (report : RoleReport)
  /-- Role in a Kubernetes cluster. -/
  | k8sStatus (report : RoleReport)
  /-- Ports of one instance. -/
  | dockerPorts (report : PortsReport)
  /-- Ports of a swarm. -/
  | swarmPorts (report : SwarmPortsReport)
  /-- The channel came up. -/
  | connected
  /-- The channel went down. -/
  | disconnected
deriving DecidableEq, Repr

/-- Why a frame is no event. -/
inductive DecodeError where
  /-- The text is no frame. -/
  | malformed
  /-- No event has this name. -/
  | unknownEvent (name : String)
  /-- An argument does not fit the event. -/
  | badArguments (event : String) (fault : ArgumentFault)
deriving Repr

/-- The wording of a decoding error. -/
def DecodeError.message : DecodeError → String
  | .malformed => "malformed frame"
  | .unknownEvent name => "unknown event: " ++ name
  | .badArguments event fault => "bad arguments for '" ++ event ++ "': " ++ fault.reason

namespace Arguments

/-- The argument at a position. -/
def get (args : List Value) (index : Nat) : Except ArgumentFault Value :=
  match args[index]? with
  | some v => .ok v
  | none => .error (.missing index)

/-- A required string. -/
def text (args : List Value) (index : Nat) : Except ArgumentFault String := do
  match (← get args index).text? with
  | some s => return s
  | none => throw (.notText index)

/-- A string that may be absent or `null`. -/
def text? (args : List Value) (index : Nat) : Except ArgumentFault (Option String) :=
  match args[index]? with
  | none => .ok none
  | some .null => .ok none
  | some (.text s) => .ok (some s)
  | some _ => .error (.notText index)

/-- A required boolean. -/
def boolean (args : List Value) (index : Nat) : Except ArgumentFault Bool := do
  match (← get args index).bool? with
  | some b => return b
  | none => throw (.notBoolean index)

/-- The whole part of a number that is not below zero. -/
def wholePart? : Value → Option Nat
  | .number (.integer i) => if 0 ≤ i then some i.toNat else none
  | .number (.double d) => if d.negative && !d.isZero then none else some d.truncate
  | _ => none

/-- A required dimension. -/
def dimension (args : List Value) (index : Nat) : Except ArgumentFault UInt16 := do
  match wholePart? (← get args index) with
  | some n => if n < 65536 then return UInt16.ofNat n else throw (.dimensionTooLarge index)
  | none => throw (.notDimension index)

/-- A required report. -/
def report (read : Value → Except Mismatch α) (args : List Value) (index : Nat) :
    Except ArgumentFault α := do
  match read (← get args index) with
  | .ok a => return a
  | .error cause => throw (.mismatch index cause)

end Arguments

namespace Inbound

open Arguments

/-- The bytes of a text on the wire. -/
def bytesOf (s : String) : Bytes := Text.Utf8.encode s.toList

/-- The event of some kind that a list of arguments makes. -/
def ofArguments (kind : EventKind) (args : List Value) : Except ArgumentFault Inbound :=
  match kind with
  | .terminalOut => do
    let name ← text args 0
    return .terminalOut name (bytesOf (← text args 1))
  | .instanceNew => do
    let name ← text args 0
    let ip ← text? args 1
    let hostname ← text? args 2
    let proxyHost ← text? args 3
    return .instanceNew { name, ip, hostname, proxyHost }
  | .instanceDelete => return .instanceDelete (← text args 0)
  | .viewportResize => do
    let cols ← dimension args 0
    let rows ← dimension args 1
    return .viewportResize { cols, rows }
  | .sessionEnd => return .sessionEnd
  | .sessionReady => return .sessionReady (← boolean args 0)
  | .builderOut => return .builderOut (bytesOf (← text args 0))
  | .terminalStatus => do
    let name ← text args 0
    return .terminalStatus name (← text args 1)
  | .instanceStats => return .instanceStats (← report StatsReport.ofValue args 0)
  | .swarmStatus => return .swarmStatus (← report RoleReport.ofValue args 0)
  | .k8sStatus => return .k8sStatus (← report RoleReport.ofValue args 0)
  | .dockerPorts => return .dockerPorts (← report PortsReport.ofValue args 0)
  | .swarmPorts => return .swarmPorts (← report SwarmPortsReport.ofValue args 0)
  | .connected => return .connected
  | .disconnected => return .disconnected

/-- The event in a frame. The name is looked at first. -/
def ofEnvelope (e : Envelope) : Except DecodeError Inbound :=
  match EventKind.ofName? e.name with
  | none => .error (.unknownEvent e.name)
  | some kind =>
    match ofArguments kind e.args with
    | .ok event => .ok event
    | .error fault => .error (.badArguments e.name fault)

/-- The event in a frame's text. -/
def decode (s : String) : Except DecodeError Inbound :=
  match Envelope.decode? s with
  | none => .error .malformed
  | some e => ofEnvelope e

/-- The kind of an event. -/
def kind : Inbound → EventKind
  | .terminalOut .. => .terminalOut
  | .instanceNew _ => .instanceNew
  | .instanceDelete _ => .instanceDelete
  | .viewportResize _ => .viewportResize
  | .sessionEnd => .sessionEnd
  | .sessionReady _ => .sessionReady
  | .builderOut _ => .builderOut
  | .terminalStatus .. => .terminalStatus
  | .instanceStats _ => .instanceStats
  | .swarmStatus _ => .swarmStatus
  | .k8sStatus _ => .k8sStatus
  | .dockerPorts _ => .dockerPorts
  | .swarmPorts _ => .swarmPorts
  | .connected => .connected
  | .disconnected => .disconnected

end Inbound
end TermSync.Wire
