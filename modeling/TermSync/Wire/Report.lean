import TermSync.Wire.Mismatch

/-!
# Reports about instances

Some events carry one report: an object, or an array of its fields in the order of their
declaration. Members of an object that are no field are skipped. The fields of an object are
looked at in the order of their names and absent ones last, so that the first fault in this order
is the one that is told; an array is read from its front.
-/

namespace TermSync.Wire

open Json (Value)

/-- A sample of resource usage, worded by the backend. -/
structure StatsReport where
  instanceName : String
  mem : String := ""
  cpu : String := ""
deriving DecidableEq, Repr

/-- The role of an instance in a cluster. -/
structure RoleReport where
  instanceName : String
  isManager : Bool := false
  isWorker : Bool := false
deriving DecidableEq, Repr

/-- The ports that an instance publishes. -/
structure PortsReport where
  instanceName : String
  ports : List UInt16 := []
deriving DecidableEq, Repr

/-- The ports that the services of a swarm publish on its instances. -/
structure SwarmPortsReport where
  instances : List String := []
  ports : List UInt16 := []
deriving DecidableEq, Repr

namespace Report

/-- Read a string. -/
def text : Value → Except Mismatch String
  | .text s => .ok s
  | v => .error (.wrongType v .text)

/-- Read a boolean. -/
def flag : Value → Except Mismatch Bool
  | .bool b => .ok b
  | v => .error (.wrongType v .boolean)

/-- Read a port number. -/
def portNumber : Value → Except Mismatch UInt16
  | .number (.integer i) =>
    if 0 ≤ i ∧ i < 65536 then .ok (UInt16.ofNat i.toNat) else .error (.outOfRange i)
  | v => .error (.wrongType v .portNumber)

/-- Read an array of like items. -/
def sequence (read : Value → Except Mismatch α) : Value → Except Mismatch (List α)
  | .array items => items.mapM read
  | v => .error (.wrongType v .sequence)

/-- Read the member of an object with some name, if there is one. -/
def member? (members : List (String × Value)) (name : String)
    (read : Value → Except Mismatch α) : Except Mismatch (Option α) :=
  match members.lookup name with
  | some v => (read v).map some
  | none => .ok none

/-- Read the item of an array at some position, if there is one. -/
def item? (items : List Value) (index : Nat)
    (read : Value → Except Mismatch α) : Except Mismatch (Option α) :=
  match items[index]? with
  | some v => (read v).map some
  | none => .ok none

/-- Insist on a field. -/
def require (fault : Mismatch) : Option α → Except Mismatch α
  | some a => .ok a
  | none => .error fault

/-- Refuse an array with more items than there are fields. -/
def atMost (fields : Nat) (items : List Value) : Except Mismatch Unit :=
  if fields < items.length then .error (.tooLong items.length) else .ok ()

end Report

open Report

/-- Read a sample of resource usage. -/
def StatsReport.ofValue : Value → Except Mismatch StatsReport
  | .object ms => do
    let cpu ← member? ms "cpu" text
    let name ← member? ms "instance" text
    let mem ← member? ms "mem" text
    let instanceName ← require (.missingField "instance") name
    return { instanceName, mem := mem.getD "", cpu := cpu.getD "" }
  | .array items => do
    let instanceName ← require (.tooShort 0 "StatsReport" 3) (← item? items 0 text)
    let mem ← item? items 1 text
    let cpu ← item? items 2 text
    atMost 3 items
    return { instanceName, mem := mem.getD "", cpu := cpu.getD "" }
  | v => .error (.wrongType v (.report "StatsReport"))

/-- Read the role of an instance. -/
def RoleReport.ofValue : Value → Except Mismatch RoleReport
  | .object ms => do
    let name ← member? ms "instance" text
    let isManager ← member? ms "is_manager" flag
    let isWorker ← member? ms "is_worker" flag
    let instanceName ← require (.missingField "instance") name
    return { instanceName, isManager := isManager.getD false, isWorker := isWorker.getD false }
  | .array items => do
    let instanceName ← require (.tooShort 0 "RoleReport" 3) (← item? items 0 text)
    let isManager ← item? items 1 flag
    let isWorker ← item? items 2 flag
    atMost 3 items
    return { instanceName, isManager := isManager.getD false, isWorker := isWorker.getD false }
  | v => .error (.wrongType v (.report "RoleReport"))

/-- Read the ports of an instance. -/
def PortsReport.ofValue : Value → Except Mismatch PortsReport
  | .object ms => do
    let name ← member? ms "instance" text
    let ports ← member? ms "ports" (sequence portNumber)
    let instanceName ← require (.missingField "instance") name
    return { instanceName, ports := ports.getD [] }
  | .array items => do
    let instanceName ← require (.tooShort 0 "PortsReport" 2) (← item? items 0 text)
    let ports ← item? items 1 (sequence portNumber)
    atMost 2 items
    return { instanceName, ports := ports.getD [] }
  | v => .error (.wrongType v (.report "PortsReport"))

/-- Read the ports of a swarm. -/
def SwarmPortsReport.ofValue : Value → Except Mismatch SwarmPortsReport
  | .object ms => do
    let instances ← member? ms "instances" (sequence text)
    let ports ← member? ms "ports" (sequence portNumber)
    return { instances := instances.getD [], ports := ports.getD [] }
  | .array items => do
    let instances ← item? items 0 (sequence text)
    let ports ← item? items 1 (sequence portNumber)
    atMost 2 items
    return { instances := instances.getD [], ports := ports.getD [] }
  | v => .error (.wrongType v (.report "SwarmPortsReport"))

end TermSync.Wire
