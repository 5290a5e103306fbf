import TermSync.Session.Dispatch
import TermSync.Session.State
import TermSync.Wire.Inbound

/-!
# What the backend tells

What each inbound event does to the state. Reports about instances that are not known are ignored;
output is kept even if its instance is not known yet.
-/

namespace TermSync.Session.State

open Roster (Record)
open Wire (Inbound)

/-- Whether an instance that was announced just now is the first confirmed one, and nothing but a
placeholder is selected. -/
def isFirstConfirmed (s : State) : Bool :=
  (s.roster.instances.filter fun i => !i.provisional).length == 1 &&
    match s.roster.selected? with
    | some i => i.provisional
    | none => true

/-- A record was announced. The first confirmed instance of the session is shown. -/
def learn (s : State) (record : Record) : Step × Outcome :=
  let s : State := { s with roster := s.roster.upsert record }
  if s.isFirstConfirmed then
    match s.select record.name with
    | .ok t => (t, .done)
    | .error _ => ({ state := s }, .failed)
  else ({ state := s }, .done)

/-- Take an instance out, if it is there. -/
def forget (s : State) (name : String) : Step :=
  match s.roster.remove? name with
  | some r => s.withRoster r.rest r.calls
  | none => { state := s }

/-- An instance is gone; if it was shown, another one is. -/
def lose (s : State) (name : String) : Step × Outcome :=
  let t := s.forget name
  match t.attempt ensureShown with
  | .ok u => (u, .done)
  | .error _ => (t, .failed)

/-- Change what is known about an instance, if it is known. -/
def update (s : State) (name : String) (f : Roster.Instance → Roster.Instance) : State :=
  { s with roster := s.roster.update name f }

/-- What an event does, and whether it could be done. -/
def apply (s : State) (e : Inbound) : Step × Outcome :=
  match e with
  | .terminalOut name data =>
    let (roster, calls) := s.roster.route name data
    (s.withRoster roster calls, .done)
  | .instanceNew record => s.learn record
  | .instanceDelete name => s.lose name
  | .viewportResize g => (s.resizeAll g, .done)
  | .sessionEnd => (s.terminate, .done)
  | .sessionReady ready => ({ state := { s with lifecycle := { s.lifecycle with ready } } }, .done)
  | .builderOut data =>
    let (builder, calls) := s.builder.deliver data
    ({ state := { s with builder }, effects := calls.map .call }, .done)
  | .terminalStatus name status =>
    ({ state := s.update name fun i => { i with status := some status } }, .done)
  | .instanceStats r =>
    ({ state := s.update r.instanceName fun i => { i with mem := r.mem, cpu := r.cpu } }, .done)
  | .swarmStatus r =>
    ({ state := s.update r.instanceName fun i => { i with isManager := r.isManager } }, .done)
  | .k8sStatus r =>
    ({ state := s.update r.instanceName fun i => { i with isK8sManager := r.isManager } }, .done)
  | .dockerPorts r =>
    ({ state := s.update r.instanceName fun i => { i with ports := r.ports } }, .done)
  | .swarmPorts r =>
    let heard := r.instances.foldl
      (fun s name => s.update name fun i => { i with swarmPorts := r.ports }) s
    ({ state := heard }, .done)
  | .connected => (s.setConnected true, .done)
  | .disconnected => (s.setConnected false, .done)

end TermSync.Session.State
