/-!
# Kinds of inbound events

The backend renamed some of its events over time; both spellings of a name are understood.
Main law: `ofName?_eq_none_iff` (a name is not understood exactly when it is a spelling of no
kind).
-/

namespace TermSync.Wire

/-- What an inbound event is about. -/
inductive EventKind where
  /-- A terminal printed something. -/
  | terminalOut
  /-- An instance was created. -/
  | instanceNew
  /-- An instance was deleted. -/
  | instanceDelete
  /-- The shared viewport changed. -/
  | viewportResize
  /-- The session ended. -/
  | sessionEnd
  /-- The session finished or restarted provisioning. -/
  | sessionReady
  /-- The console of the session builder printed something. -/
  | builderOut
  /-- The connection of a terminal changed. -/
  | terminalStatus
  /-- A sample of resource usage. -/
  | instanceStats
  /-- The role of an instance in a swarm. -/
  | swarmStatus
  /-- The role of an instance in a Kubernetes cluster. -/
  | k8sStatus
  /-- The ports that an instance publishes. -/
  | dockerPorts
  /-- The ports that swarm services publish. -/
  | swarmPorts
  /-- The channel came up. -/
  | connected
  /-- The channel went down. -/
  | disconnected
deriving DecidableEq, Repr

namespace EventKind

/-- Every kind. -/
def all : List EventKind :=
  [.terminalOut, .instanceNew, .instanceDelete, .viewportResize, .sessionEnd, .sessionReady,
    .builderOut, .terminalStatus, .instanceStats, .swarmStatus, .k8sStatus, .dockerPorts,
    .swarmPorts, .connected, .disconnected]

/-- The names that a kind has on the wire. -/
def spellings : EventKind → List String
  | .terminalOut => ["terminal out", "instance terminal out"]
  | .instanceNew => ["new instance", "instance new"]
  | .instanceDelete => ["delete instance", "instance delete"]
  | .viewportResize => ["viewport resize", "instance viewport resize"]
  | .sessionEnd => ["session end"]
  | .sessionReady => ["session ready"]
  | .builderOut => ["session builder out"]
  | .terminalStatus => ["instance terminal status"]
  | .instanceStats => ["instance stats"]
  | .swarmStatus => ["instance docker swarm status"]
  | .k8sStatus => ["instance k8s status"]
  | .dockerPorts => ["instance docker ports"]
  | .swarmPorts => ["instance docker swarm ports"]
  | .connected => ["connect"]
  | .disconnected => ["connect_error"]

/-- The kind that a name on the wire stands for. -/
def ofName? (name : String) : Option EventKind := all.find? fun k => k.spellings.contains name

/-- Every kind is listed. -/
theorem mem_all (k : EventKind) : k ∈ all := by cases k <;> decide

/-- A name that is not understood is no spelling of any kind. -/
theorem ofName?_eq_none_iff {name : String} :
    ofName? name = none ↔ ∀ k : EventKind, name ∉ k.spellings := by
  simp only [ofName?, List.find?_eq_none, List.contains_iff_mem]
  exact ⟨fun h k => h k (mem_all k), fun h k _ => h k⟩

end EventKind
end TermSync.Wire
