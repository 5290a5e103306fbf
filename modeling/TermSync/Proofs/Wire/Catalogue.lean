import TermSync.Proofs.Wire.Slots

/-!
# The catalogue of inbound events

Each kind of event has its slots. A frame is an event exactly when its name is a spelling of some
kind and its arguments fit the slots of that kind; otherwise the first argument that does not fit is
told. Arguments beyond the slots, and the choice between two spellings, change nothing.

Main statement: `ofEnvelope_of_catalogue`.
-/

namespace TermSync.Wire

open Json (Value)

namespace EventKind

/-- How many arguments a kind of event looks at. -/
def arity : EventKind → Nat
  | .sessionEnd | .connected | .disconnected => 0
  | .instanceDelete | .sessionReady | .builderOut | .instanceStats | .swarmStatus | .k8sStatus
  | .dockerPorts | .swarmPorts => 1
  | .terminalOut | .viewportResize | .terminalStatus => 2
  | .instanceNew => 4

/-- What a kind of event wants at each of its positions. -/
def slots : EventKind → List Slot
  | .terminalOut | .terminalStatus => [.text, .text]
  | .instanceNew => [.text, .optionalText, .optionalText, .optionalText]
  | .instanceDelete | .builderOut => [.text]
  | .viewportResize => [.dimension, .dimension]
  | .sessionReady => [.flag]
  | .instanceStats => [.report StatsReport.fields]
  | .swarmStatus | .k8sStatus => [.report RoleReport.fields]
  | .dockerPorts => [.report PortsReport.fields]
  | .swarmPorts => [.report SwarmPortsReport.fields]
  | .sessionEnd | .connected | .disconnected => []

theorem length_slots (k : EventKind) : k.slots.length = k.arity := by
  cases k <;> rfl

/-- No name is a spelling of two kinds. -/
theorem ofName?_of_mem {name : String} {k : EventKind} (h : name ∈ k.spellings) :
    ofName? name = some k := by
  have hall : ∀ k ∈ all, ∀ name ∈ k.spellings, ofName? name = some k := by decide
  exact hall k (mem_all k) name h

end EventKind

/-! ## Reading the arguments in turn -/

/-- The position, among slots with their positions, of the first one that its argument does not
fit. -/
def FirstMisfit (args : List Value) (slots : List (Slot × Nat)) (i : Nat) : Prop :=
  (∃ s, (s, i) ∈ slots ∧ ¬s.Fits args[i]?) ∧ ∀ p ∈ slots, p.2 < i → p.1.Fits args[p.2]?

section

variable {args : List Value} {slots : List (Slot × Nat)} {s : Slot} {i : Nat}

private theorem firstMisfit_cons_of_fits (h : s.Fits args[i]?) (j : Nat) :
    FirstMisfit args ((s, i) :: slots) j ↔ FirstMisfit args slots j := by
  rw [FirstMisfit, List.forall_mem_cons]
  constructor
  · rintro ⟨⟨s', hmem, hmisfit⟩, -, hbefore⟩
    refine ⟨⟨s', ?_, hmisfit⟩, hbefore⟩
    rcases List.mem_cons.mp hmem with heq | hmem
    · cases heq
      exact absurd h hmisfit
    · exact hmem
  · rintro ⟨⟨s', hmem, hmisfit⟩, hbefore⟩
    exact ⟨⟨s', List.mem_cons_of_mem _ hmem, hmisfit⟩, fun _ => h, hbefore⟩

private theorem firstMisfit_cons_of_misfit (h : ¬s.Fits args[i]?) (hlater : ∀ p ∈ slots, i < p.2)
    (j : Nat) : FirstMisfit args ((s, i) :: slots) j ↔ i = j := by
  rw [FirstMisfit, List.forall_mem_cons]
  constructor
  · rintro ⟨⟨s', hmem, -⟩, hbefore, -⟩
    rcases List.mem_cons.mp hmem with heq | hmem
    · cases heq
      rfl
    · exact absurd (hbefore (hlater _ hmem)) h
  · rintro rfl
    exact ⟨⟨s, List.mem_cons_self, h⟩, fun hlt => absurd hlt (Nat.lt_irrefl i),
      fun p hp hlt => absurd (hlater p hp) (Nat.lt_asymm hlt)⟩

end

/-- The outcome of reading the arguments from position `i` on against slots: the result is as
`shown` says if all of them fit, and otherwise the position of the first one that does not is
told. -/
def Judged (shown : α → Prop) (args : List Value) : List Slot → Nat → Except ArgumentFault α → Prop
  | [], _, r => ∃ x, r = .ok x ∧ shown x
  | s :: slots, i, r =>
    (s.Fits args[i]? ∧ Judged shown args slots (i + 1) r) ∨
      (¬s.Fits args[i]? ∧ ∃ fault, r = .error fault ∧ fault.index = i)

namespace Judged

variable {shown : β → Prop} {args : List Value} {slots : List Slot} {i : Nat}

/-- One argument is read, and the others after it. -/
theorem bind {s : Slot} {here : α → Prop} {r : Except ArgumentFault α}
    {f : α → Except ArgumentFault β} (hr : Reads s args[i]? i here r)
    (hf : ∀ x, here x → Judged shown args slots (i + 1) (f x)) :
    Judged shown args (s :: slots) i (r >>= f) := by
  rcases hr with ⟨hfits, x, rfl, hx⟩ | ⟨hmisfit, fault, rfl, hindex⟩
  · exact .inl ⟨hfits, hf x hx⟩
  · exact .inr ⟨hmisfit, fault, rfl, hindex⟩

theorem shown_of_ok {x : β} (h : Judged shown args slots i (.ok x)) : shown x := by
  induction slots generalizing i with
  | nil =>
    obtain ⟨y, hy, hshown⟩ := h
    exact Except.ok.inj hy ▸ hshown
  | cons s slots ih =>
    rcases h with ⟨-, h⟩ | ⟨-, fault, hfault, -⟩
    · exact ih h
    · cases hfault

theorem ok_iff {r : Except ArgumentFault β} (h : Judged shown args slots i r) :
    (∃ x, r = .ok x) ↔ ∀ p ∈ slots.zipIdx i, p.1.Fits args[p.2]? := by
  induction slots generalizing i with
  | nil =>
    obtain ⟨x, hx, -⟩ := h
    exact ⟨fun _ => by simp, fun _ => ⟨x, hx⟩⟩
  | cons s slots ih =>
    rw [List.zipIdx_cons, List.forall_mem_cons]
    rcases h with ⟨hfits, h⟩ | ⟨hmisfit, fault, rfl, -⟩
    · rw [ih h, and_iff_right hfits]
    · exact ⟨nofun, fun hall => absurd hall.1 hmisfit⟩

theorem error_iff {r : Except ArgumentFault β} (h : Judged shown args slots i r) (j : Nat) :
    (∃ fault, r = .error fault ∧ fault.index = j) ↔ FirstMisfit args (slots.zipIdx i) j := by
  induction slots generalizing i with
  | nil =>
    obtain ⟨x, rfl, -⟩ := h
    exact ⟨nofun, fun ⟨⟨_, hmem, _⟩, _⟩ => absurd hmem (by simp)⟩
  | cons s slots ih =>
    have hlater : ∀ p ∈ slots.zipIdx (i + 1), i < p.2 :=
      fun p hp => List.le_snd_of_mem_zipIdx hp
    rw [List.zipIdx_cons]
    rcases h with ⟨hfits, h⟩ | ⟨hmisfit, fault, rfl, hindex⟩
    · rw [firstMisfit_cons_of_fits hfits, ih h]
    · rw [firstMisfit_cons_of_misfit hmisfit hlater, ← hindex]
      constructor
      · rintro ⟨_, heq, hj⟩
        rw [Except.error.inj heq, hj]
      · exact fun hj => ⟨fault, rfl, hj⟩

end Judged

/-! ## Events -/

/-- What an event says is what the arguments hold. -/
def Inbound.Says (args : List Value) : Inbound → Prop
  | .terminalOut name data =>
    args[0]? = some (.text name) ∧ ∃ s, args[1]? = some (.text s) ∧ data = bytesOf s
  | .instanceNew record =>
    ∃ name ip hostname proxyHost, record = { name, ip, hostname, proxyHost } ∧
      args[0]? = some (.text name) ∧ ShowsOptional args[1]? ip ∧ ShowsOptional args[2]? hostname ∧
        ShowsOptional args[3]? proxyHost
  | .instanceDelete name => args[0]? = some (.text name)
  | .viewportResize g =>
    ∃ cols rows, args[0]? = some cols ∧ args[1]? = some rows ∧ WholePart g.cols.toNat cols ∧
      WholePart g.rows.toNat rows
  | .sessionReady ready => args[0]? = some (.bool ready)
  | .builderOut data => ∃ s, args[0]? = some (.text s) ∧ data = bytesOf s
  | .terminalStatus name status => args[0]? = some (.text name) ∧ args[1]? = some (.text status)
  | .instanceStats r => ∃ v, args[0]? = some v ∧ StatsReport.ofValue v = .ok r
  | .swarmStatus r | .k8sStatus r => ∃ v, args[0]? = some v ∧ RoleReport.ofValue v = .ok r
  | .dockerPorts r => ∃ v, args[0]? = some v ∧ PortsReport.ofValue v = .ok r
  | .swarmPorts r => ∃ v, args[0]? = some v ∧ SwarmPortsReport.ofValue v = .ok r
  | .sessionEnd | .connected | .disconnected => True

namespace Inbound

open Arguments

/-- Every kind of event reads its arguments in turn against its slots. -/
theorem judged_ofArguments (k : EventKind) (args : List Value) :
    Judged (fun event => event.kind = k ∧ event.Says args) args k.slots 0 (ofArguments k args) := by
  cases k with
  | terminalOut =>
    exact .bind (reads_text args 0) fun name hname =>
      .bind (reads_text args 1) fun data hdata => ⟨_, rfl, rfl, hname, data, hdata, rfl⟩
  | instanceNew =>
    exact .bind (reads_text args 0) fun name hname =>
      .bind (reads_text? args 1) fun ip hip =>
      .bind (reads_text? args 2) fun hostname hhostname =>
      .bind (reads_text? args 3) fun proxyHost hproxy =>
        ⟨_, rfl, rfl, name, ip, hostname, proxyHost, rfl, hname, hip, hhostname, hproxy⟩
  | instanceDelete => exact .bind (reads_text args 0) fun name hname => ⟨_, rfl, rfl, hname⟩
  | viewportResize =>
    exact .bind (reads_dimension args 0) fun cols ⟨v, hv, hcols⟩ =>
      .bind (reads_dimension args 1) fun rows ⟨w, hw, hrows⟩ =>
        ⟨_, rfl, rfl, v, w, hv, hw, hcols, hrows⟩
  | sessionEnd | connected | disconnected => exact ⟨_, rfl, rfl, trivial⟩
  | sessionReady => exact .bind (reads_boolean args 0) fun ready hready => ⟨_, rfl, rfl, hready⟩
  | builderOut => exact .bind (reads_text args 0) fun s hs => ⟨_, rfl, rfl, s, hs, rfl⟩
  | terminalStatus =>
    exact .bind (reads_text args 0) fun name hname =>
      .bind (reads_text args 1) fun status hstatus => ⟨_, rfl, rfl, hname, hstatus⟩
  | instanceStats =>
    exact .bind (reads_report StatsReport.ofValue_eq_ok_iff args 0) fun r hr => ⟨_, rfl, rfl, hr⟩
  | swarmStatus | k8sStatus =>
    exact .bind (reads_report RoleReport.ofValue_eq_ok_iff args 0) fun r hr => ⟨_, rfl, rfl, hr⟩
  | dockerPorts =>
    exact .bind (reads_report PortsReport.ofValue_eq_ok_iff args 0) fun r hr => ⟨_, rfl, rfl, hr⟩
  | swarmPorts =>
    exact .bind (reads_report SwarmPortsReport.ofValue_eq_ok_iff args 0) fun r hr =>
      ⟨_, rfl, rfl, hr⟩

/-- Arguments beyond the arity are not looked at. -/
theorem ofArguments_congr {k : EventKind} {args args' : List Value}
    (h : ∀ i < k.arity, args[i]? = args'[i]?) : ofArguments k args = ofArguments k args' := by
  cases k <;>
    simp (disch := decide) only [ofArguments, text, text?, boolean, dimension, report,
      Arguments.get, h]

/-- Under a spelling of a kind, a frame is the event that its arguments make. -/
theorem ofEnvelope_eq_ok_iff {e : Envelope} {k : EventKind} (h : e.name ∈ k.spellings)
    {event : Inbound} : ofEnvelope e = .ok event ↔ ofArguments k e.args = .ok event := by
  simp only [ofEnvelope, EventKind.ofName?_of_mem h]
  cases ofArguments k e.args with
  | ok event => simp
  | error fault => simp

/-- Under a spelling of a kind, a frame is refused for the fault of its arguments. -/
theorem ofEnvelope_eq_badArguments_iff {e : Envelope} {k : EventKind} (h : e.name ∈ k.spellings)
    {fault : ArgumentFault} :
    ofEnvelope e = .error (.badArguments e.name fault) ↔ ofArguments k e.args = .error fault := by
  simp only [ofEnvelope, EventKind.ofName?_of_mem h]
  cases ofArguments k e.args with
  | ok event => simp
  | error fault => simp

/-- A frame is unknown for its name alone. -/
theorem ofEnvelope_eq_unknownEvent_iff {e : Envelope} :
    ofEnvelope e = .error (.unknownEvent e.name) ↔ ∀ k : EventKind, e.name ∉ k.spellings := by
  rw [← EventKind.ofName?_eq_none_iff]
  constructor
  · intro h
    cases hk : EventKind.ofName? e.name with
    | none => rfl
    | some k =>
      simp only [ofEnvelope, hk] at h
      split at h
      · cases h
      · cases h
  · intro h
    rw [ofEnvelope, h]

/-- **The catalogue decides.** A frame with another name is unknown, whatever its arguments. Under a
spelling of a kind, the outcome depends on the arguments up to the kind's arity only; it is an event
exactly when each of them fits its slot, and otherwise a fault at the first one that does not. The
event is of that kind and says what the arguments hold. -/
theorem ofEnvelope_of_catalogue (e : Envelope) :
    (ofEnvelope e = .error (.unknownEvent e.name) ↔ ∀ k : EventKind, e.name ∉ k.spellings) ∧
    ∀ k : EventKind, e.name ∈ k.spellings → k.slots.length = k.arity ∧
      (∀ e' : Envelope, e'.name ∈ k.spellings → e'.args.take k.arity = e.args.take k.arity →
        (∃ event, ofEnvelope e = .ok event ∧ ofEnvelope e' = .ok event) ∨
          ∃ fault, ofEnvelope e = .error (.badArguments e.name fault) ∧
            ofEnvelope e' = .error (.badArguments e'.name fault)) ∧
      ((∃ event, ofEnvelope e = .ok event) ↔
        ∀ p ∈ k.slots.zipIdx, p.1.Fits e.args[p.2]?) ∧
      (∀ i, (∃ fault, ofEnvelope e = .error (.badArguments e.name fault) ∧ fault.index = i) ↔
        FirstMisfit e.args k.slots.zipIdx i) ∧
      ∀ event, ofEnvelope e = .ok event → event.kind = k ∧ event.Says e.args := by
  refine ⟨ofEnvelope_eq_unknownEvent_iff, fun k hk => ?_⟩
  have hjudged := judged_ofArguments k e.args
  simp only [ofEnvelope_eq_ok_iff hk, ofEnvelope_eq_badArguments_iff hk]
  refine ⟨k.length_slots, fun e' hk' hargs => ?_, hjudged.ok_iff, hjudged.error_iff,
    fun event hevent => ?_⟩
  · have hsame : ofArguments k e.args = ofArguments k e'.args := by
      refine ofArguments_congr fun i hi => ?_
      rw [← List.getElem?_take_of_lt hi, ← hargs, List.getElem?_take_of_lt hi]
    simp only [ofEnvelope_eq_ok_iff hk', ofEnvelope_eq_badArguments_iff hk', ← hsame]
    cases ofArguments k e.args with
    | ok event => exact .inl ⟨event, rfl, rfl⟩
    | error fault => exact .inr ⟨fault, rfl, rfl⟩
  · rw [hevent] at hjudged
    exact hjudged.shown_of_ok

/-- A resize of 80 columns and 70000 rows is refused for its rows, under either name and whatever
comes after. -/
theorem ofEnvelope_of_catalogue_at_rows :
    ∃ fault, fault.index = 1 ∧
      ofEnvelope ⟨"viewport resize", [.number (.integer 80), .number (.integer 70000), .null]⟩ =
        .error (.badArguments "viewport resize" fault) ∧
      ofEnvelope ⟨"instance viewport resize", [.number (.integer 80), .number (.integer 70000)]⟩ =
        .error (.badArguments "instance viewport resize" fault) := by
  obtain ⟨-, hknown⟩ := ofEnvelope_of_catalogue
    ⟨"viewport resize", [.number (.integer 80), .number (.integer 70000), .null]⟩
  obtain ⟨-, hsame, -, hmisfit, -⟩ := hknown .viewportResize (by decide)
  have hcols : Slot.dimension.Fits (some (.number (.integer 80))) := ⟨_, 80, rfl, rfl, by decide⟩
  have hrows : ¬Slot.dimension.Fits (some (.number (.integer 70000))) := by
    rintro ⟨v, n, hv, hn, hle⟩
    cases hv
    have hvalue : (70000 : Int) = n := hn
    omega
  obtain ⟨fault, hfault, hindex⟩ := (hmisfit 1).mpr
    ⟨⟨.dimension, by simp [EventKind.slots], hrows⟩, by simp [EventKind.slots, hcols]⟩
  refine ⟨fault, hindex, hfault, ?_⟩
  rcases hsame ⟨"instance viewport resize", [.number (.integer 80), .number (.integer 70000)]⟩
    (by decide) rfl with ⟨event, hevent, -⟩ | ⟨fault', hfault', hother⟩
  · rw [hevent] at hfault
    cases hfault
  · rw [hfault'] at hfault
    cases hfault
    exact hother

/-- A report is described as an object, but an array of its fields passes for one. -/
theorem ofEnvelope_of_report_as_array :
    ofEnvelope ⟨"instance stats", [.array [.text "node1"]]⟩ =
        .ok (.instanceStats { instanceName := "node1" }) ∧
      ¬∃ members, (Envelope.mk "instance stats" [.array [.text "node1"]]).args[0]? =
        some (.object members) :=
  ⟨rfl, by simp⟩

end Inbound
end TermSync.Wire
