import TermSync.Proofs.Roster.Consistency
import TermSync.Proofs.Session.Run

/-!
# What responses are made of

Whatever reaches a session, the session does one or more of a few things about it, one after the
other: it merges a record, takes an instance out, displays one, and so on. `acts` lists them, and
`respond_eq` says that to do them is to respond. So what every act keeps every response keeps, and
each property of runs is proved act by act.
-/

namespace TermSync.Session

open Rest (SessionRecord)
open Roster (Instance Record)
open Terminal (Geometry)
open Text (Bytes)
open Wire (Inbound)

/-- What a report tells about an instance. -/
inductive News where
  | status (text : String)
  | usage (mem cpu : String)
  | manager (held : Bool)
  | k8sManager (held : Bool)
  | ports (list : List UInt16)
  | swarmPorts (list : List UInt16)

/-- The instance about which something was told. -/
def News.applyTo (n : News) (i : Instance) : Instance :=
  match n with
  | .status text => { i with status := some text }
  | .usage mem cpu => { i with mem, cpu }
  | .manager held => { i with isManager := held }
  | .k8sManager held => { i with isK8sManager := held }
  | .ports list => { i with ports := list }
  | .swarmPorts list => { i with swarmPorts := list }

/-- A report touches neither what a record tells nor what the instance holds. -/
theorem News.applyTo_eq (n : News) (i : Instance) :
    (n.applyTo i).toRecord = i.toRecord ∧ (n.applyTo i).screen = i.screen ∧
      (n.applyTo i).typed = i.typed ∧ (n.applyTo i).flushTimer = i.flushTimer ∧
      (n.applyTo i).provisional = i.provisional := by
  cases n <;> exact ⟨rfl, rfl, rfl, rfl, rfl⟩

/-- Something that a session does, and that leaves its instances alone. -/
inductive Aside where
  | relate (r : SessionRecord)
  | ready (ready : Bool)
  | startCountdown
  | refreshCountdown
  | setConnected (connected : Bool)
  | propose (g : Geometry)
  | settle
  | builderOut (data : Bytes)
  | attachBuilder
  | tell (n : Notice)
  | ask (r : Request)
  | emitClose
  | setClock (moment : Nat)
  | number (count : Nat)
  | refit (fits : String → Option Geometry)

/-- Something that a session does. -/
inductive Act where
  /-- It merges a record. -/
  | learn (record : Record)
  /-- It puts in a placeholder. -/
  | expect (key : String)
  /-- It takes an instance out. -/
  | forget (name : String)
  /-- It displays an instance. -/
  | display (name : String)
  /-- It takes output for an instance. -/
  | route (name : String) (data : Bytes)
  /-- It takes a geometry that the backend announces. -/
  | resizeAll (g : Geometry)
  /-- It takes a report about an instance. -/
  | note (name : String) (n : News)
  /-- It takes input for an instance. -/
  | type (name : String) (data : Bytes)
  /-- It sends what was typed into an instance. -/
  | flush (name : String)
  /-- It ends. -/
  | terminate
  /-- It lets time pass. -/
  | moveTo (moment : Nat)
  /-- It leaves its instances alone. -/
  | aside (a : Aside)

namespace State

/-! ## Acts -/

/-- What is done, without any instance. -/
def performAside (s : State) : Aside → Step
  | .relate r =>
    { state :=
        { s with
          lifecycle :=
            { s.lifecycle with
              createdAt := r.createdAt
              expiresAt := r.expiresAt
              ready := r.ready.getD true } } }
  | .ready ready => { state := { s with lifecycle := { s.lifecycle with ready } } }
  | .startCountdown => { state := s.startCountdown }
  | .refreshCountdown => { state := s.refreshCountdown }
  | .setConnected connected => s.setConnected connected
  | .propose g => { state := s.propose g }
  | .settle => s.settle
  | .builderOut data =>
    { state := { s with builder := (s.builder.deliver data).1 }
      effects := (s.builder.deliver data).2.map .call }
  | .attachBuilder => s.attachBuilder.2
  | .tell n => s.tell n
  | .ask r => { state := s, effects := [.ask r] }
  | .emitClose => s.emit .sessionClose
  | .setClock moment => { state := { s with now := moment } }
  | .number count => { state := { s with nextSerial := s.nextSerial + count } }
  | .refit fits => { state := { s with fits } }

/-- What is done. -/
def perform (s : State) : Act → Step
  | .learn record => { state := { s with roster := s.roster.upsert record } }
  | .expect key => { state := { s with roster := s.roster.insertPlaceholder key } }
  | .forget name => s.forget name
  | .display name => ({ state := s } : Step).orStay fun s => s.select name
  | .route name data => s.withRoster (s.roster.route name data).1 (s.roster.route name data).2
  | .resizeAll g => s.resizeAll g
  | .note name n => { state := s.update name n.applyTo }
  | .type name data => { state := s.update name fun i => i.type data }
  | .flush name => s.flush name
  | .terminate => s.terminate
  | .moveTo moment => { state := Loop.moveState moment s }
  | .aside a => s.performAside a

/-- One act after the other. -/
def performAll (s : State) : List Act → Step
  | [] => { state := s }
  | a :: as => (s.perform a).andThen fun s => s.performAll as

@[simp] theorem performAll_nil (s : State) : s.performAll [] = { state := s } := rfl

theorem performAll_cons (s : State) (a : Act) (as : List Act) :
    s.performAll (a :: as) = (s.perform a).andThen fun s => s.performAll as := rfl

theorem performAll_append (s : State) (as bs : List Act) :
    s.performAll (as ++ bs) = (s.performAll as).andThen fun s => s.performAll bs := by
  induction as generalizing s with
  | nil => simp [Step.andThen]
  | cons a as ih =>
    rw [List.cons_append, performAll_cons, performAll_cons, Step.andThen_assoc]
    congr 1
    funext t
    exact ih t

theorem performAll_singleton (s : State) (a : Act) : s.performAll [a] = s.perform a := by
  simp [performAll_cons, Step.andThen]

/-- What holds at first and is kept by every act holds after any number of them. -/
theorem performAll_induction {P : State → Prop} {s : State} (h : P s)
    (hact : ∀ s a, P s → P (s.perform a).state) (as : List Act) : P (s.performAll as).state := by
  induction as generalizing s with
  | nil => exact h
  | cons a as ih => exact ih (hact s a h)

/-! ## What is done about a stimulus -/

/-- What is done so that a confirmed instance is shown. -/
def showActs (s : State) : List Act :=
  match s.unshown? with
  | some i => [.display i.name]
  | none => []

/-- What is done about the backend's description of the session. -/
def loadActs (s : State) (r : SessionRecord) : List Act :=
  let roster := r.instances.foldl (fun roster entry => roster.upsert entry.2) s.roster
  let shown : List Act :=
    match roster.selected, roster.names.head? with
    | none, some name => [.display name]
    | _, _ => []
  .aside (.relate r) :: (r.instances.map fun entry => .learn entry.2) ++
    (shown ++ [.aside .startCountdown])

/-- What is done about a command. -/
def commandActs (s : State) (key : String) : Command → List Act
  | .create request => [.expect key, .aside (.ask (.create key request))]
  | .delete name => if s.roster.contains name then [.aside (.ask (.delete name))] else []
  | .select name => [.display name]
  | .input name data =>
    match s.roster.get? name with
    | some i => if i.screen.isAttached then [.type name data] else []
    | none => []
  | .resize g => [.aside (.propose g)]
  | .fit =>
    match s.selectedFit with
    | some g => [.aside (.propose g)]
    | none => []
  | .close => [.aside .emitClose]

/-- What is done about what the backend tells. -/
def inboundActs (s : State) : Inbound → List Act
  | .terminalOut name data => [.route name data]
  | .instanceNew record =>
    .learn record ::
      if { s with roster := s.roster.upsert record }.isFirstConfirmed then [.display record.name]
      else []
  | .instanceDelete name => .forget name :: (s.forget name).state.showActs
  | .viewportResize g => [.resizeAll g]
  | .sessionEnd => [.terminate]
  | .sessionReady ready => [.aside (.ready ready)]
  | .builderOut data => [.aside (.builderOut data)]
  | .terminalStatus name status => [.note name (.status status)]
  | .instanceStats r => [.note r.instanceName (.usage r.mem r.cpu)]
  | .swarmStatus r => [.note r.instanceName (.manager r.isManager)]
  | .k8sStatus r => [.note r.instanceName (.k8sManager r.isManager)]
  | .dockerPorts r => [.note r.instanceName (.ports r.ports)]
  | .swarmPorts r => r.instances.map fun name => .note name (.swarmPorts r.ports)
  | .connected => [.aside (.setConnected true)]
  | .disconnected => [.aside (.setConnected false)]

/-- What is done about the answer to a request for an instance. -/
def createdActs (s : State) (key : String) : Except Failure Record → List Act
  | .ok r => [.forget key, .learn r, .display r.name]
  | .error e =>
    .forget key :: .aside (.tell (.ofFailure "create" e)) :: (s.forget key).state.showActs

/-- What is done about the answer to a request to delete. -/
def deletedActs (s : State) (name : String) : Except Failure Unit → List Act
  | .ok () => .forget name :: (s.forget name).state.showActs
  | .error e => [.aside (.tell (.ofFailure "delete" e))]

/-- What is done about an event of this side. -/
def eventActs (s : State) : Event → List Act
  | .flushTick name => [.flush name]
  | .resizeSettled => [.aside .settle]
  | .countdownTick => if s.isAlive then [.aside .refreshCountdown] else []
  | .created key answer => if s.isAlive then s.createdActs key answer else []
  | .deleted name answer => if s.isAlive then s.deletedActs name answer else []

/-- What is done about a stimulus. -/
def acts (s : State) : Stimulus → List Act
  | .bootstrap (.ok r) => if s.isAlive then s.loadActs r else []
  | .bootstrap (.error _) => []
  | .command key c => if s.isAlive then s.commandActs key c else []
  | .inbound e => if s.isAlive then s.inboundActs e else []
  | .event e => s.eventActs e
  | .select name => [.display name]
  | .attachBuilder => [.aside .attachBuilder]
  | .tell n => [.aside (.tell n)]
  | .pass moment => [.moveTo moment]
  | .setClock moment => [.aside (.setClock moment)]
  | .number count => [.aside (.number count)]
  | .refit fits => [.aside (.refit fits)]

/-! ## To do them is to respond -/

private theorem orStay_eq (t : Step) (f : State → Except Failure Step) :
    t.orStay f = t.andThen fun s => ({ state := s } : Step).orStay f := by
  simp only [Step.orStay, Step.attempt, Step.andThen]
  cases f t.state <;> simp

theorem performAll_learn (s : State) (entries : List (String × Record)) :
    s.performAll (entries.map fun entry => .learn entry.2) =
      { state :=
          { s with
            roster := entries.foldl (fun roster entry => roster.upsert entry.2) s.roster } } := by
  induction entries generalizing s with
  | nil => rfl
  | cons entry entries ih =>
    rw [List.map_cons, performAll_cons]
    simp only [Step.andThen, ih]
    rfl

private theorem performAll_note (s : State) (names : List String) (n : News) :
    s.performAll (names.map fun name => .note name n) =
      { state := names.foldl (fun s name => s.update name n.applyTo) s } := by
  induction names generalizing s with
  | nil => rfl
  | cons name names ih =>
    rw [List.map_cons, performAll_cons]
    simp only [Step.andThen, ih]
    rfl

/-- Records that come one after the other keep the roster consistent. -/
theorem consistent_foldl_upsert {r : Roster} (h : r.Consistent)
    (entries : List (String × Record)) :
    (entries.foldl (fun roster entry => roster.upsert entry.2) r).Consistent := by
  induction entries generalizing r with
  | nil => exact h
  | cons entry entries ih => exact ih (h.upsert entry.2)

private theorem performAll_show (t : Step) :
    t.orStay ensureShown = t.andThen fun s => s.performAll s.showActs := by
  rw [orStay_eq]
  congr 1
  funext u
  simp only [Step.orStay, Step.attempt, ensureShown, showActs]
  cases hu : u.unshown? with
  | some i => simp only [performAll_singleton, perform, Step.orStay, Step.attempt]
  | none => rfl

/-- An instance that is there can be selected while the session is alive. -/
theorem select_eq_ok {s : State} {name : String} {i : Instance} (ha : s.isAlive = true)
    (hi : s.roster.get? name = some i) : s.select name = .ok (s.display name i) := by
  unfold select
  rw [if_pos ha, hi]

theorem perform_display {s : State} {name : String} {i : Instance} (ha : s.isAlive = true)
    (hi : s.roster.get? name = some i) : s.perform (.display name) = s.display name i := by
  simp [perform, Step.orStay, Step.attempt, select_eq_ok ha hi]

/-- Loading never fails half way: the instance to be shown first is there. -/
theorem load_eq {s : State} (h : s.roster.Consistent) (ha : s.isAlive = true)
    (r : SessionRecord) : s.load r = .ok (s.performAll (s.loadActs r)) := by
  have hc := consistent_foldl_upsert h r.instances
  unfold load loadActs
  simp only [List.cons_append, performAll_cons, performAll_append, performAll_learn]
  simp only [perform, performAside, Step.andThen, List.nil_append]
  generalize r.instances.foldl (fun roster entry => roster.upsert entry.2) s.roster = roster at *
  cases hs : roster.selected with
  | some name => rfl
  | none =>
    cases hn : roster.names.head? with
    | none => rfl
    | some name =>
      obtain ⟨i, hi⟩ := hc.exists_of_mem (List.mem_of_mem_head? hn)
      simp only [Step.attempt, performAll_cons, perform, Step.orStay, Step.andThen]
      generalize hl : State.mk .. = loaded
      have hsel : loaded.select name = .ok (loaded.display name i) := by
        subst hl
        exact select_eq_ok ha hi
      rw [hsel]
      simp

private theorem respond_bootstrap {s : State} (h : s.roster.Consistent)
    (answer : Except Failure SessionRecord) :
    s.respond (.bootstrap answer) = s.performAll (s.acts (.bootstrap answer)) := by
  simp only [respond, Step.orStay, Step.attempt, bootstrap]
  cases ha : s.isAlive with
  | false => cases answer <;> simp [acts, ha]
  | true =>
    cases answer with
    | error e => rfl
    | ok r => simp [acts, ha, load_eq h ha]

private theorem respond_command (s : State) (key : String) (c : Command) :
    s.respond (.command key c) = s.performAll (s.acts (.command key c)) := by
  simp only [respond, Step.orStay, Step.attempt, execute, acts]
  cases ha : s.isAlive with
  | false => rfl
  | true =>
    simp only [if_true]
    cases c with
    | create request => rfl
    | delete name =>
      simp only [commandActs]
      cases s.roster.contains name <;> rfl
    | select name =>
      simp only [commandActs, performAll_singleton, perform, Step.orStay, Step.attempt]
    | input name data =>
      simp only [commandActs]
      cases hg : s.roster.get? name with
      | none => rfl
      | some i => cases hi : i.screen.isAttached <;> simp [hi, performAll_singleton, perform]
    | resize g => rfl
    | fit =>
      simp only [commandActs]
      cases s.selectedFit <;> rfl
    | close => rfl

private theorem respond_inbound (s : State) (e : Inbound) :
    s.respond (.inbound e) = s.performAll (s.acts (.inbound e)) := by
  simp only [respond, acts]
  cases ha : s.isAlive with
  | false => rfl
  | true =>
    simp only [if_true]
    cases e with
    | instanceNew record =>
      simp only [apply, learn, inboundActs, performAll_cons, perform, Step.andThen]
      split
      · simp only [performAll_singleton, perform, Step.orStay, Step.attempt]
        split <;> simp_all
      · rfl
    | instanceDelete name =>
      have hl : (s.lose name).1 = (s.forget name).orStay ensureShown := by
        simp only [lose, Step.orStay]
        cases (s.forget name).attempt ensureShown <;> rfl
      simp only [apply, hl, inboundActs, performAll_cons, perform]
      exact performAll_show (s.forget name)
    | swarmPorts r =>
      simp only [apply, inboundActs]
      exact (performAll_note s r.instances (.swarmPorts r.ports)).symm
    | _ => simp only [apply, inboundActs, performAll_singleton]; rfl

private theorem respond_event (s : State) (e : Event) :
    s.respond (.event e) = s.performAll (s.acts (.event e)) := by
  simp only [respond, acts, handle]
  cases e with
  | flushTick name => simp only [eventActs, performAll_singleton, perform]
  | resizeSettled => simp only [eventActs, performAll_singleton, perform, performAside]
  | countdownTick =>
    simp only [eventActs]
    cases s.isAlive <;> rfl
  | created key answer =>
    simp only [eventActs, finishCreate]
    cases s.isAlive with
    | false => rfl
    | true =>
      cases answer with
      | ok r =>
        simp only [if_true, createdActs, performAll_cons, performAll_nil, perform]
        rw [orStay_eq, Step.andThen_assoc]
        simp [Step.andThen]
      | error e =>
        simp only [if_true, createdActs, performAll_cons, perform, performAside]
        rw [performAll_show, Step.andThen_assoc]
        rfl
  | deleted name answer =>
    simp only [eventActs, finishDelete]
    cases s.isAlive with
    | false => rfl
    | true =>
      cases answer with
      | ok u =>
        simp only [if_true, deletedActs, performAll_cons, perform]
        exact performAll_show (s.forget name)
      | error e => simp only [if_true, deletedActs, performAll_singleton, perform, performAside]

/-- To respond is to do what the stimulus asks for, act by act. -/
theorem respond_eq {s : State} (h : s.roster.Consistent) (x : Stimulus) :
    s.respond x = s.performAll (s.acts x) := by
  cases x with
  | bootstrap answer => exact respond_bootstrap h answer
  | command key c => exact respond_command s key c
  | inbound e => exact respond_inbound s e
  | event e => exact respond_event s e
  | _ => simp only [acts, performAll_singleton]; rfl

end State
end TermSync.Session
