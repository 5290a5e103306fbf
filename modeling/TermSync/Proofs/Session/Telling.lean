import TermSync.Proofs.Roster.Erasure
import TermSync.Proofs.Session.Membership

/-!
# What a session is told about its instances

Of what a session does about a stimulus, only some acts tell something about instances: which ones
there are, or what is known about one. They can be read off the stimulus, whatever the session has
come to. All other acts, to show an instance among them, leave it at that. So two sessions that are
told the same come to know the same, however different what they show may be; and a placeholder
that nothing is told about stays a ghost.

Main statements: `sameFacts_perform` (acts that tell nothing), `tellings_eq` (what a stimulus
tells) and `ghost_run` (a placeholder of which nothing is told).
-/

namespace TermSync.Session

open Roster (Ghost Instance Record SameFacts)

/-! ## What is told -/

namespace Act

/-- Whether an act says which instances there are, or what is known about one. -/
def tells : Act → Bool
  | .learn _ | .expect _ | .forget _ | .route _ _ | .note _ _ | .terminate => true
  | .display _ | .resizeAll _ | .type _ _ | .flush _ | .moveTo _ | .aside _ => false

/-- The names of the instances about which an act tells something. -/
def names : Act → List String
  | .learn record => [record.name]
  | .expect key => [key]
  | .forget name => [name]
  | .route name _ => [name]
  | .note name _ => [name]
  | _ => []

end Act

namespace Stimulus

/-- The names of the instances of which a stimulus speaks: those that the backend describes,
reports about or sends output for, and those whose end is asked for or confirmed. -/
def mentions : Stimulus → List String
  | .bootstrap (.ok r) => r.instances.map fun entry => entry.2.name
  | .command _ (.delete name) => [name]
  | .inbound (.terminalOut name _) => [name]
  | .inbound (.instanceNew record) => [record.name]
  | .inbound (.instanceDelete name) => [name]
  | .inbound (.terminalStatus name _) => [name]
  | .inbound (.instanceStats r) => [r.instanceName]
  | .inbound (.swarmStatus r) => [r.instanceName]
  | .inbound (.k8sStatus r) => [r.instanceName]
  | .inbound (.dockerPorts r) => [r.instanceName]
  | .inbound (.swarmPorts r) => r.instances
  | .event (.created _ (.ok record)) => [record.name]
  | .event (.deleted name _) => [name]
  | _ => []

/-- The key under which a stimulus asks for a new instance. -/
def asked? : Stimulus → Option String
  | .command key (.create _) => some key
  | _ => none

/-- The key of the request for an instance that a stimulus answers. -/
def answered? : Stimulus → Option String
  | .event (.created key _) => some key
  | _ => none

/-- The acts that tell what a stimulus tells. -/
def tellings : Stimulus → List Act
  | .bootstrap (.ok r) => r.instances.map fun entry => .learn entry.2
  | .command key (.create _) => [.expect key]
  | .inbound (.terminalOut name data) => [.route name data]
  | .inbound (.instanceNew record) => [.learn record]
  | .inbound (.instanceDelete name) => [.forget name]
  | .inbound .sessionEnd => [.terminate]
  | .inbound (.terminalStatus name status) => [.note name (.status status)]
  | .inbound (.instanceStats r) => [.note r.instanceName (.usage r.mem r.cpu)]
  | .inbound (.swarmStatus r) => [.note r.instanceName (.manager r.isManager)]
  | .inbound (.k8sStatus r) => [.note r.instanceName (.k8sManager r.isManager)]
  | .inbound (.dockerPorts r) => [.note r.instanceName (.ports r.ports)]
  | .inbound (.swarmPorts r) => r.instances.map fun name => .note name (.swarmPorts r.ports)
  | .event (.created key (.ok record)) => [.forget key, .learn record]
  | .event (.created key (.error _)) => [.forget key]
  | .event (.deleted name (.ok ())) => [.forget name]
  | _ => []

/-- What is told is about instances of which the stimulus speaks, or about a placeholder. -/
theorem names_tellings {x : Stimulus} {a : Act} (ha : a ∈ x.tellings) {name : String}
    (hn : name ∈ a.names) :
    name ∈ x.mentions ∨ x.asked? = some name ∨ x.answered? = some name := by
  unfold tellings at ha
  split at ha <;>
    simp only [List.mem_cons, List.mem_map, List.not_mem_nil, or_false] at ha <;>
    grind [mentions, asked?, answered?, Act.names]

end Stimulus

namespace State

private theorem tells_showActs (s : State) : s.showActs.filter Act.tells = [] := by
  rw [List.filter_eq_nil_iff]
  intro a ha
  obtain ⟨name, rfl⟩ := display_of_mem_showActs ha
  simp [Act.tells]

private theorem filter_tells_map {α : Type} (as : List α) (f : α → Act)
    (h : ∀ a, (f a).tells = true) : (as.map f).filter Act.tells = as.map f :=
  List.filter_eq_self.mpr fun b hb => by
    obtain ⟨a, -, rfl⟩ := List.mem_map.mp hb
    exact h a

/-- What a session is told does not depend on what it has come to. -/
theorem tellings_eq {s : State} (ha : s.isAlive = true) (x : Stimulus) :
    (s.acts x).filter Act.tells = x.tellings := by
  cases x with
  | bootstrap answer =>
    cases answer with
    | error e => rfl
    | ok r =>
      have hlearn := filter_tells_map r.instances fun entry => .learn entry.2
      rw [acts, if_pos ha, loadActs, List.filter_append, List.filter_append,
        List.filter_cons_of_neg (by simp [Act.tells]), hlearn fun _ => rfl]
      split <;> simp [Act.tells, Stimulus.tellings]
  | command key c =>
    rw [acts, if_pos ha]
    cases c with
    | delete name =>
      simp only [commandActs]
      cases s.roster.contains name <;> rfl
    | input name data =>
      simp only [commandActs]
      cases s.roster.get? name with
      | none => rfl
      | some i => cases hi : i.screen.isAttached <;> simp [hi] <;> rfl
    | fit =>
      simp only [commandActs]
      cases s.selectedFit <;> rfl
    | _ => rfl
  | inbound e =>
    rw [acts, if_pos ha]
    cases e with
    | instanceNew record =>
      simp only [inboundActs]
      split <;> rfl
    | instanceDelete name => exact congrArg (Act.forget name :: ·) (tells_showActs _)
    | swarmPorts r => exact filter_tells_map r.instances _ fun _ => rfl
    | _ => rfl
  | event e =>
    rw [acts]
    cases e with
    | countdownTick =>
      rw [eventActs, if_pos ha]
      rfl
    | created key answer =>
      rw [eventActs, if_pos ha]
      cases answer with
      | ok r => rfl
      | error e => exact congrArg (Act.forget key :: ·) (tells_showActs _)
    | deleted name answer =>
      rw [eventActs, if_pos ha]
      cases answer with
      | ok u => exact congrArg (Act.forget name :: ·) (tells_showActs _)
      | error e => rfl
    | _ => rfl
  | _ => rfl

/-! ## Acts that tell nothing -/

private theorem facts_takeTyped (i : Instance) : i.takeTyped.2.facts = i.facts := by
  unfold Instance.takeTyped
  dsimp only
  split <;> rfl

theorem sameFacts_perform (s : State) {a : Act} (ha : a.tells = false) :
    s.roster.SameFacts (s.perform a).state.roster := by
  cases a with
  | display name =>
    rcases display_cases s name with ⟨_, _, -, -, -, hp⟩ | ⟨i, _, _, -, hi, -, hp⟩ | ⟨-, hp⟩
    · rw [hp]
      exact SameFacts.select s.roster (some name)
    · rw [hp]
      refine (SameFacts.select s.roster (some name)).trans (SameFacts.update _ name ?_)
      intro j hj
      cases hi.symm.trans hj
      rfl
    · rw [hp]
      exact SameFacts.refl s.roster
  | resizeAll g => exact SameFacts.mapAll s.roster fun _ => rfl
  | type name data => exact SameFacts.update s.roster name fun _ _ => rfl
  | flush name =>
    cases hi : s.roster.get? name with
    | none =>
      rw [perform, flush_eq_of_none hi]
      exact SameFacts.refl s.roster
    | some i =>
      rw [perform, flush_eq hi]
      refine SameFacts.update s.roster name fun j hj => ?_
      cases hi.symm.trans hj
      exact facts_takeTyped i
  | moveTo moment => exact SameFacts.mapAll s.roster fun _ => rfl
  | aside a =>
    rw [perform, (performAside_apart s a).roster]
    exact SameFacts.refl s.roster
  | _ => cases ha

theorem sameFacts_performAll (s : State) {as : List Act} (h : ∀ a ∈ as, a.tells = false) :
    s.roster.SameFacts (s.performAll as).state.roster := by
  induction as generalizing s with
  | nil => exact SameFacts.refl s.roster
  | cons a as ih =>
    have hrest := ih (s.perform a).state fun b hb => h b (List.mem_cons_of_mem a hb)
    exact (sameFacts_perform s (h a List.mem_cons_self)).trans hrest

/-! ## Ghosts -/

private theorem facts_applyTo (n : News) {i j : Instance} (h : i.facts = j.facts) :
    (n.applyTo i).facts = (n.applyTo j).facts := by
  have hf (k : Instance) : (n.applyTo k).facts = n.applyTo k.facts := by cases n <;> rfl
  rw [hf, hf, h]

variable {name : String} {s t : State}

/-- An act that tells nothing about a placeholder leaves it a ghost. -/
theorem ghost_perform (h : Ghost name s.roster t.roster) (hs : s.Coherent) (ht : t.Coherent)
    {a : Act} (ha : a ≠ .terminate) (hn : name ∉ a.names) :
    Ghost name (s.perform a).state.roster (t.perform a).state.roster := by
  cases a with
  | learn record => exact h.upsert record (by simpa [Act.names, eq_comm] using hn)
  | expect key => exact h.expect (by simpa [Act.names, eq_comm] using hn)
  | forget n =>
    simp only [perform, roster_forget]
    exact h.without hs.roster ht.roster (by simpa [Act.names, eq_comm] using hn)
  | route n data =>
    exact (h.announced (by simpa [Act.names, eq_comm] using hn)).retell
      (SameFacts.route s.roster n data) (SameFacts.route t.roster n data)
  | note n news =>
    exact h.update (by simpa [Act.names, eq_comm] using hn) fun _ _ he => facts_applyTo news he
  | terminate => exact absurd rfl ha
  | _ => exact h.retell (sameFacts_perform s rfl) (sameFacts_perform t rfl)

/-- Two sessions that are told the same, and nothing about a placeholder that one of them has, go on
to differ in the placeholder only. -/
theorem ghost_performAll (h : Ghost name s.roster t.roster) (hs : s.Coherent) (ht : t.Coherent)
    {as bs : List Act} (he : as.filter Act.tells = bs.filter Act.tells)
    (ha : ∀ a ∈ as, a ≠ .terminate ∧ name ∉ a.names) :
    Ghost name (s.performAll as).state.roster (t.performAll bs).state.roster := by
  induction as generalizing s t bs with
  | nil =>
    have hb : ∀ b ∈ bs, b.tells = false := by simpa using he.symm
    exact h.retell (SameFacts.refl s.roster) (sameFacts_performAll t hb)
  | cons a as ih =>
    obtain ⟨hne, hn⟩ := ha a List.mem_cons_self
    have hrest := fun b hb => ha b (List.mem_cons_of_mem a hb)
    cases hta : a.tells with
    | false =>
      rw [List.filter_cons_of_neg (by simp [hta])] at he
      exact ih (h.retell (sameFacts_perform s hta) (SameFacts.refl t.roster)) (hs.perform a) ht he
        hrest
    | true =>
      -- The other session does the same act, after some that tell nothing.
      rw [List.filter_cons_of_pos hta] at he
      obtain ⟨mute, later, rfl, hmute, -, hlater⟩ := List.filter_eq_cons_iff.mp he.symm
      have hquiet := sameFacts_performAll t fun b hb => by simpa using hmute b hb
      have hstep := ghost_perform (h.retell (SameFacts.refl s.roster) hquiet) hs
        (ht.performAll mute) hne hn
      rw [performAll_append]
      exact ih hstep (hs.perform a) ((ht.performAll mute).perform a) hlater.symm hrest

/-- A stimulus that does not speak of a placeholder leaves it a ghost. -/
theorem ghost_respond (h : Ghost name s.roster t.roster) (hs : s.Coherent) (ht : t.Coherent)
    (has : s.isAlive = true) (hat : t.isAlive = true) {x : Stimulus}
    (hx : x ≠ .inbound .sessionEnd) (hm : name ∉ x.mentions) (hq : x.asked? ≠ some name)
    (hr : x.answered? ≠ some name) :
    Ghost name (s.respond x).state.roster (t.respond x).state.roster := by
  rw [respond_eq hs.roster, respond_eq ht.roster]
  apply ghost_performAll h hs ht
  · rw [tellings_eq has, tellings_eq hat]
  · intro a ha
    refine ⟨fun he => hx ((cause_of_mem_acts ha).2 he), fun hn => ?_⟩
    cases hta : a.tells with
    | false => cases a <;> simp_all [Act.names, Act.tells]
    | true =>
      have htold : a ∈ x.tellings := by
        rw [← tellings_eq has]
        exact List.mem_filter.mpr ⟨ha, hta⟩
      rcases Stimulus.names_tellings htold hn with h | h | h
      · exact hm h
      · exact hq h
      · exact hr h

/-- Whatever else a session is told, a placeholder of which nothing is told stays a ghost. -/
theorem ghost_run (h : Ghost name s.roster t.roster) (hs : s.Coherent) (ht : t.Coherent)
    (has : s.isAlive = true) (hat : t.isAlive = true) {xs : List Stimulus}
    (hx : ∀ x ∈ xs, x ≠ .inbound .sessionEnd ∧ name ∉ x.mentions ∧ x.asked? ≠ some name ∧
      x.answered? ≠ some name) :
    Ghost name (s.run xs).state.roster (t.run xs).state.roster := by
  induction xs generalizing s t with
  | nil => exact h
  | cons x xs ih =>
    obtain ⟨hend, hm, hq, hr⟩ := hx x List.mem_cons_self
    exact ih (ghost_respond h hs ht has hat hend hm hq hr) (hs.respond x) (ht.respond x)
      ((isAlive_respond hs x).mpr ⟨has, hend⟩) ((isAlive_respond ht x).mpr ⟨hat, hend⟩)
      fun y hy => hx y (List.mem_cons_of_mem x hy)

end State
end TermSync.Session
