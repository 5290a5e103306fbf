import TermSync.Proofs.Session.Loading
import TermSync.Proofs.Session.Opening

/-!
# Events that come twice

What the backend tells may be delivered more than once. Unless it is output, which is drawn each
time, the second delivery changes nothing: what an event has to say is known, and what was to be
shown is shown.

Main statements: `spent_respond` (an event that was handled has nothing more to do) and
`receive_again`.
-/

namespace TermSync

/-- Whether an event brings output. -/
def Wire.Inbound.prints : Wire.Inbound → Bool
  | .terminalOut _ _ | .builderOut _ => true
  | _ => false

namespace Session

open Roster (Instance Record)
open Terminal (Call Geometry Screen)
open Wire (Inbound)

namespace State

variable {s : State} {e : Inbound}

/-- An event has nothing more to do: it changes nothing, and all that comes of it is that widgets
take the geometry again that it announces. -/
structure Spent (s : State) (e : Inbound) : Prop where
  state : (s.respond (.inbound e)).state = s
  effects : ∀ x ∈ (s.respond (.inbound e)).effects,
    ∃ w g, e = .viewportResize g ∧ x = .call ⟨w, .resize g⟩

theorem respond_of_alive (ha : s.isAlive = true) (e : Inbound) :
    s.respond (.inbound e) = (s.apply e).1 := by
  rw [respond, if_pos ha]

namespace Spent

theorem of_eq (h : s.respond (.inbound e) = { state := s }) : s.Spent e where
  state := by rw [h]
  effects x hx := by
    rw [h] at hx
    cases hx

/-- Without acts, nothing comes of an event. -/
theorem of_performAll (hs : s.Coherent) (h : s.performAll (s.acts (.inbound e)) = { state := s }) :
    s.Spent e :=
  of_eq ((respond_eq hs.roster _).trans h)

theorem of_apply (ha : s.isAlive = true) (h : (s.apply e).1 = { state := s }) : s.Spent e :=
  of_eq ((respond_of_alive ha e).trans h)

/-- Once the session has ended, no event has anything to do. -/
theorem of_dead (ha : s.isAlive = false) : s.Spent e := by
  apply of_eq
  simp [respond, ha]

end Spent

/-! ## Announcements -/

/-- A record that is known already leaves nothing to do, if a confirmed instance is selected. -/
private theorem spent_announced (hs : s.Coherent) (ha : s.isAlive = true) {record : Record}
    (hk : s.roster.upsert record = s.roster) (hf : s.isFirstConfirmed = false) :
    s.Spent (.instanceNew record) := by
  have hlearn : s.perform (.learn record) = { state := s } := by
    rw [perform, hk]
  apply Spent.of_performAll hs
  rw [acts, if_pos ha, inboundActs, hk, hf]
  exact (performAll_singleton s _).trans hlearn

/-- The second announcement of an instance finds the record merged, and the instance displayed if it
had to be. -/
private theorem spent_again_announced (hs : s.Coherent) (ha : s.isAlive = true) (record : Record) :
    (s.respond (.inbound (.instanceNew record))).state.Spent (.instanceNew record) := by
  let u : State := { s with roster := s.roster.upsert record }
  have hmerged : u.roster.upsert record = u.roster := Roster.upsert_upsert s.roster record
  have hu : u.Coherent := hs.perform (.learn record)
  have hacts : s.acts (.inbound (.instanceNew record)) =
      .learn record :: if u.isFirstConfirmed then [.display record.name] else [] := by
    rw [acts, if_pos ha]
    rfl
  rw [respond_eq hs.roster, hacts, performAll_cons]
  show (u.performAll _).state.Spent _
  cases hf : u.isFirstConfirmed with
  | false => exact spent_announced hu ha hmerged hf
  | true =>
    have hi := Roster.get?_upsert_self s.roster record
    have hshown := onScreen_display (s := u) ha hi (Roster.provisional_learned s.roster record)
    have hau : (u.perform (.display record.name)).state.isAlive = true :=
      (isAlive_perform u (by simp)).trans ha
    rw [if_pos rfl, performAll_singleton]
    refine spent_announced (hu.perform _) hau ?_
      (isFirstConfirmed_of_confirmed (.of_onScreen hshown))
    -- The record can as well be merged before the instance is displayed.
    have hcomm := congrArg Step.state (display_learn_comm (s := u) ha hi record)
    have hlearned : (u.perform (.learn record)).state = u := by
      rw [perform, hmerged]
    simp only [performAll_cons, performAll_nil, Step.andThen, hlearned] at hcomm
    exact congrArg State.roster hcomm

/-! ## Removals -/

theorem forget_of_none {name : String} (h : s.roster.get? name = none) :
    s.forget name = { state := s } := by
  unfold forget
  rw [(Roster.remove?_eq_none_iff s.roster name).mpr h]

/-- While a confirmed instance is on the screen, none has to be shown. -/
theorem unshown?_of_onScreen (h : s.OnScreen) : s.unshown? = none := by
  obtain ⟨i, hi, hp, hw⟩ := h
  simp [unshown?, hi, hp, hw]

/-- An instance that is not there cannot be taken out, if none has to be shown in its place. -/
private theorem spent_dismissed (hs : s.Coherent) {name : String} (h : s.roster.get? name = none)
    (hu : s.unshown? = none) : s.Spent (.instanceDelete name) := by
  cases ha : s.isAlive with
  | false => exact .of_dead ha
  | true =>
    apply Spent.of_performAll hs
    rw [acts, if_pos ha, inboundActs, performAll_cons, perform, forget_of_none h, showActs, hu]
    rfl

/-- The second dismissal of an instance finds it gone, and another one on the screen if there is one
to be shown. -/
private theorem spent_again_dismissed (hs : s.Coherent) (ha : s.isAlive = true) (name : String) :
    (s.respond (.inbound (.instanceDelete name))).state.Spent (.instanceDelete name) := by
  let u : State := (s.forget name).state
  have hu : u.Coherent := hs.perform (.forget name)
  have hau : u.isAlive = true := (isAlive_forget s name).trans ha
  have hgone : u.roster.get? name = none := by
    have hg := get?_forget s name name
    rwa [if_pos rfl] at hg
  have hacts : s.acts (.inbound (.instanceDelete name)) = .forget name :: u.showActs := by
    rw [acts, if_pos ha]
    rfl
  rw [respond_eq hs.roster, hacts, performAll_cons]
  show (u.performAll u.showActs).state.Spent _
  unfold showActs
  cases hshow : u.unshown? with
  | none => exact spent_dismissed hu hgone hshow
  | some i =>
    have hi := get?_of_unshown? hu hshow
    have hshown := onScreen_display hau hi (confirmed_of_unshown? hshow)
    rw [performAll_singleton]
    refine spent_dismissed (hu.perform _) ?_ (unshown?_of_onScreen hshown)
    have hc := contains_perform hu hau (.display i.name) name
    rw [Roster.contains_eq, Roster.contains_eq, hgone] at hc
    simpa [Act.introduces, Act.removes] using hc

/-! ## Reports -/

/-- A report is known: the instance that it is about has it, if that is there. -/
def Noted (s : State) (n : News) (name : String) : Prop :=
  ∀ i, s.roster.get? name = some i → n.applyTo i = i

private theorem perform_noted {n : News} {name : String} (h : s.Noted n name) :
    s.perform (.note name n) = { state := s } := by
  rw [perform, update, Roster.update_eq_self h]

private theorem applyTo_applyTo (n : News) (i : Instance) :
    n.applyTo (n.applyTo i) = n.applyTo i := by
  cases n <;> rfl

private theorem noted_perform {n : News} {name : String} (other : String)
    (h : name = other ∨ s.Noted n name) : (s.perform (.note other n)).state.Noted n name := by
  intro i hi
  have hg := Roster.get?_update s.roster other name n.applyTo
  replace hg := hg.symm.trans hi
  split at hg
  · obtain ⟨j, -, rfl⟩ := Option.map_eq_some_iff.mp hg
    exact applyTo_applyTo n j
  · next hne => exact h.resolve_left hne i hg

/-- A report to several instances is known to each of them afterwards. -/
private theorem noted_performAll {n : News} {name : String} {names : List String}
    (h : name ∈ names ∨ s.Noted n name) :
    (s.performAll (names.map fun other => .note other n)).state.Noted n name := by
  induction names generalizing s with
  | nil => exact h.resolve_left List.not_mem_nil
  | cons other names ih =>
    apply ih
    rcases h with h | h
    · rcases List.mem_cons.mp h with h | h
      · exact .inr (noted_perform other (.inl h))
      · exact .inl h
    · exact .inr (noted_perform other (.inr h))

private theorem performAll_noted {n : News} {names : List String}
    (h : ∀ name ∈ names, s.Noted n name) :
    s.performAll (names.map fun name => .note name n) = { state := s } := by
  induction names with
  | nil => rfl
  | cons name names ih =>
    have hrest := ih fun other ho => h other (List.mem_cons_of_mem name ho)
    rw [List.map_cons, performAll_cons, perform_noted (h name List.mem_cons_self)]
    simp only [Step.andThen, hrest, List.append_nil]

private theorem spent_again_noted (hs : s.Coherent) (ha : s.isAlive = true) {n : News}
    {names : List String}
    (he : ∀ t : State, t.inboundActs e = names.map fun name => .note name n) :
    (s.respond (.inbound e)).state.Spent e := by
  have hacts {t : State} (hat : t.isAlive = true) :
      t.acts (.inbound e) = names.map fun name => .note name n := by
    rw [acts, if_pos hat, he]
  rw [respond_eq hs.roster, hacts ha]
  apply Spent.of_performAll (hs.performAll _)
  rw [hacts]
  · exact performAll_noted fun name hn => noted_performAll (.inl hn)
  · refine (isAlive_performAll fun a hm => ?_).trans ha
    obtain ⟨name, -, rfl⟩ := List.mem_map.mp hm
    simp

/-! ## Geometries and the channel -/

/-- Every screen has taken the geometry already, and has drawn what it had kept. -/
private theorem spent_again_resized (ha : s.isAlive = true) (g : Geometry) :
    (s.respond (.inbound (.viewportResize g))).state.Spent (.viewportResize g) := by
  obtain ⟨hroster, hcalls⟩ := Roster.resizeAll_resizeAll s.roster g
  have hbuilder := Screen.resize_resize s.builder g
  have hfirst : s.respond (.inbound (.viewportResize g)) = s.resizeAll g := respond_of_alive ha _
  have hagain : (s.resizeAll g).state.respond (.inbound (.viewportResize g)) =
      (s.resizeAll g).state.resizeAll g := respond_of_alive (s := (s.resizeAll g).state) ha _
  rw [hfirst]
  constructor
  · rw [hagain]
    simp only [resizeAll, hroster, hbuilder]
    rfl
  · intro x hx
    rw [hagain] at hx
    simp only [resizeAll, hbuilder, List.map_append, List.mem_append, List.mem_map] at hx
    rcases hx with ⟨c, hc, rfl⟩ | ⟨c, hc, rfl⟩
    · exact ⟨c.widget, g, rfl, congrArg _ (by rw [← hcalls c hc])⟩
    · rw [Option.mem_toList, Option.map_eq_some_iff] at hc
      obtain ⟨w, -, rfl⟩ := hc
      exact ⟨w, g, rfl, rfl⟩

/-- The user was told already that the channel is up, or down. -/
private theorem spent_again_connected (ha : s.isAlive = true) {connected : Bool}
    (he : ∀ t : State, (t.apply e).1 = t.setConnected connected) :
    (s.respond (.inbound e)).state.Spent e := by
  have hlater : (s.setConnected connected).state.isAlive = true :=
    (isAlive_perform s (a := .aside (.setConnected connected)) (by simp)).trans ha
  rw [respond_of_alive ha, he]
  apply Spent.of_apply hlater
  obtain ⟨_, hset⟩ := s.setConnected_eq connected
  rw [he, hset, setConnected, if_pos rfl]

/-! ## Every event -/

/-- An event that was handled has nothing more to do, unless it brings output. -/
theorem spent_respond (hs : s.Coherent) (he : e.prints = false) :
    (s.respond (.inbound e)).state.Spent e := by
  cases ha : s.isAlive with
  | false =>
    rw [respond, if_neg (by rw [ha]; decide)]
    exact .of_dead ha
  | true =>
    have hnoted {n : News} (name : String)
        (h : ∀ t : State, t.inboundActs e = [name].map fun name => .note name n) :
        (s.respond (.inbound e)).state.Spent e :=
      spent_again_noted hs ha h
    cases e with
    | terminalOut name data => cases he
    | builderOut data => cases he
    | instanceNew record => exact spent_again_announced hs ha record
    | instanceDelete name => exact spent_again_dismissed hs ha name
    | viewportResize g => exact spent_again_resized ha g
    | sessionEnd =>
      rw [respond_of_alive ha, apply, terminate, if_pos ha]
      exact .of_dead rfl
    | sessionReady ready =>
      rw [respond_of_alive ha]
      exact .of_apply ha rfl
    | terminalStatus name status => exact hnoted name fun _ => rfl
    | instanceStats r => exact hnoted r.instanceName fun _ => rfl
    | swarmStatus r => exact hnoted r.instanceName fun _ => rfl
    | k8sStatus r => exact hnoted r.instanceName fun _ => rfl
    | dockerPorts r => exact hnoted r.instanceName fun _ => rfl
    | swarmPorts r => exact spent_again_noted hs ha fun _ => rfl
    | connected => exact spent_again_connected ha fun _ => rfl
    | disconnected => exact spent_again_connected ha fun _ => rfl

end State

/-! ## A session without observers -/

/-- Where widgets only take a geometry, nothing else is found among the effects. -/
private theorem filterMap_of_resized {effects : List Effect} {e : Inbound}
    (h : ∀ x ∈ effects, ∃ w g, e = .viewportResize g ∧ x = .call ⟨w, .resize g⟩)
    {β : Type} {f : Effect → Option β} (hf : ∀ w g, f (.call ⟨w, .resize g⟩) = none) :
    effects.filterMap f = [] := by
  apply List.filterMap_eq_nil_iff.mpr
  intro x hx
  obtain ⟨w, g, -, rfl⟩ := h x hx
  exact hf w g

namespace Engine

variable {ω : Type}

/-- Without observers, a session does about an event what it does by itself. -/
theorem receive_eq {g : Engine ω} (ho : g.dispatcher = registered) (e : Inbound) :
    (g.receive e).2 = g.advance (g.state.respond (.inbound e)) := by
  obtain ⟨state, shared, dispatcher⟩ := g
  obtain rfl : dispatcher = registered := ho
  rw [receive, State.respond]
  cases ha : state.isAlive with
  | false =>
    simp [isAlive, ha, advance]
  | true =>
    simp [isAlive, ha, advance, Dispatcher.dispatch, run_registered, Step.andThen]

/-- In every state that a run reaches, an event other than output that is delivered twice changes
nothing the second time: nothing is emitted, no widget is made, and the user is told nothing. All
that comes of it is that widgets take the geometry again that it announces. -/
theorem receive_again (id : String) (setup : Setup) (xs : List Stimulus) {g : Engine ω}
    (hg : g.state = ((State.initial id setup).run xs).state)
    (ho : g.dispatcher = registered) {e : Inbound} (he : e.prints = false) :
    let first := (g.receive e).2
    let second := (first.engine.receive e).2
    second.engine = first.engine ∧ Effect.emitted second.effects = [] ∧
      mounts (Effect.calls second.effects) = [] ∧ Effect.notices second.effects = [] ∧
      ∀ x ∈ second.effects, ∃ w size, e = .viewportResize size ∧ x = .call ⟨w, .resize size⟩ := by
  intro first second
  have hs : g.state.Coherent := hg ▸ State.coherent_run id setup xs
  let t := g.state.respond (.inbound e)
  obtain ⟨hstate, hresized⟩ := State.spent_respond hs he
  have hfirst : first = g.advance t := receive_eq ho e
  have hsecond : second = first.engine.advance (t.state.respond (.inbound e)) := by
    have ho' : first.engine.dispatcher = registered := by
      rw [hfirst]
      exact ho
    have hagain := receive_eq ho' e
    rwa [show first.engine.state = t.state by rw [hfirst]; rfl] at hagain
  have heffects : second.effects = (t.state.respond (.inbound e)).effects := by
    rw [hsecond]
    rfl
  have hengine : second.engine = first.engine := by
    rw [hsecond, advance, hstate, hfirst]
    rfl
  rw [← heffects] at hresized
  have hmounts : mounts (Effect.calls second.effects) = [] := by
    rw [mounts, Effect.calls, List.filterMap_filterMap]
    exact filterMap_of_resized hresized fun _ _ => rfl
  exact ⟨hengine, filterMap_of_resized hresized fun _ _ => rfl, hmounts,
    filterMap_of_resized hresized fun _ _ => rfl, hresized⟩

/-- An instance is announced twice: the first time it is displayed. -/
theorem receive_again_announced :
    let xs : List Stimulus :=
      [.refit fun _ => some { cols := 80, rows := 24 }, .command "pending-1" (.create {})]
    let g : Engine Unit := { state := ((State.initial "s1" {}).run xs).state, shared := () }
    let e : Inbound := .instanceNew { name := "a", hostname := some "host" }
    let first := (g.receive e).2
    let second := (first.engine.receive e).2
    e.prints = false ∧ mounts (Effect.calls first.effects) = [{ name := "a", serial := 0 }] ∧
      second.engine = first.engine ∧ Effect.emitted second.effects = [] ∧
      mounts (Effect.calls second.effects) = [] ∧ Effect.notices second.effects = [] ∧
      ∀ x ∈ second.effects, ∃ w size, e = .viewportResize size ∧ x = .call ⟨w, .resize size⟩ := by
  intro xs g e
  have he : e.prints = false := rfl
  have hagain := receive_again "s1" {} xs (g := g) rfl rfl he
  refine ⟨he, ?_, hagain⟩
  decide +kernel

end Engine
end Session
end TermSync
