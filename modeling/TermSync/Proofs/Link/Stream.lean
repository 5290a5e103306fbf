import Mathlib.Data.List.Chain
import TermSync.Proofs.Link.Moves

/-!
# The events that come out of a link

A link makes one attempt to connect after the other. An attempt fails, or it brings messages until
the connection is lost. What comes out is told apart here: a transition, which the link reports of
itself, and an event that a message carries. The latter may carry the same name, so the transitions
alternate, and the events need not.

Main statements: `transitions_alternate` (in any run) and `deliveries_of_attempts`.
-/

namespace TermSync.Link

open Wire (Inbound Outbound Version)

variable {l m : Link} {s : Stimulus} {effects : List Effect}

/-! ## Deliveries -/

/-- The events that come out. -/
def delivered (effects : List Effect) : List Inbound :=
  effects.filterMap fun
    | .deliver e => some e
    | _ => none

/-- An event that comes out, and whether the link reports it of itself. -/
structure Delivery where
  event : Inbound
  synthesized : Bool
deriving DecidableEq, Repr

/-- Whether a message arrives. -/
def Stimulus.isArrival : Stimulus → Bool
  | .arrived _ => true
  | _ => false

/-- What comes out at a stimulus. Only a message makes the link deliver an event of another. -/
def deliveries (l : Link) (s : Stimulus) : List Delivery :=
  (delivered (l.step s).2).map fun e => ⟨e, !s.isArrival⟩

/-- The event that says that the connection came up, or that it went down. -/
def transition (up : Bool) : Inbound := if up then .connected else .disconnected

theorem delivered_run (l : Link) (stimuli : List Stimulus) :
    delivered (l.run stimuli).2 = (l.gather deliveries stimuli).map Delivery.event := by
  induction stimuli generalizing l with
  | nil => rfl
  | cons s rest ih =>
    have happend : delivered (l.run (s :: rest)).2 =
        delivered (l.step s).2 ++ delivered ((l.step s).1.run rest).2 := List.filterMap_append
    have hnow : (l.deliveries s).map Delivery.event = delivered (l.step s).2 := by
      rw [deliveries, List.map_map]
      exact List.map_id _
    rw [happend, ih, gather, List.map_append, hnow]

/-! ## Transitions -/

private theorem down_cases (l : Link) :
    delivered l.down.2 = [] ∧
        (l.down.1.reportedUp = l.reportedUp ∨ l.down.1.phase = .finished) ∨
      delivered l.down.2 = [transition false] ∧ l.reportedUp ≠ some false ∧
        l.down.1.reportedUp = some false := by
  unfold down finish
  dsimp only
  by_cases hr : l.reportedUp = some false
  · rw [if_pos hr]
    exact .inl ⟨rfl, .inl rfl⟩
  · rw [if_neg hr]
    cases l.heard with
    | true => exact .inr ⟨rfl, hr, rfl⟩
    | false => exact .inl ⟨rfl, .inr rfl⟩

private theorem up_cases (l : Link) :
    delivered l.up.2 = [] ∧ l.up.1.phase = .finished ∨
      delivered l.up.2 = [transition true] ∧ l.up.1.reportedUp = some true := by
  unfold up deliver
  cases l.heard with
  | true => exact .inr ⟨rfl, rfl⟩
  | false => exact .inl ⟨rfl, rfl⟩

/-- What a link reports of itself at a stimulus. -/
def reports (l : Link) (s : Stimulus) : List Inbound :=
  if s.isArrival then [] else delivered (l.step s).2

/-- A link reports nothing of itself, or a transition that it has not reported last. -/
private theorem Move.reported (h : Move l s m effects) (hl : l.Sound) (hs : s.isArrival = false) :
    delivered effects = [] ∧ (m.reportedUp = l.reportedUp ∨ m.phase = .finished) ∨
      ∃ up, delivered effects = [transition up] ∧ l.reportedUp ≠ some up ∧
        m.reportedUp = some up := by
  cases h with
  | refused => exact (down_cases l).imp id fun hd => ⟨false, hd⟩
  | lost => exact (down_cases l).imp id fun hd => ⟨false, hd⟩
  | broke _ rest => exact (down_cases { l with queue := rest }).imp id fun hd => ⟨false, hd⟩
  | opened hp =>
    have hnot : l.reportedUp ≠ some true := hl.down (by simp [hp]) (by simp [hp])
    exact (up_cases l).imp (fun hd => ⟨hd.1, .inr hd.2⟩) fun hd => ⟨true, hd.1, hnot, hd.2⟩
  | arrived => cases hs
  | ended => exact .inl ⟨by split <;> rfl, .inr rfl⟩
  | _ => exact .inl ⟨rfl, .inl rfl⟩

private theorem Move.of_arrival (h : Move l s m effects) (hs : s.isArrival = true) :
    m.reportedUp = l.reportedUp ∨ m.phase = .finished := by
  cases h with
  | arrived msg =>
    rcases receive_fst l msg with hm | hm <;> rw [hm]
    · exact .inl rfl
    · exact .inr rfl
  | stayed => exact .inl rfl
  | _ => cases hs

private theorem reports_cases (hl : l.Sound) (s : Stimulus) :
    l.reports s = [] ∧
        ((l.step s).1.reportedUp = l.reportedUp ∨ (l.step s).1.phase = .finished) ∨
      ∃ up, l.reports s = [transition up] ∧ l.reportedUp ≠ some up ∧
        (l.step s).1.reportedUp = some up := by
  have hm := move_step l s
  unfold reports
  cases hs : s.isArrival with
  | true => exact .inl ⟨rfl, hm.of_arrival hs⟩
  | false => exact hm.reported hl hs

private theorem gather_reports_finished (h : l.phase = .finished) (stimuli : List Stimulus) :
    l.gather reports stimuli = [] := by
  induction stimuli generalizing l with
  | nil => rfl
  | cons s rest ih =>
    obtain ⟨hphase, heffects⟩ := (move_step l s).finished h
    have hnow : l.reports s = [] := by
      unfold reports
      rw [heffects]
      split <;> rfl
    rw [gather, hnow, ih hphase]
    rfl

private theorem transition_inj {a b : Bool} (h : transition a = transition b) : a = b := by
  cases a <;> cases b <;> first | rfl | cases h

/-- Whatever happens to a link, the transitions that it reports alternate, and they go on from the
one that it has reported last. -/
theorem transitions_alternate (hl : l.Sound) (stimuli : List Stimulus) :
    (l.gather reports stimuli).IsChain (· ≠ ·) ∧
      ∀ up, l.reportedUp = some up → (l.gather reports stimuli).head? ≠ some (transition up) := by
  induction stimuli generalizing l with
  | nil => exact ⟨.nil, fun _ _ => by rintro ⟨⟩⟩
  | cons s rest ih =>
    obtain ⟨hchain, hhead⟩ := ih ((move_step l s).sound hl)
    rcases reports_cases hl s with ⟨hnone, hsame | hdone⟩ | ⟨up, hone, hnew, hlast⟩
    · rw [gather, hnone, List.nil_append, ← hsame]
      exact ⟨hchain, hhead⟩
    · rw [gather, hnone, gather_reports_finished hdone]
      exact ⟨.nil, fun _ _ => by rintro ⟨⟩⟩
    · rw [gather, hone, List.singleton_append]
      refine ⟨List.isChain_cons.mpr ⟨fun e he heq => hhead up hlast (heq ▸ he), hchain⟩, ?_⟩
      intro last hl heq
      exact hnew (transition_inj (Option.some.inj heq) ▸ hl)

/-- The transitions that are reported during a run. -/
theorem reports_eq (l : Link) (stimuli : List Stimulus) :
    l.gather reports stimuli =
      ((l.gather deliveries stimuli).filter Delivery.synthesized).map Delivery.event := by
  induction stimuli generalizing l with
  | nil => rfl
  | cons s rest ih =>
    have hnow : ((l.deliveries s).filter Delivery.synthesized).map Delivery.event =
        l.reports s := by
      unfold deliveries reports
      cases s.isArrival <;> simp [List.filter_map, Function.comp_def]
    rw [gather, gather, List.filter_append, List.map_append, hnow, ih]

/-! ## Attempts -/

/-- The event that a message carries, if it carries one. -/
def Message.event? : Message → Option Inbound
  | .text s =>
    match Inbound.decode s with
    | .ok e => some e
    | .error _ => none
  | .binary _ => none
  | .ping _ => none

/-- What an attempt to connect comes to: it fails, or the connection lasts for some messages. -/
inductive Attempt where
  | failed
  | succeeded (messages : List Message)

/-- What happens to a link during an attempt, up to the end of the wait after it. -/
def Attempt.stimuli : Attempt → List Stimulus
  | .failed => [.attempt, .refused, .rested]
  | .succeeded messages => .attempt :: .opened :: (messages.map .arrived ++ [.lost, .rested])

/-- What comes out for one attempt after the other. While the link has reported last that it is
down, it does not say so again. -/
def stream (isDown : Bool) : List Attempt → List Delivery
  | [] => []
  | .failed :: rest => (if isDown then [] else [⟨.disconnected, true⟩]) ++ stream true rest
  | .succeeded messages :: rest =>
    ⟨.connected, true⟩ :: ((messages.filterMap Message.event?).map (⟨·, false⟩) ++
      ⟨.disconnected, true⟩ :: stream true rest)

private theorem receive_of_heard (hh : l.heard = true) (msg : Message) :
    (l.receive msg).1 = l ∧ delivered (l.receive msg).2 = msg.event?.toList := by
  cases msg with
  | text s =>
    cases hd : Inbound.decode s <;> simp [receive, Message.event?, hd, deliver, hh, delivered]
  | _ => exact ⟨rfl, rfl⟩

/-- Every message that carries an event brings it, and none ends the connection. -/
private theorem gather_arrived (hp : l.phase = .live) (hh : l.heard = true)
    (messages : List Message) (rest : List Stimulus) :
    l.gather deliveries (messages.map .arrived ++ rest) =
      (messages.filterMap Message.event?).map (⟨·, false⟩) ++ l.gather deliveries rest := by
  induction messages with
  | nil => rfl
  | cons msg messages ih =>
    obtain ⟨hsame, hevent⟩ := receive_of_heard hh msg
    have hstep : l.step (.arrived msg) = l.receive msg := by simp [step, hp]
    have hnow : l.deliveries (.arrived msg) = msg.event?.toList.map (⟨·, false⟩) := by
      rw [deliveries, hstep, hevent]
      rfl
    rw [List.map_cons, List.cons_append, gather, hstep, hsame, ih, hnow]
    cases h : msg.event? <;> simp [h]

/-- What comes out for each attempt, if nothing else happens. -/
private theorem gather_attempts (hp : l.phase = .idle) (hc : l.closed = false)
    (hh : l.heard = true) (attempts : List Attempt) :
    l.gather deliveries (attempts.flatMap Attempt.stimuli) =
      stream (l.reportedUp == some false) attempts := by
  induction attempts generalizing l with
  | nil => rfl
  | cons attempt rest ih =>
    obtain ⟨version, connected, closed, queue, phase, reportedUp, heard⟩ := l
    obtain rfl : phase = .idle := hp
    obtain rfl : closed = false := hc
    obtain rfl : heard = true := hh
    -- Every attempt leaves the link down, with that reported, and about to try again.
    have hrest : gather deliveries ⟨version, false, false, queue, .idle, some false, true⟩
        (rest.flatMap Attempt.stimuli) = stream true rest := ih rfl rfl rfl
    rw [List.flatMap_cons]
    cases attempt with
    | failed =>
      rw [stream, ← hrest]
      rcases reportedUp with - | - | - <;> rfl
    | succeeded messages =>
      rw [stream, ← hrest]
      have hlive := gather_arrived (l := ⟨version, true, false, queue, .live, some true, true⟩)
        rfl rfl messages ([.lost, .rested] ++ rest.flatMap Attempt.stimuli)
      rw [← List.append_assoc] at hlive
      exact congrArg (⟨.connected, true⟩ :: ·) hlive

/-! ## Beside the attempts -/

/-- Whether the handle emits an event, or the task sends or drops what is queued. -/
def Stimulus.isUse : Stimulus → Bool
  | .emit _ => true
  | .take writable => writable
  | _ => false

/-- What happens to the connection. -/
def Stimulus.isOfSocket : Stimulus → Bool
  | .attempt | .refused | .opened | .arrived _ | .lost | .rested => true
  | _ => false

/-- The link with another queue. -/
def withQueue (l : Link) (queue : List Outgoing) : Link := { l with queue }

private theorem step_use (h : .close ∉ l.queue) (hs : s.isUse = true) :
    (∃ queue, .close ∉ queue ∧ (l.step s).1 = l.withQueue queue) ∧ l.deliveries s = [] := by
  have hm := move_step l s
  unfold deliveries
  generalize (l.step s).1 = m at *
  generalize (l.step s).2 = effects at *
  cases hm with
  | posted e => exact ⟨⟨_, by simpa using h, rfl⟩, rfl⟩
  | wrote text rest hp hq => exact ⟨⟨rest, by simp_all, rfl⟩, rfl⟩
  | discarded w text rest hp hq => exact ⟨⟨rest, by simp_all, rfl⟩, rfl⟩
  | ended w rest hp hq => simp [hq] at h
  | stayed => exact ⟨⟨l.queue, h, rfl⟩, rfl⟩
  | _ => cases hs

private theorem down_withQueue (l : Link) (queue : List Outgoing) :
    (l.withQueue queue).down = (l.down.1.withQueue queue, l.down.2) := by
  unfold down withQueue finish
  dsimp only
  split
  · rfl
  · split <;> rfl

private theorem deliver_withQueue (l : Link) (queue : List Outgoing) (e : Inbound) :
    (l.withQueue queue).deliver e = ((l.deliver e).1.withQueue queue, (l.deliver e).2) := by
  unfold deliver withQueue finish
  split <;> rfl

private theorem receive_withQueue (l : Link) (queue : List Outgoing) (msg : Message) :
    (l.withQueue queue).receive msg = ((l.receive msg).1.withQueue queue, (l.receive msg).2) := by
  cases msg with
  | text s =>
    unfold receive
    dsimp only
    split
    · exact deliver_withQueue l queue _
    · rfl
  | _ => rfl

/-- What happens to the connection does not depend on what is queued. -/
private theorem step_socket (hs : s.isOfSocket = true) (l : Link) (queue : List Outgoing) :
    (l.withQueue queue).step s = ((l.step s).1.withQueue queue, (l.step s).2) := by
  obtain ⟨version, connected, closed, queued, phase, reportedUp, heard⟩ := l
  cases s with
  | attempt => cases phase <;> cases closed <;> rfl
  | refused =>
    cases phase with
    | connecting => exact down_withQueue _ queue
    | _ => rfl
  | opened =>
    cases phase with
    | connecting =>
      exact deliver_withQueue ⟨version, true, closed, queued, .live, some true, heard⟩ queue
        .connected
    | _ => rfl
  | arrived msg =>
    cases phase with
    | live => exact receive_withQueue _ queue msg
    | _ => rfl
  | lost =>
    cases phase with
    | live => exact down_withQueue _ queue
    | _ => rfl
  | rested => cases phase <;> rfl
  | _ => cases hs

/-- What the handle emits, and what the task sends or drops of it, changes nothing about what comes
out, as long as nothing else is queued. -/
private theorem gather_uses (hclose : .close ∉ l.queue) {stimuli : List Stimulus}
    (hall : ∀ s ∈ stimuli, s.isUse = true ∨ s.isOfSocket = true) :
    l.gather deliveries stimuli =
      (l.withQueue []).gather deliveries (stimuli.filter fun s => !s.isUse) := by
  induction stimuli generalizing l with
  | nil => rfl
  | cons s rest ih =>
    have hrest := fun x hx => hall x (List.mem_cons_of_mem s hx)
    cases hs : s.isUse with
    | true =>
      obtain ⟨⟨queue, hnot, hnext⟩, hnone⟩ := step_use hclose hs
      rw [gather, hnone, hnext, List.filter_cons_of_neg (by simp [hs])]
      exact ih hnot hrest
    | false =>
      have hsocket : s.isOfSocket = true := (hall s List.mem_cons_self).resolve_left (by simp [hs])
      have hstep := step_socket hsocket l []
      have hqueue : (l.step s).1 = (l.step s).1.withQueue l.queue :=
        congrArg Prod.fst (step_socket hsocket l l.queue)
      have hnot : .close ∉ (l.step s).1.queue := by
        rw [hqueue]
        exact hclose
      have hnow : (l.withQueue []).deliveries s = l.deliveries s := by
        rw [deliveries, deliveries, hstep]
      rw [List.filter_cons_of_pos (by simp [hs]), gather, gather, hnow, hstep, ih hnot hrest]

private theorem isOfSocket_of_mem {attempts : List Attempt}
    (hs : s ∈ attempts.flatMap Attempt.stimuli) : s.isOfSocket = true := by
  obtain ⟨attempt, -, hmem⟩ := List.mem_flatMap.mp hs
  cases attempt with
  | failed =>
    simp only [Attempt.stimuli, List.mem_cons, List.not_mem_nil, or_false] at hmem
    rcases hmem with rfl | rfl | rfl <;> rfl
  | succeeded messages =>
    simp only [Attempt.stimuli, List.mem_cons, List.mem_append, List.mem_map, List.not_mem_nil,
      or_false] at hmem
    rcases hmem with rfl | rfl | ⟨_, -, rfl⟩ | rfl | rfl <;> rfl

/-- Let a new link make attempts to connect that end as they may, while the handle emits events and
the task sends them, and let the link not be closed, somebody listen and no sending fail. The events
that come out are those of the attempts: for a connection the transition up, the events of its
messages in order, and the transition down; for an attempt that fails the transition down, unless
that is what was reported last. So the transitions alternate. -/
theorem deliveries_of_attempts (version : Version) (attempts : List Attempt)
    {stimuli : List Stimulus}
    (h : stimuli.filter (fun s => !s.isUse) = attempts.flatMap Attempt.stimuli) :
    let start : Link := { version }
    start.gather deliveries stimuli = stream false attempts ∧
      delivered (start.run stimuli).2 = (stream false attempts).map Delivery.event ∧
      (((stream false attempts).filter Delivery.synthesized).map Delivery.event).IsChain
        (· ≠ ·) := by
  intro start
  have hall : ∀ s ∈ stimuli, s.isUse = true ∨ s.isOfSocket = true := by
    intro s hs
    cases huse : s.isUse with
    | true => exact .inl rfl
    | false =>
      have hmem : s ∈ stimuli.filter fun s => !s.isUse :=
        List.mem_filter.mpr ⟨hs, by simp [huse]⟩
      exact .inr (isOfSocket_of_mem (h ▸ hmem))
  have hstream : start.gather deliveries stimuli = stream false attempts := by
    rw [gather_uses List.not_mem_nil hall, h]
    exact gather_attempts rfl rfl rfl attempts
  refine ⟨hstream, ?_, ?_⟩
  · rw [delivered_run, hstream]
  · rw [← hstream, ← reports_eq]
    exact (transitions_alternate (sound_initial version) stimuli).1

/-- Two attempts fail; the third brings a frame with arguments that do not fit, a ping and an event
named like a transition, and is lost while an event waits to be sent; the last is lost at once. -/
theorem deliveries_of_four_attempts :
    let unfit : Message := .text "\x7b\"name\":\"terminal out\",\"args\":[42]\x7d"
    let namesake : Message := .text "\x7b\"name\":\"connect\"\x7d"
    let attempts : List Attempt :=
      [.failed, .failed, .succeeded [unfit, .ping [1], namesake], .succeeded []]
    let stimuli : List Stimulus :=
      [.attempt, .refused, .rested, .emit .sessionClose, .attempt, .refused, .rested,
        .attempt, .opened, .arrived unfit, .emit .sessionClose, .take true,
        .arrived (.ping [1]), .emit .sessionClose, .arrived namesake, .lost, .take true, .rested,
        .attempt, .opened, .lost, .rested]
    let start : Link := { version := .current }
    stimuli.filter (fun s => !s.isUse) = attempts.flatMap Attempt.stimuli ∧
      start.gather deliveries stimuli = stream false attempts ∧
      stream false attempts =
        [⟨.disconnected, true⟩, ⟨.connected, true⟩, ⟨.connected, false⟩, ⟨.disconnected, true⟩,
          ⟨.connected, true⟩, ⟨.disconnected, true⟩] := by
  intro unfit namesake attempts stimuli start
  have hscript : stimuli.filter (fun s => !s.isUse) = attempts.flatMap Attempt.stimuli := rfl
  exact ⟨hscript, (deliveries_of_attempts .current attempts hscript).1, by decide +kernel⟩

end TermSync.Link
