import TermSync.Proofs.Link.Queue
import TermSync.Proofs.Session.Proposals

/-!
# What the link makes of what a session emits

A session remembers what it has emitted; its link drops what is emitted while it is down. So the
geometry that the session takes to be sent last need not have reached the backend. A client is
considered in which the two work side by side, the task of the link in any order with what reaches
the session, and each event that is emitted is noted together with what became of it.

Main statements: `frames_carryAll` (what is noted as queued is what the queue gets), `Joined.turn`
(what every turn keeps) and `resize_queued_unless_dropped`.
-/

namespace TermSync

open Terminal (Geometry)
open Wire (Outbound Version)

namespace Link

/-! ## The handle of a session -/

/-- What an effect of a session does to its link. -/
def carry (l : Link) : Session.Effect → Link
  | .emit e => (l.step (.emit e)).1
  | .closeChannel => (l.step .close).1
  | _ => l

/-- One effect after the other. -/
def carryAll (l : Link) (effects : List Session.Effect) : Link := effects.foldl carry l

/-- An event that was emitted, and whether it got into the queue. -/
structure Posting where
  event : Outbound
  queued : Bool
deriving DecidableEq, Repr

/-- What becomes of the events among effects. -/
def postings (l : Link) : List Session.Effect → List Posting
  | [] => []
  | .emit e :: rest => ⟨e, l.isOpen⟩ :: (l.carry (.emit e)).postings rest
  | effect :: rest => (l.carry effect).postings rest

/-- The geometries among postings, each with what became of it. -/
def resizes (ps : List Posting) : List (Geometry × Bool) :=
  ps.filterMap fun p =>
    match p.event with
    | .viewportResize g => some (g, p.queued)
    | _ => none

theorem carry_emit (l : Link) (e : Outbound) :
    l.carry (.emit e) =
      { l with queue := l.queue ++ if l.isOpen then [.frame (e.encode l.version)] else [] } := by
  obtain ⟨_, connected, closed, _, _, _, _⟩ := l
  cases connected <;> cases closed <;> simp [carry, step, isOpen]

theorem carry_closeChannel (l : Link) :
    l.carry .closeChannel =
      { l with closed := true, queue := l.queue ++ if l.closed then [] else [.close] } := by
  obtain ⟨_, _, closed, _, _, _, _⟩ := l
  cases closed <;> simp [carry, step]

private theorem version_carry (l : Link) (effect : Session.Effect) :
    (l.carry effect).version = l.version := by
  cases effect with
  | emit e => rw [carry_emit]
  | closeChannel => rw [carry_closeChannel]
  | _ => rfl

/-- The queue gets the frames of the events that are noted as queued. -/
theorem frames_carryAll (l : Link) (effects : List Session.Effect) :
    (l.carryAll effects).frames =
      l.frames ++ ((l.postings effects).filter Posting.queued).map (·.event.encode l.version) := by
  induction effects generalizing l with
  | nil => simp [carryAll, postings]
  | cons effect rest ih =>
    have hrest := ih (l.carry effect)
    rw [version_carry] at hrest
    rw [carryAll, List.foldl_cons]
    refine hrest.trans ?_
    cases effect with
    | emit e =>
      have hframes : (l.carry (.emit e)).frames =
          l.frames ++ if l.isOpen then [e.encode l.version] else [] := by
        rw [carry_emit]
        cases l.isOpen <;> simp [frames]
      rw [hframes, postings, List.append_assoc]
      cases l.isOpen <;> rfl
    | closeChannel =>
      have hframes : (l.carry .closeChannel).frames = l.frames := by
        rw [carry_closeChannel]
        cases l.closed <;> simp [frames]
      rw [hframes]
      rfl
    | _ => rfl

/-- Every event that is emitted is noted. -/
theorem postings_event (l : Link) (effects : List Session.Effect) :
    (l.postings effects).map Posting.event = Session.Effect.emitted effects := by
  induction effects generalizing l with
  | nil => rfl
  | cons effect rest ih =>
    cases effect with
    | emit e => exact congrArg (e :: ·) (ih _)
    | _ => exact ih _

theorem resizes_fst (l : Link) (effects : List Session.Effect) :
    (resizes (l.postings effects)).map Prod.fst = Session.Effect.sizes effects := by
  rw [Session.Effect.sizes, ← postings_event l, resizes, List.map_filterMap, List.filterMap_map]
  congr 1
  funext p
  dsimp only [Function.comp]
  cases p.event <;> rfl

/-- Only closing it closes a link. -/
theorem closed_carryAll (l : Link) (effects : List Session.Effect) :
    (l.carryAll effects).closed = true ↔ l.closed = true ∨ .closeChannel ∈ effects := by
  induction effects generalizing l with
  | nil => simp [carryAll]
  | cons effect rest ih =>
    have hone : (l.carry effect).closed = true ↔ l.closed = true ∨ .closeChannel = effect := by
      cases effect with
      | emit e => simp [carry_emit]
      | closeChannel => simp [carry_closeChannel]
      | _ => simp [carry]
    rw [carryAll, List.foldl_cons]
    refine (ih (l.carry effect)).trans ?_
    rw [hone, List.mem_cons, or_assoc]

/-! ## The task -/

/-- Whether something happens to the task of a link. The rest is done through the handle. -/
def Stimulus.isOfTask : Stimulus → Bool
  | .emit _ => false
  | .close => false
  | _ => true

/-- The task does not close its link. -/
theorem closed_step (l : Link) {y : Stimulus} (hy : y.isOfTask = true) :
    (l.step y).1.closed = l.closed := by
  have hnot : y ≠ .close := by
    rintro rfl
    cases hy
  exact Bool.eq_iff_iff.mpr ((move_step l y).closed_iff.trans (or_iff_left hnot))

end Link

namespace Session

/-- A session and the link through which it emits. -/
structure Client where
  session : State
  link : Link

namespace Client

/-! ## A session with its link -/

/-- What happens next: something reaches the session, or the task of the link. -/
inductive Turn where
  | session (x : Stimulus)
  | link (y : { y : Link.Stimulus // y.isOfTask = true })

/-- What reaches the session among turns. -/
def stimuli (turns : List Turn) : List Stimulus :=
  turns.filterMap fun
    | .session x => some x
    | .link _ => none

def initial (id : String) (setup : Setup) (version : Version) : Client where
  session := State.initial id setup
  link := { version }

/-- What a turn does. The effects of a response go to the link. -/
def turn (c : Client) : Turn → Client
  | .session x =>
    { session := (c.session.respond x).state
      link := c.link.carryAll (c.session.respond x).effects }
  | .link y => { c with link := (c.link.step y.1).1 }

def run (c : Client) (turns : List Turn) : Client := turns.foldl turn c

/-- What becomes of the events that are emitted in a turn. -/
def postings (c : Client) : Turn → List Link.Posting
  | .session x => c.link.postings (c.session.respond x).effects
  | .link _ => []

/-- What becomes of the events that are emitted during a run. -/
def posted (c : Client) : List Turn → List Link.Posting
  | [] => []
  | t :: turns => c.postings t ++ (c.turn t).posted turns

/-- The session takes no notice of its link. -/
theorem session_run (c : Client) (turns : List Turn) :
    (c.run turns).session = (c.session.run (stimuli turns)).state := by
  induction turns generalizing c with
  | nil => rfl
  | cons t turns ih =>
    cases t with
    | session x => exact ih _
    | link y => exact ih _

/-- What is noted during a run is what the session emits. -/
theorem resizes_posted (c : Client) (turns : List Turn) :
    (Link.resizes (c.posted turns)).map Prod.fst =
      c.session.gather State.sizes (stimuli turns) := by
  induction turns generalizing c with
  | nil => rfl
  | cons t turns ih =>
    rw [posted, Link.resizes, List.filterMap_append, List.map_append]
    cases t with
    | session x => exact congrArg₂ (· ++ ·) (Link.resizes_fst c.link _) (ih _)
    | link y => exact ih _

/-- What the session emitted last is what it takes to be sent last. -/
theorem lastSent_run (id : String) (setup : Setup) (version : Version) (turns : List Turn) :
    ((initial id setup version).run turns).session.viewport.lastSent =
      (Link.resizes ((initial id setup version).posted turns)).getLast?.map Prod.fst := by
  rw [session_run, ← List.getLast?_map, resizes_posted]
  exact (State.coalesced_run id setup (stimuli turns)).2.lastSent

/-- A session closes its link when it ends. -/
structure Joined (c : Client) : Prop where
  coherent : c.session.Coherent
  closed : c.link.closed = true → c.session.isAlive = false

/-- What every turn keeps. -/
theorem Joined.turn {c : Client} (h : c.Joined) (t : Turn) : (c.turn t).Joined := by
  cases t with
  | link y =>
    refine ⟨h.coherent, fun hclosed => h.closed ?_⟩
    rw [Client.turn, Link.closed_step c.link y.2] at hclosed
    exact hclosed
  | session x =>
    refine ⟨h.coherent.respond x, fun hclosed => ?_⟩
    rw [Bool.eq_false_iff]
    intro hlives
    obtain ⟨hlived, hx⟩ := (State.isAlive_respond h.coherent x).mp hlives
    rcases (Link.closed_carryAll c.link _).mp hclosed with hwas | he
    · rw [h.closed hwas] at hlived
      cases hlived
    · exact hx (State.sessionEnd_of_close h.coherent he)

theorem Joined.run {c : Client} (h : c.Joined) (turns : List Turn) : (c.run turns).Joined := by
  induction turns generalizing c with
  | nil => exact h
  | cons t turns ih => exact ih (h.turn t)

/-- A session that lives has not closed its link. -/
theorem closed_run (id : String) (setup : Setup) (version : Version) {turns : List Turn}
    (ha : ((initial id setup version).run turns).session.isAlive = true) :
    ((initial id setup version).run turns).link.closed = false := by
  have hstart : (initial id setup version).Joined :=
    ⟨State.Coherent.initial id setup, by rintro ⟨⟩⟩
  rw [Bool.eq_false_iff]
  intro hclosed
  rw [(hstart.run turns).closed hclosed] at ha
  cases ha

/-- The turn in which the event of a debounce is handled. -/
def settleTurn : Turn := .session (.event .resizeSettled)

/-- What a settled proposal does while the session lives. -/
private theorem effects_settle {s : State} (ha : s.isAlive = true) :
    (s.respond (.event .resizeSettled)).effects =
      (s.viewport.settle.1.map fun g => Effect.emit (.viewportResize g)).toList := by
  show s.settle.effects = _
  rw [State.settle_eq, ha]
  rfl

/-- The last of those that have a property is the last of all if this has it. -/
private theorem getLast?_filter_of_getLast? {α : Type} {p : α → Bool} {as : List α} {a : α}
    (hl : as.getLast? = some a) (hp : p a = true) : (as.filter p).getLast? = some a := by
  obtain ⟨front, rfl⟩ := List.getLast?_eq_some_iff.mp hl
  rw [List.filter_append, List.filter_cons_of_pos hp]
  exact List.getLast?_concat

/-- Let a proposal settle while the session lives and its link is up, and let it differ from the
geometry that the link has queued last. The link queues it, except in one case: the session has
emitted the same geometry before, the link has dropped it, and none was emitted since. Then nothing
is emitted. -/
theorem resize_queued_unless_dropped (id : String) (setup : Setup) (version : Version)
    {turns : List Turn} {g : Geometry}
    (ha : ((initial id setup version).run turns).session.isAlive = true)
    (hup : ((initial id setup version).run turns).link.connected = true)
    (hg : ((initial id setup version).run turns).session.viewport.pending = some g)
    (hcells : g.isDegenerate = false)
    (hlast : ((Link.resizes ((initial id setup version).posted turns)).filter
      Prod.snd).getLast? ≠ some (g, true)) :
    let c := (initial id setup version).run turns
    let latest := (Link.resizes ((initial id setup version).posted turns)).getLast?
    (latest ≠ some (g, false) →
      c.postings settleTurn = [⟨.viewportResize g, true⟩] ∧
        (c.turn settleTurn).link.frames =
          c.link.frames ++ [(Outbound.viewportResize g).encode c.link.version]) ∧
    (latest = some (g, false) →
      c.postings settleTurn = [] ∧ (c.turn settleTurn).link = c.link) := by
  intro c latest
  have hsent : c.session.viewport.lastSent = latest.map Prod.fst :=
    lastSent_run id setup version turns
  have hopen : c.link.isOpen = true := by
    rw [Link.isOpen, hup, closed_run id setup version ha]
    rfl
  have heffects := effects_settle ha
  constructor
  · intro hkept
    have hnew : c.session.viewport.lastSent ≠ some g := by
      rw [hsent]
      intro hsame
      obtain ⟨⟨_, queued⟩, hl, rfl⟩ := Option.map_eq_some_iff.mp hsame
      cases queued with
      | false => exact hkept hl
      | true => exact hlast (getLast?_filter_of_getLast? hl rfl)
    have hsettle := (Viewport.settle_eq_some_iff c.session.viewport g).mpr ⟨hg, hcells, hnew⟩
    rw [hsettle] at heffects
    have hposted : c.postings settleTurn = [⟨.viewportResize g, true⟩] := by
      rw [settleTurn, postings, heffects, ← hopen]
      rfl
    refine ⟨hposted, ?_⟩
    have hframes := c.link.frames_carryAll
      (c.session.respond (.event .resizeSettled)).effects
    rw [show c.link.postings _ = _ from hposted] at hframes
    exact hframes
  · intro hdropped
    have hnone : c.session.viewport.settle.1 = none := by
      rw [Option.eq_none_iff_forall_ne_some]
      intro d hd
      obtain ⟨hpending, -, hnew⟩ := (Viewport.settle_eq_some_iff c.session.viewport d).mp hd
      rw [hg] at hpending
      cases hpending
      exact hnew (by rw [hsent, hdropped]; rfl)
    rw [hnone] at heffects
    constructor
    · rw [settleTurn, postings, heffects]
      rfl
    · rw [settleTurn, turn, heffects]
      rfl

/-- The first geometry of a session comes before its link is up, and is dropped. -/
def early : List Turn :=
  [.session (.command "" (.resize { cols := 80, rows := 24 })), .session (.pass 100), settleTurn,
    .link ⟨.attempt, rfl⟩, .link ⟨.opened, rfl⟩, .session (.inbound .connected)]

/-- Another geometry than the one that was dropped is queued as soon as it settles. -/
theorem resize_queued_after_another :
    let g : Geometry := { cols := 100, rows := 30 }
    let start := initial "s1" {} .legacy
    let turns := early ++ [.session (.command "" (.resize g)), .session (.pass 200)]
    let c := start.run turns
    c.session.isAlive = true ∧ c.link.connected = true ∧
      c.session.viewport.pending = some g ∧ g.isDegenerate = false ∧
      ((Link.resizes (start.posted turns)).filter Prod.snd).getLast? ≠ some (g, true) ∧
      (Link.resizes (start.posted turns)).getLast? ≠ some (g, false) ∧
      c.postings settleTurn = [⟨.viewportResize g, true⟩] := by
  intro g start turns c
  have ha : c.session.isAlive = true := by decide +kernel
  have hup : c.link.connected = true := by decide +kernel
  have hg : c.session.viewport.pending = some g := by decide +kernel
  have hlast : ((Link.resizes (start.posted turns)).filter Prod.snd).getLast? ≠ some (g, true) := by
    decide +kernel
  have hkept : (Link.resizes (start.posted turns)).getLast? ≠ some (g, false) := by decide +kernel
  have h := resize_queued_unless_dropped "s1" {} .legacy ha hup hg rfl hlast
  exact ⟨ha, hup, hg, rfl, hlast, hkept, (h.1 hkept).1⟩

/-- The geometry that was dropped is proposed again once the link is up. Nothing was queued so far,
and nothing is: the session takes it to be sent. -/
theorem resize_withheld_after_drop :
    let g : Geometry := { cols := 80, rows := 24 }
    let start := initial "s1" {} .legacy
    let turns := early ++ [.session (.command "" (.resize g)), .session (.pass 200)]
    let c := start.run turns
    c.session.isAlive = true ∧ c.link.connected = true ∧ c.session.connected = true ∧
      c.session.viewport.pending = some g ∧ g.isDegenerate = false ∧
      (start.posted turns).filter Link.Posting.queued = [] ∧
      c.postings settleTurn = [] ∧ (c.turn settleTurn).link.queue = [] := by
  decide +kernel

end Client
end Session
end TermSync
