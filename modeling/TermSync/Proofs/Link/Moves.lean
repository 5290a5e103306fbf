import TermSync.Link

/-!
# The moves of a link

Whatever happens to a link, it makes one of a few moves, some of them only under a condition
(`Move`). What a step keeps and what it lets out are read off the moves; what holds of a run is
gathered step by step.

Main statements: `move_step`, `Move.queue` (nothing gets lost between the two ends of the queue),
`sound_run` (what the phase of a link says about its flags).
-/

namespace TermSync.Link

open Wire (Inbound Outbound)

variable {l m : Link} {s : Stimulus} {effects : List Effect}

/-! ## The two ends of the queue -/

/-- Whether an event that is emitted now gets into the queue. -/
def isOpen (l : Link) : Bool := l.connected && !l.closed

/-- What the handle puts into the queue. -/
def puts (l : Link) : Stimulus → List Outgoing
  | .emit e => if l.isOpen then [.frame (e.encode l.version)] else []
  | .close => if l.closed then [] else [.close]
  | _ => []

/-- What the task takes out of the queue. -/
def takes (l : Link) : Stimulus → List Outgoing
  | .take _ => if l.phase = .live ∨ l.phase = .resting then l.queue.take 1 else []
  | _ => []

/-! ## Moves -/

/-- What becomes of a link, and what it lets out, when something happens to it. -/
inductive Move (l : Link) : Stimulus → Link → List Effect → Prop where
  | posted (e : Outbound) (h : l.isOpen = true) :
    Move l (.emit e) { l with queue := l.queue ++ [.frame (e.encode l.version)] } []
  | closed (h : l.closed = false) :
    Move l .close { l with closed := true, queue := l.queue ++ [.close] } []
  | unheard : Move l .unheard { l with heard := false } []
  | attempted (hp : l.phase = .idle) (h : l.closed = false) :
    Move l .attempt { l with phase := .connecting } [.connect]
  | gaveUp (hp : l.phase = .idle) (h : l.closed = true) : Move l .attempt l.finish []
  | refused (hp : l.phase = .connecting) : Move l .refused l.down.1 l.down.2
  | opened (hp : l.phase = .connecting) : Move l .opened l.up.1 l.up.2
  | arrived (msg : Message) (hp : l.phase = .live) :
    Move l (.arrived msg) (l.receive msg).1 (l.receive msg).2
  | lost (hp : l.phase = .live) : Move l .lost l.down.1 l.down.2
  | rested (hp : l.phase = .resting) : Move l .rested { l with phase := .idle } []
  | wrote (text : String) (rest : List Outgoing) (hp : l.phase = .live)
      (hq : l.queue = .frame text :: rest) :
    Move l (.take true) { l with queue := rest } [.write text]
  | broke (text : String) (rest : List Outgoing) (hp : l.phase = .live)
      (hq : l.queue = .frame text :: rest) :
    Move l (.take false) { l with queue := rest }.down.1 { l with queue := rest }.down.2
  | discarded (w : Bool) (text : String) (rest : List Outgoing) (hp : l.phase = .resting)
      (hq : l.queue = .frame text :: rest) :
    Move l (.take w) { l with queue := rest } []
  | ended (w : Bool) (rest : List Outgoing) (hp : l.phase = .live ∨ l.phase = .resting)
      (hq : l.queue = .close :: rest) :
    Move l (.take w) { l with queue := rest }.finish (if l.phase = .live then [.goodbye] else [])
  | stayed (s : Stimulus) (hputs : l.puts s = []) (htakes : l.takes s = []) : Move l s l []

private theorem move_take (l : Link) (w : Bool) : Move l (.take w) (l.take w).1 (l.take w).2 := by
  unfold take
  split
  · next first rest hp hq =>
    cases first with
    | frame text =>
      cases w with
      | true => exact .wrote text rest hp hq
      | false => exact .broke text rest hp hq
    | close =>
      have hm := Move.ended w rest (.inl hp) hq
      rw [if_pos hp] at hm
      exact hm
  · next first rest hp hq =>
    cases first with
    | frame text => exact .discarded w text rest hp hq
    | close =>
      have hm := Move.ended w rest (.inr hp) hq
      rw [if_neg (by rw [hp]; decide)] at hm
      exact hm
  · next hlive hresting =>
    refine .stayed _ rfl ?_
    cases hq : l.queue with
    | nil => simp [takes, hq]
    | cons first rest =>
      rw [takes, if_neg]
      rintro (hp | hp)
      · exact hlive first rest hp hq
      · exact hresting first rest hp hq

/-- Every step is a move. -/
theorem move_step (l : Link) (s : Stimulus) : Move l s (l.step s).1 (l.step s).2 := by
  unfold step
  split
  · next e =>
    cases h : l.isOpen with
    | true =>
      have hkept : ¬(l.closed || !l.connected) = true := by simp_all [isOpen]
      rw [if_neg hkept]
      exact .posted e h
    | false =>
      have hdropped : (l.closed || !l.connected) = true := by
        cases hc : l.closed <;> simp_all [isOpen]
      rw [if_pos hdropped]
      exact .stayed _ (by simp [puts, h]) rfl
  · by_cases h : l.closed = true
    · rw [if_pos h]
      exact .stayed _ (by simp [puts, h]) rfl
    · rw [if_neg h]
      exact .closed (by simpa using h)
  · exact .unheard
  · exact move_take l _
  · next hp =>
    by_cases h : l.closed = true
    · rw [if_pos h]
      exact .gaveUp hp h
    · rw [if_neg h]
      exact .attempted hp (by simpa using h)
  · next hp => exact .refused hp
  · next hp => exact .opened hp
  · next hp => exact .arrived _ hp
  · next hp => exact .lost hp
  · next hp => exact .rested hp
  · next y _ _ hemit hclose _ htake _ _ _ _ _ _ =>
    refine .stayed _ ?_ ?_
    · cases y with
      | emit e => exact absurd rfl (hemit e)
      | close => exact absurd rfl hclose
      | _ => rfl
    · cases y with
      | take w => exact absurd rfl (htake w)
      | _ => rfl

/-! ## The handle's side -/

/-- The handle's side of a link is as it was. -/
structure SameHandle (l m : Link) : Prop where
  version : m.version = l.version
  closed : m.closed = l.closed
  queue : m.queue = l.queue

theorem sameHandle_down (l : Link) : l.SameHandle l.down.1 := by
  unfold down finish
  dsimp only
  split
  · exact ⟨rfl, rfl, rfl⟩
  · split <;> exact ⟨rfl, rfl, rfl⟩

private theorem sameHandle_deliver (l : Link) (e : Inbound) : l.SameHandle (l.deliver e).1 := by
  unfold deliver finish
  split <;> exact ⟨rfl, rfl, rfl⟩

theorem sameHandle_up (l : Link) : l.SameHandle l.up.1 := by
  obtain ⟨hversion, hclosed, hqueue⟩ := sameHandle_deliver
    { l with phase := .live, connected := true, reportedUp := some true } .connected
  exact ⟨hversion, hclosed, hqueue⟩

theorem sameHandle_receive (l : Link) (msg : Message) : l.SameHandle (l.receive msg).1 := by
  cases msg with
  | text s =>
    unfold receive
    dsimp only
    split
    · exact sameHandle_deliver l _
    · exact ⟨rfl, rfl, rfl⟩
  | _ => exact ⟨rfl, rfl, rfl⟩

/-- A link keeps its version. -/
theorem Move.version (h : Move l s m effects) : m.version = l.version := by
  cases h with
  | refused => exact (sameHandle_down l).version
  | opened => exact (sameHandle_up l).version
  | arrived msg => exact (sameHandle_receive l msg).version
  | lost => exact (sameHandle_down l).version
  | broke _ rest => exact (sameHandle_down { l with queue := rest }).version
  | _ => rfl

/-- Only closing it closes a link. -/
theorem Move.closed_iff (h : Move l s m effects) :
    m.closed = true ↔ l.closed = true ∨ s = .close := by
  cases h with
  | closed hc => simp
  | stayed s hputs =>
    cases s with
    | close => cases hc : l.closed <;> simp_all [puts]
    | _ => simp
  | refused => simp [(sameHandle_down l).closed]
  | opened => simp [(sameHandle_up l).closed]
  | arrived msg => simp [(sameHandle_receive l msg).closed]
  | lost => simp [(sameHandle_down l).closed]
  | broke _ rest => simp [(sameHandle_down { l with queue := rest }).closed]
  | _ => simp [finish]

/-- What was in the queue and what is put into it is what is taken out of it and what is left. -/
theorem Move.queue (h : Move l s m effects) : l.queue ++ l.puts s = l.takes s ++ m.queue := by
  cases h with
  | posted e h => simp [puts, takes, h]
  | closed hc => simp [puts, takes, hc]
  | stayed s hputs htakes => rw [hputs, htakes, List.append_nil, List.nil_append]
  | refused => simp [puts, takes, (sameHandle_down l).queue]
  | opened => simp [puts, takes, (sameHandle_up l).queue]
  | arrived msg => simp [puts, takes, (sameHandle_receive l msg).queue]
  | lost => simp [puts, takes, (sameHandle_down l).queue]
  | wrote text rest hp hq => simp [puts, takes, hp, hq]
  | broke text rest hp hq =>
    rw [(sameHandle_down { l with queue := rest }).queue]
    simp [puts, takes, hp, hq]
  | discarded w text rest hp hq => simp [puts, takes, hp, hq]
  | ended w rest hp hq => simp [puts, takes, hp, hq, finish]
  | _ => simp [puts, takes, finish]

/-! ## What comes out -/

theorem of_mem_down {x : Effect} (h : x ∈ l.down.2) : x = .deliver .disconnected := by
  unfold down at h
  dsimp only at h
  split at h
  · cases h
  · split at h
    · exact List.mem_singleton.mp h
    · cases h

private theorem of_mem_deliver {e : Inbound} {x : Effect} (h : x ∈ (l.deliver e).2) :
    x = .deliver e ∨ x = .goodbye := by
  unfold deliver at h
  split at h
  · exact .inl (List.mem_singleton.mp h)
  · exact .inr (List.mem_singleton.mp h)

theorem of_mem_up {x : Effect} (h : x ∈ l.up.2) : x = .deliver .connected ∨ x = .goodbye :=
  of_mem_deliver h

theorem of_mem_receive {msg : Message} {x : Effect} (h : x ∈ (l.receive msg).2) :
    (∃ e, x = .deliver e) ∨ x = .goodbye ∨ ∃ data, x = .pong data := by
  cases msg with
  | text s =>
    unfold receive at h
    dsimp only at h
    split at h
    · next e _ =>
      rcases of_mem_deliver h with hx | hx
      · exact .inl ⟨e, hx⟩
      · exact .inr (.inl hx)
    · cases h
  | binary data => cases h
  | ping data => exact .inr (.inr ⟨data, List.mem_singleton.mp h⟩)

/-- An attempt to connect begins only while the link is not closed. -/
theorem Move.closed_of_connect (h : Move l s m effects) (hx : .connect ∈ effects) :
    l.closed = false := by
  cases h with
  | attempted hp hc => exact hc
  | refused => cases of_mem_down hx
  | lost => cases of_mem_down hx
  | broke => cases of_mem_down hx
  | opened => rcases of_mem_up hx with hx | hx <;> cases hx
  | arrived => rcases of_mem_receive hx with ⟨_, hx⟩ | hx | ⟨_, hx⟩ <;> cases hx
  | ended => split at hx <;> simp at hx
  | _ => simp at hx

/-- The text of a frame is written only as it is taken out of the queue. -/
theorem Move.takes_of_write {text : String} (h : Move l s m effects)
    (hx : .write text ∈ effects) : l.takes s = [.frame text] ∧ effects = [.write text] := by
  cases h with
  | wrote t rest hp hq =>
    obtain rfl : text = t := by simpa using hx
    exact ⟨by simp [takes, hp, hq], rfl⟩
  | refused => cases of_mem_down hx
  | lost => cases of_mem_down hx
  | broke => cases of_mem_down hx
  | opened => rcases of_mem_up hx with hx | hx <;> cases hx
  | arrived => rcases of_mem_receive hx with ⟨_, hx⟩ | hx | ⟨_, hx⟩ <;> cases hx
  | ended => split at hx <;> simp at hx
  | _ => simp at hx

/-! ## Phases -/

/-- What the phase of a link says about its flags: it is up only while it has a connection, and the
transition that it has reported last is the one into its phase. -/
structure Sound (l : Link) : Prop where
  live : l.connected = true → l.phase = .live
  up : l.phase = .live → l.reportedUp = some true
  down : l.phase ≠ .live → l.phase ≠ .finished → l.reportedUp ≠ some true

/-- What has to do with the queue alone changes nothing about it. -/
theorem Sound.of_flags (h : l.Sound) (hconnected : m.connected = l.connected)
    (hphase : m.phase = l.phase) (hreported : m.reportedUp = l.reportedUp) : m.Sound := by
  refine ⟨?_, ?_, ?_⟩
  · rw [hconnected, hphase]
    exact h.live
  · rw [hphase, hreported]
    exact h.up
  · rw [hphase, hreported]
    exact h.down

private theorem sound_finish (l : Link) : l.finish.Sound :=
  ⟨by rintro ⟨⟩, by rintro ⟨⟩, fun _ hnot => absurd rfl hnot⟩

theorem phase_down (l : Link) : l.down.1.phase = .resting ∨ l.down.1.phase = .finished := by
  unfold down finish
  dsimp only
  split
  · exact .inl rfl
  · split
    · exact .inl rfl
    · exact .inr rfl

private theorem sound_down (l : Link) : l.down.1.Sound := by
  have hflags : l.down.1.connected = false ∧ l.down.1.reportedUp = some false := by
    unfold down finish
    dsimp only
    split
    · next h => exact ⟨rfl, h⟩
    · split <;> exact ⟨rfl, rfl⟩
  obtain ⟨hc, hr⟩ := hflags
  refine ⟨?_, ?_, ?_⟩
  · rw [hc]
    rintro ⟨⟩
  · intro hp
    rcases phase_down l with hdown | hdown <;> rw [hdown] at hp <;> cases hp
  · rw [hr]
    intro _ _
    decide

private theorem deliver_fst (l : Link) (e : Inbound) :
    (l.deliver e).1 = l ∨ (l.deliver e).1 = l.finish := by
  unfold deliver
  split
  · exact .inl rfl
  · exact .inr rfl

theorem phase_up (l : Link) : l.up.1.phase = .live ∨ l.up.1.phase = .finished := by
  unfold up
  rcases deliver_fst _ .connected with h | h <;> rw [h]
  · exact .inl rfl
  · exact .inr rfl

private theorem sound_up (l : Link) : l.up.1.Sound := by
  unfold up
  rcases deliver_fst _ .connected with h | h <;> rw [h]
  · exact ⟨fun _ => rfl, fun _ => rfl, fun hnot => absurd rfl hnot⟩
  · exact sound_finish _

theorem receive_fst (l : Link) (msg : Message) :
    (l.receive msg).1 = l ∨ (l.receive msg).1 = l.finish := by
  cases msg with
  | text s =>
    unfold receive
    dsimp only
    split
    · exact deliver_fst l _
    · exact .inl rfl
  | _ => exact .inl rfl

/-- Every move keeps it. -/
theorem Move.sound (h : Move l s m effects) (hl : l.Sound) : m.Sound := by
  cases h with
  | attempted hp hc =>
    refine ⟨fun hconnected => ?_, by rintro ⟨⟩, fun _ _ => hl.down (by simp [hp]) (by simp [hp])⟩
    rw [hl.live hconnected] at hp
    cases hp
  | rested hp =>
    refine ⟨fun hconnected => ?_, by rintro ⟨⟩, fun _ _ => hl.down (by simp [hp]) (by simp [hp])⟩
    rw [hl.live hconnected] at hp
    cases hp
  | gaveUp => exact sound_finish l
  | refused => exact sound_down l
  | lost => exact sound_down l
  | broke => exact sound_down _
  | opened => exact sound_up l
  | arrived msg =>
    rcases receive_fst l msg with h | h
    · rw [h]
      exact hl
    · rw [h]
      exact sound_finish l
  | ended => exact sound_finish _
  | _ => exact hl.of_flags rfl rfl rfl

/-- A link that is done stays so and lets nothing out. -/
theorem Move.finished (h : Move l s m effects) (hp : l.phase = .finished) :
    m.phase = .finished ∧ effects = [] := by
  cases h with
  | posted => exact ⟨hp, rfl⟩
  | closed => exact ⟨hp, rfl⟩
  | unheard => exact ⟨hp, rfl⟩
  | stayed => exact ⟨hp, rfl⟩
  | ended w rest hphase => rcases hphase with hphase | hphase <;> rw [hphase] at hp <;> cases hp
  | _ => simp_all

/-! ## Runs -/

/-- What holds at first and is kept by every move holds after every run. -/
theorem run_induction {P : Link → Prop} (h : P l)
    (hmove : ∀ {l m : Link} {s : Stimulus} {effects : List Effect}, Move l s m effects → P l → P m)
    (stimuli : List Stimulus) : P (l.run stimuli).1 := by
  induction stimuli generalizing l with
  | nil => exact h
  | cons s rest ih => exact ih (hmove (move_step l s) h)

theorem sound_initial (version : Wire.Version) : Sound { version } :=
  ⟨by rintro ⟨⟩, by rintro ⟨⟩, by rintro - - ⟨⟩⟩

theorem sound_run (h : l.Sound) (stimuli : List Stimulus) : (l.run stimuli).1.Sound :=
  run_induction h Move.sound stimuli

theorem version_run (l : Link) (stimuli : List Stimulus) :
    (l.run stimuli).1.version = l.version :=
  run_induction (P := fun m => m.version = l.version) rfl
    (fun hm hl => hm.version.trans hl) stimuli

/-- A link is closed once it has been closed. -/
theorem closed_run (l : Link) (stimuli : List Stimulus) :
    (l.run stimuli).1.closed = true ↔ l.closed = true ∨ .close ∈ stimuli := by
  induction stimuli generalizing l with
  | nil => simp [run]
  | cons s rest ih =>
    have hrest := ih (l.step s).1
    rw [(move_step l s).closed_iff, or_assoc, eq_comm (a := s)] at hrest
    rw [List.mem_cons]
    exact hrest

/-- A link that is done lets nothing out. -/
theorem run_finished (h : l.phase = .finished) (stimuli : List Stimulus) :
    (l.run stimuli).2 = [] := by
  induction stimuli generalizing l with
  | nil => rfl
  | cons s rest ih =>
    obtain ⟨hphase, heffects⟩ := (move_step l s).finished h
    show (l.step s).2 ++ ((l.step s).1.run rest).2 = []
    rw [heffects, ih hphase]
    rfl

/-- What is gathered along a run, step by step. -/
def gather {α : Type} (f : Link → Stimulus → List α) (l : Link) : List Stimulus → List α
  | [] => []
  | s :: rest => f l s ++ (l.step s).1.gather f rest

theorem gather_append {α : Type} (f : Link → Stimulus → List α) (l : Link)
    (as bs : List Stimulus) :
    l.gather f (as ++ bs) = l.gather f as ++ (l.run as).1.gather f bs := by
  induction as generalizing l with
  | nil => rfl
  | cons s as ih => simp [gather, run, ih]

/-- Whatever goes into the queue during a run comes out of it, in order, or is still there. -/
theorem gather_puts (l : Link) (stimuli : List Stimulus) :
    l.queue ++ l.gather puts stimuli = l.gather takes stimuli ++ (l.run stimuli).1.queue := by
  induction stimuli generalizing l with
  | nil => simp [gather, run]
  | cons s rest ih =>
    have hstep := (move_step l s).queue
    calc l.queue ++ (l.puts s ++ (l.step s).1.gather puts rest)
        = l.takes s ++ ((l.step s).1.queue ++ (l.step s).1.gather puts rest) := by
          rw [← List.append_assoc, hstep, List.append_assoc]
      _ = l.takes s ++ (l.step s).1.gather takes rest ++ ((l.step s).1.run rest).1.queue := by
          rw [ih, List.append_assoc]

end TermSync.Link
