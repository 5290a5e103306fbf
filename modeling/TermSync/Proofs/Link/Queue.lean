import TermSync.Proofs.Link.Moves

/-!
# What a link writes

Between the handle of a link and its task there is a queue, and the connection may be lost or the
link be closed while something is in it. Whatever the order of events, only what was emitted while
the link was open is written, once at most and in order; and if a wait between two attempts lasts
until the task has dropped what was queued, nothing is written on a later connection.

Main statements: `written_sublist_frames` and `written_of_accepted`.
-/

namespace TermSync.Link

open Wire (Outbound Version)

variable {l m : Link} {s : Stimulus} {effects : List Effect}

/-! ## Frames -/

/-- The frames among what has been queued. -/
def texts (queue : List Outgoing) : List String :=
  queue.filterMap fun
    | .frame text => some text
    | .close => none

/-- The frames that wait in the queue. -/
def frames (l : Link) : List String :=
  l.queue.filterMap fun
    | .frame text => some text
    | .close => none

/-- The frames that are written, over whatever connection. -/
def written (effects : List Effect) : List String :=
  effects.filterMap fun
    | .write text => some text
    | _ => none

/-- The events that are emitted while the link is up and not closed. -/
def accepts (l : Link) : Stimulus → List Outbound
  | .emit e => if l.isOpen then [e] else []
  | _ => []

/-- The frames that are still queued when a wait between two attempts is over. -/
def leaves (l : Link) : Stimulus → List String
  | .rested => if l.phase = .resting then l.frames else []
  | _ => []

theorem frames_eq (l : Link) : l.frames = texts l.queue := rfl

@[simp] theorem texts_append (as bs : List Outgoing) : texts (as ++ bs) = texts as ++ texts bs :=
  List.filterMap_append

theorem texts_puts (l : Link) (s : Stimulus) :
    texts (l.puts s) = (l.accepts s).map (·.encode l.version) := by
  cases s with
  | emit e => cases h : l.isOpen <;> simp [puts, accepts, texts, h]
  | close => cases h : l.closed <;> simp [puts, accepts, texts, h]
  | _ => rfl

/-- The frames that go into the queue are those of the events that are accepted. -/
theorem texts_gather_puts (l : Link) (stimuli : List Stimulus) :
    texts (l.gather puts stimuli) = (l.gather accepts stimuli).map (·.encode l.version) := by
  induction stimuli generalizing l with
  | nil => rfl
  | cons s rest ih =>
    rw [gather, gather, texts_append, List.map_append, texts_puts, ih, (move_step l s).version]

theorem written_eq_nil (h : ∀ text, .write text ∉ effects) : written effects = [] := by
  refine List.filterMap_eq_nil_iff.mpr fun x hx => ?_
  cases x with
  | write text => exact absurd hx (h text)
  | _ => rfl

theorem written_run_cons (l : Link) (s : Stimulus) (rest : List Stimulus) :
    written (l.run (s :: rest)).2 =
      written (l.step s).2 ++ written ((l.step s).1.run rest).2 :=
  List.filterMap_append

private theorem Move.written_sublist (h : Move l s m effects) :
    (written effects).Sublist (texts (l.takes s)) := by
  by_cases hw : ∃ text, .write text ∈ effects
  · obtain ⟨text, hx⟩ := hw
    obtain ⟨htakes, rfl⟩ := h.takes_of_write hx
    rw [htakes]
    exact List.Sublist.refl [text]
  · rw [written_eq_nil fun text hx => hw ⟨text, hx⟩]
    exact List.nil_sublist _

/-- Only what is taken out of the queue is written. -/
theorem written_sublist_takes (l : Link) (stimuli : List Stimulus) :
    (written (l.run stimuli).2).Sublist (texts (l.gather takes stimuli)) := by
  induction stimuli generalizing l with
  | nil => exact List.Sublist.refl []
  | cons s rest ih =>
    rw [written_run_cons, gather, texts_append]
    exact (move_step l s).written_sublist.append (ih _)

/-- What is written was queued at first, or has been accepted since. -/
theorem written_sublist_frames (l : Link) (stimuli : List Stimulus) :
    (written (l.run stimuli).2).Sublist
      (l.frames ++ (l.gather accepts stimuli).map (·.encode l.version)) := by
  have hqueue := congrArg texts (gather_puts l stimuli)
  rw [texts_append, texts_append, texts_gather_puts, ← frames_eq] at hqueue
  rw [hqueue]
  exact (written_sublist_takes l stimuli).trans (List.sublist_append_left _ _)

/-! ## Closing -/

private theorem Move.count_close (h : Move l s m effects) :
    (l.puts s).count .close + l.closed.toNat = m.closed.toNat := by
  by_cases hs : s = .close
  · have hm : m.closed = true := h.closed_iff.mpr (.inr hs)
    subst hs
    cases hl : l.closed <;> simp [puts, hl, hm]
  · have hm : m.closed = l.closed := Bool.eq_iff_iff.mpr (h.closed_iff.trans (or_iff_left hs))
    have hnone : (l.puts s).count .close = 0 := by
      cases s with
      | close => exact absurd rfl hs
      | emit e => cases ho : l.isOpen <;> simp [puts, ho]
      | _ => rfl
    rw [hnone, hm, Nat.zero_add]

/-- A link is told once to close if it is closed during a run, and else it is not. -/
theorem count_close (l : Link) (stimuli : List Stimulus) :
    (l.gather puts stimuli).count .close + l.closed.toNat = (l.run stimuli).1.closed.toNat := by
  induction stimuli generalizing l with
  | nil => simp [gather, run]
  | cons s rest ih =>
    have hstep := (move_step l s).count_close
    have hrest := ih (l.step s).1
    rw [gather, List.count_append]
    show _ = ((l.step s).1.run rest).1.closed.toNat
    omega

/-- A link that is closed begins no attempt to connect. -/
theorem not_connect_of_closed (h : l.closed = true) (stimuli : List Stimulus) :
    .connect ∉ (l.run stimuli).2 := by
  induction stimuli generalizing l with
  | nil => exact List.not_mem_nil
  | cons s rest ih =>
    have hm := move_step l s
    intro hx
    rcases List.mem_append.mp hx with hx | hx
    · rw [hm.closed_of_connect hx] at h
      cases h
    · exact ih (hm.closed_iff.mpr (.inl h)) hx

private theorem Move.finished_of_takes (h : Move l s m effects) (ht : l.takes s = [.close]) :
    m.phase = .finished ∧ written effects = [] := by
  constructor
  · cases h with
    | ended => rfl
    | wrote text rest hp hq => simp [takes, hp, hq] at ht
    | broke text rest hp hq => simp [takes, hp, hq] at ht
    | discarded w text rest hp hq => simp [takes, hp, hq] at ht
    | stayed s hputs htakes => simp [htakes] at ht
    | _ => simp [takes] at ht
  · refine written_eq_nil fun text hx => ?_
    rw [(h.takes_of_write hx).1] at ht
    simp at ht

/-! ## Waiting -/

/-- Before and during an attempt no frame is queued. -/
def Cleared (l : Link) : Prop := l.phase = .idle ∨ l.phase = .connecting → l.frames = []

private theorem Move.cleared (h : Move l s m effects) (hl : l.Sound) (hcleared : l.Cleared)
    (hleaves : l.leaves s = []) : m.Cleared := by
  intro hp
  cases h with
  | posted e ho =>
    have hlive : l.phase = .live := hl.live (by simp_all [isOpen])
    rcases hp with hp | hp <;> rw [hlive] at hp <;> cases hp
  | closed =>
    have hframes : texts (l.queue ++ [.close]) = [] := by
      rw [texts_append, ← frames_eq, hcleared hp]
      rfl
    exact hframes
  | unheard => exact hcleared hp
  | stayed => exact hcleared hp
  | attempted hidle => exact hcleared (.inl hidle)
  | rested hresting =>
    rw [leaves, if_pos hresting] at hleaves
    exact hleaves
  | refused => rcases phase_down l with hdown | hdown <;> simp [hdown] at hp
  | lost => rcases phase_down l with hdown | hdown <;> simp [hdown] at hp
  | broke _ rest =>
    rcases phase_down { l with queue := rest } with hdown | hdown <;> simp [hdown] at hp
  | opened => rcases phase_up l with hup | hup <;> simp [hup] at hp
  | arrived msg hlive =>
    rcases receive_fst l msg with hm | hm <;> rw [hm] at hp <;> simp [hlive, finish] at hp
  | wrote text rest hlive => simp [hlive] at hp
  | discarded w text rest hresting => simp [hresting] at hp
  | gaveUp => simp [finish] at hp
  | ended => simp [finish] at hp

/-- If every wait lasts until no frame is queued, none is queued when the next attempt begins. -/
theorem cleared_run (hl : l.Sound) (hcleared : l.Cleared) (stimuli : List Stimulus)
    (hleaves : l.gather leaves stimuli = []) : (l.run stimuli).1.Cleared := by
  induction stimuli generalizing l with
  | nil => exact hcleared
  | cons s rest ih =>
    obtain ⟨hnow, hlater⟩ := List.append_eq_nil_iff.mp hleaves
    have hm := move_step l s
    exact ih (hm.sound hl) (hm.cleared hl hcleared hnow) hlater

/-! ## Runs of a new link -/

/-- In every run of a link:
what goes into its queue comes out in order, or is still there, and it is told to close once at
most; the frames that are written are, in order, some of those of the events that were emitted while
the link was up and not closed; no attempt to connect begins after the link was closed; and when the
task has taken the word to close, nothing more is written. If no wait between two attempts leaves a
frame in the queue, none is queued when a connection is opened, and what is written from then on has
been accepted from then on. -/
theorem written_of_accepted (version : Version) (stimuli : List Stimulus) :
    let start : Link := { version }
    start.gather puts stimuli = start.gather takes stimuli ++ (start.run stimuli).1.queue ∧
    (start.gather puts stimuli).count .close ≤ 1 ∧
    (written (start.run stimuli).2).Sublist
      ((start.gather accepts stimuli).map (·.encode version)) ∧
    (∀ earlier later, stimuli = earlier ++ later → .close ∈ earlier →
      .connect ∉ ((start.run earlier).1.run later).2) ∧
    (∀ earlier w later, stimuli = earlier ++ .take w :: later →
      (start.run earlier).1.takes (.take w) = [.close] →
      written ((start.run earlier).1.run (.take w :: later)).2 = []) ∧
    (start.gather leaves stimuli = [] → ∀ earlier later, stimuli = earlier ++ .opened :: later →
      (start.run earlier).1.phase = .connecting →
      (start.run earlier).1.frames = [] ∧
        (written ((start.run earlier).1.run (.opened :: later)).2).Sublist
          (((start.run earlier).1.gather accepts (.opened :: later)).map (·.encode version))) := by
  intro start
  refine ⟨gather_puts start stimuli, ?_, written_sublist_frames start stimuli, ?_, ?_, ?_⟩
  · have hcount := count_close start stimuli
    have hone := Bool.toNat_le (start.run stimuli).1.closed
    omega
  · rintro earlier later - hclosed
    exact not_connect_of_closed ((closed_run start earlier).mpr (.inr hclosed)) later
  · rintro earlier w later - htakes
    obtain ⟨hphase, hnow⟩ := (move_step (start.run earlier).1 (.take w)).finished_of_takes htakes
    rw [written_run_cons, hnow, run_finished hphase]
    rfl
  · rintro hleaves earlier later rfl hphase
    rw [gather_append] at hleaves
    have hnone : (start.run earlier).1.frames = [] :=
      cleared_run (sound_initial version) (fun _ => rfl) earlier
        (List.append_eq_nil_iff.mp hleaves).1 (.inr hphase)
    have hsince := written_sublist_frames (start.run earlier).1 (.opened :: later)
    rw [hnone, version_run] at hsince
    exact ⟨hnone, hsince⟩

/-- A frame that is still queued when the first connection is lost is dropped in the wait. On the
second connection another one is written, and nothing after the word to close. -/
theorem written_on_second_connection :
    let start : Link := { version := .legacy }
    let earlier : List Stimulus :=
      [.attempt, .opened, .emit (.terminalIn "a" "1"), .lost, .take true, .rested, .attempt]
    let typed : List Stimulus := [.opened, .emit (.terminalIn "a" "2"), .take true, .close]
    let later : List Stimulus := [.take true, .attempt]
    let l := (start.run earlier).1
    (start.gather leaves (earlier ++ (typed ++ later)) = [] ∧ l.phase = .connecting ∧
      l.frames = [] ∧
      (written (l.run (typed ++ later)).2).Sublist
        ((l.gather accepts (typed ++ later)).map (·.encode .legacy)) ∧
      written (l.run (typed ++ later)).2 = [(Outbound.terminalIn "a" "2").encode .legacy]) ∧
    (.close ∈ earlier ++ typed ∧ .connect ∉ ((start.run (earlier ++ typed)).1.run later).2) ∧
    (start.run (earlier ++ typed)).1.takes (.take true) = [.close] ∧
      written ((start.run (earlier ++ typed)).1.run later).2 = [] := by
  intro start earlier typed later l
  obtain ⟨-, -, -, hclosed, htaken, hopened⟩ :=
    written_of_accepted .legacy (earlier ++ (typed ++ later))
  have hrests : start.gather leaves (earlier ++ (typed ++ later)) = [] := rfl
  have htakes : (start.run (earlier ++ typed)).1.takes (.take true) = [.close] := rfl
  obtain ⟨hnone, hsince⟩ := hopened hrests earlier _ rfl rfl
  have hmem : .close ∈ earlier ++ typed := by simp [typed]
  exact ⟨⟨hrests, rfl, hnone, hsince, rfl⟩,
    ⟨hmem, hclosed (earlier ++ typed) later (List.append_assoc _ _ _).symm hmem⟩,
    htakes, htaken (earlier ++ typed) true [.attempt] (List.append_assoc _ _ _).symm htakes⟩

end TermSync.Link
