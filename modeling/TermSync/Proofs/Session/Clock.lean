import TermSync.Proofs.Session.Termination
import TermSync.Proofs.Session.Viewport

/-!
# The clock

What a session works with never changes, and its clock shows what the last stimulus said that moved
it. In a forward run none turns it back.

Main statements: `setup_run`, `now_respond`, `respond_induction` and `forward_induction`.
-/

namespace TermSync.Session

/-- None of these stimuli turns a clock back. -/
def Forward (now : Nat) : List Stimulus → Prop
  | [] => True
  | x :: xs => now ≤ x.clock now ∧ Forward (x.clock now) xs

instance Forward.decidable : (now : Nat) → (xs : List Stimulus) → Decidable (Forward now xs)
  | _, [] => isTrue trivial
  | now, x :: xs => @instDecidableAnd _ _ _ (Forward.decidable (x.clock now) xs)

namespace State

theorem setup_performAll (s : State) (as : List Act) : (s.performAll as).state.setup = s.setup :=
  performAll_induction (P := fun t => t.setup = s.setup) rfl
    (fun t a ht => (frame_perform t a).1.trans ht) as

theorem setup_respond {s : State} (h : s.Coherent) (x : Stimulus) :
    (s.respond x).state.setup = s.setup := by
  rw [respond_eq h.roster, setup_performAll]

/-- What a session works with never changes. -/
theorem setup_run {s : State} (h : s.Coherent) (xs : List Stimulus) :
    (s.run xs).state.setup = s.setup := by
  rw [run_eq h, setup_performAll]

theorem now_performAll (s : State) {as : List Act}
    (h : ∀ a ∈ as, ∀ moment, a ≠ .moveTo moment ∧ a ≠ .aside (.setClock moment)) :
    (s.performAll as).state.now = s.now := by
  induction as generalizing s with
  | nil => rfl
  | cons a as ih =>
    have hfirst : (s.perform a).state.now = s.now := by
      rw [(frame_perform s a).2.1]
      unfold clockAfter
      split
      · exact absurd rfl (h _ List.mem_cons_self _).1
      · exact absurd rfl (h _ List.mem_cons_self _).2
      · rfl
    exact (ih (s.perform a).state fun b hb => h b (List.mem_cons_of_mem a hb)).trans hfirst

/-- The clock moves if a stimulus says so, and only then. -/
theorem now_respond {s : State} (h : s.Coherent) (x : Stimulus) :
    (s.respond x).state.now = x.clock s.now := by
  by_cases hx : ∃ moment, x = .pass moment ∨ x = .setClock moment
  · obtain ⟨moment, rfl | rfl⟩ := hx <;> rfl
  · have hclock : x.clock s.now = s.now := by
      unfold Stimulus.clock
      split
      · exact absurd ⟨_, .inl rfl⟩ hx
      · exact absurd ⟨_, .inr rfl⟩ hx
      · rfl
    rw [respond_eq h.roster, hclock]
    apply now_performAll
    intro a ha moment
    constructor
    · rintro rfl
      exact hx ⟨moment, .inl (cause_of_acts ha)⟩
    · rintro rfl
      exact hx ⟨moment, .inr (cause_of_acts ha)⟩

/-- What every act keeps that does not turn the clock back every such response keeps. -/
theorem respond_induction {P : State → Prop} {s : State} (h : s.Coherent) (hp : P s) {x : Stimulus}
    (hnow : s.now ≤ x.clock s.now)
    (hact : ∀ t a, a ∈ s.acts x → t.now ≤ t.clockAfter a → P t → P (t.perform a).state) :
    P (s.respond x).state := by
  by_cases hx : ∃ moment, x = .pass moment ∨ x = .setClock moment
  · obtain ⟨moment, rfl | rfl⟩ := hx
    · exact hact s (.moveTo moment) (List.mem_singleton.mpr rfl) hnow hp
    · exact hact s (.aside (.setClock moment)) (List.mem_singleton.mpr rfl) hnow hp
  · have hall (as : List Act) (has : ∀ a ∈ as, a ∈ s.acts x) {t : State} (ht : P t) :
        P (t.performAll as).state := by
      induction as generalizing t with
      | nil => exact ht
      | cons a as ih =>
        have ha := has a List.mem_cons_self
        refine ih (fun b hb => has b (List.mem_cons_of_mem a hb)) (hact t a ha ?_ ht)
        unfold clockAfter
        split
        · exact absurd ⟨_, .inl (cause_of_acts ha)⟩ hx
        · exact absurd ⟨_, .inr (cause_of_acts ha)⟩ hx
        · exact Nat.le_refl _
    rw [respond_eq h.roster]
    exact hall _ (fun _ ha => ha) hp

/-- What every response keeps that does not turn the clock back holds after every forward run. -/
theorem forward_induction {P : State → Prop} {s : State} (h : s.Coherent) (hp : P s)
    {xs : List Stimulus} (hf : Forward s.now xs)
    (hstep : ∀ s x, s.Coherent → x ∈ xs → s.now ≤ x.clock s.now → P s → P (s.respond x).state) :
    P (s.run xs).state := by
  induction xs generalizing s with
  | nil => exact hp
  | cons x xs ih =>
    have hrest : Forward (s.respond x).state.now xs := by
      rw [now_respond h]
      exact hf.2
    exact ih (h.respond x) (hstep s x h List.mem_cons_self hf.1 hp) hrest
      fun t y ht hy => hstep t y ht (List.mem_cons_of_mem x hy)

end State
end TermSync.Session
