import TermSync.Proofs.Roster.Hostnames
import TermSync.Proofs.Session.Membership

/-!
# Host names in a session

Only a record brings an instance a host name. Every other act inherits the host names from the
roster before it, so in every state that a run reaches the index of host names is complete.

Main statements: `inherits_act` (what an act does about a host name that it does not bring),
`indexed_run`, `inherits_performAll` and `holder_performAll` (who holds a host name after any number
of acts).
-/

namespace TermSync.Session

open Roster (Instance Record)

/-- The instance to which an act brings a host name. -/
def Act.brings? (host : String) : Act → Option String
  | .learn record => if record.hostname = some host then some record.name else none
  | _ => none

namespace State

/-- What an act does about a host name that it does not bring. -/
theorem inherits_act {s : State} (h : s.roster.Indexed) {a : Act} {host : String}
    (ha : a.brings? host = none) : s.roster.Inherits (s.perform a).state.roster host := by
  cases a with
  | learn record => exact Roster.inherits_upsert h (by simpa [Act.brings?] using ha)
  | expect key => exact Roster.inherits_insertPlaceholder h host key
  | forget name =>
    simp only [perform, forget]
    cases hx : s.roster.remove? name with
    | none => exact .refl h host
    | some x => exact Roster.inherits_remove? h hx host
  | display name =>
    rcases display_cases s name with ⟨i, _, -, hi, -, hp⟩ | ⟨i, _, _, -, hi, -, hp⟩ | ⟨-, hp⟩
    · rw [hp]
      exact Roster.inherits_select h host name
    · have hopened : ∀ j, s.roster.get? name = some j →
          (s.opened name i).hostname = j.hostname := by
        intro j hj
        rw [hi] at hj
        cases hj
        rfl
      rw [hp]
      exact .of_frame h rfl rfl (Roster.bears_update s.roster name hopened host)
    · rw [hp]
      exact .refl h host
  | route name data => exact Roster.inherits_route h host name data
  | resizeAll g => exact Roster.inherits_mapAll h host fun _ => rfl
  | note name n =>
    refine Roster.inherits_update h host name fun i _ => ?_
    exact congrArg Record.hostname (n.applyTo_eq i).1
  | type name data => exact Roster.inherits_update h host name fun _ _ => rfl
  | flush name =>
    cases hi : s.roster.get? name with
    | none =>
      rw [perform, flush_eq_of_none hi]
      exact .refl h host
    | some i =>
      rw [perform, flush_eq hi]
      refine Roster.inherits_update h host name fun j hj => ?_
      rw [hi] at hj
      cases hj
      exact congrArg Record.hostname (Instance.takeTyped_frame i).1
  | terminate =>
    simp only [perform, terminate]
    split
    · exact Roster.inherits_empty host s.roster
    · exact .refl h host
  | moveTo moment => exact Roster.inherits_mapAll h host fun _ => rfl
  | aside a =>
    rw [perform, (performAside_apart s a).roster]
    exact .refl h host

/-- An act that brings a host name makes the instance its holder. -/
theorem holder_act (s : State) {a : Act} {host name : String} (ha : a.brings? host = some name) :
    (s.perform a).state.roster.holders.get? host = some name := by
  cases a with
  | learn record =>
    obtain ⟨hr, rfl⟩ : record.hostname = some host ∧ record.name = name := by
      simpa [Act.brings?] using ha
    exact Roster.holder_upsert s.roster hr
  | _ => cases ha

/-- Every act keeps the index complete. -/
theorem indexed_act {s : State} (h : s.roster.Indexed) (hs : s.Coherent) (a : Act) :
    (s.perform a).state.roster.Indexed := by
  refine .of_inherits (r := s.roster) (hs.perform a).roster fun host => ?_
  cases ha : a.brings? host with
  | none => exact .inr (inherits_act h ha)
  | some name =>
    left
    rw [holder_act s ha]
    rfl

/-! ## Any number of acts -/

theorem indexed_performAll {s : State} (h : s.roster.Indexed) (hs : s.Coherent) (as : List Act) :
    (s.performAll as).state.roster.Indexed := by
  have hall := performAll_induction (P := fun s => s.Coherent ∧ s.roster.Indexed) ⟨hs, h⟩
    (fun _ a h => ⟨h.1.perform a, indexed_act h.2 h.1 a⟩) as
  exact hall.2

theorem inherits_performAll {s : State} (h : s.roster.Indexed) (hs : s.Coherent) {as : List Act}
    {host : String} (ha : ∀ a ∈ as, a.brings? host = none) :
    s.roster.Inherits (s.performAll as).state.roster host := by
  induction as generalizing s with
  | nil => exact .refl h host
  | cons a as ih =>
    have hfirst := inherits_act h (ha a List.mem_cons_self)
    have hrest := ih (indexed_act h hs a) (hs.perform a) fun b hb =>
      ha b (List.mem_cons_of_mem a hb)
    exact hfirst.trans (hs.perform a).roster hrest

/-- If acts bring a host name to one instance only, this one is the holder for as long as it has
the host name. -/
theorem holder_performAll {s : State} (h : s.roster.Indexed) (hs : s.Coherent) {as : List Act}
    {host name : String} (hb : ∃ a ∈ as, a.brings? host = some name)
    (ho : ∀ a ∈ as, ∀ n, a.brings? host = some n → n = name)
    (hn : (s.performAll as).state.roster.bears host name = true) :
    (s.performAll as).state.roster.holders.get? host = some name := by
  induction as generalizing s with
  | nil =>
    obtain ⟨a, ha, -⟩ := hb
    cases ha
  | cons a as ih =>
    have ho' : ∀ b ∈ as, ∀ n, b.brings? host = some n → n = name :=
      fun b hb => ho b (List.mem_cons_of_mem a hb)
    -- The last act that brings the host name decides; after it the holder is inherited.
    by_cases hlater : ∃ b ∈ as, b.brings? host = some name
    · exact ih (indexed_act h hs a) (hs.perform a) hlater ho' hn
    · have ha : a.brings? host = some name := by
        obtain ⟨b, hb, hbrings⟩ := hb
        rcases List.mem_cons.mp hb with rfl | hb
        · exact hbrings
        · exact absurd ⟨b, hb, hbrings⟩ hlater
      have hnone : ∀ b ∈ as, b.brings? host = none := by
        intro b hb
        cases hbrings : b.brings? host with
        | none => rfl
        | some n =>
          have he := ho' b hb n hbrings
          exact absurd ⟨b, hb, he ▸ hbrings⟩ hlater
      have hrest := inherits_performAll (indexed_act h hs a) (hs.perform a) hnone
      have hc := (hs.perform a).performAll as
      exact hrest.holder_of_mem (holder_act s ha) (hc.roster.mem_bearers_iff.mpr hn)

/-- After every run the index of host names is complete. -/
theorem indexed_run (id : String) (setup : Setup) (xs : List Stimulus) :
    ((initial id setup).run xs).state.roster.Indexed := by
  have h := Coherent.initial id setup
  rw [run_eq h]
  exact indexed_performAll Roster.Indexed.empty h _

end State
end TermSync.Session
