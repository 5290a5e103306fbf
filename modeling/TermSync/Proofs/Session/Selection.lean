import TermSync.Proofs.Session.Loading

/-!
# The instance on the screen stays there

While a confirmed instance is on the screen, with a widget, nothing that the backend tells takes it
from there but its own removal. A session sees to it at several occasions that a confirmed instance
is shown; each time it finds one, and leaves it at that. So only the user, the answer to a request
for a new instance or the end of the session may put something else in its place.

Main statements: `HasOnScreen.respond` (a response) and `hasOnScreen_run` (any number of them).
-/

namespace TermSync.Session

open Roster (Instance Record)
open Rest (SessionRecord)
open Terminal (Screen Widget)

/-! ## What may take an instance from the screen -/

namespace Stimulus

/-- Whether a stimulus may take an instance from the screen: one is selected, a request for a new
one is answered, the instance is removed, or the session ends. -/
def displaces (name : String) : Stimulus → Bool
  | .command _ (.select _) | .select _ => true
  | .event (.created _ (.ok _)) => true
  | .inbound (.instanceDelete n) => n == name
  | .event (.deleted n (.ok ())) => n == name
  | .inbound .sessionEnd => true
  | _ => false

variable {x : Stimulus} {name : String}

/-- What takes an instance out may take it from the screen, unless the instance is a placeholder
whose request is answered. -/
theorem removes_of_not_displaces (hd : x.displaces name = false) (ha : x.answered? ≠ some name) :
    x.removes name = false := by
  cases x with
  | inbound e => cases e <;> exact hd
  | event e =>
    cases e with
    | created key answer =>
      exact beq_false_of_ne fun he => ha (congrArg some he)
    | deleted n answer =>
      cases answer with
      | ok u => exact hd
      | error e => rfl
    | _ => rfl
  | _ => rfl

/-- The keys that placeholders go by in a run: those under which instances are asked for, and those
whose requests are answered. -/
def placeholderKeys (xs : List Stimulus) : List String :=
  xs.filterMap asked? ++ xs.filterMap answered?

theorem mem_placeholderKeys_of_answered {xs : List Stimulus} {key : String} (hx : x ∈ xs)
    (hk : x.answered? = some key) : key ∈ placeholderKeys xs :=
  List.mem_append_right _ (List.mem_filterMap.mpr ⟨x, hx, hk⟩)

/-- A run tells placeholders from other instances if it speaks of none by a placeholder's key. -/
theorem respects_placeholderKeys {xs : List Stimulus}
    (h : ∀ key ∈ placeholderKeys xs, ∀ x ∈ xs, key ∉ x.mentions) (hx : x ∈ xs) :
    x.Respects (placeholderKeys xs) where
  asked _ hk := List.mem_append_left _ (List.mem_filterMap.mpr ⟨x, hx, hk⟩)
  mentions name hn hk := h name hk x hx hn

end Stimulus

namespace State

variable {s : State} {keys : List String} {name : String} {w : Widget}

/-- An instance is on the screen: it is selected and confirmed, and this is its widget. -/
structure HasOnScreen (s : State) (name : String) (w : Widget) : Prop where
  selected : s.roster.selected = some name
  confirmed : ∃ i, s.roster.get? name = some i ∧ i.provisional = false ∧ i.screen.widget = some w

instance (s : State) (name : String) (w : Widget) : Decidable (s.HasOnScreen name w) :=
  decidable_of_iff
    (s.roster.selected = some name ∧
      ((s.roster.get? name).any fun i => !i.provisional && i.screen.widget == some w) = true)
    ⟨fun h => ⟨h.1, by simpa [Option.any_eq_true] using h.2⟩, fun h =>
      ⟨h.selected, by simpa [Option.any_eq_true] using h.confirmed⟩⟩

namespace HasOnScreen

theorem onScreen (h : s.HasOnScreen name w) : s.OnScreen := by
  obtain ⟨i, hi, hp, hw⟩ := h.confirmed
  exact onScreen_of_get? h.selected hi hp (by rw [Screen.isAttached, hw]; rfl)

theorem widget (h : s.HasOnScreen name w) : (s.screen name).widget = some w := by
  obtain ⟨i, hi, -, hw⟩ := h.confirmed
  rw [screen_of_get? hi, hw]

theorem not_mem_keys (h : s.HasOnScreen name w) (hk : s.Keyed keys) : name ∉ keys := by
  obtain ⟨i, hi, hp, -⟩ := h.confirmed
  rw [hk name i hi] at hp
  simpa using hp

/-- Where the keys tell placeholders from other instances, an instance by another name is confirmed,
so it is on the screen if it is selected and has a widget. -/
theorem of_keyed (hk : s.Keyed keys) (hn : name ∉ keys) (hs : s.roster.selected = some name)
    (hw : (s.screen name).widget = some w) : s.HasOnScreen name w := by
  obtain ⟨i, hi, hv⟩ := exists_of_screen hw
  exact ⟨hs, i, hi, by rw [hk name i hi]; simpa using hn, hv⟩

/-! ## No act displays anything -/

/-- When another instance is taken out, none has to be shown in its place. -/
theorem showActs_forget (h : s.HasOnScreen name w) {n : String} (hn : n ≠ name) :
    (s.forget n).state.showActs = [] := by
  obtain ⟨i, hi, hp, hw⟩ := h.onScreen
  refine (forget_beside_shown hi hp hw ?_).2
  rw [h.selected]
  exact fun he => hn (Option.some.inj he).symm

private theorem selected_foldl_upsert (r : Roster) (entries : List (String × Record)) :
    (entries.foldl (fun roster entry => roster.upsert entry.2) r).selected = r.selected := by
  induction entries generalizing r with
  | nil => rfl
  | cons entry entries ih => exact (ih (r.upsert entry.2)).trans (Roster.selected_upsert r entry.2)

/-- What the backend says about the session displays nothing: an instance is selected. -/
private theorem ne_display_of_mem_loadActs (h : s.HasOnScreen name w) {r : SessionRecord} {a : Act}
    (ha : a ∈ s.loadActs r) (n : String) : a ≠ .display n := by
  have hselected := (selected_foldl_upsert s.roster r.instances).trans h.selected
  simp only [loadActs, hselected, List.cons_append, List.nil_append, List.mem_cons,
    List.mem_append, List.mem_map, List.not_mem_nil, or_false] at ha
  rcases ha with rfl | ⟨entry, -, rfl⟩ | rfl <;> simp

/-- While an instance is on the screen, none is displayed about a stimulus that does not take it
from there. -/
theorem ne_display_of_mem_acts (h : s.HasOnScreen name w) (ha : s.isAlive = true) {x : Stimulus}
    (hd : x.displaces name = false) (hx : x.answered? ≠ some name) {a : Act} (hm : a ∈ s.acts x)
    (n : String) : a ≠ .display n := by
  cases hmoves : x.moves with
  | false => exact Act.ne_display_of_stays (stays_acts hmoves a hm) n
  | true =>
    unfold Stimulus.moves at hmoves
    split at hmoves
    · rw [acts, if_pos ha] at hm
      exact ne_display_of_mem_loadActs h hm n
    · cases hd
    · rw [acts_announced_of_confirmed ha (.of_onScreen h.onScreen), List.mem_singleton] at hm
      simp [hm]
    · next m =>
      rw [acts, if_pos ha, inboundActs, showActs_forget h (ne_of_beq_false hd),
        List.mem_singleton] at hm
      simp [hm]
    · cases hd
    · next key answer =>
      cases answer with
      | ok record => cases hd
      | error e =>
        have hne : key ≠ name := fun he => hx (congrArg some he)
        rw [acts, eventActs, if_pos ha, createdActs, showActs_forget h hne] at hm
        simp only [List.mem_cons, List.not_mem_nil, or_false] at hm
        rcases hm with rfl | rfl <;> simp
    · next m =>
      rw [acts, eventActs, if_pos ha, deletedActs, showActs_forget h (ne_of_beq_false hd),
        List.mem_singleton] at hm
      simp [hm]
    · cases hd
    · cases hmoves

end HasOnScreen

/-- What displays nothing and takes out another instance leaves the selection. -/
private theorem selected_beside {a : Act} (hs : s.roster.selected = some name)
    (hd : ∀ n, a ≠ .display n) (hr : a.removes name = false) :
    (s.perform a).state.roster.selected = some name := by
  cases a with
  | forget n =>
    have hne : s.roster.selected ≠ some n := by
      rw [hs]
      exact fun he => ne_of_beq_false hr (Option.some.inj he).symm
    exact (selected_forget hne).trans hs
  | terminate => cases hr
  | _ => exact (selected_perform s hd fun _ => rfl).trans hs

/-- So do any number of acts, and they leave the widget of the selected instance. -/
private theorem performAll_beside {as : List Act} (hs : s.roster.selected = some name)
    (h : ∀ a ∈ as, (∀ n, a ≠ .display n) ∧ a.removes name = false) :
    (s.performAll as).state.roster.selected = some name ∧
      ((s.performAll as).state.screen name).widget = (s.screen name).widget := by
  induction as generalizing s with
  | nil => exact ⟨hs, rfl⟩
  | cons a as ih =>
    obtain ⟨hd, hr⟩ := h a List.mem_cons_self
    obtain ⟨hselected, hwidget⟩ := ih (s := (s.perform a).state) (selected_beside hs hd hr)
      fun b hb => h b (List.mem_cons_of_mem a hb)
    exact ⟨hselected, hwidget.trans (widget_perform s hd hr)⟩

/-! ## Responses and runs -/

/-- An instance stays on the screen, with its widget, unless the stimulus may take it from there. -/
theorem HasOnScreen.respond (h : s.HasOnScreen name w) (hs : s.Coherent) (ha : s.isAlive = true)
    (hk : s.Keyed keys) {x : Stimulus} (hx : x.Respects keys)
    (hanswered : ∀ key, x.answered? = some key → key ∈ keys) (hd : x.displaces name = false) :
    (s.respond x).state.HasOnScreen name w := by
  have hn : name ∉ keys := h.not_mem_keys hk
  have hanswer : x.answered? ≠ some name := fun he => hn (hanswered name he)
  have hremoves := Stimulus.removes_of_not_displaces hd hanswer
  have hk' := hk.respond hs ha hx
  rw [respond_eq hs.roster] at hk' ⊢
  obtain ⟨hselected, hwidget⟩ := performAll_beside h.selected fun a hm =>
    ⟨h.ne_display_of_mem_acts ha hd hanswer hm, removes_of_mem_acts hremoves hm⟩
  exact .of_keyed hk' hn hselected (hwidget.trans h.widget)

private theorem HasOnScreen.run (h : s.HasOnScreen name w) (hs : s.Coherent) (ha : s.isAlive = true)
    (hk : s.Keyed keys) {xs : List Stimulus} (hx : ∀ x ∈ xs, x.Respects keys)
    (hanswered : ∀ x ∈ xs, ∀ key, x.answered? = some key → key ∈ keys)
    (hd : ∀ x ∈ xs, x.displaces name = false) : (s.run xs).state.HasOnScreen name w := by
  induction xs generalizing s with
  | nil => exact h
  | cons x xs ih =>
    have hxx := hx x List.mem_cons_self
    have hdx := hd x List.mem_cons_self
    have hend : x ≠ .inbound .sessionEnd := by
      rintro rfl
      cases hdx
    have hshown := h.respond hs ha hk hxx (hanswered x List.mem_cons_self) hdx
    exact ih hshown (hs.respond x) ((isAlive_respond hs x).mpr ⟨ha, hend⟩) (hk.respond hs ha hxx)
      (fun y hy => hx y (List.mem_cons_of_mem x hy))
      (fun y hy => hanswered y (List.mem_cons_of_mem x hy))
      fun y hy => hd y (List.mem_cons_of_mem x hy)

/-- In a run that uses the keys of placeholders for nothing else, a confirmed instance that is on
the screen stays there, confirmed and with the same widget, whatever else happens: until an instance
is selected, a request for one is answered, this one is removed, or the session ends. -/
theorem hasOnScreen_run (id : String) (setup : Setup) {xs ys : List Stimulus}
    (ha : ((initial id setup).run xs).state.isAlive = true)
    (hkeys : ∀ key ∈ Stimulus.placeholderKeys (xs ++ ys), ∀ x ∈ xs ++ ys, key ∉ x.mentions)
    (hshown : ((initial id setup).run xs).state.HasOnScreen name w)
    (hdisplaces : ∀ y ∈ ys, y.displaces name = false) :
    ((initial id setup).run (xs ++ ys)).state.HasOnScreen name w := by
  have hs := Coherent.initial id setup
  have hx {x : Stimulus} (hm : x ∈ xs ++ ys) : x.Respects (Stimulus.placeholderKeys (xs ++ ys)) :=
    Stimulus.respects_placeholderKeys hkeys hm
  have hkeyed := keyed_run (keyed_initial id setup _) hs ha fun x hm =>
    hx (List.mem_append_left ys hm)
  rw [run_append]
  exact hshown.run (hs.run xs) ha hkeyed (fun y hy => hx (List.mem_append_right xs hy))
    (fun y hy _ hk => Stimulus.mem_placeholderKeys_of_answered (List.mem_append_right xs hy) hk)
    hdisplaces

/-- An instance came with the answer to a request. The others go, new ones come, a request fails and
the instance is not deleted, though this was asked for. -/
theorem hasOnScreen_among_others :
    let xs : List Stimulus :=
      [.bootstrap (.ok { instances := [("a", { name := "a" }), ("b", { name := "b" })] }),
        .command "k1" (.create {}), .command "k2" (.create {}),
        .event (.created "k2" (.ok { name := "c" }))]
    let ys : List Stimulus :=
      [.inbound (.instanceNew { name := "d" }), .bootstrap (.ok { instances := [] }),
        .inbound (.instanceDelete "a"), .event (.created "k1" (.error .capacity)),
        .command "k3" (.create {}), .inbound (.terminalOut "c" [104, 105]),
        .inbound (.viewportResize ⟨120, 40⟩), .event (.deleted "b" (.ok ())),
        .command "" (.delete "c"), .event (.deleted "c" (.error .connectivity)), .pass 70,
        .event (.flushTick "c"), .inbound .disconnected]
    let s := ((initial "s1" {}).run xs).state
    let t := ((initial "s1" {}).run (xs ++ ys)).state
    s.isAlive = true ∧
      (∀ key ∈ Stimulus.placeholderKeys (xs ++ ys), ∀ x ∈ xs ++ ys, key ∉ x.mentions) ∧
      s.HasOnScreen "c" ⟨"c", 2⟩ ∧ (∀ y ∈ ys, y.displaces "c" = false) ∧
      t.HasOnScreen "c" ⟨"c", 2⟩ := by
  intro xs ys s t
  have ha : s.isAlive = true := by decide +kernel
  have hkeys : ∀ key ∈ Stimulus.placeholderKeys (xs ++ ys), ∀ x ∈ xs ++ ys, key ∉ x.mentions := by
    decide
  have hshown : s.HasOnScreen "c" ⟨"c", 2⟩ := by decide +kernel
  have hdisplaces : ∀ y ∈ ys, y.displaces "c" = false := by decide
  exact ⟨ha, hkeys, hshown, hdisplaces, hasOnScreen_run "s1" {} ha hkeys hshown hdisplaces⟩

end State
end TermSync.Session
