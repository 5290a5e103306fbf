import TermSync.Proofs.Session.Placeholders

/-!
# What is shown

An instance that has been confirmed should be on the screen: selected, with a widget. A session sees
to it when it is loaded, when the first instance is announced, when a request is answered and when
an instance is taken out; otherwise it leaves the selection to the user.

It is not seen to when output has made an instance known before its announcement: that instance is
no placeholder, so the next one that is announced is not the first any more.

Main statements: `onScreen_showActs` (what it is to see to it), `onScreen_announced_iff` (when an
announcement brings an instance on the screen) and `confirmed_onScreen` (when there always is one).
-/

namespace TermSync.Session

open Rest (SessionRecord)
open Roster (Instance Record)
open Terminal (Screen Widget)

namespace State

variable {s : State}

/-- A confirmed instance is selected and has a widget. -/
def OnScreen (s : State) : Prop :=
  ∃ i, s.roster.selected? = some i ∧ i.provisional = false ∧ i.screen.isAttached = true

instance (s : State) : Decidable s.OnScreen :=
  decidable_of_iff
    ((s.roster.selected?.any fun i => !i.provisional && i.screen.isAttached) = true)
    (by simp [OnScreen, Option.any_eq_true])

/-- Nothing is selected, or nothing but a placeholder. -/
def Unconfirmed (s : State) : Prop := ∀ i, s.roster.selected? = some i → i.provisional = true

theorem not_onScreen_of_unconfirmed (h : s.Unconfirmed) : ¬ s.OnScreen := by
  rintro ⟨i, hi, hp, -⟩
  rw [h i hi] at hp
  cases hp

theorem onScreen_of_get? {name : String} {i : Instance} (hs : s.roster.selected = some name)
    (hi : s.roster.get? name = some i) (hp : i.provisional = false)
    (hw : i.screen.isAttached = true) : s.OnScreen :=
  ⟨i, by rw [Roster.selected?, hs, Option.bind_some, hi], hp, hw⟩

/-! ## To show an instance -/

/-- A confirmed instance that is displayed is on the screen. -/
theorem onScreen_display (ha : s.isAlive = true) {name : String} {i : Instance}
    (hi : s.roster.get? name = some i) (hp : i.provisional = false) :
    (s.perform (.display name)).state.OnScreen := by
  rcases display_cases s name with ⟨j, w, -, hj, hw, hd⟩ | ⟨j, _, _, -, hj, -, hd⟩ | ⟨hn, -⟩
  · cases hi.symm.trans hj
    rw [hd]
    exact onScreen_of_get? rfl hi hp (by rw [Screen.isAttached, hw]; rfl)
  · cases hi.symm.trans hj
    have hg := get?_openedRoster s name name i
    rw [if_pos rfl, hi] at hg
    rw [hd]
    exact onScreen_of_get? rfl hg hp rfl
  · rcases hn with hn | hn
    · rw [ha] at hn
      cases hn
    · rw [hi] at hn
      cases hn

/-- What has to be shown is confirmed. -/
theorem confirmed_of_unshown? {i : Instance} (h : s.unshown? = some i) :
    i.provisional = false := by
  unfold unshown? at h
  have hfirst (hf : (s.roster.instances.find? fun i => !i.provisional) = some i) :
      i.provisional = false := by simpa using List.find?_some hf
  split at h
  · next j _ =>
    cases hp : j.provisional with
    | true => exact hfirst (by simpa [hp] using h)
    | false =>
      have he : j = i := by
        cases hw : j.screen.isAttached <;> simp [hp, hw] at h
        exact h
      exact he ▸ hp
  · exact hfirst h

/-- If nothing has to be shown, a confirmed instance is on the screen, or there is none. -/
private theorem onScreen_of_unshown? (h : s.unshown? = none) {i : Instance}
    (hi : i ∈ s.roster.instances) (hp : i.provisional = false) : s.OnScreen := by
  unfold unshown? at h
  have hfirst (hf : (s.roster.instances.find? fun i => !i.provisional) = none) : False := by
    have hn := List.find?_eq_none.mp hf i hi
    simp [hp] at hn
  split at h
  · next j hj =>
    cases hq : j.provisional with
    | true => exact (hfirst (by simpa [hq] using h)).elim
    | false =>
      refine ⟨j, hj, hq, ?_⟩
      cases hw : j.screen.isAttached with
      | true => rfl
      | false => simp [hq, hw] at h
  · exact (hfirst h).elim

/-- A session that sees to it brings a confirmed instance on the screen, if there is one. -/
theorem onScreen_showActs {t : State} (hs : s.Coherent) (hr : t.roster = s.roster)
    (ha : t.isAlive = true) {i : Instance} (hi : i ∈ s.roster.instances)
    (hp : i.provisional = false) : (t.performAll s.showActs).state.OnScreen := by
  unfold showActs
  cases hu : s.unshown? with
  | none =>
    have hon := onScreen_of_unshown? hu hi hp
    rw [OnScreen, ← hr] at hon
    exact hon
  | some j =>
    rw [performAll_singleton]
    exact onScreen_display ha (hr ▸ get?_of_unshown? hs hu) (confirmed_of_unshown? hu)

/-! ## An announcement -/

/-- A confirmed instance is the only one exactly if all others are placeholders. -/
private theorem countConfirmed_eq_one {r : Roster} (h : r.Consistent) {i : Instance}
    (hi : r.get? i.name = some i) (hp : i.provisional = false) :
    (r.instances.filter fun j => !j.provisional).length = 1 ↔
      ∀ j ∈ r.instances, j.name ≠ i.name → j.provisional = true := by
  have hmem : i ∈ r.instances.filter fun j => !j.provisional :=
    List.mem_filter.mpr ⟨(h.mem_instances_iff).mpr hi, by rw [hp]; rfl⟩
  have hnodup : (r.instances.filter fun j => !j.provisional).Nodup := by
    apply List.Nodup.filter
    apply List.Nodup.of_map Instance.name
    rw [h.names_instances]
    exact h.nodup
  constructor
  · intro hl j hj hn
    obtain ⟨k, hk⟩ := List.length_eq_one_iff.mp hl
    rw [hk, List.mem_singleton] at hmem
    subst hmem
    cases hq : j.provisional with
    | true => rfl
    | false =>
      have hm : j ∈ r.instances.filter fun j => !j.provisional :=
        List.mem_filter.mpr ⟨hj, by rw [hq]; rfl⟩
      rw [hk, List.mem_singleton] at hm
      exact absurd (congrArg Instance.name hm) hn
  · intro hall
    have hone : ∀ j ∈ r.instances.filter fun j => !j.provisional, j = i := by
      intro j hj
      obtain ⟨hj, hq⟩ := List.mem_filter.mp hj
      by_cases hn : j.name = i.name
      · have hg := (h.mem_instances_iff).mp hj
        rw [hn, hi] at hg
        exact (Option.some.inj hg).symm
      · simp [hall j hj hn] at hq
    rw [List.length_eq_one_iff]
    refine ⟨i, List.perm_singleton.mp ((List.perm_ext_iff_of_nodup hnodup (by simp)).mpr ?_)⟩
    intro j
    rw [List.mem_singleton]
    exact ⟨hone j, fun he => he ▸ hmem⟩

/-- What is selected after a record is what was selected before, merged with the record if that is
about it. -/
theorem selected?_upsert (r : Roster) (record : Record) :
    (r.upsert record).selected? =
      if r.selected = some record.name then some (r.learned record) else r.selected? := by
  rw [Roster.selected?, Roster.selected_upsert, Roster.selected?]
  cases hsel : r.selected with
  | none => rfl
  | some n =>
    rw [Option.bind_some, Option.bind_some, Roster.get?_upsert]
    by_cases hn : n = record.name <;> simp [hn]

/-- An announced instance is the first confirmed one if all others are placeholders. If it is the
one that is selected, it does not count. -/
theorem isFirstConfirmed_iff (hs : s.Coherent) (hn : s.Unconfirmed) (record : Record) :
    { s with roster := s.roster.upsert record }.isFirstConfirmed = true ↔
      s.roster.selected ≠ some record.name ∧
        ∀ i ∈ s.roster.instances, i.name ≠ record.name → i.provisional = true := by
  let r := s.roster.upsert record
  have hr : r.Consistent := hs.roster.upsert record
  have hname : (s.roster.learned record).name = record.name :=
    Roster.name_learned s.roster record fun i hi => hs.roster.named record.name i hi
  have hget (n : String) : r.get? n =
      if n = record.name then some (s.roster.learned record) else s.roster.get? n :=
    Roster.get?_upsert s.roster record n
  have hself : r.get? (s.roster.learned record).name = some (s.roster.learned record) := by
    rw [hname, hget, if_pos rfl]
  have hconfirmed := Roster.provisional_learned s.roster record
  have hcount : (r.instances.filter fun i => !i.provisional).length = 1 ↔
      ∀ i ∈ s.roster.instances, i.name ≠ record.name → i.provisional = true := by
    rw [countConfirmed_eq_one hr hself hconfirmed, hname]
    refine forall_congr' fun i => ?_
    rw [hr.mem_instances_iff, hs.roster.mem_instances_iff, hget]
    by_cases hi : i.name = record.name <;> simp [hi]
  have hsel := selected?_upsert s.roster record
  rw [← hcount, isFirstConfirmed, Bool.and_eq_true, beq_iff_eq, and_comm]
  refine and_congr_left fun _ => ?_
  by_cases h : s.roster.selected = some record.name
  · rw [if_pos h] at hsel
    simp [hsel, hconfirmed, h]
  · rw [if_neg h] at hsel
    cases hx : s.roster.selected? with
    | none => simp [hsel, hx, h]
    | some i => simp [hsel, hx, h, hn i hx]

/-- An announcement brings a confirmed instance on the screen, if there is none, exactly if all
other instances are placeholders; and if it confirms the one that is selected, exactly if that has a
widget already. -/
private theorem onScreen_announced (hs : s.Coherent) (ha : s.isAlive = true)
    (hn : s.Unconfirmed) (record : Record) :
    (s.respond (.inbound (.instanceNew record))).state.OnScreen ↔
      if s.roster.selected = some record.name then (s.screen record.name).isAttached = true
      else ∀ i ∈ s.roster.instances, i.name ≠ record.name → i.provisional = true := by
  let u : State := { s with roster := s.roster.upsert record }
  have hself : u.roster.get? record.name = some (s.roster.learned record) :=
    Roster.get?_upsert_self s.roster record
  have hconfirmed := Roster.provisional_learned s.roster record
  have hsel : u.roster.selected? = _ := selected?_upsert s.roster record
  have hresponse : (s.respond (.inbound (.instanceNew record))).state =
      (u.performAll (if u.isFirstConfirmed then [.display record.name] else [])).state := by
    rw [respond_eq hs.roster, acts, if_pos ha]
    rfl
  rw [hresponse]
  by_cases hfirst : u.isFirstConfirmed = true
  · obtain ⟨hne, hall⟩ := (isFirstConfirmed_iff hs hn record).mp hfirst
    rw [if_pos hfirst, performAll_singleton, if_neg hne]
    exact iff_of_true (onScreen_display (s := u) ha hself hconfirmed) hall
  · rw [if_neg hfirst, performAll_nil]
    rw [isFirstConfirmed_iff hs hn record] at hfirst
    by_cases h : s.roster.selected = some record.name
    · have hscreen : (s.roster.learned record).screen = s.screen record.name :=
        Roster.screen_learned s.roster record
      rw [if_pos h] at hsel ⊢
      constructor
      · rintro ⟨i, hi, -, hw⟩
        cases hsel.symm.trans hi
        rwa [← hscreen]
      · intro hw
        exact ⟨_, hsel, hconfirmed, by rwa [hscreen]⟩
    · rw [if_neg h] at hsel ⊢
      have hun : u.Unconfirmed := fun i hi => hn i (hsel.symm.trans hi)
      exact iff_of_false (not_onScreen_of_unconfirmed hun) fun hall => hfirst ⟨h, hall⟩

/-- When nothing but a placeholder is selected, an announcement brings a confirmed instance on the
screen exactly if all other instances are placeholders; and if it confirms the selected one, exactly
if that has a widget already. -/
theorem onScreen_announced_iff (id : String) (setup : Setup) (xs : List Stimulus) (record : Record)
    (ha : ((initial id setup).run xs).state.isAlive = true)
    (hn : ((initial id setup).run xs).state.Unconfirmed) :
    let s := ((initial id setup).run xs).state
    (s.respond (.inbound (.instanceNew record))).state.OnScreen ↔
      if s.roster.selected = some record.name then (s.screen record.name).isAttached = true
      else ∀ i ∈ s.roster.instances, i.name ≠ record.name → i.provisional = true :=
  onScreen_announced (coherent_run id setup xs) ha hn record

/-- The first instance is announced while a placeholder is selected, which had to be when another
instance was taken out. -/
theorem onScreen_announced_beside_placeholder :
    let xs : List Stimulus :=
      [.bootstrap (.ok { instances := [("a", { name := "a" })] }), .command "k1" (.create {}),
        .inbound (.instanceDelete "a")]
    let s := ((initial "s1" {}).run xs).state
    s.isAlive = true ∧ s.Unconfirmed ∧ s.roster.selected = some "k1" ∧
      ((s.respond (.inbound (.instanceNew { name := "b" }))).state.OnScreen ↔
        if s.roster.selected = some "b" then (s.screen "b").isAttached = true
        else ∀ i ∈ s.roster.instances, i.name ≠ "b" → i.provisional = true) := by
  intro xs s
  have ha : s.isAlive = true := by decide +kernel
  have hall : (s.roster.selected?.all fun i => i.provisional) = true := by decide +kernel
  have hn : s.Unconfirmed := fun i hi => by simpa [hi] using hall
  have hsel : s.roster.selected = some "k1" := by decide +kernel
  exact ⟨ha, hn, hsel, onScreen_announced_iff "s1" {} xs { name := "b" } ha hn⟩

/-- Output of two instances comes before they are announced. The first that is announced is not
shown. -/
theorem unshown_after_early_output :
    let xs : List Stimulus :=
      [.bootstrap (.ok {}), .inbound (.terminalOut "a" [104, 105]),
        .inbound (.terminalOut "b" [104, 111])]
    let s := ((initial "s1" {}).run xs).state
    s.isAlive = true ∧ s.Unconfirmed ∧
      ¬ (s.respond (.inbound (.instanceNew { name := "a" }))).state.OnScreen := by
  intro xs s
  have ha : s.isAlive = true := by decide +kernel
  have hnone : s.roster.selected?.isNone = true := by decide +kernel
  have hn : s.Unconfirmed := fun i hi => by simp [hi] at hnone
  let t := (s.respond (.inbound (.instanceNew { name := "a" }))).state
  have hafter : t.roster.selected?.isNone = true := by decide +kernel
  refine ⟨ha, hn, ?_⟩
  rintro ⟨i, hi, -⟩
  simp [t, hi] at hafter

end State

/-! ## Runs in which a confirmed instance is always shown -/

namespace Act

/-- Whether an act neither displays an instance nor takes one out. -/
def stays : Act → Bool
  | .display _ | .forget _ | .terminate => false
  | _ => true

variable {a : Act}

theorem ne_display_of_stays (h : a.stays = true) (name : String) : a ≠ .display name := by
  rintro rfl
  cases h

theorem ne_terminate_of_stays (h : a.stays = true) : a ≠ .terminate := by
  rintro rfl
  cases h

theorem removes_of_stays (h : a.stays = true) (name : String) : a.removes name = false := by
  cases a <;> first | rfl | cases h

end Act

/-- Whether a stimulus may bring an instance on the screen, or take one from it. -/
def Stimulus.moves : Stimulus → Bool
  | .bootstrap (.ok _) => true
  | .command _ (.select _) => true
  | .inbound (.instanceNew _) => true
  | .inbound (.instanceDelete _) => true
  | .inbound .sessionEnd => true
  | .event (.created _ _) => true
  | .event (.deleted _ (.ok ())) => true
  | .select _ => true
  | _ => false

namespace State

variable {s : State} {keys : List String}

/-- What neither displays an instance nor takes one out leaves the selection and the widgets. -/
private theorem performAll_stays {as : List Act} (h : ∀ a ∈ as, a.stays = true) :
    (s.performAll as).state.roster.selected = s.roster.selected ∧
      ∀ name, ((s.performAll as).state.screen name).widget = (s.screen name).widget := by
  induction as generalizing s with
  | nil => exact ⟨rfl, fun _ => rfl⟩
  | cons a as ih =>
    have ha := h a List.mem_cons_self
    have hdisplay := Act.ne_display_of_stays ha
    have hremoves := Act.removes_of_stays ha
    obtain ⟨hsel, hwidget⟩ := ih (s := (s.perform a).state) fun b hb =>
      h b (List.mem_cons_of_mem a hb)
    exact ⟨hsel.trans (selected_perform s hdisplay hremoves), fun name =>
      (hwidget name).trans (widget_perform s hdisplay (hremoves name))⟩

/-- Any other stimulus makes the session do nothing of this. -/
theorem stays_acts {x : Stimulus} (hx : x.moves = false) :
    ∀ a ∈ s.acts x, a.stays = true := by
  intro a hm
  cases x with
  | bootstrap answer =>
    cases answer with
    | error e => cases hm
    | ok r => cases hx
  | command key c =>
    simp only [acts] at hm
    split at hm
    · cases c <;> simp only [commandActs] at hm <;> grind [Act.stays, Stimulus.moves]
    · cases hm
  | inbound e =>
    simp only [acts] at hm
    split at hm
    · cases e <;> simp only [inboundActs] at hm <;> grind [Act.stays, Stimulus.moves]
    · cases hm
  | event e =>
    cases e with
    | created key answer => cases hx
    | deleted name answer =>
      cases answer with
      | ok u => cases hx
      | error e =>
        simp only [acts, eventActs, deletedActs] at hm
        grind [Act.stays]
    | _ =>
      simp only [acts, eventActs] at hm
      grind [Act.stays]
  | select name => cases hx
  | _ =>
    cases List.mem_singleton.mp hm
    rfl

/-- Whether a stimulus comes when it may: the session is loaded before there are instances, output
is for an instance that is there, and no placeholder is selected by the user or the embedder. -/
def admits (s : State) : Stimulus → Bool
  | .bootstrap (.ok _) => s.roster.order.isEmpty
  | .inbound (.terminalOut name _) => s.roster.contains name
  | .command _ (.select name) => (s.roster.get? name).all fun i => !i.provisional
  | .select name => (s.roster.get? name).all fun i => !i.provisional
  | _ => true

/-- Whether every stimulus of a run comes when it may. -/
def admitsAll (s : State) : List Stimulus → Bool
  | [] => true
  | x :: xs => s.admits x && (s.respond x).state.admitsAll xs

/-- If there is a confirmed instance, one is on the screen. -/
def Showing (s : State) : Prop :=
  ∀ i ∈ s.roster.instances, i.provisional = false → s.OnScreen

/-- What is on the screen stays there as long as nothing is displayed or taken out, and no key is
given to it. -/
private theorem onScreen_stays (h : s.OnScreen) (hk : s.Keyed keys) {as : List Act}
    (hstays : ∀ a ∈ as, a.stays = true) (hrespects : ∀ a ∈ as, a.Respects keys) :
    (s.performAll as).state.OnScreen := by
  obtain ⟨i, hi, hp, hw⟩ := h
  obtain ⟨name, hsel, hget⟩ := Option.bind_eq_some_iff.mp hi
  obtain ⟨hsel', hwidget⟩ := performAll_stays (s := s) hstays
  obtain ⟨w, hw⟩ := Option.isSome_iff_exists.mp hw
  have hw' := hwidget name
  rw [screen_of_get? hget, hw] at hw'
  obtain ⟨j, hj, hv⟩ := exists_of_screen hw'
  refine onScreen_of_get? (hsel'.trans hsel) hj ?_ (by rw [Screen.isAttached, hv]; rfl)
  rw [hk.performAll hrespects name j hj, ← hk name i hget, hp]

/-- Unless a stimulus may move what is on the screen, nothing but a placeholder comes in with it. -/
private theorem introduces_of_not_moves {x : Stimulus} (hx : x.Respects keys)
    (hm : x.moves = false) (hadmits : s.admits x = true) {name : String}
    (hn : name ∈ x.introduces) : name ∈ keys ∨ s.roster.contains name = true := by
  unfold Stimulus.introduces at hn
  split at hn
  · cases hm
  · exact .inl (hx.asked name (List.mem_singleton.mp hn ▸ rfl))
  · exact .inr (List.mem_singleton.mp hn ▸ hadmits)
  · cases hm
  · cases hm
  · cases hn

/-- Unless a stimulus may move what is on the screen, it stays there. -/
private theorem showing_stays (h : s.Showing) (hs : s.Coherent) (ha : s.isAlive = true)
    (hk : s.Keyed keys) {x : Stimulus} (hx : x.Respects keys) (hm : x.moves = false)
    (hadmits : s.admits x = true) : (s.respond x).state.Showing := by
  rw [respond_eq hs.roster]
  have hstays := stays_acts (s := s) hm
  have hrespects : ∀ a ∈ s.acts x, a.Respects keys := fun a ha' => respects_acts hx ha ha'
  intro j hj hp
  have hget := ((hs.performAll _).roster.mem_instances_iff).mp hj
  have hkey : keys.contains j.name = false := by
    rw [← hk.performAll hrespects j.name j hget, hp]
  have hold : s.roster.contains j.name = true := by
    have hremoves := fun a hm => Act.removes_of_stays (hstays a hm)
    have hthere := Roster.contains_of_get? hget
    rcases (contains_performAll hs ha hremoves j.name).mp hthere with hc | hi
    · exact hc
    · rw [introduces_acts ha] at hi
      exact (introduces_of_not_moves hx hm hadmits hi).resolve_left (by simpa using hkey)
  obtain ⟨i, hi⟩ := Option.isSome_iff_exists.mp hold
  have hname : i.name = j.name := hs.roster.named j.name i hi
  have hon := h i (hs.roster.mem_instances_iff.mpr (hname ▸ hi)) ((hk j.name i hi).trans hkey)
  exact onScreen_stays hon hk hstays hrespects

private theorem showing_of_onScreen (h : s.OnScreen) : s.Showing := fun _ _ _ => h

private theorem showing_of_roster_eq {t : State} (h : s.Showing) (hr : t.roster = s.roster) :
    t.Showing := by
  rw [Showing, OnScreen, hr]
  exact h

/-- To display an instance shows a confirmed one, unless a placeholder is displayed. -/
private theorem showing_display (h : s.Showing) (ha : s.isAlive = true) {name : String}
    (hp : ((s.roster.get? name).all fun i => !i.provisional) = true) :
    (s.perform (.display name)).state.Showing := by
  cases hi : s.roster.get? name with
  | none =>
    have hd : s.perform (.display name) = { state := s } := by
      simp [perform, Step.orStay, Step.attempt, select, ha, hi]
    rw [hd]
    exact h
  | some i =>
    rw [hi, Option.all_some, Bool.not_eq_true'] at hp
    exact showing_of_onScreen (onScreen_display ha hi hp)

/-- A session that sees to it shows a confirmed instance. -/
private theorem showing_showActs {t : State} (hs : s.Coherent) (hr : t.roster = s.roster)
    (ha : t.isAlive = true) : (t.performAll s.showActs).state.Showing := by
  by_cases hc : ∃ i ∈ s.roster.instances, i.provisional = false
  · obtain ⟨i, hi, hp⟩ := hc
    exact showing_of_onScreen (onScreen_showActs hs hr ha hi hp)
  · have hnone : s.unshown? = none := by
      cases hu : s.unshown? with
      | none => rfl
      | some i =>
        have hi := hs.roster.mem_instances_iff.mpr (get?_of_unshown? hs hu)
        exact absurd ⟨i, hi, confirmed_of_unshown? hu⟩ hc
    have hvacuous : s.Showing := fun i hi hp => absurd ⟨i, hi, hp⟩ hc
    rw [showActs, hnone]
    exact showing_of_roster_eq hvacuous hr

/-- A dismissal shows a confirmed instance of those that are left. -/
private theorem showing_dismissed (hs : s.Coherent) (ha : s.isAlive = true) {name : String}
    {x : Stimulus} (hx : x.dismisses name = true) : (s.respond x).state.Showing := by
  obtain ⟨as, hacts, has⟩ := acts_of_dismisses ha hx
  have halive : (s.forget name).state.isAlive = true :=
    (isAlive_forget s name).trans ha
  obtain ⟨hroster, halive', -⟩ := performAll_asides (s := (s.forget name).state) has
  rw [respond_eq hs.roster, hacts, performAll_cons, Step.andThen, performAll_append]
  exact showing_showActs (hs.perform (.forget name)) hroster (halive'.trans halive)

/-- The answer to a request shows its instance. -/
private theorem showing_created (hs : s.Coherent) (ha : s.isAlive = true) (key : String)
    (record : Record) : (s.respond (.event (.created key (.ok record)))).state.Showing := by
  let u := (s.forget key).state
  have halive : u.isAlive = true := (isAlive_forget s key).trans ha
  have hi := Roster.get?_upsert_self u.roster record
  rw [respond_eq hs.roster, acts, eventActs, if_pos ha]
  exact showing_of_onScreen (onScreen_display (s := (u.perform (.learn record)).state) halive hi
    (Roster.provisional_learned u.roster record))

/-- An announcement keeps a confirmed instance on the screen, or brings one there. -/
private theorem showing_announced (h : s.Showing) (hs : s.Coherent) (ha : s.isAlive = true)
    (hk : s.Keyed keys) {record : Record} (hn : record.name ∉ keys) :
    (s.respond (.inbound (.instanceNew record))).state.Showing := by
  apply showing_of_onScreen
  by_cases hon : s.OnScreen
  · rw [respond_eq hs.roster, acts, if_pos ha, inboundActs, performAll_cons, Step.andThen]
    split
    · rw [performAll_singleton]
      exact onScreen_display (s := (s.perform (.learn record)).state) ha
        (Roster.get?_upsert_self s.roster record) (Roster.provisional_learned s.roster record)
    · have hlearn : (s.performAll [.learn record]).state.OnScreen :=
        onScreen_stays hon hk (by simp [Act.stays]) (by simpa [Act.Respects] using hn)
      rwa [performAll_singleton] at hlearn
  · have hall : ∀ i ∈ s.roster.instances, i.provisional = true := by
      intro i hi
      cases hp : i.provisional with
      | true => rfl
      | false => exact absurd (h i hi hp) hon
    have hun : s.Unconfirmed := by
      intro i hi
      obtain ⟨name, -, hg⟩ := Option.bind_eq_some_iff.mp hi
      exact hall i (hs.roster.mem_instances_iff.mpr (hs.roster.named name i hg ▸ hg))
    have hne : s.roster.selected ≠ some record.name := by
      intro hsel
      obtain ⟨i, hi⟩ := hs.roster.exists_of_mem (hs.roster.shown record.name hsel)
      have hp := hun i (by rw [Roster.selected?, hsel, Option.bind_some, hi])
      rw [hk record.name i hi] at hp
      exact hn (List.contains_iff_mem.mp hp)
    refine (onScreen_announced hs ha hun record).mpr ?_
    rw [if_neg hne]
    exact fun i hi _ => hall i hi

/-- To be loaded, a session without instances shows the first one that there is. -/
private theorem showing_loaded (hs : s.Coherent) (ha : s.isAlive = true) (hk : s.Keyed keys)
    (r : SessionRecord) (hx : (Stimulus.bootstrap (.ok r)).Respects keys)
    (hempty : s.roster.order = []) : (s.respond (.bootstrap (.ok r))).state.Showing := by
  let heard : List Act := .aside (.relate r) :: r.instances.map fun entry => .learn entry.2
  have hheard : ∀ a ∈ heard,
      a = .aside (.relate r) ∨ ∃ entry ∈ r.instances, a = .learn entry.2 := by
    simp [heard, eq_comm]
  let u := (s.performAll heard).state
  have hu : u.Coherent := hs.performAll heard
  have hstays : ∀ a ∈ heard, a.stays = true := by
    intro a hm
    rcases hheard a hm with rfl | ⟨entry, -, rfl⟩ <;> rfl
  have halive : u.isAlive = true :=
    (isAlive_performAll fun a hm => Act.ne_terminate_of_stays (hstays a hm)).trans ha
  have hkeyed : u.Keyed keys := by
    refine hk.performAll fun a hm => ?_
    rcases hheard a hm with rfl | ⟨entry, he, rfl⟩
    · exact trivial
    · exact hx.mentions _ (List.mem_map_of_mem he)
  have hnew : ∀ name ∈ u.roster.order, name ∉ keys := by
    intro name hm
    have hremoves := fun a hm => Act.removes_of_stays (hstays a hm)
    rcases (contains_performAll hs ha hremoves name).mp ((hu.roster.mem_order name).mp hm) with
      hc | hi
    · rw [← hs.roster.mem_order, hempty] at hc
      cases hc
    · obtain ⟨a, ha, hn⟩ := List.mem_flatMap.mp hi
      rcases hheard a ha with rfl | ⟨entry, he, rfl⟩
      · cases hn
      · rw [List.mem_singleton.mp hn]
        exact hx.mentions _ (List.mem_map_of_mem he)
  have hnone : u.roster.selected = none := by
    rw [(performAll_stays hstays).1]
    cases hsel : s.roster.selected with
    | none => rfl
    | some name => simpa [hempty] using hs.roster.shown name hsel
  have hroster : r.instances.foldl (fun roster entry => roster.upsert entry.2) s.roster =
      u.roster := by
    show _ = ((s.perform (.aside (.relate r))).state.performAll _).state.roster
    rw [performAll_learn]
    rfl
  have hcountdown (t : State) (ht : t.Showing) :
      (t.performAll [.aside .startCountdown]).state.Showing :=
    showing_of_roster_eq ht (by rw [performAll_singleton]; exact (performAside_apart t _).roster)
  have hacts : s.acts (.bootstrap (.ok r)) =
      heard ++ ((u.roster.order.head?.map Act.display).toList ++ [.aside .startCountdown]) := by
    rw [acts, if_pos ha, loadActs, hroster, hnone, Roster.names]
    cases u.roster.order.head? <;> rfl
  rw [respond_eq hs.roster, hacts, performAll_append, Step.andThen, performAll_append]
  cases hn : u.roster.order.head? with
  | none =>
    refine hcountdown u fun i hi => ?_
    have hm := List.mem_map_of_mem (f := Instance.name) hi
    rw [hu.roster.names_instances, List.head?_eq_none_iff.mp hn] at hm
    cases hm
  | some name =>
    have hm : name ∈ u.roster.order := List.mem_of_mem_head? hn
    obtain ⟨i, hi⟩ := hu.roster.exists_of_mem hm
    have hp : i.provisional = false := by
      rw [hkeyed name i hi]
      simpa using hnew name hm
    refine hcountdown _ (showing_of_onScreen ?_)
    rw [Option.map_some, Option.toList_some, performAll_singleton]
    exact onScreen_display halive hi hp

/-- A response keeps a confirmed instance on the screen, if there is one. -/
private theorem showing_respond (h : s.Showing) (hs : s.Coherent) (ha : s.isAlive = true)
    (hk : s.Keyed keys) {x : Stimulus} (hend : x ≠ .inbound .sessionEnd) (hx : x.Respects keys)
    (hadmits : s.admits x = true) : (s.respond x).state.Showing := by
  cases hm : x.moves with
  | false => exact showing_stays h hs ha hk hx hm hadmits
  | true =>
    unfold Stimulus.moves at hm
    split at hm
    · exact showing_loaded hs ha hk _ hx (by simpa [admits] using hadmits)
    · rw [respond_eq hs.roster, acts, if_pos ha, commandActs, performAll_singleton]
      exact showing_display h ha hadmits
    · exact showing_announced h hs ha hk (hx.mentions _ (by simp [Stimulus.mentions]))
    · exact showing_dismissed hs ha (beq_self_eq_true _)
    · exact absurd rfl hend
    · next key answer =>
      cases answer with
      | ok record => exact showing_created hs ha key record
      | error e => exact showing_dismissed hs ha (beq_self_eq_true key)
    · exact showing_dismissed hs ha (beq_self_eq_true _)
    · rw [respond_eq hs.roster, acts, performAll_singleton]
      exact showing_display h ha hadmits
    · cases hm

private theorem showing_run (h : s.Showing) (hs : s.Coherent) (hk : s.Keyed keys)
    {xs : List Stimulus} (ha : (s.run xs).state.isAlive = true) (hx : ∀ x ∈ xs, x.Respects keys)
    (hadmits : s.admitsAll xs = true) : (s.run xs).state.Showing := by
  induction xs generalizing s with
  | nil => exact h
  | cons x xs ih =>
    obtain ⟨has, hend⟩ := isAlive_of_run_cons hs ha
    have hxx := hx x List.mem_cons_self
    rw [admitsAll, Bool.and_eq_true] at hadmits
    exact ih (showing_respond h hs has hk hend hxx hadmits.1) (hs.respond x) (hk.respond hs has hxx)
      ha (fun y hy => hx y (List.mem_cons_of_mem x hy)) hadmits.2

/-- In every run in which the session is loaded before there are instances, output comes for
instances that are there, no placeholder is selected by hand, and the keys of placeholders are used
for nothing else, a confirmed instance is on the screen as long as there is one; so a placeholder is
selected only if there is none. -/
theorem confirmed_onScreen (id : String) (setup : Setup) {xs : List Stimulus}
    (ha : ((initial id setup).run xs).state.isAlive = true)
    (hadmits : (initial id setup).admitsAll xs = true)
    (hkeys : ∀ key ∈ xs.filterMap Stimulus.asked?, ∀ x ∈ xs, key ∉ x.mentions) :
    let s := ((initial id setup).run xs).state
    (∀ i ∈ s.roster.instances, i.provisional = false → s.OnScreen) ∧
      ∀ i, s.roster.selected? = some i → i.provisional = true →
        ∀ j ∈ s.roster.instances, j.provisional = true := by
  intro s
  have hkeyed := keyed_initial id setup (xs.filterMap Stimulus.asked?)
  have hempty : (initial id setup).Showing := by
    intro i hi
    cases hi
  have hshowing : s.Showing :=
    showing_run hempty (Coherent.initial id setup) hkeyed ha (respects_keys hkeys) hadmits
  refine ⟨hshowing, fun i hi hp j hj => ?_⟩
  cases hq : j.provisional with
  | true => rfl
  | false =>
    obtain ⟨k, hk, hkp, -⟩ := hshowing j hj hq
    cases hi.symm.trans hk
    rw [hp] at hkp
    cases hkp

/-- The selection falls back to a placeholder and goes from there to what is announced; one request
fails, another one is answered, and what came of it is deleted. -/
theorem confirmed_onScreen_after_fallbacks :
    let xs : List Stimulus :=
      [.bootstrap (.ok { instances := [("a", { name := "a" })] }), .command "k1" (.create {}),
        .command "" (.select "a"), .inbound (.instanceDelete "a"),
        .inbound (.instanceNew { name := "b" }), .command "k2" (.create {}),
        .event (.created "k1" (.error .capacity)), .event (.created "k2" (.ok { name := "c" })),
        .inbound (.terminalOut "c" [104, 105]), .command "k3" (.create {}),
        .command "" (.delete "c"), .event (.deleted "c" (.ok ()))]
    let s := ((initial "s1" {}).run xs).state
    s.isAlive = true ∧ (initial "s1" {}).admitsAll xs = true ∧
      (∀ key ∈ xs.filterMap Stimulus.asked?, ∀ x ∈ xs, key ∉ x.mentions) ∧
      s.roster.names = ["b", "k3"] ∧
      (s.roster.instances.any fun i => !i.provisional) = true ∧
      (∀ i ∈ s.roster.instances, i.provisional = false → s.OnScreen) ∧
        ∀ i, s.roster.selected? = some i → i.provisional = true →
          ∀ j ∈ s.roster.instances, j.provisional = true := by
  intro xs s
  have ha : s.isAlive = true := by decide +kernel
  have hadmits : (initial "s1" {}).admitsAll xs = true := by decide +kernel
  have hkeys : ∀ key ∈ xs.filterMap Stimulus.asked?, ∀ x ∈ xs, key ∉ x.mentions := by decide
  have hnames : s.roster.names = ["b", "k3"] := by decide +kernel
  have hconfirmed : (s.roster.instances.any fun i => !i.provisional) = true := by decide +kernel
  exact ⟨ha, hadmits, hkeys, hnames, hconfirmed, confirmed_onScreen "s1" {} ha hadmits hkeys⟩

end State
end TermSync.Session
