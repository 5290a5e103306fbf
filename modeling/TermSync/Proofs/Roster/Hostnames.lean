import TermSync.Proofs.Roster.Consistency

/-!
# The index of host names

A host name is found in the index exactly if some instance has it, and what is found has it. Of
several instances with one host name the index holds the one whose record brought it last. It
holds that one until the instance is taken out or gets another host name, and then the first of
the others in display order.

`Inherits` says this of a roster and a later one without a word about how the index is kept; the
relation is transitive, so it also holds across any number of changes that do not bring the host
name. Main statements: `inherits_upsert` and `inherits_remove?` (what the two changes that touch
the index do to it), `Inherits.trans`, and `byHostname?_performAll`.
-/

namespace TermSync.Roster

open Text (Bytes)

/-! ## Who has a host name -/

/-- Whether the instance with a name is there and has a host name. -/
def bears (r : Roster) (host name : String) : Bool :=
  (r.get? name).any fun i => i.hostname == some host

/-- The names of the instances that have a host name, in display order. -/
def bearers (r : Roster) (host : String) : List String := r.order.filter (r.bears host)

theorem bears_iff {r : Roster} {host name : String} :
    r.bears host name = true ↔ ∃ i, r.get? name = some i ∧ i.hostname = some host := by
  simp [bears, Option.any_eq_true]

theorem Consistent.mem_bearers_iff {r : Roster} (h : r.Consistent) {host name : String} :
    name ∈ r.bearers host ↔ r.bears host name = true := by
  rw [bearers, List.mem_filter, and_iff_right_iff_imp]
  intro hb
  obtain ⟨i, hi, -⟩ := bears_iff.mp hb
  exact (h.mem_order name).mpr (contains_of_get? hi)

/-- An heir is the first of the others that have the host name. -/
theorem heir?_eq (r : Roster) (host name : String) :
    r.heir? host name = ((r.bearers host).filter fun n => n != name).head? := by
  rw [bearers, List.filter_filter, List.head?_filter]
  rfl

theorem bears_upsert (r : Roster) (record : Record) {host : String}
    (hr : record.hostname ≠ some host) (name : String) :
    (r.upsert record).bears host name =
      (r.bears host name && (name != record.name || record.hostname.isNone)) := by
  unfold bears
  rw [get?_upsert]
  by_cases hn : name = record.name
  · subst hn
    rw [if_pos rfl, Option.any_some, hostname_learned]
    cases hh : record.hostname with
    | none => cases r.get? record.name <;> simp
    | some new => simpa [hh] using hr
  · simp [hn]

theorem bears_rest {r : Roster} {name : String} {x : Removal} (hx : r.remove? name = some x)
    (host other : String) : x.rest.bears host other = (r.bears host other && other != name) := by
  unfold bears
  rw [get?_rest hx]
  by_cases hn : other = name <;> simp [hn]

/-! ## The index -/

/-- The roster is consistent, and each host name that an instance has is in the index. -/
structure Indexed (r : Roster) : Prop where
  consistent : r.Consistent
  found : ∀ host name, r.bears host name = true → (r.holders.get? host).isSome = true

namespace Indexed

variable {r : Roster}

theorem empty : Indexed {} where
  consistent := Consistent.empty
  found _ _ h := by simp [bears, get?] at h

/-- Whoever holds a host name has it. -/
theorem bears_of_holder (h : r.Indexed) {host name : String}
    (hl : r.holders.get? host = some name) : r.bears host name = true :=
  bears_iff.mpr (h.consistent.held host name hl)

/-- The record of the holder carries the host name. -/
private theorem hostname_of_holder (h : r.Indexed) {host name : String}
    (hl : r.holders.get? host = some name) :
    (r.get? name).bind Instance.hostname = some host := by
  obtain ⟨i, hi, hhost⟩ := h.consistent.held host name hl
  rw [hi]
  exact hhost

/-- Without a holder nobody has the host name. -/
theorem bearers_eq_nil (h : r.Indexed) {host : String} (hl : r.holders.get? host = none) :
    r.bearers host = [] := by
  refine List.filter_eq_nil_iff.mpr fun name _ hb => ?_
  have hf := h.found host name hb
  rw [hl] at hf
  cases hf

end Indexed

/-- From one roster to a later one nobody has got a host name, and its holder is the one from before
if that one still has it, and otherwise the first that has. -/
structure Inherits (r t : Roster) (host : String) : Prop where
  bearers : (t.bearers host).Sublist (r.bearers host)
  holder : t.holders.get? host =
    ((r.holders.get? host).filter (t.bearers host).contains).or (t.bearers host).head?

/-- The first of a list is the first of every part of it that has it. -/
private theorem head?_of_sublist {names part : List String} (h : part.Sublist names)
    (hn : names.Nodup) :
    (names.head?.filter part.contains).or part.head? = part.head? := by
  cases h with
  | slnil => rfl
  | cons a h =>
    have ha : a ∉ part := fun hm => (List.nodup_cons.mp hn).1 (h.subset hm)
    simp [Option.filter_some, ha]
  | cons_cons a h => simp [Option.filter_some]

namespace Inherits

variable {r s t : Roster} {host : String}

/-- The law holds across any number of changes. -/
theorem trans (hs : s.Consistent) (h : r.Inherits s host) (h' : s.Inherits t host) :
    r.Inherits t host where
  bearers := h'.bearers.trans h.bearers
  holder := by
    have hfirst := head?_of_sublist h'.bearers (hs.nodup.filter _)
    have hsub : ∀ name, name ∉ s.bearers host → name ∉ t.bearers host :=
      fun name hn hm => hn (h'.bearers.subset hm)
    rw [h'.holder, h.holder]
    cases r.holders.get? host with
    | none => exact hfirst
    | some name =>
      -- If the holder lost the host name on the way, both changes go by the first of those left.
      by_cases hn : name ∈ s.bearers host
      · simp [Option.filter_some, hn]
      · simpa [Option.filter_some, hn, hsub name hn] using hfirst

/-- A holder that still has the host name still holds it. -/
theorem holder_of_mem (h : r.Inherits t host) {name : String}
    (hl : r.holders.get? host = some name) (hm : name ∈ t.bearers host) :
    t.holders.get? host = some name := by
  simp [h.holder, hl, Option.filter_some, hm]

/-- Some lose the host name. If the holder does, the first of the others is next. -/
private theorem of_lost (hr : r.Indexed) (lost : String → Bool)
    (hb : t.bearers host = (r.bearers host).filter fun n => !lost n)
    (hl : t.holders.get? host =
      if (r.holders.get? host).any lost then (t.bearers host).head? else r.holders.get? host) :
    r.Inherits t host where
  bearers := hb ▸ List.filter_sublist
  holder := by
    rw [hl]
    cases hh : r.holders.get? host with
    | none => simp [hb, hr.bearers_eq_nil hh]
    | some name =>
      have hm := hr.consistent.mem_bearers_iff.mpr (hr.bears_of_holder hh)
      cases hlost : lost name <;> simp [Option.filter_some, hb, hm, hlost]

/-- To leave the order, the index and the host names alone is to inherit. -/
theorem of_frame (hr : r.Indexed) (ho : t.order = r.order) (hh : t.holders = r.holders)
    (hb : ∀ name, t.bears host name = r.bears host name) : r.Inherits t host := by
  have hbearers : t.bearers host = r.bearers host := by
    rw [Roster.bearers, ho, show t.bears host = r.bears host from funext hb]
    rfl
  refine of_lost hr (fun _ => false) ?_ (by simp [hh])
  rw [hbearers]
  exact (List.filter_eq_self.mpr fun _ _ => rfl).symm

end Inherits

/-! ## Changes that touch the index -/

/-- An instance gives its own host name up, so it gives up whatever it holds. -/
private theorem get?_giveUp_own (r : Roster) {own host name : String}
    (hown : r.holders.get? host = some name → host = own) :
    (r.giveUp own name).get? host =
      if r.holders.get? host = some name then r.heir? host name else r.holders.get? host := by
  rw [get?_giveUp]
  by_cases hl : r.holders.get? host = some name
  · obtain rfl := hown hl
    simp [hl]
  · rw [if_neg hl, if_neg]
    rintro ⟨rfl, hc⟩
    exact hl hc

/-- A record that brings a host name makes its instance the holder. -/
theorem holder_upsert (r : Roster) {record : Record} {host : String}
    (hr : record.hostname = some host) :
    (r.upsert record).holders.get? host = some record.name := by
  rw [holders_upsert, holdersAfter, hr, Table.get?_insert, if_pos rfl]

/-- With a record that brings another host name its instance gives up what it holds. -/
private theorem get?_holdersAfter {r : Roster} (h : r.Indexed) {record : Record} {host : String}
    (hr : record.hostname ≠ some host) :
    (r.holdersAfter record).get? host =
      if r.holders.get? host = some record.name ∧ record.hostname.isSome = true then
        r.heir? host record.name
      else r.holders.get? host := by
  unfold holdersAfter
  cases hh : record.hostname with
  | none => simp
  | some new =>
    have hne : host ≠ new := fun he => hr (he ▸ hh)
    simp only [Table.get?_insert, if_neg hne, Option.isSome_some, and_true]
    cases ho : (r.get? record.name).bind Instance.hostname with
    | none =>
      rw [if_neg]
      intro hl
      simp [h.hostname_of_holder hl] at ho
    | some old =>
      have hown (hl : r.holders.get? host = some record.name) : host = old :=
        Option.some.inj ((h.hostname_of_holder hl).symm.trans ho)
      by_cases hsame : old = new
      · simp only [if_pos hsame]
        rw [if_neg fun hl => hne ((hown hl).trans hsame)]
      · simp only [if_neg hsame]
        exact r.get?_giveUp_own hown

private theorem bearers_upsert (r : Roster) {record : Record} {host : String}
    (hr : record.hostname ≠ some host) :
    (r.upsert record).bearers host =
      (r.bearers host).filter fun n => !(n == record.name && record.hostname.isSome) := by
  have hb : (r.upsert record).bears host =
      fun n => !(n == record.name && record.hostname.isSome) && r.bears host n := by
    funext n
    rw [bears_upsert r record hr, Bool.and_comm]
    cases record.hostname <;> simp [bne]
  rw [bearers, bearers, List.filter_filter, hb, order_upsert]
  split
  · rfl
  · next hc =>
    -- The instance that comes in had no host name before.
    have hnew : r.bears host record.name = false := by
      have hg : r.get? record.name = none := by simpa [contains_eq] using hc
      simp [bears, hg]
    simp [hnew]

/-- What a record does about a host name that it does not bring. -/
theorem inherits_upsert {r : Roster} (h : r.Indexed) {record : Record} {host : String}
    (hr : record.hostname ≠ some host) : r.Inherits (r.upsert record) host := by
  have hb := bearers_upsert r hr
  refine .of_lost h _ hb ?_
  rw [holders_upsert, get?_holdersAfter h hr, heir?_eq, hb]
  cases hl : r.holders.get? host <;> cases record.hostname <;> simp [bne]

private theorem bearers_rest {r : Roster} {name : String} {x : Removal}
    (hx : r.remove? name = some x) (host : String) :
    x.rest.bearers host = (r.bearers host).filter fun n => !(n == name) := by
  obtain ⟨-, -, -, -, ho, -⟩ := remove?_eq_some hx
  have hb : x.rest.bears host = fun n => r.bears host n && n != name :=
    funext (bears_rest hx host)
  rw [bearers, bearers, ho, hb, List.filter_filter, List.filter_filter]
  apply List.filter_congr
  intro n _
  cases hn : n == name <;> simp [bne, hn]

/-- The heir is not the one taken out. -/
theorem heir?_erase (r : Roster) (host name : String) :
    Roster.heir? { r with entries := r.entries.erase name } host name = r.heir? host name := by
  have hp (n : String) :
      (n != name && ((r.entries.erase name).get? n).any fun i => i.hostname == some host) =
        (n != name && (r.entries.get? n).any fun i => i.hostname == some host) := by
    rw [Table.get?_erase]
    by_cases hn : n = name <;> simp [hn]
  simp only [heir?, get?, hp]

/-- What a removal does about a host name. -/
theorem inherits_remove? {r : Roster} (h : r.Indexed) {name : String} {x : Removal}
    (hx : r.remove? name = some x) (host : String) : r.Inherits x.rest host := by
  have hb := bearers_rest hx host
  obtain ⟨i, hi, -, -, -, -, hh⟩ := remove?_eq_some hx
  -- If the one taken out holds the host name, it has it.
  have hown (hl : r.holders.get? host = some name) : i.hostname = some host := by
    have hn := h.hostname_of_holder hl
    rwa [hi] at hn
  have hlookup : x.rest.holders.get? host =
      if r.holders.get? host = some name then r.heir? host name else r.holders.get? host := by
    rw [hh]
    cases hhost : i.hostname with
    | none =>
      rw [if_neg]
      intro hl
      rw [hown hl] at hhost
      cases hhost
    | some own =>
      rw [← heir?_erase]
      refine get?_giveUp_own { r with entries := r.entries.erase name } fun hl => ?_
      exact Option.some.inj ((hown hl).symm.trans hhost)
  refine .of_lost h _ hb ?_
  rw [hlookup, heir?_eq, hb]
  cases hl : r.holders.get? host <;> simp [bne]

/-! ## Changes that leave host names alone -/

theorem bears_update (r : Roster) (name : String) {f : Instance → Instance}
    (hf : ∀ i, r.get? name = some i → (f i).hostname = i.hostname) (host other : String) :
    (r.update name f).bears host other = r.bears host other := by
  unfold bears
  rw [get?_update]
  split
  · next hn =>
    subst hn
    cases hi : r.get? other with
    | none => rfl
    | some i => simp [hf i hi]
  · rfl

theorem bears_mapAll (r : Roster) {f : Instance → Instance}
    (hf : ∀ i, (f i).hostname = i.hostname) (host name : String) :
    bears { r with entries := r.entries.map f } host name = r.bears host name := by
  have hg := Table.get?_map r.entries f name
  simp only [bears, get?, hg]
  cases r.entries.get? name <;> simp [hf]

theorem bears_insertPlaceholder (r : Roster) (key host name : String) :
    (r.insertPlaceholder key).bears host name = r.bears host name := by
  have hhost : (Record.named key).hostname ≠ some host := by simp [Record.named]
  rw [insertPlaceholder, bears_update, bears_upsert r (Record.named key) hhost]
  · simp [Record.named]
  · exact fun _ _ => rfl

section

variable {r : Roster} (h : r.Indexed) (host : String)
include h

theorem Inherits.refl : r.Inherits r host :=
  .of_frame h rfl rfl fun _ => rfl

/-- Another selection. -/
theorem inherits_select (name : String) : r.Inherits { r with selected := some name } host :=
  .of_frame h rfl rfl fun _ => rfl

/-- A change of one instance, if that keeps its host name. -/
theorem inherits_update (name : String) {f : Instance → Instance}
    (hf : ∀ i, r.get? name = some i → (f i).hostname = i.hostname) :
    r.Inherits (r.update name f) host :=
  .of_frame h rfl rfl (bears_update r name hf host)

/-- A change of all instances, if that keeps their host names. -/
theorem inherits_mapAll {f : Instance → Instance} (hf : ∀ i, (f i).hostname = i.hostname) :
    r.Inherits { r with entries := r.entries.map f } host :=
  .of_frame h rfl rfl (bears_mapAll r hf host)

omit h in
/-- To take out all instances. -/
theorem inherits_empty (r : Roster) : r.Inherits {} host where
  bearers := List.nil_sublist _
  holder := by cases r.holders.get? host <;> rfl

end

/-! ## The index stays complete -/

namespace Indexed

variable {r t : Roster}

/-- To inherit every host name that has no holder for another reason keeps the index complete. -/
theorem of_inherits (ht : t.Consistent)
    (h : ∀ host, (t.holders.get? host).isSome = true ∨ r.Inherits t host) : t.Indexed where
  consistent := ht
  found host name hb := by
    rcases h host with hl | hl
    · exact hl
    · have hm := (ht.mem_bearers_iff).mpr hb
      rw [hl.holder, Option.isSome_or, Bool.or_eq_true]
      exact .inr (List.isSome_head?.mpr (List.ne_nil_of_mem hm))

theorem upsert (h : r.Indexed) (record : Record) : (r.upsert record).Indexed := by
  refine of_inherits (r := r) (h.consistent.upsert record) fun host => ?_
  by_cases hr : record.hostname = some host
  · left
    rw [holder_upsert r hr]
    rfl
  · exact .inr (inherits_upsert h hr)

end Indexed

/-- To put in a placeholder brings no host name. -/
theorem inherits_insertPlaceholder {r : Roster} (h : r.Indexed) (host key : String) :
    r.Inherits (r.insertPlaceholder key) host := by
  have hu := h.upsert (Record.named key)
  have hhost : (Record.named key).hostname ≠ some host := by simp [Record.named]
  exact (inherits_upsert h hhost).trans hu.consistent (inherits_update hu host key fun _ _ => rfl)

/-- Output brings no host name. -/
theorem inherits_route {r : Roster} (h : r.Indexed) (host name : String) (data : Bytes) :
    r.Inherits (r.route name data).1 host := by
  have ha : (r.announced name).Indexed ∧ r.Inherits (r.announced name) host := by
    unfold announced
    split
    · exact ⟨h, .refl h host⟩
    · exact ⟨h.upsert (Record.named name), inherits_upsert h (by simp [Record.named])⟩
  rw [route_eq]
  exact ha.2.trans ha.1.consistent (inherits_update ha.1 host name fun _ _ => rfl)

/-! ## Any sequence of changes -/

/-- A change of an instance that leaves its name and its host name alone. -/
structure Revision where
  apply : Instance → Instance
  name : ∀ i, (apply i).name = i.name
  hostname : ∀ i, (apply i).hostname = i.hostname

/-- A change of a roster. -/
inductive Op where
  | upsert (record : Record)
  | insertPlaceholder (key : String)
  | remove (name : String)
  | select (name : String)
  | clear
  | revise (name : String) (f : Revision)
  | reviseAll (f : Revision)

/-- The roster after a change. To remove or to select what is not there changes nothing. -/
def perform (r : Roster) : Op → Roster
  | .upsert record => r.upsert record
  | .insertPlaceholder key => r.insertPlaceholder key
  | .remove name => ((r.remove? name).map Removal.rest).getD r
  | .select name => (r.select? name).getD r
  | .clear => {}
  | .revise name f => r.update name f.apply
  | .reviseAll f => { r with entries := r.entries.map f.apply }

/-- The roster after one change after the other. -/
def performAll (r : Roster) (ops : List Op) : Roster := ops.foldl perform r

/-- The instance to which a change brings a host name. -/
def Op.brings? (host : String) : Op → Option String
  | .upsert record => if record.hostname = some host then some record.name else none
  | _ => none

/-- Whether a change that does not bring a host name takes it from an instance: the instance is
taken out, or gets another one. -/
def Op.unseats (name : String) : Op → Bool
  | .upsert record => record.name == name && record.hostname.isSome
  | .remove other => other == name
  | .clear => true
  | _ => false

/-- The name of the instance that is found under a host name. -/
def holder? (r : Roster) (host : String) : Option String := (r.byHostname? host).map Instance.name

private theorem bears_perform (r : Roster) {op : Op} {host : String}
    (hop : op.brings? host = none) (name : String) :
    (r.perform op).bears host name = (r.bears host name && !op.unseats name) := by
  cases op with
  | upsert record =>
    have hr : record.hostname ≠ some host := by simpa [Op.brings?] using hop
    rw [perform, bears_upsert r record hr, Op.unseats, bne_comm]
    cases hh : record.hostname <;> simp [bne]
  | insertPlaceholder key =>
    simp [perform, bears_insertPlaceholder, Op.unseats]
  | remove other =>
    simp only [perform, Op.unseats]
    cases hx : r.remove? other with
    | none =>
      have hg := (remove?_eq_none_iff r other).mp hx
      by_cases hn : other = name
      · subst hn
        simp [bears, hg]
      · simp [hn]
    | some x =>
      rw [Option.map_some, Option.getD_some, bears_rest hx, bne_comm]
      rfl
  | select other =>
    simp only [perform, select?, Op.unseats, Bool.not_false, Bool.and_true]
    split <;> rfl
  | clear => simp [perform, Op.unseats, bears, get?]
  | revise other f =>
    simp [perform, Op.unseats, bears_update r other fun i _ => f.hostname i]
  | reviseAll f => simp [perform, Op.unseats, bears_mapAll r f.hostname]

private theorem Consistent.perform {r : Roster} (h : r.Consistent) (op : Op) :
    (r.perform op).Consistent := by
  cases op with
  | upsert record => exact h.upsert record
  | insertPlaceholder key => exact h.insertPlaceholder key
  | remove name =>
    rw [Roster.perform]
    cases hx : r.remove? name with
    | none => exact h
    | some x => exact h.remove? hx
  | select name =>
    simp only [Roster.perform, select?]
    split
    · next hn => exact h.select hn
    · exact h
  | clear => exact Consistent.empty
  | revise name f => exact h.update name fun i _ => ⟨f.name i, f.hostname i⟩
  | reviseAll f => exact h.mapAll fun i => ⟨f.name i, f.hostname i⟩

/-- What a change does about a host name that it does not bring. -/
private theorem inherits_perform {r : Roster} (h : r.Indexed) {op : Op} {host : String}
    (hop : op.brings? host = none) : r.Inherits (r.perform op) host := by
  cases op with
  | upsert record => exact inherits_upsert h (by simpa [Op.brings?] using hop)
  | insertPlaceholder key => exact inherits_insertPlaceholder h host key
  | remove name =>
    rw [perform]
    cases hx : r.remove? name with
    | none => exact .refl h host
    | some x => exact inherits_remove? h hx host
  | select name =>
    simp only [perform, select?]
    split
    · exact inherits_select h host name
    · exact .refl h host
  | clear => exact inherits_empty host r
  | revise name f => exact inherits_update h host name fun i _ => f.hostname i
  | reviseAll f => exact inherits_mapAll h host f.hostname

private theorem holder_perform {r : Roster} {op : Op} {host name : String}
    (hop : op.brings? host = some name) : (r.perform op).holders.get? host = some name := by
  cases op with
  | upsert record =>
    obtain ⟨hr, rfl⟩ : record.hostname = some host ∧ record.name = name := by
      simpa [Op.brings?] using hop
    exact holder_upsert r hr
  | _ => cases hop

namespace Indexed

variable {r : Roster}

/-- Every change keeps the index complete. -/
theorem perform (h : r.Indexed) (op : Op) : (r.perform op).Indexed := by
  refine of_inherits (r := r) (h.consistent.perform op) fun host => ?_
  cases hop : op.brings? host with
  | none => exact .inr (inherits_perform h hop)
  | some name =>
    left
    rw [holder_perform hop]
    rfl

theorem performAll (h : r.Indexed) (ops : List Op) : (r.performAll ops).Indexed := by
  induction ops generalizing r with
  | nil => exact h
  | cons op ops ih => exact ih (h.perform op)

/-- What is found under a host name is the holder. -/
theorem byHostname?_eq_some_iff (h : r.Indexed) {host : String} {i : Instance} :
    r.byHostname? host = some i ↔
      r.holders.get? host = some i.name ∧ r.get? i.name = some i := by
  rw [byHostname?, Option.bind_eq_some_iff]
  constructor
  · rintro ⟨name, hl, hi⟩
    rw [h.consistent.named name i hi]
    exact ⟨hl, hi⟩
  · rintro ⟨hl, hi⟩
    exact ⟨i.name, hl, hi⟩

theorem holder?_eq (h : r.Indexed) (host : String) : r.holder? host = r.holders.get? host := by
  rw [holder?, byHostname?]
  cases hl : r.holders.get? host with
  | none => rfl
  | some name =>
    obtain ⟨i, hi, -⟩ := h.consistent.held host name hl
    simp [hi, h.consistent.named name i hi]

private theorem head?_filter_bears (h : r.Indexed) (host : String) {names : List String}
    (hm : ∀ n ∈ names, n ∈ r.order) :
    (names.filter (r.bears host)).head? =
      ((names.filterMap r.get?).find? fun i => i.hostname == some host).map Instance.name := by
  induction names with
  | nil => rfl
  | cons n names ih =>
    obtain ⟨i, hi⟩ := h.consistent.exists_of_mem (hm n List.mem_cons_self)
    have hname := h.consistent.named n i hi
    have hrest := ih fun m hmem => hm m (List.mem_cons_of_mem n hmem)
    rw [List.filterMap_cons, hi]
    cases hb : i.hostname == some host <;> simp [bears, hi, hb, hname, hrest]

/-- The first that has a host name is the first instance in display order that has it. -/
theorem head?_bearers (h : r.Indexed) (host : String) :
    (r.bearers host).head? =
      (r.instances.find? fun i => i.hostname == some host).map Instance.name :=
  h.head?_filter_bears host fun _ hm => hm

end Indexed

/-- After any sequence of changes a host name is found exactly if an instance that is there has it,
and what is found has it. With the next change the instance to which that brings the host name
becomes the holder. Without such an instance the holder stays, unless it is taken out or gets
another host name; then the first instance in display order that has the host name is next. -/
theorem byHostname?_performAll (ops : List Op) (host : String) :
    let r := ({} : Roster).performAll ops
    ((r.byHostname? host).isSome = true ↔ ∃ name i, r.get? name = some i ∧ i.hostname = some host) ∧
    (∀ i, r.byHostname? host = some i → r.get? i.name = some i ∧ i.hostname = some host) ∧
    ∀ op : Op, (r.perform op).holder? host =
      match op.brings? host, r.holder? host with
      | some name, _ => some name
      | none, some name =>
        if op.unseats name then
          ((r.perform op).instances.find? fun i => i.hostname == some host).map Instance.name
        else some name
      | none, none => none := by
  intro r
  have h : r.Indexed := Indexed.empty.performAll ops
  have hfound : ∀ i, r.byHostname? host = some i →
      r.get? i.name = some i ∧ i.hostname = some host := by
    intro i hi
    obtain ⟨hl, hg⟩ := h.byHostname?_eq_some_iff.mp hi
    obtain ⟨j, hj, hhost⟩ := h.consistent.held host i.name hl
    rw [hg] at hj
    cases hj
    exact ⟨hg, hhost⟩
  refine ⟨⟨?_, ?_⟩, hfound, ?_⟩
  · intro hs
    obtain ⟨i, hi⟩ := Option.isSome_iff_exists.mp hs
    exact ⟨i.name, i, hfound i hi⟩
  · rintro ⟨name, i, hi, hhost⟩
    have hf := h.found host name (bears_iff.mpr ⟨i, hi, hhost⟩)
    rwa [← h.holder?_eq, holder?, Option.isSome_map] at hf
  intro op
  have ht := h.perform op
  rw [ht.holder?_eq, h.holder?_eq, ← ht.head?_bearers]
  cases hop : op.brings? host with
  | some name => exact holder_perform hop
  | none =>
    have hi := inherits_perform h hop
    cases hl : r.holders.get? host with
    | none =>
      have hb : (r.perform op).bearers host = [] :=
        List.sublist_nil.mp (h.bearers_eq_nil hl ▸ hi.bearers)
      simp [hi.holder, hl, hb]
    | some name =>
      have hb := bears_perform r hop name
      rw [h.bears_of_holder hl, Bool.true_and] at hb
      rw [hi.holder, hl]
      cases hu : op.unseats name <;>
        simp [Option.filter_some, ht.consistent.mem_bearers_iff, hb, hu]

end TermSync.Roster
