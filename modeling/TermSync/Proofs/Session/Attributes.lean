import TermSync.Proofs.Session.Lifetime
import TermSync.Proofs.Session.Telling

/-!
# What is known of an instance

Records and reports tell about an instance, and the last one that has something to say about an
attribute wins: a record that does not carry a field leaves it as it is, and so does a report of
another kind. An instance that comes in begins with nothing known of it, whatever brings it in, and
whoever went by its name before.

Main statements: `known_respond` and `known_arrival` (what a response tells), `profile_of_lifetime`
and `profile_eq_latest`.
-/

/-! ## What reports tell -/

namespace TermSync.Session.News

/-- The state of the terminal's connection, if that is what is reported. -/
def status? : News → Option String
  | .status text => some text
  | _ => none

/-- Memory and processor usage, if that is what is reported. -/
def usage? : News → Option (String × String)
  | .usage mem cpu => some (mem, cpu)
  | _ => none

/-- Whether the instance manages the swarm, if that is what is reported. -/
def manager? : News → Option Bool
  | .manager held => some held
  | _ => none

/-- Whether the instance manages the cluster, if that is what is reported. -/
def k8sManager? : News → Option Bool
  | .k8sManager held => some held
  | _ => none

/-- The ports of the instance, if that is what is reported. -/
def ports? : News → Option (List UInt16)
  | .ports list => some list
  | _ => none

/-- The ports of the swarm, if that is what is reported. -/
def swarmPorts? : News → Option (List UInt16)
  | .swarmPorts list => some list
  | _ => none

end TermSync.Session.News

/-! ## Profiles -/

namespace TermSync.Roster

open Session (News)

/-- All that records and reports tell about an instance. -/
structure Profile where
  ip : Option String := none
  hostname : Option String := none
  proxyHost : Option String := none
  sessionId : Option String := none
  image : Option String := none
  kind : Option String := none
  mem : String := ""
  cpu : String := ""
  isManager : Bool := false
  isK8sManager : Bool := false
  ports : List UInt16 := []
  swarmPorts : List UInt16 := []
  status : Option String := none
deriving DecidableEq, Repr

/-- What is known of an instance. -/
def Instance.profile (i : Instance) : Profile where
  ip := i.ip
  hostname := i.hostname
  proxyHost := i.proxyHost
  sessionId := i.sessionId
  image := i.image
  kind := i.kind
  mem := i.mem
  cpu := i.cpu
  isManager := i.isManager
  isK8sManager := i.isK8sManager
  ports := i.ports
  swarmPorts := i.swarmPorts
  status := i.status

section

variable {α β : Type}

/-- The last value that any of several things has. -/
def last? (f : α → Option β) (xs : List α) : Option β := (xs.filterMap f).getLast?

@[simp] theorem last?_nil (f : α → Option β) : last? f [] = none := rfl

@[simp] theorem last?_singleton (f : α → Option β) (x : α) : last? f [x] = f x := by
  unfold last?
  cases h : f x <;> simp [h]

theorem last?_append (f : α → Option β) (xs ys : List α) :
    last? f (xs ++ ys) = (last? f ys).or (last? f xs) := by
  rw [last?, List.filterMap_append, List.getLast?_append]
  rfl

end

namespace Profile

/-- What is known after further records and reports: the last one that has something to say about an
attribute wins. -/
def after (p : Profile) (records : List Record) (reports : List News) : Profile where
  ip := (last? Record.ip records).or p.ip
  hostname := (last? Record.hostname records).or p.hostname
  proxyHost := (last? Record.proxyHost records).or p.proxyHost
  sessionId := (last? Record.sessionId records).or p.sessionId
  image := (last? Record.image records).or p.image
  kind := (last? Record.kind records).or p.kind
  mem := ((last? News.usage? reports).map Prod.fst).getD p.mem
  cpu := ((last? News.usage? reports).map Prod.snd).getD p.cpu
  isManager := (last? News.manager? reports).getD p.isManager
  isK8sManager := (last? News.k8sManager? reports).getD p.isK8sManager
  ports := (last? News.ports? reports).getD p.ports
  swarmPorts := (last? News.swarmPorts? reports).getD p.swarmPorts
  status := (last? News.status? reports).or p.status

/-- What is known after records and reports of something of which nothing was known. -/
def latest (records : List Record) (reports : List News) : Profile := after {} records reports

/-- Further records and reports win over earlier ones. -/
theorem after_after (p : Profile) (records more : List Record) (reports others : List News) :
    (p.after records reports).after more others =
      p.after (records ++ more) (reports ++ others) := by
  have hgetD {α β : Type} (a b : Option α) (f : α → β) (d : β) :
      ((a.or b).map f).getD d = (a.map f).getD ((b.map f).getD d) := by cases a <;> rfl
  have hgetD' {α : Type} (a b : Option α) (d : α) : (a.or b).getD d = a.getD (b.getD d) := by
    cases a <;> rfl
  simp only [after, last?_append, Option.or_assoc, hgetD, hgetD']

end Profile

theorem Instance.profile_merge (i : Instance) (record : Record) :
    (i.merge record).profile = i.profile.after [record] [] := by
  simp [Instance.profile, Instance.merge, Instance.absorb, Profile.after]

theorem Instance.profile_ofRecord (record : Record) :
    (Instance.ofRecord record).profile = Profile.after {} [record] [] := by
  simp [Instance.profile, Instance.ofRecord, Instance.absorb, Profile.after]

theorem Instance.profile_applyTo (n : News) (i : Instance) :
    (n.applyTo i).profile = i.profile.after [] [n] := by
  cases n <;> rfl

/-- What an instance holds is not part of what is known of it. -/
theorem Instance.profile_of_facts {i j : Instance} (h : i.facts = j.facts) :
    i.profile = j.profile := by
  have hp : i.facts.profile = j.facts.profile := congrArg profile h
  exact hp

end TermSync.Roster

/-! ## Records and reports in a run -/

namespace TermSync.Session

open Roster (Instance Profile Record SameFacts)

namespace Act

/-- The records about an instance that an act merges. -/
def records (name : String) : Act → List Record
  | .learn record => if record.name = name then [record] else []
  | _ => []

/-- The reports about an instance that an act takes. -/
def reports (name : String) : Act → List News
  | .note n news => if n = name then [news] else []
  | _ => []

end Act

namespace Stimulus

/-- The records about an instance that a stimulus carries, in order. -/
def records (name : String) : Stimulus → List Record
  | .bootstrap (.ok r) => (r.instances.map Prod.snd).filter fun record => record.name = name
  | .inbound (.instanceNew record) => if record.name = name then [record] else []
  | .event (.created _ (.ok record)) => if record.name = name then [record] else []
  | _ => []

/-- The reports about an instance that a stimulus brings. -/
def reports (name : String) : Stimulus → List News
  | .inbound (.terminalStatus n text) => if n = name then [.status text] else []
  | .inbound (.instanceStats r) => if r.instanceName = name then [.usage r.mem r.cpu] else []
  | .inbound (.swarmStatus r) => if r.instanceName = name then [.manager r.isManager] else []
  | .inbound (.k8sStatus r) => if r.instanceName = name then [.k8sManager r.isManager] else []
  | .inbound (.dockerPorts r) => if r.instanceName = name then [.ports r.ports] else []
  | .inbound (.swarmPorts r) =>
    (r.instances.filter fun n => n = name).map fun _ => .swarmPorts r.ports
  | _ => []

end Stimulus

namespace State

variable {s : State} {name : String}

private theorem flatMap_ite {α β : Type} (p : α → Prop) [DecidablePred p] (f : α → β)
    (xs : List α) : (xs.flatMap fun x => if p x then [f x] else []) = (xs.filter p).map f := by
  induction xs with
  | nil => rfl
  | cons x xs ih => by_cases hp : p x <;> simp [hp, ih]

/-- What is told about a stimulus is all that acts have to tell. -/
private theorem flatMap_tellings {β : Type} {f : Act → List β}
    (hf : ∀ a, a.tells = false → f a = []) (ha : s.isAlive = true) (x : Stimulus) :
    (s.acts x).flatMap f = x.tellings.flatMap f := by
  rw [← tellings_eq ha x]
  induction s.acts x with
  | nil => rfl
  | cons a as ih =>
    cases ht : a.tells with
    | true => rw [List.filter_cons_of_pos ht, List.flatMap_cons, List.flatMap_cons, ih]
    | false => rw [List.filter_cons_of_neg (by simp [ht]), List.flatMap_cons, hf a ht, ih]; rfl

/-- The records that are merged in response to a stimulus are those that it carries. -/
theorem records_acts (ha : s.isAlive = true) (name : String) (x : Stimulus) :
    (s.acts x).flatMap (Act.records name) = x.records name := by
  have hmute : ∀ a : Act, a.tells = false → a.records name = [] := by
    intro a ht
    cases a <;> first | rfl | cases ht
  rw [flatMap_tellings hmute ha]
  unfold Stimulus.tellings Stimulus.records
  split
  · next r =>
    have hfilter := List.filter_map (f := Prod.snd) (l := r.instances)
      (p := fun record : Record => decide (record.name = name))
    rw [List.flatMap_map]
    exact (flatMap_ite (fun entry : String × Record => entry.2.name = name) Prod.snd
      r.instances).trans hfilter.symm
  all_goals simp [Act.records]

/-- The reports that are taken in response to a stimulus are those that it brings. -/
theorem reports_acts (ha : s.isAlive = true) (name : String) (x : Stimulus) :
    (s.acts x).flatMap (Act.reports name) = x.reports name := by
  have hmute : ∀ a : Act, a.tells = false → a.reports name = [] := by
    intro a ht
    cases a <;> first | rfl | cases ht
  rw [flatMap_tellings hmute ha]
  unfold Stimulus.tellings Stimulus.reports
  split
  case h_12 r =>
    rw [List.flatMap_map]
    exact flatMap_ite (· = name) (fun _ => News.swarmPorts r.ports) r.instances
  all_goals simp [Act.reports, List.flatMap_map]

/-! ## Acts -/

/-- What is known of an instance, if it is there. -/
def known (s : State) (name : String) : Profile :=
  ((s.roster.get? name).map Instance.profile).getD {}

theorem known_of_get? {i : Instance} (h : s.roster.get? name = some i) :
    s.known name = i.profile := by
  rw [known, h]
  rfl

private theorem known_of_sameFacts {t : State} (h : s.roster.SameFacts t.roster) :
    t.known name = s.known name := by
  have hk := h.known name
  unfold known
  cases hi : s.roster.get? name with
  | none =>
    rw [hi, Option.map_none, Option.map_eq_none_iff] at hk
    rw [hk]
  | some i =>
    rw [hi, Option.map_some, Option.map_eq_some_iff] at hk
    obtain ⟨j, hj, he⟩ := hk
    rw [hj]
    exact Instance.profile_of_facts he

private theorem known_learned (s : State) (record : Record) :
    (s.roster.learned record).profile = (s.known record.name).after [record] [] := by
  unfold Roster.learned known
  cases s.roster.get? record.name with
  | none => exact Instance.profile_ofRecord record
  | some i => exact Instance.profile_merge i record

/-- What an act tells about an instance is known from then on. A report needs the instance to be
there. -/
theorem known_perform (s : State) {a : Act} (hr : a.removes name = false)
    (hn : a.reports name = [] ∨ s.roster.contains name = true) :
    (s.perform a).state.known name =
      (s.known name).after (a.records name) (a.reports name) := by
  cases a with
  | learn record =>
    show _ = (s.known name).after (if record.name = name then [record] else []) []
    rw [known, perform, Roster.get?_upsert]
    by_cases he : record.name = name
    · subst he
      rw [if_pos rfl, if_pos rfl]
      exact known_learned s record
    · rw [if_neg he, if_neg (Ne.symm he)]
      rfl
  | expect key =>
    show _ = s.known name
    rw [known, perform, Roster.get?_insertPlaceholder]
    by_cases he : name = key
    · subst he
      rw [if_pos rfl]
      exact known_learned s (Record.named name)
    · rw [if_neg he]
      rfl
  | forget n =>
    have he : name ≠ n := Ne.symm (by simpa [Act.removes] using hr)
    rw [known, perform, get?_forget, if_neg he]
    rfl
  | route n data =>
    have hroute : (s.perform (.route n data)).state.known name =
        known { s with roster := s.roster.announced n } name :=
      known_of_sameFacts (SameFacts.route s.roster n data)
    show _ = s.known name
    rw [hroute, known, Roster.get?_announced, known]
    by_cases he : name = n
    · subst he
      rw [if_pos rfl]
      cases s.roster.get? name <;> rfl
    · rw [if_neg he]
  | note n news =>
    show _ = (s.known name).after [] (if n = name then [news] else [])
    rw [known, perform, update, Roster.get?_update]
    by_cases he : n = name
    · subst he
      rw [Act.reports, if_pos rfl] at hn
      have hi : ∃ i, s.roster.get? n = some i :=
        Option.isSome_iff_exists.mp (hn.resolve_left (by simp))
      obtain ⟨i, hi⟩ := hi
      rw [if_pos rfl, if_pos rfl, hi, known_of_get? hi]
      exact Instance.profile_applyTo news i
    · rw [if_neg he, if_neg (Ne.symm he)]
      rfl
  | terminate => cases hr
  | _ => exact known_of_sameFacts (sameFacts_perform s rfl)

/-- What acts tell is known from then on, if nothing takes the instance out. -/
theorem known_performAll (h : s.Coherent) (ha : s.isAlive = true) {as : List Act}
    (hr : ∀ a ∈ as, a.removes name = false)
    (hn : (∀ a ∈ as, a.reports name = []) ∨ s.roster.contains name = true) :
    (s.performAll as).state.known name =
      (s.known name).after (as.flatMap (Act.records name)) (as.flatMap (Act.reports name)) := by
  induction as generalizing s with
  | nil => rfl
  | cons a as ih =>
    have hra := hr a List.mem_cons_self
    have hfirst := known_perform s hra (hn.imp_left fun hn => hn a List.mem_cons_self)
    have hstay : s.roster.contains name = true →
        (s.perform a).state.roster.contains name = true := by
      intro hc
      rw [contains_perform h ha, hc, hra]
      rfl
    have hne : a ≠ .terminate := by
      rintro rfl
      cases hra
    have hrest := ih (h.perform a) ((isAlive_perform s hne).trans ha)
      (fun b hb => hr b (List.mem_cons_of_mem a hb))
      (hn.imp (fun hn b hb => hn b (List.mem_cons_of_mem a hb)) hstay)
    rw [performAll_cons, Step.andThen, hrest, hfirst, Profile.after_after, List.flatMap_cons,
      List.flatMap_cons]

/-! ## Responses -/

/-- What a stimulus tells about an instance that is there and stays is known from then on. -/
theorem known_respond (h : s.Coherent) (hq : s.Quiet) (hc : s.roster.contains name = true)
    {x : Stimulus} (hx : x.removes name = false) :
    (s.respond x).state.known name = (s.known name).after (x.records name) (x.reports name) := by
  have ha := isAlive_of_contains hq hc
  rw [respond_eq h.roster, ← records_acts ha name x, ← reports_acts ha name x]
  exact known_performAll h ha (fun a hm => removes_of_mem_acts hx hm) (.inr hc)

/-- Nothing that brings an instance in is a report. -/
private theorem reports_of_introduces {x : Stimulus} (hx : name ∈ x.introduces) (n : String) :
    x.reports n = [] := by
  unfold Stimulus.introduces at hx
  split at hx <;> first | rfl | cases hx

/-- An instance that comes in begins with what the records tell that come with it. -/
theorem known_arrival (h : s.Coherent) {x : Stimulus} (hx : name ∈ s.arrivals x) :
    (s.respond x).state.known name = .latest (x.records name) (x.reports name) := by
  have ha := isAlive_of_arrivals hx
  have hintroduced : name ∈ x.introduces := by
    rw [arrivals, if_pos ha, List.mem_filter, List.mem_eraseDups] at hx
    exact hx.1
  have hnothing : ∀ y ∈ ([] : List Stimulus), y.removes name = false := by simp
  obtain ⟨as, bs, hdeeds, has, hnone, hbs⟩ := deeds_of_lifetime hx hnothing
  have hacts : s.acts x = as ++ bs := (List.append_nil _).symm.trans hdeeds
  have hforget : as.flatMap (Act.records name) = [] :=
    List.flatMap_eq_nil_iff.mpr fun a hm => by rw [has a hm]; rfl
  have hrecords : bs.flatMap (Act.records name) = x.records name := by
    rw [← records_acts ha name x, hacts, List.flatMap_append, hforget, List.nil_append]
  have hreports : bs.flatMap (Act.reports name) = [] := by
    have hall := reports_acts ha name x
    rw [reports_of_introduces hintroduced, hacts, List.flatMap_append] at hall
    exact (List.append_eq_nil_iff.mp hall).2
  have halive : (s.performAll as).state.isAlive = true :=
    (isAlive_performAll fun a hm => by rw [has a hm]; simp).trans ha
  have hknown := known_performAll (h.performAll as) halive hbs
    (.inl (List.flatMap_eq_nil_iff.mp hreports))
  have hblank : (s.performAll as).state.known name = {} := by
    rw [known, hnone]
    rfl
  rw [respond_eq h.roster, hacts, performAll_append, Profile.latest,
    reports_of_introduces hintroduced, ← hrecords, ← hreports, ← hblank]
  exact hknown

/-! ## Lifetimes -/

private theorem known_run (h : s.Coherent) (hq : s.Quiet) (hc : s.roster.contains name = true)
    {life : List Stimulus} (hl : ∀ y ∈ life, y.removes name = false) :
    (s.run life).state.known name =
      (s.known name).after (life.flatMap (Stimulus.records name))
        (life.flatMap (Stimulus.reports name)) := by
  induction life generalizing s with
  | nil => rfl
  | cons y life ih =>
    have hy := hl y List.mem_cons_self
    have hrest := ih (h.respond y) (quiet_respond h hq y) (contains_respond h hq hc hy) fun z hz =>
      hl z (List.mem_cons_of_mem y hz)
    rw [run_cons, Step.andThen, hrest, known_respond h hq hc hy, Profile.after_after,
      List.flatMap_cons, List.flatMap_cons]

/-- What is known of an instance is what was told since it came in. -/
theorem profile_of_lifetime (h : s.Coherent) (hq : s.Quiet) {x : Stimulus}
    (hx : name ∈ s.arrivals x) {life : List Stimulus} (hl : ∀ y ∈ life, y.removes name = false) :
    (s.run (x :: life)).state.known name =
      .latest ((x :: life).flatMap (Stimulus.records name))
        ((x :: life).flatMap (Stimulus.reports name)) := by
  have hrest := known_run (h.respond x) (quiet_respond h hq x) (contains_of_arrivals h hq hx) hl
  rw [run_cons, Step.andThen, hrest, known_arrival h hx, Profile.latest, Profile.after_after,
    List.flatMap_cons, List.flatMap_cons]
  rfl

/-- In every state that a run reaches, what is known of an instance is what the records and reports
have told since it came in: of each attribute the last value that was carried, or none. A stimulus
that neither carries a record of it nor reports about it changes nothing of this, unless it takes
the instance out. -/
theorem profile_eq_latest (id : String) (setup : Setup) (xs : List Stimulus) {name : String}
    {i : Instance} (hi : ((initial id setup).run xs).state.roster.get? name = some i) :
    (∃ earlier x life, xs = earlier ++ x :: life ∧
      name ∈ ((initial id setup).run earlier).state.arrivals x ∧
      (∀ y ∈ life, y.removes name = false) ∧
      i.profile = .latest ((x :: life).flatMap (Stimulus.records name))
        ((x :: life).flatMap (Stimulus.reports name))) ∧
    ∀ y, y.records name = [] → y.reports name = [] → y.removes name = false →
      ∃ j, (((initial id setup).run xs).state.respond y).state.roster.get? name = some j ∧
        j.profile = i.profile := by
  have hc := Roster.contains_of_get? hi
  constructor
  · rcases exists_lifetime (Coherent.initial id setup) (quiet_initial id setup) hc with
      ⟨hthere, -⟩ | ⟨earlier, x, life, rfl, hx, hl⟩
    · cases hthere
    · have h := coherent_run id setup earlier
      have hq := quiet_run id setup earlier
      refine ⟨earlier, x, life, rfl, hx, hl, ?_⟩
      rw [← profile_of_lifetime h hq hx hl, ← known_of_get? hi, run_append]
      rfl
  · intro y hrecords hreports hy
    have h := coherent_run id setup xs
    have hq := quiet_run id setup xs
    obtain ⟨j, hj⟩ := Option.isSome_iff_exists.mp (contains_respond h hq hc hy)
    have hknown := known_respond h hq hc hy
    rw [hrecords, hreports, known_of_get? hj, known_of_get? hi] at hknown
    exact ⟨j, hj, hknown⟩

/-- An instance that was taken out comes in again; its image is told twice, its address once, and
ports are reported of two instances, one of them not known. -/
theorem profile_eq_latest_after_return :
    let xs : List Stimulus :=
      [.inbound (.terminalOut "a" [104]),
        .inbound (.instanceStats { instanceName := "a", mem := "1 MiB", cpu := "2 %" }),
        .inbound (.instanceDelete "a"),
        .inbound (.swarmPorts { instances := ["a", "b"], ports := [80] }),
        .inbound (.instanceNew { name := "a", ip := some "10.0.0.1", image := some "alpine" }),
        .inbound (.swarmPorts { instances := ["b", "a"], ports := [443] }),
        .bootstrap (.ok { instances := [("k", { name := "a", image := some "debian" })] })]
    let s := ((initial "s1" {}).run xs).state
    ∃ i, s.roster.get? "a" = some i ∧
      i.profile = { ip := some "10.0.0.1", image := some "debian", swarmPorts := [443] } ∧
      (∃ earlier x life, xs = earlier ++ x :: life ∧
        "a" ∈ ((initial "s1" {}).run earlier).state.arrivals x ∧
        (∀ y ∈ life, y.removes "a" = false) ∧
        i.profile = .latest ((x :: life).flatMap (Stimulus.records "a"))
          ((x :: life).flatMap (Stimulus.reports "a"))) ∧
      ∀ y, y.records "a" = [] → y.reports "a" = [] → y.removes "a" = false →
        ∃ j, (s.respond y).state.roster.get? "a" = some j ∧ j.profile = i.profile := by
  intro xs
  have hprofile : (((initial "s1" {}).run xs).state.roster.get? "a").map Instance.profile =
      some { ip := some "10.0.0.1", image := some "debian", swarmPorts := [443] } := by
    decide +kernel
  obtain ⟨i, hi, hp⟩ := Option.map_eq_some_iff.mp hprofile
  exact ⟨i, hi, hp, profile_eq_latest "s1" {} xs hi⟩

end State
end TermSync.Session
