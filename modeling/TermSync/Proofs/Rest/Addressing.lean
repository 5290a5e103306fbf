import Mathlib.Data.List.DropRight
import TermSync.Proofs.Rest.Endpoint
import TermSync.Proofs.Rest.Path

/-!
# Which instance a request addresses

A name is written at the end of a URL as it is. If it is a segment (`Target.IsSegment`), the target
is that of the session's instances, extended by the encoded name: instances are told apart as far as
their encoded names are, and none is taken for the session. Any other name may be read as something
else: what follows a `#` in it is not sent, and dots may lead to the session itself.

Main statements: `Target.ofChars?_sessions`, `Target.ofRest_append`, `Target.ofRest_ne` and
`Request.targets_apart`.
-/

namespace TermSync.Rest.Target

/-! ## URLs -/

private theorem dropWhile_append_cons {p : Char → Bool} {c : Char} (hc : p c = false)
    (as bs : List Char) : (as ++ c :: bs).dropWhile p = as.dropWhile p ++ c :: bs := by
  induction as with
  | nil => simp [hc]
  | cons a as ih => cases ha : p a <;> simp [ha, ih]

private theorem takeWhile_append_cons {p : Char → Bool} {c : Char} (hc : p c = false)
    (as bs : List Char) : (as ++ c :: bs).takeWhile p = as.takeWhile p := by
  induction as with
  | nil => simp [hc]
  | cons a as ih => cases ha : p a <;> simp [ha, ih]

/-- A text without the characters that are taken out of a URL. -/
def kept (cs : List Char) : List Char := cs.filter fun c => !isIgnored c

/-- The end of a URL without what does not count in it. -/
def cleanedEnd (cs : List Char) : List Char := kept (cs.rdropWhile isTrimmed)

private theorem isIgnored_of_not_isTrimmed {c : Char} (h : isTrimmed c = false) :
    isIgnored c = false := by
  refine Bool.eq_false_iff.mpr fun hc => ?_
  simp only [isIgnored, Bool.or_eq_true, beq_iff_eq] at hc
  rcases hc with (rfl | rfl) | rfl
  · cases h
  · cases h
  · cases h

private theorem rdropWhile_append_cons {p : Char → Bool} {c : Char} (hc : p c = false)
    (as bs : List Char) : (as ++ c :: bs).rdropWhile p = as ++ c :: bs.rdropWhile p := by
  rw [List.rdropWhile, List.reverse_append, List.reverse_cons, List.append_assoc,
    List.singleton_append, dropWhile_append_cons hc, List.reverse_append, List.reverse_cons,
    List.reverse_reverse, List.append_assoc]
  rfl

/-- Nothing is trimmed before a character that counts. -/
theorem cleanedEnd_append_cons {c : Char} (hc : isTrimmed c = false) (as bs : List Char) :
    cleanedEnd (as ++ c :: bs) = kept as ++ c :: cleanedEnd bs := by
  have hkept : isIgnored c = false := isIgnored_of_not_isTrimmed hc
  rw [cleanedEnd, rdropWhile_append_cons hc, kept, List.filter_append,
    List.filter_cons_of_pos (by simp [hkept])]
  rfl

theorem cleaned_append_cons {c : Char} (hc : isTrimmed c = false) (as bs : List Char) :
    cleaned (as ++ c :: bs) = kept (as.dropWhile isTrimmed) ++ c :: cleanedEnd bs := by
  rw [← cleanedEnd_append_cons hc, ← dropWhile_append_cons hc]
  rfl

/-- What is trimmed at the end are blanks. -/
theorem exists_kept_eq (cs : List Char) :
    ∃ blank, kept cs = cleanedEnd cs ++ blank ∧ ∀ c ∈ blank, isTrimmed c = true := by
  refine ⟨kept (cs.rtakeWhile isTrimmed), ?_, fun c hc => ?_⟩
  · rw [cleanedEnd, kept, kept, kept, ← List.filter_append, List.rdropWhile_append_rtakeWhile]
  · exact List.mem_rtakeWhile_imp (List.mem_of_mem_filter hc)

namespace IsSegment

variable {cs : List Char} (h : IsSegment cs)
include h

theorem kept_eq : kept cs = cs :=
  List.filter_eq_self.mpr fun c hc => by simp [h.isIgnored_eq c hc]

theorem cleanedEnd_eq : cleanedEnd cs = cs := by
  have htrim : cs.rdropWhile isTrimmed = cs := by
    refine List.rdropWhile_eq_self_iff.mpr fun hne => ?_
    simp [h.ended _ (List.getLast?_eq_some_getLast hne)]
  rw [cleanedEnd, htrim, h.kept_eq]

end IsSegment

private theorem afterScheme?_append (scheme : List Char) {cs : List Char}
    (h : scheme.length < cs.length) (more : List Char) :
    afterScheme? scheme (cs ++ more) = (afterScheme? scheme cs).map (· ++ more) := by
  have hne : cs.drop scheme.length ≠ [] := by
    rw [← List.length_pos_iff, List.length_drop]
    omega
  obtain ⟨c, rest, hrest⟩ := List.exists_cons_of_ne_nil hne
  rw [afterScheme?, afterScheme?, List.take_append_of_le_length h.le,
    List.drop_append_of_le_length h.le, hrest]
  split
  · by_cases hc : c = ':'
    · subst hc
      rfl
    · simp [hc]
  · rfl

private theorem mem_of_afterScheme? {scheme cs rest : List Char}
    (h : afterScheme? scheme cs = some rest) : ∀ c ∈ rest, c ∈ cs := by
  rw [afterScheme?] at h
  split at h
  · split at h
    · next hdrop =>
      obtain rfl := Option.some.inj h
      exact fun c hc => List.mem_of_mem_drop (hdrop ▸ List.mem_cons_of_mem _ hc)
    · cases h
  · cases h

/-- The scheme stands in the first characters. -/
theorem afterWebScheme?_append {cs : List Char} (h : 6 ≤ cs.length) (more : List Char) :
    afterWebScheme? (cs ++ more) = (afterWebScheme? cs).map (· ++ more) := by
  have hhttp := afterScheme?_append "http".toList (show 4 < cs.length by omega) more
  have hhttps := afterScheme?_append "https".toList (show 5 < cs.length by omega) more
  rw [afterWebScheme?, afterWebScheme?, hhttp, hhttps]
  cases afterScheme? "http".toList cs with
  | none => rfl
  | some rest => rfl

theorem mem_of_afterWebScheme? {cs rest : List Char} (h : afterWebScheme? cs = some rest) :
    ∀ c ∈ rest, c ∈ cs := by
  rw [afterWebScheme?] at h
  cases hhttp : afterScheme? "http".toList cs with
  | some r =>
    rw [hhttp] at h
    obtain rfl := Option.some.inj h
    exact mem_of_afterScheme? hhttp
  | none =>
    rw [hhttp] at h
    exact mem_of_afterScheme? h

/-- The rest of a URL after the authority, which must not be empty. -/
def afterAuthority? (cs : List Char) : Option (List Char) :=
  match cs.takeWhile fun c => !endsAuthority c with
  | [] => none
  | _ => some (cs.dropWhile fun c => !endsAuthority c)

theorem ofChars?_eq (cs : List Char) :
    ofChars? cs = ((afterWebScheme? (cleaned cs)).bind fun rest =>
      afterAuthority? (rest.dropWhile isSlash)).map ofRest := by
  rw [ofChars?]
  cases afterWebScheme? (cleaned cs) with
  | none => rfl
  | some rest =>
    simp only [Option.bind_some, afterAuthority?]
    cases (rest.dropWhile isSlash).takeWhile fun c => !endsAuthority c with
    | nil => rfl
    | cons c cs => rfl

/-- What follows a slash is no part of the authority. -/
theorem afterAuthority?_append_slash (as : List Char) :
    (∀ cs, afterAuthority? (as ++ '/' :: cs) = none) ∨
    ∃ c rest, endsAuthority c = true ∧ (∀ d ∈ c :: rest, d ∈ as ++ ['/']) ∧
      ∀ cs, afterAuthority? (as ++ '/' :: cs) = some (c :: (rest ++ cs)) := by
  have htake := takeWhile_append_cons (p := fun c => !endsAuthority c) (c := '/') rfl as
  have hdrop := dropWhile_append_cons (p := fun c => !endsAuthority c) (c := '/') rfl as
  simp only [afterAuthority?, htake, hdrop]
  cases as.takeWhile fun c => !endsAuthority c with
  | nil => exact .inl fun _ => rfl
  | cons c cs =>
    have hsublist := List.dropWhile_sublist (fun c => !endsAuthority c) (l := as)
    have hfirst := List.head?_dropWhile_not (fun c => !endsAuthority c) as
    cases hrest : as.dropWhile fun c => !endsAuthority c with
    | nil =>
      exact .inr ⟨'/', [], rfl, fun d hd => List.mem_append_right as hd, fun _ => rfl⟩
    | cons d rest =>
      rw [hrest] at hsublist hfirst
      refine .inr ⟨d, rest ++ ['/'], by simpa using hfirst, fun e he => ?_, fun ds => ?_⟩
      · rcases List.mem_append.mp (show e ∈ (d :: rest) ++ ['/'] from he) with h | h
        · exact List.mem_append_left _ (hsublist.subset h)
        · exact List.mem_append_right _ h
      · rw [List.append_assoc]
        rfl

/-- What stands before the last letter of `/sessions` is cleaned by itself, and is longer than a
scheme. -/
private theorem exists_cleaned_eq (origin : List Char) : ∃ front, 6 ≤ front.length ∧
    (∀ c ∈ front, c ∈ origin ++ "/sessions".toList) ∧
    ∀ cs, cleaned (origin ++ "/sessions".toList ++ '/' :: cs) =
      front ++ 's' :: '/' :: cleanedEnd cs := by
  refine ⟨kept (origin.dropWhile isTrimmed) ++ "/session".toList, by simp, fun c hc => ?_,
    fun cs => ?_⟩
  · rcases List.mem_append.mp hc with h | h
    · exact List.mem_append_left _
        ((List.dropWhile_sublist _).subset (List.mem_of_mem_filter h))
    · exact List.mem_append_right _ (List.mem_append_left ['s'] h)
  · have htrim : (origin ++ "/sessions".toList).dropWhile isTrimmed =
        origin.dropWhile isTrimmed ++ "/sessions".toList :=
      dropWhile_append_cons rfl origin "sessions".toList
    have hword : "/sessions".toList.filter (fun c => !isIgnored c) = "/session".toList ++ ['s'] :=
      rfl
    rw [cleaned_append_cons rfl, htrim, kept, List.filter_append, hword, ← kept,
      ← List.append_assoc, List.append_assoc _ ['s']]
    rfl

/-- The authority ends before what follows `/sessions`: it depends on the origin alone. -/
theorem ofChars?_sessions (origin : List Char) :
    (∀ cs, ofChars? (origin ++ "/sessions".toList ++ '/' :: cs) = none) ∨
    ∃ c rest, endsAuthority c = true ∧ (∀ d ∈ c :: rest, d ∈ origin ++ "/sessions".toList) ∧
      ∀ cs, ofChars? (origin ++ "/sessions".toList ++ '/' :: cs) =
        some (ofRest (c :: (rest ++ cleanedEnd cs))) := by
  obtain ⟨front, hlength, hmem, hclean⟩ := exists_cleaned_eq origin
  simp only [ofChars?_eq, hclean, afterWebScheme?_append hlength]
  cases hrest : afterWebScheme? front with
  | none => exact .inl fun _ => rfl
  | some rest =>
    have hslashes (cs : List Char) : (rest ++ 's' :: '/' :: cs).dropWhile isSlash =
        rest.dropWhile isSlash ++ ['s'] ++ '/' :: cs := by
      rw [dropWhile_append_cons rfl, List.append_assoc]
      rfl
    simp only [Option.map_some, Option.bind_some, hslashes]
    rcases afterAuthority?_append_slash (rest.dropWhile isSlash ++ ['s']) with
      hnone | ⟨c, r, hc, hr, hsome⟩
    · exact .inl fun cs => by rw [hnone]; rfl
    · refine .inr ⟨c, r, hc, fun d hd => ?_, fun cs => by rw [hsome]; rfl⟩
      have hd := hr d hd
      rw [List.append_assoc] at hd
      rcases List.mem_append.mp hd with h | h
      · exact hmem d (mem_of_afterWebScheme? hrest d ((List.dropWhile_sublist _).subset h))
      · have hword : ['s', '/'] ⊆ "/sessions".toList := by decide
        exact List.mem_append_right _ (hword h)

/-! ## What follows the authority -/

/-- A target that goes on: with the query, if there is one, and otherwise with the path. -/
def extend (t : Target) (cs : List Char) : Target :=
  match t.query with
  | none => { t with path := t.path ++ encode pathReserved cs }
  | some q => { t with query := some (q ++ encode queryReserved cs) }

/-- The characters that are encoded where a target goes on. -/
def reserved (t : Target) : Char → Bool :=
  if t.query.isSome then queryReserved else pathReserved

theorem covers_reserved (t : Target) : Covers t.reserved := by
  rw [reserved]
  split
  · exact covers_queryReserved
  · exact covers_pathReserved

@[simp] theorem reserved_extend (t : Target) (cs : List Char) :
    (t.extend cs).reserved = t.reserved := by
  obtain ⟨path, query⟩ := t
  cases query with
  | none => rfl
  | some q => rfl

/-- A target goes on in two ways alike exactly if the encoded forms are alike. -/
theorem extend_inj {t : Target} {as bs : List Char} :
    t.extend as = t.extend bs ↔ encode t.reserved as = encode t.reserved bs := by
  obtain ⟨path, query⟩ := t
  cases query with
  | none => simp [extend, reserved]
  | some q => simp [extend, reserved]

private theorem takeWhile_of_notMem {d : Char} {cs : List Char} (h : d ∉ cs) :
    cs.takeWhile (· != d) = cs :=
  List.takeWhile_eq_self_iff.mpr fun _ hc => bne_iff_ne.mpr fun heq => h (heq ▸ hc)

theorem ofRest_of_notMem {cs : List Char} (hhash : '#' ∉ cs) (hmark : '?' ∉ cs) :
    ofRest cs = { path := normalPath cs, query := none } := by
  have hdrop : cs.dropWhile (· != '?') = [] :=
    List.dropWhile_eq_nil_iff.mpr fun c hc => bne_iff_ne.mpr fun heq => hmark (heq ▸ hc)
  simp only [ofRest, takeWhile_of_notMem hhash, takeWhile_of_notMem hmark, hdrop]

theorem ofRest_query {path query : List Char} (hhash : '#' ∉ path ++ '?' :: query)
    (hmark : '?' ∉ path) :
    ofRest (path ++ '?' :: query) =
      { path := normalPath path, query := some (encode queryReserved query) } := by
  have htake : (path ++ '?' :: query).takeWhile (· != '?') = path := by
    rw [takeWhile_append_cons rfl, takeWhile_of_notMem hmark]
  have hdrop : (path ++ '?' :: query).dropWhile (· != '?') = '?' :: query := by
    have hnil : path.dropWhile (· != '?') = [] :=
      List.dropWhile_eq_nil_iff.mpr fun c hc => bne_iff_ne.mpr fun heq => hmark (heq ▸ hc)
    rw [dropWhile_append_cons rfl, hnil, List.nil_append]
  simp only [ofRest, takeWhile_of_notMem hhash, htake, hdrop]

/-- What ends the authority is a slash, if it begins neither the query nor the fragment. -/
private theorem isSlash_of_endsAuthority {c : Char} (h : endsAuthority c = true) {cs : List Char}
    (hhash : '#' ∉ c :: cs) (hmark : '?' ∉ c :: cs) : isSlash c = true := by
  rw [List.mem_cons, not_or] at hhash hmark
  simpa [endsAuthority, Ne.symm hhash.1, Ne.symm hmark.1] using h

/-- A segment at the end of a URL extends the target of what stands before it. -/
theorem ofRest_append {c : Char} (hc : endsAuthority c = true) {before : List Char}
    (hhash : '#' ∉ c :: before) {cs : List Char} (h : IsSegment cs) :
    ofRest (c :: before ++ '/' :: cs) = (ofRest (c :: before ++ ['/'])).extend cs := by
  have hhashes (ds : List Char) (hds : '#' ∉ ds) : '#' ∉ c :: before ++ '/' :: ds := by
    simp only [List.mem_append, List.mem_cons, not_or] at hhash ⊢
    exact ⟨hhash, by decide, hds⟩
  by_cases hmark : '?' ∈ c :: before
  · obtain ⟨path, query, hsplit, hpath⟩ := List.eq_append_cons_of_mem hmark
    have hquery (ds : List Char) (hds : '#' ∉ ds) :
        ofRest (c :: before ++ '/' :: ds) =
          ⟨normalPath path, some (encode queryReserved (query ++ '/' :: ds))⟩ := by
      have hh := hhashes ds hds
      rw [hsplit, List.append_assoc, List.cons_append] at hh ⊢
      exact ofRest_query hh hpath
    have hencode : encode queryReserved (query ++ '/' :: cs) =
        encode queryReserved (query ++ ['/']) ++ encode queryReserved cs := by
      rw [← encode_append, List.append_assoc]
      rfl
    rw [hquery cs h.not_mem_hash, hquery [] List.not_mem_nil, hencode]
    rfl
  · have hslash : isSlash c = true := isSlash_of_endsAuthority hc hhash hmark
    have hpath (ds : List Char) (hds : IsSegment ds) :
        ofRest (c :: before ++ '/' :: ds) =
          ⟨joined (places before).reverse ++ '/' :: encode pathReserved ds, none⟩ := by
      have hmarks : '?' ∉ c :: before ++ '/' :: ds := by
        simp only [List.mem_append, List.mem_cons, not_or] at hmark ⊢
        exact ⟨hmark, by decide, hds.not_mem_mark⟩
      rw [ofRest_of_notMem (hhashes ds hds.not_mem_hash) hmarks, List.cons_append,
        normalPath_append hslash before hds]
    rw [hpath cs h, hpath [] isSegment_nil, extend]
    simp [encode]

/-- What lies below a URL has another target. -/
theorem ofRest_ne {c : Char} (hc : endsAuthority c = true) {cs : List Char} (hhash : '#' ∉ c :: cs)
    {blank : List Char} (hblank : ∀ d ∈ blank, isTrimmed d = true) {name : List Char}
    (hname : IsSegment name) :
    ofRest (c :: (cs ++ blank ++ '/' :: "instances".toList ++ '/' :: name)) ≠ ofRest (c :: cs) := by
  obtain ⟨more, hmore⟩ : ∃ more, more = blank ++ '/' :: "instances".toList ++ '/' :: name :=
    ⟨_, rfl⟩
  have hurl : cs ++ blank ++ '/' :: "instances".toList ++ '/' :: name = cs ++ more := by
    rw [hmore, List.append_assoc, List.append_assoc, List.append_assoc]
  have hnone {d : Char} (hd : isTrimmed d = false) (hword : d ∉ "/instances/".toList)
      (hdname : d ∉ name) : d ∉ more := by
    have hdblank : d ∉ blank := fun hmem => absurd (hblank d hmem) (by simp [hd])
    have hsplit : more = blank ++ ("/instances/".toList ++ name) := by
      rw [hmore, List.append_assoc]
      rfl
    rw [hsplit, List.mem_append, List.mem_append, not_or, not_or]
    exact ⟨hdblank, hword, hdname⟩
  have hmorehash : '#' ∉ more := hnone rfl (by decide) hname.not_mem_hash
  have hmoremark : '?' ∉ more := hnone rfl (by decide) hname.not_mem_mark
  have hhashes : '#' ∉ c :: cs ++ more := by
    rw [List.mem_append, not_or]
    exact ⟨hhash, hmorehash⟩
  intro heq
  by_cases hmark : '?' ∈ c :: cs
  · obtain ⟨path, query, hsplit, hpath⟩ := List.eq_append_cons_of_mem hmark
    rw [hurl, ← List.cons_append, hsplit, List.append_assoc, List.cons_append] at heq
    rw [hsplit, List.append_assoc, List.cons_append] at hhashes
    rw [hsplit] at hhash
    rw [ofRest_query hhashes hpath, ofRest_query hhash hpath, Target.mk.injEq, Option.some.injEq,
      encode_append, List.append_right_eq_self, hmore, encode_append] at heq
    cases (List.append_eq_nil_iff.mp heq.2).2
  · have hmarks : '?' ∉ c :: cs ++ more := by
      rw [List.mem_append, not_or]
      exact ⟨hmark, hmoremark⟩
    have hslash : isSlash c = true := isSlash_of_endsAuthority hc hhash hmark
    rw [hurl, ofRest_of_notMem hhash hmark, ← List.cons_append,
      ofRest_of_notMem hhashes hmarks, Target.mk.injEq, List.cons_append, ← hurl] at heq
    exact normalPath_ne hslash cs hblank hname heq.1

end TermSync.Rest.Target

namespace TermSync.Rest

open Target (IsSegment)

namespace Request

/-- What is left of the part of an instance's URL between the session and the name. -/
def instancesOf (session : String) : List Char :=
  Target.kept session.toList ++ '/' :: "instances".toList

/-- The targets of a session's requests, if its origin is a web address. -/
theorem exists_targets (server session : String) :
    (∀ name, (delete server session name).target? = none) ∨
    ∃ c rest, Target.endsAuthority c = true ∧
      ('#' ∉ server.toList → '#' ∉ c :: rest) ∧
      (∀ name, (delete server session name).target? =
        some (Target.ofRest (c :: (rest ++ instancesOf session) ++
          '/' :: Target.cleanedEnd name.toList))) ∧
      (describe server session).target? =
        some (Target.ofRest (c :: (rest ++ Target.cleanedEnd session.toList))) := by
  have hsession : (describe server session).url.toList =
      (trimSlashes server).toList ++ "/sessions".toList ++ '/' :: session.toList := by
    simp [describe, sessionUrl]
  have hinstance (name : String) : (delete server session name).url.toList =
      (trimSlashes server).toList ++ "/sessions".toList ++
        '/' :: (session.toList ++ '/' :: ("instances".toList ++ '/' :: name.toList)) := by
    simp [delete, instanceUrl, instancesUrl, sessionUrl]
  have hclean (name : List Char) :
      Target.cleanedEnd (session.toList ++ '/' :: ("instances".toList ++ '/' :: name)) =
        instancesOf session ++ '/' :: Target.cleanedEnd name := by
    rw [Target.cleanedEnd_append_cons rfl, Target.cleanedEnd_append_cons rfl, instancesOf,
      List.append_assoc]
    rfl
  simp only [target?, Target.ofUrl?, hsession, hinstance]
  rcases Target.ofChars?_sessions (trimSlashes server).toList with
    hnone | ⟨c, rest, hc, hmem, hsome⟩
  · exact .inl fun name => hnone _
  · refine .inr ⟨c, rest, hc, fun hhash hmemhash => ?_, fun name => ?_, hsome _⟩
    · rcases List.mem_append.mp (hmem _ hmemhash) with h | h
      · rw [toList_trimSlashes] at h
        exact hhash ((List.rdropWhile_prefix _ _).subset h)
      · revert h
        decide
    · rw [hsome, hclean, ← List.append_assoc, List.cons_append]

/-- The instances of a session have one target in common, which goes on with their names. What is
written after a name and a `#` is not sent, and no instance has the target of the session. -/
theorem exists_base {server session : String} (hserver : '#' ∉ server.toList)
    (hsession : '#' ∉ session.toList) :
    (∀ name, (delete server session name).target? = none) ∨
    ∃ base u : Target, (describe server session).target? = some u ∧
      ∀ name : String, IsSegment name.toList →
        (delete server session name).target? = some (base.extend name.toList) ∧
        (∀ more : String, (delete server session (name ++ "#" ++ more)).target? =
          some (base.extend name.toList)) ∧
        base.extend name.toList ≠ u := by
  rcases exists_targets server session with hnone | ⟨c, rest, hc, hrest, hdelete, hdescribe⟩
  · exact .inl hnone
  obtain ⟨blank, hkept, hblank⟩ := Target.exists_kept_eq session.toList
  have hclean : '#' ∉ Target.kept session.toList :=
    fun h => hsession (List.mem_of_mem_filter h)
  have hsent : '#' ∉ c :: (rest ++ Target.cleanedEnd session.toList) := by
    rw [← List.cons_append, List.mem_append, not_or]
    exact ⟨hrest hserver, fun h => hclean (hkept ▸ List.mem_append_left blank h)⟩
  have hbefore : '#' ∉ c :: (rest ++ instancesOf session) := by
    rw [← List.cons_append, List.mem_append, not_or, instancesOf, List.mem_append, not_or]
    exact ⟨hrest hserver, hclean, by decide⟩
  refine .inr ⟨Target.ofRest (c :: (rest ++ instancesOf session) ++ ['/']), _, hdescribe,
    fun name hname => ?_⟩
  have hextend := Target.ofRest_append hc hbefore hname
  refine ⟨?_, fun more => ?_, ?_⟩
  · rw [hdelete, hname.cleanedEnd_eq, hextend]
  · have hmore : (name ++ "#" ++ more).toList = name.toList ++ '#' :: more.toList := by simp
    have hfragment := Target.ofRest_fragment
      (c :: (rest ++ instancesOf session) ++ '/' :: name.toList) (Target.cleanedEnd more.toList)
    rw [List.append_assoc, List.cons_append] at hfragment
    rw [hdelete, hmore, Target.cleanedEnd_append_cons rfl, hname.kept_eq, ← hextend]
    exact congrArg some hfragment
  · have hne := Target.ofRest_ne hc hsent hblank hname
    rw [List.append_assoc rest, ← hkept, List.append_assoc rest] at hne
    exact hextend ▸ hne

/-- Two instances of a session whose names are segments have different targets exactly if the
encoded forms of their names are different, as those of names without `%` are. None of them has
the target of the session itself. What follows a name and a `#` makes no difference. -/
theorem targets_apart {server session : String} (hserver : '#' ∉ server.toList)
    (hsession : '#' ∉ session.toList) {name : String} (hname : IsSegment name.toList) {t : Target}
    (ht : (delete server session name).target? = some t) :
    (∀ other : String, IsSegment other.toList →
      ∃ u, (delete server session other).target? = some u ∧
        (t = u ↔ Target.encode t.reserved name.toList = Target.encode t.reserved other.toList) ∧
        ('%' ∉ name.toList → '%' ∉ other.toList → name ≠ other → t ≠ u)) ∧
    (∃ u, (describe server session).target? = some u ∧ t ≠ u) ∧
    (∀ more : String, (delete server session (name ++ "#" ++ more)).target? = some t) := by
  rcases exists_base hserver hsession with hnone | ⟨base, u, hdescribe, hnames⟩
  · rw [hnone] at ht
    cases ht
  obtain ⟨hdelete, hmore, hne⟩ := hnames name hname
  obtain rfl : base.extend name.toList = t := Option.some.inj (hdelete.symm.trans ht)
  rw [Target.reserved_extend]
  refine ⟨fun other hother => ⟨_, (hnames other hother).1, Target.extend_inj, ?_⟩,
    ⟨u, hdescribe, hne⟩, hmore⟩
  intro hpercent hpercent' hnames heq
  have hencode := Target.extend_inj.mp heq
  exact hnames (String.toList_inj.mp
    (Target.encode_inj (Target.covers_reserved base) hpercent hpercent' hencode))

/-- Two nodes, the session, and a name with a `#` in it. -/
theorem targets_apart_of_nodes :
    ∃ t u v, (delete "http://h" "s1" "node1").target? = some t ∧
      (delete "http://h" "s1" "node2").target? = some u ∧
      (describe "http://h" "s1").target? = some v ∧ t ≠ u ∧ t ≠ v ∧
      (delete "http://h" "s1" ("node1" ++ "#" ++ "2")).target? = some t := by
  have ht : (delete "http://h" "s1" "node1").target? =
      some ⟨"/sessions/s1/instances/node1".toList, none⟩ := by decide
  obtain ⟨hothers, ⟨v, hv, hne⟩, hmore⟩ := targets_apart (by decide) (by decide) (by decide) ht
  obtain ⟨u, hu, -, hapart⟩ := hothers "node2" (by decide)
  exact ⟨_, u, v, ht, hu, hv, hapart (by decide) (by decide) (by decide), hne, hmore "2"⟩

/-- A name that is no segment may share its target with another instance or with the session. -/
theorem targets_shared :
    (∃ t, (delete "http://h" "s1" "node1#2").target? = some t ∧
      (delete "http://h" "s1" "node1").target? = some t) ∧
    ∃ t, (delete "http://h" "s1" "../../s1").target? = some t ∧
      (describe "http://h" "s1").target? = some t :=
  ⟨⟨⟨"/sessions/s1/instances/node1".toList, none⟩, by decide, by decide⟩,
    ⟨⟨"/sessions/s1".toList, none⟩, by decide, by decide⟩⟩

end Request
end TermSync.Rest
