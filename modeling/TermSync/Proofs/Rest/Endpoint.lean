import Mathlib.Data.List.DropRight
import TermSync.Rest.Exchange

/-!
# One origin for requests and for the socket

The socket's URL differs from a URL of requests in its scheme only (`Upgrades`), and a scheme cannot
begin in a trimmed origin and end in what is appended to it. So it makes no difference whether the
scheme is replaced in the origin or in the whole URL of the session.

Main statements: `upgrades_iff`, `socketUrl_sessionUrl` and `endpoints_agree`.
-/

namespace TermSync.Rest

/-! ## Slashes at the end -/

/-- A text of slashes only. -/
def slashes (count : Nat) : String := String.ofList (List.replicate count '/')

theorem toList_trimSlashes (s : String) :
    (trimSlashes s).toList = s.toList.rdropWhile (· == '/') :=
  String.toList_ofList

/-- What is taken off is slashes. -/
theorem exists_trimSlashes_append_slashes (s : String) :
    ∃ count, s = trimSlashes s ++ slashes count := by
  have hslashes : s.toList.rtakeWhile (· == '/') =
      List.replicate (s.toList.rtakeWhile (· == '/')).length '/' := by
    apply List.eq_replicate_of_mem
    intro c hc
    simpa using List.mem_rtakeWhile_imp hc
  refine ⟨(s.toList.rtakeWhile (· == '/')).length, String.toList_inj.mp ?_⟩
  rw [String.toList_append, toList_trimSlashes, slashes, String.toList_ofList, ← hslashes]
  exact List.rdropWhile_append_rtakeWhile.symm

/-- No slash is left at the end. -/
theorem getLast?_trimSlashes (s : String) : (trimSlashes s).toList.getLast? ≠ some '/' := by
  intro h
  rw [toList_trimSlashes] at h
  have hne : s.toList.rdropWhile (· == '/') ≠ [] := by
    intro hnil
    simp [hnil] at h
  rw [List.getLast?_eq_some_getLast hne, Option.some.injEq] at h
  have hlast := List.rdropWhile_last_not (· == '/') s.toList hne
  simp [h] at hlast

/-- Slashes at the end of an origin do not count. -/
theorem trimSlashes_append_slashes (s : String) (count : Nat) :
    trimSlashes (s ++ slashes count) = trimSlashes s := by
  apply String.toList_inj.mp
  rw [toList_trimSlashes, toList_trimSlashes, slashes, String.toList_append, String.toList_ofList]
  induction count with
  | zero => simp
  | succ count ih =>
    rw [List.replicate_succ', ← List.append_assoc, List.rdropWhile_concat_pos _ _ _ (by decide), ih]

/-! ## Schemes -/

/-- How the socket's URL comes from a URL of requests: by its scheme alone. -/
inductive Upgrades : String → String → Prop where
  | https (rest : String) : Upgrades ("https://" ++ rest) ("wss://" ++ rest)
  | http (rest : String) : Upgrades ("http://" ++ rest) ("ws://" ++ rest)
  | other {url : String} (https : ∀ rest, url ≠ "https://" ++ rest)
      (http : ∀ rest, url ≠ "http://" ++ rest) : Upgrades url url

theorem stripFront?_eq_some_iff {front s rest : String} :
    stripFront? front s = some rest ↔ s = front ++ rest := by
  rw [stripFront?, ← String.toList_inj, String.toList_append]
  split
  · next h =>
    obtain ⟨t, ht⟩ := List.isPrefixOf_iff_prefix.mp h
    have hdrop : s.toList.drop front.length = t := by
      rw [← ht, ← String.length_toList, List.drop_left]
    rw [hdrop, Option.some.injEq, ← ht, List.append_cancel_left_eq, ← String.toList_inj,
      String.toList_ofList]
  · next h =>
    refine ⟨nofun, fun heq => absurd (List.isPrefixOf_iff_prefix.mpr ?_) h⟩
    exact ⟨rest.toList, heq.symm⟩

theorem stripFront?_eq_none_iff {front s : String} :
    stripFront? front s = none ↔ ∀ rest, s ≠ front ++ rest := by
  simp [Option.eq_none_iff_forall_ne_some, stripFront?_eq_some_iff]

/-- The two schemes of requests are told apart by their fifth character. -/
private theorem http_ne_https (rest rest' : String) : "http://" ++ rest ≠ "https://" ++ rest' := by
  intro h
  have hchars := congrArg String.toList h
  simp at hchars

/-- The socket's URL is the one with the scheme replaced, and no other. -/
theorem upgrades_iff {url socket : String} : Upgrades url socket ↔ socketUrl url = socket := by
  constructor
  · rintro (rest | rest | ⟨https, http⟩)
    · rw [socketUrl, stripFront?_eq_some_iff.mpr rfl]
    · rw [socketUrl, stripFront?_eq_none_iff.mpr (http_ne_https rest),
        stripFront?_eq_some_iff.mpr rfl]
    · rw [socketUrl, stripFront?_eq_none_iff.mpr https, stripFront?_eq_none_iff.mpr http]
  · rintro rfl
    rw [socketUrl]
    cases https : stripFront? "https://" url with
    | some rest =>
      obtain rfl := stripFront?_eq_some_iff.mp https
      exact .https rest
    | none =>
      cases http : stripFront? "http://" url with
      | some rest =>
        obtain rfl := stripFront?_eq_some_iff.mp http
        exact .http rest
      | none => exact .other (stripFront?_eq_none_iff.mp https) (stripFront?_eq_none_iff.mp http)

/-- A socket's URL has no scheme of requests. -/
theorem Upgrades.again {url socket : String} (h : Upgrades url socket) :
    Upgrades socket socket := by
  cases h with
  | https rest => exact .other (by simp [← String.toList_inj]) (by simp [← String.toList_inj])
  | http rest => exact .other (by simp [← String.toList_inj]) (by simp [← String.toList_inj])
  | other https http => exact .other https http

/-! ## Origins -/

/-- What begins with a scheme, and goes on after an origin with a single slash, has the scheme in
the origin: the two slashes of the scheme cannot be those at the seam. -/
private theorem prefix_of_prefix_append {scheme origin rest : List Char} {c : Char}
    (hscheme : '/' ∉ scheme) (horigin : origin.getLast? ≠ some '/') (hc : c ≠ '/')
    (h : scheme ++ ['/', '/'] <+: origin ++ '/' :: c :: rest) :
    scheme ++ ['/', '/'] <+: origin := by
  obtain ⟨t, ht⟩ := h
  rcases List.append_eq_append_iff.mp ht with ⟨a, rfl, -⟩ | ⟨seam, hends, hseam⟩
  · exact List.prefix_append _ a
  -- the scheme ends in what follows the origin
  rcases List.append_eq_append_iff.mp hends with ⟨a, rfl, ha⟩ | ⟨b, rfl, rfl⟩
  · rcases a with _ | ⟨d, _ | ⟨e, a⟩⟩
    · obtain rfl : ['/', '/'] = seam := ha
      exact absurd (List.cons.inj (List.cons.inj hseam).2).1 hc
    · obtain rfl : '/' = d := (List.cons.inj ha).1
      exact absurd List.getLast?_concat horigin
    · obtain ⟨rfl, hrest⟩ := List.cons.inj ha
      obtain ⟨rfl, hnil⟩ := List.cons.inj hrest
      obtain ⟨rfl, -⟩ := List.append_eq_nil_iff.mp hnil.symm
      exact List.prefix_rfl
  · cases b with
    | nil => exact absurd (List.cons.inj (List.cons.inj hseam).2).1 hc
    | cons d b =>
      obtain rfl : '/' = d := (List.cons.inj hseam).1
      exact absurd (List.mem_append_right origin List.mem_cons_self) hscheme

/-- What follows an origin has no part in the scheme. -/
theorem Upgrades.append {origin socket : String} (h : Upgrades origin socket)
    (horigin : origin.toList.getLast? ≠ some '/') {c : Char} (hc : c ≠ '/') (rest : List Char) :
    Upgrades (origin ++ String.ofList ('/' :: c :: rest))
      (socket ++ String.ofList ('/' :: c :: rest)) := by
  cases h with
  | https r => rw [String.append_assoc, String.append_assoc]; exact .https _
  | http r => rw [String.append_assoc, String.append_assoc]; exact .http _
  | other https http =>
    have hkept (scheme : List Char) (hscheme : '/' ∉ scheme)
        (hno : ∀ r, origin ≠ String.ofList (scheme ++ ['/', '/']) ++ r) (r : String) :
        origin ++ String.ofList ('/' :: c :: rest) ≠ String.ofList (scheme ++ ['/', '/']) ++ r := by
      intro heq
      have hchars := congrArg String.toList heq
      simp only [String.toList_append, String.toList_ofList] at hchars
      obtain ⟨t, ht⟩ := prefix_of_prefix_append hscheme horigin hc ⟨r.toList, hchars.symm⟩
      apply hno (String.ofList t)
      rw [← String.ofList_append, ht, String.ofList_toList]
    exact .other (hkept "https:".toList (by decide) https) (hkept "http:".toList (by decide) http)

/-- The socket's URL follows from the URL of the session. -/
theorem socketUrl_sessionUrl (server session : String) :
    socketUrl (sessionUrl server session) =
      socketUrl (trimSlashes server) ++ "/sessions/" ++ session := by
  have hpath (origin : String) :
      origin ++ "/sessions/" ++ session =
        origin ++ String.ofList ('/' :: 's' :: "essions/".toList ++ session.toList) := by
    simp [← String.toList_inj]
  rw [sessionUrl, hpath, hpath]
  exact upgrades_iff.mp ((upgrades_iff.mpr rfl).append (getLast?_trimSlashes server) (by decide) _)

/-- The session is found below the origin, which has no slash at its end, and the socket below the
same origin with the scheme replaced. So the socket is found where the session is: its URL is that
of the session's description with the scheme replaced, followed by `/ws`. Slashes at the end of the
origin count for neither. To replace the scheme once more changes nothing, and it changes nothing
but the scheme. -/
theorem endpoints_agree :
    (∀ server : String, ∃ (origin socket : String) (count : Nat),
      server = origin ++ slashes count ∧ origin.toList.getLast? ≠ some '/' ∧
      Upgrades origin socket ∧ ∀ session : String,
        (Request.describe server session).url = origin ++ "/sessions/" ++ session ∧
        sessionSocketUrl server session = socket ++ "/sessions/" ++ session ++ "/ws") ∧
    (∀ server session : String,
      sessionSocketUrl server session =
        socketUrl (Request.describe server session).url ++ "/ws") ∧
    (∀ (server session : String) (count : Nat),
      (Request.describe (server ++ slashes count) session).url =
        (Request.describe server session).url ∧
      sessionSocketUrl (server ++ slashes count) session = sessionSocketUrl server session) ∧
    (∀ url : String, socketUrl (socketUrl url) = socketUrl url) ∧
    (∀ url socket : String, socketUrl url = socket ↔ Upgrades url socket) := by
  refine ⟨fun server => ?_, fun server session => ?_, fun server session count => ?_,
    fun url => ?_, fun url socket => upgrades_iff.symm⟩
  · obtain ⟨count, hserver⟩ := exists_trimSlashes_append_slashes server
    exact ⟨trimSlashes server, socketUrl (trimSlashes server), count, hserver,
      getLast?_trimSlashes server, upgrades_iff.mpr rfl, fun session => ⟨rfl, rfl⟩⟩
  · rw [Request.describe, socketUrl_sessionUrl, sessionSocketUrl]
  · have htrim := trimSlashes_append_slashes server count
    simp only [Request.describe, sessionUrl, sessionSocketUrl, htrim, and_self]
  · have h : Upgrades url (socketUrl url) := upgrades_iff.mpr rfl
    exact upgrades_iff.mp h.again

/-- An origin that is only a scheme and slashes has no scheme left once it is trimmed. -/
example : sessionSocketUrl "http:///" "abc" = "http:/sessions/abc/ws" := by decide

end TermSync.Rest
