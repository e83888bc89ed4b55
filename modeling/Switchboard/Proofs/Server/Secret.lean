import Mathlib.Data.List.Basic
import Switchboard.Server.App

/-!
# Who is let through

The comparison of bytes comes out at equality (`sameBytes_eq_true_iff`), so a request is admitted if
it shows the secret (`HttpRequest.Shows`): as the token of its authorization, or else as its API
key. What stands behind the check is not asked about any other request, and the answer says nothing
about the body (`App.respond_requires_secret`).
-/

namespace Switchboard

/-- Differences add up to none only if there is none. -/
theorem foldl_differing_eq_zero : ∀ (pairs : List (UInt8 × UInt8)) (differing : UInt8),
    pairs.foldl (fun differing (a, b) => differing ||| (a ^^^ b)) differing = 0 ↔
      differing = 0 ∧ ∀ p ∈ pairs, p.1 = p.2
  | [], differing => by simp
  | (a, b) :: pairs, differing => by
    rw [List.foldl_cons, foldl_differing_eq_zero pairs, UInt8.or_eq_zero_iff,
      UInt8.xor_eq_zero_iff, List.forall_mem_cons, and_assoc]

theorem forall_mem_zip_iff : ∀ {as bs : List UInt8}, as.length = bs.length →
    ((∀ p ∈ as.zip bs, p.1 = p.2) ↔ as = bs)
  | [], [], _ => by simp
  | a :: as, b :: bs, h => by
    rw [List.zip_cons_cons, List.forall_mem_cons, forall_mem_zip_iff (Nat.succ.inj h),
      List.cons.injEq]

theorem sameBytes_eq_true_iff {shown expected : List UInt8} :
    sameBytes shown expected = true ↔ shown = expected := by
  unfold sameBytes
  split
  · rename_i hlength
    have hne : shown ≠ expected := fun h => by simp [h] at hlength
    simp [hne]
  · rename_i hlength
    have hlen : shown.length = expected.length := by simpa using hlength
    rw [beq_iff_eq, foldl_differing_eq_zero, forall_mem_zip_iff hlen]
    exact and_iff_right rfl

namespace HttpRequest

variable {r : HttpRequest}

/-- The first header of a name has a value that can be seen. -/
def Has (r : HttpRequest) (name value : String) : Prop :=
  ∃ before n after, r.headers = before ++ (n, value) :: after
    ∧ n.toLower = name ∧ (∀ h ∈ before, h.1.toLower ≠ name)
    ∧ ∀ c ∈ value.toList, isVisible c = true

theorem header?_eq_some_iff {name value : String} :
    r.header? name = some value ↔ r.Has name value := by
  simp only [header?, Option.bind_eq_some_iff, List.find?_eq_some_iff_append, beq_iff_eq,
    Option.ite_none_right_eq_some, List.all_eq_true, Bool.not_eq_true', beq_eq_false_iff_ne]
  constructor
  · rintro ⟨⟨n, v⟩, ⟨hn, before, after, hsplit, hbefore⟩, hvisible, hv⟩
    obtain rfl : v = value := Option.some.inj hv
    exact ⟨before, n, after, hsplit, hn, hbefore, hvisible⟩
  · rintro ⟨before, n, after, hsplit, hn, hbefore, hvisible⟩
    exact ⟨(n, value), ⟨hn, before, after, hsplit, hbefore⟩, hvisible, rfl⟩

/-- A value that gives a token as a bearer's. -/
def IsBearer (value token : String) : Prop :=
  value = "Bearer " ++ token ∨ value = "bearer " ++ token

/-- The secret that a request shows. -/
inductive Shows (r : HttpRequest) : String → Prop
  | bearer {value token : String} : r.Has "authorization" value → IsBearer value token →
      Shows r token
  | apiKey {value : String} :
      (∀ other token, r.Has "authorization" other → ¬IsBearer other token) →
      r.Has "x-api-key" value → Shows r value

theorem bearer_eq_some_iff {value token : String} :
    (Text.after? "Bearer " value <|> Text.after? "bearer " value) = some token ↔
      IsBearer value token := by
  have hsplit (h : Text.after? "Bearer " value ≠ none) : Text.after? "bearer " value = none := by
    obtain ⟨rest, hrest⟩ := Option.ne_none_iff_exists'.1 h
    rw [Text.after?_eq_some_iff] at hrest
    subst hrest
    simp [Text.after?, String.toList_append]
  unfold IsBearer
  rw [← Text.after?_eq_some_iff, ← Text.after?_eq_some_iff]
  rcases hupper : Text.after? "Bearer " value with _ | rest
  · simp
  · simp [hsplit (by simp [hupper])]

theorem bearer?_eq_some_iff {token : String} :
    r.bearer? = some token ↔ ∃ value, r.Has "authorization" value ∧ IsBearer value token := by
  unfold bearer?
  rw [Option.bind_eq_bind, Option.bind_eq_some_iff]
  simp only [header?_eq_some_iff, bearer_eq_some_iff]

theorem shownSecret?_eq_some_iff {secret : String} :
    r.shownSecret? = some secret ↔ r.Shows secret := by
  unfold shownSecret?
  rcases hbearer : r.bearer? with _ | token
  · have hnone : ∀ other token, r.Has "authorization" other → ¬IsBearer other token :=
      fun other token hhas hb => by
        rw [bearer?_eq_some_iff.2 ⟨other, hhas, hb⟩] at hbearer
        simp at hbearer
    constructor
    · intro h
      exact .apiKey hnone (header?_eq_some_iff.1 (by simpa using h))
    · rintro (⟨hhas, hb⟩ | ⟨-, hkey⟩)
      · exact absurd hb (hnone _ _ hhas)
      · simpa using header?_eq_some_iff.2 hkey
  · obtain ⟨value, hhas, hb⟩ := bearer?_eq_some_iff.1 hbearer
    constructor
    · intro h
      obtain rfl : token = secret := by simpa using h
      exact .bearer hhas hb
    · rintro (⟨hhas', hb'⟩ | ⟨hnone, -⟩)
      · have hsame := bearer?_eq_some_iff.2 ⟨_, hhas', hb'⟩
        rw [← hbearer, hsame]
        rfl
      · exact absurd hb (hnone value token hhas)

theorem accepts_eq_true_iff {secret : String} : r.accepts secret = true ↔ r.Shows secret := by
  rw [← shownSecret?_eq_some_iff, accepts, Option.any_eq_true]
  constructor
  · rintro ⟨shown, hshown, hsame⟩
    rw [hshown, Text.utf8_inj.1 (sameBytes_eq_true_iff.1 hsame)]
  · intro h
    exact ⟨secret, h, sameBytes_eq_true_iff.2 rfl⟩

/-- Of a bearer only the token counts. -/
theorem shows_iff_of_isBearer {value token secret : String} (hhas : r.Has "authorization" value)
    (hb : IsBearer value token) : r.Shows secret ↔ token = secret := by
  have hbearer := bearer?_eq_some_iff.2 ⟨value, hhas, hb⟩
  rw [← shownSecret?_eq_some_iff, shownSecret?, hbearer]
  simp

/-- Whether the server is well may be asked by anyone; for the rest it takes the secret. -/
theorem isAdmitted_iff {secret : String} (hpath : r.path ≠ Operation.health.path) :
    r.isAdmitted (some secret) = true ↔ r.Shows secret := by
  simp only [isAdmitted, Bool.or_eq_true, beq_iff_eq, hpath, false_or, accepts_eq_true_iff]

end HttpRequest

namespace App

open HttpRequest

variable {r : HttpRequest} {secret : Option String}

theorem requireSecret_of_admitted (h : r.isAdmitted secret = true)
    (next : HttpRequest → Option HttpAnswer) : requireSecret secret next r = next r :=
  if_pos h

theorem requireSecret_of_not_admitted (h : ¬r.isAdmitted secret = true)
    (next : HttpRequest → Option HttpAnswer) :
    requireSecret secret next r = some (turnedAway r) :=
  if_neg h

theorem respond_of_ne_options (app : App) (fresh : String) (now : Nat) (limit : Option Nat)
    (hmethod : r.method ≠ "OPTIONS") :
    app.respond fresh now limit r =
      (requireSecret app.secret (app.call fresh now limit) r).map (sentOut r) := by
  simp only [respond, if_neg hmethod]

/-- With a secret set, a request is handed to what stands behind the check if it shows that secret.
Any other request is answered as unauthenticated, whatever its body: nothing of that is read, no
provider is called, and there is no access record. As everywhere, a request for the head of an
answer gets no body. -/
theorem respond_requires_secret (app : App) {secret : String} (hsecret : app.secret = some secret)
    (fresh : String) (now : Nat) (limit : Option Nat) {r : HttpRequest}
    (hmethod : r.method ≠ "OPTIONS") (hpath : r.path ≠ "/health") :
    ((∀ next, requireSecret app.secret next r = next r) ↔ r.Shows secret)
      ∧ (∀ value token, r.Has "authorization" value → IsBearer value token →
          (r.Shows secret ↔ token = secret))
      ∧ (r.Shows secret →
          app.respond fresh now limit r = (app.call fresh now limit r).map (sentOut r))
      ∧ (¬r.Shows secret → ∃ answer,
          (∀ frames, app.respond fresh now limit { r with frames } = some answer)
            ∧ answer.status = 401
            ∧ answer.body = (if r.method = "HEAD" then .empty (some "application/json")
                else .json (.mkObj [("error", .mkObj [("code", "UNAUTHENTICATED"),
                  ("message", Failure.unauthenticated.publicMessage)])]))
            ∧ answer.called = [] ∧ answer.sent = [] ∧ answer.bodyRead = false
            ∧ ∀ record ∈ answer.log, AccessRecord.isAccess record = false)
      ∧ ∀ next r, requireSecret none next r = next r := by
  have hadmitted : r.isAdmitted app.secret = true ↔ r.Shows secret := by
    rw [hsecret]
    exact isAdmitted_iff hpath
  refine ⟨⟨fun h => ?_, fun h => requireSecret_of_admitted (hadmitted.2 h)⟩,
    fun value token hhas hb => shows_iff_of_isBearer hhas hb, fun h => ?_, fun h => ?_,
    fun next r => requireSecret_of_admitted rfl next⟩
  · by_contra hshows
    have hnever := h fun _ => none
    rw [requireSecret_of_not_admitted (mt hadmitted.1 hshows)] at hnever
    simp at hnever
  · rw [respond_of_ne_options app fresh now limit hmethod,
      requireSecret_of_admitted (hadmitted.2 h)]
  · refine ⟨sentOut r (turnedAway r), fun frames => ?_, rfl, rfl, rfl, rfl, rfl, ?_⟩
    · -- Neither the check nor the answer looks at the frames.
      have hframes : ¬HttpRequest.isAdmitted app.secret { r with frames } = true :=
        mt hadmitted.1 h
      rw [respond_of_ne_options (r := { r with frames }) app fresh now limit hmethod,
        requireSecret_of_not_admitted hframes]
      rfl
    · intro record hrecord
      obtain rfl := List.mem_singleton.1 hrecord
      rfl

section Guarded

/-- A server with a secret. -/
def guarded : App := ⟨(Router.ofProviders []).1, .unset, some "s3cret", 300, 32⟩

/-- A caller with the wrong token and the right key. -/
def wrongToken : HttpRequest :=
  ⟨"POST", "/v1/chat", [("Authorization", "Bearer guess"), ("x-api-key", "s3cret")], []⟩

theorem wrongToken_has : wrongToken.Has "authorization" "Bearer guess" := by
  refine ⟨[], "Authorization", [("x-api-key", "s3cret")], rfl, ?_, by simp, ?_⟩
  · show "Authorization".map Char.toLower = "authorization"
    rw [← String.toList_inj, String.toList_map]
    decide
  · simp [isVisible]

theorem wrongToken_turnedAway :
    guarded.secret = some "s3cret" ∧ wrongToken.method ≠ "OPTIONS" ∧ wrongToken.path ≠ "/health"
      ∧ ∃ answer, (∀ frames, guarded.respond "" 0 none { wrongToken with frames } = some answer)
        ∧ answer.status = 401 ∧ answer.called = [] := by
  have hmethod : wrongToken.method ≠ "OPTIONS" := by decide
  have hpath : wrongToken.path ≠ "/health" := by decide +kernel
  obtain ⟨-, hbearer, -, hrefused, -⟩ :=
    respond_requires_secret guarded rfl "" 0 none hmethod hpath
  have hshows : ¬wrongToken.Shows "s3cret" := by
    rw [hbearer "Bearer guess" "guess" wrongToken_has (.inl (by decide +kernel))]
    decide
  obtain ⟨answer, hanswer, hstatus, -, hcalled, -⟩ := hrefused hshows
  exact ⟨rfl, hmethod, hpath, answer, hanswer, hstatus, hcalled⟩

/-- A caller without a secret that asks for the head of an answer. -/
def bareHead : HttpRequest := ⟨"HEAD", "/v1/models", [], []⟩

/-- An answer to a caller that is turned away need not tell why: without its body it holds no
code. -/
theorem bareHead_untold :
    bareHead.method ≠ "OPTIONS" ∧ bareHead.path ≠ "/health" ∧ ¬bareHead.Shows "s3cret"
      ∧ ∃ answer, guarded.respond "" 0 none bareHead = some answer ∧ answer.status = 401
        ∧ ∀ value, answer.body ≠ .json value := by
  have hmethod : bareHead.method ≠ "OPTIONS" := by decide
  have hpath : bareHead.path ≠ Operation.health.path := by decide +kernel
  have hshows : ¬bareHead.Shows "s3cret" := by
    rw [← shownSecret?_eq_some_iff]
    exact nofun
  have hrefused : ¬bareHead.isAdmitted guarded.secret = true := mt (isAdmitted_iff hpath).1 hshows
  refine ⟨hmethod, hpath, hshows, sentOut bareHead (turnedAway bareHead), ?_, rfl, fun _ => nofun⟩
  rw [respond_of_ne_options guarded "" 0 none hmethod, requireSecret_of_not_admitted hrefused]
  rfl

end Guarded

end App

end Switchboard
