import Switchboard.Server.Capture

/-!
# What a captured body gives

A captured body and the body in it go side by side: a poll of the one is a poll of the other, and
what is kept is the first thing held by what was handed on (`Body.pollMany_capturing`). So a handler
cannot tell that it is observed, and the copy is made once, with the first frame that holds anything
(`Body.capturing_observes`).
-/

namespace Switchboard

namespace BodyPoll

variable {p : BodyPoll} {bytes : List UInt8}

theorem held?_eq_some_iff : p.held? = some bytes ↔ p = .data bytes ∧ bytes ≠ [] := by
  cases p with
  | data found =>
    simp only [held?, Option.ite_none_left_eq_some, Option.some.injEq, data.injEq,
      List.isEmpty_iff]
    constructor
    · rintro ⟨hne, rfl⟩
      exact ⟨rfl, hne⟩
    · rintro ⟨rfl, hne⟩
      exact ⟨hne, rfl⟩
  | _ => simp [held?]

theorem held?_eq_none_iff : p.held? = none ↔ ∀ bytes, p = .data bytes → bytes = [] := by
  cases p <;> simp [held?]

end BodyPoll

namespace Body

variable {σ : Type} (body : Body σ)

theorem pollMany_succ (n : Nat) (s : σ) : body.pollMany (n + 1) s =
    ((body.poll s).1 :: (body.pollMany n (body.poll s).2).1,
      (body.pollMany n (body.poll s).2).2) :=
  rfl

theorem pollMany_add (n : Nat) : ∀ (m : Nat) (s : σ), body.pollMany (m + n) s =
    ((body.pollMany m s).1 ++ (body.pollMany n (body.pollMany m s).2).1,
      (body.pollMany n (body.pollMany m s).2).2)
  | 0, s => by simp [pollMany]
  | m + 1, s => by
    rw [Nat.succ_add, pollMany_succ, pollMany_add n m, pollMany_succ, List.cons_append]

theorem poll_capturing (b : CapturingBody σ) : body.capturing.poll b =
    ((body.poll b.inner).1, ⟨(body.poll b.inner).2, b.slot <|> (body.poll b.inner).1.held?⟩) :=
  rfl

/-- What was kept before stays, and else the first thing held is kept. -/
theorem pollMany_capturing : ∀ (n : Nat) (b : CapturingBody σ),
    body.capturing.pollMany n b =
      ((body.pollMany n b.inner).1, ⟨(body.pollMany n b.inner).2,
        b.slot <|> (body.pollMany n b.inner).1.findSome? BodyPoll.held?⟩)
  | 0, b => by simp [pollMany]
  | n + 1, b => by
    rw [pollMany_succ, poll_capturing, pollMany_capturing n, pollMany_succ, List.findSome?_cons]
    cases b.slot with
    | some bytes => rfl
    | none =>
      cases (body.poll b.inner).1.held? with
      | none => rfl
      | some bytes => rfl

/-- A body gives the same whether it is captured or not, however often it is polled. There is no
copy before a frame that holds anything was handed on; from then on it is the first such frame, and
stays so. -/
theorem capturing_observes (body : Body σ) (s : σ) (n : Nat) :
    (body.capturing.pollMany n (.of s)).1 = (body.pollMany n s).1
      ∧ (body.capturing.pollMany n (.of s)).2.inner = (body.pollMany n s).2
      ∧ ((body.capturing.pollMany n (.of s)).2.slot = none ↔
          ∀ bytes, .data bytes ∈ (body.pollMany n s).1 → bytes = [])
      ∧ (∀ bytes, (body.capturing.pollMany n (.of s)).2.slot = some bytes ↔
          bytes ≠ [] ∧ ∃ before after,
            (body.pollMany n s).1 = before ++ .data bytes :: after
              ∧ ∀ earlier, .data earlier ∈ before → earlier = [])
      ∧ ∀ more bytes, (body.capturing.pollMany n (.of s)).2.slot = some bytes →
          (body.capturing.pollMany (n + more) (.of s)).2.slot = some bytes := by
  have hslot (n : Nat) : (body.capturing.pollMany n (.of s)).2.slot =
      (body.pollMany n s).1.findSome? BodyPoll.held? := by
    rw [pollMany_capturing]
    rfl
  have hsilent (ps : List BodyPoll) : (∀ p ∈ ps, p.held? = none) ↔
      ∀ bytes, .data bytes ∈ ps → bytes = [] := by
    simp only [BodyPoll.held?_eq_none_iff]
    exact ⟨fun h bytes hmem => h _ hmem bytes rfl, fun h p hmem bytes hp => h bytes (hp ▸ hmem)⟩
  refine ⟨?_, ?_, ?_, fun bytes => ?_, fun more bytes h => ?_⟩
  · rw [pollMany_capturing, CapturingBody.of]
  · rw [pollMany_capturing, CapturingBody.of]
  · rw [hslot, List.findSome?_eq_none_iff, hsilent]
  · rw [hslot, List.findSome?_eq_some_iff]
    constructor
    · rintro ⟨before, p, after, hgiven, hp, hbefore⟩
      obtain ⟨rfl, hne⟩ := BodyPoll.held?_eq_some_iff.1 hp
      exact ⟨hne, before, after, hgiven, (hsilent before).1 hbefore⟩
    · rintro ⟨hne, before, after, hgiven, hbefore⟩
      exact ⟨before, .data bytes, after, hgiven, BodyPoll.held?_eq_some_iff.2 ⟨rfl, hne⟩,
        (hsilent before).2 hbefore⟩
  · rw [hslot] at h
    rw [hslot, pollMany_add, List.findSome?_append, h]
    rfl

/-- Empty frames and polls that come too early leave no copy, and neither do later frames. -/
example : listed.capturing.pollMany 6
      (.of [.pending, .data [], .data [1, 2], .data [3], .trailers []]) =
    ([.pending, .data [], .data [1, 2], .data [3], .trailers [], .done], ⟨[], some [1, 2]⟩) :=
  rfl

end Body

end Switchboard
