import Mathlib.Tactic.SplitIfs
import Switchboard.Wire.Exchange

/-!
# Work under the guard of a call

Work under guard comes to its own outcome, unless the call is cancelled or its deadline passes first
(`guard_cases`); in a call that is cancelled already, no work is begun (`guard_of_cancelled`), nor
in one whose deadline has passed (`guard_of_over`).
-/

namespace Switchboard

namespace CallContext

variable {α : Type} {c : CallContext} {now later : Nat} {work : Work α}

theorem first_cons_cases {t : Option Nat} {x y : α} {u : Nat} {rest : List (Option Nat × α)}
    (h : first ((t, x) :: rest) = some (y, u)) : y = x ∨ first rest = some (y, u) := by
  rcases t with _ | t
  · exact .inr h
  · simp only [first] at h
    split at h
    · split at h
      · simp_all
      · simp_all
    · simp_all

/-- What comes of work under guard is its own outcome, unless the call ends first. -/
theorem guard_cases {o : Outcome α} (h : c.guard now work = some (o, later)) :
    o = .error .cancelled ∨ o = .error deadlineExceeded ∨ o = work.outcome := by
  unfold guard at h
  split_ifs at h
  · simp_all
  · rcases first_cons_cases h with h | h
    · exact .inl h
    rcases first_cons_cases h with h | h
    · exact .inr (.inl h)
    rcases first_cons_cases h with h | h
    · exact .inr (.inr h)
    · simp [first] at h

theorem guard_ok {x : α} (h : c.guard now work = some (.ok x, later)) : work.outcome = .ok x := by
  rcases guard_cases h with h | h | h
  · simp at h
  · simp at h
  · exact h.symm

theorem guard_of_cancelled (h : c.isCancelled now = true) (work : Work α) :
    c.guard now work = some (.error .cancelled, now) := by
  rw [guard, if_pos h]

/-- How a call is over before any work in it begins: it is cancelled, or else its deadline has
passed. -/
def over? (c : CallContext) (now : Nat) : Option Failure :=
  if c.isCancelled now then some .cancelled
  else if c.deadline.any (· ≤ now) then some deadlineExceeded
  else none

theorem any_passed_iff {t : Option Nat} :
    t.any (· ≤ now) = false ↔ ∀ instant ∈ t, now < instant := by
  cases t <;> simp

theorem over?_eq_none_iff : c.over? now = none ↔
    c.isCancelled now = false ∧ c.deadline.any (· ≤ now) = false := by
  unfold over?
  cases c.isCancelled now <;> cases c.deadline.any (· ≤ now) <;> simp

theorem admits_iff : c.admits now = true ↔ c.over? now = none := by
  have hdeadline : c.deadline.all (now < ·) = !c.deadline.any (· ≤ now) := by
    cases c.deadline with
    | none => rfl
    | some d => simp only [Option.all_some, Option.any_some, ← decide_not, Nat.not_le]
  rw [over?_eq_none_iff, admits, hdeadline]
  simp

theorem guard_of_over {f : Failure} (h : c.over? now = some f) (work : Work α) :
    c.guard now work = some (.error f, now) := by
  unfold over? at h
  split_ifs at h with hcancelled hdeadline
  · obtain rfl := Option.some.inj h
    exact guard_of_cancelled hcancelled work
  · obtain rfl := Option.some.inj h
    obtain ⟨cancelledAt, _ | d⟩ := c
    · cases hdeadline
    have hmax : max now d = now := Nat.max_eq_left (of_decide_eq_true hdeadline)
    have hfirst : first [(some now, .error deadlineExceeded),
        (work.takes.map (now + ·), work.outcome)] = some (.error deadlineExceeded, now) := by
      cases work.takes <;> simp only [first, Option.map_none, Option.map_some]
      rw [if_neg (by omega)]
    rw [guard, if_neg hcancelled, Option.map_some, hmax]
    rcases cancelledAt with _ | t
    · exact hfirst
    · have hlt : now < t := by simpa [isCancelled] using hcancelled
      rw [first, hfirst]
      exact if_pos hlt

/-- In a call that is not over, what is done at once comes to its own outcome. -/
theorem guard_done (h : c.over? now = none) (o : Outcome α) :
    c.guard now (.done o) = some (o, now) := by
  obtain ⟨hcancelled, hdeadline⟩ := over?_eq_none_iff.1 h
  have hfirst : first [(c.deadline.map (max now), .error deadlineExceeded), (some now, o)] =
      some (o, now) := by
    rcases hd : c.deadline with _ | d
    · rfl
    · have hlt := any_passed_iff.1 hdeadline d hd
      exact if_pos (by omega)
  rw [guard, if_neg (by simp [hcancelled])]
  show first [(c.cancelledAt, .error .cancelled), _, (some now, o)] = _
  rcases ht : c.cancelledAt with _ | t
  · exact hfirst
  · rw [first, hfirst]
    exact if_pos (any_passed_iff.1 hcancelled t ht)

theorem isCancelled_cancelling (c : CallContext) (now : Nat) :
    (c.cancelling now).isCancelled now = true := by
  rcases c with ⟨_ | instant, deadline⟩
  · exact decide_eq_true (Nat.le_refl now)
  · exact decide_eq_true (Nat.min_le_right instant now)

end CallContext

end Switchboard
