import Switchboard.Proofs.Call.Guard

/-!
# Work after work under the guard of a call

What comes of work under guard is known from three instants: the cancellation, the deadline and the
end the work would come to by itself (`Settles`). The clock never goes back from one work to the
next, so a call that is over for one work is over for all that follow (`guardEach_settles`).
-/

namespace Switchboard

namespace CallContext

variable {α : Type} {c : CallContext} {now later : Nat} {work : Work α}

section First

variable {x : α} {t : Nat} {after : List (Option Nat × α)}

theorem mem_of_first : ∀ (events : List (Option Nat × α)) {x : α} {t : Nat},
    first events = some (x, t) → (some t, x) ∈ events
  | [], _, _, h => by simp [first] at h
  | (none, _) :: rest, _, _, h => List.mem_cons_of_mem _ (mem_of_first rest h)
  | (some u, y) :: rest, x, t, h => by
    rw [first] at h
    split at h
    · rename_i hrest
      split_ifs at h
      · exact List.mem_cons_of_mem _ (mem_of_first rest (hrest.trans h))
      · cases h
        exact List.mem_cons_self
    · cases h
      exact List.mem_cons_self

theorem first_of_never : ∀ events : List (Option Nat × α), (∀ e ∈ events, e.1 = none) →
    first events = none
  | [], _ => rfl
  | (none, _) :: rest, h => first_of_never rest (List.forall_mem_cons.1 h).2
  | (some _, _) :: _, h => by cases (List.forall_mem_cons.1 h).1

/-- What comes before all that is listed before it, and after nothing that is listed after it, is
the first to happen. -/
theorem first_append_cons (hafter : ∀ e ∈ after, ∀ u ∈ e.1, t ≤ u) :
    ∀ before : List (Option Nat × α), (∀ e ∈ before, ∀ u ∈ e.1, t < u) →
      first (before ++ (some t, x) :: after) = some (x, t)
  | [], _ => by
    rw [List.nil_append, first]
    split
    · rename_i y u hrest
      exact if_neg (Nat.not_lt.2 (hafter _ (mem_of_first after hrest) u rfl))
    · rfl
  | (none, _) :: before, h => first_append_cons hafter before (List.forall_mem_cons.1 h).2
  | (some u, y) :: before, h => by
    obtain ⟨hu, hbefore⟩ := List.forall_mem_cons.1 h
    rw [List.cons_append, first, first_append_cons hafter before hbefore]
    exact if_pos (hu u rfl)

end First

/-- The first comes at some instant, and the second later or never. -/
def Precedes (t u : Option Nat) : Prop := ∃ a, t = some a ∧ ∀ b, u = some b → a < b

/-- The first does not come later than the second. -/
def InTime (t u : Option Nat) : Prop := ∀ a b, t = some a → u = some b → a ≤ b

/-- The two do not come at one instant. -/
def Apart (t u : Option Nat) : Prop := ∀ a, t = some a → u ≠ some a

/-- A work that was put under guard. -/
structure Guarded (α : Type) where
  begun : Nat
  work : Work α
  /-- What came of it, and when; nothing, if it goes on for ever. -/
  result : Option (Outcome α × Nat)

/-- When work begun at the instant `now` would end by itself. -/
def ends (now : Nat) (work : Work α) : Option Nat := work.takes.map (now + ·)

/-- What is to come of a work under guard. In a call that is cancelled, or past its deadline, it is
not even begun. -/
structure Settles (c : CallContext) (g : Guarded α) : Prop where
  unbegun : c.isCancelled g.begun = true →
    c.admits g.begun = false ∧ g.result = some (.error .cancelled, g.begun)
  expired : c.deadline.any (· ≤ g.begun) = true → c.admits g.begun = false
    ∧ ∃ f, (f = .cancelled ∨ f = deadlineExceeded) ∧ g.result = some (.error f, g.begun)
  cancelled : c.isCancelled g.begun = false → Precedes c.cancelledAt c.deadline →
    Precedes c.cancelledAt (ends g.begun g.work) →
      ∃ t, c.cancelledAt = some t ∧ g.result = some (.error .cancelled, t)
  exceeded : c.isCancelled g.begun = false → Precedes c.deadline c.cancelledAt →
    InTime c.deadline (ends g.begun g.work) →
      ∃ d, c.deadline = some d ∧ g.result = some (.error deadlineExceeded, max g.begun d)
  own : c.isCancelled g.begun = false → Apart c.cancelledAt c.deadline →
    Apart c.cancelledAt (ends g.begun g.work) →
    ¬(Precedes c.cancelledAt c.deadline ∧ Precedes c.cancelledAt (ends g.begun g.work)) →
    ¬(Precedes c.deadline c.cancelledAt ∧ InTime c.deadline (ends g.begun g.work)) →
      g.result = (ends g.begun g.work).map (g.work.outcome, ·)

section Race

theorem over?_of_cancelled (h : c.isCancelled now = true) : c.over? now = some .cancelled :=
  if_pos h

theorem admits_of_over {f : Failure} (h : c.over? now = some f) : c.admits now = false := by
  rw [← Bool.not_eq_true, admits_iff, h]
  exact Option.some_ne_none f

theorem over?_of_expired (h : c.deadline.any (· ≤ now) = true) :
    ∃ f, (f = .cancelled ∨ f = deadlineExceeded) ∧ c.over? now = some f := by
  unfold over?
  split_ifs
  · exact ⟨_, .inl rfl, rfl⟩
  · exact ⟨_, .inr rfl, rfl⟩

theorem lt_of_not_cancelled {t : Nat} (h : c.isCancelled now = false)
    (ht : c.cancelledAt = some t) : now < t :=
  any_passed_iff.1 h t ht

theorem guard_of_not_cancelled (h : c.isCancelled now = false) (work : Work α) :
    c.guard now work = first [(c.cancelledAt, .error .cancelled),
      (c.deadline.map (max now), .error deadlineExceeded), (ends now work, work.outcome)] :=
  if_neg (by simp [h])

theorem le_of_ends {t : Nat} (h : ends now work = some t) : now ≤ t := by
  obtain ⟨n, -, rfl⟩ := Option.map_eq_some_iff.1 h
  exact Nat.le_add_right _ _

theorem le_of_guard {o : Outcome α} (h : c.guard now work = some (o, later)) : now ≤ later := by
  cases hcancelled : c.isCancelled now with
  | true =>
    rw [guard_of_cancelled hcancelled] at h
    exact Nat.le_of_eq (Prod.mk.inj (Option.some.inj h)).2
  | false =>
    rw [guard_of_not_cancelled hcancelled] at h
    have hmem := mem_of_first _ h
    simp only [List.mem_cons, Prod.mk.injEq, List.not_mem_nil, or_false] at hmem
    rcases hmem with ⟨ht, -⟩ | ⟨ht, -⟩ | ⟨ht, -⟩
    · exact Nat.le_of_lt (lt_of_not_cancelled hcancelled ht.symm)
    · obtain ⟨d, -, rfl⟩ := Option.map_eq_some_iff.1 ht.symm
      exact Nat.le_max_left _ _
    · exact le_of_ends ht.symm

theorem guard_of_precedes (hcancelled : c.isCancelled now = false)
    (hdeadline : Precedes c.cancelledAt c.deadline)
    (hends : Precedes c.cancelledAt (ends now work)) :
    ∃ t, c.cancelledAt = some t ∧ c.guard now work = some (.error .cancelled, t) := by
  obtain ⟨t, ht, hdeadline⟩ := hdeadline
  obtain ⟨_, ht', hends⟩ := hends
  obtain rfl := Option.some.inj (ht.symm.trans ht')
  refine ⟨t, ht, ?_⟩
  rw [guard_of_not_cancelled hcancelled, ht]
  refine first_append_cons ?_ [] (by simp)
  rw [List.forall_mem_cons, List.forall_mem_singleton]
  refine ⟨fun u hu => ?_, fun u hu => Nat.le_of_lt (hends u hu)⟩
  obtain ⟨d, hd, rfl⟩ := Option.map_eq_some_iff.1 hu
  exact Nat.le_trans (Nat.le_of_lt (hdeadline d hd)) (Nat.le_max_right _ _)

theorem guard_of_inTime (hcancelled : c.isCancelled now = false)
    (hdeadline : Precedes c.deadline c.cancelledAt) (hends : InTime c.deadline (ends now work)) :
    ∃ d, c.deadline = some d ∧ c.guard now work = some (.error deadlineExceeded, max now d) := by
  obtain ⟨d, hd, hlater⟩ := hdeadline
  refine ⟨d, hd, ?_⟩
  rw [guard_of_not_cancelled hcancelled, hd, Option.map_some]
  refine first_append_cons ?_ [(c.cancelledAt, Except.error Failure.cancelled)] ?_
  · rw [List.forall_mem_singleton]
    exact fun u hu => Nat.max_le.2 ⟨le_of_ends hu, hends d u hd hu⟩
  · rw [List.forall_mem_singleton]
    exact fun t ht => Nat.max_lt.2 ⟨lt_of_not_cancelled hcancelled ht, hlater t ht⟩

/-- Work that ends before the call does comes to its own outcome, and work that never ends goes on
for ever in a call that never does. -/
theorem guard_of_ends (hcancelled : c.isCancelled now = false)
    (hfirst : c.cancelledAt = none ∨ Precedes (ends now work) c.cancelledAt)
    (hsecond : c.deadline = none ∨ Precedes (ends now work) c.deadline) :
    c.guard now work = (ends now work).map (work.outcome, ·) := by
  rw [guard_of_not_cancelled hcancelled]
  cases hends : ends now work with
  | none =>
    simp only [hends, Precedes, reduceCtorEq, false_and, exists_false, or_false] at hfirst hsecond
    exact first_of_never _ (by simp [hfirst, hsecond])
  | some e =>
    refine first_append_cons (by simp) [(c.cancelledAt, Except.error Failure.cancelled),
      (c.deadline.map (max now), Except.error deadlineExceeded)] ?_
    have hlt : ∀ {u : Option Nat}, u = none ∨ Precedes (some e) u → ∀ t, u = some t → e < t := by
      rintro u (rfl | ⟨_, he, hu⟩) t ht
      · cases ht
      · obtain rfl := Option.some.inj he
        exact hu t ht
    rw [hends] at hfirst hsecond
    rw [List.forall_mem_cons, List.forall_mem_singleton]
    refine ⟨hlt hfirst, fun t ht => ?_⟩
    obtain ⟨d, hd, rfl⟩ := Option.map_eq_some_iff.1 ht
    exact Nat.lt_of_lt_of_le (hlt hsecond d hd) (Nat.le_max_right _ _)

/-- If neither the cancellation nor the deadline comes first, the end of the work precedes both. -/
theorem ends_precede {t d e : Option Nat} (hd : Apart t d) (he : Apart t e)
    (ht : ¬(Precedes t d ∧ Precedes t e)) (hdeadline : ¬(Precedes d t ∧ InTime d e)) :
    (t = none ∨ Precedes e t) ∧ (d = none ∨ Precedes e d) := by
  rcases t with _ | t <;> rcases d with _ | d <;> rcases e with _ | e <;>
    simp_all [Precedes, InTime, Apart] <;> omega

end Race

theorem settles_guard (c : CallContext) (now : Nat) (work : Work α) :
    c.Settles ⟨now, work, c.guard now work⟩ where
  unbegun h := ⟨admits_of_over (over?_of_cancelled h), guard_of_cancelled h work⟩
  expired h :=
    have ⟨f, hf, hover⟩ := over?_of_expired h
    ⟨admits_of_over hover, f, hf, guard_of_over hover work⟩
  cancelled := guard_of_precedes
  exceeded := guard_of_inTime
  own hcancelled hdeadline hends hnotCancelled hnotExceeded :=
    have ⟨hfirst, hsecond⟩ := ends_precede hdeadline hends hnotCancelled hnotExceeded
    guard_of_ends hcancelled hfirst hsecond

/-- Works under guard one after the other, each begun some time after the one before it, until one
goes on for ever. -/
def guardEach (c : CallContext) (now : Nat) : List (Nat × Work α) → List (Guarded α)
  | [] => []
  | (pause, work) :: rest =>
    let result := c.guard (now + pause) work
    ⟨now + pause, work, result⟩ :: match result with
      | none => []
      | some (_, later) => guardEach c later rest

/-- What is to come of a work that is put under guard once the clock has reached an instant: a call
that is over by then is over for the work. -/
structure Follows (c : CallContext) (instant : Nat) (g : Guarded α) : Prop where
  later : instant ≤ g.begun
  cancelled : c.isCancelled instant = true → g.result = some (.error .cancelled, g.begun)
  expired : c.deadline.any (· ≤ instant) = true → c.admits g.begun = false
    ∧ ∃ f, (f = .cancelled ∨ f = deadlineExceeded) ∧ g.result = some (.error f, g.begun)

section Sequence

variable {g : Guarded α} {instant : Nat} {works : List (Nat × Work α)}

theorem any_passed_of_le {t : Option Nat} (hle : now ≤ later) (h : t.any (· ≤ now) = true) :
    t.any (· ≤ later) = true := by
  cases t with
  | none => cases h
  | some t => exact decide_eq_true (Nat.le_trans (of_decide_eq_true h) hle)

theorem follows_of_le (h : c.Settles g) (hle : instant ≤ g.begun) : c.Follows instant g where
  later := hle
  cancelled hcancelled := (h.unbegun (any_passed_of_le hle hcancelled)).2
  expired hexpired := h.expired (any_passed_of_le hle hexpired)

/-- Each work is put under guard no earlier than the first may be. -/
theorem settles_of_mem (h : g ∈ c.guardEach now works) : now ≤ g.begun ∧ c.Settles g := by
  induction works generalizing now with
  | nil => simp [guardEach] at h
  | cons w rest ih =>
    obtain ⟨pause, work⟩ := w
    simp only [guardEach, List.mem_cons] at h
    rcases h with rfl | h
    · exact ⟨Nat.le_add_right _ _, settles_guard c _ work⟩
    · split at h
      · cases h
      · rename_i hguard
        have hlater := le_of_guard hguard
        obtain ⟨hle, hsettles⟩ := ih h
        exact ⟨by omega, hsettles⟩

theorem pairwise_guardEach : (c.guardEach now works).Pairwise fun g later =>
    ∀ o instant, g.result = some (o, instant) → c.Follows instant later := by
  induction works generalizing now with
  | nil => exact List.Pairwise.nil
  | cons w rest ih =>
    obtain ⟨pause, work⟩ := w
    rw [guardEach]
    refine List.pairwise_cons.2 ⟨fun later hlater o instant hresult => ?_, ?_⟩
    · simp only at hresult
      rw [hresult] at hlater
      obtain ⟨hle, hsettles⟩ := settles_of_mem hlater
      exact follows_of_le hsettles hle
    · split
      · exact List.Pairwise.nil
      · exact ih

end Sequence

/-- What comes of each work under guard goes by which of the cancellation, the deadline and its own
end comes first, and once the call is over, by one or the other, no work that follows is begun. -/
theorem guardEach_settles (c : CallContext) (now : Nat) (works : List (Nat × Work α)) :
    (∀ g ∈ c.guardEach now works, c.Settles g)
    ∧ (c.guardEach now works).Pairwise fun g later => ∀ o instant, g.result = some (o, instant) →
      c.Follows instant later :=
  ⟨fun _ hg => (settles_of_mem hg).2, pairwise_guardEach⟩

section Session

/-- A call that has until the instant 50 and is cancelled at the instant 90. -/
def session : CallContext := ⟨some 90, some 50⟩

/-- A quick work, one that never ends, and two that are done at once. -/
def chores : List (Nat × Work Nat) :=
  [(0, ⟨some 10, .ok 1⟩), (5, ⟨none, .ok 2⟩), (10, .done (.ok 3)), (40, .done (.ok 4))]

/-- The first work ends in time and the second does not. The third is put under guard after the
deadline and the last after the cancellation. -/
theorem chores_settle : ∃ quick endless late last : Guarded Nat,
    session.guardEach 0 chores = [quick, endless, late, last]
      ∧ quick.result = some (.ok 1, 10) ∧ endless.result = some (.error deadlineExceeded, 50)
      ∧ session.admits late.begun = false
      ∧ (∃ f, (f = .cancelled ∨ f = deadlineExceeded) ∧ late.result = some (.error f, 60))
      ∧ session.admits last.begun = false ∧ last.result = some (.error .cancelled, 100) := by
  obtain ⟨hsettles, hfollows⟩ := guardEach_settles session 0 chores
  have hchores : session.guardEach 0 chores =
      [⟨0, ⟨some 10, .ok 1⟩, some (.ok 1, 10)⟩,
        ⟨15, ⟨none, .ok 2⟩, some (.error deadlineExceeded, 50)⟩,
        ⟨60, .done (.ok 3), some (.error deadlineExceeded, 60)⟩,
        ⟨100, .done (.ok 4), some (.error .cancelled, 100)⟩] := rfl
  rw [hchores] at hsettles hfollows
  simp only [List.forall_mem_cons] at hsettles
  obtain ⟨hquick, hendless, -, hlast, -⟩ := hsettles
  obtain ⟨hafterEndless, -⟩ := List.pairwise_cons.1 (List.pairwise_cons.1 hfollows).2
  refine ⟨_, _, _, _, hchores, ?_, ?_, ?_⟩
  · exact hquick.own rfl (by simp [Apart, session]) (by simp [Apart, session, ends])
      (by simp [Precedes, session, ends]) (by simp [InTime, session, ends])
  · obtain ⟨d, hd, hexceeded⟩ := hendless.exceeded rfl ⟨50, rfl, by simp [session]⟩
      (by simp [InTime, ends])
    obtain rfl : 50 = d := Option.some.inj hd
    exact hexceeded
  · obtain ⟨hunbegun, hlate⟩ := (hafterEndless _ List.mem_cons_self _ 50 rfl).expired rfl
    exact ⟨hunbegun, hlate, hlast.unbegun rfl⟩

end Session

end CallContext

end Switchboard
