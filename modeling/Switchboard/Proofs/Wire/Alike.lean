import Mathlib.Data.List.Forall2
import Mathlib.Tactic.SplitIfs
import Switchboard.Proofs.Stream.Delivery
import Switchboard.Provider.Basic

/-!
# Networks that answer alike

Networks may differ in no more than the bodies of the answers of success they give. What is done
over them under the guard of a call then comes to outcomes that are alike at the same time
(`CallContext.guard_alike`). So it ends the same for whoever reads alike values to the same end
(`Served.ofExchange_eq`) or hears the same in the events of a stream (`Network.postStream_eq`).
-/

namespace Switchboard

variable {α β : Type} {R : α → β → Prop}

/-- Outcomes that are one failure, or results that are alike. -/
inductive Outcome.Alike (R : α → β → Prop) : Outcome α → Outcome β → Prop
  | ok {a : α} {b : β} : R a b → Alike R (.ok a) (.ok b)
  | error (f : Failure) : Alike R (.error f) (.error f)

/-- What happens at the same time to results that are alike, if it ever happens. -/
abbrev AlikeInTime (R : α → β → Prop) : Option (α × Nat) → Option (β × Nat) → Prop :=
  Option.Rel fun x y => R x.1 y.1 ∧ x.2 = y.2

/-- Works that take the same time to outcomes that are alike. -/
structure Work.Alike (R : α → β → Prop) (work : Work α) (work' : Work β) : Prop where
  takes : work'.takes = work.takes
  outcome : Outcome.Alike R work.outcome work'.outcome

namespace CallContext

theorem first_alike {events : List (Option Nat × α)} {events' : List (Option Nat × β)}
    (h : List.Forall₂ (fun e e' => e.1 = e'.1 ∧ R e.2 e'.2) events events') :
    AlikeInTime R (first events) (first events') := by
  induction h with
  | nil => exact .none
  | @cons e e' rest rest' he hrest ih =>
    obtain ⟨t, x⟩ := e
    obtain ⟨t', x'⟩ := e'
    obtain ⟨rfl, hx⟩ := he
    cases t with
    | none => exact ih
    | some t =>
      simp only [first]
      rcases hfirst : first rest with _ | ⟨y, u⟩ <;>
        rcases hfirst' : first rest' with _ | ⟨y', u'⟩ <;> rw [hfirst, hfirst'] at ih <;> cases ih
      · exact .some ⟨hx, rfl⟩
      · rename_i hy
        obtain ⟨hy, rfl⟩ := hy
        simp only []
        split_ifs
        · exact .some ⟨hy, rfl⟩
        · exact .some ⟨hx, rfl⟩

theorem guard_alike {work : Work α} {work' : Work β} (c : CallContext) (now : Nat)
    (h : work.Alike R work') :
    AlikeInTime (Outcome.Alike R) (c.guard now work) (c.guard now work') := by
  unfold guard
  rw [h.takes]
  split_ifs
  · exact .some ⟨.error _, rfl⟩
  · exact first_alike (.cons ⟨rfl, .error _⟩ (.cons ⟨rfl, .error _⟩ (.cons ⟨rfl, h.outcome⟩ .nil)))

end CallContext

theorem Outcome.Alike.refl {R : α → α → Prop} (hrefl : ∀ a, R a a) (o : Outcome α) :
    Outcome.Alike R o o := by
  cases o with
  | ok a => exact .ok (hrefl a)
  | error f => exact .error f

theorem Work.Alike.refl {R : α → α → Prop} (hrefl : ∀ a, R a a) (work : Work α) :
    work.Alike R work :=
  ⟨rfl, .refl hrefl work.outcome⟩

section Exchanges

variable {γ : Type} {e : Exchanged α} {e' : Exchanged β}

/-- Exchanges that send the same and come to results that are alike. -/
structure Exchanged.Alike (R : α → β → Prop) (e : Exchanged α) (e' : Exchanged β) : Prop where
  outcome : AlikeInTime (Outcome.Alike R) e.outcome e'.outcome
  sent : e'.sent = e.sent

theorem Exchanged.Alike.bind {δ : Type} {S : γ → δ → Prop} (h : e.Alike R e')
    {f : α → Nat → Option (Outcome γ × Nat)} {f' : β → Nat → Option (Outcome δ × Nat)}
    (hf : ∀ a b now, R a b → AlikeInTime (Outcome.Alike S) (f a now) (f' b now)) :
    (e.bind f).Alike S (e'.bind f') := by
  obtain ⟨outcome, sent⟩ := e
  obtain ⟨outcome', _⟩ := e'
  obtain ⟨houtcome, rfl⟩ := h
  refine ⟨?_, rfl⟩
  cases houtcome with
  | none => exact .none
  | @some x y hxy =>
    obtain ⟨o, now⟩ := x
    obtain ⟨o', _⟩ := y
    obtain ⟨ho, rfl⟩ := hxy
    cases ho with
    | ok hab => exact hf _ _ now hab
    | error f => exact .some ⟨.error f, rfl⟩

/-- Reading results that are alike to the same end, exchanges end the same. -/
theorem Served.ofExchange_eq (h : e.Alike R e') {read : α → Nat → Outcome γ}
    {read' : β → Nat → Outcome γ} (hread : ∀ a b now, R a b → read' b now = read a now) :
    Served.ofExchange e' read' = Served.ofExchange e read := by
  obtain ⟨outcome, sent⟩ := e
  obtain ⟨outcome', _⟩ := e'
  obtain ⟨houtcome, rfl⟩ := h
  cases houtcome with
  | none => rfl
  | @some x y hxy =>
    obtain ⟨o, now⟩ := x
    obtain ⟨o', _⟩ := y
    obtain ⟨ho, rfl⟩ := hxy
    cases ho with
    | ok hab =>
      simp only [ofExchange, Option.map_some, bind, Except.bind, hread _ _ now hab]
    | error f => rfl

end Exchanges

section Pumps

variable {σ : Type} {d : Decoder σ} {sink : Sink} {last : Work Unit}
  {T : ServerEvent → ServerEvent → Prop}

theorem Flow.take_alike (hT : ∀ state event event', T event event' →
      d.hear state event' = d.hear state event) {event event' : ServerEvent}
    (h : T event event') (f : Flow σ) : f.take d sink event' = f.take d sink event := by
  rw [take_eq, take_eq, hT _ _ _ h]

theorem Flow.pump_alike (hT : ∀ state event event', T event event' →
      d.hear state event' = d.hear state event) {pulls pulls' : List (Work ServerEvent)}
    (h : List.Forall₂ (Work.Alike T) pulls pulls') : ∀ (f : Flow σ) (pulled : Nat),
      f.pump d sink last pulled pulls' = f.pump d sink last pulled pulls := by
  induction h with
  | nil => exact fun _ _ => rfl
  | @cons work work' rest rest' hwork hrest ih =>
    intro f pulled
    have hguard := f.intake.context.guard_alike f.intake.now hwork
    rw [pump, pump]
    revert hguard
    generalize f.intake.context.guard f.intake.now work = g
    generalize f.intake.context.guard f.intake.now work' = g'
    intro hguard
    cases hguard with
    | none => rfl
    | @some x y hxy =>
      obtain ⟨o, now⟩ := x
      obtain ⟨o', _⟩ := y
      obtain ⟨ho, rfl⟩ := hxy
      cases ho with
      | error e => rfl
      | ok hevent =>
        simp only [take_alike hT hevent]
        split
        · rfl
        · rfl
        · exact ih _ _

end Pumps

section Answers

variable {B : List UInt8 → List UInt8 → Prop} {S : Json → Json → Prop}

/-- One answer, or two answers of success with bodies that are alike. -/
inductive Answer.Alike (B : List UInt8 → List UInt8 → Prop) : Answer → Answer → Prop
  | refl (a : Answer) : Alike B a a
  | bodies {status : Nat} {body body' : List UInt8} {ending : Work Unit} :
      HttpStatus.isSuccess status = true → B body body' →
      Alike B ⟨status, body, ending⟩ ⟨status, body', ending⟩

/-- Each request comes to answers that are alike, in the same time. -/
def Network.Alike (B : List UInt8 → List UInt8 → Prop) (network network' : Network) : Prop :=
  ∀ r, (network r).Alike (Answer.Alike B) (network' r)

/-- Bodies that hold values that are alike. -/
def Json.HeldAlike (S : Json → Json → Prop) (body body' : List UInt8) : Prop :=
  ∃ j j', ofBytes? body = some j ∧ ofBytes? body' = some j' ∧ S j j'

/-- Bodies with events that are alike, one by one. -/
def ServerEvent.FramedAlike (T : ServerEvent → ServerEvent → Prop)
    (body body' : List UInt8) : Prop :=
  List.Forall₂ T (ofBytes body).1 (ofBytes body').1 ∧ (ofBytes body').2 = (ofBytes body).2

theorem Network.Alike.mono {B' : List UInt8 → List UInt8 → Prop}
    (hB : ∀ body body', B body body' → B' body body') {network network' : Network}
    (h : network.Alike B network') : network.Alike B' network' := fun r => by
  obtain ⟨htakes, houtcome⟩ := h r
  refine ⟨htakes, ?_⟩
  revert houtcome
  generalize (network r).outcome = o
  generalize (network' r).outcome = o'
  rintro (ha | f)
  · cases ha with
    | refl => exact .ok (.refl _)
    | bodies hsuccess hbodies => exact .ok (.bodies hsuccess (hB _ _ hbodies))
  · exact .error f

theorem accepted_alike {work work' : Work Answer} (h : work.Alike (Answer.Alike B) work') :
    (Answer.accepted work).Alike (Answer.Alike B) (Answer.accepted work') := by
  obtain ⟨takes, outcome⟩ := work
  obtain ⟨_, outcome'⟩ := work'
  obtain ⟨rfl, houtcome⟩ := h
  cases houtcome with
  | error f => exact .refl .refl _
  | ok ha =>
    cases ha with
    | refl a => exact .refl .refl _
    | bodies hsuccess hbodies =>
      simp only [Answer.accepted, hsuccess, ↓reduceIte]
      exact ⟨rfl, .ok (.bodies hsuccess hbodies)⟩

theorem post_alike {network network' : Network} (h : network.Alike B network') (c : CallContext)
    (now : Nat) (r : WireRequest) :
    (network.post c now r).Alike (Answer.Alike B) (network'.post c now r) := by
  unfold Network.post
  split
  · exact ⟨c.guard_alike now (.refl .refl _), rfl⟩
  · exact ⟨c.guard_alike now (accepted_alike (h r)), rfl⟩

theorem value_alike (hrefl : ∀ j, S j j) {a a' : Answer}
    (h : a.Alike (Json.HeldAlike S) a') : a.value.Alike S a'.value := by
  cases h with
  | refl a => exact .refl hrefl _
  | @bodies status body body' ending hsuccess hbodies =>
    obtain ⟨j, j', hj, hj', hS⟩ := hbodies
    refine ⟨rfl, ?_⟩
    simp only [Answer.value, hj, hj']
    rcases ending.outcome with f | _
    · exact .error _
    · exact .ok hS

theorem postJson_alike (hrefl : ∀ j, S j j) {network network' : Network}
    (h : network.Alike (Json.HeldAlike S) network') (c : CallContext) (now : Nat)
    (r : WireRequest) : (network.postJson c now r).Alike S (network'.postJson c now r) := by
  exact (post_alike h c now r).bind fun a a' now ha =>
    c.guard_alike now (value_alike hrefl ha)

theorem events_alike {T : ServerEvent → ServerEvent → Prop} (hrefl : ∀ event, T event event)
    {a a' : Answer} (h : a.Alike (ServerEvent.FramedAlike T) a') :
    List.Forall₂ (Work.Alike T) a.events.1 a'.events.1 ∧ a'.events.2 = a.events.2 := by
  cases h with
  | refl a => exact ⟨List.forall₂_same.2 fun _ _ => .refl hrefl _, rfl⟩
  | @bodies status body body' ending hsuccess hbodies =>
    obtain ⟨hevents, htext⟩ := hbodies
    refine ⟨?_, ?_⟩
    · simp only [Answer.events]
      rw [List.forall₂_map_left_iff, List.forall₂_map_right_iff]
      exact hevents.imp fun _ _ hevent => ⟨rfl, .ok hevent⟩
    · simp only [Answer.events, htext]

theorem Network.postStream_eq {σ : Type} {d : Decoder σ} {sink : Sink}
    {T : ServerEvent → ServerEvent → Prop} (hrefl : ∀ event, T event event)
    (hT : ∀ state event event', T event event' → d.hear state event' = d.hear state event)
    {network network' : Network} (h : network.Alike (ServerEvent.FramedAlike T) network')
    (c : CallContext) (now : Nat) (r : WireRequest) (id model : String) :
    network'.postStream c now r d id model sink = network.postStream c now r d id model sink := by
  have hpost := post_alike h c now r
  unfold Network.postStream
  revert hpost
  generalize network.post c now r = e
  generalize network'.post c now r = e'
  rintro ⟨houtcome, hsent⟩
  obtain ⟨outcome, sent⟩ := e
  obtain ⟨outcome', _⟩ := e'
  obtain rfl := hsent
  cases houtcome with
  | none => rfl
  | @some x y hxy =>
    obtain ⟨o, now⟩ := x
    obtain ⟨o', _⟩ := y
    obtain ⟨ho, rfl⟩ := hxy
    cases ho with
    | error f => rfl
    | ok ha =>
      obtain ⟨hevents, hlast⟩ := events_alike hrefl ha
      simp only [pumpStream, hlast, Flow.pump_alike hT hevents]

end Answers

end Switchboard
