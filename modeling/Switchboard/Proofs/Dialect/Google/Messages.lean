import Switchboard.Dialect.Google.Messages
import Switchboard.Proofs.Dialect.Turns
import Switchboard.Proofs.Outcome

/-!
# Messages of the content dialect, one after the other

What a message is sent as depends on those before it only through the calls they made
(`Google.callsIn`), since the results of tools go by the names of these. A conversation is accepted
when each message can be sent after those before it (`Google.SaidAfter`), and then everything its
messages say is arranged in it (`Google.conversation_eq_ok_iff`).
-/

namespace Switchboard.Google

/-- The calls that parts make, the latest first. -/
def made (parts : List Part) : Calls :=
  ((parts.filterMap Part.toolCall?).map fun call => (call.1, call.2.1)).reverse

/-- The calls that messages make, the latest first. -/
def callsIn (ms : List Message) : Calls := made (ms.flatMap (·.content.toParts))

theorem made_append (parts more : List Part) : made (parts ++ more) = made more ++ made parts := by
  simp [made]

theorem callsIn_append (ms more : List Message) :
    callsIn (ms ++ more) = callsIn more ++ callsIn ms := by
  rw [callsIn, List.flatMap_append, made_append]
  rfl

theorem callsIn_singleton (m : Message) : callsIn [m] = made m.content.toParts := by
  simp [callsIn]

section Calls

variable {calls after : Calls}

theorem wirePart_calls {p : Part} {j : Json} (h : wirePart calls p = .ok (j, after)) :
    after = made [p] ++ calls := by
  cases p with
  | text t =>
    obtain ⟨-, rfl⟩ := Prod.mk.inj (Except.ok.inj h)
    rfl
  | image image =>
    simp only [wirePart, bind_eq_ok_iff, pure_eq_ok_iff, Prod.mk.injEq] at h
    obtain ⟨_, -, _, -, -, rfl⟩ := h
    rfl
  | toolCall id name arguments =>
    obtain ⟨-, rfl⟩ := Prod.mk.inj (Except.ok.inj h)
    rfl
  | toolResult callId content isError =>
    simp only [wirePart] at h
    split at h
    · obtain ⟨-, rfl⟩ := Prod.mk.inj (Except.ok.inj h)
      rfl
    · cases h

theorem wireParts_calls : ∀ {parts : List Part} {calls after : Calls} {js : List Json},
    wireParts calls parts = .ok (js, after) → after = made parts ++ calls
  | [], calls, after, js, h => by
    obtain ⟨-, rfl⟩ := Prod.mk.inj (Except.ok.inj h)
    rfl
  | p :: rest, calls, after, js, h => by
    simp only [wireParts, bind_eq_ok_iff, pure_eq_ok_iff, Prod.exists, Prod.mk.injEq] at h
    obtain ⟨j, between, hp, js, after', hrest, -, rfl⟩ := h
    rw [wireParts_calls hrest, wirePart_calls hp, ← List.append_assoc, ← made_append]
    rfl

/-- A message adds the calls it makes to those made before it. -/
theorem messageParts_calls {m : Message} {js : List Json}
    (h : messageParts calls m = .ok (js, after)) : after = callsIn [m] ++ calls := by
  rw [callsIn_singleton]
  unfold messageParts at h
  split at h
  · rename_i t hcontent
    rw [hcontent]
    split_ifs at h
    obtain ⟨-, rfl⟩ := Prod.mk.inj (Except.ok.inj h)
    rfl
  · rename_i parts hcontent
    rw [hcontent]
    exact wireParts_calls h

end Calls

/-- What messages say that come after others: each under its role, with its parts as they are sent
once all calls before it have been made. -/
inductive SaidAfter : List Message → List Message → List (Role × List Json) → Prop
  | nil {before : List Message} : SaidAfter before [] []
  | cons {before ms : List Message} {m : Message} {parts : List Json} {calls : Calls}
      {said : List (Role × List Json)} :
      messageParts (callsIn before) m = .ok (parts, calls) → SaidAfter (before ++ [m]) ms said →
      SaidAfter before (m :: ms) ((m.role, parts) :: said)

namespace SaidAfter

variable {before ms more : List Message} {said next : List (Role × List Json)}

theorem append (h : SaidAfter before ms said) (hmore : SaidAfter (before ++ ms) more next) :
    SaidAfter before (ms ++ more) (said ++ next) := by
  induction h with
  | nil => simpa using hmore
  | cons hm _ ih =>
    refine .cons hm (ih ?_)
    simpa using hmore

end SaidAfter

theorem translateAfter_eq_ok_iff : ∀ {ms before : List Message} {said : List (Role × List Json)},
    translateAfter (callsIn before) ms = .ok said ↔ SaidAfter before ms said
  | [], before, said => by
    constructor
    · intro h
      obtain rfl := Except.ok.inj h
      exact .nil
    · rintro ⟨⟩
      rfl
  | m :: ms, before, said => by
    have hafter : ∀ {parts : List Json} {calls : Calls},
        messageParts (callsIn before) m = .ok (parts, calls) → calls = callsIn (before ++ [m]) :=
      fun h => by rw [messageParts_calls h, callsIn_append]
    simp only [translateAfter, bind_eq_ok_iff, pure_eq_ok_iff, Prod.exists]
    constructor
    · rintro ⟨parts, calls, hm, rest, hrest, rfl⟩
      rw [hafter hm] at hrest
      exact .cons hm (translateAfter_eq_ok_iff.1 hrest)
    · rintro (_ | ⟨hm, hrest⟩)
      rw [← translateAfter_eq_ok_iff, ← hafter hm] at hrest
      exact ⟨_, _, hm, _, hrest, rfl⟩

theorem turnRole?_eq_wire? (role : Role) : turnRole? role = role.wire? "model" := by
  cases role <;> rfl

/-- A conversation is what its messages say, with the turns of each role merged. -/
theorem conversation_eq_ok_iff {ms : List Message} {c : Conversation} :
    conversation ms = .ok c ↔ ∃ said, SaidAfter [] ms said
      ∧ c = ⟨(said.filter (·.1 = .system)).flatMap Prod.snd,
          Turn.merge (Turn.spoken "model" said)⟩ := by
  simp only [conversation, bind_eq_ok_iff, pure_eq_ok_iff]
  constructor
  · rintro ⟨said, hsaid, rfl⟩
    refine ⟨said, translateAfter_eq_ok_iff.1 hsaid, ?_⟩
    rw [flatten_system, filterMap_eq_spoken turnRole?_eq_wire?]
  · rintro ⟨said, hsaid, rfl⟩
    refine ⟨said, translateAfter_eq_ok_iff.2 hsaid, ?_⟩
    rw [flatten_system, filterMap_eq_spoken turnRole?_eq_wire?]

end Switchboard.Google
