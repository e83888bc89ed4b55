import Switchboard.Dialect.OpenAI.Messages
import Switchboard.Proofs.Outcome

/-!
# What the chat completions dialect can say

Each message is translated by itself. It can be said or not by what it holds
(`OpenAI.Representable`), and what cannot be said is refused in one of two ways, for its role or for
its content (`OpenAI.refusal_of_wireMessages`). So a conversation is accepted when each of its
messages is, fails as its first message that cannot be said fails, and is translated piece by piece
(`OpenAI.messages_each`).
-/

namespace Switchboard.OpenAI

/-- An image tells where its bytes are: inline data comes with a media type, and where there is no
data there is a URL. -/
def Resolvable (image : Image) : Prop :=
  (image.data.isSome ∧ image.mimeType.isSome) ∨ (image.data = none ∧ image.url.isSome)

/-- What may stand in a message that is not of the tool role. -/
def Sayable (d : Dialect) (role : Role) : Part → Prop
  | .text _ => True
  | .image image => d.images = true ∧ Resolvable image
  | .toolCall .. => role = .assistant
  | .toolResult .. => False

def IsResult (p : Part) : Prop := ∃ callId content isError, p = .toolResult callId content isError

/-- A message that an endpoint can be told by itself. -/
def Representable (d : Dialect) (m : Message) : Prop :=
  if m.role = .tool then
    d.toolRole = true ∧ ∃ parts, m.content = .parts parts ∧ ∀ p ∈ parts, IsResult p
  else ∀ parts, m.content = .parts parts → ∀ p ∈ parts, Sayable d m.role p

section Parts

variable {d : Dialect} {role : Role} {p : Part} {e : Failure}

theorem exists_source_iff {image : Image} :
    (∃ source, image.source = .ok source) ↔ Resolvable image := by
  obtain ⟨url, data, mimeType⟩ := image
  cases data with
  | some data => cases mimeType <;> simp [Image.source, Resolvable]
  | none =>
    cases url with
    | none => simp [Image.source, Resolvable]
    | some url =>
      simp only [Image.source, Resolvable]
      split <;> simp

theorem untranslatable_of_source {image : Image} (h : image.source = .error e) :
    ∃ text, e = .untranslatable text := by
  unfold Image.source at h
  split at h
  · cases h
  · exact ⟨_, (Except.error.inj h).symm⟩
  · split at h <;> cases h
  · exact ⟨_, (Except.error.inj h).symm⟩

theorem exists_entry_iff : (∃ x, entry d role p = .ok x) ↔ Sayable d role p := by
  cases p with
  | text t => simp [entry, Sayable]
  | image image =>
    rw [Sayable, ← exists_source_iff, entry]
    by_cases himages : d.images = true
    · rw [if_pos himages, exists_bind_pure_iff]
      simp [himages]
    · simp [himages]
  | toolCall id name arguments =>
    by_cases hrole : role = .assistant <;> simp [entry, Sayable, hrole]
  | toolResult callId content isError => simp [entry, Sayable]

theorem untranslatable_of_entry (h : entry d role p = .error e) :
    ∃ text, e = .untranslatable text := by
  cases p with
  | text t => cases h
  | image image =>
    simp only [entry] at h
    split_ifs at h
    · rcases bind_eq_error_iff.1 h with h | ⟨source, -, h⟩
      · exact untranslatable_of_source h
      · cases h
    · exact ⟨_, (Except.error.inj h).symm⟩
  | toolCall id name arguments =>
    simp only [entry] at h
    split_ifs at h
    exact ⟨_, (Except.error.inj h).symm⟩
  | toolResult callId content isError => exact ⟨_, (Except.error.inj h).symm⟩

theorem exists_result_iff : (∃ x, result p = .ok x) ↔ IsResult p := by
  cases p <;> simp [result, IsResult]

theorem untranslatable_of_result (h : result p = .error e) : ∃ text, e = .untranslatable text := by
  cases p with
  | toolResult callId content isError => cases h
  | _ => exact ⟨_, (Except.error.inj h).symm⟩

end Parts

section Messages

variable {d : Dialect} {m : Message} {e : Failure}

theorem exists_wireMessages_iff : (∃ ws, wireMessages d m = .ok ws) ↔ Representable d m := by
  unfold wireMessages Representable
  split_ifs with hrole htool
  · simp [show d.toolRole = false by simpa using htool]
  · have htool : d.toolRole = true := by simpa using htool
    cases m.content with
    | text t => simp
    | parts parts => simp [htool, exists_mapM_eq_ok_iff, exists_result_iff]
  · cases m.content with
    | text t => simp
    | parts parts =>
      rw [exists_bind_pure_iff, exists_mapM_eq_ok_iff]
      simp [exists_entry_iff]

/-- A message that cannot be said is refused for its role where the endpoint has no such role, and
for its content otherwise. -/
theorem refusal_of_wireMessages (h : wireMessages d m = .error e) :
    if m.role = .tool ∧ d.toolRole = false then e = .unsupportedRole d.family.name "tool"
    else ∃ text, e = .untranslatable text := by
  unfold wireMessages at h
  split_ifs at h with hrole htool
  · rw [if_pos ⟨hrole, by simpa using htool⟩]
    exact (Except.error.inj h).symm
  · rw [if_neg fun hboth => htool (by simp [hboth.2])]
    split at h
    · exact ⟨_, (Except.error.inj h).symm⟩
    · obtain ⟨-, p, -, -, -, hp⟩ := mapM_eq_error_iff.1 h
      exact untranslatable_of_result hp
  · rw [if_neg fun hboth => hrole hboth.1]
    split at h
    · cases h
    · rcases bind_eq_error_iff.1 h with h | ⟨entries, -, h⟩
      · obtain ⟨-, p, -, -, -, hp⟩ := mapM_eq_error_iff.1 h
        exact untranslatable_of_entry hp
      · cases h

theorem messages_eq_ok_iff {ms : List Message} {ws : List Json} : messages d ms = .ok ws ↔
    ∃ wss, List.Forall₂ (fun m ws => wireMessages d m = .ok ws) ms wss ∧ wss.flatten = ws := by
  simp only [messages, bind_eq_ok_iff, pure_eq_ok_iff, mapM_eq_ok_iff]

theorem messages_eq_error_iff {ms : List Message} :
    messages d ms = .error e ↔ ms.mapM (wireMessages d) = .error e := by
  rw [messages, bind_eq_error_iff]
  simp [pure, Except.pure]

end Messages

/-- A conversation is accepted exactly when each of its messages can be said. When it is refused,
the failure is that of its first message that cannot be said. What is said together is what is said
one after the other. -/
theorem messages_each (d : Dialect) :
    (∀ ms, (∃ ws, messages d ms = .ok ws) ↔ ∀ m ∈ ms, Representable d m)
    ∧ (∀ ms e, messages d ms = .error e → ∃ before m after, ms = before ++ m :: after
      ∧ (∀ x ∈ before, Representable d x) ∧ ¬Representable d m ∧ messages d [m] = .error e
      ∧ if m.role = .tool ∧ d.toolRole = false then e = .unsupportedRole d.family.name "tool"
        else ∃ text, e = .untranslatable text)
    ∧ ∀ ms more ws vs, messages d ms = .ok ws → messages d more = .ok vs →
      messages d (ms ++ more) = .ok (ws ++ vs) := by
  refine ⟨fun ms => ?_, fun ms e h => ?_, fun ms more ws vs h hmore => ?_⟩
  · rw [messages, exists_bind_pure_iff, exists_mapM_eq_ok_iff]
    simp only [exists_wireMessages_iff]
  · rw [messages_eq_error_iff] at h
    obtain ⟨before, m, after, rfl, hbefore, hm⟩ := mapM_eq_error_iff.1 h
    refine ⟨before, m, after, rfl, fun x hx => exists_wireMessages_iff.1 (hbefore x hx), ?_, ?_,
      refusal_of_wireMessages hm⟩
    · rw [← exists_wireMessages_iff, hm]
      simp
    · exact messages_eq_error_iff.2 (mapM_eq_error_iff.2 ⟨[], m, [], rfl, by simp, hm⟩)
  · obtain ⟨wss, hws, rfl⟩ := messages_eq_ok_iff.1 h
    obtain ⟨vss, hvs, rfl⟩ := messages_eq_ok_iff.1 hmore
    exact messages_eq_ok_iff.2 ⟨wss ++ vss, List.rel_append hws hvs, List.flatten_append⟩

section Refusal

/-- An endpoint that has neither the tool role nor images. -/
def plain : Dialect := ⟨.internal, false, false⟩

/-- Neither the second message nor the third can be said. -/
def heardMessages : List Message := [
  .of .user (.text "Find it."), .toolResult "a" "found",
  .of .user (.parts [.image ⟨none, none, none⟩])]

theorem heard_refused :
    messages plain heardMessages = .error (.unsupportedRole "internal" "tool")
    ∧ (¬∀ m ∈ heardMessages, Representable plain m)
    ∧ (∃ before m after, heardMessages = before ++ m :: after
      ∧ messages plain [m] = .error (.unsupportedRole "internal" "tool"))
    ∧ messages plain [.of .user (.text "Find it."), .of .system (.text "Be brief.")] =
      .ok [.mkObj [("role", "user"), ("content", "Find it.")],
        .mkObj [("role", "system"), ("content", "Be brief.")]] := by
  have hrefused : messages plain heardMessages = .error (.unsupportedRole "internal" "tool") := rfl
  obtain ⟨hrepresentable, hfirst, htogether⟩ := messages_each plain
  obtain ⟨before, m, after, hms, -, -, hm, -⟩ := hfirst _ _ hrefused
  refine ⟨hrefused, ?_, ⟨before, m, after, hms, hm⟩, htogether [_] [_] [_] [_] rfl rfl⟩
  rw [← hrepresentable, hrefused]
  simp

end Refusal

end Switchboard.OpenAI
