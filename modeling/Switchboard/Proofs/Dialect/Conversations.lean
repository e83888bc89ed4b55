import Switchboard.Dialect.Anthropic.Messages
import Switchboard.Proofs.Dialect.Google.Messages

/-!
# Conversations with turns

The dialects whose conversations have turns arrange them alike: what the system says stands apart
wherever it was said, the turns alternate, and every block of every message is in its place
(`conversations_arranged`).
-/

namespace Switchboard

namespace Anthropic

theorem turnRole?_eq_wire? (role : Role) : turnRole? role = role.wire? "assistant" := by
  cases role <;> rfl

/-- What messages say: each under its role, with its blocks. -/
def Said (ms : List Message) (said : List (Role × List Json)) : Prop :=
  List.Forall₂ (fun m s => s.1 = m.role ∧ blocks m = .ok s.2) ms said

theorem translate_eq_ok_iff {ms : List Message} {c : Conversation} :
    translate ms = .ok c ↔ ∃ said, Said ms said
      ∧ c = ⟨(said.filter (·.1 = .system)).flatMap Prod.snd,
          Turn.merge (Turn.spoken "assistant" said)⟩ := by
  have hsaid : ∀ {said : List (Role × List Json)},
      (ms.mapM fun m => do return (m.role, ← blocks m)) = Except.ok said ↔ Said ms said := by
    intro said
    rw [mapM_eq_ok_iff, Said]
    refine iff_of_eq (congrFun (congrFun (congrArg _ ?_) _) _)
    funext m s
    simp only [bind_eq_ok_iff, pure_eq_ok_iff, eq_iff_iff]
    constructor
    · rintro ⟨bs, hbs, rfl⟩
      exact ⟨rfl, hbs⟩
    · rintro ⟨hrole, hbs⟩
      exact ⟨s.2, hbs, by rw [← hrole]⟩
  simp only [translate, bind_eq_ok_iff, pure_eq_ok_iff, hsaid]
  constructor
  · rintro ⟨said, hsaid, rfl⟩
    refine ⟨said, hsaid, ?_⟩
    rw [flatten_system, filterMap_eq_spoken turnRole?_eq_wire?]
  · rintro ⟨said, hsaid, rfl⟩
    refine ⟨said, hsaid, ?_⟩
    rw [flatten_system, filterMap_eq_spoken turnRole?_eq_wire?]

end Anthropic

/-- Whatever conversation is accepted, its blocks are arranged: no two turns of one role stand next
to each other, and nothing is lost or moved. The dialect of messages takes none without turns. -/
theorem conversations_arranged :
    (∀ (ms : List Message) (c : Anthropic.Conversation), Anthropic.conversation ms = .ok c →
      c.turns ≠ [] ∧ ∃ said, Anthropic.Said ms said ∧ Arranged "assistant" said c.system c.turns)
    ∧ ∀ (ms : List Message) (c : Google.Conversation), Google.conversation ms = .ok c →
      ∃ said, Google.SaidAfter [] ms said ∧ Arranged "model" said c.system c.turns := by
  constructor
  · intro ms c h
    obtain ⟨translated, htranslated, hturns⟩ := bind_eq_ok_iff.1 h
    split_ifs at hturns with hempty
    obtain rfl := pure_eq_ok_iff.1 hturns
    obtain ⟨said, hsaid, rfl⟩ := Anthropic.translate_eq_ok_iff.1 htranslated
    exact ⟨fun hnil => hempty (List.isEmpty_iff.2 hnil), said, hsaid,
      arranged_merge "assistant" said⟩
  · intro ms c h
    obtain ⟨said, hsaid, rfl⟩ := Google.conversation_eq_ok_iff.1 h
    exact ⟨said, hsaid, arranged_merge "model" said⟩

section Search

/-- The system speaks between two messages of the user, of which the second says nothing. -/
def searchMessages : List Message := [
  .of .system (.text "Be brief."), .of .user (.text "Find it."), .of .system (.text "In English."),
  .of .user (.parts []), .of .assistant (.parts [.toolCall "a" "find" (.obj [])]),
  .of .tool (.parts [.toolResult "a" "found" false]), .of .user (.text "Thanks.")]

theorem search_arranged :
    ∃ c g, Anthropic.conversation searchMessages = .ok c
      ∧ Google.conversation searchMessages = .ok g
      ∧ c.turns ≠ [] ∧ (c.turns.map Turn.role).IsChain (· ≠ ·)
      ∧ (g.turns.map Turn.role).IsChain (· ≠ ·)
      ∧ c.turns = [⟨"user", [Anthropic.textBlock "Find it."]⟩,
          ⟨"assistant", [Anthropic.callBlock "a" "find" (.obj [])]⟩,
          ⟨"user", [Anthropic.resultBlock "a" "found" false, Anthropic.textBlock "Thanks."]⟩]
      ∧ g.system = [Google.textPart "Be brief.", Google.textPart "In English."] := by
  have hc : ∃ c, Anthropic.conversation searchMessages = .ok c := ⟨_, rfl⟩
  have hg : ∃ g, Google.conversation searchMessages = .ok g := ⟨_, rfl⟩
  obtain ⟨c, hc⟩ := hc
  obtain ⟨g, hg⟩ := hg
  obtain ⟨hnonempty, _, -, harranged⟩ := conversations_arranged.1 _ c hc
  obtain ⟨_, -, hmodel⟩ := conversations_arranged.2 _ g hg
  refine ⟨c, g, hc, hg, hnonempty, harranged.alternating, hmodel.alternating, ?_, ?_⟩
  · obtain rfl := Except.ok.inj hc
    rfl
  · obtain rfl := Except.ok.inj hg
    rfl

end Search

end Switchboard
