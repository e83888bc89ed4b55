import Switchboard.Proofs.Dialect.Requests
import Switchboard.Proofs.Json.Written

/-!
# Where tool traffic goes

A block goes where the role of its message goes, into a turn or to what the system says, whatever it
is (`onlyIn_iff`). So calls and results are in their right turns if and only if the caller put them
into the right messages. Of the dialects with turns one looks at the roles of calls, and none at
those of results (`traffic_placed`).
-/

namespace Switchboard

open OpenAI (IsResult)

def IsCall (p : Part) : Prop := ∃ id name arguments, p = .toolCall id name arguments

def Message.Holds (kind : Part → Prop) (m : Message) : Prop := ∃ p ∈ m.content.toParts, kind p

/-- The blocks of a kind are all in turns of one role. -/
structure OnlyIn (kind : Json → Prop) (role : String) (system : List Json) (turns : List Turn) :
    Prop where
  system : ∀ b ∈ system, ¬kind b
  turns : ∀ t ∈ turns, ∀ b ∈ t.blocks, kind b → t.role = role

/-- What is sent of a message keeps its role, and is of a kind where its parts are. -/
def Keeps (kind : Json → Prop) (partKind : Part → Prop) (m : Message) (s : Role × List Json) :
    Prop :=
  s.1 = m.role ∧ List.Forall₂ (fun p b => kind b ↔ partKind p) m.content.toParts s.2

section Arranged

variable {speaker role : String} {said : List (Role × List Json)} {system : List Json}
  {turns : List Turn} {kind : Json → Prop} {partKind : Part → Prop} {ms : List Message}

theorem wire?_eq_none_iff {r : Role} : r.wire? speaker = none ↔ r = .system := by
  cases r <;> simp [Role.wire?]

/-- What is true of each block in the turns is true of each in the runs that they are made of. -/
theorem Turn.forall_blocks_iff {runs : List (List Turn)} (P : String → Json → Prop)
    (h : List.Forall₂ Turn.Joins turns runs) :
    (∀ t ∈ turns, ∀ b ∈ t.blocks, P t.role b) ↔ ∀ u ∈ runs.flatten, ∀ b ∈ u.blocks, P u.role b := by
  induction h with
  | nil => simp
  | @cons t run turns runs ht _ ih =>
    rw [List.forall_mem_cons, List.flatten_cons, List.forall_mem_append, ih, ht.blocks,
      List.forall_mem_flatMap]
    refine and_congr_left fun _ => forall₂_congr fun u hu => ?_
    rw [ht.role u hu]

theorem Turn.forall_spoken_iff (P : String → Json → Prop) :
    (∀ u ∈ Turn.spoken speaker said, ∀ b ∈ u.blocks, P u.role b) ↔
      ∀ s ∈ said, ∀ b ∈ s.2, ∀ wire, s.1.wire? speaker = some wire → P wire b := by
  simp only [Turn.spoken, List.mem_filterMap, Option.map_eq_some_iff]
  constructor
  · intro h s hs b hb wire hwire
    exact h _ ⟨s, hs, wire, hwire, rfl⟩ b hb
  · rintro h _ ⟨s, hs, wire, hwire, rfl⟩ b hb
    exact h s hs b hb wire hwire

theorem Arranged.onlyIn_iff (h : Arranged speaker said system turns) :
    OnlyIn kind role system turns ↔
      ∀ s ∈ said, ∀ b ∈ s.2, kind b → s.1.wire? speaker = some role := by
  obtain ⟨runs, hflat, hjoins⟩ := h.runs
  have hsystem : (∀ b ∈ system, ¬kind b) ↔
      ∀ s ∈ said, ∀ b ∈ s.2, s.1.wire? speaker = none → ¬kind b := by
    simp only [h.system, List.forall_mem_flatMap, List.mem_filter, decide_eq_true_eq,
      wire?_eq_none_iff, and_imp]
    exact forall₂_congr fun s _ => ⟨fun h b hb hs => h hs b hb, fun h hs b hb => h b hb hs⟩
  have hturns : (∀ t ∈ turns, ∀ b ∈ t.blocks, kind b → t.role = role) ↔
      ∀ s ∈ said, ∀ b ∈ s.2, ∀ wire, s.1.wire? speaker = some wire → kind b → wire = role := by
    rw [Turn.forall_blocks_iff (fun wire b => kind b → wire = role) hjoins, hflat,
      Turn.forall_spoken_iff fun wire b => kind b → wire = role]
  constructor
  · rintro ⟨hnone, hsome⟩ s hs b hb hkind
    cases hwire : s.1.wire? speaker with
    | none => exact absurd hkind (hsystem.1 hnone s hs b hb hwire)
    | some wire => rw [hturns.1 hsome s hs b hb wire hwire hkind]
  · intro hsaid
    refine ⟨hsystem.2 fun s hs b hb hwire hkind => ?_,
      hturns.2 fun s hs b hb wire hwire hkind => ?_⟩
    · have hrole := hsaid s hs b hb hkind
      rw [hwire] at hrole
      cases hrole
    · exact Option.some.inj (hwire.symm.trans (hsaid s hs b hb hkind))

theorem Keeps.forall_iff {m : Message} {s : Role × List Json} (h : Keeps kind partKind m s) :
    (∀ b ∈ s.2, kind b → s.1.wire? speaker = some role) ↔
      (m.Holds partKind → m.role.wire? speaker = some role) := by
  obtain ⟨hrole, hblocks⟩ := h
  have hholds : ∀ {parts : List Part} {blocks : List Json},
      List.Forall₂ (fun p b => kind b ↔ partKind p) parts blocks →
        ((∃ b ∈ blocks, kind b) ↔ ∃ p ∈ parts, partKind p) := by
    intro parts blocks h
    induction h with
    | nil => simp
    | cons hpb _ ih => simp only [List.exists_mem_cons_iff, hpb, ih]
  rw [hrole, Message.Holds, ← hholds hblocks]
  grind

/-- The blocks of a kind are in turns of one role exactly when the messages that hold such parts
go there. -/
theorem onlyIn_iff (h : Arranged speaker said system turns)
    (hkeeps : List.Forall₂ (Keeps kind partKind) ms said) :
    OnlyIn kind role system turns ↔
      ∀ m ∈ ms, m.Holds partKind → m.role.wire? speaker = some role := by
  rw [h.onlyIn_iff]
  clear h
  induction hkeeps with
  | nil => simp
  | cons hm _ ih => rw [List.forall_mem_cons, List.forall_mem_cons, ih, hm.forall_iff]

theorem onlyIn_user_iff (h : Arranged speaker said system turns)
    (hkeeps : List.Forall₂ (Keeps kind partKind) ms said) (hspeaker : speaker ≠ "user") :
    OnlyIn kind "user" system turns ↔
      ∀ m ∈ ms, m.Holds partKind → m.role = .user ∨ m.role = .tool := by
  rw [onlyIn_iff h hkeeps]
  refine forall₂_congr fun m _ => imp_congr_right fun _ => ?_
  cases m.role <;> simp [Role.wire?, hspeaker]

theorem onlyIn_speaker_iff (h : Arranged speaker said system turns)
    (hkeeps : List.Forall₂ (Keeps kind partKind) ms said) (hspeaker : speaker ≠ "user") :
    OnlyIn kind speaker system turns ↔ ∀ m ∈ ms, m.Holds partKind → m.role = .assistant := by
  rw [onlyIn_iff h hkeeps]
  refine forall₂_congr fun m _ => imp_congr_right fun _ => ?_
  cases m.role <;> simp [Role.wire?, hspeaker.symm]

end Arranged

/-! ## The dialect of messages -/

namespace Anthropic

variable {m : Message} {ms : List Message} {p : Part} {role : Role} {b : Json} {bs : List Json}

def IsCallBlock (b : Json) : Prop := b.member? "type" = some (.str "tool_use")

def IsResultBlock (b : Json) : Prop := b.member? "type" = some (.str "tool_result")

/-- The type that the block for a part says it has. -/
def blockType : Part → String
  | .text _ => "text"
  | .image _ => "image"
  | .toolCall .. => "tool_use"
  | .toolResult .. => "tool_result"

theorem type_of_block (h : block role p = .ok b) :
    b.member? "type" = some (.str (blockType p)) := by
  cases p with
  | text t =>
    obtain rfl := Except.ok.inj h
    rfl
  | image image =>
    simp only [block, bind_eq_ok_iff, pure_eq_ok_iff] at h
    obtain ⟨source, -, rfl⟩ := h
    rfl
  | toolCall id name arguments =>
    simp only [block] at h
    split_ifs at h
    obtain rfl := Except.ok.inj h
    rfl
  | toolResult callId content isError =>
    obtain rfl := Except.ok.inj h
    exact Json.member?_record (by simp) _

theorem kinds_of_block (h : block role p = .ok b) :
    (IsCallBlock b ↔ IsCall p) ∧ (IsResultBlock b ↔ IsResult p) := by
  rw [IsCallBlock, IsResultBlock, type_of_block h]
  cases p <;> simp [blockType, IsCall, IsResult]

theorem mapM_of_blocks (h : blocks m = .ok bs) :
    m.content.toParts.mapM (block m.role) = .ok bs := by
  unfold blocks at h
  split at h
  · rename_i t hcontent
    split_ifs at h
    obtain rfl := Except.ok.inj h
    rw [hcontent]
    rfl
  · rename_i parts hcontent
    rwa [hcontent]

theorem keeps_of_said {said : List (Role × List Json)} (h : Said ms said) :
    List.Forall₂ (Keeps IsCallBlock IsCall) ms said
      ∧ List.Forall₂ (Keeps IsResultBlock IsResult) ms said := by
  have hkinds : ∀ m s, s.1 = m.role ∧ blocks m = .ok s.2 →
      Keeps IsCallBlock IsCall m s ∧ Keeps IsResultBlock IsResult m s := by
    rintro m s ⟨hrole, hblocks⟩
    have hparts := mapM_eq_ok_iff.1 (mapM_of_blocks hblocks)
    exact ⟨⟨hrole, hparts.imp fun _ _ h => (kinds_of_block h).1⟩,
      ⟨hrole, hparts.imp fun _ _ h => (kinds_of_block h).2⟩⟩
  exact ⟨h.imp fun m s hm => (hkinds m s hm).1, h.imp fun m s hm => (hkinds m s hm).2⟩

theorem assistant_of_representable (h : Representable m) (hcall : m.Holds IsCall) :
    m.role = .assistant := by
  obtain ⟨p, hp, id, name, arguments, rfl⟩ := hcall
  unfold Representable at h
  split at h
  · rename_i t hcontent
    simp [hcontent, Content.toParts] at hp
  · rename_i parts hcontent
    rw [hcontent] at hp
    exact (h _ hp).1

theorem assistant_of_conversation {c : Conversation} (h : conversation ms = .ok c) (hm : m ∈ ms)
    (hcall : m.Holds IsCall) : m.role = .assistant := by
  obtain ⟨htranslated, -⟩ := conversation_eq_ok_iff.1 h
  exact assistant_of_representable (exists_translate_iff.1 ⟨c, htranslated⟩ m hm) hcall

end Anthropic

/-! ## The dialect of content -/

namespace Google

variable {m : Message} {ms before : List Message} {p : Part} {b : Json} {bs : List Json}
  {calls after : Calls}

def IsCallPart (b : Json) : Prop := (b.member? "functionCall").isSome

def IsResultPart (b : Json) : Prop := (b.member? "functionResponse").isSome

theorem member?_single (key k : String) (v : Json) :
    (Json.mkObj [(key, v)]).member? k = if key = k then some v else none := rfl

theorem kinds_of_wirePart (h : wirePart calls p = .ok (b, after)) :
    (IsCallPart b ↔ IsCall p) ∧ (IsResultPart b ↔ IsResult p) := by
  cases p with
  | text t =>
    obtain ⟨rfl, -⟩ := Prod.mk.inj (Except.ok.inj h)
    simp [IsCallPart, IsResultPart, IsCall, IsResult, textPart, member?_single]
  | image image =>
    simp only [wirePart, bind_eq_ok_iff, pure_eq_ok_iff, Prod.mk.injEq] at h
    obtain ⟨source, -, j, hj, rfl, -⟩ := h
    unfold imagePart at hj
    split at hj
    · obtain rfl := Except.ok.inj hj
      simp [IsCallPart, IsResultPart, IsCall, IsResult, member?_single]
    · split at hj
      · obtain rfl := Except.ok.inj hj
        simp [IsCallPart, IsResultPart, IsCall, IsResult, member?_single]
      · cases hj
  | toolCall id name arguments =>
    obtain ⟨rfl, -⟩ := Prod.mk.inj (Except.ok.inj h)
    simp [IsCallPart, IsResultPart, IsCall, IsResult, callPart, member?_single]
  | toolResult callId content isError =>
    simp only [wirePart] at h
    split at h
    · obtain ⟨rfl, -⟩ := Prod.mk.inj (Except.ok.inj h)
      simp [IsCallPart, IsResultPart, IsCall, IsResult, resultPart, member?_single]
    · cases h

theorem kinds_of_wireParts : ∀ {parts : List Part} {calls after : Calls} {bs : List Json},
    wireParts calls parts = .ok (bs, after) →
      List.Forall₂ (fun p b => (IsCallPart b ↔ IsCall p) ∧ (IsResultPart b ↔ IsResult p)) parts bs
  | [], _, _, _, h => by
    obtain ⟨rfl, -⟩ := Prod.mk.inj (Except.ok.inj h)
    exact .nil
  | p :: parts, calls, after, bs, h => by
    simp only [wireParts, bind_eq_ok_iff, pure_eq_ok_iff, Prod.exists, Prod.mk.injEq] at h
    obtain ⟨b, between, hp, rest, last, hrest, rfl, -⟩ := h
    exact .cons (kinds_of_wirePart hp) (kinds_of_wireParts hrest)

theorem wireParts_of_messageParts (h : messageParts calls m = .ok (bs, after)) :
    wireParts calls m.content.toParts = .ok (bs, after) := by
  unfold messageParts at h
  split at h
  · rename_i t hcontent
    split_ifs at h
    rw [hcontent, ← h]
    rfl
  · rename_i parts hcontent
    rwa [hcontent]

theorem keeps_of_saidAfter {said : List (Role × List Json)} (h : SaidAfter before ms said) :
    List.Forall₂ (Keeps IsCallPart IsCall) ms said
      ∧ List.Forall₂ (Keeps IsResultPart IsResult) ms said := by
  induction h with
  | nil => exact ⟨.nil, .nil⟩
  | cons hm _ ih =>
    have hparts := kinds_of_wireParts (wireParts_of_messageParts hm)
    exact ⟨.cons ⟨rfl, hparts.imp fun _ _ h => h.1⟩ ih.1,
      .cons ⟨rfl, hparts.imp fun _ _ h => h.2⟩ ih.2⟩

end Google

/-! ## All dialects -/

theorem OpenAI.not_representable {d : OpenAI.Dialect} {m : Message}
    (h : (m.Holds IsCall ∧ m.role ≠ .assistant) ∨ (m.Holds IsResult ∧ m.role ≠ .tool)) :
    ¬OpenAI.Representable d m := by
  intro hsayable
  have hparts : ∃ p ∈ m.content.toParts,
      (IsCall p ∧ m.role ≠ .assistant) ∨ (IsResult p ∧ m.role ≠ .tool) := by
    rcases h with ⟨⟨p, hp, hkind⟩, hrole⟩ | ⟨⟨p, hp, hkind⟩, hrole⟩
    · exact ⟨p, hp, .inl ⟨hkind, hrole⟩⟩
    · exact ⟨p, hp, .inr ⟨hkind, hrole⟩⟩
  obtain ⟨p, hp, hkind⟩ := hparts
  unfold OpenAI.Representable at hsayable
  cases hcontent : m.content with
  | text t =>
    rw [hcontent, Content.toParts, List.mem_singleton] at hp
    subst hp
    simp [IsCall, IsResult] at hkind
  | parts parts =>
    rw [hcontent] at hp hsayable
    split_ifs at hsayable with hrole
    · obtain ⟨-, _, hsame, hresults⟩ := hsayable
      obtain rfl := Content.parts.inj hsame
      obtain ⟨callId, content, isError, rfl⟩ := hresults p hp
      simp [IsCall, hrole] at hkind
    · have hsaid := hsayable parts rfl p hp
      rcases hkind with ⟨⟨id, name, arguments, rfl⟩, hcall⟩ | ⟨⟨callId, content, isError, rfl⟩, -⟩
      · exact hcall hsaid
      · exact hsaid

/-- Calls are in turns of the model, and results in turns of the user, exactly when the messages
that hold them are the assistant's, and the user's or a tool's. The dialect of messages refuses a
call that stands elsewhere, and that of chat completions refuses results too. -/
theorem traffic_placed (ms : List Message) :
    (∀ c, Anthropic.conversation ms = .ok c →
      OnlyIn Anthropic.IsCallBlock "assistant" c.system c.turns
      ∧ (OnlyIn Anthropic.IsResultBlock "user" c.system c.turns ↔
        ∀ m ∈ ms, m.Holds IsResult → m.role = .user ∨ m.role = .tool))
    ∧ ((∃ m ∈ ms, m.Holds IsCall ∧ m.role ≠ .assistant) →
      ∃ text, Anthropic.conversation ms = .error (.untranslatable text))
    ∧ (∀ c, Google.conversation ms = .ok c →
      (OnlyIn Google.IsCallPart "model" c.system c.turns ↔
        ∀ m ∈ ms, m.Holds IsCall → m.role = .assistant)
      ∧ (OnlyIn Google.IsResultPart "user" c.system c.turns ↔
        ∀ m ∈ ms, m.Holds IsResult → m.role = .user ∨ m.role = .tool))
    ∧ ∀ d, (∃ m ∈ ms, (m.Holds IsCall ∧ m.role ≠ .assistant)
        ∨ (m.Holds IsResult ∧ m.role ≠ .tool)) →
      ∃ f, OpenAI.messages d ms = .error f ∧ Untranslated d.family f
        ∧ (d.toolRole = true → ∃ text, f = .untranslatable text) := by
  refine ⟨fun c h => ?_, fun ⟨m, hm, hcall, hrole⟩ => ?_, fun c h => ?_,
    fun d ⟨m, hm, hmisplaced⟩ => ?_⟩
  · obtain ⟨htranslated, -⟩ := Anthropic.conversation_eq_ok_iff.1 h
    obtain ⟨said, hsaid, rfl⟩ := Anthropic.translate_eq_ok_iff.1 htranslated
    obtain ⟨hcalls, hresults⟩ := Anthropic.keeps_of_said hsaid
    exact ⟨(onlyIn_speaker_iff (arranged_merge _ said) hcalls (by decide)).2
        fun m hm => Anthropic.assistant_of_conversation h hm,
      onlyIn_user_iff (arranged_merge _ said) hresults (by decide)⟩
  · cases h : Anthropic.conversation ms with
    | error f =>
      obtain ⟨text, rfl⟩ := Anthropic.untranslatable_of_conversation h
      exact ⟨text, rfl⟩
    | ok c => exact absurd (Anthropic.assistant_of_conversation h hm hcall) hrole
  · obtain ⟨said, hsaid, rfl⟩ := Google.conversation_eq_ok_iff.1 h
    obtain ⟨hcalls, hresults⟩ := Google.keeps_of_saidAfter hsaid
    exact ⟨onlyIn_speaker_iff (arranged_merge _ said) hcalls (by decide),
      onlyIn_user_iff (arranged_merge _ said) hresults (by decide)⟩
  · cases h : OpenAI.messages d ms with
    | ok ws =>
      exact absurd (OpenAI.exists_messages_iff.1 ⟨ws, h⟩ m hm) (OpenAI.not_representable hmisplaced)
    | error f =>
      refine ⟨f, rfl, OpenAI.untranslated_of_messages h, fun htool => ?_⟩
      obtain ⟨-, x, -, -, -, hx⟩ := mapM_eq_error_iff.1 (OpenAI.messages_eq_error_iff.1 h)
      have hrefusal := OpenAI.refusal_of_wireMessages hx
      rwa [if_neg (by simp [htool])] at hrefusal

section Trip

def northCall : Part := .toolCall "a" "find" (.obj [])

def northResult : Part := .toolResult "a" "north" false

/-- The result comes once from the tool and once more from the user. -/
def tripMessages : List Message := [
  .of .user (.text "Where to?"), .of .assistant (.parts [northCall]),
  .of .tool (.parts [northResult]), .of .user (.parts [northResult])]

theorem trip_placed :
    (∃ c, Anthropic.conversation tripMessages = .ok c
      ∧ OnlyIn Anthropic.IsCallBlock "assistant" c.system c.turns
      ∧ OnlyIn Anthropic.IsResultBlock "user" c.system c.turns)
    ∧ (∃ text, Anthropic.conversation [.of .user (.parts [northCall])] =
      .error (.untranslatable text))
    ∧ (∃ c, Google.conversation tripMessages = .ok c
      ∧ OnlyIn Google.IsCallPart "model" c.system c.turns
      ∧ OnlyIn Google.IsResultPart "user" c.system c.turns)
    ∧ ∃ text, OpenAI.messages ⟨.openai, true, true⟩ tripMessages =
      .error (.untranslatable text) := by
  obtain ⟨hanthropic, -, hgoogle, hopenai⟩ := traffic_placed tripMessages
  obtain ⟨-, hrefused, -⟩ := traffic_placed [.of .user (.parts [northCall])]
  have hcalls : ∀ m ∈ tripMessages, m.Holds IsCall → m.role = .assistant := by
    simp [tripMessages, Message.of, Message.Holds, Content.toParts, northResult, IsCall]
  have hresults : ∀ m ∈ tripMessages, m.Holds IsResult → m.role = .user ∨ m.role = .tool := by
    simp [tripMessages, Message.of, Message.Holds, Content.toParts, northCall, IsResult]
  have hcall : (Message.of .user (.parts [northCall])).Holds IsCall :=
    ⟨northCall, List.mem_singleton.2 rfl, _, _, _, rfl⟩
  have hresult : (Message.of .user (.parts [northResult])).Holds IsResult :=
    ⟨northResult, List.mem_singleton.2 rfl, _, _, _, rfl⟩
  refine ⟨⟨_, rfl, (hanthropic _ rfl).1, (hanthropic _ rfl).2.2 hresults⟩,
    hrefused ⟨_, List.mem_singleton.2 rfl, hcall, by decide⟩,
    ⟨_, rfl, (hgoogle _ rfl).1.2 hcalls, (hgoogle _ rfl).2.2 hresults⟩, ?_⟩
  obtain ⟨f, hf, -, huntranslatable⟩ := hopenai ⟨.openai, true, true⟩
    ⟨_, by simp [tripMessages], .inr ⟨hresult, by decide⟩⟩
  obtain ⟨text, rfl⟩ := huntranslatable rfl
  exact ⟨text, hf⟩

/-- A call of the user's is sent as such, and so is a result that the assistant or the system
gives. -/
theorem traffic_misplaced :
    (∃ c, Google.conversation [.of .user (.parts [northCall])] = .ok c
      ∧ ¬OnlyIn Google.IsCallPart "model" c.system c.turns)
    ∧ (∃ c, Anthropic.conversation [.of .assistant (.parts [northResult])] = .ok c
      ∧ ¬OnlyIn Anthropic.IsResultBlock "user" c.system c.turns)
    ∧ ∃ c, Anthropic.conversation [.of .system (.parts [northResult]), .of .user (.text "Where?")] =
      .ok c ∧ ¬OnlyIn Anthropic.IsResultBlock "user" c.system c.turns := by
  refine ⟨⟨_, rfl, fun h => ?_⟩, ⟨_, rfl, fun h => ?_⟩, ⟨_, rfl, fun h => ?_⟩⟩
  · have hrole := h.turns ⟨"user", [Google.callPart "find" (.obj [])]⟩ (List.mem_singleton.2 rfl) _
      (List.mem_singleton.2 rfl) rfl
    exact absurd hrole (by decide)
  · have hrole := h.turns ⟨"assistant", [Anthropic.resultBlock "a" "north" false]⟩
      (List.mem_singleton.2 rfl) _ (List.mem_singleton.2 rfl) rfl
    exact absurd hrole (by decide)
  · exact h.system (Anthropic.resultBlock "a" "north" false) (List.mem_singleton.2 rfl) rfl

end Trip

end Switchboard
