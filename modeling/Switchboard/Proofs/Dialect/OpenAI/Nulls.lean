import Switchboard.Proofs.Dialect.OpenAI.Streaming
import Switchboard.Proofs.Json.Objects
import Switchboard.Proofs.Wire.Alike
import Switchboard.Provider.Adapter

/-!
# Null in an answer of the chat completions dialect

A field that is missing reads as null, so null may be added under fields that are absent without a
change to what is read (`NullsAdded.readsAlike`). An answer that is read alike comes to the same
response, the same vectors, the same stream or the same failure (`Client.nulls_absent`). That leaves
out null under `error`, which is read as an error that was reported.
-/

namespace Switchboard

namespace Json

variable {j : Json} {key k : String} {keys : List String} {f : Json → Json}

/-- The value with null under each of the keys where nothing stands, if it is an object. -/
def provideNulls (keys : List String) (j : Json) : Json :=
  keys.foldl (fun j key => j.provide key .null) j

/-- The array with its first item changed by `f`; anything else stays as it is. -/
def mapFirst (f : Json → Json) : Json → Json
  | arr (item :: items) => arr (f item :: items)
  | j => j

theorem get_insert_of_ne (h : key ≠ k) {v : Json} : (j.insert key v).get k = j.get k := by
  rw [get, get, member?_insert_of_ne h]

theorem get_provide_null : (j.provide key .null).get k = j.get k := by
  unfold provide
  split_ifs with hnone
  · by_cases hk : key = k
    · subst hk
      cases j with
      | obj members =>
        have hlookup : Members.lookup key members = none := hnone
        simp [get, insert, member?, Members.lookup_insert, hlookup]
      | _ => rfl
    · exact get_insert_of_ne hk
  · rfl

theorem get_provideNulls : (j.provideNulls keys).get k = j.get k := by
  induction keys generalizing j with
  | nil => rfl
  | cons key keys ih => exact ih.trans get_provide_null

theorem provideNulls_null : null.provideNulls keys = null := by
  induction keys with
  | nil => rfl
  | cons key keys ih => exact ih

theorem item?_mapFirst : (j.mapFirst f).item? 0 = (j.item? 0).map f := by
  cases j with
  | arr items => cases items <;> rfl
  | _ => rfl

theorem get_modify_of_ne (h : key ≠ k) : (j.modify key f).get k = j.get k := by
  rw [get, get, member?_modify_of_ne h]

theorem get_modify_self (hf : f null = null) : (j.modify key f).get key = f (j.get key) := by
  cases hv : j.member? key with
  | none =>
    rw [modify_of_none hv, get, hv]
    exact hf.symm
  | some v =>
    rw [modify_of_member? hv, get, get, member?_insert_self hv, hv]
    rfl

end Json

namespace OpenAI

variable {said : String} {answer answer' choice choice' : Json}

/-- The answer with null under fields that are absent: its own fields `ofAnswer`, the fields
`ofChoice` of its first choice, and the fields `ofSaid` of what that choice has under `said`. -/
def withNulls (said : String) (ofAnswer ofChoice ofSaid : List String) (answer : Json) : Json :=
  (answer.provideNulls ofAnswer).modify "choices" (Json.mapFirst fun choice =>
    (choice.provideNulls ofChoice).modify said (Json.provideNulls ofSaid))

/-- The second answer is the first with null under fields that are absent, but not under `error`. -/
structure NullsAdded (said : String) (answer answer' : Json) : Prop where
  added : ∃ ofAnswer ofChoice ofSaid, answer' = withNulls said ofAnswer ofChoice ofSaid answer
  error : answer'.member? "error" = answer.member? "error"

/-- Choices in which each field that is read reads the same. -/
structure ChoiceReadsAlike (said : String) (choice choice' : Json) : Prop where
  field : ∀ key, key ≠ said → choice'.get key = choice.get key
  ofSaid : ∀ key, (choice'.get said).get key = (choice.get said).get key

/-- Answers in which each field that is read reads the same. -/
structure ReadsAlike (said : String) (answer answer' : Json) : Prop where
  error : answer'.member? "error" = answer.member? "error"
  field : ∀ key, key ≠ "choices" → answer'.get key = answer.get key
  choice : Option.Rel (ChoiceReadsAlike said) (firstChoice? answer) (firstChoice? answer')

theorem ReadsAlike.refl (said : String) (answer : Json) : ReadsAlike said answer answer where
  error := rfl
  field _ _ := rfl
  choice := by
    cases firstChoice? answer with
    | none => exact .none
    | some choice => exact .some ⟨fun _ _ => rfl, fun _ => rfl⟩

theorem NullsAdded.readsAlike (h : NullsAdded said answer answer') :
    ReadsAlike said answer answer' := by
  obtain ⟨⟨ofAnswer, ofChoice, ofSaid, rfl⟩, herror⟩ := h
  refine ⟨herror, fun key hkey => ?_, ?_⟩
  · rw [withNulls, Json.get_modify_of_ne hkey.symm, Json.get_provideNulls]
  · rw [firstChoice?, firstChoice?, withNulls, Json.get_modify_self rfl, Json.item?_mapFirst,
      Json.get_provideNulls]
    cases (answer.get "choices").item? 0 with
    | none => exact .none
    | some choice =>
      refine .some ⟨fun key hkey => ?_, fun key => ?_⟩
      · rw [Json.get_modify_of_ne hkey.symm, Json.get_provideNulls]
      · rw [Json.get_modify_self Json.provideNulls_null, Json.get_provideNulls,
          Json.get_provideNulls]

section Reading

theorem usage?_alike (h : ReadsAlike said answer answer') : usage? answer' = usage? answer := by
  rw [usage?, usage?, h.field "usage" (by decide)]

theorem chatResponse_alike (h : ReadsAlike "message" answer answer') (now : Int)
    (id model : String) : chatResponse now id model answer' = chatResponse now id model answer := by
  have hchoice := h.choice
  unfold chatResponse
  revert hchoice
  generalize firstChoice? answer = c
  generalize firstChoice? answer' = c'
  rintro (hc | _)
  · simp only [textIn, Json.string?, hc.ofSaid, hc.field "finish_reason" (by decide),
      h.field "model" (by decide), usage?_alike h]
  · rfl

theorem embedResponse_alike (h : ReadsAlike said answer answer') (r : EmbedRequest) :
    embedResponse r answer' = embedResponse r answer := by
  unfold embedResponse
  rw [h.field "data" (by decide), usage?_alike h]

theorem choiceEvents_alike (h : ChoiceReadsAlike "delta" choice choice') :
    choiceEvents choice' = choiceEvents choice := by
  simp only [choiceEvents, choiceDelta, Json.string?, h.ofSaid, h.field "finish_reason" (by decide)]

theorem pieceEvents_alike (h : ReadsAlike "delta" answer answer') :
    pieceEvents answer' = pieceEvents answer := by
  have hchoice := h.choice
  unfold pieceEvents
  rw [h.error, usage?_alike h]
  revert hchoice
  generalize firstChoice? answer = c
  generalize firstChoice? answer' = c'
  rintro (hc | _)
  · simp only [Option.elim_some, choiceEvents_alike hc]
  · rfl

theorem sound_alike {α : Type} {read : Json → Outcome α} (h : ReadsAlike said answer answer')
    (hread : read answer' = read answer) :
    (Client.sound answer' >>= read) = (Client.sound answer >>= read) := by
  unfold Client.sound failureIn?
  rw [h.error]
  cases answer.member? "error" with
  | none => exact hread
  | some error => rfl

end Reading

/-- One event, or events of one name whose pieces differ in nulls that are added. -/
def PieceNullsAdded (event event' : ServerEvent) : Prop :=
  event' = event ∨ event'.name = event.name ∧ ∃ piece piece',
    Json.ofString? event.data = some piece ∧ Json.ofString? event'.data = some piece'
      ∧ NullsAdded "delta" piece piece'

section Events

variable {event event' : ServerEvent}

theorem streamEvents_alike (h : PieceNullsAdded event event') :
    streamEvents event' = streamEvents event := by
  rcases h with rfl | ⟨-, piece, piece', hpiece, hpiece', hadded⟩
  · rfl
  · simp only [streamEvents, if_neg (not_doneMark hpiece), if_neg (not_doneMark hpiece'), hpiece,
      hpiece', pieceEvents_alike hadded.readsAlike]

theorem hear_alike (h : PieceNullsAdded event event') (state : Unit) :
    decoder.hear state event' = decoder.hear state event := by
  have hblank : Text.blank event'.data = Text.blank event.data := by
    rcases h with rfl | ⟨-, piece, piece', hpiece, hpiece', -⟩
    · rfl
    · rw [Json.not_blank hpiece, Json.not_blank hpiece']
  unfold Decoder.hear decoder Decoder.stateless
  simp only [hblank, streamEvents_alike h]

end Events

/-- Null that is added under fields that are absent, but for `error`, leaves what a client makes of
the answer. -/
theorem Client.nulls_absent (client : Client) (c : CallContext) (now : Nat)
    (network network' : Network) :
    (network.Alike (Json.HeldAlike (NullsAdded "message")) network' →
      (∀ r, client.chat network' c now r = client.chat network c now r)
      ∧ ∀ r, client.embed network' c now r = client.embed network c now r)
    ∧ (network.Alike (ServerEvent.FramedAlike PieceNullsAdded) network' →
      ∀ sink r, client.stream network' sink c now r = client.stream network sink c now r)
    ∧ ∀ event event', PieceNullsAdded event event' →
      streamEvents event' = streamEvents event := by
  refine ⟨fun h => ?_, fun h sink r => ?_, fun _ _ => streamEvents_alike⟩
  · have halike : network.Alike (Json.HeldAlike (ReadsAlike "message")) network' :=
      h.mono fun _ _ ⟨j, j', hj, hj', hadded⟩ => ⟨j, j', hj, hj', hadded.readsAlike⟩
    have hexchange := fun w => postJson_alike (ReadsAlike.refl "message") halike c now w
    refine ⟨fun r => ?_, fun r => ?_⟩
    · unfold chat
      split
      · rfl
      · exact Served.ofExchange_eq (hexchange _) fun _ _ now ha =>
          sound_alike ha (chatResponse_alike ha (seconds now) r.requestId r.model)
    · unfold embed
      split
      · rfl
      · exact Served.ofExchange_eq (hexchange _) fun _ _ _ ha =>
          sound_alike ha (embedResponse_alike ha r)
  · unfold stream
    split
    · rfl
    · exact Network.postStream_eq (fun _ => .inl rfl)
        (fun state _ _ hevent => hear_alike hevent state) h c now _ _ _

section Greeting

/-- An answer with one choice, which says no more than a greeting. -/
def greetingAnswer (said : String) : Json :=
  .mkObj [("choices", .arr [.mkObj [(said, .mkObj [("content", "Hi")])]])]

def greetingNulls (said : String) : Json :=
  withNulls said ["model", "usage"] ["finish_reason"] ["tool_calls"] (greetingAnswer said)

def framed (piece : Json) : String := "data: " ++ piece.render ++ "\n\n"

/-- An endpoint that always answers the same. -/
def answering (body : String) : Network :=
  fun _ => .done (.ok ⟨200, Text.utf8 body, .done (.ok ())⟩)

def greetingClient : Client :=
  ⟨.of "http://localhost" "key", ⟨.openai, true, true⟩, .never, "/chat", some "/embed", true⟩

def greetingRequest : ChatRequest := .of "gpt-4o" [.of .user (.text "Hello.")]

/-- A greeting with nulls added is another text, but the same response, stream and events. -/
theorem greeting_nulls_absent :
    greetingNulls "message" ≠ greetingAnswer "message"
    ∧ greetingClient.chat (answering (greetingNulls "message").render) .unbounded 0
        greetingRequest =
      greetingClient.chat (answering (greetingAnswer "message").render) .unbounded 0 greetingRequest
    ∧ greetingClient.stream (answering (framed (greetingNulls "delta"))) .all .unbounded 0
        greetingRequest =
      greetingClient.stream (answering (framed (greetingAnswer "delta"))) .all .unbounded 0
        greetingRequest
    ∧ streamEvents (.ofData (greetingNulls "delta").render) =
      streamEvents (.ofData (greetingAnswer "delta").render) := by
  have hchat : (answering (greetingAnswer "message").render).Alike
      (Json.HeldAlike (NullsAdded "message")) (answering (greetingNulls "message").render) :=
    fun _ => ⟨rfl, .ok (.bodies rfl ⟨greetingAnswer "message", greetingNulls "message",
      by decide +kernel, by decide +kernel, ⟨⟨_, _, _, rfl⟩, rfl⟩⟩)⟩
  have hpiece : PieceNullsAdded (.ofData (greetingAnswer "delta").render)
      (.ofData (greetingNulls "delta").render) :=
    .inr ⟨rfl, greetingAnswer "delta", greetingNulls "delta", by decide +kernel,
      by decide +kernel, ⟨⟨_, _, _, rfl⟩, rfl⟩⟩
  have hevents : ∀ said, said = greetingAnswer "delta" ∨ said = greetingNulls "delta" →
      ServerEvent.ofBytes (Text.utf8 (framed said)) = ([.ofData said.render], true) := by
    rintro _ (rfl | rfl) <;> decide +kernel
  have hstream : (answering (framed (greetingAnswer "delta"))).Alike
      (ServerEvent.FramedAlike PieceNullsAdded) (answering (framed (greetingNulls "delta"))) := by
    refine fun _ => ⟨rfl, .ok (.bodies rfl ?_)⟩
    rw [ServerEvent.FramedAlike, hevents _ (.inl rfl), hevents _ (.inr rfl)]
    exact ⟨.cons hpiece .nil, rfl⟩
  obtain ⟨hwhole, -, -⟩ := greetingClient.nulls_absent .unbounded 0
    (answering (greetingAnswer "message").render) (answering (greetingNulls "message").render)
  obtain ⟨-, hstreamed, hevent⟩ := greetingClient.nulls_absent .unbounded 0
    (answering (framed (greetingAnswer "delta"))) (answering (framed (greetingNulls "delta")))
  exact ⟨by decide +kernel, (hwhole hchat).1 greetingRequest,
    hstreamed hstream .all greetingRequest, hevent _ _ hpiece⟩

/-- Null under `error` is read as an error. -/
theorem null_error_reported :
    (∃ answer, Client.sound (greetingAnswer "message") = .ok answer)
    ∧ Client.sound (withNulls "message" ["error"] [] [] (greetingAnswer "message")) =
      .error (.refusal .other none "null")
    ∧ pieceEvents (greetingAnswer "delta") = .ok [.delta (.ofText "Hi")]
    ∧ pieceEvents (withNulls "delta" ["error"] [] [] (greetingAnswer "delta")) =
      .error (.refusal .other none "stream error") :=
  ⟨⟨_, rfl⟩, rfl, rfl, rfl⟩

end Greeting

end OpenAI

end Switchboard
