import Switchboard.Dialect.Anthropic.Stream
import Switchboard.Dialect.Google.Stream
import Switchboard.Dialect.OpenAI.Stream
import Switchboard.Dialect.Status
import Switchboard.Proofs.Redaction
import Switchboard.Provider.Adapter

/-!
# What failures quote

A failure that an endpoint reports quotes the endpoint. The words are redacted where the failure is
made of them, so that its whole text may be logged: that holds of every status, of the error in an
answer, and of what the streams report (`Failure.quotations_redacted`). An endpoint of the messages
dialect that is overloaded is the exception: its words are quoted as they are
(`Anthropic.streamFailure_of_overloads`).
-/

namespace Switchboard

open Redaction

namespace Failure

/-- A failure that lies with the endpoint: it could not be reached, or turned the request down. -/
def IsUpstream (f : Failure) : Prop := f.kind = .transport ∨ ∃ refusal, f.kind = .refused refusal

/-- What a text is free of after a colon, it is free of as a whole if that holds before the colon
too. -/
theorem clean_append_colon_iff {before rest : List Char} (h : Clean before) :
    Clean (before ++ ':' :: ' ' :: rest) ↔ Clean rest := by
  constructor
  · intro hall s hs
    have hsuffix : rest <:+ before ++ ':' :: ' ' :: rest := ⟨before ++ [':', ' '], by simp⟩
    exact hall s (hs.trans hsuffix.isInfix)
  · intro hrest
    exact clean_append_cons (by decide) h (clean_cons_of_not_starts (by decide) hrest)

theorem clean_transport_iff {text : String} :
    Clean (transport text).message.toList ↔ Clean text.toList := by
  have hsplit : (transport text).message.toList =
      "Upstream transport error".toList ++ ':' :: ' ' :: text.toList := by
    have hmark : "Upstream transport error: ".toList =
        "Upstream transport error".toList ++ [':', ' '] := by decide
    show ("Upstream transport error: " ++ text).toList = _
    rw [String.toList_append, hmark, List.append_assoc]
    rfl
  rw [hsplit]
  exact clean_append_colon_iff (by decide)

theorem clean_refused_iff {reason : Refusal} {status : Option Nat} {text : String} :
    Clean (refused reason status text).message.toList ↔ Clean text.toList := by
  have hsplit : (refused reason status text).message.toList =
      ("Upstream rejected the request (".toList ++ reason.name.toList ++ [')'])
        ++ ':' :: ' ' :: text.toList := by
    have hmark : "): ".toList = [')', ':', ' '] := by decide
    show ("Upstream rejected the request (" ++ reason.name ++ "): " ++ text).toList = _
    simp only [String.toList_append, hmark, List.append_assoc]
    rfl
  rw [hsplit]
  refine clean_append_colon_iff ?_
  cases reason <;> decide

theorem clean_redact (text : String) : Clean (redact text).toList := by
  rw [toList_redact]
  exact clean_redactChars _

theorem clean_refusal (reason : Refusal) (status : Option Nat) (text : String) :
    Clean (refusal reason status text).message.toList :=
  clean_refused_iff.2 (clean_redact text)

theorem clean_ofStatus (status : Nat) (body : String) :
    Clean (ofStatus status body).message.toList := by
  unfold ofStatus
  simp only
  split_ifs
  · exact clean_refusal _ _ _
  · exact clean_refusal _ _ _
  · exact clean_refusal _ _ _
  · exact clean_transport_iff.2 (clean_redact _)
  · exact clean_refusal _ _ _

end Failure

namespace OpenAI

theorem clean_of_failureIn? {answer : Json} {f : Failure} (h : failureIn? answer = some f) :
    Clean f.message.toList := by
  obtain ⟨error, -, rfl⟩ := Option.map_eq_some_iff.1 h
  exact Failure.clean_refusal _ _ _

theorem clean_of_streamEvents {event : ServerEvent} {f : Failure}
    (h : streamEvents event = .error f) (hf : f.IsUpstream) : Clean f.message.toList := by
  unfold streamEvents at h
  split_ifs at h
  split at h
  · obtain rfl := Except.error.inj h
    simp [Failure.IsUpstream, Failure.kind] at hf
  · unfold pieceEvents at h
    split at h
    · obtain rfl := Except.error.inj h
      exact Failure.clean_refusal _ _ _
    · cases h

end OpenAI

namespace Google

theorem not_isUpstream_of_decode {calls : Nat} {event : ServerEvent} {f : Failure}
    (h : decoder.decode calls event = .error f) : ¬f.IsUpstream := by
  simp only [decoder] at h
  split at h
  · obtain rfl := Except.error.inj h
    simp [Failure.IsUpstream, Failure.kind]
  · cases h

end Google

namespace Anthropic

/-- An error that says the endpoint has too much to do, or broke down. -/
def Overloads (error : Json) : Prop :=
  error.string? "type" = some "overloaded_error" ∨ error.string? "type" = some "api_error"

instance (error : Json) : Decidable (Overloads error) := inferInstanceAs (Decidable (_ ∨ _))

/-- What an error says. -/
def quotation (error : Json) : String := (error.string? "message").getD "stream error"

theorem streamFailure_of_overloads {error : Json} (h : Overloads error) :
    streamFailure error = .transport ("anthropic: " ++ quotation error) := by
  rcases h with h | h <;> simp [streamFailure, h, quotation]

theorem clean_streamFailure {error : Json} (h : ¬Overloads error) :
    Clean (streamFailure error).message.toList := by
  unfold streamFailure
  simp only
  split
  · rename_i htype
    exact absurd (.inl (by simpa [Option.getD_eq_iff] using htype)) h
  · rename_i htype
    exact absurd (.inr (by simpa [Option.getD_eq_iff] using htype)) h
  iterate 5 exact Failure.clean_refusal _ _ _

/-- A stream fails for what is not JSON, and otherwise as it says itself. -/
theorem streamEvents_error_cases {event : ServerEvent} {f : Failure}
    (h : streamEvents event = .error f) :
    (Json.ofString? event.data = none ∧ ∃ text, f = .untranslatable text)
      ∨ ∃ data, Json.ofString? event.data = some data ∧ f = streamFailure (data.get "error") := by
  unfold streamEvents at h
  split at h
  · rename_i hnone
    exact .inl ⟨hnone, _, (Except.error.inj h).symm⟩
  · rename_i data hdata
    refine .inr ⟨data, hdata, ?_⟩
    simp only [kindEvents] at h
    split at h
    iterate 5 cases h
    · exact (Except.error.inj h).symm
    · cases h

end Anthropic

theorem Decoder.stateless_error_iff {decode : ServerEvent → Outcome (List StreamEvent)}
    {event : ServerEvent} {f : Failure} :
    (Decoder.stateless decode).decode () event = .error f ↔ decode event = .error f := by
  simp only [Decoder.stateless]
  rcases decode event with e | said <;> simp [Except.map]

namespace Failure

/-- The failures that lie with an endpoint are free of credentials as soon as they are made: of a
status and a body, of an answer that holds an error, and of an event of a stream. Only when an
endpoint of the messages dialect says that it is overloaded or broke down, its words stay as they
are, and so does a credential among them. -/
theorem quotations_redacted (status : Nat) (body : String) (answer : Json) (calls : Nat)
    (event : ServerEvent) (f : Failure) :
    Clean (ofStatus status body).message.toList
    ∧ (OpenAI.Client.sound answer = .error f → Clean f.message.toList)
    ∧ (OpenAI.decoder.decode () event = .error f → f.IsUpstream → Clean f.message.toList)
    ∧ (Google.decoder.decode calls event = .error f → ¬f.IsUpstream)
    ∧ (Anthropic.decoder.decode () event = .error f → f.IsUpstream →
      ∃ data, Json.ofString? event.data = some data
        ∧ if Anthropic.Overloads (data.get "error") then
            f = .transport ("anthropic: " ++ Anthropic.quotation (data.get "error"))
              ∧ (Clean f.message.toList ↔
                Clean (Anthropic.quotation (data.get "error")).toList)
          else Clean f.message.toList) := by
  refine ⟨clean_ofStatus status body, fun h => ?_, fun h hf => ?_,
    Google.not_isUpstream_of_decode, fun h hf => ?_⟩
  · unfold OpenAI.Client.sound at h
    split at h
    · rename_i g hg
      obtain rfl := Except.error.inj h
      exact OpenAI.clean_of_failureIn? hg
    · cases h
  · exact OpenAI.clean_of_streamEvents (Decoder.stateless_error_iff.1 h) hf
  · rcases Anthropic.streamEvents_error_cases (Decoder.stateless_error_iff.1 h) with
      ⟨-, text, rfl⟩ | ⟨data, hdata, rfl⟩
    · simp [IsUpstream, kind] at hf
    refine ⟨data, hdata, ?_⟩
    split_ifs with hload
    · have hquoted := Anthropic.streamFailure_of_overloads hload
      refine ⟨hquoted, ?_⟩
      have hmark : "anthropic: ".toList = "anthropic".toList ++ [':', ' '] := by decide
      rw [hquoted, clean_transport_iff, String.toList_append, hmark, List.append_assoc]
      exact clean_append_colon_iff (by decide)
    · exact Anthropic.clean_streamFailure hload

end Failure

namespace Anthropic

/-- An event that reports an error of a type. -/
def errorEvent (type message : String) : ServerEvent :=
  ⟨"error", (Json.mkObj [("error",
    .mkObj [("type", type), ("message", message)])]).render⟩

/-- The words of an endpoint that turns a request down are redacted, wherever they stand. -/
theorem permission_redacted :
    (∃ f, OpenAI.Client.sound (.mkObj [("error", "msg sk-abcdef1234")]) = .error f
      ∧ Clean f.message.toList)
    ∧ (∃ f, OpenAI.decoder.decode () (errorEvent "server_error" "msg sk-abcdef1234") = .error f
      ∧ f.IsUpstream ∧ Clean f.message.toList)
    ∧ (∃ f, Google.decoder.decode 0 (.ofData "sk-abcdef1234") = .error f ∧ ¬f.IsUpstream)
    ∧ ∃ f, decoder.decode () (errorEvent "permission_error" "msg sk-abcdef1234") = .error f
      ∧ f.IsUpstream
      ∧ f.message = "Upstream rejected the request (auth): msg [redacted]"
      ∧ Clean f.message.toList := by
  have hredacted := Failure.quotations_redacted 401 "" (.mkObj [("error", "msg sk-abcdef1234")]) 0
  have hanswer : OpenAI.Client.sound (.mkObj [("error", "msg sk-abcdef1234")]) =
      .error (.refused .other none "\"msg [redacted]\"") := by decide +kernel
  have hpiece : OpenAI.decoder.decode () (errorEvent "server_error" "msg sk-abcdef1234") =
      .error (.refused .other none "msg [redacted]") := by decide +kernel
  have hpart : Google.decoder.decode 0 (.ofData "sk-abcdef1234") =
      .error (.untranslatable "invalid stream chunk: not JSON") := by decide +kernel
  have hevent : decoder.decode () (errorEvent "permission_error" "msg sk-abcdef1234") =
      .error (.refused .auth none "msg [redacted]") := by decide +kernel
  obtain ⟨-, hsound, -⟩ := hredacted (.ofData "") _
  obtain ⟨-, -, hpieces, -⟩ := hredacted (errorEvent "server_error" "msg sk-abcdef1234") _
  obtain ⟨-, -, -, hparts, -⟩ := hredacted (.ofData "sk-abcdef1234") _
  obtain ⟨-, -, -, -, hevents⟩ := hredacted (errorEvent "permission_error" "msg sk-abcdef1234") _
  refine ⟨⟨_, hanswer, hsound hanswer⟩,
    ⟨_, hpiece, .inr ⟨_, rfl⟩, hpieces hpiece (.inr ⟨_, rfl⟩)⟩,
    ⟨_, hpart, hparts hpart⟩, _, hevent, .inr ⟨_, rfl⟩, by decide, ?_⟩
  obtain ⟨data, hdata, hclean⟩ := hevents hevent (.inr ⟨_, rfl⟩)
  have hload : ¬Overloads (data.get "error") := by
    have hread : (Json.ofString? (errorEvent "permission_error" "msg sk-abcdef1234").data).any
        fun data => ¬Overloads (data.get "error") := by decide +kernel
    rw [hdata] at hread
    simpa using hread
  rwa [if_neg hload] at hclean

/-- An endpoint that broke down is quoted with the credential that it names. -/
theorem breakdown_unredacted :
    ∃ f, decoder.decode () (errorEvent "api_error" "msg sk-abcdef1234") = .error f
      ∧ f.IsUpstream
      ∧ f.message = "Upstream transport error: anthropic: msg sk-abcdef1234"
      ∧ ¬Clean f.message.toList :=
  ⟨.transport "anthropic: msg sk-abcdef1234", by decide +kernel, .inl rfl, rfl, by decide⟩

end Anthropic

end Switchboard
