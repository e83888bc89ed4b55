import Mathlib.Data.List.Dedup
import Mathlib.Data.List.Sort
import Switchboard.Dialect.Arguments
import Switchboard.Proofs.Stream.Smooth

/-!
# The substance of an answer

An answer says the same whether it comes at once or in pieces: a text, some calls, a reason to end,
usage. Of pieces, the texts are put together in order, and the fragments of calls by their index
(`ToolCallDelta.gathered`), where the fragments of calls that come one after the other can be
gathered apart (`ToolCallDelta.gathered_append`). The chunks of a complete answer have the substance
of what was told (`pumpStream_answer`).
-/

namespace Switchboard

namespace ToolCallDelta

/-- The indices of fragments, each once and in order. -/
def indices (fragments : List ToolCallDelta) : List Nat :=
  (fragments.map (·.index)).dedup.insertionSort (· ≤ ·)

/-- The fragments of the call with an index. -/
def ofIndex (fragments : List ToolCallDelta) (index : Nat) : List ToolCallDelta :=
  fragments.filter (·.index = index)

/-- The call that fragments make: the first id and the first name among them, and the arguments
that all their texts make. -/
def joined (fragments : List ToolCallDelta) : String × String × Json :=
  ((fragments.findSome? (·.id)).getD "", (fragments.findSome? (·.name)).getD "",
    Arguments.ofText (String.join (fragments.map (·.arguments))))

/-- The calls that fragments make, in the order of their indices. -/
def gathered (fragments : List ToolCallDelta) : List (String × String × Json) :=
  (indices fragments).map fun index => joined (ofIndex fragments index)

variable {fragments more : List ToolCallDelta} {index : Nat}

theorem mem_indices : index ∈ indices fragments ↔ ∃ f ∈ fragments, f.index = index := by
  simp [indices, List.mem_insertionSort]

theorem indices_sorted (fragments : List ToolCallDelta) :
    (indices fragments).Pairwise (· < ·) := by
  have hle : (indices fragments).Pairwise (· ≤ ·) := List.pairwise_insertionSort _ _
  have hne : (indices fragments).Nodup :=
    (List.perm_insertionSort _ _).nodup_iff.2 (List.nodup_dedup _)
  exact (hle.and hne).imp fun ⟨h1, h2⟩ => Nat.lt_of_le_of_ne h1 h2

/-- The indices are known by which they are, since they stand in order. -/
theorem indices_eq {ids : List Nat} (hsorted : ids.Pairwise (· < ·))
    (hmem : ∀ i, i ∈ ids ↔ ∃ f ∈ fragments, f.index = i) : indices fragments = ids := by
  have hperm : (indices fragments).Perm ids := by
    refine (List.perm_ext_iff_of_nodup ?_ ?_).2 fun i => mem_indices.trans (hmem i).symm
    · exact (indices_sorted fragments).imp Nat.ne_of_lt
    · exact hsorted.imp Nat.ne_of_lt
  exact hperm.eq_of_pairwise (fun a b _ _ hab hba => absurd hba (Nat.lt_asymm hab))
    (indices_sorted fragments) hsorted

theorem ofIndex_append (fragments more : List ToolCallDelta) (index : Nat) :
    ofIndex (fragments ++ more) index = ofIndex fragments index ++ ofIndex more index :=
  List.filter_append fragments more

theorem ofIndex_eq_nil (h : index ∉ indices fragments) : ofIndex fragments index = [] := by
  refine List.filter_eq_nil_iff.2 fun f hf => ?_
  have : f.index ≠ index := fun he => h (mem_indices.2 ⟨f, hf, he⟩)
  simpa using this

/-- Calls whose fragments all come before those of others are gathered before them. -/
theorem gathered_append (h : ∀ f ∈ fragments, ∀ g ∈ more, f.index < g.index) :
    gathered (fragments ++ more) = gathered fragments ++ gathered more := by
  have hlt : ∀ i ∈ indices fragments, ∀ j ∈ indices more, i < j := by
    intro i hi j hj
    obtain ⟨f, hf, rfl⟩ := mem_indices.1 hi
    obtain ⟨g, hg, rfl⟩ := mem_indices.1 hj
    exact h f hf g hg
  have hindices : indices (fragments ++ more) = indices fragments ++ indices more := by
    refine indices_eq ?_ fun i => ?_
    · exact List.pairwise_append.2 ⟨indices_sorted fragments, indices_sorted more, hlt⟩
    · simp only [List.mem_append, mem_indices, or_and_right, exists_or]
  have hfirst : ∀ i ∈ indices fragments,
      joined (ofIndex (fragments ++ more) i) = joined (ofIndex fragments i) := by
    intro i hi
    have hnot : i ∉ indices more := fun hm => Nat.lt_irrefl i (hlt i hi i hm)
    rw [ofIndex_append, ofIndex_eq_nil hnot, List.append_nil]
  have hsecond : ∀ i ∈ indices more,
      joined (ofIndex (fragments ++ more) i) = joined (ofIndex more i) := by
    intro i hi
    have hnot : i ∉ indices fragments := fun hm => Nat.lt_irrefl i (hlt i hm i hi)
    rw [ofIndex_append, ofIndex_eq_nil hnot, List.nil_append]
  unfold gathered
  rw [hindices, List.map_append, List.map_congr_left hfirst, List.map_congr_left hsecond]

/-- Fragments of one call make that call. -/
theorem gathered_of_index (hne : fragments ≠ []) (h : ∀ f ∈ fragments, f.index = index) :
    gathered fragments = [joined fragments] := by
  have hindices : indices fragments = [index] := by
    refine indices_eq (List.pairwise_singleton _ _) fun i => ?_
    constructor
    · intro hi
      obtain ⟨f, hf⟩ := List.exists_mem_of_ne_nil fragments hne
      exact ⟨f, hf, (h f hf).trans (List.mem_singleton.1 hi).symm⟩
    · rintro ⟨f, hf, rfl⟩
      exact List.mem_singleton.2 (h f hf)
  have hall : ofIndex fragments index = fragments :=
    List.filter_eq_self.2 fun f hf => by simpa using h f hf
  rw [gathered, hindices, List.map_singleton, hall]

end ToolCallDelta

/-- What an answer says, whether it comes at once or in pieces. -/
structure Substance where
  text : String
  /-- Each call with its id, its name and its arguments. -/
  calls : List (String × String × Json)
  finishReason : Option FinishReason
  usage : Option Usage
deriving DecidableEq

namespace Substance

/-- What the chunks of an answer come to, put together. -/
def ofChunks (chunks : List Chunk) : Substance where
  text := Delta.words (chunks.map (·.delta))
  calls := ToolCallDelta.gathered (Delta.calls (chunks.map (·.delta)))
  finishReason := chunks.getLast?.bind (·.finishReason)
  usage := chunks.getLast?.bind (·.usage)

open Transcript

/-- The chunks of a complete answer come to what was said. -/
theorem ofChunks_chunks (id model : String) (t : List StreamEvent) :
    ofChunks (chunks id model t true) =
      ⟨Delta.words (deltas t), ToolCallDelta.gathered (Delta.calls (deltas t)),
        some ((reasons t).getLast?.getD .stop), usage? t⟩ := by
  have hlast : (chunks id model t true).getLast? = some (lastChunk id model t) := by
    simp [chunks]
  simp only [ofChunks, words_chunks, calls_chunks, hlast]
  rfl

end Substance

namespace Transcript

/-- An answer as providers tell it: usage that is known early, the deltas, the reason to end and the
rest of the usage, any of which may be missing. -/
def answer (early : Option Usage) (ds : List Delta) (reason : Option FinishReason)
    (late : Option Usage) : List StreamEvent :=
  (early.map .usage).toList ++
    (ds.map .delta ++ ((reason.map .finish).toList ++ (late.map .usage).toList))

variable (early late : Option Usage) (ds : List Delta) (reason : Option FinishReason)

theorem deltas_answer : deltas (answer early ds reason late) = ds := by
  have hds : deltas (ds.map .delta) = ds := by
    rw [deltas, List.filterMap_map]
    exact List.filterMap_some
  have husage : ∀ u : Option Usage, deltas (u.map .usage).toList = [] := by
    rintro (_ | u) <;> rfl
  have hreason : ∀ r : Option FinishReason, deltas (r.map .finish).toList = [] := by
    rintro (_ | r) <;> rfl
  simp only [answer, deltas_append, hds, husage, hreason, List.nil_append, List.append_nil]

theorem reasons_answer : reasons (answer early ds reason late) = reason.toList := by
  have hds : reasons (ds.map .delta) = [] := by simp [reasons, StreamEvent.reason?]
  have husage : ∀ u : Option Usage, reasons (u.map .usage).toList = [] := by
    rintro (_ | u) <;> rfl
  have hreason : ∀ r : Option FinishReason, reasons (r.map .finish).toList = r.toList := by
    rintro (_ | r) <;> rfl
  simp only [answer, reasons_append, hds, husage, hreason, List.nil_append, List.append_nil]

theorem usage?_answer : usage? (answer early ds reason late) = early.merge Usage.merge late := by
  have hds : (ds.map StreamEvent.delta).filterMap StreamEvent.usage? = [] := by
    simp [StreamEvent.usage?]
  simp only [usage?, answer, List.filterMap_append, hds]
  cases early <;> cases reason <;> cases late <;> rfl

theorem not_done_answer : .done ∉ answer early ds reason late := by
  cases early <;> cases reason <;> cases late <;> simp [answer]

end Transcript

open Transcript in
/-- A stream that nothing disturbs comes to a good end if it tells an answer and then either
declares it complete or has given the reason to end, and its chunks come to what was told. -/
theorem pumpStream_answer {σ : Type} {d : Decoder σ} {sink : Sink} {context : CallContext}
    {pulls : List (Work ServerEvent)} {last : Work Unit} {events : List ServerEvent} {final : σ}
    {early late : Option Usage} {ds : List Delta} {reason : Option FinishReason}
    {ending : List StreamEvent} (hs : Smooth sink context pulls last events)
    (hsaid : d.hearAll d.start events = .ok (answer early ds reason late ++ ending, final))
    (hending : ending = [.done] ∨ ending = [] ∧ reason.isSome = true)
    (id model : String) (now : Nat) :
    let p := pumpStream d sink id model context now pulls last
    p.outcome = some (.ok ())
      ∧ Substance.ofChunks p.intake.accepted =
          ⟨Delta.words ds, ToolCallDelta.gathered (Delta.calls ds), some (reason.getD .stop),
            early.merge Usage.merge late⟩
      ∧ Delta.calls (p.intake.accepted.map (·.delta)) = Delta.calls ds := by
  have hdone := not_done_answer early late ds reason
  have hbefore : beforeDone (answer early ds reason late ++ ending) =
      answer early ds reason late := by
    rw [beforeDone_append _ hdone]
    rcases hending with rfl | ⟨rfl, -⟩ <;> simp [beforeDone]
  have hcomplete : isComplete (answer early ds reason late ++ ending) = true := by
    unfold isComplete
    rw [hbefore, reasons_answer]
    rcases hending with rfl | ⟨-, hreason⟩
    · simp
    · obtain ⟨r, rfl⟩ := Option.isSome_iff_exists.1 hreason
      simp
  obtain ⟨houtcome, haccepted⟩ := pumpStream_smooth hs hsaid hcomplete id model now
  rw [hbefore] at haccepted
  have hlast : reason.toList.getLast?.getD .stop = reason.getD .stop := by cases reason <;> rfl
  refine ⟨houtcome, ?_, ?_⟩
  · rw [haccepted, Substance.ofChunks_chunks, deltas_answer, reasons_answer, usage?_answer, hlast]
  · rw [haccepted, calls_chunks, deltas_answer]

/-- What a response comes to. -/
def ChatResponse.substance (r : ChatResponse) : Substance :=
  ⟨r.message.content.allText, r.message.content.toolCalls, some r.finishReason, r.usage⟩

namespace Content

/-- A call as a part of a message. -/
def callPart : String × String × Json → Part
  | (id, name, arguments) => .toolCall id name arguments

variable (said : String) (calls : List (String × String × Json))

theorem filterMap_text_callPart : (calls.map callPart).filterMap Part.text? = [] := by
  induction calls with
  | nil => rfl
  | cons call rest ih => rw [List.map_cons, List.filterMap_cons_none rfl, ih]

theorem filterMap_toolCall_callPart : (calls.map callPart).filterMap Part.toolCall? = calls := by
  induction calls with
  | nil => rfl
  | cons call rest ih =>
    have hcall : Part.toolCall? (callPart call) = some call := rfl
    rw [List.map_cons, List.filterMap_cons_some hcall, ih]

theorem allText_assemble : (assemble said (calls.map callPart)).allText = said := by
  have hnone := filterMap_text_callPart calls
  unfold assemble
  split_ifs with hcalls hsaid
  · rfl
  · rw [String.isEmpty_iff] at hsaid
    simp [allText, hnone, hsaid]
  · simp [allText, Part.text?, hnone]

theorem toolCalls_assemble : (assemble said (calls.map callPart)).toolCalls = calls := by
  have hcalls := filterMap_toolCall_callPart calls
  unfold assemble
  split_ifs with hempty hsaid
  · rcases calls with _ | ⟨call, rest⟩
    · rfl
    · simp at hempty
  · exact hcalls
  · rw [toolCalls, List.filterMap_cons_none rfl, hcalls]

end Content

end Switchboard
