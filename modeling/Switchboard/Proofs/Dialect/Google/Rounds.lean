import Switchboard.Proofs.Dialect.Google.Messages
import Switchboard.Proofs.Dialect.Google.Streaming

/-!
# Rounds of calls in the content dialect

Answers of this dialect give their calls no ids, so the calls of every answer are numbered from zero
and the same ids come again in every round of a conversation. The calls of a round are made after
those of the rounds before, so they are the ones its results find (`lookup_callsIn`). Hence a
conversation of rounds is accepted, each result goes out under the name of the call it has the id of
in its own round, and the calls of the model go back as they came (`conversation_rounds`).
-/

namespace Switchboard.Google

/-- The call in a part as it is sent. -/
def sentCall? (part : Json) : Option Json := part.member? "functionCall"

/-- The result in a part as it is sent. -/
def sentResult? (part : Json) : Option Json := part.member? "functionResponse"

/-- A call as it is sent. -/
def namedCall (name : String) (arguments : Json) : Json :=
  .mkObj [("name", name), ("args", arguments)]

/-- A result as it is sent. -/
def namedResult (name content : String) : Json :=
  .mkObj [("name", name), ("response", .mkObj [("content", content)])]

/-- An image that the dialect takes: inline data, or a URL that tells the media type. -/
def Taken (image : Image) : Prop :=
  ∃ source, image.source = .ok source ∧ ∀ url, source = .url url → (mimeTypeOfUrl? url).isSome

/-- A part that can be sent whatever was called before it. A result is none. -/
def Free : Part → Prop
  | .text _ | .toolCall .. => True
  | .image image => Taken image
  | .toolResult .. => False

/-- The id of the call and the content of a result. -/
def result? : Part → Option (String × String)
  | .toolResult callId content _ => some (callId, content)
  | _ => none

section Parts

theorem exists_imagePart {image : Image} (h : Taken image) :
    ∃ source j, image.source = .ok source ∧ imagePart source = .ok j
      ∧ sentCall? j = none ∧ sentResult? j = none := by
  obtain ⟨source, hsource, htaken⟩ := h
  cases source with
  | base64 mimeType data => exact ⟨_, _, hsource, rfl, rfl, rfl⟩
  | url url =>
    obtain ⟨mimeType, hmime⟩ := Option.isSome_iff_exists.1 (htaken url rfl)
    refine ⟨_, _, hsource, by rw [imagePart, hmime], rfl, rfl⟩

/-- Parts are sent with the calls they make and with no result. -/
structure SentFree (parts : List Part) (js : List Json) : Prop where
  calls : js.filterMap sentCall? =
    (parts.filterMap Part.toolCall?).map fun call => namedCall call.2.1 call.2.2
  results : js.filterMap sentResult? = []

theorem SentFree.append {parts more : List Part} {js next : List Json} (h : SentFree parts js)
    (hmore : SentFree more next) : SentFree (parts ++ more) (js ++ next) where
  calls := by
    rw [List.filterMap_append, h.calls, hmore.calls, List.filterMap_append, List.map_append]
  results := by rw [List.filterMap_append, h.results, hmore.results, List.append_nil]

theorem wirePart_of_free {p : Part} (h : Free p) (calls : Calls) :
    ∃ j, wirePart calls p = .ok (j, made [p] ++ calls) ∧ SentFree [p] [j] := by
  cases p with
  | text t => exact ⟨_, rfl, rfl, rfl⟩
  | toolCall id name arguments => exact ⟨_, rfl, rfl, rfl⟩
  | toolResult callId content isError => exact h.elim
  | image image =>
    obtain ⟨source, j, hsource, hj, hcall, hresult⟩ := exists_imagePart h
    refine ⟨j, by rw [wirePart, hsource]; simp only [bind, Except.bind, hj]; rfl, ?_, ?_⟩
    · rw [List.filterMap_cons_none hcall]
      rfl
    · rw [List.filterMap_cons_none hresult]
      rfl

theorem wireParts_of_free : ∀ {parts : List Part}, (∀ p ∈ parts, Free p) → ∀ calls : Calls,
    ∃ js, wireParts calls parts = .ok (js, made parts ++ calls) ∧ SentFree parts js
  | [], _, _ => ⟨[], rfl, rfl, rfl⟩
  | p :: rest, h, calls => by
    obtain ⟨hp, hrest⟩ := List.forall_mem_cons.1 h
    obtain ⟨j, hj, hfree⟩ := wirePart_of_free hp calls
    obtain ⟨js, hjs, hfrees⟩ := wireParts_of_free hrest (made [p] ++ calls)
    refine ⟨j :: js, ?_, hfree.append hfrees⟩
    rw [← List.append_assoc, ← made_append] at hjs
    simp only [wireParts, hj, bind, Except.bind, hjs]
    rfl

/-- A result finds a call with its id, and what is sent for it is as `R` wants it. -/
def Found (calls : Calls) (R : String × String → Json → Prop) (result : String × String) : Prop :=
  ∃ name, calls.lookup result.1 = some name ∧ R result (namedResult name result.2)

theorem wireParts_of_results {calls : Calls} {R : String × String → Json → Prop} :
    ∀ {parts : List Part}, (∀ p ∈ parts, (result? p).isSome) →
      (∀ result ∈ parts.filterMap result?, Found calls R result) →
      ∃ js, wireParts calls parts = .ok (js, calls)
        ∧ List.Forall₂ R (parts.filterMap result?) (js.filterMap sentResult?)
  | [], _, _ => ⟨[], rfl, .nil⟩
  | .text _ :: _, h, _ | .image _ :: _, h, _ | .toolCall .. :: _, h, _ => by
    simpa [result?] using h _ List.mem_cons_self
  | .toolResult callId content isError :: rest, h, hfound => by
    obtain ⟨-, hrest⟩ := List.forall_mem_cons.1 h
    rw [List.filterMap_cons_some (by rfl)] at hfound ⊢
    obtain ⟨⟨name, hname, hresult⟩, hfoundRest⟩ := List.forall_mem_cons.1 hfound
    obtain ⟨js, hjs, hsent⟩ := wireParts_of_results hrest hfoundRest
    refine ⟨resultPart name content :: js, ?_, .cons hresult hsent⟩
    simp only [wireParts, wirePart, hname, bind, Except.bind, hjs]
    rfl

theorem messageParts_of_ne_tool {m : Message} (h : m.role ≠ .tool) (calls : Calls) :
    messageParts calls m = wireParts calls m.content.toParts := by
  unfold messageParts
  cases m.content with
  | text t => exact if_neg h
  | parts parts => rfl

end Parts

section Messages

/-- What a user or the system says between rounds: no results, and only images that the dialect
takes. -/
structure Remark (m : Message) : Prop where
  role : m.role = .user ∨ m.role = .system
  parts : ∀ p ∈ m.content.toParts, Free p

/-- A message that brings results of tools. -/
structure Reports (m : Message) : Prop where
  role : m.role = .tool
  parts : ∃ parts, m.content = .parts parts ∧ ∀ p ∈ parts, (result? p).isSome

theorem remark_text {role : Role} (t : String) (h : role = .user ∨ role = .system) :
    Remark (.of role (.text t)) :=
  ⟨h, List.forall_mem_singleton.2 trivial⟩

theorem reports_toolResult (callId content : String) : Reports (.toolResult callId content) :=
  ⟨rfl, _, rfl, List.forall_mem_singleton.2 rfl⟩

/-- The results that messages bring. -/
def resultsIn (ms : List Message) : List (String × String) :=
  (ms.flatMap (·.content.toParts)).filterMap result?

theorem made_of_results {parts : List Part} (h : ∀ p ∈ parts, (result? p).isSome) :
    made parts = [] := by
  have hnone : parts.filterMap Part.toolCall? = [] := by
    rw [List.filterMap_eq_nil_iff]
    intro p hp
    have hresult := h p hp
    cases p <;> first | rfl | simp [result?] at hresult
  rw [made, hnone]
  rfl

theorem saidAfter_remarks : ∀ {ms : List Message}, (∀ m ∈ ms, Remark m) →
    ∀ before : List Message, ∃ said, SaidAfter before ms said
      ∧ ∀ s ∈ said, (s.1 = .user ∨ s.1 = .system) ∧ s.2.filterMap sentResult? = []
  | [], _, _ => ⟨[], .nil, by simp⟩
  | m :: ms, h, before => by
    obtain ⟨hm, hms⟩ := List.forall_mem_cons.1 h
    have htool : m.role ≠ .tool := by
      intro htool
      rcases hm.role with hrole | hrole <;> simp [htool] at hrole
    obtain ⟨js, hjs, hfree⟩ := wireParts_of_free hm.parts (callsIn before)
    rw [← messageParts_of_ne_tool htool] at hjs
    obtain ⟨said, hsaid, hall⟩ := saidAfter_remarks hms (before ++ [m])
    exact ⟨_, .cons hjs hsaid, List.forall_mem_cons.2 ⟨⟨hm.role, hfree.results⟩, hall⟩⟩

theorem saidAfter_reports {calls : Calls} {R : String × String → Json → Prop} :
    ∀ {ms : List Message}, (∀ m ∈ ms, Reports m) →
      (∀ result ∈ resultsIn ms, Found calls R result) →
      ∀ before : List Message, callsIn before = calls → ∃ said, SaidAfter before ms said
        ∧ (∀ s ∈ said, s.1 = .tool)
        ∧ List.Forall₂ R (resultsIn ms) ((said.flatMap Prod.snd).filterMap sentResult?)
  | [], _, _, _, _ => ⟨[], .nil, by simp, .nil⟩
  | m :: ms, h, hfound, before, hbefore => by
    obtain ⟨⟨hrole, parts, hcontent, hparts⟩, hms⟩ := List.forall_mem_cons.1 h
    have hresults : resultsIn (m :: ms) = parts.filterMap result? ++ resultsIn ms := by
      rw [resultsIn, List.flatMap_cons, List.filterMap_append, hcontent]
      rfl
    rw [hresults] at hfound ⊢
    rw [List.forall_mem_append] at hfound
    obtain ⟨js, hjs, hsent⟩ := wireParts_of_results hparts hfound.1
    have hm : messageParts (callsIn before) m = .ok (js, calls) := by
      rw [messageParts, hcontent, hbefore]
      exact hjs
    -- results make no calls, so the next message finds the same
    have hnext : callsIn (before ++ [m]) = calls := by
      rw [callsIn_append, callsIn_singleton, hcontent, hbefore]
      show made parts ++ calls = calls
      rw [made_of_results hparts, List.nil_append]
    obtain ⟨said, hsaid, htool, hrest⟩ := saidAfter_reports hms hfound.2 _ hnext
    refine ⟨_, .cons hm hsaid, List.forall_mem_cons.2 ⟨hrole, htool⟩, ?_⟩
    rw [List.flatMap_cons, List.filterMap_append]
    exact List.rel_append hsent hrest

end Messages

section Replies

variable {now : Int} {request : ChatRequest} {answer : Json} {response : ChatResponse}

/-- The calls an answer asks for, each with its name and its arguments. A name that is missing reads
as empty, and so do arguments. -/
def asked (answer : Json) : List (String × Json) :=
  (partCalls (((candidate? answer).map candidateParts).getD [])).map fun call =>
    ((call.string? "name").getD "", (call.member? "args").getD (.obj []))

theorem filterMap_toParts (content : Content) :
    content.toParts.filterMap Part.toolCall? = content.toolCalls := by
  cases content <;> rfl

/-- The calls of an answer, numbered. -/
def replyCalls (answer : Json) : List (String × String × Json) :=
  (asked answer).zipIdx.map fun (call, n) => (callId n, call)

theorem callId_injective : Function.Injective callId := by
  intro m n h
  simp only [callId, toString, String.append_right_inj, Nat.repr_eq_ofList_toDigits,
    String.ofList_inj] at h
  have hdigits := congrArg (Nat.ofDigitChars 10 · 0) h
  simpa only [Nat.ofDigitChars_ten_toDigits] using hdigits

theorem message_of_chatResponse (h : chatResponse now request answer = .ok response) :
    ∃ said, response.message =
      .of .assistant (.assemble said ((replyCalls answer).map Content.callPart)) := by
  unfold chatResponse at h
  unfold replyCalls asked
  rcases hcandidate : candidate? answer with _ | candidate
  · rw [hcandidate] at h
    simp only [] at h
    split_ifs at h
    obtain rfl := Except.ok.inj h
    exact ⟨"", rfl⟩
  · rw [hcandidate] at h
    obtain rfl := Except.ok.inj h
    refine ⟨_, congrArg (fun calls => Message.of .assistant (.assemble _ calls)) ?_⟩
    rw [Option.map_some, Option.getD_some, List.zipIdx_map, List.map_map, List.map_map]
    rfl

theorem nodup_replyCalls (answer : Json) : ((replyCalls answer).map Prod.fst).Nodup := by
  have hids : (replyCalls answer).map Prod.fst = (List.range (asked answer).length).map callId := by
    rw [List.range_eq_range', ← List.zipIdx_map_snd, replyCalls, List.map_map, List.map_map]
    rfl
  rw [hids]
  exact List.Nodup.map callId_injective List.nodup_range

theorem map_snd_replyCalls (answer : Json) : (replyCalls answer).map Prod.snd = asked answer := by
  rw [replyCalls, List.map_map]
  exact List.zipIdx_map_fst 0 _

end Replies

/-- A round of a conversation: an answer of the model to a request, messages that bring results of
its calls, and what is said after them. -/
structure Round where
  request : ChatRequest
  time : Int
  answer : Json
  response : ChatResponse
  reports : List Message
  remarks : List Message

namespace Round

def messages (r : Round) : List Message := r.response.message :: (r.reports ++ r.remarks)

/-- The calls of the model, each with its id, its name and its arguments. -/
def calls (r : Round) : List (String × String × Json) := r.response.message.content.toolCalls

/-- The response is what the answer says, and the results are those of its calls, in any order and
grouping. -/
structure Sound (r : Round) : Prop where
  answered : chatResponse r.time r.request r.answer = .ok r.response
  reports : ∀ m ∈ r.reports, Reports m
  ids : ∀ result ∈ resultsIn r.reports, result.1 ∈ r.calls.map Prod.fst
  remarks : ∀ m ∈ r.remarks, Remark m

/-- A result goes out under the name of the one call of the round that has its id. -/
def Names (r : Round) (result : String × String) (j : Json) : Prop :=
  ∃ name arguments, r.calls.filter (·.1 = result.1) = [(result.1, name, arguments)]
    ∧ j = namedResult name result.2

/-- A turn holds the calls that the answer asks for, and no other. -/
def AskedIn (r : Round) (t : Turn) : Prop :=
  t.blocks.filterMap sentCall? = (asked r.answer).map fun call => namedCall call.1 call.2

variable {r : Round}

theorem Sound.calls_eq (h : r.Sound) : r.calls = replyCalls r.answer := by
  obtain ⟨said, hmessage⟩ := message_of_chatResponse h.answered
  rw [calls, hmessage]
  exact Content.toolCalls_assemble said _

theorem Sound.role (h : r.Sound) : r.response.message.role = .assistant := by
  obtain ⟨said, hmessage⟩ := message_of_chatResponse h.answered
  rw [hmessage]
  rfl

theorem Sound.free (h : r.Sound) : ∀ p ∈ r.response.message.content.toParts, Free p := by
  obtain ⟨said, hmessage⟩ := message_of_chatResponse h.answered
  rw [hmessage]
  intro p hp
  simp only [Message.of, Content.assemble] at hp
  split_ifs at hp
  · rw [List.mem_singleton.1 hp]
    trivial
  · obtain ⟨call, -, rfl⟩ := List.mem_map.1 hp
    trivial
  · rcases List.mem_cons.1 hp with rfl | hp
    · trivial
    · obtain ⟨call, -, rfl⟩ := List.mem_map.1 hp
      trivial

/-- An id of the round belongs to one call. -/
theorem Sound.filter_calls (h : r.Sound) {key : String} (hkey : key ∈ r.calls.map Prod.fst) :
    ∃ name arguments, r.calls.filter (·.1 = key) = [(key, name, arguments)] := by
  have hnodup : (r.calls.map Prod.fst).Nodup := by
    rw [h.calls_eq]
    exact nodup_replyCalls r.answer
  obtain ⟨⟨id, name, arguments⟩, hmem, rfl⟩ := List.mem_map.1 hkey
  obtain ⟨before, after, hcalls⟩ := List.append_of_mem hmem
  rw [hcalls, List.map_append, List.map_cons, List.nodup_middle, List.nodup_cons,
    ← List.map_append] at hnodup
  have hother : ∀ call ∈ before ++ after, call.1 ≠ id := fun call hcall hid =>
    hnodup.1 (List.mem_map.2 ⟨call, hcall, hid⟩)
  rw [List.forall_mem_append] at hother
  refine ⟨name, arguments, ?_⟩
  rw [hcalls, List.filter_append, List.filter_cons_of_pos (by simp),
    List.filter_eq_nil_iff.2 (by simpa using hother.1),
    List.filter_eq_nil_iff.2 (by simpa using hother.2), List.nil_append]

/-- The calls of a round are found before those made earlier. -/
theorem lookup_callsIn {key name : String} {arguments : Json}
    (h : r.calls.filter (·.1 = key) = [(key, name, arguments)]) (before : List Message) :
    (callsIn (before ++ [r.response.message])).lookup key = some name := by
  obtain ⟨first, last, hcalls, hfirst, -, hlast⟩ := List.filter_eq_cons_iff.1 h
  have hmade : callsIn [r.response.message] =
      ((first ++ (key, name, arguments) :: last).map fun call => (call.1, call.2.1)).reverse := by
    rw [← hcalls, callsIn_singleton, made, filterMap_toParts, calls]
  refine List.lookup_eq_some_iff.2 ⟨(last.map fun call => (call.1, call.2.1)).reverse,
    (first.map fun call => (call.1, call.2.1)).reverse ++ callsIn before, ?_, ?_⟩
  · rw [callsIn_append, hmade, List.map_append, List.reverse_append, List.map_cons,
      List.reverse_cons, List.append_assoc, List.append_assoc]
    rfl
  · -- no later call of the round has the id
    intro p hp
    obtain ⟨call, hcall, rfl⟩ := List.mem_map.1 (List.mem_reverse.1 hp)
    have hne := List.filter_eq_nil_iff.1 hlast call hcall
    exact bne_iff_ne.2 fun heq => hne (by simp [heq])

end Round

/-- What was said tells rounds: the turns of the model hold the calls that the answers ask for, and
each result is sent under its name. -/
structure Tells (said : List (Role × List Json)) (rounds : List Round) : Prop where
  calls : List.Forall₂ Round.AskedIn rounds ((Turn.spoken "model" said).filter (·.role = "model"))
  results : ∃ sent : List (List Json),
    sent.flatten = ((said.filter (·.1 ≠ .system)).flatMap Prod.snd).filterMap sentResult?
    ∧ List.Forall₂ (fun r js => List.Forall₂ r.Names (resultsIn r.reports) js) rounds sent
  system : ((said.filter (·.1 = .system)).flatMap Prod.snd).filterMap sentResult? = []

namespace Tells

variable {said next : List (Role × List Json)} {rounds more : List Round}

theorem append (h : Tells said rounds) (hmore : Tells next more) :
    Tells (said ++ next) (rounds ++ more) where
  calls := by
    rw [Turn.spoken, List.filterMap_append, List.filter_append]
    exact List.rel_append h.calls hmore.calls
  results := by
    obtain ⟨sent, hsent, hnames⟩ := h.results
    obtain ⟨rest, hrest, hnext⟩ := hmore.results
    refine ⟨sent ++ rest, ?_, List.rel_append hnames hnext⟩
    rw [List.flatten_append, hsent, hrest, List.filter_append, List.flatMap_append,
      List.filterMap_append]
  system := by
    rw [List.filter_append, List.flatMap_append, List.filterMap_append, h.system, hmore.system,
      List.append_nil]

theorem of_remarks
    (h : ∀ s ∈ said, (s.1 = .user ∨ s.1 = .system) ∧ s.2.filterMap sentResult? = []) :
    Tells said [] := by
  have hsilent : ∀ keep : Role × List Json → Bool,
      ((said.filter keep).flatMap Prod.snd).filterMap sentResult? = [] := fun keep => by
    rw [List.filterMap_flatMap, List.flatMap_eq_nil_iff]
    exact fun s hs => (h s (List.mem_of_mem_filter hs)).2
  refine ⟨?_, ⟨[], (hsilent _).symm, .nil⟩, hsilent _⟩
  rw [List.forall₂_nil_left_iff, List.filter_eq_nil_iff]
  intro t ht
  obtain ⟨s, hs, hturn⟩ := List.mem_filterMap.1 ht
  rcases (h s hs).1 with hrole | hrole <;> rw [hrole] at hturn
  · obtain rfl := Option.some.inj hturn
    simp
  · cases hturn

/-- An answer and the results of its calls make a round. -/
theorem of_reply {r : Round} {js : List Json} {reported : List (Role × List Json)}
    (hcalls : js.filterMap sentCall? =
      (asked r.answer).map fun call => namedCall call.1 call.2)
    (hjs : js.filterMap sentResult? = []) (htool : ∀ s ∈ reported, s.1 = .tool)
    (hsent : List.Forall₂ r.Names (resultsIn r.reports)
      ((reported.flatMap Prod.snd).filterMap sentResult?)) :
    Tells ((.assistant, js) :: reported) [r] where
  calls := by
    have hnone : (Turn.spoken "model" reported).filter (·.role = "model") = [] := by
      rw [List.filter_eq_nil_iff]
      intro t ht
      obtain ⟨s, hs, hturn⟩ := List.mem_filterMap.1 ht
      rw [htool s hs] at hturn
      obtain rfl := Option.some.inj hturn
      simp
    have hspoken : Turn.spoken "model" ((.assistant, js) :: reported) =
        ⟨"model", js⟩ :: Turn.spoken "model" reported := rfl
    rw [hspoken, List.filter_cons_of_pos (by simp), hnone]
    exact .cons hcalls .nil
  results := by
    have hall : reported.filter (·.1 ≠ .system) = reported :=
      List.filter_eq_self.2 fun s hs => by simp [htool s hs]
    refine ⟨[(reported.flatMap Prod.snd).filterMap sentResult?], ?_, .cons hsent .nil⟩
    rw [List.filter_cons_of_pos (by simp), hall, List.flatMap_cons, List.filterMap_append, hjs]
    simp
  system := by
    have hnone : reported.filter (·.1 = .system) = [] :=
      List.filter_eq_nil_iff.2 fun s hs => by simp [htool s hs]
    rw [List.filter_cons_of_neg (by simp), hnone]
    rfl

end Tells

/-- A round is sent whole, whatever came before it. -/
theorem Round.Sound.exists_tells {r : Round} (h : r.Sound) (before : List Message) :
    ∃ said, SaidAfter before r.messages said ∧ Tells said [r] := by
  have hrole : r.response.message.role ≠ .tool := by simp [h.role]
  obtain ⟨js, hjs, hfree⟩ := wireParts_of_free h.free (callsIn before)
  rw [← messageParts_of_ne_tool hrole] at hjs
  have hfound : ∀ result ∈ resultsIn r.reports,
      Found (callsIn (before ++ [r.response.message])) r.Names result := by
    intro result hresult
    obtain ⟨name, arguments, hfilter⟩ := h.filter_calls (h.ids result hresult)
    exact ⟨name, lookup_callsIn hfilter before, name, arguments, hfilter, rfl⟩
  obtain ⟨reported, hreported, htool, hsent⟩ := saidAfter_reports h.reports hfound _ rfl
  obtain ⟨remarked, hremarked, hsilent⟩ :=
    saidAfter_remarks h.remarks (before ++ [r.response.message] ++ r.reports)
  have hcalls : js.filterMap sentCall? =
      (asked r.answer).map fun call => namedCall call.1 call.2 := by
    rw [hfree.calls, filterMap_toParts, ← map_snd_replyCalls, ← h.calls_eq, List.map_map]
    rfl
  have hround := Tells.of_reply hcalls hfree.results htool hsent
  refine ⟨_, .cons hjs (hreported.append hremarked), ?_⟩
  rw [h.role]
  exact hround.append (.of_remarks hsilent)

theorem exists_tells : ∀ {rounds : List Round}, (∀ r ∈ rounds, r.Sound) →
    ∀ before : List Message, ∃ said, SaidAfter before (rounds.flatMap Round.messages) said
      ∧ Tells said rounds
  | [], _, _ => ⟨[], .nil, .of_remarks (by simp)⟩
  | r :: rounds, h, before => by
    obtain ⟨hr, hrounds⟩ := List.forall_mem_cons.1 h
    obtain ⟨said, hsaid, htells⟩ := hr.exists_tells before
    obtain ⟨next, hnext, hrest⟩ := exists_tells hrounds (before ++ r.messages)
    exact ⟨said ++ next, hsaid.append hnext, htells.append hrest⟩

section Groups

variable {α β : Type} {R : α → β → Prop}

/-- What is related to the items of groups, one by one, falls into groups itself. -/
theorem exists_groups : ∀ {xs : List α} {groups : List (List β)},
    List.Forall₂ R xs groups.flatten →
      ∃ xss : List (List α), xss.flatten = xs ∧ List.Forall₂ (List.Forall₂ R) xss groups
  | xs, [], h => by
    rw [List.flatten_nil, List.forall₂_nil_right_iff] at h
    exact ⟨[], h.symm, .nil⟩
  | xs, group :: groups, h => by
    rw [List.flatten_cons] at h
    obtain ⟨xss, hflat, hrest⟩ := exists_groups (List.forall₂_drop_append xs group _ h)
    refine ⟨xs.take group.length :: xss, ?_, .cons (List.forall₂_take_append xs group _ h) hrest⟩
    rw [List.flatten_cons, hflat, List.take_append_drop]

end Groups

/-- A turn of the model goes back with the calls that the answers of some rounds ask for. -/
structure GoesBack (t : Turn) (rounds : List Round) : Prop where
  nonempty : rounds ≠ []
  calls : t.blocks.filterMap sentCall? =
    (rounds.flatMap fun r => asked r.answer).map fun call => namedCall call.1 call.2

theorem goesBack_of_joins {t : Turn} {run : List Turn} {rounds : List Round} (h : t.Joins run)
    (hrounds : List.Forall₂ Round.AskedIn rounds run) : GoesBack t rounds := by
  refine ⟨?_, ?_⟩
  · rintro rfl
    exact h.nonempty (List.forall₂_nil_left_iff.1 hrounds)
  · rw [h.blocks]
    clear h
    induction hrounds with
    | nil => rfl
    | cons hcalls _ ih =>
      rw [List.flatMap_cons, List.flatMap_cons, List.filterMap_append, List.map_append, hcalls, ih]

theorem forall₂_goesBack {turns : List Turn} {runs : List (List Turn)}
    (h : List.Forall₂ Turn.Joins turns runs) : ∀ {groups : List (List Round)},
    List.Forall₂ (List.Forall₂ Round.AskedIn) groups runs → List.Forall₂ GoesBack turns groups := by
  induction h with
  | nil =>
    intro groups hgroups
    rw [List.forall₂_nil_right_iff.1 hgroups]
    exact .nil
  | cons ht _ ih =>
    intro groups hgroups
    obtain ⟨group, rest, hgroup, hrest, rfl⟩ := List.forall₂_cons_right_iff.1 hgroups
    exact .cons (goesBack_of_joins ht hgroup) (ih hrest)

/-- A conversation of any number of rounds, whose calls have the same ids in every round, is
accepted. Each result goes out under the name of the call with its id in its own round, no other
result goes out, and the calls of the model go back as the answers ask for them. -/
theorem conversation_rounds {opening : List Message} {rounds : List Round}
    (hopening : ∀ m ∈ opening, Remark m) (hrounds : ∀ r ∈ rounds, r.Sound) :
    ∃ c, conversation (opening ++ rounds.flatMap Round.messages) = .ok c
      ∧ (∃ sent : List (List Json),
        sent.flatten = (c.turns.flatMap Turn.blocks).filterMap sentResult?
        ∧ List.Forall₂ (fun r js => List.Forall₂ r.Names (resultsIn r.reports) js) rounds sent)
      ∧ c.system.filterMap sentResult? = []
      ∧ ∃ groups : List (List Round), groups.flatten = rounds
        ∧ List.Forall₂ GoesBack (c.turns.filter (·.role = "model")) groups := by
  obtain ⟨opened, hopened, hsilent⟩ := saidAfter_remarks hopening []
  obtain ⟨said, hsaid, htells⟩ := exists_tells hrounds ([] ++ opening)
  have hall := (Tells.of_remarks hsilent).append htells
  rw [List.nil_append] at hall
  have harranged := arranged_merge "model" (opened ++ said)
  refine ⟨_, conversation_eq_ok_iff.2 ⟨_, hopened.append hsaid, rfl⟩, ?_, hall.system, ?_⟩
  · obtain ⟨sent, hsent, hnames⟩ := hall.results
    refine ⟨sent, ?_, hnames⟩
    rw [hsent, harranged.blocks]
  · obtain ⟨runs, hflat, hjoins⟩ := harranged.runs
    obtain ⟨kept, hkept, hmodel⟩ := Turn.exists_runs_filter hjoins "model"
    have hcalls := hall.calls
    rw [← hflat, ← hkept] at hcalls
    obtain ⟨groups, hgroups, hback⟩ := exists_groups hcalls
    exact ⟨groups, hgroups, forall₂_goesBack hmodel hback⟩

section Exchange

/-- A round whose answer has some parts. -/
def roundOf (parts : List Json) (content : Content) (reason : FinishReason)
    (reports remarks : List Message) : Round where
  request := .of "m" []
  time := 0
  answer := bodyOf parts [] []
  response := ⟨"", "m", .of .assistant content, reason, none, 0⟩
  reports := reports
  remarks := remarks

def fetchCall : Json := .mkObj [("functionCall", .mkObj [("name", "fetch")])]

/-- Two rounds whose first calls have one id. The results of the first come in the other order. -/
def searchRounds : List Round := [
  roundOf [.mkObj [("text", "One moment.")], lookupCall, bareCall]
    (.parts [.text "One moment.", .toolCall "call_0" "lookup" (.mkObj [("id", .nat 7)]),
      .toolCall "call_1" "" (.obj [])]) .stop
    [.toolResult "call_1" "nothing", .toolResult "call_0" "seven"]
    [.of .system (.text "Be brief."), .of .user (.text "And then?")],
  roundOf [fetchCall] (.parts [.toolCall "call_0" "fetch" (.obj [])]) .stop
    [.toolResult "call_0" "done"] []]

theorem search_accepted :
    ∃ c, conversation (.of .user (.text "Find it.") :: searchRounds.flatMap Round.messages) = .ok c
      ∧ (c.turns.flatMap Turn.blocks).filterMap sentResult? =
        [namedResult "" "nothing", namedResult "lookup" "seven", namedResult "fetch" "done"]
      ∧ (c.turns.filter (·.role = "model")).map (fun t => t.blocks.filterMap sentCall?) =
        [[namedCall "lookup" (.mkObj [("id", .nat 7)]), namedCall "" (.obj [])],
          [namedCall "fetch" (.obj [])]] := by
  have hopening : ∀ m ∈ [Message.of .user (.text "Find it.")], Remark m :=
    List.forall_mem_singleton.2 (remark_text "Find it." (.inl rfl))
  have hrounds : ∀ r ∈ searchRounds, r.Sound := by
    refine List.forall_mem_cons.2 ⟨⟨rfl, ?_, by decide, ?_⟩,
      List.forall_mem_singleton.2 ⟨rfl, ?_, by decide, nofun⟩⟩
    · exact List.forall_mem_cons.2
        ⟨reports_toolResult _ _, List.forall_mem_singleton.2 (reports_toolResult _ _)⟩
    · exact List.forall_mem_cons.2
        ⟨remark_text _ (.inr rfl), List.forall_mem_singleton.2 (remark_text _ (.inl rfl))⟩
    · exact List.forall_mem_singleton.2 (reports_toolResult _ _)
  obtain ⟨c, hc, -⟩ := conversation_rounds hopening hrounds
  refine ⟨c, hc, ?_, ?_⟩
  · obtain rfl := Except.ok.inj hc
    rfl
  · obtain rfl := Except.ok.inj hc
    rfl

/-- An image whose URL does not tell its type is not sent. -/
def portraitRound : Round :=
  roundOf [.mkObj [("text", "Hello.")]] (.text "Hello.") .stop []
    [.of .user (.parts [.image (.ofUrl "https://example.com/portrait")])]

/-- What a user says may also hold the result of a call that was never made. -/
def strayRound : Round :=
  roundOf [.mkObj [("text", "Hello.")]] (.text "Hello.") .stop []
    [.of .user (.parts [.toolResult "call_0" "seven" false])]

/-- A call in a part that has a text is none. -/
def captionedRound : Round :=
  roundOf [.mkObj [("text", "Hello."), ("functionCall", .mkObj [("name", "lookup")])]]
    (.text "Hello.") .stop [] []

/-- Not everything a user may say can be sent, and not everything that looks like a call is one. -/
theorem remarks_refused :
    (∀ r ∈ [portraitRound, strayRound, captionedRound],
      chatResponse r.time r.request r.answer = .ok r.response)
    ∧ conversation portraitRound.messages = .error (.untranslatable
        "cannot determine the image type of 'https://example.com/portrait'")
    ∧ conversation strayRound.messages = .error (.untranslatable
        "tool result 'call_0' does not match any earlier tool call")
    ∧ conversation captionedRound.messages = .ok ⟨[], [⟨"model", [textPart "Hello."]⟩]⟩ := by
  refine ⟨?_, rfl, rfl, rfl⟩
  intro r hr
  simp only [List.mem_cons, List.not_mem_nil, or_false] at hr
  rcases hr with rfl | rfl | rfl <;> rfl

end Exchange

end Switchboard.Google
