import Switchboard.Dialect.Anthropic.Stream
import Switchboard.Proofs.Dialect.Arguments
import Switchboard.Proofs.Stream.Substance

/-!
# Streamed answers of the messages dialect

A stream opens each block of an answer, fills it and closes it, before it goes on to the next. What
is said of one block adds up to that block (`Block.tell_of_streamed`), and since the blocks are
numbered, what is said of all adds up to all (`Tell.append`, `tell_of_blockStream`). Usage comes in
two reports, and the later laid over the earlier is the report of the two together
(`merge_of_overlaid`). So a stream of blocks comes to the same as one body that holds them
(`pumpStream_blocks`).
-/

namespace Switchboard.Anthropic

inductive Block where
  | text (said : String)
  | toolUse (id name : String) (input : Json)

namespace Block

def text? : Block → Option String
  | text said => some said
  | _ => none

def call? : Block → Option (String × String × Json)
  | toolUse id name input => some (id, name, input)
  | _ => none

/-- An entry of a body is the block. -/
def HeldBy (entry : Json) : Block → Prop
  | text said => entry.string? "type" = some "text" ∧ entry.string? "text" = some said
  | toolUse id name input => entry.string? "type" = some "tool_use"
    ∧ entry.string? "id" = some id ∧ entry.string? "name" = some name ∧ entry.get "input" = input

end Block

/-- An answer with its two reports of usage. Each is a report if it is an object. -/
structure Reply where
  blocks : List Block
  reason : Option String
  early : Json
  late : Json

/-- A report of usage has what an earlier report and a later one have together, the counts of the
later going before those of the earlier. -/
structure Overlaid (early late usage : Json) : Prop where
  isObj : usage.isObj = (early.isObj || late.isObj)
  input : (usage.get "input_tokens").nat? =
    ((late.get "input_tokens").nat? <|> (early.get "input_tokens").nat?)
  output : (usage.get "output_tokens").nat? =
    ((late.get "output_tokens").nat? <|> (early.get "output_tokens").nat?)

/-- A body holds the whole answer. -/
structure Reply.HeldBy (a : Reply) (body : Json) : Prop where
  blocks : ∃ entries, body.get "content" = .arr entries
    ∧ List.Forall₂ Block.HeldBy entries a.blocks
  reason : body.string? "stop_reason" = a.reason
  usage : Overlaid a.early a.late (body.get "usage")

section Events

/-- An event of a kind, which it says by its name, or in its data if it has no name of its own. -/
structure OfKind (event : ServerEvent) (kind : String) (data : Json) : Prop where
  reads : Json.ofString? event.data = some data
  kind : event.name = kind
    ∨ (event.name = "" ∨ event.name = ServerEvent.defaultName) ∧ data.string? "type" = some kind

def Opens (event : ServerEvent) (index : Nat) (block : Json) : Prop :=
  ∃ data, OfKind event "content_block_start" data ∧ (data.get "index").nat? = some index
    ∧ data.get "content_block" = block

def Fills (event : ServerEvent) (index : Nat) (delta : Json) : Prop :=
  ∃ data, OfKind event "content_block_delta" data ∧ (data.get "index").nat? = some index
    ∧ data.get "delta" = delta

/-- An event with a fragment of the text of a block. -/
def FillsText (index : Nat) (event : ServerEvent) (fragment : String) : Prop :=
  ∃ delta, Fills event index delta ∧ delta.string? "type" = some "text_delta"
    ∧ delta.string? "text" = some fragment

/-- An event with a fragment of the input of a call. -/
def FillsInput (index : Nat) (event : ServerEvent) (fragment : String) : Prop :=
  ∃ delta, Fills event index delta ∧ delta.string? "type" = some "input_json_delta"
    ∧ delta.string? "partial_json" = some fragment

/-- The text is JSON for the input of a call, where no text at all is an empty object. -/
def Spells (text : String) (input : Json) : Prop :=
  Json.ofString? text = some input ∨ text = "" ∧ input = .obj []

/-- Events that open a block, fill it with fragments and close it. -/
inductive Block.Streamed (index : Nat) : Block → List ServerEvent → Prop
  | text {opening closing : ServerEvent} {fills : List ServerEvent} {block closed : Json}
      {start : String} {fragments : List String} :
      Opens opening index block → block.string? "type" = some "text" →
      textIn block "text" = start → List.Forall₂ (FillsText index) fills fragments →
      OfKind closing "content_block_stop" closed →
      Streamed index (.text (start ++ String.join fragments)) (opening :: (fills ++ [closing]))
  | toolUse {opening closing : ServerEvent} {fills : List ServerEvent} {block closed : Json}
      {id name : String} {input : Json} {fragments : List String} :
      Opens opening index block → block.string? "type" = some "tool_use" →
      block.string? "id" = some id → block.string? "name" = some name →
      List.Forall₂ (FillsInput index) fills fragments → Spells (String.join fragments) input →
      OfKind closing "content_block_stop" closed →
      Streamed index (.toolUse id name input) (opening :: (fills ++ [closing]))

/-- Events that bring blocks one after the other, numbered from `index` on. -/
inductive BlockStream : Nat → List Block → List ServerEvent → Prop
  | nil {index : Nat} : BlockStream index [] []
  | cons {index : Nat} {block : Block} {blocks : List Block} {events more : List ServerEvent} :
      block.Streamed index events → BlockStream (index + 1) blocks more →
      BlockStream index (block :: blocks) (events ++ more)

/-- Events that bring an answer: a start with the early usage, the blocks, an end with the reason
and the late usage, and the stop. -/
inductive Reply.Streamed (a : Reply) : List ServerEvent → Prop
  | message {start ending stop : ServerEvent} {started ended stopped : Json}
      {events : List ServerEvent} :
      OfKind start "message_start" started → (started.get "message").get "usage" = a.early →
      BlockStream 0 a.blocks events →
      OfKind ending "message_delta" ended →
      (ended.get "delta").string? "stop_reason" = a.reason → ended.get "usage" = a.late →
      OfKind stop "message_stop" stopped →
      Streamed a (start :: (events ++ [ending, stop]))

end Events

section Usage

/-- The usage that a report says, if it is one. -/
def reported (usage : Json) : Option Usage :=
  if usage.isObj then
    some (.of (Usage.countIn usage "input_tokens") (Usage.countIn usage "output_tokens") none)
  else none

theorem usage?_eq (j : Json) : usage? j = reported (j.get "usage") := rfl

/-- Reports without totals, laid over each other, are the report of the counts laid over each
other. -/
theorem merge_of (input output input' output' : Option Nat) :
    Usage.merge (.of input output none) (.of input' output' none) =
      .of (input' <|> input) (output' <|> output) none := by
  cases input <;> cases output <;> cases input' <;> cases output' <;> rfl

theorem countIn_of_overlaid {key : String} {early late usage : Json}
    (h : (usage.get key).nat? = ((late.get key).nat? <|> (early.get key).nat?)) :
    Usage.countIn usage key = (Usage.countIn late key <|> Usage.countIn early key) := by
  unfold Usage.countIn
  rw [h]
  cases (late.get key).nat? <;> rfl

theorem countIn_of_not_obj {j : Json} (h : j.isObj = false) (key : String) :
    Usage.countIn j key = none := by
  cases j with
  | obj members => simp [Json.isObj] at h
  | _ => rfl

theorem merge_of_overlaid {early late usage : Json} (h : Overlaid early late usage) :
    (reported early).merge Usage.merge (reported late) = reported usage := by
  have hinput := countIn_of_overlaid h.input
  have houtput := countIn_of_overlaid h.output
  have hisObj := h.isObj
  unfold reported
  rw [hisObj, hinput, houtput]
  rcases hearly : early.isObj with _ | _ <;> rcases hlate : late.isObj with _ | _
  · rfl
  · simp [countIn_of_not_obj hearly]
  · simp [countIn_of_not_obj hlate]
  · simp [merge_of]

end Usage

section Blocks

variable {event : ServerEvent} {index : Nat}

theorem hear_of_kind {kind : String} {data : Json} (h : OfKind event kind data)
    (hkind : kind ≠ "" ∧ kind ≠ ServerEvent.defaultName) :
    decoder.hear () event = (kindEvents kind data).map (·, ()) := by
  rw [Decoder.hear_of_not_blank (Json.not_blank h.reads)]
  unfold decoder Decoder.stateless streamEvents
  simp only [h.reads]
  rcases h.kind with hname | ⟨hname, htype⟩
  · simp [hname, hkind]
  · have htextIn : textIn data "type" = kind := by simp [textIn, htype]
    rcases hname with hname | hname <;> simp [hname, htextIn]

theorem indexIn_eq {data : Json} (h : (data.get "index").nat? = some index)
    (hfew : index ≤ maxCount) : (Usage.countIn data "index").getD 0 = index := by
  simp [Usage.countIn, h, Nat.min_eq_left hfew]

theorem hear_of_opens {block : Json} (h : Opens event index block) (hfew : index ≤ maxCount) :
    decoder.hear () event = .ok (openedBlock index block, ()) := by
  obtain ⟨data, hkind, hindex, rfl⟩ := h
  rw [hear_of_kind hkind (by decide)]
  simp only [kindEvents, indexIn_eq hindex hfew]
  rfl

theorem hear_of_fills {delta : Json} (h : Fills event index delta) (hfew : index ≤ maxCount) :
    decoder.hear () event = .ok (filledBlock index delta, ()) := by
  obtain ⟨data, hkind, hindex, rfl⟩ := h
  rw [hear_of_kind hkind (by decide)]
  simp only [kindEvents, indexIn_eq hindex hfew]
  rfl

theorem hear_of_closing {data : Json} (h : OfKind event "content_block_stop" data) :
    decoder.hear () event = .ok ([], ()) := by
  rw [hear_of_kind h (by decide)]
  rfl

theorem hearAll_text {events : List ServerEvent} {fragments : List String}
    (h : List.Forall₂ (FillsText index) events fragments) (hfew : index ≤ maxCount) :
    decoder.hearAll () events = .ok ((fragments.map Delta.ofText).map .delta, ()) := by
  refine Decoder.hearAll_deltas (fun event fragment hfills => ?_) h
  obtain ⟨delta, hfills, htype, htext⟩ := hfills
  rw [hear_of_fills hfills hfew]
  simp [filledBlock, htype, textIn, htext]

/-- The fragment of a call that a fragment of its input makes. -/
def inputDelta (index : Nat) (fragment : String) : Delta := ⟨none, [⟨index, none, none, fragment⟩]⟩

theorem hearAll_input {events : List ServerEvent} {fragments : List String}
    (h : List.Forall₂ (FillsInput index) events fragments) (hfew : index ≤ maxCount) :
    decoder.hearAll () events = .ok ((fragments.map (inputDelta index)).map .delta, ()) := by
  refine Decoder.hearAll_deltas (fun event fragment hfills => ?_) h
  obtain ⟨delta, hfills, htype, htext⟩ := hfills
  rw [hear_of_fills hfills hfew]
  simp [filledBlock, htype, textIn, htext, inputDelta]

/-- Deltas tell what blocks tell that are numbered from `index` on. -/
structure Tell (deltas : List Delta) (index : Nat) (blocks : List Block) : Prop where
  words : Delta.words deltas = String.join (blocks.filterMap Block.text?)
  calls : ToolCallDelta.gathered (Delta.calls deltas) = blocks.filterMap Block.call?
  indices : ∀ fragment ∈ Delta.calls deltas,
    index ≤ fragment.index ∧ fragment.index < index + blocks.length

theorem Tell.append {first second : List Delta} {blocks more : List Block}
    (h : Tell first index blocks) (hmore : Tell second (index + blocks.length) more) :
    Tell (first ++ second) index (blocks ++ more) where
  words := by
    rw [Delta.words_append, h.words, hmore.words, List.filterMap_append, String.join_append]
  calls := by
    have hlt : ∀ f ∈ Delta.calls first, ∀ g ∈ Delta.calls second, f.index < g.index :=
      fun f hf g hg => Nat.lt_of_lt_of_le (h.indices f hf).2 (hmore.indices g hg).1
    rw [Delta.calls_append, ToolCallDelta.gathered_append hlt, h.calls, hmore.calls,
      List.filterMap_append]
  indices := by
    intro fragment hfragment
    rw [Delta.calls_append, List.mem_append] at hfragment
    rw [List.length_append]
    rcases hfragment with hfragment | hfragment
    · have := h.indices fragment hfragment
      omega
    · have := hmore.indices fragment hfragment
      omega

def startDeltas (start : String) : List Delta := if start = "" then [] else [.ofText start]

theorem openedBlock_text {block : Json} (htype : block.string? "type" = some "text") :
    openedBlock index block = (startDeltas (textIn block "text")).map .delta := by
  simp only [openedBlock, htype, Option.getD_some, startDeltas]
  split_ifs <;> rfl

theorem tell_text (index : Nat) (start : String) (fragments : List String) :
    Tell (startDeltas start ++ fragments.map .ofText) index
      [.text (start ++ String.join fragments)] := by
  have hstart : Delta.words (startDeltas start) = start := by
    unfold startDeltas
    split_ifs with h
    · rw [h]
      rfl
    · simp [Delta.words, Delta.ofText]
  have hfragments : Delta.words (fragments.map .ofText) = String.join fragments := by
    simp [Delta.words, Delta.ofText, Function.comp_def]
  have hcalls : Delta.calls (startDeltas start ++ fragments.map .ofText) = [] := by
    unfold startDeltas
    split_ifs <;> simp [Delta.calls, Delta.ofText]
  refine ⟨?_, by rw [hcalls]; rfl, by simp [hcalls]⟩
  rw [Delta.words_append, hstart, hfragments]
  simp [Block.text?]

theorem words_of_textless :
    ∀ {deltas : List Delta}, (∀ delta ∈ deltas, delta.text = none) → Delta.words deltas = ""
  | [], _ => rfl
  | delta :: rest, h => by
    have hrest := words_of_textless fun d hd => h d (List.mem_cons_of_mem _ hd)
    rw [← List.singleton_append, Delta.words_append, hrest]
    simp [Delta.words, h delta List.mem_cons_self]

def callDelta (index : Nat) (id name : String) : Delta := ⟨none, [⟨index, some id, some name, ""⟩]⟩

theorem ofText_of_spells {text : String} {input : Json} (h : Spells text input) :
    Arguments.ofText text = input := by
  rcases h with h | ⟨rfl, rfl⟩
  · exact Arguments.ofText_of_ofString? h
  · rfl

theorem tell_toolUse (index : Nat) (id name : String) {input : Json} {fragments : List String}
    (h : Spells (String.join fragments) input) :
    Tell (callDelta index id name :: fragments.map (inputDelta index)) index
      [.toolUse id name input] := by
  have hwords : Delta.words (callDelta index id name :: fragments.map (inputDelta index)) = "" := by
    refine words_of_textless fun delta hdelta => ?_
    obtain rfl | ⟨fragment, -, rfl⟩ : _ ∨ _ := by simpa using hdelta
    · rfl
    · rfl
  have hcalls : Delta.calls (callDelta index id name :: fragments.map (inputDelta index)) =
      ⟨index, some id, some name, ""⟩ :: fragments.map fun f => ⟨index, none, none, f⟩ := by
    rw [Delta.calls, List.flatMap_cons, List.flatMap_map, List.map_eq_flatMap]
    rfl
  have hindex : ∀ f ∈ Delta.calls (callDelta index id name :: fragments.map (inputDelta index)),
      f.index = index := by
    rw [hcalls]
    simp
  refine ⟨hwords, ?_, ?_⟩
  · rw [ToolCallDelta.gathered_of_index (by rw [hcalls]; simp) hindex, hcalls]
    simp [ToolCallDelta.joined, Function.comp_def, ofText_of_spells h, Block.call?]
  · intro f hf
    simp [hindex f hf]

/-- What is said of a block adds up to the block. -/
theorem Block.tell_of_streamed {block : Block} {events : List ServerEvent}
    (h : block.Streamed index events) (hfew : index ≤ maxCount) :
    ∃ deltas, Tell deltas index [block]
      ∧ decoder.hearAll () events = .ok (deltas.map .delta, ()) := by
  cases h with
  | @text opening closing fills block closed start fragments hopen htype hstart hfills hclose =>
    refine ⟨_, tell_text index start fragments, ?_⟩
    have hopened := hear_of_opens hopen hfew
    rw [openedBlock_text htype, hstart] at hopened
    have hhears := Decoder.hearAll_cons hopened (Decoder.hearAll_append (hearAll_text hfills hfew)
      (Decoder.hearAll_singleton (hear_of_closing hclose)))
    rw [hhears, List.append_nil, List.map_append]
  | @toolUse opening closing fills block closed id name input fragments hopen htype hid hname hfills
      hspells hclose =>
    refine ⟨_, tell_toolUse index id name hspells, ?_⟩
    have hopened := hear_of_opens hopen hfew
    have hcall : openedBlock index block = [.delta (callDelta index id name)] := by
      simp [openedBlock, htype, hid, hname, callDelta]
    rw [hcall] at hopened
    have hhears := Decoder.hearAll_cons hopened (Decoder.hearAll_append (hearAll_input hfills hfew)
      (Decoder.hearAll_singleton (hear_of_closing hclose)))
    rw [hhears, List.append_nil]
    rfl

/-- What is said of blocks adds up to the blocks, as long as their numbers are in range. -/
theorem tell_of_blockStream {blocks : List Block} {events : List ServerEvent}
    (h : BlockStream index blocks events) :
    index + blocks.length ≤ maxCount + 1 →
      ∃ deltas, Tell deltas index blocks
        ∧ decoder.hearAll () events = .ok (deltas.map .delta, ()) := by
  induction h with
  | nil => exact fun _ => ⟨[], ⟨rfl, rfl, by simp [Delta.calls]⟩, rfl⟩
  | @cons index block blocks events more hblock hrest ih =>
    intro hfew
    rw [List.length_cons] at hfew
    obtain ⟨first, htell, hhears⟩ := Block.tell_of_streamed hblock (by omega)
    obtain ⟨second, htells, hhears'⟩ := ih (by omega)
    refine ⟨first ++ second, htell.append htells, ?_⟩
    rw [Decoder.hearAll_append hhears hhears', List.map_append]

end Blocks

section Whole

variable {a : Reply}

/-- A stream of an answer tells the answer and declares it complete. -/
theorem hearAll_streamed {events : List ServerEvent} (h : a.Streamed events)
    (hfew : a.blocks.length < Nat.pow 2 32) :
    ∃ deltas, Tell deltas 0 a.blocks ∧ decoder.hearAll decoder.start events = .ok
      (Transcript.answer (reported a.early) deltas (a.reason.map finishReason) (reported a.late) ++
        [.done], ()) := by
  obtain @⟨start, ending, stop, started, ended, stopped, events, hstart, hearly, hblocks, hending,
    hreason, hlate, hstop⟩ := h
  have hlen : 0 + a.blocks.length ≤ maxCount + 1 := by
    have : maxCount + 1 = Nat.pow 2 32 := rfl
    omega
  obtain ⟨deltas, htell, hhears⟩ := tell_of_blockStream hblocks hlen
  refine ⟨deltas, htell, ?_⟩
  have hstarted : decoder.hear () start = .ok (((reported a.early).map .usage).toList, ()) := by
    rw [hear_of_kind hstart (by decide), ← hearly]
    rfl
  have hended : decoder.hear () ending = .ok (((a.reason.map finishReason).map .finish).toList ++
      ((reported a.late).map .usage).toList, ()) := by
    rw [hear_of_kind hending (by decide), ← hlate, ← hreason, Option.map_map]
    rfl
  have hstopped : decoder.hear () stop = .ok ([.done], ()) := by
    rw [hear_of_kind hstop (by decide)]
    rfl
  have hall := Decoder.hearAll_cons hstarted (Decoder.hearAll_append hhears
    (Decoder.hearAll_cons hended (Decoder.hearAll_singleton hstopped)))
  rw [show decoder.start = () from rfl, hall]
  simp [Transcript.answer]

theorem reads_of_heldBy {entry : Json} :
    ∀ {block : Block}, block.HeldBy entry → blockText? entry = block.text?
      ∧ blockCall? entry = block.call?.map Content.callPart
  | .text said, ⟨htype, htext⟩ => by
    simp [blockText?, blockCall?, htype, textIn, htext, Block.text?, Block.call?]
  | .toolUse id name input, ⟨htype, hid, hname, hinput⟩ => by
    simp [blockText?, blockCall?, htype, textIn, hid, hname, hinput, Block.text?, Block.call?,
      Content.callPart]

theorem filterMap_of_heldBy {entries : List Json} {blocks : List Block}
    (h : List.Forall₂ Block.HeldBy entries blocks) :
    entries.filterMap blockText? = blocks.filterMap Block.text?
      ∧ entries.filterMap blockCall? = (blocks.filterMap Block.call?).map Content.callPart := by
  induction h with
  | nil => exact ⟨rfl, rfl⟩
  | @cons entry block _ _ hentry _ ih =>
    obtain ⟨htext, hcall⟩ := reads_of_heldBy hentry
    rw [List.filterMap_cons, List.filterMap_cons, List.filterMap_cons, List.filterMap_cons, htext,
      hcall, ih.1, ih.2]
    refine ⟨rfl, ?_⟩
    rcases block.call? with _ | call <;> rfl

/-- What a body comes to that holds a whole answer. -/
theorem chatResponse_of_heldBy {body : Json} (h : a.HeldBy body) (now : Int) (r : ChatRequest) :
    ∃ response, chatResponse now r body = .ok response
      ∧ response.substance = ⟨String.join (a.blocks.filterMap Block.text?),
          a.blocks.filterMap Block.call?, some ((a.reason.map finishReason).getD .stop),
          (reported a.early).merge Usage.merge (reported a.late)⟩ := by
  obtain ⟨entries, hcontent, hentries⟩ := h.blocks
  obtain ⟨htexts, hcalls⟩ := filterMap_of_heldBy hentries
  refine ⟨_, by unfold chatResponse; rw [hcontent]; rfl, ?_⟩
  simp only [ChatResponse.substance, Message.of, htexts, hcalls, h.reason, usage?_eq,
    merge_of_overlaid h.usage, Content.allText_assemble, Content.toolCalls_assemble]

end Whole

/-- A stream of an answer's blocks, however they are cut, comes to a good end and to the same as one
body that holds the blocks and the two reports of usage laid over each other. -/
theorem pumpStream_blocks {a : Reply} {events : List ServerEvent} (hstream : a.Streamed events)
    (hfew : a.blocks.length < Nat.pow 2 32) {body : Json} (hbody : a.HeldBy body) {sink : Sink}
    {context : CallContext} {pulls : List (Work ServerEvent)} {last : Work Unit}
    (hs : Smooth sink context pulls last events) (id model : String) (start : Nat) (now : Int)
    (r : ChatRequest) :
    let p := pumpStream decoder sink id model context start pulls last
    ∃ response, chatResponse now r body = .ok response
      ∧ p.outcome = some (.ok ())
      ∧ Substance.ofChunks p.intake.accepted = response.substance := by
  intro p
  obtain ⟨deltas, htell, hsaid⟩ := hearAll_streamed hstream hfew
  obtain ⟨houtcome, hsubstance, -⟩ := pumpStream_answer hs hsaid (.inl rfl) id model start
  obtain ⟨response, hresponse, hwhole⟩ := chatResponse_of_heldBy hbody now r
  refine ⟨response, hresponse, houtcome, ?_⟩
  rw [hsubstance, hwhole, htell.words, htell.calls]

section Query

/-- Words, and a call whose input is cut in two; the later report has one count only. -/
def query : Reply where
  blocks := [.text "Hello", .toolUse "a" "find" (.mkObj [("q", .nat 1)])]
  reason := some "tool_use"
  early := .mkObj [("input_tokens", .nat 5), ("output_tokens", .nat 1)]
  late := .mkObj [("output_tokens", .nat 9)]

def fillOf (index : Nat) (kind key fragment : String) : List (String × Json) :=
  [("index", .nat index), ("delta", .mkObj [("type", kind), (key, fragment)])]

/-- The names of the events and their data; the first has no name of its own. -/
def queryParts : List (String × List (String × Json)) := [
  ("message", [("type", "message_start"), ("message", .mkObj [("usage", query.early)])]),
  ("content_block_start",
    [("index", .nat 0), ("content_block", .mkObj [("type", "text"), ("text", "")])]),
  ("content_block_delta", fillOf 0 "text_delta" "text" "Hel"),
  ("content_block_delta", fillOf 0 "text_delta" "text" "lo"),
  ("content_block_stop", []),
  ("content_block_start", [("index", .nat 1), ("content_block",
    .mkObj [("type", "tool_use"), ("id", "a"), ("name", "find"), ("input", .obj [])])]),
  ("content_block_delta", fillOf 1 "input_json_delta" "partial_json" "\x7b\"q\""),
  ("content_block_delta", fillOf 1 "input_json_delta" "partial_json" ": 1\x7d"),
  ("content_block_stop", []),
  ("message_delta", [("delta", .mkObj [("stop_reason", "tool_use")]), ("usage", query.late)]),
  ("message_stop", [])]

def eventOf (part : String × List (String × Json)) : ServerEvent :=
  ⟨part.1, (Json.mkObj part.2).render⟩

def queryEvents : List ServerEvent := queryParts.map eventOf

def queryBody : Json :=
  .mkObj [("stop_reason", "tool_use"),
    ("usage", .mkObj [("input_tokens", .nat 5), ("output_tokens", .nat 9)]),
    ("content", .arr [.mkObj [("type", "text"), ("text", "Hello")],
      .mkObj [("type", "tool_use"), ("id", "a"), ("name", "find"),
        ("input", .mkObj [("q", .nat 1)])]])]

theorem query_streamed :
    ∃ response, chatResponse 0 (.of "m" []) queryBody = .ok response
      ∧ let p := pumpStream decoder .all "r" "m" .unbounded 0
          (queryEvents.map fun e => .done (.ok e)) (.done (.ok ()))
        p.outcome = some (.ok ()) ∧ Substance.ofChunks p.intake.accepted = response.substance := by
  have hreads : ∀ part ∈ queryParts,
      Json.ofString? (Json.mkObj part.2).render = some (.mkObj part.2) := by decide +kernel
  have hkind : ∀ i (hi : i < queryParts.length),
      OfKind (eventOf queryParts[i]) queryParts[i].1 (.mkObj queryParts[i].2) :=
    fun i hi => ⟨hreads _ (List.getElem_mem hi), .inl rfl⟩
  have hstart : OfKind (eventOf queryParts[0]) "message_start" (.mkObj queryParts[0].2) :=
    ⟨hreads _ (List.getElem_mem (by decide)), .inr ⟨.inr rfl, rfl⟩⟩
  have htext : Block.Streamed 0 (.text "Hello")
      (eventOf queryParts[1] :: ([eventOf queryParts[2], eventOf queryParts[3]] ++
        [eventOf queryParts[4]])) :=
    .text ⟨_, hkind 1 (by decide), rfl, rfl⟩ rfl rfl
      (.cons ⟨_, ⟨_, hkind 2 (by decide), rfl, rfl⟩, rfl, rfl⟩
        (.cons ⟨_, ⟨_, hkind 3 (by decide), rfl, rfl⟩, rfl, rfl⟩ .nil))
      (hkind 4 (by decide))
  have hcall : Block.Streamed 1 (.toolUse "a" "find" (.mkObj [("q", .nat 1)]))
      (eventOf queryParts[5] :: ([eventOf queryParts[6], eventOf queryParts[7]] ++
        [eventOf queryParts[8]])) :=
    .toolUse ⟨_, hkind 5 (by decide), rfl, rfl⟩ rfl rfl rfl
      (.cons ⟨_, ⟨_, hkind 6 (by decide), rfl, rfl⟩, rfl, rfl⟩
        (.cons ⟨_, ⟨_, hkind 7 (by decide), rfl, rfl⟩, rfl, rfl⟩ .nil))
      (.inl (by decide +kernel)) (hkind 8 (by decide))
  have hstream : query.Streamed queryEvents :=
    .message hstart rfl (.cons htext (.cons hcall .nil)) (hkind 9 (by decide)) rfl rfl
      (hkind 10 (by decide))
  have hbody : query.HeldBy queryBody :=
    ⟨⟨_, rfl, .cons ⟨rfl, rfl⟩ (.cons ⟨rfl, rfl, rfl, rfl⟩ .nil)⟩, rfl, ⟨rfl, rfl, rfl⟩⟩
  exact pumpStream_blocks hstream (by decide) hbody (.atOnce queryEvents) "r" "m" 0 0 (.of "m" [])

end Query

end Switchboard.Anthropic
