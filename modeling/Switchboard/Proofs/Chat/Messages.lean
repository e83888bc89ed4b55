import Switchboard.Chat.MessageJson
import Switchboard.Proofs.Json.Fields

/-!
# Messages written and read

A message is read from what is written of it if the arguments of its tool calls are in canonical
form (`Message.read_json`), and those of a message that was read are
(`Message.wellFormed_of_read`). A part's kind and its own fields share one object: the reader takes
the kind out of it and finds the rest as if it had been written alone (`Part.ofFields_members`).
-/

namespace Switchboard

open Document

namespace Image

theorem nodup_members (image : Image) : (image.members.map Prod.fst).Nodup := by
  simp [members]

theorem ofFields_members (image : Image) :
    ofFields (Json.documentMembers (Json.recorded image.members)) = .ok image := by
  have hurl := fieldOption_recorded "url" string image.nodup_members rfl
  have hdata := fieldOption_recorded "data" string image.nodup_members rfl
  have hmime := fieldOption_recorded "mime_type" string image.nodup_members rfl
  rw [optional_string] at hurl hdata hmime
  rw [ofFields, hurl, hdata, hmime]
  rfl

end Image

namespace Part

/-- The arguments of a call are a value in canonical form. -/
def WellFormed : Part → Prop
  | toolCall _ _ arguments => arguments.Canonical
  | _ => True

def kind : Part → PartKind
  | text _ => .text
  | image _ => .image
  | toolCall .. => .toolCall
  | toolResult .. => .toolResult

/-- What is written of a part beside its kind. -/
def members : Part → List (String × Option Json)
  | text t => [("text", some t)]
  | image i => i.members
  | toolCall id name arguments =>
    [("id", some id), ("name", some name), ("arguments", some arguments)]
  | toolResult callId content isError =>
    [("tool_call_id", some callId), ("content", some content), ("is_error", some isError)]

theorem json_eq_record (p : Part) :
    p.json = .record (("type", some (.str p.kind.name)) :: p.members) := by
  cases p <;> rfl

theorem nodup_members (p : Part) :
    ((("type", some (.str p.kind.name)) :: p.members).map Prod.fst).Nodup := by
  cases p <;> simp [members, Image.members]

theorem canonical_json {p : Part} (h : p.WellFormed) : p.json.Canonical := by
  rw [json_eq_record]
  refine Json.canonical_record ?_
  cases p with
  | toolCall id name arguments => simpa [members, Json.Canonical, WellFormed] using h
  | _ => simp [members, Image.members, Json.Canonical]

theorem ofFields_members {p : Part} (h : p.WellFormed) :
    ofFields p.kind (Json.documentMembers (Json.recorded p.members)) = .ok p := by
  have hkeys := (List.nodup_cons.1 p.nodup_members).2
  cases p with
  | text t =>
    rw [kind, ofFields, field_recorded _ _ hkeys rfl]
    rfl
  | image i =>
    have himage := i.ofFields_members
    rw [kind, members, ofFields, himage]
    rfl
  | toolCall id name arguments =>
    rw [kind, ofFields, field_recorded "id" _ hkeys rfl,
      field_recorded "name" _ hkeys rfl, field_recorded "arguments" _ hkeys rfl,
      Json.value_document h]
    rfl
  | toolResult callId content isError =>
    rw [kind, ofFields, field_recorded "tool_call_id" _ hkeys rfl,
      field_recorded "content" _ hkeys rfl, fieldOr_recorded _ "is_error" _ hkeys rfl]
    rfl

theorem read_json {p : Part} (h : p.WellFormed) (numbered : Bool) :
    read numbered p.json.document = .ok p := by
  have hkind : field "type" (PartKind.read numbered) (Json.documentMembers
      (Json.recorded (("type", some (.str p.kind.name)) :: p.members))) = .ok p.kind := by
    rw [field_recorded _ _ p.nodup_members rfl]
    cases p <;> rfl
  -- What is left without the kind is what would have been written without it.
  have hrest : (Json.documentMembers (Json.recorded
      (("type", some (.str p.kind.name)) :: p.members))).filter (fun m => m.1 != "type") =
        Json.documentMembers (Json.recorded p.members) := by
    rw [filter_documentMembers (· != "type"), Json.filter_recorded p.nodup_members (· != "type")]
    cases p <;> rfl
  have hheld := held_document (canonical_json h)
  rw [json_eq_record, Json.document_record] at hheld ⊢
  rw [read, hheld]
  show (do
    let kind ← field "type" (PartKind.read numbered) (Json.documentMembers (Json.recorded _))
    ofFields kind ((Json.documentMembers (Json.recorded _)).filter fun m => m.1 != "type")) = _
  rw [hkind, hrest]
  exact ofFields_members h

theorem wellFormed_of_ofFields {kind : PartKind} {fs : List (String × Document)} {p : Part}
    (h : ofFields kind fs = .ok p) : p.WellFormed := by
  cases kind with
  | text =>
    obtain ⟨_, _, h⟩ := bind_eq_ok_iff.1 h
    obtain rfl := Except.ok.inj h
    trivial
  | image =>
    obtain ⟨_, _, h⟩ := bind_eq_ok_iff.1 h
    obtain rfl := Except.ok.inj h
    trivial
  | toolCall =>
    simp only [ofFields, bind_eq_ok_iff, pure_eq_ok_iff] at h
    obtain ⟨_, _, _, _, arguments, harguments, rfl⟩ := h
    obtain ⟨d, hd⟩ := exists_read_of_field harguments
    exact canonical_of_value hd
  | toolResult =>
    simp only [ofFields, bind_eq_ok_iff, pure_eq_ok_iff] at h
    obtain ⟨_, _, _, _, _, _, rfl⟩ := h
    trivial

theorem wellFormed_of_read {numbered : Bool} {d : Document} {p : Part}
    (h : read numbered d = .ok p) : p.WellFormed := by
  obtain ⟨d, -, h⟩ := bind_eq_ok_iff.1 h
  split at h
  · obtain ⟨kind, -, h⟩ := bind_eq_ok_iff.1 h
    exact wellFormed_of_ofFields h
  · obtain ⟨kind, -, h⟩ := bind_eq_ok_iff.1 h
    obtain ⟨fs, -, h⟩ := bind_eq_ok_iff.1 h
    exact wellFormed_of_ofFields h
  · cases d <;> simp [reject] at h

end Part

namespace Content

def WellFormed : Content → Prop
  | text _ => True
  | parts ps => ∀ p ∈ ps, p.WellFormed

theorem canonical_json {c : Content} (h : c.WellFormed) : c.json.Canonical := by
  cases c with
  | text t => trivial
  | parts ps => exact Json.canonical_arr_map fun p hp => Part.canonical_json (h p hp)

theorem read_json {c : Content} (h : c.WellFormed) : read c.json.document = .ok c := by
  cases c with
  | text t => rfl
  | parts ps =>
    have hheld := held_document (canonical_json h)
    have hparts : readAll (Part.read true) (Json.documentItems (ps.map Part.json)) = .ok ps :=
      readAll_documents fun p hp => Part.read_json (h p hp) true
    rw [read, hheld]
    show misfitOnly (do return parts (← readAll (Part.read true) _)) = _
    rw [hparts]
    rfl

theorem wellFormed_of_read {d : Document} {c : Content} (h : read d = .ok c) : c.WellFormed := by
  obtain ⟨d, -, h⟩ := bind_eq_ok_iff.1 h
  split at h
  · obtain rfl := Except.ok.inj h
    trivial
  · rw [misfitOnly_eq_ok_iff] at h
    obtain ⟨ps, hps, h⟩ := bind_eq_ok_iff.1 h
    obtain rfl := Except.ok.inj h
    intro p hp
    obtain ⟨d, hd⟩ := exists_read_of_readAll hps p hp
    exact Part.wellFormed_of_read hd
  · simp at h

end Content

namespace Message

theorem read_json {m : Message} (h : m.content.WellFormed) : read m.json.document = .ok m := by
  obtain ⟨role, content, name⟩ := m
  have hkeys : (([("role", some (Json.str role.name)), ("content", some content.json),
      ("name", name.map Json.str)] : List (String × Option Json)).map Prod.fst).Nodup := by simp
  have hrole := field_recorded "role" (named Role.ofName?) hkeys rfl
  have hcontent := fieldOr_recorded default "content" Content.read hkeys rfl
  have hname := fieldOption_recorded "name" string hkeys rfl
  have hofName : (named Role.ofName? (Json.str role.name).document) = .ok role := by
    cases role <;> rfl
  rw [hofName] at hrole
  rw [Option.elim, Content.read_json h] at hcontent
  rw [optional_string] at hname
  rw [read, json, Json.document_record]
  simp only [bind_eq_ok_iff]
  exact ⟨_, fields_document _ _ _, _, hrole, _, hcontent, _, hname, rfl⟩

theorem wellFormed_of_read {d : Document} {m : Message} (h : read d = .ok m) :
    m.content.WellFormed := by
  obtain ⟨fs, -, h⟩ := bind_eq_ok_iff.1 h
  simp only [bind_eq_ok_iff, pure_eq_ok_iff] at h
  obtain ⟨role, -, content, hcontent, name, -, rfl⟩ := h
  rcases exists_read_of_fieldOr hcontent with rfl | ⟨d, hd⟩
  · trivial
  · exact Content.wellFormed_of_read hd

end Message

end Switchboard
