import LibE3.Lib.Partial
import LibE3.Proofs.JsonRoundTrip

/-!
# A payload that is read twice

`decode` reads a message with the JSON library and cuts the payload out of the text with a scanner
of its own. The library decodes the names of the members and keeps the last of several with one
name; the scanner compares the names as they are written and stops at the first. Where the scanner
finds nothing the library is asked again, and of an indication that has no payload it is asked for a
member that is not there. A value that opens more brackets than an `int` counts makes the scanner
overflow.
-/

namespace LibE3

namespace JsonE3Encoder

open Json (RawMember Spells Ws Tree Space Placed)
open Faults Partial

variable {lib : Json.Library} {fmt : Json.FloatFormat} {truncate : UInt64 → ℤ}

/-! ## What the scanner finds -/

/-- The text is that of an object with these members, as they stand in it. -/
def Members (fmt : Json.FloatFormat) (data : Bytes) (ms : List RawMember) : Prop :=
  ∃ w₁ t w₂, Ws w₁ ∧ (Spells fmt (.members ms) t ∨ Ws t ∧ ms = []) ∧ Ws w₂ ∧
    Json.skipBom (data.takeWhile (· ≠ 0)) = w₁ ++ (0x7B :: (t ++ [0x7D]) ++ w₂)

variable {data : Bytes} {ms : List RawMember}

theorem Members.isText (h : Members fmt data ms) :
    Json.IsText fmt (.obj (Json.update [] (ms.map RawMember.field)))
      (Json.skipBom (data.takeWhile (· ≠ 0))) := by
  obtain ⟨w₁, t, w₂, hw₁, hspells | ⟨hw, rfl⟩, hw₂, heq⟩ := h
  · exact ⟨w₁, _, w₂, hw₁, .obj hspells, hw₂, heq⟩
  · exact ⟨w₁, _, w₂, hw₁, .emptyObj hw, hw₂, heq⟩

variable {root : Fields}

theorem exists_members (hlib : lib.Follows fmt) (hroot : lib.parse data = some (.obj root)) :
    ∃ ms, Members fmt data ms := by
  obtain ⟨w₁, v, w₂, hw₁, hv, hw₂, heq⟩ := hlib.isText hroot
  cases hv with
  | emptyObj hw => exact ⟨[], w₁, _, w₂, hw₁, .inr ⟨hw, rfl⟩, hw₂, heq⟩
  | @obj ms t hspells => exact ⟨ms, w₁, t, w₂, hw₁, .inl hspells, hw₂, heq⟩
  | number hvalid hvalue =>
    unfold Json.Numeral.value at hvalue
    split_ifs at hvalue <;> simp at hvalue

theorem Members.ne_nil (h : Members fmt data ms) : data ≠ [] := by
  rintro rfl
  obtain ⟨_, _, _, _, _, _, heq⟩ := h
  simp [Json.skipBom, Json.bom] at heq

theorem Members.root_eq (hlib : lib.Follows fmt) (h : Members fmt data ms)
    (hroot : lib.parse data = some (.obj root)) :
    root = Json.update [] (ms.map RawMember.field) := by
  have hread := Json.readText_eq_some_iff.mpr (hlib.isText hroot)
  rw [Json.readText_eq_some_iff.mpr h.isText] at hread
  exact (Json.obj.inj (Option.some.inj hread)).symm

theorem Members.exists_tree (h : Members fmt data ms) (hbom : ¬ Json.bom <+: data) :
    ∃ (w : Space) (o : Tree .object) (rest : Bytes), data = w.1 ++ (o.text ++ rest) ∧ ∀ pos,
      (o.placed pos).map (fun m => (m.name, m.value.text))
        = ms.map fun m => (m.rawKey, m.valueText) := by
  obtain ⟨w₁, t, w₂, hw₁, hmembers, hw₂, heq⟩ := h
  have hnot : ¬ Json.bom <+: data.takeWhile (· ≠ 0) :=
    fun hpre => hbom (hpre.trans (List.takeWhile_prefix _))
  rw [Json.skipBom, if_neg hnot] at heq
  have hdata : data = w₁ ++ ((0x7B :: (t ++ [0x7D])) ++ (w₂ ++ data.dropWhile (· ≠ 0))) := by
    conv_lhs => rw [← List.takeWhile_append_dropWhile (p := fun c => decide (c ≠ 0)) (l := data)]
    rw [heq]
    simp
  rcases hmembers with hspells | ⟨hw, rfl⟩
  · obtain ⟨tree, rfl, hplaced⟩ := hspells.matches
    exact ⟨⟨w₁, hw₁⟩, .braces tree, _, hdata, fun pos => hplaced (pos + 1)⟩
  · exact ⟨⟨w₁, hw₁⟩, .empty ⟨t, hw⟩, _, hdata, fun _ => rfl⟩

theorem memberSpan_bom (h : Json.bom <+: data) (key : String) : memberSpan data key = .ok none := by
  obtain ⟨rest, rfl⟩ := h
  rfl

variable {key : String}

/-- Without a byte order mark the scanner finds the first member that is written with the key. -/
theorem Members.memberSpan (h : Members fmt data ms) (hbom : ¬ Json.bom <+: data)
    {r : Option (ℕ × ℕ)} (hr : memberSpan data key = .ok r) :
    r.map (span data) = (ms.find? fun m => m.rawKey = text key).map RawMember.valueText := by
  obtain ⟨w, o, rest, hdata, hplaced⟩ := h.exists_tree hbom
  have hdrop : data.drop w.1.length = o.text ++ rest := by rw [hdata, List.drop_left]
  rw [memberSpan_tree key hdata, Reads.found] at hr
  split_ifs at hr
  · rw [← find_span (text key) hdrop (hplaced _), ← Except.ok.inj hr, Option.map_map]
    rfl
  · cases hr

theorem Members.isSpelled (h : Members fmt data ms) : ∀ m ∈ ms, m.IsSpelled fmt := by
  obtain ⟨_, _, _, _, hspells | ⟨_, rfl⟩, _, _⟩ := h
  · exact hspells.isSpelled
  · exact List.forall_mem_nil _

theorem escape_payloadKey (choice : PduChoice) :
    Json.escape (Json.keyText (payloadKey choice)) = text (payloadKey choice) := by
  cases choice <;> simp only [payloadKey] <;> decide +kernel

theorem Members.lookup_ne_none (hlib : lib.Follows fmt) (h : Members fmt data ms)
    (hroot : lib.parse data = some (.obj root)) {m : RawMember} {choice : PduChoice} (hm : m ∈ ms)
    (hkey : m.rawKey = text (payloadKey choice)) : root.lookup (payloadKey choice) ≠ none := by
  have hname := (h.isSpelled m hm).key_eq (hkey.trans (escape_payloadKey choice).symm)
  rw [h.root_eq hlib hroot, Json.lookup_update]
  simp only [List.lookup_nil, Option.or_none, ne_eq, List.lookup_eq_none_iff, List.mem_reverse]
  intro hnone
  have hne := hnone m.field (List.mem_map_of_mem hm)
  simp [RawMember.field, hname] at hne

/-! ## What was read -/

variable (lib truncate) in
structure IsRead (root : Fields) (rawJson : Bytes) (pdu : Pdu) : Prop where
  type : ∃ s, valueOr root "type" [] getString = .ok s ∧ stringToPduType s = some pdu.type
  messageId : valueOr root "id" 0 (getUInt32 truncate) = .ok pdu.messageId
  timestamp : valueOr root "timestamp" 0 (getUInt64 truncate) = .ok pdu.timestamp
  data : root.lookup "data" = none
  choice : decodeChoice lib truncate root rawJson pdu.type = .ok pdu.choice

theorem isRead_of_decodeRoot {rawJson : Bytes} {pdu : Pdu}
    (h : decodeRoot lib truncate root rawJson = .ok pdu) :
    IsRead lib truncate root rawJson pdu := by
  obtain ⟨s, hs, h⟩ := bind_eq_ok.mp h
  cases htype : stringToPduType s with
  | none =>
    rw [htype] at h
    cases h
  | some pduType =>
    rw [htype] at h
    obtain ⟨messageId, hid, h⟩ := bind_eq_ok.mp h
    obtain ⟨timestamp, htimestamp, h⟩ := bind_eq_ok.mp h
    split_ifs at h with hdata
    obtain ⟨choice, hchoice, h⟩ := bind_eq_ok.mp h
    obtain rfl := Except.ok.inj h
    exact ⟨⟨s, hs, htype⟩, hid, htimestamp, Option.not_isSome_iff_eq_none.mp hdata, hchoice⟩

theorem isRead_of_decode {pdu : Pdu} (h : decode lib truncate data = .ok pdu) :
    ∃ root, lib.parse data = some (.obj root) ∧ IsRead lib truncate root data pdu := by
  unfold decode at h
  split_ifs at h
  cases hparse : lib.parse data with
  | none =>
    rw [hparse] at h
    cases h
  | some j =>
    rw [hparse] at h
    cases j with
    | obj root => exact ⟨root, rfl, isRead_of_decodeRoot h⟩
    | _ => cases h

theorem valueOr_getString_iff {d s : Bytes} :
    valueOr root key d getString = .ok s ↔
      root.lookup key = some (.str s) ∨ root.lookup key = none ∧ d = s := by
  unfold valueOr
  cases root.lookup key with
  | none => simp
  | some j =>
    cases j with
    | str t => simp [getString]
    | _ => simp [getString]

theorem eq_of_stringToPduType {s : Bytes} {pduType : PduType}
    (h : stringToPduType s = some pduType) : s = toCamelCase (text (pduTypeToString pduType)) := by
  unfold stringToPduType at h
  iterate 11
    obtain ⟨rfl, rfl⟩ | h := of_ite_eq_some h
    · decide +kernel
  cases h

theorem lookup_type_of_valueOr {s : Bytes} {pduType : PduType}
    (hs : valueOr root "type" [] getString = .ok s) (htype : stringToPduType s = some pduType) :
    root.lookup "type" = some (.str (toCamelCase (text (pduTypeToString pduType)))) := by
  rw [← eq_of_stringToPduType htype]
  refine (valueOr_getString_iff.mp hs).resolve_right ?_
  rintro ⟨-, rfl⟩
  exact absurd htype (by rw [show stringToPduType [] = none by decide +kernel]; nofun)

theorem type_of_decodeChoice {rawJson : Bytes} {pduType : PduType} {choice : PduChoice}
    (h : decodeChoice lib truncate root rawJson pduType = .ok choice) :
    choice.type = pduType := by
  cases pduType <;>
    · obtain ⟨_, _, rfl⟩ := map_eq_ok.mp h
      rfl

/-! ## The payload -/

variable {root : Fields} {rawJson raw : Bytes} {v : Json}

theorem dump_of_dumpOrThrow (h : dumpOrThrow lib v = .ok raw) : lib.dump v = some raw := by
  unfold dumpOrThrow at h
  split at h
  · obtain rfl := Except.ok.inj h
    assumption
  · cases h

theorem verbatimOr_eq_ok {dumped : Except Fault Bytes} :
    verbatimOr rawJson key dumped = .ok raw ↔
      (∃ s, memberSpan rawJson key = .ok (some s) ∧ span rawJson s = raw) ∨
        memberSpan rawJson key = .ok none ∧ dumped = .ok raw := by
  unfold verbatimOr
  rcases memberSpan rawJson key with e | _ | s
  · simp [bind, Except.bind]
  · simp [bind, Except.bind]
  · simp [bind, Except.bind, pure, Except.pure]

theorem payloadMember_cases (hmember : root.lookup key = some v)
    (h : payloadMember lib root rawJson key = .ok raw) :
    IsContainer v ∧ ((∃ s, memberSpan rawJson key = .ok (some s) ∧ span rawJson s = raw) ∨
      memberSpan rawJson key = .ok none ∧ lib.dump v = some raw) := by
  rw [payloadMember, hmember] at h
  cases v with
  | obj members =>
    exact ⟨.inl ⟨members, rfl⟩, (verbatimOr_eq_ok.mp h).imp_right (And.imp_right dump_of_dumpOrThrow)⟩
  | arr elems =>
    exact ⟨.inr ⟨elems, rfl⟩, (verbatimOr_eq_ok.mp h).imp_right (And.imp_right dump_of_dumpOrThrow)⟩
  | _ => cases h

theorem decodeIndicationMessage_ok {msg : IndicationMessage}
    (h : decodeIndicationMessage lib truncate root rawJson = .ok msg) :
    valueOr root "dAppIdentifier" 0 (getUInt32 truncate) = .ok msg.dappIdentifier ∧
      valueOr root "ranFunctionIdentifier" 0 (getUInt32 truncate) = .ok msg.ranFunctionIdentifier ∧
      ((∃ s, memberSpan rawJson "protocolData" = .ok (some s) ∧ span rawJson s = msg.protocolData) ∨
        memberSpan rawJson "protocolData" = .ok none ∧
          ∃ v, root.lookup "protocolData" = some v ∧ lib.dump v = some msg.protocolData) := by
  obtain ⟨_, hdapp, h⟩ := bind_eq_ok.mp h
  obtain ⟨_, hran, h⟩ := bind_eq_ok.mp h
  obtain ⟨_, hdata, h⟩ := bind_eq_ok.mp h
  obtain rfl := Except.ok.inj h
  refine ⟨hdapp, hran, (verbatimOr_eq_ok.mp hdata).imp_right (And.imp_right fun hdump => ?_)⟩
  unfold dumpMember at hdump
  split at hdump
  · cases hdump
  · next v hmember => exact ⟨v, hmember, dump_of_dumpOrThrow hdump⟩

theorem decodeDappControlAction_ok {action : DAppControlAction}
    (h : decodeDappControlAction lib truncate root rawJson = .ok action) :
    valueOr root "dAppIdentifier" 0 (getUInt32 truncate) = .ok action.dappIdentifier ∧
      valueOr root "ranFunctionIdentifier" 0 (getUInt32 truncate)
        = .ok action.ranFunctionIdentifier ∧
      valueOr root "controlIdentifier" 0 (getUInt32 truncate) = .ok action.controlIdentifier ∧
      valueOr root "sequenceId" 0 (getUInt32 truncate) = .ok action.sequenceId ∧
      payloadMember lib root rawJson "actionData" = .ok action.actionData := by
  obtain ⟨_, hdapp, h⟩ := bind_eq_ok.mp h
  obtain ⟨_, hran, h⟩ := bind_eq_ok.mp h
  obtain ⟨_, hcontrol, h⟩ := bind_eq_ok.mp h
  obtain ⟨_, hsequence, h⟩ := bind_eq_ok.mp h
  obtain ⟨_, hdata, h⟩ := bind_eq_ok.mp h
  obtain rfl := Except.ok.inj h
  exact ⟨hdapp, hran, hcontrol, hsequence, hdata⟩

theorem decodeDappReport_ok {report : DAppReport}
    (h : decodeDappReport lib truncate root rawJson = .ok report) :
    valueOr root "dAppIdentifier" 0 (getUInt32 truncate) = .ok report.dappIdentifier ∧
      valueOr root "ranFunctionIdentifier" 0 (getUInt32 truncate)
        = .ok report.ranFunctionIdentifier ∧
      valueOr root "sequenceId" 0 (getUInt32 truncate) = .ok report.sequenceId ∧
      payloadMember lib root rawJson "reportData" = .ok report.reportData := by
  obtain ⟨_, hdapp, h⟩ := bind_eq_ok.mp h
  obtain ⟨_, hran, h⟩ := bind_eq_ok.mp h
  obtain ⟨_, hsequence, h⟩ := bind_eq_ok.mp h
  obtain ⟨_, hdata, h⟩ := bind_eq_ok.mp h
  obtain rfl := Except.ok.inj h
  exact ⟨hdapp, hran, hsequence, hdata⟩

theorem decodeXappControlAction_ok {action : XAppControlAction}
    (h : decodeXappControlAction lib truncate root rawJson = .ok action) :
    valueOr root "dAppIdentifier" 0 (getUInt32 truncate) = .ok action.dappIdentifier ∧
      valueOr root "ranFunctionIdentifier" 0 (getUInt32 truncate)
        = .ok action.ranFunctionIdentifier ∧
      valueOr root "sequenceId" 0 (getUInt32 truncate) = .ok action.sequenceId ∧
      payloadMember lib root rawJson "xAppControlData" = .ok action.xappControlData := by
  obtain ⟨_, hdapp, h⟩ := bind_eq_ok.mp h
  obtain ⟨_, hran, h⟩ := bind_eq_ok.mp h
  obtain ⟨_, hsequence, h⟩ := bind_eq_ok.mp h
  obtain ⟨_, hdata, h⟩ := bind_eq_ok.mp h
  obtain rfl := Except.ok.inj h
  exact ⟨hdapp, hran, hsequence, hdata⟩

/-- The payload is cut out of the text, or written anew where the scanner finds nothing. -/
theorem payload_cases {pduType : PduType} {choice : PduChoice}
    (h : decodeChoice lib truncate root rawJson pduType = .ok choice)
    (hpayload : choice.payload = some raw) (hmember : root.lookup (payloadKey choice) = some v) :
    (choice.type ≠ .indicationMessage → IsContainer v) ∧
      ((∃ s, memberSpan rawJson (payloadKey choice) = .ok (some s) ∧ span rawJson s = raw) ∨
        memberSpan rawJson (payloadKey choice) = .ok none ∧ lib.dump v = some raw) := by
  cases pduType with
  | indicationMessage =>
    obtain ⟨msg, hmsg, rfl⟩ := map_eq_ok.mp h
    obtain rfl := Option.some.inj hpayload
    obtain ⟨-, -, hspan | ⟨hnone, j, hj, hdump⟩⟩ := decodeIndicationMessage_ok hmsg
    · exact ⟨fun hne => absurd rfl hne, .inl hspan⟩
    · obtain rfl := Option.some.inj (hj.symm.trans hmember)
      exact ⟨fun hne => absurd rfl hne, .inr ⟨hnone, hdump⟩⟩
  | dappControlAction =>
    obtain ⟨action, hread, rfl⟩ := map_eq_ok.mp h
    obtain rfl := Option.some.inj hpayload
    obtain ⟨-, -, -, -, hdata⟩ := decodeDappControlAction_ok hread
    exact (payloadMember_cases hmember hdata).imp_left fun hv _ => hv
  | dappReport =>
    obtain ⟨report, hread, rfl⟩ := map_eq_ok.mp h
    obtain rfl := Option.some.inj hpayload
    obtain ⟨-, -, -, hdata⟩ := decodeDappReport_ok hread
    exact (payloadMember_cases hmember hdata).imp_left fun hv _ => hv
  | xappControlAction =>
    obtain ⟨action, hread, rfl⟩ := map_eq_ok.mp h
    obtain rfl := Option.some.inj hpayload
    obtain ⟨-, -, -, hdata⟩ := decodeXappControlAction_ok hread
    exact (payloadMember_cases hmember hdata).imp_left fun hv _ => hv
  | _ =>
    obtain ⟨_, -, rfl⟩ := map_eq_ok.mp h
    cases hpayload

theorem held_of_lookup (hroot : Json.Held fmt (.obj root)) (hmember : root.lookup key = some v) :
    Json.Held fmt v := by
  rw [Json.Held, Json.heldMembers_iff] at hroot
  obtain ⟨before, behind, rfl, -⟩ := List.lookup_eq_some_iff.mp hmember
  exact hroot.2 (key, v) (by simp)

/-- The payload that is returned has the value that the document holds exactly if the first member
that is written with the name of the payload, where the scanner finds one, has this value. -/
theorem payload_agrees_iff (hlib : lib.Follows fmt) {pdu : Pdu}
    (hdecode : decode lib truncate data = .ok pdu) (hpayload : pdu.choice.payload = some raw)
    (hroot : lib.parse data = some (.obj root))
    (hmember : root.lookup (payloadKey pdu.choice) = some v) (hms : Members fmt data ms) :
    (lib.parse raw = some v ∧ (pdu.choice.type ≠ .indicationMessage → IsContainer v)) ↔
      (¬ Json.bom <+: data →
        ∀ m ∈ ms.find? fun m => m.rawKey = text (payloadKey pdu.choice), m.value = v) := by
  obtain ⟨root', hroot', hread⟩ := isRead_of_decode hdecode
  obtain rfl : root' = root := Json.obj.inj (Option.some.inj (hroot'.symm.trans hroot))
  obtain ⟨hcontainer, hcases⟩ := payload_cases hread.choice hpayload hmember
  rw [and_iff_left hcontainer]
  rcases hcases with ⟨s, hspan, hraw⟩ | ⟨hnone, hdump⟩
  · -- the scanner found a member, of which the payload is the text
    have hbom : ¬ Json.bom <+: data := fun hbom => by
      rw [memberSpan_bom hbom] at hspan
      cases hspan
    have hfind := hms.memberSpan hbom hspan
    rw [Option.map_some, hraw, eq_comm, Option.map_eq_some_iff] at hfind
    obtain ⟨m, hm, rfl⟩ := hfind
    have hvalue := (hms.isSpelled m (List.mem_of_find?_eq_some hm)).value
    have htext : Json.IsText fmt m.value m.valueText :=
      ⟨[], m.valueText, [], Json.ws_nil, hvalue, Json.ws_nil, by simp⟩
    rw [hlib.parse_isText htext, Option.some_inj, hm]
    exact ⟨fun hv _ _ hm' => Option.some.inj hm' ▸ hv, fun h => h hbom m rfl⟩
  · -- it found nothing, and the value was written anew
    have hheld := held_of_lookup (hlib.held hroot) hmember
    have htext : lib.text v = raw := by
      rw [Json.Library.dump, if_pos hheld.utf8] at hdump
      exact Option.some.inj hdump
    rw [← htext, hlib.parse_text hheld]
    refine iff_of_true rfl fun hbom m hm => ?_
    have hfind := hms.memberSpan hbom hnone
    rw [Option.map_none, eq_comm, Option.map_eq_none_iff] at hfind
    rw [hfind] at hm
    cases hm

def controlFields : Fields :=
  [("actionData", .obj []), ("type", .str (text "dAppControlAction"))]

theorem held_controlFields : Json.Held Json.noFloats (.obj controlFields) := by
  simp only [controlFields, Json.Held, Json.HeldMembers]
  decide +kernel

def plainControl : Bytes :=
  text "\x7b\"actionData\":\x7b\x7d,\"type\":\"dAppControlAction\"\x7d"

theorem parse_plainControl :
    (Json.reference Json.noFloats).parse plainControl = some (.obj controlFields) :=
  (Json.reference_follows Json.noFloats).parse_eq_of_text held_controlFields (by decide +kernel)

theorem members_plainControl :
    Members Json.noFloats plainControl (controlFields.map (Json.rawMember Json.noFloats)) := by
  have hheld := held_controlFields
  rw [Json.Held] at hheld
  exact ⟨[], Json.writeMembers Json.noFloats controlFields, [], Json.ws_nil,
    .inl (Json.spells_writeMembers controlFields (by simp [controlFields]) hheld.2), Json.ws_nil,
    by decide +kernel⟩

theorem plain_payload_agrees :
    decode (Json.reference Json.noFloats) Json.noFloats.truncate plainControl
      = .ok { type := .dappControlAction,
              choice := .dappControlAction { actionData := text "\x7b\x7d" } }
    ∧ controlFields.lookup "actionData" = some (.obj [])
    ∧ (Json.reference Json.noFloats).parse (text "\x7b\x7d") = some (.obj []) := by
  have hdecode : decode (Json.reference Json.noFloats) Json.noFloats.truncate plainControl
      = .ok { type := .dappControlAction,
              choice := .dappControlAction { actionData := text "\x7b\x7d" } } := by
    decide +kernel
  have hagrees := payload_agrees_iff (Json.reference_follows Json.noFloats) hdecode rfl
    parse_plainControl rfl members_plainControl
  refine ⟨hdecode, rfl, (hagrees.mpr fun _ m hm => ?_).1⟩
  rw [controlFields, List.map_cons, List.find?_cons_of_pos (by decide +kernel)] at hm
  exact Option.some.inj hm ▸ rfl

def repeatedPayload : Bytes :=
  text "\x7b\"type\":\"dAppControlAction\",\"actionData\":1,\"actionData\":\x7b\x7d\x7d"

theorem repeated_payload_disagrees :
    decode (Json.reference Json.noFloats) Json.noFloats.truncate repeatedPayload
      = .ok { type := .dappControlAction,
              choice := .dappControlAction { actionData := text "1" } }
    ∧ (Json.reference Json.noFloats).parse repeatedPayload = some (.obj controlFields)
    ∧ controlFields.lookup "actionData" = some (.obj [])
    ∧ (Json.reference Json.noFloats).parse (text "1") = some (.unsigned 1) := by
  have hlib := Json.reference_follows Json.noFloats
  refine ⟨by decide +kernel, hlib.parse_eq_of_text held_controlFields (by decide +kernel),
    rfl, hlib.parse_eq_of_text ?_ (by decide +kernel)⟩
  rw [Json.Held]
  decide

/-! ## What is not defined -/

/-- A number, or a boolean, which is read as one. -/
def isArithmetic : Json → Bool
  | .unsigned _ => true
  | .integer _ => true
  | .float _ => true
  | .bool _ => true
  | _ => false

/-- The member can be read as a number, or is not there. -/
def Readable (root : Fields) (key : String) : Prop :=
  ∀ j ∈ root.lookup key, isArithmetic j = true

/-- The name of the payload of a message, and of the numbers that are read before it. -/
def payloadMembers : PduType → Option (String × List String)
  | .indicationMessage => some ("protocolData", ["dAppIdentifier", "ranFunctionIdentifier"])
  | .dappControlAction =>
    some ("actionData",
      ["dAppIdentifier", "ranFunctionIdentifier", "controlIdentifier", "sequenceId"])
  | .dappReport => some ("reportData", ["dAppIdentifier", "ranFunctionIdentifier", "sequenceId"])
  | .xappControlAction =>
    some ("xAppControlData", ["dAppIdentifier", "ranFunctionIdentifier", "sequenceId"])
  | _ => none

/-- A message of this type is read up to its payload, which has this name. -/
structure UpToPayload (root : Fields) (pduType : PduType) (key : String) : Prop where
  type : root.lookup "type" = some (.str (toCamelCase (text (pduTypeToString pduType))))
  id : Readable root "id"
  timestamp : Readable root "timestamp"
  data : root.lookup "data" = none
  numbers : ∃ numbers, payloadMembers pduType = some (key, numbers)
    ∧ ∀ name ∈ numbers, Readable root name

/-- In the object that the text starts with, a value up to the first member that is written with
the key opens more brackets of its own kind at once than an `int` counts. -/
def Deep (data : Bytes) (key : String) : Prop :=
  ∃ (w : Space) (o : Tree .object) (rest : Bytes), data = w.1 ++ (o.text ++ rest)
    ∧ ∃ m ∈ Json.upTo (text key) (o.placed w.1.length), intMax < m.value.ownNesting

/-- The message is read up to its payload, and there an indication does not have it, or the scanner
overflows on the way to it. -/
def Undefined (data : Bytes) (root : Fields) : Prop :=
  ∃ pduType key, UpToPayload root pduType key ∧
    (pduType = .indicationMessage ∧ root.lookup key = none ∨
      (pduType ≠ .indicationMessage → ∃ v ∈ root.lookup key, IsContainer v) ∧ Deep data key)

abbrev Throws {α : Type} (x : Except Fault α) : Prop := FailsWith Fault.decodeFailed x

section

variable {α : Type} {get : Json → Except Fault α} {key : String} {d : α}

theorem throws_valueOr (h : ∀ j, Throws (get j)) : Throws (valueOr root key d get) := by
  unfold valueOr
  split
  · exact .ok d
  · exact h _

theorem throws_valueIfPresent (h : ∀ j, Throws (get j)) : Throws (valueIfPresent root key get) := by
  unfold valueIfPresent
  split
  · exact .ok none
  · exact (h _).map some

theorem throws_getString (j : Json) : Throws (getString j) := by
  cases j <;> first | exact .ok _ | exact .error

theorem throws_getInteger (j : Json) : Throws (getInteger truncate j) := by
  cases j <;> first | exact .ok _ | exact .error

theorem throws_getUInt32 (j : Json) : Throws (getUInt32 truncate j) := (throws_getInteger j).map _

theorem throws_getIdList (j : Json) : Throws (getIdList truncate j) := by
  cases j with
  | arr elems => exact FailsWith.mapM throws_getUInt32 elems
  | _ => exact .error

theorem throws_dumpOrThrow (j : Json) : Throws (dumpOrThrow lib j) := by
  unfold dumpOrThrow
  split
  · exact .ok _
  · exact .error

theorem throws_payloadFromJson (j : Json) : Throws (payloadFromJson lib j) := by
  cases j with
  | obj members => exact throws_dumpOrThrow _
  | arr elems => exact throws_dumpOrThrow _
  | _ => exact .error

theorem throws_readResponseCode : Throws (readResponseCode root) :=
  (throws_valueOr throws_getString).bind fun _ => .ok _

theorem throws_readIds {otherName : String} : Throws (readIds truncate root key otherName) := by
  unfold readIds
  split
  · exact (throws_getIdList _).map some
  · exact throws_valueIfPresent throws_getIdList

theorem throws_decodeRanFunction (j : Json) : Throws (decodeRanFunction lib truncate j) := by
  cases j with
  | obj funcObj =>
    exact (throws_valueOr throws_getUInt32).bind fun _ =>
      (throws_valueOr throws_getIdList).bind fun _ =>
      (throws_valueOr throws_getIdList).bind fun _ =>
      (throws_valueOr throws_payloadFromJson).bind fun _ => .ok _
  | _ => exact .error

end

theorem throws_decodeChoice {pduType : PduType} (h : payloadMembers pduType = none) :
    Throws (decodeChoice lib truncate root rawJson pduType) := by
  have number : ∀ key, Throws (valueOr root key 0 (getUInt32 truncate)) :=
    fun _ => throws_valueOr throws_getUInt32
  have ids : ∀ key, Throws (valueOr root key [] (getIdList truncate)) :=
    fun _ => throws_valueOr throws_getIdList
  have string : ∀ key, Throws (valueOr root key [] getString) :=
    fun _ => throws_valueOr throws_getString
  have optional : ∀ key, Throws (valueIfPresent root key (getUInt32 truncate)) :=
    fun _ => throws_valueIfPresent throws_getUInt32
  cases pduType with
  | setupRequest =>
    exact ((string _).bind fun _ => (string _).bind fun _ => (string _).bind fun _ =>
      (string _).bind fun _ => .ok _).map _
  | setupResponse =>
    exact ((number _).bind fun _ => throws_readResponseCode.bind fun _ =>
      (throws_valueIfPresent throws_getString).bind fun _ => (optional _).bind fun _ =>
      (string _).bind fun _ =>
      (throws_valueOr fun j => FailsWith.mapM throws_decodeRanFunction (iterate j)).bind fun _ =>
      .ok _).map _
  | subscriptionRequest =>
    exact ((number _).bind fun _ => (number _).bind fun _ => (ids _).bind fun _ =>
      (ids _).bind fun _ => (optional _).bind fun _ => (optional _).bind fun _ => .ok _).map _
  | subscriptionDelete => exact ((number _).bind fun _ => (number _).bind fun _ => .ok _).map _
  | subscriptionResponse =>
    exact ((number _).bind fun _ => (number _).bind fun _ => throws_readResponseCode.bind fun _ =>
      (optional _).bind fun _ => throws_readIds.bind fun _ => throws_readIds.bind fun _ =>
      (optional _).bind fun _ => (optional _).bind fun _ => .ok _).map _
  | releaseMessage => exact ((number _).bind fun _ => .ok _).map _
  | messageAck =>
    exact ((number _).bind fun _ => throws_readResponseCode.bind fun _ => .ok _).map _
  | _ => cases h

section

variable {key : String} {e : Fault}

variable (truncate) in
theorem getInteger_ok_iff (j : Json) :
    (∃ i, getInteger truncate j = .ok i) ↔ isArithmetic j = true := by
  cases j <;> simp [getInteger, isArithmetic]

theorem valueOr_ok_iff (truncate : UInt64 → ℤ) {α : Type} (d : α) (f : ℤ → α) :
    (∃ a, valueOr root key d (fun j => (getInteger truncate j).map f) = .ok a) ↔
      Readable root key := by
  unfold valueOr Readable
  cases root.lookup key with
  | none => simp
  | some j =>
    simp only [Option.mem_def, Option.some_inj, forall_eq', ← getInteger_ok_iff truncate j,
      map_eq_ok]
    exact ⟨fun ⟨_, i, hi, _⟩ => ⟨i, hi⟩, fun ⟨i, hi⟩ => ⟨f i, i, hi, rfl⟩⟩

theorem number_bind_error {α β : Type} {d : α} {f : ℤ → α} {g : α → Except Fault β} {P : Prop}
    (he : e ≠ .decodeFailed) (hg : ∀ a, g a = .error e ↔ P) :
    (valueOr root key d (fun j => (getInteger truncate j).map f) >>= g) = .error e ↔
      Readable root key ∧ P := by
  rw [(throws_valueOr fun j => (throws_getInteger j).map f).of_bind he,
    ← valueOr_ok_iff truncate d f, ← exists_and_right]
  exact exists_congr fun a => and_congr_right fun _ => hg a

theorem pure_bind_error {α β : Type} {x : Except Fault α} {f : α → β} :
    (x >>= fun a => pure (f a)) = .error e ↔ x = .error e :=
  bind_eq_error.trans (or_iff_left (by rintro ⟨_, _, ⟨⟩⟩))

/-! ## The payload of each message -/

variable (lib root rawJson) in
def readPayload (pduType : PduType) (key : String) : Except Fault Bytes :=
  if pduType = .indicationMessage then verbatimOr rawJson key (dumpMember lib root key)
  else payloadMember lib root rawJson key

theorem decodeChoice_error_iff (he : e ≠ .decodeFailed) {pduType : PduType} :
    decodeChoice lib truncate root rawJson pduType = .error e ↔
      ∃ key numbers, payloadMembers pduType = some (key, numbers)
        ∧ (∀ name ∈ numbers, Readable root name)
        ∧ readPayload lib root rawJson pduType key = .error e := by
  cases hmembers : payloadMembers pduType with
  | none =>
    refine iff_of_false (fun h => he (throws_decodeChoice hmembers e h)) ?_
    rintro ⟨_, _, ⟨⟩, -⟩
  | some m =>
    have hone {key : String} {numbers : List String} {P : Prop}
        (h : P ↔ (∀ name ∈ numbers, Readable root name)
          ∧ readPayload lib root rawJson pduType key = .error e) :
        P ↔ ∃ key' numbers', some (key, numbers) = some (key', numbers')
          ∧ (∀ name ∈ numbers', Readable root name)
          ∧ readPayload lib root rawJson pduType key' = .error e := by
      simpa using h
    cases pduType with
    | indicationMessage =>
      obtain rfl := Option.some.inj hmembers
      refine hone (map_eq_error.trans ((number_bind_error he fun _ => number_bind_error he fun _ =>
        pure_bind_error).trans ?_))
      simp [readPayload, and_assoc]
    | dappControlAction =>
      obtain rfl := Option.some.inj hmembers
      refine hone (map_eq_error.trans ((number_bind_error he fun _ => number_bind_error he fun _ =>
        number_bind_error he fun _ => number_bind_error he fun _ => pure_bind_error).trans ?_))
      simp [readPayload, and_assoc]
    | dappReport =>
      obtain rfl := Option.some.inj hmembers
      refine hone (map_eq_error.trans ((number_bind_error he fun _ => number_bind_error he fun _ =>
        number_bind_error he fun _ => pure_bind_error).trans ?_))
      simp [readPayload, and_assoc]
    | xappControlAction =>
      obtain rfl := Option.some.inj hmembers
      refine hone (map_eq_error.trans ((number_bind_error he fun _ => number_bind_error he fun _ =>
        number_bind_error he fun _ => pure_bind_error).trans ?_))
      simp [readPayload, and_assoc]
    | _ => cases hmembers

theorem decodeRoot_error_iff (he : e ≠ .decodeFailed) :
    decodeRoot lib truncate root rawJson = .error e ↔
      ∃ pduType key, UpToPayload root pduType key
        ∧ readPayload lib root rawJson pduType key = .error e := by
  -- behind the type and the two numbers of the envelope
  have hlast (pduType : PduType) (messageId : UInt32) (timestamp : UInt64) :
      (if (root.lookup "data").isSome then .error .decodeFailed
        else do
          let choice ← decodeChoice lib truncate root rawJson pduType
          return { type := pduType, choice := choice, messageId := messageId,
                   timestamp := timestamp } : Except Fault Pdu) = .error e ↔
        root.lookup "data" = none ∧ decodeChoice lib truncate root rawJson pduType = .error e := by
    cases root.lookup "data" with
    | none => simpa using pure_bind_error
    | some j => simpa using he.symm
  unfold decodeRoot
  rw [(throws_valueOr throws_getString).of_bind he]
  constructor
  · rintro ⟨s, hs, h⟩
    cases htype : stringToPduType s with
    | none =>
      rw [htype] at h
      exact absurd (Except.error.inj h).symm he
    | some pduType =>
      rw [htype] at h
      obtain ⟨hid, htimestamp, hdata, h⟩ := (number_bind_error he fun _ =>
        number_bind_error he fun _ => hlast pduType _ _).mp h
      obtain ⟨key, numbers, hmembers, hnumbers, hpayload⟩ := (decodeChoice_error_iff he).mp h
      exact ⟨pduType, key, ⟨lookup_type_of_valueOr hs htype, hid, htimestamp, hdata, numbers,
        hmembers, hnumbers⟩, hpayload⟩
  · rintro ⟨pduType, key, ⟨htype, hid, htimestamp, hdata, numbers, hmembers, hnumbers⟩, hpayload⟩
    refine ⟨_, valueOr_getString_iff.mpr (.inl htype), ?_⟩
    rw [stringToPduType_type]
    exact (number_bind_error he fun _ => number_bind_error he fun _ => hlast pduType _ _).mpr
      ⟨hid, htimestamp, hdata,
        (decodeChoice_error_iff he).mpr ⟨key, numbers, hmembers, hnumbers, hpayload⟩⟩

/-! ## Where the payload is not defined -/

theorem verbatimOr_eq_error {dumped : Except Fault Bytes} :
    verbatimOr rawJson key dumped = .error e ↔
      memberSpan rawJson key = .error e ∨ memberSpan rawJson key = .ok none ∧ dumped = .error e := by
  unfold verbatimOr
  rcases memberSpan rawJson key with e | _ | s
  · simp [bind, Except.bind]
  · simp [bind, Except.bind]
  · simp [bind, Except.bind, pure, Except.pure]

theorem dumpMember_eq_error (he : e ≠ .decodeFailed) :
    dumpMember lib root key = .error e ↔ root.lookup key = none ∧ e = .missingMember := by
  unfold dumpMember
  cases root.lookup key with
  | none => simp [eq_comm]
  | some v => simpa using fun h => he (throws_dumpOrThrow v e h)

theorem payloadMember_eq_error (he : e ≠ .decodeFailed) :
    payloadMember lib root rawJson key = .error e ↔
      (∃ v ∈ root.lookup key, IsContainer v) ∧ memberSpan rawJson key = .error e := by
  have hthrows : ∀ v, payloadFromJson lib v ≠ .error e := fun v h =>
    he (throws_payloadFromJson v e h)
  cases hlookup : root.lookup key with
  | none => simp [payloadMember, hlookup]
  | some v =>
    by_cases hv : IsContainer v
    · rw [payloadMember_container rawJson hlookup hv, verbatimOr_eq_error]
      simp [hthrows, hv]
    · have hother : payloadMember lib root rawJson key = payloadFromJson lib v := by
        rw [payloadMember, hlookup]
        cases v with
        | obj members => exact absurd (.inl ⟨members, rfl⟩) hv
        | arr elems => exact absurd (.inr ⟨elems, rfl⟩) hv
        | _ => rfl
      simp [hother, hthrows, hv]

theorem memberSpan_eq_error (hms : Members fmt data ms) :
    memberSpan data key = .error e ↔ e = .stopped .overflow ∧ Deep data key := by
  constructor
  · intro h
    have hbom : ¬ Json.bom <+: data := fun hbom => by
      rw [memberSpan_bom hbom] at h
      cases h
    obtain ⟨w, o, rest, hdata, -⟩ := hms.exists_tree hbom
    rw [memberSpan_tree key hdata, Reads.found] at h
    split_ifs at h with hdepth
    · cases h
    · simp only [not_forall, not_le, exists_prop] at hdepth
      exact ⟨(Except.error.inj h).symm, w, o, rest, hdata, hdepth⟩
  · rintro ⟨rfl, w, o, rest, hdata, m, hm, hdeep⟩
    rw [memberSpan_tree key hdata, Reads.found, if_neg fun h => absurd (h m hm) hdeep.not_ge]
    rfl

theorem Deep.lt_length (h : Deep data key) : intMax < data.length := by
  obtain ⟨w, o, rest, hdata, m, hm, hdeep⟩ := h
  have hdrop : data.drop w.1.length = o.text ++ rest := by rw [hdata, List.drop_left]
  have hfound := Reads.findTopLevelMemberSpan_tree (text key) data.length.lt_succ_self
    (by decide : 0 < intMax) hdrop
  rw [Reads.found, if_neg fun h => absurd (h m hm) hdeep.not_ge] at hfound
  obtain ⟨r, hr, -⟩ | ⟨-, hlt⟩ :=
    Reads.findTopLevelMemberSpan_finds intMax data.length.lt_succ_self w.1.length (text key)
  · cases hr.symm.trans hfound
  · exact hlt

end

theorem Members.memberSpan_eq_ok (hlib : lib.Follows fmt) (h : Members fmt data ms)
    (hroot : lib.parse data = some (.obj root)) (choice : PduChoice) {r : Option (ℕ × ℕ)}
    (hnone : root.lookup (payloadKey choice) = none)
    (hr : JsonE3Encoder.memberSpan data (payloadKey choice) = .ok r) : r = none := by
  by_cases hbom : Json.bom <+: data
  · exact (Except.ok.inj ((memberSpan_bom hbom _).symm.trans hr)).symm
  · have hspan := h.memberSpan hbom hr
    cases hfind : ms.find? fun m => m.rawKey = text (payloadKey choice) with
    | none =>
      rw [hfind] at hspan
      exact Option.map_eq_none_iff.mp hspan
    | some m =>
      have hkey : m.rawKey = text (payloadKey choice) := by simpa using List.find?_some hfind
      exact absurd hnone (h.lookup_ne_none hlib hroot (List.mem_of_find?_eq_some hfind) hkey)

theorem readPayload_undefined_iff (hlib : lib.Follows fmt) (hms : Members fmt data ms)
    (hroot : lib.parse data = some (.obj root)) {pduType : PduType}
    (hkey : UpToPayload root pduType key) :
    (∃ e, e ≠ .decodeFailed ∧ readPayload lib root data pduType key = .error e) ↔
      (pduType = .indicationMessage ∧ root.lookup key = none ∨
        (pduType ≠ .indicationMessage → ∃ v ∈ root.lookup key, IsContainer v) ∧ Deep data key) := by
  have hdeep : ∀ e, JsonE3Encoder.memberSpan data key = .error e ↔
      e = .stopped .overflow ∧ Deep data key := fun e => memberSpan_eq_error hms
  by_cases htype : pduType = .indicationMessage
  · subst htype
    obtain ⟨numbers, hmembers, -⟩ := hkey.numbers
    obtain rfl : "protocolData" = key := (Prod.mk.inj (Option.some.inj hmembers)).1
    simp only [readPayload, if_pos, verbatimOr_eq_error, ne_eq, not_true_eq_false, false_implies,
      true_and]
    constructor
    · rintro ⟨e, he, herror | ⟨-, hdumped⟩⟩
      · exact .inr ((hdeep e).mp herror).2
      · exact .inl ((dumpMember_eq_error he).mp hdumped).1
    · rintro (hnone | hd)
      · cases hspan : JsonE3Encoder.memberSpan data "protocolData" with
        | error e => exact ⟨e, by rw [((hdeep e).mp hspan).1]; rintro ⟨⟩, .inl rfl⟩
        | ok r =>
          obtain rfl := hms.memberSpan_eq_ok hlib hroot (.indicationMessage {}) hnone hspan
          exact ⟨.missingMember, by rintro ⟨⟩, .inr ⟨rfl,
            (dumpMember_eq_error (by rintro ⟨⟩)).mpr ⟨hnone, rfl⟩⟩⟩
      · exact ⟨_, by rintro ⟨⟩, .inl ((hdeep _).mpr ⟨rfl, hd⟩)⟩
  · simp only [readPayload, ne_eq, htype, if_false, not_false_eq_true, true_implies, false_and,
      false_or]
    constructor
    · rintro ⟨e, he, h⟩
      obtain ⟨hv, hspan⟩ := (payloadMember_eq_error he).mp h
      exact ⟨hv, ((hdeep e).mp hspan).2⟩
    · rintro ⟨hv, hd⟩
      exact ⟨_, by rintro ⟨⟩, (payloadMember_eq_error (by rintro ⟨⟩)).mpr
        ⟨hv, (hdeep _).mpr ⟨rfl, hd⟩⟩⟩

variable (truncate) in
theorem decode_undefined_iff (hlib : lib.Follows fmt) :
    (∃ e, e ≠ .decodeFailed ∧ decode lib truncate data = .error e) ↔
      ∃ root, lib.parse data = some (.obj root) ∧ Undefined data root := by
  unfold decode
  constructor
  · rintro ⟨e, he, h⟩
    split_ifs at h
    · exact absurd (Except.error.inj h).symm he
    · cases hparse : lib.parse data with
      | none =>
        rw [hparse] at h
        exact absurd (Except.error.inj h).symm he
      | some j =>
        rw [hparse] at h
        cases j with
        | obj root =>
          obtain ⟨ms, hms⟩ := exists_members hlib hparse
          obtain ⟨pduType, key, hkey, hpayload⟩ := (decodeRoot_error_iff he).mp h
          exact ⟨root, rfl, pduType, key, hkey,
            (readPayload_undefined_iff hlib hms hparse hkey).mp ⟨e, he, hpayload⟩⟩
        | _ => exact absurd (Except.error.inj h).symm he
  · rintro ⟨root, hroot, pduType, key, hkey, h⟩
    obtain ⟨ms, hms⟩ := exists_members hlib hroot
    obtain ⟨e, he, hpayload⟩ := (readPayload_undefined_iff hlib hms hroot hkey).mpr h
    refine ⟨e, he, ?_⟩
    rw [if_neg hms.ne_nil, hroot]
    exact (decodeRoot_error_iff he).mpr ⟨pduType, key, hkey, hpayload⟩

/-- Decoding ends with a message or an error, unless the message is read up to its payload and is an
indication that does not have it, or has a value before it that opens more brackets than an `int`
counts. -/
theorem decode_total_iff (hlib : lib.Follows fmt) (truncate : UInt64 → ℤ) (data : Bytes) :
    ((∃ pdu, decode lib truncate data = .ok pdu) ∨
        decode lib truncate data = .error .decodeFailed) ↔
      ¬ ∃ root, lib.parse data = some (.obj root) ∧ Undefined data root := by
  rw [← decode_undefined_iff truncate hlib]
  cases decode lib truncate data with
  | ok pdu => simp
  | error fault => simp

theorem control_decoded :
    (∃ pdu, decode (Json.reference Json.noFloats) Json.noFloats.truncate plainControl = .ok pdu) ∨
      decode (Json.reference Json.noFloats) Json.noFloats.truncate plainControl
        = .error .decodeFailed := by
  have hlib := Json.reference_follows Json.noFloats
  refine (decode_total_iff hlib Json.noFloats.truncate plainControl).mpr ?_
  rintro ⟨root, hroot, pduType, key, hkey, h⟩
  rw [parse_plainControl] at hroot
  obtain rfl := Json.obj.inj (Option.some.inj hroot)
  obtain ⟨rfl, -⟩ | ⟨-, hdeep⟩ := h
  · exact absurd (Json.str.inj (Option.some.inj hkey.type)) (by decide +kernel)
  · exact absurd hdeep.lt_length (by decide +kernel)

theorem indication_without_payload :
    decode (Json.reference Json.noFloats) Json.noFloats.truncate
      (text "\x7b\"type\":\"indicationMessage\"\x7d") = .error .missingMember := by
  decide +kernel

end JsonE3Encoder

end LibE3
