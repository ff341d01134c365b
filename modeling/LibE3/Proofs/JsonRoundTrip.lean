import LibE3.Proofs.JsonFields
import LibE3.Proofs.ScannerExact

/-!
# The JSON round trip

What `JsonE3Encoder::encode` writes, `decode` reads back: the fields through the JSON library, and
the payload, which is inserted into the text as it is, through the scanner. The encoder checks a
payload as a text of its own. One that starts with a byte order mark, or has a zero byte behind the
value, makes the message unreadable, and one whose brackets an `int` does not count makes the
scanner overflow.
-/

namespace LibE3

def PduChoice.payload : PduChoice → Option Bytes
  | .indicationMessage msg => some msg.protocolData
  | .dappControlAction action => some action.actionData
  | .dappReport report => some report.reportData
  | .xappControlAction action => some action.xappControlData
  | _ => none

namespace JsonE3Encoder

open Faults Partial
open Json (Held HeldMembers Spells IsText Ws Tree Space Placed)

def stripWs (s : Bytes) : Bytes := (s.dropWhile isJsonWs).rdropWhile isJsonWs

/-- The alternative that is read back: a payload without the white space around it, and the data of
a RAN function in its compact form. -/
def readBack (lib : Json.Library) : PduChoice → PduChoice
  | .setupResponse resp => .setupResponse (compactedResponse lib resp)
  | .indicationMessage msg =>
    .indicationMessage { msg with protocolData := stripWs msg.protocolData }
  | .dappControlAction action =>
    .dappControlAction { action with actionData := stripWs action.actionData }
  | .dappReport report => .dappReport { report with reportData := stripWs report.reportData }
  | .xappControlAction action =>
    .xappControlAction { action with xappControlData := stripWs action.xappControlData }
  | choice => choice

variable {lib : Json.Library} {fmt : Json.FloatFormat} {truncate : UInt64 → ℤ}

/-! ## White space around a payload -/

variable {j : Json}

theorem stripWs_spells {w₁ v w₂ : Bytes} (hw₁ : Ws w₁) (hv : Spells fmt (.value j) v) (hw₂ : Ws w₂) :
    stripWs (w₁ ++ (v ++ w₂)) = v := by
  have hskip : (w₁ ++ (v ++ w₂)).dropWhile isJsonWs = v ++ w₂ := by
    have h := Json.skipWs_ws (s := v ++ w₂) hw₁
    rw [hv.skipWs] at h
    exact h
  obtain ⟨t, c, rfl, hc⟩ := hv.last
  have hc : ¬isJsonWs c = true := by rw [show isJsonWs c = false from hc]; decide
  have hrev : ∀ d ∈ w₂.reverse, isJsonWs d = true := fun d hd => hw₂ d (List.mem_reverse.mp hd)
  rw [stripWs, hskip, List.rdropWhile, List.reverse_append, List.dropWhile_append_of_pos hrev,
    List.reverse_append, List.reverse_singleton, List.singleton_append,
    List.dropWhile_cons_of_neg hc]
  simp

/-! ## The envelope -/

/-- The names that no field of a message has. -/
def reservedKeys : List String := "data" :: envelopeKeys

/-- A field with a name of its own, and a value that is held if it can be written. -/
def Sound (fmt : Json.FloatFormat) (f : String × Json) : Prop :=
  f.1 ∉ reservedKeys ∧ (f.2.utf8 = true → Held fmt f.2)

def SoundFields (fmt : Json.FloatFormat) (fields : Fields) : Prop := ∀ f ∈ fields, Sound fmt f

@[simp] theorem soundFields_nil : SoundFields fmt [] := by simp [SoundFields]

variable {fields : Fields}

@[simp] theorem soundFields_cons {f : String × Json} :
    SoundFields fmt (f :: fields) ↔ Sound fmt f ∧ SoundFields fmt fields :=
  List.forall_mem_cons

@[simp] theorem soundFields_append {fields more : Fields} :
    SoundFields fmt (fields ++ more) ↔ SoundFields fmt fields ∧ SoundFields fmt more :=
  List.forall_mem_append

variable {key : String}

@[simp] theorem soundFields_optional {α : Type} {value : Option α} {toJson : α → Json} :
    SoundFields fmt (optional key value toJson) ↔ ∀ v ∈ value, Sound fmt (key, toJson v) :=
  forall_optional

theorem held_number (v : UInt32) : Held fmt (number v) := by
  have hv := v.toNat_lt
  rw [number, Held]
  omega

@[simp] theorem sound_number {v : UInt32} :
    Sound fmt (key, number v) ↔ key ∉ reservedKeys :=
  and_iff_left fun _ => held_number v

@[simp] theorem sound_str {s : Bytes} :
    Sound fmt (key, .str s) ↔ key ∉ reservedKeys :=
  and_iff_left fun hutf8 => by
    rw [Json.utf8_str] at hutf8
    rwa [Held]

theorem held_idList (ids : List UInt32) : Held fmt (idList ids) := by
  rw [idList, Held, Json.heldElems_iff, List.forall_mem_map]
  exact fun v _ => held_number v

@[simp] theorem sound_idList {ids : List UInt32} :
    Sound fmt (key, idList ids) ↔ key ∉ reservedKeys :=
  and_iff_left fun _ => held_idList ids

theorem held_encodeRanFunction (hlib : lib.Follows fmt) {func : RanFunctionDef}
    (h : encodeRanFunction lib func = some j) : Held fmt j := by
  unfold encodeRanFunction at h
  split_ifs at h
  obtain ⟨data, hdata, rfl⟩ := Option.map_eq_some_iff.mp h
  rw [Held, Json.heldMembers_iff]
  refine ⟨Json.pairwise_update List.Pairwise.nil, fun m hm => ?_⟩
  rcases Json.mem_of_mem_update hm with hm | hm
  · simp only [List.mem_cons, List.not_mem_nil, or_false] at hm
    rcases hm with rfl | rfl | rfl | rfl
    · exact held_number _
    · exact held_idList _
    · exact held_idList _
    · exact hlib.held hdata
  · cases hm

theorem held_mapM_encodeRanFunction (hlib : lib.Follows fmt) : ∀ {l : List RanFunctionDef}
    {ranFuncs : List Json}, l.mapM (encodeRanFunction lib) = some ranFuncs →
      ∀ j ∈ ranFuncs, Held fmt j
  | [], ranFuncs, h => by
    obtain rfl := Option.some.inj h
    simp
  | func :: l, ranFuncs, h => by
    rw [List.mapM_cons] at h
    obtain ⟨j, hj, h⟩ := Option.bind_eq_some_iff.mp h
    obtain ⟨js, hjs, h⟩ := Option.bind_eq_some_iff.mp h
    obtain rfl := Option.some.inj h
    exact List.forall_mem_cons.mpr
      ⟨held_encodeRanFunction hlib hj, held_mapM_encodeRanFunction hlib hjs⟩

theorem sound_setupResponseFields (hlib : lib.Follows fmt) {resp : SetupResponse}
    {ranFuncs : List Json}
    (hfuncs : resp.ranFunctionList.mapM (encodeRanFunction lib) = some ranFuncs) :
    SoundFields fmt (setupResponseFields resp ranFuncs) := by
  have hname : "ranFunctionList" ∉ reservedKeys := by decide
  have hlist : Sound fmt ("ranFunctionList", .arr ranFuncs) :=
    ⟨hname, fun _ => by
      rw [Held, Json.heldElems_iff]
      exact held_mapM_encodeRanFunction hlib hfuncs⟩
  by_cases hl : resp.ranFunctionList = []
  · simp [setupResponseFields, responseCodeField, writeReason, hl, reservedKeys, envelopeKeys]
  · simp [setupResponseFields, responseCodeField, writeReason, hl, hlist, reservedKeys,
      envelopeKeys]

variable {v : Visited}

theorem visit_sound (hlib : lib.Follows fmt) {choice : PduChoice} (h : visit lib choice = some v) :
    SoundFields fmt v.fields := by
  cases choice with
  | setupRequest req =>
    obtain rfl := Option.some.inj h
    simp [encodeSetupRequest, reservedKeys, envelopeKeys]
  | setupResponse resp =>
    obtain ⟨fields, hfields, rfl⟩ := Option.map_eq_some_iff.mp h
    obtain ⟨ranFuncs, hfuncs, rfl⟩ := Option.map_eq_some_iff.mp hfields
    exact sound_setupResponseFields hlib hfuncs
  | subscriptionRequest req =>
    obtain rfl := Option.some.inj h
    simp [encodeSubscriptionRequest, reservedKeys, envelopeKeys]
  | subscriptionDelete del =>
    obtain rfl := Option.some.inj h
    simp [encodeSubscriptionDelete, reservedKeys, envelopeKeys]
  | subscriptionResponse resp =>
    obtain rfl := Option.some.inj h
    simp [encodeSubscriptionResponse, responseCodeField, writeReason, reservedKeys, envelopeKeys]
  | indicationMessage msg =>
    obtain ⟨fields, hfields, rfl⟩ := Option.map_eq_some_iff.mp h
    obtain ⟨-, rfl⟩ := of_check hfields
    simp [reservedKeys, envelopeKeys]
  | dappControlAction action =>
    obtain ⟨-, rfl⟩ := of_check h
    by_cases hseq : action.sequenceId = 0
    · simp [encodeDappControlAction, hseq, reservedKeys, envelopeKeys]
    · simp [encodeDappControlAction, hseq, reservedKeys, envelopeKeys]
  | dappReport report =>
    obtain ⟨-, rfl⟩ := of_check h
    simp [encodeDappReport, reservedKeys, envelopeKeys]
  | xappControlAction action =>
    obtain ⟨-, rfl⟩ := of_check h
    simp [encodeXappControlAction, reservedKeys, envelopeKeys]
  | releaseMessage msg =>
    obtain rfl := Option.some.inj h
    simp [encodeReleaseMessage, reservedKeys, envelopeKeys]
  | messageAck ack =>
    obtain rfl := Option.some.inj h
    simp [encodeMessageAck, responseCodeField, writeReason, reservedKeys, envelopeKeys]

/-- The members of the object that is written. -/
def envelope (pdu : Pdu) (fields : Fields) : Fields := Json.update (rootFields pdu) fields

theorem lookup_of_sound (h : SoundFields fmt fields) (hkey : key ∈ reservedKeys) :
    fields.reverse.lookup key = none := by
  rw [List.lookup_eq_none_iff]
  intro f hf
  have hne : f.1 ≠ key := fun he => (h f (List.mem_reverse.mp hf)).1 (he ▸ hkey)
  simpa using hne.symm

/-- The members of an envelope, and what is read of it. -/
structure IsEnvelope (pdu : Pdu) (fields root : Fields) : Prop where
  type : root.lookup "type" = some (.str (toCamelCase (text (pduTypeToString pdu.type))))
  id : root.lookup "id" = some (number pdu.messageId)
  timestamp : root.lookup "timestamp" = some (.unsigned pdu.timestamp.toNat)
  data : root.lookup "data" = none
  agrees : Agrees root fields

theorem isEnvelope_envelope (pdu : Pdu) (h : SoundFields fmt fields) :
    IsEnvelope pdu fields (envelope pdu fields) := by
  have hlookup : ∀ key, (envelope pdu fields).lookup key
      = (fields.reverse.lookup key).or ((rootFields pdu).lookup key) := fun key =>
    Json.lookup_update key fields (rootFields pdu)
  have hroot : ∀ key, (rootFields pdu).lookup key
      = [("timestamp", Json.unsigned pdu.timestamp.toNat), ("id", number pdu.messageId),
        ("type", .str (toCamelCase (text (pduTypeToString pdu.type))))].lookup key := fun key => by
    rw [rootFields, Json.lookup_update]
    exact Option.or_none
  refine ⟨?_, ?_, ?_, ?_, fun key hkey => ?_⟩
  · rw [hlookup, lookup_of_sound h (by decide), hroot]
    simp [Json.lookup_cons_eq]
  · rw [hlookup, lookup_of_sound h (by decide), hroot]
    simp [Json.lookup_cons_eq]
  · rw [hlookup, lookup_of_sound h (by decide), hroot, Json.lookup_cons_eq, if_pos rfl]
    rfl
  · rw [hlookup, lookup_of_sound h (by decide), hroot]
    simp [Json.lookup_cons_eq]
  · simp only [envelopeKeys, List.mem_cons, not_or] at hkey
    rw [hlookup, hroot]
    simp [Json.lookup_cons_eq, hkey]

theorem stringToPduType_type (t : PduType) :
    stringToPduType (toCamelCase (text (pduTypeToString t))) = some t := by
  cases t <;> decide +kernel

variable {pdu : Pdu}

theorem decodeRoot_envelope {fields root : Fields} (rawJson : Bytes)
    (h : IsEnvelope pdu fields root) :
    decodeRoot lib truncate root rawJson
      = (decodeChoice lib truncate root rawJson pdu.type).map
          fun choice => { pdu with choice := choice } := by
  simp [decodeRoot, valueOr, h.type, h.id, h.timestamp, h.data, stringToPduType_type,
    getUInt64, getInteger, Except.map, ofInt_toNat64, bind, Except.bind, pure, Except.pure]

theorem pairwise_envelope (pdu : Pdu) (fields : Fields) :
    (envelope pdu fields).Pairwise fun a b => a.1 < b.1 :=
  Json.pairwise_update (Json.pairwise_update List.Pairwise.nil)

theorem held_envelope (h : SoundFields fmt fields)
    (hutf8 : (Json.obj (envelope pdu fields)).utf8 = true) :
    Held fmt (.obj (envelope pdu fields)) := by
  rw [Json.utf8_obj, Json.utf8Members_eq_true] at hutf8
  rw [Held, Json.heldMembers_iff]
  refine ⟨pairwise_envelope pdu fields, fun m hm => ?_⟩
  have hmutf8 := hutf8 m hm
  have htime := pdu.timestamp.toNat_lt
  rcases Json.mem_of_mem_update hm with hm | hm
  · exact (h m hm).2 hmutf8
  · rcases Json.mem_of_mem_update hm with hm | hm
    · simp only [List.mem_cons, List.not_mem_nil, or_false] at hm
      rcases hm with rfl | rfl | rfl
      · rw [Json.utf8_str] at hmutf8
        rwa [Held]
      · exact held_number pdu.messageId
      · rwa [Held]
    · cases hm

/-! ## The alternative -/

def payloadKey : PduChoice → String
  | .dappControlAction _ => "actionData"
  | .dappReport _ => "reportData"
  | .xappControlAction _ => "xAppControlData"
  | _ => "protocolData"

/-- Where the scanner finds the payload in the text, and that the library has it. -/
structure PayloadAt (choice : PduChoice) (root : Fields) (rawJson raw : Bytes)
    (place : Except Fault (ℕ × ℕ)) : Prop where
  span : memberSpan rawJson (payloadKey choice) = place.map some
  text : ∀ s, place = .ok s → JsonE3Encoder.span rawJson s = stripWs raw
  member : choice.type ≠ .indicationMessage →
    ∃ j, root.lookup (payloadKey choice) = some j ∧ IsContainer j

section

variable {choice : PduChoice} {root : Fields} {rawJson raw : Bytes} {place : Except Fault (ℕ × ℕ)}

theorem PayloadAt.verbatimOr (h : PayloadAt choice root rawJson raw place)
    (dumped : Except Fault Bytes) :
    verbatimOr rawJson (payloadKey choice) dumped = place.map fun _ => stripWs raw := by
  rw [JsonE3Encoder.verbatimOr, h.span]
  cases place with
  | error e => rfl
  | ok s => exact congrArg Except.ok (h.text s rfl)

variable (lib) in
theorem PayloadAt.payloadMember (h : PayloadAt choice root rawJson raw place)
    (hchoice : choice.type ≠ .indicationMessage) :
    payloadMember lib root rawJson (payloadKey choice) = place.map fun _ => stripWs raw := by
  obtain ⟨j, hj, hcontainer⟩ := h.member hchoice
  rw [payloadMember_container rawJson hj hcontainer, h.verbatimOr]

theorem decodeChoice_visit (place : Except Fault (ℕ × ℕ)) (hlib : lib.Follows fmt)
    (hv : visit lib choice = some v) (h : Agrees root v.fields)
    (hpayload : ∀ raw ∈ choice.payload, PayloadAt choice root rawJson raw place)
    (hplain : choice.payload = none → ∃ s, place = .ok s) :
    decodeChoice lib truncate root rawJson choice.type = place.map fun _ => readBack lib choice := by
  cases choice with
  | setupRequest req =>
    obtain ⟨s, rfl⟩ := hplain rfl
    obtain rfl := Option.some.inj hv
    simp [PduChoice.type, decodeChoice, decodeSetupRequest_agrees h, readBack, Except.map]
  | setupResponse resp =>
    obtain ⟨s, rfl⟩ := hplain rfl
    obtain ⟨fields, hfields, rfl⟩ := Option.map_eq_some_iff.mp hv
    obtain ⟨ranFuncs, hfuncs, rfl⟩ := Option.map_eq_some_iff.mp hfields
    simp [PduChoice.type, decodeChoice, decodeSetupResponse_agrees hlib hfuncs h, readBack,
      Except.map]
  | subscriptionRequest req =>
    obtain ⟨s, rfl⟩ := hplain rfl
    obtain rfl := Option.some.inj hv
    simp [PduChoice.type, decodeChoice, decodeSubscriptionRequest_agrees h, readBack, Except.map]
  | subscriptionDelete del =>
    obtain ⟨s, rfl⟩ := hplain rfl
    obtain rfl := Option.some.inj hv
    simp [PduChoice.type, decodeChoice, decodeSubscriptionDelete_agrees h, readBack, Except.map]
  | subscriptionResponse resp =>
    obtain ⟨s, rfl⟩ := hplain rfl
    obtain rfl := Option.some.inj hv
    simp [PduChoice.type, decodeChoice, decodeSubscriptionResponse_agrees h, readBack, Except.map]
  | indicationMessage msg =>
    obtain ⟨fields, hfields, rfl⟩ := Option.map_eq_some_iff.mp hv
    have hdata : verbatimOr rawJson "protocolData" (dumpMember lib root "protocolData")
        = place.map fun _ => stripWs msg.protocolData := (hpayload _ rfl).verbatimOr _
    rw [PduChoice.type, decodeChoice, decodeIndicationMessage_agrees rawJson hfields h, hdata]
    cases place <;> rfl
  | dappControlAction action =>
    obtain ⟨-, rfl⟩ := of_check hv
    have hdata := (hpayload action.actionData rfl).payloadMember lib (by rintro ⟨⟩)
    rw [payloadKey] at hdata
    rw [PduChoice.type, decodeChoice, decodeDappControlAction_agrees rawJson h, hdata]
    cases place <;> rfl
  | dappReport report =>
    obtain ⟨-, rfl⟩ := of_check hv
    have hdata := (hpayload report.reportData rfl).payloadMember lib (by rintro ⟨⟩)
    rw [payloadKey] at hdata
    rw [PduChoice.type, decodeChoice, decodeDappReport_agrees rawJson h, hdata]
    cases place <;> rfl
  | xappControlAction action =>
    obtain ⟨-, rfl⟩ := of_check hv
    have hdata := (hpayload action.xappControlData rfl).payloadMember lib (by rintro ⟨⟩)
    rw [payloadKey] at hdata
    rw [PduChoice.type, decodeChoice, decodeXappControlAction_agrees rawJson h, hdata]
    cases place <;> rfl
  | releaseMessage msg =>
    obtain ⟨s, rfl⟩ := hplain rfl
    obtain rfl := Option.some.inj hv
    simp [PduChoice.type, decodeChoice, decodeReleaseMessage_agrees h, readBack, Except.map]
  | messageAck ack =>
    obtain ⟨s, rfl⟩ := hplain rfl
    obtain rfl := Option.some.inj hv
    simp [PduChoice.type, decodeChoice, decodeMessageAck_agrees h, readBack, Except.map]

end

/-! ## The place of a payload -/

section

variable {pattern s t : Bytes} {a b c : UInt8}

/-- The search goes past `s`. -/
def Passes (pattern s t : Bytes) : Prop :=
  find pattern (s ++ t) = (find pattern t).map (· + s.length)

theorem Passes.append {u : Bytes} (hs : Passes pattern s (u ++ t)) (hu : Passes pattern u t) :
    Passes pattern (s ++ u) t := by
  rw [Passes, List.append_assoc, hs, hu, Option.map_map, List.length_append]
  congr 1
  funext n
  simp
  omega

theorem passes_cons (h : ¬pattern <+: c :: t) : Passes pattern [c] t := by
  rw [Passes, List.singleton_append, find, if_neg h]
  rfl

theorem passes_of_notMem : ∀ {s : Bytes}, a ∉ s → Passes (a :: pattern) s t
  | [], _ => by simp [Passes]
  | c :: s, h => by
    rw [List.mem_cons, not_or] at h
    have hc : ¬(a :: pattern) <+: c :: (s ++ t) := fun hp => h.1 (List.cons_prefix_cons.mp hp).1
    exact (passes_cons hc).append (passes_of_notMem h.2)

theorem passes_member {name value : Bytes} {d : UInt8} (hc : b ≠ c) (hd : b ≠ d)
    (hname : a ∉ c :: name) (hvalue : a ∉ d :: value) :
    Passes (a :: b :: pattern) (a :: (c :: name ++ a :: d :: value)) t := by
  have hfirst : ∀ {e : UInt8} {u : Bytes}, b ≠ e → ¬(a :: b :: pattern) <+: a :: e :: u :=
    fun he hp => he (List.cons_prefix_cons.mp (List.cons_prefix_cons.mp hp).2).1
  have hopen : Passes (a :: b :: pattern) [a] (c :: name ++ a :: d :: value ++ t) :=
    passes_cons (hfirst hc)
  have hclose : Passes (a :: b :: pattern) [a] (d :: value ++ t) := passes_cons (hfirst hd)
  have htail : Passes (a :: b :: pattern) ([a] ++ (d :: value)) t :=
    hclose.append (passes_of_notMem hvalue)
  have hrest : Passes (a :: b :: pattern) (c :: name ++ ([a] ++ (d :: value))) t :=
    (passes_of_notMem hname).append htail
  exact hopen.append hrest

theorem find_prefix (h : pattern <+: t) : find pattern t = some 0 := by
  cases t with
  | nil => simp [find, List.prefix_nil.mp h]
  | cons c t => rw [find, if_pos h]

end

theorem quote_notMem_number (v : UInt32) : 0x22 ∉ Json.write fmt (number v) := by
  intro hmem
  rw [number, Json.write] at hmem
  have hbyte := (Json.valid_integerNumeral false v.toNat).mem_text hmem
  simp [Json.isDigit] at hbyte

/-- The members of the envelope of an indication before its payload. -/
def indicationBefore (pdu : Pdu) (msg : IndicationMessage) : Fields :=
  [("dAppIdentifier", number msg.dappIdentifier), ("id", number pdu.messageId)]

/-- The members of the envelope of an indication behind its payload. -/
def indicationBehind (pdu : Pdu) (msg : IndicationMessage) : Fields :=
  [("ranFunctionIdentifier", number msg.ranFunctionIdentifier),
    ("timestamp", .unsigned pdu.timestamp.toNat),
    ("type", .str (toCamelCase (text (pduTypeToString pdu.type))))]

theorem envelope_indication (pdu : Pdu) (msg : IndicationMessage) :
    envelope pdu [("dAppIdentifier", number msg.dappIdentifier),
        ("ranFunctionIdentifier", number msg.ranFunctionIdentifier)]
      = indicationBefore pdu msg ++ indicationBehind pdu msg := by
  simp [envelope, rootFields, Json.update, Json.set, indicationBefore, indicationBehind]

theorem passes_number {c : UInt8} {name pattern t : Bytes} (v : UInt32)
    (hkey : Json.quote (Json.keyText key) = 0x22 :: (c :: name ++ [0x22])) (hc : 0x72 ≠ c)
    (hname : 0x22 ∉ c :: name) :
    Passes (0x22 :: 0x72 :: pattern)
      (Json.quote (Json.keyText key) ++ 0x3A :: (Json.write fmt (number v) ++ [0x2C])) t := by
  have hvalue : 0x22 ∉ 0x3A :: (Json.write fmt (number v) ++ [0x2C]) := by
    simp [quote_notMem_number]
  have hmember : Json.quote (Json.keyText key) ++ 0x3A :: (Json.write fmt (number v) ++ [0x2C])
      = 0x22 :: (c :: name ++ 0x22 :: 0x3A :: (Json.write fmt (number v) ++ [0x2C])) := by
    simp [hkey]
  rw [hmember]
  exact passes_member hc (by decide) hname hvalue

theorem find_ranFunctionIdentifier (pdu : Pdu) (msg : IndicationMessage) :
    find (text "\"ranFunctionIdentifier\"")
        (0x7B :: (Json.writeMembers fmt (indicationBefore pdu msg) ++ [0x2C])
          ++ (Json.writeMembers fmt (indicationBehind pdu msg) ++ [0x7D]))
      = some (0x7B :: (Json.writeMembers fmt (indicationBefore pdu msg) ++ [0x2C])).length := by
  have hpattern : text "\"ranFunctionIdentifier\""
      = 0x22 :: 0x72 :: text "anFunctionIdentifier\"" := by decide +kernel
  have hquote : text "\"ranFunctionIdentifier\""
      = Json.quote (Json.keyText "ranFunctionIdentifier") := by decide +kernel
  have hstop : find (text "\"ranFunctionIdentifier\"")
      (Json.writeMembers fmt (indicationBehind pdu msg) ++ [0x7D]) = some 0 := by
    refine find_prefix ?_
    rw [hquote, indicationBehind, Json.writeMembers]
    simp
  have hpasses : Passes (text "\"ranFunctionIdentifier\"")
      (0x7B :: (Json.writeMembers fmt (indicationBefore pdu msg) ++ [0x2C]))
      (Json.writeMembers fmt (indicationBehind pdu msg) ++ [0x7D]) := by
    have hmembers : 0x7B :: (Json.writeMembers fmt (indicationBefore pdu msg) ++ [0x2C])
        = [0x7B] ++ ((Json.quote (Json.keyText "dAppIdentifier")
            ++ 0x3A :: (Json.write fmt (number msg.dappIdentifier) ++ [0x2C]))
          ++ (Json.quote (Json.keyText "id")
            ++ 0x3A :: (Json.write fmt (number pdu.messageId) ++ [0x2C]))) := by
      simp [indicationBefore, Json.writeMembers]
    rw [hmembers, hpattern]
    refine (passes_of_notMem (by decide)).append (Passes.append ?_ ?_)
    · exact passes_number (c := 0x64) msg.dappIdentifier
        (show _ = _ :: (_ :: text "AppIdentifier" ++ _) by decide +kernel) (by decide)
        (by decide +kernel)
    · exact passes_number (c := 0x69) pdu.messageId
        (show _ = _ :: (_ :: text "d" ++ _) by decide +kernel) (by decide) (by decide +kernel)
  rw [hpasses, hstop, Option.map_some, Nat.zero_add]

/-! ## The text of a message with a payload -/

theorem write_obj (members : Fields) :
    Json.write fmt (.obj members) = 0x7B :: (Json.writeMembers fmt members ++ [0x7D]) := by
  rw [Json.write]

theorem appendRawMember_splice {members : Fields} (raw : Bytes)
    (hkey : text ",\"" ++ text key ++ text "\":"
      = 0x2C :: (Json.quote (Json.keyText key) ++ [0x3A])) :
    appendRawMember (Json.write fmt (.obj members)) (some (key, raw))
      = Json.splice fmt members key raw [] := by
  have hdrop : (Json.write fmt (.obj members)).dropLast
      = 0x7B :: Json.writeMembers fmt members := by
    rw [write_obj, ← List.cons_append, List.dropLast_concat]
  have hbrace : text "\x7d" = [0x7D] := by decide +kernel
  have hassoc : appendRawMember (Json.write fmt (.obj members)) (some (key, raw))
      = (Json.write fmt (.obj members)).dropLast
        ++ (text ",\"" ++ text key ++ text "\":") ++ raw ++ text "\x7d" := by
    simp [appendRawMember]
  rw [hassoc, hdrop, hkey, hbrace, Json.splice, Json.spliceTail]
  simp

theorem spliceProtocolData_splice (pdu : Pdu) (msg : IndicationMessage) (raw : Bytes) :
    spliceProtocolData
        (Json.write fmt (.obj (indicationBefore pdu msg ++ indicationBehind pdu msg))) (some raw)
      = some (Json.splice fmt (indicationBefore pdu msg) "protocolData" raw
          (indicationBehind pdu msg)) := by
  have hkey : text "\"protocolData\":"
      = Json.quote (Json.keyText "protocolData") ++ [0x3A] := by decide +kernel
  have hcomma : text "," = [0x2C] := by decide +kernel
  have hwrite : Json.write fmt (.obj (indicationBefore pdu msg ++ indicationBehind pdu msg))
      = 0x7B :: (Json.writeMembers fmt (indicationBefore pdu msg) ++ [0x2C])
        ++ (Json.writeMembers fmt (indicationBehind pdu msg) ++ [0x7D]) := by
    have hbefore : indicationBefore pdu msg ≠ [] := List.cons_ne_nil _ _
    have hbehind : indicationBehind pdu msg ≠ [] := List.cons_ne_nil _ _
    rw [write_obj, Json.writeMembers_append hbefore hbehind]
    simp
  rw [hwrite, spliceProtocolData, find_ranFunctionIdentifier, Option.map_some, List.take_left,
    List.drop_left, hkey, hcomma, Json.splice]
  simp [indicationBehind, Json.spliceTail]

theorem spliceProtocolData_visit (hlib : lib.Follows fmt) (hv : visit lib pdu.choice = some v) :
    ∃ json, spliceProtocolData (lib.text (.obj (envelope pdu v.fields))) v.rawProtocolData
      = some json := by
  obtain ⟨type, choice, messageId, timestamp⟩ := pdu
  cases choice with
  | setupResponse resp =>
    obtain ⟨fields, -, rfl⟩ := Option.map_eq_some_iff.mp hv
    exact ⟨_, rfl⟩
  | indicationMessage msg =>
    obtain ⟨fields, hfields, rfl⟩ := Option.map_eq_some_iff.mp hv
    obtain ⟨-, rfl⟩ := of_check hfields
    rw [hlib.text_eq, envelope_indication, spliceProtocolData_splice]
    exact ⟨_, rfl⟩
  | dappControlAction action =>
    obtain ⟨-, rfl⟩ := of_check hv
    exact ⟨_, rfl⟩
  | dappReport report =>
    obtain ⟨-, rfl⟩ := of_check hv
    exact ⟨_, rfl⟩
  | xappControlAction action =>
    obtain ⟨-, rfl⟩ := of_check hv
    exact ⟨_, rfl⟩
  | _ =>
    obtain rfl := Option.some.inj hv
    exact ⟨_, rfl⟩

theorem encode_some {bytes : Bytes} (h : encode lib pdu = some bytes) :
    ∃ v json, visit lib pdu.choice = some v
      ∧ (Json.obj (envelope pdu v.fields)).utf8 = true
      ∧ spliceProtocolData (lib.text (.obj (envelope pdu v.fields))) v.rawProtocolData = some json
      ∧ bytes = appendRawMember json v.rawMember := by
  obtain ⟨v, hv, h⟩ := Option.bind_eq_some_iff.mp h
  obtain ⟨dumped, hdump, h⟩ := Option.bind_eq_some_iff.mp h
  obtain ⟨json, hjson, rfl⟩ := Option.map_eq_some_iff.mp h
  obtain ⟨hutf8, rfl⟩ := of_check hdump
  exact ⟨v, json, hv, hutf8, hjson, rfl⟩

/-- What `encode` makes of a message with a payload: the text of the envelope, with the payload as
one more member. -/
structure Spliced (lib : Json.Library) (fmt : Json.FloatFormat) (pdu : Pdu) (raw bytes : Bytes)
    (v : Visited) (pre post : Fields) (j : Json) : Prop where
  visited : visit lib pdu.choice = some v
  utf8 : (Json.obj (envelope pdu v.fields)).utf8 = true
  split : envelope pdu v.fields = pre ++ post
  pre_ne : pre ≠ []
  bytes_eq : bytes = Json.splice fmt pre (payloadKey pdu.choice) raw post
  parsed : lib.parse raw = some j
  container : pdu.choice.type ≠ .indicationMessage → IsContainer j

theorem envelope_ne_nil (pdu : Pdu) (h : SoundFields fmt fields) :
    envelope pdu fields ≠ [] := by
  intro hnil
  have htype := (isEnvelope_envelope pdu h).type
  rw [hnil] at htype
  cases htype

theorem spliced_withPayload (hlib : lib.Follows fmt) {raw bytes : Bytes}
    (hkey : text ",\"" ++ text (payloadKey pdu.choice) ++ text "\":"
      = 0x2C :: (Json.quote (Json.keyText (payloadKey pdu.choice)) ++ [0x3A]))
    (hvisit : visit lib pdu.choice = withPayload lib fields (payloadKey pdu.choice) raw)
    (h : encode lib pdu = some bytes) :
    ∃ v pre post j, Spliced lib fmt pdu raw bytes v pre post j := by
  obtain ⟨v, json, hv, hutf8, hjson, rfl⟩ := encode_some h
  have hsound := visit_sound hlib hv
  have hwith := hvisit.symm.trans hv
  unfold withPayload at hwith
  split_ifs at hwith with hcontainer
  obtain ⟨j, hj, hobj⟩ := isContainer_of_isJsonContainer hlib hcontainer
  refine ⟨v, envelope pdu v.fields, [], j, hv, hutf8, (List.append_nil _).symm,
    envelope_ne_nil pdu hsound, ?_, hj, fun _ => hobj⟩
  obtain rfl := Option.some.inj hwith
  obtain rfl := Option.some.inj hjson
  rw [hlib.text_eq, appendRawMember_splice raw hkey]

theorem encode_spliced (hlib : lib.Follows fmt) {raw bytes : Bytes}
    (hraw : pdu.choice.payload = some raw) (h : encode lib pdu = some bytes) :
    ∃ v pre post j, Spliced lib fmt pdu raw bytes v pre post j := by
  obtain ⟨type, choice, messageId, timestamp⟩ := pdu
  cases choice with
  | indicationMessage msg =>
    obtain rfl := Option.some.inj hraw
    obtain ⟨v, json, hv, hutf8, hjson, rfl⟩ := encode_some h
    obtain ⟨fields, hfields, rfl⟩ := Option.map_eq_some_iff.mp hv
    obtain ⟨haccept, rfl⟩ := of_check hfields
    obtain ⟨j, hj⟩ := Option.isSome_iff_exists.mp haccept
    rw [hlib.text_eq, envelope_indication, spliceProtocolData_splice] at hjson
    obtain rfl := Option.some.inj hjson
    exact ⟨_, _, _, j, hv, hutf8, envelope_indication _ msg, List.cons_ne_nil _ _, rfl, hj,
      fun hne => absurd rfl hne⟩
  | dappControlAction action =>
    obtain rfl := Option.some.inj hraw
    exact spliced_withPayload hlib
      (show _ ++ text "actionData" ++ _ = _ :: (Json.quote (Json.keyText "actionData") ++ _) by
        decide +kernel) rfl h
  | dappReport report =>
    obtain rfl := Option.some.inj hraw
    exact spliced_withPayload hlib
      (show _ ++ text "reportData" ++ _ = _ :: (Json.quote (Json.keyText "reportData") ++ _) by
        decide +kernel) rfl h
  | xappControlAction action =>
    obtain rfl := Option.some.inj hraw
    exact spliced_withPayload hlib
      (show _ ++ text "xAppControlData" ++ _
        = _ :: (Json.quote (Json.keyText "xAppControlData") ++ _) by decide +kernel) rfl h
  | _ => cases hraw

/-! ## The members before a payload -/

/-- A number or a string: what has no brackets. -/
def Flat (j : Json) : Prop := (∃ n, j = .unsigned n) ∨ ∃ s, j = .str s

theorem flat_number (v : UInt32) : Flat (number v) := .inl ⟨_, rfl⟩

theorem Flat.ownNesting (hj : Flat j) {v : Tree .value} (hv : v.text = Json.write fmt j) :
    v.ownNesting = 0 := by
  obtain ⟨n, rfl⟩ | ⟨s, rfl⟩ := hj
  · obtain ⟨c, t, ht, hc⟩ := (Json.valid_integerNumeral false n).head
    rw [Json.write, ht] at hv
    refine Tree.ownNesting_of_head hv ?_ ?_ <;> rintro rfl <;> simp [Json.isDigit] at hc
  · exact Tree.ownNesting_of_head (hv.trans (by rw [Json.write]; rfl)) (by decide) (by decide)

theorem flat_envelope {raw : Bytes} (hpayload : pdu.choice.payload = some raw)
    (hv : visit lib pdu.choice = some v) :
    ∀ m ∈ envelope pdu v.fields, Flat m.2 := by
  have hfields : ∀ m ∈ v.fields, Flat m.2 := by
    cases hchoice : pdu.choice with
    | indicationMessage msg =>
      rw [hchoice] at hv
      obtain ⟨fields, hfields, rfl⟩ := Option.map_eq_some_iff.mp hv
      obtain ⟨-, rfl⟩ := of_check hfields
      simp [flat_number]
    | dappControlAction action =>
      rw [hchoice] at hv
      obtain ⟨-, rfl⟩ := of_check hv
      by_cases hseq : action.sequenceId = 0 <;> simp [encodeDappControlAction, hseq, flat_number]
    | dappReport report =>
      rw [hchoice] at hv
      obtain ⟨-, rfl⟩ := of_check hv
      simp [encodeDappReport, flat_number]
    | xappControlAction action =>
      rw [hchoice] at hv
      obtain ⟨-, rfl⟩ := of_check hv
      simp [encodeXappControlAction, flat_number]
    | _ =>
      rw [hchoice] at hpayload
      cases hpayload
  intro m hm
  rcases Json.mem_of_mem_update hm with hm | hm
  · exact hfields m hm
  · rcases Json.mem_of_mem_update hm with hm | hm
    · simp only [List.mem_cons, List.not_mem_nil, or_false] at hm
      rcases hm with rfl | rfl | rfl
      · exact .inr ⟨_, rfl⟩
      · exact flat_number _
      · exact .inl ⟨_, rfl⟩
    · cases hm

/-! ## Reading a message with a payload -/

theorem findFirstNotOfWs_at {c : UInt8} {s : Bytes} (hc : isJsonWs c = false) :
    ∀ {w : Bytes}, Ws w → findFirstNotOfWs (w ++ c :: s) = some w.length
  | [], _ => by
    rw [List.nil_append, findFirstNotOfWs, List.findIdx?_cons, hc]
    rfl
  | d :: w, hw => by
    have hd : isJsonWs d = true := hw d List.mem_cons_self
    have ih := findFirstNotOfWs_at (s := s) hc fun b hb => hw b (List.mem_cons_of_mem d hb)
    rw [findFirstNotOfWs] at ih
    rw [List.cons_append, findFirstNotOfWs, List.findIdx?_cons, hd, ih]
    rfl

theorem memberSpan_tree {data rest : Bytes} {w : Space} {o : Tree .object} (key : String)
    (h : data = w.1 ++ (o.text ++ rest)) :
    memberSpan data key
      = (Reads.found intMax (text key) (o.placed w.1.length)).mapError .stopped := by
  have hopen : ∃ t, o.text = 0x7B :: t := by cases o <;> exact ⟨_, rfl⟩
  obtain ⟨t, ht⟩ := hopen
  have hstart : findFirstNotOfWs data = some w.1.length := by
    rw [h, ht]
    exact findFirstNotOfWs_at (by decide) w.2
  have hdrop : data.drop w.1.length = o.text ++ rest := by rw [h, List.drop_left]
  rw [memberSpan, hstart]
  exact congrArg (Except.mapError _) (Reads.findTopLevelMemberSpan_tree (text key)
    data.length.lt_succ_self (by decide) hdrop)

theorem lookup_reverse {members : Fields} (h : members.Pairwise fun a b => a.1 < b.1)
    (key : String) : members.reverse.lookup key = members.lookup key := by
  have hupdate := Json.lookup_update key members []
  rw [Json.update_sorted (by simpa using h), List.nil_append] at hupdate
  rw [hupdate]
  exact Option.or_none.symm

theorem payloadKey_mem (choice : PduChoice) : payloadKey choice ∈ envelopeKeys := by
  cases choice <;> simp [payloadKey, envelopeKeys]

theorem ne_payloadKey (h : SoundFields fmt fields) (choice : PduChoice) :
    ∀ m ∈ envelope pdu fields, m.1 ≠ payloadKey choice := by
  intro m hm
  rcases Json.mem_of_mem_update hm with hm | hm
  · exact fun he => (h m hm).1 (List.mem_cons_of_mem _ (he ▸ payloadKey_mem choice))
  · rcases Json.mem_of_mem_update hm with hm | hm
    · simp only [List.mem_cons, List.not_mem_nil, or_false] at hm
      rcases hm with rfl | rfl | rfl <;> cases choice <;> simp [payloadKey]
    · cases hm

theorem lookup_eq_none {members : Fields} (h : ∀ m ∈ members, m.1 ≠ key) :
    members.lookup key = none := by
  rw [List.lookup_eq_none_iff]
  intro m hm
  simpa using (h m hm).symm

theorem lookup_inserted {pre post : Fields} {inserted : String} (hpost : ∀ m ∈ post, m.1 ≠ inserted)
    :
    (Json.update [] (pre ++ (inserted, j) :: post)).lookup inserted = some j := by
  have hnone : post.reverse.lookup inserted = none :=
    lookup_eq_none fun m hm => hpost m (List.mem_reverse.mp hm)
  rw [Json.lookup_update, List.reverse_append, List.reverse_cons, List.lookup_append,
    List.lookup_append, hnone]
  simp

theorem lookup_update_inserted {pre post : Fields} {inserted key : String}
    (h : (pre ++ post).Pairwise fun a b => a.1 < b.1) (hkey : key ≠ inserted) :
    (Json.update [] (pre ++ (inserted, j) :: post)).lookup key = (pre ++ post).lookup key := by
  rw [Json.lookup_update, ← lookup_reverse h, List.reverse_append, List.reverse_append,
    List.reverse_cons, List.lookup_append, List.lookup_append, List.lookup_append,
    Json.lookup_cons_eq, if_neg hkey]
  simp

namespace Spliced

variable {pdu : Pdu} {raw bytes : Bytes} {v : Visited} {pre post : Fields} {j : Json}

theorem ne_key (hlib : lib.Follows fmt) (h : Spliced lib fmt pdu raw bytes v pre post j) :
    ∀ m ∈ pre ++ post, m.1 ≠ payloadKey pdu.choice :=
  h.split ▸ ne_payloadKey (visit_sound hlib h.visited) pdu.choice

theorem held (hlib : lib.Follows fmt) (h : Spliced lib fmt pdu raw bytes v pre post j) :
    HeldMembers fmt (pre ++ post) := by
  have hobj := held_envelope (visit_sound hlib h.visited) h.utf8
  rw [Held, h.split] at hobj
  exact hobj.2

theorem isEnvelope (hlib : lib.Follows fmt) (h : Spliced lib fmt pdu raw bytes v pre post j) :
    IsEnvelope pdu v.fields
      (Json.update [] (pre ++ (payloadKey pdu.choice, j) :: post)) := by
  have henv := isEnvelope_envelope pdu (visit_sound hlib h.visited)
  have hlookup : ∀ key, key ≠ payloadKey pdu.choice →
      (Json.update [] (pre ++ (payloadKey pdu.choice, j) :: post)).lookup key
        = (envelope pdu v.fields).lookup key := fun key hkey => by
    rw [h.split]
    exact lookup_update_inserted (h.split ▸ pairwise_envelope pdu v.fields) hkey
  refine ⟨?_, ?_, ?_, ?_, fun key hkey => ?_⟩
  · rw [hlookup _ (by cases pdu.choice <;> simp [payloadKey]), henv.type]
  · rw [hlookup _ (by cases pdu.choice <;> simp [payloadKey]), henv.id]
  · rw [hlookup _ (by cases pdu.choice <;> simp [payloadKey]), henv.timestamp]
  · rw [hlookup _ (by cases pdu.choice <;> simp [payloadKey]), henv.data]
  · rw [hlookup key fun he => hkey (he ▸ payloadKey_mem pdu.choice), henv.agrees key hkey]

/-- The scanner finds the payload, without the white space around it, unless it is too deep. -/
theorem memberSpan (hlib : lib.Follows fmt) (h : Spliced lib fmt pdu raw bytes v pre post j)
    (hpayload : pdu.choice.payload = some raw) (htext : Json.IsText fmt j raw) :
    ∃ s, span bytes s = stripWs raw
      ∧ (¬TooDeep raw → JsonE3Encoder.memberSpan bytes (payloadKey pdu.choice) = .ok (some s))
      ∧ (TooDeep raw →
        JsonE3Encoder.memberSpan bytes (payloadKey pdu.choice) = .error (.stopped .overflow)) := by
  obtain ⟨val, w₁, w₂, t, hw₁, hval, hw₂, rfl, hbytes, hspells⟩ :=
    Json.spells_splice (payloadKey pdu.choice) h.pre_ne (h.held hlib) htext
  have hescape : Json.escape (Json.keyText (payloadKey pdu.choice))
      = text (payloadKey pdu.choice) := by
    cases pdu.choice <;> simp only [payloadKey] <;> decide +kernel
  obtain ⟨tree, rfl, hplaced⟩ := hspells.matches
  have hobject : bytes = noSpace.1 ++ ((Tree.braces tree).text ++ []) := by
    rw [h.bytes_eq, hbytes, List.append_nil]
    rfl
  have hplaced := hplaced 1
  -- the payload among the members, and those before it
  rw [List.map_append, List.map_cons, List.map_map, List.map_eq_append_iff] at hplaced
  obtain ⟨before, behind, hms, hbefore, hbehind⟩ := hplaced
  obtain ⟨m, behind, rfl, hm, -⟩ := List.map_eq_cons_iff.mp hbehind
  obtain ⟨hname, hvalue⟩ := Prod.mk.inj hm
  have hflat : ∀ p ∈ before, p.name ≠ text (payloadKey pdu.choice)
      ∧ p.value.ownNesting ≤ intMax := by
    intro p hp
    obtain ⟨f, hf, heq⟩ := List.mem_map.mp (hbefore ▸ List.mem_map_of_mem hp)
    obtain ⟨hpname, hpvalue⟩ := Prod.mk.inj heq
    have hf := List.mem_append_left post hf
    refine ⟨fun hkey => h.ne_key hlib f hf (Json.escape_keyText_inj ?_), ?_⟩
    · exact hpname.trans (hkey.trans hescape.symm)
    · rw [(flat_envelope hpayload h.visited f (h.split ▸ hf)).ownNesting hpvalue.symm]
      exact Nat.zero_le _
  have hfound := memberSpan_tree (payloadKey pdu.choice) hobject
  have hmembers : (Tree.braces tree).placed noSpace.1.length = before ++ m :: behind := hms
  rw [hmembers, Reads.found_append hflat (hname.trans hescape)] at hfound
  have hdeep := tooDeep_iff ⟨w₁, hw₁⟩ m.value ⟨w₂, hw₂⟩
  rw [hvalue] at hdeep
  have hstart : bytes.drop 0 = (Tree.braces tree).text ++ [] := hobject
  have hspan := span_object hstart m
    (show m ∈ tree.placed 1 from hms ▸ List.mem_append_right before List.mem_cons_self)
  refine ⟨m.span, ?_, fun hnot => ?_, fun hyes => ?_⟩
  · rw [hspan, hvalue, stripWs_spells hw₁ hval hw₂]
  · rw [hfound, if_pos (not_lt.mp fun hlt => hnot (hdeep.mpr hlt))]
    rfl
  · rw [hfound, if_neg (hdeep.mp hyes).not_ge]
    rfl

/-- A payload that is JSON where it stands is read back, or makes the scanner overflow. -/
theorem decode_eq (hlib : lib.Follows fmt) (h : Spliced lib fmt pdu raw bytes v pre post j)
    (htype : pdu.type = pdu.choice.type) (hpayload : pdu.choice.payload = some raw)
    (hzero : 0 ∉ raw) (hbom : ¬Json.bom <+: raw) :
    (¬TooDeep raw →
        decode lib truncate bytes = .ok { pdu with choice := readBack lib pdu.choice })
      ∧ (TooDeep raw → decode lib truncate bytes = .error (.stopped .overflow)) := by
  have htext := hlib.isText h.parsed
  rw [Json.takeWhile_ne_zero hzero, Json.skipBom, if_neg hbom] at htext
  have hparse := hlib.parse_isText
    (Json.isText_splice (payloadKey pdu.choice) h.pre_ne (h.held hlib) htext)
  rw [← h.bytes_eq] at hparse
  have hne : bytes ≠ [] := by rw [h.bytes_eq]; exact List.cons_ne_nil _ _
  obtain ⟨s, hs, hfound, hdeep⟩ := h.memberSpan hlib hpayload htext
  -- what is read, from where the scanner finds the payload
  have hread : ∀ place : Except Fault (ℕ × ℕ),
      JsonE3Encoder.memberSpan bytes (payloadKey pdu.choice) = place.map some →
      (∀ s, place = .ok s → span bytes s = stripWs raw) →
      decode lib truncate bytes
        = place.map fun _ => { pdu with choice := readBack lib pdu.choice } := by
    intro place hplace hspan
    rw [decode, if_neg hne, hparse]
    refine (decodeRoot_envelope bytes (h.isEnvelope hlib)).trans ?_
    rw [htype, decodeChoice_visit place hlib h.visited (h.isEnvelope hlib).agrees
      (fun raw' hraw' => ?_) (fun hnone => by rw [hpayload] at hnone; cases hnone)]
    · cases place <;> rfl
    · obtain rfl := Option.some.inj (hpayload.symm.trans hraw')
      exact ⟨hplace, hspan, fun hchoice => ⟨j, lookup_inserted fun m hm =>
        h.ne_key hlib m (List.mem_append_right pre hm), h.container hchoice⟩⟩
  refine ⟨fun hnot => hread (.ok s) (hfound hnot) ?_,
    fun hyes => hread (.error (.stopped .overflow)) (hdeep hyes) ?_⟩
  · rintro _ ⟨⟩
    exact hs
  · rintro _ ⟨⟩

theorem decode_error (hlib : lib.Follows fmt) (h : Spliced lib fmt pdu raw bytes v pre post j)
    (hbad : 0 ∈ raw ∨ Json.bom <+: raw) : decode lib truncate bytes = .error .decodeFailed := by
  have hparse := hlib.parse_splice (payloadKey pdu.choice) h.pre_ne (h.held hlib) h.parsed hbad
  have hne : bytes ≠ [] := by rw [h.bytes_eq]; exact List.cons_ne_nil _ _
  rw [decode, if_neg hne, h.bytes_eq, hparse]

end Spliced

/-! ## The round trip -/

theorem visit_plain {choice : PduChoice} (hpayload : choice.payload = none)
    (hv : visit lib choice = some v) : v.rawProtocolData = none ∧ v.rawMember = none := by
  cases choice with
  | setupResponse resp =>
    obtain ⟨fields, -, rfl⟩ := Option.map_eq_some_iff.mp hv
    exact ⟨rfl, rfl⟩
  | indicationMessage msg => cases hpayload
  | dappControlAction action => cases hpayload
  | dappReport report => cases hpayload
  | xappControlAction action => cases hpayload
  | _ =>
    obtain rfl := Option.some.inj hv
    exact ⟨rfl, rfl⟩

theorem decode_envelope (hlib : lib.Follows fmt) {bytes : Bytes}
    (htype : pdu.type = pdu.choice.type) (hpayload : pdu.choice.payload = none)
    (h : encode lib pdu = some bytes) :
    decode lib truncate bytes = .ok { pdu with choice := readBack lib pdu.choice } := by
  obtain ⟨v, json, hv, hutf8, hjson, rfl⟩ := encode_some h
  have hsound := visit_sound hlib hv
  obtain ⟨hdata, hmember⟩ := visit_plain hpayload hv
  have henv := isEnvelope_envelope pdu hsound
  rw [hdata] at hjson
  obtain rfl := Option.some.inj hjson
  rw [hmember]
  have hparse := hlib.parse_text (held_envelope hsound hutf8)
  have hne : lib.text (.obj (envelope pdu v.fields)) ≠ [] := by
    rw [hlib.text_eq, write_obj]
    exact List.cons_ne_nil _ _
  rw [appendRawMember, decode, if_neg hne, hparse]
  refine (decodeRoot_envelope _ henv).trans ?_
  rw [htype, decodeChoice_visit (.ok (0, 0)) hlib hv henv.agrees
    (fun raw hraw => by simp [hpayload] at hraw) fun _ => ⟨_, rfl⟩]
  rfl

/-- A payload is JSON where it stands, and no deeper than an `int` counts. -/
def Plain (raw : Bytes) : Prop := 0 ∉ raw ∧ ¬Json.bom <+: raw ∧ ¬TooDeep raw

theorem decode_of_plain (hlib : lib.Follows fmt) {bytes : Bytes}
    (htype : pdu.type = pdu.choice.type) (h : encode lib pdu = some bytes)
    (hplain : ∀ raw ∈ pdu.choice.payload, Plain raw) :
    decode lib truncate bytes = .ok { pdu with choice := readBack lib pdu.choice } := by
  rcases hpayload : pdu.choice.payload with _ | raw
  · exact decode_envelope hlib htype hpayload h
  · obtain ⟨v, pre, post, j, hspliced⟩ := encode_spliced hlib hpayload h
    obtain ⟨hzero, hbom, hdeep⟩ := hplain raw hpayload
    exact (hspliced.decode_eq hlib htype hpayload hzero hbom).1 hdeep

/-- A message that `encode` accepts is read back, every field of it, exactly when its payload has
no zero byte, does not start with a byte order mark and opens no more brackets at once than an `int`
counts: `encode` checks the payload as a text of its own, where all three are let through, and
inserts it into the text of the message. -/
theorem decode_encode_iff (hlib : lib.Follows fmt) {pdu : Pdu} {bytes : Bytes}
    (htype : pdu.type = pdu.choice.type) (h : encode lib pdu = some bytes) :
    decode lib truncate bytes = .ok { pdu with choice := readBack lib pdu.choice }
      ↔ ∀ raw ∈ pdu.choice.payload, Plain raw := by
  refine ⟨fun hok raw hraw => ?_, decode_of_plain hlib htype h⟩
  obtain ⟨v, pre, post, j, hspliced⟩ := encode_spliced hlib hraw h
  have hgood : ¬(0 ∈ raw ∨ Json.bom <+: raw) := fun hbad => by
    rw [hspliced.decode_error hlib hbad] at hok
    cases hok
  obtain ⟨hzero, hbom⟩ := not_or.mp hgood
  refine ⟨hzero, hbom, fun hdeep => ?_⟩
  rw [(hspliced.decode_eq hlib htype hraw hzero hbom).2 hdeep] at hok
  cases hok

def paddedControl : Pdu where
  type := .dappControlAction
  choice := .dappControlAction { dappIdentifier := 1, actionData := text " \x7b\"a\": 1\x7d " }
  messageId := 7

theorem padded_control_read_back :
    ∃ bytes, encode (Json.reference Json.noFloats) paddedControl = some bytes
      ∧ decode (Json.reference Json.noFloats) Json.noFloats.truncate bytes
        = .ok { paddedControl with
            choice := readBack (Json.reference Json.noFloats) paddedControl.choice } := by
  have hsome : (encode (Json.reference Json.noFloats) paddedControl).isSome = true := by
    decide +kernel
  obtain ⟨bytes, h⟩ := Option.isSome_iff_exists.mp hsome
  refine ⟨bytes, h, (decode_encode_iff (Json.reference_follows Json.noFloats) rfl h).mpr ?_⟩
  intro raw hraw
  obtain rfl := Option.some.inj hraw
  refine ⟨by decide +kernel, by decide +kernel, fun hdeep => absurd hdeep.lt_length ?_⟩
  decide +kernel

def markedIndication : Pdu where
  type := .indicationMessage
  choice := .indicationMessage { protocolData := Json.bom ++ text "\x7b\x7d" }

/-- The mark is let through by `encode`, which then writes what `decode` rejects. -/
theorem marked_indication_lost :
    ∃ bytes, encode (Json.reference Json.noFloats) markedIndication = some bytes
      ∧ decode (Json.reference Json.noFloats) Json.noFloats.truncate bytes
        = .error .decodeFailed :=
  ⟨text ("\x7b\"dAppIdentifier\":0,\"id\":0,\"protocolData\":")
      ++ (Json.bom ++ text "\x7b\x7d")
      ++ text ",\"ranFunctionIdentifier\":0,\"timestamp\":0,\"type\":\"indicationMessage\"\x7d",
    by decide +kernel, by decide +kernel⟩

end JsonE3Encoder

end LibE3
