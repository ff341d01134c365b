import LibE3.Lib.JsonRationals
import LibE3.Proofs.JsonPayload

/-!
# The integers of a message

The JSON library converts a number with a cast. So `decode` takes a number that is negative or too
large modulo the size of the field, a number with a fraction without it, and a boolean for zero or
one. A field has the number that is in the text exactly if this is a natural number that the field
can hold; above `2 ^ 53`, where a number that is not written as an integer is rounded, the library
has to hold it as well.
-/

namespace LibE3

namespace JsonE3Encoder

open Json (Spells Writes)
open Partial

/-! ## The integers -/

/-- The members with an integer, and the fields they are read into. -/
def scalars : PduChoice → List (String × Option UInt32)
  | .setupRequest _ => []
  | .setupResponse resp =>
    [("requestId", some resp.requestId), ("dAppIdentifier", resp.dappIdentifier)]
  | .subscriptionRequest req =>
    [("dAppIdentifier", some req.dappIdentifier),
      ("ranFunctionIdentifier", some req.ranFunctionIdentifier),
      ("subscriptionTime", req.subscriptionTime), ("periodicity", req.periodicity)]
  | .subscriptionDelete del =>
    [("dAppIdentifier", some del.dappIdentifier), ("subscriptionId", some del.subscriptionId)]
  | .subscriptionResponse resp =>
    [("requestId", some resp.requestId), ("dAppIdentifier", some resp.dappIdentifier),
      ("subscriptionId", resp.subscriptionId),
      ("ranFunctionIdentifier", resp.ranFunctionIdentifier), ("periodicity", resp.periodicity)]
  | .indicationMessage msg =>
    [("dAppIdentifier", some msg.dappIdentifier),
      ("ranFunctionIdentifier", some msg.ranFunctionIdentifier)]
  | .dappControlAction action =>
    [("dAppIdentifier", some action.dappIdentifier),
      ("ranFunctionIdentifier", some action.ranFunctionIdentifier),
      ("controlIdentifier", some action.controlIdentifier), ("sequenceId", some action.sequenceId)]
  | .dappReport report =>
    [("dAppIdentifier", some report.dappIdentifier),
      ("ranFunctionIdentifier", some report.ranFunctionIdentifier),
      ("sequenceId", some report.sequenceId)]
  | .xappControlAction action =>
    [("dAppIdentifier", some action.dappIdentifier),
      ("ranFunctionIdentifier", some action.ranFunctionIdentifier),
      ("sequenceId", some action.sequenceId)]
  | .releaseMessage msg => [("dAppIdentifier", some msg.dappIdentifier)]
  | .messageAck ack => [("requestId", some ack.requestId)]

def idsName (root : Fields) (name otherName : String) : String :=
  if (root.lookup name).isSome then name else otherName

/-- The members with a list of integers, and the fields they are read into. -/
def idLists (root : Fields) : PduChoice → List (String × Option (List UInt32))
  | .subscriptionRequest req =>
    [("telemetryIdentifierList", some req.telemetryIdentifierList),
      ("controlIdentifierList", some req.controlIdentifierList)]
  | .subscriptionResponse resp =>
    [(idsName root "telemetryIdentifierList" "telemetryGrantedList", resp.telemetryIdentifierList),
      (idsName root "controlIdentifierList" "controlGrantedList", resp.controlIdentifierList)]
  | _ => []

section

/-! A property of an integer of the PDU: the bits of its field, the value of the member it is read
from, and the integer itself. -/

variable (P : ℕ → Json → ℕ → Prop)

def OfScalar (root : Fields) (f : String × Option UInt32) : Prop :=
  ∀ j ∈ root.lookup f.1, ∃ v ∈ f.2, P 32 j v.toNat

def OfIds (root : Fields) (f : String × Option (List UInt32)) : Prop :=
  ∀ j ∈ root.lookup f.1, ∃ elems, j = .arr elems ∧ ∃ ids ∈ f.2,
    List.Forall₂ (fun e v => P 32 e v.toNat) elems ids

def OfFunction (j : Json) (func : RanFunctionDef) : Prop :=
  ∃ funcObj, j = .obj funcObj
    ∧ OfScalar P funcObj ("ranFunctionIdentifier", some func.ranFunctionIdentifier)
    ∧ OfIds P funcObj ("telemetryIdentifierList", some func.telemetryIdentifierList)
    ∧ OfIds P funcObj ("controlIdentifierList", some func.controlIdentifierList)

structure OfChoice (root : Fields) (choice : PduChoice) : Prop where
  scalars : ∀ f ∈ scalars choice, OfScalar P root f
  idLists : ∀ f ∈ idLists root choice, OfIds P root f
  functions : ∀ resp, choice = .setupResponse resp → ∀ j ∈ root.lookup "ranFunctionList",
    List.Forall₂ (OfFunction P) (iterate j) resp.ranFunctionList

/-- The property holds of every integer that is read from the object. -/
structure Integers (root : Fields) (pdu : Pdu) : Prop where
  messageId : ∀ j ∈ root.lookup "id", P 32 j pdu.messageId.toNat
  timestamp : ∀ j ∈ root.lookup "timestamp", P 64 j pdu.timestamp.toNat
  choice : OfChoice P root pdu.choice

end

section

variable {P Q : ℕ → Json → ℕ → Prop} {root : Fields}

theorem OfScalar.imp (hpq : ∀ {bits j v}, P bits j v → Q bits j v) {f : String × Option UInt32}
    (h : OfScalar P root f) : OfScalar Q root f := fun j hj =>
  let ⟨v, hv, hp⟩ := h j hj
  ⟨v, hv, hpq hp⟩

theorem OfIds.imp (hpq : ∀ {bits j v}, P bits j v → Q bits j v)
    {f : String × Option (List UInt32)} (h : OfIds P root f) : OfIds Q root f := fun j hj =>
  let ⟨elems, helems, ids, hids, hp⟩ := h j hj
  ⟨elems, helems, ids, hids, hp.imp fun _ _ => hpq⟩

theorem OfFunction.imp (hpq : ∀ {bits j v}, P bits j v → Q bits j v) {j : Json}
    {func : RanFunctionDef} (h : OfFunction P j func) : OfFunction Q j func :=
  let ⟨funcObj, hobj, hid, htelemetry, hcontrol⟩ := h
  ⟨funcObj, hobj, hid.imp hpq, htelemetry.imp hpq, hcontrol.imp hpq⟩

theorem Integers.imp (hpq : ∀ {bits j v}, P bits j v → Q bits j v) {pdu : Pdu}
    (h : Integers P root pdu) : Integers Q root pdu where
  messageId j hj := hpq (h.messageId j hj)
  timestamp j hj := hpq (h.timestamp j hj)
  choice := {
    scalars := fun f hf => (h.choice.scalars f hf).imp hpq
    idLists := fun f hf => (h.choice.idLists f hf).imp hpq
    functions := fun resp hresp j hj =>
      (h.choice.functions resp hresp j hj).imp fun _ _ hfunc => hfunc.imp hpq }

end

/-! ## What is read is cast -/

variable {lib : Json.Library} {fmt : Json.FloatFormat} {truncate : UInt64 → ℤ}
  {root : Fields} {rawJson : Bytes}

/-- The integer is the value of the member, cast to the field. -/
def Cast (truncate : UInt64 → ℤ) (bits : ℕ) (j : Json) (v : ℕ) : Prop :=
  ∃ i, getInteger truncate j = .ok i ∧ (v : ℤ) = i % 2 ^ bits

theorem cast_of_getUInt32 {j : Json} {v : UInt32} (h : getUInt32 truncate j = .ok v) :
    Cast truncate 32 j v.toNat := by
  obtain ⟨i, hi, rfl⟩ := map_eq_ok.mp h
  refine ⟨i, hi, ?_⟩
  simp only [UInt32.ofInt, UInt32.toNat_ofNat']
  omega

theorem cast_of_getUInt64 {j : Json} {v : UInt64} (h : getUInt64 truncate j = .ok v) :
    Cast truncate 64 j v.toNat := by
  obtain ⟨i, hi, rfl⟩ := map_eq_ok.mp h
  refine ⟨i, hi, ?_⟩
  simp only [UInt64.ofInt, UInt64.toNat_ofNat']
  omega

section

variable {α : Type} {d a : α} {get : Json → Except Fault α} {key : String}

theorem get_of_valueOr (h : valueOr root key d get = .ok a) :
    ∀ j ∈ root.lookup key, get j = .ok a := by
  intro j hj
  rwa [valueOr, Option.mem_def.mp hj] at h

theorem get_of_valueIfPresent {o : Option α} (h : valueIfPresent root key get = .ok o) :
    ∀ j ∈ root.lookup key, ∃ a, get j = .ok a ∧ some a = o := by
  intro j hj
  rw [valueIfPresent, Option.mem_def.mp hj] at h
  exact map_eq_ok.mp h

end

theorem ofScalar_of_valueOr {key : String} {d v : UInt32}
    (h : valueOr root key d (getUInt32 truncate) = .ok v) :
    OfScalar (Cast truncate) root (key, some v) := fun j hj =>
  ⟨v, rfl, cast_of_getUInt32 (get_of_valueOr h j hj)⟩

theorem ofScalar_of_valueIfPresent {key : String} {o : Option UInt32}
    (h : valueIfPresent root key (getUInt32 truncate) = .ok o) :
    OfScalar (Cast truncate) root (key, o) := by
  intro j hj
  obtain ⟨v, hv, rfl⟩ := get_of_valueIfPresent h j hj
  exact ⟨v, rfl, cast_of_getUInt32 hv⟩

theorem cast_of_getIdList {j : Json} {ids : List UInt32} (h : getIdList truncate j = .ok ids) :
    ∃ elems, j = .arr elems ∧
      List.Forall₂ (fun e v => Cast truncate 32 e (UInt32.toNat v)) elems ids := by
  cases j with
  | arr elems => exact ⟨elems, rfl, (mapM_eq_ok.mp h).imp fun _ _ => cast_of_getUInt32⟩
  | _ => cases h

theorem ofIds_of_valueOr {key : String} {d ids : List UInt32}
    (h : valueOr root key d (getIdList truncate) = .ok ids) :
    OfIds (Cast truncate) root (key, some ids) := by
  intro j hj
  obtain ⟨elems, helems, hcast⟩ := cast_of_getIdList (get_of_valueOr h j hj)
  exact ⟨elems, helems, ids, rfl, hcast⟩

theorem ofIds_of_readIds {name otherName : String} {o : Option (List UInt32)}
    (h : readIds truncate root name otherName = .ok o) :
    OfIds (Cast truncate) root (idsName root name otherName, o) := by
  intro j hj
  unfold readIds at h
  unfold idsName at hj
  cases hname : root.lookup name with
  | none =>
    rw [hname] at h hj
    obtain ⟨ids, hids, rfl⟩ := get_of_valueIfPresent h j hj
    obtain ⟨elems, helems, hcast⟩ := cast_of_getIdList hids
    exact ⟨elems, helems, ids, rfl, hcast⟩
  | some k =>
    rw [hname, Option.isSome_some, if_pos rfl, hname] at hj
    rw [hname] at h
    obtain rfl := Option.some.inj hj
    obtain ⟨ids, hids, rfl⟩ := map_eq_ok.mp h
    obtain ⟨elems, helems, hcast⟩ := cast_of_getIdList hids
    exact ⟨elems, helems, ids, rfl, hcast⟩

theorem ofFunction_of_decodeRanFunction {j : Json} {func : RanFunctionDef}
    (h : decodeRanFunction lib truncate j = .ok func) : OfFunction (Cast truncate) j func := by
  cases j with
  | obj funcObj =>
    obtain ⟨_, hid, h⟩ := bind_eq_ok.mp h
    obtain ⟨_, htelemetry, h⟩ := bind_eq_ok.mp h
    obtain ⟨_, hcontrol, h⟩ := bind_eq_ok.mp h
    obtain ⟨_, -, h⟩ := bind_eq_ok.mp h
    obtain rfl := Except.ok.inj h
    exact ⟨funcObj, rfl, ofScalar_of_valueOr hid, ofIds_of_valueOr htelemetry,
      ofIds_of_valueOr hcontrol⟩
  | _ => cases h

theorem ofChoice_of_ne {P : ℕ → Json → ℕ → Prop} {choice : PduChoice}
    (hresp : choice.type ≠ .setupResponse) (hscalars : ∀ f ∈ scalars choice, OfScalar P root f)
    (hids : ∀ f ∈ idLists root choice, OfIds P root f) : OfChoice P root choice where
  scalars := hscalars
  idLists := hids
  functions := by
    rintro resp rfl
    exact absurd rfl hresp

theorem ofChoice_of_scalars {P : ℕ → Json → ℕ → Prop} {choice : PduChoice}
    (hresp : choice.type ≠ .setupResponse) (hids : idLists root choice = [])
    (hscalars : ∀ f ∈ scalars choice, OfScalar P root f) : OfChoice P root choice :=
  ofChoice_of_ne hresp hscalars (by simp [hids])

theorem ofChoice_of_decodeChoice {pduType : PduType} {choice : PduChoice}
    (h : decodeChoice lib truncate root rawJson pduType = .ok choice) :
    OfChoice (Cast truncate) root choice := by
  cases pduType with
  | setupRequest =>
    obtain ⟨req, -, rfl⟩ := map_eq_ok.mp h
    exact ofChoice_of_scalars nofun rfl (by simp [scalars])
  | setupResponse =>
    obtain ⟨resp, hread, rfl⟩ := map_eq_ok.mp h
    obtain ⟨_, hrequest, hread⟩ := bind_eq_ok.mp hread
    obtain ⟨_, -, hread⟩ := bind_eq_ok.mp hread
    obtain ⟨_, -, hread⟩ := bind_eq_ok.mp hread
    obtain ⟨_, hdapp, hread⟩ := bind_eq_ok.mp hread
    obtain ⟨_, -, hread⟩ := bind_eq_ok.mp hread
    obtain ⟨_, hfuncs, hread⟩ := bind_eq_ok.mp hread
    obtain rfl := Except.ok.inj hread
    refine ⟨?_, by simp [idLists], ?_⟩
    · simp only [scalars, List.forall_mem_cons]
      exact ⟨ofScalar_of_valueOr hrequest, ofScalar_of_valueIfPresent hdapp, nofun⟩
    · rintro resp heq j hj
      obtain rfl := PduChoice.setupResponse.inj heq
      exact (mapM_eq_ok.mp (get_of_valueOr hfuncs j hj)).imp fun _ _ =>
        ofFunction_of_decodeRanFunction
  | subscriptionRequest =>
    obtain ⟨req, hread, rfl⟩ := map_eq_ok.mp h
    obtain ⟨_, hdapp, hread⟩ := bind_eq_ok.mp hread
    obtain ⟨_, hran, hread⟩ := bind_eq_ok.mp hread
    obtain ⟨_, htelemetry, hread⟩ := bind_eq_ok.mp hread
    obtain ⟨_, hcontrol, hread⟩ := bind_eq_ok.mp hread
    obtain ⟨_, htime, hread⟩ := bind_eq_ok.mp hread
    obtain ⟨_, hperiodicity, hread⟩ := bind_eq_ok.mp hread
    obtain rfl := Except.ok.inj hread
    refine ofChoice_of_ne nofun ?_ ?_
    · simp only [scalars, List.forall_mem_cons]
      exact ⟨ofScalar_of_valueOr hdapp, ofScalar_of_valueOr hran,
        ofScalar_of_valueIfPresent htime, ofScalar_of_valueIfPresent hperiodicity, nofun⟩
    · simp only [idLists, List.forall_mem_cons]
      exact ⟨ofIds_of_valueOr htelemetry, ofIds_of_valueOr hcontrol, nofun⟩
  | subscriptionDelete =>
    obtain ⟨del, hread, rfl⟩ := map_eq_ok.mp h
    obtain ⟨_, hdapp, hread⟩ := bind_eq_ok.mp hread
    obtain ⟨_, hsubscription, hread⟩ := bind_eq_ok.mp hread
    obtain rfl := Except.ok.inj hread
    refine ofChoice_of_scalars nofun rfl ?_
    simp only [scalars, List.forall_mem_cons]
    exact ⟨ofScalar_of_valueOr hdapp, ofScalar_of_valueOr hsubscription, nofun⟩
  | subscriptionResponse =>
    obtain ⟨resp, hread, rfl⟩ := map_eq_ok.mp h
    obtain ⟨_, hrequest, hread⟩ := bind_eq_ok.mp hread
    obtain ⟨_, hdapp, hread⟩ := bind_eq_ok.mp hread
    obtain ⟨_, -, hread⟩ := bind_eq_ok.mp hread
    obtain ⟨_, hsubscription, hread⟩ := bind_eq_ok.mp hread
    obtain ⟨_, htelemetry, hread⟩ := bind_eq_ok.mp hread
    obtain ⟨_, hcontrol, hread⟩ := bind_eq_ok.mp hread
    obtain ⟨_, hran, hread⟩ := bind_eq_ok.mp hread
    obtain ⟨_, hperiodicity, hread⟩ := bind_eq_ok.mp hread
    obtain rfl := Except.ok.inj hread
    refine ofChoice_of_ne nofun ?_ ?_
    · simp only [scalars, List.forall_mem_cons]
      exact ⟨ofScalar_of_valueOr hrequest, ofScalar_of_valueOr hdapp,
        ofScalar_of_valueIfPresent hsubscription, ofScalar_of_valueIfPresent hran,
        ofScalar_of_valueIfPresent hperiodicity, nofun⟩
    · simp only [idLists, List.forall_mem_cons]
      exact ⟨ofIds_of_readIds htelemetry, ofIds_of_readIds hcontrol, nofun⟩
  | indicationMessage =>
    obtain ⟨msg, hread, rfl⟩ := map_eq_ok.mp h
    obtain ⟨hdapp, hran, -⟩ := decodeIndicationMessage_ok hread
    refine ofChoice_of_scalars nofun rfl ?_
    simp only [scalars, List.forall_mem_cons]
    exact ⟨ofScalar_of_valueOr hdapp, ofScalar_of_valueOr hran, nofun⟩
  | dappControlAction =>
    obtain ⟨action, hread, rfl⟩ := map_eq_ok.mp h
    obtain ⟨hdapp, hran, hcontrol, hsequence, -⟩ := decodeDappControlAction_ok hread
    refine ofChoice_of_scalars nofun rfl ?_
    simp only [scalars, List.forall_mem_cons]
    exact ⟨ofScalar_of_valueOr hdapp, ofScalar_of_valueOr hran, ofScalar_of_valueOr hcontrol,
      ofScalar_of_valueOr hsequence, nofun⟩
  | dappReport =>
    obtain ⟨report, hread, rfl⟩ := map_eq_ok.mp h
    obtain ⟨hdapp, hran, hsequence, -⟩ := decodeDappReport_ok hread
    refine ofChoice_of_scalars nofun rfl ?_
    simp only [scalars, List.forall_mem_cons]
    exact ⟨ofScalar_of_valueOr hdapp, ofScalar_of_valueOr hran, ofScalar_of_valueOr hsequence,
      nofun⟩
  | xappControlAction =>
    obtain ⟨action, hread, rfl⟩ := map_eq_ok.mp h
    obtain ⟨hdapp, hran, hsequence, -⟩ := decodeXappControlAction_ok hread
    refine ofChoice_of_scalars nofun rfl ?_
    simp only [scalars, List.forall_mem_cons]
    exact ⟨ofScalar_of_valueOr hdapp, ofScalar_of_valueOr hran, ofScalar_of_valueOr hsequence,
      nofun⟩
  | releaseMessage =>
    obtain ⟨msg, hread, rfl⟩ := map_eq_ok.mp h
    obtain ⟨_, hdapp, hread⟩ := bind_eq_ok.mp hread
    obtain rfl := Except.ok.inj hread
    refine ofChoice_of_scalars nofun rfl ?_
    simp only [scalars, List.forall_mem_cons]
    exact ⟨ofScalar_of_valueOr hdapp, nofun⟩
  | messageAck =>
    obtain ⟨ack, hread, rfl⟩ := map_eq_ok.mp h
    obtain ⟨_, hrequest, hread⟩ := bind_eq_ok.mp hread
    obtain ⟨_, -, hread⟩ := bind_eq_ok.mp hread
    obtain rfl := Except.ok.inj hread
    refine ofChoice_of_scalars nofun rfl ?_
    simp only [scalars, List.forall_mem_cons]
    exact ⟨ofScalar_of_valueOr hrequest, nofun⟩

theorem IsRead.cast {pdu : Pdu} (h : IsRead lib truncate root rawJson pdu) :
    Integers (Cast truncate) root pdu where
  messageId j hj := cast_of_getUInt32 (get_of_valueOr h.messageId j hj)
  timestamp j hj := cast_of_getUInt64 (get_of_valueOr h.timestamp j hj)
  choice := ofChoice_of_decodeChoice h.choice

/-! ## The number in the text -/

/-- The text is of a natural number that the field can hold, and above `2 ^ 53` the library. -/
def Fits (fmt : Json.FloatFormat) (bits : ℕ) (j : Json) (t : Bytes) : Prop :=
  ∃ k : ℕ, k < 2 ^ bits ∧ Writes t k ∧ (2 ^ 53 < k → getInteger fmt.truncate j = .ok (k : ℤ))

theorem integer_of_numeral (hrounds : fmt.Rounds) {n : Json.Numeral} {j : Json} {i : ℤ}
    (hn : n.Valid) (hvalue : n.value fmt = some j) (hi : getInteger fmt.truncate j = .ok i) :
    (∀ k : ℤ, Json.IsDouble k → n.rational ≤ k → i ≤ k) ∧
      (∀ k : ℤ, Json.IsDouble k → k ≤ n.rational → k ≤ i) := by
  obtain ⟨k, rfl, hq⟩ | ⟨z, rfl, hq⟩ | ⟨b, rfl, hb⟩ := Json.Numeral.value_cases hvalue
  · obtain rfl := Except.ok.inj hi
    rw [hq]
    exact ⟨fun k _ hk => by exact_mod_cast hk, fun k _ hk => by exact_mod_cast hk⟩
  · obtain rfl := Except.ok.inj hi
    rw [hq]
    exact ⟨fun k _ hk => by exact_mod_cast hk, fun k _ hk => by exact_mod_cast hk⟩
  · obtain rfl := Except.ok.inj hi
    exact ⟨fun k hk => hrounds.truncate_le hn hb hk, fun k hk => hrounds.le_truncate hn hb hk⟩

/-- An integer that is cast from a member is the number in its text exactly if this fits. -/
theorem writes_iff_fits (hrounds : fmt.Rounds) {bits v : ℕ} {j : Json}
    (hcast : Cast fmt.truncate bits j v) {t : Bytes} (ht : Spells fmt (.value j) t) :
    Writes t v ↔ Fits fmt bits j t := by
  obtain ⟨i, hi, hv⟩ := hcast
  have hvlt : v < 2 ^ bits := by
    have hlt := Int.emod_lt_of_pos i (show (0 : ℤ) < 2 ^ bits by positivity)
    rw [← hv] at hlt
    exact_mod_cast hlt
  cases ht with
  | @number n _ hn hvalue =>
    obtain ⟨hle, hge⟩ := integer_of_numeral hrounds hn hvalue hi
    simp only [Fits, Json.writes_text hn, hi, Except.ok.injEq]
    constructor
    · intro hq
      refine ⟨v, hvlt, hq, fun hbig => ?_⟩
      -- neither below zero nor above the size of the field, the integer is its own remainder
      have hpos : 0 ≤ i := hge 0 (Json.isDouble_of_le (k := 0) (by omega)) (by rw [hq]; simp)
      have hmax : i ≤ 2 ^ bits := hle (2 ^ bits) (Json.isDouble_two_pow bits) (by
        rw [hq]
        exact_mod_cast hvlt.le)
      rcases hmax.lt_or_eq with hlt | heq
      · rw [hv, Int.emod_eq_of_lt hpos hlt]
      · rw [heq, Int.emod_self] at hv
        omega
    · rintro ⟨k, hk, hq, hheld⟩
      have hik : i = k := by
        by_cases hbig : 2 ^ 53 < k
        · exact hheld hbig
        · have hdouble := Json.isDouble_of_le (not_lt.mp hbig)
          exact le_antisymm (hle k hdouble (by simp [hq])) (hge k hdouble (by simp [hq]))
      have hvk : (v : ℤ) = k := by
        rw [hv, hik, Int.emod_eq_of_lt (by omega) (by exact_mod_cast hk)]
      rw [hq]
      exact_mod_cast hvk.symm
  | bool b =>
    exact iff_of_false (Json.not_writes_boolText b v)
      fun ⟨k, _, hwrites, _⟩ => Json.not_writes_boolText b k hwrites
  | _ => cases hi

/-- Of a message that is accepted, an integer is the number in the text of its member exactly if
the text is of a number that fits. -/
theorem integers_exact_iff (hrounds : fmt.Rounds) {data : Bytes} {pdu : Pdu}
    (hdecode : decode lib fmt.truncate data = .ok pdu)
    (hroot : lib.parse data = some (.obj root)) :
    Integers (fun bits j v => ∀ t, Spells fmt (.value j) t → (Writes t v ↔ Fits fmt bits j t))
      root pdu := by
  obtain ⟨root', hroot', hread⟩ := isRead_of_decode hdecode
  obtain rfl : root' = root := Json.obj.inj (Option.some.inj (hroot'.symm.trans hroot))
  exact hread.cast.imp fun hcast t ht => writes_iff_fits hrounds hcast ht

def releaseFields : Fields :=
  [("dAppIdentifier", .unsigned 7), ("type", .str (text "releaseMessage"))]

def releaseText : Bytes :=
  text "\x7b\"type\":\"releaseMessage\",\"dAppIdentifier\":7\x7d"

theorem parse_releaseText :
    (Json.reference Json.wholeParts).parse releaseText = some (.obj releaseFields) := by
  refine (Json.reference_follows Json.wholeParts).parse_eq_of_text ?_ (by decide +kernel)
  simp only [releaseFields, Json.Held, Json.HeldMembers]
  decide +kernel

theorem spells_seven : Spells Json.wholeParts (.value (.unsigned 7)) (text "7") := by
  rw [show text "7" = Json.write Json.wholeParts (.unsigned 7) by decide +kernel]
  refine Json.spells_write _ ?_
  rw [Json.Held]
  decide

theorem release_exact :
    decode (Json.reference Json.wholeParts) Json.wholeParts.truncate releaseText
      = .ok { type := .releaseMessage, choice := .releaseMessage { dappIdentifier := 7 } }
    ∧ (Writes (text "7") (7 : ℕ) ↔ Fits Json.wholeParts 32 (.unsigned 7) (text "7")) := by
  have hdecode : decode (Json.reference Json.wholeParts) Json.wholeParts.truncate releaseText
      = .ok { type := .releaseMessage, choice := .releaseMessage { dappIdentifier := 7 } } := by
    decide +kernel
  have hexact := integers_exact_iff Json.wholeParts_rounds hdecode parse_releaseText
  obtain ⟨v, hv, hiff⟩ :=
    hexact.choice.scalars ("dAppIdentifier", some 7) (by simp [scalars]) (.unsigned 7) rfl
  obtain rfl := Option.some.inj hv
  exact ⟨hdecode, hiff (text "7") spells_seven⟩

/-- A number that is too large, one that is negative, one with a fraction, and a boolean. -/
theorem altered_integers :
    decode (Json.reference Json.wholeParts) Json.wholeParts.truncate
        (text ("\x7b\"type\":\"subscriptionDelete\",\"id\":4294967297,\"timestamp\":-1," ++
          "\"dAppIdentifier\":1.5,\"subscriptionId\":true\x7d"))
      = .ok { type := .subscriptionDelete, messageId := 1, timestamp := 18446744073709551615,
              choice := .subscriptionDelete { dappIdentifier := 1, subscriptionId := 1 } } := by
  decide +kernel

end JsonE3Encoder

end LibE3
