import LibE3.Lib.Partial
import LibE3.Lib.Runs
import LibE3.Proofs.Encoders
import LibE3.Proofs.Registry

/-!
# Answering a setup request

The setup response of the RAN lists what its Service Models offer, and the RAN aborts when the
encoder of its format does not take that response.
-/

namespace LibE3

instance (func : RanFunctionDef) : Decidable func.Listable :=
  decidable_of_iff (func.ranFunctionData ≠ [] ∧
      func.ranFunctionData.length ≤ maxProtocolDataSize ∧
      func.telemetryIdentifierList.length ≤ maxIdentifierListSize ∧
      func.controlIdentifierList.length ≤ maxIdentifierListSize)
    ⟨fun ⟨h₁, h₂, h₃, h₄⟩ => ⟨h₁, h₂, h₃, h₄⟩, fun h => ⟨h.1, h.2, h.3, h.4⟩⟩

namespace SmRegistry

variable {r : SmRegistry}

theorem getByRanFunction_congr {r' : SmRegistry} {f : UInt32}
    (hs : r.sms.lookup f = r'.sms.lookup f) (hf : r.factories.lookup f = r'.factories.lookup f) :
    (r.getByRanFunction f).1 = (r'.getByRanFunction f).1 := by
  unfold getByRanFunction
  rw [hs, hf]
  cases r'.sms.lookup f with
  | some sm => rfl
  | none =>
    rcases r'.factories.lookup f with _ | _ | sm
    · rfl
    · rfl
    · simp only
      split_ifs <;> rfl

theorem getByRanFunction_getByRanFunction (r : SmRegistry) (g f : UInt32) :
    ((r.getByRanFunction g).2.getByRanFunction f).1 = (r.getByRanFunction f).1 := by
  cases hs : r.sms.lookup g with
  | some sm => simp only [getByRanFunction, hs]
  | none =>
    rcases hfac : r.factories.lookup g with _ | _ | sm
    · simp only [getByRanFunction, hs, hfac]
    · simp only [getByRanFunction, hs, hfac]
    · by_cases hinit : sm.initResult = .success
      · -- the factory's Service Model is now a registered one
        by_cases hfg : f = g
        · subst hfg
          simp only [getByRanFunction, hs, hfac, hinit, if_true, Finmap.lookup_insert]
        · apply getByRanFunction_congr
          · simp only [getByRanFunction, hs, hfac, hinit, if_true, Finmap.lookup_insert_of_ne _ hfg]
          · simp only [getByRanFunction, hs, hfac, hinit, if_true, Finmap.lookup_erase_ne hfg]
      · simp only [getByRanFunction, hs, hfac, hinit, if_false]

/-- What the Service Model of a RAN function offers, if it has one. -/
def offer (r : SmRegistry) (f : UInt32) : Option RanFunctionDef :=
  (r.getByRanFunction f).1.map fun sm => ⟨f, sm.telemetryIds, sm.controlIds, sm.ranFunctionData⟩

def listing (r : SmRegistry) (f : UInt32) : Option RanFunctionDef :=
  (r.offer f).filter fun func => decide func.Listable

/-- The offers that can be listed, by ascending RAN function. -/
def offers (r : SmRegistry) : List RanFunctionDef :=
  r.getAvailableRanFunctions.filterMap r.listing

theorem listing_getByRanFunction (r : SmRegistry) (g f : UInt32) :
    (r.getByRanFunction g).2.listing f = r.listing f := by
  rw [listing, offer, getByRanFunction_getByRanFunction, listing, offer]

theorem length_getAvailableRanFunctions (r : SmRegistry) :
    r.getAvailableRanFunctions.length = r.size := by
  rw [getAvailableRanFunctions, Multiset.length_sort, Multiset.card_add]
  rfl

theorem mem_getAvailableRanFunctions {f : UInt32} {func : RanFunctionDef}
    (h : r.offer f = some func) : f ∈ r.getAvailableRanFunctions := by
  rw [getAvailableRanFunctions, Multiset.mem_sort, Multiset.mem_add, Finset.mem_val,
    Finset.mem_val, Finmap.mem_keys, Finmap.mem_keys]
  by_contra hnot
  push Not at hnot
  have hs := Finmap.lookup_of_notMem hnot.1
  have hf := Finmap.lookup_of_notMem hnot.2
  simp only [offer, getByRanFunction, hs, hf, Option.map_none] at h
  exact nomatch h

theorem forall_offers {P : RanFunctionDef → Prop} :
    (∀ func ∈ r.offers, P func) ↔
      ∀ f func, r.offer f = some func → func.Listable → P func := by
  simp only [offers, listing, List.mem_filterMap, Option.filter_eq_some_iff, decide_eq_true_eq]
  constructor
  · intro h f func hf hl
    exact h func ⟨f, mem_getAvailableRanFunctions hf, hf, hl⟩
  · rintro h func ⟨f, -, hf, hl⟩
    exact h f func hf hl

theorem length_offers_le (r : SmRegistry) : r.offers.length ≤ r.size := by
  rw [← length_getAvailableRanFunctions]
  exact List.length_filterMap_le _ _

end SmRegistry

namespace Ran

/-- One turn of the loop over the available RAN functions lists the offer if that is possible. -/
theorem advertise_eq {acc : List RanFunctionDef} (registry : SmRegistry) (f : UInt32)
    (hacc : acc.length < maxRanFunctions) :
    advertise (acc, registry) f =
      (acc ++ (registry.listing f).toList, (registry.getByRanFunction f).2) := by
  have hnot : ¬ acc.length ≥ maxRanFunctions := Nat.not_le.mpr hacc
  unfold advertise SmRegistry.listing SmRegistry.offer
  cases hsm : (registry.getByRanFunction f).1 with
  | none => simp [hsm]
  | some sm =>
    simp only [hsm, Option.map_some, if_neg hnot, Option.filter_some, decide_eq_true_eq]
    split_ifs with hdata hl hlists hl hl
    · exact absurd hdata (not_or.mpr ⟨hl.data, Nat.not_lt.mpr hl.dataSize⟩)
    · simp
    · exact absurd hlists (not_or.mpr ⟨Nat.not_lt.mpr hl.telemetry, Nat.not_lt.mpr hl.control⟩)
    · simp
    · simp
    · rw [not_or, Nat.not_lt] at hdata hlists
      exact absurd ⟨hdata.1, hdata.2, hlists.1, Nat.not_lt.mp hlists.2⟩ hl

/-- The loop over RAN functions `fs`, from a registry that lists what `registry` does. -/
theorem foldl_advertise (registry : SmRegistry) :
    ∀ (fs : List UInt32) (acc : List RanFunctionDef) (registry' : SmRegistry),
      (∀ f, registry'.listing f = registry.listing f) →
      acc.length + fs.length ≤ maxRanFunctions →
      (fs.foldl advertise (acc, registry')).1 = acc ++ fs.filterMap registry.listing
  | [], acc, registry', _, _ => by simp
  | f :: fs, acc, registry', hlisting, hlen => by
    rw [List.length_cons] at hlen
    have hone : (registry.listing f).toList.length ≤ 1 := Option.length_toList_le
    have hnext : (acc ++ (registry.listing f).toList).length + fs.length ≤ maxRanFunctions := by
      rw [List.length_append]
      omega
    have hlisting' : ∀ g, (registry'.getByRanFunction f).2.listing g = registry.listing g :=
      fun g => (registry'.listing_getByRanFunction f g).trans (hlisting g)
    rw [List.foldl_cons, advertise_eq registry' f (by omega), hlisting f,
      foldl_advertise registry fs _ _ hlisting' hnext, List.append_assoc]
    cases hf : registry.listing f with
    | none => rw [List.filterMap_cons_none hf, Option.toList_none, List.nil_append]
    | some func => rw [List.filterMap_cons_some hf, Option.toList_some, List.singleton_append]

theorem ranFunctionList_eq {registry : SmRegistry} (h : registry.size ≤ maxRanFunctions) :
    (ranFunctionList registry).1 = registry.offers := by
  rw [← SmRegistry.length_getAvailableRanFunctions] at h
  exact foldl_advertise registry _ [] registry (fun _ => rfl) (by simpa using h)

variable {r r' : Ran}

/-! ## The registry of a RAN holds at most 64 RAN functions -/

theorem size_locked {ρ : Type} (r : Ran) (l : Locked ρ) :
    (r.locked l).registry.size = r.registry.size := by
  unfold locked
  generalize l.callbacks = callbacks
  simp only
  induction callbacks generalizing r with
  | nil => rfl
  | cons c callbacks ih =>
    rw [List.foldl_cons]
    exact (ih { r with registry := r.registry.onSmLifecycleChange c }).trans
      (r.registry.size_onSmLifecycleChange c)

theorem advertise_snd (st : List RanFunctionDef × SmRegistry) (f : UInt32) :
    (advertise st f).2 = (st.2.getByRanFunction f).2 := by
  simp only [advertise]
  split_ifs <;> rfl

theorem size_foldl_advertise_le : ∀ (fs : List UInt32) (st : List RanFunctionDef × SmRegistry),
    (fs.foldl advertise st).2.size ≤ st.2.size
  | [], st => le_refl _
  | f :: fs, st => by
    calc (fs.foldl advertise (advertise st f)).2.size
        ≤ (advertise st f).2.size := size_foldl_advertise_le fs _
      _ ≤ st.2.size := by rw [advertise_snd]; exact st.2.size_getByRanFunction_le f

theorem size_decideSubscription_le (r : Ran) (now : TimePoint) (request : SubscriptionRequest) :
    (r.decideSubscription now request).1.registry.size ≤ r.registry.size := by
  have hlookup : (refusalForSubscription r.registry request).2.size ≤ r.registry.size :=
    r.registry.size_getByRanFunction_le request.ranFunctionIdentifier
  unfold decideSubscription
  split_ifs
  · exact le_refl _
  · simp only
    split
    · exact hlookup
    · rw [size_locked]
      exact hlookup

theorem size_decideControl_le (r : Ran) (action : DAppControlAction) :
    (r.decideControl action).2.size ≤ r.registry.size := by
  unfold decideControl
  split_ifs
  · exact le_refl _
  · refine le_trans (le_of_eq ?_)
      (SmRegistry.size_getByRanFunction_le r.registry action.ranFunctionIdentifier)
    simp only
    rcases (r.registry.getByRanFunction action.ranFunctionIdentifier).1 with _ | sm
    · rfl
    · simp only
      split_ifs <;> rfl

theorem step_size_le {a : Label} (h : r.registry.size ≤ maxRanFunctions)
    (hs : r.step a = some r') : r'.registry.size ≤ maxRanFunctions := by
  cases a with
  | registerSm sm =>
    obtain rfl := Option.some.inj hs
    exact SmRegistry.size_registerSm_le h sm
  | start created connected =>
    obtain rfl := Option.some.inj hs
    unfold start
    split_ifs <;> exact h
  | stop =>
    obtain rfl := Option.some.inj hs
    unfold stop
    split_ifs
    · exact h
    · exact Nat.zero_le _
  | setupRequest stamp mid =>
    obtain ⟨-, rfl⟩ := Partial.of_check hs
    refine (size_foldl_advertise_le _ _).trans ?_
    rw [size_locked]
    exact h
  | subscriptionRequest now stamp request mid =>
    obtain ⟨-, rfl⟩ := Partial.of_check hs
    exact (size_decideSubscription_le r now request).trans h
  | subscriptionDelete stamp del mid =>
    obtain ⟨-, rfl⟩ := Partial.of_check hs
    exact (size_locked _ _).trans_le h
  | controlAction stamp action mid =>
    obtain ⟨-, rfl⟩ := Partial.of_check hs
    rw [handleControlAction_registry]
    exact (size_decideControl_le r action).trans h
  | release release order =>
    obtain ⟨-, rfl⟩ := Partial.of_check hs
    exact (size_locked _ _).trans_le h
  | sweep now order =>
    obtain ⟨-, rfl⟩ := Partial.of_check hs
    exact (size_locked _ _).trans_le h

theorem run_size_le {config : E3Config} {labels : List Label}
    (h : Runs.run step (.initialized config) labels = some r) :
    r.registry.size ≤ maxRanFunctions :=
  Runs.inv step_size_le (Nat.zero_le _) h

/-! ## The response -/

/-- The response that the RAN owes to a setup request. -/
def owedResponse (r : Ran) (mid : UInt32) : SetupResponse :=
  let id := lowestFreeId r.mgr.registeredDapps
  { requestId := (sanitizeRequestMessageId r.nextMessageId mid).1
    responseCode := if id = 0 then .negative else .positive
    e3apProtocolVersion := some r.config.e3apVersion
    dappIdentifier := if id = 0 then none else some id
    ranIdentifier := nameOrUnknown r.config.ranIdentifier
    ranFunctionList := r.registry.offers
    cause := if id = 0 then some .resourceExhausted else none
    detail := if id = 0 then some (text "no free dApp identifier") else none }

def owedMessageId (r : Ran) (mid : UInt32) : UInt32 :=
  (generateMessageId (sanitizeRequestMessageId r.nextMessageId mid).2).1

theorem answerSetup_pdu (h : r.registry.size ≤ maxRanFunctions) (stamp : UInt64) (mid : UInt32) :
    (r.answerSetup stamp mid).2 =
      ⟨.setupResponse, .setupResponse (r.owedResponse mid), r.owedMessageId mid, stamp⟩ := by
  have hlist := ranFunctionList_eq h
  by_cases hid : lowestFreeId r.mgr.registeredDapps = 0
  · simp [answerSetup, SubscriptionManager.registerDapp, owedResponse, owedMessageId, hid, locked,
      Locked.callbacks, setupResponsePdu, hlist]
  · simp [answerSetup, SubscriptionManager.registerDapp, owedResponse, owedMessageId, hid, locked,
      Locked.callbacks, setupResponsePdu, hlist]

theorem sanitizeRequestMessageId_ne_zero (n mid : UInt32) :
    (sanitizeRequestMessageId n mid).1 ≠ 0 := by
  unfold sanitizeRequestMessageId
  split_ifs with h
  · exact h
  · exact generateMessageId_ne_zero n

theorem isName_nameOrUnknown {name : Bytes} (h : name.length ≤ maxNameBytes) :
    IsName (nameOrUnknown name) := by
  unfold nameOrUnknown
  split_ifs with hn
  · decide +kernel
  · exact ⟨List.length_pos_iff.mpr hn, h⟩

theorem wireTextFits_eq_true {value : Bytes} {maxBytes : ℕ} {mayBeEmpty : Bool} :
    wireTextFits value maxBytes mayBeEmpty = true ↔
      value.length ≤ maxBytes ∧ (value = [] → mayBeEmpty = true) := by
  simp [wireTextFits, imp_iff_not_or]

theorem texts_of_textsFit {config : E3Config} (hrole : config.role = .ran)
    (hasn1 : config.encoding = .asn1) (h : config.textsFit = true) :
    IsVersion config.e3apVersion ∧ IsName (nameOrUnknown config.ranIdentifier) := by
  simp only [E3Config.textsFit, hasn1, hrole, Bool.and_eq_true, wireTextFits_eq_true] at h
  obtain ⟨⟨hversion, hne⟩, hname, -⟩ := h
  refine ⟨⟨List.length_pos_iff.mpr fun hnil => ?_, hversion⟩, isName_nameOrUnknown hname⟩
  exact nomatch hne hnil

theorem sized_owedResponse (hrole : r.config.role = .ran) (hasn1 : r.config.encoding = .asn1)
    (hfit : r.config.textsFit = true) (hsize : r.registry.size ≤ maxRanFunctions)
    (mid : UInt32) : (r.owedResponse mid).Sized := by
  obtain ⟨hversion, hname⟩ := texts_of_textsFit hrole hasn1 hfit
  refine ⟨sanitizeRequestMessageId_ne_zero _ _, hname, ?_, ?_, ?_, ?_⟩
  · rintro v ⟨⟩
    exact hversion
  · intro d hd
    simp only [owedResponse] at hd
    split_ifs at hd with hid
    · exact nomatch hd
    · obtain rfl := Option.some.inj hd
      exact (leastFree_lowestFreeId hid).range
  · exact (r.registry.length_offers_le).trans hsize
  · exact SmRegistry.forall_offers.mpr fun _ _ _ hl => hl

/-! ## The RAN survives a setup request -/

/-- The RAN sends one message for the request, which encodes a setup response, and does not
abort. -/
def AnswersSetup (codecs : Codecs) (r : Ran) (stamp : UInt64) (mid : UInt32) : Prop :=
  ∃ r' buffer, r.handleSetupRequest (codecs.encode r.config.encoding) stamp mid =
      some (r', [buffer]) ∧
    ∃ pdu resp, pdu.type = .setupResponse ∧ pdu.choice = .setupResponse resp ∧
      codecs.encode r.config.encoding pdu = some buffer

/-- Every Service Model that is listed satisfies `P`. -/
def EveryOffer (r : Ran) (P : RanFunctionDef → Prop) : Prop :=
  ∀ f func, r.registry.offer f = some func → func.Listable → P func

/-- The encoder of the RAN's format takes the response the RAN owes. -/
def CanAnswer (codecs : Codecs) (r : Ran) (stamp : UInt64) (mid : UInt32) : Prop :=
  match r.config.encoding with
  | .asn1 =>
    r.EveryOffer RanFunctionDef.IdsInRange ∧
      (codecs.aper.encoding (setupResponseToAsn1 stamp (r.owedMessageId mid)
        (r.owedResponse mid))).length ≤ AperCodec.bufferSize
  | .json =>
    Json.validUtf8 r.config.e3apVersion = true ∧
      Json.validUtf8 (nameOrUnknown r.config.ranIdentifier) = true ∧
      r.EveryOffer fun func =>
        JsonE3Encoder.isJsonContainer codecs.json func.ranFunctionData = true
  | .protobuf => True

theorem answersSetup_iff_isSome {codecs : Codecs} (hsize : r.registry.size ≤ maxRanFunctions)
    (stamp : UInt64) (mid : UInt32) :
    r.AnswersSetup codecs stamp mid ↔
      (codecs.encode r.config.encoding ⟨.setupResponse, .setupResponse (r.owedResponse mid),
        r.owedMessageId mid, stamp⟩).isSome = true := by
  unfold AnswersSetup handleSetupRequest
  simp only [answerSetup_pdu hsize]
  cases henc : codecs.encode r.config.encoding ⟨.setupResponse,
      .setupResponse (r.owedResponse mid), r.owedMessageId mid, stamp⟩ with
  | none => simp
  | some buffer =>
    exact iff_of_true ⟨_, buffer, rfl, _, _, rfl, rfl, henc⟩ rfl

/-- For every accepted configuration, registry, manager and request the RAN answers the setup
exactly when its encoder can take the response: over ASN.1 when all advertised identifiers are in
range and the encoding fits the buffer, over JSON when the texts are UTF-8 and the advertised data
are JSON objects or arrays, over Protocol Buffers always. -/
theorem answersSetup_iff (codecs : Codecs) (hrole : r.config.role = .ran)
    (hfit : r.config.textsFit = true) (hsize : r.registry.size ≤ maxRanFunctions)
    (stamp : UInt64) (mid : UInt32) :
    r.AnswersSetup codecs stamp mid ↔ r.CanAnswer codecs stamp mid := by
  rw [answersSetup_iff_isSome hsize, CanAnswer]
  cases henc : r.config.encoding with
  | asn1 =>
    have hsized := sized_owedResponse hrole henc hfit hsize mid
    have hmid : r.owedMessageId mid ≠ 0 := generateMessageId_ne_zero _
    rw [Option.isSome_iff_exists]
    constructor
    · rintro ⟨buffer, hb⟩
      obtain ⟨hids, hlen, -⟩ := (asn1Encode_setupResponse codecs.aper hmid hsized).mp hb
      exact ⟨SmRegistry.forall_offers.mp hids, hlen⟩
    · rintro ⟨hids, hlen⟩
      exact ⟨_, (asn1Encode_setupResponse codecs.aper hmid hsized).mpr
        ⟨SmRegistry.forall_offers.mpr hids, hlen, rfl⟩⟩
  | json =>
    have hdetail : ∀ t ∈ (r.owedResponse mid).detail, Json.validUtf8 t = true := by
      intro t ht
      simp only [owedResponse] at ht
      split_ifs at ht
      · obtain rfl := Option.some.inj ht
        decide +kernel
      · exact nomatch ht
    rw [Codecs.encode, JsonE3Encoder.encode_setupResponse_isSome]
    constructor
    · rintro ⟨hdata, hversion, hname, -⟩
      exact ⟨hversion _ rfl, hname, SmRegistry.forall_offers.mp hdata⟩
    · rintro ⟨hversion, hname, hdata⟩
      refine ⟨SmRegistry.forall_offers.mpr hdata, ?_, hname, hdetail⟩
      rintro v ⟨⟩
      exact hversion
  | protobuf => simp [Codecs.encode, Protobuf.encode, Protobuf.pduToProto, Protobuf.choiceToProto]

/-- The aligned PER encoding of the positive response to setup request 5 that assigns dApp
identifier 1 and lists `model7`. -/
def model7Bytes : Bytes :=
  [0x00, 0x00, 0x0B, 0x80, 0x04, 0x0C] ++ text "unknown" ++ [0x20] ++ text "1.0.0" ++
    [0x00, 0x00, 0x02, 0x00, 0x06, 0x00, 0x01, 0x00, 0x00, 0x00, 0x00, 0x01, 0x01]

def model7Codecs : Codecs where
  aper := ⟨fun _ => model7Bytes, fun _ => none⟩
  json := ⟨fun _ => none, fun _ => [], fun h => nomatch h⟩
  protobuf := ⟨fun _ => []⟩

/-- A RAN with a Service Model for RAN function 7 answers a setup over ASN.1. -/
theorem answersSetup_iff_model7 :
    ∃ r, Runs.run step (.initialized {}) [.registerSm (some model7), .start .success .success] =
        some r ∧
      r.AnswersSetup model7Codecs 0 5 := by
  refine Runs.exists_run (fun r => r.config.role = .ran ∧ r.config.textsFit = true ∧
    r.config.encoding = .asn1 ∧ r.registry.offers = [⟨7, [1], [], [1]⟩]) (by decide +kernel)
    fun r hrun hr => ?_
  obtain ⟨hrole, hfit, hasn1, hoffers⟩ := hr
  refine (answersSetup_iff model7Codecs hrole hfit (run_size_le hrun) 0 5).mpr ?_
  have hlen : model7Bytes.length ≤ AperCodec.bufferSize := by decide +kernel
  rw [CanAnswer, hasn1]
  refine ⟨SmRegistry.forall_offers.mp ?_, hlen⟩
  rw [hoffers, List.forall_mem_singleton]
  exact ⟨by decide, List.forall_mem_singleton.mpr (by decide), fun _ h => nomatch h⟩

/-- A Service Model for RAN function 0, which is not in the range of the grammar. -/
def model0 : ServiceModel := { model7 with ranFunctionId := 0 }

/-- `register_sm` accepts the Service Model, and the first setup request over ASN.1 aborts. -/
theorem setup_aborts_for_ran_function_zero :
    E3Config.textsFit {} = true ∧
      ((initialized {}).registerSm (some model0)).1 = .success ∧
      ∃ r, Runs.run step (.initialized {}) [.registerSm (some model0), .start .success .success] =
          some r ∧
        r.handleSetupRequest (model7Codecs.encode .asn1) 0 5 = none ∧
        ¬ r.AnswersSetup model7Codecs 0 5 := by
  refine ⟨by decide +kernel, by decide +kernel, Runs.exists_run (fun r =>
    r.config.encoding = .asn1 ∧
      (r.handleSetupRequest (model7Codecs.encode .asn1) 0 5).isNone = true) (by decide +kernel)
    fun r hrun hr => ?_⟩
  have hnone := Option.isNone_iff_eq_none.mp hr.2
  refine ⟨hnone, ?_⟩
  rintro ⟨r', buffer, hsent, -⟩
  rw [hr.1, hnone] at hsent
  exact nomatch hsent

end Ran

end LibE3
