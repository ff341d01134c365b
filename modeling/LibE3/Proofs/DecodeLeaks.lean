import LibE3.Proofs.DecodeMemory

/-!
# No decoder leaks

A decoder succeeds, and what is left of the blocks it took is in the structure, for the matching
`free`; or it fails, and each block it took was freed exactly once. As long as no allocation fails
it is the decoder of the C API, seen without its blocks.
-/

namespace LibE3.E2smDapp

namespace Mem

section Decoders

variable {Cpp σ γ : Type} [Object σ γ]

/-- How a decoder ends that would end with `want` if there is enough memory. -/
inductive Ends (h₀ : Heap) (out : Option σ) (want : ErrorCode × Option γ) (r : Decoded σ) : Prop
  | failure (hcode : r.code ≠ .success) (hout : r.out = out.map fun _ => zero)
      (hfreed : h₀.Balanced r.heap)
      (hwant : r.heap.failed = h₀.failed → (r.code, r.out.map erase) = want)
      (hstarved : r.heap.failed ≠ h₀.failed → r.code = .decodeFailed ∨ r.code = .smErrorMemory)
  | success (d : σ) (hcode : r.code = .success) (hout : r.out = some d)
      (hheld : h₀.Tracks r.heap (owned d)) (hfailed : r.heap.failed = h₀.failed)
      (hwant : (r.code, r.out.map erase) = want)

theorem decodeImpl_ends {unpack : Cpp → Option Bytes → AsnCode × Cpp} {fresh : Cpp}
    {convert : Cpp → Into σ Unit} {value : Cpp → Except CError γ}
    {release : Heap → σ → Heap × σ} (hconvert : ∀ v, Converts (convert v) (value v))
    (hrelease : Releases release) (n : ℕ) (h : Heap) (buf : Option Bytes) (out : Option σ) :
    Ends h out (E2smDapp.decodeImpl unpack fresh value (erase (zero : σ)) buf (out.map erase))
      (decodeImpl unpack fresh convert release zero n h buf out) := by
  rcases out with _ | prior
  · exact .failure (by simp [decodeImpl]) rfl (Heap.tracks_refl h) (fun _ => rfl)
      fun hfail => absurd rfl hfail
  rcases buf with _ | bytes
  · exact .failure (by simp [decodeImpl]) rfl (Heap.tracks_refl h) (fun _ => rfl)
      fun hfail => absurd rfl hfail
  unfold decodeImpl E2smDapp.decodeImpl
  dsimp only [Option.map_some]
  generalize (if bytes = [] then 0 else n) = n
  rcases hown : h.allocUpTo n with ⟨own, h₁⟩
  obtain ⟨htracks, hall⟩ := (Heap.tracks_refl h).allocUpTo hown
  rw [List.append_nil] at htracks
  by_cases hshort : own.length < n
  · rw [if_pos hshort]
    refine .failure (by simp) rfl htracks.balanced (fun hsame => ?_) fun _ => .inl rfl
    have hfailed : h₁.failed = h.failed := hsame
    omega
  · rw [if_neg hshort]
    have hfailed : h₁.failed = h.failed := by omega
    rcases unpack fresh (some bytes) with ⟨code, v⟩
    cases code
    case success =>
      have hgoing : Going h own h₁ (zero : σ) := ⟨by rwa [Object.owned_zero], hfailed⟩
      have hconverts := hconvert v h own h₁ zero ⟨hgoing, rfl⟩
      rcases hrun : convert v (h₁, zero) with ⟨e | _, h₂, d⟩ <;> simp only [hrun]
      · obtain ⟨hheld, hvalue, hmemory⟩ := hconverts _ _ _ hrun
        refine .failure e.isError rfl ?_ (fun hsame => ?_) fun hfail => .inr (hmemory ?_)
        · rw [hrelease, Heap.freeAll_freeAll]
          refine (hheld.congr fun i => ?_).balanced
          simp only [List.count_append]
          omega
        · rw [hrelease] at hsame
          simp only [hvalue hsame]
          rfl
        · rw [hrelease] at hfail
          exact hfail
      · obtain ⟨⟨hheld, hsame⟩, hvalue⟩ := hconverts _ _ _ hrun
        refine .success d rfl rfl hheld.freeAll hsame ?_
        simp only [hvalue]
        rfl
    all_goals exact .failure (by simp) rfl htracks.balanced (fun _ => rfl) fun _ => .inl rfl

theorem freeImpl_some {release : Heap → σ → Heap × σ} (hrelease : Releases release) (h : Heap)
    (d : σ) : freeImpl release zero h (some d) = (h.freeAll (owned d), some zero) := by
  simp only [freeImpl, hrelease h d]

end Decoders

end Mem

namespace Kind

open Mem (Into Decoded Object Converts Releases)

abbrev Mem : Kind → Type
  | .eventTrigger => C.EventTrigger
  | .actionDefinition => C.ActionDefinition
  | .indHdr => C.IndHdr
  | .indMsg => Mem.IndMsg
  | .ctrlHdr => C.CtrlHdr
  | .ctrlMsg => Mem.CtrlMsg
  | .ctrlOutcome => Mem.CtrlOutcome
  | .ranFunctionDefinition => Mem.RanFunctionDefinition

instance object : (k : Kind) → Object k.Mem k.C
  | .eventTrigger => inferInstanceAs (Object C.EventTrigger C.EventTrigger)
  | .actionDefinition => inferInstanceAs (Object C.ActionDefinition C.ActionDefinition)
  | .indHdr => inferInstanceAs (Object C.IndHdr C.IndHdr)
  | .indMsg => inferInstanceAs (Object Mem.IndMsg C.IndMsg)
  | .ctrlHdr => inferInstanceAs (Object C.CtrlHdr C.CtrlHdr)
  | .ctrlMsg => inferInstanceAs (Object Mem.CtrlMsg C.CtrlMsg)
  | .ctrlOutcome => inferInstanceAs (Object Mem.CtrlOutcome C.CtrlOutcome)
  | .ranFunctionDefinition =>
    inferInstanceAs (Object Mem.RanFunctionDefinition C.RanFunctionDefinition)

/-- The decoder with its memory. For these bytes `unpack` takes `n` blocks. -/
def decodeMem (n : ℕ) (h : Heap) (buf : Option Bytes) :
    (k : Kind) → AperType k.Asn → Option k.Mem → Decoded k.Mem
  | .eventTrigger => Mem.decodeEventTrigger n h buf
  | .actionDefinition => Mem.decodeActionDefinition n h buf
  | .indHdr => Mem.decodeIndHdr n h buf
  | .indMsg => Mem.decodeIndMsg n h buf
  | .ctrlHdr => Mem.decodeCtrlHdr n h buf
  | .ctrlMsg => Mem.decodeCtrlMsg n h buf
  | .ctrlOutcome => Mem.decodeCtrlOutcome n h buf
  | .ranFunctionDefinition => Mem.decodeRanFunctionDefinition n h buf

def free : (k : Kind) → Heap → Option k.Mem → Heap × Option k.Mem
  | .eventTrigger => Mem.freeEventTrigger
  | .actionDefinition => Mem.freeActionDefinition
  | .indHdr => Mem.freeIndHdr
  | .indMsg => Mem.freeIndMsg
  | .ctrlHdr => Mem.freeCtrlHdr
  | .ctrlMsg => Mem.freeCtrlMsg
  | .ctrlOutcome => Mem.freeCtrlOutcome
  | .ranFunctionDefinition => Mem.freeRanFunctionDefinition

def convertMem : (k : Kind) → k.Cpp → Into k.Mem Unit
  | .eventTrigger => fun v => Mem.plainToC v.toC
  | .actionDefinition => fun v => Mem.plainToC v.toC
  | .indHdr => fun v => Mem.plainToC v.toC
  | .indMsg => Mem.indMsgToC
  | .ctrlHdr => fun v => Mem.plainToC v.toC
  | .ctrlMsg => Mem.ctrlMsgToC
  | .ctrlOutcome => Mem.ctrlOutcomeToC
  | .ranFunctionDefinition => Mem.ranFunctionDefinitionToC

def release : (k : Kind) → Heap → k.Mem → Heap × k.Mem
  | .eventTrigger => Mem.releaseNothing
  | .actionDefinition => Mem.releaseNothing
  | .indHdr => Mem.releaseNothing
  | .indMsg => Mem.releaseIndMsg
  | .ctrlHdr => Mem.releaseNothing
  | .ctrlMsg => Mem.releaseCtrlMsg
  | .ctrlOutcome => Mem.releaseCtrlOutcome
  | .ranFunctionDefinition => Mem.releaseDef

theorem decodeMem_eq (k : Kind) (td : AperType k.Asn) (n : ℕ) (h : Heap) (buf : Option Bytes) :
    k.decodeMem n h buf td
      = Mem.decodeImpl (k.unpack td) k.fresh k.convertMem k.release Mem.zero n h buf := by
  cases k <;> rfl

theorem free_eq (k : Kind) : k.free = Mem.freeImpl k.release Mem.zero := by
  cases k <;> rfl

theorem erase_zero (k : Kind) : Mem.erase (Mem.zero : k.Mem) = k.zero := by
  cases k <;> rfl

theorem convertMem_converts (k : Kind) (v : k.Cpp) : Converts (k.convertMem v) (k.toC v) := by
  cases k with
  | eventTrigger => exact Mem.converts_plainToC (fun _ => ⟨rfl, rfl⟩) (EventTrigger.toC v)
  | actionDefinition => exact Mem.converts_plainToC (fun _ => ⟨rfl, rfl⟩) (ActionDefinition.toC v)
  | indHdr => exact Mem.converts_plainToC (fun _ => ⟨rfl, rfl⟩) (IndHdr.toC v)
  | indMsg => exact Mem.converts_indMsgToC v
  | ctrlHdr => exact Mem.converts_plainToC (fun _ => ⟨rfl, rfl⟩) (CtrlHdr.toC v)
  | ctrlMsg => exact Mem.converts_ctrlMsgToC v
  | ctrlOutcome => exact Mem.converts_ctrlOutcomeToC v
  | ranFunctionDefinition => exact Mem.converts_ranFunctionDefinitionToC v

theorem release_releases (k : Kind) : Releases k.release := by
  cases k with
  | indMsg => exact Mem.releases_indMsg
  | ctrlMsg => exact Mem.releases_ctrlMsg
  | ctrlOutcome => exact Mem.releases_ctrlOutcome
  | ranFunctionDefinition => exact Mem.releases_def
  | _ => exact fun h _ => h.freeAll_nil.symm

end Kind

theorem decodeMem_ends (k : Kind) (td : AperType k.Asn) (n : ℕ) (h : Heap) (buf : Option Bytes)
    (out : Option k.Mem) :
    Mem.Ends h out (k.decode td buf (out.map Mem.erase)) (k.decodeMem n h buf td out) := by
  rw [k.decodeMem_eq, k.decode_eq, ← k.erase_zero]
  exact Mem.decodeImpl_ends k.convertMem_converts k.release_releases n h buf out

/-- As long as no allocation fails, the decoder is the one of the C API. Exhausted memory has two
codes, for the memory of `unpack` and for the memory of the structure. -/
theorem decodeMem_refines (k : Kind) (td : AperType k.Asn) (n : ℕ) (h : Heap) (buf : Option Bytes)
    (out : Option k.Mem) :
    let r := k.decodeMem n h buf td out
    (r.heap.failed = h.failed →
        (r.code, r.out.map Mem.erase) = k.decode td buf (out.map Mem.erase))
      ∧ (r.heap.failed ≠ h.failed → r.code = .decodeFailed ∨ r.code = .smErrorMemory) := by
  intro r
  rcases decodeMem_ends k td n h buf out with ⟨-, -, -, hwant, hstarved⟩
    | ⟨d, -, -, -, hsame, hwant⟩
  · exact ⟨hwant, hstarved⟩
  · exact ⟨fun _ => hwant, fun hfailed => absurd hsame hfailed⟩

/-- Where an allocation fails, whichever it is, the decoder fails. Where it fails, each block that it
took was freed exactly once and the structure is all zero. Where it succeeds, each block that it took
was freed exactly once after `free`, and another `free` does nothing. -/
theorem decode_frees_each_once (k : Kind) (td : AperType k.Asn) (n : ℕ) (h : Heap)
    (buf : Option Bytes) (out : Option k.Mem) :
    let r := k.decodeMem n h buf td out
    let f := k.free r.heap r.out
    (r.heap.failed ≠ h.failed → r.code ≠ .success)
      ∧ (r.code ≠ .success → r.out = out.map (fun _ => Mem.zero) ∧ h.Balanced r.heap)
      ∧ (r.code = .success → f.2 = some Mem.zero ∧ h.Balanced f.1 ∧ k.free f.1 f.2 = f) := by
  intro r f
  rcases decodeMem_ends k td n h buf out with ⟨hcode, hout, hfreed, -, -⟩
    | ⟨d, hcode, hout, hheld, hfailed, -⟩
  · exact ⟨fun _ => hcode, fun _ => ⟨hout, hfreed⟩, fun hsuccess => absurd hsuccess hcode⟩
  · have hf : f = (r.heap.freeAll (Mem.owned d), some Mem.zero) := by
      simp only [f, r, k.free_eq, hout, Mem.freeImpl_some k.release_releases]
    refine ⟨fun hfail => absurd hfailed hfail, fun hfail => absurd hcode hfail, fun _ => ?_⟩
    rw [hf]
    refine ⟨rfl, hheld.balanced, ?_⟩
    rw [k.free_eq, Mem.freeImpl_some k.release_releases, Mem.Object.owned_zero, Heap.freeAll_nil]

/-- With two blocks for `unpack` the third allocation is the one for the message. -/
example :
    let r := Mem.decodeCtrlMsg 2 { fails := fun i => i == 2 } (some [0, 0, 3, 0, 2, 1, 2, 3])
      ctrlMsgAper (some { format := 9 })
    r.code = .smErrorMemory ∧ r.out = some {} ∧ r.heap.freed = [0, 1] := by decide +kernel

end LibE3.E2smDapp
