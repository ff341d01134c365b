import LibE3.Lib.Runs
import LibE3.ZmqConnector

/-!
# Messages over ZeroMQ

Each of the functions that receive gives `zmq_recv` a buffer of 60000 bytes and then resizes it to
the length that came back. A longer message loses what is behind the 60000th byte, and the resize
fills the place with zeros, so the call returns the length of the message with another content,
except when there were only zeros to lose.
-/

namespace LibE3.Zmq

open Posix (defaultBufferSize)

/-- A message that the buffer does not change: behind the 60000th byte it has only zeros, or
nothing. -/
def Fits (m : Bytes) : Prop := ∀ b ∈ m.drop defaultBufferSize, b = 0

theorem fits_of_length_le {m : Bytes} (h : m.length ≤ defaultBufferSize) : Fits m := by
  unfold Fits
  rw [List.drop_eq_nil_of_le h]
  simp

theorem length_resize (buffer : Bytes) (n : ℕ) : (resize buffer n).length = n := by
  simp [resize]
  omega

/-- What is in the buffer after a message was received into it, whatever was in it before. -/
def truncated (m : Bytes) : Bytes :=
  m.take defaultBufferSize ++ List.replicate (m.length - defaultBufferSize) 0

theorem resize_copyInto (buffer m : Bytes) :
    resize (copyInto (resize buffer defaultBufferSize) m) m.length = truncated m := by
  have hlen := length_resize buffer defaultBufferSize
  have hcopy : (copyInto (resize buffer defaultBufferSize) m).length = defaultBufferSize := by
    simp [copyInto, hlen]
    omega
  have hfront : (copyInto (resize buffer defaultBufferSize) m).take m.length
      = m.take defaultBufferSize := by
    rw [copyInto, hlen, List.take_append, List.take_take]
    rcases Nat.le_total m.length defaultBufferSize with h | h
    · simp [h]
    · have hnone : (resize buffer defaultBufferSize).drop m.length = [] :=
        List.drop_eq_nil_of_le (by omega)
      simp [h, hnone]
  rw [resize, hcopy, hfront, truncated]

theorem truncated_eq_iff (m : Bytes) : truncated m = m ↔ Fits m := by
  unfold truncated Fits
  have hlen : (m.drop defaultBufferSize).length = m.length - defaultBufferSize := by simp
  rw [← hlen]
  constructor
  · intro h
    have hdrop : List.replicate (m.drop defaultBufferSize).length 0 = m.drop defaultBufferSize :=
      List.append_cancel_left (h.trans (List.take_append_drop defaultBufferSize m).symm)
    intro b hb
    rw [← hdrop] at hb
    exact List.eq_of_mem_replicate hb
  · intro h
    rw [← List.eq_replicate_of_mem h, List.take_append_drop]

/-- The call returned the length of the message it was given and the message, or an error. Without
a message it returned no length. -/
def Receipt.Unaltered (r : Receipt) : Prop :=
  match r.delivered with
  | some m => r.ret = .ok m.length ∧ r.buffer = m ∨ ∃ e, r.ret = .error e
  | none => ∀ n, r.ret = .ok n → n = 0

/-- What every call that receives comes to. -/
def Receipt.Truncated (r : Receipt) : Prop :=
  match r.delivered with
  | some m => r.ret = .ok m.length ∧ r.buffer = truncated m
  | none => ∀ n, r.ret = .ok n → n = 0

theorem Receipt.Truncated.unaltered_iff {r : Receipt} (h : r.Truncated) :
    r.Unaltered ↔ ∀ m ∈ r.delivered, Fits m := by
  unfold Truncated at h
  unfold Unaltered
  rcases hd : r.delivered with _ | m
  · simp only [hd] at h
    simpa using h
  · simp only [hd] at h
    obtain ⟨hret, hbuffer⟩ := h
    simp [hret, hbuffer, truncated_eq_iff]

namespace ZmqE3Connector

variable (c : ZmqE3Connector) (ch : Channel) (buffer : Bytes)

theorem recvSetupRequest_truncated (ret : RecvResult) (created bound : Bool) :
    (⟨ch, if c.setupSocket then ret.message? else none,
      (c.recvSetupRequest buffer ret created bound).1,
      (c.recvSetupRequest buffer ret created bound).2.1⟩ : Receipt).Truncated := by
  unfold recvSetupRequest Receipt.Truncated
  rcases hs : c.setupSocket
  · simp
  · rcases ret with m | _ | _ | _ <;> simp [RecvResult.message?, resize_copyInto]

theorem receive_truncated (ret : RecvResult) (disconnected : Bool) :
    (⟨ch, if c.inboundSocket then ret.message? else none,
      (c.receive buffer ret disconnected).1,
      (c.receive buffer ret disconnected).2⟩ : Receipt).Truncated := by
  unfold receive Receipt.Truncated
  rcases hs : c.inboundSocket
  · simp
  · rcases ret with m | _ | _ | _
    · simp [RecvResult.message?, resize_copyInto]
    · rcases disconnected <;> simp [RecvResult.message?]
    · simp [RecvResult.message?]
    · simp [RecvResult.message?]

theorem recvSetupResponseClient_truncated (ret : RecvResult) :
    (⟨ch, if c.setupSocket then ret.message? else none,
      (c.recvSetupResponseClient buffer ret).1,
      (c.recvSetupResponseClient buffer ret).2⟩ : Receipt).Truncated := by
  unfold recvSetupResponseClient Receipt.Truncated
  rcases hs : c.setupSocket
  · simp
  · rcases ret with m | _ | _ | _ <;> simp [RecvResult.message?, resize_copyInto]

end ZmqE3Connector

namespace Link

variable {l l' : Link}

theorem recvOn_truncated (ch : Channel) (ret : RecvResult) (disconnected created bound : Bool) :
    (⟨ch, l.given ch ret, (l.recvOn ret disconnected created bound ch).1,
      (l.recvOn ret disconnected created bound ch).2.1⟩ : Receipt).Truncated := by
  rcases ch
  · exact l.ran.recvSetupRequest_truncated _ _ ret created bound
  · exact l.dapp.recvSetupResponseClient_truncated _ _ ret
  · exact l.ran.receive_truncated _ _ ret disconnected
  · exact l.dapp.receive_truncated _ _ ret disconnected

theorem recvOn_link (ch : Channel) (ret : RecvResult) (disconnected created bound : Bool) :
    (l.recvOn ret disconnected created bound ch).2.2.accepted = l.accepted
      ∧ (l.recvOn ret disconnected created bound ch).2.2.receipts = l.receipts := by
  rcases ch <;> exact ⟨rfl, rfl⟩

theorem sendOn_link (sent created attached : Bool) (ch : Channel) :
    (l.sendOn sent created attached ch).2.accepted = l.accepted
      ∧ (l.sendOn sent created attached ch).2.receipts = l.receipts := by
  rcases ch <;> exact ⟨rfl, rfl⟩

/-- Every call was given a message that a sender accepted before, or none, and left the buffer with
the start of it. -/
def Traced (l : Link) : Prop :=
  ∀ r ∈ l.receipts, r.Truncated ∧ ∀ m ∈ r.delivered, m ∈ l.accepted r.channel

theorem traced_step {e : Event} (h : l.Traced) (hstep : l.step e = some l') : l'.Traced := by
  unfold step at hstep
  rcases e with call | call | ⟨ch, data, sent, created, attached⟩ |
    ⟨ch, ret, disconnected, created, bound⟩
  · simp only [Option.some.injEq] at hstep
    exact hstep ▸ h
  · simp only [Option.some.injEq] at hstep
    exact hstep ▸ h
  · obtain ⟨hacc, hrec⟩ := sendOn_link (l := l) sent created attached ch
    simp only [] at hstep
    split_ifs at hstep
    · -- one more message is accepted
      simp only [Option.some.injEq] at hstep
      subst hstep
      intro r hr
      rw [hrec] at hr
      refine ⟨(h r hr).1, fun m hm => ?_⟩
      have hold := (h r hr).2 m hm
      simp only [hacc]
      rcases eq_or_ne r.channel ch with hch | hch
      · rw [hch, Function.update_self]
        exact List.mem_append_left _ (hch ▸ hold)
      · rw [Function.update_of_ne hch]
        exact hold
    · simp only [Option.some.injEq] at hstep
      subst hstep
      intro r hr
      rw [hrec] at hr
      rw [hacc]
      exact h r hr
  · obtain ⟨hacc, hrec⟩ := recvOn_link (l := l) ch ret disconnected created bound
    simp only [] at hstep
    split_ifs at hstep with hgiven
    simp only [Option.some.injEq] at hstep
    subst hstep
    intro r hr
    simp only [hrec, List.mem_append, List.mem_singleton] at hr
    simp only [hacc]
    rcases hr with hr | rfl
    · exact h r hr
    · exact ⟨recvOn_truncated ch ret disconnected created bound, hgiven⟩

/-- In every run of a link, what the calls return is unaltered if and only if no message that was
delivered has a byte other than zero behind the 60000th. Only messages that a sender accepted are
delivered. -/
theorem messages_unaltered_iff {es : List Event} (hrun : Runs.run step initial es = some l) :
    ((∀ r ∈ l.receipts, r.Unaltered) ↔ ∀ r ∈ l.receipts, ∀ m ∈ r.delivered, Fits m)
      ∧ ∀ r ∈ l.receipts, ∀ m ∈ r.delivered, m ∈ l.accepted r.channel := by
  have htraced : l.Traced := Runs.inv traced_step (by simp [Traced, initial]) hrun
  refine ⟨⟨fun h r hr => ?_, fun h r hr => ?_⟩, fun r hr => (htraced r hr).2⟩
  · exact (htraced r hr).1.unaltered_iff.mp (h r hr)
  · exact (htraced r hr).1.unaltered_iff.mpr (h r hr)

/-- A dApp with its outbound socket, and a RAN with its inbound socket. -/
def attached : List Event :=
  [.ranSockets (.setupInitialConnection true true true),
    .dappSockets (.setupInitialConnection true true true),
    .ranSockets (.setupInboundConnection true true),
    .dappSockets (.setupOutboundConnection true true)]

def exchange (m : Bytes) : List Event :=
  attached ++ [.send .toRan m true true true, .recv .toRan (.message m) false true true]

theorem run_exchange (m : Bytes) : ∃ l, Runs.run step initial (exchange m) = some l
    ∧ l.receipts = [⟨.toRan, some m, .ok m.length, truncated m⟩] := by
  have htrace : ∀ b, resize (copyInto (resize b defaultBufferSize) m) m.length = truncated m :=
    fun b => resize_copyInto b m
  simp [exchange, attached, Runs.run, step, initial, SocketCall.exec,
    ZmqE3Connector.setupInitialConnection, ZmqE3Connector.setupInboundConnection,
    ZmqE3Connector.setupOutboundConnection, sendOn, ZmqE3Connector.send, recvOn, given, listens,
    ZmqE3Connector.receive, RecvResult.message?, htrace]

/-- A message of 60000 bytes arrives as it is. -/
theorem messages_unaltered_full_buffer :
    ∃ l, Runs.run step initial (exchange (List.replicate 60000 1)) = some l
      ∧ ∀ r ∈ l.receipts, r.Unaltered := by
  obtain ⟨l, hrun, hreceipts⟩ := run_exchange (List.replicate 60000 1)
  have hlen : (List.replicate 60000 (1 : UInt8)).length ≤ defaultBufferSize :=
    List.length_replicate.le
  refine ⟨l, hrun, (messages_unaltered_iff hrun).1.mpr fun r hr m hm => ?_⟩
  rw [hreceipts, List.mem_singleton] at hr
  subst hr
  exact Option.some.inj hm ▸ fits_of_length_le hlen

/-- A message of ones that is too long is returned with its length and without its end. -/
theorem ones_altered {n : ℕ} (h : defaultBufferSize < n) :
    ∃ l, Runs.run step initial (exchange (List.replicate n 1)) = some l
      ∧ ∃ r ∈ l.receipts, r.delivered = some (List.replicate n 1) ∧ r.ret = .ok n
        ∧ r.buffer = List.replicate defaultBufferSize 1 ++ List.replicate (n - defaultBufferSize) 0
        ∧ ¬ r.Unaltered := by
  obtain ⟨l, hrun, hreceipts⟩ := run_exchange (List.replicate n 1)
  have hbuffer : truncated (List.replicate n 1)
      = List.replicate defaultBufferSize 1 ++ List.replicate (n - defaultBufferSize) 0 := by
    rw [truncated, List.take_replicate, List.length_replicate, Nat.min_eq_left h.le]
  have hnot : ¬ Fits (List.replicate n 1) := by
    intro hfits
    have hone : (1 : UInt8) = 0 := by
      refine hfits 1 ?_
      rw [List.drop_replicate]
      exact List.mem_replicate.mpr ⟨by omega, rfl⟩
    exact absurd hone (by decide)
  have htruncated : (⟨.toRan, some (List.replicate n 1), .ok (List.replicate n (1 : UInt8)).length,
      truncated (List.replicate n 1)⟩ : Receipt).Truncated := ⟨rfl, rfl⟩
  refine ⟨l, hrun, _, hreceipts ▸ List.mem_singleton_self _, rfl, ?_, hbuffer, ?_⟩
  · rw [List.length_replicate]
  · rw [htruncated.unaltered_iff]
    exact fun hfits => hnot (hfits _ rfl)

/-- A message of 60001 bytes arrives with the same length and another content. -/
theorem long_message_altered :
    ∃ l, Runs.run step initial (exchange (List.replicate 60001 1)) = some l
      ∧ ∃ r ∈ l.receipts, r.delivered = some (List.replicate 60001 1) ∧ r.ret = .ok 60001
        ∧ r.buffer = List.replicate 60000 1 ++ List.replicate 1 0 ∧ ¬ r.Unaltered :=
  ones_altered (show 60000 < 60001 by omega)

end Link

end LibE3.Zmq
