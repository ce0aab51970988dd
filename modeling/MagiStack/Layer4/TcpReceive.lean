import MagiStack.Library.Reassembly
import MagiStack.Layer4.TcpSocket

/-!
# TcpReceive — what `tcp_buffer_payload` does to the receive stream

Sequence numbers are places of the peer's byte stream: `streamSeq iss n` is the number of the
stream's byte `n`.  A socket stands at place `n` of a stream when `recv_seq` is that number and every
pending byte is the stream's own.  Buffering a slice of the stream keeps this, with a later place.
-/

namespace MagiStack

open Reassembly

/-! ## Places of the stream -/

/-- The sequence number of byte `n` after the initial sequence number `iss`. -/
def streamSeq (iss : UInt32) (n : Nat) : UInt32 :=
  iss + 1 + UInt32.ofNat n

@[simp] theorem streamSeq_zero (iss : UInt32) : streamSeq iss 0 = iss + 1 := by
  simp [streamSeq]

theorem streamSeq_add (iss : UInt32) (n m : Nat) :
    streamSeq iss n + UInt32.ofNat m = streamSeq iss (n + m) := by
  simp only [streamSeq, UInt32.ofNat_add]
  grind

theorem streamSeq_succ (iss : UInt32) (n : Nat) : streamSeq iss n + 1 = streamSeq iss (n + 1) :=
  streamSeq_add iss n 1

theorem streamSeq_toNat {iss : UInt32} {n : Nat} (h : iss.toNat + 1 + n < 2 ^ 32) :
    (streamSeq iss n).toNat = iss.toNat + 1 + n := by
  have hone : (1 : UInt32).toNat = 1 := rfl
  simp only [streamSeq, UInt32.toNat_add, UInt32.toNat_ofNat', hone]
  omega

theorem streamSeq_inj {iss : UInt32} {n m : Nat} (hn : iss.toNat + 1 + n < 2 ^ 32)
    (hm : iss.toNat + 1 + m < 2 ^ 32) (h : streamSeq iss n = streamSeq iss m) : n = m := by
  have htoNat := congrArg UInt32.toNat h
  rw [streamSeq_toNat hn, streamSeq_toNat hm] at htoNat
  omega

theorem streamSeq_lt_iff {iss : UInt32} {n m : Nat} (hn : iss.toNat + 1 + n < 2 ^ 32)
    (hm : iss.toNat + 1 + m < 2 ^ 32) : streamSeq iss n < streamSeq iss m ↔ n < m := by
  rw [UInt32.lt_iff_toNat_lt, streamSeq_toNat hn, streamSeq_toNat hm]
  omega

theorem streamSeq_sub_toNat (iss : UInt32) {n m : Nat} (hmn : m ≤ n) (hn : n < 2 ^ 32) :
    (streamSeq iss n - streamSeq iss m).toNat = n - m := by
  have hsplit : streamSeq iss n - streamSeq iss m = UInt32.ofNat (n - m) := by
    rw [show n = m + (n - m) by omega, ← streamSeq_add]
    simp only [Nat.add_sub_cancel_left]
    grind
  rw [hsplit, UInt32.toNat_ofNat']
  omega

/-! ## The receive buffer -/

namespace TcpReceiveBuffer

@[simp] theorem store_data (buffer : TcpReceiveBuffer) (pos : Nat) (payload : List UInt8) :
    (buffer.store pos payload).data = buffer.data := by
  induction payload generalizing buffer pos with
  | nil => rfl
  | cons byte rest ih =>
      rw [store]
      split
      · exact ih buffer (pos + 1)
      · rw [ih]

theorem newCount_succ (buffer : TcpReceiveBuffer) (pos len : Nat) :
    buffer.newCount pos (len + 1) =
      (if buffer.pendingValid pos then 0 else 1) + buffer.newCount (pos + 1) len := by
  have hnext : (List.range len).countP
      ((fun i => !buffer.pendingValid (pos + i)) ∘ Nat.succ) =
        buffer.newCount (pos + 1) len := by
    refine List.countP_congr ?_
    intro i _
    simp only [Function.comp_apply, Nat.succ_eq_add_one,
      show pos + (i + 1) = pos + 1 + i by omega]
  rw [newCount, List.range_succ_eq_map, List.countP_cons, List.countP_map, hnext, Nat.add_zero]
  cases buffer.pendingValid pos
  all_goals simp [Nat.add_comm]

theorem store_pendingValid_of_valid {payload : List UInt8} {i : Nat} :
    ∀ {buffer : TcpReceiveBuffer} {pos : Nat}, buffer.pendingValid i = true →
      (buffer.store pos payload).pendingValid i = true := by
  induction payload with
  | nil => exact fun h => h
  | cons byte rest ih =>
      intro buffer pos h
      rw [store]
      split
      · exact ih h
      · refine ih ?_
        by_cases hi : i = pos
        · simp [hi]
        · simpa [hi] using h

/-- Storing a slice of the stream at its place keeps the pending bytes the stream's own. -/
theorem agrees_store {stream : List UInt8} {n : Nat} {payload : List UInt8} :
    ∀ {buffer : TcpReceiveBuffer} {pos : Nat},
      Agrees stream n buffer.pendingValid buffer.pending →
        payload <+: stream.drop (n + pos) →
          Agrees stream n (buffer.store pos payload).pendingValid
            (buffer.store pos payload).pending := by
  induction payload with
  | nil =>
      intro buffer pos h _
      exact h
  | cons byte rest ih =>
      intro buffer pos h hslice
      have hrest := tail_prefix_drop hslice
      rw [store]
      split
      · exact ih h hrest
      · exact ih (h.set (getElem?_of_cons_prefix_drop hslice)) hrest

theorem readyFrom_spec (valid : Nat → Bool) (fuel ready : Nat) :
    ready ≤ readyFrom valid fuel ready ∧ readyFrom valid fuel ready ≤ ready + fuel ∧
      ∀ i, ready ≤ i → i < readyFrom valid fuel ready → valid i = true := by
  induction fuel generalizing ready with
  | zero =>
      refine ⟨le_refl _, le_refl _, ?_⟩
      intro i hle hlt
      rw [readyFrom] at hlt
      omega
  | succ fuel ih =>
      rw [readyFrom]
      split
      · rename_i hvalid
        obtain ⟨hle, hbound, hrun⟩ := ih (ready + 1)
        refine ⟨by omega, by omega, ?_⟩
        intro i hi hlt
        by_cases heq : i = ready
        · rw [heq, hvalid]
        · exact hrun i (by omega) hlt
      · exact ⟨le_refl _, by omega, fun i hi hlt => absurd hlt (by omega)⟩

theorem valid_of_lt_ready (buffer : TcpReceiveBuffer) {i : Nat} (h : i < buffer.ready) :
    buffer.pendingValid i = true :=
  (readyFrom_spec buffer.pendingValid tcpSocketBufferSize 0).2.2 i (Nat.zero_le i) h

theorem ready_le (buffer : TcpReceiveBuffer) : buffer.ready ≤ tcpSocketBufferSize := by
  have hspec := (readyFrom_spec buffer.pendingValid tcpSocketBufferSize 0).2.1
  rwa [Nat.zero_add] at hspec

theorem ready_eq_zero_iff (buffer : TcpReceiveBuffer) :
    buffer.ready = 0 ↔ buffer.pendingValid 0 = false := by
  constructor
  · intro h
    by_contra hvalid
    rw [Bool.not_eq_false] at hvalid
    have hstep := (readyFrom_spec buffer.pendingValid 4095 1).1
    rw [ready, show tcpSocketBufferSize = 4095 + 1 from rfl, readyFrom, if_pos hvalid,
      Nat.zero_add] at h
    omega
  · intro h
    by_contra hready
    have hvalid := buffer.valid_of_lt_ready (i := 0) (by omega)
    rw [h] at hvalid
    cases hvalid

theorem agrees_moveReady {stream : List UInt8} {n : Nat} {buffer : TcpReceiveBuffer}
    (h : Agrees stream n buffer.pendingValid buffer.pending) (count : Nat) :
    Agrees stream (n + count) (buffer.moveReady count).pendingValid
      (buffer.moveReady count).pending := by
  refine h.advance count ?_ ?_
  · intro i hi
    simp only [moveReady] at hi
    split at hi
    · exact hi
    · cases hi
  · intro i hi
    simp only [moveReady] at hi ⊢
    split at hi
    · rename_i hlt
      rw [if_pos hlt]
    · cases hi

end TcpReceiveBuffer

/-! ## Buffering a payload -/

/-- The socket stands at place `n` of the stream numbered from `iss`. -/
structure StreamAt (stream : List UInt8) (iss : UInt32) (socket : TcpSocket) (n : Nat) : Prop where
  recvSeq_eq : socket.recvSeq = streamSeq iss n
  le_length : n ≤ stream.length
  agrees : Agrees stream n socket.recvBuffer.pendingValid socket.recvBuffer.pending

/-- `payload` with number `seqNum` is a slice of the stream numbered from `iss`. -/
def IsSlice (stream : List UInt8) (iss seqNum : UInt32) (payload : List UInt8) : Prop :=
  ∃ offset, seqNum = streamSeq iss offset ∧ payload <+: stream.drop offset

/-- `socket'` received the part of the stream from place `n` to place `m`. -/
structure StreamStep (stream : List UInt8) (iss : UInt32) (socket socket' : TcpSocket)
    (n m : Nat) : Prop where
  le : n ≤ m
  streamAt : StreamAt stream iss socket' m
  data_eq : ∀ delivered, delivered ++ socket.recvBuffer.data = stream.take n →
    delivered ++ socket'.recvBuffer.data = stream.take m

theorem StreamStep.refl {stream : List UInt8} {iss : UInt32} {socket : TcpSocket} {n : Nat}
    (h : StreamAt stream iss socket n) : StreamStep stream iss socket socket n n :=
  ⟨le_refl n, h, fun _ hdata => hdata⟩

/-- The bytes of a slice from `recv_seq` on are again a slice. -/
theorem isSlice_tcpTrimPayload {stream payload rest : List UInt8} {iss seqNum seqNum' : UInt32}
    {n : Nat} (hn : n ≤ stream.length) (hbound : iss.toNat + 1 + stream.length < 2 ^ 32)
    (hne : payload ≠ []) (hslice : IsSlice stream iss seqNum payload)
    (htrim : tcpTrimPayload (streamSeq iss n) seqNum payload = some (seqNum', rest)) :
    ∃ offset, seqNum' = streamSeq iss (n + offset) ∧ rest <+: stream.drop (n + offset) ∧
      n + offset ≤ stream.length := by
  obtain ⟨offset, rfl, hpayload⟩ := hslice
  have hlen := length_le_of_prefix_drop hpayload hne
  have hlt : streamSeq iss offset < streamSeq iss n ↔ offset < n :=
    streamSeq_lt_iff (by omega) (by omega)
  rw [tcpTrimPayload] at htrim
  split at htrim
  · rename_i hbefore
    rw [hlt] at hbefore
    have hsub := streamSeq_sub_toNat iss (n := n) (m := offset) (by omega) (by omega)
    simp only [hsub] at htrim
    split at htrim
    · cases htrim
    · cases htrim
      refine ⟨0, ?_, ?_, by omega⟩
      · grind
      · have hcut := drop_prefix_drop hpayload (n - offset)
        rwa [show offset + (n - offset) = n + 0 by omega] at hcut
  · rename_i hafter
    rw [hlt] at hafter
    cases htrim
    refine ⟨offset - n, ?_, ?_, by omega⟩
    · rw [show n + (offset - n) = offset by omega]
    · rwa [show n + (offset - n) = offset by omega]

theorem streamStep_tcpDeliverReady {stream : List UInt8} {iss : UInt32} {socket : TcpSocket}
    {n : Nat} {buffer : TcpReceiveBuffer} (hseq : socket.recvSeq = streamSeq iss n)
    (hn : n ≤ stream.length) (hdata : buffer.data = socket.recvBuffer.data)
    (h : Agrees stream n buffer.pendingValid buffer.pending) :
    StreamStep stream iss socket (tcpDeliverReady socket buffer) n (n + buffer.ready) := by
  have hrun := h.run buffer.ready fun i hi => buffer.valid_of_lt_ready hi
  have hle : n + buffer.ready ≤ stream.length := by
    by_cases hready : buffer.ready = 0
    · omega
    · have hlast := h.lt_length (buffer.valid_of_lt_ready (i := buffer.ready - 1) (by omega))
      omega
  refine ⟨by omega, ⟨?_, hle, ?_⟩, ?_⟩
  · simp only [tcpDeliverReady, hseq, streamSeq_add]
  · simp only [tcpDeliverReady]
    split
    · exact TcpReceiveBuffer.agrees_moveReady h buffer.ready
    · rename_i hready
      rwa [show n + buffer.ready = n by omega]
  · intro delivered htake
    rw [← hdata] at htake
    rw [← hrun, ← htake]
    simp only [tcpDeliverReady]
    split
    · simp only [TcpReceiveBuffer.moveReady, List.append_assoc]
    · rename_i hready
      simp [show buffer.ready = 0 by omega]

/-- `tcp_buffer_payload` on a slice of the stream moves the socket along the stream. -/
theorem tcpBufferPayload_streamStep {stream payload : List UInt8} {iss seqNum : UInt32}
    {socket : TcpSocket} {n : Nat} (h : StreamAt stream iss socket n)
    (hbound : iss.toNat + 1 + stream.length < 2 ^ 32)
    (hslice : payload ≠ [] → IsSlice stream iss seqNum payload) :
    ∃ m, StreamStep stream iss socket (tcpBufferPayload socket seqNum payload).2 n m := by
  rw [tcpBufferPayload]
  split
  · exact ⟨n, StreamStep.refl h⟩
  · rename_i hempty
    have hne : payload ≠ [] := by simpa using hempty
    rw [h.recvSeq_eq]
    split
    · exact ⟨n, StreamStep.refl h⟩
    · rename_i seqNum' rest htrim
      obtain ⟨offset, rfl, hrest, hle⟩ :=
        isSlice_tcpTrimPayload h.le_length hbound hne (hslice hne) htrim
      have hoffset := streamSeq_sub_toNat iss (n := n + offset) (m := n) (by omega) (by omega)
      rw [Nat.add_sub_cancel_left] at hoffset
      simp only [hoffset]
      split
      · exact ⟨n, StreamStep.refl h⟩
      · split
        · exact ⟨n, StreamStep.refl h⟩
        · exact ⟨_, streamStep_tcpDeliverReady h.recvSeq_eq h.le_length
            (TcpReceiveBuffer.store_data _ _ _) (TcpReceiveBuffer.agrees_store h.agrees hrest)⟩

/-! ## What buffering and acknowledging leave alone -/

theorem tcpBufferPayload_frame (socket : TcpSocket) (seqNum : UInt32) (payload : List UInt8) :
    ∃ recvBuffer recvSeq hasData,
      (tcpBufferPayload socket seqNum payload).2 =
        { socket with recvBuffer := recvBuffer, recvSeq := recvSeq, hasData := hasData } := by
  rw [tcpBufferPayload]
  split
  · exact ⟨_, _, _, rfl⟩
  · split
    · exact ⟨_, _, _, rfl⟩
    · dsimp only
      split
      · exact ⟨_, _, _, rfl⟩
      · split
        · exact ⟨_, _, _, rfl⟩
        · exact ⟨_, _, _, rfl⟩

@[simp] theorem tcpBufferPayload_state (socket : TcpSocket) (seqNum : UInt32)
    (payload : List UInt8) : (tcpBufferPayload socket seqNum payload).2.state = socket.state := by
  obtain ⟨_, _, _, h⟩ := tcpBufferPayload_frame socket seqNum payload
  rw [h]

@[simp] theorem tcpBufferPayload_inUse (socket : TcpSocket) (seqNum : UInt32)
    (payload : List UInt8) : (tcpBufferPayload socket seqNum payload).2.inUse = socket.inUse := by
  obtain ⟨_, _, _, h⟩ := tcpBufferPayload_frame socket seqNum payload
  rw [h]

@[simp] theorem tcpBufferPayload_sendSeq (socket : TcpSocket) (seqNum : UInt32)
    (payload : List UInt8) :
    (tcpBufferPayload socket seqNum payload).2.sendSeq = socket.sendSeq := by
  obtain ⟨_, _, _, h⟩ := tcpBufferPayload_frame socket seqNum payload
  rw [h]

@[simp] theorem tcpBufferPayload_sendAck (socket : TcpSocket) (seqNum : UInt32)
    (payload : List UInt8) :
    (tcpBufferPayload socket seqNum payload).2.sendAck = socket.sendAck := by
  obtain ⟨_, _, _, h⟩ := tcpBufferPayload_frame socket seqNum payload
  rw [h]

theorem tcpAcknowledgeData_frame (socket : TcpSocket) (ackNum : UInt32) :
    ∃ sendBuffer sendAck,
      tcpAcknowledgeData socket ackNum =
        { socket with sendBuffer := sendBuffer, sendAck := sendAck } := by
  rw [tcpAcknowledgeData]
  split
  all_goals exact ⟨_, _, rfl⟩

end MagiStack
