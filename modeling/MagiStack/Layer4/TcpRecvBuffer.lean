import MagiStack.Layer4.TcpReceive
import MagiStack.Library.CheckedBuffer
import MagiStack.Library.FirstCover

/-!
# TcpRecvBuffer — reassembly in the receive buffer

Any series of `tcp_buffer_payload` and `tcp_socket_recv` on a socket that begins with an empty receive
buffer.  Payloads are chunks laid over sequence numbers; the first one to cover a number gives its byte.
-/

namespace MagiStack

open FirstCover

/-! ## The two arrays -/

namespace TcpReceiveBuffer

/-- The byte held for a place from `recv_seq` on. -/
def window (buffer : TcpReceiveBuffer) (i : Nat) : Option UInt8 :=
  if buffer.pendingValid i then some (buffer.pending i) else none

/-- The number of set flags. -/
def validCount (buffer : TcpReceiveBuffer) : Nat :=
  Nat.count (fun i => buffer.pendingValid i = true) tcpSocketBufferSize

variable (buffer : TcpReceiveBuffer)

theorem window_eq_none_iff (i : Nat) : buffer.window i = none ↔ buffer.pendingValid i = false := by
  rw [window]
  cases buffer.pendingValid i
  all_goals simp

theorem window_of_valid {i : Nat} (h : buffer.pendingValid i = true) :
    buffer.window i = some (buffer.pending i) :=
  if_pos h

/-- A place that is held keeps its byte. -/
theorem window_store (pos : Nat) (payload : List UInt8) (i : Nat) :
    (buffer.store pos payload).window i = (buffer.window i).or (elementAt (pos, payload) i) := by
  induction payload generalizing buffer pos with
  | nil =>
      rw [store, elementAt]
      simp
  | cons byte rest ih =>
      rw [store, elementAt_cons]
      split
      · rename_i hvalid
        rw [ih]
        by_cases hi : i = pos
        · rw [hi, buffer.window_of_valid hvalid]
          rfl
        · rw [if_neg hi]
      · rename_i hfree
        rw [ih]
        by_cases hi : i = pos
        · have hnone : buffer.window pos = none :=
            (buffer.window_eq_none_iff pos).mpr (Bool.eq_false_iff.mpr hfree)
          rw [hi, hnone, if_pos rfl]
          simp [window]
        · rw [if_neg hi, window, window]
          simp only [Function.update_of_ne hi]

theorem newCount_update {pos start : Nat} (h : pos < start) (byte : UInt8) (count len : Nat) :
    newCount
        { buffer with
          pending := Function.update buffer.pending pos byte
          pendingValid := Function.update buffer.pendingValid pos true
          pendingCount := count } start len =
      buffer.newCount start len := by
  refine List.countP_congr fun i _ => ?_
  simp only
  rw [Function.update_of_ne (by omega)]

theorem pendingCount_store (pos : Nat) (payload : List UInt8) :
    (buffer.store pos payload).pendingCount =
      buffer.pendingCount + buffer.newCount pos payload.length := by
  induction payload generalizing buffer pos with
  | nil => rfl
  | cons byte rest ih =>
      rw [store, List.length_cons, newCount_succ]
      split
      · rw [ih, Nat.zero_add]
      · rw [ih, newCount_update _ (Nat.lt_succ_self pos), Nat.add_assoc]

theorem validCount_update {pos : Nat} (h : pos < tcpSocketBufferSize)
    (hfree : buffer.pendingValid pos = false) (byte : UInt8) (count : Nat) :
    validCount
        { buffer with
          pending := Function.update buffer.pending pos byte
          pendingValid := Function.update buffer.pendingValid pos true
          pendingCount := count } =
      buffer.validCount + 1 := by
  rw [validCount, validCount]
  exact count_update h hfree

theorem validCount_store {pos : Nat} {payload : List UInt8}
    (h : pos + payload.length ≤ tcpSocketBufferSize) :
    (buffer.store pos payload).validCount =
      buffer.validCount + buffer.newCount pos payload.length := by
  induction payload generalizing buffer pos with
  | nil => simp [store, newCount]
  | cons byte rest ih =>
      rw [List.length_cons] at h
      rw [store, List.length_cons, newCount_succ]
      split
      · rw [ih buffer (by omega), Nat.zero_add]
      · rename_i hfree
        rw [ih _ (by omega), newCount_update _ (Nat.lt_succ_self pos),
          buffer.validCount_update (by omega) (Bool.eq_false_iff.mpr hfree), Nat.add_assoc]

/-- The places of a window that are held or new are not more than there are. -/
theorem validCount_add_newCount_le {len : Nat} (h : len ≤ tcpSocketBufferSize) :
    buffer.validCount + buffer.newCount 0 len ≤ tcpSocketBufferSize := by
  have hsplit := List.length_eq_countP_add_countP (fun i => buffer.pendingValid i)
    (l := List.range tcpSocketBufferSize)
  rw [List.length_range] at hsplit
  have hvalid : buffer.validCount =
      (List.range tcpSocketBufferSize).countP fun i => buffer.pendingValid i := by
    rw [validCount, Nat.count]
    refine List.countP_congr fun i _ => ?_
    simp
  have hnew : buffer.newCount 0 len ≤
      (List.range tcpSocketBufferSize).countP fun i => !buffer.pendingValid i := by
    rw [newCount]
    simp only [Nat.zero_add]
    exact (List.range_sublist.mpr h).countP_le
  have hnot : ((List.range tcpSocketBufferSize).countP fun i => !buffer.pendingValid i) =
      (List.range tcpSocketBufferSize).countP fun i => decide ¬buffer.pendingValid i = true := by
    refine List.countP_congr fun i _ => ?_
    simp
  omega

/-- The loop that counts `ready` stops at a free place or at the end. -/
theorem readyFrom_stops (valid : Nat → Bool) (fuel start : Nat) :
    valid (readyFrom valid fuel start) = false ∨ readyFrom valid fuel start = start + fuel := by
  induction fuel generalizing start with
  | zero => exact Or.inr rfl
  | succ fuel ih =>
      rw [readyFrom]
      split
      · rcases ih (start + 1) with hfree | hend
        · exact Or.inl hfree
        · exact Or.inr (by omega)
      · rename_i hfree
        exact Or.inl (Bool.eq_false_iff.mpr hfree)

/-- The places behind the run come to the front, and what comes in at the end is free. -/
theorem window_moveReady (count i : Nat) :
    (buffer.moveReady count).window i =
      if i + count < tcpSocketBufferSize then buffer.window (i + count) else none := by
  simp only [window, moveReady]
  split_ifs <;> simp_all

theorem validCount_moveReady {count : Nat} (hcount : count ≤ tcpSocketBufferSize)
    (hrun : ∀ i < count, buffer.pendingValid i = true) :
    (buffer.moveReady count).validCount + count = buffer.validCount := by
  have hend : tcpSocketBufferSize = count + (tcpSocketBufferSize - count) := by omega
  -- The first places are all taken, and their bytes move out.
  have hfront : Nat.count (fun i => buffer.pendingValid i = true) count = count :=
    Nat.count_iff_forall.mpr hrun
  have hmoved : (buffer.moveReady count).validCount =
      Nat.count (fun i => buffer.pendingValid (count + i) = true) (tcpSocketBufferSize - count) := by
    have hfront' : Nat.count (fun i => (buffer.moveReady count).pendingValid i = true)
        (tcpSocketBufferSize - count) =
          Nat.count (fun i => buffer.pendingValid (count + i) = true)
            (tcpSocketBufferSize - count) := by
      refine count_congr fun i hi => ?_
      simp only [moveReady]
      rw [if_pos (by omega), Nat.add_comm]
    have hback : Nat.count (fun i => (buffer.moveReady count).pendingValid
        (tcpSocketBufferSize - count + i) = true) count = 0 := by
      refine Nat.count_iff_forall_not.mpr fun i _ => ?_
      simp only [moveReady]
      rw [if_neg (by omega)]
      exact Bool.false_ne_true
    rw [validCount]
    conv_lhs => rw [← Nat.sub_add_cancel hcount, Nat.count_add, hfront', hback]
    rfl
  rw [hmoved, validCount]
  conv_rhs => rw [hend, Nat.count_add, hfront]
  rw [Nat.add_comm]

end TcpReceiveBuffer

/-! ## The buffer of a socket -/

/-- The facts about a receive buffer that do not speak of what was accepted. -/
structure RecvBufferOk (socket : TcpSocket) : Prop where
  gap : socket.recvBuffer.pendingValid 0 = false
  inside : ∀ i, tcpSocketBufferSize ≤ i → socket.recvBuffer.pendingValid i = false
  count_eq : socket.recvBuffer.pendingCount = socket.recvBuffer.validCount
  room : socket.recvBuffer.data.length + socket.recvBuffer.pendingCount ≤ tcpSocketBufferSize
  hasData_eq : socket.hasData = !socket.recvBuffer.data.isEmpty

/-- The three ends of `tcp_buffer_payload`: nothing new, no room, or the payload is stored. -/
theorem tcpBufferPayload_cases (socket : TcpSocket) (seqNum : UInt32) (payload : List UInt8) :
    tcpBufferPayload socket seqNum payload = (true, socket) ∧
        (payload = [] ∨ tcpTrimPayload socket.recvSeq seqNum payload = none) ∨
      tcpBufferPayload socket seqNum payload = (false, socket) ∨
      ∃ start rest, tcpTrimPayload socket.recvSeq seqNum payload = some (start, rest) ∧
        (start - socket.recvSeq).toNat + rest.length ≤ tcpSocketBufferSize ∧
        socket.recvBuffer.data.length + socket.recvBuffer.pendingCount +
          socket.recvBuffer.newCount (start - socket.recvSeq).toNat rest.length ≤
            tcpSocketBufferSize ∧
        tcpBufferPayload socket seqNum payload =
          (true, tcpDeliverReady socket
            (socket.recvBuffer.store (start - socket.recvSeq).toNat rest)) := by
  rw [tcpBufferPayload]
  split
  · rename_i hempty
    exact Or.inl ⟨rfl, Or.inl (List.isEmpty_iff.mp hempty)⟩
  · split
    · rename_i htrim
      exact Or.inl ⟨rfl, Or.inr htrim⟩
    · rename_i start rest htrim
      simp only
      split
      · exact Or.inr (Or.inl rfl)
      · rename_i hwindow
        split
        · exact Or.inr (Or.inl rfl)
        · rename_i hroom
          exact Or.inr (Or.inr ⟨start, rest, htrim, by omega, Nat.le_of_not_lt hroom, rfl⟩)

/-- Nothing is stored beyond the window. -/
theorem RecvBufferOk.stored_inside {socket : TcpSocket} (h : RecvBufferOk socket) {offset : Nat}
    {payload : List UInt8} (hwindow : offset + payload.length ≤ tcpSocketBufferSize) (i : Nat)
    (hi : tcpSocketBufferSize ≤ i) :
    (socket.recvBuffer.store offset payload).pendingValid i = false := by
  rw [← TcpReceiveBuffer.window_eq_none_iff, TcpReceiveBuffer.window_store,
    (TcpReceiveBuffer.window_eq_none_iff _ i).mpr (h.inside i hi),
    elementAt_of_end_le (by simp only; omega)]
  rfl

/-- What `tcp_buffer_payload` leaves after it has stored a payload. -/
theorem RecvBufferOk.deliver {socket : TcpSocket} (h : RecvBufferOk socket) {offset : Nat}
    {payload : List UInt8} (hwindow : offset + payload.length ≤ tcpSocketBufferSize)
    (hroom : socket.recvBuffer.data.length + socket.recvBuffer.pendingCount +
      socket.recvBuffer.newCount offset payload.length ≤ tcpSocketBufferSize) :
    RecvBufferOk (tcpDeliverReady socket (socket.recvBuffer.store offset payload)) := by
  have hdata := socket.recvBuffer.store_data offset payload
  have hpending := socket.recvBuffer.pendingCount_store offset payload
  have hvalid := socket.recvBuffer.validCount_store hwindow
  have hinside := h.stored_inside hwindow
  generalize socket.recvBuffer.store offset payload = stored at hdata hpending hvalid hinside ⊢
  have hcount : stored.pendingCount = stored.validCount := by
    rw [hpending, hvalid, h.count_eq]
  have hroom' : stored.data.length + stored.pendingCount ≤ tcpSocketBufferSize := by
    rw [hdata, hpending]
    omega
  have hready := stored.ready_le
  have hrun : ∀ i < stored.ready, stored.pendingValid i = true :=
    fun i hi => stored.valid_of_lt_ready hi
  -- The ready bytes end at a gap, which becomes the first place of the window.
  by_cases hzero : 0 < stored.ready
  · have hmoved := stored.validCount_moveReady hready hrun
    simp only [tcpDeliverReady, if_pos hzero]
    refine ⟨?_, ?_, ?_, ?_, rfl⟩
    · simp only [TcpReceiveBuffer.moveReady]
      split
      · rename_i hlt
        rcases TcpReceiveBuffer.readyFrom_stops stored.pendingValid tcpSocketBufferSize 0 with
          hfree | hend
        · rw [Nat.zero_add]
          exact hfree
        · rw [Nat.zero_add] at hend hlt
          exact absurd hend (Nat.ne_of_lt hlt)
      · rfl
    · intro i hi
      simp only [TcpReceiveBuffer.moveReady]
      rw [if_neg (by omega)]
    · simp only [TcpReceiveBuffer.moveReady] at hmoved ⊢
      omega
    · simp only [TcpReceiveBuffer.moveReady, List.length_append, List.length_map, List.length_range]
      omega
  · have hgap := (stored.ready_eq_zero_iff).mp (by omega)
    simp only [tcpDeliverReady, if_neg hzero]
    exact ⟨hgap, hinside, hcount, hroom', rfl⟩

theorem RecvBufferOk.buffer {socket : TcpSocket} (h : RecvBufferOk socket) (seqNum : UInt32)
    (payload : List UInt8) : RecvBufferOk (tcpBufferPayload socket seqNum payload).2 := by
  rcases tcpBufferPayload_cases socket seqNum payload with
    ⟨heq, -⟩ | heq | ⟨start, rest, -, hwindow, hroom, heq⟩
  · rw [heq]
    exact h
  · rw [heq]
    exact h
  · rw [heq]
    exact h.deliver hwindow hroom

/-- Reading takes from the front of `data` alone. -/
theorem RecvBufferOk.recv {socket : TcpSocket} (h : RecvBufferOk socket) (maxLen : Nat) :
    RecvBufferOk (tcpSocketRecv socket maxLen).2 := by
  rw [tcpSocketRecv]
  split
  · exact h
  · have hroom := h.room
    refine ⟨h.gap, h.inside, h.count_eq, ?_, rfl⟩
    simp only [List.length_drop]
    omega

/-! ## Trimming -/

/-- The payload fits a segment, and its numbers do not wrap. -/
def FitsSegment (seqNum : UInt32) (payload : List UInt8) : Prop :=
  payload.length ≤ tcpMaxPayload ∧ seqNum.toNat + payload.length < 2 ^ 32

instance (seqNum : UInt32) (payload : List UInt8) : Decidable (FitsSegment seqNum payload) :=
  inferInstanceAs (Decidable (_ ∧ _))

/-- What is trimmed away altogether ends before `recv_seq`. -/
theorem end_le_of_tcpTrimPayload_eq_none {recvSeq seqNum : UInt32} {payload : List UInt8}
    (h : tcpTrimPayload recvSeq seqNum payload = none) :
    seqNum.toNat + payload.length ≤ recvSeq.toNat := by
  rw [tcpTrimPayload] at h
  split at h
  · rename_i hbefore
    have hsub := UInt32.toNat_sub_of_le _ _ (UInt32.le_of_lt hbefore)
    rw [UInt32.lt_iff_toNat_lt] at hbefore
    simp only at h
    split at h
    · rename_i hold
      rw [hsub] at hold
      omega
    · cases h
  · cases h

/-- What is left of a payload has the bytes the payload has from `recv_seq` on. -/
theorem tcpTrimPayload_spec {recvSeq seqNum start : UInt32} {payload rest : List UInt8}
    (h : tcpTrimPayload recvSeq seqNum payload = some (start, rest)) :
    recvSeq.toNat ≤ start.toNat ∧ start.toNat + rest.length = seqNum.toNat + payload.length ∧
      ∀ place, recvSeq.toNat ≤ place →
        elementAt (start.toNat, rest) place = elementAt (seqNum.toNat, payload) place := by
  rw [tcpTrimPayload] at h
  split at h
  · rename_i hbefore
    have hsub := UInt32.toNat_sub_of_le _ _ (UInt32.le_of_lt hbefore)
    rw [UInt32.lt_iff_toNat_lt] at hbefore
    simp only at h
    split at h
    · cases h
    · rename_i hnew
      obtain ⟨rfl, rfl⟩ := Prod.mk.inj (Option.some.inj h)
      have hstart : seqNum + (recvSeq - seqNum) = recvSeq := by grind
      rw [hsub] at hnew ⊢
      rw [hstart]
      refine ⟨le_rfl, ?_, fun place hplace => ?_⟩
      · rw [List.length_drop]
        omega
      · have hcut : seqNum.toNat + (recvSeq.toNat - seqNum.toNat) ≤ place := by
          omega
        replace hcut := elementAt_drop payload hcut
        rwa [Nat.add_sub_cancel' hbefore.le] at hcut
  · rename_i hahead
    obtain ⟨rfl, rfl⟩ := Prod.mk.inj (Option.some.inj h)
    exact ⟨UInt32.le_iff_toNat_le.mp (UInt32.not_lt.mp hahead), rfl, fun place _ => rfl⟩

/-! ## Runs -/

/-- A socket, the bytes `tcp_socket_recv` has returned, and the payloads that were accepted with their
sequence numbers. -/
structure TcpReader where
  socket : TcpSocket
  delivered : List UInt8
  accepted : List (Chunk UInt8)

inductive TcpReaderAction
  | buffer (seqNum : UInt32) (payload : List UInt8)
  | recv (maxLen : Nat)

/-- The payload of the call fits a segment. -/
def TcpReaderAction.Fits : TcpReaderAction → Prop
  | .buffer seqNum payload => FitsSegment seqNum payload
  | .recv _ => True

namespace TcpReader

/-- Any socket with an empty receive buffer. -/
def initial (socket : TcpSocket) : TcpReader :=
  { socket := { socket with recvBuffer := tcpSocketFree.recvBuffer, hasData := false }
    delivered := []
    accepted := [] }

/-- One call. -/
def step (e : TcpReader) : TcpReaderAction → TcpReader
  | .buffer seqNum payload =>
      let out := tcpBufferPayload e.socket seqNum payload
      { e with
        socket := out.2
        accepted := if out.1 then e.accepted ++ [(seqNum.toNat, payload)] else e.accepted }
  | .recv maxLen =>
      let out := tcpSocketRecv e.socket maxLen
      { e with socket := out.2, delivered := e.delivered ++ out.1 }

/-- The state after a list of calls. -/
def run (e : TcpReader) (actions : List TcpReaderAction) : TcpReader :=
  actions.foldl step e

/-- Every byte that has reached `data` so far. -/
def received (e : TcpReader) : List UInt8 :=
  e.delivered ++ e.socket.recvBuffer.data

/-- `recv_seq` has moved from `first` past what was received, which is what the accepted payloads have
there, and the window holds what they have further on. -/
structure Ok (first : Nat) (e : TcpReader) : Prop where
  buffer : RecvBufferOk e.socket
  recvSeq_eq : e.socket.recvSeq.toNat = first + e.received.length
  received_eq : ∀ i byte, e.received[i]? = some byte → firstAt e.accepted (first + i) = some byte
  window_eq : ∀ i, e.socket.recvBuffer.window i =
    firstAt e.accepted (first + e.received.length + i)
  accepted_lt : ∀ chunk ∈ e.accepted, chunk.1 + chunk.2.length < 2 ^ 32

theorem initial_ok (socket : TcpSocket) : (initial socket).Ok socket.recvSeq.toNat where
  buffer := by
    refine ⟨rfl, fun _ _ => rfl, ?_, Nat.zero_le _, rfl⟩
    exact (Nat.count_iff_forall_not.mpr fun i _ => Bool.false_ne_true).symm
  recvSeq_eq := rfl
  received_eq i byte h := by cases h
  window_eq _ := rfl
  accepted_lt := nofun

/-- An accepted payload changes nothing at the places below it and at those that are covered. -/
theorem Ok.received_concat {first : Nat} {e : TcpReader} (h : e.Ok first) (chunk : Chunk UInt8) :
    ∀ i byte, e.received[i]? = some byte →
      firstAt (e.accepted ++ [chunk]) (first + i) = some byte :=
  fun i byte hbyte => firstAt_concat_of_some (h.received_eq i byte hbyte)

/-- A stored payload. -/
theorem Ok.deliver {first : Nat} {e : TcpReader} (h : e.Ok first) {seqNum start : UInt32}
    {payload rest : List UInt8} (hfits : FitsSegment seqNum payload)
    (htrim : tcpTrimPayload e.socket.recvSeq seqNum payload = some (start, rest))
    (hwindow : (start - e.socket.recvSeq).toNat + rest.length ≤ tcpSocketBufferSize)
    (hroom : e.socket.recvBuffer.data.length + e.socket.recvBuffer.pendingCount +
      e.socket.recvBuffer.newCount (start - e.socket.recvSeq).toNat rest.length ≤
        tcpSocketBufferSize) :
    Ok first
      { e with
        socket := tcpDeliverReady e.socket
          (e.socket.recvBuffer.store (start - e.socket.recvSeq).toNat rest)
        accepted := e.accepted ++ [(seqNum.toNat, payload)] } := by
  obtain ⟨hahead, hend, hsame⟩ := tcpTrimPayload_spec htrim
  have hbuffer := h.buffer.deliver hwindow hroom
  have hoffset := UInt32.toNat_sub_of_le _ _ (UInt32.le_iff_toNat_le.mpr hahead)
  -- The window after the payload is stored, as the accepted payloads have it.
  have hstored : ∀ i, (e.socket.recvBuffer.store (start - e.socket.recvSeq).toNat rest).window i =
      firstAt (e.accepted ++ [(seqNum.toNat, payload)]) (first + e.received.length + i) := by
    intro i
    rw [TcpReceiveBuffer.window_store, h.window_eq, firstAt_concat, ← hsame _ (by
      have := h.recvSeq_eq
      omega), hoffset]
    congr 1
    rw [← h.recvSeq_eq, ← elementAt_add e.socket.recvSeq.toNat]
    congr 2
    omega
  have hdata := e.socket.recvBuffer.store_data (start - e.socket.recvSeq).toNat rest
  have hinside := h.buffer.stored_inside hwindow
  have haccepted : ∀ chunk ∈ e.accepted ++ [(seqNum.toNat, payload)],
      chunk.1 + chunk.2.length < 2 ^ 32 := by
    rw [List.forall_mem_append, List.forall_mem_singleton]
    exact ⟨h.accepted_lt, hfits.2⟩
  generalize e.socket.recvBuffer.store (start - e.socket.recvSeq).toNat rest = stored
    at hstored hdata hbuffer hinside ⊢
  have hrun : ∀ j < stored.ready, firstAt (e.accepted ++ [(seqNum.toNat, payload)])
      (first + e.received.length + j) = some (stored.pending j) := fun j hj => by
    rw [← hstored]
    exact stored.window_of_valid (stored.valid_of_lt_ready hj)
  have hreceived : received
      { e with
        socket := tcpDeliverReady e.socket stored
        accepted := e.accepted ++ [(seqNum.toNat, payload)] } =
      e.received ++ (List.range stored.ready).map stored.pending := by
    simp only [received, tcpDeliverReady]
    split
    · simp only [TcpReceiveBuffer.moveReady, hdata, List.append_assoc]
    · rename_i hzero
      rw [Nat.eq_zero_of_not_pos hzero, hdata]
      simp
  have hlength : (e.received ++ (List.range stored.ready).map stored.pending).length =
      e.received.length + stored.ready := by simp
  refine ⟨hbuffer, ?_, ?_, ?_, haccepted⟩
  · -- Covered numbers do not wrap, so `recv_seq` does not.
    have hlast : first + e.received.length + stored.ready < 2 ^ 32 := by
      have hseq := h.recvSeq_eq
      have hlt := UInt32.toNat_lt e.socket.recvSeq
      by_cases hzero : stored.ready = 0
      · omega
      · obtain ⟨chunk, hchunk, hinside⟩ := exists_of_firstAt (hrun (stored.ready - 1) (by omega))
        have hbound := haccepted chunk hchunk
        omega
    rw [hreceived, hlength]
    simp only [tcpDeliverReady, UInt32.toNat_add, UInt32.toNat_ofNat', h.recvSeq_eq]
    omega
  · intro i byte hbyte
    rw [hreceived, List.getElem?_append] at hbyte
    split at hbyte
    · exact h.received_concat _ i byte hbyte
    · rename_i hbeyond
      rw [List.getElem?_map] at hbyte
      obtain ⟨j, hj, rfl⟩ := Option.map_eq_some_iff.mp hbyte
      obtain ⟨hlt, rfl⟩ := List.getElem?_eq_some_iff.mp hj
      rw [List.length_range] at hlt
      rw [List.getElem_range, ← hrun _ hlt]
      congr 1
      omega
  · intro i
    rw [hreceived, hlength, show first + (e.received.length + stored.ready) + i =
      first + e.received.length + (stored.ready + i) by omega, ← hstored]
    simp only [tcpDeliverReady]
    split
    · rw [TcpReceiveBuffer.window_moveReady, Nat.add_comm i]
      split
      · rfl
      · rename_i hbeyond
        exact ((stored.window_eq_none_iff _).mpr (hinside _ (by omega))).symm
    · rename_i hzero
      rw [Nat.eq_zero_of_not_pos hzero, Nat.zero_add]

/-- A payload of which nothing is new, although it is accepted. -/
theorem Ok.old {first : Nat} {e : TcpReader} (h : e.Ok first) {seqNum : UInt32}
    {payload : List UInt8} (hfits : FitsSegment seqNum payload)
    (hold : payload = [] ∨ tcpTrimPayload e.socket.recvSeq seqNum payload = none) :
    Ok first { e with accepted := e.accepted ++ [(seqNum.toNat, payload)] } := by
  refine ⟨h.buffer, h.recvSeq_eq, h.received_concat _, fun i => ?_, ?_⟩
  · change e.socket.recvBuffer.window i =
      firstAt (e.accepted ++ [(seqNum.toNat, payload)]) (first + e.received.length + i)
    rw [firstAt_concat, ← h.recvSeq_eq]
    have hnone : elementAt (seqNum.toNat, payload) (e.socket.recvSeq.toNat + i) = none := by
      rcases hold with rfl | htrim
      · rw [elementAt]
        simp
      · have hend := end_le_of_tcpTrimPayload_eq_none htrim
        exact elementAt_of_end_le (by simp only; omega)
    rw [hnone, Option.or_none, h.recvSeq_eq]
    exact h.window_eq i
  · rw [List.forall_mem_append, List.forall_mem_singleton]
    exact ⟨h.accepted_lt, hfits.2⟩

theorem Ok.step {first : Nat} {e : TcpReader} (h : e.Ok first) (action : TcpReaderAction)
    (hfits : action.Fits) : (e.step action).Ok first := by
  cases action with
  | buffer seqNum payload =>
      simp only [TcpReader.step]
      rcases tcpBufferPayload_cases e.socket seqNum payload with
        ⟨heq, hold⟩ | heq | ⟨start, rest, htrim, hwindow, hroom, heq⟩
      · rw [heq]
        exact h.old hfits hold
      · rw [heq]
        exact h
      · rw [heq]
        exact h.deliver hfits htrim hwindow hroom
  | recv maxLen =>
      have hreceived : (e.step (.recv maxLen)).received = e.received := by
        simp only [TcpReader.step, received, tcpSocketRecv]
        split
        · rw [List.append_nil]
        · rw [List.append_assoc, List.take_append_drop]
      have hsocket : (e.step (.recv maxLen)).socket.recvSeq = e.socket.recvSeq ∧
          (e.step (.recv maxLen)).socket.recvBuffer.window = e.socket.recvBuffer.window := by
        simp only [TcpReader.step, tcpSocketRecv]
        split
        all_goals exact ⟨rfl, rfl⟩
      refine ⟨h.buffer.recv maxLen, ?_, ?_, ?_, h.accepted_lt⟩
      · rw [hreceived, hsocket.1]
        exact h.recvSeq_eq
      · rw [hreceived]
        exact h.received_eq
      · rw [hreceived, hsocket.2]
        exact h.window_eq

theorem Ok.run {first : Nat} {e : TcpReader} (h : e.Ok first) {actions : List TcpReaderAction}
    (hfits : ∀ action ∈ actions, action.Fits) : (e.run actions).Ok first := by
  rw [TcpReader.run]
  induction actions generalizing e with
  | nil => exact h
  | cons action actions ih =>
      rw [List.forall_mem_cons] at hfits
      exact ih (h.step action hfits.1) hfits.2

end TcpReader

/-! ## Every access is inside its array -/

section Checked

open CheckedBuffer

namespace TcpReceiveBuffer

/-- The loop that counts the new places, with its reads of `pending_valid` checked. -/
def newCountChecked (buffer : TcpReceiveBuffer) (offset : Nat) : Nat → Access Nat
  | 0 => .ok 0
  | i + 1 => do
      let count ← buffer.newCountChecked offset i
      readRange tcpSocketBufferSize (offset + i) 1
      return count + if buffer.pendingValid (offset + i) then 0 else 1

/-- The loop that stores the bytes of `raw` from `cut + i` on, with the number of rounds left. -/
def storeChecked (raw : List UInt8) (cut offset : Nat) :
    Nat → Nat → TcpReceiveBuffer → Access TcpReceiveBuffer
  | 0, _, buffer => .ok buffer
  | rounds + 1, i, buffer => do
      readRange tcpSocketBufferSize (offset + i) 1
      if buffer.pendingValid (offset + i) then
        storeChecked raw cut offset rounds (i + 1) buffer
      else
        let byte ← readByte raw (cut + i)
        writeRange tcpSocketBufferSize (offset + i) 1
        storeChecked raw cut offset rounds (i + 1)
          { buffer with
            pending := Function.update buffer.pending (offset + i) byte
            pendingValid := Function.update buffer.pendingValid (offset + i) true
            pendingCount := buffer.pendingCount + 1 }

/-- The loop that counts `ready`. -/
def readyFromChecked (valid : Nat → Bool) : Nat → Nat → Access Nat
  | 0, ready => .ok ready
  | fuel + 1, ready => do
      readRange tcpSocketBufferSize ready 1
      if valid ready then readyFromChecked valid fuel (ready + 1) else .ok ready

/-- The `memcpy` to `data`, the two `memmove` and the two `memset`. -/
def moveReadyChecked (buffer : TcpReceiveBuffer) (ready : Nat) : Access TcpReceiveBuffer := do
  readRange tcpSocketBufferSize 0 ready
  writeRange tcpSocketBufferSize buffer.data.length ready
  readRange tcpSocketBufferSize ready (sizeSub tcpSocketBufferSize ready)
  writeRange tcpSocketBufferSize 0 (sizeSub tcpSocketBufferSize ready)
  writeRange tcpSocketBufferSize (sizeSub tcpSocketBufferSize ready) ready
  return buffer.moveReady ready

end TcpReceiveBuffer

/-- `tcp_buffer_payload` with its accesses checked. -/
def tcpBufferPayloadChecked (socket : TcpSocket) (seqNum : UInt32) (payload : List UInt8) :
    Access (Bool × TcpSocket) :=
  if payload.isEmpty then
    .ok (true, socket)
  else
    match tcpTrimPayload socket.recvSeq seqNum payload with
    | none => .ok (true, socket)
    | some (start, rest) =>
        let buffer := socket.recvBuffer
        let offset := (start - socket.recvSeq).toNat
        if tcpSocketBufferSize ≤ offset ∨ tcpSocketBufferSize - offset < rest.length then
          .ok (false, socket)
        else do
          let count ← buffer.newCountChecked offset rest.length
          if tcpSocketBufferSize < buffer.data.length + buffer.pendingCount + count then
            return (false, socket)
          else
            let stored ← TcpReceiveBuffer.storeChecked payload (payload.length - rest.length) offset
              rest.length 0 buffer
            let ready ← TcpReceiveBuffer.readyFromChecked stored.pendingValid tcpSocketBufferSize 0
            let moved ← if 0 < ready then stored.moveReadyChecked ready else .ok stored
            return (true,
              { socket with
                recvBuffer := moved
                recvSeq := socket.recvSeq + UInt32.ofNat ready
                hasData := !moved.data.isEmpty })

/-- `tcp_socket_recv` with its accesses checked; `out` has room for `maxLen` bytes. -/
def tcpSocketRecvChecked (socket : TcpSocket) (maxLen : Nat) : Access (List UInt8 × TcpSocket) :=
  if maxLen = 0 ∨ socket.hasData = false ∨ socket.recvBuffer.data.isEmpty then
    .ok ([], socket)
  else do
    let size := socket.recvBuffer.data.length
    let copyLen := if size < maxLen then size else maxLen
    readRange tcpSocketBufferSize 0 copyLen
    writeRange maxLen 0 copyLen
    if copyLen < size then
      readRange tcpSocketBufferSize copyLen (sizeSub size copyLen)
      writeRange tcpSocketBufferSize 0 (sizeSub size copyLen)
    let rest := socket.recvBuffer.data.drop copyLen
    return (socket.recvBuffer.data.take copyLen,
      { socket with
        recvBuffer := { socket.recvBuffer with data := rest }
        hasData := !rest.isEmpty })

namespace TcpReceiveBuffer

variable (buffer : TcpReceiveBuffer)

theorem newCountChecked_eq {offset len : Nat} (h : offset + len ≤ tcpSocketBufferSize) :
    buffer.newCountChecked offset len = .ok (buffer.newCount offset len) := by
  induction len with
  | zero => rfl
  | succ i ih =>
      rw [newCountChecked, ih (by omega), readRange_eq (by omega)]
      rw [newCount, newCount, List.range_succ, List.countP_append, List.countP_singleton]
      cases buffer.pendingValid (offset + i)
      all_goals rfl

theorem storeChecked_eq {raw : List UInt8} {cut offset rounds i : Nat}
    (hraw : cut + i + rounds = raw.length) (h : offset + i + rounds ≤ tcpSocketBufferSize) :
    storeChecked raw cut offset rounds i buffer =
      .ok (buffer.store (offset + i) (raw.drop (cut + i))) := by
  induction rounds generalizing i buffer with
  | zero =>
      rw [List.drop_eq_nil_of_le (by omega)]
      rfl
  | succ rounds ih =>
      have hlt : cut + i < raw.length := by omega
      rw [storeChecked, readRange_eq (by omega), List.drop_eq_getElem_cons hlt, store]
      simp only [bind, Except.bind]
      split
      · exact ih buffer (by omega) (by omega)
      · rw [readByte_eq hlt, writeRange_eq (by omega)]
        simp only
        rw [ih _ (by omega) (by omega), List.getD_eq_getElem _ _ hlt]
        rfl

theorem readyFromChecked_eq (valid : Nat → Bool) {fuel ready : Nat}
    (h : ready + fuel ≤ tcpSocketBufferSize) :
    readyFromChecked valid fuel ready = .ok (readyFrom valid fuel ready) := by
  induction fuel generalizing ready with
  | zero => rfl
  | succ fuel ih =>
      rw [readyFromChecked, readRange_eq (by omega), readyFrom]
      simp only [bind, Except.bind]
      split
      · exact ih (by omega)
      · rfl

theorem moveReadyChecked_eq {ready : Nat} (hready : ready ≤ tcpSocketBufferSize)
    (hroom : buffer.data.length + ready ≤ tcpSocketBufferSize) :
    buffer.moveReadyChecked ready = .ok (buffer.moveReady ready) := by
  rw [moveReadyChecked, sizeSub_eq hready, readRange_eq (by omega), writeRange_eq hroom,
    readRange_eq (by omega), writeRange_eq (by omega), writeRange_eq (by omega)]
  rfl

end TcpReceiveBuffer

/-- What is trimmed is cut off the front. -/
theorem tcpTrimPayload_eq_drop {recvSeq seqNum start : UInt32} {payload rest : List UInt8}
    (h : tcpTrimPayload recvSeq seqNum payload = some (start, rest)) :
    rest = payload.drop (payload.length - rest.length) ∧ rest.length ≤ payload.length := by
  rw [tcpTrimPayload] at h
  split at h
  · simp only at h
    split at h
    · cases h
    · obtain ⟨-, rfl⟩ := Prod.mk.inj (Option.some.inj h)
      rw [List.length_drop]
      refine ⟨?_, Nat.sub_le _ _⟩
      congr 1
      omega
  · obtain ⟨-, rfl⟩ := Prod.mk.inj (Option.some.inj h)
    rw [Nat.sub_self]
    exact ⟨rfl, le_rfl⟩

/-- With an orderly buffer no access of `tcp_buffer_payload` is outside its array. -/
theorem RecvBufferOk.tcpBufferPayloadChecked_eq {socket : TcpSocket} (h : RecvBufferOk socket)
    (seqNum : UInt32) (payload : List UInt8) :
    tcpBufferPayloadChecked socket seqNum payload = .ok (tcpBufferPayload socket seqNum payload) := by
  rw [tcpBufferPayloadChecked, tcpBufferPayload]
  by_cases hempty : payload.isEmpty = true
  · rw [if_pos hempty, if_pos hempty]
  rw [if_neg hempty, if_neg hempty]
  cases htrim : tcpTrimPayload socket.recvSeq seqNum payload with
  | none => rfl
  | some trimmed =>
      obtain ⟨start, rest⟩ := trimmed
      obtain ⟨hrest, hle⟩ := tcpTrimPayload_eq_drop htrim
      simp only
      by_cases hwindow : tcpSocketBufferSize ≤ (start - socket.recvSeq).toNat ∨
          tcpSocketBufferSize - (start - socket.recvSeq).toNat < rest.length
      · rw [if_pos hwindow, if_pos hwindow]
      rw [if_neg hwindow, if_neg hwindow]
      have hinside : (start - socket.recvSeq).toNat + rest.length ≤ tcpSocketBufferSize := by omega
      rw [TcpReceiveBuffer.newCountChecked_eq _ hinside]
      simp only [bind, Except.bind]
      by_cases hroom : tcpSocketBufferSize < socket.recvBuffer.data.length +
          socket.recvBuffer.pendingCount +
            socket.recvBuffer.newCount (start - socket.recvSeq).toNat rest.length
      · rw [if_pos hroom, if_pos hroom]
        rfl
      rw [if_neg hroom, if_neg hroom, TcpReceiveBuffer.storeChecked_eq _ (by omega) (by omega),
        Nat.add_zero, Nat.add_zero, ← hrest]
      simp only
      -- The ready bytes fit behind the unread ones, since they are among those that are held.
      have hdata := socket.recvBuffer.store_data (start - socket.recvSeq).toNat rest
      have hpending := socket.recvBuffer.validCount_store hinside
      have hcount := h.count_eq
      generalize socket.recvBuffer.store (start - socket.recvSeq).toNat rest = stored
        at hdata hpending ⊢
      have hmoved := stored.validCount_moveReady stored.ready_le
        fun i hi => stored.valid_of_lt_ready hi
      have hfits : stored.data.length + stored.ready ≤ tcpSocketBufferSize := by
        rw [hdata]
        omega
      have hready : TcpReceiveBuffer.readyFromChecked stored.pendingValid tcpSocketBufferSize 0 =
          .ok stored.ready := TcpReceiveBuffer.readyFromChecked_eq _ (by omega)
      rw [hready]
      simp only [stored.moveReadyChecked_eq stored.ready_le hfits, tcpDeliverReady]
      by_cases hsome : 0 < stored.ready
      · rw [if_pos hsome, if_pos hsome]
        rfl
      · rw [if_neg hsome, if_neg hsome]
        rfl

/-- Nor is one of `tcp_socket_recv`. -/
theorem RecvBufferOk.tcpSocketRecvChecked_eq {socket : TcpSocket} (h : RecvBufferOk socket)
    (maxLen : Nat) :
    tcpSocketRecvChecked socket maxLen = .ok (tcpSocketRecv socket maxLen) := by
  have hroom := h.room
  rw [tcpSocketRecvChecked, tcpSocketRecv]
  split
  · rfl
  · by_cases hall : socket.recvBuffer.data.length < maxLen
    · simp only [if_pos hall]
      rw [readRange_eq (by omega), writeRange_eq (by omega)]
      simp only [bind, Except.bind, Nat.lt_irrefl, if_false]
      rw [List.take_of_length_le hall.le, List.drop_of_length_le hall.le,
        List.take_of_length_le le_rfl, List.drop_of_length_le le_rfl]
      rfl
    · simp only [if_neg hall]
      rw [readRange_eq (by omega), writeRange_eq (by omega), sizeSub_eq (by omega),
        readRange_eq (by omega), writeRange_eq (by omega)]
      simp only [bind, Except.bind]
      split
      all_goals rfl

end Checked

/-! ## The receive buffer -/

/-- The places a payload was stored at are held. -/
theorem TcpReceiveBuffer.length_le_ready_store (buffer : TcpReceiveBuffer) {payload : List UInt8}
    (hlen : payload.length ≤ tcpSocketBufferSize) :
    payload.length ≤ (buffer.store 0 payload).ready := by
  by_contra hshort
  rw [not_le] at hshort
  rcases readyFrom_stops (buffer.store 0 payload).pendingValid tcpSocketBufferSize 0 with
    hfree | hend
  · rw [← window_eq_none_iff, window_store, Option.or_eq_none_iff] at hfree
    have hcovered := hfree.2
    rw [elementAt, if_pos (Nat.zero_le _), List.getElem?_eq_none_iff] at hcovered
    exact absurd hshort (not_lt.mpr hcovered)
  · rw [Nat.zero_add] at hend
    rw [ready, hend] at hshort
    exact absurd hlen (not_le.mpr hshort)

/-- A drained buffer takes every payload at `recv_seq` whole. -/
theorem RecvBufferOk.takes_next {socket : TcpSocket} (h : RecvBufferOk socket)
    {payload : List UInt8} (hlen : payload.length ≤ tcpSocketBufferSize)
    (hdrained : socket.recvBuffer.data = []) :
    (tcpBufferPayload socket socket.recvSeq payload).1 = true ∧
      ∃ ready, payload.length ≤ ready ∧ ready ≤ tcpSocketBufferSize ∧
        (tcpBufferPayload socket socket.recvSeq payload).2.recvSeq =
          socket.recvSeq + UInt32.ofNat ready := by
  have htrim : tcpTrimPayload socket.recvSeq socket.recvSeq payload =
      some (socket.recvSeq, payload) := if_neg (UInt32.lt_irrefl _)
  have hfree := socket.recvBuffer.validCount_add_newCount_le hlen
  rw [tcpBufferPayload]
  split
  · rename_i hempty
    rw [List.isEmpty_iff.mp hempty]
    exact ⟨rfl, 0, le_rfl, Nat.zero_le _, by simp⟩
  · rename_i hsome
    have hpos : 0 < payload.length :=
      List.length_pos_iff.mpr fun hnil => hsome (List.isEmpty_iff.mpr hnil)
    have hroom : socket.recvBuffer.data.length + socket.recvBuffer.pendingCount +
        socket.recvBuffer.newCount 0 payload.length ≤ tcpSocketBufferSize := by
      rw [hdrained, h.count_eq, List.length_nil, Nat.zero_add]
      exact hfree
    have hzero : (socket.recvSeq - socket.recvSeq).toNat = 0 := by rw [UInt32.sub_self]; rfl
    simp only [htrim, hzero]
    rw [if_neg (by omega), if_neg (by omega)]
    exact ⟨rfl, _, TcpReceiveBuffer.length_le_ready_store _ hlen, TcpReceiveBuffer.ready_le _, rfl⟩

namespace TcpReader

/-- What was received stays. -/
theorem received_prefix_buffer (e : TcpReader) (seqNum : UInt32) (payload : List UInt8) :
    e.received <+: (e.step (.buffer seqNum payload)).received := by
  simp only [step, received]
  rcases tcpBufferPayload_cases e.socket seqNum payload with
    ⟨heq, -⟩ | heq | ⟨start, rest, -, -, -, heq⟩
  · rw [heq]
  · rw [heq]
  · rw [heq]
    have hdata := e.socket.recvBuffer.store_data (start - e.socket.recvSeq).toNat rest
    generalize e.socket.recvBuffer.store (start - e.socket.recvSeq).toNat rest = stored at hdata ⊢
    simp only [tcpDeliverReady]
    split
    · simp only [TcpReceiveBuffer.moveReady, hdata, ← List.append_assoc]
      exact List.prefix_append _ _
    · rw [hdata]

/-- After any calls on a socket that begins with an empty receive buffer, where the payloads fit a
segment and do not wrap: the two arrays are in order, `recv_seq` has moved over the longest run of
numbers that accepted payloads cover, the bytes received are the first accepted ones, no next call
leaves an array or changes anything when it rejects its payload, and a drained buffer takes what comes
next in order. -/
theorem receiveBuffer_invariant (socket : TcpSocket) (actions : List TcpReaderAction)
    (hfits : ∀ action ∈ actions, action.Fits) :
    let e := (initial socket).run actions
    let buffer := e.socket.recvBuffer
    let first := socket.recvSeq.toNat
    (buffer.pendingCount = buffer.validCount ∧
      buffer.data.length + buffer.pendingCount ≤ tcpSocketBufferSize ∧
      buffer.pendingValid 0 = false ∧ (e.socket.hasData = true ↔ 0 < buffer.data.length)) ∧
    (e.socket.recvSeq.toNat = first + e.received.length ∧
      (∀ i < e.received.length,
        ∃ byte, e.received[i]? = some byte ∧ firstAt e.accepted (first + i) = some byte) ∧
      firstAt e.accepted (first + e.received.length) = none) ∧
    (∀ seqNum payload, FitsSegment seqNum payload →
      tcpBufferPayloadChecked e.socket seqNum payload =
          .ok (tcpBufferPayload e.socket seqNum payload) ∧
        ((tcpBufferPayload e.socket seqNum payload).1 = false →
          (tcpBufferPayload e.socket seqNum payload).2 = e.socket) ∧
        (buffer.data = [] → seqNum = e.socket.recvSeq →
          (tcpBufferPayload e.socket seqNum payload).1 = true ∧
            e.socket.recvSeq.toNat + payload.length ≤
              (tcpBufferPayload e.socket seqNum payload).2.recvSeq.toNat)) ∧
    ∀ maxLen, tcpSocketRecvChecked e.socket maxLen = .ok (tcpSocketRecv e.socket maxLen) := by
  intro e buffer first
  have hok : e.Ok first := (initial_ok socket).run hfits
  refine ⟨⟨hok.buffer.count_eq, hok.buffer.room, hok.buffer.gap, ?_⟩,
    ⟨hok.recvSeq_eq, fun i hi => ?_, ?_⟩, fun seqNum payload hpayload => ⟨?_, fun hrejected => ?_, ?_⟩,
    fun maxLen => hok.buffer.tcpSocketRecvChecked_eq maxLen⟩
  · rw [hok.buffer.hasData_eq]
    change _ ↔ 0 < e.socket.recvBuffer.data.length
    cases e.socket.recvBuffer.data with
    | nil => simp
    | cons byte rest => simp
  · exact ⟨_, List.getElem?_eq_getElem hi, hok.received_eq i _ (List.getElem?_eq_getElem hi)⟩
  · have hgap := hok.window_eq 0
    rw [Nat.add_zero, (TcpReceiveBuffer.window_eq_none_iff _ 0).mpr hok.buffer.gap] at hgap
    exact hgap.symm
  · exact hok.buffer.tcpBufferPayloadChecked_eq seqNum payload
  · rcases tcpBufferPayload_cases e.socket seqNum payload with
      ⟨heq, -⟩ | heq | ⟨start, rest, -, -, -, heq⟩
    · rw [heq]
    · rw [heq]
    · rw [heq] at hrejected
      cases hrejected
  · rintro hdrained rfl
    have hlen : payload.length ≤ tcpSocketBufferSize :=
      hpayload.1.trans (by decide : tcpMaxPayload ≤ tcpSocketBufferSize)
    obtain ⟨htaken, ready, hle, hsize, hseq⟩ := hok.buffer.takes_next hlen hdrained
    -- `recv_seq` only moves ahead, so it has not wrapped.
    have hafter := (hok.step (.buffer e.socket.recvSeq payload) hpayload).recvSeq_eq
    have hbefore := hok.recvSeq_eq
    have hgrows := (e.received_prefix_buffer e.socket.recvSeq payload).length_le
    have hwrap := congrArg UInt32.toNat hseq
    rw [UInt32.toNat_add, UInt32.toNat_ofNat'] at hwrap
    simp only [TcpReader.step] at hafter hgrows
    simp only [tcpSocketBufferSize] at hsize
    refine ⟨htaken, ?_⟩
    omega

/-- Two bytes from 102 on, two from 100 on, a read, and four from 101 on, of which one is new. -/
def reorderedCalls : List TcpReaderAction :=
  [.buffer 102 [99, 100], .buffer 100 [97, 98], .recv 1, .buffer 101 [98, 88, 89, 101]]

theorem receiveBuffer_invariant_reordered :
    let e := (initial { tcpSocketFree with recvSeq := 100 }).run reorderedCalls
    e.received = [97, 98, 99, 100, 101] ∧ firstAt e.accepted 103 = some 100 := by
  have hreceived : ((initial { tcpSocketFree with recvSeq := 100 }).run reorderedCalls).received =
      [97, 98, 99, 100, 101] := by decide +kernel
  have hrun := receiveBuffer_invariant { tcpSocketFree with recvSeq := 100 } reorderedCalls (by
    simp only [reorderedCalls, List.forall_mem_cons, TcpReaderAction.Fits]
    exact ⟨by decide, by decide, trivial, by decide, nofun⟩)
  obtain ⟨byte, hbyte, hfirst⟩ := hrun.2.1.2.1 3 (by rw [hreceived]; decide)
  rw [hreceived] at hbyte
  obtain rfl : 100 = byte := Option.some.inj hbyte
  exact ⟨hreceived, hfirst⟩

end TcpReader

end MagiStack
