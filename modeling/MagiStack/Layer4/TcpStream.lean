import MagiStack.Layer4.TcpPreserve

/-!
# TcpStream — the two byte streams of a connection

The facts of `TcpInvariant` hold at the start and after every step, hence in every world a list of
actions reaches.  Read at the two sockets they say that what an application has read, followed by what
is ready for it, is the beginning of what the other application sent, up to `recv_seq`.
-/

namespace MagiStack

open Reassembly

/-! ## The invariant over runs -/

/-- Both ends and every segment sent are in order. -/
structure TcpWorld.Ok (w : TcpWorld) : Prop where
  sender : ∀ side, SenderOk (w.ends side)
  receiver : ∀ side, ReceiverOk (w.ends side) (w.ends side.peer)
  net : ∀ side, ∀ segment ∈ w.net side,
    ∃ iss, SegmentOk (w.ends side) (w.ends side.peer) iss segment

theorem senderOk_absent : SenderOk TcpEnd.absent :=
  ⟨fun _ => rfl, fun _ h => (nomatch h), fun _ h => (nomatch h), fun _ => rfl⟩

theorem unheard_absent : Unheard TcpEnd.absent :=
  ⟨rfl, rfl, rfl, fun _ => rfl, fun h => (nomatch h), fun h => (nomatch h)⟩

theorem TcpWorld.initial_ok (addresses : TcpAddresses) : (TcpWorld.initial addresses).Ok := by
  refine ⟨?_, ?_, ?_⟩
  · intro side
    cases side with
    | server => exact senderOk_absent
    | client =>
        have hiss : (1000 : UInt32).toNat ≤ 67535 := by decide
        exact SenderOk.of_inUse rfl rfl hiss ⟨rfl, rfl, rfl⟩
  · intro side
    cases side with
    | server => exact ⟨fun _ => unheard_absent, fun _ h => (nomatch h)⟩
    | client =>
        exact ⟨fun _ => ⟨rfl, rfl, rfl, fun _ => rfl, fun _ => ⟨rfl, rfl⟩, fun h => (nomatch h)⟩,
          fun _ h => (nomatch h)⟩
  · intro side segment hsegment
    cases side with
    | server => exact absurd hsegment List.not_mem_nil
    | client =>
        -- The only segment is the SYN of the client.
        obtain rfl := List.mem_singleton.1 hsegment
        refine ⟨1000, rfl, ?_, ?_, ?_, ?_⟩
        · intro _
          rw [tcpSynSegment, tcpStoreChecksum_seqNum]
          rfl
        · intro hne
          rw [tcpSynSegment, tcpStoreChecksum_payload] at hne
          exact absurd rfl hne
        · intro hflag
          rw [tcpSynSegment, tcpStoreChecksum_hasFlag] at hflag
          change (tcpFlagSyn &&& tcpFlagFin != 0) = true at hflag
          exact absurd hflag (by decide)
        · intro hflag
          rw [tcpSynSegment, tcpStoreChecksum_hasFlag] at hflag
          change (tcpFlagSyn &&& tcpFlagAck != 0) = true at hflag
          exact absurd hflag (by decide)

theorem TcpSide.eq_or_eq_peer (side side' : TcpSide) : side' = side ∨ side' = side.peer := by
  cases side <;> cases side' <;> simp [TcpSide.peer]

/-- A step of one end keeps the other end and the old segments in order. -/
theorem TcpWorld.Ok.update {w : TcpWorld} (h : w.Ok) {side : TcpSide} {e : TcpEnd}
    {out : List TcpSegment} (hstep : EndStep (w.ends side) (w.ends side.peer) e out) :
    (w.update side e out).Ok := by
  have hpeer := h.receiver side.peer
  rw [TcpSide.peer_peer] at hpeer
  refine ⟨?_, ?_, ?_⟩
  · intro side'
    obtain rfl | rfl := side.eq_or_eq_peer side'
    · rw [TcpWorld.update_ends_self]
      exact hstep.sender
    · rw [TcpWorld.update_ends_peer]
      exact h.sender side.peer
  · intro side'
    obtain rfl | rfl := side.eq_or_eq_peer side'
    · rw [TcpWorld.update_ends_self, TcpWorld.update_ends_peer]
      exact hstep.receiver
    · rw [TcpSide.peer_peer, TcpWorld.update_ends_self, TcpWorld.update_ends_peer]
      exact hpeer.later hstep.later
  · intro side' segment hsegment
    obtain rfl | rfl := side.eq_or_eq_peer side'
    · rw [TcpWorld.update_net_self, List.mem_append] at hsegment
      rw [TcpWorld.update_ends_self, TcpWorld.update_ends_peer]
      obtain hold | hnew := hsegment
      · obtain ⟨iss, hok⟩ := h.net side' segment hold
        exact ⟨iss, hok.later hstep.later⟩
      · exact hstep.out segment hnew
    · rw [TcpWorld.update_net_peer] at hsegment
      rw [TcpSide.peer_peer, TcpWorld.update_ends_self, TcpWorld.update_ends_peer]
      obtain ⟨iss, hok⟩ := h.net side.peer segment hsegment
      rw [TcpSide.peer_peer] at hok
      exact ⟨iss, hok.later_peer hstep.later⟩

theorem TcpWorld.Ok.deliver {w : TcpWorld} (h : w.Ok) (addresses : TcpAddresses)
    {side : TcpSide} {segment : TcpSegment} (hsegment : segment ∈ w.net side.peer)
    (hbound : (w.ends side.peer).sent.length < 2 ^ 31) :
    (w.deliver addresses side segment).Ok := by
  obtain ⟨iss, hok⟩ := h.net side.peer segment hsegment
  rw [TcpSide.peer_peer] at hok
  rw [TcpWorld.deliver]
  split
  · rename_i hvalid
    rw [TcpWorld.receiver]
    split
    · exact h
    · rename_i e hreceiver
      simp only [tcpSocketReceiveSegment, hvalid, if_true]
      apply h.update
      -- The end exists and takes the segment, or the segment makes it.
      split at hreceiver
      · rename_i hmatches
        cases hreceiver
        have huse : (w.ends side).socket.inUse = true := by
          simp only [tcpSocketMatches, Bool.and_eq_true] at hmatches
          exact hmatches.1.1.1.1.1.1
        exact endStep_receive (h.sender side) (h.sender side.peer) (h.receiver side) huse hbound
          hok
      · split at hreceiver
        · rename_i hopen
          cases hreceiver
          obtain ⟨-, hiss, -, hsyn⟩ := hopen
          have habsent := (h.sender side).absent hiss
          rw [habsent] at hok ⊢
          exact endStep_listen rfl rfl rfl hok hsyn
        · cases hreceiver
  · exact h

theorem TcpWorld.Ok.step {w : TcpWorld} (h : w.Ok) (addresses : TcpAddresses)
    (action : TcpAction) (hbound : ∀ side, (w.ends side).sent.length < 2 ^ 31) :
    (w.step addresses action).Ok := by
  cases action with
  | send side data =>
      simp only [TcpWorld.step]
      split
      · exact h
      · rename_i socket segment hsend
        exact h.update (endStep_send (h.sender side) (h.receiver side) hsend)
  | recv side maxLen => exact h.update (endStep_recv (h.sender side) (h.receiver side) maxLen)
  | close side => exact h.update (endStep_close (h.sender side) (h.receiver side))
  | deliver side index =>
      simp only [TcpWorld.step]
      split
      · exact h
      · rename_i segment hsegment
        exact h.deliver addresses (List.mem_of_getElem? hsegment) (hbound side.peer)

/-- What an application has sent is never taken back. -/
theorem TcpWorld.sent_prefix_step (addresses : TcpAddresses) (w : TcpWorld) (action : TcpAction)
    (side : TcpSide) : (w.ends side).sent <+: ((w.step addresses action).ends side).sent := by
  have hupdate : ∀ (side' : TcpSide) (e : TcpEnd) (out : List TcpSegment),
      (w.ends side').sent <+: e.sent → (w.ends side).sent <+: ((w.update side' e out).ends side).sent := by
    intro side' e out hpre
    obtain rfl | rfl := side'.eq_or_eq_peer side
    · rw [TcpWorld.update_ends_self]
      exact hpre
    · rw [TcpWorld.update_ends_peer]
  -- Only `tcp_socket_send` adds to what was sent.
  cases action with
  | send side' data =>
      simp only [TcpWorld.step]
      split
      · exact List.prefix_refl _
      · exact hupdate side' _ _ (List.prefix_append _ _)
  | recv side' maxLen => exact hupdate side' _ _ (List.prefix_refl _)
  | close side' => exact hupdate side' _ _ (List.prefix_refl _)
  | deliver side' index =>
      simp only [TcpWorld.step]
      split
      · exact List.prefix_refl _
      · rw [TcpWorld.deliver]
        split
        · split
          · exact List.prefix_refl _
          · rename_i e hreceiver
            refine hupdate side' _ _ ?_
            rw [TcpWorld.receiver] at hreceiver
            split at hreceiver
            · cases hreceiver
              exact List.prefix_refl _
            · split at hreceiver
              · cases hreceiver
                exact List.prefix_refl _
              · cases hreceiver
        · exact List.prefix_refl _

theorem TcpWorld.sent_prefix_run (addresses : TcpAddresses) (actions : List TcpAction) :
    ∀ (w : TcpWorld) (side : TcpSide), (w.ends side).sent <+:
      ((actions.foldl (TcpWorld.step addresses) w).ends side).sent := by
  induction actions with
  | nil => exact fun _ _ => List.prefix_refl _
  | cons action actions ih =>
      intro w side
      exact (w.sent_prefix_step addresses action side).trans (ih _ side)

/-- The invariant holds after every run in which each side sends fewer than `2^31` bytes. -/
theorem TcpWorld.run_ok (addresses : TcpAddresses) (actions : List TcpAction)
    (hbound : ∀ side, ((run addresses actions).ends side).sent.length < 2 ^ 31) :
    (run addresses actions).Ok := by
  have hfrom : ∀ w : TcpWorld, w.Ok →
      (∀ side, ((actions.foldl (step addresses) w).ends side).sent.length < 2 ^ 31) →
        (actions.foldl (step addresses) w).Ok := by
    clear hbound
    induction actions with
    | nil => exact fun _ h _ => h
    | cons action actions ih =>
        intro w h hbound
        -- What is sent only grows, so the bound at the end holds at every step before it.
        refine ih _ (h.step addresses action fun side => ?_) hbound
        have hpre := sent_prefix_run addresses (action :: actions) w side
        exact lt_of_le_of_lt hpre.length_le (hbound side)
  exact hfrom _ (initial_ok addresses) hbound

/-! ## Stream safety -/

/-- The number of data bytes `recv_seq` has moved past `iss + 1`, a consumed FIN not counted. -/
def streamPosition (e : TcpEnd) (iss : UInt32) : Nat :=
  (e.socket.recvSeq - (iss + 1)).toNat - if e.finConsumed then 1 else 0

/-- What the application of `e` has read, followed by what `recv_buffer.data` holds. -/
def TcpEnd.received (e : TcpEnd) : List UInt8 :=
  e.delivered ++ e.socket.recvBuffer.data

/-- `e` has received a beginning of what its peer sent, of the length `recv_seq` says.  A socket that
waits for the peer's number has received nothing, and a freed one nothing but such a beginning. -/
def StreamSafe (e peer : TcpEnd) : Prop :=
  if e.socket.inUse then
    if e.socket.state = .synSent then
      e.received = []
    else
      ∃ iss, peer.iss = some iss ∧ streamPosition e iss ≤ peer.sent.length ∧
        e.received = peer.sent.take (streamPosition e iss)
  else
    e.received <+: peer.sent

/-- Both ends know each other's initial sequence numbers. -/
def AgreeOnNumbers (client server : TcpEnd) : Prop :=
  ∃ clientIss serverIss,
    client.iss = some clientIss ∧ server.irs = some clientIss ∧
      server.iss = some serverIss ∧ client.irs = some serverIss

theorem Hearing.streamPosition_eq {e peer : TcpEnd} {irs : UInt32} (hr : ReceiverOk e peer)
    (h : Hearing e peer irs) (huse : e.socket.inUse = true)
    (hbound : peer.sent.length < 2 ^ 31) : streamPosition e irs = e.entered.length := by
  have hcount := hr.recvCount_le
  have hsub := streamSeq_sub_toNat irs (n := e.recvCount) (m := 0) (Nat.zero_le _) (by omega)
  rw [streamSeq_zero, ← h.recvSeq_eq huse] at hsub
  rw [streamPosition, hsub, TcpEnd.recvCount]
  omega

theorem TcpWorld.Ok.streamSafe {w : TcpWorld} (h : w.Ok)
    (hbound : ∀ side, (w.ends side).sent.length < 2 ^ 31) (side : TcpSide) :
    StreamSafe (w.ends side) (w.ends side.peer) := by
  have hr := h.receiver side
  have hs := h.sender side
  rw [StreamSafe]
  split
  · rename_i huse
    split
    -- In SYN_SENT nothing has come from the peer.
    · rename_i hstate
      have hirs : (w.ends side).irs = none := by
        cases hcase : (w.ends side).irs with
        | none => rfl
        | some irs => exact absurd hstate ((hr.hearing irs hcase).stream huse).1
      have hunheard := hr.unheard hirs
      rw [TcpEnd.received, hunheard.delivered, hunheard.data]
      rfl
    · rename_i hstate
      obtain ⟨irs, hirs, hear⟩ := hr.hearing_of_state huse hstate
      have hentered : (w.ends side).received = (w.ends side).entered :=
        (hear.stream huse).2.2.1.symm
      have hpre := hr.entered_prefix
      refine ⟨irs, hear.peer_iss, ?_⟩
      rw [hear.streamPosition_eq hr huse (hbound side.peer), hentered]
      exact ⟨hpre.length_le, List.prefix_iff_eq_take.1 hpre⟩
  -- Of a freed socket only what was delivered is left.
  · rename_i huse
    have huse' : (w.ends side).socket.inUse = false := by simpa using huse
    have hdata : (w.ends side).received = (w.ends side).delivered := by
      rw [TcpEnd.received, hs.free huse']
      exact List.append_nil _
    rw [hdata]
    cases hirs : (w.ends side).irs with
    | none =>
        rw [(hr.unheard hirs).delivered]
        exact List.nil_prefix
    | some irs =>
        obtain ⟨hdelivered, hentered, -⟩ := (hr.hearing irs hirs).freed huse'
        exact hdelivered.trans hentered

theorem SenderOk.inUse_of_established {e : TcpEnd} (h : SenderOk e)
    (hstate : e.socket.state = .established) : e.socket.inUse = true := by
  cases huse : e.socket.inUse with
  | true => rfl
  | false =>
      rw [h.free huse] at hstate
      cases hstate

theorem TcpWorld.Ok.agreeOnNumbers {w : TcpWorld} (h : w.Ok)
    (hestablished : ∀ side, (w.ends side).socket.state = .established) :
    AgreeOnNumbers (w.ends .client) (w.ends .server) := by
  have hknown : ∀ side, ∃ irs, (w.ends side).irs = some irs ∧ (w.ends side.peer).iss = some irs := by
    intro side
    have huse := (h.sender side).inUse_of_established (hestablished side)
    obtain ⟨irs, hirs, hear⟩ := (h.receiver side).hearing_of_state huse
      (by rw [hestablished side]; decide)
    exact ⟨irs, hirs, hear.peer_iss⟩
  obtain ⟨serverIss, hclient, hserver⟩ := hknown .client
  obtain ⟨clientIss, hserver', hclient'⟩ := hknown .server
  exact ⟨clientIss, serverIss, hclient', hserver', hserver, hclient⟩

/-- In every reachable world and for each direction, what was received is the beginning of what was
sent, and two established sockets agree on both initial sequence numbers. -/
theorem tcp_stream_safety (addresses : TcpAddresses) (actions : List TcpAction)
    (hbound : ∀ side, ((TcpWorld.run addresses actions).ends side).sent.length < 2 ^ 31) :
    (∀ side, StreamSafe ((TcpWorld.run addresses actions).ends side)
        ((TcpWorld.run addresses actions).ends side.peer)) ∧
      ((∀ side, ((TcpWorld.run addresses actions).ends side).socket.state = .established) →
        AgreeOnNumbers ((TcpWorld.run addresses actions).ends .client)
          ((TcpWorld.run addresses actions).ends .server)) := by
  have hok := TcpWorld.run_ok addresses actions hbound
  exact ⟨hok.streamSafe hbound, hok.agreeOnNumbers⟩

/-- Two hosts, with the listener in the first slot. -/
def exampleAddresses : TcpAddresses :=
  { ip := fun
      | .client => ⟨10, 0, 0, 1, 24⟩
      | .server => ⟨10, 0, 0, 2, 24⟩
    port := fun
      | .client => 2080
      | .server => 80
    listener := 0 }

/-- The handshake, then two data segments that arrive in the wrong order, one of them twice. -/
def reorderedActions : List TcpAction :=
  [.deliver .server 0, .deliver .client 0, .deliver .server 1, .send .client [1, 2],
    .send .client [3], .deliver .server 3, .deliver .server 2, .deliver .server 3, .recv .server 2]

theorem tcp_stream_safety_reordered :
    ((TcpWorld.run exampleAddresses reorderedActions).ends .server).delivered = [1, 2] ∧
      StreamSafe ((TcpWorld.run exampleAddresses reorderedActions).ends .server)
        ((TcpWorld.run exampleAddresses reorderedActions).ends .client) ∧
      AgreeOnNumbers ((TcpWorld.run exampleAddresses reorderedActions).ends .client)
        ((TcpWorld.run exampleAddresses reorderedActions).ends .server) := by
  have hsent : ∀ side,
      ((TcpWorld.run exampleAddresses reorderedActions).ends side).sent.length < 2 ^ 31 := by
    intro side
    cases side <;> decide +kernel
  have hestablished : ∀ side,
      ((TcpWorld.run exampleAddresses reorderedActions).ends side).socket.state = .established := by
    intro side
    cases side <;> decide +kernel
  obtain ⟨hsafe, hagree⟩ := tcp_stream_safety exampleAddresses reorderedActions hsent
  exact ⟨by decide +kernel, hsafe .server, hagree hestablished⟩

end MagiStack
