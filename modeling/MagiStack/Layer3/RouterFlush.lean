import MagiStack.Layer2.HostOrder
import MagiStack.Layer3.RouterQueue
import MagiStack.Library.Returning

/-!
# RouterFlush — what follows an ARP reply

`router_flush_pending_packets` takes the packets for the sender of a reply out of the queue and sends them
again.  A packet whose next hop was learned leaves; one whose next hop was not, because the ARP table is
full, goes back into the queue, where the loop finds it once more.
-/

namespace MagiStack

open Returning

section Times

variable {Ms : Type} [SimTime Ms]

/-- In realtime mode the calls under way go on alone; `nowMs k` is the time the piece `k` reads. -/
def routerRealtimeStep (nowMs : Nat → Ms) (k : Nat) (r : RouterState Ms) : RouterState Ms :=
  (routerResume r true (nowMs k)).1

/-- What a reply has started comes to an end, with no packet left for its sender; `base` is the stack below. -/
def RouterFlushEnds (nowMs : Nat → Ms) (base : List (RouterTask Ms)) (senderIp : IpAddress)
    (r : RouterState Ms) : Prop :=
  ∃ n r', Returns (routerRealtimeStep nowMs) (fun s => s.tasks = base) 0 r n r' ∧
    ∀ item ∈ r'.pending, item.waitsFor senderIp = false

omit [SimTime Ms] in
/-- The message with which `router_receive` comes to its ARP branch. -/
def routerReceivedArp (r : RouterState Ms) (port : Fin maxPort) (raw : List UInt8) :
    Option ArpMessage :=
  (ethernetFromBytes raw).bind fun frame =>
    if !ethernetIsBroadcast frame.dstMac && !macEqual frame.dstMac (r.macs port) then
      none
    else if frame.ethertype = ethernetTypeArp then
      arpMessageFromBytes frame.payload
    else
      none

/-- A reply is learned, and its sender's packets are flushed. -/
theorem routerReceive_reply {r : RouterState Ms} {port : Fin maxPort} {raw : List UInt8}
    {arp : ArpMessage} (h : routerReceivedArp r port raw = some arp) (hreply : arp.opcode = .reply)
    (nowMs : Ms) (number : Option Nat) :
    ∃ vlanId, (routerReceive r port raw nowMs number).1 =
      (routerLearnArp (routerNoteVlan r port vlanId) arp vlanId).pushTask (.flush arp.senderIp) := by
  rw [routerReceivedArp] at h
  obtain ⟨frame, hframe, h⟩ := Option.bind_eq_some_iff.mp h
  refine ⟨if frame.hasVlan then (frame.vlanId.toNat : Int) else 0, ?_⟩
  rw [routerReceive, hframe]
  dsimp only
  have hmacs : (routerNoteVlan r port (if frame.hasVlan then (frame.vlanId.toNat : Int) else 0)).macs =
      r.macs := rfl
  rw [hmacs]
  split at h
  · cases h
  · rename_i haddress
    rw [if_neg haddress]
    split at h
    · rename_i htype
      rw [if_pos htype, h]
      dsimp only
      have hrequest : ¬ (arp.opcode = .request ∧ routerHasInterfaceIp
          (routerLearnArp (routerNoteVlan r port
            (if frame.hasVlan then (frame.vlanId.toNat : Int) else 0)) arp
            (if frame.hasVlan then (frame.vlanId.toNat : Int) else 0)) arp.targetIp = true) := by
        rw [hreply]
        rintro ⟨hcontra, -⟩
        cases hcontra
      rw [routerReceiveArp, if_neg hrequest, if_pos hreply]
    · cases h

/-! ## Learning -/

omit [SimTime Ms] in
theorem routerLearnArp_learned {r : RouterState Ms} {arp : ArpMessage} {table : ArpTable}
    (h : arpTableSet r.arpTable arp.senderIp arp.senderMac = some table) (vlanId : Int) :
    arpTableGetConst (routerLearnArp r arp vlanId).arpTable arp.senderIp = some arp.senderMac := by
  have hget := arpTableGetConst_set h
  rw [routerLearnArp, h]
  dsimp only
  split
  · exact hget
  · exact hget

omit [SimTime Ms] in
theorem routerLearnArp_full {r : RouterState Ms} {arp : ArpMessage}
    (h : arpTableSet r.arpTable arp.senderIp arp.senderMac = none) (vlanId : Int) :
    routerLearnArp r arp vlanId = r := by
  rw [routerLearnArp, h]

/-- An address is set unless it is new and the table is full. -/
theorem arpTableSet_eq_none_iff (table : ArpTable) (ip : IpAddress) (mac : MacAddress) :
    arpTableSet table ip mac = none ↔
      arpTableFindIndex table ip = none ∧ arpTableMaxEntries ≤ table.entries.length := by
  rw [arpTableSet]
  cases arpTableFindIndex table ip with
  | some index => simp
  | none =>
      dsimp only
      split
      · rename_i hroom
        simp [hroom]
      · rename_i hroom
        simp [Nat.le_of_not_lt hroom]

theorem arpTableGetConst_congr (table : ArpTable) {a b : IpAddress}
    (h : ipOctetsEqualPublic a b = true) : arpTableGetConst table a = arpTableGetConst table b := by
  rw [arpTableGetConst, arpTableGetConst, arpTableFindIndex, arpTableFindIndex]
  simp only [ipOctetsEqualPublic_congr h]

/-! ## A round of the loop -/

omit [SimTime Ms] in
theorem length_pending_le (r : RouterState Ms) : r.pending.length ≤ routerPendingQueueMaxEntries := by
  have hvalid := r.pendingQueue.valid.size_le
  rwa [← RingBuffer.length_toList] at hvalid

/-- A packet whose next hop is known leaves. -/
theorem routerSendPacketToNextHop_known {r : RouterState Ms} {nextHopIp : IpAddress}
    (h : (arpTableGetConst r.arpTable nextHopIp).isSome = true) (packet : Ipv4Packet)
    (outInterface : Int) (nowMs : Ms) (cargo : Option RouterCargo) :
    (routerSendPacketToNextHop r packet nextHopIp outInterface nowMs cargo).1 = r := by
  obtain ⟨mac, hmac⟩ := Option.isSome_iff_exists.mp h
  rw [routerSendPacketToNextHop, hmac]
  split
  · rfl
  · dsimp only
    split
    · rfl
    · rfl

/-- A packet whose next hop is not known goes into the queue. -/
theorem routerSendPacketToNextHop_unknown {r : RouterState Ms} {nextHopIp : IpAddress}
    (h : arpTableGetConst r.arpTable nextHopIp = none) (packet : Ipv4Packet) {outInterface : Int}
    (hport : IsPort r.numInterfaces outInterface)
    (hroom : r.pending.length < routerPendingQueueMaxEntries) (nowMs : Ms)
    (cargo : Option RouterCargo) :
    ∃ item, item.nextHopIp = nextHopIp ∧
      (routerSendPacketToNextHop r packet nextHopIp outInterface nowMs cargo).1.pending =
        r.pending ++ [item] := by
  obtain ⟨port, hport⟩ := Option.isSome_iff_exists.mp ((routerInterface_isSome_iff r _).mpr hport)
  have hsize : r.pendingQueue.size < routerPendingQueueMaxEntries := by
    rwa [RingQueue.size, ← RingBuffer.length_toList]
  rw [routerSendPacketToNextHop, hport, h]
  dsimp only
  have hpush : ∀ item, routerQueuePendingPacket r item =
      some { r with pendingQueue := r.pendingQueue.push hsize item } := by
    intro item
    rw [routerQueuePendingPacket, dif_pos hsize]
  rw [hpush]
  refine ⟨?item, ?next, ?queued⟩
  case queued =>
    dsimp only
    split
    · exact RingQueue.toList_push r.pendingQueue hsize _
    · split
      · exact RingQueue.toList_push r.pendingQueue hsize _
      · exact RingQueue.toList_push r.pendingQueue hsize _
  case next => rfl

theorem routerRealtimeStep_flush {nowMs : Nat → Ms} {k : Nat} {r : RouterState Ms}
    {resolvedIp : IpAddress} {base : List (RouterTask Ms)} (h : r.tasks = .flush resolvedIp :: base) :
    routerRealtimeStep nowMs k r =
      (routerFlushRound { r with tasks := base } resolvedIp (nowMs k)).1 := by
  rw [routerRealtimeStep, routerResume, h]

/-- In realtime mode nothing follows a request at once. -/
theorem routerRealtimeStep_recheck {nowMs : Nat → Ms} {k : Nat} {r : RouterState Ms}
    {nextHopIp : IpAddress} {pollMs : Ms} {base : List (RouterTask Ms)}
    (h : r.tasks = .recheck nextHopIp pollMs :: base) :
    routerRealtimeStep nowMs k r = { r with tasks := base } := by
  rw [routerRealtimeStep, routerResume, h]
  rfl

/-! ## The address is known, or nothing waits for it -/

/-- The loop is under way and each packet it finds will leave, or it is over and has left none. -/
def RouterFlushing (base : List (RouterTask Ms)) (resolvedIp : IpAddress) (r : RouterState Ms) : Prop :=
  (r.tasks = .flush resolvedIp :: base ∧
      ((arpTableGetConst r.arpTable resolvedIp).isSome = true ∨
        ∀ item ∈ r.pending, item.waitsFor resolvedIp = false)) ∨
    (r.tasks = base ∧ ∀ item ∈ r.pending, item.waitsFor resolvedIp = false)

/-- The packets the loop still has to take out, and the tasks. -/
def flushMeasure (resolvedIp : IpAddress) (r : RouterState Ms) : Nat :=
  r.pending.countP (RouterPendingPacket.waitsFor resolvedIp) + r.tasks.length

theorem RouterFlushing.step {nowMs : Nat → Ms} {k : Nat} {base : List (RouterTask Ms)}
    {resolvedIp : IpAddress} {r : RouterState Ms} (h : RouterFlushing base resolvedIp r)
    (hnot : r.tasks ≠ base) :
    RouterFlushing base resolvedIp (routerRealtimeStep nowMs k r) ∧
      flushMeasure resolvedIp (routerRealtimeStep nowMs k r) < flushMeasure resolvedIp r := by
  obtain ⟨htasks, hknown⟩ | ⟨htasks, -⟩ := h
  · obtain ⟨queue, hdequeue, hpending⟩ :=
      routerDequeuePendingForIp_spec { r with tasks := base } resolvedIp
    have hwaiting : RouterState.pending { r with tasks := base } = r.pending := rfl
    rw [hwaiting] at hdequeue hpending
    rw [routerRealtimeStep_flush htasks, routerFlushRound, hdequeue, flushMeasure, flushMeasure,
      htasks, List.length_cons]
    cases hfind : r.pending.find? (RouterPendingPacket.waitsFor resolvedIp) with
    | none =>
        -- The loop finds nothing and is over.
        have hnone : ∀ item ∈ r.pending, ¬ item.waitsFor resolvedIp = true := List.find?_eq_none.mp hfind
        rw [List.eraseP_of_forall_not hnone] at hpending
        dsimp only
        rw [hpending]
        refine ⟨Or.inr ⟨rfl, ?_⟩, Nat.lt_succ_self _⟩
        rw [hpending]
        intro item hitem
        exact Bool.eq_false_of_not_eq_true (hnone item hitem)
    | some item =>
        have hitem := List.mem_of_find?_eq_some hfind
        have hwaits := List.find?_some hfind
        -- The address is known, so that the packet leaves and is not queued again.
        have hlearned : (arpTableGetConst r.arpTable resolvedIp).isSome = true := by
          obtain hlearned | hnone := hknown
          · exact hlearned
          · rw [hnone item hitem] at hwaits
            cases hwaits
        have hnextHop : (arpTableGetConst r.arpTable item.nextHopIp).isSome = true := by
          rwa [arpTableGetConst_congr r.arpTable hwaits]
        dsimp only
        rw [routerSendPacketToNextHop_known (r := RouterState.pushTask
          { r with pendingQueue := queue, tasks := base } (.flush resolvedIp)) hnextHop]
        refine ⟨Or.inl ⟨rfl, Or.inl hlearned⟩, ?_⟩
        have hless : (r.pending.eraseP (RouterPendingPacket.waitsFor resolvedIp)).countP
            (RouterPendingPacket.waitsFor resolvedIp) <
              r.pending.countP (RouterPendingPacket.waitsFor resolvedIp) := by
          obtain ⟨first, before, after, -, hfirst, hsplit, herase⟩ :=
            List.exists_of_eraseP hitem hwaits
          rw [herase, hsplit, List.countP_append, List.countP_append, List.countP_cons_of_pos hfirst]
          omega
        rw [← hpending] at hless
        exact Nat.add_lt_add_right hless _
  · exact absurd htasks hnot

theorem RouterFlushing.ends {base : List (RouterTask Ms)} {senderIp : IpAddress} {r : RouterState Ms}
    (h : RouterFlushing base senderIp r) (nowMs : Nat → Ms) :
    RouterFlushEnds nowMs base senderIp r := by
  have hstep : ∀ k (s : RouterState Ms), ¬ s.tasks = base → RouterFlushing base senderIp s →
      RouterFlushing base senderIp (routerRealtimeStep nowMs k s) ∧
        flushMeasure senderIp (routerRealtimeStep nowMs k s) < flushMeasure senderIp s :=
    fun k s hnot hs => hs.step hnot
  obtain ⟨n, r', hreturns, hflushing⟩ := exists_returns_of_measure (flushMeasure senderIp) hstep 0 h
  refine ⟨n, r', hreturns, ?_⟩
  obtain ⟨htasks, -⟩ | ⟨-, hnone⟩ := hflushing
  · rw [hreturns.isDone] at htasks
    exact absurd htasks.symm (List.cons_ne_self _ _)
  · exact hnone

/-! ## The address is not known -/

/-- A packet waits for an address that was not learned, and the loop will find it again. -/
structure RouterStuck (base : List (RouterTask Ms)) (resolvedIp : IpAddress) (r : RouterState Ms) :
    Prop where
  tasks : r.tasks = .flush resolvedIp :: base ∨
    ∃ nextHopIp pollMs, r.tasks = .recheck nextHopIp pollMs :: .flush resolvedIp :: base
  unknown : arpTableGetConst r.arpTable resolvedIp = none
  waits : ∃ item ∈ r.pending, item.waitsFor resolvedIp = true
  inStep : r.InStep

omit [SimTime Ms] in
theorem RouterStuck.tasks_ne {base : List (RouterTask Ms)} {resolvedIp : IpAddress}
    {r : RouterState Ms} (h : RouterStuck base resolvedIp r) : r.tasks ≠ base := by
  intro hbase
  have hlength := congrArg List.length hbase
  obtain htasks | ⟨nextHopIp, pollMs, htasks⟩ := h.tasks
  · rw [htasks, List.length_cons] at hlength
    omega
  · rw [htasks, List.length_cons, List.length_cons] at hlength
    omega

/-- The packet that is taken out comes back. -/
theorem RouterStuck.step {nowMs : Nat → Ms} {k : Nat} {base : List (RouterTask Ms)}
    {resolvedIp : IpAddress} {r : RouterState Ms} (h : RouterStuck base resolvedIp r) :
    RouterStuck base resolvedIp (routerRealtimeStep nowMs k r) := by
  obtain htasks | ⟨nextHopIp, pollMs, htasks⟩ := h.tasks
  · have hinStep := (routerResume_moves r true (nowMs k)).inStep h.inStep
    rw [← routerRealtimeStep] at hinStep
    obtain ⟨queue, hdequeue, hpending⟩ :=
      routerDequeuePendingForIp_spec { r with tasks := base } resolvedIp
    have hwaiting : RouterState.pending { r with tasks := base } = r.pending := rfl
    rw [hwaiting] at hdequeue hpending
    obtain ⟨item, hitem, hwaits⟩ := h.waits
    cases hfind : r.pending.find? (RouterPendingPacket.waitsFor resolvedIp) with
    | none => exact absurd hwaits (List.find?_eq_none.mp hfind item hitem)
    | some first =>
        have hfirst := List.mem_of_find?_eq_some hfind
        have hfirstWaits := List.find?_some hfind
        have hunknown : arpTableGetConst r.arpTable first.nextHopIp = none := by
          rw [arpTableGetConst_congr r.arpTable hfirstWaits]
          exact h.unknown
        -- What is left is one packet less, so there is room for it.
        have hroom : (r.pending.eraseP (RouterPendingPacket.waitsFor resolvedIp)).length <
            routerPendingQueueMaxEntries := by
          have hlength := List.length_eraseP_of_mem hfirst hfirstWaits
          have hpos := List.length_pos_of_mem hfirst
          have hle := length_pending_le r
          omega
        rw [← hpending] at hroom
        have hround : routerRealtimeStep nowMs k r = (routerSendPacketToNextHop
            (RouterState.pushTask { r with pendingQueue := queue, tasks := base } (.flush resolvedIp))
            first.packet first.nextHopIp first.outInterface (nowMs k) first.cargo).1 := by
          rw [routerRealtimeStep_flush htasks, routerFlushRound, hdequeue, hfind]
        rw [hround] at hinStep ⊢
        have hqueues := routerSendPacketToNextHop_queues
          (RouterState.pushTask { r with pendingQueue := queue, tasks := base } (.flush resolvedIp))
          first.packet first.nextHopIp first.outInterface (nowMs k) first.cargo
        obtain ⟨again, hagain, hback⟩ := routerSendPacketToNextHop_unknown
          (r := RouterState.pushTask { r with pendingQueue := queue, tasks := base }
            (.flush resolvedIp)) hunknown first.packet (h.inStep.port first hfirst) hroom (nowMs k)
          first.cargo
        refine ⟨?_, ?_, ⟨again, ?_, ?_⟩, hinStep⟩
        · obtain hsame | ⟨ip, pollMs, hpushed⟩ := hqueues.tasks
          · exact Or.inl hsame
          · exact Or.inr ⟨ip, pollMs, hpushed⟩
        · obtain ⟨queue', hframe⟩ := hqueues.frame
          rw [hframe]
          exact h.unknown
        · rw [hback]
          exact List.mem_append_right _ (List.mem_singleton_self again)
        · rw [RouterPendingPacket.waitsFor, hagain]
          exact hfirstWaits
  · rw [routerRealtimeStep_recheck htasks]
    exact ⟨Or.inl rfl, h.unknown, h.waits, h.inStep⟩

theorem RouterStuck.not_ends {base : List (RouterTask Ms)} {senderIp : IpAddress} {r : RouterState Ms}
    (h : RouterStuck base senderIp r) (nowMs : Nat → Ms) :
    ¬ RouterFlushEnds nowMs base senderIp r := by
  rintro ⟨n, r', hreturns, -⟩
  have hbusy : ∀ s : RouterState Ms, RouterStuck base senderIp s → ¬ s.tasks = base :=
    fun s hs => hs.tasks_ne
  exact not_returns_of_invariant hbusy (fun k s hs => hs.step) h hreturns

/-! ## When a reply is processed to the end -/

/-- The state in which a reply leaves the router: stuck, when its address is not learned and a packet waits
for it. -/
theorem routerReceive_reply_stuck {r : RouterState Ms} (hinStep : r.InStep) {port : Fin maxPort}
    {raw : List UInt8} {arp : ArpMessage} (hreceived : routerReceivedArp r port raw = some arp)
    (hreply : arp.opcode = .reply) (hnew : arpTableFindIndex r.arpTable arp.senderIp = none)
    (hfull : arpTableMaxEntries ≤ r.arpTable.entries.length)
    (hwaits : ∃ item ∈ r.pending, item.waitsFor arp.senderIp = true) (nowMs : Ms)
    (number : Option Nat) :
    RouterStuck r.tasks arp.senderIp (routerReceive r port raw nowMs number).1 := by
  have hmoves := (routerReceive_moves none r port raw nowMs number).inStep hinStep
  obtain ⟨vlanId, hstate⟩ := routerReceive_reply hreceived hreply nowMs number
  have hset : arpTableSet (routerNoteVlan r port vlanId).arpTable arp.senderIp arp.senderMac = none :=
    (arpTableSet_eq_none_iff r.arpTable arp.senderIp arp.senderMac).mpr ⟨hnew, hfull⟩
  rw [routerLearnArp_full hset] at hstate
  rw [hstate] at hmoves ⊢
  refine ⟨Or.inl rfl, ?_, hwaits, hmoves⟩
  have hget : arpTableGetConst r.arpTable arp.senderIp = none := by
    rw [arpTableGetConst, hnew]
    rfl
  exact hget

theorem routerReceive_reply_flushing {r : RouterState Ms} {port : Fin maxPort} {raw : List UInt8}
    {arp : ArpMessage} (hreceived : routerReceivedArp r port raw = some arp)
    (hreply : arp.opcode = .reply)
    (h : (arpTableFindIndex r.arpTable arp.senderIp).isSome = true ∨
      r.arpTable.entries.length < arpTableMaxEntries ∨
        ∀ item ∈ r.pending, item.waitsFor arp.senderIp = false) (nowMs : Ms) (number : Option Nat) :
    RouterFlushing r.tasks arp.senderIp (routerReceive r port raw nowMs number).1 := by
  obtain ⟨vlanId, hstate⟩ := routerReceive_reply hreceived hreply nowMs number
  obtain ⟨hqueue, -, htasks⟩ := routerLearnArp_frame (routerNoteVlan r port vlanId) arp vlanId
  have hpending : (routerLearnArp (routerNoteVlan r port vlanId) arp vlanId).pending = r.pending :=
    congrArg RingQueue.toList hqueue
  rw [hstate]
  refine Or.inl ⟨congrArg (RouterTask.flush arp.senderIp :: ·) htasks, ?_⟩
  cases hset : arpTableSet (routerNoteVlan r port vlanId).arpTable arp.senderIp arp.senderMac with
  | some table =>
      have hlearned := routerLearnArp_learned hset vlanId
      refine Or.inl ?_
      rw [RouterState.pushTask, hlearned]
      rfl
  | none =>
      obtain ⟨hnew, hfull⟩ := (arpTableSet_eq_none_iff r.arpTable _ _).mp hset
      obtain hfound | hroom | hnone := h
      · rw [hnew] at hfound
        cases hfound
      · exact absurd hfull (Nat.not_le_of_lt hroom)
      · refine Or.inr ?_
        have hsame : ((routerLearnArp (routerNoteVlan r port vlanId) arp vlanId).pushTask
            (.flush arp.senderIp)).pending = r.pending := hpending
        rw [hsame]
        exact hnone

/-- In any state a run can reach, an ARP reply is processed to the end, and leaves no packet for its sender,
exactly when its address is in the table already, or the table has room, or nothing waits for it. -/
theorem routerReceive_reply_ends_iff (numInterfaces : Nat) (h : numInterfaces ≤ maxPort)
    (macs : Fin maxPort → MacAddress) (items : Nat → RouterPendingPacket Ms)
    (calls : List (RouterCall Ms)) {port : Fin maxPort} {raw : List UInt8} {arp : ArpMessage}
    (hreceived : routerReceivedArp (routerCalls (routerStateInit numInterfaces h macs items) calls) port
      raw = some arp)
    (hreply : arp.opcode = .reply) (nowMs : Ms) (number : Option Nat) (laterMs : Nat → Ms) :
    let r := routerCalls (routerStateInit numInterfaces h macs items) calls
    RouterFlushEnds laterMs r.tasks arp.senderIp (routerReceive r port raw nowMs number).1 ↔
      (arpTableFindIndex r.arpTable arp.senderIp).isSome = true ∨
        r.arpTable.entries.length < arpTableMaxEntries ∨
          ∀ item ∈ r.pending, item.waitsFor arp.senderIp = false := by
  intro r
  have hinStep : r.InStep :=
    routerCalls_inStep (routerStateInit_inStep numInterfaces h macs items) calls
  constructor
  · intro hends
    by_contra hnot
    rw [not_or, not_or, Bool.not_eq_true, Option.isSome_eq_false_iff, Option.isNone_iff_eq_none,
      Nat.not_lt] at hnot
    obtain ⟨hnew, hfull, hwaits⟩ := hnot
    have hwaits : ∃ item ∈ r.pending, item.waitsFor arp.senderIp = true := by
      by_contra hnone
      refine hwaits fun item hitem => ?_
      exact Bool.eq_false_of_not_eq_true fun hwaits => hnone ⟨item, hitem, hwaits⟩
    exact (routerReceive_reply_stuck hinStep hreceived hreply hnew hfull hwaits nowMs number).not_ends
      laterMs hends
  · intro hcondition
    exact (routerReceive_reply_flushing hreceived hreply hcondition nowMs number).ends laterMs

end Times

/-! ## A full table -/

/-- A router with one interface, before its first call. -/
def idleRouter : RouterState ℚ :=
  routerStateInit 1 one_le_maxPort (fun _ => ⟨2, 0, 0, 0, 0, 1⟩) fun _ =>
    { nextHopIp := ipZero
      outInterface := 0
      vlanId := 0
      packet := ipv4Init
      arpAttempts := 0
      arpLastAttemptMs := 0
      cargo := none }

/-- A neighbour of the router that has not been heard of. -/
def quietNeighbour : IpAddress :=
  ⟨10, 0, 0, 200, 0⟩

/-- Replies of `n` addresses, and an echo request for the neighbour, for which a request goes out. -/
def neighbourCalls (n : Nat) : List (RouterCall ℚ) :=
  .act (.configure errorRouterConfig) ::
    (List.range n).flatMap (fun k =>
      [.act (.receive 0 (arpReplyFrame ⟨UInt8.ofNat (k + 100), 0, 0, 1, 0⟩) 0 none),
        .act (.resume true 0)]) ++
    [.act (.echo quietNeighbour 64 1 0), .act (.resume true 0)]

theorem neighbourCalls_full :
    arpTableFindIndex (routerCalls idleRouter (neighbourCalls 100)).arpTable quietNeighbour = none ∧
      (routerCalls idleRouter (neighbourCalls 100)).arpTable.entries.length = arpTableMaxEntries ∧
      (routerCalls idleRouter (neighbourCalls 100)).pending.any
        (RouterPendingPacket.waitsFor quietNeighbour) = true := by
  decide +kernel

theorem routerReceivedArp_quietNeighbour (r : RouterState ℚ) :
    routerReceivedArp r 0 (arpReplyFrame quietNeighbour) =
      some (arpMessageInitReply MacAddress.broadcast quietNeighbour MacAddress.broadcast
        quietNeighbour) := by
  have hbroadcast : ethernetIsBroadcast MacAddress.broadcast = true := by
    decide
  have hmessage := arpMessageFromBytes_bytes
    (arpMessageInitReply MacAddress.broadcast quietNeighbour MacAddress.broadcast quietNeighbour)
  rw [routerReceivedArp, ethernetFromBytes_arpReplyFrame, Option.bind_some, hbroadcast, Bool.not_true,
    Bool.false_and, if_neg Bool.false_ne_true, if_pos rfl]
  exact hmessage

theorem routerReceive_quietNeighbour_stuck {r : RouterState ℚ} (hinStep : r.InStep)
    (hnew : arpTableFindIndex r.arpTable quietNeighbour = none)
    (hfull : r.arpTable.entries.length = arpTableMaxEntries)
    (hwaits : r.pending.any (RouterPendingPacket.waitsFor quietNeighbour) = true) :
    RouterStuck r.tasks quietNeighbour
      (routerReceive r 0 (arpReplyFrame quietNeighbour) 0 none).1 :=
  routerReceive_reply_stuck hinStep (routerReceivedArp_quietNeighbour r) rfl hnew hfull.ge
    (List.any_eq_true.mp hwaits) 0 none

/-- With a hundred neighbours in the table, the reply of the next one keeps the router going for ever. -/
theorem routerReceive_reply_ends_iff_fullTable :
    ¬ RouterFlushEnds (fun _ => 0) (routerCalls idleRouter (neighbourCalls 100)).tasks quietNeighbour
      (routerReceive (routerCalls idleRouter (neighbourCalls 100)) 0 (arpReplyFrame quietNeighbour) 0
        none).1 := by
  obtain ⟨hnew, hfull, hwaits⟩ := neighbourCalls_full
  have hidle : idleRouter.InStep := routerStateInit_inStep _ _ _ _
  have hinStep := routerCalls_inStep hidle (neighbourCalls 100)
  exact (routerReceive_quietNeighbour_stuck hinStep hnew hfull hwaits).not_ends _

/-- In an empty table the neighbour is learned, and the packet leaves. -/
theorem routerReceive_reply_ends_iff_emptyTable :
    RouterFlushEnds (fun _ => 0) (routerCalls idleRouter (neighbourCalls 0)).tasks quietNeighbour
      (routerReceive (routerCalls idleRouter (neighbourCalls 0)) 0 (arpReplyFrame quietNeighbour) 0
        none).1 :=
  (routerReceive_reply_ends_iff _ _ _ _ (neighbourCalls 0) (routerReceivedArp_quietNeighbour _) rfl 0
    none (fun _ => 0)).mpr (Or.inr (Or.inl (by decide +kernel)))

end MagiStack
