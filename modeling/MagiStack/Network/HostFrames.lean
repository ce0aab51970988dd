import MagiStack.Layer2.HostConservation

/-!
# HostFrames — what a host puts on the wire, and what it learns

Whatever a host does, its log only grows.  The ARP messages in it bind the host's own address to its own MAC
address, and the address table holds what was there before and the bindings of ARP messages that came in.
-/

namespace MagiStack

/-- The frame of an event, if it hands one to `interface_send`. -/
def HostEvent.frame : HostEvent → Option (List UInt8)
  | .arpRequest _ frame => some frame
  | .arpReply frame => some frame
  | .packet _ _ frame => some frame
  | .flushed _ => none
  | .dropped _ _ => none
  | .failed _ => none

/-- A frame of an ARP message that binds an address to the MAC address of the station that sends it. -/
def ArpFrame (mac : MacAddress) (ip : IpAddress) (raw : List UInt8) : Prop :=
  ∃ arp dst, raw = hostFrameBytes mac dst ethernetTypeArp (arpMessageBytes arp) ∧ arp.senderMac = mac ∧
    arp.senderIp = ip

/-- The ARP messages among the events are the host's own. -/
def HostEvent.Truthful (mac : MacAddress) (ip : IpAddress) : HostEvent → Prop
  | .arpRequest _ frame => ArpFrame mac ip frame
  | .arpReply frame => ArpFrame mac ip frame
  | _ => True

/-! ## The table -/

/-- Setting an address changes its entry or adds one. -/
theorem mem_arpTableSet {table table' : ArpTable} {ip : IpAddress} {mac : MacAddress}
    (h : arpTableSet table ip mac = some table') {entry : ArpTableEntry} (hentry : entry ∈ table'.entries) :
    entry ∈ table.entries ∨ (entry.ip.octets = ip.octets ∧ entry.mac = mac) := by
  rw [arpTableSet] at h
  cases hindex : arpTableFindIndex table ip with
  | some index =>
      rw [hindex] at h
      cases h
      rcases List.findIdx?_eq_some_iff_getElem.mp hindex with ⟨hlt, hfound, -⟩
      rcases List.mem_iff_getElem.mp hentry with ⟨i, hi, rfl⟩
      rw [List.getElem_modify]
      split
      · rename_i heq
        subst heq
        exact Or.inr ⟨ipOctetsEqualPublic_iff.mp hfound, rfl⟩
      · exact Or.inl (List.getElem_mem _)
  | none =>
      rw [hindex] at h
      dsimp only at h
      split at h
      · cases h
        rcases List.mem_append.mp hentry with hold | hnew
        · exact Or.inl hold
        · rw [List.mem_singleton.mp hnew]
          exact Or.inr ⟨rfl, rfl⟩
      · cases h

section Calls

variable {Ms : Type}

/-! ## Steps -/

/-- A host goes on as the same station: the log grows by truthful events, and the table by bindings that the
host has `learned`. -/
structure ArpSteps (learned : List UInt8 → MacAddress → Prop) (host host' : ArpHost Ms) : Prop where
  hasIp : host'.hasIp = host.hasIp
  ipAddress : host'.ipAddress = host.ipAddress
  macAddress : host'.macAddress = host.macAddress
  table : ∀ entry ∈ host'.arpTable.entries,
    entry ∈ host.arpTable.entries ∨ learned entry.ip.octets entry.mac
  log : ∃ events, host'.log = host.log ++ events ∧
    ∀ event ∈ events, event.Truthful host.macAddress host.ipAddress

namespace ArpSteps

variable {learned : List UInt8 → MacAddress → Prop} {host host' host'' : ArpHost Ms}

theorem refl (host : ArpHost Ms) : ArpSteps learned host host where
  hasIp := rfl
  ipAddress := rfl
  macAddress := rfl
  table := fun _ hentry => Or.inl hentry
  log := ⟨[], (List.append_nil _).symm, fun _ hevent => (nomatch hevent)⟩

theorem trans (h : ArpSteps learned host host') (h' : ArpSteps learned host' host'') :
    ArpSteps learned host host'' := by
  rcases h.log with ⟨events, hlog, htruth⟩
  rcases h'.log with ⟨more, hmore, htruth'⟩
  refine ⟨h'.hasIp.trans h.hasIp, h'.ipAddress.trans h.ipAddress, h'.macAddress.trans h.macAddress,
    fun entry hentry => ?_, events ++ more, ?_, fun event hevent => ?_⟩
  · rcases h'.table entry hentry with hold | hnew
    · exact h.table entry hold
    · exact Or.inr hnew
  · rw [hmore, hlog, List.append_assoc]
  · rcases List.mem_append.mp hevent with hfirst | hlast
    · exact htruth event hfirst
    · rw [← h.macAddress, ← h.ipAddress]
      exact htruth' event hlast

/-- The queue is nobody's concern here. -/
theorem queue (host : ArpHost Ms) (queue : RingBuffer (HostPendingPacket Ms) hostPendingQueueMaxEntries) :
    ArpSteps learned host { host with pendingQueue := queue } :=
  ⟨rfl, rfl, rfl, fun _ hentry => Or.inl hentry, [], (List.append_nil _).symm,
    fun _ hevent => (nomatch hevent)⟩

theorem record (host : ArpHost Ms) {event : HostEvent}
    (h : event.Truthful host.macAddress host.ipAddress) : ArpSteps learned host (host.record event) :=
  ⟨rfl, rfl, rfl, fun _ hentry => Or.inl hentry, [event], rfl, fun other hother => by
    rw [List.mem_singleton.mp hother]
    exact h⟩

/-- Sending a frame logs it, or does not happen. -/
theorem sendEthernetFrame (host : ArpHost Ms) (dstMac : MacAddress) (ethertype : UInt16)
    (payload : List UInt8) (event : List UInt8 → HostEvent)
    (h : (event (hostFrameBytes host.macAddress dstMac ethertype payload)).Truthful host.macAddress
      host.ipAddress) :
    ∀ host' ∈ hostSendEthernetFrame host dstMac ethertype payload event, ArpSteps learned host host' := by
  intro host' hsent
  by_cases hpayload : payload.length ≤ ethernetMaxPayload
  · rw [hostSendEthernetFrame_eq host dstMac ethertype event hpayload] at hsent
    rw [← Option.some.inj hsent]
    exact record host h
  · rw [hostSendEthernetFrame, ethernetCreate, if_pos (Nat.lt_of_not_le hpayload)] at hsent
    cases hsent

theorem sendArpRequest (host : ArpHost Ms) (targetIp : IpAddress) :
    ∀ host' ∈ hostSendArpRequest host targetIp, ArpSteps learned host host' := by
  intro host' hsent
  rw [hostSendArpRequest, arpMessageToBytes, if_neg (lt_irrefl _)] at hsent
  split at hsent
  · exact sendEthernetFrame host _ _ _ (.arpRequest targetIp) ⟨_, _, rfl, rfl, rfl⟩ host' hsent
  · cases hsent

theorem sendArpReply (host : ArpHost Ms) (request : ArpMessage) :
    ∀ host' ∈ hostSendArpReply host request, ArpSteps learned host host' := by
  intro host' hsent
  rw [hostSendArpReply, arpMessageToBytes, if_neg (lt_irrefl _)] at hsent
  split at hsent
  · exact sendEthernetFrame host _ _ _ .arpReply ⟨_, _, rfl, rfl, rfl⟩ host' hsent
  · cases hsent

/-- A step that may fail, and is not taken then. -/
theorem getD {next : Option (ArpHost Ms)} (h : ∀ host' ∈ next, ArpSteps learned host host') :
    ArpSteps learned host (next.getD host) := by
  cases next with
  | none => exact refl host
  | some host' => exact h host' rfl

theorem dequeue (host : ArpHost Ms) (targetIp : IpAddress) :
    ArpSteps learned host (hostDequeuePendingPacketForIp host targetIp).2 :=
  queue host _

/-! ## The calls -/

theorem sendL3Packet (host : ArpHost Ms) (targetIp : IpAddress) (ethertype : UInt16) (payload : List UInt8)
    (nowMs : Ms) (number : Nat) :
    ArpSteps learned host (hostSendL3Packet host targetIp ethertype payload nowMs number).2 := by
  have hsent : ∀ dstMac nextHop,
      ∀ host' ∈ hostSendEthernetFrame host dstMac ethertype payload (.packet number nextHop),
        ArpSteps learned host host' := fun dstMac nextHop =>
    sendEthernetFrame host dstMac ethertype payload _ trivial
  rw [hostSendL3Packet]
  split
  · exact refl host
  split
  · split
    · exact refl host
    · rename_i host' hsome
      exact hsent _ _ host' hsome
  split
  · exact refl host
  dsimp only
  split
  · split
    · exact refl host
    · rename_i host' hsome
      exact hsent _ _ host' hsome
  -- the packet is queued, and a request goes out when it is the first for its next hop
  rw [hostQueuePendingPacketWithArpState]
  split
  · rename_i hqueued
    split at hqueued
    · split at hqueued
      · cases hqueued
        exact refl host
      · cases hqueued
    · cases hqueued
      exact refl host
  · rename_i queued hqueued
    have hsteps : ArpSteps learned host queued := by
      split at hqueued
      · split at hqueued
        · cases hqueued
        · cases hqueued
          exact queue host _
      · cases hqueued
    split
    · exact hsteps
    · split
      · exact hsteps
      · rename_i asked hasked
        exact hsteps.trans (sendArpRequest queued _ asked hasked)

theorem flushLoop (resolvedIp : IpAddress) (mac : MacAddress) (fuel sent : Nat) (host : ArpHost Ms) :
    ArpSteps learned host (hostFlushLoop resolvedIp mac fuel sent host).2 := by
  induction fuel generalizing sent host with
  | zero => exact refl host
  | succ fuel ih =>
      rw [hostFlushLoop]
      have hdequeue : ArpSteps learned host (hostDequeuePendingPacketForIp host resolvedIp).2 :=
        dequeue host resolvedIp
      split
      · rename_i rest hnone
        rw [hnone] at hdequeue
        exact hdequeue
      · rename_i packet rest hsome
        rw [hsome] at hdequeue
        split
        · exact hdequeue.trans (ih sent rest)
        · rename_i next hnext
          have hsent : ArpSteps learned rest next :=
            sendEthernetFrame rest mac packet.ethertype packet.payload
              (.packet packet.number (some packet.targetIp)) trivial next hnext
          exact (hdequeue.trans hsent).trans (ih (sent + 1) next)

theorem flushPendingPackets (host : ArpHost Ms) (resolvedIp : IpAddress) :
    ArpSteps learned host (hostFlushPendingPackets host resolvedIp).2 := by
  rw [hostFlushPendingPackets]
  split
  · exact refl host
  · have hflushed : HostEvent.Truthful host.macAddress host.ipAddress (.flushed resolvedIp) := trivial
    exact (record host hflushed).trans (flushLoop _ _ _ _ _)

theorem dropLoop (targetIp : IpAddress) (fuel : Nat) (host : ArpHost Ms) :
    ArpSteps learned host (hostDropLoop targetIp fuel host) := by
  induction fuel generalizing host with
  | zero => exact refl host
  | succ fuel ih =>
      rw [hostDropLoop]
      have hdequeue : ArpSteps learned host (hostDequeuePendingPacketForIp host targetIp).2 :=
        dequeue host targetIp
      split
      · rename_i rest hnone
        rw [hnone] at hdequeue
        exact hdequeue
      · rename_i failed rest hsome
        rw [hsome] at hdequeue
        have hdropped : HostEvent.Truthful rest.macAddress rest.ipAddress
            (.dropped failed.number failed.targetIp) := trivial
        exact (hdequeue.trans (record rest hdropped)).trans (ih _)

theorem pollArpLoop [SimTime Ms] (nowMs : Ms) (fuel : Nat) (host : ArpHost Ms) :
    ArpSteps learned host (hostPollArpLoop nowMs fuel host) := by
  induction fuel generalizing host with
  | zero => exact refl host
  | succ fuel ih =>
      rw [hostPollArpLoop]
      split
      · exact refl host
      · dsimp only
        split
        · refine ((dropLoop _ _ host).trans (record _ ?_)).trans (ih _)
          exact trivial
        · exact ((queue host _).trans (getD (sendArpRequest _ _))).trans (ih _)

/-- A host learns the sender of a message, whatever the message says otherwise. -/
theorem learn {host : ArpHost Ms} {message : ArpMessage}
    (h : learned message.senderIp.octets message.senderMac) :
    ArpSteps learned host ((hostLearnArp host message).getD host) := by
  refine getD fun host' hlearn => ?_
  rcases Option.map_eq_some_iff.mp hlearn with ⟨table, htable, rfl⟩
  refine ⟨rfl, rfl, rfl, fun entry hentry => ?_, [], (List.append_nil _).symm,
    fun _ hevent => (nomatch hevent)⟩
  rcases mem_arpTableSet htable hentry with hold | ⟨hip, hmac⟩
  · exact Or.inl hold
  · rw [hip, hmac]
    exact Or.inr h

theorem receive {host : ArpHost Ms} {raw : List UInt8}
    (h : ∀ arp, hostArpMessage host raw = some arp → learned arp.senderIp.octets arp.senderMac) :
    ArpSteps learned host (hostReceive host raw) := by
  rw [hostReceive]
  cases harp : hostArpMessage host raw with
  | none => exact refl host
  | some arp =>
      dsimp only
      rw [hostReceiveArp]
      refine (learn (h arp harp)).trans ?_
      split
      · exact getD (sendArpReply _ arp)
      · split
        · exact flushPendingPackets _ _
        · exact refl _

/-- Every step of a run; only ARP messages that come in are learned. -/
theorem step [SimTime Ms] {s : HostRun Ms} {action : HostAction Ms}
    (h : ∀ raw, action = .receive raw → ∀ arp, hostArpMessage s.host raw = some arp →
      learned arp.senderIp.octets arp.senderMac) :
    ArpSteps learned s.host (hostStep s action).host := by
  cases action with
  | send targetIp ethertype payload nowMs =>
      have hsteps : ArpSteps learned s.host (hostSendL3Packet s.host targetIp ethertype payload nowMs
          s.accepted.length).2 := sendL3Packet s.host targetIp ethertype payload nowMs s.accepted.length
      rw [hostStep]
      split
      · rename_i host' hsent
        rw [hsent] at hsteps
        exact hsteps
      · rename_i host' hrefused
        rw [hrefused] at hsteps
        exact hsteps
  | receive raw => exact receive (h raw rfl)
  | poll nowMs => exact pollArpLoop nowMs _ s.host

end ArpSteps

end Calls

end MagiStack
