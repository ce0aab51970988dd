import MagiStack.Layer4.TcpClose
import MagiStack.Layer4.TcpInOrder

/-!
# TcpLink — a connection over a link that keeps the order

A `TcpWorld` whose segments arrive in the order in which they were sent, each of them once.  Every run of the link
is a run of the world, so that the facts of `TcpInvariant` hold.  This module says what is in flight, and that every
segment in flight is taken by the connection it belongs to.
-/

namespace MagiStack

/-- A connection, and how many segments have arrived at each side. -/
structure TcpLink where
  world : TcpWorld
  heard : TcpSide → Nat

inductive TcpLinkAction
  | send (side : TcpSide) (data : List UInt8)
  | recv (side : TcpSide) (maxLen : Nat)
  | close (side : TcpSide)
  | arrive (side : TcpSide)
  deriving DecidableEq, Repr

namespace TcpLink

/-- The segments on their way to a side, the oldest first. -/
def inFlight (l : TcpLink) (side : TcpSide) : List TcpSegment :=
  (l.world.net side.peer).drop (l.heard side)

/-- The client has connected, and its SYN is in flight. -/
def initial (addresses : TcpAddresses) : TcpLink :=
  { world := TcpWorld.initial addresses
    heard := fun _ => 0 }

/-- One step.  What arrives is the oldest segment in flight. -/
def step (addresses : TcpAddresses) (l : TcpLink) : TcpLinkAction → TcpLink
  | .send side data => { l with world := l.world.step addresses (.send side data) }
  | .recv side maxLen => { l with world := l.world.step addresses (.recv side maxLen) }
  | .close side => { l with world := l.world.step addresses (.close side) }
  | .arrive side =>
      match l.inFlight side with
      | [] => l
      | segment :: _ =>
          { world := l.world.deliver addresses side segment
            heard := Function.update l.heard side (l.heard side + 1) }

def run (addresses : TcpAddresses) (l : TcpLink) (actions : List TcpLinkAction) : TcpLink :=
  actions.foldl (step addresses) l

/-- A side closes only a connection that is open, and reads before its buffer is too full for what arrives. -/
def Allows (l : TcpLink) : TcpLinkAction → Prop
  | .close side => (l.world.ends side).socket.state ≠ .synSent ∧ (l.world.ends side).socket.state ≠ .synReceived
  | .arrive side =>
      ∀ segment ∈ (l.inFlight side).head?,
        (l.world.ends side).socket.recvBuffer.data.length + segment.payload.length ≤ tcpSocketBufferSize
  | _ => True

/-- Every action of a run is one that `Allows` names. -/
def Orderly (addresses : TcpAddresses) (l : TcpLink) : List TcpLinkAction → Prop
  | [] => True
  | action :: actions => l.Allows action ∧ (l.step addresses action).Orderly addresses actions

instance decidableAllows (l : TcpLink) : (action : TcpLinkAction) → Decidable (l.Allows action)
  | .send _ _ | .recv _ _ => instDecidableTrue
  | .close side => inferInstanceAs (Decidable ((l.world.ends side).socket.state ≠ .synSent ∧
      (l.world.ends side).socket.state ≠ .synReceived))
  | .arrive side => inferInstanceAs (Decidable (∀ segment ∈ (l.inFlight side).head?,
      (l.world.ends side).socket.recvBuffer.data.length + segment.payload.length ≤ tcpSocketBufferSize))

instance decidableOrderly (addresses : TcpAddresses) :
    (l : TcpLink) → (actions : List TcpLinkAction) → Decidable (l.Orderly addresses actions)
  | _, [] => instDecidableTrue
  | l, action :: actions =>
      have := decidableOrderly addresses (l.step addresses action) actions
      inferInstanceAs (Decidable (l.Allows action ∧ (l.step addresses action).Orderly addresses actions))

/-! ## Runs of the link are runs of the world -/

theorem mem_inFlight {l : TcpLink} {side : TcpSide} {segment : TcpSegment} (h : segment ∈ l.inFlight side) :
    segment ∈ l.world.net side.peer :=
  List.mem_of_mem_drop h

/-- The action of the world that an action of the link is. -/
def worldAction (l : TcpLink) : TcpLinkAction → TcpAction
  | .send side data => .send side data
  | .recv side maxLen => .recv side maxLen
  | .close side => .close side
  | .arrive side => .deliver side (l.heard side)

theorem step_world (addresses : TcpAddresses) (l : TcpLink) (action : TcpLinkAction) :
    (l.step addresses action).world = l.world.step addresses (l.worldAction action) := by
  cases action with
  | arrive side =>
      rw [step, worldAction, TcpWorld.step]
      cases hflight : l.inFlight side with
      | nil =>
          rw [inFlight, List.drop_eq_nil_iff] at hflight
          rw [List.getElem?_eq_none hflight]
      | cons segment rest =>
          have hsegment : (l.world.net side.peer)[l.heard side]? = some segment := by
            have hhead := congrArg List.head? hflight
            rwa [inFlight, List.head?_drop] at hhead
          rw [hsegment]
  | _ => rfl

theorem sent_prefix_run (addresses : TcpAddresses) (actions : List TcpLinkAction) (l : TcpLink) (side : TcpSide) :
    (l.world.ends side).sent <+: ((l.run addresses actions).world.ends side).sent := by
  induction actions generalizing l with
  | nil => exact List.prefix_refl _
  | cons action actions ih =>
      have hstep := l.world.sent_prefix_step addresses (l.worldAction action) side
      rw [← step_world] at hstep
      exact hstep.trans (ih _)

/-! ## Steps of one end -/

/-- One end has changed and has sent something, and a side has heard so much. -/
def after (l : TcpLink) (side : TcpSide) (e : TcpEnd) (out : List TcpSegment) (heard : Nat) : TcpLink :=
  { world := l.world.update side e out
    heard := Function.update l.heard side heard }

section After

variable (l : TcpLink) (side : TcpSide) (e : TcpEnd) (out : List TcpSegment) (heard : Nat)

@[simp] theorem after_ends_self : (l.after side e out heard).world.ends side = e :=
  TcpWorld.update_ends_self _ _ _ _

@[simp] theorem after_ends_peer : (l.after side e out heard).world.ends side.peer = l.world.ends side.peer :=
  TcpWorld.update_ends_peer _ _ _ _

@[simp] theorem inFlight_after_self :
    (l.after side e out heard).inFlight side = (l.world.net side.peer).drop heard := by
  simp [inFlight, after]

theorem inFlight_after_peer (h : l.heard side.peer ≤ (l.world.net side).length) :
    (l.after side e out heard).inFlight side.peer = l.inFlight side.peer ++ out := by
  simp only [inFlight, after, TcpSide.peer_peer, TcpWorld.update_net_self,
    Function.update_of_ne side.peer_ne]
  exact List.drop_append_of_le_length h

/-- A call changes nothing but its end and the network. -/
theorem after_call : l.after side e out (l.heard side) = { l with world := l.world.update side e out } := by
  rw [after, Function.update_eq_self]

end After

end TcpLink

/-- An end that does nothing leaves the world as it is. -/
theorem TcpWorld.update_self (w : TcpWorld) (side : TcpSide) : w.update side (w.ends side) [] = w := by
  rw [TcpWorld.update, List.append_nil, Function.update_eq_self, Function.update_eq_self]

/-! ## What the calls send -/

theorem tcpDataSegment_hasFlag (socket : TcpSocket) (data : List UInt8) (mask : UInt8) :
    (tcpDataSegment socket data).hasFlag mask = ((tcpFlagAck ||| tcpFlagPsh) &&& mask != 0) := by
  rw [tcpDataSegment, tcpStoreChecksum_hasFlag]
  rfl

theorem tcpFinSegment_hasFlag (socket : TcpSocket) (mask : UInt8) :
    (tcpFinSegment socket).hasFlag mask = ((tcpFlagFin ||| tcpFlagAck) &&& mask != 0) := by
  rw [tcpFinSegment, tcpStoreChecksum_hasFlag]
  rfl

theorem tcpDataSegment_span (socket : TcpSocket) (data : List UInt8) :
    (tcpDataSegment socket data).span = data.length := by
  rw [TcpSegment.span, tcpDataSegment_hasFlag, tcpDataSegment, tcpStoreChecksum_payload, if_neg (by decide)]
  rfl

theorem tcpFinSegment_payload (socket : TcpSocket) : (tcpFinSegment socket).payload = [] := by
  rw [tcpFinSegment, tcpStoreChecksum_payload]
  rfl

theorem tcpFinSegment_span (socket : TcpSocket) : (tcpFinSegment socket).span = 1 := by
  rw [TcpSegment.span, tcpFinSegment_hasFlag, tcpFinSegment_payload, if_pos (by decide)]
  rfl

/-! ## Addresses -/

/-- A segment that a side of the connection has sent. -/
structure Addressed (addresses : TcpAddresses) (side : TcpSide) (segment : TcpSegment) : Prop where
  srcPort : segment.srcPort = addresses.port side
  dstPort : segment.dstPort = addresses.port side.peer
  valid : tcpValidateChecksum segment (addresses.ip side).withoutPrefix (addresses.ip side.peer).withoutPrefix = true

/-- A socket that is a side of the connection. -/
structure Owns (addresses : TcpAddresses) (side : TcpSide) (socket : TcpSocket) : Prop where
  localIp : socket.localIp.octets = (addresses.ip side).octets
  localPort : socket.localPort = addresses.port side
  remoteIp : socket.remoteIp.octets = (addresses.ip side.peer).octets
  remotePort : socket.remotePort = addresses.port side.peer
  isListening : socket.isListening = false

theorem Owns.congr {addresses : TcpAddresses} {side : TcpSide} {socket socket' : TcpSocket}
    (h : Owns addresses side socket) (htuple : SameTuple socket socket') : Owns addresses side socket' := by
  rcases h with ⟨hip, hport, hremoteIp, hremotePort, hlisten⟩
  rw [← htuple.localIp] at hip
  rw [← htuple.localPort] at hport
  rw [← htuple.remoteIp] at hremoteIp
  rw [← htuple.remotePort] at hremotePort
  rw [← htuple.isListening] at hlisten
  exact ⟨hip, hport, hremoteIp, hremotePort, hlisten⟩

theorem Owns.matches {addresses : TcpAddresses} {side : TcpSide} {socket : TcpSocket}
    (h : Owns addresses side socket) (huse : socket.inUse = true) (hstate : socket.state ≠ .closed)
    {segment : TcpSegment} (hsegment : Addressed addresses side.peer segment) :
    tcpSocketMatches socket (addresses.ip side) segment.dstPort (addresses.ip side.peer).withoutPrefix
      segment.srcPort = true := by
  have hdst : segment.dstPort = addresses.port side := by
    have hdstPort := hsegment.dstPort
    rwa [TcpSide.peer_peer] at hdstPort
  rw [tcpSocketMatches, huse, h.isListening, h.localPort, h.remotePort, hdst, hsegment.srcPort, ipOctetsEqualPublic,
    ipOctetsEqualPublic, h.localIp, h.remoteIp, IpAddress.octets_withoutPrefix]
  simp [hstate]

/-- The checksum of a segment is valid for any addresses with these octets. -/
theorem tcpValidateChecksum_congr {segment : TcpSegment} {srcIp dstIp srcIp' dstIp' : IpAddress}
    (hsrc : srcIp'.octets = srcIp.octets) (hdst : dstIp'.octets = dstIp.octets) :
    tcpValidateChecksum segment srcIp' dstIp' = tcpValidateChecksum segment srcIp dstIp := by
  simp only [tcpValidateChecksum, tcpComputeChecksum, transportComputeChecksum, hsrc, hdst]
  cases tcpToBytes segment (tcpHeaderSize + tcpMaxPayload)
  all_goals rfl

/-- What the stack stores as checksum is valid. -/
theorem tcpStoreChecksum_valid {segment : TcpSegment} {outSize : Nat} (srcIp dstIp : IpAddress)
    (hzero : segment.checksum = 0) (hpayload : segment.payload.length ≤ tcpMaxPayload)
    (hsize : tcpHeaderSize + segment.payload.length ≤ outSize) :
    tcpValidateChecksum (tcpStoreChecksum segment outSize srcIp dstIp) srcIp dstIp = true := by
  have hbytes : tcpToBytes segment outSize = some (tcpBytes segment) := by
    rw [tcpToBytes, if_neg (Nat.not_lt.mpr hpayload), if_neg (Nat.not_lt.mpr hsize)]
  rw [tcpStoreChecksum, hbytes]
  refine tcpValidateChecksum_stored hpayload ?_
  have hsame : { segment with checksum := 0 } = segment := by
    rw [← hzero]
  exact congrArg (fun s => tcpComputeChecksum (tcpBytes s) srcIp dstIp) hsame.symm

/-- A segment with the ports of its side, and with its checksum over the addresses of the connection. -/
theorem addressed_store {addresses : TcpAddresses} {side : TcpSide} {segment : TcpSegment} {outSize : Nat}
    {srcIp dstIp : IpAddress} (hsrcIp : srcIp.octets = (addresses.ip side).octets)
    (hdstIp : dstIp.octets = (addresses.ip side.peer).octets) (hsrc : segment.srcPort = addresses.port side)
    (hdst : segment.dstPort = addresses.port side.peer) (hzero : segment.checksum = 0)
    (hpayload : segment.payload.length ≤ tcpMaxPayload)
    (hsize : tcpHeaderSize + segment.payload.length ≤ outSize) :
    Addressed addresses side (tcpStoreChecksum segment outSize srcIp dstIp) := by
  have hvalid := tcpStoreChecksum_valid srcIp dstIp hzero hpayload hsize
  rw [← tcpValidateChecksum_congr (hsrcIp.symm.trans rfl : (addresses.ip side).withoutPrefix.octets = _)
    (hdstIp.symm.trans rfl : (addresses.ip side.peer).withoutPrefix.octets = _)] at hvalid
  rcases tcpStoreChecksum_frame segment outSize srcIp dstIp with ⟨checksum, hframe⟩
  rw [hframe] at hvalid ⊢
  exact ⟨hsrc, hdst, hvalid⟩

section Senders

variable {addresses : TcpAddresses} {side : TcpSide} {socket : TcpSocket} (h : Owns addresses side socket)

include h

/-- What a socket sends with its own ports and addresses. -/
theorem Owns.addressed {segment : TcpSegment} {outSize : Nat} (hsrc : segment.srcPort = socket.localPort)
    (hdst : segment.dstPort = socket.remotePort) (hzero : segment.checksum = 0)
    (hpayload : segment.payload.length ≤ tcpMaxPayload)
    (hsize : tcpHeaderSize + segment.payload.length ≤ outSize) :
    Addressed addresses side (tcpStoreChecksum segment outSize socket.localIp socket.remoteIp) :=
  addressed_store h.localIp h.remoteIp (hsrc.trans h.localPort) (hdst.trans h.remotePort) hzero hpayload hsize

theorem Owns.addressed_ack : Addressed addresses side (tcpPrepareAck socket) :=
  h.addressed rfl rfl rfl (Nat.zero_le _) (Nat.le_refl _)

theorem Owns.addressed_syn : Addressed addresses side (tcpSynSegment socket) :=
  h.addressed rfl rfl rfl (Nat.zero_le _) (Nat.le_refl _)

theorem Owns.addressed_fin : Addressed addresses side (tcpFinSegment socket) :=
  h.addressed rfl rfl rfl (Nat.zero_le _) (Nat.le_refl _)

theorem Owns.addressed_data {data : List UInt8} (hdata : data.length ≤ tcpMaxPayload) :
    Addressed addresses side (tcpDataSegment socket data) :=
  h.addressed rfl rfl rfl hdata (Nat.add_le_add_left hdata _)

end Senders

end MagiStack
