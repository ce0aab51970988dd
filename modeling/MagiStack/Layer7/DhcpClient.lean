import MagiStack.Layer2.HostPending
import MagiStack.Layer7.DhcpLease

/-!
# DhcpClient — the configuration a client ends up with

The client half of `layer7/dhcp_server.c` and the `dhcp_discover` command of `utils/cli.c`.  The datagrams
between client and server arrive as they were sent.  An acknowledgement carries the mask and the router as
options, and the client takes the address from it and nothing else: an address without a prefix, to which
every destination is on the link.
-/

namespace MagiStack

def dhcpHeaderSize : Nat := 240
def dhcpBootRequest : UInt8 := 1
def dhcpDiscoverType : UInt8 := 1
def dhcpRequestType : UInt8 := 3
def dhcpOptionHostname : UInt8 := 12
def dhcpOptionRequestedIp : UInt8 := 50
def dhcpOptionRequestList : UInt8 := 55

/-! ## Messages as bytes -/

/-- `sname` and `file`, which stay cleared. -/
def dhcpNames : List UInt8 :=
  List.replicate (64 + 128) 0

@[simp] theorem dhcpNames_length : dhcpNames.length = 192 :=
  List.length_replicate

/-- The bytes `dhcp_message_to_bytes` writes. -/
def dhcpMessageBytes (message : DhcpMessage) : List UInt8 :=
  [message.op, message.htype, message.hlen, message.hops] ++ writeU32Be message.xid ++
    [0, 0, 0, 0] ++ message.ciaddr.octets ++ message.yiaddr.octets ++ message.siaddr.octets ++
    [0, 0, 0, 0] ++ message.chaddr.toList ++ dhcpNames ++
    writeU32Be dhcpMagicCookie ++ message.options

/-- `dhcp_message_to_bytes` into a buffer of `outSize` bytes. -/
def dhcpMessageToBytes (message : DhcpMessage) (outSize : Nat) : Option (List UInt8) :=
  if outSize < dhcpHeaderSize + message.options.length then none
  else some (dhcpMessageBytes message)

/-- `dhcp_message_from_bytes`. -/
def dhcpMessageFromBytes (raw : List UInt8) : Option DhcpMessage :=
  if raw.length < dhcpHeaderSize then
    none
  else
    some
      { op := raw.getD 0 0
        htype := raw.getD 1 0
        hlen := raw.getD 2 0
        hops := raw.getD 3 0
        xid := readU32Be raw 4
        ciaddr := IpAddress.read raw 12
        yiaddr := IpAddress.read raw 16
        siaddr := IpAddress.read raw 20
        chaddr := Vector.ofFn fun i => raw.getD (28 + i.val) 0
        magicCookie := readU32Be raw 236
        options := (raw.drop dhcpHeaderSize).take dhcpOptionsSize }

/-- The loop of `dhcp_get_msg_type`: the data of the first option with a tag and a length.  Each round
takes at least one byte of the options. -/
def dhcpFindOption (tag : UInt8) (length : Nat) : Nat → List UInt8 → Option (List UInt8)
  | 0, _ => none
  | _ + 1, [] => none
  | rounds + 1, found :: rest =>
      if found = dhcpOptionEnd then
        none
      else if found = 0 then
        dhcpFindOption tag length rounds rest
      else if found = tag ∧ (rest.headD 0).toNat = length then
        some ((rest.drop 1).take length)
      else
        dhcpFindOption tag length rounds (rest.drop (1 + (rest.headD 0).toNat))

/-- An option of a message. -/
def DhcpMessage.option (message : DhcpMessage) (tag : UInt8) (length : Nat) : Option (List UInt8) :=
  dhcpFindOption tag length message.options.length message.options

/-- `dhcp_get_msg_type`; `none` when it returns `-1`. -/
def dhcpGetMsgType (message : DhcpMessage) : Option UInt8 :=
  (message.option dhcpOptionMsgType 1).map fun data => data.headD 0

/-! ## The exchange -/

/-- `dhcp_create_discover`. -/
def dhcpCreateDiscover (xid : UInt32) (mac : MacAddress) : DhcpMessage :=
  { op := dhcpBootRequest
    htype := 1
    hlen := 6
    hops := 0
    xid := xid
    ciaddr := ipZero
    yiaddr := ipZero
    siaddr := ipZero
    chaddr := #v[mac.byte0, mac.byte1, mac.byte2, mac.byte3, mac.byte4, mac.byte5,
      0, 0, 0, 0, 0, 0, 0, 0, 0, 0]
    magicCookie := dhcpMagicCookie
    options :=
      let options := dhcpAddOption [] dhcpOptionMsgType [dhcpDiscoverType]
      let options := dhcpAddOption options dhcpOptionRequestList [1, 3, 6, 15, 51]
      let options := dhcpAddOption options dhcpOptionHostname (text "magi-host")
      dhcpFinishOptions options }

/-- `dhcp_create_request`. -/
def dhcpCreateRequest (xid : UInt32) (mac : MacAddress) (requestedIp serverIp : IpAddress) :
    DhcpMessage :=
  { op := dhcpBootRequest
    htype := 1
    hlen := 6
    hops := 0
    xid := xid
    ciaddr := requestedIp
    yiaddr := ipZero
    siaddr := ipZero
    chaddr := #v[mac.byte0, mac.byte1, mac.byte2, mac.byte3, mac.byte4, mac.byte5,
      0, 0, 0, 0, 0, 0, 0, 0, 0, 0]
    magicCookie := dhcpMagicCookie
    options :=
      let options := dhcpAddOption [] dhcpOptionMsgType [dhcpRequestType]
      let options := dhcpAddOption options dhcpOptionRequestedIp requestedIp.octets
      let options := dhcpAddOption options dhcpOptionServerId serverIp.octets
      dhcpFinishOptions options }

/-- `dhcp_server_dispatch`: the payload of the answer, and the server after it. -/
def dhcpServerDispatch (s : DhcpServer) (payload : List UInt8) : Option (List UInt8) × DhcpServer :=
  match dhcpMessageFromBytes payload with
  | none => (none, s)
  | some incoming =>
      if dhcpGetMsgType incoming = some dhcpDiscoverType then
        let (offer, s) := dhcpServerHandleDiscover s incoming
        (offer.bind (dhcpMessageToBytes · (dhcpHeaderSize + dhcpOptionsSize)), s)
      else if dhcpGetMsgType incoming = some dhcpRequestType then
        let (ack, s) := dhcpServerHandleRequest s incoming
        (ack.bind (dhcpMessageToBytes · (dhcpHeaderSize + dhcpOptionsSize)), s)
      else
        (none, s)

section Client

variable {Ms : Type}

/-- The `dhcp_discover` command, when it acquires a lease: the client and the acknowledgement.  The server
handles the messages `between` from other clients before the REQUEST. -/
def dhcpDiscover (s : DhcpServer) (between : List DhcpAction) (host : ArpHost Ms) (xid : UInt32) :
    Option (ArpHost Ms × DhcpMessage) := do
  let discoverRaw ← dhcpMessageToBytes (dhcpCreateDiscover xid host.macAddress)
    (dhcpHeaderSize + dhcpOptionsSize)
  let offerRaw ← (dhcpServerDispatch s discoverRaw).1
  let offer ← dhcpMessageFromBytes offerRaw
  let s := (dhcpServerDispatch s discoverRaw).2.run between
  if dhcpGetMsgType offer = some dhcpOffer then
    let requestRaw ← dhcpMessageToBytes
      (dhcpCreateRequest xid host.macAddress offer.yiaddr offer.siaddr)
      (dhcpHeaderSize + dhcpOptionsSize)
    let ackRaw ← (dhcpServerDispatch s requestRaw).1
    let ack ← dhcpMessageFromBytes ackRaw
    if dhcpGetMsgType ack = some dhcpAck then
      some ({ host with ipAddress := ack.yiaddr, hasIp := true }, ack)
    else
      none
  else
    none

/-! ## Where packets go -/

/-- The octets of the next hop by an acknowledgement: the destination in the subnet of the acknowledged
address and the mask option, and the router option's address elsewhere. -/
def dhcpLeaseNextHop (ack : DhcpMessage) (destination : IpAddress) : Option (List UInt8) := do
  let mask ← ack.option dhcpOptionSubnetMask 4
  let router ← ack.option dhcpOptionRouter 4
  if ipToU32Public ack.yiaddr &&& readU32Be mask 0 =
      ipToU32Public destination &&& readU32Be mask 0 then
    some destination.octets
  else
    some router

/-- The octets of the neighbour a frame is sent to or asks for. -/
def HostEvent.neighbour : HostEvent → Option (List UInt8)
  | .arpRequest target _ => some target.octets
  | .packet _ (some nextHop) _ => some nextHop.octets
  | _ => none

/-- What the host sends to the destination later goes to the next hop of the acknowledgement, and as long as
nobody is known and nothing waits, it asks for that hop's hardware address. -/
def FollowsLease (host : ArpHost Ms) (ack : DhcpMessage) (destination : IpAddress) : Prop :=
  ∀ (later : ArpHost Ms) ethertype payload nowMs number, later.hasIp = host.hasIp →
    later.ipAddress = host.ipAddress → later.defaultGateway = host.defaultGateway →
    (∀ events event,
      (hostSendL3Packet later destination ethertype payload nowMs number).2.log = later.log ++ events →
      event ∈ events → event.neighbour = dhcpLeaseNextHop ack destination) ∧
    (later.arpTable = arpTableInit → later.pending = [] → payload.length ≤ ethernetMaxPayload →
      ∃ target frame,
        (hostSendL3Packet later destination ethertype payload nowMs number).2.log =
          later.log ++ [.arpRequest target frame] ∧
        some target.octets = dhcpLeaseNextHop ack destination)

end Client

/-! ## Parsing what was written -/

theorem dhcpMessageBytes_length (message : DhcpMessage) :
    (dhcpMessageBytes message).length = dhcpHeaderSize + message.options.length := by
  simp [dhcpMessageBytes, dhcpHeaderSize]
  omega

/-- What the parser reads of a message: addresses have no prefix in it. -/
theorem dhcpMessageFromBytes_bytes (message : DhcpMessage)
    (hoptions : message.options.length ≤ dhcpOptionsSize) :
    ∃ parsed, dhcpMessageFromBytes (dhcpMessageBytes message) = some parsed ∧
      parsed.ciaddr = message.ciaddr.withoutPrefix ∧ parsed.yiaddr = message.yiaddr.withoutPrefix ∧
      parsed.siaddr = message.siaddr.withoutPrefix ∧ parsed.options = message.options := by
  have hlength := dhcpMessageBytes_length message
  rw [dhcpMessageFromBytes, if_neg (by omega)]
  have hdrop : (dhcpMessageBytes message).drop dhcpHeaderSize = message.options := by
    rw [dhcpMessageBytes]
    exact List.drop_left' (by simp [dhcpHeaderSize])
  -- The addresses stand before what may be of any length.
  obtain ⟨rest, hrest⟩ : ∃ rest, dhcpMessageBytes message =
      [message.op, message.htype, message.hlen, message.hops] ++ (writeU32Be message.xid ++
        ([0, 0, 0, 0] ++ (message.ciaddr.octets ++ (message.yiaddr.octets ++
          (message.siaddr.octets ++ rest))))) := by
    simp only [dhcpMessageBytes, List.append_assoc]
    exact ⟨_, rfl⟩
  refine ⟨_, rfl, ?_, ?_, ?_, ?_⟩
  · dsimp only
    rw [hrest]
    rfl
  · dsimp only
    rw [hrest]
    rfl
  · dsimp only
    rw [hrest]
    rfl
  · dsimp only
    rw [hdrop]
    exact List.take_of_length_le hoptions

/-- A message whose options fit is written, and the other side reads it. -/
theorem dhcpMessageToBytes_eq (message : DhcpMessage)
    (hoptions : message.options.length ≤ dhcpOptionsSize) :
    dhcpMessageToBytes message (dhcpHeaderSize + dhcpOptionsSize) = some (dhcpMessageBytes message) :=
  if_neg (by omega)

/-! ## The options of a reply -/

/-- The options both handlers write. -/
def dhcpReplyOptions (msgType : UInt8) (serverIp : IpAddress) : List UInt8 :=
  [dhcpOptionMsgType, 1, msgType] ++ [dhcpOptionServerId, 4] ++ serverIp.octets ++
    [dhcpOptionSubnetMask, 4, 255, 255, 255, 0] ++ [dhcpOptionRouter, 4] ++
    { serverIp with octet3 := 1 }.octets ++ [dhcpOptionLeaseTime, 4, 0, 1, 81, 128, dhcpOptionEnd]

theorem dhcpReply_options (msgType : UInt8) (serverIp : IpAddress) (message : DhcpMessage)
    (yiaddr : IpAddress) :
    (dhcpReply msgType serverIp message yiaddr).options = dhcpReplyOptions msgType serverIp := by
  rw [dhcpReply, dhcpReplyOptions]
  simp [dhcpAddOption, dhcpFinishOptions, IpAddress.octets, dhcpOptionsSize]
  rfl

theorem dhcpReply_options_length (msgType : UInt8) (serverIp : IpAddress) (message : DhcpMessage)
    (yiaddr : IpAddress) : (dhcpReply msgType serverIp message yiaddr).options.length ≤ dhcpOptionsSize := by
  rw [dhcpReply_options]
  simp [dhcpReplyOptions, dhcpOptionsSize, IpAddress.octets]

theorem dhcpReply_written (msgType : UInt8) (serverIp : IpAddress) (message : DhcpMessage)
    (yiaddr : IpAddress) :
    dhcpMessageToBytes (dhcpReply msgType serverIp message yiaddr) (dhcpHeaderSize + dhcpOptionsSize) =
      some (dhcpMessageBytes (dhcpReply msgType serverIp message yiaddr)) :=
  dhcpMessageToBytes_eq (dhcpReply msgType serverIp message yiaddr)
    (dhcpReply_options_length msgType serverIp message yiaddr)

theorem dhcpGetMsgType_reply {message : DhcpMessage} {msgType : UInt8} {serverIp : IpAddress}
    (h : message.options = dhcpReplyOptions msgType serverIp) :
    dhcpGetMsgType message = some msgType := by
  rw [dhcpGetMsgType, DhcpMessage.option, h]
  rfl

/-- The next hop by the mask and the router of a reply. -/
theorem dhcpLeaseNextHop_reply {message : DhcpMessage} {msgType : UInt8} {serverIp : IpAddress}
    (h : message.options = dhcpReplyOptions msgType serverIp) (destination : IpAddress) :
    dhcpLeaseNextHop message destination =
      if ipToU32Public message.yiaddr &&& 0xFFFFFF00 = ipToU32Public destination &&& 0xFFFFFF00 then
        some destination.octets
      else
        some { serverIp with octet3 := 1 }.octets := by
  have hmask : message.option dhcpOptionSubnetMask 4 = some [255, 255, 255, 0] := by
    rw [DhcpMessage.option, h]
    rfl
  have hrouter : message.option dhcpOptionRouter 4 = some { serverIp with octet3 := 1 }.octets := by
    rw [DhcpMessage.option, h]
    rfl
  rw [dhcpLeaseNextHop, hmask, hrouter]
  rfl

/-! ## What the client learns -/

theorem dhcpSkipLeased_le (clients : DhcpClients) (serverIp : IpAddress) (rounds next octet : Nat) :
    next ≤ (dhcpSkipLeased clients serverIp rounds next octet).1 := by
  induction rounds generalizing next octet with
  | zero => exact le_refl _
  | succ rounds ih =>
      rw [dhcpSkipLeased]
      split
      · exact (Nat.le_succ next).trans (ih (next + 1) (next + 1))
      · exact le_refl _

/-- The octet an allocator offers that has started at `20`. -/
theorem dhcpAllocateIp_octet {s s' : DhcpServer} {serverIp ip : IpAddress} {chaddr : MacAddress}
    (hcounter : 20 ≤ s.nextIpOctet) (h : dhcpAllocateIp s serverIp chaddr = (some ip, s')) :
    ∃ octet, 20 ≤ octet ∧ octet < 254 ∧ ip = dhcpAddress serverIp octet := by
  simp only [dhcpAllocateIp] at h
  split at h
  · cases h
  · rename_i hlimit
    have hnext := not_le.mp hlimit
    have hcases := (@dhcpSkipLeased_cases s.clients serverIp _ (s.nextIpOctet + 1) s.nextIpOctet rfl
      (by omega)).2
    refine ⟨_, ?_, ?_, (Option.some.inj (Prod.mk.inj h).1).symm⟩
    · rcases hcases with heq | ⟨found, heq, hfound, -⟩
      · rw [heq]
        exact hcounter
      · rw [heq]
        exact (by omega : 20 ≤ found)
    · rcases hcases with heq | ⟨found, heq, -⟩
      · rw [heq] at hnext ⊢
        exact (by omega : s.nextIpOctet < 254)
      · rw [heq] at hnext ⊢
        exact hnext

namespace DhcpServer

theorem handle_nextIpOctet (s : DhcpServer) (action : DhcpAction) :
    s.nextIpOctet ≤ (s.handle action).2.nextIpOctet := by
  cases hserver : s.serverIp with
  | none => rw [handle_unset hserver]
  | some serverIp =>
      cases action with
      | request message =>
          rw [handle, dhcpServerHandleRequest, hserver]
      | discover message =>
          rw [handle_discover hserver]
          simp only [dhcpAllocateIp]
          have hnext := dhcpSkipLeased_le s.clients serverIp (255 - (s.nextIpOctet + 1))
            (s.nextIpOctet + 1) s.nextIpOctet
          split
          · exact (Nat.le_succ _).trans hnext
          · exact (Nat.le_succ _).trans hnext

/-- The server keeps its address, and its counter does not go back. -/
theorem run_keeps (s : DhcpServer) (actions : List DhcpAction) :
    (s.run actions).serverIp = s.serverIp ∧ s.nextIpOctet ≤ (s.run actions).nextIpOctet := by
  induction actions generalizing s with
  | nil => exact ⟨rfl, le_refl _⟩
  | cons action rest ih =>
      rcases ih (s.handle action).2 with ⟨hserver, hcounter⟩
      exact ⟨hserver.trans (handle_serverIp s action), (handle_nextIpOctet s action).trans hcounter⟩

end DhcpServer

theorem dhcpCreateDiscover_options (xid : UInt32) (mac : MacAddress) :
    (dhcpCreateDiscover xid mac).options.length ≤ dhcpOptionsSize :=
  Nat.le_of_ble_eq_true rfl

theorem dhcpCreateRequest_options (xid : UInt32) (mac : MacAddress)
    (requestedIp serverIp : IpAddress) :
    (dhcpCreateRequest xid mac requestedIp serverIp).options.length ≤ dhcpOptionsSize :=
  Nat.le_of_ble_eq_true rfl

theorem dhcpServerDispatch_serverIp (s : DhcpServer) (payload : List UInt8) :
    (dhcpServerDispatch s payload).2.serverIp = s.serverIp := by
  rw [dhcpServerDispatch]
  split
  · rfl
  · rename_i incoming _
    split
    · exact DhcpServer.handle_serverIp s (.discover incoming)
    · split
      · exact DhcpServer.handle_serverIp s (.request incoming)
      · rfl

/-- Which address is offered does not depend on the client. -/
theorem dhcpAllocateIp_fst (s : DhcpServer) (serverIp : IpAddress) (chaddr other : MacAddress) :
    (dhcpAllocateIp s serverIp chaddr).1 = (dhcpAllocateIp s serverIp other).1 := by
  simp only [dhcpAllocateIp]
  split
  · rfl
  · rfl

/-- The answer to a DISCOVER of the client. -/
theorem dhcpServerDispatch_discover {s : DhcpServer} {serverIp : IpAddress}
    (hserver : s.serverIp = some serverIp) (xid : UInt32) (mac : MacAddress) :
    ∃ incoming,
      (dhcpServerDispatch s (dhcpMessageBytes (dhcpCreateDiscover xid mac))).1 =
        (dhcpAllocateIp s serverIp mac).1.map fun ip =>
          dhcpMessageBytes (dhcpReply dhcpOffer serverIp incoming ip) := by
  rcases dhcpMessageFromBytes_bytes (dhcpCreateDiscover xid mac) (dhcpCreateDiscover_options xid mac)
    with ⟨incoming, hparse, -, -, -, hoptions⟩
  have htype : dhcpGetMsgType incoming = some dhcpDiscoverType := by
    rw [dhcpGetMsgType, DhcpMessage.option, hoptions]
    rfl
  refine ⟨incoming, ?_⟩
  rw [dhcpServerDispatch, hparse]
  dsimp only
  rw [if_pos htype, dhcpServerHandleDiscover, hserver]
  dsimp only
  rw [dhcpAllocateIp_fst s serverIp mac incoming.hardwareAddress]
  cases (dhcpAllocateIp s serverIp incoming.hardwareAddress).1 with
  | none => rfl
  | some ip => rw [Option.map_some, Option.map_some, Option.bind_some, dhcpReply_written]

/-- The answer to a REQUEST of the client. -/
theorem dhcpServerDispatch_request {s : DhcpServer} {serverIp : IpAddress}
    (hserver : s.serverIp = some serverIp) (xid : UInt32) (mac : MacAddress)
    {requestedIp : IpAddress} (siaddr : IpAddress) (hasked : requestedIp.octet3 ≠ 0) :
    ∃ incoming,
      (dhcpServerDispatch s (dhcpMessageBytes (dhcpCreateRequest xid mac requestedIp siaddr))).1 =
        some (dhcpMessageBytes (dhcpReply dhcpAck serverIp incoming requestedIp.withoutPrefix)) := by
  rcases dhcpMessageFromBytes_bytes (dhcpCreateRequest xid mac requestedIp siaddr)
    (dhcpCreateRequest_options xid mac requestedIp siaddr) with
    ⟨incoming, hparse, hciaddr, -, -, hoptions⟩
  have htype : dhcpGetMsgType incoming = some dhcpRequestType := by
    rw [dhcpGetMsgType, DhcpMessage.option, hoptions]
    rfl
  have hrequested : dhcpRequestedIp incoming = requestedIp.withoutPrefix := by
    rw [dhcpRequestedIp, hciaddr]
    exact if_neg fun hzero => hasked hzero.2
  refine ⟨incoming, ?_⟩
  rw [dhcpServerDispatch, hparse]
  dsimp only
  rw [htype, if_neg (by decide), if_pos rfl, dhcpServerHandleRequest, hserver]
  dsimp only
  rw [hrequested, Option.bind_some, dhcpReply_written]

section Client

variable {Ms : Type}

/-- An exchange of a server that has an address left: the client has it without a prefix, and the options it
was sent are those of the reply. -/
theorem dhcpDiscover_eq_some {s : DhcpServer} {serverIp ip : IpAddress}
    (hserver : s.serverIp = some serverIp) (hcounter : 20 ≤ s.nextIpOctet) (host : ArpHost Ms)
    (halloc : (dhcpAllocateIp s serverIp host.macAddress).1 = some ip) (between : List DhcpAction)
    (xid : UInt32) :
    ∃ octet ack, ack.yiaddr = (dhcpAddress serverIp octet).withoutPrefix ∧
      ack.options = dhcpReplyOptions dhcpAck serverIp ∧
      dhcpDiscover s between host xid =
        some ({ host with ipAddress := ack.yiaddr, hasIp := true }, ack) := by
  rcases dhcpAllocateIp_octet hcounter (Prod.ext halloc rfl) with ⟨octet, hlow, hhigh, rfl⟩
  rcases dhcpServerDispatch_discover hserver xid host.macAddress with ⟨incoming, hofferRaw⟩
  rw [halloc, Option.map_some] at hofferRaw
  rcases dhcpMessageFromBytes_bytes (dhcpReply dhcpOffer serverIp incoming (dhcpAddress serverIp octet))
    (dhcpReply_options_length _ _ _ _) with ⟨offer, hoffer, -, hoffered, -, hofferOptions⟩
  -- The offered octet is not zero, so the server takes the address from `ciaddr`.
  have hasked : offer.yiaddr.octet3 ≠ 0 := by
    rw [hoffered]
    intro hzero
    have hbyte : octet < UInt8.size := hhigh.trans (by decide)
    have hnat : octet = 0 := (UInt8.toNat_ofNat_of_lt' hbyte).symm.trans (congrArg UInt8.toNat hzero)
    omega
  have hserver' : ((dhcpServerDispatch s (dhcpMessageBytes
      (dhcpCreateDiscover xid host.macAddress))).2.run between).serverIp = some serverIp :=
    ((DhcpServer.run_keeps _ between).1.trans (dhcpServerDispatch_serverIp s _)).trans hserver
  rcases dhcpServerDispatch_request hserver' xid host.macAddress offer.siaddr hasked with
    ⟨request, hackRaw⟩
  rcases dhcpMessageFromBytes_bytes (dhcpReply dhcpAck serverIp request offer.yiaddr.withoutPrefix)
    (dhcpReply_options_length _ _ _ _) with ⟨ack, hack, -, hyiaddr, -, hoptions⟩
  rw [dhcpReply_options] at hofferOptions hoptions
  refine ⟨octet, ack, ?_, hoptions, ?_⟩
  · rw [hyiaddr]
    change offer.yiaddr.withoutPrefix.withoutPrefix = _
    rw [hoffered]
    rfl
  · rw [dhcpDiscover, dhcpMessageToBytes_eq _ (dhcpCreateDiscover_options xid host.macAddress),
      Option.bind_eq_bind, Option.bind_some, hofferRaw, Option.bind_some, hoffer]
    change (if dhcpGetMsgType offer = some dhcpOffer then _ else none) = _
    rw [if_pos (dhcpGetMsgType_reply hofferOptions), dhcpMessageToBytes_eq _
      (dhcpCreateRequest_options xid host.macAddress offer.yiaddr offer.siaddr), Option.bind_eq_bind,
      Option.bind_some, hackRaw, Option.bind_some, hack]
    exact if_pos (dhcpGetMsgType_reply hoptions)

/-- Without an address left there is no lease. -/
theorem dhcpDiscover_eq_none {s : DhcpServer} {serverIp : IpAddress}
    (hserver : s.serverIp = some serverIp) (host : ArpHost Ms)
    (halloc : (dhcpAllocateIp s serverIp host.macAddress).1 = none) (between : List DhcpAction)
    (xid : UInt32) : dhcpDiscover s between host xid = none := by
  rcases dhcpServerDispatch_discover hserver xid host.macAddress with ⟨incoming, hofferRaw⟩
  rw [halloc, Option.map_none] at hofferRaw
  rw [dhcpDiscover, dhcpMessageToBytes_eq _ (dhcpCreateDiscover_options xid host.macAddress),
    Option.bind_eq_bind, Option.bind_some, hofferRaw]
  rfl

theorem hostSendL3Packet_broadcast {host : ArpHost Ms} {targetIp : IpAddress} {payload : List UInt8}
    (hbroadcast : ipIsBroadcast targetIp = true) (hpayload : payload.length ≤ ethernetMaxPayload)
    (ethertype : UInt16) (nowMs : Ms) (number : Nat) :
    ∃ frame, (hostSendL3Packet host targetIp ethertype payload nowMs number).2 =
      host.record (.packet number none frame) := by
  rw [hostSendL3Packet, if_neg (not_lt.mpr hpayload), if_pos hbroadcast,
    hostSendEthernetFrame_eq _ _ _ _ hpayload]
  exact ⟨_, rfl⟩

/-- Every frame of a call of `host_send_l3_packet` is for the next hop. -/
theorem hostSendL3Packet_neighbour {host : ArpHost Ms} {targetIp : IpAddress}
    (hbroadcast : ipIsBroadcast targetIp = false) (ethertype : UInt16) (payload : List UInt8)
    (nowMs : Ms) (number : Nat) :
    ∃ events,
      (hostSendL3Packet host targetIp ethertype payload nowMs number).2.log = host.log ++ events ∧
      ∀ event ∈ events, event.neighbour = some (hostNextHop host targetIp).octets := by
  have hnothing : ∃ events, host.log = host.log ++ events ∧
      ∀ event ∈ events, event.neighbour = some (hostNextHop host targetIp).octets :=
    ⟨[], (List.append_nil _).symm, fun _ hevent => (nomatch hevent)⟩
  rw [hostSendL3Packet]
  split
  · exact hnothing
  · rename_i hpayload
    have hfits := not_lt.mp hpayload
    rw [if_neg (by rw [hbroadcast]; exact Bool.false_ne_true)]
    split
    · exact hnothing
    · rename_i hhasIp
      dsimp only
      -- Sent at once to a neighbour that is known, or queued, with a request if none is out.
      split
      · rw [hostSendEthernetFrame_eq _ _ _ _ hfits]
        exact ⟨_, rfl, fun event hevent => List.mem_singleton.mp hevent ▸ rfl⟩
      · rw [hostQueuePendingPacketWithArpState, dif_pos hfits]
        split
        · exact hnothing
        · rename_i queued hqueued
          split at hqueued
          · cases hqueued
          · have heq := Option.some.inj hqueued
            have hlog : queued.log = host.log := heq ▸ rfl
            have hqueuedIp : queued.hasIp = true := heq ▸ (by simpa using hhasIp)
            split
            · exact hlog ▸ hnothing
            · rcases hostSendArpRequest_eq hqueuedIp (hostNextHop host targetIp) with ⟨frame, hsent⟩
              rw [hsent, ← hlog]
              exact ⟨_, rfl, fun event hevent => List.mem_singleton.mp hevent ▸ rfl⟩

/-- A host that knows nobody and has nothing waiting asks for the next hop. -/
theorem hostSendL3Packet_asks {host : ArpHost Ms} {targetIp : IpAddress}
    (hbroadcast : ipIsBroadcast targetIp = false) (hhasIp : host.hasIp = true)
    (hunknown : host.arpTable = arpTableInit) (hpending : host.pending = []) (ethertype : UInt16)
    {payload : List UInt8} (hpayload : payload.length ≤ ethernetMaxPayload) (nowMs : Ms)
    (number : Nat) :
    ∃ frame, (hostSendL3Packet host targetIp ethertype payload nowMs number).2.log =
      host.log ++ [.arpRequest (hostNextHop host targetIp) frame] := by
  have hmiss : arpTableGetConst host.arpTable (hostNextHop host targetIp) = none := by
    rw [hunknown]
    rfl
  have hnobody : hostFindPendingForIp host (hostNextHop host targetIp) = none := by
    rw [hostFindPendingForIp, hpending]
    rfl
  have hroom : ¬ hostPendingQueueMaxEntries ≤ host.pendingQueue.size := by
    rw [← RingBuffer.length_toList, show host.pendingQueue.toList = [] from hpending]
    exact Nat.not_succ_le_zero _
  rw [hostSendL3Packet, if_neg (not_lt.mpr hpayload), if_neg (by rw [hbroadcast]; exact Bool.false_ne_true),
    if_neg (by rw [hhasIp]; exact Bool.false_ne_true)]
  dsimp only
  rw [hmiss, hnobody, hostQueuePendingPacketWithArpState, dif_pos hpayload, if_neg hroom]
  dsimp only
  have hasks := fun packet => @hostSendArpRequest_eq Ms
    { host with pendingQueue := host.pendingQueue.push packet } hhasIp (hostNextHop host targetIp)
  rcases hasks _ with ⟨frame, hsent⟩
  rw [Option.isSome_none, if_neg Bool.false_ne_true, hsent]
  exact ⟨frame, rfl⟩

/-- A client without a prefix has everything on the link. -/
theorem hostNextHop_of_prefix_zero {host : ArpHost Ms} (hhasIp : host.hasIp = true)
    (hzero : host.ipAddress.prefixLen = 0) (targetIp : IpAddress) :
    hostNextHop host targetIp = targetIp := by
  have hmask : ipPrefixToMask 0 = 0 := rfl
  rw [hostNextHop, hostIsSameSubnet, hhasIp, hzero, hmask, UInt32.and_zero, UInt32.and_zero]
  rfl

/-- Two addresses are in the same subnet under the mask of a reply when their first three octets agree. -/
theorem ipToU32Public_and_mask_iff (a b : IpAddress) :
    ipToU32Public a &&& 0xFFFFFF00 = ipToU32Public b &&& 0xFFFFFF00 ↔
      a.octet0 = b.octet0 ∧ a.octet1 = b.octet1 ∧ a.octet2 = b.octet2 := by
  constructor
  · intro h
    rw [ipToU32Public, ipToU32Public, beLong_and_mask24, beLong_and_mask24] at h
    rcases toUInt8_beLong a.octet0 a.octet1 a.octet2 0 with ⟨ha0, ha1, ha2, -⟩
    rcases toUInt8_beLong b.octet0 b.octet1 b.octet2 0 with ⟨hb0, hb1, hb2, -⟩
    rw [h] at ha0 ha1 ha2
    exact ⟨ha0.symm.trans hb0, ha1.symm.trans hb1, ha2.symm.trans hb2⟩
  · rintro ⟨h0, h1, h2⟩
    rw [ipToU32Public, ipToU32Public, beLong_and_mask24, beLong_and_mask24, h0, h1, h2]

/-- A client with such an address and such options. -/
theorem followsLease_iff {serverIp : IpAddress} {octet : Nat} {ack : DhcpMessage}
    (hyiaddr : ack.yiaddr = (dhcpAddress serverIp octet).withoutPrefix)
    (hoptions : ack.options = dhcpReplyOptions dhcpAck serverIp) (host : ArpHost Ms)
    (destination : IpAddress) :
    FollowsLease { host with ipAddress := ack.yiaddr, hasIp := true } ack destination ↔
      ipIsBroadcast destination = false ∧ destination.octet0 = serverIp.octet0 ∧
        destination.octet1 = serverIp.octet1 ∧ destination.octet2 = serverIp.octet2 := by
  have hnext : ∀ later : ArpHost Ms, later.hasIp = true → later.ipAddress = ack.yiaddr →
      hostNextHop later destination = destination := by
    intro later hhasIp hip
    refine hostNextHop_of_prefix_zero hhasIp ?_ destination
    rw [hip, hyiaddr]
    rfl
  have hexpected := dhcpLeaseNextHop_reply hoptions destination
  simp only [ipToU32Public_and_mask_iff, hyiaddr] at hexpected
  constructor
  · intro hfollows
    -- The client before it has sent anything.
    let fresh : ArpHost Ms :=
      { host with
        ipAddress := ack.yiaddr
        hasIp := true
        arpTable := arpTableInit
        pendingQueue := .empty host.pendingQueue.items }
    have hpayload : ([] : List UInt8).length ≤ ethernetMaxPayload := Nat.zero_le _
    have nowMs := (host.pendingQueue.items 0).arpLastAttemptMs
    rcases (hfollows fresh 0 [] nowMs 0 rfl rfl rfl).2 rfl (RingBuffer.toList_empty _) hpayload with
      ⟨target, frame, hlog, htarget⟩
    have hbroadcast : ipIsBroadcast destination = false := by
      by_contra hbroadcast
      rcases hostSendL3Packet_broadcast (Bool.not_eq_false _ ▸ hbroadcast) hpayload 0 nowMs 0 with
        ⟨sent, hsent⟩
      rw [hsent] at hlog
      cases List.append_cancel_left hlog
    rcases @hostSendL3Packet_asks Ms fresh destination hbroadcast rfl rfl (RingBuffer.toList_empty _) 0
      [] hpayload nowMs 0 with ⟨frame', hasks⟩
    cases List.append_cancel_left (hasks.symm.trans hlog)
    rw [hnext fresh rfl rfl, hexpected] at htarget
    refine ⟨hbroadcast, ?_⟩
    split at htarget
    · rename_i hsubnet
      exact ⟨hsubnet.1.symm, hsubnet.2.1.symm, hsubnet.2.2.symm⟩
    · have hoctets := Option.some.inj htarget
      injection hoctets with h0 hoctets
      injection hoctets with h1 hoctets
      injection hoctets with h2 hoctets
      exact ⟨h0, h1, h2⟩
  · rintro ⟨hbroadcast, h0, h1, h2⟩ later ethertype payload nowMs number hhasIp hip -
    rw [if_pos ⟨h0.symm, h1.symm, h2.symm⟩] at hexpected
    have hhop := hnext later hhasIp hip
    refine ⟨fun events event hlog hevent => ?_, fun hunknown hpending hpayload => ?_⟩
    · rcases hostSendL3Packet_neighbour hbroadcast ethertype payload nowMs number with
        ⟨sent, hsent, hneighbour⟩
      rw [List.append_cancel_left (hlog.symm.trans hsent)] at hevent
      rw [hneighbour event hevent, hhop, hexpected]
    · rcases hostSendL3Packet_asks hbroadcast hhasIp hunknown hpending ethertype hpayload nowMs
        number with ⟨frame, hasks⟩
      exact ⟨_, frame, hasks, by rw [hhop, hexpected]⟩

end Client

/-- A client sends as its acknowledgement says exactly to the destinations in the server's own subnet of 256
addresses, the limited broadcast apart: everything else it takes to be on its link. -/
theorem dhcp_client_follows_lease_iff {Ms : Type} (serverIp : IpAddress)
    (earlier between : List DhcpAction) {host host' : ArpHost Ms} {xid : UInt32} {ack : DhcpMessage}
    (h : dhcpDiscover ((dhcpServerInit (some serverIp)).run earlier) between host xid =
      some (host', ack)) (destination : IpAddress) :
    FollowsLease host' ack destination ↔
      ipIsBroadcast destination = false ∧ destination.octet0 = serverIp.octet0 ∧
        destination.octet1 = serverIp.octet1 ∧ destination.octet2 = serverIp.octet2 := by
  rcases DhcpServer.run_keeps (dhcpServerInit (some serverIp)) earlier with ⟨hserver, hcounter⟩
  rcases halloc : (dhcpAllocateIp _ serverIp host.macAddress).1 with _ | ip
  · cases (dhcpDiscover_eq_none hserver host halloc between xid).symm.trans h
  rcases dhcpDiscover_eq_some hserver hcounter host halloc between xid with
    ⟨octet, found, hyiaddr, hoptions, hfound⟩
  cases hfound.symm.trans h
  exact followsLease_iff hyiaddr hoptions host destination

/-- A host that has not been given an address. -/
def dhcpFreshHost : ArpHost Nat :=
  hostInit { hasIp := false, ipAddress := ipZero, defaultGateway := ipZero, macAddress := ⟨2, 0, 0, 0, 0, 1⟩ }
    fun _ =>
      { targetIp := ipZero
        ethertype := 0
        payload := []
        payload_le := Nat.zero_le _
        arpAttempts := 0
        arpLastAttemptMs := 0
        number := 0 }

/-- The first client of the server `10.0.0.1` reaches `10.0.0.7` as it should. -/
theorem dhcp_client_follows_lease_iff_neighbour :
    ∃ host' ack, dhcpDiscover ((dhcpServerInit (some ⟨10, 0, 0, 1, 24⟩)).run []) [] dhcpFreshHost 7 =
        some (host', ack) ∧
      FollowsLease host' ack ⟨10, 0, 0, 7, 0⟩ := by
  have halloc : (dhcpAllocateIp ((dhcpServerInit (some ⟨10, 0, 0, 1, 24⟩)).run []) ⟨10, 0, 0, 1, 24⟩
      dhcpFreshHost.macAddress).1 = some ⟨10, 0, 0, 20, 24⟩ := by
    decide
  rcases dhcpDiscover_eq_some rfl (le_refl _) dhcpFreshHost halloc [] 7 with ⟨_, ack, -, -, h⟩
  exact ⟨_, ack, h, (dhcp_client_follows_lease_iff ⟨10, 0, 0, 1, 24⟩ [] [] h ⟨10, 0, 0, 7, 0⟩).mpr
    (by decide)⟩

/-- It asks for the hardware address of `8.8.8.8` itself. -/
theorem dhcp_client_follows_lease_iff_far :
    ∃ host' ack, dhcpDiscover ((dhcpServerInit (some ⟨10, 0, 0, 1, 24⟩)).run []) [] dhcpFreshHost 7 =
        some (host', ack) ∧
      ¬ FollowsLease host' ack ⟨8, 8, 8, 8, 0⟩ := by
  have halloc : (dhcpAllocateIp ((dhcpServerInit (some ⟨10, 0, 0, 1, 24⟩)).run []) ⟨10, 0, 0, 1, 24⟩
      dhcpFreshHost.macAddress).1 = some ⟨10, 0, 0, 20, 24⟩ := by
    decide
  rcases dhcpDiscover_eq_some rfl (le_refl _) dhcpFreshHost halloc [] 7 with
    ⟨octet, ack, hyiaddr, hoptions, h⟩
  exact ⟨_, ack, h, fun hfollows =>
    absurd ((followsLease_iff hyiaddr hoptions dhcpFreshHost ⟨8, 8, 8, 8, 0⟩).mp hfollows) (by decide)⟩

end MagiStack
