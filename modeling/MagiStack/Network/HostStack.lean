import MagiStack.Layer2.HostPending
import MagiStack.Layer3.RouterForward
import MagiStack.Layer4.Encapsulation
import MagiStack.Layer7.DhcpClient
import MagiStack.Layer7.DnsServer
import MagiStack.Layer7.TimeWaitTuples
import MagiStack.Layer7.UdpSockets

/-!
# HostStack — a whole host

Embedding of `host_receive` of `layer2/host.c` with all its branches but the HTTP server, of the calls that the
command line and the sockets make at a host, and of the servers that answer datagrams.  The mode is realtime and
every link has a delay: a frame always goes into flight, and nothing comes back before a call has returned.

A host keeps the address that it is set up with: `dhcp_discover`, which takes one from a server, is not among the
calls.  Neither are those of the stream sockets (`magi_connect`, `magi_send`, `magi_recv`, `magi_close`), which
`Layer7` embeds, and `http_get`, which uses them; the command line's own TCP commands are.

What resolves addresses is the `HostRun` of `Layer2/HostPending.lean`, step by step, so that its results hold of
the whole host.  The records are not kept by the code: they say which packets were handed to
`host_send_l3_packet` and why, and which ones came up.
-/

namespace MagiStack

def dhcpServerPort : UInt16 := 67
def dhcpClientPort : UInt16 := 68
def dnsServerPort : UInt16 := 53

/-- `255.255.255.255`. -/
def ipBroadcast : IpAddress := ⟨255, 255, 255, 255, 0⟩

/-! ## Records -/

/-- Why an application sends a packet. -/
inductive PacketCause
  | ping (sequence : UInt16)
  | datagram (srcPort dstPort : UInt16) (payload : List UInt8)
  | segment (segment : TcpSegment)
  deriving DecidableEq

/-- A packet that an application sent, or one that a host found to be for it. -/
inductive PacketRecord
  | sent (cause : PacketCause) (packet : Ipv4Packet)
  | heard (packet : Ipv4Packet)
  deriving DecidableEq

/-! ## State -/

/-- What `Host` keeps of ICMP. -/
structure HostIcmp (Ms : Type) where
  lastIcmpType : UInt8
  lastIcmpCode : UInt8
  lastIcmpSource : IpAddress
  lastIcmpSequence : UInt16
  hasLastIcmp : Bool
  icmpSendTimeMs : Ms
  icmpInFlight : Bool
  lastIcmpRttMs : Ms

/-- `Host` without the copy of its last TCP segment, and the servers that are bound to it. -/
structure HostStack (Ms : Type) where
  run : HostRun Ms
  icmp : HostIcmp Ms
  udp : UdpHost
  tcpSockets : TcpTable
  nextTcpSourcePort : UInt16
  dhcp : Option DhcpServer
  dns : Option DnsTable

/-- What a host reads while it handles a frame: the time, and whether `magi_socket` finds a free descriptor. -/
structure HostReads (Ms : Type) where
  nowMs : Ms
  socketFree : Bool

section Functions

variable {Ms : Type}

/-- `host_init_with_macs`, with the address and the servers that the host is given. -/
def hostStackInit [Zero Ms] (config : ArpHostConfig) (items : Nat → HostPendingPacket Ms)
    (dhcp : Option DhcpServer) (dns : Option DnsTable) : HostStack Ms :=
  { run := hostRunInit config items
    icmp :=
      { lastIcmpType := 0
        lastIcmpCode := 0
        lastIcmpSource := ipZero
        lastIcmpSequence := 0
        hasLastIcmp := false
        icmpSendTimeMs := 0
        icmpInFlight := false
        lastIcmpRttMs := 0 }
    udp := udpHostInit
    tcpSockets := fun _ => tcpSocketFree
    nextTcpSourcePort := 0
    dhcp := dhcp
    dns := dns }

namespace HostStack

def ipAddress (h : HostStack Ms) : IpAddress :=
  h.run.host.ipAddress

/-- The part of the host that opens TCP connections. -/
def tcpHost (h : HostStack Ms) : TcpHost :=
  { ipAddress := h.ipAddress
    tcpSockets := h.tcpSockets
    nextTcpSourcePort := h.nextTcpSourcePort }

def withTcpHost (h : HostStack Ms) (host : TcpHost) : HostStack Ms :=
  { h with tcpSockets := host.tcpSockets, nextTcpSourcePort := host.nextTcpSourcePort }

def setTcpSocket (h : HostStack Ms) (slot : Fin tcpMaxSockets) (socket : TcpSocket) : HostStack Ms :=
  { h with tcpSockets := Function.update h.tcpSockets slot socket }

end HostStack

/-- `host_record_icmp_rtt`. -/
def hostRecordIcmpRtt [Sub Ms] (icmp : HostIcmp Ms) (nowMs : Ms) : HostIcmp Ms :=
  if icmp.icmpInFlight then
    { icmp with lastIcmpRttMs := nowMs - icmp.icmpSendTimeMs, icmpInFlight := false }
  else
    icmp

/-! ## Polling -/

/-- `host_report_arp_failure`. -/
def hostReportArpFailure [Sub Ms] (host : ArpHost Ms) (icmp : HostIcmp Ms) (failed : HostPendingPacket Ms)
    (nowMs : Ms) : HostIcmp Ms :=
  if failed.ethertype ≠ ethernetTypeIpv4 then
    icmp
  else
    match ipv4FromBytes failed.payload with
    | none => icmp
    | some packet =>
        if packet.protocol ≠ ipv4ProtocolIcmp ∨ ipOctetsEqualPublic packet.srcIp host.ipAddress = false then
          icmp
        else
          match icmpFromBytes packet.payload with
          | none => icmp
          | some message =>
              if message.type ≠ icmpEchoRequest then
                icmp
              else
                hostRecordIcmpRtt
                  { icmp with
                    lastIcmpType := icmpDestUnreachable
                    lastIcmpCode := 1
                    lastIcmpSource := host.ipAddress
                    lastIcmpSequence := message.sequence
                    hasLastIcmp := true } nowMs

/-- `hostDropLoop` with the reports. -/
def hostDropReporting [Sub Ms] (targetIp : IpAddress) (nowMs : Ms) :
    Nat → ArpHost Ms × HostIcmp Ms → ArpHost Ms × HostIcmp Ms
  | 0, s => s
  | fuel + 1, (host, icmp) =>
      match hostDequeuePendingPacketForIp host targetIp with
      | (none, host) => (host, icmp)
      | (some failed, host) =>
          hostDropReporting targetIp nowMs fuel
            (host.record (.dropped failed.number failed.targetIp),
              hostReportArpFailure host icmp failed nowMs)

/-- `hostPollArpLoop` with the reports; `nowMs` is what `sim_clock_now_ms` gives. -/
def hostPollReporting [SimTime Ms] [Sub Ms] (pollMs nowMs : Ms) :
    Nat → ArpHost Ms × HostIcmp Ms → ArpHost Ms × HostIcmp Ms
  | 0, s => s
  | fuel + 1, (host, icmp) =>
      match host.pending.find? (HostPendingPacket.isDue pollMs) with
      | none => (host, icmp)
      | some pending =>
          let targetIp := pending.targetIp
          if hostArpMaxAttempts ≤ pending.arpAttempts then
            let (host, icmp) := hostDropReporting targetIp nowMs host.pendingQueue.size (host, icmp)
            hostPollReporting pollMs nowMs fuel (host.record (.failed targetIp), icmp)
          else
            let host := hostSetArpAttemptForIp host targetIp (pending.arpAttempts + 1)
              (SimTime.addMs pending.arpLastAttemptMs hostArpRetryIntervalMs)
            hostPollReporting pollMs nowMs fuel ((hostSendArpRequest host targetIp).getD host, icmp)

variable [SimTime Ms]

/-- `host_poll_arp`. -/
def hostStackPollArp [Sub Ms] (h : HostStack Ms) (pollMs nowMs : Ms) : HostStack Ms :=
  let polled := hostPollReporting pollMs nowMs (4 * h.run.host.pendingQueue.size) (h.run.host, h.icmp)
  { h with run := { h.run with host := polled.1 }, icmp := polled.2 }

/-! ## Sending -/

/-- `host_send_l3_packet` of an IPv4 packet: what it returns, and the host after it. -/
def hostStackSendL3Packet (h : HostStack Ms) (targetIp : IpAddress) (ipRaw : List UInt8) (nowMs : Ms) :
    Bool × HostStack Ms :=
  ((hostSendL3Packet h.run.host targetIp ethernetTypeIpv4 ipRaw nowMs h.run.accepted.length).1,
    { h with run := hostStep h.run (.send targetIp ethernetTypeIpv4 ipRaw nowMs) })

/-- `ipv4_create`, `packet_to_bytes` and `host_send_l3_packet`, as every sender at a host chains them; `cause`
is given by applications. -/
def hostSendIpv4 (h : HostStack Ms) (cause : Option PacketCause) (srcIp dstIp : IpAddress)
    (ttl protocol : UInt8) (message : List UInt8) (nowMs : Ms) :
    Bool × HostStack Ms × List PacketRecord :=
  match ipv4Create srcIp dstIp ttl protocol message with
  | none => (false, h, [])
  | some packet =>
      match ipv4ToBytes packet (ipv4HeaderSize + ipv4MaxPayload) with
      | none => (false, h, [])
      | some ipRaw =>
          let (accepted, h) := hostStackSendL3Packet h dstIp ipRaw nowMs
          (accepted, h, cause.elim [] fun cause => [.sent cause packet])

/-- `magi_sendto` on a descriptor of the host bound to `localPort`. -/
def magiSendto (h : HostStack Ms) (localPort : UInt16) (data : List UInt8) (dstIp : IpAddress)
    (dstPort : UInt16) (nowMs : Ms) : Int × HostStack Ms × List PacketRecord :=
  if udpMaxPayload < data.length then
    (-1, h, [])
  else
    match udpMessage h.ipAddress dstIp localPort dstPort data with
    | none => (-1, h, [])
    | some message =>
        let (sent, h, records) := hostSendIpv4 h (some (.datagram localPort dstPort data)) h.ipAddress dstIp
          ipv4DefaultTtl ipv4ProtocolUdp message nowMs
        (if sent then data.length else -1, h, records)

/-- `packet_to_bytes` of a segment that carries its checksum, and its packet. -/
def hostSendSegment (h : HostStack Ms) (srcIp dstIp : IpAddress) (segment : TcpSegment) (outSize : Nat)
    (nowMs : Ms) : HostStack Ms × List PacketRecord :=
  match tcpToBytes segment outSize with
  | none => (h, [])
  | some tcpRaw =>
      (hostSendIpv4 h (some (.segment segment)) srcIp dstIp ipv4DefaultTtl ipv4ProtocolTcp tcpRaw nowMs).2

/-- The payload of `host_send_icmp_echo_request`. -/
def icmpEchoPayload : List UInt8 :=
  (List.range 32).map UInt8.ofNat

/-- `host_send_icmp_echo_request`. -/
def hostSendIcmpEchoRequest [Zero Ms] (h : HostStack Ms) (targetIp : IpAddress) (ttl : UInt8)
    (sequence : UInt16) (nowMs : Ms) : Bool × HostStack Ms × List PacketRecord :=
  if !h.run.host.hasIp then
    (false, h, [])
  else
    let waiting := { h with icmp := { h.icmp with
      hasLastIcmp := false, icmpInFlight := true, lastIcmpRttMs := 0, icmpSendTimeMs := nowMs } }
    match icmpCreate icmpEchoRequest 0 0x1234 sequence icmpEchoPayload with
    | none => (false, { waiting with icmp := { waiting.icmp with icmpInFlight := false } }, [])
    | some icmp =>
        match icmpToBytes icmp (icmpHeaderSize + icmpMaxPayload) with
        | none => (false, waiting, [])
        | some icmpRaw =>
            hostSendIpv4 waiting (some (.ping sequence)) h.ipAddress targetIp ttl ipv4ProtocolIcmp icmpRaw
              nowMs

/-! ## Receiving -/

/-- The packet with which `host_receive` passes the checks of its IPv4 branch. -/
def hostIpv4Packet (host : ArpHost Ms) (raw : List UInt8) : Option Ipv4Packet :=
  match ethernetFromBytes raw with
  | none => none
  | some frame =>
      if !ethernetIsBroadcast frame.dstMac && !macEqual frame.dstMac host.macAddress then
        none
      else if frame.hasVlan then
        none
      else
        (routerIpv4Packet frame).filter fun packet =>
          (host.hasIp && ipOctetsEqualPublic packet.dstIp host.ipAddress) || ipIsBroadcast packet.dstIp

/-- `dhcp_server_dispatch`. -/
def hostDhcpDispatch (h : HostStack Ms) (server : DhcpServer) (request : UdpDatagram)
    (reads : HostReads Ms) : HostStack Ms × List PacketRecord :=
  let (response, server) := dhcpServerDispatch server request.payload
  let h := { h with dhcp := some server }
  match response with
  | none => (h, [])
  | some dhcpRaw =>
      if reads.socketFree then
        (magiSendto h dhcpServerPort dhcpRaw ipBroadcast dhcpClientPort reads.nowMs).2
      else
        (h, [])

/-- `dns_server_dispatch`; a query whose name never ends is left without an answer. -/
def hostDnsDispatch (h : HostStack Ms) (table : DnsTable) (request : UdpDatagram) (srcIp : IpAddress)
    (reads : HostReads Ms) : HostStack Ms × List PacketRecord :=
  match dnsServerHandleQuery table request.payload 1024 with
  | none => (h, [])
  | some none => (h, [])
  | some (some response) =>
      if reads.socketFree then
        (magiSendto h dnsServerPort response srcIp request.srcPort reads.nowMs).2
      else
        (h, [])

/-- `host_receive` on a packet of `IPV4_PROTOCOL_UDP`. -/
def hostReceiveDatagram (h : HostStack Ms) (packet : Ipv4Packet) (reads : HostReads Ms) :
    HostStack Ms × List PacketRecord :=
  match receiveUdp packet with
  | none => (h, [])
  | some udp =>
      let h := { h with udp := hostReceiveUdp h.udp udp packet.srcIp }
      -- the DHCP server is asked first, each server at its own port only
      match if udp.dstPort = dhcpServerPort then h.dhcp else none,
        if udp.dstPort = dnsServerPort then h.dns else none with
      | some server, _ => hostDhcpDispatch h server udp reads
      | none, some table => hostDnsDispatch h table udp packet.srcIp reads
      | none, none => (h, [])

/-- `host_receive` on a packet of `IPV4_PROTOCOL_TCP`. -/
def hostReceiveSegment (h : HostStack Ms) (packet : Ipv4Packet) (reads : HostReads Ms) :
    HostStack Ms × List PacketRecord :=
  match tcpFromBytes packet.payload with
  | none => (h, [])
  | some segment =>
      let (sockets, reply) := hostReceiveTcp h.tcpSockets h.ipAddress segment packet.srcIp packet.dstIp
      let h := { h with tcpSockets := sockets }
      match reply with
      | none => (h, [])
      | some response => hostSendSegment h h.ipAddress packet.srcIp response tcpHeaderSize reads.nowMs

/-- `host_receive` on a packet of `IPV4_PROTOCOL_ICMP`. -/
def hostReceiveIcmp [Sub Ms] (h : HostStack Ms) (packet : Ipv4Packet) (reads : HostReads Ms) :
    HostStack Ms × List PacketRecord :=
  match receiveIcmp packet with
  | none => (h, [])
  | some icmp =>
      let h := { h with icmp := { h.icmp with
        lastIcmpType := icmp.type
        lastIcmpCode := icmp.code
        lastIcmpSource := packet.srcIp
        lastIcmpSequence := icmp.sequence
        hasLastIcmp := true } }
      if icmp.type = icmpEchoRequest then
        match icmpMessage icmpEchoReply 0 icmp.identifier icmp.sequence icmp.payload with
        | none => (h, [])
        | some icmpRaw =>
            (hostSendIpv4 h none h.ipAddress packet.srcIp ipv4DefaultTtl ipv4ProtocolIcmp icmpRaw
              reads.nowMs).2
      else if icmp.type = icmpEchoReply ∨ icmp.type = icmpTimeExceeded ∨ icmp.type = icmpDestUnreachable then
        ({ h with icmp := hostRecordIcmpRtt h.icmp reads.nowMs }, [])
      else
        (h, [])

/-- `host_receive` on a packet for the host. -/
def hostReceiveIpv4 [Sub Ms] (h : HostStack Ms) (packet : Ipv4Packet) (reads : HostReads Ms) :
    HostStack Ms × List PacketRecord :=
  if packet.protocol = ipv4ProtocolUdp then hostReceiveDatagram h packet reads
  else if packet.protocol = ipv4ProtocolTcp then hostReceiveSegment h packet reads
  else if packet.protocol = ipv4ProtocolIcmp then hostReceiveIcmp h packet reads
  else (h, [])

/-- `host_receive`, where no HTTP server listens. -/
def hostStackReceive [Sub Ms] (h : HostStack Ms) (raw : List UInt8) (reads : HostReads Ms) :
    HostStack Ms × List PacketRecord :=
  match hostIpv4Packet h.run.host raw with
  | some packet =>
      let (h, records) := hostReceiveIpv4 h packet reads
      (h, .heard packet :: records)
  | none => ({ h with run := hostStep h.run (.receive raw) }, [])

/-! ## Calls -/

/-- The commands of the command line at a host, with the tokens parsed, and what the applications of the
datagram sockets call. -/
inductive HostCall (Ms : Type)
  | ping (targetIp : IpAddress) (ttl : UInt8) (sequence : UInt16) (nowMs : Ms)
  | sendto (localPort : UInt16) (data : List UInt8) (dstIp : IpAddress) (dstPort : UInt16) (nowMs : Ms)
  | recvfrom (localPort : UInt16) (bufsize : Nat)
  | udpSend (targetIp : IpAddress) (dstPort : Int) (data : List UInt8) (nowMs : Ms)
  | tcpConnect (targetIp : IpAddress) (dstPort : Int) (nowMs : Ms)
  | tcpListen (port : Int)
  | tcpSend (data : List UInt8) (nowMs : Ms)
  | tcpRecv
  | tcpClose (nowMs : Ms)
  | dnsQuery (serverIp : IpAddress) (queryId : UInt16) (hostname : Text) (reads : HostReads Ms)
  | pollArp (pollMs nowMs : Ms)

/-- The branch `udp_send` of the command line. -/
def processUdpSend (h : HostStack Ms) (targetIp : IpAddress) (dstPort : Int) (data : List UInt8)
    (nowMs : Ms) : HostStack Ms × List PacketRecord :=
  if dstPort ≤ 0 ∨ 65535 < dstPort then
    (h, [])
  else
    (magiSendto h (UInt16.ofNat (dstPort.toNat + 2000)) (data.take udpMaxPayload) targetIp
      (UInt16.ofNat dstPort.toNat) nowMs).2

/-- The branch `tcp_connect`, with the SYN. -/
def processTcpConnectSyn (h : HostStack Ms) (targetIp : IpAddress) (dstPort : Int) (nowMs : Ms) :
    HostStack Ms × List PacketRecord :=
  let (slot, host) := processTcpConnect h.tcpHost targetIp dstPort
  let h := h.withTcpHost host
  match slot with
  | none => (h, [])
  | some slot =>
      let socket := h.tcpSockets slot
      hostSendSegment h socket.localIp socket.remoteIp (tcpSynSegment socket) tcpHeaderSize nowMs

/-- The branch `tcp_listen`. -/
def processTcpListen (h : HostStack Ms) (port : Int) : HostStack Ms :=
  if port ≤ 0 ∨ 65535 < port then
    h
  else
    match tcpSocketAlloc h.tcpSockets with
    | none => h
    | some (slot, sockets) =>
        { h with
          tcpSockets := Function.update sockets slot
            (tcpSocketListen (sockets slot) h.ipAddress (UInt16.ofNat port.toNat)) }

/-- The branch `tcp_send`: the first established connection sends. -/
def processTcpSend (h : HostStack Ms) (data : List UInt8) (nowMs : Ms) : HostStack Ms × List PacketRecord :=
  match tcpFirstSlot fun i => (h.tcpSockets i).inUse && (h.tcpSockets i).state == .established with
  | none => (h, [])
  | some slot =>
      match magiSendTcp (h.tcpSockets slot) (data.take tcpMaxPayload) with
      | none => (h, [])
      | some (socket, segment) =>
          hostSendSegment (h.setTcpSocket slot socket) socket.localIp socket.remoteIp segment
            (tcpHeaderSize + tcpMaxPayload) nowMs

/-- The branch `tcp_recv`. -/
def processTcpRecv (h : HostStack Ms) : HostStack Ms :=
  match tcpFirstSlot fun i => (h.tcpSockets i).inUse &&
      ((h.tcpSockets i).state == .established || (h.tcpSockets i).hasData) with
  | none => h
  | some slot =>
      if (h.tcpSockets slot).hasData then
        h.setTcpSocket slot (tcpSocketRecv (h.tcpSockets slot) tcpMaxPayload).2
      else
        h

/-- The branch `tcp_close`. -/
def processTcpClose (h : HostStack Ms) (nowMs : Ms) : HostStack Ms × List PacketRecord :=
  match tcpFirstSlot fun i => (h.tcpSockets i).inUse &&
      ((h.tcpSockets i).state == .established || (h.tcpSockets i).state == .closeWait) with
  | none => (h, [])
  | some slot =>
      let socket := h.tcpSockets slot
      match magiCloseTcp socket with
      | (_, none) => (h, [])
      | (closed, some fin) =>
          hostSendSegment (h.setTcpSocket slot closed) socket.localIp socket.remoteIp fin tcpHeaderSize nowMs

/-- The port of `cli_dns_query`. -/
def dnsClientPort : UInt16 := 5353

/-- `cli_dns_query` until its query is sent. -/
def cliDnsQuery (h : HostStack Ms) (serverIp : IpAddress) (queryId : UInt16) (hostname : Text)
    (reads : HostReads Ms) : HostStack Ms × List PacketRecord :=
  if !h.run.host.hasIp then
    (h, [])
  else
    match dnsCreateQuery 512 queryId hostname with
    | none => (h, [])
    | some query =>
        if reads.socketFree then
          (magiSendto { h with udp := { h.udp with hasLastUdp := false } } dnsClientPort query serverIp
            dnsServerPort reads.nowMs).2
        else
          (h, [])

/-- The rest of `cli_dns_query`, after the response: the address that it finds, or `none` inside when it returns
`0`.  It reads at once after the query was sent, so that a response is there in synchronous mode only, where all
arrivals are handled inside the call. -/
def cliDnsAnswer (h : HostStack Ms) : Option (Option IpAddress) :=
  let sock : MagiSocket Unit := { magiSocketZero with localPort := dnsClientPort }
  let response := (magiRecvfrom sock h.udp 512).1.bytes
  if response.isEmpty then some none else dnsParseResponse response

def hostCall [Zero Ms] [Sub Ms] (h : HostStack Ms) : HostCall Ms → HostStack Ms × List PacketRecord
  | .ping targetIp ttl sequence nowMs => (hostSendIcmpEchoRequest h targetIp ttl sequence nowMs).2
  | .sendto localPort data dstIp dstPort nowMs => (magiSendto h localPort data dstIp dstPort nowMs).2
  | .recvfrom localPort bufsize =>
      let sock : MagiSocket Unit := { magiSocketZero with localPort := localPort }
      ({ h with udp := (magiRecvfrom sock h.udp bufsize).2 }, [])
  | .udpSend targetIp dstPort data nowMs => processUdpSend h targetIp dstPort data nowMs
  | .tcpConnect targetIp dstPort nowMs => processTcpConnectSyn h targetIp dstPort nowMs
  | .tcpListen port => (processTcpListen h port, [])
  | .tcpSend data nowMs => processTcpSend h data nowMs
  | .tcpRecv => (processTcpRecv h, [])
  | .tcpClose nowMs => processTcpClose h nowMs
  | .dnsQuery serverIp queryId hostname reads => cliDnsQuery h serverIp queryId hostname reads
  | .pollArp pollMs nowMs => (hostStackPollArp h pollMs nowMs, [])

end Functions

end MagiStack
