import MagiStack.Layer2.Ethernet
import MagiStack.Layer3.Ipv4

/-!
# DhcpServer — the lease table and its two handlers

Embedding of `dhcp_server_handle_discover` and `dhcp_server_handle_request` of `layer7/dhcp_server.c`.  A
client is known by the first six bytes of its `chaddr`.

The allocator looks for an octet that is not leased but never looks at the server's own, and the request
handler records whatever address the client asks for.  `DhcpServer.ComesTo` says which octet the next DISCOVER
is offered.
-/

namespace MagiStack

def dhcpMaxClients : Nat := 16
def dhcpOptionsSize : Nat := 60
def dhcpBootReply : UInt8 := 2
def dhcpMagicCookie : UInt32 := 0x63825363
def dhcpLeaseTime : UInt32 := 86400
def dhcpOptionMsgType : UInt8 := 53
def dhcpOptionServerId : UInt8 := 54
def dhcpOptionSubnetMask : UInt8 := 1
def dhcpOptionRouter : UInt8 := 3
def dhcpOptionLeaseTime : UInt8 := 51
def dhcpOptionEnd : UInt8 := 255

/-! ## Messages and leases -/

/-- `DHCPMessage`, without the fields the handlers only clear. -/
structure DhcpMessage where
  op : UInt8
  htype : UInt8
  hlen : UInt8
  hops : UInt8
  xid : UInt32
  ciaddr : IpAddress
  yiaddr : IpAddress
  siaddr : IpAddress
  chaddr : Vector UInt8 16
  magicCookie : UInt32
  options : List UInt8

/-- The hardware address of the client. -/
def DhcpMessage.hardwareAddress (message : DhcpMessage) : MacAddress :=
  MacAddress.read message.chaddr.toList 0

/-- `DHCPClient`. -/
structure DhcpClient where
  chaddr : MacAddress
  allocatedIp : IpAddress
  leaseTime : UInt32
  xid : UInt32
  deriving DecidableEq

/-- `g_clients`; a slot that is not in use is `none`. -/
abbrev DhcpClients : Type := Fin dhcpMaxClients → Option DhcpClient

/-- The static state of the server.  `g_next_ip_octet` is an `int` in C, and exact here below `2 ^ 31` DISCOVERs. -/
structure DhcpServer where
  clients : DhcpClients
  nextIpOctet : Nat
  serverIp : Option IpAddress

/-- `dhcp_server_init`, with the address `dhcp_server_set_ip` gave. -/
def dhcpServerInit (serverIp : Option IpAddress) : DhcpServer :=
  { clients := fun _ => none, nextIpOctet := 20, serverIp := serverIp }

/-! ## The allocator -/

/-- Some client in use has the address. -/
def dhcpLeased (clients : DhcpClients) (ip : IpAddress) : Bool :=
  (List.finRange dhcpMaxClients).any fun i =>
    (clients i).any fun client => ipOctetsEqualPublic client.allocatedIp ip

/-- The server's address with another last octet. -/
def dhcpAddress (serverIp : IpAddress) (octet : Nat) : IpAddress :=
  { serverIp with octet3 := UInt8.ofNat octet }

/-- The loop of `dhcp_allocate_ip`, which runs while `g_next_ip_octet < 255`: the counter and the octet
it ends with.  The first argument is what is left of that bound. -/
def dhcpSkipLeased (clients : DhcpClients) (serverIp : IpAddress) : Nat → Nat → Nat → Nat × Nat
  | 0, next, octet => (next, octet)
  | rounds + 1, next, octet =>
      if dhcpLeased clients (dhcpAddress serverIp octet) then
        dhcpSkipLeased clients serverIp rounds (next + 1) (next + 1)
      else
        (next, octet)

/-- The first slot that is not in use. -/
def dhcpFreeSlot (clients : DhcpClients) : Option (Fin dhcpMaxClients) :=
  (List.finRange dhcpMaxClients).find? fun i => (clients i).isNone

/-- `dhcp_allocate_ip`; `none` when it returns `0`. -/
def dhcpAllocateIp (s : DhcpServer) (serverIp : IpAddress) (chaddr : MacAddress) :
    Option IpAddress × DhcpServer :=
  let (next, octet) := dhcpSkipLeased s.clients serverIp (255 - (s.nextIpOctet + 1))
    (s.nextIpOctet + 1) s.nextIpOctet
  let s := { s with nextIpOctet := next }
  if 254 ≤ next then
    (none, s)
  else
    let ip := dhcpAddress serverIp octet
    (some ip,
      { s with
        clients := (dhcpFreeSlot s.clients).elim s.clients fun slot =>
          Function.update s.clients slot
            (some { chaddr := chaddr, allocatedIp := ip, leaseTime := dhcpLeaseTime, xid := 0 }) })

/-! ## Replies -/

/-- `dhcp_add_option`. -/
def dhcpAddOption (options : List UInt8) (tag : UInt8) (data : List UInt8) : List UInt8 :=
  if dhcpOptionsSize < options.length + 2 + data.length then
    options
  else
    options ++ [tag, UInt8.ofNat data.length] ++ data

/-- `dhcp_finish_options`. -/
def dhcpFinishOptions (options : List UInt8) : List UInt8 :=
  if options.length < dhcpOptionsSize then options ++ [dhcpOptionEnd] else options

/-- The message both handlers build. -/
def dhcpReply (msgType : UInt8) (serverIp : IpAddress) (message : DhcpMessage) (yiaddr : IpAddress) :
    DhcpMessage :=
  { op := dhcpBootReply
    htype := 1
    hlen := 6
    hops := 0
    xid := message.xid
    ciaddr := ipZero
    yiaddr := yiaddr
    siaddr := serverIp
    chaddr := message.chaddr
    magicCookie := dhcpMagicCookie
    options :=
      let options := dhcpAddOption [] dhcpOptionMsgType [msgType]
      let options := dhcpAddOption options dhcpOptionServerId serverIp.octets
      let options := dhcpAddOption options dhcpOptionSubnetMask [255, 255, 255, 0]
      let options := dhcpAddOption options dhcpOptionRouter { serverIp with octet3 := 1 }.octets
      let options := dhcpAddOption options dhcpOptionLeaseTime (writeU32Be dhcpLeaseTime)
      dhcpFinishOptions options }

def dhcpOffer : UInt8 := 2
def dhcpAck : UInt8 := 5

/-- `dhcp_server_handle_discover`; no reply when it returns `0`. -/
def dhcpServerHandleDiscover (s : DhcpServer) (discover : DhcpMessage) :
    Option DhcpMessage × DhcpServer :=
  match s.serverIp with
  | none => (none, s)
  | some serverIp =>
      let (ip, s) := dhcpAllocateIp s serverIp discover.hardwareAddress
      (ip.map (dhcpReply dhcpOffer serverIp discover), s)

/-- The address a request asks for. -/
def dhcpRequestedIp (request : DhcpMessage) : IpAddress :=
  if request.ciaddr.octet0 = 0 ∧ request.ciaddr.octet3 = 0 then request.yiaddr else request.ciaddr

/-- The first slot in use by a client. -/
def dhcpClientSlot (clients : DhcpClients) (chaddr : MacAddress) : Option (Fin dhcpMaxClients) :=
  (List.finRange dhcpMaxClients).find? fun i =>
    (clients i).any fun client => client.chaddr == chaddr

/-- `dhcp_server_handle_request`; no reply when it returns `0`. -/
def dhcpServerHandleRequest (s : DhcpServer) (request : DhcpMessage) :
    Option DhcpMessage × DhcpServer :=
  match s.serverIp with
  | none => (none, s)
  | some serverIp =>
      (some (dhcpReply dhcpAck serverIp request (dhcpRequestedIp request)),
        { s with
          clients := (dhcpClientSlot s.clients request.hardwareAddress).elim s.clients fun slot =>
            Function.update s.clients slot
              ((s.clients slot).map fun client =>
                { client with xid := request.xid, allocatedIp := dhcpRequestedIp request }) })

/-! ## Runs -/

/-- A message from a client. -/
inductive DhcpAction
  | discover (message : DhcpMessage)
  | request (message : DhcpMessage)

namespace DhcpServer

def handle (s : DhcpServer) : DhcpAction → Option DhcpMessage × DhcpServer
  | .discover message => dhcpServerHandleDiscover s message
  | .request message => dhcpServerHandleRequest s message

/-- The address is neither the server's own nor recorded for another client. -/
def Free (s : DhcpServer) (chaddr : MacAddress) (ip : IpAddress) : Prop :=
  (∀ serverIp, s.serverIp = some serverIp → ipOctetsEqualPublic ip serverIp = false) ∧
    ∀ i client, s.clients i = some client → client.chaddr ≠ chaddr →
      ipOctetsEqualPublic client.allocatedIp ip = false

/-- The octet of the address that the allocator comes to: it is not leased, it is the octet of the counter or stands
at least two above it, and everything that is tried before it is leased. -/
def ComesTo (s : DhcpServer) (serverIp : IpAddress) (octet : Nat) : Prop :=
  let leased := fun octet : Nat => dhcpLeased s.clients (dhcpAddress serverIp octet) = true
  ¬ leased octet ∧
    (octet = s.nextIpOctet ∧ octet < 253 ∨
      s.nextIpOctet + 2 ≤ octet ∧ octet < 254 ∧ leased s.nextIpOctet ∧
        ∀ other, s.nextIpOctet + 2 ≤ other → other < octet → leased other)

end DhcpServer

/-! ## What the allocator finds -/

theorem dhcpLeased_eq_false_iff {clients : DhcpClients} {ip : IpAddress} :
    dhcpLeased clients ip = false ↔
      ∀ i client, clients i = some client → ipOctetsEqualPublic client.allocatedIp ip = false := by
  rw [dhcpLeased, List.any_eq_false]
  constructor
  · intro h i client hclient
    have hslot := h i (List.mem_finRange i)
    rw [hclient, Option.any_some] at hslot
    exact Bool.not_eq_true _ ▸ hslot
  · intro h i _
    cases hclient : clients i with
    | none => simp
    | some client => simp [h i client hclient]

/-- The loop ends at an octet that is not leased, after everything it tried before. -/
theorem dhcpSkipLeased_cases {clients : DhcpClients} {serverIp : IpAddress} {rounds next octet : Nat}
    (hrounds : rounds = 255 - next)
    (h : (dhcpSkipLeased clients serverIp rounds next octet).1 < 255) :
    dhcpLeased clients (dhcpAddress serverIp
        (dhcpSkipLeased clients serverIp rounds next octet).2) = false ∧
      (dhcpSkipLeased clients serverIp rounds next octet = (next, octet) ∨
        ∃ found, dhcpSkipLeased clients serverIp rounds next octet = (found, found) ∧
          next + 1 ≤ found ∧ dhcpLeased clients (dhcpAddress serverIp octet) = true ∧
          ∀ other, next + 1 ≤ other → other < found →
            dhcpLeased clients (dhcpAddress serverIp other) = true) := by
  induction rounds generalizing next octet with
  | zero =>
      rw [dhcpSkipLeased] at h
      omega
  | succ rounds ih =>
      rw [dhcpSkipLeased] at h ⊢
      by_cases hleased : dhcpLeased clients (dhcpAddress serverIp octet) = true
      · rw [if_pos hleased] at h ⊢
        rcases ih (by omega) h with ⟨hfree, heq | ⟨found, heq, hfound, hfirst, hbetween⟩⟩
        · refine ⟨hfree, Or.inr ⟨next + 1, heq, le_refl _, hleased, fun other hge hlt => ?_⟩⟩
          omega
        · refine ⟨hfree, Or.inr ⟨found, heq, by omega, hleased, fun other hge hlt => ?_⟩⟩
          rcases Nat.eq_or_lt_of_le hge with rfl | hgt
          · exact hfirst
          · exact hbetween other hgt hlt
      · rw [if_neg hleased]
        exact ⟨Bool.not_eq_true _ ▸ hleased, Or.inl rfl⟩

theorem dhcpSkipLeased_eq {clients : DhcpClients} {serverIp : IpAddress} {rounds next found : Nat}
    (hrounds : rounds = 255 - next) (hnext : next ≤ found) (hfound : found < 255)
    (hfree : ¬ dhcpLeased clients (dhcpAddress serverIp found) = true)
    (hbetween : ∀ other, next ≤ other → other < found →
      dhcpLeased clients (dhcpAddress serverIp other) = true) :
    dhcpSkipLeased clients serverIp rounds next next = (found, found) := by
  induction rounds generalizing next with
  | zero => omega
  | succ rounds ih =>
      rw [dhcpSkipLeased]
      rcases Nat.eq_or_lt_of_le hnext with rfl | hlt
      · exact if_neg hfree
      · rw [if_pos (hbetween next (le_refl _) hlt)]
        exact ih (by omega) hlt fun other hge hother => hbetween other (by omega) hother

/-- An octet gives the server's own address when it is the server's last one. -/
theorem dhcpAddress_own {serverIp : IpAddress} {octet : Nat} (hoctet : octet < 256) :
    ipOctetsEqualPublic (dhcpAddress serverIp octet) serverIp = true ↔
      octet = serverIp.octet3.toNat := by
  have hbyte : UInt8.ofNat octet = serverIp.octet3 ↔ octet = serverIp.octet3.toNat := by
    rw [← UInt8.toNat_inj, UInt8.toNat_ofNat_of_lt' hoctet]
  simpa [ipOctetsEqualPublic, IpAddress.octets, dhcpAddress] using hbyte

/-- What `dhcp_allocate_ip` does when it returns `1`. -/
theorem dhcpAllocateIp_eq_some {s s' : DhcpServer} {serverIp ip : IpAddress} {chaddr : MacAddress}
    (h : dhcpAllocateIp s serverIp chaddr = (some ip, s')) :
    ∃ octet, s.ComesTo serverIp octet ∧ ip = dhcpAddress serverIp octet ∧ s'.serverIp = s.serverIp ∧
      ((∀ slot, s.clients slot ≠ none) ∧ s'.clients = s.clients ∨
        ∃ slot client, s.clients slot = none ∧ client.chaddr = chaddr ∧ client.allocatedIp = ip ∧
          s'.clients = Function.update s.clients slot (some client)) := by
  simp only [dhcpAllocateIp] at h
  split at h
  · cases h
  rename_i hlimit
  have hnext := not_le.mp hlimit
  rcases Prod.mk.inj h with ⟨hip, hs'⟩
  have hcases := @dhcpSkipLeased_cases s.clients serverIp _ (s.nextIpOctet + 1) s.nextIpOctet rfl
    (by omega)
  generalize dhcpSkipLeased s.clients serverIp (255 - (s.nextIpOctet + 1)) (s.nextIpOctet + 1)
    s.nextIpOctet = result at hip hs' hcases hnext
  rcases result with ⟨next, octet⟩
  refine ⟨octet, ⟨ne_true_of_eq_false hcases.1, ?_⟩, (Option.some.inj hip).symm, ?_, ?_⟩
  · -- The octet is that of the counter, or the first above it that is not leased.
    rcases hcases.2 with heq | ⟨found, heq, hfound, hfirst, hbetween⟩
    · rcases Prod.mk.inj heq with ⟨rfl, rfl⟩
      exact Or.inl ⟨rfl, by omega⟩
    · rcases Prod.mk.inj heq with ⟨rfl, rfl⟩
      exact Or.inr ⟨hfound, hnext, hfirst, hbetween⟩
  · rw [← hs']
  · rw [← hs', ← Option.some.inj hip]
    cases hslot : dhcpFreeSlot s.clients with
    | none =>
        refine Or.inl ⟨fun slot hnone => ?_, rfl⟩
        have hused := List.find?_eq_none.mp hslot slot (List.mem_finRange slot)
        exact hused (Option.isNone_iff_eq_none.mpr hnone)
    | some slot =>
        have hnone : (s.clients slot).isNone = true :=
          List.find?_some (p := fun i => (s.clients i).isNone) hslot
        exact Or.inr ⟨slot, _, Option.isNone_iff_eq_none.mp hnone, rfl, rfl, rfl⟩

/-- The allocator gives the address that it comes to. -/
theorem DhcpServer.ComesTo.allocateIp {s : DhcpServer} {serverIp : IpAddress} {octet : Nat}
    (h : s.ComesTo serverIp octet) (chaddr : MacAddress) :
    (dhcpAllocateIp s serverIp chaddr).1 = some (dhcpAddress serverIp octet) := by
  have hskip : ∃ next, next < 254 ∧
      dhcpSkipLeased s.clients serverIp (255 - (s.nextIpOctet + 1)) (s.nextIpOctet + 1)
        s.nextIpOctet = (next, octet) := by
    rcases h with ⟨hfree, ⟨rfl, hlimit⟩ | ⟨hge, hlimit, hfirst, hbetween⟩⟩
    · refine ⟨s.nextIpOctet + 1, by omega, ?_⟩
      rw [show 255 - (s.nextIpOctet + 1) = (253 - s.nextIpOctet) + 1 by omega, dhcpSkipLeased,
        if_neg hfree]
    · refine ⟨octet, hlimit, ?_⟩
      rw [show 255 - (s.nextIpOctet + 1) = (253 - s.nextIpOctet) + 1 by omega, dhcpSkipLeased,
        if_pos hfirst]
      exact dhcpSkipLeased_eq (by omega) hge (by omega) hfree hbetween
  rcases hskip with ⟨next, hnext, hskip⟩
  simp only [dhcpAllocateIp, hskip]
  rw [if_neg (not_le.mpr hnext)]

/-! ## One message -/

namespace DhcpServer

theorem octetsEqual_symm (a b : IpAddress) : ipOctetsEqualPublic a b = ipOctetsEqualPublic b a := by
  rw [ipOctetsEqualPublic, ipOctetsEqualPublic, Bool.eq_iff_iff, beq_iff_eq, beq_iff_eq, eq_comm]

theorem handle_discover {s : DhcpServer} {serverIp : IpAddress}
    (hserver : s.serverIp = some serverIp) (message : DhcpMessage) :
    s.handle (.discover message) =
      ((dhcpAllocateIp s serverIp message.hardwareAddress).1.map
          (dhcpReply dhcpOffer serverIp message),
        (dhcpAllocateIp s serverIp message.hardwareAddress).2) := by
  rw [handle, dhcpServerHandleDiscover, hserver]

theorem handle_unset {s : DhcpServer} (hserver : s.serverIp = none) (action : DhcpAction) :
    s.handle action = (none, s) := by
  cases action with
  | discover message => rw [handle, dhcpServerHandleDiscover, hserver]
  | request message => rw [handle, dhcpServerHandleRequest, hserver]

theorem dhcpClientSlot_eq_some {clients : DhcpClients} {chaddr : MacAddress}
    {slot : Fin dhcpMaxClients} (h : dhcpClientSlot clients chaddr = some slot) :
    ((clients slot).any fun client => client.chaddr == chaddr) = true := by
  rw [dhcpClientSlot] at h
  simpa using List.find?_some h

/-- What `dhcp_server_handle_request` does. -/
theorem handle_request {s : DhcpServer} {serverIp : IpAddress} (hserver : s.serverIp = some serverIp)
    (message : DhcpMessage) :
    (s.handle (.request message)).1 =
        some (dhcpReply dhcpAck serverIp message (dhcpRequestedIp message)) ∧
      (s.handle (.request message)).2.serverIp = s.serverIp ∧
      ((s.handle (.request message)).2.clients = s.clients ∨
        ∃ slot old client, s.clients slot = some old ∧ old.chaddr = message.hardwareAddress ∧
          client.chaddr = message.hardwareAddress ∧ client.allocatedIp = dhcpRequestedIp message ∧
          (s.handle (.request message)).2.clients =
            Function.update s.clients slot (some client)) := by
  rw [handle, dhcpServerHandleRequest, hserver]
  refine ⟨rfl, rfl, ?_⟩
  cases hslot : dhcpClientSlot s.clients message.hardwareAddress with
  | none => exact Or.inl rfl
  | some slot =>
      have hany := dhcpClientSlot_eq_some hslot
      cases hclient : s.clients slot with
      | none =>
          rw [hclient] at hany
          cases hany
      | some client =>
          rw [hclient, Option.any_some, beq_iff_eq] at hany
          refine Or.inr ⟨slot, client, { client with
            xid := message.xid, allocatedIp := dhcpRequestedIp message }, hclient, hany, hany, rfl, ?_⟩
          simp only [Option.elim_some, hclient, Option.map_some]

/-- For other clients the table is the same before and after a request. -/
theorem free_request_iff {s : DhcpServer} {serverIp : IpAddress} (hserver : s.serverIp = some serverIp)
    (message : DhcpMessage) :
    (s.handle (.request message)).2.Free message.hardwareAddress (dhcpRequestedIp message) ↔
      s.Free message.hardwareAddress (dhcpRequestedIp message) := by
  rcases handle_request hserver message with ⟨-, hserver', hclients⟩
  have hothers : ∀ i client, client.chaddr ≠ message.hardwareAddress →
      ((s.handle (.request message)).2.clients i = some client ↔ s.clients i = some client) := by
    intro i client hne
    rcases hclients with heq | ⟨slot, old, recorded, hold, hchaddr, hchaddr', -, heq⟩
    · rw [heq]
    · rw [heq]
      by_cases hi : i = slot
      · rw [hi, Function.update_self, hold]
        constructor
        · intro hclient
          exact absurd (Option.some.inj hclient ▸ hchaddr') hne
        · intro hclient
          exact absurd (Option.some.inj hclient ▸ hchaddr) hne
      · rw [Function.update_of_ne hi]
  rw [Free, Free, hserver']
  refine and_congr Iff.rfl (forall_congr' fun i => forall_congr' fun client => ?_)
  constructor
  · intro hfree hclient hne
    exact hfree ((hothers i client hne).mpr hclient) hne
  · intro hfree hclient hne
    exact hfree ((hothers i client hne).mp hclient) hne

end DhcpServer

/-- A message of the client whose hardware address ends in `client`, asking for `10.0.0.octet`. -/
def dhcpMessageOf (client octet : UInt8) : DhcpMessage :=
  { op := 1
    htype := 1
    hlen := 6
    hops := 0
    xid := 7
    ciaddr := ⟨10, 0, 0, octet, 0⟩
    yiaddr := ipZero
    siaddr := ipZero
    chaddr := #v[2, 0, 0, 0, 0, client, 0, 0, 0, 0, 0, 0, 0, 0, 0, 0]
    magicCookie := dhcpMagicCookie
    options := [] }

end MagiStack
