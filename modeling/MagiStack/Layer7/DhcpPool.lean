import MagiStack.Layer7.DhcpLease

/-!
# DhcpPool — when a DISCOVER may fail

The allocator counts upwards from `.20` and never comes back, so it is right to fail at `.253` only if everything
it has offered is still held by somebody else.  A client that repeats its DISCOVER gets a new address each
time: it is not looked up in the table.  In runs in which each REQUEST asks for the address last offered, the
pool behaves as a pool exactly when no client repeats a DISCOVER.
-/

namespace MagiStack

/-! ## Runs -/

/-- A server, with the address it last offered to each client. -/
structure DhcpPool where
  server : DhcpServer
  offers : MacAddress → Option IpAddress

namespace DhcpPool

def initial (serverIp : IpAddress) : DhcpPool :=
  { server := dhcpServerInit (some serverIp), offers := fun _ => none }

def step (p : DhcpPool) (action : DhcpAction) : DhcpPool :=
  { server := (p.server.handle action).2
    offers :=
      match action, (p.server.handle action).1 with
      | .discover message, some reply =>
          Function.update p.offers message.hardwareAddress (some reply.yiaddr)
      | _, _ => p.offers }

/-- Each REQUEST asks for the address last offered to its client. -/
def AsksOffered (p : DhcpPool) : List DhcpAction → Prop
  | [] => True
  | .discover message :: rest => (p.step (.discover message)).AsksOffered rest
  | .request message :: rest =>
      (∃ offered ∈ p.offers message.hardwareAddress,
        ipOctetsEqualPublic (dhcpRequestedIp message) offered = true) ∧
      (p.step (.request message)).AsksOffered rest

/-! ## The property and the condition -/

/-- The address is recorded for the client or was last offered to it. -/
def Holds (p : DhcpPool) (client : MacAddress) (ip : IpAddress) : Prop :=
  (∃ i record, p.server.clients i = some record ∧ record.chaddr = client ∧
      ipOctetsEqualPublic record.allocatedIp ip = true) ∨
    ∃ offered, p.offers client = some offered ∧ ipOctetsEqualPublic offered ip = true

/-- What the pool owes a DISCOVER. -/
structure Serves (p : DhcpPool) (serverIp : IpAddress) (message : DhcpMessage) : Prop where
  /-- It fails only when others hold every address. -/
  exhausted : (p.server.handle (.discover message)).1 = none → ∀ octet, 20 ≤ octet → octet ≤ 252 →
    ∃ other, other ≠ message.hardwareAddress ∧ p.Holds other (dhcpAddress serverIp octet)
  /-- A client that was offered an address uses up no other. -/
  repeated : p.offers message.hardwareAddress ≠ none →
    ∀ reply, (p.server.handle (.discover message)).1 = some reply →
      p.Holds message.hardwareAddress reply.yiaddr
  /-- The counter passes over what it offers and over leased addresses only. -/
  skipped : ∀ octet, p.server.nextIpOctet ≤ octet → octet ≤ 252 →
    octet < (p.server.handle (.discover message)).2.nextIpOctet →
    (∃ reply, (p.server.handle (.discover message)).1 = some reply ∧
        reply.yiaddr = dhcpAddress serverIp octet) ∨
      dhcpLeased p.server.clients (dhcpAddress serverIp octet) = true

/-- Along the run every DISCOVER is served. -/
def ServesAll (p : DhcpPool) (serverIp : IpAddress) : List DhcpAction → Prop
  | [] => True
  | .discover message :: rest =>
      p.Serves serverIp message ∧ (p.step (.discover message)).ServesAll serverIp rest
  | .request message :: rest => (p.step (.request message)).ServesAll serverIp rest

/-- The condition: no DISCOVER comes from a client that was offered an address before. -/
def FirstDiscovers (p : DhcpPool) : List DhcpAction → Prop
  | [] => True
  | .discover message :: rest =>
      p.offers message.hardwareAddress = none ∧ (p.step (.discover message)).FirstDiscovers rest
  | .request message :: rest => (p.step (.request message)).FirstDiscovers rest

/-! ## Addresses -/

theorem octetsEqual_trans {a b c : IpAddress} (hab : ipOctetsEqualPublic a b = true)
    (hbc : ipOctetsEqualPublic b c = true) : ipOctetsEqualPublic a c = true := by
  simp only [ipOctetsEqualPublic, beq_iff_eq] at hab hbc ⊢
  exact hab.trans hbc

theorem octetsEqual_refl (a : IpAddress) : ipOctetsEqualPublic a a = true :=
  beq_self_eq_true a.octets

theorem dhcpAddress_inj {serverIp : IpAddress} {first second : Nat} (hfirst : first < 256)
    (hsecond : second < 256)
    (h : ipOctetsEqualPublic (dhcpAddress serverIp first) (dhcpAddress serverIp second) = true) :
    first = second := by
  have hbyte : UInt8.ofNat first = UInt8.ofNat second := by
    simpa [ipOctetsEqualPublic, IpAddress.octets, dhcpAddress] using h
  rw [← UInt8.toNat_inj, UInt8.toNat_ofNat_of_lt' hfirst, UInt8.toNat_ofNat_of_lt' hsecond] at hbyte
  exact hbyte

theorem Holds.congr {p : DhcpPool} {client : MacAddress} {ip ip' : IpAddress} (h : p.Holds client ip)
    (hequal : ipOctetsEqualPublic ip ip' = true) : p.Holds client ip' := by
  obtain ⟨i, record, hrecord, hchaddr, hip⟩ | ⟨offered, hoffered, hip⟩ := h
  · exact Or.inl ⟨i, record, hrecord, hchaddr, octetsEqual_trans hip hequal⟩
  · exact Or.inr ⟨offered, hoffered, octetsEqual_trans hip hequal⟩

/-! ## The invariant -/

/-- What holds in every state: what is held lies behind the counter, and is held by one client. -/
structure Counted (p : DhcpPool) (serverIp : IpAddress) : Prop where
  server : p.server.serverIp = some serverIp
  start : 20 ≤ p.server.nextIpOctet
  behind : ∀ client ip, p.Holds client ip → ∃ octet, 20 ≤ octet ∧ octet < p.server.nextIpOctet ∧
    octet ≤ 252 ∧ ipOctetsEqualPublic ip (dhcpAddress serverIp octet) = true
  alone : ∀ client other ip, p.Holds client ip → p.Holds other ip → client = other

/-- Everything behind the counter is what somebody was last offered. -/
def AllOffered (p : DhcpPool) (serverIp : IpAddress) : Prop :=
  ∀ octet, 20 ≤ octet → octet < p.server.nextIpOctet → octet ≤ 252 →
    ∃ client, p.offers client = some (dhcpAddress serverIp octet)

theorem counted_initial (serverIp : IpAddress) : (initial serverIp).Counted serverIp where
  server := rfl
  start := le_refl _
  behind := fun _ _ h => by
    obtain ⟨_, _, hrecord, -⟩ | ⟨_, hoffered, -⟩ := h
    · cases hrecord
    · cases hoffered
  alone := fun _ _ _ h => by
    obtain ⟨_, _, hrecord, -⟩ | ⟨_, hoffered, -⟩ := h
    · cases hrecord
    · cases hoffered

theorem allOffered_initial (serverIp : IpAddress) : (initial serverIp).AllOffered serverIp := by
  intro octet hge hlt
  exact absurd hlt (not_lt.mpr hge)

/-! ## A DISCOVER -/

theorem le_dhcpSkipLeased (clients : DhcpClients) (serverIp : IpAddress) (rounds next octet : Nat) :
    next ≤ (dhcpSkipLeased clients serverIp rounds next octet).1 := by
  induction rounds generalizing next octet with
  | zero => exact le_refl next
  | succ rounds ih =>
      rw [dhcpSkipLeased]
      split
      · exact (Nat.le_succ next).trans (ih (next + 1) (next + 1))
      · exact le_refl next

variable {p : DhcpPool} {serverIp : IpAddress}

/-- The address of the counter is not leased. -/
theorem Counted.not_leased (h : p.Counted serverIp) (hlimit : p.server.nextIpOctet ≤ 252) :
    dhcpLeased p.server.clients (dhcpAddress serverIp p.server.nextIpOctet) = false := by
  refine dhcpLeased_eq_false_iff.mpr fun i record hrecord => ?_
  refine Bool.eq_false_iff.mpr fun hequal => ?_
  obtain ⟨octet, -, hlt, hle, hoctet⟩ :=
    h.behind record.chaddr _ (Or.inl ⟨i, record, hrecord, rfl, hequal⟩)
  have hsame := dhcpAddress_inj (by omega) (by omega) hoctet
  omega

/-- While the counter is at most 252 its address is offered, and recorded if there is room. -/
theorem Counted.discover_offers (h : p.Counted serverIp) (message : DhcpMessage)
    (hlimit : p.server.nextIpOctet ≤ 252) :
    (p.server.handle (.discover message)).1 = some (dhcpReply dhcpOffer serverIp message
        (dhcpAddress serverIp p.server.nextIpOctet)) ∧
      (p.server.handle (.discover message)).2.nextIpOctet = p.server.nextIpOctet + 1 ∧
      ∀ i record, (p.server.handle (.discover message)).2.clients i = some record →
        p.server.clients i = some record ∨ record.chaddr = message.hardwareAddress ∧
          record.allocatedIp = dhcpAddress serverIp p.server.nextIpOctet := by
  -- The address of the counter is leased to nobody, so that nothing is passed over.
  have hskip : dhcpSkipLeased p.server.clients serverIp (255 - (p.server.nextIpOctet + 1))
      (p.server.nextIpOctet + 1) p.server.nextIpOctet =
        (p.server.nextIpOctet + 1, p.server.nextIpOctet) := by
    rw [show 255 - (p.server.nextIpOctet + 1) = (253 - p.server.nextIpOctet) + 1 by omega,
      dhcpSkipLeased, h.not_leased hlimit]
    rfl
  rw [DhcpServer.handle_discover h.server]
  simp only [dhcpAllocateIp, hskip]
  rw [if_neg (by omega)]
  refine ⟨rfl, rfl, fun i record hrecord => ?_⟩
  cases hslot : dhcpFreeSlot p.server.clients with
  | none =>
      simp only [hslot, Option.elim_none] at hrecord
      exact Or.inl hrecord
  | some slot =>
      simp only [hslot, Option.elim_some] at hrecord
      by_cases hi : i = slot
      · rw [hi, Function.update_self] at hrecord
        rw [← Option.some.inj hrecord]
        exact Or.inr ⟨rfl, rfl⟩
      · rw [Function.update_of_ne hi] at hrecord
        exact Or.inl hrecord

/-- From 253 on every DISCOVER fails. -/
theorem Counted.discover_fails (h : p.Counted serverIp) (message : DhcpMessage)
    (hlimit : 252 < p.server.nextIpOctet) :
    (p.server.handle (.discover message)).1 = none ∧
      p.server.nextIpOctet < (p.server.handle (.discover message)).2.nextIpOctet ∧
      (p.server.handle (.discover message)).2.clients = p.server.clients := by
  have hle := le_dhcpSkipLeased p.server.clients serverIp (255 - (p.server.nextIpOctet + 1))
    (p.server.nextIpOctet + 1) p.server.nextIpOctet
  rw [DhcpServer.handle_discover h.server]
  simp only [dhcpAllocateIp]
  rw [if_pos (by omega)]
  exact ⟨rfl, hle, rfl⟩

/-- What a client holds after a DISCOVER it held before, or it is the address of the counter, just offered
to it. -/
theorem Counted.holds_discover (h : p.Counted serverIp) {message : DhcpMessage} {client : MacAddress}
    {ip : IpAddress} (hholds : (p.step (.discover message)).Holds client ip) :
    p.Holds client ip ∨ p.server.nextIpOctet ≤ 252 ∧ client = message.hardwareAddress ∧
      ipOctetsEqualPublic (dhcpAddress serverIp p.server.nextIpOctet) ip = true := by
  by_cases hlimit : p.server.nextIpOctet ≤ 252
  · obtain ⟨hreply, -, hclients⟩ := h.discover_offers message hlimit
    obtain ⟨i, record, hrecord, hchaddr, hip⟩ | ⟨offered, hoffered, hip⟩ := hholds
    · obtain hbefore | ⟨hnew, haddress⟩ := hclients i record hrecord
      · exact Or.inl (Or.inl ⟨i, record, hbefore, hchaddr, hip⟩)
      · exact Or.inr ⟨hlimit, hchaddr.symm.trans hnew, haddress ▸ hip⟩
    · simp only [step, hreply] at hoffered
      by_cases hclient : client = message.hardwareAddress
      · rw [hclient, Function.update_self] at hoffered
        rw [← Option.some.inj hoffered] at hip
        exact Or.inr ⟨hlimit, hclient, hip⟩
      · rw [Function.update_of_ne hclient] at hoffered
        exact Or.inl (Or.inr ⟨offered, hoffered, hip⟩)
  · obtain ⟨hreply, -, hclients⟩ := h.discover_fails message (not_le.mp hlimit)
    refine Or.inl ?_
    simpa only [Holds, step, hreply, hclients] using hholds

theorem Counted.lt_discover (h : p.Counted serverIp) (message : DhcpMessage) :
    p.server.nextIpOctet < (p.step (.discover message)).server.nextIpOctet := by
  by_cases hlimit : p.server.nextIpOctet ≤ 252
  · exact (Nat.lt_succ_self _).trans_eq (h.discover_offers message hlimit).2.1.symm
  · exact (h.discover_fails message (not_le.mp hlimit)).2.1

theorem Counted.discover (h : p.Counted serverIp) (message : DhcpMessage) :
    (p.step (.discover message)).Counted serverIp := by
  have hnext := h.lt_discover message
  refine ⟨?_, ?_, fun client ip hholds => ?_, fun client other ip hclient hother => ?_⟩
  · exact (DhcpServer.handle_serverIp p.server (.discover message)).trans h.server
  · exact h.start.trans hnext.le
  · obtain hbefore | ⟨hlimit, -, hip⟩ := h.holds_discover hholds
    · obtain ⟨octet, hge, hlt, hle, hoctet⟩ := h.behind client ip hbefore
      exact ⟨octet, hge, hlt.trans hnext, hle, hoctet⟩
    · refine ⟨_, h.start, hnext, hlimit, ?_⟩
      rw [DhcpServer.octetsEqual_symm]
      exact hip
  · -- The address of the counter was held by nobody.
    have hfresh : ∀ holder, p.server.nextIpOctet ≤ 252 → p.Holds holder ip →
        ipOctetsEqualPublic (dhcpAddress serverIp p.server.nextIpOctet) ip = true → False := by
      intro holder hlimit hholds hip
      obtain ⟨octet, -, hlt, hle, hoctet⟩ := h.behind holder ip hholds
      have hsame := dhcpAddress_inj (by omega) (by omega) (octetsEqual_trans hip hoctet)
      omega
    obtain hfirst | ⟨hlimit, hsame, hip⟩ := h.holds_discover hclient
    · obtain hsecond | ⟨hlimit, -, hip⟩ := h.holds_discover hother
      · exact h.alone client other ip hfirst hsecond
      · exact (hfresh client hlimit hfirst hip).elim
    · obtain hsecond | ⟨-, hsame', -⟩ := h.holds_discover hother
      · exact (hfresh other hlimit hsecond hip).elim
      · exact hsame.trans hsame'.symm

/-- Everything behind the counter is offered to somebody, if the client of the DISCOVER had no offer. -/
theorem Counted.allOffered_discover (h : p.Counted serverIp) (hall : p.AllOffered serverIp)
    {message : DhcpMessage} (hfirst : p.offers message.hardwareAddress = none) :
    (p.step (.discover message)).AllOffered serverIp := by
  intro octet hge hlt hle
  by_cases hlimit : p.server.nextIpOctet ≤ 252
  · obtain ⟨hreply, hnext, -⟩ := h.discover_offers message hlimit
    change octet < (p.server.handle (.discover message)).2.nextIpOctet at hlt
    rw [hnext] at hlt
    simp only [step, hreply]
    obtain hbefore | rfl := Nat.lt_succ_iff_lt_or_eq.mp hlt
    · obtain ⟨client, hclient⟩ := hall octet hge hbefore hle
      refine ⟨client, ?_⟩
      rw [Function.update_of_ne ?_]
      · exact hclient
      · rintro rfl
        cases hfirst.symm.trans hclient
    · exact ⟨message.hardwareAddress, Function.update_self _ _ _⟩
  · obtain ⟨hreply, -, -⟩ := h.discover_fails message (not_le.mp hlimit)
    simp only [step, hreply]
    exact hall octet hge (by omega) hle

/-- A DISCOVER is served exactly when it is the first of its client that is answered. -/
theorem Counted.serves_iff (h : p.Counted serverIp) (message : DhcpMessage) :
    (p.Serves serverIp message → p.offers message.hardwareAddress = none) ∧
      (p.AllOffered serverIp → p.offers message.hardwareAddress = none →
        p.Serves serverIp message) := by
  refine ⟨fun hserves => ?_, fun hall hfirst => ⟨fun hnone octet hge hle => ?_, ?_, ?_⟩⟩
  · by_contra hrepeated
    by_cases hlimit : p.server.nextIpOctet ≤ 252
    · -- The new address lies before everything the client holds.
      have hreply := (h.discover_offers message hlimit).1
      obtain ⟨octet, -, hlt, hle, hoctet⟩ :=
        h.behind _ _ (hserves.repeated hrepeated _ hreply)
      have hsame := dhcpAddress_inj (by omega) (by omega) hoctet
      omega
    · -- What the client holds is held by nobody else.
      obtain ⟨offered, hoffered⟩ := Option.ne_none_iff_exists'.mp hrepeated
      have hholds : p.Holds message.hardwareAddress offered :=
        Or.inr ⟨offered, hoffered, octetsEqual_refl offered⟩
      obtain ⟨octet, hge, -, hle, hoctet⟩ := h.behind _ _ hholds
      obtain ⟨other, hother, hothers⟩ := hserves.exhausted
        (h.discover_fails message (not_le.mp hlimit)).1 octet hge hle
      exact hother (h.alone _ _ _ hothers (hholds.congr hoctet))
  · by_cases hlimit : p.server.nextIpOctet ≤ 252
    · rw [(h.discover_offers message hlimit).1] at hnone
      cases hnone
    · obtain ⟨other, hother⟩ := hall octet hge (by omega) hle
      refine ⟨other, ?_, Or.inr ⟨_, hother, octetsEqual_refl _⟩⟩
      rintro rfl
      cases hfirst.symm.trans hother
  · exact fun hrepeated => absurd hfirst hrepeated
  · intro octet hge hle hlt
    have hlimit : p.server.nextIpOctet ≤ 252 := hge.trans hle
    obtain ⟨hreply, hnext, -⟩ := h.discover_offers message hlimit
    rw [hnext] at hlt
    have hsame : octet = p.server.nextIpOctet := by omega
    exact Or.inl ⟨_, hreply, by rw [hsame]; rfl⟩

/-! ## A REQUEST -/

theorem handle_request_nextIpOctet (s : DhcpServer) (message : DhcpMessage) :
    (s.handle (.request message)).2.nextIpOctet = s.nextIpOctet := by
  simp only [DhcpServer.handle, dhcpServerHandleRequest]
  split
  all_goals rfl

/-- A client that asks for the address offered to it holds nothing new afterwards. -/
theorem Counted.holds_request (h : p.Counted serverIp) {message : DhcpMessage}
    (hasks : ∃ offered ∈ p.offers message.hardwareAddress,
      ipOctetsEqualPublic (dhcpRequestedIp message) offered = true)
    {client : MacAddress} {ip : IpAddress} (hholds : (p.step (.request message)).Holds client ip) :
    p.Holds client ip := by
  obtain ⟨i, record, hrecord, hchaddr, hip⟩ | ⟨offered, hoffered, hip⟩ := hholds
  · obtain ⟨-, -, hsame | ⟨slot, old, new, hold, holdMac, hnewMac, hnewIp, hclients⟩⟩ :=
      DhcpServer.handle_request h.server message
    · change (p.server.handle (.request message)).2.clients i = some record at hrecord
      rw [hsame] at hrecord
      exact Or.inl ⟨i, record, hrecord, hchaddr, hip⟩
    · change (p.server.handle (.request message)).2.clients i = some record at hrecord
      rw [hclients] at hrecord
      by_cases hi : i = slot
      · rw [hi, Function.update_self] at hrecord
        obtain rfl := Option.some.inj hrecord
        obtain ⟨offered, hoffered, hequal⟩ := hasks
        refine Or.inr ⟨offered, ?_, ?_⟩
        · rw [← hchaddr, hnewMac]
          exact hoffered
        · rw [DhcpServer.octetsEqual_symm] at hequal
          exact octetsEqual_trans hequal (hnewIp ▸ hip)
      · rw [Function.update_of_ne hi] at hrecord
        exact Or.inl ⟨i, record, hrecord, hchaddr, hip⟩
  · exact Or.inr ⟨offered, hoffered, hip⟩

theorem Counted.request (h : p.Counted serverIp) {message : DhcpMessage}
    (hasks : ∃ offered ∈ p.offers message.hardwareAddress,
      ipOctetsEqualPublic (dhcpRequestedIp message) offered = true) :
    (p.step (.request message)).Counted serverIp := by
  have hnext := handle_request_nextIpOctet p.server message
  refine ⟨?_, ?_, fun client ip hholds => ?_, fun client other ip hclient hother => ?_⟩
  · exact (DhcpServer.handle_serverIp p.server (.request message)).trans h.server
  · exact h.start.trans_eq hnext.symm
  · obtain ⟨octet, hge, hlt, hrest⟩ := h.behind client ip (h.holds_request hasks hholds)
    exact ⟨octet, hge, hlt.trans_eq hnext.symm, hrest⟩
  · exact h.alone client other ip (h.holds_request hasks hclient) (h.holds_request hasks hother)

theorem allOffered_request (hall : p.AllOffered serverIp) (message : DhcpMessage) :
    (p.step (.request message)).AllOffered serverIp := by
  intro octet hge hlt hle
  exact hall octet hge (hlt.trans_eq (handle_request_nextIpOctet p.server message)) hle

/-! ## Runs -/

theorem Counted.servesAll_iff (h : p.Counted serverIp) (hall : p.AllOffered serverIp)
    {actions : List DhcpAction} (hasks : p.AsksOffered actions) :
    p.ServesAll serverIp actions ↔ p.FirstDiscovers actions := by
  induction actions generalizing p with
  | nil => exact Iff.rfl
  | cons action rest ih =>
      cases action with
      | request message =>
          exact ih (h.request hasks.1) (allOffered_request hall message) hasks.2
      | discover message =>
          obtain ⟨honly, henough⟩ := h.serves_iff message
          have hrest : p.offers message.hardwareAddress = none →
              ((p.step (.discover message)).ServesAll serverIp rest ↔
                (p.step (.discover message)).FirstDiscovers rest) := fun hfirst =>
            ih (h.discover message) (h.allOffered_discover hall hfirst) hasks
          constructor
          · rintro ⟨hserves, hlater⟩
            exact ⟨honly hserves, (hrest (honly hserves)).mp hlater⟩
          · rintro ⟨hfirst, hlater⟩
            exact ⟨henough hall hfirst, (hrest hfirst).mpr hlater⟩

end DhcpPool

/-- In a run in which each REQUEST asks for the address last offered to its client, every DISCOVER is served
exactly when each comes from a client without an offer. -/
theorem dhcpPool_servesAll_iff (serverIp : IpAddress) (actions : List DhcpAction)
    (hasks : (DhcpPool.initial serverIp).AsksOffered actions) :
    (DhcpPool.initial serverIp).ServesAll serverIp actions ↔
      (DhcpPool.initial serverIp).FirstDiscovers actions :=
  (DhcpPool.counted_initial serverIp).servesAll_iff (DhcpPool.allOffered_initial serverIp) hasks

/-- Two clients, the second of which asks for its address. -/
theorem dhcpPool_servesAll_iff_twoClients :
    (DhcpPool.initial ⟨10, 0, 0, 1, 24⟩).FirstDiscovers
        [.discover (dhcpMessageOf 1 0), .discover (dhcpMessageOf 2 0),
          .request (dhcpMessageOf 2 21)] ∧
      (DhcpPool.initial ⟨10, 0, 0, 1, 24⟩).ServesAll ⟨10, 0, 0, 1, 24⟩
        [.discover (dhcpMessageOf 1 0), .discover (dhcpMessageOf 2 0),
          .request (dhcpMessageOf 2 21)] := by
  have hfirst : (DhcpPool.initial ⟨10, 0, 0, 1, 24⟩).FirstDiscovers
      [.discover (dhcpMessageOf 1 0), .discover (dhcpMessageOf 2 0),
        .request (dhcpMessageOf 2 21)] := ⟨by decide, by decide, trivial⟩
  refine ⟨hfirst, (dhcpPool_servesAll_iff _ _ ?_).mpr hfirst⟩
  exact ⟨⟨_, rfl, by decide⟩, trivial⟩

/-- One client sends two DISCOVERs and is offered `.20` and then `.21`. -/
theorem dhcpPool_servesAll_iff_repeated :
    ¬ (DhcpPool.initial ⟨10, 0, 0, 1, 24⟩).ServesAll ⟨10, 0, 0, 1, 24⟩
      [.discover (dhcpMessageOf 1 0), .discover (dhcpMessageOf 1 0)] := by
  intro h
  have hholds := h.2.1.repeated (by decide) _ rfl
  obtain ⟨octet, -, hlt, hle, hoctet⟩ :=
    ((DhcpPool.counted_initial ⟨10, 0, 0, 1, 24⟩).discover (dhcpMessageOf 1 0)).behind _ _ hholds
  have hsame : 21 = octet := DhcpPool.dhcpAddress_inj (by decide) (by omega) hoctet
  rw [← hsame] at hlt
  exact absurd hlt (by decide)

end MagiStack
