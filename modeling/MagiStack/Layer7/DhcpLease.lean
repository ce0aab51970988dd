import MagiStack.Layer7.DhcpServer

/-!
# DhcpLease — what the lease table says after an acknowledgement

`dhcp_server_handle_request` acknowledges an address and records it with the first record of the client, where
`dhcp_get_lease` looks for it.  A client without a record is acknowledged as well: one that has not sent a
DISCOVER, or whose DISCOVER came when the table was full.
-/

namespace MagiStack

/-- `dhcp_get_lease`; `none` when it returns `0`. -/
def dhcpGetLease (clients : DhcpClients) (mac : MacAddress) : Option IpAddress :=
  (dhcpClientSlot clients mac).bind fun slot => (clients slot).map DhcpClient.allocatedIp

namespace DhcpServer

/-! ## Runs -/

def run (s : DhcpServer) (actions : List DhcpAction) : DhcpServer :=
  actions.foldl (fun s action => (s.handle action).2) s

/-- What is acknowledged is what `dhcp_get_lease` returns, up to the next request of the same client. -/
def LeasesAgree (s : DhcpServer) (actions : List DhcpAction) : Prop :=
  ∀ before message after reply, before ++ .request message :: after <+: actions →
    ((s.run before).handle (.request message)).1 = some reply →
    (∀ later, .request later ∈ after → later.hardwareAddress ≠ message.hardwareAddress) →
    dhcpGetLease (((s.run before).handle (.request message)).2.run after).clients
      reply.hardwareAddress = some reply.yiaddr

/-- The condition on a step: a request that is acknowledged is one of a client with a record. -/
def RequestOk (s : DhcpServer) : DhcpAction → Prop
  | .discover _ => True
  | .request message =>
      s.serverIp ≠ none → (dhcpClientSlot s.clients message.hardwareAddress).isSome = true

/-- Every step of the run meets the condition. -/
def RequestsOk (s : DhcpServer) : List DhcpAction → Prop
  | [] => True
  | action :: rest => s.RequestOk action ∧ (s.handle action).2.RequestsOk rest

/-! ## The first record of a client -/

/-- A slot is in use only when all slots before it are. -/
def Compact (s : DhcpServer) : Prop :=
  ∀ i j, i < j → s.clients i = none → s.clients j = none

theorem dhcpClientSlot_eq_some_iff {clients : DhcpClients} {mac : MacAddress}
    {slot : Fin dhcpMaxClients} :
    dhcpClientSlot clients mac = some slot ↔
      (∃ client, clients slot = some client ∧ client.chaddr = mac) ∧
        ∀ j, j < slot → ∀ client, clients j = some client → client.chaddr ≠ mac := by
  rw [dhcpClientSlot, ← Fin.find?_eq_find?_finRange, Fin.find?_eq_some_iff]
  refine and_congr (by simp [Option.any_eq_true]) (forall₂_congr fun j _ => ?_)
  cases clients j with
  | none => simp
  | some client => simp

theorem dhcpFreeSlot_eq_some {clients : DhcpClients} {slot : Fin dhcpMaxClients}
    (h : dhcpFreeSlot clients = some slot) :
    clients slot = none ∧ ∀ j, j < slot → clients j ≠ none := by
  rw [dhcpFreeSlot, ← Fin.find?_eq_find?_finRange, Fin.find?_eq_some_iff] at h
  refine ⟨Option.isNone_iff_eq_none.mp h.1, fun j hj hnone => ?_⟩
  have hused := h.2 j hj
  rw [hnone] at hused
  cases hused

/-- What a DISCOVER records: nothing, or a client in the first free slot. -/
theorem handle_discover_clients (s : DhcpServer) (message : DhcpMessage) :
    (s.handle (.discover message)).2.clients = s.clients ∨
      ∃ slot client, dhcpFreeSlot s.clients = some slot ∧
        (s.handle (.discover message)).2.clients =
          Function.update s.clients slot (some client) := by
  cases hserver : s.serverIp with
  | none => exact Or.inl (congrArg clients (congrArg Prod.snd (handle_unset hserver _)))
  | some serverIp =>
      rw [handle_discover hserver]
      simp only [dhcpAllocateIp]
      split
      · exact Or.inl rfl
      · cases hslot : dhcpFreeSlot s.clients with
        | none => exact Or.inl rfl
        | some slot => exact Or.inr ⟨slot, _, rfl, rfl⟩

theorem handle_serverIp (s : DhcpServer) (action : DhcpAction) :
    (s.handle action).2.serverIp = s.serverIp := by
  cases hserver : s.serverIp with
  | none => rw [handle_unset hserver, hserver]
  | some serverIp =>
      cases action with
      | request message => exact (handle_request hserver message).2.1.trans hserver
      | discover message =>
          rw [handle_discover hserver]
          simp only [dhcpAllocateIp]
          split
          · exact hserver
          · exact hserver

/-- What a request records: its address, with the first record of the client. -/
theorem handle_request_clients (s : DhcpServer) (message : DhcpMessage) :
    (s.handle (.request message)).2.clients = s.clients ∨
      ∃ slot old client, dhcpClientSlot s.clients message.hardwareAddress = some slot ∧
        s.clients slot = some old ∧ client.chaddr = old.chaddr ∧
        client.allocatedIp = dhcpRequestedIp message ∧
        (s.handle (.request message)).2.clients =
          Function.update s.clients slot (some client) := by
  cases hserver : s.serverIp with
  | none => exact Or.inl (congrArg clients (congrArg Prod.snd (handle_unset hserver _)))
  | some serverIp =>
      rw [handle, dhcpServerHandleRequest, hserver]
      cases hslot : dhcpClientSlot s.clients message.hardwareAddress with
      | none => exact Or.inl rfl
      | some slot =>
          rcases (dhcpClientSlot_eq_some_iff.mp hslot).1 with ⟨old, hold, -⟩
          refine Or.inr ⟨slot, old, { old with
            xid := message.xid, allocatedIp := dhcpRequestedIp message }, rfl, hold, rfl, rfl, ?_⟩
          simp only [Option.elim_some, hold, Option.map_some]

theorem Compact.handle {s : DhcpServer} (h : s.Compact) (action : DhcpAction) :
    (s.handle action).2.Compact := by
  intro i j hij hi
  cases action with
  | discover message =>
      rcases handle_discover_clients s message with heq | ⟨slot, client, hslot, heq⟩
      · rw [heq] at hi ⊢
        exact h i j hij hi
      · rcases dhcpFreeSlot_eq_some hslot with ⟨-, hbefore⟩
        rw [heq] at hi ⊢
        have hne : i ≠ slot := by
          rintro rfl
          rw [Function.update_self] at hi
          cases hi
        rw [Function.update_of_ne hne] at hi
        -- A slot that is free after the first free one stands behind it.
        have hlt : slot < i := lt_of_le_of_ne (not_lt.mp fun hlt => hbefore i hlt hi) hne.symm
        rw [Function.update_of_ne (hlt.trans hij).ne']
        exact h i j hij hi
  | request message =>
      rcases handle_request_clients s message with heq | ⟨slot, old, client, -, hold, -, -, heq⟩
      · rw [heq] at hi ⊢
        exact h i j hij hi
      · rw [heq] at hi ⊢
        have hne : i ≠ slot := by
          rintro rfl
          rw [Function.update_self] at hi
          cases hi
        rw [Function.update_of_ne hne] at hi
        -- A request frees no slot and fills none.
        have hfree := h i j hij hi
        have hne' : j ≠ slot := by
          rintro rfl
          rw [hold] at hfree
          cases hfree
        rw [Function.update_of_ne hne']
        exact hfree

/-- A DISCOVER leaves every lease. -/
theorem Compact.lease_discover {s : DhcpServer} (h : s.Compact) (message : DhcpMessage)
    {mac : MacAddress} {ip : IpAddress} (hlease : dhcpGetLease s.clients mac = some ip) :
    dhcpGetLease (s.handle (.discover message)).2.clients mac = some ip := by
  rcases handle_discover_clients s message with heq | ⟨free, client, hfree, heq⟩
  · rwa [heq]
  · rcases Option.bind_eq_some_iff.mp hlease with ⟨slot, hslot, hip⟩
    rcases dhcpClientSlot_eq_some_iff.mp hslot with ⟨⟨old, hold, hmac⟩, hbefore⟩
    have hnone := (dhcpFreeSlot_eq_some hfree).1
    -- The record stands before the first free slot.
    have hlt : slot < free := by
      rcases lt_trichotomy slot free with hlt | rfl | hgt
      · exact hlt
      · cases hold.symm.trans hnone
      · cases hold.symm.trans (h free slot hgt hnone)
    have hslot' : dhcpClientSlot (Function.update s.clients free (some client)) mac = some slot := by
      refine dhcpClientSlot_eq_some_iff.mpr ⟨⟨old, ?_, hmac⟩, fun j hj => ?_⟩
      · rw [Function.update_of_ne hlt.ne]
        exact hold
      · rw [Function.update_of_ne (hj.trans hlt).ne]
        exact hbefore j hj
    rw [heq, dhcpGetLease, hslot', Option.bind_some, Function.update_of_ne hlt.ne]
    exact hip

/-- Recording an address with a client keeps all clients in their slots. -/
theorem dhcpClientSlot_update {clients : DhcpClients} {slot : Fin dhcpMaxClients}
    {old client : DhcpClient} (hold : clients slot = some old) (hchaddr : client.chaddr = old.chaddr)
    (mac : MacAddress) :
    dhcpClientSlot (Function.update clients slot (some client)) mac = dhcpClientSlot clients mac := by
  have hsame : ∀ i, ((Function.update clients slot (some client) i).any fun c => c.chaddr == mac) =
      (clients i).any fun c => c.chaddr == mac := by
    intro i
    by_cases hi : i = slot
    · rw [hi, Function.update_self, hold, Option.any_some, Option.any_some, hchaddr]
    · rw [Function.update_of_ne hi]
  simp only [dhcpClientSlot, hsame]

/-- A request leaves the leases of other clients. -/
theorem lease_request_of_ne {s : DhcpServer} {message : DhcpMessage} {mac : MacAddress}
    (hne : message.hardwareAddress ≠ mac) :
    dhcpGetLease (s.handle (.request message)).2.clients mac = dhcpGetLease s.clients mac := by
  rcases handle_request_clients s message with heq | ⟨slot, old, client, hslot, hold, hchaddr, -, heq⟩
  · rw [heq]
  · rw [heq, dhcpGetLease, dhcpGetLease, dhcpClientSlot_update hold hchaddr]
    refine Option.bind_congr fun other hother => ?_
    -- A record belongs to one hardware address.
    have hapart : other ≠ slot := by
      rintro rfl
      rcases (dhcpClientSlot_eq_some_iff.mp hslot).1 with ⟨first, hfirst, hmac⟩
      rcases (dhcpClientSlot_eq_some_iff.mp hother).1 with ⟨second, hsecond, hmac'⟩
      cases hfirst.symm.trans hsecond
      exact hne (hmac.symm.trans hmac')
    rw [Function.update_of_ne hapart]

/-- A request of a client with a record leases the address it asks for. -/
theorem lease_request {s : DhcpServer} (hserver : s.serverIp ≠ none) {message : DhcpMessage}
    (hslot : (dhcpClientSlot s.clients message.hardwareAddress).isSome = true) :
    dhcpGetLease (s.handle (.request message)).2.clients message.hardwareAddress =
      some (dhcpRequestedIp message) := by
  rcases Option.isSome_iff_exists.mp hslot with ⟨slot, hslot⟩
  rcases (dhcpClientSlot_eq_some_iff.mp hslot).1 with ⟨old, hold, -⟩
  rcases Option.ne_none_iff_exists'.mp hserver with ⟨serverIp, hserver⟩
  have hclients : (s.handle (.request message)).2.clients = Function.update s.clients slot
      (some { old with xid := message.xid, allocatedIp := dhcpRequestedIp message }) := by
    rw [handle, dhcpServerHandleRequest, hserver]
    simp only [hslot, Option.elim_some, hold, Option.map_some]
  have hsame := @dhcpClientSlot_update s.clients slot old
    { old with xid := message.xid, allocatedIp := dhcpRequestedIp message } hold rfl
    message.hardwareAddress
  rw [hclients, dhcpGetLease, hsame, hslot, Option.bind_some, Function.update_self, Option.map_some]

/-! ## Every run -/

theorem run_append (s : DhcpServer) (before after : List DhcpAction) :
    s.run (before ++ after) = (s.run before).run after :=
  List.foldl_append

theorem Compact.run {s : DhcpServer} (h : s.Compact) (actions : List DhcpAction) :
    (s.run actions).Compact := by
  induction actions generalizing s with
  | nil => exact h
  | cons action rest ih => exact ih (h.handle action)

/-- A lease stays until its client requests again. -/
theorem Compact.lease_run {s : DhcpServer} (h : s.Compact) {mac : MacAddress} {ip : IpAddress}
    (hlease : dhcpGetLease s.clients mac = some ip) {actions : List DhcpAction}
    (hothers : ∀ later, .request later ∈ actions → later.hardwareAddress ≠ mac) :
    dhcpGetLease (s.run actions).clients mac = some ip := by
  induction actions generalizing s with
  | nil => exact hlease
  | cons action rest ih =>
      refine ih (h.handle action) ?_ fun later hlater =>
        hothers later (List.mem_cons_of_mem _ hlater)
      cases action with
      | discover message => exact h.lease_discover message hlease
      | request message =>
          rwa [lease_request_of_ne (hothers message List.mem_cons_self)]

theorem RequestsOk.append {s : DhcpServer} {before after : List DhcpAction}
    (h : s.RequestsOk (before ++ after)) : (s.run before).RequestsOk after := by
  induction before generalizing s with
  | nil => exact h
  | cons action before ih => exact ih h.2

/-- An acknowledgement comes from a server with an address, for the address that was requested. -/
theorem handle_request_reply {s : DhcpServer} {message reply : DhcpMessage}
    (h : (s.handle (.request message)).1 = some reply) :
    s.serverIp ≠ none ∧ reply.hardwareAddress = message.hardwareAddress ∧
      reply.yiaddr = dhcpRequestedIp message := by
  cases hserver : s.serverIp with
  | none =>
      rw [handle_unset hserver] at h
      cases h
  | some serverIp =>
      rw [(handle_request hserver message).1] at h
      cases h
      exact ⟨Option.some_ne_none serverIp, rfl, rfl⟩

theorem Compact.leasesAgree {s : DhcpServer} (h : s.Compact) {actions : List DhcpAction}
    (hok : s.RequestsOk actions) : s.LeasesAgree actions := by
  intro before message after reply hprefix hreply hothers
  rcases hprefix with ⟨later, rfl⟩
  -- The request leases its address, and what follows leaves the lease.
  rw [List.append_assoc, List.cons_append] at hok
  rcases handle_request_reply hreply with ⟨hserver, hmac, hip⟩
  have hlease := lease_request hserver (hok.append.1 hserver)
  rw [hmac, hip]
  exact ((h.run before).handle _).lease_run hlease hothers

/-- A run whose leases agree meets the condition: right after a request the lease is there. -/
theorem LeasesAgree.requestsOk {s : DhcpServer} {actions : List DhcpAction}
    (h : s.LeasesAgree actions) : s.RequestsOk actions := by
  induction actions generalizing s with
  | nil => trivial
  | cons action rest ih =>
      refine ⟨?_, ih fun before message after reply hprefix =>
        h (action :: before) message after reply (List.cons_prefix_cons.mpr ⟨rfl, hprefix⟩)⟩
      cases action with
      | discover message => trivial
      | request message =>
          intro hserver
          rcases Option.ne_none_iff_exists'.mp hserver with ⟨serverIp, hserver⟩
          have hreply := (handle_request hserver message).1
          have hlease := h [] message [] _ ⟨rest, rfl⟩ hreply fun _ hlater => (nomatch hlater)
          -- Without a record nothing is stored, and the acknowledged address is no lease.
          by_contra hslot
          have hnone := Option.not_isSome_iff_eq_none.mp hslot
          have hclients : (s.handle (.request message)).2.clients = s.clients := by
            rcases handle_request_clients s message with heq | ⟨slot, -, -, hslot', -⟩
            · exact heq
            · cases hnone.symm.trans hslot'
          change dhcpGetLease (s.handle (.request message)).2.clients message.hardwareAddress =
            some _ at hlease
          rw [hclients, dhcpGetLease, hnone] at hlease
          cases hlease

theorem compact_init (serverIp : Option IpAddress) : (dhcpServerInit serverIp).Compact :=
  fun _ _ _ _ => rfl

end DhcpServer

/-- Acknowledgements and leases agree along a run exactly when every request that is acknowledged comes from
a client with a record. -/
theorem dhcp_leases_agree_iff (serverIp : Option IpAddress) (actions : List DhcpAction) :
    (dhcpServerInit serverIp).LeasesAgree actions ↔
      (dhcpServerInit serverIp).RequestsOk actions :=
  ⟨DhcpServer.LeasesAgree.requestsOk, (DhcpServer.compact_init serverIp).leasesAgree⟩

/-- The DISCOVERs of seventeen clients, and the request of the last. -/
def seventeenClients : List DhcpAction :=
  ((List.range 17).map fun client => .discover (dhcpMessageOf (UInt8.ofNat client) 0)) ++
    [.request (dhcpMessageOf 16 36)]

/-- The last client is offered an address and acknowledged, but the table has no record of it. -/
theorem dhcp_leases_agree_iff_seventeen :
    ¬ (dhcpServerInit (some ⟨10, 0, 0, 1, 24⟩)).LeasesAgree seventeenClients := by
  intro h
  have hlease := h ((List.range 17).map fun client =>
      .discover (dhcpMessageOf (UInt8.ofNat client) 0)) (dhcpMessageOf 16 36) [] _
    (List.prefix_refl _) rfl fun _ hlater => (nomatch hlater)
  exact absurd hlease (by decide +kernel)

end MagiStack
