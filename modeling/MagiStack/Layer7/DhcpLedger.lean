import MagiStack.Layer7.DhcpServer

/-!
# DhcpLedger — no two clients hold one address

A client holds the addresses of its records and the one that was last acknowledged to it.  The two differ: the
request handler acknowledges addresses to clients without a record as well, and what it records is one address of
a client that may have several.

An address is held by one client, and nothing is offered or acknowledged that is another client's or the server's,
in every run in which the allocator does not come to the server's octet, nor to an address that another client was
acknowledged when there is room for a record, and no client asks for the server's address or for one that another
client holds.
-/

namespace MagiStack

/-- The server, and the address last acknowledged to each client. -/
structure DhcpLedger where
  server : DhcpServer
  acknowledged : MacAddress → Option IpAddress

namespace DhcpLedger

/-! ## Runs -/

def initial (serverIp : Option IpAddress) : DhcpLedger :=
  { server := dhcpServerInit serverIp, acknowledged := fun _ => none }

def step (l : DhcpLedger) (action : DhcpAction) : DhcpLedger :=
  { server := (l.server.handle action).2
    acknowledged :=
      match action, (l.server.handle action).1 with
      | .request message, some reply =>
          Function.update l.acknowledged message.hardwareAddress (some reply.yiaddr)
      | _, _ => l.acknowledged }

/-- The address is recorded for the client or was last acknowledged to it. -/
def Holds (l : DhcpLedger) (client : MacAddress) (ip : IpAddress) : Prop :=
  (∃ i record, l.server.clients i = some record ∧ record.chaddr = client ∧
      ipOctetsEqualPublic record.allocatedIp ip = true) ∨
    ∃ acknowledged, l.acknowledged client = some acknowledged ∧ ipOctetsEqualPublic acknowledged ip = true

/-- No two clients hold the same address. -/
def Unique (l : DhcpLedger) : Prop :=
  ∀ client other ip, l.Holds client ip → l.Holds other ip → client = other

/-- Along the run no two clients hold the same address, and every address offered or acknowledged is free
for its client. -/
def Safe (l : DhcpLedger) : List DhcpAction → Prop
  | [] => l.Unique
  | action :: rest =>
      l.Unique ∧
        (∀ reply, (l.server.handle action).1 = some reply →
          (l.server.handle action).2.Free reply.hardwareAddress reply.yiaddr) ∧
        (l.step action).Safe rest

/-- The address is held by no other client. -/
def Unheld (l : DhcpLedger) (chaddr : MacAddress) (ip : IpAddress) : Prop :=
  ∀ other, other ≠ chaddr → ¬ l.Holds other ip

/-- The condition on a step: the allocator has not come to the server's octet, nor, when there is room for a record,
to an address that another client holds; and what is requested is neither the server's address nor one that
another client holds. -/
def StepOk (l : DhcpLedger) : DhcpAction → Prop
  | .discover message =>
      ∀ serverIp, l.server.serverIp = some serverIp →
        ¬ l.server.ComesTo serverIp serverIp.octet3.toNat ∧
          ((∃ slot, l.server.clients slot = none) → ∀ octet, l.server.ComesTo serverIp octet →
            l.Unheld message.hardwareAddress (dhcpAddress serverIp octet))
  | .request message =>
      ∀ serverIp, l.server.serverIp = some serverIp →
        ipOctetsEqualPublic (dhcpRequestedIp message) serverIp = false ∧
          l.Unheld message.hardwareAddress (dhcpRequestedIp message)

/-- Every step of the run meets the condition. -/
def RunOk (l : DhcpLedger) : List DhcpAction → Prop
  | [] => True
  | action :: rest => l.StepOk action ∧ (l.step action).RunOk rest

/-! ## Who holds what -/

variable {l : DhcpLedger} {serverIp ip : IpAddress} {client : MacAddress}

/-- What nobody else holds is recorded for nobody else. -/
theorem Unheld.not_recorded (h : l.Unheld client ip) :
    ∀ i record, l.server.clients i = some record → record.chaddr ≠ client →
      ipOctetsEqualPublic record.allocatedIp ip = false := by
  intro i record hrecord hne
  refine Bool.eq_false_iff.mpr fun hequal => ?_
  exact h record.chaddr hne (Or.inl ⟨i, record, hrecord, rfl, hequal⟩)

/-- One client more holds one address more: they are still apart exactly when nobody else held it. -/
theorem Unique.add_iff {l' : DhcpLedger} (h : l.Unique) (hnew : l'.Holds client ip)
    (hadds : ∀ other ip', l'.Holds other ip' →
      l.Holds other ip' ∨ other = client ∧ ipOctetsEqualPublic ip ip' = true)
    (hkeeps : ∀ other, other ≠ client → l.Holds other ip → l'.Holds other ip) :
    l'.Unique ↔ l.Unheld client ip := by
  constructor
  · intro hunique other hne hother
    exact hne (hunique other client ip (hkeeps other hne hother) hnew)
  · intro hunheld first second ip' hfirst hsecond
    have hmeet : ∀ other, l.Holds other ip' → ipOctetsEqualPublic ip ip' = true → client = other := by
      intro other hother hequal
      by_contra hne
      refine hunheld other (Ne.symm hne) ?_
      rw [ipOctetsEqualPublic_iff] at hequal
      simpa only [Holds, ipOctetsEqualPublic, hequal] using hother
    rcases hadds first ip' hfirst with hfirst | ⟨rfl, hequal⟩
    · rcases hadds second ip' hsecond with hsecond | ⟨rfl, hequal⟩
      · exact h first second ip' hfirst hsecond
      · exact (hmeet first hfirst hequal).symm
    · rcases hadds second ip' hsecond with hsecond | ⟨rfl, -⟩
      · exact hmeet second hsecond hequal
      · rfl

/-! ## A DISCOVER -/

theorem step_discover_acknowledged (l : DhcpLedger) (message : DhcpMessage) :
    (l.step (.discover message)).acknowledged = l.acknowledged :=
  rfl

theorem Holds.congr {l' : DhcpLedger} (hclients : l'.server.clients = l.server.clients)
    (hacknowledged : l'.acknowledged = l.acknowledged) : l'.Holds client ip ↔ l.Holds client ip := by
  rw [Holds, Holds, hclients, hacknowledged]

theorem Unique.congr {l' : DhcpLedger} (hclients : l'.server.clients = l.server.clients)
    (hacknowledged : l'.acknowledged = l.acknowledged) : l'.Unique ↔ l.Unique := by
  simp only [Unique, Holds.congr hclients hacknowledged]

/-- A record in a free slot is one address more that its client holds. -/
theorem Unique.record_iff {l' : DhcpLedger} (h : l.Unique) {slot : Fin dhcpMaxClients} {record : DhcpClient}
    (hfree : l.server.clients slot = none)
    (hclients : l'.server.clients = Function.update l.server.clients slot (some record))
    (hacknowledged : l'.acknowledged = l.acknowledged) :
    l'.Unique ↔ l.Unheld record.chaddr record.allocatedIp := by
  have hkeeps : ∀ other ip, l.Holds other ip → l'.Holds other ip := by
    rintro other ip (⟨i, old, hold, hchaddr, hip⟩ | ⟨acknowledged, hacked, hip⟩)
    · refine Or.inl ⟨i, old, ?_, hchaddr, hip⟩
      have hne : i ≠ slot := by
        rintro rfl
        cases hfree.symm.trans hold
      rw [hclients, Function.update_of_ne hne]
      exact hold
    · exact Or.inr ⟨acknowledged, hacknowledged ▸ hacked, hip⟩
  refine h.add_iff ?_ ?_ fun other _ => hkeeps other _
  · refine Or.inl ⟨slot, record, ?_, rfl, beq_self_eq_true _⟩
    rw [hclients, Function.update_self]
  · rintro other ip (⟨i, new, hnew, hchaddr, hip⟩ | ⟨acknowledged, hacked, hip⟩)
    · rw [hclients] at hnew
      by_cases hi : i = slot
      · rw [hi, Function.update_self] at hnew
        cases hnew
        exact Or.inr ⟨hchaddr.symm, hip⟩
      · rw [Function.update_of_ne hi] at hnew
        exact Or.inl (Or.inl ⟨i, new, hnew, hchaddr, hip⟩)
    · exact Or.inl (Or.inr ⟨acknowledged, hacknowledged ▸ hacked, hip⟩)

/-- What a step has to keep. -/
def StepSafe (l : DhcpLedger) (action : DhcpAction) : Prop :=
  (∀ reply, (l.server.handle action).1 = some reply →
      (l.server.handle action).2.Free reply.hardwareAddress reply.yiaddr) ∧
    (l.step action).Unique

/-- An address that is offered is free unless it is the server's own. -/
theorem free_offered {s s' : DhcpServer} {octet : Nat} {chaddr : MacAddress} (hserver : s.serverIp = some serverIp)
    (hcomes : s.ComesTo serverIp octet)
    (hallocate : dhcpAllocateIp s serverIp chaddr = (some (dhcpAddress serverIp octet), s')) :
    s'.Free chaddr (dhcpAddress serverIp octet) ↔ ¬ s.ComesTo serverIp serverIp.octet3.toNat := by
  rcases dhcpAllocateIp_eq_some hallocate with ⟨-, -, -, hserver', hclients⟩
  have hapart := dhcpLeased_eq_false_iff.mp (Bool.eq_false_iff.mpr hcomes.1)
  have hothers : ∀ i record, s'.clients i = some record → record.chaddr ≠ chaddr →
      ipOctetsEqualPublic record.allocatedIp (dhcpAddress serverIp octet) = false := by
    intro i record hrecord hne
    rcases hclients with ⟨-, heq⟩ | ⟨slot, new, -, hchaddr, -, heq⟩
    · rw [heq] at hrecord
      exact hapart i record hrecord
    · rw [heq] at hrecord
      by_cases hi : i = slot
      · rw [hi, Function.update_self] at hrecord
        cases hrecord
        exact absurd hchaddr hne
      · rw [Function.update_of_ne hi] at hrecord
        exact hapart i record hrecord
  -- The allocator looks at the records only, and may come to the server's own octet.
  have hown : ipOctetsEqualPublic (dhcpAddress serverIp octet) serverIp = true ↔
      s.ComesTo serverIp serverIp.octet3.toNat := by
    have hbound : octet < 256 := by
      rcases hcomes.2 with ⟨-, hlimit⟩ | ⟨-, hlimit, -⟩
      all_goals omega
    constructor
    · intro hequal
      exact (dhcpAddress_own hbound).mp hequal ▸ hcomes
    · -- the allocator comes to one address only
      intro howns
      have hsame := (howns.allocateIp chaddr).symm.trans (congrArg Prod.fst hallocate)
      rw [← Option.some.inj hsame]
      exact (dhcpAddress_own serverIp.octet3.toNat_lt).mpr rfl
  constructor
  · intro hfree howns
    have hnot := hfree.1 serverIp (hserver'.trans hserver)
    exact Bool.false_ne_true (hnot.symm.trans (hown.mpr howns))
  · intro hnot
    refine ⟨fun serverIp' hserverIp' => ?_, hothers⟩
    cases (hserver'.trans hserver).symm.trans hserverIp'
    exact Bool.eq_false_iff.mpr fun hequal => hnot (hown.mp hequal)

/-- The allocator refuses when it comes to no address, and leaves the table as it was. -/
theorem dhcpAllocateIp_eq_none {s s' : DhcpServer} {chaddr : MacAddress}
    (hallocate : dhcpAllocateIp s serverIp chaddr = (none, s')) :
    (∀ octet, ¬ s.ComesTo serverIp octet) ∧ s'.clients = s.clients := by
  constructor
  · intro octet hcomes
    have hsome := hcomes.allocateIp chaddr
    rw [hallocate] at hsome
    cases hsome
  · simp only [dhcpAllocateIp] at hallocate
    split at hallocate
    · rw [← (Prod.mk.inj hallocate).2]
    · cases hallocate

theorem Unique.discover_iff (h : l.Unique) (hserver : l.server.serverIp = some serverIp) (message : DhcpMessage) :
    l.StepSafe (.discover message) ↔ l.StepOk (.discover message) := by
  have hacknowledged := step_discover_acknowledged l message
  have hhandle := DhcpServer.handle_discover hserver message
  have hstep : (l.step (.discover message)).server =
      (dhcpAllocateIp l.server serverIp message.hardwareAddress).2 := congrArg Prod.snd hhandle
  rw [StepSafe, hhandle]
  cases hallocate : dhcpAllocateIp l.server serverIp message.hardwareAddress with
  | mk ip s' =>
      rw [hallocate] at hstep
      cases ip with
      | none =>
          -- No address is given, and the table stays as it was.
          rcases dhcpAllocateIp_eq_none hallocate with ⟨hnever, hclients⟩
          have hunique : (l.step (.discover message)).Unique :=
            (Unique.congr ((congrArg DhcpServer.clients hstep).trans hclients) hacknowledged).mpr h
          refine iff_of_true ⟨fun reply hreply => absurd hreply (Option.some_ne_none reply).symm, hunique⟩
            fun serverIp' hserver' => ?_
          cases hserver.symm.trans hserver'
          exact ⟨hnever _, fun _ octet hcomes => (hnever octet hcomes).elim⟩
      | some ip =>
          rcases dhcpAllocateIp_eq_some hallocate with ⟨octet, hcomes, rfl, -, hclients⟩
          have hfree := free_offered hserver hcomes hallocate
          -- Nobody was recorded for it, so that only an acknowledgement can stand against a record.
          have hunique : (l.step (.discover message)).Unique ↔ ((∃ slot, l.server.clients slot = none) →
              l.Unheld message.hardwareAddress (dhcpAddress serverIp octet)) := by
            rcases hclients with ⟨hfull, heq⟩ | ⟨slot, record, hnone, hchaddr, hip, heq⟩
            · refine iff_of_true
                ((Unique.congr ((congrArg DhcpServer.clients hstep).trans heq) hacknowledged).mpr h) fun hroom => ?_
              rcases hroom with ⟨slot, hslot⟩
              exact absurd hslot (hfull slot)
            · rw [h.record_iff hnone ((congrArg DhcpServer.clients hstep).trans heq) hacknowledged, hchaddr, hip]
              exact ⟨fun hunheld _ => hunheld, fun hunheld => hunheld ⟨slot, hnone⟩⟩
          have hsame : ∀ other, l.server.ComesTo serverIp other →
              dhcpAddress serverIp other = dhcpAddress serverIp octet := by
            intro other hother
            have hfirst := hother.allocateIp message.hardwareAddress
            rw [hallocate] at hfirst
            exact (Option.some.inj hfirst).symm
          rw [hunique]
          constructor
          · rintro ⟨hreply, hrecorded⟩ serverIp' hserver'
            cases hserver.symm.trans hserver'
            refine ⟨hfree.mp (hreply _ rfl), fun hroom other hother => ?_⟩
            rw [hsame other hother]
            exact hrecorded hroom
          · intro hok
            rcases hok serverIp hserver with ⟨hnot, hunheld⟩
            refine ⟨fun reply hreply => ?_, fun hroom => hunheld hroom octet hcomes⟩
            cases hreply
            exact hfree.mpr hnot

/-! ## A REQUEST -/

/-- The client that is acknowledged an address holds it, and everybody else what they held. -/
theorem Unique.acknowledge_iff (h : l.Unique) (hserver : l.server.serverIp = some serverIp) (message : DhcpMessage) :
    (l.step (.request message)).Unique ↔ l.Unheld message.hardwareAddress (dhcpRequestedIp message) := by
  rcases DhcpServer.handle_request hserver message with ⟨hreply, -, hclients⟩
  have hacknowledged : (l.step (.request message)).acknowledged =
      Function.update l.acknowledged message.hardwareAddress (some (dhcpRequestedIp message)) := by
    simp only [step, hreply]
    rfl
  refine h.add_iff ?_ ?_ ?_
  · -- The client holds the address.
    refine Or.inr ⟨dhcpRequestedIp message, ?_, beq_self_eq_true _⟩
    rw [hacknowledged, Function.update_self]
  · -- Nothing else that anybody holds is new.
    rintro other ip (⟨i, record, hrecord, hchaddr, hip⟩ | ⟨acknowledged, hacked, hip⟩)
    · change (l.server.handle (.request message)).2.clients i = some record at hrecord
      rcases hclients with heq | ⟨slot, old, new, -, -, hnewMac, hnewIp, heq⟩
      · rw [heq] at hrecord
        exact Or.inl (Or.inl ⟨i, record, hrecord, hchaddr, hip⟩)
      · rw [heq] at hrecord
        by_cases hi : i = slot
        · rw [hi, Function.update_self] at hrecord
          cases hrecord
          exact Or.inr ⟨hchaddr.symm.trans hnewMac, hnewIp ▸ hip⟩
        · rw [Function.update_of_ne hi] at hrecord
          exact Or.inl (Or.inl ⟨i, record, hrecord, hchaddr, hip⟩)
    · rw [hacknowledged] at hacked
      by_cases hclient : other = message.hardwareAddress
      · rw [hclient, Function.update_self] at hacked
        cases hacked
        exact Or.inr ⟨hclient, hip⟩
      · rw [Function.update_of_ne hclient] at hacked
        exact Or.inl (Or.inr ⟨acknowledged, hacked, hip⟩)
  · -- Nobody else holds less than before.
    rintro other hne (⟨i, record, hrecord, hchaddr, hip⟩ | ⟨acknowledged, hacked, hip⟩)
    · refine Or.inl ⟨i, record, ?_, hchaddr, hip⟩
      change (l.server.handle (.request message)).2.clients i = some record
      rcases hclients with heq | ⟨slot, old, new, hold, holdMac, -, -, heq⟩
      · rw [heq]
        exact hrecord
      · have hi : i ≠ slot := by
          rintro rfl
          cases hold.symm.trans hrecord
          exact hne (hchaddr.symm.trans holdMac)
        rw [heq, Function.update_of_ne hi]
        exact hrecord
    · refine Or.inr ⟨acknowledged, ?_, hip⟩
      rw [hacknowledged, Function.update_of_ne hne]
      exact hacked

theorem Unique.request_iff (h : l.Unique) (hserver : l.server.serverIp = some serverIp) (message : DhcpMessage) :
    l.StepSafe (.request message) ↔ l.StepOk (.request message) := by
  rcases DhcpServer.handle_request hserver message with ⟨hreply, -, -⟩
  have hfree := DhcpServer.free_request_iff hserver message
  rw [StepSafe, h.acknowledge_iff hserver message]
  constructor
  · rintro ⟨hreplies, hunheld⟩ serverIp' hserver'
    have hbefore := hfree.mp (hreplies _ hreply)
    exact ⟨hbefore.1 serverIp' hserver', hunheld⟩
  · intro hok
    refine ⟨fun reply hreply' => ?_, (hok serverIp hserver).2⟩
    rw [hreply] at hreply'
    cases hreply'
    exact hfree.mpr ⟨fun serverIp' hserver' => (hok serverIp' hserver').1, (hok serverIp hserver).2.not_recorded⟩

/-! ## Every run -/

/-- A step keeps the addresses apart exactly when it meets the condition. -/
theorem Unique.step_iff (h : l.Unique) (action : DhcpAction) : l.StepSafe action ↔ l.StepOk action := by
  cases hserver : l.server.serverIp with
  | some serverIp =>
      cases action with
      | discover message => exact h.discover_iff hserver message
      | request message => exact h.request_iff hserver message
  | none =>
      have hhandle := DhcpServer.handle_unset hserver action
      have hsame : l.step action = l := by
        cases action
        all_goals simp only [step, hhandle]
      have hunset : ∀ serverIp, l.server.serverIp ≠ some serverIp := by
        intro serverIp hset
        cases hserver.symm.trans hset
      rw [StepSafe, hhandle, hsame]
      refine iff_of_true ⟨fun reply hreply => absurd hreply (Option.some_ne_none reply).symm, h⟩ ?_
      cases action with
      | discover message => exact fun serverIp hset => absurd hset (hunset serverIp)
      | request message => exact fun serverIp hset => absurd hset (hunset serverIp)

theorem Safe.unique {actions : List DhcpAction} (h : l.Safe actions) : l.Unique := by
  cases actions with
  | nil => exact h
  | cons action rest => exact h.1

theorem Unique.safe_iff (h : l.Unique) (actions : List DhcpAction) : l.Safe actions ↔ l.RunOk actions := by
  induction actions generalizing l with
  | nil => exact ⟨fun _ => trivial, fun _ => h⟩
  | cons action rest ih =>
      have hstep := h.step_iff action
      constructor
      · rintro ⟨-, hreplies, hrest⟩
        exact ⟨hstep.mp ⟨hreplies, hrest.unique⟩, (ih hrest.unique).mp hrest⟩
      · rintro ⟨hok, hrest⟩
        rcases hstep.mpr hok with ⟨hreplies, hunique⟩
        exact ⟨h, hreplies, (ih hunique).mpr hrest⟩

theorem unique_initial (serverIp : Option IpAddress) : (initial serverIp).Unique := by
  rintro client other ip (⟨_, _, hrecord, -⟩ | ⟨_, hacknowledged, -⟩)
  · cases hrecord
  · cases hacknowledged

end DhcpLedger

/-- Addresses are unique along a run exactly when each step of it meets the condition. -/
theorem dhcp_safe_iff (serverIp : Option IpAddress) (actions : List DhcpAction) :
    (DhcpLedger.initial serverIp).Safe actions ↔ (DhcpLedger.initial serverIp).RunOk actions :=
  (DhcpLedger.unique_initial serverIp).safe_iff actions

/-- A second client asks for the address leased to the first and gets it; two clients without a record are
acknowledged the same address; and a server whose own address ends in `20` offers that address first. -/
theorem dhcp_safe_iff_stolen :
    (¬ (DhcpLedger.initial (some ⟨10, 0, 0, 1, 24⟩)).Safe
        [.discover (dhcpMessageOf 1 0), .discover (dhcpMessageOf 2 0),
          .request (dhcpMessageOf 2 20)]) ∧
      (¬ (DhcpLedger.initial (some ⟨10, 0, 0, 1, 24⟩)).Safe
        [.request (dhcpMessageOf 1 50), .request (dhcpMessageOf 2 50)]) ∧
      ¬ (DhcpLedger.initial (some ⟨10, 0, 0, 20, 24⟩)).Safe [.discover (dhcpMessageOf 1 0)] := by
  refine ⟨fun hsafe => ?_, fun hsafe => ?_, fun hsafe => ?_⟩
  · have hunique := hsafe.2.2.2.2.2.2
    have hsame := hunique _ _ ⟨10, 0, 0, 20, 0⟩ (Or.inl ⟨⟨0, by decide⟩, _, rfl, rfl, rfl⟩)
      (Or.inl ⟨⟨1, by decide⟩, _, rfl, rfl, rfl⟩)
    exact absurd hsame (by decide)
  · have hunique := hsafe.2.2.2.2
    have hsame := hunique (dhcpMessageOf 1 50).hardwareAddress (dhcpMessageOf 2 50).hardwareAddress
      ⟨10, 0, 0, 50, 0⟩ (Or.inr ⟨_, rfl, rfl⟩) (Or.inr ⟨_, rfl, rfl⟩)
    exact absurd hsame (by decide)
  · have hfree := hsafe.2.1 _ rfl
    exact absurd (hfree.1 _ rfl) (by decide)

end MagiStack
