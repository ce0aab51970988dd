import MagiStack.Network.Ping

/-!
# Traceroute — the routers on the way, one after another

The command `traceroute` of `utils/cli.c`: echo requests with a growing TTL, and after each of them a look at what
the host has been told.  A round is a call of `host_send_icmp_echo_request` and the arrivals until nothing is in
flight any more: the command looks at once after the call, by which time the synchronous mode has handled them all.
On a path of fewer than thirty routers that report, the command lists them in their order, then
the target, and stops there.
-/

namespace MagiStack

/-! ## The command -/

/-- A line that `traceroute` prints: the TTL, and who has answered after what time. -/
structure TracerouteLine (Ms : Type) where
  ttl : UInt8
  hop : Option (IpAddress × Ms)

section Networks

variable {Ms : Type} {N : Type*} [SimTime Ms] [Zero Ms] [Sub Ms] [DecidableEq N]

/-- The loop of `traceroute` in synchronous mode.  A round has the time of its call and what the nodes read at the
arrivals that the call comes back with. -/
def tracerouteLoop (wire : N × Fin maxPort → Option (N × Fin maxPort)) (a : N) (targetIp : IpAddress) :
    UInt8 → List (Ms × List (HostReads Ms)) →
      MessageNetwork.World N (NetNode Ms) (Fin maxPort) (List UInt8) (N × PacketRecord) →
        List (TracerouteLine Ms)
  | _, [], _ => []
  | ttl, (nowMs, times) :: rounds, w =>
      if 30 < ttl then
        []
      else
        let w := (internet wire).run w
          (.call a (.host (.ping targetIp ttl ttl.toUInt16 nowMs)) :: arrivals times)
        match w.states a with
        | .host h =>
            if !h.icmp.hasLastIcmp then
              { ttl := ttl, hop := none } :: tracerouteLoop wire a targetIp (ttl + 1) rounds w
            else
              let line := { ttl := ttl, hop := some (h.icmp.lastIcmpSource, h.icmp.lastIcmpRttMs) }
              if h.icmp.lastIcmpType = icmpEchoReply ∨ h.icmp.lastIcmpType = icmpDestUnreachable then
                [line]
              else
                line :: tracerouteLoop wire a targetIp (ttl + 1) rounds w
        | _ => []

/-- The command `traceroute` at a host, with its target resolved. -/
def traceroute (wire : N × Fin maxPort → Option (N × Fin maxPort)) (a : N) (targetIp : IpAddress)
    (rounds : List (Ms × List (HostReads Ms)))
    (w : MessageNetwork.World N (NetNode Ms) (Fin maxPort) (List UInt8) (N × PacketRecord)) :
    List (TracerouteLine Ms) :=
  match w.states a with
  | .host h => if !h.run.host.hasIp then [] else tracerouteLoop wire a targetIp 1 rounds w
  | _ => []

/-! ## Rounds -/

/-- The times of a round in which one node turns the ping into an answer. -/
structure TracerouteRound (Ms : Type) where
  nowMs : Ms
  outward : List (HostReads Ms)
  turn : HostReads Ms
  homeward : List (HostReads Ms)
  last : HostReads Ms

namespace TracerouteRound

def reads (round : TracerouteRound Ms) : Ms × List (HostReads Ms) :=
  (round.nowMs, round.outward ++ round.turn :: round.homeward ++ [round.last])

/-- The time from the call to the answer. -/
def rttMs (round : TracerouteRound Ms) : Ms :=
  round.last.nowMs - round.nowMs

/-- There is a time for each arrival on the way out and on the way home. -/
def Fits (round : TracerouteRound Ms) (steps backSteps : Nat) : Prop :=
  round.outward.length = steps ∧ round.homeward.length = backSteps

end TracerouteRound

variable {wire : N × Fin maxPort → Option (N × Fin maxPort)} {states : N → NetNode Ms} {a : N}
  {hostA : HostStack Ms} {targetIp : IpAddress} {hops : Nat}

/-! ## A ping leaves the ways as they are -/

omit [SimTime Ms] [Zero Ms] [Sub Ms] in
/-- A router that reports goes on to do so when the host has sent and heard something. -/
theorem Reporter.exists_update (r : Reporter wire states a hostA targetIp hops) (ha : states a = .host hostA)
    {hostA' : HostStack Ms} (hlogged : hostA.run.host.Logged hostA'.run.host) :
    ∃ r' : Reporter wire (Function.update states a (.host hostA')) a hostA' targetIp hops,
      r'.address = r.address ∧ r'.steps = r.steps ∧ r'.backSteps = r.backSteps := by
  have haddress : hostA'.ipAddress = hostA.ipAddress := by
    rw [HostStack.ipAddress, HostStack.ipAddress, hlogged]
  have hmac : hostA'.run.host.macAddress = hostA.run.host.macAddress := by
    rw [hlogged]
  have hother : r.place.node ≠ a := by
    intro hsame
    have hrouter := r.node_eq
    rw [hsame, ha] at hrouter
    cases hrouter
  have hreaches := r.reaches
  have hreport := r.address_ne
  have hback := r.back.update ha hostA'
  have hhome := r.home_eq
  rw [← haddress] at hreaches hreport hback
  rw [← hmac] at hhome
  refine ⟨{ r with
    node_eq := (Function.update_of_ne hother _ _).trans r.node_eq
    path := r.path.update hlogged ha hostA'
    reaches := hreaches
    address_ne := hreport
    home_eq := hhome
    back := hback }, ?_, rfl, rfl⟩
  rw [Reporter.address, haddress]
  rfl

omit [SimTime Ms] [Zero Ms] [Sub Ms] in
/-- So does a host that answers. -/
theorem Responder.exists_update (b : Responder wire states a hostA targetIp hops) (ha : states a = .host hostA)
    {hostA' : HostStack Ms} (hlogged : hostA.run.host.Logged hostA'.run.host) :
    ∃ b' : Responder wire (Function.update states a (.host hostA')) a hostA' targetIp hops,
      b'.host = b.host ∧ b'.steps = b.steps ∧ b'.backSteps = b.backSteps := by
  have haddress : hostA'.ipAddress = hostA.ipAddress := by
    rw [HostStack.ipAddress, HostStack.ipAddress, hlogged]
  have hmac : hostA'.run.host.macAddress = hostA.run.host.macAddress := by
    rw [hlogged]
  have hback := b.back.update (.refl _) ha hostA'
  have hhome := b.home_eq
  rw [← haddress] at hback
  rw [← hmac] at hhome
  refine ⟨{ b with
    node_eq := (Function.update_of_ne (Ne.symm b.node_ne) _ _).trans b.node_eq
    path := b.path.update hlogged ha hostA'
    home_eq := hhome
    back := hback }, rfl, rfl, rfl⟩

/-! ## One round -/

/-- The TTL of a round that is made. -/
theorem traceroute_ttl {i : Nat} (h : i < 30) :
    (UInt8.ofNat (i + 1)).toNat = i + 1 ∧ ¬ (30 : UInt8) < UInt8.ofNat (i + 1) := by
  have htoNat : (UInt8.ofNat (i + 1)).toNat = i + 1 := by
    rw [UInt8.toNat_ofNat', Nat.mod_eq_of_lt (by omega)]
  refine ⟨htoNat, ?_⟩
  rw [UInt8.lt_iff_toNat_lt, htoNat]
  change ¬ 30 < i + 1
  omega

/-- A round that ends at a router lists it, and the command goes on. -/
theorem tracerouteLoop_reporter (ha : states a = .host hostA) {i : Nat} (hi : i < 30)
    (r : Reporter wire states a hostA targetIp i) {round : TracerouteRound Ms}
    (hround : round.Fits r.steps r.backSteps) (rounds : List (Ms × List (HostReads Ms)))
    (records : List (N × PacketRecord)) :
    ∃ hostA' : HostStack Ms, ∃ records', hostA.run.host.Logged hostA'.run.host ∧
      tracerouteLoop wire a targetIp (UInt8.ofNat (i + 1)) (round.reads :: rounds) (Idle states records) =
        { ttl := UInt8.ofNat (i + 1), hop := some (r.address, round.rttMs) } ::
          tracerouteLoop wire a targetIp (UInt8.ofNat (i + 1 + 1)) rounds
            (Idle (Function.update states a (.host hostA')) records') := by
  rcases traceroute_ttl hi with ⟨httl, hbound⟩
  rcases ping_expires ha r httl records (UInt8.ofNat (i + 1)).toUInt16 round.nowMs hround.1 hround.2 round.turn
    round.last with ⟨hostA', ping, about, report, hrun, hicmp, -, -, -, -, hlogged⟩
  refine ⟨hostA', records ++ [(a, .sent (.ping (UInt8.ofNat (i + 1)).toUInt16) ping)] ++ [(a, .heard report)],
    hlogged, ?_⟩
  have hnode : (Idle (Function.update states a (.host hostA'))
      (records ++ [(a, .sent (.ping (UInt8.ofNat (i + 1)).toUInt16) ping)] ++ [(a, .heard report)])).states a =
      .host hostA' := Function.update_self ..
  have hnext : UInt8.ofNat (i + 1) + 1 = UInt8.ofNat (i + 1 + 1) := (UInt8.ofNat_add (i + 1) 1).symm
  rw [TracerouteRound.reads, tracerouteLoop, if_neg hbound]
  dsimp only
  rw [hrun, hnode]
  dsimp only
  have htype : ¬ ((icmpErrorAbout icmpTimeExceeded 0 about).type = icmpEchoReply ∨
      (icmpErrorAbout icmpTimeExceeded 0 about).type = icmpDestUnreachable) := by
    change ¬ (icmpTimeExceeded = icmpEchoReply ∨ icmpTimeExceeded = icmpDestUnreachable)
    decide
  have hlast : hostA'.icmp.hasLastIcmp = true := by
    rw [hicmp]
    rfl
  rw [hlast, Bool.not_true, if_neg Bool.false_ne_true, hicmp, hnext]
  exact if_neg htype

/-- A round that comes to the target is the last one. -/
theorem tracerouteLoop_responder (ha : states a = .host hostA) {i : Nat} (hi : i < 30)
    (b : Responder wire states a hostA targetIp i) {round : TracerouteRound Ms}
    (hround : round.Fits b.steps b.backSteps) (rounds : List (Ms × List (HostReads Ms)))
    (records : List (N × PacketRecord)) :
    tracerouteLoop wire a targetIp (UInt8.ofNat (i + 1)) (round.reads :: rounds) (Idle states records) =
      [{ ttl := UInt8.ofNat (i + 1), hop := some (addressOf b.host.ipAddress.octets, round.rttMs) }] := by
  rcases traceroute_ttl hi with ⟨httl, hbound⟩
  rcases ping_completes ha b (httl ▸ Nat.lt_add_one i) records (UInt8.ofNat (i + 1)).toUInt16 round.nowMs
    hround.1 hround.2 round.turn round.last with ⟨hostA', hostB', ping, request, reply, hrun, hicmp, -, -, -⟩
  have hnode : (Idle (Function.update (Function.update states b.place.node (.host hostB')) a (.host hostA'))
      (records ++ [(a, .sent (.ping (UInt8.ofNat (i + 1)).toUInt16) ping)] ++
        [(b.place.node, .heard request)] ++ [(a, .heard reply)])).states a = .host hostA' :=
    Function.update_self ..
  rw [TracerouteRound.reads, tracerouteLoop, if_neg hbound]
  dsimp only
  rw [hrun, hnode]
  dsimp only
  have hlast : hostA'.icmp.hasLastIcmp = true := by
    rw [hicmp]
    rfl
  rw [hlast, Bool.not_true, if_neg Bool.false_ne_true, hicmp]
  exact if_pos (Or.inl rfl)

/-! ## All rounds -/

/-- From any TTL on, the routers that are left are listed, and the target. -/
theorem tracerouteLoop_lists (rounds : Nat → TracerouteRound Ms) (address : Nat → IpAddress) (left : Nat) :
    ∀ {i : Nat} {states : N → NetNode Ms} {hostA : HostStack Ms}, states a = .host hostA → i + left = hops →
      (∀ k < hops, ∃ r : Reporter wire states a hostA targetIp k,
        r.address = address k ∧ (rounds k).Fits r.steps r.backSteps) →
      (∃ b : Responder wire states a hostA targetIp hops,
        addressOf b.host.ipAddress.octets = address hops ∧ (rounds hops).Fits b.steps b.backSteps) →
      hops < 30 → ∀ more records,
      tracerouteLoop wire a targetIp (UInt8.ofNat (i + 1))
          ((List.range' i (left + 1 + more)).map fun k => (rounds k).reads) (Idle states records) =
        (List.range' i (left + 1)).map fun k =>
          { ttl := UInt8.ofNat (k + 1), hop := some (address k, (rounds k).rttMs) } := by
  induction left with
  | zero =>
      intro i states hostA ha hleft hreporters hresponder hhops more records
      rcases hresponder with ⟨b, haddress, hround⟩
      obtain rfl : i = hops := hleft
      rw [Nat.zero_add, Nat.add_comm 1 more, List.range'_succ, List.map_cons,
        tracerouteLoop_responder ha hhops b hround _ records, haddress]
      rfl
  | succ left ih =>
      intro i states hostA ha hleft hreporters hresponder hhops more records
      have hi : i < hops := by omega
      rcases hreporters i hi with ⟨r, haddress, hround⟩
      have hmore : left + 1 + 1 + more = left + 1 + more + 1 := by omega
      rw [hmore, List.range'_succ, List.map_cons]
      rcases tracerouteLoop_reporter ha (hi.trans hhops) r hround
        ((List.range' (i + 1) (left + 1 + more)).map fun k => (rounds k).reads) records with
        ⟨hostA', records', hlogged, hloop⟩
      rw [hloop, haddress, List.range'_succ, List.map_cons]
      -- the routers and the target are where they were
      have hreporters' : ∀ k < hops, ∃ r : Reporter wire (Function.update states a (.host hostA')) a hostA'
          targetIp k, r.address = address k ∧ (rounds k).Fits r.steps r.backSteps := by
        intro k hk
        rcases hreporters k hk with ⟨r, haddress, hround⟩
        rcases r.exists_update ha hlogged with ⟨r', haddress', hsteps, hbackSteps⟩
        refine ⟨r', haddress'.trans haddress, ?_⟩
        rw [hsteps, hbackSteps]
        exact hround
      have hresponder' : ∃ b : Responder wire (Function.update states a (.host hostA')) a hostA' targetIp hops,
          addressOf b.host.ipAddress.octets = address hops ∧ (rounds hops).Fits b.steps b.backSteps := by
        rcases hresponder with ⟨b, haddress, hround⟩
        rcases b.exists_update ha hlogged with ⟨b', hhost, hsteps, hbackSteps⟩
        refine ⟨b', hhost ▸ haddress, ?_⟩
        rw [hsteps, hbackSteps]
        exact hround
      rw [ih (Function.update_self ..) (by omega) hreporters' hresponder' hhops more records']

/-- On a path of fewer than thirty routers that all report, to a host that answers, `traceroute` lists the routers
in their order, each with the address of the interface by which it reports, then the host, and stops; every line
has the time from its ping to its answer. -/
theorem traceroute_lists_path (ha : states a = .host hostA) (hhops : hops < 30)
    (rounds : Nat → TracerouteRound Ms) (address : Nat → IpAddress)
    (hreporters : ∀ k < hops, ∃ r : Reporter wire states a hostA targetIp k,
      r.address = address k ∧ (rounds k).Fits r.steps r.backSteps)
    (hresponder : ∃ b : Responder wire states a hostA targetIp hops,
      addressOf b.host.ipAddress.octets = address hops ∧ (rounds hops).Fits b.steps b.backSteps)
    (records : List (N × PacketRecord)) :
    traceroute wire a targetIp ((List.range 30).map fun k => (rounds k).reads) (Idle states records) =
      (List.range (hops + 1)).map fun k =>
        { ttl := UInt8.ofNat (k + 1), hop := some (address k, (rounds k).rttMs) } := by
  have hip : hostA.run.host.hasIp = true := by
    rcases hresponder with ⟨b, -, -⟩
    rcases b.path with ⟨nextMac, far, hreaches, -, -⟩
    exact hreaches.1
  have hnode : (Idle states records).states a = .host hostA := ha
  have hlist := tracerouteLoop_lists rounds address hops ha (Nat.zero_add hops) hreporters hresponder
    hhops (29 - hops) records
  have hrounds : hops + 1 + (29 - hops) = 30 := by omega
  rw [hrounds] at hlist
  rw [traceroute, hnode]
  dsimp only
  rw [hip, Bool.not_true, if_neg Bool.false_ne_true, List.range_eq_range', List.range_eq_range']
  exact hlist

end Networks

/-- The rounds begin ten milliseconds apart. -/
def crossingRound (k : Nat) : TracerouteRound ℚ :=
  { nowMs := 10 * k
    outward := List.replicate k { nowMs := 10 * k + 1, socketFree := true }
    turn := { nowMs := 10 * k + 2, socketFree := true }
    homeward := List.replicate k { nowMs := 10 * k + 3, socketFree := true }
    last := { nowMs := 10 * k + 4, socketFree := true } }

/-- Across one router: its address first, then the other host's. -/
theorem traceroute_lists_path_crossing :
    traceroute crossingWire 0 ⟨10, 0, 2, 1, 0⟩ ((List.range 30).map fun k => (crossingRound k).reads)
        (Idle crossingStates []) =
      [{ ttl := 1, hop := some (⟨10, 0, 1, 254, 0⟩, 4) }, { ttl := 2, hop := some (⟨10, 0, 2, 1, 0⟩, 4) }] := by
  have hreporters : ∀ k < 1, ∃ r : Reporter crossingWire crossingStates 0 (crossingHost 1 none) ⟨10, 0, 2, 1, 0⟩ k,
      r.address = (if k = 0 then ⟨10, 0, 1, 254, 0⟩ else ⟨10, 0, 2, 1, 0⟩ : IpAddress) ∧
        (crossingRound k).Fits r.steps r.backSteps := by
    intro k hk
    obtain rfl : k = 0 := Nat.lt_one_iff.mp hk
    rcases exists_crossingReporter with ⟨r, haddress, hsteps, hbackSteps⟩
    exact ⟨r, haddress, hsteps.symm, hbackSteps.symm⟩
  rw [@traceroute_lists_path ℚ (Fin 3) _ _ _ _ crossingWire crossingStates 0 (crossingHost 1 none) ⟨10, 0, 2, 1, 0⟩ 1
    rfl (by decide) crossingRound _ hreporters ⟨crossingResponder, rfl, rfl, rfl⟩ []]
  simp [List.range_succ, TracerouteRound.rttMs, crossingRound]

end MagiStack
