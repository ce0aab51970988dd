import MagiStack.Core.Bytes
import MagiStack.Topology.Simulator
import Mathlib.Algebra.Order.Field.Rat
import Mathlib.Data.NNRat.Defs
import Mathlib.Tactic.Linarith

/-!
# SimClock — frames in flight in realtime mode

Embedding of `transmit` of `core/link.c` in realtime mode and of the in-flight table of
`core/sim_clock.c`.  Times and delays are exact numbers.  `receive` may call `transmit` again, so a tick
is not one step: it goes on slot by slot, and other calls may come between two slots.

A frame is handed over by its slot and not by its launch time.  Links keep the order of their frames in
every run in which no frame overtakes another through the immediate hand-over of `transmit`, and in which
the frames that are due in a tick stand in the table in the order they were sent.
-/

namespace MagiStack

def simInflightMax : Nat := 256
def simInflightPayloadMax : Nat := 2048

/-! ## The in-flight table -/

/-- `InFlightPacket`; `number` is the call of `transmit` it comes from, which the code does not keep. -/
structure InFlightPacket where
  sender : Interface
  receiver : Interface
  link : Nat
  launchAtMs : ℚ
  deliverAtMs : ℚ
  ethertype : UInt16
  l4Protocol : UInt8
  bytes : List UInt8
  number : Nat
  deriving DecidableEq

/-- `g_in_flight`; a slot that is not active is `none`. -/
abbrev InFlight : Type := Fin simInflightMax → Option InFlightPacket

/-- `parse_protocol_hint`: `ethertype` and `l4_protocol`. -/
def parseProtocolHint (bytes : List UInt8) : UInt16 × UInt8 :=
  if bytes.length < 14 then
    (0, 0)
  else
    let ethertype := readU16Be bytes 12
    (ethertype, if ethertype = 0x0800 ∧ 14 + 10 ≤ bytes.length then bytes.getD (14 + 9) 0 else 0)

/-- The first slot that is not active. -/
def freeSlot (inFlight : InFlight) : Option (Fin simInflightMax) :=
  (List.finRange simInflightMax).find? fun i => (inFlight i).isNone

/-- The delay at a speed. -/
def effectiveDelay (speed delay : ℚ) : ℚ :=
  let delay := if delay < 0 then 0 else delay
  if 0 < speed then delay / speed else delay

/-- `sim_clock_enqueue`; `none` when it returns `0`. -/
def simClockEnqueue (speed : ℚ) (inFlight : InFlight) (sender receiver : Interface) (link : Nat)
    (delay : ℚ) (bytes : List UInt8) (now : ℚ) (number : Nat) : Option InFlight :=
  if bytes.length = 0 ∨ simInflightPayloadMax < bytes.length then
    none
  else
    (freeSlot inFlight).map fun i =>
      Function.update inFlight i
        (some
          { sender := sender
            receiver := receiver
            link := link
            launchAtMs := now
            deliverAtMs := now + effectiveDelay speed delay
            ethertype := (parseProtocolHint bytes).1
            l4Protocol := (parseProtocolHint bytes).2
            bytes := bytes
            number := number })

/-! ## Runs -/

/-- A call of `receive`, with the link and the end the frame was sent on. -/
structure Delivery where
  link : Nat
  sender : Interface
  receiver : Interface
  bytes : List UInt8
  number : Nat
  deriving DecidableEq

/-- The frames in flight, the tick that is under way with its time and its loop variable, the number of
calls of `transmit` and the calls of `receive`, the newest last. -/
structure ClockState where
  now : ℚ
  inFlight : InFlight
  tick : Option (ℚ × Nat)
  sent : Nat
  received : List Delivery

/-- A call, with the time that has passed since the one before, or the next slot of a tick. -/
inductive ClockAction
  | transmit (sender : Interface) (link : Nat) (bytes : List UInt8) (elapsed : ℚ≥0)
  | tick (elapsed : ℚ≥0)
  | slot

namespace ClockState

section Steps

variable (links : Nat → Link exactFloat) (speed : ℚ)

/-- `transmit` in realtime mode. -/
def transmit (s : ClockState) (sender : Interface) (link : Nat) (bytes : List UInt8) : ClockState :=
  match MagiStack.transmit sender (links link) with
  | none => s
  | some receiver =>
      let s := { s with sent := s.sent + 1 }
      let immediately : ClockState :=
        { s with
          received := s.received ++
            [{ link := link, sender := sender, receiver := receiver, bytes := bytes
               number := s.sent - 1 }] }
      let delay : ℚ := (links link).delay
      if 0 < delay then
        match simClockEnqueue speed s.inFlight sender receiver link delay bytes s.now (s.sent - 1) with
        | some inFlight => { s with inFlight := inFlight }
        | none => immediately
      else
        immediately

/-- One round of the loop of `sim_clock_tick`. -/
def tickSlot (s : ClockState) (now : ℚ) (i : Nat) : ClockState :=
  if h : i < simInflightMax then
    let s := { s with tick := some (now, i + 1) }
    match s.inFlight ⟨i, h⟩ with
    | none => s
    | some p =>
        if p.deliverAtMs ≤ now then
          { s with
            inFlight := Function.update s.inFlight ⟨i, h⟩ none
            received := s.received ++
              [{ link := p.link, sender := p.sender, receiver := p.receiver, bytes := p.bytes
                 number := p.number }] }
        else
          s
  else
    { s with tick := none }

def step (s : ClockState) : ClockAction → ClockState
  | .transmit sender link bytes elapsed =>
      transmit links speed { s with now := s.now + elapsed } sender link bytes
  | .tick elapsed =>
      { s with now := s.now + elapsed, tick := s.tick.or (some (s.now + elapsed, 0)) }
  | .slot => s.tick.elim s fun tick => tickSlot s tick.1 tick.2

def run (s : ClockState) (actions : List ClockAction) : ClockState :=
  actions.foldl (step links speed) s

/-- The two frames go the same way over the same link. -/
def SameWay (link : Nat) (sender : Interface) (p : InFlightPacket) : Prop :=
  p.link = link ∧ p.sender = sender

/-- The condition on a step: a frame is handed over at once only when none of its way is in flight, and
of the frames that are due in a tick those of one way stand in the order they were sent. -/
def StepOk (s : ClockState) : ClockAction → Prop
  | .transmit sender link bytes _ =>
      bytes.length = 0 ∨ simInflightPayloadMax < bytes.length ∨ freeSlot s.inFlight = none →
        ∀ i p, s.inFlight i = some p → ¬ SameWay link sender p
  | .tick elapsed =>
      ∀ i j p q, i < j → s.inFlight i = some p → s.inFlight j = some q →
        p.deliverAtMs ≤ s.now + elapsed → q.deliverAtMs ≤ s.now + elapsed →
          SameWay p.link p.sender q → p.number < q.number
  | .slot => True

/-- Every step of the run meets the condition. -/
def RunOk (s : ClockState) : List ClockAction → Prop
  | [] => True
  | action :: rest => s.StepOk action ∧ (s.step links speed action).RunOk rest

end Steps

/-- An empty table at time `0`. -/
def init : ClockState :=
  { now := 0, inFlight := fun _ => none, tick := none, sent := 0, received := [] }

/-- Of two frames that went the same way over a link, `receive` got the one sent first first. -/
def Fifo (s : ClockState) : Prop :=
  s.received.Pairwise fun d e => d.link = e.link → d.sender = e.sender → d.number < e.number

/-! ## What holds in every state -/

/-- Frames of one way are due in the order they were sent, nothing that was received has an earlier frame
in flight, and a tick under way has left nothing due behind it. -/
structure Ordered (links : Nat → Link exactFloat) (speed : ℚ) (s : ClockState) : Prop where
  fifo : s.Fifo
  flightNumber : ∀ i p, s.inFlight i = some p → p.number < s.sent
  receivedNumber : ∀ d ∈ s.received, d.number < s.sent
  behind : ∀ d ∈ s.received, ∀ i p, s.inFlight i = some p → SameWay d.link d.sender p →
    d.number < p.number
  distinct : ∀ i j p q, s.inFlight i = some p → s.inFlight j = some q → p.number = q.number → i = j
  due : ∀ i j p q, s.inFlight i = some p → s.inFlight j = some q → SameWay p.link p.sender q →
    p.number < q.number → p.deliverAtMs ≤ q.deliverAtMs
  launched : ∀ i p, s.inFlight i = some p →
    p.deliverAtMs ≤ s.now + effectiveDelay speed (links p.link).delay
  past : ∀ t k, s.tick = some (t, k) → t ≤ s.now
  visited : ∀ t k i p, s.tick = some (t, k) → i.val < k → s.inFlight i = some p → t < p.deliverAtMs
  sorted : ∀ t k i j p q, s.tick = some (t, k) → i < j → s.inFlight i = some p →
    s.inFlight j = some q → p.deliverAtMs ≤ t → q.deliverAtMs ≤ t → SameWay p.link p.sender q →
      p.number < q.number

theorem ordered_init (links : Nat → Link exactFloat) (speed : ℚ) : Ordered links speed init where
  fifo := List.Pairwise.nil
  flightNumber _ _ h := nomatch h
  receivedNumber _ h := nomatch h
  behind _ h := nomatch h
  distinct _ _ _ _ h := nomatch h
  due _ _ _ _ h := nomatch h
  launched _ _ h := nomatch h
  past _ _ h := nomatch h
  visited _ _ _ _ h := nomatch h
  sorted _ _ _ _ _ _ h := nomatch h

theorem freeSlot_eq_some {inFlight : InFlight} {i : Fin simInflightMax}
    (h : freeSlot inFlight = some i) : inFlight i = none :=
  Option.isNone_iff_eq_none.mp (List.find?_some (p := fun i => (inFlight i).isNone) h)

theorem effectiveDelay_pos {speed delay : ℚ} (h : 0 < delay) : 0 < effectiveDelay speed delay := by
  rw [effectiveDelay, if_neg (not_lt.mpr h.le)]
  split
  · rename_i hspeed
    exact div_pos h hspeed
  · exact h

/-- What `sim_clock_enqueue` does when it returns `1`. -/
theorem simClockEnqueue_eq_some {speed : ℚ} {inFlight inFlight' : InFlight}
    {sender receiver : Interface} {link : Nat} {delay : ℚ} {bytes : List UInt8} {now : ℚ}
    {number : Nat}
    (h : simClockEnqueue speed inFlight sender receiver link delay bytes now number =
      some inFlight') :
    ∃ i p, inFlight i = none ∧ inFlight' = Function.update inFlight i (some p) ∧ p.link = link ∧
      p.sender = sender ∧ p.number = number ∧ p.deliverAtMs = now + effectiveDelay speed delay := by
  rw [simClockEnqueue] at h
  split at h
  · cases h
  · rcases Option.map_eq_some_iff.mp h with ⟨i, hi, rfl⟩
    exact ⟨i, _, freeSlot_eq_some hi, rfl, rfl, rfl, rfl, rfl⟩

theorem simClockEnqueue_eq_none {speed : ℚ} {inFlight : InFlight} {sender receiver : Interface}
    {link : Nat} {delay : ℚ} {bytes : List UInt8} {now : ℚ} {number : Nat}
    (h : simClockEnqueue speed inFlight sender receiver link delay bytes now number = none) :
    bytes.length = 0 ∨ simInflightPayloadMax < bytes.length ∨ freeSlot inFlight = none := by
  rw [simClockEnqueue] at h
  split at h
  · rename_i hlength
    rcases hlength with hzero | hlong
    · exact Or.inl hzero
    · exact Or.inr (Or.inl hlong)
  · exact Or.inr (Or.inr (Option.map_eq_none_iff.mp h))

theorem update_none_eq_some {inFlight : InFlight} {i j : Fin simInflightMax} {p : InFlightPacket}
    (h : Function.update inFlight i none j = some p) : j ≠ i ∧ inFlight j = some p := by
  by_cases hij : j = i
  · rw [hij, Function.update_self] at h
    cases h
  · rw [Function.update_of_ne hij] at h
    exact ⟨hij, h⟩

theorem update_some_eq_some {inFlight : InFlight} {i j : Fin simInflightMax} {p q : InFlightPacket}
    (h : Function.update inFlight i (some p) j = some q) :
    j = i ∧ p = q ∨ j ≠ i ∧ inFlight j = some q := by
  by_cases hij : j = i
  · rw [hij, Function.update_self] at h
    exact Or.inl ⟨hij, Option.some.inj h⟩
  · rw [Function.update_of_ne hij] at h
    exact Or.inr ⟨hij, h⟩

/-- Time passes and a frame is sent, without a look at where it goes. -/
theorem Ordered.elapse {links : Nat → Link exactFloat} {speed : ℚ} {s : ClockState}
    (h : Ordered links speed s) (elapsed : ℚ≥0) :
    Ordered links speed { s with now := s.now + elapsed } where
  fifo := h.fifo
  flightNumber := h.flightNumber
  receivedNumber := h.receivedNumber
  behind := h.behind
  distinct := h.distinct
  due := h.due
  launched i p hp := by
    have hlaunched := h.launched i p hp
    have helapsed : (0 : ℚ) ≤ elapsed := elapsed.2
    change p.deliverAtMs ≤ s.now + elapsed + _
    linarith
  past t k ht := by
    have hpast := h.past t k ht
    have helapsed : (0 : ℚ) ≤ elapsed := elapsed.2
    change t ≤ s.now + elapsed
    linarith
  visited := h.visited
  sorted := h.sorted

/-- A frame that enters the table is due last of its way, and after the tick under way. -/
theorem Ordered.enqueue {links : Nat → Link exactFloat} {speed : ℚ} {s : ClockState}
    (h : Ordered links speed s) (hdelay : ∀ link, (0 : ℚ) < (links link).delay)
    {i : Fin simInflightMax} {p : InFlightPacket} (hnumber : p.number = s.sent)
    (hdue : p.deliverAtMs = s.now + effectiveDelay speed (links p.link).delay) :
    Ordered links speed
      { s with sent := s.sent + 1, inFlight := Function.update s.inFlight i (some p) } := by
  -- A frame that is sent during a tick is due after it.
  have hlate : ∀ t k, s.tick = some (t, k) → t < p.deliverAtMs := by
    intro t k ht
    have hpast := h.past t k ht
    have hpos := @effectiveDelay_pos speed _ (hdelay p.link)
    linarith
  -- Each slot holds the new frame, which has the greatest number, or what it held.
  refine
    { fifo := h.fifo
      flightNumber := fun j q hq => ?_
      receivedNumber := fun d hd => Nat.lt_succ_of_lt (h.receivedNumber d hd)
      behind := fun d hd j q hq hway => ?_
      distinct := fun j k q r hq hr heq => ?_
      due := fun j k q r hq hr hway hlt => ?_
      launched := fun j q hq => ?_
      past := h.past
      visited := fun t k j q ht hj hq => ?_
      sorted := fun t k j l q r ht hjl hq hr hdueq hduer hway => ?_ }
  · rcases update_some_eq_some hq with ⟨-, rfl⟩ | ⟨-, hq⟩
    · exact hnumber ▸ Nat.lt_succ_self s.sent
    · exact Nat.lt_succ_of_lt (h.flightNumber j q hq)
  · rcases update_some_eq_some hq with ⟨-, rfl⟩ | ⟨-, hq⟩
    · exact hnumber ▸ h.receivedNumber d hd
    · exact h.behind d hd j q hq hway
  · rcases update_some_eq_some hq with ⟨hj, rfl⟩ | ⟨-, hq⟩
    · rcases update_some_eq_some hr with ⟨hk, rfl⟩ | ⟨-, hr⟩
      · rw [hj, hk]
      · have hlt := h.flightNumber k r hr
        omega
    · rcases update_some_eq_some hr with ⟨-, rfl⟩ | ⟨-, hr⟩
      · have hlt := h.flightNumber j q hq
        omega
      · exact h.distinct j k q r hq hr heq
  · rcases update_some_eq_some hr with ⟨-, rfl⟩ | ⟨-, hr⟩
    · rcases update_some_eq_some hq with ⟨-, rfl⟩ | ⟨-, hq⟩
      · exact le_refl _
      · have hlaunched := h.launched j q hq
        rw [hdue, hway.1]
        exact hlaunched
    · rcases update_some_eq_some hq with ⟨-, rfl⟩ | ⟨-, hq⟩
      · have hlt' := h.flightNumber k r hr
        omega
      · exact h.due j k q r hq hr hway hlt
  · rcases update_some_eq_some hq with ⟨-, rfl⟩ | ⟨-, hq⟩
    · exact hdue.le
    · exact h.launched j q hq
  · rcases update_some_eq_some hq with ⟨-, rfl⟩ | ⟨-, hq⟩
    · exact hlate t k ht
    · exact h.visited t k j q ht hj hq
  · rcases update_some_eq_some hq with ⟨-, rfl⟩ | ⟨-, hq⟩
    · exact absurd hdueq (not_le.mpr (hlate t k ht))
    · rcases update_some_eq_some hr with ⟨-, rfl⟩ | ⟨-, hr⟩
      · exact absurd hduer (not_le.mpr (hlate t k ht))
      · exact h.sorted t k j l q r ht hjl hq hr hdueq hduer hway

theorem fifo_append {received : List Delivery} {d : Delivery}
    (h : received.Pairwise fun d e => d.link = e.link → d.sender = e.sender → d.number < e.number)
    (hlast : ∀ e ∈ received, e.link = d.link → e.sender = d.sender → e.number < d.number) :
    (received ++ [d]).Pairwise fun d e =>
      d.link = e.link → d.sender = e.sender → d.number < e.number := by
  refine List.pairwise_append.mpr ⟨h, List.pairwise_singleton _ _, fun e he d' hd' => ?_⟩
  rw [List.mem_singleton.mp hd']
  exact hlast e he

/-- A frame that overtakes none of its way may be handed over at once. -/
theorem Ordered.immediately {links : Nat → Link exactFloat} {speed : ℚ} {s : ClockState}
    (h : Ordered links speed s) {d : Delivery} (hnumber : d.number = s.sent)
    (hnone : ∀ i p, s.inFlight i = some p → ¬ SameWay d.link d.sender p) :
    Ordered links speed { s with sent := s.sent + 1, received := s.received ++ [d] } where
  fifo := fifo_append h.fifo fun e he _ _ => hnumber ▸ h.receivedNumber e he
  flightNumber i p hp := Nat.lt_succ_of_lt (h.flightNumber i p hp)
  receivedNumber e he := by
    rcases List.mem_append.mp he with he | he
    · exact Nat.lt_succ_of_lt (h.receivedNumber e he)
    · rw [List.mem_singleton.mp he, hnumber]
      exact Nat.lt_succ_self s.sent
  behind e he i p hp hway := by
    rcases List.mem_append.mp he with he | he
    · exact h.behind e he i p hp hway
    · rw [List.mem_singleton.mp he] at hway
      exact absurd hway (hnone i p hp)
  distinct := h.distinct
  due := h.due
  launched := h.launched
  past := h.past
  visited := h.visited
  sorted := h.sorted

theorem Ordered.transmit {links : Nat → Link exactFloat} {speed : ℚ} {s : ClockState}
    (h : Ordered links speed s) (hdelay : ∀ link, (0 : ℚ) < (links link).delay)
    {sender : Interface} {link : Nat} {bytes : List UInt8}
    (hok : bytes.length = 0 ∨ simInflightPayloadMax < bytes.length ∨ freeSlot s.inFlight = none →
      ∀ i p, s.inFlight i = some p → ¬ SameWay link sender p) :
    Ordered links speed (ClockState.transmit links speed s sender link bytes) := by
  rw [ClockState.transmit]
  split
  · exact h
  · rename_i receiver hreceiver
    simp only [if_pos (hdelay link), Nat.add_sub_cancel]
    split
    · rename_i inFlight henqueue
      rcases simClockEnqueue_eq_some henqueue with
        ⟨i, p, -, rfl, hlink, hsender, hnumber, hdue⟩
      exact h.enqueue hdelay hnumber (hlink ▸ hdue)
    · rename_i henqueue
      exact h.immediately rfl (hok (simClockEnqueue_eq_none henqueue))

theorem Ordered.tick {links : Nat → Link exactFloat} {speed : ℚ} {s : ClockState}
    (h : Ordered links speed s) {elapsed : ℚ≥0} (hok : s.StepOk (.tick elapsed)) :
    Ordered links speed (s.step links speed (.tick elapsed)) := by
  have hlater := h.elapse elapsed
  rw [step]
  cases htick : s.tick with
  | some tick =>
      rw [Option.some_or, ← htick]
      exact hlater
  | none =>
      rw [Option.none_or]
      refine { hlater with past := ?_, visited := ?_, sorted := ?_ }
      · intro t k ht
        cases ht
        exact le_refl _
      · intro t k i p ht hi
        cases ht
        exact absurd hi (Nat.not_lt_zero i.val)
      · intro t k i j p q ht hij hp hq hdueP hdueQ hway
        cases ht
        exact hok i j p q hij hp hq hdueP hdueQ hway

/-- The frame of a slot that is due is the first of its way. -/
theorem Ordered.first {links : Nat → Link exactFloat} {speed : ℚ} {s : ClockState}
    (h : Ordered links speed s) {t : ℚ} {i j : Fin simInflightMax} {p q : InFlightPacket}
    (htick : s.tick = some (t, i.val)) (hp : s.inFlight i = some p) (hdue : p.deliverAtMs ≤ t)
    (hij : j ≠ i) (hq : s.inFlight j = some q) (hway : SameWay p.link p.sender q) :
    p.number < q.number := by
  by_contra hnot
  have hne : q.number ≠ p.number := fun heq => hij (h.distinct j i q p hq hp heq)
  have hlt : q.number < p.number := by omega
  have hway' : SameWay q.link q.sender p := ⟨hway.1.symm, hway.2.symm⟩
  have hdueQ : q.deliverAtMs ≤ t := (h.due j i q p hq hp hway' hlt).trans hdue
  rcases lt_or_gt_of_ne hij with hbefore | hafter
  · -- Nothing behind the loop variable is due.
    exact absurd hdueQ (not_le.mpr (h.visited t i.val j q htick hbefore hq))
  · exact hnot (h.sorted t i.val i j p q htick hafter hp hq hdue hdueQ hway)

/-- The tick goes on past a slot with nothing due. -/
theorem Ordered.pass {links : Nat → Link exactFloat} {speed : ℚ} {s : ClockState}
    (h : Ordered links speed s) {t : ℚ} {k : Nat} (htick : s.tick = some (t, k))
    (hk : k < simInflightMax) (hnot : ∀ p, s.inFlight ⟨k, hk⟩ = some p → t < p.deliverAtMs) :
    Ordered links speed { s with tick := some (t, k + 1) } := by
  refine { h with past := ?_, visited := ?_, sorted := ?_ }
  · intro t' k' ht
    cases ht
    exact h.past t k htick
  · intro t' k' i p ht hi hp
    cases ht
    rcases Nat.lt_succ_iff_lt_or_eq.mp hi with hlt | heq
    · exact h.visited t k i p htick hlt hp
    · have hi' : i = ⟨k, hk⟩ := Fin.ext heq
      rw [hi'] at hp
      exact hnot p hp
  · intro t' k' i j p q ht
    cases ht
    exact h.sorted t k i j p q htick

/-- The frame of a slot is delivered: it is the first of its way. -/
theorem Ordered.deliverSlot {links : Nat → Link exactFloat} {speed : ℚ} {s : ClockState}
    (h : Ordered links speed s) {t : ℚ} {k : Nat} (htick : s.tick = some (t, k))
    (hk : k < simInflightMax) {p : InFlightPacket} (hp : s.inFlight ⟨k, hk⟩ = some p)
    (hdue : p.deliverAtMs ≤ t) :
    Ordered links speed
      { s with
        tick := some (t, k + 1)
        inFlight := Function.update s.inFlight ⟨k, hk⟩ none
        received := s.received ++
          [{ link := p.link, sender := p.sender, receiver := p.receiver, bytes := p.bytes
             number := p.number }] } := by
  -- No frame that goes the same way was sent before the one that is handed over.
  have hfirst : ∀ j q, j ≠ (⟨k, hk⟩ : Fin simInflightMax) → s.inFlight j = some q →
      SameWay p.link p.sender q → p.number < q.number :=
    fun j q hj hq hway => h.first (i := ⟨k, hk⟩) htick hp hdue hj hq hway
  refine
    { fifo := fifo_append h.fifo fun e he hlink hsender =>
        h.behind e he ⟨k, hk⟩ p hp ⟨hlink.symm, hsender.symm⟩
      flightNumber := fun j q hq => h.flightNumber j q (update_none_eq_some hq).2
      receivedNumber := fun e he => ?_
      behind := fun e he j q hq hway => ?_
      distinct := fun i j q r hq hr =>
        h.distinct i j q r (update_none_eq_some hq).2 (update_none_eq_some hr).2
      due := fun i j q r hq hr =>
        h.due i j q r (update_none_eq_some hq).2 (update_none_eq_some hr).2
      launched := fun i q hq => h.launched i q (update_none_eq_some hq).2
      past := fun t' k' ht => ?_
      visited := fun t' k' i q ht hi hq => ?_
      sorted := fun t' k' i j q r ht hij hq hr => ?_ }
  · rcases List.mem_append.mp he with he | he
    · exact h.receivedNumber e he
    · rw [List.mem_singleton.mp he]
      exact h.flightNumber ⟨k, hk⟩ p hp
  · rcases update_none_eq_some hq with ⟨hj, hq⟩
    rcases List.mem_append.mp he with he | he
    · exact h.behind e he j q hq hway
    · rw [List.mem_singleton.mp he] at hway ⊢
      exact hfirst j q hj hq hway
  · cases ht
    exact h.past t k htick
  · cases ht
    rcases update_none_eq_some hq with ⟨hne, hq⟩
    have hlt : i.val < k := by
      rcases Nat.lt_succ_iff_lt_or_eq.mp hi with hlt | heq
      · exact hlt
      · exact absurd (Fin.ext heq) hne
    exact h.visited t k i q htick hlt hq
  · cases ht
    exact h.sorted t k i j q r htick hij (update_none_eq_some hq).2 (update_none_eq_some hr).2

theorem Ordered.tickSlot {links : Nat → Link exactFloat} {speed : ℚ} {s : ClockState}
    (h : Ordered links speed s) {t : ℚ} {k : Nat} (htick : s.tick = some (t, k)) :
    Ordered links speed (ClockState.tickSlot s t k) := by
  rw [ClockState.tickSlot]
  split
  · rename_i hk
    dsimp only
    split
    · rename_i hnone
      exact h.pass htick hk fun p hp => (nomatch hnone.symm.trans hp)
    · rename_i p hp
      split
      · rename_i hdue
        exact h.deliverSlot htick hk hp hdue
      · rename_i hnot
        refine h.pass htick hk fun q hq => ?_
        rw [← Option.some.inj (hp.symm.trans hq)]
        exact not_le.mp hnot
  -- The last slot was visited, and the tick is over.
  · refine { h with past := ?_, visited := ?_, sorted := ?_ }
    · intro t' k' ht
      cases ht
    · intro t' k' i p ht
      cases ht
    · intro t' k' i j p q ht
      cases ht

theorem Ordered.step {links : Nat → Link exactFloat} {speed : ℚ} {s : ClockState}
    (h : Ordered links speed s) (hdelay : ∀ link, (0 : ℚ) < (links link).delay)
    {action : ClockAction} (hok : s.StepOk action) :
    Ordered links speed (s.step links speed action) := by
  cases action with
  | transmit sender link bytes elapsed => exact (h.elapse elapsed).transmit hdelay hok
  | tick elapsed => exact h.tick hok
  | slot =>
      rw [ClockState.step]
      cases htick : s.tick with
      | none => exact h
      | some tick => exact h.tickSlot htick

theorem Ordered.run {links : Nat → Link exactFloat} {speed : ℚ} {s : ClockState}
    (h : Ordered links speed s) (hdelay : ∀ link, (0 : ℚ) < (links link).delay)
    {actions : List ClockAction} (hok : s.RunOk links speed actions) :
    Ordered links speed (s.run links speed actions) := by
  induction actions generalizing s with
  | nil => exact h
  | cons action rest ih => exact ih (h.step hdelay hok.1) hok.2

end ClockState

/-! ## Links keep the order of their frames -/

/-- In a run that meets the condition at every step, `receive` gets the frames of a link and a direction
in the order in which `transmit` got them. -/
theorem simClock_fifo (links : Nat → Link exactFloat) (hdelay : ∀ link, (0 : ℚ) < (links link).delay)
    (speed : ℚ) (actions : List ClockAction)
    (hok : ClockState.init.RunOk links speed actions) :
    (ClockState.init.run links speed actions).Fifo :=
  ((ClockState.ordered_init links speed).run hdelay hok).fifo

/-- Two cables; a frame takes `1` ms over the first and `10` ms over the second. -/
def twoCables (link : Nat) : Link exactFloat :=
  { interface1 := some { node := 2 * link, port := 0 }
    interface2 := some { node := 2 * link + 1, port := 0 }
    delay := if link = 0 then (1 : ℚ) else (10 : ℚ) }

theorem twoCables_delay (link : Nat) : (0 : ℚ) < (twoCables link).delay := by
  change (0 : ℚ) < if link = 0 then (1 : ℚ) else (10 : ℚ)
  split
  · exact one_pos
  · norm_num

/-- Two frames over the second cable, both received in one tick. -/
def inOrder : List ClockAction :=
  [.transmit { node := 2, port := 0 } 1 [7] 0, .transmit { node := 2, port := 0 } 1 [8] 2, .tick 20,
    .slot, .slot]

theorem simClock_fifo_inOrder :
    (ClockState.init.run twoCables 1 inOrder).received.map Delivery.number = [0, 1] ∧
      (ClockState.init.run twoCables 1 inOrder).Fifo := by
  refine ⟨by decide +kernel, simClock_fifo twoCables twoCables_delay 1 inOrder ?_⟩
  -- A frame's slot is its number.
  have hslot : ∀ i : Fin simInflightMax, ((ClockState.init.run twoCables 1
      (inOrder.take 2)).inFlight i).all (fun p => p.number == i.val) = true := by decide +kernel
  refine ⟨fun hfull => ?_, fun hfull => ?_, fun i j p q hij hp hq _ _ _ => ?_, trivial, trivial,
    trivial⟩
  · exact absurd hfull (by decide +kernel)
  · exact absurd hfull (by decide +kernel)
  · have hi := hslot i
    have hj := hslot j
    rw [show (ClockState.init.run twoCables 1 (inOrder.take 2)).inFlight i = some p from hp] at hi
    rw [show (ClockState.init.run twoCables 1 (inOrder.take 2)).inFlight j = some q from hq] at hj
    calc
      p.number = i.val := beq_iff_eq.mp hi
      _ < j.val := hij
      _ = q.number := (beq_iff_eq.mp hj).symm

/-- A frame over the first cable leaves slot `0` to the second frame of the second cable, whose first
frame is in slot `1`. -/
def slotReused : List ClockAction :=
  [.transmit { node := 0, port := 0 } 0 [6] 0, .transmit { node := 2, port := 0 } 1 [7] 0, .tick 1,
    .slot] ++ List.replicate 256 .slot ++
    [.transmit { node := 2, port := 0 } 1 [8] 2, .tick 20, .slot, .slot]

/-- The frame sent last is received first. -/
theorem simClock_fifo_slotReused :
    (ClockState.init.run twoCables 1 slotReused).received.map Delivery.number = [0, 2, 1] ∧
      ¬ (ClockState.init.run twoCables 1 slotReused).Fifo := by
  have hreceived : ((ClockState.init.run twoCables 1 slotReused).received.map fun d =>
      (d.link, d.sender, d.number)) =
        [(0, { node := 0, port := 0 }, 0), (1, { node := 2, port := 0 }, 2),
          (1, { node := 2, port := 0 }, 1)] := by decide +kernel
  refine ⟨by decide +kernel, fun hfifo => ?_⟩
  have hpairs : ((ClockState.init.run twoCables 1 slotReused).received.map fun d =>
      (d.link, d.sender, d.number)).Pairwise
        fun d e => d.1 = e.1 → d.2.1 = e.2.1 → d.2.2 < e.2.2 := List.pairwise_map.mpr hfifo
  rw [hreceived] at hpairs
  exact absurd hpairs (by decide)

end MagiStack
