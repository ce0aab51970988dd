import MagiStack.Topology.SimClock

/-!
# RealtimeDelivery — every frame is received once

Runs of `transmit` and `sim_clock_tick` in realtime mode with any times: the clock may show anything when a
frame is sent, and a tick may be given any time.  What a receiver sends while a tick hands a frame to it comes
between two slots of the tick.

Every frame is received or in the table, and only once.  A frame that is sent during a tick may take a slot that
the tick has left behind, and it then waits for the next one.
-/

namespace MagiStack

/-- A call of `transmit` with the speed and the time it reads, a call of `sim_clock_tick` with its argument, or the
next slot of a tick. -/
inductive DeliveryAction
  | transmit (sender : Interface) (link : Nat) (bytes : List UInt8) (speed nowMs : ℚ)
  | tick (nowMs : ℚ)
  | slot

/-- The frame of a slot, as `receive` gets it. -/
def InFlightPacket.delivery (p : InFlightPacket) : Delivery :=
  { link := p.link, sender := p.sender, receiver := p.receiver, bytes := p.bytes, number := p.number }

namespace ClockState

/-- The frames in the table. -/
def flying (inFlight : InFlight) : List Delivery :=
  (List.finRange simInflightMax).filterMap fun i => (inFlight i).map InFlightPacket.delivery

section Steps

variable (links : Nat → Link exactFloat)

def deliverStep (s : ClockState) : DeliveryAction → ClockState
  | .transmit sender link bytes speed nowMs =>
      transmit links speed { s with now := nowMs } sender link bytes
  | .tick nowMs => { s with tick := s.tick.or (some (nowMs, 0)) }
  | .slot => s.tick.elim s fun tick => tickSlot s tick.1 tick.2

def deliverRun (s : ClockState) (actions : List DeliveryAction) : ClockState :=
  actions.foldl (deliverStep links) s

/-- The frames given to `transmit` on links that have both ends, numbered from the first. -/
def transmitted : Nat → List DeliveryAction → List Delivery
  | _, [] => []
  | number, .transmit sender link bytes _ _ :: rest =>
      match MagiStack.transmit sender (links link) with
      | none => transmitted number rest
      | some receiver =>
          { link := link, sender := sender, receiver := receiver, bytes := bytes, number := number } ::
            transmitted (number + 1) rest
  | number, .tick _ :: rest => transmitted number rest
  | number, .slot :: rest => transmitted number rest

/-- Why `transmit` hands a frame over at once: no delay, an empty or oversized frame, or a full table. -/
def AtOnce (s : ClockState) (link : Nat) (bytes : List UInt8) : Prop :=
  let delay : ℚ := (links link).delay
  delay ≤ 0 ∨ bytes.length = 0 ∨ simInflightPayloadMax < bytes.length ∨ freeSlot s.inFlight = none

/-- Delivery in a state that a run has reached, whatever comes next. -/
structure ExactlyOnce (actions : List DeliveryAction) (s : ClockState) : Prop where
  /-- What was sent is what was received and what is in flight, frame by frame. -/
  conserved : (s.received ++ flying s.inFlight).Perm (transmitted links 0 actions)
  numbered : ((transmitted links 0 actions).map Delivery.number).Nodup
  /-- The next frame is received at once, or waits in a free slot up to its delivery time. -/
  sends : ∀ sender link bytes speed nowMs receiver,
    MagiStack.transmit sender (links link) = some receiver →
    let frame : Delivery :=
      { link := link, sender := sender, receiver := receiver, bytes := bytes, number := s.sent }
    let s' := s.deliverStep links (.transmit sender link bytes speed nowMs)
    (s.AtOnce links link bytes ∧ s'.received = s.received ++ [frame] ∧ s'.inFlight = s.inFlight) ∨
      (¬ s.AtOnce links link bytes ∧ s'.received = s.received ∧
        ∃ i p, s.inFlight i = none ∧ s'.inFlight = Function.update s.inFlight i (some p) ∧
          p.delivery = frame ∧ p.deliverAtMs = nowMs + effectiveDelay speed (links link).delay)
  /-- A slot keeps its frame until a tick whose time has come hands it over. -/
  keeps : ∀ action i p, s.inFlight i = some p →
    (s.deliverStep links action).inFlight i = some p ∨
      (s.deliverStep links action).inFlight i = none ∧
        (s.deliverStep links action).received = s.received ++ [p.delivery] ∧
        ∃ t, s.tick = some (t, i.val) ∧ p.deliverAtMs ≤ t
  /-- A tick hands over all that is due when it is called, whatever is sent meanwhile. -/
  ticks : ∀ t during i p, s.tick = none → s.inFlight i = some p → p.deliverAtMs ≤ t →
    (s.deliverRun links (.tick t :: during)).tick = none →
      p.delivery ∈ (s.deliverRun links (.tick t :: during)).received

end Steps

/-! ## The table as a list -/

theorem filterMap_update_perm {α : Type*} [DecidableEq α] {β : Type*} {slots : List α}
    (hnodup : slots.Nodup) {i : α} (hi : i ∈ slots) {f : α → Option β} (hnone : f i = none) (b : β) :
    (slots.filterMap (Function.update f i (some b))).Perm (b :: slots.filterMap f) := by
  rcases List.append_of_mem hi with ⟨before, after, rfl⟩
  have hsplit := List.nodup_middle.mp hnodup
  have hother : ∀ j ∈ before ++ after, Function.update f i (some b) j = f j := by
    intro j hj
    refine Function.update_of_ne ?_ _ _
    rintro rfl
    exact (List.nodup_cons.mp hsplit).1 hj
  -- The table is the slots before this one, this one, and the slots after it.
  have hbefore : before.filterMap (Function.update f i (some b)) = before.filterMap f :=
    List.filterMap_congr fun j hj => hother j (List.mem_append_left _ hj)
  have hafter : after.filterMap (Function.update f i (some b)) = after.filterMap f :=
    List.filterMap_congr fun j hj => hother j (List.mem_append_right _ hj)
  rw [List.filterMap_append, List.filterMap_append, hbefore,
    List.filterMap_cons_some (Function.update_self i (some b) f), hafter,
    List.filterMap_cons_none hnone]
  exact List.perm_middle

theorem map_update (inFlight : InFlight) (i : Fin simInflightMax) (slot : Option InFlightPacket) :
    (fun j => (Function.update inFlight i slot j).map InFlightPacket.delivery) =
      Function.update (fun j => (inFlight j).map InFlightPacket.delivery) i
        (slot.map InFlightPacket.delivery) := by
  funext j
  exact Function.apply_update (fun _ => Option.map InFlightPacket.delivery) inFlight i slot j

/-- A frame that enters a free slot is one more in the table. -/
theorem flying_enqueue {inFlight : InFlight} {i : Fin simInflightMax} (hfree : inFlight i = none)
    (p : InFlightPacket) :
    (flying (Function.update inFlight i (some p))).Perm (p.delivery :: flying inFlight) := by
  rw [flying, map_update]
  exact filterMap_update_perm (List.nodup_finRange _) (List.mem_finRange i) (by rw [hfree]; rfl) _

/-- A frame that leaves its slot is one less. -/
theorem flying_leave {inFlight : InFlight} {i : Fin simInflightMax} {p : InFlightPacket}
    (hp : inFlight i = some p) :
    (flying inFlight).Perm (p.delivery :: flying (Function.update inFlight i none)) := by
  have hback : Function.update (Function.update inFlight i none) i (some p) = inFlight := by
    rw [Function.update_idem, ← hp, Function.update_eq_self]
  have hperm := flying_enqueue (Function.update_self i none inFlight) p
  rwa [hback] at hperm

/-! ## Sending -/

theorem transmit_none {links : Nat → Link exactFloat} {sender : Interface} {link : Nat}
    (h : MagiStack.transmit sender (links link) = none) (speed : ℚ) (s : ClockState)
    (bytes : List UInt8) : transmit links speed s sender link bytes = s := by
  rw [transmit, h]

/-- What `transmit` does on a link with both ends. -/
theorem transmit_some {links : Nat → Link exactFloat} {sender receiver : Interface} {link : Nat}
    (h : MagiStack.transmit sender (links link) = some receiver) (speed : ℚ) (s : ClockState)
    (bytes : List UInt8) :
    let frame : Delivery :=
      { link := link, sender := sender, receiver := receiver, bytes := bytes, number := s.sent }
    let s' := transmit links speed s sender link bytes
    s'.sent = s.sent + 1 ∧ s'.tick = s.tick ∧
      ((s.AtOnce links link bytes ∧ s'.received = s.received ++ [frame] ∧
          s'.inFlight = s.inFlight) ∨
        (¬ s.AtOnce links link bytes ∧ s'.received = s.received ∧
          ∃ i p, s.inFlight i = none ∧ s'.inFlight = Function.update s.inFlight i (some p) ∧
            p.delivery = frame ∧
            p.deliverAtMs = s.now + effectiveDelay speed (links link).delay)) := by
  intro frame s'
  let delay : ℚ := (links link).delay
  -- `transmit` with its receiver known: only `sim_clock_enqueue` can keep the frame back.
  have hs' : s' =
      if 0 < delay then
        (simClockEnqueue speed s.inFlight sender receiver link delay bytes s.now s.sent).elim
          { s with sent := s.sent + 1, received := s.received ++ [frame] } fun inFlight =>
          { s with sent := s.sent + 1, inFlight := inFlight }
      else
        { s with sent := s.sent + 1, received := s.received ++ [frame] } := by
    change transmit links speed s sender link bytes = _
    rw [transmit, h]
    simp only [Nat.add_sub_cancel, delay]
    cases simClockEnqueue speed s.inFlight sender receiver link (links link).delay bytes s.now
      s.sent <;> rfl
  by_cases hdelay : 0 < delay
  · rw [if_pos hdelay, simClockEnqueue] at hs'
    by_cases hlength : bytes.length = 0 ∨ simInflightPayloadMax < bytes.length
    -- An empty frame or one that is too long is not copied, and is handed over at once.
    · rw [if_pos hlength] at hs'
      have hnow : s.AtOnce links link bytes :=
        Or.inr (hlength.elim Or.inl fun hlong => Or.inr (Or.inl hlong))
      rw [hs']
      exact ⟨rfl, rfl, Or.inl ⟨hnow, rfl, rfl⟩⟩
    · rw [if_neg hlength] at hs'
      cases hfree : freeSlot s.inFlight with
      | none =>
          rw [hfree] at hs'
          rw [hs']
          exact ⟨rfl, rfl, Or.inl ⟨Or.inr (Or.inr (Or.inr hfree)), rfl, rfl⟩⟩
      | some i =>
          -- Nothing of what makes a frame go at once is the case here.
          have hlater : ¬ s.AtOnce links link bytes := by
            rintro (hzero | hempty | hlong | hfull)
            · exact absurd hdelay (not_lt.mpr hzero)
            · exact hlength (Or.inl hempty)
            · exact hlength (Or.inr hlong)
            · cases hfree.symm.trans hfull
          rw [hfree] at hs'
          rw [hs']
          exact ⟨rfl, rfl, Or.inr ⟨hlater, rfl, i, _, freeSlot_eq_some hfree, rfl, rfl, rfl⟩⟩
  · rw [if_neg hdelay] at hs'
    rw [hs']
    exact ⟨rfl, rfl, Or.inl ⟨Or.inl (not_lt.mp hdelay), rfl, rfl⟩⟩

/-- What one round of a tick does: nothing to the table, or it hands over the frame of its slot. -/
theorem tickSlot_cases (s : ClockState) (t : ℚ) (k : Nat) :
    (tickSlot s t k).sent = s.sent ∧
      ((simInflightMax ≤ k ∧ tickSlot s t k = { s with tick := none }) ∨
        (k < simInflightMax ∧ (tickSlot s t k).tick = some (t, k + 1) ∧
          ((tickSlot s t k).received = s.received ∧ (tickSlot s t k).inFlight = s.inFlight ∧
              (∀ i p, i.val = k → s.inFlight i = some p → t < p.deliverAtMs) ∨
            ∃ i p, i.val = k ∧ s.inFlight i = some p ∧ p.deliverAtMs ≤ t ∧
              (tickSlot s t k).received = s.received ++ [p.delivery] ∧
              (tickSlot s t k).inFlight = Function.update s.inFlight i none))) := by
  rw [tickSlot]
  split
  · rename_i hk
    dsimp only
    cases hslot : s.inFlight ⟨k, hk⟩ with
    | none =>
        refine ⟨rfl, Or.inr ⟨hk, rfl, Or.inl ⟨rfl, rfl, fun i p hi hp => ?_⟩⟩⟩
        have hi' : i = ⟨k, hk⟩ := Fin.ext hi
        cases hslot.symm.trans (hi' ▸ hp)
    | some p =>
        dsimp only
        by_cases hdue : p.deliverAtMs ≤ t
        · rw [if_pos hdue]
          exact ⟨rfl, Or.inr ⟨hk, rfl, Or.inr ⟨⟨k, hk⟩, p, rfl, hslot, hdue, rfl, rfl⟩⟩⟩
        · rw [if_neg hdue]
          refine ⟨rfl, Or.inr ⟨hk, rfl, Or.inl ⟨rfl, rfl, fun i q hi hq => ?_⟩⟩⟩
          have hi' : i = ⟨k, hk⟩ := Fin.ext hi
          have hpq : p = q := Option.some.inj (hslot.symm.trans (hi' ▸ hq))
          exact hpq ▸ not_le.mp hdue
  · rename_i hk
    exact ⟨rfl, Or.inl ⟨not_lt.mp hk, rfl⟩⟩

theorem deliverStep_slot (links : Nat → Link exactFloat) {s : ClockState} {tick : ℚ × Nat}
    (h : s.tick = some tick) : s.deliverStep links .slot = tickSlot s tick.1 tick.2 := by
  rw [deliverStep, h]
  rfl

/-! ## Conservation -/

/-- One step keeps what was sent together. -/
theorem deliverStep_conserves (links : Nat → Link exactFloat) (s : ClockState)
    (action : DeliveryAction) :
    ((s.deliverStep links action).received ++ flying (s.deliverStep links action).inFlight).Perm
        (s.received ++ flying s.inFlight ++ transmitted links s.sent [action]) ∧
      (s.deliverStep links action).sent = s.sent + (transmitted links s.sent [action]).length := by
  cases action with
  | tick nowMs => exact ⟨by rw [transmitted, transmitted, List.append_nil]; exact List.Perm.refl _, rfl⟩
  | transmit sender link bytes speed nowMs =>
      cases hreceiver : MagiStack.transmit sender (links link) with
      | none =>
          rw [deliverStep, transmit_none hreceiver, transmitted, hreceiver, transmitted,
            List.append_nil]
          exact ⟨List.Perm.refl _, rfl⟩
      | some receiver =>
          rcases transmit_some hreceiver speed { s with now := nowMs } bytes with
            ⟨hsent, -, ⟨-, hreceived, hflying⟩ | ⟨-, hreceived, i, p, hfree, hflying, hp, -⟩⟩
          · rw [deliverStep, hreceived, hflying, transmitted, hreceiver, transmitted]
            refine ⟨?_, hsent⟩
            rw [List.append_assoc, List.append_assoc]
            exact List.Perm.append_left _ List.perm_append_comm
          · rw [deliverStep, hreceived, hflying, transmitted, hreceiver, transmitted]
            refine ⟨?_, hsent⟩
            rw [List.append_assoc]
            -- The frame that was sent is the one that came into the table.
            refine List.Perm.append_left _ ((flying_enqueue hfree p).trans ?_)
            rw [hp]
            exact (List.perm_append_singleton _ _).symm
  | slot =>
      rw [transmitted, transmitted, List.append_nil]
      cases htick : s.tick with
      | none =>
          rw [deliverStep, htick]
          exact ⟨List.Perm.refl _, rfl⟩
      | some tick =>
          rw [deliverStep_slot links htick]
          rcases tickSlot_cases s tick.1 tick.2 with
            ⟨hsent, ⟨-, heq⟩ | ⟨-, -, ⟨hreceived, hflying, -⟩ | ⟨i, p, -, hp, -, hreceived, hflying⟩⟩⟩
          · rw [heq]
            exact ⟨List.Perm.refl _, rfl⟩
          · rw [hreceived, hflying]
            exact ⟨List.Perm.refl _, hsent⟩
          · rw [hreceived, hflying, List.append_assoc]
            exact ⟨List.Perm.append_left _ (flying_leave hp).symm, hsent⟩

theorem transmitted_cons (links : Nat → Link exactFloat) (number : Nat) (action : DeliveryAction)
    (rest : List DeliveryAction) :
    transmitted links number (action :: rest) =
      transmitted links number [action] ++
        transmitted links (number + (transmitted links number [action]).length) rest := by
  cases action with
  | tick nowMs => rfl
  | slot => rfl
  | transmit sender link bytes speed nowMs =>
      cases hreceiver : MagiStack.transmit sender (links link) with
      | none =>
          rw [transmitted, transmitted, hreceiver]
          rfl
      | some receiver =>
          rw [transmitted, transmitted, hreceiver]
          rfl

theorem deliverRun_conserves (links : Nat → Link exactFloat) (s : ClockState)
    (actions : List DeliveryAction) :
    ((s.deliverRun links actions).received ++ flying (s.deliverRun links actions).inFlight).Perm
      (s.received ++ flying s.inFlight ++ transmitted links s.sent actions) := by
  induction actions generalizing s with
  | nil =>
      rw [transmitted, List.append_nil]
      exact List.Perm.refl _
  | cons action rest ih =>
      rcases deliverStep_conserves links s action with ⟨hstep, hsent⟩
      have hrest := ih (s.deliverStep links action)
      rw [hsent] at hrest
      rw [transmitted_cons, ← List.append_assoc]
      exact hrest.trans (hstep.append_right _)

/-- The frames are numbered from the first on. -/
theorem transmitted_numbers (links : Nat → Link exactFloat) (number : Nat)
    (actions : List DeliveryAction) :
    (transmitted links number actions).map Delivery.number =
      List.range' number (transmitted links number actions).length := by
  induction actions generalizing number with
  | nil => rfl
  | cons action rest ih =>
      cases action with
      | tick nowMs => exact ih number
      | slot => exact ih number
      | transmit sender link bytes speed nowMs =>
          rw [transmitted]
          split
          · exact ih number
          · rw [List.map_cons, List.length_cons, List.range'_succ, ih (number + 1)]

/-! ## Ticks -/

/-- A frame of a tick that is due: received, or still ahead of the loop. -/
def Ahead (t : ℚ) (i : Fin simInflightMax) (p : InFlightPacket) (s : ClockState) : Prop :=
  p.delivery ∈ s.received ∨
    ∃ k, s.tick = some (t, k) ∧ k ≤ i.val ∧ s.inFlight i = some p

/-- What a step does to the frame of a slot. -/
theorem deliverStep_keeps (links : Nat → Link exactFloat) (s : ClockState) (action : DeliveryAction)
    {i : Fin simInflightMax} {p : InFlightPacket} (hp : s.inFlight i = some p) :
    (s.deliverStep links action).inFlight i = some p ∨
      (s.deliverStep links action).inFlight i = none ∧
        (s.deliverStep links action).received = s.received ++ [p.delivery] ∧
        ∃ t, s.tick = some (t, i.val) ∧ p.deliverAtMs ≤ t := by
  cases action with
  | tick nowMs => exact Or.inl hp
  | transmit sender link bytes speed nowMs =>
      refine Or.inl ?_
      cases hreceiver : MagiStack.transmit sender (links link) with
      | none =>
          rw [deliverStep, transmit_none hreceiver]
          exact hp
      | some receiver =>
          rcases transmit_some hreceiver speed { s with now := nowMs } bytes with
            ⟨-, -, ⟨-, -, hflying⟩ | ⟨-, -, j, q, hfree, hflying, -⟩⟩
          · rw [deliverStep, hflying]
            exact hp
          · rw [deliverStep, hflying]
            -- The new frame took a free slot, so not this one.
            have hne : i ≠ j := by
              rintro rfl
              cases hp.symm.trans hfree
            rw [Function.update_of_ne hne]
            exact hp
  | slot =>
      cases htick : s.tick with
      | none =>
          rw [deliverStep, htick]
          exact Or.inl hp
      | some tick =>
          rw [deliverStep_slot links htick]
          rcases tickSlot_cases s tick.1 tick.2 with
            ⟨-, ⟨-, heq⟩ | ⟨-, -, ⟨-, hflying, -⟩ | ⟨j, q, hj, hq, hdue, hreceived, hflying⟩⟩⟩
          · rw [heq]
            exact Or.inl hp
          · rw [hflying]
            exact Or.inl hp
          · by_cases hij : i = j
            · have hpq : q = p := Option.some.inj (hq.symm.trans (hij ▸ hp))
              rw [hflying, hreceived, hij, Function.update_self, hpq]
              exact Or.inr ⟨rfl, rfl, tick.1, by rw [hj], hpq ▸ hdue⟩
            · rw [hflying, Function.update_of_ne hij]
              exact Or.inl hp

/-- What was received stays received. -/
theorem deliverStep_received (links : Nat → Link exactFloat) (s : ClockState)
    (action : DeliveryAction) : s.received <+: (s.deliverStep links action).received := by
  cases action with
  | tick nowMs => exact List.prefix_refl _
  | transmit sender link bytes speed nowMs =>
      cases hreceiver : MagiStack.transmit sender (links link) with
      | none =>
          rw [deliverStep, transmit_none hreceiver]
      | some receiver =>
          rcases transmit_some hreceiver speed { s with now := nowMs } bytes with
            ⟨-, -, ⟨-, hreceived, -⟩ | ⟨-, hreceived, -⟩⟩
          · rw [deliverStep, hreceived]
            exact List.prefix_append _ _
          · rw [deliverStep, hreceived]
  | slot =>
      cases htick : s.tick with
      | none =>
          rw [deliverStep, htick]
          exact List.prefix_refl _
      | some tick =>
          rw [deliverStep_slot links htick]
          rcases tickSlot_cases s tick.1 tick.2 with
            ⟨-, ⟨-, heq⟩ | ⟨-, -, ⟨hreceived, -⟩ | ⟨j, q, -, -, -, hreceived, -⟩⟩⟩
          · rw [heq]
          · rw [hreceived]
          · rw [hreceived]
            exact List.prefix_append _ _

theorem deliverStep_tick (links : Nat → Link exactFloat) {s : ClockState} {tick : ℚ × Nat}
    (h : s.tick = some tick) {action : DeliveryAction} (hslot : action ≠ .slot) :
    (s.deliverStep links action).tick = some tick := by
  cases action with
  | tick nowMs =>
      rw [deliverStep, h]
      rfl
  | slot => exact absurd rfl hslot
  | transmit sender link bytes speed nowMs =>
      cases hreceiver : MagiStack.transmit sender (links link) with
      | none =>
          rw [deliverStep, transmit_none hreceiver]
          exact h
      | some receiver => exact (transmit_some hreceiver speed { s with now := nowMs } bytes).2.1.trans h

/-- A frame that is due stays ahead of the loop until it is received. -/
theorem Ahead.step {links : Nat → Link exactFloat} {t : ℚ} {i : Fin simInflightMax}
    {p : InFlightPacket} {s : ClockState} (h : Ahead t i p s) (hdue : p.deliverAtMs ≤ t)
    (action : DeliveryAction) : Ahead t i p (s.deliverStep links action) := by
  rcases h with hreceived | ⟨k, htick, hk, hp⟩
  · exact Or.inl ((deliverStep_received links s action).subset hreceived)
  · rcases deliverStep_keeps links s action hp with hstill | ⟨-, hreceived, -⟩
    · by_cases hslot : action = .slot
      · rw [hslot, deliverStep_slot links htick] at hstill ⊢
        rcases tickSlot_cases s t k with
          ⟨-, ⟨hend, -⟩ | ⟨-, hnext, ⟨-, -, hnot⟩ | ⟨j, q, hj, -, -, -, hflying⟩⟩⟩
        · exact absurd i.isLt (not_lt.mpr (hend.trans hk))
        · -- A frame that is due is not passed by.
          have hne : i.val ≠ k := fun heq => absurd hdue (not_le.mpr (hnot i p heq hp))
          exact Or.inr ⟨k + 1, hnext, Nat.lt_of_le_of_ne hk hne.symm, hstill⟩
        · have hne : i ≠ j := by
            rintro rfl
            rw [hflying, Function.update_self] at hstill
            cases hstill
          have hval : i.val ≠ k := fun heq => hne (Fin.ext (heq.trans hj.symm))
          exact Or.inr ⟨k + 1, hnext, Nat.lt_of_le_of_ne hk hval.symm, hstill⟩
      · exact Or.inr ⟨k, deliverStep_tick links htick hslot, hk, hstill⟩
    · refine Or.inl ?_
      rw [hreceived]
      exact List.mem_append_right _ (List.mem_singleton.mpr rfl)

theorem Ahead.run {links : Nat → Link exactFloat} {t : ℚ} {i : Fin simInflightMax}
    {p : InFlightPacket} {s : ClockState} (h : Ahead t i p s) (hdue : p.deliverAtMs ≤ t)
    (actions : List DeliveryAction) : Ahead t i p (s.deliverRun links actions) := by
  induction actions generalizing s with
  | nil => exact h
  | cons action rest ih => exact ih (h.step hdue action)

end ClockState

/-! ## Every frame once -/

/-- Every frame given to `transmit` is received at the other end exactly once, at once or by a tick. -/
theorem realtime_exactly_once (links : Nat → Link exactFloat) (actions : List DeliveryAction) :
    ClockState.ExactlyOnce links actions (ClockState.init.deliverRun links actions) where
  conserved := ClockState.deliverRun_conserves links ClockState.init actions
  numbered := by
    rw [ClockState.transmitted_numbers]
    exact List.nodup_range'
  sends sender link bytes speed nowMs receiver hreceiver := by
    exact (ClockState.transmit_some hreceiver speed
      { ClockState.init.deliverRun links actions with now := nowMs } bytes).2.2
  keeps action i p hp := ClockState.deliverStep_keeps links _ action hp
  ticks t during i p htick hp hdue hdone := by
    have hstart : ClockState.Ahead t i p
        ((ClockState.init.deliverRun links actions).deliverStep links (.tick t)) := by
      refine Or.inr ⟨0, ?_, Nat.zero_le _, hp⟩
      rw [ClockState.deliverStep, htick]
      rfl
    rcases hstart.run hdue during with hreceived | ⟨k, hunder, -⟩
    · exact hreceived
    · cases hdone.symm.trans hunder

/-- The receiver of the first frame answers while a tick with the time `1000` hands it over; the answer is due at
`6`. -/
def answerDuringTick : List DeliveryAction :=
  [.transmit { node := 0, port := 0 } 0 [6] 1 0, .tick 1000, .slot,
    .transmit { node := 1, port := 0 } 0 [7] 1 5] ++ List.replicate 256 .slot

/-- An empty frame is received at once though the link has a delay and the table has room; and the answer, which
takes the slot the tick has left, is still in flight when that tick returns. -/
theorem realtime_exactly_once_exceptions :
    ((ClockState.init.deliverRun twoCables [.transmit { node := 2, port := 0 } 1 [] 1 0]).received.map
          Delivery.number = [0] ∧
        (0 : ℚ) < (twoCables 1).delay ∧ ¬ simInflightPayloadMax < ([] : List UInt8).length ∧
        freeSlot ClockState.init.inFlight ≠ none) ∧
      (ClockState.init.deliverRun twoCables answerDuringTick).tick = none ∧
        (ClockState.init.deliverRun twoCables answerDuringTick).received.map Delivery.number = [0] ∧
        ((ClockState.init.deliverRun twoCables answerDuringTick).inFlight ⟨0, by decide⟩).map
          (fun p => (p.number, p.deliverAtMs)) = some (1, 6) := by
  refine ⟨⟨by decide +kernel, twoCables_delay 1, by decide, by decide +kernel⟩, ?_, ?_, ?_⟩
  · decide +kernel
  · decide +kernel
  · decide +kernel

end MagiStack
