import Mathlib.Logic.Function.Basic

/-!
# MessageNetwork — nodes that answer messages with messages

Nodes of any kind, joined by wires from port to port.  A node takes a call from outside or a message that
arrives at one of its ports, goes to its next state, sends messages and leaves records of what it did; what a
port without a wire sends is lost.  A run interleaves calls with the arrival and the loss of messages in any
order.

An invariant of a run speaks of the states and of the messages in flight, given all records so far, and of each
record, given those before it.  What records make true stays true, and so it is enough that every node keeps the
invariant by itself.
-/

variable {N S P F C T R : Type*}

/-- The wires, and what a node does in a call and when a message arrives; `T` is what it reads besides. -/
structure MessageNetwork (N S P F C T R : Type*) where
  wire : N × P → Option (N × P)
  call : N → S → C → S × List (P × F) × List R
  arrive : N → S → P → F → T → S × List (P × F) × List R

namespace MessageNetwork

/-- A message on its way to a port. -/
structure Flight (N P F : Type*) where
  node : N
  port : P
  message : F

/-- The states of the nodes, the messages in flight and the records, the newest last. -/
structure World (N S P F R : Type*) where
  states : N → S
  inFlight : List (Flight N P F)
  records : List R

/-- What can happen next.  A message that arrives or is lost is named by its place in flight. -/
inductive Action (N C T : Type*)
  | call (node : N) (call : C)
  | arrive (place : Nat) (reads : T)
  | lose (place : Nat)

variable (net : MessageNetwork N S P F C T R)

/-- A message that is sent, at the other end of its wire. -/
def route (node : N) (out : P × F) : Option (Flight N P F) :=
  (net.wire (node, out.1)).map fun far => { node := far.1, port := far.2, message := out.2 }

section Steps

variable [DecidableEq N]

/-- A node has taken a step. -/
def act (w : World N S P F R) (node : N) (result : S × List (P × F) × List R) : World N S P F R :=
  { states := Function.update w.states node result.1
    inFlight := w.inFlight ++ result.2.1.filterMap (net.route node)
    records := w.records ++ result.2.2 }

def step (w : World N S P F R) : Action N C T → World N S P F R
  | .call node call => net.act w node (net.call node (w.states node) call)
  | .arrive place reads =>
      match w.inFlight[place]? with
      | none => w
      | some f =>
          net.act { w with inFlight := w.inFlight.eraseIdx place } f.node
            (net.arrive f.node (w.states f.node) f.port f.message reads)
  | .lose place => { w with inFlight := w.inFlight.eraseIdx place }

def run (w : World N S P F R) (actions : List (Action N C T)) : World N S P F R :=
  actions.foldl net.step w

@[simp] theorem run_nil (w : World N S P F R) : net.run w [] = w := rfl

@[simp] theorem run_cons (w : World N S P F R) (action : Action N C T) (actions : List (Action N C T)) :
    net.run w (action :: actions) = net.run (net.step w action) actions := rfl

@[simp] theorem run_append (w : World N S P F R) (before after : List (Action N C T)) :
    net.run w (before ++ after) = net.run (net.run w before) after :=
  List.foldl_append

/-- The only message in flight arrives. -/
theorem step_arrive_only {w : World N S P F R} {f : Flight N P F} (h : w.inFlight = [f]) (reads : T) :
    net.step w (.arrive 0 reads) =
      net.act { w with inFlight := [] } f.node
        (net.arrive f.node (w.states f.node) f.port f.message reads) := by
  simp only [step, h, List.getElem?_cons_zero, List.eraseIdx_cons_zero]

end Steps

/-! ## Invariants -/

variable (FrameOk : List R → F → Prop) (StateOk : List R → N → S → Prop) (RecordOk : List R → R → Prop)

/-- What a node leaves behind keeps the invariant, once its records count. -/
structure ResultOk (records : List R) (node : N) (result : S × List (P × F) × List R) : Prop where
  state : StateOk (records ++ result.2.2) node result.1
  sent : ∀ out ∈ result.2.1, FrameOk (records ++ result.2.2) out.2
  recorded : ∀ before r after, result.2.2 = before ++ r :: after → RecordOk (records ++ before) r

/-- Every node keeps the invariant by itself, and more records do not harm. -/
structure Keeps : Prop where
  frame_mono : ∀ records more f, FrameOk records f → FrameOk (records ++ more) f
  state_mono : ∀ records more node s, StateOk records node s → StateOk (records ++ more) node s
  call : ∀ records node s c, StateOk records node s →
    ResultOk FrameOk StateOk RecordOk records node (net.call node s c)
  arrive : ∀ records node s port f reads, StateOk records node s → FrameOk records f →
    ResultOk FrameOk StateOk RecordOk records node (net.arrive node s port f reads)

/-- The invariant of a world. -/
structure World.Ok (w : World N S P F R) : Prop where
  states : ∀ node, StateOk w.records node (w.states node)
  inFlight : ∀ f ∈ w.inFlight, FrameOk w.records f.message
  records : ∀ before r after, w.records = before ++ r :: after → RecordOk before r

section Runs

variable {net FrameOk StateOk RecordOk}
variable [DecidableEq N] (h : net.Keeps FrameOk StateOk RecordOk)

include h

theorem Keeps.act {w : World N S P F R} (hw : w.Ok FrameOk StateOk RecordOk) {node : N}
    {result : S × List (P × F) × List R}
    (hresult : ResultOk FrameOk StateOk RecordOk w.records node result) :
    (net.act w node result).Ok FrameOk StateOk RecordOk := by
  refine ⟨fun other => ?_, fun f hf => ?_, fun before r after hsplit => ?_⟩
  · by_cases hother : other = node
    · subst hother
      simpa [MessageNetwork.act] using hresult.state
    · simpa [MessageNetwork.act, Function.update_of_ne hother] using h.state_mono _ _ _ _ (hw.states other)
  · rcases List.mem_append.mp hf with hold | hnew
    · exact h.frame_mono _ _ _ (hw.inFlight f hold)
    · rcases List.mem_filterMap.mp hnew with ⟨out, hout, hroute⟩
      rcases Option.map_eq_some_iff.mp hroute with ⟨far, -, rfl⟩
      exact hresult.sent out hout
  -- a record is an old one, with the old ones before it, or a new one behind all of them
  · rcases List.append_eq_append_iff.mp hsplit with ⟨middle, rfl, hnew⟩ | ⟨rest, hold, hrest⟩
    · exact hresult.recorded middle r after hnew
    · cases rest with
      | nil =>
          rw [List.append_nil] at hold
          have hfirst := hresult.recorded [] r after hrest.symm
          rw [List.append_nil] at hfirst
          exact hold ▸ hfirst
      | cons first rest =>
          rcases List.cons.inj hrest with ⟨rfl, -⟩
          exact hw.records before r rest hold

theorem Keeps.step {w : World N S P F R} (hw : w.Ok FrameOk StateOk RecordOk) (action : Action N C T) :
    (net.step w action).Ok FrameOk StateOk RecordOk := by
  have herase : ∀ place, (⟨w.states, w.inFlight.eraseIdx place, w.records⟩ :
      World N S P F R).Ok FrameOk StateOk RecordOk := fun place =>
    ⟨hw.states, fun f hf => hw.inFlight f (List.mem_of_mem_eraseIdx hf), hw.records⟩
  cases action with
  | call node c => exact h.act hw (h.call _ _ _ _ (hw.states node))
  | arrive place reads =>
      rw [MessageNetwork.step]
      cases hplace : w.inFlight[place]? with
      | none => exact hw
      | some f =>
          have hmem : f ∈ w.inFlight := List.mem_of_getElem? hplace
          exact h.act (herase place) (h.arrive _ _ _ _ _ _ (hw.states f.node) (hw.inFlight f hmem))
  | lose place => exact herase place

/-- What every node keeps by itself holds all along a run. -/
theorem Keeps.run {w : World N S P F R} (hw : w.Ok FrameOk StateOk RecordOk)
    (actions : List (Action N C T)) : (net.run w actions).Ok FrameOk StateOk RecordOk := by
  induction actions generalizing w with
  | nil => exact hw
  | cons action actions ih => exact ih (h.step hw action)

end Runs

end MessageNetwork
