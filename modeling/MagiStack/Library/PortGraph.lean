import Mathlib.Logic.Hydra
import Mathlib.Order.WellFounded
import Mathlib.Data.Fintype.Order

/-!
# PortGraph — routes in a graph given by ports

A graph is given by its ports: each belongs to a node and is either linked to one other port or not.
Something that arrives at a port goes on by leaving through another port of the same node.  Where no
way of going on returns to itself (`Acyclic`), at most one port of a node leads to a given port, and
what spreads from node to node in this way dies out.
-/

open Relation

/-- Ports, their nodes and their links. -/
structure PortGraph (P V : Type*) where
  node : P → V
  peer : P → Option P
  peer_symm : ∀ {a b}, peer a = some b → peer b = some a
  peer_ne : ∀ a, peer a ≠ some a

namespace PortGraph

variable {P V : Type*} {g : PortGraph P V}

/-! ## Walks -/

/-- What arrived at `b` goes on to arrive at `b'`, through a port of the node other than `b`. -/
def Hop (g : PortGraph P V) (b b' : P) : Prop :=
  ∃ c, g.node c = g.node b ∧ c ≠ b ∧ g.peer c = some b'

/-- No walk that never turns back returns to where it started. -/
def Acyclic (g : PortGraph P V) : Prop :=
  ∀ b, ¬ TransGen g.Hop b b

/-- `n` hops lead from one arrival to another. -/
inductive Walk (g : PortGraph P V) : Nat → P → P → Prop
  | nil (b : P) : Walk g 0 b b
  | cons {n : Nat} {a b c : P} : g.Hop a b → Walk g n b c → Walk g (n + 1) a c

/-- The last hop of a walk. -/
theorem Walk.exists_snoc {n : Nat} {a c : P} (h : g.Walk (n + 1) a c) :
    ∃ b, g.Walk n a b ∧ g.Hop b c := by
  induction n generalizing a with
  | zero =>
      rcases h with _ | ⟨hop, hnil⟩
      cases hnil
      exact ⟨a, Walk.nil a, hop⟩
  | succ n ih =>
      rcases h with _ | ⟨hop, hrest⟩
      rcases ih hrest with ⟨b, hwalk, hlast⟩
      exact ⟨b, Walk.cons hop hwalk, hlast⟩

theorem Walk.reflTransGen {n : Nat} {a b : P} (h : g.Walk n a b) : ReflTransGen g.Hop a b := by
  induction h with
  | nil b => exact ReflTransGen.refl
  | cons hop _ ih => exact ReflTransGen.head hop ih

/-- In an acyclic graph no walk comes back to the node it left through `e`. -/
theorem Acyclic.not_closed (hg : g.Acyclic) {n : Nat} {e b c : P} (he : g.peer e = some b)
    (hwalk : g.Walk n b c) : g.node c ≠ g.node e := by
  -- Both ends are peeled off while the walk leaves and returns through the same port.
  induction n using Nat.strong_induction_on generalizing e b c with
  | _ n ih =>
      intro hnode
      by_cases hce : c = e
      · rcases n with _ | n
        · cases hwalk
          exact g.peer_ne e (hce ▸ he)
        · rcases hwalk with _ | ⟨⟨first, hfirstNode, hfirstNe, hfirst⟩, hrest⟩
          rename_i b'
          rcases n with _ | n
          · cases hrest
            rw [hce] at hfirst
            have hback : some first = some b := (g.peer_symm hfirst).symm.trans he
            exact hfirstNe (Option.some.inj hback)
          · rcases hrest.exists_snoc with ⟨last, hmiddle, lastOut, hlastNode, hlastNe, hlast⟩
            rw [hce] at hlast
            have hback : some lastOut = some b := (g.peer_symm hlast).symm.trans he
            rw [Option.some.inj hback] at hlastNode
            exact ih n (by omega) hfirst hmiddle (hlastNode.symm.trans hfirstNode.symm)
      · have hreturn : g.Hop c b := ⟨e, hnode.symm, fun h => hce h.symm, he⟩
        exact hg b (TransGen.tail' hwalk.reflTransGen hreturn)

/-! ## Routes -/

/-- Leaving through `a` leads to the port `t`. -/
inductive Route (g : PortGraph P V) (t : P) : P → Prop
  | here : Route g t t
  | hop {a b c : P} : g.peer a = some b → g.node c = g.node b → c ≠ b → Route g t c → Route g t a

/-- What arrived at `b` can still get to the port `t`. -/
def Beyond (g : PortGraph P V) (t b : P) : Prop :=
  ∃ c, g.node c = g.node b ∧ c ≠ b ∧ g.Route t c

theorem route_iff {t a : P} : g.Route t a ↔ a = t ∨ ∃ b, g.peer a = some b ∧ g.Beyond t b := by
  constructor
  · rintro (_ | ⟨hpeer, hnode, hne, hroute⟩)
    · exact Or.inl rfl
    · exact Or.inr ⟨_, hpeer, _, hnode, hne, hroute⟩
  · rintro (rfl | ⟨b, hpeer, c, hnode, hne, hroute⟩)
    · exact Route.here
    · exact Route.hop hpeer hnode hne hroute

/-- A route ends with an arrival at the node of `t`, through another port. -/
theorem Beyond.exists_walk {t b : P} (h : g.Beyond t b) :
    ∃ n c, g.Walk n b c ∧ g.node c = g.node t := by
  rcases h with ⟨c, hnode, hne, hroute⟩
  induction hroute generalizing b with
  | here => exact ⟨0, b, Walk.nil b, hnode.symm⟩
  | hop hpeer hnode' hne' _ ih =>
      rcases ih hnode' hne' with ⟨n, last, hwalk, hlast⟩
      exact ⟨n + 1, last, Walk.cons ⟨_, hnode, hne, hpeer⟩ hwalk, hlast⟩

/-- Two routes from one node give two routes from the node they lead to. -/
theorem Route.exists_other {t a c : P} (ha : g.Route t a) (hc : g.Route t c)
    (hnode : g.node c = g.node a) (hne : c ≠ a) :
    ∃ e, e ≠ t ∧ g.node e = g.node t ∧ g.Route t e := by
  induction ha generalizing c with
  | here => exact ⟨c, hne, hnode, hc⟩
  | hop hpeer hnode' hne' _ ih =>
      -- Turning round, the other route goes on from the next node.
      exact ih (Route.hop (g.peer_symm hpeer) hnode hne hc) hnode'.symm hne'.symm

/-- In an acyclic graph at most one port of a node leads to `t`. -/
theorem Acyclic.route_unique (hg : g.Acyclic) {t a c : P} (ha : g.Route t a) (hc : g.Route t c)
    (hnode : g.node c = g.node a) : c = a := by
  by_contra hne
  rcases ha.exists_other hc hnode hne with ⟨e, het, heNode, he⟩
  rcases route_iff.mp he with heq | ⟨b, hpeer, hbeyond⟩
  · exact het heq
  · rcases hbeyond.exists_walk with ⟨n, last, hwalk, hlast⟩
    exact hg.not_closed hpeer hwalk (hlast.trans heNode.symm)

/-- Two nodes joined by a link. -/
def Adjacent (g : PortGraph P V) (u v : V) : Prop :=
  ∃ a b, g.peer a = some b ∧ g.node a = u ∧ g.node b = v

/-- From a node connected to the node of the unlinked port `t`, some port leads to `t`. -/
theorem exists_route {t : P} {v : V} (ht : g.peer t = none) (h : ReflTransGen g.Adjacent v (g.node t)) :
    ∃ a, g.node a = v ∧ g.Route t a := by
  induction h using ReflTransGen.head_induction_on with
  | refl => exact ⟨t, rfl, Route.here⟩
  | head hadj _ ih =>
      rcases hadj with ⟨a, b, hpeer, ha, hb⟩
      rcases ih with ⟨c, hc, hroute⟩
      by_cases hcb : c = b
      · -- The route turns back through the link it came by.
        subst hcb
        rcases route_iff.mp hroute with heq | ⟨a', hback, e, heNode, -, heRoute⟩
        · rw [heq] at hpeer
          cases ht.symm.trans (g.peer_symm hpeer)
        · have hsame : some a' = some a := hback.symm.trans (g.peer_symm hpeer)
          rw [Option.some.inj hsame] at heNode
          exact ⟨e, heNode.trans ha, heRoute⟩
      · exact ⟨a, ha, Route.hop hpeer (hc.trans hb.symm) hcb hroute⟩

/-! ## Dying out -/

theorem Acyclic.wellFounded_hop [Finite P] (hg : g.Acyclic) :
    WellFounded fun b' b => g.Hop b b' := by
  have htrans : IsTrans P (TransGen fun b' b => g.Hop b b') := ⟨fun _ _ _ => TransGen.trans⟩
  have hirrefl : Std.Irrefl (TransGen fun b' b => g.Hop b b') :=
    ⟨fun b hb => hg b (transGen_swap.mp hb)⟩
  have hwf : WellFounded (TransGen fun b' b => g.Hop b b') :=
    Finite.wellFounded_of_trans_of_irrefl _
  refine Subrelation.wf ?_ hwf
  intro b' b hop
  exact TransGen.single hop

/-- Replacing one arrival by some of the arrivals that follow it comes to an end. -/
theorem Acyclic.wellFounded_spread [Finite P] (hg : g.Acyclic) :
    WellFounded (CutExpand fun b' b => g.Hop b b') :=
  hg.wellFounded_hop.cutExpand

end PortGraph
