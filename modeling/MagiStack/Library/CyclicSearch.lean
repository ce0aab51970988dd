import Mathlib.Algebra.Order.Ring.Nat
import Mathlib.Data.List.Basic
import Mathlib.Data.List.Nodup
import Mathlib.Data.List.Range

/-!
# CyclicSearch — the first free place of a cycle, and cursors that go round it

The `n` places from `lo` on are visited in order, the first one after the last.  A search that tries each of
them once finds the free place nearest to its start, or none if all are taken.  A cursor that goes on behind
each place it gives out gives no place twice before it has gone round.
-/

namespace CyclicSearch

/-! ## The cycle -/

/-- The place after `x`. -/
def next (lo n x : Nat) : Nat :=
  if x + 1 = lo + n then lo else x + 1

/-- The place `k` steps after `start`. -/
def after (lo n start k : Nat) : Nat :=
  lo + (start - lo + k) % n

/-- The steps from `start` to `x`. -/
def distance (n start x : Nat) : Nat :=
  (x + n - start) % n

/-- `x` is a place of the cycle. -/
def IsPlace (lo n x : Nat) : Prop :=
  lo ≤ x ∧ x < lo + n

variable {lo n start : Nat}

theorem isPlace_after (hn : 0 < n) (start k : Nat) : IsPlace lo n (after lo n start k) := by
  have := Nat.mod_lt (start - lo + k) hn
  exact ⟨Nat.le_add_right _ _, by rw [after]; omega⟩

theorem IsPlace.pos {x : Nat} (h : IsPlace lo n x) : 0 < n := by
  obtain ⟨hlo, hhi⟩ := h
  omega

theorem isPlace_next {x : Nat} (h : IsPlace lo n x) : IsPlace lo n (next lo n x) := by
  have hn := h.pos
  obtain ⟨hlo, hhi⟩ := h
  rw [next]
  split
  · exact ⟨le_refl lo, by omega⟩
  · exact ⟨by omega, by omega⟩

theorem after_zero (h : IsPlace lo n start) : after lo n start 0 = start := by
  obtain ⟨hlo, hhi⟩ := h
  rw [after, Nat.add_zero, Nat.mod_eq_of_lt (by omega)]
  omega

theorem after_next (h : IsPlace lo n start) (k : Nat) :
    after lo n (next lo n start) k = after lo n start (k + 1) := by
  obtain ⟨hlo, hhi⟩ := h
  rw [after, after, next]
  congr 1
  -- from the last place the next one is the first
  split
  · rw [show start - lo + (k + 1) = k + n by omega, Nat.add_mod_right, Nat.sub_self, Nat.zero_add]
  · congr 1
    omega

/-- Steps add up. -/
theorem after_after (start j k : Nat) :
    after lo n (after lo n start j) k = after lo n start (j + k) := by
  rw [after, after, after, Nat.add_sub_cancel_left, Nat.mod_add_mod, Nat.add_assoc]

theorem next_eq_after (h : IsPlace lo n start) : next lo n start = after lo n start 1 := by
  rw [← after_zero (isPlace_next h), after_next h]

theorem after_distance (h : IsPlace lo n start) {x : Nat} (hx : IsPlace lo n x) :
    after lo n start (distance n start x) = x := by
  obtain ⟨hlo, hhi⟩ := h
  obtain ⟨hxlo, hxhi⟩ := hx
  rw [after, distance, Nat.add_mod_mod, show start - lo + (x + n - start) = x - lo + n by omega,
    Nat.add_mod_right, Nat.mod_eq_of_lt (by omega)]
  omega

theorem distance_after (h : IsPlace lo n start) {k : Nat} (hk : k < n) :
    distance n start (after lo n start k) = k := by
  obtain ⟨hlo, hhi⟩ := h
  rw [distance, after]
  -- the steps stay in front of the end, or go over it once
  rcases Nat.lt_or_ge (start - lo + k) n with hlt | hge
  · rw [Nat.mod_eq_of_lt hlt, show lo + (start - lo + k) + n - start = k + n by omega, Nat.add_mod_right,
      Nat.mod_eq_of_lt hk]
  · have hround : (start - lo + k) % n = start - lo + k - n := by
      rw [Nat.mod_eq_sub_mod hge, Nat.mod_eq_of_lt (by omega)]
    rw [hround, show lo + (start - lo + k - n) + n - start = k by omega, Nat.mod_eq_of_lt hk]

theorem distance_lt (hn : 0 < n) (start x : Nat) : distance n start x < n :=
  Nat.mod_lt _ hn

/-- Within one round, different numbers of steps lead to different places. -/
theorem after_inj (h : IsPlace lo n start) {j k : Nat} (hj : j < n) (hk : k < n)
    (heq : after lo n start j = after lo n start k) : j = k := by
  rw [← distance_after h hj, heq, distance_after h hk]

/-! ## The search -/

/-- The first place from `x` on that is not used, in at most the given number of tries. -/
def search (lo n : Nat) (used : Nat → Bool) : Nat → Nat → Option Nat
  | 0, _ => none
  | tries + 1, x => if used x then search lo n used tries (next lo n x) else some x

variable {used : Nat → Bool}

/-- What is found is so many steps after the start, and everything before it is used. -/
theorem search_eq_some_steps (h : IsPlace lo n start) {tries x : Nat} :
    search lo n used tries start = some x ↔
      ∃ k < tries, x = after lo n start k ∧ used x = false ∧
        ∀ j < k, used (after lo n start j) = true := by
  have hn := h.pos
  induction tries generalizing start with
  | zero => simp [search]
  | succ tries ih =>
      rw [search]
      cases hused : used start with
      | false =>
          simp only [Bool.false_eq_true, if_false, Option.some.injEq]
          constructor
          · rintro rfl
            exact ⟨0, by omega, (after_zero h).symm, hused, by simp⟩
          · rintro ⟨k, -, rfl, -, hbefore⟩
            cases k with
            | zero => exact (after_zero h).symm
            | succ k =>
                have hstart := hbefore 0 (by omega)
                rw [after_zero h, hused] at hstart
                cases hstart
      | true =>
          -- what the rest of the search finds is one step further from here
          simp only [if_true]
          refine (ih (isPlace_next h)).trans ?_
          constructor
          · rintro ⟨k, hk, rfl, hfree, hbefore⟩
            refine ⟨k + 1, by omega, after_next h k, hfree, fun j hj => ?_⟩
            cases j with
            | zero => rwa [after_zero h]
            | succ j => rw [← after_next h]; exact hbefore j (by omega)
          · rintro ⟨k, hk, rfl, hfree, hbefore⟩
            cases k with
            | zero =>
                rw [after_zero h, hused] at hfree
                cases hfree
            | succ k =>
                refine ⟨k, by omega, (after_next h k).symm, hfree, fun j hj => ?_⟩
                rw [after_next h]
                exact hbefore (j + 1) (by omega)

/-- With one try for each place, the search finds the free place nearest to the start. -/
theorem search_eq_some_iff (h : IsPlace lo n start) {x : Nat} :
    search lo n used n start = some x ↔
      IsPlace lo n x ∧ used x = false ∧
        ∀ y, IsPlace lo n y → distance n start y < distance n start x → used y = true := by
  have hn := h.pos
  rw [search_eq_some_steps h]
  constructor
  · rintro ⟨k, hk, rfl, hfree, hbefore⟩
    refine ⟨isPlace_after hn start k, hfree, fun y hy hnear => ?_⟩
    rw [distance_after h hk] at hnear
    rw [← after_distance h hy]
    exact hbefore _ hnear
  · rintro ⟨hx, hfree, hbefore⟩
    refine ⟨distance n start x, distance_lt hn start x, (after_distance h hx).symm, hfree, fun j hj => ?_⟩
    refine hbefore _ (isPlace_after hn start j) ?_
    rwa [distance_after h (hj.trans (distance_lt hn start x))]

/-- Nothing is found if every place that is tried is used. -/
theorem search_eq_none_steps (h : IsPlace lo n start) {tries : Nat} :
    search lo n used tries start = none ↔ ∀ k < tries, used (after lo n start k) = true := by
  have hn := h.pos
  induction tries generalizing start with
  | zero => simp [search]
  | succ tries ih =>
      rw [search]
      cases hused : used start with
      | false =>
          simp only [Bool.false_eq_true, if_false, reduceCtorEq, false_iff]
          intro hall
          have hstart := hall 0 (by omega)
          rw [after_zero h, hused] at hstart
          cases hstart
      | true =>
          simp only [if_true]
          refine (ih (isPlace_next h)).trans ⟨fun hall k hk => ?_, fun hall k hk => ?_⟩
          · cases k with
            | zero => rwa [after_zero h]
            | succ k => rw [← after_next h]; exact hall k (by omega)
          · rw [after_next h]
            exact hall (k + 1) (by omega)

/-- With one try for each place, nothing is found only if every place is used. -/
theorem search_eq_none_iff (h : IsPlace lo n start) :
    search lo n used n start = none ↔ ∀ x, IsPlace lo n x → used x = true := by
  have hn := h.pos
  rw [search_eq_none_steps h]
  constructor
  · intro hall x hx
    rw [← after_distance h hx]
    exact hall _ (distance_lt hn start x)
  · exact fun hall k _ => hall _ (isPlace_after hn start k)

/-! ## A cursor -/

/-- The places given out from a cursor: each so many steps after it, and the cursor goes on behind it. -/
def giveOut (lo n : Nat) : Nat → List Nat → List Nat
  | _, [] => []
  | cursor, steps :: rest =>
      after lo n cursor steps :: giveOut lo n (next lo n (after lo n cursor steps)) rest

/-- The steps from the start to each of the places given out. -/
def reached : Nat → List Nat → List Nat
  | _, [] => []
  | moved, steps :: rest => (moved + steps) :: reached (moved + steps + 1) rest

theorem giveOut_eq (hn : 0 < n) (steps : List Nat) (moved : Nat) :
    giveOut lo n (after lo n start moved) steps = (reached moved steps).map (after lo n start) := by
  induction steps generalizing moved with
  | nil => rfl
  | cons first steps ih =>
      rw [giveOut, reached, List.map_cons, after_after, next_eq_after (isPlace_after hn start _), after_after,
        ih]

theorem reached_bounds (steps : List Nat) (moved : Nat) :
    ∀ k ∈ reached moved steps, moved ≤ k ∧ k < moved + (steps.map (· + 1)).sum := by
  induction steps generalizing moved with
  | nil => simp [reached]
  | cons first steps ih =>
      intro k hk
      rw [List.map_cons, List.sum_cons]
      rcases List.mem_cons.mp hk with rfl | hk
      · omega
      · have := ih _ k hk
        omega

theorem reached_increasing (steps : List Nat) (moved : Nat) : (reached moved steps).Pairwise (· < ·) := by
  induction steps generalizing moved with
  | nil => exact List.Pairwise.nil
  | cons first steps ih =>
      refine List.pairwise_cons.mpr ⟨fun k hk => ?_, ih _⟩
      exact (reached_bounds steps _ k hk).1

/-- Before the cursor has gone round once, no place is given out twice. -/
theorem giveOut_nodup (h : IsPlace lo n start) {steps : List Nat} (hround : (steps.map (· + 1)).sum ≤ n) :
    (giveOut lo n start steps).Nodup := by
  have hn := h.pos
  have heq : giveOut lo n start steps = (reached 0 steps).map (after lo n start) := by
    rw [← giveOut_eq hn steps 0, after_zero h]
  rw [heq]
  refine List.Nodup.map_on (fun j hj k hk hjk => ?_) ((reached_increasing steps 0).imp Nat.ne_of_lt)
  have hjlt := (reached_bounds steps 0 j hj).2
  have hklt := (reached_bounds steps 0 k hk).2
  exact after_inj h (by omega) (by omega) hjk

end CyclicSearch
