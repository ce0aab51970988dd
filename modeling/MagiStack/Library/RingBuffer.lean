import Mathlib.Data.List.Basic
import Mathlib.Logic.Function.Basic

/-!
# RingBuffer — a queue in a circular array

A circular array of `capacity` items with the place of its first item, the place after its last one and
the number of its items.  The functions are the loops such queues are programmed with; the lemmas say what
they do to the list of items in order.  `takeFirst` removes the first item with a property by going once
around, taking every item off the front and putting it back at the end.
-/

/-- A queue in a circular array. -/
structure RingBuffer (α : Type) (capacity : Nat) where
  items : Nat → α
  head : Nat
  tail : Nat
  size : Nat

namespace RingBuffer

variable {α : Type} {capacity : Nat}

/-- The `count` items of a circular array from a place on. -/
def itemsFrom (capacity : Nat) (items : Nat → α) : Nat → Nat → List α
  | _, 0 => []
  | i, count + 1 => items i :: itemsFrom capacity items ((i + 1) % capacity) count

/-- The items in order. -/
def toList (q : RingBuffer α capacity) : List α :=
  itemsFrom capacity q.items q.head q.size

/-- An empty queue. -/
def empty (items : Nat → α) : RingBuffer α capacity :=
  { items := items, head := 0, tail := 0, size := 0 }

/-- An item is put at the end. -/
def push (q : RingBuffer α capacity) (item : α) : RingBuffer α capacity :=
  { q with
    items := Function.update q.items q.tail item
    tail := (q.tail + 1) % capacity
    size := q.size + 1 }

/-- The first item is taken off. -/
def pop (q : RingBuffer α capacity) : RingBuffer α capacity :=
  { q with head := (q.head + 1) % capacity, size := q.size - 1 }

/-- The rounds of `takeFirst`, with what was found so far. -/
def takeFirstLoop (p : α → Bool) : Nat → RingBuffer α capacity → Option α →
    Option α × RingBuffer α capacity
  | 0, q, found => (found, q)
  | rounds + 1, q, found =>
      let current := q.items q.head
      if found.isNone && p current then
        takeFirstLoop p rounds q.pop (some current)
      else
        takeFirstLoop p rounds (q.pop.push current) found

/-- The first item with a property, and the queue without it. -/
def takeFirst (p : α → Bool) (q : RingBuffer α capacity) : Option α × RingBuffer α capacity :=
  takeFirstLoop p q.size q none

/-- The rounds of `modifyAll`. -/
def modifyLoop (f : α → α) : Nat → Nat → RingBuffer α capacity → RingBuffer α capacity
  | _, 0, q => q
  | i, count + 1, q =>
      modifyLoop f ((i + 1) % capacity) count { q with items := Function.update q.items i (f (q.items i)) }

/-- Every item is changed in place. -/
def modifyAll (f : α → α) (q : RingBuffer α capacity) : RingBuffer α capacity :=
  modifyLoop f q.head q.size q

/-- The places fit the array, and the last one follows the items. -/
structure Valid (q : RingBuffer α capacity) : Prop where
  head_lt : q.head < capacity
  size_le : q.size ≤ capacity
  tail_eq : q.tail = (q.head + q.size) % capacity

/-! ## The list of items -/

theorem itemsFrom_eq (items : Nat → α) (i count : Nat) (hi : i < capacity) :
    itemsFrom capacity items i count =
      (List.range count).map fun j => items ((i + j) % capacity) := by
  induction count generalizing i with
  | zero => rfl
  | succ count ih =>
      have hpos : 0 < capacity := Nat.zero_lt_of_lt hi
      rw [itemsFrom, ih _ (Nat.mod_lt _ hpos), List.range_succ_eq_map, List.map_cons, List.map_map]
      congr 1
      · rw [Nat.add_zero, Nat.mod_eq_of_lt hi]
      · refine List.map_congr_left fun j _ => ?_
        simp only [Function.comp_apply, Nat.mod_add_mod]
        congr 2
        omega

theorem length_itemsFrom (items : Nat → α) (i count : Nat) :
    (itemsFrom capacity items i count).length = count := by
  induction count generalizing i with
  | zero => rfl
  | succ count ih => rw [itemsFrom, List.length_cons, ih]

@[simp] theorem length_toList (q : RingBuffer α capacity) : q.toList.length = q.size :=
  length_itemsFrom q.items q.head q.size

@[simp] theorem toList_empty (items : Nat → α) :
    (empty items : RingBuffer α capacity).toList = [] := rfl

theorem valid_empty (items : Nat → α) (h : 0 < capacity) :
    (empty items : RingBuffer α capacity).Valid :=
  ⟨h, Nat.zero_le _, (Nat.mod_eq_of_lt h).symm⟩

/-- Places less than a whole round apart are different. -/
theorem place_ne (head : Nat) {i j : Nat} (hij : i < j) (hj : j < i + capacity) :
    (head + i) % capacity ≠ (head + j) % capacity := by
  intro heq
  have hmod := Nat.sub_mod_eq_zero_of_mod_eq heq.symm
  have hsub : head + j - (head + i) = j - i := by omega
  rw [hsub, Nat.mod_eq_of_lt (by omega)] at hmod
  omega

theorem Valid.push {q : RingBuffer α capacity} (h : q.Valid) (hsize : q.size < capacity) (item : α) :
    (q.push item).Valid ∧ (q.push item).toList = q.toList ++ [item] := by
  refine ⟨⟨h.head_lt, hsize, ?_⟩, ?_⟩
  · simp only [RingBuffer.push, h.tail_eq, Nat.mod_add_mod]
    rfl
  · rw [toList, toList, itemsFrom_eq q.items _ _ h.head_lt]
    simp only [RingBuffer.push]
    rw [itemsFrom_eq _ _ _ h.head_lt]
    simp only [List.range_succ, List.map_append, List.map_singleton]
    congr 1
    · refine List.map_congr_left fun j hj => Function.update_of_ne ?_ _ _
      rw [h.tail_eq]
      have hlt := List.mem_range.mp hj
      exact place_ne q.head hlt (by omega)
    · rw [h.tail_eq, Function.update_self]

theorem Valid.pop {q : RingBuffer α capacity} (h : q.Valid) (hsize : 0 < q.size) :
    q.pop.Valid ∧ q.toList = q.items q.head :: q.pop.toList := by
  have hpos : 0 < capacity := Nat.zero_lt_of_lt h.head_lt
  have hle := h.size_le
  refine ⟨⟨Nat.mod_lt _ hpos, ?_, ?_⟩, ?_⟩
  · simp only [RingBuffer.pop]
    omega
  · simp only [RingBuffer.pop, h.tail_eq, Nat.mod_add_mod]
    congr 1
    omega
  · rcases Nat.exists_eq_add_of_lt hsize with ⟨n, hn⟩
    simp only [toList, RingBuffer.pop, hn, Nat.zero_add, Nat.add_sub_cancel]
    rfl

/-! ## Removing the first item with a property -/

/-- Going around the items that are left, with the ones put back behind them. -/
theorem Valid.takeFirstLoop (p : α → Bool) {q : RingBuffer α capacity} (h : q.Valid)
    {todo kept : List α} (found : Option α) (hlist : q.toList = todo ++ kept) :
    (takeFirstLoop p todo.length q found).2.Valid ∧
      (takeFirstLoop p todo.length q found).1 = found.or (todo.find? p) ∧
      (takeFirstLoop p todo.length q found).2.toList =
        kept ++ (if found.isSome then todo else todo.eraseP p) := by
  induction todo generalizing q kept found with
  | nil =>
      refine ⟨h, ?_, ?_⟩
      · cases found with
        | none => rfl
        | some item => rfl
      · cases found with
        | none => simpa [RingBuffer.takeFirstLoop] using hlist
        | some item => simpa [RingBuffer.takeFirstLoop] using hlist
  | cons item todo ih =>
      have hsize : 0 < q.size := by
        rw [← length_toList, hlist]
        simp
      rcases h.pop hsize with ⟨hpop, hpopList⟩
      have hcons := hpopList.symm.trans hlist
      rw [List.cons_append] at hcons
      rcases List.cons.inj hcons with ⟨hitem, hrest⟩
      have hpopSize : q.pop.size < capacity := by
        have hle := h.size_le
        simp only [RingBuffer.pop]
        omega
      simp only [List.length_cons, RingBuffer.takeFirstLoop, hitem]
      -- The item is the first that is looked for and leaves the ring, or goes back to its end.
      by_cases htake : (found.isNone && p item) = true
      · rw [if_pos htake]
        rcases Bool.and_eq_true_iff.mp htake with ⟨hnone, hp⟩
        have hfound : found = none := Option.isNone_iff_eq_none.mp hnone
        rcases ih hpop (some item) hrest with ⟨hvalid, hresult, htoList⟩
        refine ⟨hvalid, ?_, ?_⟩
        · rw [hresult, hfound]
          simp [hp]
        · rw [htoList, hfound]
          simp [hp]
      · rw [if_neg htake]
        rcases hpop.push hpopSize item with ⟨hpush, hpushList⟩
        have hnext : (q.pop.push item).toList = todo ++ (kept ++ [item]) := by
          rw [hpushList, hrest, List.append_assoc]
        rcases ih hpush found hnext with ⟨hvalid, hresult, htoList⟩
        refine ⟨hvalid, ?_, ?_⟩
        · rw [hresult]
          cases found with
          | none =>
              have hp : ¬ p item = true := by simpa using htake
              simp [hp]
          | some other => rfl
        · rw [htoList]
          cases found with
          | none =>
              have hp : ¬ p item = true := by simpa using htake
              simp [hp]
          | some other => simp

theorem Valid.takeFirst {q : RingBuffer α capacity} (h : q.Valid) (p : α → Bool) :
    (q.takeFirst p).2.Valid ∧ (q.takeFirst p).1 = q.toList.find? p ∧
      (q.takeFirst p).2.toList = q.toList.eraseP p := by
  have hloop := h.takeFirstLoop p none (List.append_nil q.toList).symm
  rw [length_toList] at hloop
  simpa [RingBuffer.takeFirst] using hloop

/-- One round of emptying the queue of the items with a property: either there is none, or the first of
them comes off and the others of both kinds are as before. -/
theorem Valid.takeFirst_cases {q : RingBuffer α capacity} (h : q.Valid) (p : α → Bool) :
    (∃ rest, q.takeFirst p = (none, rest) ∧ rest.Valid ∧ rest.toList = q.toList ∧
      q.toList.filter p = []) ∨
    ∃ item rest, q.takeFirst p = (some item, rest) ∧ rest.Valid ∧ p item = true ∧
      rest.size + 1 = q.size ∧ q.toList.filter p = item :: rest.toList.filter p ∧
      (rest.toList.filter fun x => !p x) = q.toList.filter fun x => !p x := by
  rcases h.takeFirst p with ⟨hvalid, hfound, hlist⟩
  cases hfind : q.toList.find? p with
  | none =>
      have hnone : ∀ x ∈ q.toList, ¬ p x = true := by
        intro x hx
        exact List.find?_eq_none.mp hfind x hx
      left
      refine ⟨(q.takeFirst p).2, ?_, hvalid, ?_, List.filter_eq_nil_iff.mpr hnone⟩
      · rw [← hfind, ← hfound]
      · rw [hlist, List.eraseP_of_forall_not hnone]
  | some item =>
      -- What comes before the item found stays, and is not looked for.
      rcases List.find?_eq_some_iff_append.mp hfind with ⟨hitem, before, after, hsplit, hbefore⟩
      have hskip : ∀ x ∈ before, ¬ p x = true := by
        intro x hx
        simpa using hbefore x hx
      have herase : q.toList.eraseP p = before ++ after := by
        rw [hsplit, List.eraseP_append_right _ hskip, List.eraseP_cons_of_pos hitem]
      right
      refine ⟨item, (q.takeFirst p).2, ?_, hvalid, hitem, ?_, ?_, ?_⟩
      · rw [← hfind, ← hfound]
      · rw [← length_toList, ← length_toList, hlist, herase, hsplit]
        simp only [List.length_append, List.length_cons]
        omega
      · rw [hlist, herase, hsplit, List.filter_append, List.filter_append,
          List.filter_cons_of_pos hitem, List.filter_eq_nil_iff.mpr hskip]
        rfl
      · rw [hlist, herase, hsplit, List.filter_append, List.filter_append,
          List.filter_cons_of_neg (by simp [hitem])]

/-! ## Changing items in place -/

theorem modifyLoop_fields (f : α → α) (i count : Nat) (q : RingBuffer α capacity) :
    (modifyLoop f i count q).head = q.head ∧ (modifyLoop f i count q).tail = q.tail ∧
      (modifyLoop f i count q).size = q.size := by
  induction count generalizing i q with
  | zero => exact ⟨rfl, rfl, rfl⟩
  | succ count ih => exact ih _ _

/-- The places behind the loop have their new items, the others are as before. -/
theorem modifyLoop_items (f : α → α) {i count : Nat} (q : RingBuffer α capacity) (hi : i < capacity)
    (hcount : count ≤ capacity) :
    (∀ j, j < count → (modifyLoop f i count q).items ((i + j) % capacity) =
        f (q.items ((i + j) % capacity))) ∧
      ∀ k, (∀ j, j < count → k ≠ (i + j) % capacity) →
        (modifyLoop f i count q).items k = q.items k := by
  induction count generalizing i q with
  | zero => exact ⟨fun j hj => absurd hj (Nat.not_lt_zero j), fun _ _ => rfl⟩
  | succ count ih =>
      have hpos : 0 < capacity := Nat.zero_lt_of_lt hi
      have hplace : ∀ j, ((i + 1) % capacity + j) % capacity = (i + (j + 1)) % capacity := by
        intro j
        rw [Nat.mod_add_mod]
        congr 1
        omega
      -- The rest of the loop does not come back to the first place.
      have hfirst : ∀ j, j < count → i ≠ (i + (j + 1)) % capacity := by
        intro j hj heq
        have hne := place_ne i (show 0 < j + 1 by omega) (show j + 1 < 0 + capacity by omega)
        rw [Nat.add_zero, Nat.mod_eq_of_lt hi] at hne
        exact hne heq
      rcases ih (i := (i + 1) % capacity)
        { q with items := Function.update q.items i (f (q.items i)) }
        (Nat.mod_lt _ hpos) (by omega) with ⟨hin, hout⟩
      rw [modifyLoop]
      refine ⟨fun j hj => ?_, fun k hk => ?_⟩
      · cases j with
        | zero =>
            simp only [Nat.add_zero, Nat.mod_eq_of_lt hi]
            rw [hout i fun j hj => hplace j ▸ hfirst j hj]
            exact Function.update_self _ _ _
        | succ j =>
            have hj' : j < count := by omega
            rw [← hplace j, hin j hj', hplace j]
            exact congrArg f (Function.update_of_ne (hfirst j hj').symm _ _)
      · have hki : k ≠ i := by
          have hzero := hk 0 (Nat.succ_pos count)
          rwa [Nat.add_zero, Nat.mod_eq_of_lt hi] at hzero
        rw [hout k fun j hj => hplace j ▸ hk (j + 1) (Nat.succ_lt_succ hj)]
        exact Function.update_of_ne hki _ _

theorem Valid.modifyAll {q : RingBuffer α capacity} (h : q.Valid) (f : α → α) :
    (q.modifyAll f).Valid ∧ (q.modifyAll f).toList = q.toList.map f := by
  rcases modifyLoop_fields f q.head q.size q with ⟨hhead, htail, hsize⟩
  refine ⟨⟨?_, ?_, ?_⟩, ?_⟩
  · rw [RingBuffer.modifyAll, hhead]
    exact h.head_lt
  · rw [RingBuffer.modifyAll, hsize]
    exact h.size_le
  · rw [RingBuffer.modifyAll, htail, hhead, hsize]
    exact h.tail_eq
  · have hitems := (modifyLoop_items f q h.head_lt h.size_le).1
    rw [toList, toList, RingBuffer.modifyAll, hhead, hsize, itemsFrom_eq _ _ _ h.head_lt,
      itemsFrom_eq _ _ _ h.head_lt, List.map_map]
    exact List.map_congr_left fun j hj => hitems j (List.mem_range.mp hj)

end RingBuffer

/-! ## Queues that are valid -/

/-- A circular queue whose places fit. -/
structure RingQueue (α : Type) (capacity : Nat) where
  buffer : RingBuffer α capacity
  valid : buffer.Valid

namespace RingQueue

variable {α : Type} {capacity : Nat}

def size (q : RingQueue α capacity) : Nat :=
  q.buffer.size

def toList (q : RingQueue α capacity) : List α :=
  q.buffer.toList

def empty (items : Nat → α) (h : 0 < capacity) : RingQueue α capacity :=
  { buffer := .empty items, valid := RingBuffer.valid_empty items h }

def push (q : RingQueue α capacity) (h : q.size < capacity) (item : α) : RingQueue α capacity :=
  { buffer := q.buffer.push item, valid := (q.valid.push h item).1 }

def takeFirst (p : α → Bool) (q : RingQueue α capacity) : Option α × RingQueue α capacity :=
  ((q.buffer.takeFirst p).1, { buffer := (q.buffer.takeFirst p).2, valid := (q.valid.takeFirst p).1 })

def modifyAll (f : α → α) (q : RingQueue α capacity) : RingQueue α capacity :=
  { buffer := q.buffer.modifyAll f, valid := (q.valid.modifyAll f).1 }

@[simp] theorem toList_push (q : RingQueue α capacity) (h : q.size < capacity) (item : α) :
    (q.push h item).toList = q.toList ++ [item] :=
  (q.valid.push h item).2

@[simp] theorem toList_takeFirst (p : α → Bool) (q : RingQueue α capacity) :
    (q.takeFirst p).2.toList = q.toList.eraseP p :=
  (q.valid.takeFirst p).2.2

@[simp] theorem takeFirst_fst (p : α → Bool) (q : RingQueue α capacity) :
    (q.takeFirst p).1 = q.toList.find? p :=
  (q.valid.takeFirst p).2.1

@[simp] theorem toList_modifyAll (f : α → α) (q : RingQueue α capacity) :
    (q.modifyAll f).toList = q.toList.map f :=
  (q.valid.modifyAll f).2

end RingQueue

/-! ## What a user of a queue sees -/

/-- The first item with a property is taken out of a list, and the others keep their order; without one the
list stays as it is. -/
structure TakesFirst {α : Type} (p : α → Bool) (before : List α) (found : Option α) (after : List α) :
    Prop where
  some : ∀ item, found = .some item → ∃ front back, before = front ++ item :: back ∧
    after = front ++ back ∧ p item = true ∧ ∀ other ∈ front, p other = false
  none : found = .none → after = before ∧ ∀ item ∈ before, p item = false

theorem takesFirst_eraseP {α : Type} (p : α → Bool) (items : List α) :
    TakesFirst p items (items.find? p) (items.eraseP p) := by
  constructor
  · intro item hfind
    obtain ⟨hitem, front, back, hsplit, hfront⟩ := List.find?_eq_some_iff_append.mp hfind
    have hskip : ∀ other ∈ front, p other = false := fun other hother => by simpa using hfront other hother
    refine ⟨front, back, hsplit, ?_, hitem, hskip⟩
    have hnot : ∀ other ∈ front, ¬ p other = true := fun other hother => by simp [hskip other hother]
    rw [hsplit, List.eraseP_append_right _ hnot, List.eraseP_cons_of_pos hitem]
  · intro hfind
    have hnone := List.find?_eq_none.mp hfind
    exact ⟨List.eraseP_of_forall_not hnone, fun item hitem => Bool.eq_false_iff.mpr (hnone item hitem)⟩
