import Mathlib.Data.List.Basic

/-!
# Bounded queues in a ring of cells

A bounded queue is a list with one request a cycle: an element to append, which
a full queue refuses, and a request to remove the first one.  A ring of cells
holds such a list from a read position on, and both operations keep it there.
-/

namespace Foundation
namespace RingBuffer

variable {α : Type}

/-!
## The queue
-/

/-- The element a cycle appends: what is offered, unless the queue is full. -/
def accepted (depth : Nat) (offered : Option α) (q : List α) : List α :=
  if q.length < depth then offered.toList else []

/-- The queue after one cycle. -/
def next (depth : Nat) (offered : Option α) (remove : Bool) (q : List α) :
    List α :=
  (if remove then q.tail else q) ++ accepted depth offered q

/-- The element a cycle removes. -/
def removed (remove : Bool) (q : List α) : List α :=
  if remove then q.head?.toList else []

/-- What was there and what came in is what went out and what is left. -/
theorem removed_append_next (depth : Nat) (offered : Option α) (remove : Bool)
    (q : List α) :
    removed remove q ++ next depth offered remove q =
      q ++ accepted depth offered q := by
  cases remove with
  | false =>
      rfl
  | true =>
      cases q with
      | nil =>
          rfl
      | cons x rest =>
          rfl

theorem length_accepted_le (depth : Nat) (offered : Option α) (q : List α) :
    (accepted depth offered q).length ≤ if q.length < depth then 1 else 0 := by
  unfold accepted
  split
  · exact Option.length_toList_le
  · exact Nat.le_refl 0

theorem length_next_le_succ (depth : Nat) (offered : Option α) (remove : Bool)
    (q : List α) :
    (next depth offered remove q).length ≤
      q.length + (accepted depth offered q).length := by
  rw [next, List.length_append]
  apply Nat.add_le_add_right
  split
  · rw [List.length_tail]
    exact Nat.sub_le q.length 1
  · exact Nat.le_refl q.length

/-!
## The ring
-/

/-- The position a number of cells after another. -/
def position (depth start k : Nat) : Nat :=
  if start + k < depth then start + k else start + k - depth

theorem position_lt {depth start k : Nat} (hstart : start < depth)
    (hk : k ≤ depth) : position depth start k < depth := by
  unfold position
  split <;> omega

theorem position_succ {depth start : Nat} (hstart : start < depth) (k : Nat)
    (hk : k < depth) :
    position depth (position depth start 1) k = position depth start (k + 1) :=
    by
  unfold position
  repeat' split
  all_goals omega

theorem succ_position {depth start : Nat} (hstart : start < depth) (k : Nat)
    (hk : k < depth) :
    position depth (position depth start k) 1 = position depth start (k + 1) :=
    by
  unfold position
  repeat' split
  all_goals omega

theorem position_ne {depth start j k : Nat} (hjk : j < k) (hk : k < depth) :
    position depth start j ≠ position depth start k := by
  unfold position
  repeat' split
  all_goals omega

/-- The cells from a position on hold the elements of the list in order. -/
def Holds (depth : Nat) (cells : Nat -> α) (start : Nat) (q : List α) : Prop :=
  forall k x, q[k]? = some x -> cells (position depth start k) = x

theorem holds_nil (depth : Nat) (cells : Nat -> α) (start : Nat) :
    Holds depth cells start [] := by
  intro k x hx
  cases hx

section Operations

variable {depth start : Nat} {cells : Nat -> α} {q : List α}

theorem Holds.head (h : Holds depth cells start q) (hstart : start < depth)
    (hq : q ≠ []) : q.head? = some (cells start) := by
  cases q with
  | nil =>
      exact absurd rfl hq
  | cons x rest =>
      have hx : cells (position depth start 0) = x := h 0 x rfl
      rw [position, Nat.add_zero, if_pos hstart] at hx
      rw [List.head?_cons, hx]

theorem Holds.tail (h : Holds depth cells start q) (hstart : start < depth)
    (hq : q.length ≤ depth) :
    Holds depth cells (position depth start 1) q.tail := by
  intro k x hx
  have hx' : q[k + 1]? = some x := by
    rwa [List.getElem?_tail] at hx
  have hk : k + 1 < q.length := (List.getElem?_eq_some_iff.mp hx').1
  rw [position_succ hstart k (by omega)]
  exact h (k + 1) x hx'

/-- A list that does not fill the ring grows into the cell after its last. -/
theorem Holds.append (h : Holds depth cells start q)
    (hq : q.length < depth) (x : α) :
    Holds depth
      (fun a => if a = position depth start q.length then x else cells a)
      start (q ++ [x]) := by
  intro k y hy
  by_cases hk : k < q.length
  · have hne := @position_ne depth start k q.length hk hq
    rw [List.getElem?_append_left hk] at hy
    exact (if_neg hne).trans (h k y hy)
  · have hlen := (List.getElem?_eq_some_iff.mp hy).1
    rw [List.length_append, List.length_singleton] at hlen
    have hkq : k = q.length := by omega
    subst hkq
    rw [List.getElem?_concat_length] at hy
    cases hy
    exact if_pos rfl

/-- Only the cells of the ring matter. -/
theorem Holds.congr {cells' : Nat -> α} (h : Holds depth cells start q)
    (hstart : start < depth) (hq : q.length ≤ depth)
    (hcells : forall a, a < depth -> cells' a = cells a) :
    Holds depth cells' start q := by
  intro k x hx
  have hk := (List.getElem?_eq_some_iff.mp hx).1
  rw [hcells _ (position_lt hstart (by omega))]
  exact h k x hx

end Operations

end RingBuffer
end Foundation
