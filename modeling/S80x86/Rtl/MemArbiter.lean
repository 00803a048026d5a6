import S80x86.Foundation.Clocked
import Mathlib.Logic.Basic

/-!
# The memory arbiter

Two masters share one bus.  A master holds its request until it is acknowledged
and drops it in that cycle; the slave answers an access no earlier than one
cycle after it is presented.  Whatever the two masters and the slave do beyond
that, a transaction keeps its master from the first cycle to the answer.
-/

open Foundation Clocked

namespace S80x86
namespace Rtl

namespace MemArbiter

/-- What a master drives on its bus. -/
structure Request where
  addr : BitVec 19
  dataOut : BitVec 16
  wrEn : Bool
  bytesel : BitVec 2
  deriving DecidableEq, Repr

structure Port where
  access : Bool
  request : Request
  deriving DecidableEq, Repr

structure Input where
  a : Port
  b : Port
  qAck : Bool
  qDataIn : BitVec 16
  deriving DecidableEq, Repr

end MemArbiter

structure MemArbiter where
  grantToB : Bool
  grantActive : Bool
  deriving DecidableEq, Repr

namespace MemArbiter

/-- Reset leaves the owner as it was. -/
def reset (s : MemArbiter) : MemArbiter := { s with grantActive := false }

variable (i : Input) (s : MemArbiter)

def qB : Bool := (s.grantActive && s.grantToB) || (!s.grantActive && i.b.access)

/-- The master whose request is driven. -/
def driven : Port := if s.qB i then i.b else i.a

def qRequest : Request :=
  { addr := if s.qB i then i.b.request.addr else i.a.request.addr
    dataOut := if s.qB i then i.b.request.dataOut else i.a.request.dataOut
    wrEn := if s.qB i then i.b.request.wrEn else i.a.request.wrEn
    bytesel := if s.qB i then i.b.request.bytesel else i.a.request.bytesel }

def qAccess : Bool := !i.qAck && (i.b.access || i.a.access)

def aDataIn : BitVec 16 :=
  if s.grantActive && !s.grantToB then i.qDataIn else 0#16

def aAck : Bool := s.grantActive && !s.grantToB && i.qAck

def bDataIn : BitVec 16 :=
  if s.grantActive && s.grantToB then i.qDataIn else 0#16

def bAck : Bool := s.grantActive && s.grantToB && i.qAck

def step : MemArbiter :=
  if i.qAck then { s with grantActive := false }
  else if !s.grantActive && (i.b.access || i.a.access) then
    { grantActive := true, grantToB := i.b.access }
  else s

theorem qRequest_eq : s.qRequest i = (s.driven i).request := by
  unfold qRequest driven
  cases s.qB i <;> rfl

/-!
## The protocol of the buses
-/

/-- The answer to the master `toB` names. -/
def ackTo (toB : Bool) : Bool := if toB then s.bAck i else s.aAck i

def dataTo (toB : Bool) : BitVec 16 := if toB then s.bDataIn i else s.aDataIn i

/-- The bus of the master `toB` names. -/
def Input.port (i : Input) (toB : Bool) : Port := if toB then i.b else i.a

section Run

variable (inputs : Nat -> Input) (s : MemArbiter)

/-- The registers before each cycle. -/
abbrev before (n : Nat) : MemArbiter := trace step inputs s n

/-- A master holds its request until the answer and drops it in that cycle. -/
def Holds (toB : Bool) : Prop :=
  forall n, ((inputs n).port toB).access = true ->
    if (before inputs s (n + 1)).ackTo (inputs (n + 1)) toB then
      ((inputs (n + 1)).port toB).access = false
    else (inputs (n + 1)).port toB = (inputs n).port toB

/-- The slave answers only an access that was presented before. -/
def Answers : Prop :=
  (inputs 0).qAck = false ∧
    forall n, (inputs (n + 1)).qAck = true -> qAccess (inputs n) = true

/-- Two masters and a slave that keep the protocol, after a reset. -/
structure Legal : Prop where
  idle : s.grantActive = false
  holds : forall toB, Holds inputs s toB
  answers : Answers inputs

end Run

/-!
## Ownership
-/

section Ownership

variable {inputs : Nat -> Input} {s : MemArbiter}

theorem driven_eq_port : s.driven i = i.port (s.qB i) := rfl

theorem qB_of_active (h : s.grantActive = true) : s.qB i = s.grantToB := by
  simp [qB, h]

/-- The owner is registered in the first cycle of a transaction. -/
theorem grantToB_step (h : qAccess i = true) :
    (s.step i).grantToB = s.qB i ∧ (s.step i).grantActive = true := by
  simp only [qAccess, Bool.and_eq_true, Bool.not_eq_true'] at h
  cases hactive : s.grantActive <;> simp [step, qB, hactive, h]

/-- What holds before every cycle of a legal run: a transaction is going on
exactly when one was presented in the cycle before. -/
structure Owned (inputs : Nat -> Input) (s : MemArbiter) (n : Nat) : Prop where
  active : (before inputs s (n + 1)).grantActive = qAccess (inputs n)
  access : qAccess (inputs n) = true ->
    ((before inputs s n).driven (inputs n)).access = true

theorem qB_succ {n : Nat} (h : qAccess (inputs n) = true) :
    (before inputs s (n + 1)).qB (inputs (n + 1)) =
      (before inputs s n).qB (inputs n) := by
  have hstep := grantToB_step (s := before inputs s n) (inputs n) h
  exact (qB_of_active _ hstep.right).trans hstep.left

/-- Without an answer the owner's request stays on the bus. -/
theorem driven_succ (hlegal : Legal inputs s) {n : Nat}
    (h : qAccess (inputs n) = true)
    (haccess : ((before inputs s n).driven (inputs n)).access = true)
    (hack : (inputs (n + 1)).qAck = false) :
    (before inputs s (n + 1)).driven (inputs (n + 1)) =
      (before inputs s n).driven (inputs n) := by
  rw [driven_eq_port, driven_eq_port, qB_succ h]
  rw [driven_eq_port] at haccess
  have hholds := hlegal.holds ((before inputs s n).qB (inputs n)) n haccess
  have hno : (before inputs s (n + 1)).ackTo (inputs (n + 1))
      ((before inputs s n).qB (inputs n)) = false := by
    unfold ackTo aAck bAck
    cases (before inputs s n).qB (inputs n) <;> simp [hack]
  rw [hno] at hholds
  exact hholds

theorem access_of_idle (hidle : s.grantActive = false)
    (h : qAccess i = true) : (s.driven i).access = true := by
  simp only [qAccess, Bool.and_eq_true, Bool.or_eq_true] at h
  cases hb : i.b.access with
  | true =>
      simp [driven, qB, hidle, hb]
  | false =>
      rcases h.right with hb' | ha
      · rw [hb] at hb'
        cases hb'
      · simp [driven, qB, hidle, hb, ha]

theorem grantActive_step (h : s.grantActive = true -> i.qAck = false ->
    (i.b.access || i.a.access) = true) :
    (s.step i).grantActive = qAccess i := by
  unfold step qAccess
  cases hack : i.qAck with
  | true =>
      simp
  | false =>
      cases hactive : s.grantActive with
      | true =>
          have hsome := h hactive hack
          simp [hactive, hsome]
      | false =>
          cases hsome : (i.b.access || i.a.access) <;> simp [hactive]

theorem access_of_driven (h : (s.driven i).access = true) :
    (i.b.access || i.a.access) = true := by
  unfold driven at h
  cases hq : s.qB i <;> simp_all

theorem owned (hlegal : Legal inputs s) (n : Nat) : Owned inputs s n := by
  induction n with
  | zero =>
      refine ⟨?_, access_of_idle _ hlegal.idle⟩
      apply grantActive_step
      intro hactive
      rw [show (trace step inputs s 0).grantActive = false from hlegal.idle]
        at hactive
      cases hactive
  | succ n ih =>
      -- A transaction that goes on has the owner of the cycle before.
      have hgoes : (before inputs s (n + 1)).grantActive = true ->
          (inputs (n + 1)).qAck = false ->
          ((before inputs s (n + 1)).driven (inputs (n + 1))).access = true := by
        intro hactive hack
        rw [ih.active] at hactive
        rw [driven_succ hlegal hactive (ih.access hactive) hack]
        exact ih.access hactive
      constructor
      · apply grantActive_step
        intro hactive hack
        exact access_of_driven _ (hgoes hactive hack)
      · intro h
        cases hactive : (before inputs s (n + 1)).grantActive with
        | false =>
            exact access_of_idle _ hactive h
        | true =>
            apply hgoes hactive
            simp only [qAccess, Bool.and_eq_true, Bool.not_eq_true'] at h
            exact h.left

/-!
## Transactions
-/

/-- From cycle `first` to before cycle `last` the request `r` of the master
that `toB` names is on the bus. -/
structure Transaction (inputs : Nat -> Input) (s : MemArbiter) (toB : Bool)
    (r : Request) (first last : Nat) : Prop where
  nonempty : first < last
  starts : first = 0 ∨ qAccess (inputs (first - 1)) = false
  presented : forall k, first ≤ k -> k < last -> qAccess (inputs k) = true
  drives : forall k, first ≤ k -> k < last ->
    (before inputs s k).qB (inputs k) = toB ∧
      (before inputs s k).qRequest (inputs k) = r
  requests : forall k, first ≤ k -> k < last ->
    (inputs k).port toB = ⟨true, r⟩

/-- Every access that is presented belongs to a transaction. -/
theorem exists_transaction (hlegal : Legal inputs s) (n : Nat)
    (h : qAccess (inputs n) = true) :
    exists first, Transaction inputs s ((before inputs s n).qB (inputs n))
      ((before inputs s n).qRequest (inputs n)) first (n + 1) := by
  induction n with
  | zero =>
      refine ⟨0, Nat.succ_pos 0, Or.inl rfl, ?_, ?_, ?_⟩
      all_goals
        intro k _ hk
        obtain rfl : k = 0 := by omega
      · exact h
      · exact ⟨rfl, rfl⟩
      · rw [<- driven_eq_port, qRequest_eq,
          <- (owned hlegal 0).access h]
  | succ n ih =>
      have hport : (inputs (n + 1)).port
          ((before inputs s (n + 1)).qB (inputs (n + 1))) =
          ⟨true, (before inputs s (n + 1)).qRequest (inputs (n + 1))⟩ := by
        rw [<- driven_eq_port, qRequest_eq,
          <- (owned hlegal (n + 1)).access h]
      cases hbefore : qAccess (inputs n) with
      | false =>
          refine ⟨n + 1, Nat.lt_succ_self _, Or.inr hbefore, ?_, ?_, ?_⟩
          all_goals
            intro k hfirst hk
            obtain rfl : k = n + 1 := by omega
          · exact h
          · exact ⟨rfl, rfl⟩
          · exact hport
      | true =>
          rcases ih hbefore with ⟨first, ht⟩
          have hack : (inputs (n + 1)).qAck = false := by
            simp only [qAccess, Bool.and_eq_true, Bool.not_eq_true'] at h
            exact h.left
          have hsame := driven_succ hlegal hbefore
            ((owned hlegal n).access hbefore) hack
          have hqB := qB_succ (s := s) hbefore
          have hreq : (before inputs s (n + 1)).qRequest (inputs (n + 1)) =
              (before inputs s n).qRequest (inputs n) := by
            rw [qRequest_eq, qRequest_eq, hsame]
          rw [hqB, hreq] at hport ⊢
          refine ⟨first, ?_, ht.starts, ?_, ?_, ?_⟩
          · exact Nat.lt_succ_of_lt ht.nonempty
          · intro k hfirst hk
            by_cases hlast : k = n + 1
            · rw [hlast]
              exact h
            · exact ht.presented k hfirst (by omega)
          · intro k hfirst hk
            by_cases hlast : k = n + 1
            · rw [hlast]
              exact ⟨hqB, hreq⟩
            · exact ht.drives k hfirst (by omega)
          · intro k hfirst hk
            by_cases hlast : k = n + 1
            · rw [hlast]
              exact hport
            · exact ht.requests k hfirst (by omega)

/-- Every answer of the slave goes to the one master whose request was on the
bus in every cycle of the transaction, with the slave's data; without an answer
of the slave no master has one, and the request stays as it is. -/
theorem arbiter_routes_answers (inputs : Nat -> Input) (s : MemArbiter)
    (hlegal : Legal inputs s) :
    (forall n, (inputs n).qAck = true ->
      exists toB r first, Transaction inputs s toB r first n ∧
        (before inputs s n).ackTo (inputs n) toB = true ∧
        (before inputs s n).dataTo (inputs n) toB = (inputs n).qDataIn ∧
        (before inputs s n).ackTo (inputs n) (!toB) = false) ∧
    (forall n, (inputs n).qAck = false ->
      forall toB, (before inputs s n).ackTo (inputs n) toB = false) ∧
    forall n, qAccess (inputs n) = true -> (inputs (n + 1)).qAck = false ->
      qAccess (inputs (n + 1)) = true ∧
        (before inputs s (n + 1)).qRequest (inputs (n + 1)) =
          (before inputs s n).qRequest (inputs n) := by
  refine ⟨?_, ?_, ?_⟩
  · intro n hack
    cases n with
    | zero =>
        rw [hlegal.answers.left] at hack
        cases hack
    | succ n =>
        have haccess := hlegal.answers.right n hack
        rcases exists_transaction hlegal n haccess with ⟨first, ht⟩
        have hstep := grantToB_step (s := before inputs s n) (inputs n) haccess
        refine ⟨_, _, first, ht, ?_⟩
        rw [<- hstep.left]
        have hactive : (before inputs s (n + 1)).grantActive = true := hstep.right
        change ackTo _ (before inputs s (n + 1)) (before inputs s (n + 1)).grantToB
            = true ∧
          dataTo _ (before inputs s (n + 1)) (before inputs s (n + 1)).grantToB =
            _ ∧
          ackTo _ (before inputs s (n + 1)) (!(before inputs s (n + 1)).grantToB) =
            false
        cases hto : (before inputs s (n + 1)).grantToB <;>
          simp [ackTo, dataTo, aAck, bAck, aDataIn, bDataIn, hactive, hto, hack]
  · intro n hack toB
    cases toB <;> simp [ackTo, aAck, bAck, hack]
  · intro n haccess hack
    have hdriven := (owned hlegal n).access haccess
    have hsame := driven_succ hlegal haccess hdriven hack
    constructor
    · rw [<- hsame] at hdriven
      have hsome := access_of_driven _ hdriven
      simp [qAccess, hack, hsome]
    · rw [qRequest_eq, qRequest_eq, hsame]

end Ownership

/-- The first master reads, the second one writes meanwhile and waits. -/
def contention : Nat -> Input
  | 0 => ⟨⟨true, ⟨1#19, 0#16, false, 3#2⟩⟩, ⟨false, ⟨2#19, 0#16, false, 0#2⟩⟩,
      false, 0#16⟩
  | 1 => ⟨⟨true, ⟨1#19, 0#16, false, 3#2⟩⟩, ⟨true, ⟨2#19, 7#16, true, 1#2⟩⟩,
      false, 0#16⟩
  | 2 => ⟨⟨false, ⟨1#19, 0#16, false, 3#2⟩⟩, ⟨true, ⟨2#19, 7#16, true, 1#2⟩⟩,
      true, 9#16⟩
  | 3 => ⟨⟨false, ⟨1#19, 0#16, false, 3#2⟩⟩, ⟨true, ⟨2#19, 7#16, true, 1#2⟩⟩,
      false, 0#16⟩
  | 4 => ⟨⟨false, ⟨1#19, 0#16, false, 3#2⟩⟩, ⟨false, ⟨2#19, 7#16, true, 1#2⟩⟩,
      true, 0#16⟩
  | _ => ⟨⟨false, ⟨0#19, 0#16, false, 0#2⟩⟩, ⟨false, ⟨0#19, 0#16, false, 0#2⟩⟩,
      false, 0#16⟩

theorem contention_legal : Legal contention ⟨false, false⟩ := by
  refine ⟨rfl, ?_, rfl, ?_⟩
  · intro toB n haccess
    match n with
    | 0 | 1 | 2 | 3 | 4 =>
        revert toB
        decide
    | n + 5 =>
        cases toB <;> cases haccess
  · intro n hack
    match n with
    | 0 | 1 | 2 | 3 =>
        revert hack
        decide
    | n + 4 =>
        cases hack

theorem arbiter_routes_answers_contention :
    Legal contention ⟨false, false⟩ ∧
      exists toB r first, Transaction contention ⟨false, false⟩ toB r first 4 ∧
        (before contention ⟨false, false⟩ 4).ackTo (contention 4) toB =
          true := by
  refine ⟨contention_legal, ?_⟩
  rcases (arbiter_routes_answers contention ⟨false, false⟩
    contention_legal).left 4 rfl with ⟨toB, r, first, ht, hack, _⟩
  exact ⟨toB, r, first, ht, hack⟩

end MemArbiter
end Rtl
end S80x86
