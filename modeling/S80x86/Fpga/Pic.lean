import S80x86.Foundation.Priority
import Mathlib.Data.List.FinRange
import Mathlib.Data.Fin.Basic

/-!
# The interrupt controller

One controller with edge-triggered lines.  Line 0 has the highest priority.
-/

namespace S80x86
namespace Fpga

open Foundation

inductive PicInitState where
  | INIT_STATE_ICW1
  | INIT_STATE_ICW2
  | INIT_STATE_ICW3
  | INIT_STATE_ICW4
  | INIT_STATE_IDLE
  deriving DecidableEq, Repr

inductive PicRegLatch where
  | REG_LATCH_NONE
  | REG_LATCH_IRR
  | REG_LATCH_ISR
  deriving DecidableEq, Repr

structure Pic where
  initState : PicInitState
  regLatch : PicRegLatch
  vectorAddress : BitVec 5
  mask : BitVec 8
  isr : BitVec 8
  irr : BitVec 8
  delivered : BitVec 3
  intrLast : BitVec 8
  dataOut : BitVec 16
  ack : Bool
  deriving DecidableEq, Repr

namespace Pic

structure Inputs where
  reset : Bool
  cs : Bool
  dataIn : BitVec 16
  bytesel : BitVec 2
  wrEn : Bool
  access : Bool
  intrIn : BitVec 8
  inta : Bool
  deriving DecidableEq, Repr

abbrev Line := Fin 8

def lines : List Line := List.finRange 8

namespace Inputs

def accessCommand (i : Inputs) : Bool :=
  i.cs && i.access && i.bytesel.getLsbD 0

def accessData (i : Inputs) : Bool :=
  i.cs && i.access && i.bytesel.getLsbD 1

/-- A write of the second operation command word. -/
def writesOcw2 (i : Inputs) : Bool :=
  i.accessCommand && i.wrEn && i.dataIn.extractLsb' 3 2 == 0b00#2

def nonSpecificEoi (i : Inputs) : Bool :=
  i.writesOcw2 && i.dataIn.extractLsb' 5 3 == 0b001#3

def specificEoi (i : Inputs) : Bool :=
  i.writesOcw2 && i.dataIn.extractLsb' 5 3 == 0b011#3

end Inputs

def setBit (x : BitVec 8) (k : Line) : BitVec 8 := x ||| 1#8 <<< k.val

def clearBit (x : BitVec 8) (k : Line) : BitVec 8 := x &&& ~~~(1#8 <<< k.val)

def intrEdges (i : Inputs) (s : Pic) : BitVec 8 :=
  (i.intrIn ^^^ s.intrLast) &&& i.intrIn

def commandReadVal (s : Pic) : BitVec 8 :=
  match s.regLatch with
  | .REG_LATCH_IRR => s.irr
  | .REG_LATCH_ISR => s.isr
  | .REG_LATCH_NONE => 0#8

/-- The line that the priority encoder finds. -/
def request (i : Inputs) (s : Pic) : Option Line :=
  Priority.scan (fun k : Line => i.inta || s.isr.getLsbD k)
    (fun k : Line => s.irr.getLsbD k) lines

def intr (i : Inputs) (s : Pic) : Bool := (s.request i).isSome

def vector (s : Pic) (k : Line) : BitVec 8 :=
  s.vectorAddress.setWidth 8 <<< 3 ||| BitVec.ofNat 8 k.val

def irq (i : Inputs) (s : Pic) : BitVec 8 :=
  match s.request i with
  | some k => s.vector k
  | none => 0#8

def nextInitState (i : Inputs) (s : Pic) : PicInitState :=
  if i.reset then .INIT_STATE_ICW1
  else
    match s.initState with
    | .INIT_STATE_ICW1 =>
        if i.accessCommand && i.wrEn && i.dataIn.getLsbD 4 then
          .INIT_STATE_ICW2
        else .INIT_STATE_ICW1
    | .INIT_STATE_ICW2 =>
        if i.accessData && i.wrEn then .INIT_STATE_ICW4 else .INIT_STATE_ICW2
    | .INIT_STATE_ICW4 =>
        if i.accessData && i.wrEn then .INIT_STATE_IDLE else .INIT_STATE_ICW4
    | state => state

def nextRegLatch (i : Inputs) (s : Pic) : PicRegLatch :=
  if s.initState == .INIT_STATE_IDLE && i.accessCommand && i.wrEn &&
      i.dataIn.getLsbD 3 then
    if i.dataIn.extractLsb' 0 2 = 0b10#2 then .REG_LATCH_IRR
    else if i.dataIn.extractLsb' 0 2 = 0b11#2 then .REG_LATCH_ISR
    else .REG_LATCH_NONE
  else s.regLatch

def nextIrr (i : Inputs) (s : Pic) : BitVec 8 :=
  if i.inta then clearBit s.irr s.delivered.toFin
  else s.irr ||| (~~~s.mask &&& s.intrEdges i)

/-- What an end of interrupt leaves in service. -/
def afterEoi (i : Inputs) (s : Pic) : BitVec 8 :=
  if i.nonSpecificEoi then
    match lines.find? fun k : Line => s.isr.getLsbD k with
    | some k => clearBit s.isr k
    | none => s.isr
  else if i.specificEoi then clearBit s.isr (i.dataIn.extractLsb' 0 3).toFin
  else s.isr

def nextIsr (i : Inputs) (s : Pic) : BitVec 8 :=
  if i.inta then setBit (s.afterEoi i) s.delivered.toFin else s.afterEoi i

/-- The registers with an asynchronous reset, while it is asserted. -/
def cleared (s : Pic) : Pic :=
  { s with
    mask := 0#8, vectorAddress := 0#5, regLatch := .REG_LATCH_NONE
    irr := 0#8, isr := 0#8 }

/-- A clock edge outside reset. -/
def clock (i : Inputs) (s : Pic) : Pic :=
  { initState := s.nextInitState i
    regLatch := s.nextRegLatch i
    vectorAddress :=
      if i.accessData && i.wrEn && s.initState == .INIT_STATE_ICW2 then
        i.dataIn.extractLsb' 11 5
      else s.vectorAddress
    mask :=
      if s.initState == .INIT_STATE_IDLE && i.accessData && i.wrEn then
        i.dataIn.extractLsb' 8 8
      else s.mask
    isr := s.nextIsr i
    irr := s.nextIrr i
    delivered := (s.irq i).extractLsb' 0 3
    intrLast := i.intrIn
    dataOut :=
      if i.cs && i.access && !i.wrEn then
        s.mask.setWidth 16 <<< 8 ||| s.commandReadVal.setWidth 16
      else 0#16
    ack := i.cs && i.access }

def step (i : Inputs) (s : Pic) : Pic :=
  if i.reset then (clock i s.cleared).cleared else clock i s

/-!
## Bits
-/

theorem getLsbD_setBit (x : BitVec 8) (k j : Line) :
    (setBit x k).getLsbD j = (x.getLsbD j || decide (j = k)) := by
  have hone : forall j k : Fin 8, (1#8 <<< k.val).getLsbD j = decide (j = k) := by
    decide
  rw [setBit, BitVec.getLsbD_or, hone]

theorem getLsbD_clearBit (x : BitVec 8) (k j : Line) :
    (clearBit x k).getLsbD j = (x.getLsbD j && decide (j ≠ k)) := by
  have hmask : forall j k : Fin 8,
      (~~~(1#8 <<< k.val)).getLsbD j = decide (j ≠ k) := by decide
  rw [clearBit, BitVec.getLsbD_and, hmask]

theorem lines_sorted : lines.Pairwise (· < ·) := by decide

theorem mem_lines (k : Line) : k ∈ lines := List.mem_finRange k

/-- The low bits of a vector name its line. -/
theorem vector_line (s : Pic) (k : Line) :
    ((s.vector k).extractLsb' 0 3).toFin = k := by
  have hall : forall (v : BitVec 5) (k : Fin 8),
      ((v.setWidth 8 <<< 3 ||| BitVec.ofNat 8 k.val).extractLsb' 0 3).toFin =
        k := by decide
  exact hall s.vectorAddress k

theorem request_eq_some_iff (i : Inputs) (s : Pic) (k : Line) :
    s.request i = some k ↔
      i.inta = false ∧ s.irr.getLsbD k = true ∧
        (forall j : Line, j ≤ k -> s.isr.getLsbD j = false) ∧
        forall j : Line, j < k -> s.irr.getLsbD j = false := by
  unfold request
  rw [Priority.scan_eq_some_iff lines_sorted]
  simp only [mem_lines, true_and, Bool.or_eq_false_iff]
  constructor
  · rintro ⟨hready, hall⟩
    refine ⟨(hall k trivial (le_refl k)).1.1, hready, ?_, ?_⟩
    · intro j hj
      exact (hall j trivial hj).1.2
    · intro j hj
      exact (hall j trivial (le_of_lt hj)).2 hj
  · rintro ⟨hinta, hready, hisr, hirr⟩
    exact ⟨hready, fun j _ hj => ⟨⟨hinta, hisr j hj⟩, hirr j⟩⟩

end Pic
end Fpga
end S80x86
