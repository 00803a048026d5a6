import Mathlib.Logic.Function.Iterate
import S80x86.Sim.Prefixes
import S80x86.Sim.TwoOperands

/-!
# Repeated string instructions

What one element step does, what the counted loop around it does, and from both
what a repeated string instruction leaves behind.
-/

open Foundation

namespace S80x86
namespace Sim

open Foundation.Effect

variable {W : Type}

inductive StringOp where
  | movs
  | stos
  | lods
  | cmps
  | scas
  deriving DecidableEq, Repr

namespace StringOp

def opcode : StringOp -> OperandWidth -> BitVec 8
  | movs, .OP_WIDTH_8 => 0xa4#8
  | movs, .OP_WIDTH_16 => 0xa5#8
  | cmps, .OP_WIDTH_8 => 0xa6#8
  | cmps, .OP_WIDTH_16 => 0xa7#8
  | stos, .OP_WIDTH_8 => 0xaa#8
  | stos, .OP_WIDTH_16 => 0xab#8
  | lods, .OP_WIDTH_8 => 0xac#8
  | lods, .OP_WIDTH_16 => 0xad#8
  | scas, .OP_WIDTH_8 => 0xae#8
  | scas, .OP_WIDTH_16 => 0xaf#8

def usesSi : StringOp -> Bool
  | movs => true
  | stos => false
  | lods => true
  | cmps => true
  | scas => false

def usesDi : StringOp -> Bool
  | movs => true
  | stos => true
  | lods => false
  | cmps => true
  | scas => true

def compares : StringOp -> Bool
  | movs => false
  | stos => false
  | lods => false
  | cmps => true
  | scas => true

/-- The code of one element step. -/
@[reducible]
def primitive (w : OperandWidth) : StringOp -> EmuM W Unit
  | movs => Sim.movs w
  | stos =>
      match w with
      | .OP_WIDTH_8 => stosb
      | .OP_WIDTH_16 => stosw
  | lods => Sim.lods w
  | cmps => Sim.cmps w
  | scas => Sim.scas w

/-- The test that ends the repetition. -/
@[reducible]
def shouldTerminate (op : StringOp) : EmuM W Bool :=
  if op.compares then stringRepComplete else pure false

theorem execute_opcode (op : StringOp) (w : OperandWidth) :
    execute (W := W) (op.opcode w) = doRep (op.primitive w) op.shouldTerminate := by
  cases op <;> cases w <;> rfl

end StringOp

/-!
## One element
-/

/-- The signed size of an element in the direction of `DF`. -/
def RegisterFile.stride (r : RegisterFile) (w : OperandWidth) : BitVec 16 :=
  if r.getFlag Flag.DF then -BitVec.ofNat 16 w.bytes
  else BitVec.ofNat 16 w.bytes

namespace Emulator

variable (e : Emulator W) (w : OperandWidth)

/-- The address of the source element a number of steps ahead. -/
def sourceAddress (k : Nat) : Nat :=
  (getPhysAddr (e.registers.get e.operandSegment)
    (e.registers.si + BitVec.ofNat 16 k * e.registers.stride w).toNat).linear

/-- The address of the destination element a number of steps ahead. -/
def destinationAddress (k : Nat) : Nat :=
  (getPhysAddr e.registers.es
    (e.registers.di + BitVec.ofNat 16 k * e.registers.stride w).toNat).linear

def accumulator : BitVec w.bits :=
  (e.registers.get (Sim.accumulator w)).setWidth w.bits

/-- An index register after one element. -/
def advanced (r : GPR) : Emulator W :=
  { e with
    registers := e.registers.set r (e.registers.get r + e.registers.stride w) }

def withMem (m : Memory) : Emulator W := { e with mem := m }

/-- The state with an element in the accumulator. -/
def loaded (v : BitVec w.bits) : Emulator W :=
  { e with
    registers := e.registers.set (Sim.accumulator w) (v.setWidth 16) }

/-- The state after one element. -/
def element (op : StringOp) : Emulator W :=
  let source := e.mem.readAt w (e.sourceAddress w 0)
  let destination := e.mem.readAt w (e.destinationAddress w 0)
  match op with
  | .movs =>
      ((e.withMem (e.mem.writeAt w (e.destinationAddress w 0)
        source)).advanced w .DI).advanced w .SI
  | .stos =>
      (e.withMem (e.mem.writeAt w (e.destinationAddress w 0)
        (e.accumulator w))).advanced w .DI
  | .lods => (e.loaded w source).advanced w .SI
  | .cmps =>
      ((ArithmeticOp.cmp.flagged source destination e).advanced w
        .DI).advanced w .SI
  | .scas =>
      (ArithmeticOp.cmp.flagged (e.accumulator w) destination e).advanced w .DI

/-- The accesses of the element a number of steps ahead end in memory. -/
structure ElementFits (op : StringOp) (k : Nat) : Prop where
  source : op.usesSi = true -> e.sourceAddress w k + w.bytes ≤ memorySize
  destination : op.usesDi = true ->
    e.destinationAddress w k + w.bytes ≤ memorySize

end Emulator

theorem sourceAddress_zero (e : Emulator W) (w : OperandWidth) :
    e.sourceAddress w 0 =
      (getPhysAddr (e.registers.get e.operandSegment)
        e.registers.si.toNat).linear := by
  unfold Emulator.sourceAddress
  rw [BitVec.zero_mul, BitVec.add_zero]

theorem destinationAddress_zero (e : Emulator W) (w : OperandWidth) :
    e.destinationAddress w 0 =
      (getPhysAddr e.registers.es e.registers.di.toNat).linear := by
  unfold Emulator.destinationAddress
  rw [BitVec.zero_mul, BitVec.add_zero]

section Element

variable {env : Environment W}

theorem advance_returns (e : Emulator W) (w : OperandWidth) (r : GPR) :
    Returns (advance w r) env e () (e.advanced w r) := by
  have hsize : w.bits / 8 = w.bytes := by
    cases w <;> rfl
  refine returns_bind.mpr ⟨e.registers.getFlag Flag.DF, e, rfl, ?_⟩
  refine returns_bind.mpr ⟨e.registers.get r, e, rfl, ?_⟩
  unfold Emulator.advanced RegisterFile.stride
  rw [hsize]
  cases e.registers.getFlag Flag.DF with
  | false =>
      rfl
  | true =>
      rw [if_pos rfl, ← BitVec.sub_eq_add_neg]
      rfl

theorem segSi_returns (e : Emulator W) :
    Returns segSi env e
      (getPhysAddr (e.registers.get e.operandSegment) e.registers.si.toNat)
      e := by
  refine returns_bind.mpr ⟨_, _, getSegment_returns, ?_⟩
  rfl

theorem esDi_returns (e : Emulator W) :
    Returns esDi env e (getPhysAddr e.registers.es e.registers.di.toNat) e :=
  rfl

theorem compareFlags_returns (e : Emulator W) {w : OperandWidth}
    (a b : BitVec w.bits) :
    Returns (compareFlags w a b) env e ()
      (ArithmeticOp.cmp.flagged a b e) := by
  refine returns_bind.mpr ⟨_, _, alu_returns .cmp e a b, ?_⟩
  rfl

variable (henv : env.addressing = Addressing.emulator)
include henv

theorem readSource_returns {e : Emulator W} {w : OperandWidth}
    (h : e.sourceAddress w 0 + w.bytes ≤ memorySize) :
    Returns (readMem w (getPhysAddr (e.registers.get e.operandSegment)
      e.registers.si.toNat)) env e (e.mem.readAt w (e.sourceAddress w 0))
      e := by
  rw [sourceAddress_zero] at h ⊢
  exact readMem_returns henv e h

theorem readDestination_returns {e : Emulator W} {w : OperandWidth}
    (h : e.destinationAddress w 0 + w.bytes ≤ memorySize) :
    Returns (readMem w (getPhysAddr e.registers.es e.registers.di.toNat)) env e
      (e.mem.readAt w (e.destinationAddress w 0)) e := by
  rw [destinationAddress_zero] at h ⊢
  exact readMem_returns henv e h

theorem writeDestination_returns {e : Emulator W} {w : OperandWidth}
    (h : e.destinationAddress w 0 + w.bytes ≤ memorySize)
    (v : BitVec w.bits) :
    Returns (writeMem w (getPhysAddr e.registers.es e.registers.di.toNat) v)
      env e ()
      { e with mem := e.mem.writeAt w (e.destinationAddress w 0) v } := by
  rw [destinationAddress_zero] at h ⊢
  exact writeMem_returns henv e v h

omit henv in
/-- Writing `AL` back changes nothing once another register is written. -/
theorem RegisterFile.set_al_set_di (r : RegisterFile) (v : BitVec 16) :
    (r.set .AL (r.get .AL)).set .DI v = r.set .DI v := by
  have hax : lowByte r.ax (r.ax &&& 0x00ff#16) = r.ax := by
    unfold lowByte
    ext i hi
    interval_cases i <;> simp
  show ({ r with
    ax := lowByte r.ax (r.ax &&& 0x00ff#16), di := v, written := false } :
      RegisterFile) = _
  rw [hax]
  rfl

omit henv in
/-- The byte form writes `AL` back before it moves on. -/
theorem writeBack_returns (e : Emulator W) :
    Returns (do set .AL (e.registers.get .AL); advance .OP_WIDTH_8 .DI) env e ()
      (e.advanced .OP_WIDTH_8 .DI) := by
  have hsame : ({ e with
      registers := e.registers.set .AL (e.registers.get .AL) } :
        Emulator W).advanced .OP_WIDTH_8 .DI = e.advanced .OP_WIDTH_8 .DI := by
    have hset := RegisterFile.set_al_set_di e.registers
      (e.registers.di + e.registers.stride .OP_WIDTH_8)
    exact congrArg (fun r => ({ e with registers := r } : Emulator W)) hset
  refine returns_bind.mpr ⟨_, _, rfl, ?_⟩
  rw [← hsame]
  exact advance_returns _ .OP_WIDTH_8 .DI

theorem stosb_returns {e : Emulator W}
    (h : e.destinationAddress .OP_WIDTH_8 0 + 1 ≤ memorySize) :
    Returns stosb env e () (e.element .OP_WIDTH_8 .stos) := by
  refine returns_bind.mpr ⟨_, _, rfl, ?_⟩
  refine returns_bind.mpr ⟨_, _, esDi_returns e, ?_⟩
  refine returns_bind.mpr
    ⟨_, _, @writeDestination_returns W env henv e .OP_WIDTH_8 h _, ?_⟩
  exact writeBack_returns (e.withMem _)

/-- Without a prefix the instruction is one element step. -/
theorem primitive_returns (op : StringOp) {w : OperandWidth} {e : Emulator W}
    (h : e.ElementFits w op 0) :
    Returns (op.primitive w) env e () (e.element w op) := by
  cases op with
  | movs =>
      refine returns_bind.mpr ⟨_, _, segSi_returns e, ?_⟩
      refine returns_bind.mpr
        ⟨_, _, readSource_returns henv (h.source rfl), ?_⟩
      refine returns_bind.mpr ⟨_, _, esDi_returns e, ?_⟩
      refine returns_bind.mpr
        ⟨_, _, writeDestination_returns henv (h.destination rfl) _, ?_⟩
      refine returns_bind.mpr ⟨_, _, advance_returns _ w .DI, ?_⟩
      exact advance_returns _ w .SI
  | stos =>
      cases w with
      | OP_WIDTH_8 =>
          exact stosb_returns henv (h.destination rfl)
      | OP_WIDTH_16 =>
          refine returns_bind.mpr ⟨_, _, rfl, ?_⟩
          refine returns_bind.mpr ⟨_, _, esDi_returns e, ?_⟩
          refine returns_bind.mpr
            ⟨_, _, @writeDestination_returns W env henv e .OP_WIDTH_16
              (h.destination rfl) _, ?_⟩
          exact advance_returns _ .OP_WIDTH_16 .DI
  | lods =>
      refine returns_bind.mpr ⟨_, _, segSi_returns e, ?_⟩
      refine returns_bind.mpr
        ⟨_, _, readSource_returns henv (h.source rfl), ?_⟩
      refine returns_bind.mpr ⟨_, _, rfl, ?_⟩
      exact advance_returns _ w .SI
  | cmps =>
      refine returns_bind.mpr ⟨_, _, segSi_returns e, ?_⟩
      refine returns_bind.mpr
        ⟨_, _, readSource_returns henv (h.source rfl), ?_⟩
      refine returns_bind.mpr ⟨_, _, esDi_returns e, ?_⟩
      refine returns_bind.mpr
        ⟨_, _, readDestination_returns henv (h.destination rfl), ?_⟩
      refine returns_bind.mpr ⟨_, _, compareFlags_returns e _ _, ?_⟩
      refine returns_bind.mpr ⟨_, _, advance_returns _ w .DI, ?_⟩
      exact advance_returns _ w .SI
  | scas =>
      refine returns_bind.mpr ⟨_, _, esDi_returns e, ?_⟩
      refine returns_bind.mpr
        ⟨_, _, readDestination_returns henv (h.destination rfl), ?_⟩
      refine returns_bind.mpr ⟨_, _, rfl, ?_⟩
      refine returns_bind.mpr ⟨_, _, compareFlags_returns e _ _, ?_⟩
      exact advance_returns _ w .DI

end Element

/-!
## The loop
-/

namespace Emulator

/-- The state with another counter. -/
def withCx (v : BitVec 16) (e : Emulator W) : Emulator W :=
  { e with registers := e.registers.set .CX v }

/-- One round of the loop: a step and the counter. -/
def round (f : Emulator W -> Emulator W) (e : Emulator W) : Emulator W :=
  (f e).withCx ((f e).registers.cx - 1#16)

end Emulator

/-- How many rounds the loop makes before it finds a reason to stop. -/
structure Rounds (limit : Nat) (ends : Nat -> Bool) (n : Nat) : Prop where
  le : n ≤ limit
  goesOn : forall i, i + 1 < n -> ends i = false
  stops : n = limit ∨ 0 < n ∧ ends (n - 1) = true

theorem Rounds.zero (ends : Nat -> Bool) : Rounds 0 ends 0 :=
  ⟨Nat.le_refl 0, fun i hi => absurd hi (Nat.not_lt_zero (i + 1)),
    Or.inl rfl⟩

theorem Rounds.first {limit : Nat} {ends : Nat -> Bool} (h : ends 0 = true) :
    Rounds (limit + 1) ends 1 :=
  ⟨by omega, fun i hi => by omega, Or.inr ⟨Nat.one_pos, h⟩⟩

theorem Rounds.later {limit n : Nat} {ends : Nat -> Bool}
    (hfirst : ends 0 = false) (h : Rounds limit (fun i => ends (i + 1)) n) :
    Rounds (limit + 1) ends (n + 1) := by
  refine ⟨Nat.succ_le_succ h.le, ?_, ?_⟩
  · intro i hi
    cases i with
    | zero =>
        exact hfirst
    | succ i =>
        exact h.goesOn i (by omega)
  · rcases h.stops with hlimit | ⟨hpos, hends⟩
    · exact Or.inl (by rw [hlimit])
    · refine Or.inr ⟨Nat.succ_pos n, ?_⟩
      rwa [Nat.sub_add_cancel hpos] at hends

section Loop

variable {env : Environment W} {primitive : EmuM W Unit}
  {shouldTerminate : EmuM W Bool} {f : Emulator W -> Emulator W}
  {done : Emulator W -> Bool} {fits : Emulator W -> Prop}

theorem repLoop_returns
    (hprimitive : forall s, fits s -> Returns primitive env s () (f s))
    (hdone : forall s, Returns shouldTerminate env s (done s) s)
    (hcx : forall s, (f s).registers.cx = s.registers.cx)
    (fuel : Nat) (e : Emulator W) (hfuel : e.registers.cx.toNat ≤ fuel)
    (hfits : forall k, k < e.registers.cx.toNat ->
      (forall i, i < k -> done ((Emulator.round f)^[i + 1] e) = false) ->
      fits ((Emulator.round f)^[k] e)) :
    exists n,
      Rounds e.registers.cx.toNat
        (fun i => done ((Emulator.round f)^[i + 1] e)) n ∧
      Returns (repLoop primitive shouldTerminate fuel) env e ()
        ((Emulator.round f)^[n] e) := by
  induction fuel generalizing e with
  | zero =>
      have hzero : e.registers.cx.toNat = 0 := by omega
      rw [hzero]
      exact ⟨0, Rounds.zero _, rfl⟩
  | succ fuel ih =>
      by_cases hcount : e.registers.cx = 0#16
      · rw [hcount]
        refine ⟨0, Rounds.zero _, ?_⟩
        refine returns_bind.mpr ⟨e.registers.cx, e, rfl, ?_⟩
        rw [if_pos hcount]
        rfl
      · have hpos : e.registers.cx.toNat ≠ 0 := fun hc =>
          hcount (BitVec.eq_of_toNat_eq hc)
        have hnext : (Emulator.round f e).registers.cx.toNat + 1 =
            e.registers.cx.toNat := by
          have hvalue : (Emulator.round f e).registers.cx =
              e.registers.cx - 1#16 := by
            rw [← hcx e]
            rfl
          rw [hvalue, BitVec.toNat_sub_of_le (by
            rw [BitVec.le_def]
            exact Nat.pos_of_ne_zero hpos)]
          exact Nat.sub_add_cancel (Nat.pos_of_ne_zero hpos)
        have hstep := hprimitive e (hfits 0 (by omega) (fun i hi => by omega))
        have hround : forall n u,
            Returns
              (if done (Emulator.round f e) then pure ()
              else repLoop primitive shouldTerminate fuel) env
              (Emulator.round f e) () u ->
            u = (Emulator.round f)^[n] e ->
            Returns (repLoop primitive shouldTerminate (fuel + 1)) env e ()
              ((Emulator.round f)^[n] e) := by
          intro n u hrest hu
          rw [← hu]
          refine returns_bind.mpr ⟨e.registers.cx, e, rfl, ?_⟩
          rw [if_neg hcount]
          refine returns_bind.mpr ⟨_, _, hstep, ?_⟩
          refine returns_bind.mpr ⟨_, _, rfl, ?_⟩
          refine returns_bind.mpr ⟨_, _, rfl, ?_⟩
          exact returns_bind.mpr ⟨_, _, hdone _, hrest⟩
        rw [← hnext]
        cases hend : done (Emulator.round f e) with
        | true =>
            refine ⟨1, Rounds.first hend, hround 1 _ ?_ rfl⟩
            rw [hend]
            rfl
        | false =>
            obtain ⟨n, hrounds, hrest⟩ := ih (Emulator.round f e) (by omega)
              (fun k hk hbefore => by
                apply hfits (k + 1) (by omega)
                intro i hi
                cases i with
                | zero =>
                    exact hend
                | succ i =>
                    exact hbefore i (by omega))
            refine ⟨n + 1, hrounds.later hend, hround (n + 1) _ ?_ rfl⟩
            rw [hend]
            exact hrest

end Loop

/-!
## What the steps leave alone
-/

/-- The arithmetic flags do not include the direction. -/
theorem getFlag_df_setFlags (r : RegisterFile) (v : BitVec 16) :
    (r.setFlags v arithmeticFlags).getFlag Flag.DF = r.getFlag Flag.DF := by
  have hbit : Flag.DF = 1#16 <<< 10 := by decide
  unfold RegisterFile.getFlag RegisterFile.setFlags
  dsimp only
  rw [hbit, and_bit_bne _ (by omega), and_bit_bne _ (by omega)]
  simp [arithmeticFlags, Flag.reservedMask, Flag.validMask, Flag.stuckBits,
    Flag.CF, Flag.PF, Flag.AF, Flag.ZF, Flag.SF, Flag.OF, Flag.TF, Flag.IF,
    Flag.DF]

/-- The registers that hold segments. -/
def GPR.isSegment : GPR -> Bool
  | .ES => true
  | .CS => true
  | .SS => true
  | .DS => true
  | _ => false

namespace Emulator

variable {e : Emulator W} {w : OperandWidth}

/-- The registers that string instructions leave alone. -/
structure SameRest (e s : Emulator W) : Prop where
  get : forall x, x ∈ [GPR.DX, .BX, .SP, .BP, .ES, .CS, .SS, .DS, .IP] ->
    s.registers.get x = e.registers.get x
  df : s.registers.getFlag Flag.DF = e.registers.getFlag Flag.DF
  modrmDecoder : s.modrmDecoder = e.modrmDecoder
  defaultSegmentOverriden :
    s.defaultSegmentOverriden = e.defaultSegmentOverriden
  overrideSegment : s.overrideSegment = e.overrideSegment
  repMode : s.repMode = e.repMode
  hasRepPrefix : s.hasRepPrefix = e.hasRepPrefix
  instrLength : s.instrLength = e.instrLength
  jumpTaken : s.jumpTaken = e.jumpTaken

theorem SameRest.refl (e : Emulator W) : SameRest e e :=
  ⟨fun _ _ => rfl, rfl, rfl, rfl, rfl, rfl, rfl, rfl, rfl⟩

theorem SameRest.trans {e s t : Emulator W} (h : SameRest e s)
    (h' : SameRest s t) : SameRest e t :=
  ⟨fun x hx => (h'.get x hx).trans (h.get x hx), h'.df.trans h.df,
    h'.modrmDecoder.trans h.modrmDecoder,
    h'.defaultSegmentOverriden.trans h.defaultSegmentOverriden,
    h'.overrideSegment.trans h.overrideSegment, h'.repMode.trans h.repMode,
    h'.hasRepPrefix.trans h.hasRepPrefix,
    h'.instrLength.trans h.instrLength, h'.jumpTaken.trans h.jumpTaken⟩

theorem SameRest.operandSegment {e s : Emulator W} (h : SameRest e s) :
    s.operandSegment = e.operandSegment := by
  unfold Emulator.operandSegment
  rw [h.defaultSegmentOverriden, h.overrideSegment, h.modrmDecoder]

theorem SameRest.stride {e s : Emulator W} (h : SameRest e s)
    (w : OperandWidth) :
    s.registers.stride w = e.registers.stride w := by
  unfold RegisterFile.stride
  rw [h.df]

/-- A register that string instructions do change. -/
def changes : List GPR := [.AX, .AL, .CX, .SI, .DI]

theorem sameRest_set (e : Emulator W) {x : GPR} (hx : x ∈ changes)
    (v : BitVec 16) : SameRest e { e with registers := e.registers.set x v } := by
  refine ⟨?_, ?_, rfl, rfl, rfl, rfl, rfl, rfl, rfl⟩
  · intro y hy
    simp only [changes, List.mem_cons, List.not_mem_nil, or_false] at hx hy
    rcases hx with rfl | rfl | rfl | rfl | rfl <;>
      rcases hy with rfl | rfl | rfl | rfl | rfl | rfl | rfl | rfl | rfl <;> rfl
  · unfold RegisterFile.getFlag
    rw [RegisterFile.flags_set]

theorem sameRest_mem (e : Emulator W) (m : Memory) :
    SameRest e { e with mem := m } :=
  ⟨fun _ _ => rfl, rfl, rfl, rfl, rfl, rfl, rfl, rfl, rfl⟩

theorem sameRest_flagged (e : Emulator W) {w : OperandWidth}
    (a b : BitVec w.bits) : SameRest e (ArithmeticOp.cmp.flagged a b e) := by
  refine ⟨?_, ?_, rfl, rfl, rfl, rfl, rfl, rfl, rfl⟩
  · intro y _
    exact RegisterFile.get_setFlags _ _ _ y
  · exact getFlag_df_setFlags e.registers _

theorem sameRest_element (op : StringOp) (e : Emulator W) :
    SameRest e (e.element w op) := by
  cases op with
  | movs =>
      exact (sameRest_mem e _).trans ((sameRest_set _ (by decide) _).trans
        (sameRest_set _ (by decide) _))
  | stos =>
      exact (sameRest_mem e _).trans (sameRest_set _ (by decide) _)
  | lods =>
      refine SameRest.trans (sameRest_set e ?_ _) (sameRest_set _ (by decide) _)
      cases w <;> decide
  | cmps =>
      exact (sameRest_flagged e _ _).trans ((sameRest_set _ (by decide) _).trans
        (sameRest_set _ (by decide) _))
  | scas =>
      exact (sameRest_flagged e _ _).trans (sameRest_set _ (by decide) _)

/-!
## Where the steps go
-/

/-- The state after a number of elements. -/
def elements (w : OperandWidth) (op : StringOp) (n : Nat) (e : Emulator W) :
    Emulator W :=
  (fun s => s.element w op)^[n] e

theorem element_cx (op : StringOp) (e : Emulator W) :
    (e.element w op).registers.cx = e.registers.cx := by
  cases op with
  | lods =>
      cases w <;> rfl
  | _ =>
      rfl

theorem element_si (op : StringOp) (e : Emulator W) :
    (e.element w op).registers.si =
      if op.usesSi then e.registers.si + e.registers.stride w
      else e.registers.si := by
  cases op with
  | lods =>
      cases w <;> rfl
  | cmps =>
      have hsame := (sameRest_flagged e (e.mem.readAt w (e.sourceAddress w 0))
        (e.mem.readAt w (e.destinationAddress w 0))).stride w
      exact congrArg (e.registers.si + ·) hsame
  | _ =>
      rfl

theorem element_di (op : StringOp) (e : Emulator W) :
    (e.element w op).registers.di =
      if op.usesDi then e.registers.di + e.registers.stride w
      else e.registers.di := by
  cases op with
  | lods =>
      cases w <;> rfl
  | cmps =>
      have hsame := (sameRest_flagged e (e.mem.readAt w (e.sourceAddress w 0))
        (e.mem.readAt w (e.destinationAddress w 0))).stride w
      exact congrArg (e.registers.di + ·) hsame
  | scas =>
      have hsame := (sameRest_flagged e (e.accumulator w)
        (e.mem.readAt w (e.destinationAddress w 0))).stride w
      exact congrArg (e.registers.di + ·) hsame
  | _ =>
      rfl

theorem advanced_mem (e : Emulator W) (x : GPR) :
    (e.advanced w x).mem = e.mem := rfl

theorem advanced_flags (e : Emulator W) (x : GPR) :
    (e.advanced w x).registers.flags = e.registers.flags :=
  RegisterFile.flags_set e.registers x _

theorem advanced_ax (e : Emulator W) {x : GPR} (hx : x ∈ [GPR.SI, .DI]) :
    (e.advanced w x).registers.ax = e.registers.ax := by
  simp only [List.mem_cons, List.not_mem_nil, or_false] at hx
  rcases hx with rfl | rfl <;> rfl

theorem withMem_registers (e : Emulator W) (m : Memory) :
    (e.withMem m).registers = e.registers := rfl

theorem loaded_flags (e : Emulator W) (v : BitVec w.bits) :
    (e.loaded w v).registers.flags = e.registers.flags :=
  RegisterFile.flags_set e.registers _ _

theorem flagged_mem (e : Emulator W) (a b : BitVec w.bits) :
    (ArithmeticOp.cmp.flagged a b e).mem = e.mem := rfl

theorem flagged_ax (e : Emulator W) (a b : BitVec w.bits) :
    (ArithmeticOp.cmp.flagged a b e).registers.ax = e.registers.ax := rfl

/-- Comparisons leave memory alone. -/
theorem element_mem {op : StringOp} (hop : op.compares = true)
    (e : Emulator W) : (e.element w op).mem = e.mem := by
  cases op with
  | cmps =>
      simp only [element, advanced_mem, flagged_mem]
  | scas =>
      simp only [element, advanced_mem, flagged_mem]
  | _ =>
      cases hop

/-- Only `LODS` writes the accumulator. -/
theorem element_ax {op : StringOp} (hop : op ≠ .lods) (e : Emulator W) :
    (e.element w op).registers.ax = e.registers.ax := by
  have hSi := fun s : Emulator W => @advanced_ax W w s .SI (by decide)
  have hDi := fun s : Emulator W => @advanced_ax W w s .DI (by decide)
  cases op with
  | lods =>
      exact absurd rfl hop
  | _ =>
      simp only [element, hSi, hDi, flagged_ax, withMem_registers]

/-- Only comparisons write the flags. -/
theorem element_flags {op : StringOp} (hop : op.compares = false)
    (e : Emulator W) :
    (e.element w op).registers.flags = e.registers.flags := by
  cases op with
  | cmps =>
      cases hop
  | scas =>
      cases hop
  | _ =>
      simp only [element, advanced_flags, withMem_registers, loaded_flags]

theorem elements_succ (op : StringOp) (n : Nat) (e : Emulator W) :
    e.elements w op (n + 1) = (e.elements w op n).element w op := by
  unfold elements
  exact Function.iterate_succ_apply' _ n e

theorem sameRest_elements (op : StringOp) (n : Nat) (e : Emulator W) :
    SameRest e (e.elements w op n) := by
  induction n with
  | zero =>
      exact SameRest.refl e
  | succ n ih =>
      rw [elements_succ]
      exact ih.trans (sameRest_element op _)

theorem add_stride (x d : BitVec 16) (n : Nat) :
    x + BitVec.ofNat 16 n * d + d = x + BitVec.ofNat 16 (n + 1) * d := by
  rw [BitVec.ofNat_add, BitVec.add_mul, BitVec.one_mul, BitVec.add_assoc]

theorem elements_si (op : StringOp) (n : Nat) (e : Emulator W) :
    (e.elements w op n).registers.si =
      if op.usesSi then
        e.registers.si + BitVec.ofNat 16 n * e.registers.stride w
      else e.registers.si := by
  induction n with
  | zero =>
      rw [BitVec.zero_mul, BitVec.add_zero, ite_self]
      rfl
  | succ n ih =>
      rw [elements_succ, element_si, ih, (sameRest_elements op n e).stride w]
      split
      · exact add_stride _ _ n
      · rfl

theorem elements_di (op : StringOp) (n : Nat) (e : Emulator W) :
    (e.elements w op n).registers.di =
      if op.usesDi then
        e.registers.di + BitVec.ofNat 16 n * e.registers.stride w
      else e.registers.di := by
  induction n with
  | zero =>
      rw [BitVec.zero_mul, BitVec.add_zero, ite_self]
      rfl
  | succ n ih =>
      rw [elements_succ, element_di, ih, (sameRest_elements op n e).stride w]
      split
      · exact add_stride _ _ n
      · rfl

theorem elements_mem {op : StringOp} (hop : op.compares = true) (n : Nat)
    (e : Emulator W) : (e.elements w op n).mem = e.mem := by
  induction n with
  | zero =>
      rfl
  | succ n ih =>
      rw [elements_succ, element_mem hop, ih]

theorem elements_ax {op : StringOp} (hop : op ≠ .lods) (n : Nat)
    (e : Emulator W) :
    (e.elements w op n).registers.ax = e.registers.ax := by
  induction n with
  | zero =>
      rfl
  | succ n ih =>
      rw [elements_succ, element_ax hop, ih]

theorem elements_flags {op : StringOp} (hop : op.compares = false) (n : Nat)
    (e : Emulator W) :
    (e.elements w op n).registers.flags = e.registers.flags := by
  induction n with
  | zero =>
      rfl
  | succ n ih =>
      rw [elements_succ, element_flags hop, ih]

/-!
## The steps and the counter
-/

theorem sourceAddress_withCx (hseg : e.operandSegment.isSegment = true)
    (v : BitVec 16) (k : Nat) :
    (e.withCx v).sourceAddress w k = e.sourceAddress w k := by
  have hbase : (e.withCx v).registers.get e.operandSegment =
      e.registers.get e.operandSegment := by
    unfold withCx
    revert hseg
    generalize e.operandSegment = x
    intro hseg
    cases x with
    | ES => rfl
    | CS => rfl
    | SS => rfl
    | DS => rfl
    | _ => cases hseg
  exact congrArg (fun base => (getPhysAddr base
    (e.registers.si + BitVec.ofNat 16 k * e.registers.stride w).toNat).linear)
    hbase

theorem destinationAddress_withCx (e : Emulator W) (v : BitVec 16) (k : Nat) :
    (e.withCx v).destinationAddress w k = e.destinationAddress w k := rfl

theorem accumulator_withCx (e : Emulator W) (v : BitVec 16) :
    (e.withCx v).accumulator w = e.accumulator w := by
  cases w <;> rfl

theorem advanced_withCx (e : Emulator W) (v : BitVec 16) {x : GPR}
    (hx : x ∈ [GPR.SI, .DI]) :
    (e.withCx v).advanced w x = (e.advanced w x).withCx v := by
  simp only [List.mem_cons, List.not_mem_nil, or_false] at hx
  rcases hx with rfl | rfl <;> rfl

/-- The flags of a comparison do not depend on the counter. -/
theorem flagged_withCx (e : Emulator W) (a b : BitVec w.bits) (v : BitVec 16) :
    (ArithmeticOp.cmp.flagged a b (e.withCx v)).advanced w .DI =
      ((ArithmeticOp.cmp.flagged a b e).advanced w .DI).withCx v := rfl

theorem withCx_withCx (e : Emulator W) (u v : BitVec 16) :
    (e.withCx u).withCx v = e.withCx v := rfl

theorem loaded_withCx (e : Emulator W) (x : BitVec w.bits) (v : BitVec 16) :
    (e.withCx v).loaded w x = (e.loaded w x).withCx v := by
  cases w <;> rfl

theorem withMem_withCx (e : Emulator W) (m : Memory) (v : BitVec 16) :
    (e.withCx v).withMem m = (e.withMem m).withCx v := rfl

theorem withCx_mem (e : Emulator W) (v : BitVec 16) :
    (e.withCx v).mem = e.mem := rfl

theorem element_withCx (op : StringOp)
    (hseg : e.operandSegment.isSegment = true) (v : BitVec 16) :
    (e.withCx v).element w op = (e.element w op).withCx v := by
  have hSi := fun s : Emulator W => @advanced_withCx W w s v .SI (by decide)
  have hDi := fun s : Emulator W => @advanced_withCx W w s v .DI (by decide)
  have hsource := @sourceAddress_withCx W e w hseg v 0
  cases op <;>
    simp only [element, hsource, destinationAddress_withCx, accumulator_withCx,
      withCx_mem, withMem_withCx, loaded_withCx, flagged_withCx, hSi, hDi]

/-- The rounds of the loop are the elements, with the counter beside them. -/
theorem round_iterate (op : StringOp)
    (hseg : e.operandSegment.isSegment = true) (n : Nat) :
    (round fun s => s.element w op)^[n + 1] e =
      (e.elements w op (n + 1)).withCx
        (e.registers.cx - BitVec.ofNat 16 (n + 1)) := by
  induction n with
  | zero =>
      show (e.element w op).withCx ((e.element w op).registers.cx - 1#16) = _
      rw [element_cx]
      rfl
  | succ n ih =>
      have hseg' : (e.elements w op (n + 1)).operandSegment.isSegment =
          true := by
        rw [(sameRest_elements op (n + 1) e).operandSegment]
        exact hseg
      rw [Function.iterate_succ_apply', ih]
      simp only [round, element_withCx op hseg', withCx_withCx,
        ← elements_succ]
      congr 1
      show e.registers.cx - BitVec.ofNat 16 (n + 1) - 1#16 = _
      rw [BitVec.sub_sub, ← BitVec.ofNat_add]

/-!
## The elements that are compared
-/

/-- The element on the left of a comparison a number of steps ahead. -/
def leftElement (w : OperandWidth) (op : StringOp) (e : Emulator W) (k : Nat) :
    BitVec w.bits :=
  match op with
  | .cmps => e.mem.readAt w (e.sourceAddress w k)
  | _ => e.accumulator w

def rightElement (w : OperandWidth) (e : Emulator W) (k : Nat) :
    BitVec w.bits :=
  e.mem.readAt w (e.destinationAddress w k)

/-- Whether the equality of the elements a number of steps ahead ends the
repetition. -/
def ends (w : OperandWidth) (op : StringOp) (e : Emulator W) (k : Nat) : Bool :=
  op.compares &&
    match e.repMode with
    | .REPE => e.leftElement w op k != e.rightElement w k
    | .REPNE => e.leftElement w op k == e.rightElement w k

section Shift

variable {op : StringOp} (hseg : e.operandSegment.isSegment = true) (k : Nat)

include hseg in
theorem sourceAddress_elements (hop : op.usesSi = true) :
    (e.elements w op k).sourceAddress w 0 = e.sourceAddress w k := by
  have hsame := @sameRest_elements W w op k e
  have hmem : e.operandSegment ∈
      [GPR.DX, .BX, .SP, .BP, .ES, .CS, .SS, .DS, .IP] := by
    revert hseg
    generalize e.operandSegment = x
    cases x <;> decide
  rw [sourceAddress_zero, elements_si, if_pos hop, hsame.operandSegment,
    hsame.get _ hmem]
  rfl

theorem destinationAddress_elements (hop : op.usesDi = true) :
    (e.elements w op k).destinationAddress w 0 =
      e.destinationAddress w k := by
  have hes : (e.elements w op k).registers.es = e.registers.es :=
    (sameRest_elements op k e).get .ES (by decide)
  rw [destinationAddress_zero, elements_di, if_pos hop, hes]
  rfl

theorem accumulator_elements (hop : op ≠ .lods) :
    (e.elements w op k).accumulator w = e.accumulator w := by
  have hax := @elements_ax W w op hop k e
  unfold accumulator
  cases w with
  | OP_WIDTH_8 =>
      exact congrArg (fun x : BitVec 16 => (x &&& 0x00ff#16).setWidth 8) hax
  | OP_WIDTH_16 =>
      exact congrArg (fun x : BitVec 16 => x.setWidth 16) hax

include hseg in
theorem leftElement_elements (hop : op.compares = true) :
    (e.elements w op k).leftElement w op 0 = e.leftElement w op k := by
  cases op with
  | cmps =>
      show (e.elements w .cmps k).mem.readAt w _ = _
      rw [elements_mem rfl, sourceAddress_elements hseg k rfl]
      rfl
  | scas =>
      exact accumulator_elements k (by decide)
  | _ =>
      cases hop

theorem rightElement_elements (hop : op.compares = true) :
    (e.elements w op k).rightElement w 0 = e.rightElement w k := by
  have hdi : op.usesDi = true := by
    cases op with
    | cmps => rfl
    | scas => rfl
    | _ => cases hop
  unfold rightElement
  rw [elements_mem hop, destinationAddress_elements k hdi]

include hseg in
theorem elementFits_elements (h : e.ElementFits w op k) :
    (e.elements w op k).ElementFits w op 0 := by
  refine ⟨fun hop => ?_, fun hop => ?_⟩
  · rw [sourceAddress_elements hseg k hop]
    exact h.source hop
  · rw [destinationAddress_elements k hop]
    exact h.destination hop

end Shift

theorem flagged_arithmetic (e : Emulator W) (a b : BitVec w.bits) :
    (ArithmeticOp.cmp.flagged a b e).registers.arithmetic =
      sumFlags true w a b false :=
  arithmetic_setFlags e.registers (ArithmeticOp.cmp.flags e.registers a b) _

/-- A comparing element sets the flags of its comparison. -/
theorem element_arithmetic {op : StringOp} (hop : op.compares = true)
    (e : Emulator W) :
    (e.element w op).registers.arithmetic =
      sumFlags true w (e.leftElement w op 0) (e.rightElement w 0) false := by
  cases op with
  | cmps =>
      have hflags : (e.element w .cmps).registers.flags =
          (ArithmeticOp.cmp.flagged (e.leftElement w .cmps 0)
            (e.rightElement w 0) e).registers.flags := by
        simp only [element, advanced_flags, leftElement, rightElement]
      rw [arithmetic_congr hflags]
      exact flagged_arithmetic e _ _
  | scas =>
      have hflags : (e.element w .scas).registers.flags =
          (ArithmeticOp.cmp.flagged (e.leftElement w .scas 0)
            (e.rightElement w 0) e).registers.flags := by
        simp only [element, advanced_flags, leftElement, rightElement]
      rw [arithmetic_congr hflags]
      exact flagged_arithmetic e _ _
  | _ =>
      cases hop

theorem sumFlags_zf (w : OperandWidth) (a b : BitVec w.bits) :
    (sumFlags true w a b false).zf = (a == b) := by
  have hsub : Carry.addSub true a b false = a - b := by
    show a - b - (BitVec.ofBool false).setWidth w.bits = a - b
    have hzero : (BitVec.ofBool false).setWidth w.bits = 0 := by
      cases w <;> rfl
    rw [hzero]
    exact BitVec.sub_zero (a - b)
  show (Carry.addSub true a b false == 0) = (a == b)
  rw [hsub, Bool.eq_iff_iff, beq_iff_eq, beq_iff_eq,
    BitVec.sub_eq_iff_eq_add]
  exact Eq.congr_right (BitVec.zero_add b)

/-- The test after an element. -/
def done (op : StringOp) (e : Emulator W) : Bool :=
  op.compares && e.hasRepPrefix &&
    match e.repMode with
    | .REPE => !e.registers.getFlag Flag.ZF
    | .REPNE => e.registers.getFlag Flag.ZF

theorem done_elements {op : StringOp}
    (hseg : e.operandSegment.isSegment = true)
    (hrep : e.hasRepPrefix = true) (k : Nat) (v : BitVec 16) :
    ((e.elements w op (k + 1)).withCx v).done op = e.ends w op k := by
  unfold done ends
  cases hop : op.compares with
  | false =>
      rfl
  | true =>
      have hsame := @sameRest_elements W w op (k + 1) e
      have hzf : ((e.elements w op (k + 1)).withCx v).registers.getFlag
          Flag.ZF = (e.leftElement w op k == e.rightElement w k) := by
        have harith := congrArg ArithmeticFlags.zf
          (@element_arithmetic W w op hop (e.elements w op k))
        rw [← elements_succ, sumFlags_zf, leftElement_elements hseg k hop,
          rightElement_elements k hop] at harith
        exact harith
      have hrep' : ((e.elements w op (k + 1)).withCx v).hasRepPrefix = true :=
        hsame.hasRepPrefix.trans hrep
      have hmode : ((e.elements w op (k + 1)).withCx v).repMode =
          e.repMode := hsame.repMode
      rw [hzf, hrep', hmode]
      rfl

end Emulator

theorem shouldTerminate_returns {env : Environment W} (op : StringOp)
    (s : Emulator W) :
    Returns op.shouldTerminate env s (s.done op) s := by
  unfold StringOp.shouldTerminate Emulator.done
  cases hop : op.compares with
  | false =>
      rfl
  | true =>
      refine returns_bind.mpr
        ⟨if s.hasRepPrefix then some s.repMode else none, s, rfl, ?_⟩
      refine returns_bind.mpr ⟨s.registers.getFlag Flag.ZF, s, rfl, ?_⟩
      cases s.hasRepPrefix <;> cases s.repMode <;>
        cases s.registers.getFlag Flag.ZF <;> rfl

/-!
## Whole instructions
-/

/-- What a repeated string instruction leaves behind after a number of element
steps. -/
structure StringRun (op : StringOp) (w : OperandWidth) (e : Emulator W)
    (n : Nat) (s : Emulator W) : Prop where
  rounds : Rounds e.registers.cx.toNat (e.ends w op) n
  cx : s.registers.cx = e.registers.cx - BitVec.ofNat 16 n
  si : s.registers.si =
    if op.usesSi then
      e.registers.si + BitVec.ofNat 16 n * e.registers.stride w
    else e.registers.si
  di : s.registers.di =
    if op.usesDi then
      e.registers.di + BitVec.ofNat 16 n * e.registers.stride w
    else e.registers.di
  mem : s.mem = (e.elements w op n).mem
  ax : s.registers.ax = (e.elements w op n).registers.ax
  flags : s.registers.flags = (e.elements w op n).registers.flags
  rest : Emulator.SameRest e s

section Rounds

variable {w : OperandWidth} {e : Emulator W} (op : StringOp)
  (hseg : e.operandSegment.isSegment = true) (n : Nat)
include hseg

theorem sameRest_round : Emulator.SameRest e
    ((Emulator.round fun s => s.element w op)^[n] e) := by
  cases n with
  | zero =>
      exact Emulator.SameRest.refl e
  | succ n =>
      rw [Emulator.round_iterate op hseg]
      exact (Emulator.sameRest_elements op (n + 1) e).trans
        (Emulator.sameRest_set _ (by decide) _)

theorem round_si :
    ((Emulator.round fun s => s.element w op)^[n] e).registers.si =
      if op.usesSi then
        e.registers.si + BitVec.ofNat 16 n * e.registers.stride w
      else e.registers.si := by
  cases n with
  | zero =>
      exact Emulator.elements_si op 0 e
  | succ n =>
      rw [Emulator.round_iterate op hseg]
      exact Emulator.elements_si op (n + 1) e

theorem round_di :
    ((Emulator.round fun s => s.element w op)^[n] e).registers.di =
      if op.usesDi then
        e.registers.di + BitVec.ofNat 16 n * e.registers.stride w
      else e.registers.di := by
  cases n with
  | zero =>
      exact Emulator.elements_di op 0 e
  | succ n =>
      rw [Emulator.round_iterate op hseg]
      exact Emulator.elements_di op (n + 1) e

end Rounds

theorem stringRun_rounds (op : StringOp) (w : OperandWidth) {e : Emulator W}
    (hseg : e.operandSegment.isSegment = true) {n : Nat}
    (hrounds : Rounds e.registers.cx.toNat (e.ends w op) n) :
    StringRun op w e n
      ((Emulator.round fun s => s.element w op)^[n] e) := by
  have hrest := sameRest_round (w := w) op hseg n
  have hsi := round_si (w := w) op hseg n
  have hdi := round_di (w := w) op hseg n
  cases n with
  | zero =>
      exact ⟨hrounds, (BitVec.sub_zero e.registers.cx).symm, hsi, hdi, rfl,
        rfl, rfl, hrest⟩
  | succ n =>
      rw [Emulator.round_iterate op hseg] at hrest hsi hdi ⊢
      exact ⟨hrounds, rfl, hsi, hdi, rfl, rfl, rfl, hrest⟩

theorem isSegment_operandSegment {e : Emulator W}
    (h : e.defaultSegmentOverriden = true ->
      e.overrideSegment.isSegment = true) :
    e.operandSegment.isSegment = true := by
  unfold Emulator.operandSegment
  split
  · rename_i hoverride
    exact h hoverride
  · split <;> rfl

section Instruction

variable {env : Environment W} (henv : env.addressing = Addressing.emulator)
include henv

theorem repeated_returns (op : StringOp) (w : OperandWidth) {e : Emulator W}
    (hseg : e.operandSegment.isSegment = true)
    (hrep : e.hasRepPrefix = true)
    (hfits : forall k, k < e.registers.cx.toNat ->
      (forall i, i < k -> e.ends w op i = false) -> e.ElementFits w op k) :
    exists n s, Returns (execute (op.opcode w)) env e () s ∧
      StringRun op w e n s ∧ (e.registers.cx = 0#16 -> s = e) := by
  let f := fun s : Emulator W => s.element w op
  have hends : forall i,
      ((Emulator.round f)^[i + 1] e).done op = e.ends w op i := by
    intro i
    rw [Emulator.round_iterate op hseg]
    exact Emulator.done_elements hseg hrep i _
  have hfits' : forall k, k < e.registers.cx.toNat ->
      (forall i, i < k ->
        ((Emulator.round f)^[i + 1] e).done op = false) ->
      ((Emulator.round f)^[k] e).ElementFits w op 0 := by
    intro k hk hbefore
    have hk' := hfits k hk (fun i hi => (hends i).symm.trans (hbefore i hi))
    have helements := Emulator.elementFits_elements hseg k hk'
    cases k with
    | zero =>
        exact helements
    | succ k =>
        have hseg' : (e.elements w op (k + 1)).operandSegment.isSegment =
            true := by
          rw [(Emulator.sameRest_elements op (k + 1) e).operandSegment]
          exact hseg
        rw [Emulator.round_iterate op hseg]
        refine ⟨fun hop => ?_, helements.destination⟩
        rw [Emulator.sourceAddress_withCx hseg']
        exact helements.source hop
  obtain ⟨n, hrounds, hrun⟩ := repLoop_returns
    (fun s hs => primitive_returns henv op hs)
    (shouldTerminate_returns op) (Emulator.element_cx op) (2 ^ 16) e
    (Nat.le_of_lt e.registers.cx.isLt) hfits'
  have hrounds' : Rounds e.registers.cx.toNat (e.ends w op) n := by
    have hsame : (fun i => ((Emulator.round f)^[i + 1] e).done op) =
        e.ends w op := funext hends
    rw [← hsame]
    exact hrounds
  refine ⟨n, (Emulator.round f)^[n] e, ?_,
    stringRun_rounds op w hseg hrounds', ?_⟩
  · rw [op.execute_opcode w]
    refine returns_bind.mpr ⟨e.hasRepPrefix, e, rfl, ?_⟩
    rw [hrep]
    exact hrun
  · intro hzero
    have hn : n = 0 := by
      have hle := hrounds.le
      rw [hzero] at hle
      exact Nat.le_zero.mp hle
    rw [hn]
    rfl

end Instruction

/--
Without a prefix a string instruction is one element step.  With one it makes
the steps of the counter, or of a comparison up to the first element that ends
the repetition, one after the other.
-/
theorem string_instructions_repeat {env : Environment W}
    (henv : env.addressing = Addressing.emulator) (op : StringOp)
    (w : OperandWidth) (e : Emulator W)
    (hoverride : e.defaultSegmentOverriden = true ->
      e.overrideSegment.isSegment = true) :
    (e.hasRepPrefix = false -> e.ElementFits w op 0 ->
      Returns (execute (op.opcode w)) env e () (e.element w op)) ∧
    (e.hasRepPrefix = true ->
      (forall k, k < e.registers.cx.toNat ->
        (forall i, i < k -> e.ends w op i = false) -> e.ElementFits w op k) ->
      exists n s, Returns (execute (op.opcode w)) env e () s ∧
        StringRun op w e n s ∧
        (op.compares = false ->
          n = e.registers.cx.toNat ∧ s.registers.cx = 0#16 ∧
            s.registers.flags = e.registers.flags) ∧
        (op.compares = true ->
          s.mem = e.mem ∧
            (0 < n -> s.registers.arithmetic =
              sumFlags true w (e.leftElement w op (n - 1))
                (e.rightElement w (n - 1)) false)) ∧
        (op ≠ .lods -> s.registers.ax = e.registers.ax) ∧
        (e.registers.cx = 0#16 -> s = e)) := by
  have hseg := isSegment_operandSegment hoverride
  constructor
  · intro hrep hfits
    rw [op.execute_opcode w]
    refine returns_bind.mpr ⟨e.hasRepPrefix, e, rfl, ?_⟩
    rw [hrep]
    exact primitive_returns henv op hfits
  · intro hrep hfits
    obtain ⟨n, s, hrun, hstring, hzero⟩ :=
      repeated_returns henv op w hseg hrep hfits
    refine ⟨n, s, hrun, hstring, ?_, ?_, ?_, hzero⟩
    · intro hop
      have hn : n = e.registers.cx.toNat := by
        rcases hstring.rounds.stops with hlimit | ⟨_, hends⟩
        · exact hlimit
        · simp [Emulator.ends, hop] at hends
      refine ⟨hn, ?_, ?_⟩
      · rw [hstring.cx, hn, BitVec.ofNat_toNat, BitVec.setWidth_eq,
          BitVec.sub_self]
      · rw [hstring.flags, Emulator.elements_flags hop]
    · intro hop
      refine ⟨?_, ?_⟩
      · rw [hstring.mem, Emulator.elements_mem hop]
      · intro hpos
        have hlast := @Emulator.element_arithmetic W w op hop
          (e.elements w op (n - 1))
        rw [← Emulator.elements_succ, Nat.sub_add_cancel hpos,
          Emulator.leftElement_elements hseg _ hop,
          Emulator.rightElement_elements _ hop] at hlast
        rw [← hlast]
        exact arithmetic_congr hstring.flags
    · intro hop
      rw [hstring.ax, Emulator.elements_ax hop]

/-!
## Behind prefixes
-/

namespace Emulator

theorem isSegment_segmentPrefix {b : BitVec 8} {r : GPR}
    (h : segmentPrefix b = some r) : r.isSegment = true := by
  unfold segmentPrefix at h
  split_ifs at h
  all_goals
    cases h
    rfl

theorem isSegment_lastOf (e : Emulator W) {r : GPR} {n k : Nat}
    (h : e.lastOf segmentPrefix n k = some r) : r.isSegment = true := by
  induction k generalizing n with
  | zero =>
      cases h
  | succ k ih =>
      unfold lastOf at h
      rcases Option.or_eq_some_iff.mp h with hlater | ⟨_, hfirst⟩
      · exact ih hlater
      · exact isSegment_segmentPrefix hfirst

/-- A segment prefix names a segment register. -/
theorem atOpcode_overrideSegment (e : Emulator W) (k : Nat)
    (h : (e.atOpcode k).defaultSegmentOverriden = true) :
    (e.atOpcode k).overrideSegment.isSegment = true := by
  apply e.isSegment_lastOf (n := 0) (k := k)
  rw [<- e.atOpcode_override k]
  unfold override
  rw [if_pos h]

/-- Behind prefixes the source of a string instruction is in a segment. -/
theorem atOpcode_isSegment (e : Emulator W) (k : Nat) :
    (e.atOpcode k).operandSegment.isSegment = true :=
  isSegment_operandSegment (e.atOpcode_overrideSegment k)

theorem atOpcode_hasRepPrefix (e : Emulator W) (k : Nat) :
    (e.atOpcode k).hasRepPrefix = (e.lastOf repPrefix 0 k).isSome := by
  rw [<- e.atOpcode_rep k]
  unfold rep
  cases (e.atOpcode k).hasRepPrefix <;> rfl

theorem atOpcode_repMode {e : Emulator W} {k : Nat} {mode : RepMode}
    (h : e.lastOf repPrefix 0 k = some mode) : (e.atOpcode k).repMode = mode := by
  rw [<- e.atOpcode_rep k] at h
  unfold rep at h
  split at h
  · exact Option.some.inj h
  · cases h

theorem skipPrefixes_jumpTaken (e : Emulator W) (k : Nat) :
    (e.skipPrefixes k).jumpTaken = e.jumpTaken := by
  induction k generalizing e with
  | zero =>
      rfl
  | succ k ih =>
      unfold skipPrefixes
      rw [ih]
      unfold prefixed
      repeat' split
      all_goals rfl

/-- The state behind an instruction of `n` bytes that does not jump. -/
def passed (n : Nat) (s : Emulator W) : Emulator W :=
  { s with registers := s.registers.set .IP (s.registers.ip + BitVec.ofNat 16 n) }

end Emulator

section Instruction

variable {env : Environment W} (henv : env.addressing = Addressing.emulator)
include henv

/-- A string instruction and its prefixes make one instruction. -/
theorem emulateInsn_string (op : StringOp) (w : OperandWidth)
    {e s : Emulator W} {k : Nat} (hk : e.prefixCount = some k)
    (hshort : k < 15) (hop : e.codeByte k = op.opcode w)
    (hrun : Returns (execute (op.opcode w)) env (e.atOpcode k) () s)
    (hrest : Emulator.SameRest (e.atOpcode k) s) :
    Returns emulateInsn env e (k + 1) (s.passed (k + 1)) := by
  have hlinear : env.addressing.LinearBytes := by
    rw [henv]
    exact Addressing.linearBytes_emulator
  have hlength : s.instrLength = k + 1 :=
    hrest.instrLength.trans (e.atOpcode_same k).2.2
  have hjump : s.jumpTaken = false :=
    hrest.jumpTaken.trans (e.started.skipPrefixes_jumpTaken k)
  have hreject : Returns rejectLong env s () s := by
    refine returns_bind.mpr ⟨s.instrLength, s, rfl, ?_⟩
    rw [if_neg (by omega)]
    rfl
  have hadvance : Returns advanceIp env s () (s.passed (k + 1)) := by
    refine returns_bind.mpr ⟨s.jumpTaken, s, rfl, ?_⟩
    rw [hjump, <- hlength]
    rfl
  rw [emulateInsn_eq]
  refine returns_bind.mpr ⟨_, _, startInsn_skip hlinear e hk, ?_⟩
  rw [hop]
  refine returns_bind.mpr ⟨(), s, hrun, ?_⟩
  refine returns_bind.mpr ⟨(), s, hreject, ?_⟩
  refine returns_bind.mpr ⟨(), _, hadvance, ?_⟩
  rw [<- hlength]
  rfl

/-- The last repetition prefix says how a string instruction is repeated, and
without one it is not. -/
theorem prefixed_string_repeats (op : StringOp) (w : OperandWidth)
    {e : Emulator W} {k : Nat} (hk : e.prefixCount = some k) (hshort : k < 15)
    (hop : e.codeByte k = op.opcode w) :
    (e.lastOf repPrefix 0 k = none -> (e.atOpcode k).ElementFits w op 0 ->
      Returns emulateInsn env e (k + 1)
        (((e.atOpcode k).element w op).passed (k + 1))) ∧
    (forall mode, e.lastOf repPrefix 0 k = some mode ->
      (forall i, i < e.registers.cx.toNat ->
        (forall j, j < i -> (e.atOpcode k).ends w op j = false) ->
        (e.atOpcode k).ElementFits w op i) ->
      (e.atOpcode k).repMode = mode ∧
        exists n s, Returns emulateInsn env e (k + 1) (s.passed (k + 1)) ∧
          StringRun op w (e.atOpcode k) n s) := by
  obtain ⟨hregs, -, -⟩ := e.atOpcode_same k
  constructor
  · intro hnone hfits
    refine emulateInsn_string henv op w hk hshort hop ?_
      (Emulator.sameRest_element op _)
    rw [op.execute_opcode w]
    refine returns_bind.mpr ⟨(e.atOpcode k).hasRepPrefix, _, rfl, ?_⟩
    rw [e.atOpcode_hasRepPrefix, hnone]
    exact primitive_returns henv op hfits
  · intro mode hmode hfits
    have hrep : (e.atOpcode k).hasRepPrefix = true := by
      rw [e.atOpcode_hasRepPrefix, hmode]
      rfl
    rw [<- hregs] at hfits
    obtain ⟨n, s, hrun, hstring, -⟩ :=
      repeated_returns henv op w (e.atOpcode_isSegment k) hrep hfits
    exact ⟨Emulator.atOpcode_repMode hmode, n, s,
      emulateInsn_string henv op w hk hshort hop hrun hstring.rest, hstring⟩

end Instruction

/-- A state before `REPE CMPSB` over five bytes, the third of which differs. -/
def beforeCmps : Emulator Unit :=
  { (Emulator.fresh () fun a => if a = 0x12#20 then 2#8 else 1#8 :
      Emulator Unit) with
    registers :=
      { RegisterFile.reset with cx := 5#16, si := 0x10#16, di := 0x20#16 }
    repMode := .REPE
    hasRepPrefix := true }

/-- The comparison stops after the third byte. -/
theorem string_instructions_repeat_cmps :
    exists s, Returns (execute 0xa6#8) Environment.bare beforeCmps () s ∧
      s.registers.cx = 2#16 ∧ s.registers.si = 0x13#16 ∧
      s.registers.getFlag Flag.ZF = false := by
  obtain ⟨n, s, hrun, hstring, -, hcompare, -⟩ :=
    (@string_instructions_repeat Unit Environment.bare rfl .cmps .OP_WIDTH_8
      beforeCmps (by decide)).2 rfl (by
        intro k hk _
        have hk' : k < 5 := hk
        interval_cases k <;> exact ⟨fun _ => by decide, fun _ => by decide⟩)
  have hle : n ≤ 5 := hstring.rounds.le
  have hn : n = 3 := by
    have hgoes := hstring.rounds.goesOn
    have hstops := hstring.rounds.stops
    interval_cases n
    · exact absurd hstops (by decide)
    · exact absurd hstops (by decide)
    · exact absurd hstops (by decide)
    · rfl
    · exact absurd (hgoes 2 (by decide)) (by decide)
    · exact absurd (hgoes 2 (by decide)) (by decide)
  subst hn
  refine ⟨s, hrun, ?_, ?_, ?_⟩
  · rw [hstring.cx]
    decide
  · rw [hstring.si]
    decide
  · have hflags := congrArg ArithmeticFlags.zf
      ((hcompare rfl).2 (by decide))
    exact hflags.trans (by decide)

end Sim
end S80x86
