import S80x86.Isa.ArithmeticUnits
import S80x86.Isa.EmulatorHandlers

/-!
# The accumulator in the emulator

The handlers of the instructions on the accumulator, and of the ones that
count a register up or down.
-/

open Foundation Foundation.Effect

namespace S80x86
namespace Isa

open Rtl (SR)
open Rtl.GPR
open scoped Rtl.Machine.Eval

variable {W : Type} {env : Sim.Environment W} {v : View}

/-!
## Operands
-/

/-- Whether an operand is a byte. -/
def isByte : Sim.OperandWidth -> Bool
  | .OP_WIDTH_8 => true
  | .OP_WIDTH_16 => false

@[simps] def View.setReg (v : View) (is8Bit : Bool) (r : BitVec 3)
    (x : BitVec 16) : View :=
  { v with state := v.state.setReg is8Bit r x }

@[simps] def View.place (v : View) (is8Bit : Bool) (n : SR)
    (offset x : BitVec 16) : View :=
  { v with state := v.state.place is8Bit n offset x }

theorem acts_getAccumulator (w : Sim.OperandWidth) :
    Acts view env (Sim.get (Sim.accumulator w)) v
      (v.state.gprs.read (isByte w) AX) v := by
  cases w with
  | OP_WIDTH_8 => exact acts_getByte AL
  | OP_WIDTH_16 => exact acts_getWord AX

theorem acts_setAccumulator (w : Sim.OperandWidth) (x : BitVec 16) :
    Acts view env (Sim.set (Sim.accumulator w) x) v ()
      (v.setReg (isByte w) AX x) := by
  cases w with
  | OP_WIDTH_8 => exact acts_setByte AL x
  | OP_WIDTH_16 => exact acts_setWord AX x

/-- The operation on operands of a width. -/
theorem apply_isByte (op : Arith) {w : Sim.OperandWidth} (carry : Bool)
    (a : BitVec 16) (x : BitVec w.bits) :
    op.apply (isByte w) carry a (x.setWidth 16) =
      ((op.outcome carry (a.setWidth w.bits) x).value.setWidth 16,
        (op.outcome carry (a.setWidth w.bits) x).conditions.word) := by
  have hback : (x.setWidth 16).setWidth w.bits = x := by
    rw [BitVec.setWidth_setWidth_of_le x (by cases w <;> decide),
      BitVec.setWidth_eq]
  have happly (y : BitVec 16) : op.apply (isByte w) carry a y =
      ((op.outcome carry (a.setWidth w.bits) (y.setWidth w.bits)).value.setWidth
        16, (op.outcome carry (a.setWidth w.bits)
          (y.setWidth w.bits)).conditions.word) := by
    cases w <;> rfl
  rw [happly, hback]

/-!
## Arithmetic
-/

section Arithmetic

/-- A helper, and what its flags do to the view. -/
theorem helper_acts (op : Arith) (w : Sim.OperandWidth) (a b : BitVec w.bits)
    {mask valid : BitVec 16} (hmask : mask &&& Flag.all = valid)
    (hvalid : valid &&& Flag.arithmetic = valid)
    (haf : valid.getLsbD Rtl.Flag.AF_IDX = true ->
      op.mask.getLsbD Rtl.Flag.AF_IDX = true) (e : Sim.Emulator W) :
    exists f, Returns (op.helper w a b) env e (f, (op.outcome
        ((view e).state.flag Rtl.Flag.CF_IDX) a b).value) e ∧
      Acts view env (Sim.setFlags f mask) (view e) ()
        ((view e).setFlags valid (op.outcome
          ((view e).state.flag Rtl.Flag.CF_IDX) a b).conditions.word) := by
  have hcarry : e.registers.getFlag Sim.Flag.CF =
      (view e).state.flag Rtl.Flag.CF_IDX :=
    @getFlag_eq W Sim.Flag.CF Rtl.Flag.CF_IDX (by decide) rfl rfl e
  obtain ⟨f, hhelper, hshows⟩ := @helper_returns W env op w e a b
  rw [hcarry] at hhelper hshows
  refine ⟨f, hhelper, (acts_setFlags f hmask).congr ?_⟩
  unfold View.setFlags State.setFlags
  rw [(hshows.mono haf).withFlags_eq hvalid]

/-- A helper and the flags after it, whatever is done with the result. -/
theorem acts_helper (op : Arith) (w : Sim.OperandWidth) {a b : BitVec w.bits}
    {mask valid : BitVec 16} (body : BitVec w.bits -> Sim.EmuM W Unit)
    {v' : View} (hmask : mask &&& Flag.all = valid)
    (hvalid : valid &&& Flag.arithmetic = valid)
    (haf : valid.getLsbD Rtl.Flag.AF_IDX = true ->
      op.mask.getLsbD Rtl.Flag.AF_IDX = true)
    (h : Acts view env
      (body (op.outcome (v.state.flag Rtl.Flag.CF_IDX) a b).value)
      (v.setFlags valid
        (op.outcome (v.state.flag Rtl.Flag.CF_IDX) a b).conditions.word)
      () v') :
    Acts view env (op.helper w a b >>= fun out =>
      Sim.setFlags out.1 mask >>= fun _ => body out.2) v () v' := by
  intro e he
  subst he
  obtain ⟨f, hhelper, hflags⟩ :=
    @helper_acts W env op w a b _ _ hmask hvalid haf e
  obtain ⟨e₁, hset, hview⟩ := hflags e rfl
  obtain ⟨e', hbody, hview'⟩ := h e₁ hview
  exact ⟨e', returns_bind.mpr ⟨_, _, hhelper,
    returns_bind.mpr ⟨_, _, hset, hbody⟩⟩, hview'⟩

variable (htaken : v.taken = false)
include htaken

theorem handles_arith {op : Arith} {w : Sim.OperandWidth} {mask : BitVec 16}
    (hmask : mask &&& Flag.all = op.mask) {n : Nat} {x : BitVec w.bits}
    (hfetch : Acts view env (Sim.fetch w) v x (v.fetched n)) :
    Handles env (Sim.aluAcc w (op.helper w) mask op.stores) v n
      (.arith op (isByte w) (x.setWidth 16)) := by
  have happly := apply_isByte op (v.state.flag Rtl.Flag.CF_IDX)
    (v.state.gprs.read (isByte w) AX) x
  have hbody (r : BitVec w.bits) (v : View) : Acts view env
      (if op.stores then Sim.set (Sim.accumulator w) (r.setWidth 16)
        else pure ()) v ()
      (if op.stores then v.setReg (isByte w) AX (r.setWidth 16) else v) := by
    cases op.stores with
    | false => exact acts_pure ()
    | true => exact acts_setAccumulator w _
  refine ⟨_, (acts_getAccumulator w).bind (hfetch.bind
    (acts_helper (v := v.fetched n) op w
      (fun r => if op.stores then Sim.set (Sim.accumulator w) (r.setWidth 16)
        else pure ()) hmask op.mask_arithmetic id (hbody _ _))), ?_, ?_⟩
  · cases hstores : op.stores with
    | false =>
        ext1 <;> simp_all
    | true =>
        ext1 <;> simp_all
  · cases op.stores <;> rfl

theorem handles_count (neg : Bool) {r : BitVec 3}
    (hr : v.opcode.extractLsb' 0 3 = r) :
    Handles env (Sim.incDecReg
      ((if neg then Arith.sub else Arith.add).helper .OP_WIDTH_16)) v 0
      (.count neg r) := by
  subst hr
  have hmask : Sim.incDecFlags &&& Flag.all = Flag.counting := by decide
  cases neg with
  | false =>
      refine ⟨_, acts_opcodeReg.bind ((acts_getWord _).bind
        (acts_helper .add .OP_WIDTH_16 (Sim.set (.word _)) hmask (by decide) (fun _ => rfl)
          (acts_setWord _ _))), ?_, rfl⟩
      ext1 <;> simp [htaken, Arith.outcome]
  | true =>
      refine ⟨_, acts_opcodeReg.bind ((acts_getWord _).bind
        (acts_helper .sub .OP_WIDTH_16 (Sim.set (.word _)) hmask (by decide) (fun _ => rfl)
          (acts_setWord _ _))), ?_, rfl⟩
      ext1 <;> simp [htaken, Arith.outcome]

end Arithmetic

/-!
## Memory
-/

section Memory

theorem byte_fits (segment offset : BitVec 16) :
    (Sim.getPhysAddr segment offset.toNat).linear +
      Sim.OperandWidth.bytes .OP_WIDTH_8 ≤ Sim.memorySize :=
  Nat.mod_lt _ (by decide)

theorem acts_dataSegment (hplain : v.plain = true) :
    Acts view env (Sim.getSegment false) v .DS v := by
  intro e he
  subst he
  refine ⟨e, ?_, rfl⟩
  have hnone : (e.defaultSegmentOverriden || e.hasRepPrefix ||
      e.modrmDecoder.isDecoded) = false := by
    simpa [view] using hplain
  simp only [Bool.or_eq_false_iff] at hnone
  have hsegment : e.operandSegment = .DS := by
    unfold Sim.Emulator.operandSegment Sim.ModRMDecoder.usesBpAsBase
    rw [hnone.1.1, hnone.2]
    rfl
  rw [<- hsegment]
  exact Sim.getSegment_returns

theorem acts_dataAddr (hplain : v.plain = true) (offset : BitVec 16) :
    Acts view env (Sim.dataAddr offset.toNat) v
      (Sim.getPhysAddr (v.state.segments .DS) offset.toNat) v :=
  (acts_dataSegment hplain).bind ((acts_getSegment .DS).bind (acts_pure _))

variable (henv : env.addressing = Sim.Addressing.emulator)
include henv

omit henv in
/-- An element is not wider than its width. -/
theorem element_setWidth (s : State) (w : Sim.OperandWidth) (n : SR)
    (offset : BitVec 16) :
    ((s.element (isByte w) n offset).setWidth w.bits).setWidth 16 =
      s.element (isByte w) n offset := by
  cases w with
  | OP_WIDTH_8 =>
      have hback (b : BitVec 8) :
          ((b.setWidth 16).setWidth 8).setWidth 16 = b.setWidth 16 := by
        rw [BitVec.setWidth_setWidth_of_le b (by decide), BitVec.setWidth_eq]
      exact hback _
  | OP_WIDTH_16 =>
      exact (BitVec.setWidth_eq _).trans (BitVec.setWidth_eq _)

/-- An element of a width is read. -/
theorem acts_readMem (w : Sim.OperandWidth) (n : SR) {offset : BitVec 16}
    (h : isByte w = false ->
      Rtl.Bus.linear (v.state.segments n) offset ≠ 0xfffff#20) :
    Acts view env
      (Sim.readMem w (Sim.getPhysAddr (v.state.segments n) offset.toNat)) v
      ((v.state.element (isByte w) n offset).setWidth w.bits) v := by
  cases w with
  | OP_WIDTH_8 =>
      intro e he
      subst he
      refine ⟨e, ?_, rfl⟩
      have hload : (view e).state.element true n offset =
          (e.mem.readAt .OP_WIDTH_8 (Sim.getPhysAddr
            ((view e).state.segments n) offset.toNat).linear).setWidth 16 :=
        congrArg (fun b => b.setWidth 16) (Sim.loadByte_eq e.mem _ offset)
      have hback (b : BitVec 8) : (b.setWidth 16).setWidth 8 = b := by
        rw [BitVec.setWidth_setWidth_of_le b (by decide), BitVec.setWidth_eq]
      change Returns _ env e (((view e).state.element true n offset).setWidth 8)
        e
      rw [hload]
      change Returns _ env e ((BitVec.setWidth 16 (_ : BitVec 8)).setWidth 8) e
      rw [hback]
      exact Sim.readMem_returns henv e (byte_fits _ _)
  | OP_WIDTH_16 =>
      have hread := acts_read16 henv (v := v) (h rfl)
      rw [<- BitVec.setWidth_eq (Rtl.Machine.loadWord _ _ _)] at hread
      exact hread

/-- An element of a width is written. -/
theorem acts_writeMem (w : Sim.OperandWidth) (n : SR) {offset : BitVec 16}
    (x : BitVec 16)
    (h : isByte w = false ->
      Rtl.Bus.linear (v.state.segments n) offset ≠ 0xfffff#20) :
    Acts view env
      (Sim.writeMem w (Sim.getPhysAddr (v.state.segments n) offset.toNat)
        (x.setWidth w.bits)) v () (v.place (isByte w) n offset x) := by
  cases w with
  | OP_WIDTH_8 =>
      intro e he
      subst he
      refine ⟨_, Sim.writeMem_returns henv e _ (byte_fits _ _), ?_⟩
      have hstore : Rtl.Machine.storeByte e.mem.mem ((view e).state.segments n)
          offset (x.extractLsb' 0 8) =
            (e.mem.writeAt .OP_WIDTH_8 (Sim.getPhysAddr
              ((view e).state.segments n) offset.toNat).linear
                (x.setWidth 8)).mem := by
        have hlow : x.extractLsb' 0 8 = x.setWidth 8 := Sim.low_eq_setWidth x
        unfold Rtl.Machine.storeByte
        rw [Sim.linear_eq, hlow]
        rfl
      ext1
      · ext1
        · rfl
        · rfl
        · rfl
        · rfl
        · exact hstore.symm
      all_goals rfl
  | OP_WIDTH_16 =>
      have hwrite := acts_write16 henv (v := v) x (h rfl)
      rw [<- BitVec.setWidth_eq x] at hwrite
      exact hwrite

variable (htaken : v.taken = false) (hplain : v.plain = true)
include htaken hplain

theorem handles_load {w : Sim.OperandWidth} {x : BitVec 16}
    (hfetch : Acts view env Sim.fetch16bit v x (v.fetched 2))
    (h : isByte w = false ->
      Rtl.Bus.linear (v.state.segments .DS) x ≠ 0xfffff#20) :
    Handles env (Sim.movAccMem w) v 2 (.load (isByte w) x) := by
  refine ⟨_, hfetch.bind ((acts_dataAddr (v := v.fetched 2) hplain x).bind
    ((acts_readMem henv (v := v.fetched 2) w .DS h).bind
      (acts_setAccumulator w _))), ?_, rfl⟩
  have helement := element_setWidth v.state w .DS x
  ext1 <;> simp [htaken, helement]
  rfl

theorem handles_save {w : Sim.OperandWidth} {x : BitVec 16}
    (hfetch : Acts view env Sim.fetch16bit v x (v.fetched 2))
    (h : isByte w = false ->
      Rtl.Bus.linear (v.state.segments .DS) x ≠ 0xfffff#20) :
    Handles env (Sim.movMemAcc w) v 2 (.save (isByte w) x) := by
  refine ⟨_, hfetch.bind ((acts_getAccumulator (v := v.fetched 2) w).bind
    ((acts_dataAddr (v := v.fetched 2) hplain x).bind
      (acts_writeMem henv (v := v.fetched 2) w .DS _ h))), ?_, rfl⟩
  ext1 <;> simp [htaken]

end Memory

end Isa
end S80x86
