import S80x86.Isa.CoreArithmetic
import S80x86.Isa.CoreCalls
import S80x86.Isa.CoreMoves
import S80x86.Isa.CoreStack
import S80x86.Isa.CoreStrings
import S80x86.Rtl.InstructionRuns

/-!
# The core refines the instructions

Every instruction without a ModRM byte, from the decoded instruction to the
end of its microprogram.
-/

namespace S80x86
namespace Isa

open Rtl Rtl.GPR Rtl.Machine
open Foundation.Clocked

/-- What the decoder makes of the bytes after the opcode. -/
def Immediate.Decoded (i : Instruction) : Immediate -> Prop
  | .none => True
  | .byte v => i.immediates0 = v.signExtend 16
  | .word v => i.immediates0 = v
  | .far segment offset =>
      i.immediates0 = offset ∧ i.immediates1 = segment

/-- A byte register takes no more than the byte. -/
theorem exec_movByte (s : State) (r : BitVec 3) (v : BitVec 8) :
    (Operation.mov true r (v.signExtend 16)).exec s =
      (Operation.mov true r (v.setWidth 16)).exec s := by
  change s.setReg true r (v.signExtend 16) = s.setReg true r (v.setWidth 16)
  have hlow := Eval.low_signExtend v
  have hzero : (v.setWidth 16).extractLsb' 0 8 = v := by
    apply BitVec.eq_of_getLsbD_eq
    intro i hi
    simp [hi]
  unfold State.setReg Gprs.write
  simp only [hlow, hzero, if_true]

/-- An operation on bytes sees no more than the byte. -/
theorem exec_arithByte (s : State) (op : Arith) (v : BitVec 8) :
    (Operation.arith op true (v.signExtend 16)).exec s =
      (Operation.arith op true (v.setWidth 16)).exec s := by
  have hlow : (v.signExtend 16).setWidth 8 = (v.setWidth 16).setWidth 8 := by
    have hbyte : (v.signExtend 16).setWidth 8 = v :=
      (Sim.low_eq_setWidth _).symm.trans (Eval.low_signExtend v)
    rw [hbyte, BitVec.setWidth_setWidth_of_le v (by decide), BitVec.setWidth_eq]
  have happly (carry : Bool) (x : BitVec 16) :
      op.apply true carry x (v.signExtend 16) =
        op.apply true carry x (v.setWidth 16) := by
    have hoperand : (v.signExtend 16).setWidth (width true) =
        (v.setWidth 16).setWidth (width true) := hlow
    unfold Arith.apply
    rw [hoperand]
  simp only [Operation.exec, happly]

/-- The lowest bit of the opcode is the width. -/
theorem Arith.opcode_width (op : Arith) :
    op.opcode.getLsbD 0 = false ∧ (op.opcode + 1#8).getLsbD 0 = true := by
  cases op <;> decide

section Encoded

variable {opcode : BitVec 8} {immediate : Immediate} {op : Operation}

/-- The microprogram of an opcode does what the instruction is for. -/
theorem performs_encoded (h : Encodes opcode immediate op) {m : Machine}
    (hnew : m.newIp = none) (hopcode : m.insn.opcode = opcode)
    (himmediate : immediate.Decoded m.insn) (hplain : Unprefixed m) :
    Performs opcode.toNat m op := by
  cases h with
  | pushEs => exact performs_pushSegment m .ES hnew
  | pushCs => exact performs_pushSegment m .CS hnew
  | pushSs => exact performs_pushSegment m .SS hnew
  | pushDs => exact performs_pushSegment m .DS hnew
  | popEs => exact @performs_popSegment m .ES (by decide) hnew
  | popSs => exact @performs_popSegment m .SS (by decide) hnew
  | popDs => exact @performs_popSegment m .DS (by decide) hnew
  | pushWord r => exact performs_pushWord m r hnew
  | popWord r => exact performs_popWord m r hnew
  | pusha => exact performs_pusha m hnew
  | popa => exact performs_popa m hnew
  | pushImmediate v =>
      rw [<- show m.insn.immediates0 = v from himmediate]
      exact performs_pushImmediate m hnew
  | pushSigned v =>
      rw [<- show m.insn.immediates0 = _ from himmediate]
      exact performs_pushSigned m hnew
  | jcc condition v =>
      rw [<- show m.insn.immediates0 = _ from himmediate]
      exact performs_jcc m hnew condition hopcode
  | xchg r => exact performs_xchg m hnew r
  | cbw => exact performs_cbw m hnew
  | cwd => exact performs_cwd m hnew
  | callFar cs ip =>
      rw [<- show m.insn.immediates0 = _ from himmediate.1,
        <- show m.insn.immediates1 = _ from himmediate.2]
      exact performs_callFar m hnew (by rw [hplain.override]; rfl)
        hplain.bpAsBase
  | pushf => exact performs_pushf m hnew
  | popf => exact performs_popf m hnew
  | sahf => exact performs_sahf m hnew
  | lahf => exact performs_lahf m hnew
  | movByte r v =>
      have hmov := performs_movByte m hnew r
      rw [show m.insn.immediates0 = _ from himmediate] at hmov
      unfold Performs at hmov
      rw [exec_movByte] at hmov
      exact hmov
  | movWord r v =>
      rw [<- show m.insn.immediates0 = v from himmediate]
      exact performs_movWord m hnew r
  | retDiscard v =>
      rw [<- show m.insn.immediates0 = v from himmediate]
      exact performs_retDiscard m hnew
  | ret => exact performs_ret m hnew
  | leave => exact performs_leave m hnew
  | retFarDiscard v =>
      rw [<- show m.insn.immediates0 = v from himmediate]
      exact performs_retFarDiscard m hnew
  | retFar => exact performs_retFar m hnew
  | int3 => exact performs_int3 m hnew
  | int n =>
      have hn : m.insn.immediates0.extractLsb' 0 8 = n := by
        rw [show m.insn.immediates0 = _ from himmediate]
        exact Eval.low_signExtend n
      rw [<- hn]
      exact performs_int m hnew
  | into => exact performs_into m hnew hopcode
  | iret => exact performs_iret m hnew
  | setalc => exact performs_setalc m hnew
  | loopne v =>
      rw [<- show m.insn.immediates0 = _ from himmediate]
      exact performs_loopne m hnew
  | loope v =>
      rw [<- show m.insn.immediates0 = _ from himmediate]
      exact performs_loope m hnew
  | loop v =>
      rw [<- show m.insn.immediates0 = _ from himmediate]
      exact performs_loop m hnew
  | jcxz v =>
      rw [<- show m.insn.immediates0 = _ from himmediate]
      exact performs_jcxz m hnew
  | call v =>
      rw [<- show m.insn.immediates0 = v from himmediate]
      exact performs_call m hnew
  | jmp v =>
      rw [<- show m.insn.immediates0 = v from himmediate]
      exact performs_jmp m hnew
  | jmpFar cs ip =>
      rw [<- show m.insn.immediates0 = _ from himmediate.1,
        <- show m.insn.immediates1 = _ from himmediate.2]
      exact performs_jmpFar m hnew
  | jmpShort v =>
      rw [<- show m.insn.immediates0 = _ from himmediate]
      exact performs_jmpShort m hnew
  | cmc => exact performs_cmc m hnew
  | clc => exact performs_update m hnew updates_carry (fun _ => rfl)
  | stc => exact performs_update m hnew updates_carry (fun _ => rfl)
  | cli => exact performs_update m hnew updates_interrupt (fun _ => rfl)
  | sti => exact performs_update m hnew updates_interrupt (fun _ => rfl)
  | cld => exact performs_update m hnew updates_direction (fun _ => rfl)
  | std => exact performs_update m hnew updates_direction (fun _ => rfl)
  | arithByte op v =>
      have hperforms := @performs_arith m op true _ _ _ hnew
        (by rw [hopcode, op.opcode_width.1]; rfl)
        (fun c => (arith_program op c).1)
      rw [show m.insn.immediates0 = _ from himmediate] at hperforms
      unfold Performs at hperforms
      rw [exec_arithByte] at hperforms
      exact hperforms
  | arithWord op v =>
      rw [<- show m.insn.immediates0 = v from himmediate]
      exact performs_arith m op hnew
        (by rw [hopcode, op.opcode_width.2]; rfl)
        (fun c => (arith_program op c).2)
  | inc r => exact performs_count m false r hnew
  | dec r => exact performs_count m true r hnew
  | loadByte v =>
      rw [<- show m.insn.immediates0 = v from himmediate]
      exact performs_load hnew hplain (by rw [hopcode]; rfl)
        (fun c => (load_program c).1)
  | loadWord v =>
      rw [<- show m.insn.immediates0 = v from himmediate]
      exact performs_load hnew hplain (by rw [hopcode]; rfl)
        (fun c => (load_program c).2)
  | saveByte v =>
      rw [<- show m.insn.immediates0 = v from himmediate]
      exact performs_save hnew hplain (by rw [hopcode]; rfl)
        (fun c => (save_program c).1)
  | saveWord v =>
      rw [<- show m.insn.immediates0 = v from himmediate]
      exact performs_save hnew hplain (by rw [hopcode]; rfl)
        (fun c => (save_program c).2)
  | movsb => exact (performs_movs hplain hnew).1
  | movsw => exact (performs_movs hplain hnew).2
  | cmpsb => exact (performs_cmps hplain hnew).1
  | cmpsw => exact (performs_cmps hplain hnew).2
  | stosb => exact (performs_stos hplain hnew).1
  | stosw => exact (performs_stos hplain hnew).2
  | lodsb => exact (performs_lods hplain hnew).1
  | lodsw => exact (performs_lods hplain hnew).2
  | scasb => exact (performs_scas hplain hnew).1
  | scasw => exact (performs_scas hplain hnew).2

/-- None of the opcodes has a rule of its own in the sequencer. -/
theorem Encodes.plain (h : Encodes opcode immediate op) :
    Core.plainOpcode opcode = true := by
  have hall : forall b, b ∈ opcodes -> Core.plainOpcode b = true := by
    decide +kernel
  exact hall opcode h.mem_opcodes

/-- The core that starts an instruction ends it in the state that the
instruction is for, whatever the memory and the interrupts do meanwhile. -/
theorem core_executes (h : Encodes opcode immediate op) {s : Core}
    {inputs : Nat -> Core.Input} (hs : s.Starts opcode)
    (himmediate : immediate.Decoded s.curInstruction)
    (hplain : Unprefixed s.machine)
    (hready : Recurs (fun i => i.ready = true) inputs) :
    exists x, s.Executes inputs x ∧ ofArch x = op.exec (ofMachine s.machine) := by
  rcases performs_encoded h hs.newIp hs.opcode himmediate hplain with
    ⟨x, hretires, hx⟩
  exact ⟨x, hs.executes h.plain hretires hready, hx⟩

end Encoded

/-- A core that starts `POPA` with the stack at the end of its segment. -/
def coreBeforePopa : Core :=
  Core.atStart { Instruction.zero with opcode := 0x61#8, length := 1#4 }
    { gprs := fun _ => 0xfffe#16, segments := fun _ => 0x1000#16
      flags := ⟨false, false, false, false, false, false, false, false, false⟩
      ip := 0#16, mem := fun _ => 0x61#8 }

theorem core_executes_popa :
    exists x, coreBeforePopa.Executes (fun _ => Core.undisturbed) x ∧
      ofArch x = Operation.popa.exec (ofMachine coreBeforePopa.machine) :=
  core_executes .popa (Core.atStart_starts _ _) trivial ⟨rfl, rfl, rfl⟩
    Core.undisturbed_recurs

end Isa
end S80x86
