import S80x86.Isa.CoreTransfers

/-!
# Calls, returns and interrupts in the core

The microprograms that leave the instruction pointer on the stack or take it
from there.
-/

namespace S80x86
namespace Isa

open Rtl Rtl.GPR Rtl.Machine
open scoped Rtl.Machine.Eval

variable (m : Machine) (hnew : m.newIp = none)

/-!
## Calls and far jumps
-/

def callFirst : List Microinstruction :=
  { raSel := SP, next := 0x16f } :: Microcode.callWords.take 2

def callLast : Microinstruction :=
  { segment := .SS, segmentForce := true, memWrite := true, aSel := .IP
    bSel := .IMMEDIATE, aluOp := .ADD, loadIp := true
    nextInstruction := true, next := 0x172 }

theorem call_program (c : Control) :
    c.program 3 0xe8 = some (callFirst, callLast) := rfl

include hnew in
theorem performs_call : Performs 0xe8 m (.call m.insn.immediates0) := by
  refine ⟨_, retires_of_program (call_program m.control), ?_⟩
  ext1 <;> simp [callFirst, callLast, Microcode.callWords, hnew]

def jmpFarFirst : Microinstruction :=
  { bSel := .IMMEDIATE, aluOp := .SELB, loadIp := true, next := 0x25a }

/-- The word that takes the segment of a far pointer. -/
def segmentLast (next : Nat) : Microinstruction :=
  { bSel := .IMMEDIATE2, aluOp := .SELB, segmentWrEn := true
    segmentForce := true, segment := .CS, nextInstruction := true
    next := next }

theorem jmpFar_program (c : Control) :
    c.program 1 0xea = some ([jmpFarFirst], segmentLast 0x25b) := rfl

include hnew in
theorem performs_jmpFar :
    Performs 0xea m (.jmpFar m.insn.immediates1 m.insn.immediates0) := by
  refine ⟨_, retires_of_program (jmpFar_program m.control), ?_⟩
  ext1 <;> simp [jmpFarFirst, segmentLast, hnew]

def callFarFirst : List Microinstruction :=
  { mdrWrite := true, bSel := .IMMEDIATE, aluOp := .SELB, loadIp := true
    segment := .CS, next := 0x178 } ::
      (Microcode.callWords.drop 9).take 6

theorem callFar_program (c : Control) :
    c.program 7 0x9a = some (callFarFirst, segmentLast 0x17f) := rfl

include hnew in
/-- The segment that a far call pushes is the one an override names. -/
theorem performs_callFar (hsegment : m.override.getD .CS = .CS)
    (hbase : m.modrm.bpAsBase = false) :
    Performs 0x9a m (.callFar m.insn.immediates1 m.insn.immediates0) := by
  refine ⟨_, retires_of_program (callFar_program m.control), ?_⟩
  ext1 <;> simp [callFarFirst, segmentLast, Microcode.callWords, hnew, hbase,
    hsegment]

/-!
## Returns
-/

def retFirst : List Microinstruction :=
  { raSel := SP, next := 0x36f } :: Microcode.retWords.take 2

def retLast : Microinstruction :=
  { aSel := .MDR, loadIp := true, nextInstruction := true, next := 0x372 }

theorem ret_program (c : Control) :
    c.program 3 0xc3 = some (retFirst, retLast) := rfl

include hnew in
theorem performs_ret : Performs 0xc3 m (.ret 0#16) := by
  refine ⟨_, retires_of_program (ret_program m.control), ?_⟩
  ext1 <;> simp [retFirst, retLast, Microcode.retWords, hnew]

def retDiscardFirst : List Microinstruction :=
  { raSel := SP, next := 0x372 } :: (Microcode.retWords.drop 3).take 3

def retDiscardLast : Microinstruction :=
  { bSel := .IMMEDIATE, aluOp := .ADD, rdSelSource := .MICROCODE_RD_SEL
    rdSel := SP, nextInstruction := true, next := 0x376 }

theorem retDiscard_program (c : Control) :
    c.program 4 0xc2 = some (retDiscardFirst, retDiscardLast) := rfl

include hnew in
theorem performs_retDiscard : Performs 0xc2 m (.ret m.insn.immediates0) := by
  refine ⟨_, retires_of_program (retDiscard_program m.control), ?_⟩
  ext1 <;> simp [retDiscardFirst, retDiscardLast, Microcode.retWords, hnew,
    BitVec.add_assoc]

def retFarFirst : List Microinstruction :=
  { raSel := SP, next := 0x376 } :: (Microcode.retWords.drop 7).take 4

def retFarLast (next : Nat) : Microinstruction :=
  { aSel := .MDR, segmentForce := true, segment := .CS, segmentWrEn := true
    nextInstruction := true, next := next }

theorem retFar_program (c : Control) :
    c.program 5 0xcb = some (retFarFirst, retFarLast 0x37b) := rfl

include hnew in
theorem performs_retFar : Performs 0xcb m (.retFar 0#16) := by
  refine ⟨_, retires_of_program (retFar_program m.control), ?_⟩
  ext1 <;> simp [retFarFirst, retFarLast, Microcode.retWords, hnew,
    BitVec.add_assoc]

def retFarDiscardFirst : List Microinstruction :=
  { raSel := SP, next := 0x37b } :: (Microcode.retWords.drop 12).take 5

theorem retFarDiscard_program (c : Control) :
    c.program 6 0xca = some (retFarDiscardFirst, retFarLast 0x381) := rfl

include hnew in
theorem performs_retFarDiscard :
    Performs 0xca m (.retFar m.insn.immediates0) := by
  refine ⟨_, retires_of_program (retFarDiscard_program m.control), ?_⟩
  ext1 <;> simp [retFarDiscardFirst, retFarLast, Microcode.retWords, hnew,
    BitVec.add_assoc]

def iretFirst : List Microinstruction :=
  { raSel := SP, next := 0x381 } :: (Microcode.retWords.drop 18).take 7

def iretLast : Microinstruction :=
  { aSel := .MAR, bSel := .IMMEDIATE, immediate := some 0x2#16, aluOp := .ADD
    rdSel := SP, rdSelSource := .MICROCODE_RD_SEL, extIntInhibit := true
    nextInstruction := true, next := 0x389 }

theorem iret_program (c : Control) :
    c.program 8 0xcf = some (iretFirst, iretLast) := rfl

include hnew in
theorem performs_iret : Performs 0xcf m .iret := by
  refine ⟨_, retires_of_program (iret_program m.control), ?_⟩
  ext1 <;> simp [iretFirst, iretLast, Microcode.retWords, hnew,
    BitVec.add_assoc, updates_all.flagsOut_step]

/-!
## Interrupts
-/

theorem flagsOut_entered (f : Flags) :
    { f with I := false, T := false }.flagsOut =
      withFlags Flag.traps 0#16 f.flagsOut := by
  rw [<- updates_traps.flagsOut_step]
  rfl

/-- The entry through a vector is the interrupt. -/
theorem ofArch_entered (n : BitVec 8) :
    ofArch (m.entered (n.setWidth 16 * 4#16)) =
      (ofMachine m).interrupt n := by
  have hflags := flagsOut_entered m.flags
  ext1 <;> simp [entered, framed, State.interrupt, hflags]

include hnew in
theorem leaves_interrupt {n : BitVec 8} (htmp : m.tmp = n.setWidth 16 * 4#16) :
    Leaves Core.doIntAddress m ((ofMachine m).interrupt n) := by
  refine ⟨_, retires_entered hnew, ?_⟩
  rw [htmp, ofArch_entered]

/-- The word that names a vector. -/
def vectorWord (vector : BitVec 16) : Microinstruction :=
  { bSel := .IMMEDIATE, immediate := some vector, aluOp := .SELB
    tmpWrEn := true, next := 0x12d }

theorem int3_path (c : Control) :
    c.path 1 none 0xcc = some ([vectorWord 0xc#16], Core.doIntAddress) := rfl

include hnew in
theorem performs_int3 : Performs 0xcc m (.int 3#8) := by
  have hpath := steps_of_path (int3_path m.control) rfl trivial
  have hends := leaves_interrupt (m.follow [vectorWord 0xc#16])
    (by simpa [vectorWord] using hnew) (n := 3#8)
    (by simp [vectorWord])
  have hstate : ofMachine (m.follow [vectorWord 0xc#16]) = ofMachine m := by
    ext1 <;> simp [vectorWord]
  rw [hstate] at hends
  exact hends.after hpath

def intWords : List Microinstruction :=
  { bSel := .IMMEDIATE, aluOp := .SELB, marWrSel := .Q, marWrite := true
    next := 0x206 } :: Microcode.intWords.take 2

theorem int_path (c : Control) :
    c.path 3 none 0xcd = some (intWords, Core.doIntAddress) := rfl

theorem doAnd_low (v flags : BitVec 16) :
    (ALU.doAnd false v 0xff#16 flags).1 =
      (v.extractLsb' 0 8).setWidth 16 := by
  change v &&& 0xff#16 = _
  apply BitVec.eq_of_getLsbD_eq
  intro i hi
  have hmask : (0xff#16).getLsbD i = decide (i < 8) := by
    interval_cases i <;> rfl
  rw [BitVec.getLsbD_and, hmask]
  simp [hi, Bool.and_comm]

theorem intWords_tmp : (m.follow intWords).tmp =
    (m.insn.immediates0.extractLsb' 0 8).setWidth 16 * 4#16 := by
  simp [intWords, Microcode.intWords, doAnd_low]

theorem intWords_rest : (m.follow intWords).newIp = m.newIp ∧
    ofMachine (m.follow intWords) = ofMachine m := by
  constructor
  · simp [intWords, Microcode.intWords]
  · ext1 <;> simp [intWords, Microcode.intWords]

include hnew in
theorem performs_int :
    Performs 0xcd m (.int (m.insn.immediates0.extractLsb' 0 8)) := by
  obtain ⟨hnone, hstate⟩ := intWords_rest m
  have hpath := steps_of_path (int_path m.control) rfl trivial
  have hends := leaves_interrupt (m.follow intWords) (hnone.trans hnew)
    (intWords_tmp m)
  rw [hstate] at hends
  exact hends.after hpath

/-- The word of `INTO` that asks for the overflow flag. -/
def intoBranch : Microinstruction :=
  { bSel := .IMMEDIATE, immediate := some 0x10#16, aluOp := .SELB
    tmpWrEn := true, raSel := SP, jumpType := .JUMP_TAKEN, next := 0x20a }

theorem intoBranch_isBranch : IsBranch 0x208 intoBranch :=
  ⟨rfl, rfl, rfl, ⟨rfl, rfl⟩, by decide⟩

def intoWord : Microinstruction :=
  { aluOp := .GETFLAGS, mdrWrite := true, next := 0x208 }

theorem into_path (c : Control) :
    c.path 1 none 0xce = some ([intoWord], 0x208) := rfl

theorem intoTaken_path (c : Control) :
    c.path 1 none 0x20a = some ([{ next := 0x12d }], Core.doIntAddress) := rfl

include hnew in
theorem leaves_into (hopcode : m.insn.opcode = 0xce#8) :
    Leaves 0x208 m (Operation.into.exec (ofMachine m)) := by
  have hanswer : (m.ready intoBranch).branch intoBranch =
      some ((ofMachine m).flag Rtl.Flag.OF_IDX) := by
    have htaken : JumpTest.taken 0xce#8 m.flags.flagsOut =
        m.flags.flagsOut.getLsbD Rtl.Flag.OF_IDX := rfl
    simpa [branch, intoBranch, hopcode] using htaken
  have hbranch := @steps_branch _ _ _ none _ intoBranch_isBranch rfl trivial
    hanswer
  have hstate : ofMachine (m.advance intoBranch) = ofMachine m := by
    ext1 <;> simp [intoBranch]
  have hnone : (m.advance intoBranch).newIp = none := by
    simp [intoBranch, hnew]
  have htmp : (m.advance intoBranch).tmp = 0x10#16 := by
    simp [intoBranch]
  generalize hm' : m.advance intoBranch = m' at hstate hnone htmp
  have hgo : (m.ready intoBranch).advance intoBranch = m' := hm'
  rw [hgo] at hbranch
  simp only [Operation.exec]
  cases hof : (ofMachine m).flag Rtl.Flag.OF_IDX with
  | true =>
      rw [hof] at hbranch
      have hpath := steps_of_path (intoTaken_path m'.control) rfl trivial
      have hends := leaves_interrupt (m'.follow [{ next := 0x12d }])
        (by simpa using hnone) (n := 4#8) (by simpa using htmp)
      have hsame : ofMachine (m'.follow [{ next := 0x12d }]) =
          ofMachine m' := by
        ext1 <;> simp
      rw [hsame, hstate] at hends
      exact (hends.after hpath).after hbranch
  | false =>
      rw [hof] at hbranch
      have hends := @leaves_fall 0x209 0x20a m' hnone (fun _ => rfl)
      rw [hstate] at hends
      exact hends.after hbranch

include hnew in
theorem performs_into (hopcode : m.insn.opcode = 0xce#8) :
    Performs 0xce m .into := by
  have hpath := steps_of_path (into_path m.control) rfl trivial
  have hends := leaves_into (m.follow [intoWord])
    (by simpa [intoWord] using hnew) (by simpa [intoWord] using hopcode)
  have hstate : ofMachine (m.follow [intoWord]) = ofMachine m := by
    ext1 <;> simp [intoWord]
  rw [hstate] at hends
  exact hends.after hpath

end Isa
end S80x86
