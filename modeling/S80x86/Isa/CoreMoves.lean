import S80x86.Isa.CoreState

/-!
# Moves and flags in the core

The microprograms of the instructions that touch registers and flags only.
-/

namespace S80x86
namespace Isa

open Rtl Rtl.GPR Rtl.Machine
open scoped Rtl.Machine.Eval

variable (m : Machine) (hnew : m.newIp = none)

/-!
## Registers
-/

/-- The word of `MOV` of an immediate to a register. -/
def movWord (width : WidthType) (r : BitVec 3) (next : Nat) :
    Microinstruction :=
  { rdSelSource := .MICROCODE_RD_SEL, rdSel := r, aluOp := .SELB
    bSel := .IMMEDIATE, width := width, nextInstruction := true, next := next }

theorem movByte_program (c : Control) (r : BitVec 3) :
    c.program 0 (0xb0#8 + r.setWidth 8).toNat =
      some ([], movWord .W8 r (0xb1 + r.toNat)) := by
  rcases reg_cases r with rfl | rfl | rfl | rfl | rfl | rfl | rfl | rfl <;> rfl

theorem movWord_program (c : Control) (r : BitVec 3) :
    c.program 0 (0xb8#8 + r.setWidth 8).toNat =
      some ([], movWord .W16 r (0xb9 + r.toNat)) := by
  rcases reg_cases r with rfl | rfl | rfl | rfl | rfl | rfl | rfl | rfl <;> rfl

include hnew in
theorem performs_movByte (r : BitVec 3) :
    Performs (0xb0#8 + r.setWidth 8).toNat m
      (.mov true r m.insn.immediates0) := by
  refine ⟨_, retires_of_program (movByte_program m.control r), ?_⟩
  ext1 <;> simp [movWord, hnew]

include hnew in
theorem performs_movWord (r : BitVec 3) :
    Performs (0xb8#8 + r.setWidth 8).toNat m
      (.mov false r m.insn.immediates0) := by
  refine ⟨_, retires_of_program (movWord_program m.control r), ?_⟩
  ext1 <;> simp [movWord, hnew]

def xchgWords (r : BitVec 3) : List Microinstruction :=
  { raSel := r, next := 0x40f + 3 * r.toNat } ::
    (Microcode.xchgWords.drop (4 + 3 * r.toNat)).take 2

def xchgLast (r : BitVec 3) : Microinstruction :=
  { aSel := .MAR, rdSelSource := .MICROCODE_RD_SEL, rdSel := AX
    nextInstruction := true, next := 0x412 + 3 * r.toNat }

theorem xchg_program (c : Control) {r : BitVec 3} (h : r ≠ AX) :
    c.program 3 (0x90#8 + r.setWidth 8).toNat =
      some (xchgWords r, xchgLast r) := by
  rcases reg_cases r with rfl | rfl | rfl | rfl | rfl | rfl | rfl | rfl
  · exact absurd rfl h
  all_goals rfl

theorem nop_program (c : Control) :
    c.program 0 0x90 = some ([], { nextInstruction := true, next := 0x91 }) :=
  rfl

include hnew in
theorem performs_xchg (r : BitVec 3) :
    Performs (0x90#8 + r.setWidth 8).toNat m (.xchg r) := by
  by_cases h : r = AX
  · subst h
    refine ⟨_, retires_of_program (nop_program m.control), ?_⟩
    have hself : (m.gprs.set AX (m.gprs AX)).set AX (m.gprs AX) = m.gprs := by
      funext n
      unfold Gprs.set
      by_cases hn : n = AX
      · rw [hn]
        rfl
      · rw [if_neg hn, if_neg hn]
    ext1
    · rw [show (Operation.exec (ofMachine m) (.xchg AX)).gprs = m.gprs from hself]
      simp
    all_goals simp [hnew]
  · refine ⟨_, retires_of_program (xchg_program m.control h), ?_⟩
    have hne : AX ≠ r := fun heq => h heq.symm
    have hcomm := gprs_set_comm m.gprs (m.gprs r) (m.gprs AX) hne
    rcases reg_cases r with rfl | rfl | rfl | rfl | rfl | rfl | rfl | rfl
    · exact absurd rfl h
    all_goals
      ext1 <;> simp [xchgWords, xchgLast, Microcode.xchgWords, hnew, hcomm]

/-!
## Extensions
-/

def cbwWord : Microinstruction :=
  { width := .W8, bSel := .IMMEDIATE, aluOp := .EXTEND
    rdSelSource := .MICROCODE_RD_SEL, rdSel := AH, nextInstruction := true
    next := 0x1e4 }

def cwdWord : Microinstruction :=
  { bSel := .IMMEDIATE, aluOp := .EXTEND, rdSelSource := .MICROCODE_RD_SEL
    rdSel := DX, nextInstruction := true, next := 0x1e5 }

theorem cbw_program (c : Control) :
    c.program 1 0x98 =
      some ([{ width := .W8, raSel := AL, next := 0x1e3 }], cbwWord) := rfl

theorem cwd_program (c : Control) :
    c.program 1 0x99 = some ([{ raSel := AX, next := 0x1e4 }], cwdWord) := rfl

/-- A byte in front of which its sign is written. -/
theorem signed_byte (x : BitVec 16) :
    (ALU.doExtend true ((x.extractLsb' 0 8).setWidth 16)).extractLsb' 0 8 ++
        x.extractLsb' 0 8 = (x.extractLsb' 0 8).signExtend 16 := by
  have hsign : ALU.pick true ((x.extractLsb' 0 8).setWidth 16) 7 15 =
      x.getLsbD 7 := by
    simp [ALU.pick]
  apply BitVec.eq_of_getLsbD_eq
  intro i hi
  unfold ALU.doExtend
  rw [hsign, BitVec.getLsbD_append, BitVec.getLsbD_signExtend]
  by_cases h : i < 8
  · simp [h, hi]
  · have hhigh : i - 8 < 8 := by omega
    simp [h, hi, hhigh, BitVec.getLsbD_fill, BitVec.msb_eq_getLsbD_last]
    omega

theorem extended_word (x : BitVec 16) :
    ALU.doExtend false x = BitVec.fill 16 x.msb := by
  unfold ALU.doExtend ALU.pick
  rw [BitVec.msb_eq_getLsbD_last]
  rfl

include hnew in
theorem performs_cbw : Performs 0x98 m .cbw := by
  refine ⟨_, retires_of_program (cbw_program m.control), ?_⟩
  have hbyte := signed_byte (m.gprs AX)
  ext1 <;> simp [cbwWord, hnew, hbyte]

include hnew in
theorem performs_cwd : Performs 0x99 m .cwd := by
  refine ⟨_, retires_of_program (cwd_program m.control), ?_⟩
  ext1 <;> simp [cwdWord, hnew, extended_word]

/-!
## Flags
-/

/-- The word of the instructions that set or clear one flag. -/
def flagWord (updates : List UpdateFlags) (v : BitVec 16) (inhibit : Bool)
    (next : Nat) : Microinstruction :=
  { bSel := .IMMEDIATE, immediate := some v, aluOp := .SETFLAGSB
    updateFlags := updates, extIntInhibit := inhibit, nextInstruction := true
    next := next }

include hnew in
/-- An instruction of one such word. -/
theorem performs_update {addr : Nat} {updates : List UpdateFlags}
    {mask v : BitVec 16} {inhibit : Bool} (h : Updates updates mask)
    (hword : forall c : Control,
      c.program 0 addr = some ([], flagWord updates v inhibit (addr + 1))) :
    Performs addr m (.update mask v) := by
  refine ⟨_, retires_of_program (hword m.control), ?_⟩
  ext1 <;> simp [flagWord, hnew, h.flagsOut_step]

def cmcWord : Microinstruction :=
  { aluOp := .CMC, updateFlags := [.CF], nextInstruction := true
    next := 0xf6 }

theorem cmc_program (c : Control) :
    c.program 0 0xf5 = some ([], cmcWord) := rfl

/-- Complementing every flag leaves the carry flag's complement. -/
theorem complemented_carry (flags : BitVec 16) :
    withFlags Flag.CF
        (ALU.setFlag Rtl.Flag.CF_IDX (!flags.getLsbD Rtl.Flag.CF_IDX) flags)
        flags =
      withFlags Flag.CF (~~~flags) flags := by
  apply BitVec.eq_of_getLsbD_eq
  intro i hi
  unfold withFlags
  simp only [BitVec.getLsbD_or, BitVec.getLsbD_and, BitVec.getLsbD_not, hi,
    decide_true, Bool.true_and, ALU.getLsbD_setFlag hi]
  by_cases h : i = Rtl.Flag.CF_IDX
  · subst h
    simp
  · have hmask : Flag.CF.getLsbD i = false := by
      have hne : i ≠ 0 := h
      interval_cases i <;> first | rfl | exact absurd rfl hne
    simp [hmask]

include hnew in
theorem performs_cmc : Performs 0xf5 m .cmc := by
  refine ⟨_, retires_of_program (cmc_program m.control), ?_⟩
  ext1 <;> simp [cmcWord, hnew, updates_carry.flagsOut_step,
    complemented_carry]

def lahfWord : Microinstruction :=
  { aluOp := .GETFLAGS, rdSelSource := .MICROCODE_RD_SEL, rdSel := AH
    width := .W8, nextInstruction := true, next := 0xa0 }

theorem lahf_program (c : Control) :
    c.program 0 0x9f = some ([], lahfWord) := rfl

include hnew in
theorem performs_lahf : Performs 0x9f m .lahf := by
  refine ⟨_, retires_of_program (lahf_program m.control), ?_⟩
  ext1 <;> simp [lahfWord, hnew]

def sahfWord : Microinstruction :=
  { aluOp := .SETFLAGSA, updateFlags := [.CF, .PF, .AF, .ZF, .SF]
    nextInstruction := true, next := 0x1e6 }

theorem sahf_program (c : Control) :
    c.program 1 0x9e =
      some ([{ raSel := AH, width := .W8, next := 0x1e5 }], sahfWord) := rfl

include hnew in
theorem performs_sahf : Performs 0x9e m .sahf := by
  refine ⟨_, retires_of_program (sahf_program m.control), ?_⟩
  ext1 <;> simp [sahfWord, hnew, updates_low.flagsOut_step]

def setalcWord : Microinstruction :=
  { width := .W8, aluOp := .SBB, rdSelSource := .MICROCODE_RD_SEL
    rdSel := AL, nextInstruction := true, next := 0x1e7 }

theorem setalc_program (c : Control) :
    c.program 1 0xd6 =
      some ([{ raSel := CX, rbCl := true, next := 0x1e6 }], setalcWord) := rfl

/-- A register less itself and the carry is the carry in every bit. -/
theorem borrowed_byte (a flags : BitVec 16) :
    (ALU.doSbb true a a flags).1 =
      BitVec.fill 16 (flags.getLsbD Rtl.Flag.CF_IDX) := by
  have hout : (ALU.doSbb true a a flags).1 =
      (a.setWidth 17 - a.setWidth 17 - ALU.carryIn flags).setWidth 16 := rfl
  rw [hout, BitVec.sub_self]
  unfold ALU.carryIn
  cases flags.getLsbD Rtl.Flag.CF_IDX <;> decide

include hnew in
theorem performs_setalc : Performs 0xd6 m .setalc := by
  refine ⟨_, retires_of_program (setalc_program m.control), ?_⟩
  have hborrow := borrowed_byte (m.gprs CX) m.flags.flagsOut
  ext1 <;> simp [setalcWord, hnew, hborrow]

end Isa
end S80x86
