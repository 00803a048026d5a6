import S80x86.Rtl.Divisions

/-!
# The divisions of the core

`DIV` and `IDIV` load their operands, divide, and write both results or go to
the divide error.
-/

open Foundation

namespace S80x86
namespace Rtl
namespace Machine

open GPR
open Eval

/-- One of the divisions. -/
structure Division where
  isSigned : Bool
  is8Bit : Bool
  deriving DecidableEq, Repr

namespace Division

variable (v : Division)

def opcode : BitVec 8 := if v.is8Bit then 0xf6#8 else 0xf7#8

/-- The register field that selects the division in its group. -/
def digit : BitVec 3 := if v.isSigned then 7#3 else 6#3

def width : WidthType := if v.is8Bit then .W8 else .W16

def dispatch : Nat := if v.is8Bit then 0x473 else 0x47b

/-- The first word after the dispatch. -/
def start : Nat :=
  match v.isSigned, v.is8Bit with
  | false, true => 0x1b2
  | false, false => 0x1b9
  | true, true => 0x1bf
  | true, false => 0x1c4

/-- The words that leave the divisor in the data register. -/
def divisorWords (rmIsReg : Bool) : List Microinstruction :=
  [
    { width := v.width, marWrite := true, jumpType := .DISPATCH_REG
      next := v.dispatch },
    { width := v.width, raModrmRmReg := true, segment := .DS
      jumpType := .RM_REG_MEM, next := v.start },
    { width := v.width, mdrWrite := rmIsReg, memRead := !rmIsReg
      segment := if rmIsReg then .ES else .DS
      raSel := AX, next := v.start + 2 }
  ]

/-- The words that leave the dividend in the temporary register and in what
`RA` shows. -/
def dividendWords : List Microinstruction :=
  if v.is8Bit then
    [
      { raSel := AX, next := v.start + 3 },
      { tmpWrEn := true, next := v.start + 4 }
    ]
  else [{ tmpWrEn := true, raSel := DX, next := v.start + 3 }]

def divideAddress : Nat := v.start + if v.is8Bit then 4 else 3

def divideWord : Microinstruction :=
  { width := v.width, aluOp := if v.isSigned then .IDIV else .DIV
    raSel := if v.is8Bit then AX else DX
    next := if v.is8Bit then 0x1b7 else 0x1bd }

def quotientWord : Microinstruction :=
  { width := v.width, regWrSource := .QUOTIENT
    rdSelSource := .MICROCODE_RD_SEL, rdSel := if v.is8Bit then AL else AX
    next := if v.is8Bit then 0x1b8 else 0x1be }

def remainderWord : Microinstruction :=
  { width := v.width, regWrSource := .REMAINDER
    rdSelSource := .MICROCODE_RD_SEL, rdSel := if v.is8Bit then AH else DX
    nextInstruction := true, next := if v.is8Bit then 0x1b9 else 0x1bf }

theorem operands_path (rmIsReg noRep : Bool) :
    ({ rmIsReg := rmIsReg, regnum := v.digit, noRep := noRep } : Control).path
        (if v.is8Bit then 5 else 4) none v.opcode.toNat =
      some (v.divisorWords rmIsReg ++ v.dividendWords, v.divideAddress) := by
  obtain ⟨isSigned, is8Bit⟩ := v
  cases isSigned <;> cases is8Bit <;> cases rmIsReg <;> cases noRep <;>
    decide +kernel

theorem divideWord_mem : Microcode.mem v.divideAddress = v.divideWord := by
  obtain ⟨isSigned, is8Bit⟩ := v
  cases isSigned <;> cases is8Bit <;> rfl

theorem divideWord_isDivision : IsDivision v.divideWord := by
  obtain ⟨isSigned, is8Bit⟩ := v
  cases isSigned <;> cases is8Bit <;> exact ⟨rfl, rfl, rfl, rfl, rfl, rfl⟩

theorem results_program (c : Control) :
    c.program 1 v.divideWord.next =
      some ([v.quotientWord], v.remainderWord) := by
  obtain ⟨isSigned, is8Bit⟩ := v
  cases is8Bit with
  | false =>
      change c.program 1 0x1bd = _
      rfl
  | true =>
      change c.program 1 0x1b7 = _
      rfl

/-!
## The operands
-/

/-- What the divider is given. -/
def inputs (m : Machine) : Divider.Inputs :=
  let ax := m.gprs AX
  { reset := false, start := true, is8Bit := v.is8Bit, isSigned := v.isSigned
    dividend :=
      if v.is8Bit then
        if v.isSigned then ax.signExtend 32 else ax.setWidth 32
      else m.gprs DX ++ ax
    divisor :=
      if v.is8Bit && v.isSigned then
        ((m.operand true).extractLsb' 0 8).signExtend 16
      else m.operand v.is8Bit }

/-- The machine before the divider is started. -/
def before (m : Machine) : Machine :=
  m.follow (v.divisorWords m.modrm.rmIsReg ++ v.dividendWords)

theorem before_inputs (m : Machine) :
    (v.before m).dividerInputs v.divideWord = v.inputs m := by
  obtain ⟨isSigned, is8Bit⟩ := v
  unfold before inputs dividerInputs operand
  cases isSigned <;> cases is8Bit <;> cases hreg : m.modrm.rmIsReg <;>
    simp [divisorWords, dividendWords, divideWord, width,
      Microinstruction.divide, operandSegment]

theorem before_ra (m : Machine) :
    (v.before m).is8Bit v.divideWord = false ->
      (v.before m).ra =
        (v.before m).gprs.read false ((v.before m).raSel v.divideWord) := by
  obtain ⟨isSigned, is8Bit⟩ := v
  unfold before
  cases isSigned <;> cases is8Bit <;> cases m.modrm.rmIsReg <;>
    simp [divisorWords, dividendWords, divideWord, width]

theorem next_plain : plainAddress v.divideWord.next = true ∧
    v.divideWord.next ≠ v.divideAddress ∧
      Core.divideErrorAddress ≠ v.divideAddress := by
  obtain ⟨isSigned, is8Bit⟩ := v
  cases isSigned <;> cases is8Bit <;> decide

/-- The words before the division change nothing that outlives them. -/
theorem before_keeps (m : Machine) :
    (v.before m).gprs = m.gprs ∧ (v.before m).segments = m.segments ∧
      (v.before m).flags = m.flags ∧ (v.before m).ip = m.ip ∧
      (v.before m).mem = m.mem ∧ (v.before m).newIp = m.newIp := by
  obtain ⟨isSigned, is8Bit⟩ := v
  unfold before
  cases isSigned <;> cases is8Bit <;> cases m.modrm.rmIsReg <;>
    simp [divisorWords, dividendWords, width]

theorem low_word_signExtend (x : BitVec 16) :
    (x.signExtend 32).extractLsb' 0 16 = x := by
  have h := setWidth_signExtend x
  rw [BitVec.setWidth_eq_extractLsb' (by decide)] at h
  exact h

theorem low_word_setWidth (x : BitVec 16) :
    (x.setWidth 32).extractLsb' 0 16 = x := by
  have h := BitVec.setWidth_setWidth_of_le x (show 16 ≤ 32 by decide)
  rw [BitVec.setWidth_eq_extractLsb' (by decide)] at h
  simpa using h

theorem inputs_presented (m : Machine) : (v.inputs m).Presented := by
  obtain ⟨isSigned, is8Bit⟩ := v
  intro hbyte
  cases hbyte
  cases isSigned with
  | true =>
      refine ⟨?_, ?_⟩
      · change (m.gprs AX).signExtend 32 =
          (((m.gprs AX).signExtend 32).extractLsb' 0 16).signExtend 32
        rw [low_word_signExtend]
      · have hbyte := low_signExtend ((m.operand true).extractLsb' 0 8)
        exact (congrArg (BitVec.signExtend 16) hbyte).symm
  | false =>
      refine ⟨?_, ?_⟩
      · change (m.gprs AX).setWidth 32 =
          (((m.gprs AX).setWidth 32).extractLsb' 0 16).setWidth 32
        rw [low_word_setWidth]
      · change m.operand true = 0#16 ↔ (m.operand true).extractLsb' 0 8 = 0#8
        constructor
        · intro hzero
          rw [hzero]
          rfl
        · intro hzero
          rw [<- operand_byte, hzero]
          rfl

/-- What the divider is given, as numbers. -/
theorem inputs_dividend (m : Machine) :
    (v.inputs m).dividendVal =
      let ax := m.gprs AX
      let wide := m.gprs DX ++ ax
      if v.isSigned then if v.is8Bit then ax.toInt else wide.toInt
      else if v.is8Bit then ax.toNat else wide.toNat := by
  obtain ⟨isSigned, is8Bit⟩ := v
  unfold Divider.Inputs.dividendVal inputs
  cases isSigned <;> cases is8Bit <;>
    simp [low_word_signExtend, low_word_setWidth]

theorem inputs_divisor (m : Machine) :
    (v.inputs m).divisorVal =
      let byte := (m.operand true).extractLsb' 0 8
      let word := m.operand false
      if v.isSigned then if v.is8Bit then byte.toInt else word.toInt
      else if v.is8Bit then byte.toNat else word.toNat := by
  obtain ⟨isSigned, is8Bit⟩ := v
  unfold Divider.Inputs.divisorVal inputs
  cases isSigned <;> cases is8Bit <;> simp

/-!
## Runs
-/

variable {v} {m : Machine}

/-- The division ends, and its result or its error follows. -/
theorem steps_divide (hdigit : m.modrm.regnum = v.digit) :
    exists d, Divider.Divided (v.inputs m) d ∧
      Steps v.opcode.toNat m
        (if d.error then Core.divideErrorAddress else v.divideWord.next)
        (((v.before m).afterDivision v.divideWord d).advance v.divideWord) := by
  have hcontrol : m.control =
      { rmIsReg := m.modrm.rmIsReg, regnum := v.digit
        noRep := m.insn.rep == .NONE } := by
    rw [<- hdigit]
    rfl
  have hpath := steps_of_path (v.operands_path m.modrm.rmIsReg
    (m.insn.rep == .NONE)) hcontrol trivial
  have hpresented :
      ((v.before m).dividerInputs v.divideWord).Presented := by
    rw [before_inputs]
    exact v.inputs_presented m
  obtain ⟨d, hdone, hstep⟩ := steps_division v.divideWord_mem
    v.divideWord_isDivision (before_ra v m) hpresented v.next_plain.1
    v.next_plain.2.1 v.next_plain.2.2
  rw [before_inputs] at hdone
  exact ⟨d, hdone, hpath.trans hstep⟩

/-- With an error the interrupt entry follows. -/
theorem retires_error (hdigit : m.modrm.regnum = v.digit)
    (hip : m.newIp = none)
    (herror : (v.inputs m).divisorVal = 0 ∨ ¬ (v.inputs m).Representable
      ((v.inputs m).dividendVal.tdiv (v.inputs m).divisorVal)) :
    Retires v.opcode.toNat m (m.entered 0#16) := by
  obtain ⟨d, hdone, hsteps⟩ := steps_divide hdigit
  rw [hdone.error_iff.mpr herror] at hsteps
  obtain ⟨hgprs, hsegments, hflags, hip', hmem, hnew⟩ := v.before_keeps m
  have hentry := hsteps.retires (retires_divideError ?_)
  · simpa [entered, framed, afterDivision, divideWord, hgprs, hsegments,
      hflags, hip', hmem] using hentry
  · simpa [afterDivision, divideWord, hnew] using hip

theorem retires_result (hdigit : m.modrm.regnum = v.digit)
    (hok : ¬ ((v.inputs m).divisorVal = 0 ∨ ¬ (v.inputs m).Representable
      ((v.inputs m).dividendVal.tdiv (v.inputs m).divisorVal))) :
    exists x, Retires v.opcode.toNat m x := by
  obtain ⟨d, hdone, hsteps⟩ := steps_divide hdigit
  have hd : d.error = false := by
    rw [Bool.eq_false_iff]
    intro hd
    exact hok (hdone.error_iff.mp hd)
  rw [hd] at hsteps
  exact ⟨_, hsteps.retires (retires_of_program (v.results_program _))⟩

end Division
end Machine
end Rtl
end S80x86
