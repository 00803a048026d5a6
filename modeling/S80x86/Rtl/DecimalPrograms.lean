import S80x86.Rtl.Divisions

/-!
# The decimal adjustments of the core

What the microprograms of `DAA`, `DAS`, `AAM` and `AAD` leave in `AX` and the
flags.
-/

namespace S80x86
namespace Rtl
namespace Machine

open GPR
open scoped Eval

/-- The flags that `AAM` and `AAD` update. -/
def resultUpdates : List UpdateFlags := [.SF, .ZF, .PF]

def packedUpdates : List UpdateFlags := [.SF, .ZF, .AF, .CF, .PF]

/-- `AX` and the flags after an instruction, from the output of a task. -/
structure Leaves (m : Machine) (x : Arch) (ax : BitVec 16)
    (updates : List UpdateFlags) (flags : BitVec 16) : Prop where
  ax : x.gprs AX = ax
  flags : x.flags = Flags.step updates flags m.flags

theorem daa_program (c : Control) :
    c.program 1 0x27 =
      some ([{ next := 0x16d }],
        { aluOp := .DAA, rdSelSource := .MICROCODE_RD_SEL, rdSel := AX
          updateFlags := packedUpdates, nextInstruction := true
          next := 0x16e }) := rfl

theorem das_program (c : Control) :
    c.program 1 0x2f =
      some ([{ next := 0x16e }],
        { aluOp := .DAS, rdSelSource := .MICROCODE_RD_SEL, rdSel := AX
          updateFlags := packedUpdates, nextInstruction := true
          next := 0x16f }) := rfl

theorem retires_daa (m : Machine) :
    exists x, Retires 0x27 m x ∧
      m.Leaves x (ALU.doDaa (m.gprs AX) m.flags.flagsOut).1 packedUpdates
        (ALU.doDaa (m.gprs AX) m.flags.flagsOut).2 := by
  have h := retires_of_program (m := m) (daa_program m.control)
  refine ⟨_, h, ?_, ?_⟩
  · simp
  · simp [packedUpdates]

theorem retires_das (m : Machine) :
    exists x, Retires 0x2f m x ∧
      m.Leaves x (ALU.doDas (m.gprs AX) m.flags.flagsOut).1 packedUpdates
        (ALU.doDas (m.gprs AX) m.flags.flagsOut).2 := by
  have h := retires_of_program (m := m) (das_program m.control)
  refine ⟨_, h, ?_, ?_⟩
  · simp
  · simp [packedUpdates]

/-!
## `AAD`
-/

/-- `AH` and `AL`. -/
def ah (m : Machine) : BitVec 8 := (m.gprs AX).extractLsb' 8 8

def al (m : Machine) : BitVec 8 := (m.gprs AX).extractLsb' 0 8

/-- The sum of `AL` and the product of `AH` with a sign-extended byte. -/
def aadSum (m : Machine) : BitVec 16 :=
  m.al.setWidth 16 + m.ah.setWidth 16 * m.insn.immediates0

theorem aad_program (c : Control) :
    c.program 4 0xd5 =
      some ({ width := .W8, raSel := AH, next := 0x131 } ::
          Microcode.aadWords.dropLast,
        { width := .W8, bSel := .IMMEDIATE, immediate := some 0#16
          aluOp := .SELB, rdSelSource := .MICROCODE_RD_SEL, rdSel := AH
          nextInstruction := true, next := 0x135 }) := rfl

theorem retires_aad (m : Machine) :
    exists x, Retires 0xd5 m x ∧
      m.Leaves x ((m.aadSum.extractLsb' 0 8).setWidth 16) resultUpdates
        (ALU.doAdd false (m.al.setWidth 16)
          (m.ah.setWidth 16 * m.insn.immediates0) m.flags.flagsOut).2 := by
  have h := retires_of_program (m := m) (aad_program m.control)
  refine ⟨_, h, ?_, ?_⟩
  · simp [Microcode.aadWords, aadSum, ah, al]
  · simp [Microcode.aadWords, resultUpdates, ah, al]

/-!
## `AAM`
-/

/-- The words before the division. -/
def aamOperands : List Microinstruction :=
  [
    { width := .W8, raModrmRmReg := true, bSel := .IMMEDIATE, aluOp := .SELB
      mdrWrite := true, next := 0x1c8 },
    { width := .W8, raSel := AL, next := 0x1c9 },
    { tmpWrEn := true, next := 0x1ca }
  ]

def aamDivision : Microinstruction :=
  { width := .W8, aluOp := .DIV, next := 0x1cb }

/-- The words after the division, the last one apart. -/
def aamResults : List Microinstruction :=
  [
    { width := .W8, regWrSource := .QUOTIENT
      rdSelSource := .MICROCODE_RD_SEL, rdSel := AH, next := 0x1cc },
    { width := .W8, regWrSource := .REMAINDER
      rdSelSource := .MICROCODE_RD_SEL, rdSel := AL, next := 0x1cd },
    { raSel := AX, next := 0x1ce }
  ]

theorem aam_path (c : Control) :
    c.path 3 none 0xd4 = some (aamOperands, 0x1ca) := rfl

theorem aam_program (c : Control) :
    c.program 3 0x1cb =
      some (aamResults,
        { bSel := .IMMEDIATE, immediate := some 0#16, aluOp := .ADD
          updateFlags := resultUpdates, nextInstruction := true
          next := 0x1cf }) := rfl

theorem aamDivision_isDivision : IsDivision aamDivision :=
  ⟨rfl, rfl, rfl, rfl, rfl, rfl⟩

/-- The operands of the division. -/
def aamInputs (m : Machine) : Divider.Inputs :=
  { reset := false, start := true, is8Bit := true, isSigned := false
    dividend := m.al.setWidth 32, divisor := m.insn.immediates0 }

theorem aam_inputs (m : Machine) :
    (m.follow aamOperands).dividerInputs aamDivision = m.aamInputs := by
  unfold dividerInputs aamInputs
  simp [aamOperands, aamDivision, Microinstruction.divide, al]

theorem aam_presented {m : Machine} {imm : BitVec 8}
    (h : m.insn.immediates0 = imm.signExtend 16) : m.aamInputs.Presented := by
  intro _
  have hzero : imm.signExtend 16 = 0#16 ↔
      (imm.signExtend 16).extractLsb' 0 8 = 0#8 := by
    rw [Eval.low_signExtend]
    constructor
    · intro hwide
      rw [<- Eval.low_signExtend imm, hwide]
      rfl
    · intro hbyte
      rw [hbyte]
      rfl
  refine ⟨?_, ?_⟩
  · apply BitVec.eq_of_toNat_eq
    have hlt := m.al.isLt
    simp [aamInputs]
    omega
  · rw [aamInputs, h]
    exact hzero

theorem aam_divided {m : Machine} {imm : BitVec 8} {d : Divider}
    (h : m.insn.immediates0 = imm.signExtend 16)
    (hdone : Divider.Divided m.aamInputs d) :
    (d.error = true ↔ imm = 0#8) ∧
      (d.error = false ->
        d.quotient.extractLsb' 0 8 = m.al / imm ∧
          d.P.extractLsb' 8 8 = m.al % imm) := by
  have hdividend : m.aamInputs.dividendVal = m.al.toNat := by
    have hlt := m.al.isLt
    simp [Divider.Inputs.dividendVal, aamInputs]
    omega
  have hdivisor : m.aamInputs.divisorVal = imm.toNat := by
    simp [Divider.Inputs.divisorVal, aamInputs, h]
  have hfits : m.aamInputs.Representable
      (m.aamInputs.dividendVal.tdiv m.aamInputs.divisorVal) := by
    have hlt := m.al.isLt
    have hle := Nat.div_le_self m.al.toNat imm.toNat
    rw [hdividend, hdivisor]
    change 0 ≤ _ ∧ _ < (2 ^ 8 : Int)
    rw [Int.tdiv_eq_ediv_of_nonneg (by omega), <- Int.natCast_ediv]
    refine ⟨Int.natCast_nonneg _, ?_⟩
    exact_mod_cast lt_of_le_of_lt hle hlt
  rw [hdividend, hdivisor] at hfits
  refine ⟨?_, ?_⟩
  · rw [hdone.error_iff, hdividend, hdivisor,
      or_iff_left (not_not_intro hfits), Int.natCast_eq_zero]
    exact BitVec.toNat_inj (y := 0#8)
  · intro hok
    have hq := hdone.quotient hok
    have hr := hdone.remainder hok
    rw [hdividend, hdivisor] at hq hr
    rw [Int.tdiv_eq_ediv_of_nonneg (by omega), <- Int.natCast_ediv] at hq
    rw [Int.tmod_eq_emod_of_nonneg (by omega), <- Int.natCast_emod] at hr
    have hq' : (d.quotient.extractLsb' 0 8).toNat = m.al.toNat / imm.toNat :=
      Int.ofNat_inj.mp hq
    have hr' : (((d.P.extractLsb' 8 8).signExtend 16).extractLsb' 0 8).toNat =
        m.al.toNat % imm.toNat := Int.ofNat_inj.mp hr
    rw [Eval.low_signExtend] at hr'
    exact ⟨BitVec.eq_of_toNat_eq (hq'.trans BitVec.toNat_udiv.symm),
      BitVec.eq_of_toNat_eq (hr'.trans BitVec.toNat_umod.symm)⟩

/-- What `AAM` starts its division with. -/
theorem steps_aam {m : Machine} {imm : BitVec 8}
    (h : m.insn.immediates0 = imm.signExtend 16) :
    exists d, Divider.Divided m.aamInputs d ∧
      Steps 0xd4 m (if d.error then Core.divideErrorAddress else 0x1cb)
        (((m.follow aamOperands).afterDivision aamDivision d).advance
          aamDivision) := by
  have hpath := steps_of_path (m := m) (aam_path m.control) rfl trivial
  obtain ⟨d, hdone, hstep⟩ := steps_division (a := 0x1ca)
    (u := aamDivision) (m := m.follow aamOperands) rfl aamDivision_isDivision
    (fun h8 => by simp [aamDivision] at h8)
    (by rw [aam_inputs]; exact aam_presented h) rfl (by decide) (by decide)
  rw [aam_inputs] at hdone
  exact ⟨d, hdone, hpath.trans hstep⟩

theorem retires_aam {m : Machine} {imm : BitVec 8}
    (h : m.insn.immediates0 = imm.signExtend 16) (hne : imm ≠ 0#8) :
    let ax := (m.al / imm) ++ (m.al % imm)
    exists x, Retires 0xd4 m x ∧
      m.Leaves x ax resultUpdates
        (ALU.doAdd false ax 0#16 m.flags.flagsOut).2 := by
  obtain ⟨d, hdone, hsteps⟩ := steps_aam h
  obtain ⟨herror, hresult⟩ := aam_divided h hdone
  have hok : d.error = false := by
    cases hd : d.error with
    | false =>
        rfl
    | true =>
        exact absurd (herror.mp hd) hne
  obtain ⟨hq, hr⟩ := hresult hok
  rw [hok] at hsteps
  have hlast := hsteps.retires (retires_of_program (aam_program _))
  refine ⟨_, hlast, ?_, ?_⟩
  · simp [aamResults, aamOperands, aamDivision, afterDivision, hq, hr]
  · simp [aamResults, aamOperands, aamDivision, afterDivision, hq, hr]

theorem retires_aam_zero {m : Machine} (h : m.insn.immediates0 = 0#16)
    (hip : m.newIp = none) :
    exists x, Retires 0xd4 m x ∧ x.gprs AX = m.gprs AX ∧
      x.flags = { m.flags with I := false, T := false } := by
  have hzero : m.insn.immediates0 = (0#8).signExtend 16 := h
  obtain ⟨d, hdone, hsteps⟩ := steps_aam hzero
  have herror := (aam_divided hzero hdone).1.mpr rfl
  rw [herror] at hsteps
  have hlast := hsteps.retires (retires_divideError
    (by simp [aamOperands, aamDivision, afterDivision, hip]))
  have hkeeps (v : BitVec 16) : m.gprs.set SP v AX = m.gprs AX :=
    Eval.gprs_set_ne _ _ (by decide)
  refine ⟨_, hlast, ?_, ?_⟩
  · simp [entered, aamOperands, aamDivision, afterDivision, hkeeps]
  · simp [entered, aamOperands, aamDivision, afterDivision]

end Machine
end Rtl
end S80x86
