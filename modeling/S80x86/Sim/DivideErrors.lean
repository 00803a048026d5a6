import S80x86.Rtl.DivisionPrograms
import S80x86.Sim.CoreStates
import S80x86.Sim.OverLong
import S80x86.Sim.TwoOperands

/-!
# Divisions and the divide error

`DIV` and `IDIV` in the emulator against truncated division, and the frame of
the divide error against the one that the core pushes.
-/

open Foundation

namespace S80x86
namespace Sim

open Foundation.Effect Foundation.Clocked
open Rtl.Machine (Division)

variable {W : Type}

/-!
## The emulator
-/

section Handlers

variable (v : Division)

def operandWidth : OperandWidth :=
  if v.is8Bit then .OP_WIDTH_8 else .OP_WIDTH_16

/-- The number that bits stand for. -/
def numberOf {n : Nat} (x : BitVec n) : Int :=
  if v.isSigned then x.toInt else x.toNat

def dividend (r : RegisterFile) : Int :=
  if v.is8Bit then numberOf v r.ax else numberOf v (r.dx ++ r.ax)

def divisor (e : Emulator W) : Int :=
  numberOf v (e.operandValue (operandWidth v))

/-- The quotient fits in its register. -/
def QuotientFits (q : Int) : Prop :=
  let bits := if v.is8Bit then 8 else 16
  if v.isSigned then -(2 ^ (bits - 1)) ≤ q ∧ q < 2 ^ (bits - 1)
  else 0 ≤ q ∧ q < 2 ^ bits

instance (q : Int) : Decidable (QuotientFits v q) := by
  unfold QuotientFits
  infer_instance

/-- The divide error is due. -/
def Raises (e : Emulator W) : Prop :=
  divisor v e = 0 ∨
    ¬ QuotientFits v ((dividend v e.registers).tdiv (divisor v e))

instance (e : Emulator W) : Decidable (Raises v e) :=
  inferInstanceAs (Decidable (_ ∨ _))

/-- The state with quotient and remainder in their registers. -/
def divided (e : Emulator W) : Emulator W :=
  let a := dividend v e.registers
  let b := divisor v e
  let remainder := BitVec.ofInt 16 (a.tmod b)
  let quotient := BitVec.ofInt 16 (a.tdiv b)
  { e with
    registers :=
      if v.is8Bit then (e.registers.set .AH remainder).set .AL quotient
      else (e.registers.set .DX remainder).set .AX quotient }

/-- The host has no quotient of the least `int` and -1. -/
def Undefined (e : Emulator W) : Prop :=
  v.isSigned = true ∧ v.is8Bit = false ∧
    dividend v e.registers = -2 ^ 31 ∧ divisor v e = -1

instance (e : Emulator W) : Decidable (Undefined v e) :=
  inferInstanceAs (Decidable (_ ∧ _))

/-- What a handler leaves once its operands are known. -/
def Outcome (env : Environment W) (e t : Emulator W) : Prop :=
  if Undefined v e then False
  else if Raises v e then Returns divideError env e () t
  else t = divided v e

end Handlers

theorem set_set_iff {env : Environment W} {e t : Emulator W} {x y : GPR}
    {a b : BitVec 16} :
    Returns (do set x a; set y b) env e () t ↔
      t = { e with registers := (e.registers.set x a).set y b } := by
  have hset : Returns (set x a) env e ()
      { e with registers := e.registers.set x a } := rfl
  rw [hset.bind_iff]
  exact returns_modify

/-- The branches of a handler. -/
theorem outcome_iff {v : Division} {env : Environment W} {e t : Emulator W}
    {c : Prop} [Decidable c] {x y : GPR} {a b : BitVec 16}
    (hundefined : ¬ Undefined v e) (hraises : Raises v e ↔ c)
    (hdivided : ¬ c -> divided v e =
      { e with registers := (e.registers.set x a).set y b }) :
    Returns (if c then divideError else do set x a; set y b) env e () t ↔
      Outcome v env e t := by
  unfold Outcome
  rw [if_neg hundefined]
  by_cases h : c
  · rw [if_pos h, if_pos (hraises.mpr h)]
  · rw [if_neg h, if_neg (mt hraises.mp h), set_set_iff, hdivided h]

theorem ofInt_tdiv (a b : Nat) :
    BitVec.ofInt 16 ((a : Int).tdiv b) = BitVec.ofNat 16 (a / b) := by
  rw [← Int.ofNat_tdiv]
  exact BitVec.ofInt_natCast 16 (a / b)

theorem ofInt_tmod (a b : Nat) :
    BitVec.ofInt 16 ((a : Int).tmod b) = BitVec.ofNat 16 (a % b) := by
  rw [← Int.ofNat_tmod]
  exact BitVec.ofInt_natCast 16 (a % b)

/-!
## Each handler
-/

/-- Numbers without a sign. -/
theorem raises_unsigned {is8Bit : Bool} {e : Emulator W} {a b : Nat}
    (ha : dividend ⟨false, is8Bit⟩ e.registers = a)
    (hb : divisor ⟨false, is8Bit⟩ e = b) :
    Raises ⟨false, is8Bit⟩ e ↔
      b = 0 ∨ 2 ^ (if is8Bit then 8 else 16) ≤ a / b := by
  unfold Raises QuotientFits
  rw [ha, hb, ← Int.ofNat_tdiv, Int.natCast_eq_zero]
  generalize a / b = q
  apply or_congr Iff.rfl
  cases is8Bit with
  | false =>
      simp only [Bool.false_eq_true, if_false]
      omega
  | true =>
      simp only [Bool.false_eq_true, if_false, if_true]
      omega

/-- Numbers with a sign. -/
theorem raises_signed {is8Bit : Bool} {e : Emulator W} {a b : Int}
    (ha : dividend ⟨true, is8Bit⟩ e.registers = a)
    (hb : divisor ⟨true, is8Bit⟩ e = b) :
    Raises ⟨true, is8Bit⟩ e ↔
      b = 0 ∨ a.tdiv b < -2 ^ (if is8Bit then 7 else 15) ∨
        a.tdiv b > 2 ^ (if is8Bit then 7 else 15) - 1 := by
  unfold Raises QuotientFits
  rw [ha, hb]
  apply or_congr Iff.rfl
  cases is8Bit with
  | false =>
      simp only [Bool.false_eq_true, if_false, if_true]
      omega
  | true =>
      simp only [if_true]
      omega

theorem not_undefined {v : Division} {e : Emulator W}
    (h : v.isSigned = false ∨ v.is8Bit = true) : ¬ Undefined v e := by
  rintro ⟨hsigned, hword, -⟩
  rw [hsigned, hword] at h
  rcases h with h | h <;> cases h

/-- The quotient that the host lacks would not fit. -/
theorem undefined_raises {v : Division} {e : Emulator W}
    (h : Undefined v e) : Raises v e := by
  obtain ⟨hsigned, hword, ha, hb⟩ := h
  refine .inr ?_
  unfold QuotientFits
  rw [ha, hb, hsigned, hword]
  decide

section Runs

variable {env : Environment W} (henv : env.addressing = Addressing.emulator)
  {e t : Emulator W} (hdecoded : e.Decoded)
include henv hdecoded

theorem divf6_iff (hfits : e.operandFits .OP_WIDTH_8) :
    Returns divf6 env e () t ↔ Outcome ⟨false, true⟩ env e t := by
  have hread := readData_returns henv hdecoded hfits
  have hget : Returns (get .AX) env e e.registers.ax e := rfl
  have ha : dividend ⟨false, true⟩ e.registers = e.registers.ax.toNat := rfl
  have hb : divisor ⟨false, true⟩ e =
      (e.operandValue .OP_WIDTH_8).toNat := rfl
  unfold divf6
  rw [hread.bind_iff, hget.bind_iff]
  apply outcome_iff (not_undefined (.inl rfl))
  · rw [raises_unsigned ha hb, BitVec.toNat_eq]
    rfl
  · intro _
    unfold divided
    dsimp only
    rw [ha, hb, ofInt_tdiv, ofInt_tmod]
    rfl

theorem divf7_iff (hfits : e.operandFits .OP_WIDTH_16) :
    Returns divf7 env e () t ↔ Outcome ⟨false, false⟩ env e t := by
  have hread := readData_returns henv hdecoded hfits
  have ha : dividend ⟨false, false⟩ e.registers =
      (e.registers.dx ++ e.registers.ax).toNat := rfl
  have hb : divisor ⟨false, false⟩ e =
      (e.operandValue .OP_WIDTH_16).toNat := rfl
  unfold divf7
  rw [hread.bind_iff, (getDxAx_returns env e).bind_iff]
  apply outcome_iff (not_undefined (.inl rfl))
  · rw [raises_unsigned ha hb, BitVec.toNat_eq]
    rfl
  · intro _
    unfold divided
    dsimp only
    rw [ha, hb, ofInt_tdiv, ofInt_tmod]
    rfl

theorem idivf6_iff (hfits : e.operandFits .OP_WIDTH_8) :
    Returns idivf6 env e () t ↔ Outcome ⟨true, true⟩ env e t := by
  have hread := readData_returns henv hdecoded hfits
  have hget : Returns (get .AX) env e e.registers.ax e := rfl
  have ha : dividend ⟨true, true⟩ e.registers = e.registers.ax.toInt := rfl
  have hb : divisor ⟨true, true⟩ e =
      (e.operandValue .OP_WIDTH_8).toInt := rfl
  unfold idivf6
  rw [hread.bind_iff, hget.bind_iff]
  apply outcome_iff (not_undefined (.inr rfl))
  · rw [raises_signed ha hb, ← BitVec.toInt_inj]
    rfl
  · intro _
    rfl

theorem idivf7_iff (hfits : e.operandFits .OP_WIDTH_16) :
    Returns idivf7 env e () t ↔ Outcome ⟨true, false⟩ env e t := by
  have hread := readData_returns henv hdecoded hfits
  have ha : dividend ⟨true, false⟩ e.registers =
      (e.registers.dx ++ e.registers.ax).toInt := rfl
  have hb : divisor ⟨true, false⟩ e =
      (e.operandValue .OP_WIDTH_16).toInt := rfl
  have hraises := raises_signed ha hb
  have hundefined : Undefined ⟨true, false⟩ e ↔
      e.registers.dx ++ e.registers.ax = 0x80000000#32 ∧
        e.operandValue .OP_WIDTH_16 = 0xffff#16 := by
    unfold Undefined
    rw [ha, hb, ← BitVec.toInt_inj, ← BitVec.toInt_inj]
    simp
  have hzero : (e.operandValue .OP_WIDTH_16).toInt = 0 ↔
      e.operandValue .OP_WIDTH_16 = 0#16 := by
    rw [← BitVec.toInt_inj]
    rfl
  unfold idivf7
  rw [hread.bind_iff, (getDxAx_returns env e).bind_iff]
  by_cases hu : Undefined ⟨true, false⟩ e
  · have hu' := hundefined.mp hu
    unfold Outcome
    rw [if_pos hu, if_neg (by rw [hu'.2]; decide), if_pos hu']
    exact iff_of_false not_returns_fault id
  · by_cases hb0 : e.operandValue .OP_WIDTH_16 = 0#16
    · unfold Outcome
      rw [if_neg hu, if_pos hb0, if_pos (hraises.mpr (.inl (hzero.mpr hb0)))]
    · rw [if_neg hb0, if_neg (mt hundefined.mpr hu)]
      apply outcome_iff hu
      · rw [hraises, hzero, or_iff_right hb0]
        rfl
      · intro _
        rfl

end Runs

/-!
## The instructions
-/

section Instructions

variable {env : Environment W} (henv : env.addressing = Addressing.emulator)
include henv

/-- The start of a handler that goes on by the register field. -/
theorem group_iff {w : OperandWidth} {f : BitVec 3 -> EmuM W Unit}
    {e t : Emulator W} :
    Returns (do setWidth w; decode; let r ← rawReg; f r) env e () t ↔
      Returns (f (e.decodedFor w).modrmDecoder.rawReg) env (e.decodedFor w) ()
        t := by
  have hlinear : env.addressing.LinearBytes := by
    rw [henv]
    exact Addressing.linearBytes_emulator
  have hwidth : Returns (setWidth w) env e ()
      { e with modrmDecoder := { e.modrmDecoder with width := w } } := rfl
  have hdecode : Returns decode env
      { e with modrmDecoder := { e.modrmDecoder with width := w } } ()
      (e.decodedFor w) := decode_returns hlinear _
  have hraw : Returns rawReg env (e.decodedFor w)
      (e.decodedFor w).modrmDecoder.rawReg (e.decodedFor w) :=
    decoded_returns _ (decodedFor_decoded w e).isDecoded
  rw [hwidth.bind_iff, hdecode.bind_iff, hraw.bind_iff]

/-- The state in which the operand of a division is known. -/
def atOperand (v : Division) (e : Emulator W) : Emulator W :=
  e.decodedFor (operandWidth v)

variable {v : Division} {e t : Emulator W}
  (hdigit : (atOperand v e).modrmDecoder.rawReg = v.digit)
  (hfits : (atOperand v e).operandFits (operandWidth v))
include hdigit hfits

theorem execute_division :
    Returns (execute v.opcode) env e () t ↔
      Outcome v env (atOperand v e) t := by
  have hdecoded : (atOperand v e).Decoded := decodedFor_decoded _ e
  obtain ⟨isSigned, is8Bit⟩ := v
  cases is8Bit with
  | true =>
      change Returns negMulNotTestDivF6 env e () t ↔ _
      refine (group_iff henv).trans ?_
      rw [show (e.decodedFor .OP_WIDTH_8).modrmDecoder.rawReg = _ from hdigit]
      cases isSigned with
      | true => exact idivf6_iff henv hdecoded hfits
      | false => exact divf6_iff henv hdecoded hfits
  | false =>
      change Returns negMulNotTestDivF7 env e () t ↔ _
      refine (group_iff henv).trans ?_
      rw [show (e.decodedFor .OP_WIDTH_16).modrmDecoder.rawReg = _ from hdigit]
      cases isSigned with
      | true => exact idivf7_iff henv hdecoded hfits
      | false => exact divf7_iff henv hdecoded hfits

end Instructions

/-!
## The frame of the divide error
-/

/-- Nothing but `SP`, `IF`, `TF`, `CS`, `IP` and the pushed bytes changes. -/
structure Faulted (e t : Emulator W) : Prop where
  registers : forall r : GPR, r ≠ .SP -> r ≠ .CS -> r ≠ .IP ->
    t.registers.get r = e.registers.get r
  flags : t.registers.getFlags =
    e.registers.getFlags &&& ~~~(Flag.IF ||| Flag.TF)
  sp : t.registers.sp = e.registers.sp - 6#16
  cs : t.registers.cs = t.mem.word 2
  ip : t.registers.ip = t.mem.word 0
  mem : forall a, ¬ InFrame e.registers a -> t.mem.mem a = e.mem.mem a

theorem cleared_flags (r : RegisterFile) :
    (r.setFlags (r.getFlags &&& ~~~(Flag.IF ||| Flag.TF))
      (Flag.IF ||| Flag.TF)).getFlags =
        r.getFlags &&& ~~~(Flag.IF ||| Flag.TF) := by
  unfold RegisterFile.getFlags RegisterFile.setFlags
  simp only
  generalize r.flags = f
  simp only [Flag.IF, Flag.TF, Flag.CF, Flag.PF, Flag.AF, Flag.ZF, Flag.SF,
    Flag.DF, Flag.OF, Flag.reservedMask, Flag.validMask, Flag.stuckBits,
    BitVec.reduceOr, BitVec.reduceAnd, BitVec.reduceNot]
  ext i hi
  simp only [BitVec.getElem_or, BitVec.getElem_and]
  interval_cases i <;> simp

theorem interrupted_faulted (e : Emulator W) :
    Faulted e (e.interrupted e.registers.getFlags e.registers.ip
      Vector.DIVIDE_ERROR) := by
  have hregs := Emulator.interrupted_registers e.registers.getFlags
    e.registers.ip Vector.DIVIDE_ERROR e
  have hmem := Emulator.interrupted_mem e.registers.getFlags
    e.registers.ip Vector.DIVIDE_ERROR e
  constructor
  · intro r hsp hcs hip
    rw [hregs]
    cases r <;> first | rfl | contradiction
  · rw [hregs]
    exact cleared_flags e.registers
  · rw [hregs]
  · rw [hregs, hmem]
    rfl
  · rw [hregs, hmem]
    rfl
  · intro a ha
    rw [hmem]
    exact Emulator.framed_mem _ _ ha

section Frame

variable {env : Environment W} (henv : env.addressing = Addressing.emulator)
include henv

/-- What a divide error leaves when the frame lies in memory, and that it does
if the emulator goes on. -/
theorem divideError_iff {e t : Emulator W} :
    Returns divideError env e () t ↔
      FrameFits e.registers ∧
        t = e.interrupted e.registers.getFlags e.registers.ip
          Vector.DIVIDE_ERROR := by
  constructor
  · intro h
    have hfits : FrameFits e.registers := by
      obtain ⟨flags, s, hflags, hwith⟩ := returns_bind.mp h
      obtain ⟨rfl, rfl⟩ := returns_gets.mp hflags
      refine interruptWith_fits henv s.registers.ip ?_ hwith
      intro s' hip _
      rw [← hip]
      rfl
    exact ⟨hfits, (h.unique (interruptHere_returns henv hfits
      (by decide))).2⟩
  · rintro ⟨hfits, rfl⟩
    exact interruptHere_returns henv hfits (by decide)

end Frame

section Core

variable {e : Emulator W} {m : Rtl.Machine} (h : SameState e m.arch)
include h

/-- The core pushes the same words, with its own address. -/
theorem framed_eq :
    m.framed = (e.framed e.registers.getFlags m.ip).mem := by
  have hss : m.segments .SS = e.registers.ss := h.segments .SS
  have hcs : m.segments .CS = e.registers.cs := h.segments .CS
  have hsp : m.gprs Rtl.GPR.SP = e.registers.sp := congrFun h.gprs _
  have hflags : m.flags.flagsOut = e.registers.getFlags := h.flags
  have hmem : m.mem = e.mem.mem := h.mem
  unfold Rtl.Machine.framed Emulator.framed
  dsimp only
  rw [hss, hcs, hsp, hflags, hmem, storeWord_eq, storeWord_eq, storeWord_eq]
  rfl

/-- The divide error of the core and of the emulator, for the same numbers. -/
theorem divide_error_iff {v : Division} (h' : SameOperand e m)
    (hwidth : e.modrmDecoder.width = operandWidth v) :
    ((v.inputs m).divisorVal = 0 ∨ ¬ (v.inputs m).Representable
      ((v.inputs m).dividendVal.tdiv (v.inputs m).divisorVal)) ↔
        Raises v e := by
  have hax : m.gprs Rtl.GPR.AX = e.registers.ax := congrFun h.gprs _
  have hdx : m.gprs Rtl.GPR.DX = e.registers.dx := congrFun h.gprs _
  have hoperand := operand_eq h h' hwidth
  have hdividend : (v.inputs m).dividendVal = dividend v e.registers := by
    rw [v.inputs_dividend, hax, hdx]
    obtain ⟨isSigned, is8Bit⟩ := v
    cases isSigned <;> cases is8Bit <;> rfl
  have hdivisor : (v.inputs m).divisorVal = divisor v e := by
    rw [v.inputs_divisor]
    obtain ⟨isSigned, is8Bit⟩ := v
    cases is8Bit with
    | false =>
        have hword : m.operand false = e.operandValue .OP_WIDTH_16 :=
          hoperand.trans (BitVec.setWidth_eq _)
        cases isSigned <;> simp [hword, divisor, numberOf, operandWidth]
    | true =>
        have hbyte : (m.operand true).extractLsb' 0 8 =
            e.operandValue .OP_WIDTH_8 := by
          rw [show m.operand true = _ from hoperand]
          exact Bits.extractLsb'_low_setWidth _
        cases isSigned <;> simp [hbyte, divisor, numberOf, operandWidth]
  rw [hdividend, hdivisor]
  rfl

end Core

/-!
## Both together
-/

/-- The same words in the frame. -/
def SameFrame (e t : Emulator W) (x : Rtl.Arch) : Prop :=
  let r := e.registers
  forall k, k ∈ [2, 4, 6] ->
    t.mem.word (r.stackAddress (r.sp - BitVec.ofNat 16 k)) =
      Rtl.Machine.loadWord x.mem r.ss (r.sp - BitVec.ofNat 16 k)

/-- Truncated division, or else the divide error alone, with the frame that
the core pushes. -/
def Divides (env : Environment W) (v : Division) (e : Emulator W)
    (x : Rtl.Arch) : Prop :=
  exists t, Returns (execute v.opcode) env e () t ∧
    if Raises v (atOperand v e) then Faulted e t ∧ SameFrame e t x
    else t = divided v (atOperand v e)

/-- The emulator and the core before the same division. -/
structure BeforeDivision (v : Division) (e : Emulator W) (s : Rtl.Core) :
    Prop where
  starts : s.Starts v.opcode
  digit : s.machine.modrm.regnum = v.digit
  state : SameState (atOperand v e) s.machine.arch
  operand : SameOperand (atOperand v e) s.machine
  fits : (atOperand v e).operandFits (operandWidth v)
  ip : s.machine.ip =
    e.registers.ip + BitVec.ofNat 16 (atOperand v e).instrLength
  length : (atOperand v e).instrLength < 16

section Both

variable {env : Environment W} (henv : env.addressing = Addressing.emulator)
  {v : Division} {e : Emulator W} {s : Rtl.Core} (h : BeforeDivision v e s)
include h

/-- The core is past the instruction. -/
theorem BeforeDivision.ip_ne : s.machine.ip ≠ e.registers.ip := by
  have hlength := h.length
  have hpos : 0 < (atOperand v e).instrLength := by
    change 0 < _ + 1 + _
    omega
  rw [h.ip]
  intro heq
  have hzero := BitVec.add_right_eq_self.mp heq
  have htoNat := congrArg BitVec.toNat hzero
  simp only [BitVec.toNat_ofNat] at htoNat
  omega

theorem BeforeDivision.core_raises : ((v.inputs s.machine).divisorVal = 0 ∨
    ¬ (v.inputs s.machine).Representable
      ((v.inputs s.machine).dividendVal.tdiv
        (v.inputs s.machine).divisorVal)) ↔ Raises v (atOperand v e) :=
  divide_error_iff h.state h.operand (afterDecode_width _)

include henv

theorem BeforeDivision.execute_iff {t : Emulator W} :
    Returns (execute v.opcode) env e () t ↔
      Outcome v env (atOperand v e) t :=
  execute_division henv (h.operand.modrm.regnum.trans h.digit) h.fits

theorem BeforeDivision.divides (hok : ¬ Raises v (atOperand v e)) :
    exists x, Rtl.Retires v.opcode.toNat s.machine x ∧ Divides env v e x := by
  obtain ⟨x, hx⟩ := Division.retires_result h.digit (mt h.core_raises.mp hok)
  refine ⟨x, hx, divided v (atOperand v e), ?_, ?_⟩
  · rw [h.execute_iff henv]
    unfold Outcome
    rw [if_neg (mt undefined_raises hok), if_neg hok]
  · rw [if_neg hok]

/-- Flags and `CS` are pushed alike, and nothing else changes. -/
theorem BeforeDivision.raised (hraises : Raises v (atOperand v e))
    (hdefined : ¬ Undefined v (atOperand v e))
    (hfits : FrameFits e.registers) :
    exists t x, Returns (execute v.opcode) env e () t ∧
      Rtl.Retires v.opcode.toNat s.machine x ∧ Faulted e t ∧
      forall k, k ∈ [2, 4] ->
        t.mem.word (e.registers.stackAddress
            (e.registers.sp - BitVec.ofNat 16 k)) =
          Rtl.Machine.loadWord x.mem e.registers.ss
            (e.registers.sp - BitVec.ofNat 16 k) := by
  have hrun := @interruptHere_returns _ _ henv (atOperand v e)
    Vector.DIVIDE_ERROR hfits (by decide)
  have hf := interrupted_faulted (atOperand v e)
  refine ⟨_, _, ?_, Division.retires_error h.digit h.starts.newIp
    (h.core_raises.mpr hraises),
    ⟨hf.registers, hf.flags, hf.sp, hf.cs, hf.ip, hf.mem⟩, ?_⟩
  · rw [h.execute_iff henv]
    unfold Outcome
    rw [if_neg hdefined, if_pos hraises]
    exact hrun
  · intro k hk
    have hcore (a : BitVec 16) : Rtl.Machine.loadWord
        (s.machine.entered 0#16).mem e.registers.ss a =
          ((atOperand v e).framed e.registers.getFlags s.machine.ip).word
            (e.registers.stackAddress a) := by
      change Rtl.Machine.loadWord s.machine.framed _ _ = _
      rw [framed_eq h.state, loadWord_eq]
      rfl
    rw [hcore, Emulator.interrupted_mem]
    simp only [List.mem_cons, List.not_mem_nil, or_false] at hk
    rcases hk with rfl | rfl
    · exact (Emulator.framed_flags (e := atOperand v e) _ _ hfits).trans
        (Emulator.framed_flags (e := atOperand v e) _ _ hfits).symm
    · exact (Emulator.framed_cs (e := atOperand v e) _ _ hfits).trans
        (Emulator.framed_cs (e := atOperand v e) _ _ hfits).symm

theorem BeforeDivision.not_divides (hraises : Raises v (atOperand v e)) :
    exists x, Rtl.Retires v.opcode.toNat s.machine x ∧ ¬ Divides env v e x := by
  refine ⟨_, Division.retires_error h.digit h.starts.newIp
    (h.core_raises.mpr hraises), ?_⟩
  rintro ⟨t, hrun, hout⟩
  rw [if_pos hraises] at hout
  rw [h.execute_iff henv] at hrun
  unfold Outcome at hrun
  split at hrun
  · exact hrun
  rw [divideError_iff henv] at hrun
  obtain ⟨hfits, rfl⟩ := hrun
  have hframe := hout.2 6 (by simp)
  rw [Emulator.interrupted_mem] at hframe
  have hleft := Emulator.framed_ip (e := atOperand v e)
    e.registers.getFlags e.registers.ip hfits
  have hright := Emulator.framed_ip (e := atOperand v e)
    e.registers.getFlags s.machine.ip hfits
  have hcore : Rtl.Machine.loadWord (s.machine.entered 0#16).mem
      e.registers.ss (e.registers.sp - 6#16) = s.machine.ip := by
    change Rtl.Machine.loadWord s.machine.framed _ _ = _
    rw [framed_eq h.state, loadWord_eq]
    exact hright
  exact h.ip_ne (hcore.symm.trans (hframe.symm.trans hleft))

end Both

/-- The emulator divides as claimed just when no divide error is due: there it
returns to the division and the core to the instruction after it. -/
theorem divides_iff {env : Environment W}
    (henv : env.addressing = Addressing.emulator) {v : Division}
    {e : Emulator W} {s : Rtl.Core} (h : BeforeDivision v e s)
    {inputs : Nat -> Rtl.Core.Input}
    (hready : Recurs (fun i => i.ready = true) inputs) :
    exists x, s.Executes inputs x ∧
      (Divides env v e x ↔ ¬ Raises v (atOperand v e)) := by
  have hplain : Rtl.Core.plainOpcode v.opcode = true := by
    obtain ⟨isSigned, is8Bit⟩ := v
    cases isSigned <;> cases is8Bit <;> decide
  by_cases hraises : Raises v (atOperand v e)
  · obtain ⟨x, hx, hnot⟩ := h.not_divides henv hraises
    exact ⟨x, h.starts.executes hplain hx hready,
      iff_of_false hnot (not_not_intro hraises)⟩
  · obtain ⟨x, hx, hdivides⟩ := h.divides henv hraises
    exact ⟨x, h.starts.executes hplain hx hready,
      iff_of_true hdivides hraises⟩

/-- A division of `AX` by `BL`, at the address zero. -/
def beforeDivBl (ax bx : BitVec 16) : Emulator Unit :=
  { (Emulator.fresh () fun _ => 0xf3#8 : Emulator Unit) with
    registers := { RegisterFile.reset with ax := ax, bx := bx, sp := 8#16 }
    instrLength := 1 }

def noFlags : Rtl.Flags :=
  { C := false, P := false, A := false, Z := false, S := false, T := false
    I := false, D := false, O := false }

/-- The ModRM byte names `BL`. -/
def divBlDecoder : ModRMDecoder :=
  { width := .OP_WIDTH_8, modrm := 0xf3#8, cachedAddress := 0#16
    addrIsCached := false, isDecoded := true }

def coreDivBlDecoder : Rtl.ModRMDecode.State :=
  { effectiveAddress := 0#16, regnum := 6#3, rmIsReg := true
    rmRegnum := 3#3, bpAsBase := false }

/-- A core before the same division. -/
def coreBeforeDivBl (ax bx : BitVec 16) : Rtl.Core :=
  { Rtl.Core.atStart
      { Rtl.Instruction.zero with opcode := 0xf6#8, length := 2#4 }
      { gprs := (beforeDivBl ax bx).registers.words
        segments := fun n =>
          (beforeDivBl ax bx).registers.get (segmentRegister n)
        flags := noFlags
        ip := (beforeDivBl ax bx).registers.ip
        mem := (beforeDivBl ax bx).mem.mem } with
    modrm := coreDivBlDecoder }

theorem beforeDivBl_decoder (ax bx : BitVec 16) :
    (atOperand ⟨false, true⟩ (beforeDivBl ax bx)).modrmDecoder =
      divBlDecoder :=
  if_neg (show ¬ divBlDecoder.rmType = .OP_MEM by decide)

theorem beforeDivBl_division (ax bx : BitVec 16) :
    BeforeDivision ⟨false, true⟩ (beforeDivBl ax bx)
      (coreBeforeDivBl ax bx) := by
  have hdecoder := beforeDivBl_decoder ax bx
  have hlength : (atOperand ⟨false, true⟩
      (beforeDivBl ax bx)).instrLength = 2 := by
    change 1 + 1 + displacementBytes 0xf3#8 = 2
    decide
  have hflags : noFlags.flagsOut = RegisterFile.reset.getFlags := by decide
  have hmodrm : ModrmAgree divBlDecoder coreDivBlDecoder := by
    constructor <;> decide
  constructor
  · exact ⟨⟨rfl, rfl, rfl, rfl, ⟨rfl, rfl, rfl⟩, rfl⟩, rfl, rfl, rfl⟩
  · rfl
  · exact ⟨rfl, fun _ => rfl, hflags, rfl⟩
  · refine ⟨?_, rfl⟩
    rw [hdecoder]
    exact hmodrm
  · intro hmem
    rw [hdecoder] at hmem
    cases hmem
  · rw [hlength]
    rfl
  · rw [hlength]
    decide

/-- A hundred by twenty. -/
theorem divides_iff_hundred :
    exists x, (coreBeforeDivBl 100#16 20#16).Executes
        (fun _ => Rtl.Core.undisturbed) x ∧
      (Divides Environment.bare ⟨false, true⟩ (beforeDivBl 100#16 20#16) x ↔
        ¬ Raises ⟨false, true⟩
          (atOperand ⟨false, true⟩ (beforeDivBl 100#16 20#16))) :=
  divides_iff rfl (beforeDivBl_division _ _) Rtl.Core.undisturbed_recurs

/-- A division by zero. -/
theorem not_divides_by_zero :
    exists x, (coreBeforeDivBl 100#16 0#16).Executes
        (fun _ => Rtl.Core.undisturbed) x ∧
      ¬ Divides Environment.bare ⟨false, true⟩ (beforeDivBl 100#16 0#16) x := by
  have hbefore := beforeDivBl_division 100#16 0#16
  obtain ⟨x, hx, hnot⟩ := @BeforeDivision.not_divides _ Environment.bare rfl
    _ _ _ hbefore (by decide)
  exact ⟨x, hbefore.starts.executes rfl hx Rtl.Core.undisturbed_recurs, hnot⟩

end Sim
end S80x86
