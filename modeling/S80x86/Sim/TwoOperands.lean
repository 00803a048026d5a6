import S80x86.Sim.FlagMeanings
import S80x86.Sim.Operands

/-!
# Instructions on two operands

The forms in which `ADC`, `SBB` and `CMP` are encoded, the operands a form
reads, and what the instruction leaves in the flags and in its destination.
-/

open Foundation

namespace S80x86
namespace Sim

open Foundation.Effect

variable {W : Type}

inductive ArithmeticOp where
  | adc
  | sbb
  | cmp
  deriving DecidableEq, Repr

namespace ArithmeticOp

/-- The first opcode of the family. -/
def base : ArithmeticOp -> BitVec 8
  | adc => 0x10#8
  | sbb => 0x18#8
  | cmp => 0x38#8

/-- The register field that selects the operation in the groups 80 to 83. -/
def digit : ArithmeticOp -> BitVec 3
  | adc => 2#3
  | sbb => 3#3
  | cmp => 7#3

def alu (w : OperandWidth) : ArithmeticOp -> Alu W w
  | adc => aluAdc w
  | sbb => aluSbb w
  | cmp => aluSub w

def stores : ArithmeticOp -> Bool
  | adc => true
  | sbb => true
  | cmp => false

def neg : ArithmeticOp -> Bool
  | adc => false
  | sbb => true
  | cmp => true

/-- The carry or borrow that goes into the operation. -/
def carryIn (r : RegisterFile) : ArithmeticOp -> Bool
  | adc => r.getFlag Flag.CF
  | sbb => r.getFlag Flag.CF
  | cmp => false

end ArithmeticOp

/-- How the operands of an instruction are encoded: `ModRM` byte and register,
an immediate for the accumulator, or an immediate under the opcodes 80 and 81,
or 82 and 83. -/
inductive Form where
  | rmReg
  | regRm
  | accumulator
  | group
  | shortGroup
  deriving DecidableEq, Repr

namespace Form

def opcode (op : ArithmeticOp) : Form -> OperandWidth -> BitVec 8
  | rmReg, .OP_WIDTH_8 => op.base
  | rmReg, .OP_WIDTH_16 => op.base + 1#8
  | regRm, .OP_WIDTH_8 => op.base + 2#8
  | regRm, .OP_WIDTH_16 => op.base + 3#8
  | accumulator, .OP_WIDTH_8 => op.base + 4#8
  | accumulator, .OP_WIDTH_16 => op.base + 5#8
  | group, .OP_WIDTH_8 => 0x80#8
  | group, .OP_WIDTH_16 => 0x81#8
  | shortGroup, .OP_WIDTH_8 => 0x82#8
  | shortGroup, .OP_WIDTH_16 => 0x83#8

variable (w : OperandWidth)

/-- The `ModRM` byte and the operand it names. -/
@[reducible]
def modrmOperand : EmuM W (BitVec w.bits) := do
  setWidth w
  decode
  readData w false

/-- The register operand. -/
@[reducible]
def regOperand : EmuM W (BitVec w.bits) := do
  let r ← reg
  let v ← get r
  return v.setWidth w.bits

/-- The immediate of the opcodes 82 and 83. -/
@[reducible]
def shortImmediate : (w : OperandWidth) -> EmuM W (BitVec w.bits)
  | .OP_WIDTH_8 => fetch .OP_WIDTH_8
  | .OP_WIDTH_16 => fetchSigned

/-- The destination operand and the source operand. -/
def operands : Form -> EmuM W (BitVec w.bits × BitVec w.bits)
  | rmReg => do
      let v1 ← modrmOperand w
      let v2 ← regOperand w
      return (v1, v2)
  | regRm => do
      let v2 ← modrmOperand w
      let v1 ← regOperand w
      return (v1, v2)
  | accumulator => do
      let v1 ← get (Sim.accumulator w)
      let v2 ← fetch w
      return (v1.setWidth w.bits, v2)
  | group => do
      let v1 ← modrmOperand w
      let v2 ← fetch w
      return (v1, v2)
  | shortGroup => do
      let v1 ← modrmOperand w
      let v2 ← shortImmediate w
      return (v1, v2)

/-- Whether the `ModRM` byte of a group selects the operation. -/
def Selects (op : ArithmeticOp) (s : Emulator W) : Form -> Prop
  | rmReg => True
  | regRm => True
  | accumulator => True
  | group => s.modrmDecoder.rawReg = op.digit
  | shortGroup => s.modrmDecoder.rawReg = op.digit

/-- Write the destination. -/
def store (v : BitVec w.bits) : Form -> EmuM W Unit
  | rmReg => writeData w v false
  | regRm => do
      let dest ← reg
      set dest (v.setWidth 16)
  | accumulator => set (Sim.accumulator w) (v.setWidth 16)
  | group => writeData w v false
  | shortGroup => writeData w v false

/-- Read the destination. -/
def destination : Form -> EmuM W (BitVec w.bits)
  | rmReg => readData w false
  | regRm => regOperand w
  | accumulator => do
      let v ← get (Sim.accumulator w)
      return v.setWidth w.bits
  | group => readData w false
  | shortGroup => readData w false

end Form

/-!
## Handlers
-/

/-- What a handler does with its operands. -/
@[reducible]
def Form.finish (form : Form) (w : OperandWidth) (op : ArithmeticOp)
    (ab : BitVec w.bits × BitVec w.bits) : EmuM W Unit := do
  let out ← op.alu w ab.1 ab.2
  setFlags out.1 arithmeticFlags
  if op.stores then form.store w out.2

theorem aluAdc_comm (w : OperandWidth) (a b : BitVec w.bits) :
    (aluAdc w a b : EmuM W _) = aluAdc w b a := by
  unfold aluAdc doAdd doUnsigned doAlu aluResult
  simp only [BitVec.add_comm (BitVec.setWidth 32 (BitVec.setWidth 16 a)),
    BitVec.add_comm (BitVec.setWidth 32 (BitVec.setWidth 16 a) &&& _)]

variable (op : ArithmeticOp) (w : OperandWidth)

theorem execute_rmReg :
    (execute (Form.rmReg.opcode op w) : EmuM W Unit) =
      Form.rmReg.operands w >>= Form.rmReg.finish w op := by
  have hhandler : (execute (Form.rmReg.opcode op w) : EmuM W Unit) =
      aluRmReg w (op.alu w) arithmeticFlags op.stores := by
    cases op <;> cases w <;> rfl
  rw [hhandler]
  simp only [aluRmReg, Form.operands, Form.finish, Form.store, bind_assoc,
    pure_bind]

theorem execute_regRm :
    (execute (Form.regRm.opcode op w) : EmuM W Unit) =
      Form.regRm.operands w >>= Form.regRm.finish w op := by
  have hhandler : (execute (Form.regRm.opcode op w) : EmuM W Unit) =
      aluRegRm w (swapped (op.alu w)) arithmeticFlags op.stores := by
    cases op with
    | adc =>
        have hcomm : swapped (aluAdc w : Alu W w) = aluAdc w := by
          funext a b
          exact aluAdc_comm w b a
        change _ = aluRegRm w (swapped (aluAdc w)) arithmeticFlags true
        rw [hcomm]
        cases w <;> rfl
    | sbb =>
        cases w <;> rfl
    | cmp =>
        cases w <;> rfl
  rw [hhandler]
  simp only [aluRegRm, Form.operands, Form.finish, Form.store, bind_assoc,
    pure_bind]

theorem execute_accumulator :
    (execute (Form.accumulator.opcode op w) : EmuM W Unit) =
      Form.accumulator.operands w >>= Form.accumulator.finish w op := by
  have hhandler : (execute (Form.accumulator.opcode op w) : EmuM W Unit) =
      aluAcc w (op.alu w) arithmeticFlags op.stores := by
    cases op <;> cases w <;> rfl
  rw [hhandler]
  simp only [aluAcc, Form.operands, Form.finish, Form.store, bind_assoc,
    pure_bind]

/-!
## Operands that are read can be written
-/

/-- The destination of the form is known, and lies in memory if at all. -/
def Form.Ready (w : OperandWidth) (s : Emulator W) : Form -> Prop
  | .accumulator => True
  | _ => s.Decoded ∧ s.modrmDecoder.width = w ∧ s.operandFits w

section Ready

variable {env : Environment W} (henv : env.addressing = Addressing.emulator)
include henv

theorem modrmOperand_ready {w : OperandWidth} {e s : Emulator W}
    {v : BitVec w.bits} (h : Returns (Form.modrmOperand w) env e v s) :
    (s.Decoded ∧ s.modrmDecoder.width = w ∧ s.operandFits w) ∧
      s.registers = e.registers := by
  have hlinear : env.addressing.LinearBytes := by
    rw [henv]
    exact Addressing.linearBytes_emulator
  obtain ⟨_, e₁, hwidth, h⟩ := returns_bind.mp h
  obtain ⟨_, e₂, hdecode, h⟩ := returns_bind.mp h
  have hwidth := returns_modify.mp hwidth
  obtain ⟨-, rfl⟩ := hdecode.unique (decode_returns hlinear e₁)
  have hdecoded := afterDecode_decoded e₁
  have hFits := readData_fits henv hdecoded h
  obtain ⟨-, rfl⟩ := h.unique (readData_returns henv hdecoded hFits)
  refine ⟨⟨hdecoded, ?_, hFits⟩, ?_⟩
  · rw [afterDecode_width, hwidth]
  · rw [hwidth]
    rfl

omit henv in
theorem regOperand_returns {w : OperandWidth} {s : Emulator W}
    (h : s.Decoded) :
    Returns (Form.regOperand w) env s
      ((s.registers.get s.modrmDecoder.reg).setWidth w.bits) s := by
  refine returns_bind.mpr ⟨_, _, decoded_returns _ h.isDecoded, ?_⟩
  rfl

theorem fetch_state {w : OperandWidth} {s t : Emulator W} {v : BitVec w.bits}
    (h : Returns (fetch w) env s v t) :
    exists n, t = { s with instrLength := n } := by
  have hlinear : env.addressing.LinearBytes := by
    rw [henv]
    exact Addressing.linearBytes_emulator
  cases w with
  | OP_WIDTH_8 =>
      exact ⟨_, (h.unique (fetchByte_returns hlinear s)).2⟩
  | OP_WIDTH_16 =>
      exact ⟨_, (h.unique (fetch16bit_returns hlinear s)).2⟩

theorem shortImmediate_state {w : OperandWidth} {s t : Emulator W}
    {v : BitVec w.bits} (h : Returns (Form.shortImmediate w) env s v t) :
    exists n, t = { s with instrLength := n } := by
  cases w with
  | OP_WIDTH_8 =>
      exact fetch_state henv h
  | OP_WIDTH_16 =>
      obtain ⟨b, s₁, hfetch, hret⟩ := returns_bind.mp h
      obtain ⟨n, hn⟩ := fetch_state (w := .OP_WIDTH_8) henv hfetch
      obtain ⟨-, rfl⟩ := returns_pure.mp hret
      exact ⟨n, hn⟩

/-- Reading the operands makes the destination known and changes no
register. -/
theorem operands_ready {form : Form} {w : OperandWidth} {e s : Emulator W}
    {ab : BitVec w.bits × BitVec w.bits}
    (h : Returns (form.operands w) env e ab s) :
    form.Ready w s ∧ s.registers = e.registers := by
  cases form with
  | accumulator =>
      obtain ⟨v1, s₁, hget, h⟩ := returns_bind.mp h
      obtain ⟨v2, s₂, hfetch, h⟩ := returns_bind.mp h
      obtain ⟨-, rfl⟩ := returns_pure.mp h
      obtain ⟨n, rfl⟩ := fetch_state henv hfetch
      rw [(returns_gets.mp hget).2]
      exact ⟨trivial, rfl⟩
  | rmReg =>
      obtain ⟨v1, s₁, hmodrm, h⟩ := returns_bind.mp h
      obtain ⟨v2, s₂, hreg, h⟩ := returns_bind.mp h
      obtain ⟨-, rfl⟩ := returns_pure.mp h
      have hready := modrmOperand_ready henv hmodrm
      obtain ⟨-, rfl⟩ := hreg.unique (regOperand_returns hready.1.1)
      exact hready
  | regRm =>
      obtain ⟨v1, s₁, hmodrm, h⟩ := returns_bind.mp h
      obtain ⟨v2, s₂, hreg, h⟩ := returns_bind.mp h
      obtain ⟨-, rfl⟩ := returns_pure.mp h
      have hready := modrmOperand_ready henv hmodrm
      obtain ⟨-, rfl⟩ := hreg.unique (regOperand_returns hready.1.1)
      exact hready
  | group =>
      obtain ⟨v1, s₁, hmodrm, h⟩ := returns_bind.mp h
      obtain ⟨v2, s₂, hfetch, h⟩ := returns_bind.mp h
      obtain ⟨-, rfl⟩ := returns_pure.mp h
      obtain ⟨⟨hdecoded, hwidth, hFits⟩, hregs⟩ := modrmOperand_ready henv hmodrm
      obtain ⟨n, rfl⟩ := fetch_state henv hfetch
      exact ⟨⟨⟨hdecoded.isDecoded, hdecoded.addrIsCached⟩, hwidth, hFits⟩,
        hregs⟩
  | shortGroup =>
      obtain ⟨v1, s₁, hmodrm, h⟩ := returns_bind.mp h
      obtain ⟨v2, s₂, hfetch, h⟩ := returns_bind.mp h
      obtain ⟨-, rfl⟩ := returns_pure.mp h
      obtain ⟨⟨hdecoded, hwidth, hFits⟩, hregs⟩ := modrmOperand_ready henv hmodrm
      obtain ⟨n, rfl⟩ := shortImmediate_state henv hfetch
      exact ⟨⟨⟨hdecoded.isDecoded, hdecoded.addrIsCached⟩, hwidth, hFits⟩,
        hregs⟩

end Ready

theorem get_set_accumulator (r : RegisterFile) (w : OperandWidth)
    (v : BitVec w.bits) :
    ((r.set (accumulator w) (v.setWidth 16)).get (accumulator w)).setWidth
      w.bits = v := by
  have hacc : accumulator w = ModRMDecoder.gpr w 0#3 := by
    cases w <;> rfl
  rw [hacc]
  exact RegisterFile.get_set_gpr r w 0#3 v

theorem Form.Ready.setFlags {form : Form} {w : OperandWidth} {s : Emulator W}
    (h : form.Ready w s) (v mask : BitVec 16) :
    form.Ready w { s with registers := s.registers.setFlags v mask } := by
  cases form with
  | accumulator =>
      trivial
  | _ =>
      refine ⟨⟨h.1.isDecoded, h.1.addrIsCached⟩, h.2.1, ?_⟩
      intro hmem
      have hFits := h.2.2 hmem
      unfold Emulator.operandAddr at hFits ⊢
      rw [RegisterFile.get_setFlags]
      exact hFits

/-- What is stored in the destination is read back from it. -/
theorem store_returns {env : Environment W}
    (henv : env.addressing = Addressing.emulator) {form : Form}
    {w : OperandWidth} {s : Emulator W} (h : form.Ready w s)
    (v : BitVec w.bits) :
    exists t, Returns (form.store w v) env s () t ∧
      Returns (form.destination w) env t v t ∧
      t.registers.flags = s.registers.flags ∧
      t.modrmDecoder = s.modrmDecoder := by
  have hmodrm : s.Decoded ∧ s.modrmDecoder.width = w ∧ s.operandFits w ->
      exists t, Returns (writeData w v false) env s () t ∧
        Returns (readData w false) env t v t ∧
        t.registers.flags = s.registers.flags ∧
        t.modrmDecoder = s.modrmDecoder := by
    rintro ⟨hdecoded, hwidth, hFits⟩
    have hsame := s.operandWritten_modrmDecoder w v
    refine ⟨_, writeData_returns henv hdecoded hFits v, ?_, ?_, hsame⟩
    · have hread := operandValue_operandWritten hFits hwidth v
      have hdecoded' : (s.operandWritten w v).Decoded := by
        constructor
        · rw [hsame]
          exact hdecoded.isDecoded
        · rw [hsame]
          exact hdecoded.addrIsCached
      have hFits' : (s.operandWritten w v).operandFits w := by
        intro hmem
        rw [hsame] at hmem
        unfold Emulator.operandWritten
        rw [if_pos hmem]
        exact hFits hmem
      have hret := readData_returns henv hdecoded' hFits'
      rw [hread] at hret
      exact hret
    · unfold Emulator.operandWritten
      split
      · rfl
      · exact RegisterFile.flags_set _ _ _
  cases form with
  | accumulator =>
      refine ⟨_, rfl, ?_, RegisterFile.flags_set _ _ _, rfl⟩
      refine returns_bind.mpr ⟨_, _, rfl, ?_⟩
      refine returns_pure.mpr ⟨(get_set_accumulator s.registers w v).symm, rfl⟩
  | regRm =>
      obtain ⟨hdecoded, hwidth, -⟩ := h
      refine ⟨_, returns_bind.mpr
        ⟨_, _, decoded_returns _ hdecoded.isDecoded, rfl⟩, ?_,
        RegisterFile.flags_set _ _ _, rfl⟩
      have hback := RegisterFile.get_set_gpr s.registers w
        s.modrmDecoder.rawReg v
      have hret := @regOperand_returns W env w
        { s with registers :=
          s.registers.set s.modrmDecoder.reg (v.setWidth 16) }
        ⟨hdecoded.isDecoded, hdecoded.addrIsCached⟩
      unfold ModRMDecoder.reg at hret ⊢
      rw [hwidth] at hret ⊢
      rw [hback] at hret
      exact hret
  | rmReg =>
      exact hmodrm h
  | group =>
      exact hmodrm h
  | shortGroup =>
      exact hmodrm h

/-!
## Flags and results
-/

/-- The result of an operation on two operands. -/
def ArithmeticOp.result (op : ArithmeticOp) {w : OperandWidth}
    (r : RegisterFile) (a b : BitVec w.bits) : BitVec w.bits :=
  Carry.addSub op.neg a b (op.carryIn r)

def ArithmeticOp.flags (op : ArithmeticOp) {w : OperandWidth}
    (r : RegisterFile) (a b : BitVec w.bits) : ArithmeticFlags :=
  sumFlags op.neg w a b (op.carryIn r)

theorem setWidth_onBus (upper : BitVec 8) (w : OperandWidth)
    (v : BitVec w.bits) : (onBus upper w v).setWidth w.bits = v := by
  cases w with
  | OP_WIDTH_8 =>
      exact low_onBus upper v
  | OP_WIDTH_16 =>
      exact BitVec.setWidth_eq v

theorem rtlResult_eq (neg : Bool) (w : OperandWidth) (upperA upperB : BitVec 8)
    (a b : BitVec w.bits) (flags : BitVec 16) (c : Bool) :
    (rtlResult neg w.is8Bit (onBus upperA w a) (onBus upperB w b) flags c).2 =
        (sumFlags neg w a b c).rtl flags ∧
      (rtlResult neg w.is8Bit (onBus upperA w a) (onBus upperB w b) flags
        c).1.setWidth w.bits = Carry.addSub neg a b c := by
  constructor
  · unfold rtlResult
    rw [rtlFlags_eq, setWidth_onBus, setWidth_onBus]
  · unfold rtlResult
    rw [rtlSum_setWidth neg _ _ c (bits_le w), setWidth_onBus, setWidth_onBus]

theorem doUnsigned_returns {env : Environment W} (neg : Bool)
    {w : OperandWidth} (s : Emulator W) (a b : BitVec w.bits) (c : Bool) :
    Returns (doUnsigned w (a.setWidth 16) (b.setWidth 16) c (aluOf neg)) env s
      ((sumFlags neg w a b c).rtl s.registers.getFlags,
        Carry.addSub neg a b c) s := by
  obtain ⟨hflags, hresult⟩ :=
    rtlResult_eq neg w 0#8 0#8 a b s.registers.getFlags c
  rw [doUnsigned_eq 0#8 0#8]
  refine returns_bind.mpr ⟨s.registers.getFlags, s, rfl, ?_⟩
  rw [← hflags, ← hresult]
  rfl

theorem carryFlag_returns {env : Environment W} (s : Emulator W) :
    Returns carryFlag env s (s.registers.getFlag Flag.CF) s := by
  have hstuck : s.registers.getFlag Flag.CF =
      (s.registers.getFlags &&& Flag.CF != 0#16) := by
    unfold RegisterFile.getFlag RegisterFile.getFlags
    rw [and_CF_bne, and_CF_bne]
    simp [Flag.stuckBits]
  rw [hstuck]
  rfl

theorem alu_returns (op : ArithmeticOp) {w : OperandWidth}
    {env : Environment W} (s : Emulator W) (a b : BitVec w.bits) :
    Returns (op.alu w a b) env s
      ((op.flags s.registers a b).rtl s.registers.getFlags,
        op.result s.registers a b) s := by
  cases op with
  | adc =>
      refine returns_bind.mpr ⟨_, _, carryFlag_returns s, ?_⟩
      exact doUnsigned_returns false s a b _
  | sbb =>
      refine returns_bind.mpr ⟨_, _, carryFlag_returns s, ?_⟩
      exact doUnsigned_returns true s a b _
  | cmp =>
      exact doUnsigned_returns true s a b false

/-- The state after the flags of the operation are set. -/
def ArithmeticOp.flagged (op : ArithmeticOp) {w : OperandWidth}
    (a b : BitVec w.bits) (s : Emulator W) : Emulator W :=
  { s with
    registers :=
      s.registers.setFlags
        ((op.flags s.registers a b).rtl s.registers.getFlags)
        arithmeticFlags }

theorem finish_returns {env : Environment W} (form : Form) (op : ArithmeticOp)
    {w : OperandWidth} {s t : Emulator W} {a b : BitVec w.bits}
    (h : Returns
      (if op.stores then form.store w (op.result s.registers a b)
      else pure ()) env (op.flagged a b s) () t) :
    Returns (form.finish w op (a, b)) env s () t := by
  refine returns_bind.mpr ⟨_, _, alu_returns op s a b, ?_⟩
  exact returns_bind.mpr ⟨_, _, rfl, h⟩

theorem aluGroup_run {env : Environment W} {form : Form}
    {immediate : EmuM W (BitVec w.bits)} {e s t : Emulator W}
    {a b : BitVec w.bits}
    (hstore : forall v, (form.store w v : EmuM W Unit) = writeData w v false)
    (h : Returns (do
      let v1 ← Form.modrmOperand w
      let v2 ← immediate
      return (v1, v2)) env e (a, b) s)
    (hdecoded : s.modrmDecoder.isDecoded = true)
    (hdigit : s.modrmDecoder.rawReg = op.digit)
    (hfinish : Returns (form.finish w op (a, b)) env s () t) :
    Returns (aluGroup w immediate) env e () t := by
  obtain ⟨v1, s₁, hmodrm, h⟩ := returns_bind.mp h
  obtain ⟨_, e₁, hwidth, hmodrm⟩ := returns_bind.mp hmodrm
  obtain ⟨_, e₂, hdecode, hread⟩ := returns_bind.mp hmodrm
  obtain ⟨v2, s₂, himm, h⟩ := returns_bind.mp h
  obtain ⟨hab, rfl⟩ := returns_pure.mp h
  obtain ⟨rfl, rfl⟩ := Prod.mk.inj hab
  refine returns_bind.mpr ⟨_, _, hwidth, ?_⟩
  refine returns_bind.mpr ⟨_, _, hdecode, ?_⟩
  refine returns_bind.mpr ⟨_, _, hread, ?_⟩
  refine returns_bind.mpr ⟨_, _, himm, ?_⟩
  refine returns_bind.mpr ⟨_, _, decoded_returns _ hdecoded, ?_⟩
  rw [hdigit]
  unfold Form.finish at hfinish
  simp only [hstore] at hfinish
  cases op with
  | adc =>
      exact hfinish
  | sbb =>
      exact hfinish
  | cmp =>
      exact hfinish

/-- From the operands a form reads, its handler goes on as the operation
says. -/
theorem execute_returns {env : Environment W}
    (henv : env.addressing = Addressing.emulator) {form : Form}
    {e s t : Emulator W} {a b : BitVec w.bits}
    (h : Returns (form.operands w) env e (a, b) s) (hselects : form.Selects op s)
    (hfinish : Returns (form.finish w op (a, b)) env s () t) :
    Returns (execute (form.opcode op w)) env e () t := by
  have hready := (operands_ready henv h).1
  cases form with
  | rmReg =>
      rw [execute_rmReg]
      exact returns_bind.mpr ⟨_, _, h, hfinish⟩
  | regRm =>
      rw [execute_regRm]
      exact returns_bind.mpr ⟨_, _, h, hfinish⟩
  | accumulator =>
      rw [execute_accumulator]
      exact returns_bind.mpr ⟨_, _, h, hfinish⟩
  | group =>
      have hhandler : (execute (Form.group.opcode op w) : EmuM W Unit) =
          aluGroup w (fetch w) := by
        cases w <;> rfl
      rw [hhandler]
      exact aluGroup_run op w (fun v => rfl) h hready.1.isDecoded hselects
        hfinish
  | shortGroup =>
      have hhandler : (execute (Form.shortGroup.opcode op w) : EmuM W Unit) =
          aluGroup w (Form.shortImmediate w) := by
        cases w <;> rfl
      rw [hhandler]
      exact aluGroup_run op w (fun v => rfl) h hready.1.isDecoded hselects
        hfinish

/-- The instruction returns with the flags of the operation, and the
destination holds the result if the operation has one. -/
theorem execute_result {env : Environment W}
    (henv : env.addressing = Addressing.emulator) {form : Form}
    {e s : Emulator W} {a b : BitVec w.bits}
    (h : Returns (form.operands w) env e (a, b) s)
    (hselects : form.Selects op s) :
    exists t, Returns (execute (form.opcode op w)) env e () t ∧
      t.registers.flags = (op.flagged a b s).registers.flags ∧
      t.modrmDecoder = s.modrmDecoder ∧
      (op.stores = true ->
        Returns (form.destination w) env t (op.result s.registers a b) t) := by
  have hready := (operands_ready henv h).1.setFlags
    ((op.flags s.registers a b).rtl s.registers.getFlags) arithmeticFlags
  cases hstores : op.stores with
  | false =>
      refine ⟨op.flagged a b s, ?_, rfl, rfl, by simp⟩
      refine execute_returns op w henv h hselects (finish_returns form op ?_)
      rw [hstores]
      rfl
  | true =>
      obtain ⟨t, hstore, hread, hflags, hmodrm⟩ :=
        store_returns henv hready (op.result s.registers a b)
      refine ⟨t, ?_, hflags, hmodrm, fun _ => hread⟩
      refine execute_returns op w henv h hselects (finish_returns form op ?_)
      rw [hstores]
      exact hstore

end Sim
end S80x86
