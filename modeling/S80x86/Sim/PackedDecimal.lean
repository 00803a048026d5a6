import S80x86.Sim.MultiPrecision

/-!
# Packed decimal numbers

A byte holds two decimal digits.  `ADC` and `DAA`, or `SBB` and `DAS`, over the
bytes of two numbers add or subtract them in base 100, in the emulator and with
the tasks of the core.
-/

open Foundation Foundation.Limbs

namespace S80x86
namespace Sim

open Foundation.Effect Rtl.Flag

variable {W : Type}

/-- The number two digits in a byte denote. -/
def decimalValue (b : BitVec 8) : Nat := b.toNat / 16 * 10 + b.toNat % 16

def IsDecimal (b : BitVec 8) : Prop := b.toNat / 16 ≤ 9 ∧ b.toNat % 16 ≤ 9

instance (b : BitVec 8) : Decidable (IsDecimal b) :=
  inferInstanceAs (Decidable (_ ∧ _))

/-- The byte moved by an adjustment, up after a sum and down after a
difference. -/
def adjusted (neg : Bool) (amount al : BitVec 8) : BitVec 8 :=
  if neg then al - amount else al + amount

/-- The adjustment after a sum or a difference, from `AL`, `AF` and `CF`: the
byte and the decimal carry. -/
def adjust (neg : Bool) (al : BitVec 8) (af cf : Bool) : BitVec 8 × Bool :=
  let needsLow := decide (9 < al.toNat % 16) || af
  let wraps := if neg then al.toNat < 6 else 250 ≤ al.toNat
  let low := if needsLow then adjusted neg 6#8 al else al
  let carry := cf || needsLow && wraps
  let needsHigh := decide (0x9f < low.toNat) || carry
  (if needsHigh then adjusted neg 0x60#8 low else low, needsHigh)

/-- One byte of a decimal sum or difference. -/
def decimal (neg : Bool) (x y : BitVec 8) (c : Bool) : BitVec 8 × Bool :=
  adjust neg (Carry.addSub neg x y c)
    (Carry.carryOut neg (x.setWidth 4) (y.setWidth 4) c)
    (Carry.carryOut neg x y c)

theorem toNat_nibble (b : BitVec 8) : (b.setWidth 4).toNat = b.toNat % 16 := by
  simp [BitVec.toNat_setWidth]

/-- The sum of two decimal bytes and a carry. -/
theorem decimal_sum {x y : BitVec 8} (c : Bool) (hx : IsDecimal x)
    (hy : IsDecimal y) :
    IsDecimal (decimal false x y c).1 ∧
      decimalValue x + decimalValue y + c.toNat =
        decimalValue (decimal false x y c).1 +
          100 * (decimal false x y c).2.toNat := by
  have hsum := Carry.toNat_sum x y c
  have hc := Bool.toNat_le c
  unfold IsDecimal at *
  unfold decimal decimalValue adjust adjusted
  rw [Carry.carryOut_false (x.setWidth 4), Carry.carryOut_false x,
    toNat_nibble, toNat_nibble]
  rw [Carry.carryOut_false x] at hsum
  generalize Carry.addSub false x y c = r at *
  have hr := r.isLt
  generalize c.toNat = k at *
  simp only [← Bool.decide_or, ← Bool.decide_and, decide_eq_true_eq,
    Bool.false_eq_true, if_false]
  by_cases hwide : 2 ^ 8 ≤ x.toNat + y.toNat + k
  · simp only [hwide, decide_true, true_or, or_true, if_true,
      Bool.toNat_true] at *
    by_cases hlow : 9 < r.toNat % 16 ∨ 2 ^ 4 ≤ x.toNat % 16 + y.toNat % 16 + k
    · simp only [hlow, if_true, BitVec.toNat_add, BitVec.toNat_ofNat]
      omega
    · simp only [hlow, if_false, BitVec.toNat_add, BitVec.toNat_ofNat]
      omega
  · simp only [hwide, decide_false, false_or, Bool.toNat_false] at *
    by_cases hlow : 9 < r.toNat % 16 ∨ 2 ^ 4 ≤ x.toNat % 16 + y.toNat % 16 + k
    · simp only [hlow, true_and, if_true, BitVec.toNat_add, BitVec.toNat_ofNat]
      by_cases hhigh : 0x9f < (r.toNat + 6 % 2 ^ 8) % 2 ^ 8 ∨ 250 ≤ r.toNat
      · simp only [hhigh, if_true, decide_true, BitVec.toNat_add,
          BitVec.toNat_ofNat, Bool.toNat_true]
        omega
      · simp only [hhigh, if_false, decide_false, BitVec.toNat_add,
          BitVec.toNat_ofNat, Bool.toNat_false]
        omega
    · simp only [hlow, false_and, or_false, if_false]
      by_cases hhigh : 0x9f < r.toNat
      · simp only [hhigh, if_true, decide_true, BitVec.toNat_add,
          BitVec.toNat_ofNat, Bool.toNat_true]
        omega
      · simp only [hhigh, if_false, decide_false, Bool.toNat_false]
        omega

/-- The difference of two decimal bytes and a borrow. -/
theorem decimal_difference {x y : BitVec 8} (c : Bool) (hx : IsDecimal x)
    (hy : IsDecimal y) :
    IsDecimal (decimal true x y c).1 ∧
      decimalValue x + 100 * (decimal true x y c).2.toNat =
        decimalValue (decimal true x y c).1 + decimalValue y + c.toNat := by
  have hdiff := Carry.toNat_difference x y c
  have hc := Bool.toNat_le c
  unfold IsDecimal at *
  unfold decimal decimalValue adjust adjusted
  rw [Carry.carryOut_true (x.setWidth 4), Carry.carryOut_true x,
    toNat_nibble, toNat_nibble]
  rw [Carry.carryOut_true x] at hdiff
  generalize Carry.addSub true x y c = r at *
  have hr := r.isLt
  generalize c.toNat = k at *
  simp only [← Bool.decide_or, ← Bool.decide_and, decide_eq_true_eq,
    if_true]
  by_cases hwide : x.toNat < y.toNat + k
  · simp only [hwide, decide_true, true_or, or_true, if_true,
      Bool.toNat_true] at *
    by_cases hlow : 9 < r.toNat % 16 ∨ x.toNat % 16 < y.toNat % 16 + k
    · simp only [hlow, if_true, BitVec.toNat_sub, BitVec.toNat_ofNat]
      omega
    · simp only [hlow, if_false, BitVec.toNat_sub, BitVec.toNat_ofNat]
      omega
  · simp only [hwide, decide_false, false_or, Bool.toNat_false] at *
    by_cases hlow : 9 < r.toNat % 16 ∨ x.toNat % 16 < y.toNat % 16 + k
    · have hhigh : ¬ (0x9f < (r - 6#8).toNat ∨ r.toNat < 6) := by
        simp only [BitVec.toNat_sub, BitVec.toNat_ofNat]
        omega
      simp only [hlow, true_and, if_true, hhigh, if_false, decide_false,
        Bool.toNat_false]
      simp only [BitVec.toNat_sub, BitVec.toNat_ofNat]
      omega
    · have hhigh : ¬ 0x9f < r.toNat := by omega
      simp only [hlow, false_and, or_false, if_false]
      simp only [hhigh, if_false, decide_false, Bool.toNat_false]
      omega

theorem decimalValue_lt {b : BitVec 8} (h : IsDecimal b) :
    decimalValue b < 100 := by
  unfold IsDecimal at h
  unfold decimalValue
  omega

theorem lawful_decimal (neg : Bool) :
    Lawful decimalValue 100 neg IsDecimal (decimal neg) where
  keeps c hx hy := by
    cases neg with
    | false =>
        exact (decimal_sum c hx hy).1
    | true =>
        exact (decimal_difference c hx hy).1
  splits c hx hy := by
    cases neg with
    | false =>
        obtain ⟨hvalid, hvalue⟩ := decimal_sum c hx hy
        refine ⟨?_, decimalValue_lt hvalid⟩
        simp only [Carry.value, Carry.sign, Bool.false_eq_true, if_false]
        omega
    | true =>
        obtain ⟨hvalid, hvalue⟩ := decimal_difference c hx hy
        refine ⟨?_, decimalValue_lt hvalid⟩
        simp only [Carry.value, Carry.sign, if_true]
        omega

/-!
## The emulator
-/

/-- The instruction that adjusts after a sum or a difference. -/
def adjustOpcode : Bool -> BitVec 8
  | false => 0x27#8
  | true => 0x2f#8

def decimalOp : Bool -> ArithmeticOp
  | false => .adc
  | true => .sbb

theorem adjustLow_snd (need : Bool) (tmp flags al : BitVec 16) :
    (adjustLow need tmp flags al).2 =
      if need then tmp &&& 0xff#16 else al := by
  unfold adjustLow
  cases need <;> rfl

/-- The carry after the handlers adjusted the low digit. -/
theorem adjustLow_carry (need : Bool) (tmp flags al : BitVec 16) :
    ((adjustLow need tmp flags al).1 &&& Flag.CF != 0#16) =
      (flags &&& Flag.CF != 0#16 || need && tmp &&& 0xff00#16 != 0#16) := by
  unfold adjustLow
  simp only [and_CF_bne]
  cases need with
  | false =>
      simp [Flag.AF]
  | true =>
      cases htmp : tmp &&& 0xff00#16 != 0#16 <;>
        simp [setIf, Flag.AF, Flag.CF]

theorem adjust_eq :
    forall (neg af cf : Bool) (al : BitVec 8),
      let a := al.setWidth 16
      let need := decide (9#16 < a &&& 0x0f#16) || af
      let tmp := if neg then a - 6#16 else a + 6#16
      let low := if need then tmp &&& 0xff#16 else a
      let high := decide (0x9f#16 < low) ||
        (cf || need && tmp &&& 0xff00#16 != 0#16)
      adjust neg al af cf =
        ((if high then (if neg then low - 0x60#16 else low + 0x60#16)
          else low).setWidth 8, high) := by
  decide +kernel

/-- The byte in `AL`. -/
def RegisterFile.al (r : RegisterFile) : BitVec 8 := (r.get .AL).setWidth 8

theorem get_AL (r : RegisterFile) : r.get .AL = r.al.setWidth 16 := by
  unfold RegisterFile.al RegisterFile.get
  ext i hi
  interval_cases i <;> simp

theorem al_set_AL (r : RegisterFile) (v : BitVec 16) :
    (r.set .AL v).al = v.setWidth 8 := by
  unfold RegisterFile.al RegisterFile.get RegisterFile.set RegisterFile.lowByte
  ext i hi
  interval_cases i <;> simp

theorem al_set_AH (r : RegisterFile) (v : BitVec 16) :
    (r.set .AH v).al = r.al := by
  unfold RegisterFile.al RegisterFile.get RegisterFile.set RegisterFile.highByte
  ext i hi
  interval_cases i <;> simp

theorem getFlags_and (r : RegisterFile) {f : BitVec 16}
    (hf : Flag.stuckBits &&& f = 0#16) :
    (r.getFlags &&& f != 0#16) = r.getFlag f := by
  unfold RegisterFile.getFlags RegisterFile.getFlag
  have hsplit : (r.flags ||| Flag.stuckBits) &&& f = r.flags &&& f := by
    rw [BitVec.and_comm, BitVec.and_or_distrib_left, BitVec.and_comm f,
      BitVec.and_comm f, hf, BitVec.or_zero]
  rw [hsplit]

/-- The flags that an adjustment sets. -/
def adjustFlags : BitVec 16 :=
  Flag.SF ||| Flag.ZF ||| Flag.AF ||| Flag.CF ||| Flag.PF

theorem getFlag_CF_adjust (r : RegisterFile) (v : BitVec 16) :
    (r.setFlags v adjustFlags).getFlag Flag.CF = v.getLsbD 0 := by
  unfold RegisterFile.getFlag
  rw [and_CF_bne]
  simp [RegisterFile.setFlags, adjustFlags, Flag.SF, Flag.ZF, Flag.AF, Flag.CF,
    Flag.PF, Flag.reservedMask, Flag.validMask, Flag.stuckBits, Flag.TF,
    Flag.IF, Flag.DF, Flag.OF]

theorem al_setFlags (r : RegisterFile) (v mask : BitVec 16) :
    (r.setFlags v mask).al = r.al := rfl

section Adjust

variable {env : Environment W} (u : Emulator W)

/-- What `AL` and the flags become, with the low digit adjusted to `low`. -/
theorem adjust_out (neg : Bool) :
    let a := u.registers.get .AL
    let low := adjustLow (needsAdjust a u.registers.getFlags)
      (if neg then a - 6#16 else a + 6#16) u.registers.getFlags a
    let high := decide (0x9f#16 < low.2) || low.1 &&& Flag.CF != 0#16
    adjust neg u.registers.al (u.registers.getFlag Flag.AF)
        (u.registers.getFlag Flag.CF) =
      ((if high then (if neg then low.2 - 0x60#16 else low.2 + 0x60#16)
        else low.2).setWidth 8, high) := by
  have haf := getFlags_and u.registers (f := Flag.AF) (by decide)
  have hcf := getFlags_and u.registers (f := Flag.CF) (by decide)
  intro a low high
  have hpure := adjust_eq neg (u.registers.getFlag Flag.AF)
    (u.registers.getFlag Flag.CF) u.registers.al
  rw [hpure]
  simp only [high, low, a, get_AL, needsAdjust, haf, hcf, adjustLow_snd,
    adjustLow_carry]

theorem daa27_returns :
    exists v, Returns daa27 env u () v ∧
      (v.registers.al, v.registers.getFlag Flag.CF) =
        adjust false u.registers.al (u.registers.getFlag Flag.AF)
          (u.registers.getFlag Flag.CF) := by
  refine ⟨_, rfl, ?_⟩
  rw [adjust_out u false]
  change (RegisterFile.al (RegisterFile.setFlags _ _ adjustFlags),
    RegisterFile.getFlag (RegisterFile.setFlags _ _ adjustFlags) _) = _
  rw [al_setFlags, al_set_AL, getFlag_CF_adjust]
  simp only [Bool.false_eq_true, if_false]
  generalize adjustLow _ _ _ _ = low
  cases hcarry : low.1 &&& Flag.CF != 0#16 with
  | false =>
      rw [and_CF_bne] at hcarry
      cases decide (0x9f#16 < low.2) <;>
        simp [-BitVec.getLsbD_eq_getElem, hcarry, Flag.CF]
  | true =>
      rw [and_CF_bne] at hcarry
      simp [-BitVec.getLsbD_eq_getElem, hcarry]

theorem das2f_returns :
    exists v, Returns das2f env u () v ∧
      (v.registers.al, v.registers.getFlag Flag.CF) =
        adjust true u.registers.al (u.registers.getFlag Flag.AF)
          (u.registers.getFlag Flag.CF) := by
  refine ⟨_, rfl, ?_⟩
  rw [adjust_out u true]
  change (RegisterFile.al (RegisterFile.setFlags _ _ adjustFlags),
    RegisterFile.getFlag (RegisterFile.setFlags _ _ adjustFlags) _) = _
  rw [al_setFlags, al_set_AH, al_set_AL, getFlag_CF_adjust]
  simp only [if_true]
  generalize adjustLow _ _ _ _ = low
  generalize (decide (0x9f#16 < low.2) || low.1 &&& Flag.CF != 0#16) = high
  rw [getLsbD_setIf, getLsbD_setIf, getLsbD_setIf]
  cases high <;> simp [Flag.CF, Flag.SF, Flag.ZF, Flag.PF]

/-- The adjusting instructions of the emulator. -/
theorem adjust_returns (neg : Bool) :
    exists v, Returns (execute (adjustOpcode neg)) env u () v ∧
      (v.registers.al, v.registers.getFlag Flag.CF) =
        adjust neg u.registers.al (u.registers.getFlag Flag.AF)
          (u.registers.getFlag Flag.CF) := by
  cases neg with
  | false =>
      exact daa27_returns u
  | true =>
      exact das2f_returns u

end Adjust

/-- Whether the destination of the form is `AL`. -/
def Form.IsAl (s : Emulator W) : Form -> Prop
  | .accumulator => True
  | .regRm => s.modrmDecoder.reg = .AL
  | _ => s.modrmDecoder.rmType = .OP_REG ∧ s.modrmDecoder.rmReg = .AL

/-- A run of `ADC` and `DAA`, or of `SBB` and `DAS`, over the bytes of two
numbers, that leaves these bytes in `AL` one after the other. -/
inductive DecimalChain (neg : Bool) (env : Environment W) :
    Emulator W -> List (BitVec 8) -> List (BitVec 8) -> List (BitVec 8) ->
      Emulator W -> Prop where
  | nil (e : Emulator W) : DecimalChain neg env e [] [] [] e
  | cons {e s t u v next last : Emulator W} {x y : BitVec 8}
      {xs ys rs : List (BitVec 8)} (form : Form)
      (operands : Returns (form.operands .OP_WIDTH_8) env e (x, y) s)
      (selects : form.Selects (decimalOp neg) s) (isAl : form.IsAl s)
      (run : Returns (execute (form.opcode (decimalOp neg) .OP_WIDTH_8)) env e
        () t)
      (al : u.registers.al = t.registers.al)
      (flags : u.registers.flags = t.registers.flags)
      (adjust : Returns (execute (adjustOpcode neg)) env u () v)
      (keeps : next.registers.getFlag Flag.CF = v.registers.getFlag Flag.CF)
      (rest : DecimalChain neg env next xs ys rs last) :
      DecimalChain neg env e (x :: xs) (y :: ys) (v.registers.al :: rs) last

/-- What is read from the destination is `AL`. -/
theorem destination_al {env : Environment W}
    (henv : env.addressing = Addressing.emulator) {form : Form}
    {s t : Emulator W} {r : BitVec 8} (hready : form.Ready .OP_WIDTH_8 s)
    (hsame : t.modrmDecoder = s.modrmDecoder) (hal : form.IsAl s)
    (h : Returns (form.destination .OP_WIDTH_8) env t r t) :
    r = t.registers.al := by
  have hmodrm : s.Decoded -> s.modrmDecoder.rmType = .OP_REG ->
      s.modrmDecoder.rmReg = .AL ->
      Returns (readData .OP_WIDTH_8 false) env t r t ->
      r = t.registers.al := by
    intro hdecoded hreg hrm hread
    have hnot : ¬ t.modrmDecoder.rmType = .OP_MEM := by
      rw [hsame, hreg]
      decide
    have hdecoded' : t.Decoded := by
      constructor
      · rw [hsame]
        exact hdecoded.isDecoded
      · exact fun hmem => absurd hmem hnot
    have hvalue := readData_returns (w := .OP_WIDTH_8) henv hdecoded'
      fun hmem => absurd hmem hnot
    obtain ⟨rfl, -⟩ := hread.unique hvalue
    unfold Emulator.operandValue
    rw [if_neg hnot, hsame, hrm]
    rfl
  cases form with
  | accumulator =>
      obtain ⟨a, t', hget, hret⟩ := returns_bind.mp h
      obtain ⟨rfl, rfl⟩ := returns_gets.mp hget
      exact (returns_pure.mp hret).1
  | regRm =>
      have hreg : s.modrmDecoder.reg = .AL := hal
      have hdecoded' : t.Decoded := by
        constructor
        · rw [hsame]
          exact hready.1.isDecoded
        · rw [hsame]
          exact hready.1.addrIsCached
      have hvalue := @regOperand_returns W env .OP_WIDTH_8 t hdecoded'
      obtain ⟨rfl, -⟩ := Returns.unique h hvalue
      rw [hsame, hreg]
      rfl
  | rmReg =>
      exact hmodrm hready.1 hal.1 hal.2 h
  | group =>
      exact hmodrm hready.1 hal.1 hal.2 h
  | shortGroup =>
      exact hmodrm hready.1 hal.1 hal.2 h

theorem decimalOp_ne (neg : Bool) : decimalOp neg ≠ .cmp := by
  cases neg <;> decide

theorem decimalOp_neg (neg : Bool) : (decimalOp neg).neg = neg := by
  cases neg <;> rfl

section Run

variable {neg : Bool} {env : Environment W}
  (henv : env.addressing = Addressing.emulator)
include henv

/-- One byte of a decimal run. -/
theorem decimal_step {form : Form} {e s t : Emulator W} {x y : BitVec 8}
    (operands : Returns (form.operands .OP_WIDTH_8) env e (x, y) s)
    (selects : form.Selects (decimalOp neg) s) (isAl : form.IsAl s)
    (run : Returns (execute (form.opcode (decimalOp neg) .OP_WIDTH_8)) env e
      () t) :
    adjust neg t.registers.al (t.registers.getFlag Flag.AF)
        (t.registers.getFlag Flag.CF) =
      decimal neg x y (e.registers.getFlag Flag.CF) := by
  have hstores := stores_of_ne (decimalOp_ne neg)
  obtain ⟨hready, hregs⟩ := operands_ready henv operands
  obtain ⟨t', hrun, hflags, hsame, hread⟩ :=
    execute_result (decimalOp neg) .OP_WIDTH_8 henv operands selects
  obtain ⟨-, rfl⟩ := run.unique hrun
  have hal := destination_al henv hready hsame isAl (hread hstores)
  have hbits : t.registers.arithmetic =
      ArithmeticOp.flags (w := .OP_WIDTH_8) (decimalOp neg) s.registers x
        y := by
    rw [arithmetic_congr hflags]
    exact arithmetic_setFlags s.registers _ _
  unfold ArithmeticOp.flags at hbits
  unfold ArithmeticOp.result at hal
  rw [hregs, carryIn_of_ne (decimalOp_ne neg), decimalOp_neg] at hal hbits
  have haf : t.registers.getFlag Flag.AF = _ :=
    congrArg ArithmeticFlags.af hbits
  have hcf : t.registers.getFlag Flag.CF = _ :=
    congrArg ArithmeticFlags.cf hbits
  rw [← hal, haf, hcf]
  rfl

theorem decimalChain_ripple {e last : Emulator W}
    {xs ys rs : List (BitVec 8)} (h : DecimalChain neg env e xs ys rs last) :
    xs.length = ys.length ∧
      ripple (decimal neg) xs ys (e.registers.getFlag Flag.CF) =
        (rs, last.registers.getFlag Flag.CF) := by
  induction h with
  | nil e =>
      exact ⟨rfl, rfl⟩
  | cons form operands selects isAl run al flags adjust keeps rest ih =>
      rename_i e s t u v next last x y xs ys rs
      obtain ⟨hlen, hripple⟩ := ih
      have hstep := decimal_step henv operands selects isAl run
      obtain ⟨v', hrun, hv⟩ := adjust_returns u neg
      obtain ⟨-, rfl⟩ := adjust.unique hrun
      have hsame : u.registers.arithmetic = t.registers.arithmetic :=
        arithmetic_congr flags
      have haf : u.registers.getFlag Flag.AF = t.registers.getFlag Flag.AF :=
        congrArg ArithmeticFlags.af hsame
      have hcf : u.registers.getFlag Flag.CF = t.registers.getFlag Flag.CF :=
        congrArg ArithmeticFlags.cf hsame
      rw [al, haf, hcf, hstep] at hv
      rw [keeps] at hripple
      refine ⟨by simp [hlen], ?_⟩
      simp only [ripple, ← hv, hripple]

end Run

/-!
## The core
-/

/-- The flags that `DAA` and `DAS` update. -/
def adjustUpdates : List Rtl.UpdateFlags := [.SF, .ZF, .AF, .CF, .PF]

def coreSum (neg : Bool) : BitVec 16 -> BitVec 16 -> BitVec 16 ->
    BitVec 16 × BitVec 16 :=
  if neg then Rtl.ALU.doSbb true else Rtl.ALU.doAdc true

def coreAdjust (neg : Bool) : BitVec 16 -> BitVec 16 -> BitVec 16 × BitVec 16 :=
  if neg then Rtl.ALU.doDas else Rtl.ALU.doDaa

theorem rtl_adjustLow_fst (need : Bool) (tmp a flags : BitVec 16) :
    (Rtl.ALU.adjustLow need tmp a flags).1 =
      if need then Rtl.ALU.low tmp else Rtl.ALU.low a := by
  unfold Rtl.ALU.adjustLow
  cases need <;> rfl

theorem rtl_adjustLow_carry (need : Bool) (tmp a flags : BitVec 16) :
    (Rtl.ALU.adjustLow need tmp a flags).2.getLsbD CF_IDX =
      (flags.getLsbD CF_IDX || need && tmp.extractLsb' 8 8 != 0#8) := by
  have hidx : CF_IDX < 16 := by decide
  have hne : CF_IDX ≠ AF_IDX := by decide
  unfold Rtl.ALU.adjustLow
  cases need with
  | false =>
      simp only [Bool.false_eq_true, if_false, Rtl.ALU.getLsbD_setFlag hidx,
        hne, Bool.false_and, Bool.or_false]
  | true =>
      cases tmp.extractLsb' 8 8 != 0#8 <;>
        simp only [Bool.false_eq_true, if_true, if_false, hne,
          Rtl.ALU.getLsbD_setFlag hidx, Bool.true_and, Bool.or_false,
          Bool.or_true]

theorem coreAdjust_eq :
    forall (neg af cf : Bool) (al : BitVec 8),
      let need := decide (9#4 < al.extractLsb' 0 4) || af
      let tmp := if neg then al.setWidth 16 - 6#16 else al.setWidth 16 + 6#16
      let low := if need then Rtl.ALU.low tmp else al
      let high := decide (0x9f#8 < low) ||
        (cf || need && tmp.extractLsb' 8 8 != 0#8)
      adjust neg al af cf =
        (if high then (if neg then low - 0x60#8 else low + 0x60#8) else low,
          high) := by
  decide +kernel

/-- What the tasks do with `AL`, `AF` and `CF`. -/
theorem coreAdjust_out (neg : Bool) (ah al : BitVec 8) (flags : BitVec 16) :
    (Rtl.ALU.low (coreAdjust neg (ah ++ al) flags).1,
        (coreAdjust neg (ah ++ al) flags).2.getLsbD CF_IDX) =
      adjust neg al (flags.getLsbD AF_IDX) (flags.getLsbD CF_IDX) := by
  have hnibble : (ah ++ al : BitVec 16).extractLsb' 0 4 =
      al.extractLsb' 0 4 := by
    ext i hi
    have hi' : i < 8 := by omega
    have hbit : (ah ++ al).getLsbD i = al.getLsbD i := by
      rw [BitVec.getLsbD_append, if_pos hi']
    simpa [hi'] using hbit
  have hlow : Rtl.ALU.low (ah ++ al) = al := Bits.extractLsb'_low_append ah al
  have hout : forall v : BitVec 8,
      Rtl.ALU.low ((ah ++ al : BitVec 16).extractLsb' 8 8 ++ v) = v :=
    fun v => Bits.extractLsb'_low_append _ v
  have hpure := coreAdjust_eq neg (flags.getLsbD AF_IDX)
    (flags.getLsbD CF_IDX) al
  have hidx : CF_IDX < 16 := by decide
  rw [hpure]
  cases neg with
  | false =>
      change (Rtl.ALU.low (Rtl.ALU.doDaa _ _).1,
        (Rtl.ALU.doDaa _ _).2.getLsbD CF_IDX) = _
      unfold Rtl.ALU.doDaa
      have hfst := rtl_adjustLow_fst (Rtl.ALU.needsAdjust (ah ++ al) flags)
        ((Rtl.ALU.low (ah ++ al)).setWidth 16 + 6#16) (ah ++ al) flags
      have hcarry := rtl_adjustLow_carry (Rtl.ALU.needsAdjust (ah ++ al) flags)
        ((Rtl.ALU.low (ah ++ al)).setWidth 16 + 6#16) (ah ++ al) flags
      simp only [hlow, Rtl.ALU.needsAdjust, hnibble] at hfst hcarry ⊢
      simp only [Bool.false_eq_true, if_false, ← hfst, ← hcarry]
      generalize Rtl.ALU.adjustLow _ _ _ _ = out
      cases hhigh : decide (0x9f#8 < out.1) || out.2.getLsbD CF_IDX with
      | false =>
          rw [Bool.or_eq_false_iff] at hhigh
          simp only [Bool.false_eq_true, if_false, hout, hhigh.2]
      | true =>
          simp only [if_true, hout, Rtl.ALU.getLsbD_setFlag hidx]
  | true =>
      change (Rtl.ALU.low (Rtl.ALU.doDas _ _).1,
        (Rtl.ALU.doDas _ _).2.getLsbD CF_IDX) = _
      unfold Rtl.ALU.doDas
      simp only [hout, rtl_adjustLow_fst, rtl_adjustLow_carry, hlow,
        Rtl.ALU.needsAdjust, hnibble, Rtl.ALU.getLsbD_setFlag hidx, if_true]
      rfl

/-- The flags and the output after the sum task on two bytes. -/
def coreSummed (neg : Bool) (upperA upperB x y : BitVec 8) (f : Rtl.Flags) :
    BitVec 8 × Rtl.Flags :=
  let out := coreSum neg (upperA ++ x) (upperB ++ y) f.flagsOut
  (Rtl.ALU.low out.1, Rtl.Flags.step arithmeticUpdates out.2 f)

/-- The flags and the output after the adjustment of `AX`. -/
def coreAdjusted (neg : Bool) (ah al : BitVec 8) (f : Rtl.Flags) :
    BitVec 8 × Rtl.Flags :=
  let out := coreAdjust neg (ah ++ al) f.flagsOut
  (Rtl.ALU.low out.1, Rtl.Flags.step adjustUpdates out.2 f)

/-- The tasks of the core over the bytes of two numbers.  The upper halves of
the buses are arbitrary, and between two bytes only the carry is kept. -/
inductive CoreDecimalChain (neg : Bool) :
    Rtl.Flags -> List (BitVec 8) -> List (BitVec 8) -> List (BitVec 8) ->
      Rtl.Flags -> Prop where
  | nil (f : Rtl.Flags) : CoreDecimalChain neg f [] [] [] f
  | cons {f next last : Rtl.Flags} {x y : BitVec 8}
      {xs ys rs : List (BitVec 8)} (upperA upperB ah : BitVec 8)
      (keeps : next.C =
        (coreAdjusted neg ah (coreSummed neg upperA upperB x y f).1
          (coreSummed neg upperA upperB x y f).2).2.C)
      (rest : CoreDecimalChain neg next xs ys rs last) :
      CoreDecimalChain neg f (x :: xs) (y :: ys)
        ((coreAdjusted neg ah (coreSummed neg upperA upperB x y f).1
          (coreSummed neg upperA upperB x y f).2).1 :: rs) last

theorem coreSummed_eq (neg : Bool) (upperA upperB x y : BitVec 8)
    (f : Rtl.Flags) :
    (coreSummed neg upperA upperB x y f).1 = Carry.addSub neg x y f.C ∧
      coreFlags (coreSummed neg upperA upperB x y f).2 =
        sumFlags neg .OP_WIDTH_8 x y f.C := by
  have hcf : f.flagsOut.getLsbD CF_IDX = f.C :=
    (congrArg ArithmeticFlags.cf (coreFlags_flagsOut f)).symm
  have hsum : coreSum neg (upperA ++ x) (upperB ++ y) f.flagsOut =
      rtlResult neg true (upperA ++ x) (upperB ++ y) f.flagsOut f.C := by
    rw [← hcf]
    cases neg with
    | false =>
        exact doAdc_eq true _ _ _
    | true =>
        exact doSbb_eq true _ _ _
  obtain ⟨hflags, hresult⟩ :=
    rtlResult_eq neg .OP_WIDTH_8 upperA upperB x y f.flagsOut f.C
  have hflags : (coreSum neg (upperA ++ x) (upperB ++ y) f.flagsOut).2 = _ :=
    (congrArg Prod.snd hsum).trans hflags
  have hresult : (coreSum neg (upperA ++ x) (upperB ++ y)
      f.flagsOut).1.setWidth 8 = _ :=
    (congrArg (fun out => out.1.setWidth 8) hsum).trans hresult
  constructor
  · change Rtl.ALU.low _ = _
    rw [low_eq_setWidth, hresult]
  · change coreFlags (Rtl.Flags.step arithmeticUpdates _ f) = _
    rw [hflags, coreFlags_step]

theorem coreAdjusted_eq (neg : Bool) (ah al : BitVec 8) (f : Rtl.Flags) :
    ((coreAdjusted neg ah al f).1, (coreAdjusted neg ah al f).2.C) =
      adjust neg al f.A f.C := by
  have hcf : f.flagsOut.getLsbD CF_IDX = f.C :=
    (congrArg ArithmeticFlags.cf (coreFlags_flagsOut f)).symm
  have haf : f.flagsOut.getLsbD AF_IDX = f.A :=
    (congrArg ArithmeticFlags.af (coreFlags_flagsOut f)).symm
  have hout := coreAdjust_out neg ah al f.flagsOut
  rw [haf, hcf] at hout
  exact hout

theorem coreDecimalChain_ripple {neg : Bool} {f last : Rtl.Flags}
    {xs ys rs : List (BitVec 8)} (h : CoreDecimalChain neg f xs ys rs last) :
    xs.length = ys.length ∧ ripple (decimal neg) xs ys f.C = (rs, last.C) := by
  induction h with
  | nil f =>
      exact ⟨rfl, rfl⟩
  | cons upperA upperB ah keeps rest ih =>
      rename_i f next last x y xs ys rs
      obtain ⟨hlen, hripple⟩ := ih
      obtain ⟨hal, hflags⟩ := coreSummed_eq neg upperA upperB x y f
      have hA : (coreSummed neg upperA upperB x y f).2.A = _ :=
        congrArg ArithmeticFlags.af hflags
      have hC : (coreSummed neg upperA upperB x y f).2.C = _ :=
        congrArg ArithmeticFlags.cf hflags
      have hout := coreAdjusted_eq neg ah
        (coreSummed neg upperA upperB x y f).1
        (coreSummed neg upperA upperB x y f).2
      rw [hal, hA, hC] at hout
      rw [hal] at keeps ⊢
      rw [keeps] at hripple
      refine ⟨by simp [hlen], ?_⟩
      have hstep : decimal neg x y f.C = _ := hout.symm
      simp only [ripple, hstep, hripple]

/-- What a decimal run leaves: decimal bytes that denote the sum or difference
modulo the power of 100, and the carry that does not fit. -/
def DecimalResult (neg : Bool) (xs ys rs : List (BitVec 8)) (c carry : Bool) :
    Prop :=
  let A := number decimalValue 100 xs
  let B := number decimalValue 100 ys
  rs.length = xs.length ∧ (forall r, r ∈ rs -> IsDecimal r) ∧
    (number decimalValue 100 rs : Int) =
      Carry.value neg A B c % (100 ^ xs.length : Nat) ∧
    (carry = true ↔ Exceeds neg (100 ^ xs.length) A B c)

theorem decimalResult_ripple {neg : Bool} {xs ys rs : List (BitVec 8)}
    {c carry : Bool} (hxs : forall x, x ∈ xs -> IsDecimal x)
    (hys : forall y, y ∈ ys -> IsDecimal y) (hlen : xs.length = ys.length)
    (h : ripple (decimal neg) xs ys c = (rs, carry)) :
    DecimalResult neg xs ys rs c carry := by
  have hvalid := ripple_valid (lawful_decimal neg) c hxs hys hlen
  have hsplits := ripple_splits (lawful_decimal neg) c hxs hys hlen
  rw [h] at hvalid hsplits
  exact ⟨hvalid.1, hvalid.2, hsplits.eq_emod, hsplits.carry_iff⟩

/-- Every run of `ADC` and `DAA`, or `SBB` and `DAS`, over decimal bytes adds
or subtracts the decimal numbers, in the emulator and in the core.  In the
emulator it goes on as long as the operands can be read. -/
theorem packed_decimal_denotes {env : Environment W}
    (henv : env.addressing = Addressing.emulator) (neg : Bool)
    {xs ys : List (BitVec 8)} (hxs : forall x, x ∈ xs -> IsDecimal x)
    (hys : forall y, y ∈ ys -> IsDecimal y) :
    (forall (form : Form) (e s : Emulator W) (x y : BitVec 8),
      Returns (form.operands .OP_WIDTH_8) env e (x, y) s ->
      form.Selects (decimalOp neg) s ->
      exists t, Returns (execute (form.opcode (decimalOp neg) .OP_WIDTH_8)) env
        e () t) ∧
      (forall u : Emulator W,
        exists v, Returns (execute (adjustOpcode neg)) env u () v) ∧
      (forall (e last : Emulator W) (rs : List (BitVec 8)),
        DecimalChain neg env e xs ys rs last ->
        DecimalResult neg xs ys rs (e.registers.getFlag Flag.CF)
          (last.registers.getFlag Flag.CF)) ∧
      forall (f last : Rtl.Flags) (rs : List (BitVec 8)),
        CoreDecimalChain neg f xs ys rs last ->
        DecimalResult neg xs ys rs f.C last.C := by
  refine ⟨?_, ?_, ?_, ?_⟩
  · intro form e s x y operands selects
    obtain ⟨t, hrun, -⟩ :=
      execute_result (decimalOp neg) .OP_WIDTH_8 henv operands selects
    exact ⟨t, hrun⟩
  · intro u
    obtain ⟨v, hrun, -⟩ := adjust_returns u neg
    exact ⟨v, hrun⟩
  · intro e last rs h
    obtain ⟨hlen, hripple⟩ := decimalChain_ripple henv h
    exact decimalResult_ripple hxs hys hlen hripple
  · intro f last rs h
    obtain ⟨hlen, hripple⟩ := coreDecimalChain_ripple h
    exact decimalResult_ripple hxs hys hlen hripple

/-- The bytes `99 12` plus `01 01` are `00 14`. -/
theorem packed_decimal_denotes_two :
    exists rs last,
      DecimalChain false Environment.bare (beforeAdc 0x99#16 0#16)
          [0x99#8, 0x12#8] [1#8, 1#8] rs last ∧
        number decimalValue 100 rs = 1400 ∧
        last.registers.getFlag Flag.CF = false := by
  have hdigits : (forall x, x ∈ [0x99#8] -> IsDecimal x) ∧
      (forall x, x ∈ [0x99#8, 0x12#8] -> IsDecimal x) ∧
      (forall y, y ∈ [1#8] -> IsDecimal y) ∧
      (forall y, y ∈ [1#8, 1#8] -> IsDecimal y) := by
    decide
  obtain ⟨hxs, hxs', hys, hys'⟩ := hdigits
  obtain ⟨-, -, honce, -⟩ :=
    @packed_decimal_denotes Unit Environment.bare rfl false _ _ hxs hys
  obtain ⟨hadc, hdaa, hchain, -⟩ :=
    @packed_decimal_denotes Unit Environment.bare rfl false _ _ hxs' hys'
  obtain ⟨t, hrun⟩ := hadc .accumulator _ _ _ _
    (beforeAdc_operands 0x99#16 0#16) trivial
  obtain ⟨t', hrun'⟩ := hadc .accumulator _ _ _ _
    (beforeAdc_operands 0x12#16 1#16) trivial
  obtain ⟨v, hadjust⟩ := hdaa t
  obtain ⟨v', hadjust'⟩ := hdaa t'
  have hfirst := DecimalChain.cons .accumulator
    (beforeAdc_operands 0x99#16 0#16) trivial trivial hrun rfl rfl hadjust rfl
    (DecimalChain.nil v)
  have hlast := DecimalChain.cons .accumulator
    (beforeAdc_operands 0x12#16 1#16) trivial trivial hrun' rfl rfl hadjust' rfl
    (DecimalChain.nil v')
  have hcarry : v.registers.getFlag Flag.CF = true := by
    rw [(honce _ _ _ hfirst).2.2.2]
    decide
  have hall := DecimalChain.cons .accumulator
    (beforeAdc_operands 0x99#16 0#16) trivial trivial hrun rfl rfl hadjust
    (by rw [hcarry]; decide) hlast
  obtain ⟨-, -, hvalue, hcf⟩ := hchain _ _ _ hall
  refine ⟨_, _, hall, ?_, ?_⟩
  · apply Int.ofNat_inj.mp
    rw [hvalue]
    decide
  · rw [← Bool.not_eq_true, hcf]
    decide

end Sim
end S80x86
