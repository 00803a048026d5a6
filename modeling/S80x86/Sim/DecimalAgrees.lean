import S80x86.Rtl.DecimalPrograms
import S80x86.Rtl.InstructionRuns
import S80x86.Sim.InterruptReturn
import S80x86.Sim.PackedDecimal
import S80x86.Sim.RegisterFilesAgree

/-!
# The decimal adjustments agree

`DAA` and `AAM` leave the same `AX` and flags in the emulator and in the core.
`DAS` and `AAD` of the emulator never clear a flag, and `AAD` of the core takes
its immediate for a signed number.
-/

open Foundation

namespace S80x86
namespace Sim

open Foundation.Clocked Foundation.Effect Rtl.Flag

variable {W : Type}

/-!
## Flags
-/

/-- A cycle that does nothing but update the flags. -/
def flagsCycle (updates : List Rtl.UpdateFlags) (v mask : BitVec 16)
    (h : forall u, updates.contains u = mask.getLsbD (flagIndex u)) :
    RegisterCycle :=
  { file :=
      { is8Bit := false, rdSel0 := 0#3, rdSel1 := 0#3, wrSel := 0#3
        wrVal := 0#16, wrEn := false }
    updateFlags := updates
    flagsIn := v
    mask := mask
    mask_eq := h }

section Flags

variable {f : Rtl.Flags} {r r' : RegisterFile}
  {updates : List Rtl.UpdateFlags} {v w mask : BitVec 16}
  (h : f.flagsOut = r.getFlags)
  (hmask : forall u, updates.contains u = mask.getLsbD (flagIndex u))
include h hmask

theorem flagsOut_step : (Rtl.Flags.step updates v f).flagsOut =
    (r.setFlags v mask).getFlags := by
  have hstep := @flags_step false f r h (flagsCycle updates v mask hmask)
  exact hstep

/-- The same flags, when the updated ones are the same. -/
theorem flags_agree_iff (hr : r'.flags = r.flags) :
    (r'.setFlags v mask).getFlags = (Rtl.Flags.step updates w f).flagsOut ↔
      forall u, u ∈ updates ->
        v.getLsbD (flagIndex u) = w.getLsbD (flagIndex u) := by
  have hsame : (r'.setFlags v mask).getFlags =
      (r.setFlags v mask).getFlags := by
    unfold RegisterFile.setFlags RegisterFile.getFlags
    rw [hr]
  have hbit (a : BitVec 16) (u : Rtl.UpdateFlags) :
      (Rtl.Flags.step updates a f).flagsOut.getLsbD (flagIndex u) =
        if mask.getLsbD (flagIndex u) then a.getLsbD (flagIndex u)
        else f.flagsOut.getLsbD (flagIndex u) :=
    getLsbD_step_flags false (flagsCycle updates a mask hmask) f u
  rw [hsame, ← flagsOut_step h hmask]
  constructor
  · intro heq u hu
    have hu' : mask.getLsbD (flagIndex u) = true := by
      rw [← hmask]
      exact List.contains_iff_mem.mpr hu
    have hv := hbit v u
    have hw := hbit w u
    rw [if_pos hu'] at hv hw
    rw [← hv, ← hw]
    exact congrArg (fun x => x.getLsbD (flagIndex u)) heq
  · intro hall
    apply BitVec.eq_of_getLsbD_eq
    intro k hk
    rcases flag_or_fixed hk with ⟨u, rfl⟩ | hfixed
    · refine (hbit v u).trans (Eq.trans ?_ (hbit w u).symm)
      split
      · next hu =>
          apply hall
          apply List.contains_iff_mem.mp
          rw [hmask]
          exact hu
      · rfl
    · have hout : forall g : Rtl.Flags, g.flagsOut.getLsbD k =
          (stuckBits false).getLsbD k := by
        intro g
        rw [← flagsOutOf_fixed false g, BitVec.getLsbD_and, hfixed,
          Bool.and_true]
        rfl
      rw [hout, hout]

end Flags

/-!
## The low digit
-/

theorem and_AF_bne (flags : BitVec 16) :
    (flags &&& Flag.AF != 0#16) = flags.getLsbD AF_IDX := by
  have hand : flags &&& Flag.AF = _ := BitVec.and_twoPow flags AF_IDX
  rw [hand]
  cases flags.getLsbD AF_IDX <;> rfl

/-- The upper half of a value that an adjustment may have left. -/
theorem upper_bne (v : BitVec 16) :
    (v &&& 0xff00#16 != 0#16) = (v.extractLsb' 8 8 != 0#8) := by
  have hzero : v &&& 0xff00#16 = 0#16 ↔ v.extractLsb' 8 8 = 0#8 := by
    constructor
    · intro h
      apply BitVec.eq_of_getLsbD_eq
      intro i hi
      have hbit := congrArg (fun x => x.getLsbD (8 + i)) h
      interval_cases i <;> simpa using hbit
    · intro h
      apply BitVec.eq_of_getLsbD_eq
      intro i hi
      by_cases hlow : i < 8
      · interval_cases i <;> simp
      · have hbit := congrArg (fun x => x.getLsbD (i - 8)) h
        interval_cases i <;> simpa using hbit
  rw [Bool.eq_iff_iff, bne_iff_ne, bne_iff_ne]
  exact not_congr hzero

theorem nibble_lt : forall x : BitVec 8,
    decide (9#16 < x.setWidth 16 &&& 0x0f#16) =
      decide (9#4 < x.extractLsb' 0 4) := by
  decide +kernel

theorem nibble_low (a : BitVec 16) :
    (Rtl.ALU.low a).extractLsb' 0 4 = a.extractLsb' 0 4 := by
  ext i hi
  simp

theorem needsAdjust_agrees (a flags : BitVec 16) :
    needsAdjust ((Rtl.ALU.low a).setWidth 16) flags =
      Rtl.ALU.needsAdjust a flags := by
  unfold needsAdjust Rtl.ALU.needsAdjust
  rw [nibble_lt, nibble_low, and_AF_bne]

theorem setFlag_true {k : Nat} (hk : k < 16) (flags : BitVec 16) :
    Rtl.ALU.setFlag k true flags = flags ||| BitVec.twoPow 16 k := by
  apply BitVec.eq_of_getLsbD_eq
  intro i hi
  rw [Rtl.ALU.getLsbD_setFlag hi, BitVec.getLsbD_or, BitVec.getLsbD_twoPow]
  by_cases h : i = k
  · simp [h, hk]
  · simp [h, Ne.symm h]

theorem setFlag_false {k : Nat} (hk : k < 16) (flags : BitVec 16) :
    Rtl.ALU.setFlag k false flags = flags &&& ~~~BitVec.twoPow 16 k := by
  apply BitVec.eq_of_getLsbD_eq
  intro i hi
  rw [Rtl.ALU.getLsbD_setFlag hi, BitVec.getLsbD_and, BitVec.getLsbD_not,
    BitVec.getLsbD_twoPow]
  by_cases h : i = k
  · simp [h, hk]
  · simp [h, Ne.symm h, hi]

theorem and_low (v : BitVec 16) :
    v &&& 0xff#16 = (Rtl.ALU.low v).setWidth 16 := by
  ext i hi
  interval_cases i <;> simp

/-- Both adjust the low digit in the same way. -/
theorem adjustLow_agrees (need : Bool) (tmp a flags : BitVec 16) :
    adjustLow need tmp flags ((Rtl.ALU.low a).setWidth 16) =
      ((Rtl.ALU.adjustLow need tmp a flags).2,
        (Rtl.ALU.adjustLow need tmp a flags).1.setWidth 16) := by
  have haf := setFlag_true (k := AF_IDX) (by decide) flags
  have hcf := setFlag_true (k := CF_IDX) (by decide) (flags ||| Flag.AF)
  unfold adjustLow Rtl.ALU.adjustLow
  cases need with
  | false =>
      rw [setFlag_false (by decide)]
      rfl
  | true =>
      rw [upper_bne, and_low, haf]
      cases tmp.extractLsb' 8 8 != 0#8 with
      | false =>
          rfl
      | true =>
          exact congrArg (fun x => (x, (Rtl.ALU.low tmp).setWidth 16)) hcf.symm

theorem nines_lt (x : BitVec 8) :
    decide (0x9f#16 < x.setWidth 16) = decide (0x9f#8 < x) := by
  have hlt := x.isLt
  rw [decide_eq_decide, BitVec.lt_def, BitVec.lt_def, BitVec.toNat_setWidth,
    Nat.mod_eq_of_lt (by omega)]
  rfl

/-- The byte and the flags after both digits have been adjusted. -/
def adjustHigh (neg : Bool) (low : BitVec 8 × BitVec 16) :
    BitVec 8 × BitVec 16 :=
  let high := decide (0x9f#8 < low.1) || low.2.getLsbD CF_IDX
  (if high then adjusted neg 0x60#8 low.1 else low.1,
    Rtl.ALU.setFlag CF_IDX high low.2)

/-- The low digit adjusted by the core. -/
def lowAdjusted (neg : Bool) (a flags : BitVec 16) : BitVec 8 × BitVec 16 :=
  let al := (Rtl.ALU.low a).setWidth 16
  Rtl.ALU.adjustLow (Rtl.ALU.needsAdjust a flags)
    (if neg then al - 6#16 else al + 6#16) a flags

theorem setFlag_self {k : Nat} {b : Bool} {flags : BitVec 16}
    (h : flags.getLsbD k = b) : Rtl.ALU.setFlag k b flags = flags := by
  apply BitVec.eq_of_getLsbD_eq
  intro i hi
  rw [Rtl.ALU.getLsbD_setFlag hi]
  by_cases hik : i = k
  · rw [if_pos hik, hik, h]
  · rw [if_neg hik]

theorem doDaa_eq (a flags : BitVec 16) :
    Rtl.ALU.doDaa a flags =
      (a.extractLsb' 8 8 ++ (adjustHigh false (lowAdjusted false a flags)).1,
        (adjustHigh false (lowAdjusted false a flags)).2) := by
  unfold Rtl.ALU.doDaa lowAdjusted adjustHigh
  simp only [Bool.false_eq_true, if_false]
  generalize Rtl.ALU.adjustLow _ _ _ _ = low
  cases hhigh : decide (0x9f#8 < low.1) || low.2.getLsbD CF_IDX with
  | false =>
      have hcf := (Bool.or_eq_false_iff.mp hhigh).2
      rw [setFlag_self hcf]
      rfl
  | true =>
      rfl

/-- The flags of a byte that the core has adjusted downwards. -/
def resultFlags (al : BitVec 8) (flags : BitVec 16) : BitVec 16 :=
  Rtl.ALU.setFlag ZF_IDX (al == 0#8) (Rtl.ALU.setFlag SF_IDX (al.getLsbD 7)
    (Rtl.ALU.setFlag PF_IDX (!Rtl.ALU.xorReduce al) flags))

theorem doDas_eq (a flags : BitVec 16) :
    Rtl.ALU.doDas a flags =
      (a.extractLsb' 8 8 ++ (adjustHigh true (lowAdjusted true a flags)).1,
        resultFlags (adjustHigh true (lowAdjusted true a flags)).1
          (adjustHigh true (lowAdjusted true a flags)).2) := rfl

/-!
## The emulator
-/

theorem get_AL_low (r : RegisterFile) :
    r.get .AL = (Rtl.ALU.low r.ax).setWidth 16 :=
  and_low r.ax

/-- `AX` after a write of `AL`. -/
theorem set_AL_ax (r : RegisterFile) (v : BitVec 16) :
    (r.set .AL v).ax = r.ax.extractLsb' 8 8 ++ v.extractLsb' 0 8 :=
  lowByte_eq r.ax v

/-- The low digit adjusted by the emulator. -/
def lowDigit (neg : Bool) (r : RegisterFile) : BitVec 16 × BitVec 16 :=
  let al := r.get .AL
  adjustLow (needsAdjust al r.getFlags) (if neg then al - 6#16 else al + 6#16)
    r.getFlags al

def highDigit (low : BitVec 16 × BitVec 16) : Bool :=
  decide (0x9f#16 < low.2) || low.1 &&& Flag.CF != 0#16

/-- The upper digit and the carry, adjusted by the emulator. -/
def carried (neg : Bool) (low : BitVec 16 × BitVec 16) :
    BitVec 16 × BitVec 16 :=
  (if highDigit low then
      if neg then low.2 - 0x60#16 else low.2 + 0x60#16
    else low.2,
    if highDigit low then low.1 ||| Flag.CF
    else if neg then low.1 &&& ~~~Flag.CF else low.1)

theorem lowDigit_eq (neg : Bool) (r : RegisterFile) :
    lowDigit neg r =
      ((lowAdjusted neg r.ax r.getFlags).2,
        (lowAdjusted neg r.ax r.getFlags).1.setWidth 16) := by
  unfold lowDigit lowAdjusted
  simp only [get_AL_low, needsAdjust_agrees, adjustLow_agrees]

theorem highDigit_eq (low : BitVec 8 × BitVec 16) :
    highDigit (low.2, low.1.setWidth 16) =
      (decide (0x9f#8 < low.1) || low.2.getLsbD CF_IDX) := by
  unfold highDigit
  rw [nines_lt, and_CF_bne]
  rfl

/-- Both adjust the upper digit in the same way. -/
theorem carried_eq (neg : Bool) (low : BitVec 8 × BitVec 16) :
    (carried neg (low.2, low.1.setWidth 16)).1.setWidth 8 =
        (adjustHigh neg low).1 ∧
      (carried neg (low.2, low.1.setWidth 16)).2 = (adjustHigh neg low).2 := by
  have hhigh := highDigit_eq low
  have hset : Rtl.ALU.setFlag CF_IDX true low.2 = low.2 ||| Flag.CF :=
    setFlag_true (by decide) low.2
  have hclear : Rtl.ALU.setFlag CF_IDX false low.2 = low.2 &&& ~~~Flag.CF :=
    setFlag_false (by decide) low.2
  unfold carried adjustHigh adjusted
  simp only [hhigh]
  cases hcase : decide (0x9f#8 < low.1) || low.2.getLsbD CF_IDX with
  | false =>
      have hcf := (Bool.or_eq_false_iff.mp hcase).2
      have hself := setFlag_self hcf
      cases neg with
      | false =>
          simp [hself]
      | true =>
          simpa using hclear.symm
  | true =>
      cases neg with
      | false =>
          simpa [BitVec.setWidth_add] using hset.symm
      | true =>
          refine ⟨?_, hset.symm⟩
          apply BitVec.eq_of_toNat_eq
          have hlt := low.1.isLt
          simp [BitVec.toNat_sub]
          omega

theorem daa27_registers (env : Environment W) (u : Emulator W) :
    let out := carried false (lowDigit false u.registers)
    Returns daa27 env u ()
      { u with
        registers := (u.registers.set .AL out.1).setFlags out.2 adjustFlags } :=
  rfl

/-!
## Signs, zeroes and parities
-/

/-- The byte that `DAS` leaves is tested as a word. -/
theorem byte_tests : forall (high : Bool) (x : BitVec 8),
    let v := if high then x.setWidth 16 - 0x60#16 else x.setWidth 16
    let b := if high then x - 0x60#8 else x
    builtinParity (v.setWidth 32) = Rtl.ALU.xorReduce b ∧
      (v == 0#16) = (b == 0#8) ∧ (v &&& 0x80#16 != 0#16) = b.getLsbD 7 := by
  decide +kernel

theorem getLsbD_adjustLow (need : Bool) (tmp a flags : BitVec 16) {k : Nat}
    (hk : k < 16) (haf : k ≠ AF_IDX) (hcf : k ≠ CF_IDX) :
    (Rtl.ALU.adjustLow need tmp a flags).2.getLsbD k = flags.getLsbD k := by
  unfold Rtl.ALU.adjustLow
  cases need with
  | false =>
      exact (Rtl.ALU.getLsbD_setFlag hk).trans (if_neg haf)
  | true =>
      simp only [if_true]
      split
      · rw [Rtl.ALU.getLsbD_setFlag hk, if_neg hcf,
          Rtl.ALU.getLsbD_setFlag hk, if_neg haf]
      · rw [Rtl.ALU.getLsbD_setFlag hk, if_neg haf]

/-- The flags that no adjustment of a digit touches. -/
theorem getLsbD_adjustHigh (neg : Bool) (a flags : BitVec 16) {k : Nat}
    (hk : k < 16) (haf : k ≠ AF_IDX) (hcf : k ≠ CF_IDX) :
    (adjustHigh neg (lowAdjusted neg a flags)).2.getLsbD k =
      flags.getLsbD k := by
  unfold adjustHigh
  rw [Rtl.ALU.getLsbD_setFlag hk, if_neg hcf]
  exact getLsbD_adjustLow _ _ a flags hk haf hcf

/-- Sign, zero and parity of a result. -/
structure ResultBits where
  sf : Bool
  zf : Bool
  pf : Bool
  deriving DecidableEq

/-- The flags word has these bits. -/
def ResultBits.Shown (b : ResultBits) (flags : BitVec 16) : Prop :=
  flags.getLsbD SF_IDX = b.sf ∧ flags.getLsbD ZF_IDX = b.zf ∧
    flags.getLsbD PF_IDX = b.pf

/-- The bits that are set when they were set before or are set now. -/
def ResultBits.sticky (b : ResultBits) (flags : BitVec 16) : ResultBits :=
  { sf := flags.getLsbD SF_IDX || b.sf
    zf := flags.getLsbD ZF_IDX || b.zf
    pf := flags.getLsbD PF_IDX || b.pf }

def byteBits (v : BitVec 8) : ResultBits :=
  { sf := v.getLsbD 7, zf := v == 0#8, pf := !Rtl.ALU.xorReduce v }

def wordBits (v : BitVec 16) : ResultBits :=
  { sf := v.getLsbD 15, zf := v == 0#16
    pf := !Rtl.ALU.xorReduce (Rtl.ALU.low v) }

theorem shown_iff {a b : ResultBits} {v w : BitVec 16} (hv : a.Shown v)
    (hw : b.Shown w) :
    (forall u, u ∈ Rtl.Machine.resultUpdates ->
      v.getLsbD (flagIndex u) = w.getLsbD (flagIndex u)) ↔ a = b := by
  obtain ⟨hvs, hvz, hvp⟩ := hv
  obtain ⟨hws, hwz, hwp⟩ := hw
  constructor
  · intro h
    have hs := h .SF (by decide)
    have hz := h .ZF (by decide)
    have hp := h .PF (by decide)
    simp only [flagIndex] at hs hz hp
    cases a
    cases b
    simp_all
  · rintro rfl u hu
    simp only [Rtl.Machine.resultUpdates, List.mem_cons, List.not_mem_nil,
      or_false] at hu
    rcases hu with rfl | rfl | rfl
    · exact hvs.trans hws.symm
    · exact hvz.trans hwz.symm
    · exact hvp.trans hwp.symm

theorem packed_iff {a b : ResultBits} {v w : BitVec 16} (hv : a.Shown v)
    (hw : b.Shown w) (haf : v.getLsbD AF_IDX = w.getLsbD AF_IDX)
    (hcf : v.getLsbD CF_IDX = w.getLsbD CF_IDX) :
    (forall u, u ∈ Rtl.Machine.packedUpdates ->
      v.getLsbD (flagIndex u) = w.getLsbD (flagIndex u)) ↔ a = b := by
  rw [← shown_iff hv hw]
  constructor
  · intro h u hu
    apply h
    simp only [Rtl.Machine.resultUpdates, List.mem_cons, List.not_mem_nil,
      or_false] at hu
    rcases hu with rfl | rfl | rfl <;> decide
  · intro h u hu
    simp only [Rtl.Machine.packedUpdates, List.mem_cons, List.not_mem_nil,
      or_false] at hu
    rcases hu with rfl | rfl | rfl | rfl | rfl
    · exact h .SF (by decide)
    · exact h .ZF (by decide)
    · exact haf
    · exact hcf
    · exact h .PF (by decide)

/-!
## The flags of a result
-/

theorem resultFlags_shown (al : BitVec 8) (flags : BitVec 16) :
    (byteBits al).Shown (resultFlags al flags) := by
  have hs : SF_IDX < 16 := by decide
  have hz : ZF_IDX < 16 := by decide
  have hp : PF_IDX < 16 := by decide
  unfold ResultBits.Shown resultFlags byteBits
  refine ⟨?_, ?_, ?_⟩
  · rw [Rtl.ALU.getLsbD_setFlag hs, if_neg (by decide),
      Rtl.ALU.getLsbD_setFlag hs, if_pos rfl]
  · rw [Rtl.ALU.getLsbD_setFlag hz, if_pos rfl]
  · rw [Rtl.ALU.getLsbD_setFlag hp, if_neg (by decide),
      Rtl.ALU.getLsbD_setFlag hp, if_neg (by decide),
      Rtl.ALU.getLsbD_setFlag hp, if_pos rfl]

theorem doAdd_shown (a b flags : BitVec 16) :
    (wordBits (a + b)).Shown (Rtl.ALU.doAdd false a b flags).2 := by
  have hs : SF_IDX < 16 := by decide
  have hz : ZF_IDX < 16 := by decide
  have hp : PF_IDX < 16 := by decide
  rw [← Rtl.Machine.Eval.doAdd_fst false a b flags]
  unfold ResultBits.Shown wordBits Rtl.ALU.doAdd Rtl.ALU.commonFlags
  refine ⟨?_, ?_, ?_⟩
  · rw [Rtl.ALU.getLsbD_setFlag hs, if_neg (by decide),
      Rtl.ALU.getLsbD_setFlag hs, if_pos rfl]
    rfl
  · rw [Rtl.ALU.getLsbD_setFlag hz, if_pos rfl]
    rfl
  · rw [Rtl.ALU.getLsbD_setFlag hp, if_neg (by decide),
      Rtl.ALU.getLsbD_setFlag hp, if_neg (by decide),
      Rtl.ALU.getLsbD_setFlag hp, if_neg (by decide),
      Rtl.ALU.getLsbD_setFlag hp, if_pos rfl]

/-- Flags that are set one after the other, and never cleared. -/
theorem setIf_shown (b : ResultBits) (flags : BitVec 16) :
    (b.sticky flags).Shown
      (setIf b.pf Flag.PF (setIf b.zf Flag.ZF (setIf b.sf Flag.SF flags))) := by
  unfold ResultBits.Shown ResultBits.sticky
  simp only [getLsbD_setIf]
  refine ⟨?_, ?_, ?_⟩ <;>
    simp [Flag.PF, Flag.ZF, Flag.SF, SF_IDX, ZF_IDX, PF_IDX]

/-- The other flags of an adjustment. -/
theorem getLsbD_result (b : ResultBits) (al : BitVec 8) (flags : BitVec 16)
    {k : Nat} (hk : k = AF_IDX ∨ k = CF_IDX) :
    (setIf b.pf Flag.PF (setIf b.zf Flag.ZF
        (setIf b.sf Flag.SF flags))).getLsbD k =
      (resultFlags al flags).getLsbD k := by
  have hlt : k < 16 := by
    rcases hk with rfl | rfl <;> decide
  unfold resultFlags
  simp only [getLsbD_setIf, Rtl.ALU.getLsbD_setFlag hlt]
  rcases hk with rfl | rfl <;>
    simp [Flag.PF, Flag.ZF, Flag.SF, AF_IDX, CF_IDX, SF_IDX, ZF_IDX, PF_IDX]

/-- Flags that are cleared before they are set. -/
theorem cleared_shown (b : ResultBits) (flags : BitVec 16) :
    b.Shown (setIf b.sf Flag.SF (setIf b.pf Flag.PF (setIf b.zf Flag.ZF
      (flags &&& ~~~(Flag.PF ||| Flag.SF ||| Flag.ZF))))) := by
  unfold ResultBits.Shown
  simp only [getLsbD_setIf, BitVec.getLsbD_and, BitVec.getLsbD_not]
  refine ⟨?_, ?_, ?_⟩ <;>
    simp [Flag.PF, Flag.ZF, Flag.SF, SF_IDX, ZF_IDX, PF_IDX]

theorem parityOf_low (v : BitVec 16) :
    parityOf v = Rtl.ALU.xorReduce (Rtl.ALU.low v) := by
  have hmask : v.setWidth 32 &&& 0xff#32 = (Rtl.ALU.low v).setWidth 32 := by
    ext i hi
    interval_cases i <;> simp
  unfold parityOf
  rw [hmask, builtinParity_byte]

theorem sign_bne (v : BitVec 16) :
    (v &&& 0x8000#16 != 0#16) = v.getLsbD 15 := by
  have hand : v &&& 0x8000#16 = _ := BitVec.and_twoPow v 15
  rw [hand]
  cases v.getLsbD 15 <;> rfl

/-!
## The instructions
-/

/-- The same `AX` and the same flags. -/
def Agree (v : Emulator W) (x : Rtl.Arch) : Prop :=
  v.registers.get .AX = x.gprs Rtl.GPR.AX ∧
    v.registers.getFlags = x.flags.flagsOut

theorem set_AL_congr (r : RegisterFile) {v : BitVec 16} {b : BitVec 8}
    (h : v.setWidth 8 = b) :
    (r.set .AL v).ax = r.ax.extractLsb' 8 8 ++ b := by
  rw [set_AL_ax, ← h]
  congr 1

/-- `AH` keeps its value when it is written back after `AL`. -/
theorem set_AH_self_of (r : RegisterFile) (v : BitVec 16) :
    ((r.set .AL v).set .AH (r.get .AH)).ax = (r.set .AL v).ax := by
  change RegisterFile.highByte (RegisterFile.lowByte r.ax v) (r.ax >>> 8) =
    RegisterFile.lowByte r.ax v
  rw [highByte_eq, lowByte_eq, Bits.extractLsb'_low_append]
  congr 1

theorem packed_mask (u : Rtl.UpdateFlags) :
    Rtl.Machine.packedUpdates.contains u =
      adjustFlags.getLsbD (flagIndex u) := by
  cases u <;> rfl

theorem result_mask (u : Rtl.UpdateFlags) :
    Rtl.Machine.resultUpdates.contains u =
      (Flag.SF ||| Flag.ZF ||| Flag.PF).getLsbD (flagIndex u) := by
  cases u <;> rfl

/-- The tests of `DAS` on the adjusted word and on its low byte. -/
theorem carried_tests (low : BitVec 8 × BitVec 16) :
    let v := (carried true (low.2, low.1.setWidth 16)).1
    let b := (adjustHigh true low).1
    builtinParity (v.setWidth 32) = Rtl.ALU.xorReduce b ∧
      (v == 0#16) = (b == 0#8) ∧ (v &&& 0x80#16 != 0#16) = b.getLsbD 7 := by
  have htests := byte_tests
    (decide (0x9f#8 < low.1) || low.2.getLsbD CF_IDX) low.1
  unfold carried adjustHigh adjusted
  rw [highDigit_eq]
  exact htests

theorem das2f_registers (env : Environment W) (u : Emulator W) :
    let out := carried true (lowDigit true u.registers)
    let flags := setIf (!builtinParity (out.1.setWidth 32)) Flag.PF
      (setIf (out.1 == 0#16) Flag.ZF
        (setIf (out.1 &&& 0x80#16 != 0#16) Flag.SF out.2))
    Returns das2f env u ()
      { u with
        registers :=
          ((u.registers.set .AL out.1).set .AH (u.registers.get .AH)).setFlags
            flags adjustFlags } :=
  rfl

/-- The digits of `DAS` adjusted, and its flags. -/
theorem das2f_outcome (env : Environment W) (e : Emulator W) :
    let out := adjustHigh true
      (lowAdjusted true e.registers.ax e.registers.getFlags)
    exists r flags,
      Returns das2f env e ()
        { e with registers := RegisterFile.setFlags r flags adjustFlags } ∧
      r.get .AX = e.registers.ax.extractLsb' 8 8 ++ out.1 ∧
      r.flags = e.registers.flags ∧
      flags.getLsbD AF_IDX = (resultFlags out.1 out.2).getLsbD AF_IDX ∧
      flags.getLsbD CF_IDX = (resultFlags out.1 out.2).getLsbD CF_IDX ∧
      ((byteBits out.1).sticky e.registers.getFlags).Shown flags := by
  intro out
  have hrun := das2f_registers env e
  have hlow := lowDigit_eq true e.registers
  obtain ⟨hbyte, hword⟩ :=
    carried_eq true (lowAdjusted true e.registers.ax e.registers.getFlags)
  obtain ⟨hparity, hzero, hsign⟩ :=
    carried_tests (lowAdjusted true e.registers.ax e.registers.getFlags)
  simp only [hlow, hparity, hzero, hsign, hword] at hrun
  refine ⟨_, _, hrun, ?_, ?_, ?_, ?_, ?_⟩
  · exact (set_AH_self_of _ _).trans (set_AL_congr _ hbyte)
  · rw [RegisterFile.flags_set, RegisterFile.flags_set]
  · exact getLsbD_result (byteBits out.1) out.1 out.2 (Or.inl rfl)
  · exact getLsbD_result (byteBits out.1) out.1 out.2 (Or.inr rfl)
  · have hshown := setIf_shown (byteBits out.1) out.2
    unfold ResultBits.sticky at hshown ⊢
    rw [getLsbD_adjustHigh _ _ _ (by decide) (by decide) (by decide),
      getLsbD_adjustHigh _ _ _ (by decide) (by decide) (by decide),
      getLsbD_adjustHigh _ _ _ (by decide) (by decide) (by decide)] at hshown
    exact hshown

theorem get_AH_high (r : RegisterFile) :
    r.get .AH = (r.ax.extractLsb' 8 8).setWidth 16 := by
  change r.ax >>> 8 = _
  ext i hi
  interval_cases i <;> simp

/-- The sum of `AL` and the product of `AH` with an immediate. -/
def aadValue (ax immediate : BitVec 16) : BitVec 16 :=
  (Rtl.ALU.low ax).setWidth 16 +
    (ax.extractLsb' 8 8).setWidth 16 * immediate

theorem low_sum_product (a b c : BitVec 16) :
    Rtl.ALU.low (a + b * c) =
      Rtl.ALU.low a + Rtl.ALU.low b * Rtl.ALU.low c := by
  simp only [low_eq_setWidth]
  rw [BitVec.setWidth_add _ _ (by decide), BitVec.setWidth_mul _ _ (by decide)]

theorem low_setWidth (b : BitVec 8) : Rtl.ALU.low (b.setWidth 16) = b := by
  rw [low_eq_setWidth]
  simp

/-- The low byte does not depend on how the immediate is extended. -/
theorem aadValue_low (ax : BitVec 16) (b : BitVec 8) :
    Rtl.ALU.low (aadValue ax (b.setWidth 16)) =
      Rtl.ALU.low (aadValue ax (b.signExtend 16)) := by
  have hsigned : Rtl.ALU.low (b.signExtend 16) = b :=
    Rtl.Machine.Eval.low_signExtend b
  unfold aadValue
  rw [low_sum_product, low_sum_product, low_setWidth b, hsigned]

theorem zero_append (b : BitVec 8) :
    (0#16).extractLsb' 0 8 ++ b = b.setWidth 16 := by
  ext i hi
  interval_cases i <;> simp

theorem linear {env : Environment W}
    (henv : env.addressing = Addressing.emulator) :
    env.addressing.LinearBytes := by
  rw [henv]
  exact Addressing.linearBytes_emulator

/-- What `AAD` leaves, and its flags. -/
theorem aadd5_outcome {env : Environment W}
    (henv : env.addressing = Addressing.emulator) (e : Emulator W) :
    let v := aadValue e.registers.ax
      ((e.codeByte e.instrLength).setWidth 16)
    exists r flags,
      Returns aadd5 env e ()
        { e with
          registers :=
            RegisterFile.setFlags r flags (Flag.SF ||| Flag.ZF ||| Flag.PF)
          instrLength := e.instrLength + 1 } ∧
      r.get .AX = (Rtl.ALU.low v).setWidth 16 ∧
      r.flags = e.registers.flags ∧
      ((wordBits v).sticky e.registers.getFlags).Shown flags := by
  intro v
  have hv : v = e.registers.get .AL +
      e.registers.get .AH * (e.codeByte e.instrLength).setWidth 16 := by
    rw [get_AL_low, get_AH_high]
    rfl
  have hrun : Returns aadd5 env e ()
      { e with
        registers :=
          ((e.registers.set .AL v).set .AH 0#16).setFlags
            (setIf (!parityOf v) Flag.PF (setIf (v == 0#16) Flag.ZF
              (setIf (v &&& 0x8000#16 != 0#16) Flag.SF e.registers.getFlags)))
            (Flag.SF ||| Flag.ZF ||| Flag.PF)
        instrLength := e.instrLength + 1 } := by
    rw [hv]
    refine returns_bind.mpr ⟨_, _, rfl, ?_⟩
    refine returns_bind.mpr ⟨_, _, rfl, ?_⟩
    refine returns_bind.mpr ⟨_, _, rfl, ?_⟩
    refine returns_bind.mpr ⟨_, _, fetchByte_returns (linear henv) e, ?_⟩
    rfl
  rw [sign_bne, parityOf_low] at hrun
  refine ⟨_, _, hrun, ?_, ?_, ?_⟩
  · change RegisterFile.highByte (RegisterFile.lowByte _ v) 0#16 = _
    rw [highByte_eq, lowByte_eq, Bits.extractLsb'_low_append]
    exact zero_append _
  · rw [RegisterFile.flags_set, RegisterFile.flags_set]
  · exact setIf_shown (wordBits v) e.registers.getFlags

/-- What `AAM` leaves for a divisor that is not zero, and its flags. -/
theorem aamd4_outcome {env : Environment W}
    (henv : env.addressing = Addressing.emulator) (e : Emulator W)
    (hne : e.codeByte e.instrLength ≠ 0#8) :
    let al := Rtl.ALU.low e.registers.ax
    let divisor := e.codeByte e.instrLength
    let v := (al / divisor) ++ (al % divisor)
    exists r flags,
      Returns aamd4 env e ()
        { e with
          registers :=
            RegisterFile.setFlags r flags (Flag.SF ||| Flag.ZF ||| Flag.PF)
          instrLength := e.instrLength + 1 } ∧
      r.get .AX = v ∧ r.flags = e.registers.flags ∧
      (wordBits v).Shown flags := by
  intro al divisor v
  let r := (e.registers.set .AH
      (BitVec.ofNat 16 ((e.registers.get .AL).toNat / divisor.toNat))).set .AL
    (BitVec.ofNat 16 ((e.registers.get .AL).toNat % divisor.toNat))
  have hrun : Returns aamd4 env e ()
      { e with
        registers := r.setFlags
          (setIf (r.get .AX &&& 0x8000#16 != 0#16) Flag.SF
            (setIf (!parityOf (r.get .AL)) Flag.PF
              (setIf (r.get .AX == 0#16) Flag.ZF
                (r.getFlags &&& ~~~(Flag.PF ||| Flag.SF ||| Flag.ZF)))))
          (Flag.SF ||| Flag.ZF ||| Flag.PF)
        instrLength := e.instrLength + 1 } := by
    refine returns_bind.mpr ⟨_, _, fetchByte_returns (linear henv) e, ?_⟩
    rw [if_neg hne]
    rfl
  have hal : (e.registers.get .AL).toNat = al.toNat := by
    have hlt := al.isLt
    rw [get_AL_low, BitVec.toNat_setWidth, Nat.mod_eq_of_lt (by omega)]
  have hlow (n : Nat) (b : BitVec 8) (h : b.toNat = n) :
      (BitVec.ofNat 16 n).extractLsb' 0 8 = b := by
    have hlt := b.isLt
    apply BitVec.eq_of_toNat_eq
    rw [BitVec.extractLsb'_toNat, BitVec.toNat_ofNat, Nat.shiftRight_zero]
    omega
  have hrax : r.get .AX = v := by
    change RegisterFile.lowByte (RegisterFile.highByte _ _) _ = v
    rw [highByte_eq, lowByte_eq, hal, hlow _ (al / divisor) BitVec.toNat_udiv,
      hlow _ (al % divisor) BitVec.toNat_umod, Bits.extractLsb'_high_append]
  refine ⟨r, _, hrun, hrax, ?_, ?_⟩
  · rw [RegisterFile.flags_set, RegisterFile.flags_set]
  · rw [sign_bne, parityOf_low, get_AL_low, low_setWidth]
    change (wordBits v).Shown (setIf ((r.get .AX).getLsbD 15) Flag.SF
      (setIf (!Rtl.ALU.xorReduce (Rtl.ALU.low (r.get .AX))) Flag.PF
        (setIf (r.get .AX == 0#16) Flag.ZF _)))
    rw [hrax]
    exact cleared_shown (wordBits v) _

theorem interrupt_mask (u : Rtl.UpdateFlags) :
    [Rtl.UpdateFlags.IF, .TF].contains u =
      (Flag.IF ||| Flag.TF).getLsbD (flagIndex u) := by
  cases u <;> rfl

section Instructions

variable (env : Environment W) {e : Emulator W} {m : Rtl.Machine}
  (hax : m.gprs Rtl.GPR.AX = e.registers.ax)
  (hflags : m.flags.flagsOut = e.registers.getFlags)
include hax hflags

theorem daa_agrees :
    exists v x, Returns daa27 env e () v ∧ Rtl.Retires 0x27 m x ∧
      Agree v x := by
  obtain ⟨x, hx, hxax, hxflags⟩ := Rtl.Machine.retires_daa m
  refine ⟨_, x, daa27_registers env e, hx, ?_, ?_⟩
  · rw [hxax, hax, hflags, doDaa_eq, RegisterFile.get_setFlags]
    apply set_AL_congr
    rw [lowDigit_eq]
    exact (carried_eq false _).1
  · rw [hxflags, flags_agree_iff hflags packed_mask
      (RegisterFile.flags_set _ _ _)]
    intro u _
    rw [hax, hflags, doDaa_eq, lowDigit_eq, (carried_eq false _).2]

/-- The byte `DAS` leaves in `AL`. -/
def dasResult (ax flags : BitVec 16) : BitVec 8 :=
  (adjustHigh true (lowAdjusted true ax flags)).1

theorem das_agrees :
    exists v x, Returns das2f env e () v ∧ Rtl.Retires 0x2f m x ∧
      (Agree v x ↔
        (byteBits (dasResult e.registers.ax e.registers.getFlags)).sticky
            e.registers.getFlags =
          byteBits (dasResult e.registers.ax e.registers.getFlags)) := by
  obtain ⟨x, hx, hxax, hxflags⟩ := Rtl.Machine.retires_das m
  obtain ⟨r, flags, hrun, hrax, hrflags, haf, hcf, hshown⟩ :=
    das2f_outcome env e
  refine ⟨_, x, hrun, hx, ?_⟩
  have hleft : (r.setFlags flags adjustFlags).get .AX =
      x.gprs Rtl.GPR.AX := by
    rw [hxax, hax, hflags, doDas_eq, RegisterFile.get_setFlags]
    exact hrax
  unfold Agree
  rw [and_iff_right hleft, hxflags, flags_agree_iff hflags packed_mask hrflags,
    hax, hflags, doDas_eq]
  exact packed_iff hshown (resultFlags_shown _ _) haf hcf

section Immediate

variable {env}
variable (henv : env.addressing = Addressing.emulator)
  (himm : m.insn.immediates0 = (e.codeByte e.instrLength).signExtend 16)
include henv himm

theorem aad_agrees :
    exists v x, Returns aadd5 env e () v ∧ Rtl.Retires 0xd5 m x ∧
      (Agree v x ↔
        (wordBits (aadValue e.registers.ax
            ((e.codeByte e.instrLength).setWidth 16))).sticky
              e.registers.getFlags =
          wordBits (aadValue e.registers.ax
            ((e.codeByte e.instrLength).signExtend 16))) := by
  obtain ⟨x, hx, hxax, hxflags⟩ := Rtl.Machine.retires_aad m
  obtain ⟨r, flags, hrun, hrax, hrflags, hshown⟩ := aadd5_outcome henv e
  refine ⟨_, x, hrun, hx, ?_⟩
  have hleft : (r.setFlags flags (Flag.SF ||| Flag.ZF ||| Flag.PF)).get .AX =
      x.gprs Rtl.GPR.AX := by
    rw [hxax, RegisterFile.get_setFlags, hrax]
    unfold Rtl.Machine.aadSum Rtl.Machine.al Rtl.Machine.ah
    rw [hax, himm]
    exact congrArg (BitVec.setWidth 16) (aadValue_low _ _)
  unfold Agree
  rw [and_iff_right hleft, hxflags, flags_agree_iff hflags result_mask hrflags]
  unfold Rtl.Machine.al Rtl.Machine.ah
  rw [hax, himm]
  exact shown_iff hshown (doAdd_shown _ _ _)

theorem aam_agrees (hne : e.codeByte e.instrLength ≠ 0#8) :
    exists v x, Returns aamd4 env e () v ∧ Rtl.Retires 0xd4 m x ∧
      Agree v x := by
  obtain ⟨x, hx, hxax, hxflags⟩ := Rtl.Machine.retires_aam himm hne
  obtain ⟨r, flags, hrun, hrax, hrflags, hshown⟩ := aamd4_outcome henv e hne
  have hal : m.al = Rtl.ALU.low e.registers.ax := by
    unfold Rtl.Machine.al
    rw [hax]
  rw [hal] at hxax hxflags
  refine ⟨_, x, hrun, hx, ?_, ?_⟩
  · rw [hxax, RegisterFile.get_setFlags, hrax]
  · rw [hxflags, flags_agree_iff hflags result_mask hrflags,
      shown_iff hshown (doAdd_shown _ _ _), BitVec.add_zero]

/-- By zero both go to the divide error. -/
theorem aam_zero_agrees (hzero : e.codeByte e.instrLength = 0#8)
    (hip : m.newIp = none) (hframe : FrameFits e.registers) :
    exists v x, Returns aamd4 env e () v ∧ Rtl.Retires 0xd4 m x ∧
      Agree v x := by
  rw [hzero] at himm
  obtain ⟨x, hx, hxax, hxflags⟩ := Rtl.Machine.retires_aam_zero himm hip
  let s : Emulator W := { e with instrLength := e.instrLength + 1 }
  have hrun : Returns aamd4 env e ()
      (s.interrupted e.registers.getFlags e.registers.ip
        Vector.DIVIDE_ERROR) := by
    refine returns_bind.mpr ⟨_, _, fetchByte_returns (linear henv) e, ?_⟩
    rw [if_pos hzero]
    refine returns_bind.mpr ⟨_, _, rfl, ?_⟩
    refine interruptWith_returns henv (e := s) hframe (by decide) ?_
    intro s' hs _
    rw [← hs]
    rfl
  have hregs := Emulator.interrupted_registers e.registers.getFlags
    e.registers.ip Vector.DIVIDE_ERROR s
  refine ⟨_, x, hrun, hx, ?_, ?_⟩
  · rw [hregs, hxax, hax]
    rfl
  · rw [hregs, hxflags]
    have hiff := flags_agree_iff (v := e.registers.getFlags &&&
      ~~~(Flag.IF ||| Flag.TF)) (w := 0#16) hflags interrupt_mask
      (Eq.refl e.registers.flags)
    refine Eq.trans ?_ (hiff.mpr ?_)
    · rfl
    · intro u hu
      simp only [List.mem_cons, List.not_mem_nil, or_false] at hu
      rcases hu with rfl | rfl <;>
        simp [flagIndex, IF_IDX, TF_IDX, Flag.IF, Flag.TF]

end Immediate

end Instructions

/-!
## Agreement
-/

/-- The decimal adjustments. -/
inductive DecimalAdjust where
  | daa
  | das
  | aam
  | aad
  deriving DecidableEq, Repr

namespace DecimalAdjust

def opcode : DecimalAdjust -> BitVec 8
  | daa => 0x27#8
  | das => 0x2f#8
  | aam => 0xd4#8
  | aad => 0xd5#8

def hasImmediate : DecimalAdjust -> Bool
  | daa => false
  | das => false
  | aam => true
  | aad => true

/-- No flag is set that the result would have to clear. -/
def Settled (op : DecimalAdjust) (ax flags : BitVec 16)
    (immediate : BitVec 8) : Prop :=
  match op with
  | daa => True
  | das =>
      let result := byteBits (adjust true (Rtl.ALU.low ax)
        (flags.getLsbD AF_IDX) (flags.getLsbD CF_IDX)).1
      result.sticky flags = result
  | aam => True
  | aad =>
      (wordBits (aadValue ax (immediate.setWidth 16))).sticky flags =
        wordBits (aadValue ax (immediate.signExtend 16))

end DecimalAdjust

/-- The emulator and the core before the same decimal adjustment. -/
structure BeforeAdjust (op : DecimalAdjust) (e : Emulator W) (s : Rtl.Core) :
    Prop where
  starts : s.Starts op.opcode
  ax : s.registers.gprs Rtl.GPR.AX = e.registers.get .AX
  flags : s.flags.flagsOut = e.registers.getFlags
  immediate : op.hasImmediate = true ->
    s.curInstruction.immediates0 = (e.codeByte e.instrLength).signExtend 16
  frame : op = .aam -> e.codeByte e.instrLength = 0#8 -> FrameFits e.registers

/-- The byte that is left has the digits that the adjustment says. -/
theorem dasResult_eq (ax flags : BitVec 16) :
    dasResult ax flags =
      (adjust true (Rtl.ALU.low ax) (flags.getLsbD AF_IDX)
        (flags.getLsbD CF_IDX)).1 := by
  have hout := congrArg Prod.fst
    (coreAdjust_out true (ax.extractLsb' 8 8) (ax.extractLsb' 0 8) flags)
  rw [Bits.append_halves] at hout
  rw [← hout]
  change _ = Rtl.ALU.low (Rtl.ALU.doDas ax flags).1
  rw [doDas_eq]
  exact (Bits.extractLsb'_low_append _ _).symm

/-- `DAA` and `AAM` agree on `AX` and on all flags, `DAS` and `AAD` just when
no flag had to be cleared and the two sums of `AAD` have the same bits. -/
theorem decimal_adjust_agrees_iff {env : Environment W}
    (henv : env.addressing = Addressing.emulator) {op : DecimalAdjust}
    {e : Emulator W} {s : Rtl.Core} (h : BeforeAdjust op e s)
    {inputs : Nat -> Rtl.Core.Input}
    (hready : Recurs (fun i => i.ready = true) inputs) :
    exists v x, Returns (execute op.opcode) env e () v ∧
      s.Executes inputs x ∧
      (Agree v x ↔
        op.Settled (e.registers.get .AX) e.registers.getFlags
          (e.codeByte e.instrLength)) := by
  have hcore : exists v x, Returns (execute op.opcode) env e () v ∧
      Rtl.Retires op.opcode.toNat s.machine x ∧
      (Agree v x ↔
        op.Settled (e.registers.get .AX) e.registers.getFlags
          (e.codeByte e.instrLength)) := by
    have hax : s.machine.gprs Rtl.GPR.AX = e.registers.ax := h.ax
    have hflags : s.machine.flags.flagsOut = e.registers.getFlags := h.flags
    cases op with
    | daa =>
        obtain ⟨v, x, hv, hx, hagree⟩ := daa_agrees env hax hflags
        exact ⟨v, x, hv, hx, iff_of_true hagree trivial⟩
    | das =>
        obtain ⟨v, x, hv, hx, hagree⟩ := das_agrees env hax hflags
        rw [dasResult_eq] at hagree
        exact ⟨v, x, hv, hx, hagree⟩
    | aam =>
        have himm := h.immediate rfl
        by_cases hzero : e.codeByte e.instrLength = 0#8
        · obtain ⟨v, x, hv, hx, hagree⟩ := aam_zero_agrees hax hflags henv himm
            hzero h.starts.newIp (h.frame rfl hzero)
          exact ⟨v, x, hv, hx, iff_of_true hagree trivial⟩
        · obtain ⟨v, x, hv, hx, hagree⟩ :=
            aam_agrees hax hflags henv himm hzero
          exact ⟨v, x, hv, hx, iff_of_true hagree trivial⟩
    | aad =>
        have himm := h.immediate rfl
        exact aad_agrees hax hflags henv himm
  obtain ⟨v, x, hv, hx, hagree⟩ := hcore
  refine ⟨v, x, hv, h.starts.executes ?_ hx hready, hagree⟩
  cases op <;> rfl

/-- An emulator before an adjustment, with ten for the immediate. -/
def beforeDecimal (ax flags : BitVec 16) : Emulator Unit :=
  { (Emulator.fresh () fun _ => 0x0a#8 : Emulator Unit) with
    registers := { RegisterFile.reset with ax := ax, flags := flags } }

/-- A core before the same adjustment. -/
def coreBeforeDecimal (op : DecimalAdjust) (ax : BitVec 16) (Z : Bool) :
    Rtl.Core :=
  Rtl.Core.atStart
    { Rtl.Instruction.zero with opcode := op.opcode, immediates0 := 0x0a#16 }
    { gprs := fun n => if n = Rtl.GPR.AX then ax else 0#16
      segments := fun _ => 0#16
      flags :=
        { C := false, P := false, A := false, Z := Z, S := false, T := false
          I := false, D := false, O := false }
      ip := 0#16
      mem := fun _ => 0x0a#8 }

/-- `1` and `2` are the digits of twelve. -/
theorem decimal_adjust_agrees_iff_twelve :
    exists v x, Returns (execute 0xd5#8) Environment.bare
        (beforeDecimal 0x0102#16 0#16) () v ∧
      (coreBeforeDecimal .aad 0x0102#16 false).Executes
        (fun _ => Rtl.Core.undisturbed) x ∧
      (Agree v x ↔
        (wordBits 12#16).sticky 0xf002#16 = wordBits 12#16) := by
  have hbefore : BeforeAdjust .aad (beforeDecimal 0x0102#16 0#16)
      (coreBeforeDecimal .aad 0x0102#16 false) := by
    refine ⟨Rtl.Core.atStart_starts _ _, rfl, by decide, ?_, ?_⟩
    · intro _
      rfl
    · intro h
      cases h
  exact decimal_adjust_agrees_iff rfl hbefore Rtl.Core.undisturbed_recurs

/-- `DAS` with `AL` at `12` and the zero flag set: the emulator leaves it. -/
theorem das_not_agrees :
    exists v x, Returns (execute 0x2f#8) Environment.bare
        (beforeDecimal 0x0012#16 0x40#16) () v ∧
      (coreBeforeDecimal .das 0x0012#16 true).Executes
        (fun _ => Rtl.Core.undisturbed) x ∧ ¬ Agree v x := by
  obtain ⟨v, x, hv, hx, hagree⟩ := das_agrees
    (e := beforeDecimal 0x0012#16 0x40#16) Environment.bare
    (m := (coreBeforeDecimal .das 0x0012#16 true).machine) rfl (by decide)
  have hstarts : (coreBeforeDecimal .das 0x0012#16 true).Starts 0x2f#8 :=
    Rtl.Core.atStart_starts _ _
  refine ⟨v, x, hv, hstarts.executes rfl hx Rtl.Core.undisturbed_recurs, ?_⟩
  rw [hagree]
  decide

end Sim
end S80x86
