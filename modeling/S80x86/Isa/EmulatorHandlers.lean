import S80x86.Isa.EmulatorView

/-!
# The handlers of the emulator

The handlers of the instructions that move data or the stack pointer, or
change flags, do what the instructions are for.
-/

open Foundation Foundation.Effect

namespace S80x86
namespace Isa

open Rtl (SR)
open Rtl.GPR
open scoped Rtl.Machine.Eval

variable {W : Type}

/-- What belongs to the emulator and not to the program. -/
def View.rest (v : View) : Nat × Bool × BitVec 8 × Bool :=
  (v.length, v.nmiPending, v.pendingIrq, v.tfWasSet)

/-- The handler fetches some bytes and does what the instruction is for. -/
def Handles (env : Sim.Environment W) (handler : Sim.EmuM W Unit) (v : View)
    (n : Nat) (op : Operation) : Prop :=
  exists v', Acts view env handler v () v' ∧
    v'.left = op.exec (v.fetched n).next ∧ v'.rest = (v.fetched n).rest

attribute [scoped simp] View.left View.next View.nextIp View.rest View.store
  View.fetched View.jumped

section Fetches

variable {env : Sim.Environment W} {v : View}
  (henv : env.addressing = Sim.Addressing.emulator)
include henv

theorem Handles.fetchByte {body : BitVec 8 -> Sim.EmuM W Unit}
    {op : Operation} {x : BitVec 8}
    (hfits : v.state.ip.toNat + v.length < 2 ^ 16)
    (hx : v.state.code v.length = x)
    (h : Handles env (body x) (v.fetched 1) 0 op) :
    Handles env (Sim.fetchByte >>= body) v 1 op := by
  obtain ⟨v', hacts, hleft, hrest⟩ := h
  refine ⟨v', ?_, hleft, hrest⟩
  rw [<- hx] at hacts
  exact (acts_fetchByte henv hfits).bind hacts

theorem Handles.fetchSigned {body : BitVec 16 -> Sim.EmuM W Unit}
    {op : Operation} {x : BitVec 8}
    (hfits : v.state.ip.toNat + v.length < 2 ^ 16)
    (hx : v.state.code v.length = x)
    (h : Handles env (body (x.signExtend 16)) (v.fetched 1) 0 op) :
    Handles env (Sim.fetchSigned >>= body) v 1 op := by
  obtain ⟨v', hacts, hleft, hrest⟩ := h
  refine ⟨v', ?_, hleft, hrest⟩
  rw [<- hx] at hacts
  exact Acts.bind ((acts_fetchByte henv hfits).bind (acts_pure _)) hacts

/-- A word of the code. -/
theorem acts_fetch16bit {x : BitVec 16}
    (hfits : v.state.ip.toNat + v.length + 1 < 2 ^ 16)
    (hlow : v.state.code v.length = x.extractLsb' 0 8)
    (hhigh : v.state.code (v.length + 1) = x.extractLsb' 8 8) :
    Acts view env Sim.fetch16bit v x (v.fetched 2) := by
  have hword : (x.extractLsb' 0 8).setWidth 16 |||
      (x.extractLsb' 8 8).setWidth 16 <<< 8 = x := by
    apply BitVec.eq_of_getLsbD_eq
    intro i hi
    simp only [BitVec.getLsbD_or, BitVec.getLsbD_setWidth,
      BitVec.getLsbD_shiftLeft, BitVec.getLsbD_extractLsb']
    interval_cases i <;> simp
  have hfirst := acts_fetchByte henv (v := v) (by omega)
  have hsecond := acts_fetchByte henv (v := v.fetched 1) hfits
  rw [hlow] at hfirst
  rw [show (v.fetched 1).state.code (v.fetched 1).length = _ from hhigh]
    at hsecond
  have hboth : Acts view env Sim.fetch16bit v _ (v.fetched 2) :=
    hfirst.bind (hsecond.bind (acts_pure _))
  rw [hword] at hboth
  exact hboth

end Fetches

/-!
## Bits
-/

theorem sign_word (x : BitVec 16) :
    (x.signExtend 32 >>> 16).setWidth 16 = BitVec.fill 16 x.msb := by
  apply BitVec.eq_of_getLsbD_eq
  intro i hi
  have hwide : 16 + i < 32 := by omega
  rw [BitVec.getLsbD_setWidth, BitVec.getLsbD_ushiftRight,
    BitVec.getLsbD_signExtend, BitVec.getLsbD_fill]
  simp [hi, hwide]

theorem low_masked (x : BitVec 16) :
    (x &&& 0xff#16).extractLsb' 0 8 = x.extractLsb' 0 8 := by
  apply BitVec.eq_of_getLsbD_eq
  intro i hi
  simp only [BitVec.getLsbD_extractLsb', BitVec.getLsbD_and]
  interval_cases i <;> simp

theorem low_all : 0xff#16 &&& Flag.all = Flag.low := rfl

theorem cleared (x mask : BitVec 16) : x &&& ~~~mask &&& mask = 0#16 &&& mask := by
  apply BitVec.eq_of_getLsbD_eq
  intro i hi
  simp only [BitVec.getLsbD_and, BitVec.getLsbD_not, BitVec.getLsbD_zero, hi,
    decide_true, Bool.true_and, Bool.false_and]
  cases mask.getLsbD i <;> simp

theorem raised (x mask : BitVec 16) :
    (x ||| mask) &&& mask = 0xffff#16 &&& mask := by
  have hones : 0xffff#16 = BitVec.allOnes 16 := rfl
  apply BitVec.eq_of_getLsbD_eq
  intro i hi
  simp only [hones, BitVec.getLsbD_and, BitVec.getLsbD_or,
    BitVec.getLsbD_allOnes, hi, decide_true, Bool.true_and]
  cases mask.getLsbD i <;> simp

/-- The carry flag is cleared when it is set, and set when it is not. -/
theorem toggled (x : BitVec 16) :
    (if x &&& Flag.CF = 0#16 then x ||| Flag.CF else x &&& ~~~Flag.CF) &&&
        Flag.CF = ~~~x &&& Flag.CF := by
  have hand (y : BitVec 16) : y &&& Flag.CF =
      if y.getLsbD 0 then Flag.CF else 0#16 := BitVec.and_twoPow y 0
  have hnot : (~~~x).getLsbD 0 = !x.getLsbD 0 := by simp
  rw [hand x, hand (~~~x), hnot]
  cases x.getLsbD 0 with
  | false =>
      rw [if_neg Bool.false_ne_true, if_pos rfl, raised]
      rfl
  | true =>
      have hne : Flag.CF ≠ 0#16 := by decide
      rw [if_pos rfl, if_neg hne, cleared]
      rfl

/-!
## Moves
-/

section Moves

variable {env : Sim.Environment W} {v : View} (htaken : v.taken = false)
include htaken

theorem handles_xchg {r : BitVec 3} (hr : v.opcode.extractLsb' 0 3 = r) :
    Handles env Sim.xchg90_97 v 0 (.xchg r) := by
  subst hr
  refine ⟨_, acts_opcodeReg.bind ((acts_getWord AX).bind
    ((acts_getWord _).bind ((acts_setWord AX _).bind
      (acts_setWord _ _)))), ?_, rfl⟩
  ext1 <;> simp [htaken]

theorem handles_cbw : Handles env Sim.cbw98 v 0 .cbw := by
  refine ⟨_, (acts_getByte AL).bind (acts_setWord AX _), ?_, rfl⟩
  ext1 <;> simp [htaken]

theorem handles_cwd : Handles env Sim.cwd99 v 0 .cwd := by
  refine ⟨_, (acts_getWord AX).bind (acts_setWord DX _), ?_, rfl⟩
  ext1 <;> simp [htaken, sign_word]

theorem handles_lahf : Handles env Sim.lahf9f v 0 .lahf := by
  refine ⟨_, acts_getFlags.bind (acts_setByte AH _), ?_, rfl⟩
  ext1 <;> simp [htaken, low_masked]

theorem handles_sahf : Handles env Sim.sahf9e v 0 .sahf := by
  refine ⟨_, (acts_getByte AH).bind (acts_setFlags _ low_all), ?_,
    rfl⟩
  ext1 <;> simp [htaken]

theorem handles_setalc : Handles env Sim.setalcd6 v 0 .setalc := by
  have hcarry : Acts view env (Sim.getFlag Sim.Flag.CF) v
      (v.state.flag Rtl.Flag.CF_IDX) v := acts_getFlag (by decide) rfl rfl
  refine ⟨_, hcarry.bind (acts_setByte AL _), ?_, rfl⟩
  cases hc : v.state.flags.getLsbD Rtl.Flag.CF_IDX with
  | false =>
      ext1 <;> simp [htaken, hc, BitVec.fill]
  | true =>
      ext1 <;> simp [htaken, hc, BitVec.fill]

theorem handles_movByte {r : BitVec 3} (hr : v.opcode.extractLsb' 0 3 = r)
    (henv : env.addressing = Sim.Addressing.emulator)
    (hfits : v.state.ip.toNat + v.length < 2 ^ 16) {x : BitVec 8}
    (hx : v.state.code v.length = x) :
    Handles env Sim.movb0_b7 v 1 (.mov true r (x.setWidth 16)) := by
  subst hr
  refine Handles.fetchByte henv hfits hx ?_
  refine ⟨_, (acts_opcodeReg (v := v.fetched 1)).bind (acts_setByte _ _), ?_,
    rfl⟩
  ext1 <;> simp [htaken]

theorem handles_movWord {r : BitVec 3} (hr : v.opcode.extractLsb' 0 3 = r)
    {x : BitVec 16} (hx : Acts view env Sim.fetch16bit v x (v.fetched 2)) :
    Handles env Sim.movb8_bf v 2 (.mov false r x) := by
  subst hr
  refine ⟨_, hx.bind ((acts_opcodeReg (v := v.fetched 2)).bind
    (acts_setWord _ _)), ?_, rfl⟩
  ext1 <;> simp [htaken]

/-!
## Flags
-/

theorem handles_clear {mask : BitVec 16} (hmask : mask &&& Flag.all = mask) :
    Handles env (Sim.clearFlag mask) v 0 (.update mask 0#16) := by
  refine ⟨_, acts_getFlags.bind (acts_setFlags _ hmask), ?_, rfl⟩
  have hflags : withFlags mask (v.state.flags &&& ~~~mask) v.state.flags =
      withFlags mask 0#16 v.state.flags :=
    withFlags_congr (cleared _ _)
  ext1 <;> simp [htaken, hflags]

theorem handles_raise {mask : BitVec 16} (hmask : mask &&& Flag.all = mask) :
    Handles env (Sim.raiseFlag mask) v 0 (.update mask 0xffff#16) := by
  refine ⟨_, acts_getFlags.bind (acts_setFlags _ hmask), ?_, rfl⟩
  have hflags : withFlags mask (v.state.flags ||| mask) v.state.flags =
      withFlags mask 0xffff#16 v.state.flags :=
    withFlags_congr (raised _ _)
  ext1 <;> simp [htaken, hflags]

theorem handles_sti :
    Handles env Sim.stifb v 0 (.update Flag.IF 0xffff#16) := by
  have hraise : Handles env (Sim.raiseFlag Sim.Flag.IF) v 0
      (.update Flag.IF 0xffff#16) := handles_raise htaken rfl
  obtain ⟨v', hacts, hleft, hrest⟩ := hraise
  exact ⟨v', hacts.bind acts_inhibitExtInt, hleft, hrest⟩

theorem handles_cmc : Handles env Sim.cmcf5 v 0 .cmc := by
  refine ⟨_, acts_getFlags.bind (acts_setFlags _
    (show Sim.Flag.CF &&& Flag.all = Flag.CF from rfl)), ?_, rfl⟩
  have hflags : withFlags Flag.CF
      (if v.state.flags &&& Sim.Flag.CF = 0#16
        then v.state.flags ||| Sim.Flag.CF
        else v.state.flags &&& ~~~Sim.Flag.CF) v.state.flags =
      withFlags Flag.CF (~~~v.state.flags) v.state.flags :=
    withFlags_congr (toggled _)
  ext1 <;> simp [htaken, hflags]

end Moves
end Isa
end S80x86
