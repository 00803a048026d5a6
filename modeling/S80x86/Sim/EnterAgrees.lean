import S80x86.Rtl.EnterProgram
import S80x86.Sim.CoreStates
import S80x86.Sim.StackFrames

/-!
# `ENTER` in the emulator and in the core

The emulator pushes the new frame pointer after the display, the core writes it
before: they agree unless the display is read from where the pointer goes.
-/

open Foundation

namespace S80x86
namespace Sim

open Foundation.Effect Foundation.Clocked

variable {W : Type}

/-!
## The copies of the core
-/

theorem copyWords_eq (r : RegisterFile) (n : Nat) (bp sp : BitVec 16)
    (m : Memory) :
    Rtl.Machine.copyWords r.ss (Rtl.Machine.displayWords n bp sp) m.mem =
      (m.copyWords (displayCopies r.stackAddress n bp sp)).mem := by
  induction n generalizing bp sp m with
  | zero =>
      rfl
  | succ n ih =>
      rw [Rtl.Machine.displayWords, Rtl.Machine.copyWords, displayCopies,
        Memory.copyWords, <- ih]
      dsimp only
      rw [loadWord_eq, storeWord_eq]
      rfl

/-- The offset of the frame pointer below the display. -/
theorem framePlace_eq (sp : BitVec 16) (n : Nat) :
    sp - 2#16 - BitVec.ofNat 16 (2 * n) = below sp n := by
  unfold below
  rw [BitVec.sub_sub, Nat.mul_succ, Nat.add_comm, BitVec.ofNat_add]

/-!
## Both
-/

/-- The same frame, stack and memory. -/
structure SameStack (v : Emulator W) (x : Rtl.Arch) : Prop where
  bp : v.registers.bp = x.gprs Rtl.GPR.BP
  sp : v.registers.sp = x.gprs Rtl.GPR.SP
  mem : v.mem.mem = x.mem

/-- The emulator and the core before the same `ENTER`. -/
structure BeforeEnter (e : Emulator W) (s : Rtl.Core) : Prop where
  starts : s.Starts 0xc8#8
  state : SameState e s.machine.arch
  size : s.machine.insn.immediates0 = e.codeWord e.instrLength
  level : s.machine.insn.immediates1.extractLsb' 0 5 =
    (e.codeByte (e.instrLength + 2)).extractLsb' 0 5
  count : s.machine.count = s.machine.insn.immediates1.extractLsb' 0 5

/-- The place of the frame pointer already holds it, as far as the display
reaches it. -/
def DisplayKept (e : Emulator W) : Prop :=
  let r := e.registers
  forall i, i + 1 < e.nest ->
    (e.mem.writeWord (r.stackAddress (below r.sp e.nest)) (r.sp - 2#16)).word
        (r.stackAddress (below r.bp i)) =
      e.mem.word (r.stackAddress (below r.bp i))

instance (e : Emulator W) : Decidable (DisplayKept e) :=
  decidable_of_iff
    (forall i, i < e.nest - 1 ->
      (e.mem.writeWord (e.registers.stackAddress
          (below e.registers.sp e.nest)) (e.registers.sp - 2#16)).word
        (e.registers.stackAddress (below e.registers.bp i)) =
          e.mem.word (e.registers.stackAddress (below e.registers.bp i)))
    ⟨fun h i hi => h i (by omega), fun h i hi => h i (by omega)⟩

section Both

variable {env : Environment W} (henv : env.addressing = Addressing.emulator)
  {e : Emulator W} {s : Rtl.Core} (h : BeforeEnter e s)
  (hfits : EnterFits e.registers e.nest)
include h

theorem BeforeEnter.nest_eq :
    s.machine.insn.immediates1.extractLsb' 0 5 = BitVec.ofNat 5 e.nest := by
  rw [h.level]
  unfold Emulator.nest
  generalize e.codeByte (e.instrLength + 2) = b
  revert b
  decide

theorem BeforeEnter.saved : s.machine.savedMem =
    (e.mem.writeWord (e.registers.stackAddress (e.registers.sp - 2#16))
      e.registers.bp).mem := by
  have hss : s.machine.segments .SS = e.registers.ss := h.state.segments .SS
  have hsp : s.machine.gprs Rtl.GPR.SP = e.registers.sp :=
    congrFun h.state.gprs _
  have hbp : s.machine.gprs Rtl.GPR.BP = e.registers.bp :=
    congrFun h.state.gprs _
  have hmem : s.machine.mem = e.mem.mem := h.state.mem
  unfold Rtl.Machine.savedMem Rtl.Machine.frameTop
  rw [hss, hsp, hbp, hmem, storeWord_eq]
  rfl

theorem BeforeEnter.copied : s.machine.copiedMem e.nest =
    (((e.mem.writeWord (e.registers.stackAddress (e.registers.sp - 2#16))
      e.registers.bp).writeWord
        (e.registers.stackAddress (below e.registers.sp e.nest))
          (e.registers.sp - 2#16)).copyWords
      (displayCopies e.registers.stackAddress (e.nest - 1) e.registers.bp
        (e.registers.sp - 2#16))).mem := by
  have hss : s.machine.segments .SS = e.registers.ss := h.state.segments .SS
  have hsp : s.machine.gprs Rtl.GPR.SP = e.registers.sp :=
    congrFun h.state.gprs _
  have hbp : s.machine.gprs Rtl.GPR.BP = e.registers.bp :=
    congrFun h.state.gprs _
  unfold Rtl.Machine.copiedMem Rtl.Machine.framePlace
  rw [h.saved, hss, hbp]
  unfold Rtl.Machine.frameTop
  rw [hsp, framePlace_eq, storeWord_eq, copyWords_eq]
  rfl

include henv hfits

/-- Without a display both do the same. -/
theorem BeforeEnter.agrees_flat (hzero : e.nest = 0) :
    exists v x, Returns enterc8 env e () v ∧ Rtl.Retires 0xc8 s.machine x ∧
      SameStack v x := by
  obtain ⟨v, hrun, -, hbp, hsp, hmem⟩ := enterc8_frame henv e hfits
  have hcount : s.machine.count = 0#5 := by
    rw [h.count, h.nest_eq, hzero]
  obtain ⟨x, hx, hxbp, hxsp, hxmem⟩ := Rtl.Machine.retires_flat hcount
  have htop : s.machine.frameTop = e.registers.sp - 2#16 :=
    congrArg (· - 2#16) (congrFun h.state.gprs Rtl.GPR.SP)
  refine ⟨v, x, hrun, hx, ?_, ?_, ?_⟩
  · rw [hbp, hxbp, htop]
  · rw [hsp, hxsp, htop, h.size, hzero]
    congr 1
    exact BitVec.sub_zero _
  · rw [hmem, hxmem, h.saved]
    unfold Emulator.enteredMem Emulator.displayedMem
    rw [if_pos hzero, hzero]
    rfl

theorem BeforeEnter.agrees_nested (hpos : 0 < e.nest) :
    exists v x, Returns enterc8 env e () v ∧ Rtl.Retires 0xc8 s.machine x ∧
      (SameStack v x ↔ DisplayKept e) := by
  obtain ⟨v, hrun, -, hbp, hsp, hmem⟩ := enterc8_frame henv e hfits
  have hnest := nest_lt e
  obtain ⟨x, hx, hxbp, hxsp, hxmem⟩ := Rtl.Machine.retires_nested hpos hnest
    (h.count.trans h.nest_eq) h.nest_eq
  have hfirst := hfits.frame 0 (by omega)
  have hlast := hfits.frame e.nest (by omega)
  have hplaces : Memory.GoApart
      (e.registers.stackAddress (below e.registers.sp e.nest))
      (displayCopies e.registers.stackAddress (e.nest - 1) e.registers.bp
        (e.registers.sp - 2#16)) := by
    apply goApart_displayCopies (by omega)
    · intro k hk
      rw [below_succ]
      exact hfits.frame (k + 1) (by omega)
    · intro k hk
      rw [below_succ]
      exact (apart_below e.registers (hfits.frame (k + 1) (by omega)) hlast
        (by omega) (by omega)).symm
  have hapart : Memory.Apart
      (e.registers.stackAddress (below e.registers.sp e.nest))
      (e.registers.stackAddress (below e.registers.sp 0)) :=
    (apart_below e.registers hfirst hlast hpos (by omega)).symm
  have hsame : v.mem.mem = x.mem ↔ DisplayKept e := by
    rw [hmem, hxmem, h.copied, eq_comm]
    unfold Emulator.enteredMem Emulator.displayedMem
    dsimp only
    rw [if_neg (Nat.ne_of_gt hpos),
      Memory.copyWords_writeWord_iff hlast _ hplaces]
    let saved := e.mem.writeWord
      (e.registers.stackAddress (below e.registers.sp 0)) e.registers.bp
    refine (forall_displayCopies (P := fun a => (saved.writeWord
      (e.registers.stackAddress (below e.registers.sp e.nest))
        (e.registers.sp - 2#16)).word a = saved.word a)).trans ?_
    have hiff (i : Nat) := Memory.word_writeWord_iff (m := e.mem)
      (v := e.registers.sp - 2#16) (w := e.registers.bp)
      (x := e.registers.stackAddress (below e.registers.bp i))
      hlast hfirst hapart
    have hlevel (i : Nat) : i < e.nest - 1 ↔ i + 1 < e.nest :=
      Nat.lt_sub_iff_add_lt
    constructor
    · intro hall i hi
      exact (hiff i).mp (hall i ((hlevel i).mpr hi))
    · intro hall i hi
      exact (hiff i).mpr (hall i ((hlevel i).mp hi))
  have hss : s.machine.segments .SS = e.registers.ss := h.state.segments .SS
  have htop : s.machine.frameTop = e.registers.sp - 2#16 :=
    congrArg (· - 2#16) (congrFun h.state.gprs Rtl.GPR.SP)
  have hplace : s.machine.framePlace e.nest = below e.registers.sp e.nest := by
    unfold Rtl.Machine.framePlace
    rw [htop, framePlace_eq]
  have hbp' : v.registers.bp = x.gprs Rtl.GPR.BP := by
    rw [hbp, hxbp, h.copied, hss, hplace, loadWord_eq]
    exact ((Memory.word_copyWords hlast _ hplaces).trans
      (Memory.word_writeWord _ hlast)).symm
  have hsp' : v.registers.sp = x.gprs Rtl.GPR.SP := by
    rw [hsp, hxsp, hplace, framePlace_eq, h.size]
  refine ⟨v, x, hrun, hx, ?_⟩
  constructor
  · intro hstack
    exact hsame.mp hstack.mem
  · intro hkept
    exact ⟨hbp', hsp', hsame.mpr hkept⟩

end Both

/-- `ENTER` leaves the same frame in the emulator and in the core just when the
display does not reach the place of the new frame pointer, or finds it there
already. -/
theorem enter_agrees_iff {env : Environment W}
    (henv : env.addressing = Addressing.emulator) {e : Emulator W}
    {s : Rtl.Core} (h : BeforeEnter e s)
    (hfits : EnterFits e.registers e.nest) {inputs : Nat -> Rtl.Core.Input}
    (hready : Recurs (fun i => i.ready = true) inputs) :
    exists v x, Returns (execute 0xc8#8) env e () v ∧ s.Executes inputs x ∧
      (SameStack v x ↔ DisplayKept e) := by
  have hcore : exists v x, Returns (execute 0xc8#8) env e () v ∧
      Rtl.Retires 0xc8 s.machine x ∧ (SameStack v x ↔ DisplayKept e) := by
    by_cases hzero : e.nest = 0
    · obtain ⟨v, x, hrun, hx, hstack⟩ := h.agrees_flat henv hfits hzero
      refine ⟨v, x, hrun, hx, iff_of_true hstack ?_⟩
      intro i hi
      omega
    · exact h.agrees_nested henv hfits (Nat.pos_of_ne_zero hzero)
  obtain ⟨v, x, hrun, hx, hiff⟩ := hcore
  exact ⟨v, x, hrun, h.starts.executes rfl hx hready, hiff⟩

/-!
## An `ENTER`
-/

/-- An emulator before `ENTER 0x0202, 2`. -/
def beforeEnterTwo : Emulator Unit :=
  { (Emulator.fresh () fun _ => 0x02#8 : Emulator Unit) with
    registers := { RegisterFile.reset with sp := 0x100#16, bp := 0x200#16 }
    instrLength := 1 }

/-- A core before the same instruction. -/
def coreBeforeEnterTwo : Rtl.Core :=
  { Rtl.Core.atStart
      { Rtl.Instruction.zero with
        opcode := 0xc8#8, length := 4#4, immediates0 := 0x0202#16
        immediates1 := 2#16 }
      { gprs := beforeEnterTwo.registers.words
        segments := fun n => beforeEnterTwo.registers.get (segmentRegister n)
        flags := ⟨false, false, false, false, false, false, false, false, false⟩
        ip := beforeEnterTwo.registers.ip
        mem := beforeEnterTwo.mem.mem } with
    count := 2#5 }

theorem beforeEnterTwo_enter :
    BeforeEnter beforeEnterTwo coreBeforeEnterTwo := by
  have hflags : Rtl.Flags.flagsOut
      ⟨false, false, false, false, false, false, false, false, false⟩ =
        RegisterFile.reset.getFlags := by decide
  constructor
  · exact ⟨⟨rfl, rfl, rfl, rfl, ⟨rfl, rfl, rfl⟩, rfl⟩, rfl, rfl, rfl⟩
  · exact ⟨rfl, fun _ => rfl, hflags, rfl⟩
  · decide
  · decide
  · rfl

/-- Two levels, with the frame pointer away from the display. -/
theorem enter_agrees_iff_two :
    exists v x, Returns (execute 0xc8#8) Environment.bare beforeEnterTwo () v ∧
      coreBeforeEnterTwo.Executes (fun _ => Rtl.Core.undisturbed) x ∧
        (SameStack v x ↔ DisplayKept beforeEnterTwo) := by
  refine enter_agrees_iff rfl beforeEnterTwo_enter ⟨?_, ?_⟩
    Rtl.Core.undisturbed_recurs
  · decide
  · intro i hi
    have hnest : beforeEnterTwo.nest = 2 := by decide
    have hzero : i = 0 := by omega
    subst hzero
    decide

end Sim
end S80x86
