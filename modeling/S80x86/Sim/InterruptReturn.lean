import Mathlib.Tactic.IntervalCases
import S80x86.Sim.DecoderAgrees
import S80x86.Sim.Stack

/-!
# Interrupts and their return

Every interrupt pushes the flags, `CS` and a return address in the same way,
and `IRET` takes them off again.
-/

namespace S80x86
namespace Sim

open Foundation.Effect
open S80x86.Sim.Flag

variable {W : Type}

/-!
## Entry
-/

namespace Emulator

/-- The state after three words are pushed and the vector is followed. -/
def interrupted (flags ip : BitVec 16) (vector : Nat) (e : Emulator W) :
    Emulator W :=
  let s := ((e.pushed flags).pushed e.registers.cs).pushed ip
  { s with
    registers :=
      ((s.registers.setFlags (flags &&& ~~~(IF ||| TF)) (IF ||| TF)).set .CS
        (s.mem.word (vector + 2))).set .IP (s.mem.word vector)
    jumpTaken := true }

/-- The state after three words are popped. -/
def returned (e : Emulator W) : Emulator W :=
  let s := e.popped.popped.popped
  { s with
    registers :=
      ((s.registers.set .IP e.top).set .CS e.popped.top).setFlags
        e.popped.popped.top 0xffff#16
    jumpTaken := true }

end Emulator

/-- The words of a frame lie below the end of memory. -/
def FrameFits (r : RegisterFile) : Prop :=
  r.stackAddress (r.sp - 2#16) + 2 <= memorySize ∧
    r.stackAddress (r.sp - 4#16) + 2 <= memorySize ∧
    r.stackAddress (r.sp - 6#16) + 2 <= memorySize

theorem vector_linear {n : Nat} (h : n < memorySize) :
    (PhysAddr.vector n).linear = n := by
  unfold PhysAddr.vector getPhysAddr PhysAddr.linear
  simp [Nat.mod_eq_of_lt h]

section Returns

variable {env : Environment W} (henv : env.addressing = Addressing.emulator)
include henv

theorem interruptWith_returns {e : Emulator W} {flags ip : BitVec 16}
    {vector : Nat} {returnIp : EmuM W (BitVec 16)}
    (hFrame : FrameFits e.registers) (hVector : vector + 4 <= memorySize)
    (hIp : forall s : Emulator W, s.registers.ip = e.registers.ip ->
      s.instrLength = e.instrLength -> Returns returnIp env s ip s) :
    Returns (interruptWith flags vector returnIp) env e ()
      (e.interrupted flags ip vector) := by
  obtain ⟨hFirst, hSecond, hThird⟩ := hFrame
  have hsub : e.registers.sp - 2#16 - 2#16 = e.registers.sp - 4#16 := by
    rw [BitVec.sub_sub]
    rfl
  have hsub' : e.registers.sp - 4#16 - 2#16 = e.registers.sp - 6#16 := by
    rw [BitVec.sub_sub]
    rfl
  refine returns_bind.mpr ⟨_, _, pushWord_returns henv e flags hFirst, ?_⟩
  refine returns_bind.mpr ⟨e.registers.cs, _, rfl, ?_⟩
  refine returns_bind.mpr ⟨_, _, pushWord_returns henv _ _ ?_, ?_⟩
  · simp only [RegisterFile.stackAddress_sp, Emulator.pushed_registers, hsub]
    exact hSecond
  refine returns_bind.mpr ⟨_, _, hIp _ rfl rfl, ?_⟩
  refine returns_bind.mpr ⟨_, _, pushWord_returns henv _ _ ?_, ?_⟩
  · simp only [RegisterFile.stackAddress_sp, Emulator.pushed_registers, hsub, hsub']
    exact hThird
  generalize hs : ((e.pushed flags).pushed e.registers.cs).pushed ip = s
  refine returns_bind.mpr ⟨_, _, rfl, ?_⟩
  refine returns_bind.mpr ⟨_, _, read16_returns henv _ ?_, ?_⟩
  · rw [vector_linear (by omega)]
    omega
  refine returns_bind.mpr ⟨_, _, read16_returns henv _ ?_, ?_⟩
  · rw [vector_linear (by omega)]
    omega
  rw [vector_linear (by omega), vector_linear (by omega)]
  refine returns_bind.mpr ⟨_, _, rfl, ?_⟩
  refine returns_bind.mpr ⟨_, _, rfl, ?_⟩
  unfold Emulator.interrupted
  rw [hs]
  rfl

theorem iretcf_returns {e : Emulator W}
    (h1 : e.registers.stackAddress e.registers.sp + 2 <= memorySize)
    (h2 : e.registers.stackAddress (e.registers.sp + 2#16) + 2 <= memorySize)
    (h3 : e.registers.stackAddress (e.registers.sp + 4#16) + 2 <=
      memorySize) :
    Returns iretcf env e () e.returned := by
  have hadd : e.registers.sp + 2#16 + 2#16 = e.registers.sp + 4#16 := by
    rw [BitVec.add_assoc]
    rfl
  refine returns_bind.mpr ⟨_, _, popWord_returns henv e h1, ?_⟩
  refine returns_bind.mpr ⟨_, _, popWord_returns henv _ ?_, ?_⟩
  · simp only [RegisterFile.stackAddress_sp, Emulator.popped_registers]
    exact h2
  refine returns_bind.mpr ⟨_, _, popWord_returns henv _ ?_, ?_⟩
  · simp only [RegisterFile.stackAddress_sp, Emulator.popped_registers, hadd]
    exact h3
  unfold Emulator.returned
  generalize e.popped.popped.popped = s
  refine returns_bind.mpr ⟨_, _, rfl, ?_⟩
  refine returns_bind.mpr ⟨_, _, rfl, ?_⟩
  refine returns_bind.mpr ⟨_, _, rfl, ?_⟩
  rfl

end Returns

/-!
## The frame
-/

/-- The bytes of the three words below the top of the stack. -/
def InFrame (r : RegisterFile) (a : BitVec 20) : Prop :=
  exists k, k ∈ [2, 4, 6] ∧
    (a = BitVec.ofNat 20 (r.stackAddress (r.sp - BitVec.ofNat 16 k)) ∨
      a = BitVec.ofNat 20 (r.stackAddress (r.sp - BitVec.ofNat 16 k) + 1))

instance (r : RegisterFile) (a : BitVec 20) : Decidable (InFrame r a) :=
  inferInstanceAs (Decidable (exists k, k ∈ [2, 4, 6] ∧ _))

instance (r : RegisterFile) : Decidable (FrameFits r) :=
  inferInstanceAs (Decidable (_ ∧ _ ∧ _))

namespace RegisterFile

/-- The flags that an entry clears come back, and so do the bits that read as
one. -/
theorem getFlags_restored (r : RegisterFile) (ip : BitVec 16) :
    (({ r with
        ip := ip
        flags :=
          (r.setFlags (r.getFlags &&& ~~~(IF ||| TF))
            (IF ||| TF)).flags } : RegisterFile).setFlags r.getFlags
        0xffff#16).getFlags = r.getFlags := by
  unfold getFlags setFlags
  simp only
  generalize r.flags = f
  simp only [IF, TF, CF, PF, AF, ZF, SF, DF, OF, Flag.reservedMask, validMask,
    Flag.stuckBits, BitVec.reduceOr, BitVec.reduceAnd, BitVec.reduceNot]
  ext i hi
  simp only [BitVec.getElem_or, BitVec.getElem_and]
  interval_cases i <;> simp

theorem get_of_ip_flags (r : RegisterFile) (ip flags : BitVec 16) {x : GPR}
    (h : x ≠ .IP) :
    ({ r with ip := ip, flags := flags } : RegisterFile).get x = r.get x := by
  cases x with
  | IP =>
      exact absurd rfl h
  | _ =>
      rfl

end RegisterFile

namespace Emulator

/-- The memory after the three words are pushed. -/
def framed (flags ip : BitVec 16) (e : Emulator W) : Memory :=
  let r := e.registers
  ((e.mem.writeWord (r.stackAddress (r.sp - 2#16)) flags).writeWord
    (r.stackAddress (r.sp - 4#16)) r.cs).writeWord
      (r.stackAddress (r.sp - 6#16)) ip

theorem sub_two_two (x : BitVec 16) : x - 2#16 - 2#16 = x - 4#16 := by
  rw [BitVec.sub_sub]
  rfl

theorem sub_four_two (x : BitVec 16) : x - 4#16 - 2#16 = x - 6#16 := by
  rw [BitVec.sub_sub]
  rfl

theorem sub_six_add_two (x : BitVec 16) : x - 6#16 + 2#16 = x - 4#16 := by
  rw [← sub_four_two, BitVec.sub_add_cancel]

theorem sub_four_add_two (x : BitVec 16) : x - 4#16 + 2#16 = x - 2#16 := by
  rw [← sub_two_two, BitVec.sub_add_cancel]

theorem sub_six_add_four (x : BitVec 16) : x - 6#16 + 4#16 = x - 2#16 := by
  rw [← sub_four_add_two, ← sub_six_add_two, BitVec.add_assoc]
  rfl

theorem interrupted_mem (flags ip : BitVec 16) (vector : Nat)
    (e : Emulator W) :
    (e.interrupted flags ip vector).mem = e.framed flags ip := by
  simp only [interrupted, framed, pushed_mem, pushed_registers,
    RegisterFile.stackAddress_sp, sub_two_two, sub_four_two]

theorem interrupted_registers (flags ip : BitVec 16) (vector : Nat)
    (e : Emulator W) :
    (e.interrupted flags ip vector).registers =
      { e.registers with
        sp := e.registers.sp - 6#16
        cs := (e.framed flags ip).word (vector + 2)
        ip := (e.framed flags ip).word vector
        flags :=
          (e.registers.setFlags (flags &&& ~~~(IF ||| TF)) (IF ||| TF)).flags
        written := false } := by
  rw [← interrupted_mem flags ip vector]
  simp only [interrupted, pushed_registers, sub_two_two, sub_four_two]
  rfl

variable {e : Emulator W} (flags ip : BitVec 16)

theorem framed_ip (hFrame : FrameFits e.registers) :
    (e.framed flags ip).word
      (e.registers.stackAddress (e.registers.sp - 6#16)) = ip :=
  Memory.word_writeWord ip hFrame.2.2

theorem framed_cs (hFrame : FrameFits e.registers) :
    (e.framed flags ip).word
      (e.registers.stackAddress (e.registers.sp - 4#16)) =
        e.registers.cs := by
  have hapart := stackAddress_apart e.registers e.registers.sp (i := 4) (j := 6)
    hFrame.2.1 hFrame.2.2 (by omega) (by omega)
  unfold framed
  rw [Memory.word_writeWord_apart hFrame.2.2 hFrame.2.1 hapart.symm,
    Memory.word_writeWord _ hFrame.2.1]

theorem framed_flags (hFrame : FrameFits e.registers) :
    (e.framed flags ip).word
      (e.registers.stackAddress (e.registers.sp - 2#16)) = flags := by
  have hapart := stackAddress_apart e.registers e.registers.sp (i := 2) (j := 6)
    hFrame.1 hFrame.2.2 (by omega) (by omega)
  have hapart' := stackAddress_apart e.registers e.registers.sp (i := 2)
    (j := 4) hFrame.1 hFrame.2.1 (by omega) (by omega)
  unfold framed
  rw [Memory.word_writeWord_apart hFrame.2.2 hFrame.1 hapart.symm,
    Memory.word_writeWord_apart hFrame.2.1 hFrame.1 hapart'.symm,
    Memory.word_writeWord _ hFrame.1]

theorem framed_mem {a : BitVec 20} (h : ¬ InFrame e.registers a) :
    (e.framed flags ip).mem a = e.mem.mem a := by
  have hout (k : Nat) (hk : k ∈ [2, 4, 6]) :
      a ≠ BitVec.ofNat 20 (e.registers.stackAddress
          (e.registers.sp - BitVec.ofNat 16 k)) ∧
        a ≠ BitVec.ofNat 20 (e.registers.stackAddress
          (e.registers.sp - BitVec.ofNat 16 k) + 1) := by
    constructor
    · intro ha
      exact h ⟨k, hk, Or.inl ha⟩
    · intro ha
      exact h ⟨k, hk, Or.inr ha⟩
  unfold framed
  rw [Memory.writeWord_mem (hout 6 (by simp)).1 (hout 6 (by simp)).2,
    Memory.writeWord_mem (hout 4 (by simp)).1 (hout 4 (by simp)).2,
    Memory.writeWord_mem (hout 2 (by simp)).1 (hout 2 (by simp)).2]

theorem framed_word {a : Nat}
    (h : ¬ InFrame e.registers (BitVec.ofNat 20 a))
    (h' : ¬ InFrame e.registers (BitVec.ofNat 20 (a + 1))) :
    (e.framed flags ip).word a = e.mem.word a := by
  unfold Memory.word
  rw [framed_mem flags ip h, framed_mem flags ip h']

/-- `IRET` undoes the entry. -/
theorem returned_registers {s : Emulator W} {vector : Nat}
    (hFrame : FrameFits e.registers)
    (hRegs : s.registers = (e.interrupted flags ip vector).registers)
    (hMem : s.mem = (e.interrupted flags ip vector).mem) :
    s.returned.registers =
      ({ e.registers with
        ip := ip
        flags :=
          (e.registers.setFlags (flags &&& ~~~(IF ||| TF)) (IF ||| TF)).flags } :
        RegisterFile).setFlags flags 0xffff#16 := by
  have hsp : s.registers.sp = e.registers.sp - 6#16 := by
    rw [hRegs, interrupted_registers]
  have hss : s.registers.stackAddress = e.registers.stackAddress := by
    rw [hRegs, interrupted_registers]
    rfl
  rw [interrupted_mem] at hMem
  have hIp : s.top = ip := by
    rw [top, hMem, hss, hsp, framed_ip flags ip hFrame]
  have hCs : s.popped.top = e.registers.cs := by
    rw [top, popped_registers, RegisterFile.stackAddress_sp, popped_mem, hMem,
      hss, hsp, sub_six_add_two, framed_cs flags ip hFrame]
  have hFlags : s.popped.popped.top = flags := by
    simp only [top, popped_registers, RegisterFile.stackAddress_sp, popped_mem]
    rw [hMem, hss, hsp, sub_six_add_two, sub_four_add_two,
      framed_flags flags ip hFrame]
  have hPopped :
      s.popped.popped.popped.registers =
        { s.registers with sp := e.registers.sp, written := false } := by
    simp only [popped_registers, hsp, sub_six_add_two, sub_four_add_two,
      BitVec.sub_add_cancel]
  unfold returned
  simp only [hIp, hCs, hFlags, hPopped, hRegs, interrupted_registers]
  rfl

theorem returned_mem (s : Emulator W) : s.returned.mem = s.mem := by
  simp only [returned, popped_mem]

theorem returned_rest (s : Emulator W) :
    s.returned.nmiPending = s.nmiPending ∧
      s.returned.tfWasSet = s.tfWasSet ∧
      s.returned.instrLength = s.instrLength ∧
      s.returned.jumpTaken = true := by
  simp only [returned, popped, and_self]

/-- The registers after an entry and its return. -/
theorem get_returned {s : Emulator W} {vector : Nat}
    (hFrame : FrameFits e.registers)
    (hRegs : s.registers =
      (e.interrupted e.registers.getFlags ip vector).registers)
    (hMem : s.mem = (e.interrupted e.registers.getFlags ip vector).mem) :
    (forall r, r ≠ .IP -> s.returned.registers.get r = e.registers.get r) ∧
      s.returned.registers.ip = ip ∧
      s.returned.registers.getFlags = e.registers.getFlags := by
  rw [returned_registers _ ip hFrame hRegs hMem]
  refine ⟨?_, ?_, e.registers.getFlags_restored ip⟩
  · intro r hr
    rw [RegisterFile.get_setFlags, RegisterFile.get_of_ip_flags _ _ _ hr]
  · rfl

end Emulator

/-!
## Instructions behind prefixes
-/

/-- The same machine, apart from what an instruction records about itself. -/
structure SameMachine (e s : Emulator W) : Prop where
  registers : s.registers = e.registers
  mem : s.mem = e.mem
  world : s.world = e.world
  nmiPending : s.nmiPending = e.nmiPending
  extIntInhibit : s.extIntInhibit = e.extIntInhibit
  pendingIrq : s.pendingIrq = e.pendingIrq
  tfWasSet : s.tfWasSet = e.tfWasSet

theorem SameMachine.trans {e s t : Emulator W} (h : SameMachine e s)
    (h' : SameMachine s t) : SameMachine e t :=
  ⟨h'.registers.trans h.registers, h'.mem.trans h.mem, h'.world.trans h.world,
    h'.nmiPending.trans h.nmiPending,
    h'.extIntInhibit.trans h.extIntInhibit,
    h'.pendingIrq.trans h.pendingIrq, h'.tfWasSet.trans h.tfWasSet⟩

theorem processPrefix_same (env : Environment W) (e : Emulator W)
    (b : BitVec 8) :
    exists s, Returns (processPrefix b) env e () s ∧ SameMachine e s ∧
      s.instrLength = e.instrLength := by
  unfold processPrefix
  repeat' split
  all_goals exact ⟨_, rfl, ⟨rfl, rfl, rfl, rfl, rfl, rfl, rfl⟩, rfl⟩

theorem Emulator.HoldsCode.drop {e : Emulator W} {first rest : List (BitVec 8)}
    {n : Nat} (h : e.HoldsCode n (first ++ rest)) :
    e.HoldsCode (n + first.length) rest := by
  induction first generalizing n with
  | nil =>
      exact h
  | cons b first ih =>
      have hnext := ih h.2
      rw [Nat.add_assoc, Nat.add_comm 1] at hnext
      exact hnext

section Linear

variable {env : Environment W} (henv : env.addressing.LinearBytes)
include henv

/-- The prefixes are read and the instruction behind them runs. -/
theorem prefixLoop_code {b : BitVec 8} (hb : isPrefix b = false)
    (rest prefixes : List (BitVec 8))
    (h : forall p, p ∈ prefixes -> isPrefix p = true) (n : Nat)
    (e : Emulator W) (hn : prefixes.length < n)
    (hcode : e.HoldsCode e.instrLength (prefixes ++ b :: rest)) :
    exists s, (prefixLoop n env e).2 = (execute b env s).2 ∧
      SameMachine e s ∧
      s.instrLength = e.instrLength + prefixes.length + 1 := by
  induction prefixes generalizing n e with
  | nil =>
      cases n with
      | zero =>
          simp at hn
      | succ n =>
          rw [prefixLoop_round henv n e, hcode.1, if_neg (by simp [hb])]
          exact ⟨_, rfl, ⟨rfl, rfl, rfl, rfl, rfl, rfl, rfl⟩, rfl⟩
  | cons p prefixes ih =>
      cases n with
      | zero =>
          simp at hn
      | succ n =>
          have hp := h p (by simp)
          rw [prefixLoop_round henv n e, hcode.1, if_pos hp, bind_run]
          obtain ⟨s, hrun, hsame, hlength⟩ :=
            processPrefix_same env
              { e with instrLength := e.instrLength + 1, opcode := p } p
          unfold Returns at hrun
          simp only [next, hrun]
          have hnext :
              s.HoldsCode s.instrLength (prefixes ++ b :: rest) := by
            rw [hlength]
            exact Emulator.HoldsCode.congr e s hsame.registers hsame.mem _ _
              hcode.2
          obtain ⟨t, hloop, hsame', hlength'⟩ :=
            ih (fun q hq => h q (by simp [hq])) n s (by simpa using hn) hnext
          refine ⟨t, hloop,
            SameMachine.trans
              ⟨hsame.registers, hsame.mem, hsame.world, hsame.nmiPending,
                hsame.extIntInhibit, hsame.pendingIrq, hsame.tfWasSet⟩ hsame',
            ?_⟩
          rw [hlength', hlength]
          simp only [List.length_cons]
          omega

/-- An instruction behind prefixes that jumps. -/
theorem emulateInsn_code {e : Emulator W} {b : BitVec 8}
    (hb : isPrefix b = false) (rest prefixes : List (BitVec 8))
    (h : forall p, p ∈ prefixes -> isPrefix p = true)
    (hlen : prefixes.length < memorySize)
    (hcode : e.HoldsCode 0 (prefixes ++ b :: rest)) :
    exists s, SameMachine { e with extIntInhibit := false } s ∧
      s.instrLength = prefixes.length + 1 ∧
      forall t, Returns (execute b) env s () t -> t.jumpTaken = true ->
        t.instrLength <= 15 ->
        Returns emulateInsn env e t.instrLength t := by
  have hstart : exists e₀, Returns startInsn env e () e₀ ∧
      SameMachine { e with extIntInhibit := false } e₀ ∧
      e₀.instrLength = 0 :=
    ⟨_, rfl, ⟨rfl, rfl, rfl, rfl, rfl, rfl, rfl⟩, rfl⟩
  obtain ⟨e₀, hstart, hsame₀, hzero⟩ := hstart
  have hcode₀ : e₀.HoldsCode e₀.instrLength (prefixes ++ b :: rest) := by
    rw [hzero]
    exact Emulator.HoldsCode.congr e e₀ hsame₀.registers hsame₀.mem _ 0 hcode
  obtain ⟨s, hloop, hsame, hlength⟩ :=
    prefixLoop_code henv hb rest prefixes h memorySize e₀ hlen hcode₀
  refine ⟨s, hsame₀.trans hsame, by omega, ?_⟩
  intro t ht hjump hshort
  refine returns_bind.mpr ⟨_, _, hstart, ?_⟩
  refine returns_bind.mpr ⟨(), t, ?_, ?_⟩
  · unfold Returns at ht ⊢
    rw [hloop, ht]
  refine returns_bind.mpr ⟨_, _, rejectLong_returns env t hshort, ?_⟩
  refine returns_bind.mpr ⟨(), t, ?_, ?_⟩
  · refine returns_bind.mpr ⟨_, _, rfl, ?_⟩
    rw [if_pos hjump]
    rfl
  · rfl

end Linear

/-!
## The kinds of interrupts
-/

/-- Interrupts of the program and of the board. -/
inductive Interruption where
  | int (n : BitVec 8)
  | int3
  | into
  | irq
  | nmi

namespace Interruption

/-- The bytes of an interrupt that is an instruction. -/
def code : Interruption -> List (BitVec 8)
  | int n => [0xcd#8, n]
  | int3 => [0xcc#8]
  | into => [0xce#8]
  | irq => []
  | nmi => []

/-- The address of its vector. -/
def vector (e : Emulator W) : Interruption -> Nat
  | int n => n.toNat * 4
  | int3 => Vector.INT
  | into => Vector.OVERFLOW
  | irq => e.pendingIrq.toNat * 4
  | nmi => Vector.NMI

/-- The address to which it returns. -/
def returnIp (e : Emulator W) (prefixes : List (BitVec 8))
    (k : Interruption) : BitVec 16 :=
  match k with
  | irq => e.registers.ip
  | nmi => e.registers.ip
  | _ => e.registers.ip + BitVec.ofNat 16 (prefixes.length + k.code.length)

/-- An interrupt instruction at `CS:IP`, with no other interrupt before it. -/
structure AtIp (e : Emulator W) (prefixes : List (BitVec 8))
    (k : Interruption) : Prop where
  nmiPending : e.nmiPending = false
  irqPending : e.pendingIrq = 0#8 ∨ e.extIntInhibit = true ∨
    e.registers.getFlag IF = false
  allPrefixes : forall p, p ∈ prefixes -> isPrefix p = true
  length : prefixes.length + k.code.length <= 15
  code : e.HoldsCode 0 (prefixes ++ k.code)

/-- The next step of the emulator takes this interrupt. -/
def Occurs (e : Emulator W) (prefixes : List (BitVec 8)) :
    Interruption -> Prop
  | nmi => e.nmiPending = true ∧ e.extIntInhibit = false
  | irq =>
      e.nmiPending = false ∧ e.pendingIrq ≠ 0#8 ∧ e.extIntInhibit = false ∧
        e.registers.getFlag IF = true
  | into => AtIp e prefixes into ∧ e.registers.getFlags &&& OF ≠ 0#16
  | k => AtIp e prefixes k

theorem vector_le (e : Emulator W) (k : Interruption) :
    k.vector e + 4 <= memorySize := by
  have hsize : memorySize = 1048576 := rfl
  cases k with
  | int n =>
      have hn := n.isLt
      simp only [vector]
      omega
  | irq =>
      have hn := e.pendingIrq.isLt
      simp only [vector]
      omega
  | _ =>
      simp only [vector]
      decide

/-- The state in which the handler begins. -/
structure Entered (e : Emulator W) (prefixes : List (BitVec 8))
    (k : Interruption) (s : Emulator W) : Prop where
  registers : s.registers =
    (e.interrupted e.registers.getFlags (k.returnIp e prefixes)
      (k.vector e)).registers
  mem : s.mem =
    (e.interrupted e.registers.getFlags (k.returnIp e prefixes)
      (k.vector e)).mem
  nmiPending : s.nmiPending = false

end Interruption

/-!
## Steps
-/

/-- The state with the trap flag sampled. -/
def Emulator.sampled (e : Emulator W) : Emulator W :=
  { e with tfWasSet := e.registers.getFlag TF }

def Emulator.nmiIsReady (e : Emulator W) : Bool :=
  e.nmiPending && !e.extIntInhibit

def Emulator.irqIsReady (e : Emulator W) : Bool :=
  e.pendingIrq != 0#8 && !e.extIntInhibit && e.registers.getFlag IF

section Steps

variable {env : Environment W} {e : Emulator W}

/-- What a step does, by the interrupts that are ready. -/
theorem step_eq (env : Environment W) (e : Emulator W) :
    (step env e).2 =
      ((if e.nmiIsReady then do
          handleNmi
          return 0
        else if e.irqIsReady then do
          handleIrq
          return 0
        else do
          let len ← emulateInsn
          afterInsn
          return len) env e.sampled).2 := rfl

theorem step_nmi {t : Emulator W} (hNmi : e.nmiIsReady = true)
    (h : Returns handleNmi env e.sampled () t) : Returns step env e 0 t := by
  unfold Returns
  rw [step_eq, if_pos hNmi]
  exact returns_bind.mpr ⟨_, _, h, rfl⟩

theorem step_irq {t : Emulator W} (hNmi : e.nmiIsReady = false)
    (hIrq : e.irqIsReady = true)
    (h : Returns handleIrq env e.sampled () t) : Returns step env e 0 t := by
  unfold Returns
  rw [step_eq, if_neg (by rw [hNmi]; decide), if_pos hIrq]
  exact returns_bind.mpr ⟨_, _, h, rfl⟩

/-- A step that runs an instruction. -/
theorem step_insn {n : Nat} {t t' : Emulator W} (hNmi : e.nmiIsReady = false)
    (hIrq : e.irqIsReady = false) (h : Returns emulateInsn env e.sampled n t)
    (h' : Returns afterInsn env t () t') : Returns step env e n t' := by
  unfold Returns
  rw [step_eq, if_neg (by rw [hNmi]; decide), if_neg (by rw [hIrq]; decide)]
  refine returns_bind.mpr ⟨_, _, h, ?_⟩
  exact returns_bind.mpr ⟨_, _, h', rfl⟩

theorem singleStep_returns (h : e.tfWasSet = false) :
    Returns singleStep env e () e := by
  refine returns_bind.mpr ⟨_, _, rfl, ?_⟩
  refine returns_bind.mpr ⟨_, _, rfl, ?_⟩
  rw [if_pos (by simp [h])]
  rfl

theorem afterInsn_eq (env : Environment W) (e : Emulator W) :
    (afterInsn env e).2 =
      ((if e.nmiIsReady then handleNmi
        else if e.irqIsReady then handleIrq
        else if !e.extIntInhibit then singleStep
        else pure ()) env e).2 := rfl

/-- Without an interrupt the end of an instruction does nothing. -/
theorem afterInsn_returns (hTf : e.tfWasSet = false)
    (hNmi : e.nmiIsReady = false) (hIrq : e.irqIsReady = false) :
    Returns afterInsn env e () e := by
  unfold Returns
  rw [afterInsn_eq, if_neg (by rw [hNmi]; decide),
    if_neg (by rw [hIrq]; decide)]
  split
  next =>
    exact singleStep_returns hTf
  next =>
    rfl

end Steps

/-!
## Entry by every kind
-/

namespace Emulator

theorem interrupted_congr {e s : Emulator W}
    (hRegs : s.registers = e.registers) (hMem : s.mem = e.mem)
    (flags ip : BitVec 16) (vector : Nat) :
    (s.interrupted flags ip vector).registers =
        (e.interrupted flags ip vector).registers ∧
      (s.interrupted flags ip vector).mem =
        (e.interrupted flags ip vector).mem := by
  simp only [interrupted_registers, interrupted_mem, framed, hRegs, hMem,
    and_self]

/-- The entry leaves the rest of the machine alone. -/
theorem interrupted_rest (flags ip : BitVec 16) (vector : Nat)
    (e : Emulator W) :
    (e.interrupted flags ip vector).nmiPending = e.nmiPending ∧
      (e.interrupted flags ip vector).extIntInhibit = e.extIntInhibit ∧
      (e.interrupted flags ip vector).tfWasSet = e.tfWasSet ∧
      (e.interrupted flags ip vector).instrLength = e.instrLength ∧
      (e.interrupted flags ip vector).jumpTaken = true := by
  simp only [interrupted, pushed, and_self]

/-- The entry clears both flags. -/
theorem getFlag_interrupted (e : Emulator W) (ip : BitVec 16) (vector : Nat) :
    (e.interrupted e.registers.getFlags ip vector).registers.getFlag TF =
        false ∧
      (e.interrupted e.registers.getFlags ip vector).registers.getFlag IF =
        false := by
  rw [interrupted_registers]
  unfold RegisterFile.getFlag RegisterFile.setFlags RegisterFile.getFlags
  simp only
  generalize e.registers.flags = f
  simp only [IF, TF, CF, PF, AF, ZF, SF, DF, OF, Flag.reservedMask, validMask,
    Flag.stuckBits, BitVec.reduceOr, BitVec.reduceAnd, BitVec.reduceNot]
  constructor
  · simp only [bne_eq_false_iff_eq]
    ext i hi
    simp only [BitVec.getElem_or, BitVec.getElem_and]
    interval_cases i <;> simp
  · simp only [bne_eq_false_iff_eq]
    ext i hi
    simp only [BitVec.getElem_or, BitVec.getElem_and]
    interval_cases i <;> simp

end Emulator

/-- The state of an entry, from any state with the same registers and
memory. -/
theorem entered_of_same {e s : Emulator W} {k : Interruption}
    {prefixes : List (BitVec 8)} (hRegs : s.registers = e.registers)
    (hMem : s.mem = e.mem) (hNmi : s.nmiPending = false) :
    Interruption.Entered e prefixes k
      (s.interrupted s.registers.getFlags (k.returnIp e prefixes)
        (k.vector e)) := by
  have hsame := Emulator.interrupted_congr hRegs hMem e.registers.getFlags
    (k.returnIp e prefixes) (k.vector e)
  have hrest := Emulator.interrupted_rest e.registers.getFlags
    (k.returnIp e prefixes) (k.vector e) s
  rw [hRegs]
  exact ⟨hsame.1, hsame.2, hrest.1.trans hNmi⟩

section Entry

variable {env : Environment W} (henv : env.addressing = Addressing.emulator)
include henv

theorem interruptHere_returns {e : Emulator W} {vector : Nat}
    (hFrame : FrameFits e.registers) (hVector : vector + 4 <= memorySize) :
    Returns (interruptHere vector) env e ()
      (e.interrupted e.registers.getFlags e.registers.ip vector) := by
  refine returns_bind.mpr ⟨_, _, rfl, ?_⟩
  refine interruptWith_returns henv hFrame hVector ?_
  intro s hip _
  rw [← hip]
  rfl

theorem interruptNext_returns {e : Emulator W} {vector : Nat}
    (hFrame : FrameFits e.registers) (hVector : vector + 4 <= memorySize) :
    Returns (interruptWith e.registers.getFlags vector nextIp) env e ()
      (e.interrupted e.registers.getFlags
        (e.registers.ip + BitVec.ofNat 16 e.instrLength) vector) := by
  refine interruptWith_returns henv hFrame hVector ?_
  intro s hip hlength
  rw [← hip, ← hlength]
  rfl

/-- The handler of an interrupt instruction. -/
theorem execute_interrupt {k : Interruption} {b : BitVec 8}
    {rest : List (BitVec 8)} {s : Emulator W} (hCode : k.code = b :: rest)
    (hOf : k = .into -> s.registers.getFlags &&& OF ≠ 0#16)
    (hRest : s.HoldsCode s.instrLength rest) (hFrame : FrameFits s.registers) :
    Returns (execute b) env s ()
      (Emulator.interrupted s.registers.getFlags
        (s.registers.ip + BitVec.ofNat 16 (s.instrLength + rest.length))
        (k.vector s) { s with instrLength := s.instrLength + rest.length }) := by
  have hlinear : env.addressing.LinearBytes := by
    rw [henv]
    exact Addressing.linearBytes_emulator
  have hVector := k.vector_le s
  cases k with
  | int n =>
      cases hCode
      have hbyte := fetchByte_returns hlinear s
      rw [hRest.1] at hbyte
      have hexec : execute (W := W) 0xcd#8 = intcd := rfl
      rw [hexec]
      refine returns_bind.mpr ⟨_, _, rfl, ?_⟩
      refine returns_bind.mpr ⟨_, _, hbyte, ?_⟩
      exact interruptNext_returns henv
        (e := { s with instrLength := s.instrLength + 1 }) hFrame hVector
  | int3 =>
      cases hCode
      have hexec : execute (W := W) 0xcc#8 = intcc := rfl
      rw [hexec]
      refine returns_bind.mpr ⟨_, _, rfl, ?_⟩
      exact interruptNext_returns henv hFrame hVector
  | into =>
      cases hCode
      have hexec : execute (W := W) 0xce#8 = intoce := rfl
      rw [hexec]
      refine returns_bind.mpr ⟨s.registers.getFlags, _, rfl, ?_⟩
      rw [if_neg (hOf rfl)]
      exact interruptNext_returns henv hFrame hVector
  | irq =>
      cases hCode
  | nmi =>
      cases hCode

/-- An interrupt instruction enters its handler in one step. -/
theorem insn_enters {e : Emulator W} {k : Interruption} {b : BitVec 8}
    {prefixes rest : List (BitVec 8)} (h : k.AtIp e prefixes)
    (hCode : k.code = b :: rest) (hb : isPrefix b = false)
    (hIp : k.returnIp e prefixes =
      e.registers.ip + BitVec.ofNat 16 (prefixes.length + k.code.length))
    (hOf : k = .into -> e.registers.getFlags &&& OF ≠ 0#16)
    (hVector : forall s : Emulator W, s.pendingIrq = e.pendingIrq ->
      k.vector s = k.vector e)
    (hTf : e.registers.getFlag TF = false)
    (hFrame : FrameFits e.registers) :
    exists n s, Returns step env e n s ∧ k.Entered e prefixes s := by
  have hlinear : env.addressing.LinearBytes := by
    rw [henv]
    exact Addressing.linearBytes_emulator
  have hLength := h.length
  have hNmi : e.nmiIsReady = false := by
    simp [Emulator.nmiIsReady, h.nmiPending]
  have hIrq : e.irqIsReady = false := by
    rcases h.irqPending with hp | hp | hp <;>
      simp [Emulator.irqIsReady, hp]
  have hbytes : e.sampled.HoldsCode 0 (prefixes ++ b :: rest) := by
    rw [← hCode]
    exact Emulator.HoldsCode.congr e e.sampled rfl rfl _ 0 h.code
  rw [hCode, List.length_cons] at hLength
  have hsize : prefixes.length < memorySize :=
    Nat.lt_of_le_of_lt (by omega : prefixes.length <= 15) (by decide)
  obtain ⟨s, hsame, hlength, hruns⟩ :=
    emulateInsn_code hlinear hb rest prefixes h.allPrefixes hsize hbytes
  have hregs : s.registers = e.registers := hsame.registers
  have hmem : s.mem = e.mem := hsame.mem
  have hrest : s.HoldsCode s.instrLength rest := by
    have hdrop := hbytes.drop
    rw [Nat.zero_add] at hdrop
    rw [hlength]
    exact Emulator.HoldsCode.congr e.sampled s hregs hmem _ _ hdrop.2
  have hexec := execute_interrupt henv (s := s) hCode
    (by rw [hregs]; exact hOf) hrest (by rw [hregs]; exact hFrame)
  have hreturn :
      s.registers.ip + BitVec.ofNat 16 (s.instrLength + rest.length) =
        k.returnIp e prefixes := by
    rw [hIp, hCode, hregs, hlength, List.length_cons]
    congr 2
    omega
  rw [hreturn, hVector s hsame.pendingIrq] at hexec
  obtain ⟨hNmi', hInhibit, hTf', hLength', hJump⟩ :=
    Emulator.interrupted_rest s.registers.getFlags (k.returnIp e prefixes)
      (k.vector e) { s with instrLength := s.instrLength + rest.length }
  obtain ⟨_, hIf⟩ :=
    Emulator.getFlag_interrupted
      { s with instrLength := s.instrLength + rest.length }
      (k.returnIp e prefixes) (k.vector e)
  have hPending : s.nmiPending = false := hsame.nmiPending.trans h.nmiPending
  have hInsn := hruns _ hexec hJump (by rw [hLength']; simp only; omega)
  refine ⟨_, _, step_insn hNmi hIrq hInsn (afterInsn_returns ?_ ?_ ?_),
    entered_of_same (s := { s with instrLength := s.instrLength + rest.length })
      hregs hmem hPending⟩
  · rw [hTf']
    exact hsame.tfWasSet.trans hTf
  · rw [Emulator.nmiIsReady, hNmi']
    simp only [hPending, Bool.false_and]
  · rw [Emulator.irqIsReady, hIf, Bool.and_false]

theorem nmi_enters {e : Emulator W} (h : e.nmiPending = true)
    (hInhibit : e.extIntInhibit = false) (prefixes : List (BitVec 8))
    (hTf : e.registers.getFlag TF = false) (hFrame : FrameFits e.registers) :
    exists n s, Returns step env e n s ∧
      Interruption.Entered e prefixes .nmi s := by
  have hReady : e.nmiIsReady = true := by
    simp [Emulator.nmiIsReady, h, hInhibit]
  have hTf' :=
    (Emulator.interrupted_rest e.registers.getFlags e.registers.ip Vector.NMI
      { e.sampled with nmiPending := false }).2.2.1
  refine ⟨_, _, step_nmi hReady ?_,
    entered_of_same (s := { e.sampled with nmiPending := false }) rfl rfl rfl⟩
  refine returns_bind.mpr ⟨_, { e.sampled with nmiPending := false }, rfl, ?_⟩
  refine returns_bind.mpr ⟨_, _, interruptHere_returns henv hFrame
    (Interruption.vector_le e .nmi), ?_⟩
  exact singleStep_returns (hTf'.trans hTf)

theorem irq_enters {e : Emulator W} (hNmi : e.nmiPending = false)
    (hIrq : e.pendingIrq ≠ 0#8) (hInhibit : e.extIntInhibit = false)
    (hIf : e.registers.getFlag IF = true) (prefixes : List (BitVec 8))
    (hTf : e.registers.getFlag TF = false) (hFrame : FrameFits e.registers) :
    exists n s, Returns step env e n s ∧
      Interruption.Entered e prefixes .irq s := by
  have hNmi' : e.nmiIsReady = false := by
    simp [Emulator.nmiIsReady, hNmi]
  have hReady : e.irqIsReady = true := by
    simp [Emulator.irqIsReady, hIrq, hInhibit, hIf]
  have hTf' :=
    (Emulator.interrupted_rest e.registers.getFlags e.registers.ip
      (e.pendingIrq.toNat * 4)
      (Emulator.afterDevice { e.sampled with pendingIrq := 0#8 }
        (env.ackInt e.pendingIrq e.world))).2.2.1
  refine ⟨_, _, step_irq hNmi' hReady ?_,
    entered_of_same
      (s := Emulator.afterDevice { e.sampled with pendingIrq := 0#8 }
        (env.ackInt e.pendingIrq e.world)) rfl rfl hNmi⟩
  refine returns_bind.mpr ⟨e.pendingIrq, _, rfl, ?_⟩
  refine returns_bind.mpr ⟨(), e.sampled, ?_, ?_⟩
  · rw [assert, if_pos (by simpa using hIrq)]
    rfl
  refine returns_bind.mpr ⟨_, { e.sampled with pendingIrq := 0#8 }, rfl, ?_⟩
  refine returns_bind.mpr ⟨_, _, rfl, ?_⟩
  refine returns_bind.mpr ⟨_, _, interruptHere_returns henv hFrame
    (Interruption.vector_le e .irq), ?_⟩
  exact singleStep_returns (hTf'.trans hTf)

/-- Every interrupt enters its handler in one step. -/
theorem occurs_enters {e : Emulator W} {k : Interruption}
    {prefixes : List (BitVec 8)} (h : k.Occurs e prefixes)
    (hTf : e.registers.getFlag TF = false) (hFrame : FrameFits e.registers) :
    exists n s, Returns step env e n s ∧ k.Entered e prefixes s := by
  cases k with
  | int n =>
      exact insn_enters henv h rfl rfl rfl (by simp) (fun _ _ => rfl) hTf hFrame
  | int3 =>
      exact insn_enters henv h rfl rfl rfl (by simp) (fun _ _ => rfl) hTf hFrame
  | into =>
      exact insn_enters henv h.1 rfl rfl rfl (fun _ => h.2) (fun _ _ => rfl)
        hTf hFrame
  | irq =>
      exact irq_enters henv h.1 h.2.1 h.2.2.1 h.2.2.2 prefixes hTf hFrame
  | nmi =>
      exact nmi_enters henv h.1 h.2 prefixes hTf hFrame

end Entry

/-!
## There and back
-/

namespace Emulator

/-- The address of byte `n` from `CS:IP`. -/
def codeAddress (e : Emulator W) (n : Nat) : BitVec 20 :=
  BitVec.ofNat 20
    (getPhysAddr (e.registers.get .CS) ((e.registers.get .IP).toNat + n)).linear

/-- The program counter at the handler of a vector. -/
def atHandler (e : Emulator W) (vector : Nat) : Emulator W :=
  { e with
    registers :=
      { e.registers with
        cs := e.mem.word (vector + 2), ip := e.mem.word vector } }

theorem HoldsCode.of_mem {e s : Emulator W}
    (hCs : s.registers.cs = e.registers.cs)
    (hIp : s.registers.ip = e.registers.ip) (bytes : List (BitVec 8)) (n : Nat)
    (hMem : forall i, n <= i -> i < n + bytes.length ->
      s.mem.mem (e.codeAddress i) = e.mem.mem (e.codeAddress i))
    (h : e.HoldsCode n bytes) : s.HoldsCode n bytes := by
  induction bytes generalizing n with
  | nil =>
      trivial
  | cons b rest ih =>
      simp only [List.length_cons] at hMem
      refine ⟨?_, ih (n + 1) (fun i hi hi' => hMem i (by omega) (by omega))
        h.2⟩
      rw [← h.1]
      have hbyte := hMem n (by omega) (by omega)
      simp only [codeAddress, codeByte, RegisterFile.get] at hbyte ⊢
      rw [hCs, hIp]
      exact hbyte

end Emulator

/-- Every register and flag is as before but `IP`, which is `ip`, and memory is
as before outside the frame. -/
structure Restored (e : Emulator W) (ip : BitVec 16) (t : Emulator W) :
    Prop where
  get : forall r, r ≠ .IP -> t.registers.get r = e.registers.get r
  ip : t.registers.get .IP = ip
  flags : t.registers.getFlags = e.registers.getFlags
  mem : forall a, ¬ InFrame e.registers a -> t.mem.mem a = e.mem.mem a

/-- An `IRET` at the handler of the vector, outside the frame. -/
structure IretAt (e : Emulator W) (vector : Nat)
    (prefixes : List (BitVec 8)) : Prop where
  allPrefixes : forall p, p ∈ prefixes -> isPrefix p = true
  length : prefixes.length + 1 <= 15
  code : (e.atHandler vector).HoldsCode 0 (prefixes ++ [0xcf#8])
  apart : forall i, i <= prefixes.length ->
    ¬ InFrame e.registers ((e.atHandler vector).codeAddress i)

section Return

variable {env : Environment W} (henv : env.addressing = Addressing.emulator)
include henv

/-- The `IRET` of a handler that has just been entered. -/
theorem entered_returns {e s : Emulator W} {k : Interruption}
    {prefixes iretPrefixes : List (BitVec 8)} (h : k.Entered e prefixes s)
    (hFrame : FrameFits e.registers)
    (hVector : forall i, i < 4 ->
      ¬ InFrame e.registers (BitVec.ofNat 20 (k.vector e + i)))
    (hIret : IretAt e (k.vector e) iretPrefixes) :
    exists len t, Returns emulateInsn env s.sampled len t ∧
      Restored e (k.returnIp e prefixes) t ∧ t.tfWasSet = false ∧
      t.nmiPending = false := by
  have hlinear : env.addressing.LinearBytes := by
    rw [henv]
    exact Addressing.linearBytes_emulator
  obtain ⟨hRegs, hMem, hNmi⟩ := h
  have hFramed := hMem.trans (Emulator.interrupted_mem _ _ _ e)
  have hCs : s.registers.cs = e.mem.word (k.vector e + 2) := by
    rw [hRegs, Emulator.interrupted_registers]
    exact Emulator.framed_word _ _ (hVector 2 (by omega)) (hVector 3 (by omega))
  have hIp : s.registers.ip = e.mem.word (k.vector e) := by
    rw [hRegs, Emulator.interrupted_registers]
    exact Emulator.framed_word _ _ (hVector 0 (by omega)) (hVector 1 (by omega))
  have hCode : s.sampled.HoldsCode 0 (iretPrefixes ++ [0xcf#8]) := by
    refine Emulator.HoldsCode.of_mem (e := e.atHandler (k.vector e))
      (s := s.sampled) hCs hIp _ 0 ?_ hIret.code
    intro i _ hi
    simp only [List.length_append, List.length_cons, List.length_nil] at hi
    show s.mem.mem _ = e.mem.mem _
    rw [hFramed]
    exact Emulator.framed_mem _ _ (hIret.apart i (by omega))
  have hLength := hIret.length
  have hsize : iretPrefixes.length < memorySize :=
    Nat.lt_of_le_of_lt (by omega : iretPrefixes.length <= 15) (by decide)
  obtain ⟨s', hsame, hlength, hruns⟩ :=
    emulateInsn_code hlinear (by decide) [] iretPrefixes hIret.allPrefixes
      hsize hCode
  have hRegs' := hsame.registers.trans hRegs
  have hMem' := hsame.mem.trans hMem
  have hiret : Returns (execute 0xcf#8) env s' () s'.returned := by
    have hexec : execute (W := W) 0xcf#8 = iretcf := rfl
    have hsp : s'.registers.sp = e.registers.sp - 6#16 := by
      rw [hRegs', Emulator.interrupted_registers]
    have hss : s'.registers.stackAddress = e.registers.stackAddress := by
      rw [hRegs', Emulator.interrupted_registers]
      rfl
    rw [hexec]
    apply iretcf_returns henv
    · rw [hss, hsp]
      exact hFrame.2.2
    · rw [hss, hsp, Emulator.sub_six_add_two]
      exact hFrame.2.1
    · rw [hss, hsp, Emulator.sub_six_add_four]
      exact hFrame.1
  obtain ⟨hNmi', hTf', hLength', hJump⟩ := Emulator.returned_rest s'
  obtain ⟨hGet, hGetIp, hFlags⟩ :=
    Emulator.get_returned (k.returnIp e prefixes) hFrame hRegs' hMem'
  refine ⟨_, _, hruns _ hiret hJump (by omega), ⟨hGet, hGetIp, hFlags, ?_⟩,
    ?_, ?_⟩
  · intro a ha
    rw [Emulator.returned_mem, hMem', Emulator.interrupted_mem]
    exact Emulator.framed_mem _ _ ha
  · rw [hTf', hsame.tfWasSet]
    show s.registers.getFlag TF = false
    rw [hRegs]
    exact (Emulator.getFlag_interrupted e _ _).1
  · rw [hNmi', hsame.nmiPending]
    exact hNmi

/-- Every interrupt that an `IRET` follows at once is undone by it. The step of
the `IRET` may take the next interrupt at its end; without one it leaves the
restored state. -/
theorem interrupt_iret_restores {e : Emulator W} {k : Interruption}
    {prefixes iretPrefixes : List (BitVec 8)}
    (hTf : e.registers.getFlag TF = false) (h : k.Occurs e prefixes)
    (hFrame : FrameFits e.registers)
    (hVector : forall i, i < 4 ->
      ¬ InFrame e.registers (BitVec.ofNat 20 (k.vector e + i)))
    (hIret : IretAt e (k.vector e) iretPrefixes) :
    exists n s len t, Returns step env e n s ∧
      s.nmiIsReady = false ∧ s.irqIsReady = false ∧
      Returns emulateInsn env s.sampled len t ∧
      Restored e (k.returnIp e prefixes) t ∧
      (t.irqIsReady = false -> Returns step env s len t) := by
  obtain ⟨n, s, hstep, hEntered⟩ := occurs_enters henv h hTf hFrame
  obtain ⟨len, t, hInsn, hRestored, hTf', hNmi'⟩ :=
    entered_returns henv hEntered hFrame hVector hIret
  have hNmi : s.nmiIsReady = false := by
    simp [Emulator.nmiIsReady, hEntered.nmiPending]
  have hIrq : s.irqIsReady = false := by
    rw [Emulator.irqIsReady, hEntered.registers,
      (Emulator.getFlag_interrupted e _ _).2, Bool.and_false]
  refine ⟨n, s, len, t, hstep, hNmi, hIrq, hInsn, hRestored, ?_⟩
  intro hReady
  have hNmiT : t.nmiIsReady = false := by
    simp [Emulator.nmiIsReady, hNmi']
  exact step_insn hNmi hIrq hInsn (afterInsn_returns hTf' hNmiT hReady)

end Return

/-- `INT3` at `0:200` with its handler at `0:100`, and the stack at a segment
and an offset. -/
def breakpoint (ss sp : BitVec 16) : Emulator Unit :=
  { Emulator.fresh () (fun a =>
      if a = 0x00d#20 then 0x01#8
      else if a = 0x100#20 then 0xcf#8
      else if a = 0x200#20 then 0xcc#8
      else 0#8) with
    registers := { RegisterFile.reset with ip := 0x200#16, ss := ss, sp := sp } }

/-- A stack at `1000:0100`. -/
theorem interrupt_iret_restores_int3 :
    exists n s len t, Returns step .bare (breakpoint 0x1000#16 0x100#16) n s ∧
      s.nmiIsReady = false ∧ s.irqIsReady = false ∧
      Returns emulateInsn .bare s.sampled len t ∧
      Restored (breakpoint 0x1000#16 0x100#16) 0x201#16 t ∧
      (t.irqIsReady = false -> Returns step .bare s len t) := by
  have hOccurs :
      Interruption.Occurs (breakpoint 0x1000#16 0x100#16) [] .int3 :=
    ⟨rfl, Or.inl rfl, by simp, by decide, by decide, trivial⟩
  have hIret : IretAt (breakpoint 0x1000#16 0x100#16) Vector.INT [] :=
    ⟨by simp, by decide, ⟨by decide, trivial⟩, by decide⟩
  exact interrupt_iret_restores rfl rfl hOccurs (by decide) (by decide) hIret

/-- The six bytes below the top of the stack, each at its own offset. -/
def SixBelow (r : RegisterFile) (a : BitVec 20) : Prop :=
  exists i, i ∈ [1, 2, 3, 4, 5, 6] ∧
    a = BitVec.ofNat 20 (r.stackAddress (r.sp - BitVec.ofNat 16 i))

instance (r : RegisterFile) (a : BitVec 20) : Decidable (SixBelow r a) :=
  inferInstanceAs (Decidable (exists i, i ∈ [1, 2, 3, 4, 5, 6] ∧ _))

/-- A word that is pushed at offset `ffff` does not wrap to offset zero. -/
theorem interrupt_iret_changes_beyond_segment :
    (breakpoint 0x1000#16 0x1#16).registers.getFlag TF = false ∧
      Interruption.Occurs (breakpoint 0x1000#16 0x1#16) [] .int3 ∧
      FrameFits (breakpoint 0x1000#16 0x1#16).registers ∧
      (forall i, i < 4 ->
        ¬ InFrame (breakpoint 0x1000#16 0x1#16).registers
          (BitVec.ofNat 20 (Vector.INT + i))) ∧
      IretAt (breakpoint 0x1000#16 0x1#16) Vector.INT [] ∧
      ¬ SixBelow (breakpoint 0x1000#16 0x1#16).registers 0x20000#20 ∧
      exists n s len t, Returns step .bare (breakpoint 0x1000#16 0x1#16) n s ∧
        Returns step .bare s len t ∧
        t.mem.mem 0x20000#20 ≠
          (breakpoint 0x1000#16 0x1#16).mem.mem 0x20000#20 := by
  refine ⟨by decide, ⟨rfl, Or.inl rfl, by simp, by decide, by decide, trivial⟩,
    by decide, by decide, ⟨by simp, by decide, ⟨by decide, trivial⟩, by decide⟩,
    by decide, ?_⟩
  have hruns :
      exists len t,
        Returns (do let _ ← step; step) .bare (breakpoint 0x1000#16 0x1#16) len
          t ∧ t.mem.mem 0x20000#20 ≠ 0#8 :=
    exists_returns_of_run (by decide +kernel)
  obtain ⟨len, t, hrun, hmem⟩ := hruns
  obtain ⟨n, s, hfirst, hsecond⟩ := returns_bind.mp hrun
  exact ⟨n, s, len, t, hfirst, hsecond, hmem⟩

end Sim
end S80x86
