import S80x86.Isa.Operations

/-!
# Programs

The instructions of a program are in the memory that it reads and writes.
-/

namespace S80x86
namespace Isa

open Rtl (SR)

namespace State

/-- A byte of the code, counted from the start of the instruction. -/
def code (s : State) (n : Nat) : BitVec 8 :=
  Rtl.Machine.loadByte s.mem (s.segments .CS) (s.ip + BitVec.ofNat 16 n)

/-- The code at byte `n` begins with these bytes. -/
def Reads (s : State) : Nat -> List (BitVec 8) -> Prop
  | _, [] => True
  | n, b :: rest => s.code n = b ∧ s.Reads (n + 1) rest

end State

theorem Immediate.length_bytes (i : Immediate) : i.bytes.length <= 4 := by
  cases i with
  | none => exact Nat.zero_le 4
  | byte v => exact Nat.le_add_left 1 3
  | word v => exact Nat.le_add_left 2 2
  | far segment offset => exact Nat.le_refl 4

/-- The next instruction of a program, which does not cross the end of its
segment. -/
structure Fetches (s : State) (opcode : BitVec 8) (immediate : Immediate)
    (op : Operation) : Prop where
  encodes : Encodes opcode immediate op
  reads : s.Reads 0 (opcode :: immediate.bytes)
  inSegment : s.ip.toNat + (1 + immediate.bytes.length) ≤ 2 ^ 16

/-- A step of a program that is not traced, and the bytes of its code. -/
inductive Step (s : State) : Nat -> State -> Prop where
  | insn {opcode : BitVec 8} {immediate : Immediate} {op : Operation}
      (fetches : Fetches s opcode immediate op) (fits : op.Fits s)
      (untraced : s.flag Rtl.Flag.TF_IDX = false) :
      Step s (1 + immediate.bytes.length) (op.exec
        (s.goto (s.ip + BitVec.ofNat 16 (1 + immediate.bytes.length))))

/-- A number of steps, each with the bytes of its code. -/
inductive Run : List Nat -> State -> State -> Prop where
  | done (s : State) : Run [] s s
  | next {length : Nat} {lengths : List Nat} {s s' s'' : State}
      (first : Step s length s') (rest : Run lengths s' s'') :
      Run (length :: lengths) s s''

/-!
## A program
-/

/-- `PUSH AX`, a jump over `HLT`, and `POP BX`, in every sixteen bytes. -/
def copying : Rtl.Memory := fun a =>
  [0x50#8, 0xeb#8, 0x01#8, 0xf4#8, 0x5b#8].getD (a.extractLsb' 0 4).toNat 0x90#8

/-- The start of the program, with the stack below it. -/
structure Copying (s : State) : Prop where
  mem : s.mem = copying
  cs : s.segments .CS = 0xffff#16
  ss : s.segments .SS = 0#16
  sp : s.gprs Rtl.GPR.SP = 0#16
  ip : s.ip = 0#16
  untraced : s.flag Rtl.Flag.TF_IDX = false

section Copies

open Rtl.GPR

/-- The memory when the word is pushed. -/
def copied (v : BitVec 16) : Rtl.Memory :=
  Rtl.Machine.storeWord copying 0#16 0xfffe#16 v

/-- The program is not on its own stack. -/
theorem copied_code (v : BitVec 16) {n : BitVec 16} (h : n.toNat < 5) :
    Rtl.Machine.loadByte (copied v) 0xffff#16 n =
      Rtl.Machine.loadByte copying 0xffff#16 n := by
  have hn : n = 0#16 ∨ n = 1#16 ∨ n = 2#16 ∨ n = 3#16 ∨ n = 4#16 := by
    simp only [BitVec.toNat_eq, BitVec.toNat_ofNat]
    omega
  rcases hn with rfl | rfl | rfl | rfl | rfl <;> rfl

theorem copied_top (v : BitVec 16) :
    Rtl.Machine.loadWord (copied v) 0#16 0xfffe#16 = v := by
  change v.extractLsb' 8 8 ++ v.extractLsb' 0 8 = v
  exact Foundation.Bits.append_halves v

/-- The register is on the stack. -/
def saved (s : State) : State := (s.goto (s.ip + 1#16)).push (s.gprs AX)

/-- The next instruction takes it from there. -/
def skipped (s : State) : State :=
  ((saved s).goto ((saved s).ip + 2#16)).jump true 1#16

section Steps

variable {s : State} (h : Copying s)
include h

theorem Copying.saved_mem : (saved s).mem = copied (s.gprs AX) := by
  change Rtl.Machine.storeWord s.mem (s.segments .SS) (s.gprs SP - 2#16)
    (s.gprs AX) = _
  rw [h.mem, h.ss, h.sp]
  rfl

theorem Copying.saved_sp : (saved s).gprs SP = 0xfffe#16 := by
  change s.gprs SP - 2#16 = _
  rw [h.sp]
  rfl

theorem Copying.saved_ip : (saved s).ip = 1#16 := by
  change s.ip + 1#16 = _
  rw [h.ip]
  rfl

theorem Copying.skipped_ip : (skipped s).ip = 4#16 := by
  change (saved s).ip + 2#16 + 1#16 = _
  rw [h.saved_ip]
  rfl

theorem Copying.saved_code (p n : BitVec 16) (hn : (p + n).toNat < 5) :
    Rtl.Machine.loadByte (saved s).mem (s.segments .CS) (p + n) =
      Rtl.Machine.loadByte copying 0xffff#16 (p + n) := by
  rw [h.saved_mem, h.cs]
  exact copied_code _ hn

theorem Copying.push : Step s 1 (saved s) := by
  refine @Step.insn s 0x50#8 .none (.push (.word AX))
    ⟨.pushWord AX, ⟨?_, trivial⟩, ?_⟩ ?_ h.untraced
  · unfold State.code
    rw [h.mem, h.cs, h.ip]
    rfl
  · rw [h.ip]
    decide
  · intro p hp
    cases List.mem_singleton.mp hp
    change Rtl.Bus.linear (s.segments .SS) (s.gprs SP - 2#16) ≠ _
    rw [h.ss, h.sp]
    decide

theorem Copying.jump : Step (saved s) 2 (skipped s) := by
  refine @Step.insn (saved s) 0xeb#8 (.byte 1#8) (.jmp 1#16)
    ⟨.jmpShort 1#8, ⟨?_, ?_, trivial⟩, ?_⟩ ?_ h.untraced
  · refine (h.saved_code (saved s).ip 0#16 ?_).trans ?_ <;> rw [h.saved_ip]
    · decide
    · rfl
  · refine (h.saved_code (saved s).ip 1#16 ?_).trans ?_ <;> rw [h.saved_ip]
    · decide
    · rfl
  · rw [h.saved_ip]
    decide
  · intro p hp
    cases hp

theorem Copying.pop : Step (skipped s) 1
    ((((skipped s).goto ((skipped s).ip + 1#16)).drop 2#16).setWord BX
      (skipped s).top) := by
  refine @Step.insn (skipped s) 0x5b#8 .none (.pop (.word BX))
    ⟨.popWord BX, ⟨?_, trivial⟩, ?_⟩ ?_ h.untraced
  · refine (h.saved_code (skipped s).ip 0#16 ?_).trans ?_ <;>
      rw [h.skipped_ip]
    · decide
    · rfl
  · rw [h.skipped_ip]
    decide
  · intro p hp
    cases List.mem_singleton.mp hp
    change Rtl.Bus.linear (s.segments .SS) ((saved s).gprs SP + 0#16) ≠ _
    rw [h.ss, h.saved_sp]
    decide

/-- The three instructions copy a register. -/
theorem run_copying :
    exists s', Run [1, 2, 1] s s' ∧ s'.ip = 5#16 ∧ s'.gprs BX = s.gprs AX := by
  refine ⟨_, .next h.push (.next h.jump (.next h.pop (.done _))), ?_, ?_⟩
  · change (skipped s).ip + 1#16 = _
    rw [h.skipped_ip]
    rfl
  · change Rtl.Machine.loadWord (saved s).mem (s.segments .SS)
      ((saved s).gprs SP) = _
    rw [h.saved_mem, h.ss, h.saved_sp, copied_top]

end Steps

end Copies

end Isa
end S80x86
