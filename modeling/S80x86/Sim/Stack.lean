import Mathlib.Tactic.IntervalCases
import S80x86.Sim.Decode
import S80x86.Sim.Arithmetic

/-!
# Words in memory and the stack

Word accesses of the emulator as functions of the memory, and what is pushed
and popped.
-/

namespace S80x86
namespace Sim

open Foundation.Effect

variable {W : Type}

namespace Memory

/-- The word at a linear address. -/
def word (m : Memory) (a : Nat) : BitVec 16 :=
  (m.mem (BitVec.ofNat 20 (a + 1))).setWidth 16 <<< 8 |||
    (m.mem (BitVec.ofNat 20 a)).setWidth 16

theorem word_append (m : Memory) (a : Nat) :
    m.word a =
      m.mem (BitVec.ofNat 20 (a + 1)) ++ m.mem (BitVec.ofNat 20 a) := by
  unfold word
  generalize m.mem (BitVec.ofNat 20 (a + 1)) = high
  generalize m.mem (BitVec.ofNat 20 a) = low
  apply BitVec.eq_of_getLsbD_eq
  intro i hi
  simp only [BitVec.getLsbD_append]
  interval_cases i <;> simp

def writeWord (m : Memory) (a : Nat) (v : BitVec 16) : Memory :=
  (m.write (BitVec.ofNat 20 a) (v.setWidth 8)).write (BitVec.ofNat 20 (a + 1))
    ((v >>> 8).setWidth 8)

theorem ofNat_ne {a b : Nat} (ha : a < memorySize) (hb : b < memorySize)
    (h : a ≠ b) : BitVec.ofNat 20 a ≠ BitVec.ofNat 20 b := by
  intro heq
  have htoNat := congrArg BitVec.toNat heq
  simp only [BitVec.toNat_ofNat] at htoNat
  change a % memorySize = b % memorySize at htoNat
  rw [Nat.mod_eq_of_lt ha, Nat.mod_eq_of_lt hb] at htoNat
  exact h htoNat

theorem writeWord_mem {m : Memory} {a : Nat} {v : BitVec 16} {b : BitVec 20}
    (h : b ≠ BitVec.ofNat 20 a) (h' : b ≠ BitVec.ofNat 20 (a + 1)) :
    (m.writeWord a v).mem b = m.mem b := by
  simp [writeWord, write, h, h']

theorem word_writeWord {m : Memory} {a : Nat} (v : BitVec 16)
    (h : a + 2 <= memorySize) : (m.writeWord a v).word a = v := by
  have hne : BitVec.ofNat 20 a ≠ BitVec.ofNat 20 (a + 1) :=
    ofNat_ne (by omega) (by omega) (by omega)
  simp only [word, writeWord, write, if_true, hne, if_false]
  ext i hi
  by_cases hlow : i < 8
  · simp [hlow, BitVec.getLsbD_eq_getElem hi]
  · have hsub : i - 8 < 8 := by omega
    have hsum : 8 + (i - 8) = i := by omega
    simp [hlow, hsub, hsum, BitVec.getLsbD_eq_getElem hi]

/-- Two words that share no byte. -/
def Apart (a b : Nat) : Prop := a + 2 <= b ∨ b + 2 <= a

theorem word_writeWord_apart {m : Memory} {a b : Nat} {v : BitVec 16}
    (ha : a + 2 <= memorySize) (hb : b + 2 <= memorySize) (h : Apart a b) :
    (m.writeWord a v).word b = m.word b := by
  unfold Apart at h
  unfold word
  rw [writeWord_mem (ofNat_ne (by omega) (by omega) (by omega))
      (ofNat_ne (by omega) (by omega) (by omega)),
    writeWord_mem (ofNat_ne (by omega) (by omega) (by omega))
      (ofNat_ne (by omega) (by omega) (by omega))]

end Memory

/-!
## Word accesses
-/

section Returns

variable {env : Environment W} (henv : env.addressing = Addressing.emulator)
include henv

theorem resolve_word (e : Emulator W) {p : PhysAddr} (write : Bool)
    (h : p.linear + 2 <= memorySize) :
    Returns (resolve { addr := p, type := .uint16_t, write := write }) env e
      [BitVec.ofNat 20 p.linear, BitVec.ofNat 20 (p.linear + 1)] e := by
  unfold Returns resolve
  rw [henv]
  simp only [Addressing.emulator, Access.size, AccessType.sizeof, h, if_true]
  rfl

theorem read16_returns (e : Emulator W) {p : PhysAddr}
    (h : p.linear + 2 <= memorySize) :
    Returns (read16 p) env e (e.mem.word p.linear) e := by
  refine returns_bind.mpr ⟨_, _, resolve_word henv e false h, ?_⟩
  rfl

theorem write16_returns (e : Emulator W) {p : PhysAddr} (v : BitVec 16)
    (h : p.linear + 2 <= memorySize) :
    Returns (write16 p v) env e ()
      { e with mem := e.mem.writeWord p.linear v } := by
  refine returns_bind.mpr ⟨_, _, resolve_word henv e true h, ?_⟩
  rfl

theorem write16_fits {e t : Emulator W} {p : PhysAddr} {v : BitVec 16}
    (h : Returns (write16 p v) env e () t) : p.linear + 2 <= memorySize := by
  apply Classical.byContradiction
  intro hFits
  obtain ⟨f, e₁, h₁, _⟩ := returns_bind.mp h
  have hnone :
      env.addressing { addr := p, type := .uint16_t, write := true } =
        none := by
    rw [henv]
    exact if_neg hFits
  unfold Returns resolve at h₁
  rw [hnone] at h₁
  cases h₁

end Returns

/-!
## The stack
-/

namespace RegisterFile

/-- The linear address of the word at an offset in the stack segment. -/
def stackAddress (r : RegisterFile) (offset : BitVec 16) : Nat :=
  (getPhysAddr r.ss offset.toNat).linear

@[simp] theorem stackAddress_sp (r : RegisterFile) (v : BitVec 16) (b : Bool)
    (offset : BitVec 16) :
    ({ r with sp := v, written := b } : RegisterFile).stackAddress offset =
      r.stackAddress offset := rfl

end RegisterFile

theorem stackAddress_eq (r : RegisterFile) (offset : BitVec 16) :
    r.stackAddress offset =
      (r.ss.toNat * 16 + offset.toNat) % memorySize := rfl

/-- Words at different distances below an offset share no byte. -/
theorem stackAddress_apart (r : RegisterFile) (top : BitVec 16) {i j : Nat}
    (_ : r.stackAddress (top - BitVec.ofNat 16 i) + 2 <= memorySize)
    (_ : r.stackAddress (top - BitVec.ofNat 16 j) + 2 <= memorySize)
    (hLow : i + 2 <= j) (hHigh : j + 2 <= 2 ^ 16) :
    Memory.Apart (r.stackAddress (top - BitVec.ofNat 16 i))
      (r.stackAddress (top - BitVec.ofNat 16 j)) := by
  rw [stackAddress_eq] at *
  rw [stackAddress_eq] at *
  have hss := r.ss.isLt
  have htop := top.isLt
  simp only [BitVec.toNat_sub, BitVec.toNat_ofNat, memorySize] at *
  unfold Memory.Apart
  omega

namespace Emulator

def pushed (v : BitVec 16) (e : Emulator W) : Emulator W :=
  { e with
    registers := e.registers.set .SP (e.registers.sp - 2#16)
    mem :=
      e.mem.writeWord (e.registers.stackAddress (e.registers.sp - 2#16)) v }

def popped (e : Emulator W) : Emulator W :=
  { e with registers := e.registers.set .SP (e.registers.sp + 2#16) }

def top (e : Emulator W) : BitVec 16 :=
  e.mem.word (e.registers.stackAddress e.registers.sp)

@[simp] theorem pushed_registers (v : BitVec 16) (e : Emulator W) :
    (e.pushed v).registers =
      { e.registers with sp := e.registers.sp - 2#16, written := false } := rfl

@[simp] theorem pushed_mem (v : BitVec 16) (e : Emulator W) :
    (e.pushed v).mem =
      e.mem.writeWord (e.registers.stackAddress (e.registers.sp - 2#16)) v :=
  rfl

@[simp] theorem pushed_instrLength (v : BitVec 16) (e : Emulator W) :
    (e.pushed v).instrLength = e.instrLength := rfl

@[simp] theorem popped_registers (e : Emulator W) :
    e.popped.registers =
      { e.registers with sp := e.registers.sp + 2#16, written := false } := rfl

@[simp] theorem popped_mem (e : Emulator W) : e.popped.mem = e.mem := rfl

end Emulator

section Returns

variable {env : Environment W} (henv : env.addressing = Addressing.emulator)
include henv

theorem pushWord_returns (e : Emulator W) (v : BitVec 16)
    (h : e.registers.stackAddress (e.registers.sp - 2#16) + 2 <= memorySize) :
    Returns (pushWord v) env e () (e.pushed v) := by
  refine returns_bind.mpr ⟨_, _, rfl, ?_⟩
  refine returns_bind.mpr ⟨_, _, rfl, ?_⟩
  refine returns_bind.mpr ⟨_, _, rfl, ?_⟩
  refine returns_bind.mpr ⟨_, _, rfl, ?_⟩
  exact write16_returns henv _ v h

theorem popWord_returns (e : Emulator W)
    (h : e.registers.stackAddress e.registers.sp + 2 <= memorySize) :
    Returns popWord env e e.top e.popped := by
  refine returns_bind.mpr ⟨_, _, rfl, ?_⟩
  refine returns_bind.mpr ⟨_, _, rfl, ?_⟩
  refine returns_bind.mpr ⟨_, _, read16_returns henv e h, ?_⟩
  rfl

end Returns
end Sim
end S80x86
