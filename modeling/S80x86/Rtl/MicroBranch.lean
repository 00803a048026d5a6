import S80x86.Rtl.MicroEval

/-!
# Branches of microprograms

A word that asks the flags, a register or the loop counter where to go, and
the step it takes either way.
-/

namespace S80x86
namespace Rtl
namespace Machine

/-- The answer to what a word asks of the registers. -/
def branch (u : Microinstruction) (m : Machine) : Option Bool :=
  match u.jumpType with
  | .ZERO => some m.flags.Z
  | .RB_ZERO => some (m.rb == 0#16)
  | .LOOP_DONE => some (LoopCounter.done m.count)
  | .JUMP_TAKEN => some (JumpTest.taken m.insn.opcode m.flags.flagsOut)
  | _ => none

theorem branch_target {u : Microinstruction} {m : Machine} {c : Bool}
    (h : m.branch u = some c) (addr : Nat) :
    m.target u addr = if c then u.next else addr + 1 := by
  unfold branch at h
  unfold target
  cases hjump : u.jumpType with
  | ZERO =>
      simp only [hjump, Option.some.injEq] at h
      rw [<- h]
  | RB_ZERO =>
      simp only [hjump, Option.some.injEq] at h
      rw [<- h]
  | LOOP_DONE =>
      simp only [hjump, Option.some.injEq] at h
      rw [<- h]
  | JUMP_TAKEN =>
      simp only [hjump, Option.some.injEq] at h
      rw [<- h]
  | _ =>
      simp [hjump] at h

/-- A word that goes on both ways. -/
structure IsBranch (addr : Nat) (u : Microinstruction) : Prop where
  word : Microcode.mem addr = u
  isInternal : u.isInternal = true
  goes : u.nextInstruction = false
  plain : plainAddress u.next = true ∧ plainAddress (addr + 1) = true
  moves : u.next ≠ addr

theorem steps_branch {addr : Nat} {u : Microinstruction} {m : Machine}
    {before : Option Microinstruction} {c : Bool} (h : IsBranch addr u)
    (hsel : selects before u = true) (hm : m.Selected before)
    (hc : (m.ready u).branch u = some c) :
    Steps addr m (if c then u.next else addr + 1)
      ((m.ready u).advance u) := by
  have hparts := hsel
  simp only [selects, Bool.and_eq_true, Bool.not_eq_true'] at hparts
  have hlast := last_eq_ready (m := m) hparts.left.left hparts.left.right
  have htarget : (m.last u).target u addr =
      if c then u.next else addr + 1 := by
    rw [hlast]
    exact branch_target hc addr
  have hgo : plainAddress ((m.last u).target u addr) = true ∧
      (m.last u).target u addr ≠ addr := by
    rw [htarget]
    cases c with
    | false =>
        exact ⟨h.plain.2, Nat.succ_ne_self addr⟩
    | true =>
        exact ⟨h.plain.1, h.moves⟩
  have hstep := Steps.step u h.word h.isInternal (stable_of_selects hsel hm)
    h.goes hgo.1 hgo.2 (Steps.refl _ _)
  rw [htarget, hlast] at hstep
  exact hstep

end Machine
end Rtl
end S80x86
