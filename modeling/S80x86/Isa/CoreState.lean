import S80x86.Isa.Operations
import S80x86.Rtl.InterruptEntry
import S80x86.Rtl.MicroBranch
import S80x86.Sim.DecimalAgrees

/-!
# The core as an implementation

The state that the core holds for the program, and what it means that a
microprogram does what an instruction is for.
-/

namespace S80x86
namespace Isa

open Rtl Rtl.GPR Rtl.Machine
open scoped Rtl.Machine.Eval

def ofMachine (m : Machine) : State :=
  { gprs := m.gprs, segments := m.segments, flags := m.flags.flagsOut
    ip := m.ip, mem := m.mem }

def ofArch (x : Arch) : State :=
  { gprs := x.gprs, segments := x.segments, flags := x.flags.flagsOut
    ip := x.ip, mem := x.mem }

/-- The microprogram at an address ends in a state. -/
def Leaves (addr : Nat) (m : Machine) (s : State) : Prop :=
  exists x, Retires addr m x ∧ ofArch x = s

/-- The microprogram at an address does what the instruction is for. -/
def Performs (addr : Nat) (m : Machine) (op : Operation) : Prop :=
  Leaves addr m (op.exec (ofMachine m))

theorem Leaves.after {addr addr' : Nat} {m m' : Machine} {s : State}
    (h : Leaves addr' m' s) (hsteps : Steps addr m addr' m') :
    Leaves addr m s := by
  rcases h with ⟨x, hx, hs⟩
  exact ⟨x, hsteps.retires hx, hs⟩

/-- One of the eight registers. -/
theorem reg_cases (r : BitVec 3) :
    r = AX ∨ r = CX ∨ r = DX ∨ r = BX ∨ r = SP ∨ r = BP ∨ r = SI ∨ r = DI :=
  Sim.register_cases r

theorem sp_ne : SP ≠ AX ∧ SP ≠ CX ∧ SP ≠ DX ∧ SP ≠ BX ∧ SP ≠ BP ∧ SP ≠ SI ∧
    SP ≠ DI := by
  decide

theorem index_ne : AX ≠ DI ∧ AX ≠ SI ∧ SI ≠ AX ∧ DI ≠ AX ∧ SI ≠ DI ∧
    DI ≠ SI := by
  decide

theorem gprs_set_comm (g : Gprs) {a b : BitVec 3} (v w : BitVec 16)
    (h : a ≠ b) : (g.set a v).set b w = (g.set b w).set a v := by
  funext n
  unfold Gprs.set
  by_cases ha : n = a
  · subst ha
    simp [h]
  · simp [ha]

theorem follow_append (us vs : List Microinstruction) (m : Machine) :
    m.follow (us ++ vs) = (m.follow us).follow vs := by
  induction us generalizing m with
  | nil =>
      rfl
  | cons u us ih =>
      exact ih _

attribute [scoped simp] ofMachine ofArch Operation.exec State.value
  State.take State.jump State.flag State.top State.above sp_ne

/-!
## Flags
-/

/-- The flags of a mask are updated as one value. -/
theorem withFlags_setFlags (r : Sim.RegisterFile) {mask : BitVec 16}
    (h : mask &&& Flag.all = mask) (v : BitVec 16) :
    (r.setFlags v mask).getFlags = withFlags mask v r.getFlags := by
  have hbits (i : Nat) : mask.getLsbD i = true -> Flag.all.getLsbD i = true := by
    intro hi
    rw [<- h, BitVec.getLsbD_and, Bool.and_eq_true] at hi
    exact hi.2
  apply BitVec.eq_of_getLsbD_eq
  intro i hi
  have hcases := hbits i
  simp only [Sim.RegisterFile.setFlags, Sim.RegisterFile.getFlags, withFlags,
    BitVec.getLsbD_or, BitVec.getLsbD_and, BitVec.getLsbD_not, hi, decide_true,
    Bool.true_and]
  generalize r.flags.getLsbD i = a
  generalize v.getLsbD i = b
  revert hcases
  generalize mask.getLsbD i = c
  revert a b c
  interval_cases i <;> decide

/-- The flags that a word of the microcode updates. -/
structure Updates (updates : List UpdateFlags) (mask : BitVec 16) : Prop where
  same : forall u, updates.contains u = mask.getLsbD (Sim.flagIndex u)
  valid : mask &&& Flag.all = mask

theorem Updates.flagsOut_step {updates : List UpdateFlags} {mask : BitVec 16}
    (h : Updates updates mask) (v : BitVec 16) (f : Flags) :
    (Flags.step updates v f).flagsOut = withFlags mask v f.flagsOut := by
  let r : Sim.RegisterFile := { Sim.RegisterFile.reset with flags := f.flagsOut }
  have hr : f.flagsOut = r.getFlags := by
    change f.flagsOut = f.flagsOut ||| Sim.Flag.stuckBits
    apply BitVec.eq_of_getLsbD_eq
    intro i hi
    unfold Flags.flagsOut
    simp only [BitVec.getLsbD_or, BitVec.getLsbD_append]
    interval_cases i <;> simp [Sim.Flag.stuckBits]
  have hstep : (Flags.step updates v f).flagsOut =
      (r.setFlags v mask).getFlags :=
    Sim.flagsOut_step hr h.same
  rw [hstep, withFlags_setFlags r h.valid, <- hr]

theorem updates_carry : Updates [.CF] Flag.CF :=
  ⟨fun u => by cases u <;> decide, by decide⟩

theorem updates_interrupt : Updates [.IF] Flag.IF :=
  ⟨fun u => by cases u <;> decide, by decide⟩

theorem updates_direction : Updates [.DF] Flag.DF :=
  ⟨fun u => by cases u <;> decide, by decide⟩

theorem updates_low : Updates [.CF, .PF, .AF, .ZF, .SF] Flag.low :=
  ⟨fun u => by cases u <;> decide, by decide⟩

theorem updates_all :
    Updates [.CF, .PF, .AF, .ZF, .SF, .TF, .IF, .DF, .OF] Flag.all :=
  ⟨fun u => by cases u <;> decide, by decide⟩

theorem updates_traps : Updates [.IF, .TF] Flag.traps :=
  ⟨fun u => by cases u <;> decide, by decide⟩

end Isa
end S80x86
