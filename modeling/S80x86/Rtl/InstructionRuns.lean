import S80x86.Rtl.MicroRuns

/-!
# Runs of one instruction

From the first cycle of its microprogram on the core executes an instruction
to its end, whatever the memory and the interrupt lines do meanwhile.
-/

namespace S80x86
namespace Rtl
namespace Core

open Foundation Foundation.Clocked

/-- The first cycle of the microprogram of an instruction. -/
structure Starts (s : Core) (opcode : BitVec 8) : Prop where
  idle : s.Idle
  addr : s.addr = opcode.toNat
  opcode : s.opcode = opcode
  notUpdated : s.csip.ipUpdated = false

/-- The core goes through the cycles of the instruction and ends it with these
registers. -/
def Executes (inputs : Nat -> Input) (s : Core) (x : Arch) : Prop :=
  Reaches Core.step (fun s => s.doNextInstruction = false) (Ends x) inputs s

theorem Starts.newIp {s : Core} {opcode : BitVec 8} (h : s.Starts opcode) :
    s.machine.newIp = none := by
  unfold machine
  rw [h.notUpdated]
  rfl

theorem Starts.executes {s : Core} {opcode : BitVec 8} {x : Arch}
    {inputs : Nat -> Input} (h : s.Starts opcode)
    (hop : plainOpcode opcode = true) (hrun : Retires opcode.toNat s.machine x)
    (hready : Recurs (fun i => i.ready = true) inputs) :
    s.Executes inputs x := by
  have hlt := opcode.isLt
  have hholds : holdsAddress opcode.toNat = true := by
    simp only [holdsAddress, nextInstructionAddress, modrmWaitAddress,
      nmiAddress, irqAddress, Bool.and_eq_true, bne_iff_ne]
    omega
  refine reaches_ends hrun h.idle h.addr rfl hholds ?_ hready
  change plainOpcode s.opcode = true
  rw [h.opcode]
  exact hop

/-!
## A core at the start of an instruction
-/

/-- A core with these registers, in which nothing else is under way. -/
def atStart (i : Instruction) (x : Arch) : Core :=
  { addr := i.opcode.toNat
    curInstruction := i
    nmiPending := false
    extIntInhibit := false
    trapFlagSet := false
    inta := false
    nmiPulse := { dPrev := false, q := false }
    registers :=
      { gprs := x.gprs, rdVal0 := 0#16, rdVal1 := 0#16, si := x.gprs GPR.SI
        di := x.gprs GPR.DI, bp := x.gprs GPR.BP, bx := x.gprs GPR.BX }
    segments := { registers := x.segments, rdVal := 0#16 }
    override := { override := .ES, overrideActive := false }
    loadStore :=
      { mar := 0#16, mdr := 0#16, fetching := false, secondByte := false
        complete := false }
    csip := { ip := 0#16, ipUpdated := false, csUpdated := false }
    ip :=
      { curVal := x.ip + i.length.setWidth 16, instructionStartAddr := x.ip }
    tmp := 0#16
    flags := x.flags
    count := 0#5
    modrm := .reset
    divider :=
      { state := .INIT, P := 0#64, idx := 0#4, quotient := 0#16
        error := false, complete := false }
    abortCur := false
    mem := x.mem
    mAck := false
    mDataIn := 0#16 }

theorem atStart_starts (i : Instruction) (x : Arch) :
    (atStart i x).Starts i.opcode :=
  ⟨⟨rfl, rfl, rfl, rfl, ⟨rfl, rfl, rfl⟩, rfl⟩, rfl, rfl, rfl⟩

/-- A cycle in which the memory accepts an access and nothing else comes. -/
def undisturbed : Input :=
  { nmi := false, intr := false, irq := 0#8, ready := true, ioData := 0#16
    instructionEmpty := true, nextInstructionValue := .zero
    prefetchAccess := false, prefetchAck := false }

theorem undisturbed_recurs :
    Recurs (fun i : Input => i.ready = true) fun _ => undisturbed :=
  fun _ => ⟨0, rfl⟩

end Core
end Rtl
end S80x86
