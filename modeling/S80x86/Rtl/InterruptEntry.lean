import S80x86.Rtl.MicroEval

/-!
# The interrupt entry of the core

Every interrupt goes through one microprogram, with the address of its vector
in the temporary register.
-/

namespace S80x86
namespace Rtl
namespace Machine

open GPR
open scoped Eval

/-- The memory after flags, `CS` and `IP` have been pushed. -/
def framed (m : Machine) : Memory :=
  let push (mem : Memory) (n v : BitVec 16) :=
    storeWord mem (m.segments .SS) (m.gprs SP - n) v
  push (push (push m.mem 2#16 m.flags.flagsOut) 4#16 (m.segments .CS)) 6#16 m.ip

/-- The registers after the entry through a vector. -/
def entered (vector : BitVec 16) (m : Machine) : Arch :=
  { gprs := m.gprs.set SP (m.gprs SP - 6#16)
    segments := SegmentRegisterFile.set m.segments .CS
      (loadWord m.framed 0#16 (vector + 2#16))
    flags := { m.flags with I := false, T := false }
    ip := loadWord m.framed 0#16 vector
    mem := m.framed }

theorem entry_program (c : Control) :
    c.program 17 Core.doIntAddress =
      some (Microcode.mem Core.doIntAddress ::
        (Microcode.intWords.drop 5).dropLast, Microcode.mem 0x21b) := rfl

theorem entry_first : Microcode.mem Core.doIntAddress =
    { aluOp := .GETFLAGS, mdrWrite := true, raSel := SP, next := 0x20b } := rfl

theorem entry_last : Microcode.mem 0x21b =
    { aSel := .MDR, segmentForce := true, segment := .CS, segmentWrEn := true
      nextInstruction := true, next := 0x21c } := rfl

/-- What the entry leaves. -/
theorem retires_entered {m : Machine} (hip : m.newIp = none) :
    Retires Core.doIntAddress m (m.entered m.tmp) := by
  have h := retires_of_program (m := m) (entry_program m.control)
  rw [entry_first, entry_last] at h
  simpa [Microcode.intWords, entered, framed, hip, Flags.step] using h

/-- The word that names the vector of the divide error. -/
def divideErrorWord : Microinstruction :=
  { bSel := .IMMEDIATE, immediate := some 0#16, aluOp := .SELB, tmpWrEn := true
    next := 0x12d }

theorem divideError_path (c : Control) :
    c.path 1 none Core.divideErrorAddress =
      some ([divideErrorWord], Core.doIntAddress) := rfl

/-- A divide error is the interrupt with the first vector. -/
theorem retires_divideError {m : Machine} (hip : m.newIp = none) :
    Retires Core.divideErrorAddress m (m.entered 0#16) := by
  have hstep := steps_of_path (m := m) (divideError_path m.control) rfl trivial
  have hentry := hstep.retires (retires_entered (by simpa [divideErrorWord]))
  simpa [divideErrorWord, entered, framed] using hentry

end Machine
end Rtl
end S80x86
