import Mathlib.Logic.Basic

/-!
# The register file of the emulator

Thirteen word registers, the byte registers as halves of the first four, and
the flags word with the bits that read as one.
-/

namespace S80x86
namespace Sim

inductive GPR where
  | AX
  | CX
  | DX
  | BX
  | SP
  | BP
  | SI
  | DI
  | ES
  | CS
  | SS
  | DS
  | IP
  | AL
  | CL
  | DL
  | BL
  | AH
  | CH
  | DH
  | BH
  deriving DecidableEq, Repr

namespace GPR

/-- The enumerator `AX + n`. -/
def word (n : BitVec 3) : GPR :=
  match n.toFin with
  | 0 => AX
  | 1 => CX
  | 2 => DX
  | 3 => BX
  | 4 => SP
  | 5 => BP
  | 6 => SI
  | 7 => DI

/-- The enumerator `AL + n`. -/
def byte (n : BitVec 3) : GPR :=
  match n.toFin with
  | 0 => AL
  | 1 => CL
  | 2 => DL
  | 3 => BL
  | 4 => AH
  | 5 => CH
  | 6 => DH
  | 7 => BH

/-- The enumerator `ES + n`. -/
def segment (n : BitVec 2) : GPR :=
  match n.toFin with
  | 0 => ES
  | 1 => CS
  | 2 => SS
  | 3 => DS

end GPR

namespace Flag

def CF : BitVec 16 := 0x0001#16
def PF : BitVec 16 := 0x0004#16
def AF : BitVec 16 := 0x0010#16
def ZF : BitVec 16 := 0x0040#16
def SF : BitVec 16 := 0x0080#16
def TF : BitVec 16 := 0x0100#16
def IF : BitVec 16 := 0x0200#16
def DF : BitVec 16 := 0x0400#16
def OF : BitVec 16 := 0x0800#16

/-- `FLAGS_STUCK_BITS` of the 8086 configuration. -/
def stuckBits : BitVec 16 := 0xf002#16

def reservedMask : BitVec 16 := 0x002a#16

def validMask : BitVec 16 :=
  CF ||| PF ||| AF ||| ZF ||| SF ||| TF ||| IF ||| DF ||| OF

end Flag

structure RegisterFile where
  ax : BitVec 16
  cx : BitVec 16
  dx : BitVec 16
  bx : BitVec 16
  sp : BitVec 16
  bp : BitVec 16
  si : BitVec 16
  di : BitVec 16
  es : BitVec 16
  cs : BitVec 16
  ss : BitVec 16
  ds : BitVec 16
  ip : BitVec 16
  flags : BitVec 16
  written : Bool
  deriving DecidableEq, Repr

namespace RegisterFile

def reset : RegisterFile :=
  { ax := 0#16, cx := 0#16, dx := 0#16, bx := 0#16, sp := 0#16, bp := 0#16
    si := 0#16, di := 0#16, es := 0#16, cs := 0#16, ss := 0#16, ds := 0#16
    ip := 0#16, flags := Flag.stuckBits, written := false }

/-- The low half replaced by the low half of a value. -/
def lowByte (r value : BitVec 16) : BitVec 16 :=
  (r &&& 0xff00#16) ||| (value &&& 0x00ff#16)

/-- The high half replaced by the low half of a value. -/
def highByte (r value : BitVec 16) : BitVec 16 :=
  (r &&& 0x00ff#16) ||| (value <<< 8)

def set (r : RegisterFile) (regnum : GPR) (value : BitVec 16) :
    RegisterFile :=
  let r := if regnum = .IP then r else { r with written := false }
  match regnum with
  | .AL => { r with ax := lowByte r.ax value }
  | .CL => { r with cx := lowByte r.cx value }
  | .DL => { r with dx := lowByte r.dx value }
  | .BL => { r with bx := lowByte r.bx value }
  | .AH => { r with ax := highByte r.ax value }
  | .CH => { r with cx := highByte r.cx value }
  | .DH => { r with dx := highByte r.dx value }
  | .BH => { r with bx := highByte r.bx value }
  | .AX => { r with ax := value }
  | .CX => { r with cx := value }
  | .DX => { r with dx := value }
  | .BX => { r with bx := value }
  | .SP => { r with sp := value }
  | .BP => { r with bp := value }
  | .SI => { r with si := value }
  | .DI => { r with di := value }
  | .ES => { r with es := value }
  | .CS => { r with cs := value }
  | .SS => { r with ss := value }
  | .DS => { r with ds := value }
  | .IP => { r with ip := value }

def get (r : RegisterFile) : GPR -> BitVec 16
  | .AL => r.ax &&& 0x00ff#16
  | .CL => r.cx &&& 0x00ff#16
  | .DL => r.dx &&& 0x00ff#16
  | .BL => r.bx &&& 0x00ff#16
  | .AH => r.ax >>> 8
  | .CH => r.cx >>> 8
  | .DH => r.dx >>> 8
  | .BH => r.bx >>> 8
  | .AX => r.ax
  | .CX => r.cx
  | .DX => r.dx
  | .BX => r.bx
  | .SP => r.sp
  | .BP => r.bp
  | .SI => r.si
  | .DI => r.di
  | .ES => r.es
  | .CS => r.cs
  | .SS => r.ss
  | .DS => r.ds
  | .IP => r.ip

def getFlags (r : RegisterFile) : BitVec 16 := r.flags ||| Flag.stuckBits

def getFlag (r : RegisterFile) (f : BitVec 16) : Bool :=
  r.flags &&& f != 0#16

def setFlags (r : RegisterFile) (val mask : BitVec 16) : RegisterFile :=
  let mask := mask &&& ~~~Flag.reservedMask
  let mask := mask &&& Flag.validMask
  { r with
    flags := (r.flags &&& ~~~mask) |||
      (((val &&& mask) ||| Flag.stuckBits) &&& 0x0fff#16)
    written := true }

theorem get_setFlags (r : RegisterFile) (v mask : BitVec 16) (x : GPR) :
    (r.setFlags v mask).get x = r.get x := by
  cases x <;> rfl

theorem flags_set (r : RegisterFile) (x : GPR) (v : BitVec 16) :
    (r.set x v).flags = r.flags := by
  cases x <;> rfl

end RegisterFile
end Sim
end S80x86
