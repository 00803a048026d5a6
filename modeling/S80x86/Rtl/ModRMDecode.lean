import S80x86.Rtl.Instruction

/-!
# The ModRM decoder of the RTL

One register stage: the fields of the ModRM byte and the effective address of
the instruction that starts.
-/

namespace S80x86
namespace Rtl
namespace ModRMDecode

structure Input where
  start : Bool
  clear : Bool
  modrm : BitVec 8
  displacement : BitVec 16
  si : BitVec 16
  di : BitVec 16
  bp : BitVec 16
  bx : BitVec 16
  deriving DecidableEq, Repr

/-- The registered outputs. -/
structure State where
  effectiveAddress : BitVec 16
  regnum : BitVec 3
  rmIsReg : Bool
  rmRegnum : BitVec 3
  bpAsBase : Bool
  deriving DecidableEq, Repr

def State.reset : State :=
  { effectiveAddress := 0#16, regnum := 0#3, rmIsReg := false
    rmRegnum := 0#3, bpAsBase := false }

namespace Input

def mod (i : Input) : BitVec 2 := i.modrm.extractLsb' 6 2

def reg (i : Input) : BitVec 3 := i.modrm.extractLsb' 3 3

def rm (i : Input) : BitVec 3 := i.modrm.extractLsb' 0 3

def bpAsBase (i : Input) : Bool :=
  match i.mod.toFin with
  | 0 => i.rm == 0b010#3 || i.rm == 0b011#3
  | 1 => i.rm == 0b010#3 || i.rm == 0b011#3 || i.rm == 0b110#3
  | 2 => i.rm == 0b010#3 || i.rm == 0b011#3 || i.rm == 0b110#3
  | 3 => false

/-- The address of the mode without a displacement, save for `rm` 6. -/
def indexed (i : Input) : BitVec 16 :=
  match i.rm.toFin with
  | 0 => i.bx + i.si
  | 1 => i.bx + i.di
  | 2 => i.bp + i.si
  | 3 => i.bp + i.di
  | 4 => i.si
  | 5 => i.di
  | 6 => i.displacement
  | 7 => i.bx

def displaced (i : Input) : BitVec 16 :=
  match i.rm.toFin with
  | 0 => i.bx + i.si + i.displacement
  | 1 => i.bx + i.di + i.displacement
  | 2 => i.bp + i.si + i.displacement
  | 3 => i.bp + i.di + i.displacement
  | 4 => i.si + i.displacement
  | 5 => i.di + i.displacement
  | 6 => i.bp + i.displacement
  | 7 => i.bx + i.displacement

def effectiveAddress (i : Input) : BitVec 16 :=
  match i.mod.toFin with
  | 0 => i.indexed
  | 1 => i.displaced
  | 2 => i.displaced
  | 3 => 0#16

end Input

/-- One clock edge outside reset; a start overrides a clear. -/
def step (i : Input) (s : State) : State :=
  let s := if i.clear then { s with bpAsBase := false } else s
  if i.start then
    { effectiveAddress := i.effectiveAddress
      regnum := i.reg
      rmIsReg := i.mod == 0b11#2
      rmRegnum := i.rm
      bpAsBase := i.bpAsBase }
  else s

end ModRMDecode
end Rtl
end S80x86
