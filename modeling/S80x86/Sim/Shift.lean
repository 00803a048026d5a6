import S80x86.Sim.Arithmetic

/-!
# Shift and rotate instructions

The ModRM byte is decoded by the group opcode before a member runs.
-/

namespace S80x86
namespace Sim

open Foundation.Effect Flag

variable {W : Type}

abbrev ShiftOp (W : Type) (w : OperandWidth) :=
  BitVec w.bits -> Nat -> EmuM W (BitVec 16 × BitVec w.bits)

/-- By an immediate count, of which five bits are used. -/
@[reducible]
def shiftImmediate (w : OperandWidth) (op : ShiftOp W w) (mask : BitVec 16) :
    EmuM W Unit := do
  let v ← readData w false
  let count ← fetchByte
  if count &&& 0x1f#8 = 0#8 then pure ()
  else
    let out ← op v (count &&& 0x1f#8).toNat
    writeData w out.2 false
    setFlags out.1 mask

@[reducible]
def shiftOne (w : OperandWidth) (op : ShiftOp W w) (mask : BitVec 16) :
    EmuM W Unit := do
  let v ← readData w false
  let out ← op v 1
  writeData w out.2 false
  setFlags out.1 mask

/-- By `CL`, all of it. -/
@[reducible]
def shiftCl (w : OperandWidth) (op : ShiftOp W w) (mask : BitVec 16) :
    EmuM W Unit := do
  let v ← readData w false
  let cl ← get .CL
  if cl = 0#16 then pure ()
  else
    let out ← op v cl.toNat
    writeData w out.2 false
    setFlags out.1 mask

def shiftFlags : BitVec 16 := CF ||| ZF ||| PF ||| SF

@[reducible]
def shl (w : OperandWidth) : ShiftOp W w := fun v count =>
  pure (doShl v count)

@[reducible]
def shr (w : OperandWidth) : ShiftOp W w := fun v count =>
  pure (doShr v count)

@[reducible]
def sar (w : OperandWidth) : ShiftOp W w := fun v count =>
  pure (doSar v count)

@[reducible]
def rol (w : OperandWidth) : ShiftOp W w := fun v count =>
  pure (doRol v count)

@[reducible]
def ror (w : OperandWidth) : ShiftOp W w := fun v count =>
  pure (doRor v count)

@[reducible]
def rcl (w : OperandWidth) : ShiftOp W w := fun v count => do
  let carryIn ← getFlag CF
  return doRcl v count carryIn

@[reducible]
def rcr (w : OperandWidth) : ShiftOp W w := fun v count => do
  let carryIn ← getFlag CF
  return doRcr v count carryIn

section Members

open OperandWidth

@[reducible]
def shlc0 : EmuM W Unit := shiftImmediate OP_WIDTH_8 (shl _) shiftFlags
@[reducible]
def shlc1 : EmuM W Unit := shiftImmediate OP_WIDTH_16 (shl _) shiftFlags
@[reducible]
def shld0 : EmuM W Unit := shiftOne OP_WIDTH_8 (shl _) (OF ||| shiftFlags)
@[reducible]
def shld1 : EmuM W Unit := shiftOne OP_WIDTH_16 (shl _) (OF ||| shiftFlags)
@[reducible]
def shld2 : EmuM W Unit := shiftCl OP_WIDTH_8 (shl _) shiftFlags
@[reducible]
def shld3 : EmuM W Unit := shiftCl OP_WIDTH_16 (shl _) shiftFlags

@[reducible]
def shrc0 : EmuM W Unit := shiftImmediate OP_WIDTH_8 (shr _) shiftFlags
@[reducible]
def shrc1 : EmuM W Unit := shiftImmediate OP_WIDTH_16 (shr _) shiftFlags
@[reducible]
def shrd0 : EmuM W Unit := shiftOne OP_WIDTH_8 (shr _) (OF ||| shiftFlags)
@[reducible]
def shrd1 : EmuM W Unit := shiftOne OP_WIDTH_16 (shr _) (OF ||| shiftFlags)
@[reducible]
def shrd2 : EmuM W Unit := shiftCl OP_WIDTH_8 (shr _) shiftFlags
@[reducible]
def shrd3 : EmuM W Unit := shiftCl OP_WIDTH_16 (shr _) shiftFlags

@[reducible]
def sarc0 : EmuM W Unit := shiftImmediate OP_WIDTH_8 (sar _) shiftFlags
@[reducible]
def sarc1 : EmuM W Unit := shiftImmediate OP_WIDTH_16 (sar _) shiftFlags
@[reducible]
def sard0 : EmuM W Unit := shiftOne OP_WIDTH_8 (sar _) (OF ||| shiftFlags)
@[reducible]
def sard1 : EmuM W Unit := shiftOne OP_WIDTH_16 (sar _) (OF ||| shiftFlags)
@[reducible]
def sard2 : EmuM W Unit := shiftCl OP_WIDTH_8 (sar _) shiftFlags
@[reducible]
def sard3 : EmuM W Unit := shiftCl OP_WIDTH_16 (sar _) shiftFlags

@[reducible]
def rolc0 : EmuM W Unit := shiftImmediate OP_WIDTH_8 (rol _) CF
@[reducible]
def rolc1 : EmuM W Unit := shiftImmediate OP_WIDTH_16 (rol _) CF
@[reducible]
def rold0 : EmuM W Unit := shiftOne OP_WIDTH_8 (rol _) (CF ||| OF)
@[reducible]
def rold1 : EmuM W Unit := shiftOne OP_WIDTH_16 (rol _) (CF ||| OF)
@[reducible]
def rold2 : EmuM W Unit := shiftCl OP_WIDTH_8 (rol _) CF
@[reducible]
def rold3 : EmuM W Unit := shiftCl OP_WIDTH_16 (rol _) CF

@[reducible]
def rclc0 : EmuM W Unit := shiftImmediate OP_WIDTH_8 (rcl _) CF
@[reducible]
def rclc1 : EmuM W Unit := shiftImmediate OP_WIDTH_16 (rcl _) CF
@[reducible]
def rcld0 : EmuM W Unit := shiftOne OP_WIDTH_8 (rcl _) (CF ||| OF)
@[reducible]
def rcld1 : EmuM W Unit := shiftOne OP_WIDTH_16 (rcl _) (CF ||| OF)
@[reducible]
def rcld2 : EmuM W Unit := shiftCl OP_WIDTH_8 (rcl _) CF
@[reducible]
def rcld3 : EmuM W Unit := shiftCl OP_WIDTH_16 (rcl _) CF

@[reducible]
def rcrc0 : EmuM W Unit := shiftImmediate OP_WIDTH_8 (rcr _) CF
@[reducible]
def rcrc1 : EmuM W Unit := shiftImmediate OP_WIDTH_16 (rcr _) CF
@[reducible]
def rcrd0 : EmuM W Unit := shiftOne OP_WIDTH_8 (rcr _) (CF ||| OF)
@[reducible]
def rcrd1 : EmuM W Unit := shiftOne OP_WIDTH_16 (rcr _) (CF ||| OF)
@[reducible]
def rcrd2 : EmuM W Unit := shiftCl OP_WIDTH_8 (rcr _) CF
@[reducible]
def rcrd3 : EmuM W Unit := shiftCl OP_WIDTH_16 (rcr _) CF

@[reducible]
def rorc0 : EmuM W Unit := shiftImmediate OP_WIDTH_8 (ror _) CF
@[reducible]
def rorc1 : EmuM W Unit := shiftImmediate OP_WIDTH_16 (ror _) CF
@[reducible]
def rord0 : EmuM W Unit := shiftOne OP_WIDTH_8 (ror _) (CF ||| OF)
@[reducible]
def rord1 : EmuM W Unit := shiftOne OP_WIDTH_16 (ror _) (CF ||| OF)
@[reducible]
def rord2 : EmuM W Unit := shiftCl OP_WIDTH_8 (ror _) CF
@[reducible]
def rord3 : EmuM W Unit := shiftCl OP_WIDTH_16 (ror _) CF

end Members

/-- A group opcode: the ModRM byte selects one of seven operations. -/
@[reducible]
def shiftGroup (w : OperandWidth)
    (shl shr sar rol rcl rcr ror : EmuM W Unit) : EmuM W Unit := do
  setWidth w
  decode
  let r ← rawReg
  if r = 4#3 ∨ r = 6#3 then shl
  else if r = 5#3 then shr
  else if r = 7#3 then sar
  else if r = 0#3 then rol
  else if r = 2#3 then rcl
  else if r = 3#3 then rcr
  else ror

@[reducible]
def shiftc0 : EmuM W Unit :=
  shiftGroup .OP_WIDTH_8 shlc0 shrc0 sarc0 rolc0 rclc0 rcrc0 rorc0

@[reducible]
def shiftc1 : EmuM W Unit :=
  shiftGroup .OP_WIDTH_16 shlc1 shrc1 sarc1 rolc1 rclc1 rcrc1 rorc1

@[reducible]
def shiftd0 : EmuM W Unit :=
  shiftGroup .OP_WIDTH_8 shld0 shrd0 sard0 rold0 rcld0 rcrd0 rord0

@[reducible]
def shiftd1 : EmuM W Unit :=
  shiftGroup .OP_WIDTH_16 shld1 shrd1 sard1 rold1 rcld1 rcrd1 rord1

@[reducible]
def shiftd2 : EmuM W Unit :=
  shiftGroup .OP_WIDTH_8 shld2 shrd2 sard2 rold2 rcld2 rcrd2 rord2

@[reducible]
def shiftd3 : EmuM W Unit :=
  shiftGroup .OP_WIDTH_16 shld3 shrd3 sard3 rold3 rcld3 rcrd3 rord3

end Sim
end S80x86
