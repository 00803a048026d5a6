import S80x86.Sim.ModRM

/-!
# Arithmetic of the emulator

The helper that derives all flags from one 32-bit operation, and the shift and
rotate loops.
-/

namespace S80x86
namespace Sim

open Foundation.Effect

/-- The integer types the arithmetic helpers are instantiated with. -/
inductive IntType where
  | uint8_t
  | uint16_t
  | int16_t
  | uint32_t
  | int32_t
  deriving DecidableEq, Repr

namespace IntType

abbrev bits : IntType -> Nat
  | uint8_t => 8
  | uint16_t => 16
  | int16_t => 16
  | uint32_t => 32
  | int32_t => 32

/-- `static_cast<T>(-1)` as an operand of a 32-bit operation. -/
def minusOne : IntType -> BitVec 32
  | uint8_t => 0xff#32
  | uint16_t => 0xffff#32
  | int16_t => 0xffffffff#32
  | uint32_t => 0xffffffff#32
  | int32_t => 0xffffffff#32

end IntType

/-- Set a flag if a condition holds. -/
def setIf (c : Bool) (f flags : BitVec 16) : BitVec 16 :=
  if c then flags ||| f else flags

def builtinParity (v : BitVec 32) : Bool :=
  (List.range 32).foldl (fun odd i => Bool.xor odd (v.getLsbD i)) false

abbrev AluOp := BitVec 32 -> BitVec 32 -> BitVec 32 -> BitVec 32

open Flag in
/-- Flags and result of an operation, from the flags before it. -/
def aluResult (T : IntType) (flags : BitVec 16) (v1 v2 carry : BitVec 32)
    (aluOp : AluOp) : BitVec 16 × BitVec T.bits :=
  let flags := flags &&& ~~~(AF ||| CF ||| OF ||| PF ||| SF ||| ZF)
  let result32 := aluOp v1 v2 carry
  let af := (aluOp (v1 &&& 0xf#32) (v2 &&& 0xf#32) carry).getLsbD 4
  let signBit := T.bits - 1
  let carryBit := T.bits
  let flags := setIf af AF flags
  let flags := setIf (result32.getLsbD carryBit) CF flags
  let flags := setIf (result32.getLsbD signBit) SF flags
  let flags := setIf (result32 &&& T.minusOne == 0#32) ZF flags
  let flags := setIf (!builtinParity (result32 &&& 0xff#32)) PF flags
  let belowSign := ~~~(1#32 <<< signBit)
  let carryIn :=
    (aluOp (v1 &&& belowSign) (v2 &&& belowSign) carry).getLsbD signBit
  let flags := setIf (Bool.xor carryIn (flags &&& CF != 0#16)) OF flags
  (flags, result32.setWidth T.bits)

variable {W : Type}

@[reducible]
def doAlu (T : IntType) (v1 v2 carry : BitVec 32) (aluOp : AluOp) :
    EmuM W (BitVec 16 × BitVec T.bits) := do
  let flags ← getFlags
  return aluResult T flags v1 v2 carry aluOp

def OperandWidth.unsigned : OperandWidth -> IntType
  | .OP_WIDTH_8 => .uint8_t
  | .OP_WIDTH_16 => .uint16_t

/-- The helpers on unsigned operands of an operand width. -/
@[reducible]
def doUnsigned (w : OperandWidth) (v1 v2 : BitVec 16) (carry : Bool)
    (aluOp : AluOp) : EmuM W (BitVec 16 × BitVec w.bits) := do
  let out ← doAlu w.unsigned (v1.setWidth 32) (v2.setWidth 32)
    ((BitVec.ofBool carry).setWidth 32) aluOp
  return (out.1, out.2.setWidth w.bits)

@[reducible]
def doAdd (w : OperandWidth) (v1 v2 : BitVec 16) (carryIn : Bool) :
    EmuM W (BitVec 16 × BitVec w.bits) :=
  doUnsigned w v1 v2 carryIn fun a b c => a + b + c

@[reducible]
def doXor (w : OperandWidth) (v1 v2 : BitVec 16) :
    EmuM W (BitVec 16 × BitVec w.bits) :=
  doUnsigned w v1 v2 false fun a b _ => a ^^^ b

@[reducible]
def doOr (w : OperandWidth) (v1 v2 : BitVec 16) :
    EmuM W (BitVec 16 × BitVec w.bits) :=
  doUnsigned w v1 v2 false fun a b _ => a ||| b

@[reducible]
def doAnd (w : OperandWidth) (v1 v2 : BitVec 16) :
    EmuM W (BitVec 16 × BitVec w.bits) :=
  doUnsigned w v1 v2 false fun a b _ => a &&& b

@[reducible]
def doSub (w : OperandWidth) (v1 v2 : BitVec 16) (carryIn : Bool) :
    EmuM W (BitVec 16 × BitVec w.bits) :=
  doUnsigned w v1 v2 carryIn fun a b c => a - b - c

@[reducible]
def doMul (T : IntType) (v1 v2 : BitVec 32) :
    EmuM W (BitVec 16 × BitVec T.bits) :=
  doAlu T v1 v2 0#32 fun a b _ => a * b

/-!
## Shifts and rotates

A loop body takes the flags and the value after one position to the next.
-/

open Flag

def shiftLoop (body : BitVec 16 × BitVec n -> BitVec 16 × BitVec n) :
    Nat -> BitVec 16 × BitVec n -> BitVec 16 × BitVec n
  | 0, s => s
  | count + 1, s => shiftLoop body count (body s)

/-- `CF` replaced by a bit. -/
def carryOut (c : Bool) (flags : BitVec 16) : BitVec 16 :=
  setIf c CF (flags &&& ~~~CF)

def parityOf (v : BitVec n) : Bool := builtinParity (v.setWidth 32 &&& 0xff#32)

def doShl (v : BitVec n) (count : Nat) : BitVec 16 × BitVec n :=
  let overflowTestBits := (v >>> (n - 2)) &&& 3#n
  let flags := setIf (overflowTestBits == 1#n || overflowTestBits == 2#n)
    OF 0#16
  let (flags, v) := shiftLoop
    (fun (flags, v) => (carryOut v.msb flags, v <<< 1)) count (flags, v)
  let flags := setIf (v == 0#n) ZF flags
  let flags := setIf (!parityOf v) PF flags
  (setIf v.msb SF flags, v)

def doShr (v : BitVec n) (count : Nat) : BitVec 16 × BitVec n :=
  let flags := setIf v.msb OF 0#16
  let (flags, v) := shiftLoop
    (fun (flags, v) => (carryOut (v.getLsbD 0) flags, v >>> 1)) count
    (flags, v)
  let flags := setIf (v == 0#n) ZF flags
  (setIf (!parityOf v) PF flags, v)

def doSar (v : BitVec n) (count : Nat) : BitVec 16 × BitVec n :=
  let isNegative := v.msb
  let (flags, v) := shiftLoop
    (fun (flags, v) =>
      (carryOut (v.getLsbD 0) flags,
        if isNegative then v >>> 1 ||| 1#n <<< (n - 1) else v >>> 1))
    count (0#16, v)
  let flags := setIf (v == 0#n) ZF flags
  let flags := setIf (!parityOf v) PF flags
  (setIf v.msb SF flags, v)

def doRol (v : BitVec n) (count : Nat) : BitVec 16 × BitVec n :=
  let (flags, v) := shiftLoop
    (fun (flags, v) =>
      (carryOut v.msb flags, v <<< 1 + (BitVec.ofBool v.msb).setWidth n))
    (count % 32) (0#16, v)
  (setIf (Bool.xor (flags &&& CF != 0#16) v.msb) OF flags, v)

def doRcl (v : BitVec n) (count : Nat) (carryIn : Bool) :
    BitVec 16 × BitVec n :=
  let (flags, v) := shiftLoop
    (fun (flags, v) =>
      (carryOut v.msb flags,
        v <<< 1 + (BitVec.ofBool (flags &&& CF != 0#16)).setWidth n))
    (count % 32) (if carryIn then CF else 0#16, v)
  (setIf (Bool.xor (flags &&& CF != 0#16) v.msb) OF flags, v)

/-- `OF` from the two most significant bits. -/
def msbsDiffer (v : BitVec n) : Bool :=
  let msbs := (v >>> (n - 2)) &&& 3#n
  msbs == 2#n || msbs == 1#n

def doRor (v : BitVec n) (count : Nat) : BitVec 16 × BitVec n :=
  let (flags, v) := shiftLoop
    (fun (flags, v) =>
      (carryOut (v.getLsbD 0) flags, v >>> 1 + (v &&& 1#n) <<< (n - 1)))
    count (0#16, v)
  (setIf (msbsDiffer v) OF flags, v)

def doRcr (v : BitVec n) (count : Nat) (carryIn : Bool) :
    BitVec 16 × BitVec n :=
  let (flags, v) := shiftLoop
    (fun (flags, v) =>
      (carryOut (v.getLsbD 0) flags,
        v >>> 1 +
          (BitVec.ofBool (flags &&& CF != 0#16)).setWidth n <<< (n - 1)))
    (count % 32) (if carryIn then CF else 0#16, v)
  (setIf (msbsDiffer v) OF flags, v)

end Sim
end S80x86
