import S80x86.Foundation.Bits

/-!
# The arithmetic unit of the core

One task for each operation, on 16-bit buses; an 8-bit operation reads its
flags off the low halves and lets the upper halves pass.
-/

namespace S80x86
namespace Rtl

namespace Flag

def CF_IDX : Nat := 0
def PF_IDX : Nat := 2
def AF_IDX : Nat := 4
def ZF_IDX : Nat := 6
def SF_IDX : Nat := 7
def TF_IDX : Nat := 8
def IF_IDX : Nat := 9
def DF_IDX : Nat := 10
def OF_IDX : Nat := 11

end Flag

inductive ALUOp where
  | SELA
  | SELB
  | ADD
  | ADC
  | AND
  | XOR
  | OR
  | SUB
  | SUBREV
  | SBB
  | SBBREV
  | GETFLAGS
  | SETFLAGSB
  | SETFLAGSA
  | CMC
  | SHR
  | SHL
  | SAR
  | ROR
  | ROL
  | RCL
  | RCR
  | NOT
  | NEXT
  | AAA
  | AAS
  | DAA
  | DAS
  | MUL
  | IMUL
  | DIV
  | IDIV
  | EXTEND
  | BOUNDL
  | BOUNDH
  | ENTER_FRAME_TEMP_ADDR
  deriving DecidableEq, Repr

namespace ALU

open Rtl.Flag Foundation.Bits

/-- One flag of the word replaced. -/
def setFlag (idx : Nat) (b : Bool) (flags : BitVec 16) : BitVec 16 :=
  setSlice flags idx 1 (BitVec.ofBool b)

theorem getLsbD_setFlag {idx k : Nat} {b : Bool} {flags : BitVec 16}
    (hk : k < 16) :
    (setFlag idx b flags).getLsbD k =
      if k = idx then b else flags.getLsbD k := by
  unfold setFlag
  rw [getLsbD_setSlice]
  by_cases h : k = idx
  · subst h
    simp [hk]
  · rw [if_neg h, if_neg]
    omega

/-- The reduction `^v`. -/
def xorReduce (v : BitVec n) : Bool :=
  (List.range n).foldl (fun odd i => Bool.xor odd (v.getLsbD i)) false

/-- The byte `v[7:0]`. -/
abbrev low (v : BitVec 16) : BitVec 8 := v.extractLsb' 0 8

/-- `is_8_bit ? v[n8] : v[n16]`. -/
def pick (is8Bit : Bool) (v : BitVec 16) (n8 n16 : Nat) : Bool :=
  if is8Bit then v.getLsbD n8 else v.getLsbD n16

def isZero (is8Bit : Bool) (out : BitVec 16) : Bool :=
  if is8Bit then low out == 0#8 else out == 0#16

def commonFlags (is8Bit : Bool) (out a b flags : BitVec 16) : BitVec 16 :=
  let flags := setFlag PF_IDX (!xorReduce (low out)) flags
  let flags := setFlag AF_IDX
    (Bool.xor (Bool.xor (a.getLsbD 4) (b.getLsbD 4)) (out.getLsbD 4)) flags
  let flags := setFlag SF_IDX (pick is8Bit out 7 15) flags
  setFlag ZF_IDX (isZero is8Bit out) flags

/-!
## Sums and differences
-/

/-- The carry of an 8-bit operation shows in bit 8 of the 16-bit one. -/
def carry8 (a b out : BitVec 16) : Bool :=
  Bool.xor (Bool.xor (a.getLsbD 8) (b.getLsbD 8)) (out.getLsbD 8)

/-- `~(a ^ b) & (out ^ b)` of the signs. -/
def sumOverflow (is8Bit : Bool) (a b out : BitVec 16) : Bool :=
  !Bool.xor (pick is8Bit a 7 15) (pick is8Bit b 7 15) &&
    Bool.xor (pick is8Bit out 7 15) (pick is8Bit b 7 15)

/-- `(a ^ b) & (out ^ a)` of the signs. -/
def differenceOverflow (is8Bit : Bool) (a b out : BitVec 16) : Bool :=
  Bool.xor (pick is8Bit a 7 15) (pick is8Bit b 7 15) &&
    Bool.xor (pick is8Bit out 7 15) (pick is8Bit a 7 15)

/-- The carry and the result of a 17-bit sum or difference, or of the 16-bit
one that an 8-bit operation makes. -/
def carryAndOut (is8Bit : Bool) (wide : BitVec 17) (a b : BitVec 16) :
    Bool × BitVec 16 :=
  let out := wide.setWidth 16
  (if is8Bit then carry8 a b out else wide.getLsbD 16, out)

def doAdd (is8Bit : Bool) (a b flagsIn : BitVec 16) : BitVec 16 × BitVec 16 :=
  let (carry, out) := carryAndOut is8Bit (a.setWidth 17 + b.setWidth 17) a b
  let flags := setFlag CF_IDX carry flagsIn
  let flags := setFlag OF_IDX (sumOverflow is8Bit a b out) flags
  (out, commonFlags is8Bit out a b flags)

/-- The carry flag as a number on the bus. -/
def carryIn (flagsIn : BitVec 16) : BitVec 17 :=
  (BitVec.ofBool (flagsIn.getLsbD CF_IDX)).setWidth 17

def doAdc (is8Bit : Bool) (a b flagsIn : BitVec 16) : BitVec 16 × BitVec 16 :=
  let (carry, out) := carryAndOut is8Bit
    (a.setWidth 17 + b.setWidth 17 + carryIn flagsIn) a b
  let flags := setFlag CF_IDX carry flagsIn
  let flags := setFlag OF_IDX (sumOverflow is8Bit a b out) flags
  (out, commonFlags is8Bit out a b flags)

def doSub (is8Bit : Bool) (a b flagsIn : BitVec 16) : BitVec 16 × BitVec 16 :=
  let (carry, out) := carryAndOut is8Bit (a.setWidth 17 - b.setWidth 17) a b
  let flags := setFlag CF_IDX carry flagsIn
  let flags := setFlag OF_IDX (differenceOverflow is8Bit a b out) flags
  (out, commonFlags is8Bit out a b flags)

def doSbb (is8Bit : Bool) (a b flagsIn : BitVec 16) : BitVec 16 × BitVec 16 :=
  let (carry, out) := carryAndOut is8Bit
    (a.setWidth 17 - b.setWidth 17 - carryIn flagsIn) a b
  let flags := setFlag CF_IDX carry flagsIn
  let flags := setFlag OF_IDX (differenceOverflow is8Bit a b out) flags
  (out, commonFlags is8Bit out a b flags)

/-- `AND`, `OR` and `XOR`. -/
def doLogic (is8Bit : Bool) (out a b flagsIn : BitVec 16) :
    BitVec 16 × BitVec 16 :=
  let flags := setFlag OF_IDX false (setFlag CF_IDX false flagsIn)
  (out, commonFlags is8Bit out a b flags)

def doAnd (is8Bit : Bool) (a b flagsIn : BitVec 16) : BitVec 16 × BitVec 16 :=
  doLogic is8Bit (a &&& b) a b flagsIn

def doOr (is8Bit : Bool) (a b flagsIn : BitVec 16) : BitVec 16 × BitVec 16 :=
  doLogic is8Bit (a ||| b) a b flagsIn

def doXor (is8Bit : Bool) (a b flagsIn : BitVec 16) : BitVec 16 × BitVec 16 :=
  doLogic is8Bit (a ^^^ b) a b flagsIn

def doBound (a b flagsIn : BitVec 16) : BitVec 16 :=
  setFlag CF_IDX (a.slt b) flagsIn

def doEnterFrameTempAddr (a : BitVec 16) (b : BitVec 5) : BitVec 16 :=
  a - b.setWidth 16 <<< 1

def doExtend (is8Bit : Bool) (a : BitVec 16) : BitVec 16 :=
  BitVec.fill 16 (pick is8Bit a 7 15)

/-!
## Products
-/

def productFlags (high : Bool) (flagsIn : BitVec 16) : BitVec 16 :=
  setFlag OF_IDX high (setFlag CF_IDX high (setFlag ZF_IDX false flagsIn))

def doMul (is8Bit : Bool) (a b flagsIn : BitVec 16) (isSigned : Bool) :
    BitVec 32 × BitVec 16 :=
  if is8Bit then
    let out : BitVec 16 :=
      if isSigned then (low a).signExtend 16 * (low b).signExtend 16
      else (low a).setWidth 16 * (low b).setWidth 16
    (out.setWidth 32, productFlags (out.extractLsb' 8 8 != 0#8) flagsIn)
  else
    let out : BitVec 32 :=
      if isSigned then a.signExtend 32 * b.signExtend 32
      else a.setWidth 32 * b.setWidth 32
    (out, productFlags (out.extractLsb' 16 16 != 0#16) flagsIn)

/-!
## Decimal adjustment
-/

/-- `a[3:0] > 9 || flags_in[AF]`. -/
def needsAdjust (a flagsIn : BitVec 16) : Bool :=
  decide (9#4 < a.extractLsb' 0 4) || flagsIn.getLsbD AF_IDX

def doAaa (a flagsIn : BitVec 16) : BitVec 16 × BitVec 16 :=
  let adjust := needsAdjust a flagsIn
  let out :=
    if adjust then
      (a.extractLsb' 8 8 + 1#8) ++ (0#4 ++ (a.extractLsb' 0 4 + 6#4))
    else a
  (out, setFlag AF_IDX adjust (setFlag CF_IDX adjust flagsIn))

def doAas (a flagsIn : BitVec 16) : BitVec 16 × BitVec 16 :=
  let adjust := needsAdjust a flagsIn
  let out :=
    if adjust then
      (a.extractLsb' 8 8 - 1#8) ++ (0#4 ++ (a.extractLsb' 0 4 - 6#4))
    else a
  (out, setFlag AF_IDX adjust (setFlag CF_IDX adjust flagsIn))

/-- The first half of `DAA` and `DAS`: the low byte and the flags after the
low digit was adjusted, `tmp` being the adjusted value. -/
def adjustLow (adjust : Bool) (tmp a flagsIn : BitVec 16) :
    BitVec 8 × BitVec 16 :=
  if adjust then
    let flags := setFlag AF_IDX true flagsIn
    (low tmp, if tmp.extractLsb' 8 8 != 0#8 then setFlag CF_IDX true flags
      else flags)
  else (low a, setFlag AF_IDX false flagsIn)

def doDaa (a flagsIn : BitVec 16) : BitVec 16 × BitVec 16 :=
  let (al, flags) := adjustLow (needsAdjust a flagsIn)
    ((low a).setWidth 16 + 6#16) a flagsIn
  if decide (0x9f#8 < al) || flags.getLsbD CF_IDX then
    (a.extractLsb' 8 8 ++ (al + 0x60#8), setFlag CF_IDX true flags)
  else (a.extractLsb' 8 8 ++ al, flags)

def doDas (a flagsIn : BitVec 16) : BitVec 16 × BitVec 16 :=
  let (al, flags) := adjustLow (needsAdjust a flagsIn)
    ((low a).setWidth 16 - 6#16) a flagsIn
  let high := decide (0x9f#8 < al) || flags.getLsbD CF_IDX
  let al := if high then al - 0x60#8 else al
  let flags := setFlag CF_IDX high flags
  let flags := setFlag PF_IDX (!xorReduce al) flags
  let flags := setFlag SF_IDX (al.getLsbD 7) flags
  (a.extractLsb' 8 8 ++ al, setFlag ZF_IDX (al == 0#8) flags)

/-!
## Shifts and rotates

A shift moves by one bit.  With a count it is repeated: the upper half of the
output is what is left of the count, and the unit is busy until that is zero.
-/

def shiftFlags (is8Bit : Bool) (out flags : BitVec 16) : BitVec 16 :=
  let flags := setFlag PF_IDX (!xorReduce (low out)) flags
  let flags := setFlag SF_IDX (pick is8Bit out 7 15) flags
  setFlag ZF_IDX (isZero is8Bit out) flags

/-- What one position changes: the new value, `CF` and `OF`. -/
structure Shifted where
  out : BitVec 16
  carry : Bool
  overflow : Bool

/-- The low byte replaced by another. -/
def withLow (a : BitVec 16) (v : BitVec 8) : BitVec 16 :=
  a.extractLsb' 8 8 ++ v

/-- `a[7] ^ a[6]` or `a[15] ^ a[14]`. -/
def topsDiffer (is8Bit : Bool) (a : BitVec 16) : Bool :=
  Bool.xor (pick is8Bit a 7 15) (pick is8Bit a 6 14)

def rclOne (is8Bit : Bool) (a flagsIn : BitVec 16) : Shifted :=
  let carry := BitVec.ofBool (flagsIn.getLsbD CF_IDX)
  { out :=
      if is8Bit then withLow a (a.extractLsb' 0 7 ++ carry)
      else a.extractLsb' 0 15 ++ carry
    carry := pick is8Bit a 7 15
    overflow := topsDiffer is8Bit a }

def rcrOne (is8Bit : Bool) (a flagsIn : BitVec 16) : Shifted :=
  let carry := BitVec.ofBool (flagsIn.getLsbD CF_IDX)
  { out :=
      if is8Bit then withLow a (carry ++ a.extractLsb' 1 7)
      else carry ++ a.extractLsb' 1 15
    carry := a.getLsbD 0
    overflow := Bool.xor (pick is8Bit a 7 15) (flagsIn.getLsbD CF_IDX) }

def rolOne (is8Bit : Bool) (a : BitVec 16) : Shifted :=
  { out :=
      if is8Bit then withLow a (a.extractLsb' 0 7 ++ a.extractLsb' 7 1)
      else a.extractLsb' 0 15 ++ a.extractLsb' 15 1
    carry := pick is8Bit a 7 15
    overflow := topsDiffer is8Bit a }

def rorOne (is8Bit : Bool) (a : BitVec 16) : Shifted :=
  { out :=
      if is8Bit then withLow a (a.extractLsb' 0 1 ++ a.extractLsb' 1 7)
      else a.extractLsb' 0 1 ++ a.extractLsb' 1 15
    carry := a.getLsbD 0
    overflow := Bool.xor (pick is8Bit a 7 15) (a.getLsbD 0) }

def sarOne (is8Bit : Bool) (a : BitVec 16) : Shifted :=
  { out :=
      if is8Bit then withLow a ((low a).sshiftRight 1)
      else a.sshiftRight 1
    carry := a.getLsbD 0
    overflow := false }

def shlOne (is8Bit : Bool) (a : BitVec 16) : Shifted :=
  let out := if is8Bit then withLow a (low a <<< 1) else a <<< 1
  { out := out
    carry := pick is8Bit a 7 15
    overflow := Bool.xor (pick is8Bit a 7 15) (pick is8Bit out 7 15) }

/-- The only one that does not treat the low byte apart. -/
def shrOne (is8Bit : Bool) (a : BitVec 16) : Shifted :=
  let out := a >>> 1
  { out := out
    carry := a.getLsbD 0
    overflow := Bool.xor (pick is8Bit a 7 15) (pick is8Bit out 7 15) }

structure Output where
  out : BitVec 32
  flagsOut : BitVec 16
  busy : Bool

def shift (is8Bit : Bool) (a : BitVec 16) (shiftCount : BitVec 5)
    (flagsIn : BitVec 16) (multibitShift : Bool) (s : Shifted) : Output :=
  if shiftCount != 0#5 || !multibitShift then
    let flags := setFlag CF_IDX s.carry flagsIn
    let flags := setFlag OF_IDX s.overflow flags
    let count := shiftCount - 1#5
    { out := (count.setWidth 16) ++ s.out
      flagsOut := shiftFlags is8Bit s.out flags
      busy := multibitShift && count != 0#5 }
  else
    { out := (shiftCount.setWidth 16) ++ a
      flagsOut := flagsIn
      busy := multibitShift && shiftCount != 0#5 }

/-!
## The unit
-/

structure Input where
  a : BitVec 16
  b : BitVec 16
  is8Bit : Bool
  op : ALUOp
  flagsIn : BitVec 16
  multibitShift : Bool
  shiftCount : BitVec 5

/-- A result on the low half of the output. -/
def plain (r : BitVec 16 × BitVec 16) : Output :=
  { out := r.1.setWidth 32, flagsOut := r.2, busy := false }

def Input.shifted (i : Input) (s : Shifted) : Output :=
  shift i.is8Bit i.a i.shiftCount i.flagsIn i.multibitShift s

def run (i : Input) : Output :=
  match i.op with
  | .SELA => plain (i.a, i.flagsIn)
  | .SELB => plain (i.b, i.flagsIn)
  | .ADD => plain (doAdd i.is8Bit i.a i.b i.flagsIn)
  | .ADC => plain (doAdc i.is8Bit i.a i.b i.flagsIn)
  | .AND => plain (doAnd i.is8Bit i.a i.b i.flagsIn)
  | .XOR => plain (doXor i.is8Bit i.a i.b i.flagsIn)
  | .OR => plain (doOr i.is8Bit i.a i.b i.flagsIn)
  | .BOUNDH => plain (0#16, doBound i.a i.b i.flagsIn)
  | .BOUNDL => plain (0#16, doBound i.b i.a i.flagsIn)
  | .SUB => plain (doSub i.is8Bit i.a i.b i.flagsIn)
  | .SUBREV => plain (doSub i.is8Bit i.b i.a i.flagsIn)
  | .SBB => plain (doSbb i.is8Bit i.a i.b i.flagsIn)
  | .SBBREV => plain (doSbb i.is8Bit i.b i.a i.flagsIn)
  | .ENTER_FRAME_TEMP_ADDR =>
      plain (doEnterFrameTempAddr i.a (i.b.extractLsb' 0 5), i.flagsIn)
  | .GETFLAGS => plain (i.flagsIn, i.flagsIn)
  | .SETFLAGSA => plain (0#16, i.a)
  | .SETFLAGSB => plain (0#16, i.b)
  | .CMC =>
      plain (0#16, setFlag CF_IDX (!i.flagsIn.getLsbD CF_IDX) i.flagsIn)
  | .SHR => i.shifted (shrOne i.is8Bit i.a)
  | .SHL => i.shifted (shlOne i.is8Bit i.a)
  | .SAR => i.shifted (sarOne i.is8Bit i.a)
  | .ROR => i.shifted (rorOne i.is8Bit i.a)
  | .ROL => i.shifted (rolOne i.is8Bit i.a)
  | .RCL => i.shifted (rclOne i.is8Bit i.a i.flagsIn)
  | .RCR => i.shifted (rcrOne i.is8Bit i.a i.flagsIn)
  | .NOT => plain (~~~i.a, i.flagsIn)
  | .AAA => plain (doAaa i.a i.flagsIn)
  | .AAS => plain (doAas i.a i.flagsIn)
  | .DAA => plain (doDaa i.a i.flagsIn)
  | .DAS => plain (doDas i.a i.flagsIn)
  | .MUL =>
      let r := doMul i.is8Bit i.a i.b i.flagsIn false
      { out := r.1, flagsOut := r.2, busy := false }
  | .IMUL =>
      let r := doMul i.is8Bit i.a i.b i.flagsIn true
      { out := r.1, flagsOut := r.2, busy := false }
  | .EXTEND => plain (doExtend i.is8Bit i.a, i.flagsIn)
  | .DIV => plain (0#16, i.flagsIn)
  | .IDIV => plain (0#16, i.flagsIn)
  | .NEXT =>
      if i.flagsIn.getLsbD DF_IDX then plain (doSub false i.a i.b i.flagsIn)
      else plain (doAdd false i.a i.b i.flagsIn)

end ALU
end Rtl
end S80x86
