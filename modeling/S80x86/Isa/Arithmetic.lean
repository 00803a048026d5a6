import S80x86.Foundation.Overflow
import S80x86.Isa.State

/-!
# Arithmetic

What the instructions on two operands compute: a result of the width of the
operands, and flags that describe it by the operands as numbers.
-/

namespace S80x86
namespace Isa

open Foundation

/-- The flags that describe a result. -/
structure Conditions where
  cf : Bool
  pf : Bool
  af : Bool
  zf : Bool
  sf : Bool
  of : Bool

/-- The flags at their places. -/
def Conditions.word (c : Conditions) : BitVec 16 :=
  0#4 ++ BitVec.ofBool c.of ++ 0#3 ++ BitVec.ofBool c.sf ++
    BitVec.ofBool c.zf ++ 0#1 ++ BitVec.ofBool c.af ++ 0#1 ++
      BitVec.ofBool c.pf ++ 0#1 ++ BitVec.ofBool c.cf

/-- Whether the number of ones in the low byte is even. -/
def evenOnes {n : Nat} (v : BitVec n) : Bool :=
  (List.range 8).countP (fun i => v.getLsbD i) % 2 == 0

namespace Flag

/-- The flags of a sum or difference. -/
def arithmetic : BitVec 16 := 0x08d5#16

/-- The flags of a logic operation. -/
def logic : BitVec 16 := 0x08c5#16

/-- The flags of `INC` and `DEC`. -/
def counting : BitVec 16 := 0x08d4#16

end Flag

/-- A result and the flags that describe it. -/
structure Outcome (n : Nat) where
  value : BitVec n
  conditions : Conditions

/-- A sum with a carry, or a difference with a borrow. -/
def sum (neg : Bool) {n : Nat} (x y : BitVec n) (c : Bool) : Outcome n :=
  let r := Carry.addSub neg x y c
  { value := r
    conditions :=
      { cf := Carry.carryOut neg x y c
        pf := evenOnes r
        af := Carry.carryOut neg (x.setWidth 4) (y.setWidth 4) c
        zf := r == 0#n
        sf := r.msb
        of := Carry.overflows (n - 1) (Carry.value neg x.toInt y.toInt c) } }

/-- A result that carries nothing. -/
def bits {n : Nat} (r : BitVec n) : Outcome n :=
  { value := r
    conditions :=
      { cf := false, pf := evenOnes r, af := false, zf := r == 0#n
        sf := r.msb, of := false } }

inductive Arith where
  | add
  | or
  | adc
  | sbb
  | and
  | sub
  | xor
  | cmp
  | test
  deriving DecidableEq, Repr

namespace Arith

def outcome {n : Nat} (carry : Bool) (x y : BitVec n) : Arith -> Outcome n
  | add => sum false x y false
  | or => bits (x ||| y)
  | adc => sum false x y carry
  | sbb => sum true x y carry
  | and => bits (x &&& y)
  | sub => sum true x y false
  | xor => bits (x ^^^ y)
  | cmp => sum true x y false
  | test => bits (x &&& y)

/-- Whether the result is kept. -/
def stores : Arith -> Bool
  | cmp => false
  | test => false
  | _ => true

def isLogic : Arith -> Bool
  | or => true
  | and => true
  | xor => true
  | test => true
  | _ => false

/-- The flags that the operation changes. -/
def mask (op : Arith) : BitVec 16 :=
  if op.isLogic then Flag.logic else Flag.arithmetic

end Arith

def width (is8Bit : Bool) : Nat := if is8Bit then 8 else 16

/-- The result and the flags of an operation on the low bytes of two words, or
on the words. -/
def Arith.apply (op : Arith) (is8Bit carry : Bool) (x y : BitVec 16) :
    BitVec 16 × BitVec 16 :=
  let out := op.outcome carry (x.setWidth (width is8Bit))
    (y.setWidth (width is8Bit))
  (out.value.setWidth 16, out.conditions.word)

end Isa
end S80x86
