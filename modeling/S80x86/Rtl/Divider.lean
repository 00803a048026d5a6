import S80x86.Foundation.Bits

/-!
# The divider

The multi-cycle divider of the core, register by register.  Magnitudes are
divided without restoring, one quotient bit a cycle; a restore cycle repairs
the last digit and, for signed operands, a further cycle repairs the signs.
-/

namespace S80x86
namespace Rtl

inductive DivState where
  | INIT
  | WORKING
  | RESTORE
  | FIX_SIGN
  deriving DecidableEq, Repr

namespace Divider

structure Inputs where
  reset : Bool
  start : Bool
  is8Bit : Bool
  isSigned : Bool
  dividend : BitVec 32
  divisor : BitVec 16
  deriving DecidableEq, Repr

end Divider

structure Divider where
  state : DivState
  P : BitVec 64
  idx : BitVec 4
  quotient : BitVec 16
  error : Bool
  complete : Bool
  deriving DecidableEq, Repr

namespace Divider

/-!
## Wires
-/

def Inputs.dividendMag (i : Inputs) : BitVec 32 :=
  let sign := BitVec.fill 32 (i.dividend.getLsbD 31)
  (i.dividend + sign) ^^^ sign

def Inputs.divisorMag (i : Inputs) : BitVec 16 :=
  let sign := BitVec.fill 16 (i.divisor.getLsbD 15)
  (i.divisor + sign) ^^^ sign

/-- The divisor moved above the bits of one quotient. -/
def Inputs.D (i : Inputs) : BitVec 32 :=
  let shift8 (v : BitVec 16) : BitVec 32 :=
    (v.extractLsb' 0 8).setWidth 32 <<< 8
  let shift16 (v : BitVec 16) : BitVec 32 := v.setWidth 32 <<< 16
  let v := if i.isSigned then i.divisorMag else i.divisor
  if i.is8Bit then shift8 v else shift16 v

def Inputs.inSignsEqual (i : Inputs) : Bool :=
  if i.is8Bit then
    !(Bool.xor (i.dividend.getLsbD 15) (i.divisor.getLsbD 7))
  else
    !(Bool.xor (i.dividend.getLsbD 31) (i.divisor.getLsbD 15))

def Inputs.dividendNegative (i : Inputs) : Bool :=
  if i.is8Bit then i.dividend.getLsbD 15 else i.dividend.getLsbD 31

def Inputs.unsignedOverflow (i : Inputs) : Bool :=
  if i.is8Bit then
    decide (i.dividend.extractLsb' 0 16 ≥
      (i.divisor.extractLsb' 0 8).setWidth 16 <<< 8)
  else
    decide (i.dividend ≥ i.divisor.setWidth 32 <<< 16)

def Inputs.signedOverflow (i : Inputs) : Bool :=
  if i.is8Bit then
    i.inSignsEqual &&
      decide (i.dividendMag.extractLsb' 7 8 ≥ i.divisorMag.extractLsb' 0 8)
  else
    i.inSignsEqual &&
      decide (i.dividendMag.extractLsb' 15 16 ≥ i.divisorMag)

def Inputs.overflow (i : Inputs) : Bool :=
  if i.isSigned then i.signedOverflow else i.unsignedOverflow

def Inputs.raiseError (i : Inputs) : Bool :=
  i.divisor == 0#16 || i.overflow

def Inputs.pInit (i : Inputs) : BitVec 64 :=
  let v := if i.isSigned then i.dividendMag else i.dividend
  if i.is8Bit then (v.extractLsb' 0 16).setWidth 64 else v.setWidth 64

def remainder (i : Inputs) (s : Divider) : BitVec 16 :=
  if i.is8Bit then
    (s.P.extractLsb' 8 8).signExtend 16
  else
    s.P.extractLsb' 16 16

def busy (i : Inputs) (s : Divider) : Bool :=
  i.start || (s.state != .INIT && !s.complete)

def restoredQuotient (i : Inputs) (s : Divider) : BitVec 16 :=
  if i.is8Bit then
    let q := s.quotient.extractLsb' 0 8
    (if s.P.msb then q - ~~~q - 1#8 else q - ~~~q).setWidth 16
  else
    if s.P.msb then s.quotient - ~~~s.quotient - 1#16
    else s.quotient - ~~~s.quotient

def negativeQuotient (s : Divider) : BitVec 16 :=
  ~~~s.quotient + 1#16

/-!
## Registers
-/

def nextState (i : Inputs) (s : Divider) : DivState :=
  if i.reset then .INIT
  else
    match s.state with
    | .INIT =>
        if i.start && !s.error && !i.raiseError then .WORKING else .INIT
    | .WORKING => if s.idx == 0#4 then .RESTORE else .WORKING
    | .RESTORE => if i.isSigned then .FIX_SIGN else .INIT
    | .FIX_SIGN => .INIT

/-- Replace the bits of the remainder by their negation. -/
def negateRemainder (i : Inputs) (P : BitVec 64) : BitVec 64 :=
  if i.dividendNegative && i.is8Bit then
    Foundation.Bits.setSlice P 8 8 (~~~(P.extractLsb' 8 8) + 1#8)
  else if i.dividendNegative then
    Foundation.Bits.setSlice P 16 16 (~~~(P.extractLsb' 16 16) + 1#16)
  else P

/-- One clock edge. -/
def step (i : Inputs) (s : Divider) : Divider :=
  if i.reset then
    { s with state := .INIT, error := false, complete := false }
  else
    let s' : Divider := { s with state := nextState i s }
    match s.state with
    | .INIT =>
        if i.start then
          { s' with
            quotient := 0#16
            P := i.pInit
            idx := if !i.is8Bit then 0xf#4 else 0x7#4
            error := i.raiseError
            complete := i.raiseError }
        else
          { s' with error := false, complete := false }
    | .WORKING =>
        let D := i.D.setWidth 64
        if !s.P.msb then
          { s' with
            quotient := s.quotient ||| (1#16 <<< s.idx.toNat)
            P := s.P * 2#64 - D
            idx := s.idx - 1#4 }
        else
          { s' with
            P := s.P * 2#64 + D
            idx := s.idx - 1#4 }
    | .RESTORE =>
        { s' with
          quotient := restoredQuotient i s
          P :=
            if s.P.msb then s.P + i.D.signExtend 64 else s.P
          complete := !i.isSigned }
    | .FIX_SIGN =>
        let signBit := if i.is8Bit then 7 else 15
        { s' with
          quotient :=
            if !i.inSignsEqual then negativeQuotient s else s.quotient
          error :=
            if !i.inSignsEqual then
              s.quotient != 0#16 && i.isSigned &&
                !((negativeQuotient s).getLsbD signBit)
            else
              s.quotient != 0#16 && i.isSigned && s.quotient.getLsbD signBit
          P := negateRemainder i s.P
          complete := true }

end Divider
end Rtl
end S80x86
