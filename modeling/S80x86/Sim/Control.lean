import S80x86.Sim.Transfer

/-!
# Control transfer and string instructions
-/

namespace S80x86
namespace Sim

open Foundation.Effect Flag

variable {W : Type}

/-!
## Jumps
-/

/-- Go to a displacement from the next instruction. -/
@[reducible]
def jumpRelative (displacement : BitVec 16) : EmuM W Unit := do
  let next ← nextIp
  set .IP (next + displacement)
  takeJump

@[reducible]
def jmpe9 : EmuM W Unit := do
  let displacement ← fetch16bit
  jumpRelative displacement

@[reducible]
def jmpea : EmuM W Unit := do
  let ip ← fetch16bit
  let cs ← fetch16bit
  set .IP ip
  set .CS cs
  takeJump

@[reducible]
def jmpeb : EmuM W Unit := do
  let displacement ← fetchSigned
  jumpRelative displacement

@[reducible]
def jumpIf (cond : EmuM W Bool) : EmuM W Unit := do
  let displacement ← fetchSigned
  let taken ← cond
  if taken then jumpRelative displacement

/-- A condition on the flags. -/
def flagTest (f : (BitVec 16 -> Bool) -> Bool) : EmuM W Bool :=
  gets fun e => f e.registers.getFlag

@[reducible]
def jo70 : EmuM W Unit := jumpIf (flagTest fun f => f OF)
@[reducible]
def jno71 : EmuM W Unit := jumpIf (flagTest fun f => !f OF)
@[reducible]
def jb72 : EmuM W Unit := jumpIf (flagTest fun f => f CF)
@[reducible]
def jnb73 : EmuM W Unit := jumpIf (flagTest fun f => !f CF)
@[reducible]
def je74 : EmuM W Unit := jumpIf (flagTest fun f => f ZF)
@[reducible]
def jne75 : EmuM W Unit := jumpIf (flagTest fun f => !f ZF)
@[reducible]
def jbe76 : EmuM W Unit := jumpIf (flagTest fun f => f CF || f ZF)
@[reducible]
def jnbe77 : EmuM W Unit := jumpIf (flagTest fun f => !(f CF || f ZF))
@[reducible]
def js78 : EmuM W Unit := jumpIf (flagTest fun f => f SF)
@[reducible]
def jns79 : EmuM W Unit := jumpIf (flagTest fun f => !f SF)
@[reducible]
def jp7a : EmuM W Unit := jumpIf (flagTest fun f => f PF)
@[reducible]
def jnp7b : EmuM W Unit := jumpIf (flagTest fun f => !f PF)
@[reducible]
def jl7c : EmuM W Unit := jumpIf (flagTest fun f => Bool.xor (f OF) (f SF))
@[reducible]
def jnl7d : EmuM W Unit :=
  jumpIf (flagTest fun f => !Bool.xor (f SF) (f OF))
@[reducible]
def jle7e : EmuM W Unit :=
  jumpIf (flagTest fun f => Bool.xor (f OF) (f SF) || f ZF)
@[reducible]
def jnle7f : EmuM W Unit :=
  jumpIf (flagTest fun f => !(Bool.xor (f SF) (f OF) || f ZF))

@[reducible]
def jcxze3 : EmuM W Unit :=
  jumpIf do
    let cx ← get .CX
    return cx == 0#16

/-- Count down and jump if the condition on `CX` and `ZF` holds. -/
@[reducible]
def loopIf (cond : Bool -> Bool) : EmuM W Unit := do
  let displacement ← fetchSigned
  let cx ← get .CX
  set .CX (cx - 1#16)
  let cx ← get .CX
  let zf ← getFlag ZF
  if cx != 0#16 && cond zf then jumpRelative displacement

@[reducible]
def loope2 : EmuM W Unit := loopIf fun _ => true

@[reducible]
def loopee1 : EmuM W Unit := loopIf fun zf => zf

@[reducible]
def loopnze0 : EmuM W Unit := loopIf fun zf => !zf

@[reducible]
def jmpffIntra : EmuM W Unit := do
  let ip ← readData .OP_WIDTH_16 false
  set .IP ip
  takeJump

/-- Go to the far address a double word holds. -/
@[reducible]
def jumpFar (csIp : BitVec 32) : EmuM W Unit := do
  set .IP (csIp.setWidth 16)
  set .CS ((csIp >>> 16).setWidth 16)
  takeJump

@[reducible]
def jmpffInter : EmuM W Unit := do
  let type ← rmType
  if type = .OP_REG then pure ()
  else
    let csIp ← readData32 false
    jumpFar csIp

/-!
## Calls and returns
-/

@[reducible]
def pushNextIp : EmuM W Unit := do
  let next ← nextIp
  pushWord next

@[reducible]
def calle8 : EmuM W Unit := do
  let displacement ← fetch16bit
  pushNextIp
  jumpRelative displacement

@[reducible]
def callffIntra : EmuM W Unit := do
  let displacement ← readData .OP_WIDTH_16 false
  pushNextIp
  set .IP displacement
  takeJump

@[reducible]
def callffInter : EmuM W Unit := do
  let type ← rmType
  if type = .OP_REG then pure ()
  else
    pushReg .CS
    pushNextIp
    let csIp ← readData32 false
    jumpFar csIp

@[reducible]
def call9a : EmuM W Unit := do
  let newIp ← fetch16bit
  let newCs ← fetch16bit
  pushReg .CS
  pushNextIp
  set .CS newCs
  set .IP newIp
  takeJump

@[reducible]
def retc3 : EmuM W Unit := do
  let ip ← popWord
  set .IP ip
  takeJump

@[reducible]
def retc2 : EmuM W Unit := do
  let displacement ← fetch16bit
  let ip ← popWord
  set .IP ip
  addSp displacement
  takeJump

@[reducible]
def retcb : EmuM W Unit := do
  let ip ← popWord
  let cs ← popWord
  set .IP ip
  set .CS cs
  takeJump

@[reducible]
def retca : EmuM W Unit := do
  let displacement ← fetch16bit
  let ip ← popWord
  let cs ← popWord
  set .IP ip
  set .CS cs
  addSp displacement
  takeJump

@[reducible]
def iretcf : EmuM W Unit := do
  let ip ← popWord
  let cs ← popWord
  let flags ← popWord
  set .IP ip
  set .CS cs
  setFlags flags 0xffff#16
  takeJump

@[reducible]
def pushIncJmpCallFf : EmuM W Unit := do
  setWidth .OP_WIDTH_16
  decode
  let r ← rawReg
  if r = 6#3 then pushff
  else if r = 0#3 then incff
  else if r = 1#3 then decff
  else if r = 2#3 then callffIntra
  else if r = 3#3 then callffInter
  else if r = 4#3 then jmpffIntra
  else if r = 5#3 then jmpffInter
  else invalidOpcode

/-!
## Interrupt instructions
-/

@[reducible]
def intcc : EmuM W Unit := interrupt Vector.INT

@[reducible]
def intcd : EmuM W Unit := do
  let flags ← getFlags
  let intNum ← fetchByte
  interruptWith flags (intNum.toNat * 4) nextIp

@[reducible]
def intoce : EmuM W Unit := do
  let flags ← getFlags
  if flags &&& OF = 0#16 then pure ()
  else interruptWith flags Vector.OVERFLOW nextIp

/-- `BOUND` compares the register as the decoder's width names it, and no
width is set for it here. -/
@[reducible]
def bound62 : EmuM W Unit := do
  decode
  let type ← rmType
  if type = .OP_REG then invalidOpcode
  else
    let p32 ← operandAddr false
    let lower ← read16 p32
    let upper ← read16 (p32.add 2)
    let r ← reg
    let v ← get r
    if lower.sle v && v.sle upper then pure ()
    else interrupt Vector.BOUND

def getTrapEscape : EmuM W Bool := fun r e => ([], .ok (r.trapEscape, e))

@[reducible]
def escd8 : EmuM W Unit := do
  decode
  let trap ← getTrapEscape
  if !trap then pure ()
  else interruptHere Vector.ESCAPE

/-!
## Strings
-/

/-- `while (CX != 0)`: the counter bounds the number of rounds. -/
def repLoop (primitive : EmuM W Unit) (shouldTerminate : EmuM W Bool) :
    Nat -> EmuM W Unit
  | 0 => pure ()
  | n + 1 => do
      let cx ← get .CX
      if cx = 0#16 then pure ()
      else
        primitive
        let cx ← get .CX
        set .CX (cx - 1#16)
        let done ← shouldTerminate
        if done then pure () else repLoop primitive shouldTerminate n

@[reducible]
def doRep (primitive : EmuM W Unit) (shouldTerminate : EmuM W Bool) :
    EmuM W Unit := do
  let rep ← getHasRepPrefix
  if !rep then primitive else repLoop primitive shouldTerminate (2 ^ 16)

/-- The repetition prefix in force. -/
def getRep : EmuM W (Option RepMode) :=
  gets fun e => if e.hasRepPrefix then some e.repMode else none

/-- Whether a repeated comparison is over; only `doRep` asks, after a prefix. -/
@[reducible]
def stringRepComplete : EmuM W Bool := do
  let mode ← getRep
  let zf ← getFlag ZF
  return (mode == some .REPE && !zf) || (mode == some .REPNE && zf)

/-- Move an index register by one element in the direction of `DF`. -/
@[reducible]
def advance (w : OperandWidth) (r : GPR) : EmuM W Unit := do
  let df ← getFlag DF
  let v ← get r
  let size := BitVec.ofNat 16 (w.bits / 8)
  set r (if df then v - size else v + size)

@[reducible]
def esDi : EmuM W PhysAddr := do
  let es ← get .ES
  let di ← get .DI
  return getPhysAddr es di.toNat

/-- The source element, where an override prefix counts. -/
@[reducible]
def segSi : EmuM W PhysAddr := do
  let segment ← getSegment false
  let base ← get segment
  let si ← get .SI
  return getPhysAddr base si.toNat

@[reducible]
def compareFlags (w : OperandWidth) (v1 v2 : BitVec w.bits) : EmuM W Unit := do
  let out ← aluSub w v1 v2
  setFlags out.1 arithmeticFlags

@[reducible]
def scas (w : OperandWidth) : EmuM W Unit := do
  let addr ← esDi
  let v ← readMem w addr
  let a ← get (accumulator w)
  compareFlags w (a.setWidth w.bits) v
  advance w .DI

@[reducible]
def scasbae : EmuM W Unit := doRep (scas .OP_WIDTH_8) stringRepComplete

@[reducible]
def scasbaf : EmuM W Unit := doRep (scas .OP_WIDTH_16) stringRepComplete

@[reducible]
def movs (w : OperandWidth) : EmuM W Unit := do
  let source ← segSi
  let v ← readMem w source
  let dest ← esDi
  writeMem w dest v
  advance w .DI
  advance w .SI

@[reducible]
def movsba4 : EmuM W Unit := doRep (movs .OP_WIDTH_8) (pure false)

@[reducible]
def movswa5 : EmuM W Unit := doRep (movs .OP_WIDTH_16) (pure false)

@[reducible]
def cmps (w : OperandWidth) : EmuM W Unit := do
  let source ← segSi
  let s ← readMem w source
  let dest ← esDi
  let d ← readMem w dest
  compareFlags w s d
  advance w .DI
  advance w .SI

@[reducible]
def cmpsba6 : EmuM W Unit := doRep (cmps .OP_WIDTH_8) stringRepComplete

@[reducible]
def cmpswa7 : EmuM W Unit := doRep (cmps .OP_WIDTH_16) stringRepComplete

@[reducible]
def lods (w : OperandWidth) : EmuM W Unit := do
  let source ← segSi
  let v ← readMem w source
  set (accumulator w) (v.setWidth 16)
  advance w .SI

@[reducible]
def lodsbac : EmuM W Unit := doRep (lods .OP_WIDTH_8) (pure false)

@[reducible]
def lodswad : EmuM W Unit := doRep (lods .OP_WIDTH_16) (pure false)

/-- The byte form also writes `AL` back. -/
@[reducible]
def stosb : EmuM W Unit := do
  let v ← get .AL
  let dest ← esDi
  write8 dest (v.setWidth 8)
  set .AL v
  advance .OP_WIDTH_8 .DI

@[reducible]
def stosbaa : EmuM W Unit := doRep stosb (pure false)

@[reducible]
def stosw : EmuM W Unit := do
  let v ← get .AX
  let dest ← esDi
  write16 dest v
  advance .OP_WIDTH_16 .DI

@[reducible]
def stoswab : EmuM W Unit := doRep stosw (pure false)

/-- The source of `OUTS` is in `DS` whatever the prefixes say. -/
@[reducible]
def outs (w : OperandWidth) : EmuM W Unit := do
  let ds ← get .DS
  let si ← get .SI
  let v ← readMem w (getPhysAddr ds si.toNat)
  let port ← get .DX
  writeIo w port v
  advance w .SI

@[reducible]
def outsb6e : EmuM W Unit := doRep (outs .OP_WIDTH_8) (pure false)

@[reducible]
def outsw6f : EmuM W Unit := doRep (outs .OP_WIDTH_16) (pure false)

@[reducible]
def ins (w : OperandWidth) : EmuM W Unit := do
  let port ← get .DX
  let v ← readIo w port
  let dest ← esDi
  writeMem w dest v
  advance w .DI

@[reducible]
def insb6c : EmuM W Unit := doRep (ins .OP_WIDTH_8) (pure false)

@[reducible]
def insw6d : EmuM W Unit := doRep (ins .OP_WIDTH_16) (pure false)

end Sim
end S80x86
