import S80x86.Isa.Arithmetic

/-!
# Instructions without a ModRM byte

What the stack, transfer, flag, accumulator and string instructions are for,
one constructor for each kind, and the bytes that stand for them.  Neither the
emulator nor the microcode has a part in this module.
-/

namespace S80x86
namespace Isa

open Rtl (SR)
open Rtl.GPR

inductive Source where
  | word (r : BitVec 3)
  | segment (n : SR)
  | value (v : BitVec 16)
  | flags

inductive Destination where
  | word (r : BitVec 3)
  | segment (n : SR)
  | flags

inductive Operation where
  | push (s : Source)
  | pop (d : Destination)
  | pusha
  | popa
  | leave
  | mov (is8Bit : Bool) (r : BitVec 3) (v : BitVec 16)
  | xchg (r : BitVec 3)
  | cbw
  | cwd
  | lahf
  | sahf
  | setalc
  | update (mask v : BitVec 16)
  | cmc
  | jcc (condition : BitVec 4) (displacement : BitVec 16)
  | jcxz (displacement : BitVec 16)
  | loop (zero : Option Bool) (displacement : BitVec 16)
  | jmp (displacement : BitVec 16)
  | jmpFar (cs ip : BitVec 16)
  | call (displacement : BitVec 16)
  | callFar (cs ip : BitVec 16)
  | ret (discard : BitVec 16)
  | retFar (discard : BitVec 16)
  | int (n : BitVec 8)
  | into
  | iret
  | arith (op : Arith) (is8Bit : Bool) (v : BitVec 16)
  | count (neg : Bool) (r : BitVec 3)
  | load (is8Bit : Bool) (offset : BitVec 16)
  | save (is8Bit : Bool) (offset : BitVec 16)
  | lods (is8Bit : Bool)
  | stos (is8Bit : Bool)
  | movs (is8Bit : Bool)
  | scas (is8Bit : Bool)
  | cmps (is8Bit : Bool)

/-!
## Flags
-/

namespace Flag

def CF : BitVec 16 := 0x0001#16
def IF : BitVec 16 := 0x0200#16
def DF : BitVec 16 := 0x0400#16

/-- The flags that are there. -/
def all : BitVec 16 := 0x0fd5#16

/-- The flags in the low byte. -/
def low : BitVec 16 := 0x00d5#16

/-- The flags that an interrupt clears. -/
def traps : BitVec 16 := 0x0300#16

end Flag

namespace State

variable (s : State)

/-- The condition that the upper three bits of a code name. -/
def test (n : BitVec 3) : Bool :=
  let zero := s.flag Rtl.Flag.ZF_IDX
  let less := Bool.xor (s.flag Rtl.Flag.OF_IDX) (s.flag Rtl.Flag.SF_IDX)
  match n.toFin with
  | 0 => s.flag Rtl.Flag.OF_IDX
  | 1 => s.flag Rtl.Flag.CF_IDX
  | 2 => zero
  | 3 => s.flag Rtl.Flag.CF_IDX || zero
  | 4 => s.flag Rtl.Flag.SF_IDX
  | 5 => s.flag Rtl.Flag.PF_IDX
  | 6 => less
  | 7 => less || zero

/-- The lowest bit of a condition code negates the condition. -/
def holds (condition : BitVec 4) : Bool :=
  Bool.xor (s.test (condition.extractLsb' 1 3)) (condition.getLsbD 0)

/-!
## Execution
-/

def value : Source -> BitVec 16
  | .word r => s.gprs r
  | .segment n => s.segments n
  | .value v => v
  | .flags => s.flags

def take (v : BitVec 16) : Destination -> State
  | .word r => s.setWord r v
  | .segment n => s.setSegment n v
  | .flags => s.setFlags Flag.all v

def jump (taken : Bool) (displacement : BitVec 16) : State :=
  if taken then s.goto (s.ip + displacement) else s

/-- Push the flags and the address of the next instruction, and go to where a
vector points. -/
def interrupt (n : BitVec 8) : State :=
  let pushed := ((s.push s.flags).push (s.segments .CS)).push s.ip
  let vector := n.setWidth 16 * 4#16
  let cs := Rtl.Machine.loadWord pushed.mem 0#16 (vector + 2#16)
  let ip := Rtl.Machine.loadWord pushed.mem 0#16 vector
  ((pushed.setFlags Flag.traps 0#16).setSegment .CS cs).goto ip

/-- The byte or word at an offset in a segment. -/
def element (is8Bit : Bool) (n : SR) (offset : BitVec 16) : BitVec 16 :=
  if is8Bit then
    (Rtl.Machine.loadByte s.mem (s.segments n) offset).setWidth 16
  else Rtl.Machine.loadWord s.mem (s.segments n) offset

@[simps -fullyApplied]
def place (is8Bit : Bool) (n : SR) (offset v : BitVec 16) : State :=
  { s with
    mem :=
      if is8Bit then
        Rtl.Machine.storeByte s.mem (s.segments n) offset (v.extractLsb' 0 8)
      else Rtl.Machine.storeWord s.mem (s.segments n) offset v }

/-- An index register moves on in the direction of `DF`. -/
@[simps! -fullyApplied]
def advance (is8Bit : Bool) (r : BitVec 3) : State :=
  let size := if is8Bit then 1#16 else 2#16
  s.setWord r
    (if s.flag Rtl.Flag.DF_IDX then s.gprs r - size else s.gprs r + size)

@[simps! -fullyApplied]
def compare (is8Bit : Bool) (x y : BitVec 16) : State :=
  s.setFlags Flag.arithmetic (Arith.cmp.apply is8Bit false x y).2

end State

/-- The state after an instruction, from the one in which `IP` is already at
the next instruction. -/
def Operation.exec (s : State) : Operation -> State
  | .push source => s.push ((s.setWord SP (s.gprs SP - 2#16)).value source)
  | .pop d => (s.drop 2#16).take s.top d
  | .pusha =>
      ((((((((s.push (s.gprs AX)).push (s.gprs CX)).push (s.gprs DX)).push
        (s.gprs BX)).push (s.gprs SP)).push (s.gprs BP)).push (s.gprs SI)).push
          (s.gprs DI))
  | .popa =>
      (((((((s.setWord DI s.top).setWord SI (s.above 2#16)).setWord BP
        (s.above 4#16)).setWord BX (s.above 8#16)).setWord DX
          (s.above 10#16)).setWord CX (s.above 12#16)).setWord AX
            (s.above 14#16)).drop 16#16
  | .leave =>
      let s := s.setWord SP (s.gprs BP)
      (s.drop 2#16).setWord BP s.top
  | .mov is8Bit r v => s.setReg is8Bit r v
  | .xchg r => (s.setWord AX (s.gprs r)).setWord r (s.gprs AX)
  | .cbw =>
      s.setWord AX (((s.gprs AX).extractLsb' 0 8).signExtend 16)
  | .cwd => s.setWord DX (BitVec.fill 16 (s.gprs AX).msb)
  | .lahf => s.setReg true AH s.flags
  | .sahf => s.setFlags Flag.low (s.gprs.read true AH)
  | .setalc =>
      s.setReg true AL (BitVec.fill 16 (s.flag Rtl.Flag.CF_IDX))
  | .update mask v => s.setFlags mask v
  | .cmc => s.setFlags Flag.CF (~~~s.flags)
  | .jcc condition displacement => s.jump (s.holds condition) displacement
  | .jcxz displacement => s.jump (s.gprs CX == 0#16) displacement
  | .loop zero displacement =>
      let s := s.setWord CX (s.gprs CX - 1#16)
      s.jump (s.gprs CX != 0#16 &&
        zero.all fun z => s.flag Rtl.Flag.ZF_IDX == z) displacement
  | .jmp displacement => s.jump true displacement
  | .jmpFar cs ip => (s.setSegment .CS cs).goto ip
  | .call displacement => (s.push s.ip).jump true displacement
  | .callFar cs ip =>
      (((s.push (s.segments .CS)).push s.ip).setSegment .CS cs).goto ip
  | .ret discard => (s.drop (2#16 + discard)).goto s.top
  | .retFar discard =>
      ((s.drop (4#16 + discard)).setSegment .CS (s.above 2#16)).goto s.top
  | .int n => s.interrupt n
  | .into => if s.flag Rtl.Flag.OF_IDX then s.interrupt 4#8 else s
  | .iret =>
      (((s.drop 6#16).setFlags Flag.all (s.above 4#16)).setSegment .CS
        (s.above 2#16)).goto s.top
  | .arith op is8Bit v =>
      let out := op.apply is8Bit (s.flag Rtl.Flag.CF_IDX)
        (s.gprs.read is8Bit AX) v
      let s := s.setFlags op.mask out.2
      if op.stores then s.setReg is8Bit AX out.1 else s
  | .count neg r =>
      let out := sum neg (s.gprs r) 1#16 false
      (s.setFlags Flag.counting out.conditions.word).setWord r out.value
  | .load is8Bit offset => s.setReg is8Bit AX (s.element is8Bit .DS offset)
  | .save is8Bit offset =>
      s.place is8Bit .DS offset (s.gprs.read is8Bit AX)
  | .lods is8Bit =>
      (s.advance is8Bit SI).setReg is8Bit AX (s.element is8Bit .DS (s.gprs SI))
  | .stos is8Bit =>
      (s.place is8Bit .ES (s.gprs DI) (s.gprs.read is8Bit AX)).advance is8Bit DI
  | .movs is8Bit =>
      ((s.place is8Bit .ES (s.gprs DI)
        (s.element is8Bit .DS (s.gprs SI))).advance is8Bit SI).advance is8Bit DI
  | .scas is8Bit =>
      (s.compare is8Bit (s.gprs.read is8Bit AX)
        (s.element is8Bit .ES (s.gprs DI))).advance is8Bit DI
  | .cmps is8Bit =>
      ((s.advance is8Bit DI).advance is8Bit SI).compare is8Bit
        (s.element is8Bit .DS (s.gprs SI)) (s.element is8Bit .ES (s.gprs DI))

/-!
## Words in memory
-/

/-- The words that are below the top of the stack after a push. -/
def State.pushes (s : State) (n : Nat) : List (BitVec 16 × BitVec 16) :=
  (List.range n).map fun i =>
    (s.segments .SS, s.gprs SP - BitVec.ofNat 16 (2 * (i + 1)))

/-- The words at the top of the stack. -/
def State.pops (s : State) (n : Nat) : List (BitVec 16 × BitVec 16) :=
  (List.range n).map fun i =>
    (s.segments .SS, s.gprs SP + BitVec.ofNat 16 (2 * i))

/-- The element, if it is a word. -/
def State.wordAt (s : State) (is8Bit : Bool) (n : SR) (offset : BitVec 16) :
    List (BitVec 16 × BitVec 16) :=
  if is8Bit then [] else [(s.segments n, offset)]

/-- The segments and offsets of the words an instruction reads and writes. -/
def Operation.words (s : State) : Operation -> List (BitVec 16 × BitVec 16)
  | .push _ => s.pushes 1
  | .pop _ => s.pops 1
  | .pusha => s.pushes 8
  | .popa => s.pops 8
  | .leave => [(s.segments .SS, s.gprs BP)]
  | .call _ => s.pushes 1
  | .callFar _ _ => s.pushes 2
  | .ret _ => s.pops 1
  | .retFar _ => s.pops 2
  | .int _ => s.pushes 3
  | .into => if s.flag Rtl.Flag.OF_IDX then s.pushes 3 else []
  | .iret => s.pops 3
  | .load is8Bit offset => s.wordAt is8Bit .DS offset
  | .save is8Bit offset => s.wordAt is8Bit .DS offset
  | .lods is8Bit => s.wordAt is8Bit .DS (s.gprs SI)
  | .stos is8Bit => s.wordAt is8Bit .ES (s.gprs DI)
  | .movs is8Bit =>
      s.wordAt is8Bit .DS (s.gprs SI) ++ s.wordAt is8Bit .ES (s.gprs DI)
  | .scas is8Bit => s.wordAt is8Bit .ES (s.gprs DI)
  | .cmps is8Bit =>
      s.wordAt is8Bit .DS (s.gprs SI) ++ s.wordAt is8Bit .ES (s.gprs DI)
  | _ => []

/-- No word goes across the end of memory. -/
def Operation.Fits (op : Operation) (s : State) : Prop :=
  forall p, p ∈ op.words s -> Rtl.Bus.linear p.1 p.2 ≠ 0xfffff#20

/-!
## Encoding
-/

/-- What follows the opcode. -/
inductive Immediate where
  | none
  | byte (v : BitVec 8)
  | word (v : BitVec 16)
  | far (segment offset : BitVec 16)
  deriving DecidableEq, Repr

namespace Immediate

/-- The bytes of a word, the lower one first. -/
def little (v : BitVec 16) : List (BitVec 8) :=
  [v.extractLsb' 0 8, v.extractLsb' 8 8]

def bytes : Immediate -> List (BitVec 8)
  | none => []
  | byte v => [v]
  | word v => little v
  | far segment offset => little offset ++ little segment

end Immediate

/-- The opcode of the byte form with the accumulator and an immediate. -/
def Arith.opcode : Arith -> BitVec 8
  | add => 0x04#8
  | or => 0x0c#8
  | adc => 0x14#8
  | sbb => 0x1c#8
  | and => 0x24#8
  | sub => 0x2c#8
  | xor => 0x34#8
  | cmp => 0x3c#8
  | test => 0xa8#8

/-- The opcode, what follows it, and the instruction that they stand for. -/
inductive Encodes : BitVec 8 -> Immediate -> Operation -> Prop where
  | pushEs : Encodes 0x06#8 .none (.push (.segment .ES))
  | pushCs : Encodes 0x0e#8 .none (.push (.segment .CS))
  | pushSs : Encodes 0x16#8 .none (.push (.segment .SS))
  | pushDs : Encodes 0x1e#8 .none (.push (.segment .DS))
  | popEs : Encodes 0x07#8 .none (.pop (.segment .ES))
  | popSs : Encodes 0x17#8 .none (.pop (.segment .SS))
  | popDs : Encodes 0x1f#8 .none (.pop (.segment .DS))
  | pushWord (r : BitVec 3) :
      Encodes (0x50#8 + r.setWidth 8) .none (.push (.word r))
  | popWord (r : BitVec 3) :
      Encodes (0x58#8 + r.setWidth 8) .none (.pop (.word r))
  | pusha : Encodes 0x60#8 .none .pusha
  | popa : Encodes 0x61#8 .none .popa
  | pushImmediate (v : BitVec 16) :
      Encodes 0x68#8 (.word v) (.push (.value v))
  | pushSigned (v : BitVec 8) :
      Encodes 0x6a#8 (.byte v) (.push (.value (v.signExtend 16)))
  | jcc (condition : BitVec 4) (v : BitVec 8) :
      Encodes (0x70#8 + condition.setWidth 8) (.byte v)
        (.jcc condition (v.signExtend 16))
  | xchg (r : BitVec 3) : Encodes (0x90#8 + r.setWidth 8) .none (.xchg r)
  | cbw : Encodes 0x98#8 .none .cbw
  | cwd : Encodes 0x99#8 .none .cwd
  | callFar (cs ip : BitVec 16) : Encodes 0x9a#8 (.far cs ip) (.callFar cs ip)
  | pushf : Encodes 0x9c#8 .none (.push .flags)
  | popf : Encodes 0x9d#8 .none (.pop .flags)
  | sahf : Encodes 0x9e#8 .none .sahf
  | lahf : Encodes 0x9f#8 .none .lahf
  | movByte (r : BitVec 3) (v : BitVec 8) :
      Encodes (0xb0#8 + r.setWidth 8) (.byte v) (.mov true r (v.setWidth 16))
  | movWord (r : BitVec 3) (v : BitVec 16) :
      Encodes (0xb8#8 + r.setWidth 8) (.word v) (.mov false r v)
  | retDiscard (v : BitVec 16) : Encodes 0xc2#8 (.word v) (.ret v)
  | ret : Encodes 0xc3#8 .none (.ret 0#16)
  | leave : Encodes 0xc9#8 .none .leave
  | retFarDiscard (v : BitVec 16) : Encodes 0xca#8 (.word v) (.retFar v)
  | retFar : Encodes 0xcb#8 .none (.retFar 0#16)
  | int3 : Encodes 0xcc#8 .none (.int 3#8)
  | int (n : BitVec 8) : Encodes 0xcd#8 (.byte n) (.int n)
  | into : Encodes 0xce#8 .none .into
  | iret : Encodes 0xcf#8 .none .iret
  | setalc : Encodes 0xd6#8 .none .setalc
  | loopne (v : BitVec 8) :
      Encodes 0xe0#8 (.byte v) (.loop (some false) (v.signExtend 16))
  | loope (v : BitVec 8) :
      Encodes 0xe1#8 (.byte v) (.loop (some true) (v.signExtend 16))
  | loop (v : BitVec 8) :
      Encodes 0xe2#8 (.byte v) (.loop none (v.signExtend 16))
  | jcxz (v : BitVec 8) : Encodes 0xe3#8 (.byte v) (.jcxz (v.signExtend 16))
  | call (v : BitVec 16) : Encodes 0xe8#8 (.word v) (.call v)
  | jmp (v : BitVec 16) : Encodes 0xe9#8 (.word v) (.jmp v)
  | jmpFar (cs ip : BitVec 16) : Encodes 0xea#8 (.far cs ip) (.jmpFar cs ip)
  | jmpShort (v : BitVec 8) :
      Encodes 0xeb#8 (.byte v) (.jmp (v.signExtend 16))
  | cmc : Encodes 0xf5#8 .none .cmc
  | clc : Encodes 0xf8#8 .none (.update Flag.CF 0#16)
  | stc : Encodes 0xf9#8 .none (.update Flag.CF 0xffff#16)
  | cli : Encodes 0xfa#8 .none (.update Flag.IF 0#16)
  | sti : Encodes 0xfb#8 .none (.update Flag.IF 0xffff#16)
  | cld : Encodes 0xfc#8 .none (.update Flag.DF 0#16)
  | std : Encodes 0xfd#8 .none (.update Flag.DF 0xffff#16)
  | arithByte (op : Arith) (v : BitVec 8) :
      Encodes op.opcode (.byte v) (.arith op true (v.setWidth 16))
  | arithWord (op : Arith) (v : BitVec 16) :
      Encodes (op.opcode + 1#8) (.word v) (.arith op false v)
  | inc (r : BitVec 3) :
      Encodes (0x40#8 + r.setWidth 8) .none (.count false r)
  | dec (r : BitVec 3) :
      Encodes (0x48#8 + r.setWidth 8) .none (.count true r)
  | loadByte (v : BitVec 16) : Encodes 0xa0#8 (.word v) (.load true v)
  | loadWord (v : BitVec 16) : Encodes 0xa1#8 (.word v) (.load false v)
  | saveByte (v : BitVec 16) : Encodes 0xa2#8 (.word v) (.save true v)
  | saveWord (v : BitVec 16) : Encodes 0xa3#8 (.word v) (.save false v)
  | movsb : Encodes 0xa4#8 .none (.movs true)
  | movsw : Encodes 0xa5#8 .none (.movs false)
  | cmpsb : Encodes 0xa6#8 .none (.cmps true)
  | cmpsw : Encodes 0xa7#8 .none (.cmps false)
  | stosb : Encodes 0xaa#8 .none (.stos true)
  | stosw : Encodes 0xab#8 .none (.stos false)
  | lodsb : Encodes 0xac#8 .none (.lods true)
  | lodsw : Encodes 0xad#8 .none (.lods false)
  | scasb : Encodes 0xae#8 .none (.scas true)
  | scasw : Encodes 0xaf#8 .none (.scas false)

/-- The opcodes of the instructions. -/
def opcodes : List (BitVec 8) :=
  ([0x04, 0x05, 0x06, 0x07, 0x0c, 0x0d, 0x0e, 0x14, 0x15, 0x16, 0x17, 0x1c,
    0x1d, 0x1e, 0x1f, 0x24, 0x25, 0x2c, 0x2d, 0x34, 0x35, 0x3c, 0x3d] ++
    List.range' 0x40 0x22 ++ [0x68, 0x6a] ++ List.range' 0x70 0x10 ++
    List.range' 0x90 0x0b ++ List.range' 0x9c 0x24 ++ [0xc2, 0xc3] ++
    List.range' 0xc9 0x07 ++ [0xd6, 0xe0, 0xe1, 0xe2, 0xe3, 0xe8, 0xe9, 0xea,
    0xeb, 0xf5] ++ List.range' 0xf8 0x06).map (BitVec.ofNat 8)

theorem Encodes.mem_opcodes {opcode : BitVec 8} {immediate : Immediate}
    {op : Operation} (h : Encodes opcode immediate op) : opcode ∈ opcodes := by
  have hregister (r : BitVec 3) : 0x40#8 + r.setWidth 8 ∈ opcodes ∧
      0x48#8 + r.setWidth 8 ∈ opcodes ∧ 0x50#8 + r.setWidth 8 ∈ opcodes ∧
      0x58#8 + r.setWidth 8 ∈ opcodes ∧ 0x90#8 + r.setWidth 8 ∈ opcodes ∧
      0xb0#8 + r.setWidth 8 ∈ opcodes ∧ 0xb8#8 + r.setWidth 8 ∈ opcodes := by
    revert r
    decide +kernel
  cases h with
  | inc r => exact (hregister r).1
  | dec r => exact (hregister r).2.1
  | pushWord r => exact (hregister r).2.2.1
  | popWord r => exact (hregister r).2.2.2.1
  | xchg r => exact (hregister r).2.2.2.2.1
  | movByte r v => exact (hregister r).2.2.2.2.2.1
  | movWord r v => exact (hregister r).2.2.2.2.2.2
  | jcc condition v =>
      clear v
      revert condition
      decide +kernel
  | arithByte op v => cases op <;> decide +kernel
  | arithWord op v => cases op <;> decide +kernel
  | _ => decide +kernel

end Isa
end S80x86
