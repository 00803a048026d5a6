import S80x86.Rtl.Instruction

/-!
# The instruction decoder

Reads prefixes, opcode and ModRM byte straight from the prefetch FIFO and
starts the immediate reader for the displacement and the immediates.
-/

namespace S80x86
namespace Rtl

inductive DecoderState where
  | STATE_OPCODE
  | STATE_MODRM
  | STATE_DISPLACEMENT
  | STATE_IMMED1
  | STATE_IMMED2
  | STATE_WAIT_SPACE
  deriving DecidableEq, Repr

namespace InsnDecoder

structure Inputs where
  reset : Bool
  flush : Bool
  stall : Bool
  nearlyFull : Bool
  fifoRdData : BitVec 8
  fifoEmpty : Bool
  immedComplete : Bool
  immediate : BitVec 16

end InsnDecoder

structure InsnDecoder where
  state : DecoderState
  instruction : Instruction
  complete : Bool
  immedStart : Bool
  immedIs8bit : Bool
  deriving DecidableEq, Repr

namespace InsnDecoder

variable (T : OpcodeTable)

def fifoRdEn (i : Inputs) (s : InsnDecoder) : Bool :=
  !i.reset && !i.fifoEmpty && !s.immedStart && s.state != .STATE_WAIT_SPACE

/-- The immediates of the instruction held in the record. -/
def recordImmedCount (s : InsnDecoder) : BitVec 2 :=
  T.insnImmedCount s.instruction.opcode s.instruction.reg

def insnComplete (i : Inputs) (s : InsnDecoder) : Bool :=
  match s.state with
  | .STATE_OPCODE =>
      (!i.fifoEmpty && !isPrefix i.fifoRdData &&
        !T.insnHasModrm i.fifoRdData &&
        T.insnImmedCount i.fifoRdData 0#3 == 0#2) || s.instruction.invalid
  | .STATE_MODRM =>
      !i.fifoEmpty && !hasDisplacement i.fifoRdData &&
        T.insnImmedCount s.instruction.opcode
          (i.fifoRdData.extractLsb' 3 3) == 0#2
  | .STATE_DISPLACEMENT => i.immedComplete && recordImmedCount T s == 0#2
  | .STATE_IMMED1 => recordImmedCount T s == 1#2 && i.immedComplete
  | .STATE_IMMED2 => i.immedComplete
  | .STATE_WAIT_SPACE => false

def nextInstr (i : Inputs) (s : InsnDecoder) : DecoderState :=
  if (i.nearlyFull || i.stall) && insnComplete T i s then .STATE_WAIT_SPACE
  else .STATE_OPCODE

def nextState (i : Inputs) (s : InsnDecoder) : DecoderState :=
  if i.reset || i.flush then .STATE_OPCODE
  else
    match s.state with
    | .STATE_OPCODE =>
        if i.fifoEmpty then .STATE_OPCODE
        else if isPrefix i.fifoRdData then .STATE_OPCODE
        else if T.insnHasModrm i.fifoRdData then .STATE_MODRM
        else if T.insnImmedCount i.fifoRdData 0#3 != 0#2 then .STATE_IMMED1
        else if insnComplete T i s then nextInstr T i s
        else .STATE_OPCODE
    | .STATE_MODRM =>
        if i.fifoEmpty then .STATE_MODRM
        else if hasDisplacement i.fifoRdData then .STATE_DISPLACEMENT
        else if T.insnImmedCount s.instruction.opcode
            (i.fifoRdData.extractLsb' 3 3) != 0#2 then .STATE_IMMED1
        else nextInstr T i s
    | .STATE_DISPLACEMENT =>
        if i.immedComplete then
          if recordImmedCount T s != 0#2 then .STATE_IMMED1
          else nextInstr T i s
        else .STATE_DISPLACEMENT
    | .STATE_IMMED1 =>
        if i.immedComplete then
          if recordImmedCount T s == 2#2 then .STATE_IMMED2
          else nextInstr T i s
        else .STATE_IMMED1
    | .STATE_IMMED2 =>
        if i.immedComplete then nextInstr T i s else .STATE_IMMED2
    | .STATE_WAIT_SPACE =>
        if i.stall then .STATE_WAIT_SPACE else .STATE_OPCODE

/-- The number of bytes the immediate reader has just delivered. -/
def immedBytes (s : InsnDecoder) : Nat := if s.immedIs8bit then 1 else 2

/-- The registers after an edge without reset and flush. -/
def advance (i : Inputs) (s : InsnDecoder) : InsnDecoder :=
  let next := nextState T i s
  -- A record that is being written to the FIFO is cleared in the same cycle.
  let cleared := s.complete && !i.stall
  let record := if cleared then Instruction.zero else s.instruction
  let s' : InsnDecoder :=
    { s with
      state := next
      instruction := record
      complete :=
        if insnComplete T i s then true
        else if cleared then false
        else s.complete }
  match s.state with
  | .STATE_OPCODE =>
      if i.fifoEmpty then s'
      else
        let latched := latchOpcode T record i.fifoRdData
        { s' with
          instruction :=
            if s.complete then { latched with length := 1#4 }
            else
              let sum := s.instruction.addLength 1
              { latched with invalid := sum.invalid, length := sum.length }
          immedStart := if next = .STATE_IMMED1 then true else s.immedStart
          immedIs8bit :=
            if next = .STATE_IMMED1 then
              T.insnImmedIs8bit i.fifoRdData 0#3 false
            else s.immedIs8bit }
  | .STATE_MODRM =>
      let instruction :=
        if i.fifoEmpty then record
        else
          let sum := s.instruction.addLength 1
          { record with
            invalid := sum.invalid, length := sum.length
            modRm := i.fifoRdData }
      if next = .STATE_DISPLACEMENT then
        { s' with
          instruction := instruction
          immedStart := true
          immedIs8bit := i.fifoRdData.extractLsb' 6 2 == 0b01#2 }
      else if next = .STATE_IMMED1 then
        { s' with
          instruction := instruction
          immedStart := true
          immedIs8bit := T.insnImmedIs8bit s.instruction.opcode
            (i.fifoRdData.extractLsb' 3 3) false }
      else { s' with instruction := instruction }
  | .STATE_DISPLACEMENT =>
      let s'' : InsnDecoder :=
        if i.immedComplete then
          let sum := s.instruction.addLength (immedBytes s)
          { s' with
            instruction :=
              { record with
                invalid := sum.invalid, length := sum.length
                displacement := i.immediate }
            immedStart := false }
        else s'
      if next = .STATE_IMMED1 then
        { s'' with
          immedStart := true
          immedIs8bit := T.insnImmedIs8bit s.instruction.opcode
            s.instruction.reg false }
      else s''
  | .STATE_IMMED1 =>
      let s'' : InsnDecoder :=
        if i.immedComplete then
          let sum := s.instruction.addLength (immedBytes s)
          { s' with
            instruction :=
              { record with
                invalid := sum.invalid, length := sum.length
                immediates0 := i.immediate }
            immedStart := false }
        else s'
      if next = .STATE_IMMED2 then
        { s'' with
          immedStart := true
          immedIs8bit := T.insnImmedIs8bit s.instruction.opcode
            s.instruction.reg true }
      else s''
  | .STATE_IMMED2 =>
      if i.immedComplete then
        let sum := s.instruction.addLength (immedBytes s)
        { s' with
          instruction :=
            { record with
              invalid := sum.invalid, length := sum.length
              immediates1 := i.immediate }
          immedStart := false }
      else s'
  | .STATE_WAIT_SPACE => s'

/-- One clock edge. -/
def step (i : Inputs) (s : InsnDecoder) : InsnDecoder :=
  if i.reset || i.flush then
    { s with
      state := .STATE_OPCODE
      instruction := .zero
      complete := false
      immedStart := false }
  else advance T i s

end InsnDecoder
end Rtl
end S80x86
