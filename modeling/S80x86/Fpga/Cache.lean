import S80x86.Fpga.Ram

/-!
# The cache

A direct-mapped write-back cache with lines of eight words.  The number of
lines is a power of two; `k` stands for `index_bits` throughout.
-/

namespace S80x86
namespace Fpga

/-- A word address, `[19:4]` being the line and `[3:1]` the word in it. -/
structure WordAddress where
  line : BitVec 16
  word : BitVec 3
  deriving DecidableEq, Repr

namespace Cache

structure Inputs where
  enabled : Bool
  cAddr : WordAddress
  cDataOut : BitVec 16
  cAccess : Bool
  cWrEn : Bool
  cBytesel : BitVec 2
  mDataIn : BitVec 16
  mAck : Bool

end Cache

structure Cache where
  cMAddr : WordAddress
  lineIdx : BitVec 3
  lineValid : BitVec 3 -> Bool
  busy : Bool
  flushing : Bool
  latchedAddress : WordAddress
  fetchAddress : WordAddress
  updating : Bool
  accessing : Bool
  tagRam : DPRam Nat Nat
  validRam : DPRam Nat Bool
  dirtyRam : DPRam Nat Bool
  lineRam : BlockRam (Nat × BitVec 3)

namespace Cache

section Wires

variable (k : Nat)

/-- `[index_end:index_start]` of a line number. -/
def indexOf (line : BitVec 16) : Nat := line.toNat % 2 ^ k

/-- `[19:tag_start]` of a line number. -/
def tagOf (line : BitVec 16) : Nat := line.toNat / 2 ^ k

/-- The line number with this tag and index. -/
def lineOf (tag index : Nat) : BitVec 16 := BitVec.ofNat 16 (tag * 2 ^ k + index)

def tag (s : Cache) : Nat := s.tagRam.qA

def valid (s : Cache) : Bool := s.validRam.qA

def dirty (s : Cache) : Bool := s.dirtyRam.qA

def cQ (s : Cache) : BitVec 16 := s.lineRam.qA

def tagsMatch (s : Cache) : Bool := s.tag == tagOf k s.fetchAddress.line

def fillingCurrent (s : Cache) : Bool :=
  s.fetchAddress.line == s.latchedAddress.line

def hit (s : Cache) : Bool :=
  s.accessing && ((s.valid && s.tagsMatch k) ||
    (s.busy && s.fillingCurrent && s.lineValid s.fetchAddress.word))

def cAck (enabled mAck : Bool) (s : Cache) : Bool :=
  if enabled then s.accessing && !s.flushing && s.hit k else mAck

def cDataIn (enabled mAck : Bool) (mDataIn : BitVec 16) (s : Cache) :
    BitVec 16 :=
  if enabled then (if s.cAck k enabled mAck then s.cQ else 0#16) else mDataIn

def mAddr (i : Inputs) (s : Cache) : WordAddress :=
  if i.enabled then s.cMAddr else i.cAddr

def mWrEn (i : Inputs) (s : Cache) : Bool :=
  if i.enabled then s.flushing && !i.mAck else i.cWrEn

def mAccess (i : Inputs) (s : Cache) : Bool :=
  if i.enabled then s.busy && !i.mAck else i.cAccess

def mBytesel (i : Inputs) (_ : Cache) : BitVec 2 :=
  if i.enabled then 0b11#2 else i.cBytesel

def mDataOut (i : Inputs) (s : Cache) : BitVec 16 :=
  if i.enabled then s.lineRam.qB else i.cDataOut

def doFlush (s : Cache) : Bool :=
  s.updating && !s.hit k && !s.busy && !s.flushing && s.dirty

def doFill (s : Cache) : Bool :=
  s.updating && !s.hit k && !s.busy && !s.flushing && !s.dirty

def writeLine (i : Inputs) (s : Cache) : Bool := i.mAck && !s.flushing

/-- The last word of a line is being filled in. -/
def lastWord (i : Inputs) (s : Cache) : Bool :=
  !s.flushing && s.lineIdx == 0b111#3 && i.mAck

def writeValid (i : Inputs) (s : Cache) : Bool :=
  s.doFlush k || s.doFill k || lastWord i s

def lineAddress (i : Inputs) (s : Cache) : Nat × BitVec 3 :=
  if i.mAck && s.flushing then
    (indexOf k s.latchedAddress.line, s.cMAddr.word + 1#3)
  else if !s.hit k && !s.flushing && !s.busy && s.dirty then
    (indexOf k s.latchedAddress.line, 0#3)
  else (indexOf k s.latchedAddress.line, s.cMAddr.word)

/-!
## The RAM ports
-/

def tagRamInputs (i : Inputs) (s : Cache) : DPRam.Inputs Nat Nat :=
  { addrA := indexOf k i.cAddr.line
    wrEnA := false
    wdataA := 0
    addrB := indexOf k s.latchedAddress.line
    wrEnB := s.doFill k
    wdataB := tagOf k s.latchedAddress.line }

def validRamInputs (i : Inputs) (s : Cache) : DPRam.Inputs Nat Bool :=
  { addrA := indexOf k i.cAddr.line
    wrEnA := false
    wdataA := false
    addrB := indexOf k s.latchedAddress.line
    wrEnB := s.writeValid k i
    wdataB := if s.doFlush k then false
      else !s.flushing && s.lineIdx == 0b111#3 }

def dirtyRamInputs (i : Inputs) (s : Cache) : DPRam.Inputs Nat Bool :=
  { addrA := indexOf k i.cAddr.line
    wrEnA := s.cAck k i.enabled i.mAck && i.cWrEn
    wdataA := true
    addrB := indexOf k s.latchedAddress.line
    wrEnB := s.doFlush k
    wdataB := false }

def lineRamInputs (i : Inputs) (s : Cache) : BlockRam.Inputs (Nat × BitVec 3) :=
  { addrA := (indexOf k i.cAddr.line, i.cAddr.word)
    wrEnA := s.cAck k i.enabled i.mAck && i.cWrEn && !s.flushing && s.hit k
    beA := i.cBytesel
    wdataA := i.cDataOut
    addrB := s.lineAddress k i
    wrEnB := s.writeLine i
    beB := 0b11#2
    wdataB := i.mDataIn }

/-!
## The registers
-/

/-- The transfer registers after an edge. -/
def transfer (i : Inputs) (s : Cache) : Cache :=
  if i.enabled && i.mAck then
    { s with
      cMAddr := { s.cMAddr with word := s.cMAddr.word + 1#3 }
      lineIdx := s.lineIdx + 1#3
      lineValid :=
        if s.flushing then s.lineValid
        else fun w => if w = s.cMAddr.word then true else s.lineValid w
      busy := if s.lineIdx == 0b111#3 then false else s.busy
      flushing := if s.lineIdx == 0b111#3 && s.flushing then false
        else s.flushing }
  else if i.enabled && s.doFlush k then
    { s with
      cMAddr :=
        { line := lineOf k s.tag (indexOf k s.latchedAddress.line)
          word := 0#3 }
      busy := true
      flushing := true }
  else if i.enabled && s.doFill k then
    { s with
      cMAddr := i.cAddr
      busy := true
      lineValid := fun _ => false }
  else s

/-- One clock edge. -/
def step (i : Inputs) (s : Cache) : Cache :=
  { s.transfer k i with
    accessing := i.cAccess
    latchedAddress :=
      if !s.busy && !s.flushing then i.cAddr else s.latchedAddress
    fetchAddress := i.cAddr
    updating :=
      if s.updating && !(s.doFlush k || s.flushing) then false
      else if i.enabled && !s.busy && !s.flushing && i.cAccess then true
      else s.updating
    tagRam := DPRam.step (s.tagRamInputs k i) s.tagRam
    validRam := DPRam.step (s.validRamInputs k i) s.validRam
    dirtyRam := DPRam.step (s.dirtyRamInputs k i) s.dirtyRam
    lineRam := BlockRam.step (s.lineRamInputs k i) s.lineRam }

end Wires
end Cache
end Fpga
end S80x86
