import S80x86.Foundation.Bits

/-!
# The immediate reader

Collects one or two bytes from the prefetch FIFO and presents them as a
sign-extended byte or a little-endian word.
-/

namespace S80x86
namespace Rtl

namespace ImmediateReader

structure Inputs where
  reset : Bool
  start : Bool
  flush : Bool
  is8bit : Bool
  fifoRdData : BitVec 8
  fifoEmpty : Bool

end ImmediateReader

structure ImmediateReader where
  immediateBuf : BitVec 16
  bytesRead : BitVec 2
  fetchBusy : Bool
  deriving DecidableEq, Repr

namespace ImmediateReader

open Foundation.Bits

def numBytes (i : Inputs) : BitVec 2 := if i.is8bit then 1#2 else 2#2

def complete (i : Inputs) (s : ImmediateReader) : Bool :=
  if i.reset then false
  else s.bytesRead == numBytes i - 1#2 && !i.fifoEmpty &&
    (i.start || s.fetchBusy)

def fetching (i : Inputs) (s : ImmediateReader) : Bool :=
  s.fetchBusy && !complete i s

def fifoRdEn (i : Inputs) (s : ImmediateReader) : Bool :=
  !i.fifoEmpty && (i.start || (fetching i s && !complete i s))

def immediate (i : Inputs) (s : ImmediateReader) : BitVec 16 :=
  if s.bytesRead == 0#2 && !i.fifoEmpty && i.start then
    i.fifoRdData.signExtend 16
  else if s.bytesRead == 1#2 && !i.fifoEmpty && !i.is8bit then
    i.fifoRdData.setWidth 16 <<< 8 |||
      (s.immediateBuf.extractLsb' 0 8).setWidth 16
  else s.immediateBuf

def nextBytesRead (i : Inputs) (s : ImmediateReader) : BitVec 2 :=
  if i.reset then 0#2
  else if fifoRdEn i s && !complete i s && !i.flush then s.bytesRead + 1#2
  else if (i.start && !s.fetchBusy) || complete i s || i.flush then 0#2
  else s.bytesRead

def nextImmediateBuf (i : Inputs) (s : ImmediateReader) : BitVec 16 :=
  if i.reset then 0#16
  else if i.flush then 0#16
  else
    let buf := if i.start && !s.fetchBusy then 0#16 else s.immediateBuf
    if s.bytesRead == 0#2 && !i.fifoEmpty && i.start then
      let low := setSlice buf 0 8 i.fifoRdData
      if i.is8bit then setSlice low 8 8 (BitVec.fill 8 (i.fifoRdData.getLsbD 7))
      else low
    else if s.bytesRead == 1#2 && !i.fifoEmpty then
      setSlice buf 8 8 i.fifoRdData
    else buf

/-- One clock edge. -/
def step (i : Inputs) (s : ImmediateReader) : ImmediateReader :=
  { immediateBuf := nextImmediateBuf i s
    bytesRead := nextBytesRead i s
    fetchBusy :=
      if i.reset then false
      else if complete i s || i.flush then false
      else if i.start then true
      else s.fetchBusy }

end ImmediateReader
end Rtl
end S80x86
