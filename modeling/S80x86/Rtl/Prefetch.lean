import S80x86.Rtl.Bus

/-!
# The prefetcher

The prefetcher reads words from the instruction bus and pushes their bytes into
the instruction stream FIFO.  A jump loads a new address and resets the FIFO;
an access that is in flight at that moment is aborted and its data dropped.
-/

namespace S80x86
namespace Rtl

namespace Prefetch

structure Inputs where
  reset : Bool
  newCs : BitVec 16
  newIp : BitVec 16
  loadNewIp : Bool
  fifoFull : Bool
  memAck : Bool
  memData : BitVec 16
  deriving DecidableEq, Repr

end Prefetch

structure Prefetch where
  nextFetchAddress : BitVec 16
  fetchAddress : BitVec 16
  nextCs : BitVec 16
  cs : BitVec 16
  abortCur : Bool
  fetchedHighByte : BitVec 8
  writeSecond : Bool
  nextSequentialFetch : BitVec 16
  /-- The registered bus address. -/
  memAddress : BitVec 19
  memAccess2 : Bool
  deriving DecidableEq, Repr

namespace Prefetch

/-!
## Wires
-/

def memAccess (i : Inputs) (s : Prefetch) : Bool :=
  s.memAccess2 && !i.memAck

def fifoReset (i : Inputs) (s : Prefetch) : Bool :=
  i.loadNewIp || (s.abortCur && i.memAck)

def fifoWrEn (i : Inputs) (s : Prefetch) : Bool :=
  !s.abortCur && !i.loadNewIp && (i.memAck || s.writeSecond)

def fifoWrData (i : Inputs) (s : Prefetch) : BitVec 8 :=
  if i.memAck then
    if s.fetchAddress.getLsbD 0 then i.memData.extractLsb' 8 8
    else i.memData.extractLsb' 0 8
  else s.fetchedHighByte

def shouldWriteSecondByte (i : Inputs) (s : Prefetch) : Bool :=
  i.memAck && !s.abortCur && !s.fetchAddress.getLsbD 0 && !fifoReset i s

def nextAddress (i : Inputs) (s : Prefetch) : BitVec 16 :=
  if i.memAck then s.nextSequentialFetch else s.fetchAddress

def nextMemAccess (i : Inputs) (s : Prefetch) : Bool :=
  !i.reset && !i.fifoFull && !i.memAck && !s.writeSecond &&
    !(!memAccess i s && i.loadNewIp)

/-!
## Registers
-/

def nextAbortCur (i : Inputs) (s : Prefetch) : Bool :=
  if i.reset then false
  else if s.abortCur && i.memAck then false
  else if memAccess i s && i.loadNewIp then true
  else s.abortCur

def nextCsReg (i : Inputs) (s : Prefetch) : BitVec 16 :=
  if i.reset then 0xffff#16
  else if s.abortCur && i.memAck then s.nextCs
  else if i.loadNewIp && !memAccess i s then i.newCs
  else s.cs

def nextFetchAddressReg (i : Inputs) (s : Prefetch) : BitVec 16 :=
  if i.reset then 0#16
  else if s.abortCur && i.memAck then s.nextFetchAddress
  else if i.loadNewIp && !memAccess i s then i.newIp
  else if !s.abortCur && !i.loadNewIp && (i.memAck || s.writeSecond) then
    s.fetchAddress + 1#16
  else s.fetchAddress

/-- One clock edge. -/
def step (i : Inputs) (s : Prefetch) : Prefetch :=
  { nextFetchAddress :=
      if i.reset then 0#16
      else if i.loadNewIp then i.newIp else s.nextFetchAddress
    fetchAddress := nextFetchAddressReg i s
    nextCs :=
      if i.reset then 0xffff#16
      else if i.loadNewIp then i.newCs else s.nextCs
    cs := nextCsReg i s
    abortCur := nextAbortCur i s
    fetchedHighByte :=
      if i.memAck then i.memData.extractLsb' 8 8 else s.fetchedHighByte
    writeSecond := if i.reset then false else shouldWriteSecondByte i s
    nextSequentialFetch := s.fetchAddress + 1#16
    memAddress := Bus.wordAddress s.cs (nextAddress i s)
    memAccess2 := nextMemAccess i s }

end Prefetch
end Rtl
end S80x86
