import S80x86.Foundation.Runs
import S80x86.Bios.SdDriver
import Mathlib.Data.List.Basic
import Mathlib.Logic.Function.Basic

/-!
# The SD driver and any card

Every byte that is shifted out brings a byte back, and what a card sends is an
arbitrary sequence of bytes.  The driver is written out with every access to
its transfer buffer.
-/

open Foundation

namespace S80x86
namespace Bios
namespace SdAnswers

open Effect

def SPI_CONTROL_PORT : BitVec 16 := 0xfff0#16
def SPI_TRANSFER_PORT : BitVec 16 := 0xfff2#16

/-- What the driver does with its buffer and its ports. -/
inductive Act where
  | get (i : Nat)
  | set (i : Nat)
  /-- Keep the byte with the number `n` that came back. -/
  | keep (i n : Nat)
  /-- Read a byte of a sector. -/
  | copy (i : Nat)
  | outw (port v : BitVec 16)

structure Line where
  fuel : Nat
  answers : Nat -> BitVec 8

structure Driver where
  spiXferBuf : Nat -> BitVec 8
  sdIsSdhc : Bool
  /-- How many bytes have gone over the line. -/
  exchanged : Nat

inductive Stop where
  | endless

abbrev Code (α : Type) := Effect Line Act Stop Driver α

def spiXferBufSet (offs : Nat) (v : BitVec 8) : Code Unit := do
  emit (.set offs)
  modify fun s =>
    { s with spiXferBuf := Function.update s.spiXferBuf offs v }

def spiXferBufGet (offs : Nat) : Code (BitVec 8) := do
  emit (.get offs)
  gets fun s => s.spiXferBuf offs

/-- Send a byte and wait until the port is idle. -/
def shift (v : BitVec 16) : Code Nat := do
  emit (.outw SPI_TRANSFER_PORT v)
  let n ← gets Driver.exchanged
  modify fun s => { s with exchanged := s.exchanged + 1 }
  pure n

/-- The byte that has come back. -/
def inb (n : Nat) : Code (BitVec 8) := do
  let line ← ask
  pure (line.answers n)

def keep (offs n : Nat) (b : BitVec 8) : Code Unit := do
  emit (.keep offs n)
  modify fun s =>
    { s with spiXferBuf := Function.update s.spiXferBuf offs b }

/-!
## Transfers
-/

/-- The byte of the buffer at the offset, or a high byte behind its end. -/
def nextByte (len src : Nat) : Code (BitVec 16) :=
  if src < len then do
    let v ← spiXferBufGet src
    pure (v.signExtend 16)
  else pure 0x00ff#16

def nextSrc (len src : Nat) : Nat := if src < len then src + 1 else src

/-- The loop of a transfer: the offsets of the next byte to send and of the
next byte to keep, and whether a byte that is not high has come. -/
def spiXferLoop (len : Nat) (waitForResp : Bool) :
    Nat -> Nat -> Nat -> Bool -> Code Unit
  | fuel, src, dst, nonFfByteReceived =>
      if dst < len then
        match fuel with
        | 0 => fault .endless
        | fuel + 1 => do
            let v ← nextByte len src
            let n ← shift v
            if !waitForResp && nextSrc len src == len then pure ()
            else do
              let b ← inb n
              if !nonFfByteReceived && b == 0xff#8 then
                spiXferLoop len waitForResp fuel (nextSrc len src) dst
                  nonFfByteReceived
              else do
                keep dst n b
                spiXferLoop len waitForResp fuel (nextSrc len src) (dst + 1)
                  true
      else pure ()

def spiXfer (len : Nat) (waitForResp : Bool) : Code Unit := do
  let line ← ask
  spiXferLoop len waitForResp line.fuel 0 0 false

/-- Store consecutive bytes from an offset on. -/
def store : Nat -> Nat -> (Nat -> BitVec 8) -> Code Unit
  | _, 0, _ => pure ()
  | offs, n + 1, src => do
      spiXferBufSet offs (src 0)
      store (offs + 1) n fun i => src (i + 1)

def fill (offs n : Nat) (v : BitVec 8) : Code Unit := store offs n fun _ => v

def sdSendInitialClock : Code Unit := do
  fill 0 8 0xff#8
  -- No CS, slow clock
  emit (.outw SPI_CONTROL_PORT (SPI_CS_DEACTIVATE ||| 0x1ff#16))
  spiXfer 8 false

def sdFlushFifo : Code Unit := do
  fill 0 128 0xff#8
  -- No CS, slow clock
  emit (.outw SPI_CONTROL_PORT 0x1ff#16)
  spiXfer 8 false

def putCommand (cmd : SpiCmd) : Code Unit := do
  -- The command.
  spiXferBufSet 0 0xff#8
  spiXferBufSet 1 cmd.cmd
  spiXferBufSet 2 cmd.arg0
  spiXferBufSet 3 cmd.arg1
  spiXferBufSet 4 cmd.arg2
  spiXferBufSet 5 cmd.arg3
  spiXferBufSet 6 cmd.crc
  -- Initialize receive buffer so we don't shift out new, garbage data.
  fill 7 (Sd.spiCommandLen cmd - 7) 0xff#8

def spiDoCommand (cmd : SpiCmd) : Code Unit := do
  putCommand cmd
  -- Fast clock, CS enabled.
  emit (.outw SPI_CONTROL_PORT 0x1#16)
  spiXfer (Sd.spiCommandLen cmd) true

/-!
## Responses
-/

/-- The first of `n` bytes from an offset on that is not high. -/
def findR1ResponseFrom : Nat -> Nat -> Code (Option (Nat × BitVec 8))
  | 0, _ => pure none
  | n + 1, i => do
      let b ← spiXferBufGet i
      if b != 0xff#8 then do
        let v ← spiXferBufGet i
        pure (some (i, v))
      else findR1ResponseFrom n (i + 1)

def findR1Response : Code (Option (Nat × BitVec 8)) :=
  findR1ResponseFrom bufSize 0

/-- The byte is read before its offset is compared with the length. -/
def findDataStartFrom (r1offs : Nat) : Code Nat := do
  let b ← spiXferBufGet r1offs
  if h : b ≠ DATA_START_TOKEN ∧ r1offs < bufSize then
    findDataStartFrom (r1offs + 1)
  else pure r1offs
termination_by bufSize - r1offs
decreasing_by
  exact Nat.sub_lt_sub_left h.right (Nat.lt_succ_self r1offs)

def findDataStart (r1offs : Nat) : Code (Option Nat) := do
  let r1offs ← findDataStartFrom (r1offs + 1)
  pure (if r1offs = bufSize then none else some (r1offs + 1))

def errorBits (v : BitVec 8) : Int := (v &&& R1_ERROR_MASK).toNat

/-- The error bits of the response to a command, or an error. -/
def sendCommand (cmd : SpiCmd) : Code Int := do
  spiDoCommand cmd
  let r1 ← findR1Response
  match r1 with
  | none => pure (-1)
  | some (_, v) => pure (errorBits v)

def sdSendReset : Code Int :=
  sendCommand ⟨0x40#8, 0#8, 0#8, 0#8, 0#8, 0x95#8, 1⟩

def sdSendIfCond : Code Int :=
  sendCommand ⟨0x48#8, 0x00#8, 0x00#8, 0x01#8, 0xaa#8, 0x87#8, 1⟩

def sdSendReadOcr : Code Int := do
  spiDoCommand ⟨0x7a#8, 0#8, 0#8, 0#8, 0#8, 0#8, 5⟩
  let r1 ← findR1Response
  match r1 with
  | none => pure (-1)
  | some (r1offs, v) => do
      let u0 ← spiXferBufGet (r1offs + 4)
      let u1 ← spiXferBufGet (r1offs + 3)
      let u2 ← spiXferBufGet (r1offs + 2)
      let u3 ← spiXferBufGet (r1offs + 1)
      let ocr : BitVec 32 := u3 ++ u2 ++ u1 ++ u0
      modify fun s => { s with sdIsSdhc := ocr.getLsbD 30 }
      pure (errorBits v)

def sendAcmd : Code Int :=
  sendCommand ⟨0x77#8, 0#8, 0#8, 0#8, 0#8, 0#8, 1⟩

def sdWaitReadyLoop : Nat -> Code Int
  | 0 => fault .endless
  | fuel + 1 => do
      let rc ← sendAcmd
      if rc ≠ 0 then pure rc
      else do
        spiDoCommand ⟨0x69#8, 0x40#8, 0x00#8, 0x00#8, 0x00#8, 0#8, 1⟩
        let r1 ← findR1Response
        match r1 with
        | none => pure (-1)
        | some (_, v) =>
            if errorBits v ≠ 0 then pure (errorBits v)
            else if v.getLsbD 0 then sdWaitReadyLoop fuel
            else pure 0

def sdWaitReady : Code Int := do
  let line ← ask
  sdWaitReadyLoop line.fuel

def sdSetBlocklen : Code Int :=
  sendCommand ⟨0x50#8, 0x00#8, 0x00#8, 0x02#8, 0x00#8, 0#8, 1⟩

/-- Go on when a command has returned zero, and panic otherwise. -/
def orPanic (command : Code Int) (message : String)
    (rest : Code (Except String Unit)) : Code (Except String Unit) := do
  let rc ← command
  if rc ≠ 0 then pure (.error message) else rest

def sdInit : Code (Except String Unit) := do
  sdSendInitialClock
  sdFlushFifo
  orPanic sdSendReset "Failed to reset SD card"
    (orPanic sdSendIfCond "Failed to send interface conditions to SD card"
      (orPanic sdSendReadOcr "Failed to read OCR for SD card"
        (orPanic sdWaitReady "Failed to wait for SD card init"
          (orPanic sdSendReadOcr "Failed to re-read OCR for SD card"
            (orPanic sdSetBlocklen "Failed to wait for SD card init"
              (pure (.ok ())))))))

/-!
## Sectors
-/

def sectorAddress (sector : BitVec 32) : Code (BitVec 32) :=
  gets fun s => if s.sdIsSdhc then sector else sector * 512#32

def sdMakeWriteRequest (address : BitVec 32) : Code Int :=
  sendCommand (Sd.addressed 0x58#8 address 1)

/-- The buffer that sends a block: a gap, the data start token, the data, the
checksum and the place of the packet response. -/
def putBlock (src : Nat -> BitVec 8) : Code Unit := do
  spiXferBufSet 0 0xff#8
  spiXferBufSet 1 0xfe#8
  store 2 512 src
  spiXferBufSet (2 + 512) 0x0#8
  spiXferBufSet (3 + 512) 0x0#8
  spiXferBufSet (4 + 512) 0xff#8

def sdWriteBlock (src : Nat -> BitVec 8) : Code Unit := do
  putBlock src
  spiXfer (5 + 512) true

def waitForWriteCompletion : Nat -> Code Int
  | 0 => pure (-1)
  | m + 1 => do
      spiXferBufSet 0 0xff#8
      spiXfer 1 true
      let b ← spiXferBufGet 0
      if b ≠ 0#8 then pure 0 else waitForWriteCompletion m

/-- Write the bytes at `src` to a sector. -/
def writeSector (sector : BitVec 32) (src : Nat -> BitVec 8) : Code Int := do
  let address ← sectorAddress sector
  let rc ← sdMakeWriteRequest address
  if rc ≠ 0 then pure (-1)
  else do
    sdWriteBlock src
    let packetResponse ← spiXferBufGet 0
    if ¬ Sd.writeReceived packetResponse then pure (-1)
    else waitForWriteCompletion 32768

/-- The bytes at `dst` after those of the buffer have been copied over. -/
def copySector (offs : Nat) (dst : Nat -> BitVec 8) :
    Code (Nat -> BitVec 8) := fun _ s =>
  ((List.range BLOCK_SIZE).map fun j => .copy (offs + j),
    .ok (fun j => if j < BLOCK_SIZE then s.spiXferBuf (offs + j) else dst j, s))

/-- The command of a read: r1, start token, data, CRC16. -/
def readCommand (address : BitVec 32) : SpiCmd :=
  Sd.addressed 0x51#8 address (1 + 1 + BLOCK_SIZE + 2 + MAX_DATA_START_OFFS)

/-- Without a data start token there is nothing to copy. -/
def copyFound (dst : Nat -> BitVec 8) :
    Option Nat -> Code (Int × (Nat -> BitVec 8))
  | none => pure (-1, dst)
  | some dataStart => do
      let dst ← copySector dataStart dst
      pure (0, dst)

def readResponse (dst : Nat -> BitVec 8) :
    Option (Nat × BitVec 8) -> Code (Int × (Nat -> BitVec 8))
  | none => pure (-1, dst)
  | some (r1offs, v) =>
      if errorBits v ≠ 0 then pure (-1, dst)
      else do
        let dataStart ← findDataStart r1offs
        copyFound dst dataStart

/-- Read a sector to the bytes at `dst`. -/
def readSector (sector : BitVec 32) (dst : Nat -> BitVec 8) :
    Code (Int × (Nat -> BitVec 8)) := do
  let address ← sectorAddress sector
  spiDoCommand (readCommand address)
  let r1 ← findR1Response
  readResponse dst r1

end SdAnswers
end Bios
end S80x86
