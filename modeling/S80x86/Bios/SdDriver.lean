import Mathlib.Data.List.Basic
import S80x86.Sim.Spi

/-!
# The SD driver of the BIOS

The driver shifts its transfer buffer through the card and keeps what comes
back from the first byte that is not high. A loop that never ends has no
result, whatever the fuel.
-/

namespace S80x86
namespace Bios

open Sim

def SPI_CONTROL_PORT : BitVec 16 := 0#16
def SPI_TRANSFER_PORT : BitVec 16 := 2#16
def SPI_CS_DEACTIVATE : BitVec 16 := 0x200#16
def R1_ERROR_MASK : BitVec 8 := 0xfe#8
def SD_NCR : Nat := 8
def DATA_START_TOKEN : BitVec 8 := 0xfe#8
def BLOCK_SIZE : Nat := 512
def MAX_DATA_START_OFFS : Nat := 512

/-- The length of the transfer buffer. -/
def bufSize : Nat := 1280

structure Sd where
  spiXferBuf : Nat -> BitVec 8
  sdIsSdhc : Bool
  card : SPI

structure SpiCmd where
  cmd : BitVec 8
  arg0 : BitVec 8
  arg1 : BitVec 8
  arg2 : BitVec 8
  arg3 : BitVec 8
  crc : BitVec 8
  rxDatalen : Nat

namespace Sd

def spiXferBufSet (offs : Nat) (v : BitVec 8) (s : Sd) : Sd :=
  { s with
    spiXferBuf := fun n => if n = offs then v else s.spiXferBuf n }

def spiXferBufGet (offs : Nat) (s : Sd) : BitVec 8 :=
  s.spiXferBuf offs

/-- Set consecutive bytes from an offset on. -/
def fill (offs n : Nat) (v : BitVec 8) (s : Sd) : Sd :=
  { s with
    spiXferBuf := fun i =>
      if offs <= i ∧ i < offs + n then v else s.spiXferBuf i }

/-- Copy consecutive bytes to an offset. -/
def memcpy (offs n : Nat) (src : Nat -> BitVec 8) (s : Sd) : Sd :=
  { s with
    spiXferBuf := fun i =>
      if offs <= i ∧ i < offs + n then src (i - offs) else s.spiXferBuf i }

/-- A write to a port of the card. -/
def outw (port v : BitVec 16) (s : Sd) : Sd :=
  { s with card := s.card.write16 port v }

def inw (port : BitVec 16) (s : Sd) : BitVec 16 :=
  s.card.read16 port

/-- The loop of a transfer: the offsets of the next byte to send and of the
next byte to keep, and whether a byte that is not high has come. -/
def spiXferLoop (len : Nat) (waitForResp : Bool) :
    Nat -> Nat -> Nat -> Bool -> Sd -> Option Sd
  | fuel, src, dst, nonFfByteReceived, s =>
      if dst < len then
        match fuel with
        | 0 => none
        | fuel + 1 =>
            let v :=
              if src < len then (s.spiXferBufGet src).signExtend 16
              else 0x00ff#16
            let src := if src < len then src + 1 else src
            let s := s.outw SPI_TRANSFER_PORT v
            -- Nothing but a write ends the busy state.
            if (s.inw SPI_TRANSFER_PORT).getLsbD 8 then none
            else if !waitForResp && src == len then some s
            else
              let b := (s.inw SPI_TRANSFER_PORT).setWidth 8
              if !nonFfByteReceived && b == 0xff#8 then
                spiXferLoop len waitForResp fuel src dst nonFfByteReceived s
              else
                spiXferLoop len waitForResp fuel src (dst + 1) true
                  (s.spiXferBufSet dst b)
      else some s

def spiXfer (fuel len : Nat) (waitForResp : Bool) (s : Sd) : Option Sd :=
  spiXferLoop len waitForResp fuel 0 0 false s

def sdSendInitialClock (fuel : Nat) (s : Sd) : Option Sd :=
  -- No CS, slow clock
  spiXfer fuel 8 false
    ((s.fill 0 8 0xff#8).outw SPI_CONTROL_PORT
      (SPI_CS_DEACTIVATE ||| 0x1ff#16))

def sdFlushFifo (fuel : Nat) (s : Sd) : Option Sd :=
  spiXfer fuel 8 false
    ((s.fill 0 128 0xff#8).outw SPI_CONTROL_PORT 0x1ff#16)

def spiCommandLen (cmd : SpiCmd) : Nat :=
  1 + 6 + cmd.rxDatalen + SD_NCR

/-- The buffer that sends a command. -/
def putCommand (cmd : SpiCmd) (s : Sd) : Sd :=
  let s := s.spiXferBufSet 0 0xff#8
  let s := s.spiXferBufSet 1 cmd.cmd
  let s := s.spiXferBufSet 2 cmd.arg0
  let s := s.spiXferBufSet 3 cmd.arg1
  let s := s.spiXferBufSet 4 cmd.arg2
  let s := s.spiXferBufSet 5 cmd.arg3
  let s := s.spiXferBufSet 6 cmd.crc
  -- Initialize receive buffer so we don't shift out new, garbage data.
  s.fill 7 (spiCommandLen cmd - 7) 0xff#8

def spiDoCommand (fuel : Nat) (cmd : SpiCmd) (s : Sd) : Option Sd :=
  -- Fast clock, CS enabled.
  spiXfer fuel (spiCommandLen cmd) true
    ((s.putCommand cmd).outw SPI_CONTROL_PORT 0x1#16)

/-- The first byte of the buffer that is not high, with its offset. -/
def findR1Response (s : Sd) : Option (Nat × BitVec 8) :=
  ((List.range bufSize).find? fun i => s.spiXferBufGet i != 0xff#8).map
    fun i => (i, s.spiXferBufGet i)

/-- The offset after the first data start token behind an offset. -/
def findDataStart (r1offs : Nat) (s : Sd) : Option Nat :=
  ((List.range' (r1offs + 1) (bufSize - (r1offs + 1))).find?
    fun i => s.spiXferBufGet i == DATA_START_TOKEN).map fun i => i + 1

/-- The error bits of the response to a command, or an error. -/
def sendCommand (fuel : Nat) (cmd : SpiCmd) (s : Sd) : Option (Int × Sd) := do
  let s ← spiDoCommand fuel cmd s
  match s.findR1Response with
  | none => some (-1, s)
  | some (_, v) => some ((v &&& R1_ERROR_MASK).toNat, s)

def sdSendReset (fuel : Nat) : Sd -> Option (Int × Sd) :=
  sendCommand fuel ⟨0x40#8, 0#8, 0#8, 0#8, 0#8, 0x95#8, 1⟩

def sdSendIfCond (fuel : Nat) : Sd -> Option (Int × Sd) :=
  sendCommand fuel ⟨0x48#8, 0x00#8, 0x00#8, 0x01#8, 0xaa#8, 0x87#8, 1⟩

def sdSendReadOcr (fuel : Nat) (s : Sd) : Option (Int × Sd) := do
  let s ← spiDoCommand fuel ⟨0x7a#8, 0#8, 0#8, 0#8, 0#8, 0#8, 5⟩ s
  match s.findR1Response with
  | none => some (-1, s)
  | some (r1, v) =>
      let ocr : BitVec 32 :=
        s.spiXferBufGet (r1 + 1) ++ s.spiXferBufGet (r1 + 2) ++
          s.spiXferBufGet (r1 + 3) ++ s.spiXferBufGet (r1 + 4)
      some ((v &&& R1_ERROR_MASK).toNat,
        { s with sdIsSdhc := ocr.getLsbD 30 })

def sendAcmd (fuel : Nat) : Sd -> Option (Int × Sd) :=
  sendCommand fuel ⟨0x77#8, 0#8, 0#8, 0#8, 0#8, 0#8, 1⟩

/-- One round of waiting, and what follows when the card is not ready. -/
def sdWaitRound (fuel : Nat) (again : Sd -> Option (Int × Sd)) (s : Sd) :
    Option (Int × Sd) := do
  let (rc, s) ← sendAcmd fuel s
  if rc != 0 then some (rc, s)
  else do
    let s ←
      spiDoCommand fuel ⟨0x69#8, 0x40#8, 0x00#8, 0x00#8, 0x00#8, 0#8, 1⟩ s
    match s.findR1Response with
    | none => some (-1, s)
    | some (_, v) =>
        if v &&& R1_ERROR_MASK != 0#8 then
          some ((v &&& R1_ERROR_MASK).toNat, s)
        else if v.getLsbD 0 then again s
        else some (0, s)

def sdWaitReady : Nat -> Sd -> Option (Int × Sd)
  | 0, _ => none
  | fuel + 1, s => sdWaitRound (fuel + 1) (sdWaitReady fuel) s

def sdSetBlocklen (fuel : Nat) : Sd -> Option (Int × Sd) :=
  sendCommand fuel ⟨0x50#8, 0x00#8, 0x00#8, 0x02#8, 0x00#8, 0#8, 1⟩

/-- A step that ends in a panic unless it returns zero. -/
def orPanic (message : String) (r : Option (Int × Sd)) :
    Option (Except String Sd) :=
  r.map fun (rc, s) => if rc != 0 then .error message else .ok s

/-- The next step, unless there was a panic. -/
def andThen (r : Option (Except String Sd))
    (f : Sd -> Option (Except String Sd)) : Option (Except String Sd) :=
  match r with
  | none => none
  | some (.error message) => some (.error message)
  | some (.ok s) => f s

def sdInit (fuel : Nat) (s : Sd) : Option (Except String Sd) := do
  let s ← sdSendInitialClock fuel s
  let s ← sdFlushFifo fuel s
  andThen (orPanic "Failed to reset SD card" (sdSendReset fuel s)) fun s =>
  andThen
    (orPanic "Failed to send interface conditions to SD card"
      (sdSendIfCond fuel s)) fun s =>
  andThen
    (orPanic "Failed to read OCR for SD card" (sdSendReadOcr fuel s)) fun s =>
  andThen
    (orPanic "Failed to wait for SD card init" (sdWaitReady fuel s)) fun s =>
  andThen
    (orPanic "Failed to re-read OCR for SD card"
      (sdSendReadOcr fuel s)) fun s =>
  orPanic "Failed to wait for SD card init" (sdSetBlocklen fuel s)

/-!
## Sectors
-/

/-- The address that stands for a sector on the card. -/
def sectorAddress (sector : BitVec 32) (s : Sd) : BitVec 32 :=
  if s.sdIsSdhc then sector else sector * 512#32

/-- A command with an address, most significant byte first. -/
def addressed (cmd : BitVec 8) (address : BitVec 32) (rxDatalen : Nat) :
    SpiCmd :=
  { cmd := cmd, arg0 := (address >>> 24).setWidth 8
    arg1 := (address >>> 16).setWidth 8, arg2 := (address >>> 8).setWidth 8
    arg3 := address.setWidth 8, crc := 0#8, rxDatalen := rxDatalen }

def sdMakeWriteRequest (fuel : Nat) (address : BitVec 32) :
    Sd -> Option (Int × Sd) :=
  sendCommand fuel (addressed 0x58#8 address 1)

/-- The buffer that sends a block. -/
def putBlock (src : Nat -> BitVec 8) (s : Sd) : Sd :=
  let s := s.spiXferBufSet 0 0xff#8
  let s := s.spiXferBufSet 1 0xfe#8
  let s := s.memcpy 2 512 src
  let s := s.spiXferBufSet (2 + 512) 0x0#8
  let s := s.spiXferBufSet (3 + 512) 0x0#8
  s.spiXferBufSet (4 + 512) 0xff#8

def sdWriteBlock (fuel : Nat) (src : Nat -> BitVec 8) (s : Sd) : Option Sd :=
  spiXfer fuel (5 + 512) true (s.putBlock src)

def writeReceived (packetResponse : BitVec 8) : Bool :=
  packetResponse.getLsbD 0 && (packetResponse >>> 1) &&& 0x7#8 == 0x2#8

def waitForWriteCompletion (fuel : Nat) : Nat -> Sd -> Option (Int × Sd)
  | 0, s => some (-1, s)
  | m + 1, s => do
      let s ← spiXfer fuel 1 true (s.spiXferBufSet 0 0xff#8)
      if s.spiXferBufGet 0 != 0#8 then some (0, s)
      else waitForWriteCompletion fuel m s

/-- Write the bytes at `src` to a sector. -/
def writeSector (fuel : Nat) (sector : BitVec 32) (src : Nat -> BitVec 8)
    (s : Sd) : Option (Int × Sd) := do
  let (rc, s) ← sdMakeWriteRequest fuel (s.sectorAddress sector) s
  if rc != 0 then some (-1, s)
  else do
    let s ← sdWriteBlock fuel src s
    if !writeReceived (s.spiXferBufGet 0) then some (-1, s)
    else waitForWriteCompletion fuel 32768 s

/-- Read a sector to the bytes at `dst`. -/
def readSector (fuel : Nat) (sector : BitVec 32) (dst : Nat -> BitVec 8)
    (s : Sd) : Option (Int × (Nat -> BitVec 8) × Sd) := do
  -- r1, start token, data, CRC16
  let cmd :=
    addressed 0x51#8 (s.sectorAddress sector)
      (1 + 1 + BLOCK_SIZE + 2 + MAX_DATA_START_OFFS)
  let s ← spiDoCommand fuel cmd s
  match s.findR1Response with
  | none => some (-1, dst, s)
  | some (r1offs, v) =>
      if v &&& R1_ERROR_MASK != 0#8 then some (-1, dst, s)
      else
        match s.findDataStart r1offs with
        | none => some (-1, dst, s)
        | some dataStart =>
            some (0,
              fun i =>
                if i < 512 then s.spiXferBufGet (dataStart + i) else dst i, s)

end Sd
end Bios
end S80x86
