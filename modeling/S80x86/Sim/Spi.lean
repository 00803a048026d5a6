import Mathlib.Data.List.Basic

/-!
# The SPI card of the simulator

A card in SPI mode that answers every byte with one byte, over a file that
holds the disk image.
-/

namespace S80x86
namespace Sim

/-- The stream of the disk image, with one position for reads and writes. -/
structure DiskImage where
  bytes : Nat -> BitVec 8
  size : Nat
  pos : Nat
  fail : Bool

namespace DiskImage

/-- A stream that has failed stays where it is. -/
def seekg (f : DiskImage) (pos : Nat) : DiskImage :=
  if f.fail then f else { f with pos := pos }

/-- A read at the end fails, and `-1` is stored as a byte. -/
def get (f : DiskImage) : BitVec 8 × DiskImage :=
  if f.fail then (0xff#8, f)
  else if f.pos < f.size then (f.bytes f.pos, { f with pos := f.pos + 1 })
  else (0xff#8, { f with fail := true })

def put (f : DiskImage) (v : BitVec 8) : DiskImage :=
  if f.fail then f
  else
    { f with
      bytes := fun n => if n = f.pos then v else f.bytes n
      size := max f.size (f.pos + 1)
      pos := f.pos + 1 }

end DiskImage

inductive SPIState where
  | STATE_IDLE
  | STATE_RECEIVING
  | STATE_TRANSMITTING
  | STATE_WAIT_FOR_DATA
  | STATE_DO_WRITE_BLOCK
  deriving DecidableEq, Repr

structure SPI where
  controlReg : BitVec 16
  rxVal : BitVec 8
  state : SPIState
  mosiBuf : List (BitVec 8)
  misoBuf : List (BitVec 8)
  diskImage : DiskImage
  doWrite : Bool
  writeCount : Nat

namespace SPI

/-- A new card; a count that the constructor leaves alone is zero. -/
def new (image : DiskImage) : SPI :=
  { controlReg := 0#16, rxVal := 0#8, state := .STATE_IDLE, mosiBuf := []
    misoBuf := [], diskImage := image, doWrite := false, writeCount := 0 }

/-- The argument of a command, most significant byte first. -/
def argument (mosi : List (BitVec 8)) : BitVec 32 :=
  mosi.getD 1 0#8 ++ mosi.getD 2 0#8 ++ mosi.getD 3 0#8 ++ mosi.getD 4 0#8

/-- Read bytes to the end of the answer. -/
def pushData : Nat -> SPI -> SPI
  | 0, s => s
  | n + 1, s =>
      let (b, image) := s.diskImage.get
      pushData n { s with misoBuf := s.misoBuf ++ [b], diskImage := image }

def readBlock (s : SPI) : SPI :=
  -- Padding, R1, padding, start of data
  let s := { s with misoBuf := [0xff#8, 0xff#8, 0x00#8, 0xff#8, 0xfe#8] }
  let s := { s with diskImage := s.diskImage.seekg (argument s.mosiBuf).toNat }
  let s := pushData 512 s
  { s with misoBuf := s.misoBuf ++ [0x77#8, 0x77#8] }

def writeBlock (s : SPI) : SPI :=
  -- Padding, R1, padding, Accepted
  { s with
    misoBuf := [0xff#8, 0x00#8, 0xff#8, 0xff#8, 0x05#8]
    doWrite := true
    writeCount := 0
    diskImage := s.diskImage.seekg (argument s.mosiBuf).toNat }

/-- Prepare the answer to a complete command. -/
def transmitReady (s : SPI) : Bool × SPI :=
  let cmd := s.mosiBuf.getD 0 0#8
  let complete : Bool := 7 ≤ s.mosiBuf.length
  if cmd = 0x77#8 ∨ cmd = 0x40#8 ∨ cmd = 0x48#8 ∨ cmd = 0x50#8 then
    if complete then (true, { s with misoBuf := [0x01#8] }) else (false, s)
  else if cmd = 0x69#8 then
    if complete then (true, { s with misoBuf := [0x00#8] }) else (false, s)
  else if cmd = 0x51#8 then
    if complete then (true, s.readBlock) else (false, s)
  else if cmd = 0x58#8 then
    if complete then (true, s.writeBlock) else (false, s)
  else if cmd = 0x7a#8 then
    if complete then
      (true, { s with misoBuf := [0x01#8, 0x00#8, 0x00#8, 0x00#8, 0x00#8] })
    else (false, s)
  else (true, { s with misoBuf := [0xfe#8] })

def transfer (mosiVal : BitVec 8) (s : SPI) : SPI :=
  match s.state with
  | .STATE_IDLE =>
      let s := { s with doWrite := false }
      let s :=
        if mosiVal != 0xff#8 && !s.controlReg.getLsbD 9 then
          { s with
            state := .STATE_RECEIVING, mosiBuf := s.mosiBuf ++ [mosiVal] }
        else s
      { s with rxVal := 0xff#8 }
  | .STATE_RECEIVING =>
      let s := { s with mosiBuf := s.mosiBuf ++ [mosiVal] }
      let (ready, s) := s.transmitReady
      let s := if ready then { s with state := .STATE_TRANSMITTING } else s
      { s with rxVal := 0xff#8 }
  | .STATE_TRANSMITTING =>
      match s.misoBuf with
      | [] =>
          { s with
            rxVal := 0xff#8
            state := if s.doWrite then .STATE_WAIT_FOR_DATA else .STATE_IDLE
            mosiBuf := [] }
      | b :: rest => { s with rxVal := b, misoBuf := rest }
  | .STATE_WAIT_FOR_DATA =>
      { s with
        rxVal := 0xff#8
        state :=
          if mosiVal = 0xfe#8 then .STATE_DO_WRITE_BLOCK else s.state }
  | .STATE_DO_WRITE_BLOCK =>
      let s' := { s with writeCount := s.writeCount + 1 }
      if s.writeCount < 512 then
        { s' with diskImage := s.diskImage.put mosiVal, rxVal := 0xff#8 }
      else if s.writeCount < 514 then { s' with rxVal := 0xaa#8 }
      else { s' with rxVal := 0x05#8, state := .STATE_IDLE }

/-!
## Ports
-/

def write8 (portNum : BitVec 16) (offs : Nat) (v : BitVec 8) (s : SPI) : SPI :=
  let shift := 8 * offs
  let mask : BitVec 16 := 0xff#16 <<< shift
  if portNum = 0#16 then
    { s with
      controlReg := (s.controlReg &&& ~~~mask) ||| v.setWidth 16 <<< shift }
  else if offs = 0 then s.transfer v
  else s

def write16 (portNum v : BitVec 16) (s : SPI) : SPI :=
  let s := s.write8 portNum 0 (v.setWidth 8)
  s.write8 portNum 1 ((v >>> 8).setWidth 8)

def read8 (portNum : BitVec 16) (offs : Nat) (s : SPI) : BitVec 8 :=
  if portNum = 0#16 then (s.controlReg >>> (8 * offs)).setWidth 8
  else if offs = 0 then s.rxVal
  else 0x00#8

def read16 (portNum : BitVec 16) (s : SPI) : BitVec 16 :=
  (s.read8 portNum 0).setWidth 16 |||
    (s.read8 portNum 1).setWidth 16 <<< 8

/-!
## Exchanges
-/

/-- The answers to some bytes, and the card after them. -/
def exchange : List (BitVec 8) -> SPI -> List (BitVec 8) × SPI
  | [], s => ([], s)
  | v :: rest, s =>
      let s' := s.transfer v
      let (answers, last) := exchange rest s'
      (s'.rxVal :: answers, last)

theorem exchange_cons (v : BitVec 8) (rest : List (BitVec 8)) (s : SPI) :
    exchange (v :: rest) s =
      ((s.transfer v).rxVal :: (exchange rest (s.transfer v)).1,
        (exchange rest (s.transfer v)).2) := rfl

theorem exchange_append (first second : List (BitVec 8)) (s : SPI) :
    exchange (first ++ second) s =
      ((exchange first s).1 ++ (exchange second (exchange first s).2).1,
        (exchange second (exchange first s).2).2) := by
  induction first generalizing s with
  | nil =>
      rfl
  | cons v rest ih =>
      simp only [List.cons_append, exchange_cons, ih]

theorem exchange_length (bytes : List (BitVec 8)) (s : SPI) :
    (exchange bytes s).1.length = bytes.length := by
  induction bytes generalizing s with
  | nil =>
      rfl
  | cons v rest ih =>
      simp [exchange_cons, ih]

end SPI
end Sim
end S80x86
