import S80x86.Foundation.Clocked
import S80x86.Rtl.Fifo
import S80x86.Rtl.ImmediateReader
import S80x86.Rtl.InsnDecoder
import S80x86.Rtl.OpcodeTable
import S80x86.Rtl.Parser

/-!
# The decoder against the parser

The decoder, the immediate reader and the instruction FIFO as the core wires
them, fed from a byte stream through a FIFO that may be empty in any cycle.  The
records written since the last flush are the ones the parser finds in the bytes
taken since then, whatever the pattern of empty and full FIFOs was.
-/

namespace S80x86
namespace Rtl
namespace DecoderStream

open Foundation.Clocked
open S80x86.Rtl.Parser

/-!
## The wiring
-/

structure System where
  decoder : InsnDecoder
  reader : ImmediateReader
  fifo : Fifo Instruction
  /-- The bytes prefetched since the last flush and how many were taken. -/
  stream : Nat -> Byte
  consumed : Nat
  /-- The records written to the instruction FIFO since the last flush. -/
  written : List Instruction

structure Cycle where
  reset : Bool
  flush : Bool
  /-- The stream that follows a reset or a flush. -/
  newStream : Nat -> Byte
  fifoEmpty : Bool
  /-- What the read port shows while the prefetch FIFO is empty. -/
  staleData : Byte
  instructionFifoRdEn : Bool

def Cycle.restarts (c : Cycle) : Bool := c.reset || c.flush

/-- The parameters of the instruction FIFO. -/
def instructionFifo : Fifo.Params := { depth := 4, fullThreshold := 1 }

namespace System

variable (T : OpcodeTable)

def fifoRdData (c : Cycle) (s : System) : Byte :=
  if c.fifoEmpty then c.staleData else s.stream s.consumed

def readerInputs (c : Cycle) (s : System) : ImmediateReader.Inputs :=
  { reset := c.reset
    start := s.decoder.immedStart
    flush := c.flush
    is8bit := s.decoder.immedIs8bit
    fifoRdData := s.fifoRdData c
    fifoEmpty := c.fifoEmpty }

def decoderInputs (c : Cycle) (s : System) : InsnDecoder.Inputs :=
  { reset := c.reset
    flush := c.flush
    stall := s.fifo.full instructionFifo
    nearlyFull := s.fifo.nearlyFull instructionFifo
    fifoRdData := s.fifoRdData c
    fifoEmpty := c.fifoEmpty
    immedComplete := ImmediateReader.complete (s.readerInputs c) s.reader
    immediate := ImmediateReader.immediate (s.readerInputs c) s.reader }

/-- The read enable of the prefetch FIFO. -/
def fifoRdEn (c : Cycle) (s : System) : Bool :=
  InsnDecoder.fifoRdEn (s.decoderInputs c) s.decoder ||
    ImmediateReader.fifoRdEn (s.readerInputs c) s.reader

def fifoInputs (c : Cycle) (s : System) : Fifo.Inputs Instruction :=
  { reset := c.reset
    flush := c.flush
    wrEn := s.decoder.complete
    wrData := s.decoder.instruction
    rdEn := c.instructionFifoRdEn }

/-- The record the decoder is about to write. -/
def pending (s : System) : List Instruction :=
  if s.decoder.complete then [s.decoder.instruction] else []

/-- One clock edge. -/
def step (c : Cycle) (s : System) : System :=
  { decoder := InsnDecoder.step T (s.decoderInputs c) s.decoder
    reader := ImmediateReader.step (s.readerInputs c) s.reader
    fifo := Fifo.step instructionFifo (s.fifoInputs c) s.fifo
    stream := if c.restarts then c.newStream else s.stream
    consumed :=
      if c.restarts then 0
      else if s.fifoRdEn c && !c.fifoEmpty then s.consumed + 1
      else s.consumed
    written :=
      if c.restarts then []
      else if s.decoder.complete && !s.fifo.full instructionFifo then
        s.written ++ [s.decoder.instruction]
      else s.written }

/-- The bytes taken from the prefetch FIFO since the last flush. -/
def consumedBytes (s : System) : List Byte :=
  (List.range s.consumed).map s.stream

end System

/-!
## The immediate reader
-/

section Reader

variable {r : ImmediateReader} {i : ImmediateReader.Inputs}

/-- The low byte of a word whose high byte is still to come. -/
def lowByte (r : ImmediateReader) : List Byte :=
  if r.bytesRead = 1#2 then [r.immediateBuf.extractLsb' 0 8] else []

/-- Nothing read yet, or one byte of a word. -/
structure ReaderReady (start is8bit : Bool) (r : ImmediateReader) : Prop where
  idle : start = false -> r.fetchBusy = false ∧ r.bytesRead = 0#2
  bytes : r.bytesRead = 0#2 ∨
    (r.bytesRead = 1#2 ∧ is8bit = false ∧ r.fetchBusy = true)

theorem lowByte_of_zero (h : r.bytesRead = 0#2) : lowByte r = [] := by
  simp [lowByte, h]

theorem lowByte_of_one (h : r.bytesRead = 1#2) :
    lowByte r = [r.immediateBuf.extractLsb' 0 8] := by
  simp [lowByte, h]

/-- Without a byte, or when not started, the reader waits. -/
theorem reader_waits (hready : ReaderReady i.start i.is8bit r)
    (hreset : i.reset = false) (hflush : i.flush = false)
    (hwait : i.fifoEmpty = true ∨ i.start = false) :
    ImmediateReader.fifoRdEn i r = false ∧
      ImmediateReader.complete i r = false ∧
      lowByte (ImmediateReader.step i r) = lowByte r ∧
      ReaderReady i.start i.is8bit (ImmediateReader.step i r) := by
  have hcomplete : ImmediateReader.complete i r = false := by
    rcases hwait with hempty | hstart
    · simp [ImmediateReader.complete, hempty]
    · simp [ImmediateReader.complete, hstart, (hready.idle hstart).left]
  have hread : ImmediateReader.fifoRdEn i r = false := by
    rcases hwait with hempty | hstart
    · simp [ImmediateReader.fifoRdEn, hempty]
    · simp [ImmediateReader.fifoRdEn, ImmediateReader.fetching, hstart,
        (hready.idle hstart).left]
  have hbytes : (ImmediateReader.step i r).bytesRead = r.bytesRead := by
    simp only [ImmediateReader.step, ImmediateReader.nextBytesRead, hreset,
      hread, hcomplete, hflush]
    rcases hready.bytes with hzero | ⟨_, _, hbusy⟩
    · simp [hzero]
    · simp [hbusy]
  have hbusy : (ImmediateReader.step i r).fetchBusy =
      (i.start || r.fetchBusy) := by
    cases hstart : i.start <;>
      simp [ImmediateReader.step, hreset, hcomplete, hflush, hstart]
  refine ⟨hread, hcomplete, ?_, ?_, ?_⟩
  · rcases hready.bytes with hzero | ⟨hone, _, hfetch⟩
    · rw [lowByte_of_zero hzero, lowByte_of_zero (hbytes.trans hzero)]
    · rw [lowByte_of_one hone, lowByte_of_one (hbytes.trans hone)]
      have hempty : i.fifoEmpty = true := by
        rcases hwait with hempty | hstart
        · exact hempty
        · simp [(hready.idle hstart).left] at hfetch
      simp [ImmediateReader.step, ImmediateReader.nextImmediateBuf, hreset,
        hflush, hempty, hfetch]
  · intro hstart
    have hidle := hready.idle hstart
    exact ⟨by simp [hbusy, hstart, hidle.left], hbytes.trans hidle.right⟩
  · rcases hready.bytes with hzero | ⟨hone, h8, hfetch⟩
    · exact Or.inl (hbytes.trans hzero)
    · exact Or.inr ⟨hbytes.trans hone, h8, by simp [hbusy, hfetch]⟩

/--
A started reader takes the byte at the head of the FIFO: either the immediate
is complete with it or it is the low byte of a word.
-/
theorem reader_takes (hready : ReaderReady i.start i.is8bit r)
    (hreset : i.reset = false) (hflush : i.flush = false)
    (hstart : i.start = true) (hempty : i.fifoEmpty = false) :
    ImmediateReader.fifoRdEn i r = true ∧
      ((ImmediateReader.complete i r = true ∧
          (forall rest, takeImmediate i.is8bit
            (lowByte r ++ i.fifoRdData :: rest) =
              some (ImmediateReader.immediate i r, rest)) ∧
          (lowByte r).length + 1 = immediateBytes i.is8bit ∧
          (ImmediateReader.step i r).bytesRead = 0#2 ∧
          (ImmediateReader.step i r).fetchBusy = false) ∨
        (ImmediateReader.complete i r = false ∧
          lowByte (ImmediateReader.step i r) = lowByte r ++ [i.fifoRdData] ∧
          ReaderReady i.start i.is8bit (ImmediateReader.step i r))) := by
  refine ⟨by simp [ImmediateReader.fifoRdEn, hstart, hempty], ?_⟩
  rcases hready.bytes with hzero | ⟨hone, h8, hbusy⟩
  · cases h8 : i.is8bit with
    | true =>
        have hcomplete : ImmediateReader.complete i r = true := by
          simp [ImmediateReader.complete, ImmediateReader.numBytes, hreset,
            hzero, h8, hempty, hstart]
        refine Or.inl ⟨hcomplete, ?_, ?_, ?_, ?_⟩
        · intro rest
          simp [lowByte_of_zero hzero, takeImmediate,
            ImmediateReader.immediate, hzero, hempty, hstart]
        · simp [lowByte_of_zero hzero, immediateBytes]
        · simp [ImmediateReader.step, ImmediateReader.nextBytesRead, hreset,
            hcomplete]
        · simp [ImmediateReader.step, hreset, hcomplete]
    | false =>
        have hcomplete : ImmediateReader.complete i r = false := by
          simp [ImmediateReader.complete, ImmediateReader.numBytes, hreset,
            hzero, h8]
        have hbytes : (ImmediateReader.step i r).bytesRead = 1#2 := by
          simp [ImmediateReader.step, ImmediateReader.nextBytesRead,
            ImmediateReader.fifoRdEn, hreset, hcomplete, hflush, hzero, hempty,
            hstart]
        refine Or.inr ⟨hcomplete, ?_, ?_, ?_⟩
        · rw [lowByte_of_one hbytes, lowByte_of_zero hzero]
          simp [ImmediateReader.step, ImmediateReader.nextImmediateBuf, hreset,
            hflush, hzero, hempty, hstart, h8,
            Foundation.Bits.extractLsb'_setSlice]
        · simp [hstart]
        · exact Or.inr ⟨hbytes, rfl, by
            simp [ImmediateReader.step, hreset, hcomplete, hflush, hstart]⟩
  · have hcomplete : ImmediateReader.complete i r = true := by
      simp [ImmediateReader.complete, ImmediateReader.numBytes, hreset, hone,
        h8, hempty, hstart]
    refine Or.inl ⟨hcomplete, ?_, ?_, ?_, ?_⟩
    · intro rest
      simp [lowByte_of_one hone, takeImmediate, ImmediateReader.immediate,
        hone, hempty, h8]
    · simp [lowByte_of_one hone, immediateBytes, h8]
    · simp [ImmediateReader.step, ImmediateReader.nextBytesRead, hreset,
        hcomplete]
    · simp [ImmediateReader.step, hreset, hcomplete]

end Reader

/-!
## The decoder
-/

section Decoder

variable (T : OpcodeTable) {d : InsnDecoder} {i : InsnDecoder.Inputs}

/-- The record under construction: empty while a finished one is written. -/
def record (d : InsnDecoder) : Instruction :=
  if d.complete then .zero else d.instruction

/-- What the parser still has to do for the record under construction. -/
def resume (d : InsnDecoder) (rest : List Byte) :
    Option (Instruction × List Byte) :=
  match d.state with
  | .STATE_OPCODE => parseInstruction T (record d) rest
  | .STATE_MODRM => parseModrm T (record d) rest
  | .STATE_DISPLACEMENT => parseDisplacement T (record d) rest
  | .STATE_IMMED1 => parseImmed1 T (record d) rest
  | .STATE_IMMED2 => parseImmed2 T (record d) rest
  | .STATE_WAIT_SPACE => parseInstruction T (record d) rest

/-- Whether the immediate that the state waits for is a single byte. -/
def stageIs8bit (d : InsnDecoder) : Bool :=
  match d.state with
  | .STATE_DISPLACEMENT => displacementIs8bit d.instruction.modRm
  | .STATE_IMMED1 =>
      T.insnImmedIs8bit d.instruction.opcode d.instruction.reg false
  | .STATE_IMMED2 =>
      T.insnImmedIs8bit d.instruction.opcode d.instruction.reg true
  | _ => false

/-- The states in which the immediate reader owns the read port. -/
def readsImmediate : DecoderState -> Bool
  | .STATE_DISPLACEMENT | .STATE_IMMED1 | .STATE_IMMED2 => true
  | _ => false

/-- What holds of the decoder registers between two clock edges. -/
structure DecoderReady (d : InsnDecoder) : Prop where
  valid : d.instruction.invalid = false
  opcode : d.state = .STATE_OPCODE -> (record d).modRm = 0#8
  waiting : d.state = .STATE_WAIT_SPACE -> d.complete = true
  finished : d.complete = true ->
    d.state = .STATE_OPCODE ∨ d.state = .STATE_WAIT_SPACE
  start : d.immedStart = readsImmediate d.state
  is8bit : readsImmediate d.state = true -> d.immedIs8bit = stageIs8bit T d
  immed1 : d.state = .STATE_IMMED1 ->
    T.insnImmedCount d.instruction.opcode d.instruction.reg ≠ 0#2

theorem record_valid (h : d.instruction.invalid = false) :
    (record d).invalid = false := by
  unfold record
  split
  · rfl
  · exact h

theorem addLength_short {acc : Instruction} {n : Nat}
    (hvalid : acc.invalid = false) (hshort : acc.length.toNat + n < 16) :
    (acc.addLength n).invalid = false ∧
      (acc.addLength n).length.toNat = acc.length.toNat + n := by
  constructor
  · simp [Instruction.addLength, hvalid]
    omega
  · simp [Instruction.addLength, hvalid]
    omega

theorem latchOpcode_addLength (acc : Instruction) (n : Nat) (b : Byte) :
    latchOpcode T (acc.addLength n) b =
      { latchOpcode T acc b with
        invalid := (acc.addLength n).invalid
        length := (acc.addLength n).length } := by
  unfold latchOpcode
  repeat' split
  all_goals rfl

@[simp] theorem latchOpcode_invalid (acc : Instruction) (b : Byte) :
    (latchOpcode T acc b).invalid = acc.invalid := by
  unfold latchOpcode
  repeat' split
  all_goals rfl

@[simp] theorem latchOpcode_length (acc : Instruction) (b : Byte) :
    (latchOpcode T acc b).length = acc.length := by
  unfold latchOpcode
  repeat' split
  all_goals rfl

@[simp] theorem latchOpcode_modRm (acc : Instruction) (b : Byte) :
    (latchOpcode T acc b).modRm = acc.modRm := by
  unfold latchOpcode
  repeat' split
  all_goals rfl

theorem latchOpcode_opcode {acc : Instruction} {b : Byte}
    (hpre : isPrefix b = false) : (latchOpcode T acc b).opcode = b := by
  simp only [isPrefix, Bool.or_eq_false_iff] at hpre
  simp [latchOpcode, hpre]

theorem reg_of_modRm_zero {acc : Instruction} (h : acc.modRm = 0#8) :
    acc.reg = 0#3 := by
  rw [Instruction.reg, h]
  rfl

/-- A byte that leaves the record unfinished: the parser goes on with it. -/
structure Extends (d : InsnDecoder) (low : List Byte) (b : Byte)
    (d' : InsnDecoder) (low' : List Byte) : Prop where
  complete : d'.complete = false
  length : d'.instruction.length.toNat + low'.length =
    (record d).length.toNat + low.length + 1
  parse : forall rest,
    resume T d (low ++ b :: rest) = resume T d' (low' ++ rest)

/-- A byte that finishes the record: the parser returns it. -/
structure Finishes (i : InsnDecoder.Inputs) (d : InsnDecoder)
    (low : List Byte) (b : Byte) (d' : InsnDecoder) : Prop where
  complete : d'.complete = true
  state : d'.state =
    if i.nearlyFull || i.stall then .STATE_WAIT_SPACE else .STATE_OPCODE
  parse : forall rest,
    resume T d (low ++ b :: rest) = some (d'.instruction, rest)

theorem advance_opcode_instruction (hstate : d.state = .STATE_OPCODE)
    (hempty : i.fifoEmpty = false)
    (hstall : d.complete = true -> i.stall = false) :
    (InsnDecoder.advance T i d).instruction =
      latchOpcode T ((record d).addLength 1) i.fifoRdData := by
  rw [latchOpcode_addLength]
  cases hcomplete : d.complete with
  | true =>
      simp [InsnDecoder.advance, hstate, hempty, hcomplete, hstall hcomplete,
        record, Instruction.addLength, Instruction.zero, latchOpcode]
      repeat' split
      all_goals rfl
  | false =>
      simp [InsnDecoder.advance, hstate, hempty, hcomplete, record]

theorem advance_state (i : InsnDecoder.Inputs) (d : InsnDecoder) :
    (InsnDecoder.advance T i d).state = InsnDecoder.nextState T i d := by
  simp only [InsnDecoder.advance]
  repeat' split
  all_goals rfl

theorem advance_complete (hstall : d.complete = true -> i.stall = false) :
    (InsnDecoder.advance T i d).complete = InsnDecoder.insnComplete T i d := by
  have hgeneral : (InsnDecoder.advance T i d).complete =
      if InsnDecoder.insnComplete T i d then true
      else if d.complete && !i.stall then false
      else d.complete := by
    simp only [InsnDecoder.advance]
    repeat' split
    all_goals rfl
  rw [hgeneral]
  cases hcomplete : d.complete with
  | true =>
      simp [hstall hcomplete]
  | false =>
      simp

/-- The registers that make a state without an immediate ready. -/
theorem ready_of_bytes {d' : InsnDecoder}
    (hvalid : d'.instruction.invalid = false)
    (hstart : d'.immedStart = false)
    (hreads : readsImmediate d'.state = false)
    (hopcode : d'.state = .STATE_OPCODE -> (record d').modRm = 0#8)
    (hfinished : d'.complete = true ->
      d'.state = .STATE_OPCODE ∨ d'.state = .STATE_WAIT_SPACE)
    (hwaiting : d'.state = .STATE_WAIT_SPACE -> d'.complete = true) :
    DecoderReady T d' := by
  refine ⟨hvalid, hopcode, hwaiting, hfinished, ?_, ?_, ?_⟩
  · rw [hstart, hreads]
  · intro h
    rw [hreads] at h
    cases h
  · intro h
    rw [h] at hreads
    cases hreads

/-- The registers that make a state with an immediate ready. -/
theorem ready_of_immediate {d' : InsnDecoder}
    (hvalid : d'.instruction.invalid = false)
    (hcomplete : d'.complete = false)
    (hreads : readsImmediate d'.state = true)
    (hstart : d'.immedStart = true)
    (his8bit : d'.immedIs8bit = stageIs8bit T d')
    (himmed1 : d'.state = .STATE_IMMED1 ->
      T.insnImmedCount d'.instruction.opcode d'.instruction.reg ≠ 0#2) :
    DecoderReady T d' := by
  refine ⟨hvalid, ?_, ?_, ?_, ?_, ?_, himmed1⟩
  · intro h
    rw [h] at hreads
    cases hreads
  · intro h
    rw [h] at hreads
    cases hreads
  · intro h
    rw [hcomplete] at h
    cases h
  · rw [hstart, hreads]
  · intro _
    exact his8bit

/-- A finished record leaves the decoder ready for the next instruction. -/
theorem ready_of_finishes {low : List Byte} {b : Byte} {d' : InsnDecoder}
    (h : Finishes T i d low b d') (hvalid : d'.instruction.invalid = false)
    (hstart : d'.immedStart = false) : DecoderReady T d' := by
  have hstate : d'.state = .STATE_OPCODE ∨ d'.state = .STATE_WAIT_SPACE := by
    rw [h.state]
    split
    · exact Or.inr rfl
    · exact Or.inl rfl
  apply ready_of_bytes T hvalid hstart
  · rcases hstate with hs | hs
    · rw [hs]
      rfl
    · rw [hs]
      rfl
  · intro _
    simp [record, h.complete, Instruction.zero]
  · intro _
    exact hstate
  · intro _
    exact h.complete

theorem nextInstr_of_complete (h : InsnDecoder.insnComplete T i d = true) :
    InsnDecoder.nextInstr T i d =
      if i.nearlyFull || i.stall then .STATE_WAIT_SPACE
      else .STATE_OPCODE := by
  simp [InsnDecoder.nextInstr, h]

theorem opcode_takes (hready : DecoderReady T d)
    (hstate : d.state = .STATE_OPCODE) (hempty : i.fifoEmpty = false)
    (hreset : i.reset = false) (hflush : i.flush = false)
    (hstall : d.complete = true -> i.stall = false)
    (hshort : (record d).length.toNat + 1 < 16) :
    DecoderReady T (InsnDecoder.advance T i d) ∧
      (Extends T d [] i.fifoRdData (InsnDecoder.advance T i d) [] ∨
        Finishes T i d [] i.fifoRdData (InsnDecoder.advance T i d)) := by
  have hinstr := advance_opcode_instruction T hstate hempty hstall
  have hnext := advance_state T i d
  have hcomplete := advance_complete T hstall
  have hstart : (InsnDecoder.advance T i d).immedStart =
      decide (InsnDecoder.nextState T i d = .STATE_IMMED1) := by
    have hidle : d.immedStart = false := by
      rw [hready.start, hstate]
      rfl
    simp [InsnDecoder.advance, hstate, hempty, hidle]
  have his8bit : InsnDecoder.nextState T i d = .STATE_IMMED1 ->
      (InsnDecoder.advance T i d).immedIs8bit =
        T.insnImmedIs8bit i.fifoRdData 0#3 false := by
    intro himmed
    simp [InsnDecoder.advance, hstate, hempty, himmed]
  generalize InsnDecoder.advance T i d = d' at *
  have hlen := addLength_short (record_valid hready.valid) hshort
  have hvalid : d'.instruction.invalid = false := by
    rw [hinstr, latchOpcode_invalid]
    exact hlen.left
  have hlength : d'.instruction.length.toNat =
      (record d).length.toNat + 1 := by
    rw [hinstr, latchOpcode_length]
    exact hlen.right
  have hmodRm : d'.instruction.modRm = 0#8 := by
    rw [hinstr, latchOpcode_modRm]
    exact hready.opcode hstate
  have hresume : forall rest, resume T d (i.fifoRdData :: rest) =
      if isPrefix i.fifoRdData then parseInstruction T d'.instruction rest
      else if T.insnHasModrm i.fifoRdData then
        parseModrm T d'.instruction rest
      else parseImmediates T d'.instruction rest := by
    intro rest
    simp only [resume, hstate, parseInstruction, hinstr]
  simp only [InsnDecoder.nextState, InsnDecoder.insnComplete, hreset, hflush,
    hstate, hempty, hready.valid] at hnext hcomplete hstart his8bit
  cases hpre : isPrefix i.fifoRdData with
  | true =>
      simp [hpre] at hnext hcomplete hstart hresume
      refine ⟨?_, Or.inl ⟨hcomplete, by simpa using hlength, ?_⟩⟩
      · exact ready_of_bytes T hvalid hstart (by simp [hnext, readsImmediate])
          (by simp [record, hcomplete, hmodRm]) (by simp [hcomplete])
          (by simp [hnext])
      · intro rest
        rw [List.nil_append, hresume]
        simp [resume, hnext, record, hcomplete]
  | false =>
      have hopcode : d'.instruction.opcode = i.fifoRdData := by
        rw [hinstr]
        exact latchOpcode_opcode T hpre
      have hreg := reg_of_modRm_zero hmodRm
      cases hmodrm : T.insnHasModrm i.fifoRdData with
      | true =>
          simp [hpre, hmodrm] at hnext hcomplete hstart hresume
          refine ⟨?_, Or.inl ⟨hcomplete, by simpa using hlength, ?_⟩⟩
          · exact ready_of_bytes T hvalid hstart
              (by simp [hnext, readsImmediate]) (by simp [hnext])
              (by simp [hcomplete]) (by simp [hnext])
          · intro rest
            rw [List.nil_append, hresume]
            simp [resume, hnext, record, hcomplete]
      | false =>
          by_cases hcount : T.insnImmedCount i.fifoRdData 0#3 = 0#2
          · have hdone : InsnDecoder.insnComplete T i d = true := by
              simp [InsnDecoder.insnComplete, hstate, hempty, hpre, hmodrm,
                hcount]
            simp [hpre, hmodrm, hcount, nextInstr_of_complete T hdone]
              at hnext hcomplete hstart hresume
            have hfinishes : Finishes T i d [] i.fifoRdData d' := by
              refine ⟨hcomplete, by simpa using hnext, ?_⟩
              intro rest
              rw [List.nil_append, hresume]
              simp [parseImmediates, hopcode, hreg, hcount]
            refine ⟨ready_of_finishes T hfinishes hvalid ?_,
              Or.inr hfinishes⟩
            rw [hstart]
            split <;> rfl
          · have hmore : (T.insnImmedCount i.fifoRdData 0#3 == 0#2) = false := by
              simpa using hcount
            simp [hpre, hmodrm, hcount, hmore]
              at hnext hcomplete hstart hresume his8bit
            refine ⟨?_, Or.inl ⟨hcomplete, by simpa using hlength, ?_⟩⟩
            · apply ready_of_immediate T hvalid hcomplete
              · simp [hnext, readsImmediate]
              · exact hstart
              · simp [stageIs8bit, hnext, hopcode, hreg, his8bit]
              · simp [hopcode, hreg, hcount]
            · intro rest
              rw [List.nil_append, hresume]
              simp [resume, hnext, record, hcomplete, parseImmediates,
                hopcode, hreg, hcount]

theorem unfinished (hready : DecoderReady T d)
    (hopcode : d.state ≠ .STATE_OPCODE)
    (hwait : d.state ≠ .STATE_WAIT_SPACE) : d.complete = false := by
  cases hcomplete : d.complete with
  | true =>
      rcases hready.finished hcomplete with h | h
      · exact absurd h hopcode
      · exact absurd h hwait
  | false =>
      rfl

theorem modrm_takes (hready : DecoderReady T d)
    (hstate : d.state = .STATE_MODRM) (hempty : i.fifoEmpty = false)
    (hreset : i.reset = false) (hflush : i.flush = false)
    (hshort : (record d).length.toNat + 1 < 16) :
    DecoderReady T (InsnDecoder.advance T i d) ∧
      (Extends T d [] i.fifoRdData (InsnDecoder.advance T i d) [] ∨
        Finishes T i d [] i.fifoRdData (InsnDecoder.advance T i d)) := by
  have hunfinished : d.complete = false :=
    unfinished T hready (by simp [hstate]) (by simp [hstate])
  have hrecord : record d = d.instruction := by
    simp [record, hunfinished]
  have hidle : d.immedStart = false := by
    rw [hready.start, hstate]
    rfl
  have hinstr : (InsnDecoder.advance T i d).instruction =
      { d.instruction.addLength 1 with modRm := i.fifoRdData } := by
    simp only [InsnDecoder.advance, hstate, hempty, hunfinished,
      Bool.false_and, Bool.false_eq_true, if_false]
    repeat' split
    all_goals rfl
  have hnext := advance_state T i d
  have hcomplete : (InsnDecoder.advance T i d).complete =
      InsnDecoder.insnComplete T i d :=
    advance_complete T (by simp [hunfinished])
  have hstart : (InsnDecoder.advance T i d).immedStart =
      decide (InsnDecoder.nextState T i d = .STATE_DISPLACEMENT ∨
        InsnDecoder.nextState T i d = .STATE_IMMED1) := by
    simp only [InsnDecoder.advance, hstate, hidle]
    split
    · next h => simp [h]
    · next h =>
        split
        · next h' => simp [h']
        · next h' => simp [h, h']
  have hdisp8bit : InsnDecoder.nextState T i d = .STATE_DISPLACEMENT ->
      (InsnDecoder.advance T i d).immedIs8bit =
        displacementIs8bit i.fifoRdData := by
    intro h
    simp [InsnDecoder.advance, hstate, h, displacementIs8bit]
  have himmed8bit : InsnDecoder.nextState T i d = .STATE_IMMED1 ->
      (InsnDecoder.advance T i d).immedIs8bit = T.insnImmedIs8bit
        d.instruction.opcode (i.fifoRdData.extractLsb' 3 3) false := by
    intro h
    simp [InsnDecoder.advance, hstate, h]
  generalize InsnDecoder.advance T i d = d' at *
  rw [hrecord] at hshort
  have hlen := addLength_short hready.valid hshort
  have hvalid : d'.instruction.invalid = false := by
    rw [hinstr]
    exact hlen.left
  have hlength : d'.instruction.length.toNat =
      (record d).length.toNat + 1 := by
    rw [hinstr, hrecord]
    exact hlen.right
  have hopcode : d'.instruction.opcode = d.instruction.opcode := by
    rw [hinstr]
    rfl
  have hmodRm : d'.instruction.modRm = i.fifoRdData := by
    rw [hinstr]
  have hreg : d'.instruction.reg = i.fifoRdData.extractLsb' 3 3 := by
    rw [Instruction.reg, hmodRm]
  have hresume : forall rest, resume T d (i.fifoRdData :: rest) =
      if hasDisplacement i.fifoRdData then
        parseDisplacement T d'.instruction rest
      else parseImmediates T d'.instruction rest := by
    intro rest
    simp only [resume, hstate, parseModrm, hinstr, hrecord]
  simp only [InsnDecoder.nextState, InsnDecoder.insnComplete, hreset, hflush,
    hstate, hempty] at hnext hcomplete hstart hdisp8bit himmed8bit
  cases hdisp : hasDisplacement i.fifoRdData with
  | true =>
      simp [hdisp] at hnext hcomplete hstart hresume hdisp8bit
      refine ⟨?_, Or.inl ⟨hcomplete, by simpa using hlength, ?_⟩⟩
      · apply ready_of_immediate T hvalid hcomplete
        · simp [hnext, readsImmediate]
        · exact hstart
        · simp [stageIs8bit, hnext, hmodRm, hdisp8bit]
        · simp [hnext]
      · intro rest
        rw [List.nil_append, hresume]
        simp [resume, hnext, record, hcomplete]
  | false =>
      by_cases hcount : T.insnImmedCount d.instruction.opcode
          (i.fifoRdData.extractLsb' 3 3) = 0#2
      · have hdone : InsnDecoder.insnComplete T i d = true := by
          simp [InsnDecoder.insnComplete, hstate, hempty, hdisp, hcount]
        simp [hdisp, hcount, nextInstr_of_complete T hdone]
          at hnext hcomplete hstart hresume
        have hfinishes : Finishes T i d [] i.fifoRdData d' := by
          refine ⟨hcomplete, by simpa using hnext, ?_⟩
          intro rest
          rw [List.nil_append, hresume]
          simp [parseImmediates, hopcode, hreg, hcount]
        refine ⟨ready_of_finishes T hfinishes hvalid ?_, Or.inr hfinishes⟩
        rw [hstart]
        split <;> simp
      · have hmore : (T.insnImmedCount d.instruction.opcode
            (i.fifoRdData.extractLsb' 3 3) == 0#2) = false := by
          simpa using hcount
        simp [hdisp, hcount, hmore] at hnext hcomplete hstart hresume himmed8bit
        refine ⟨?_, Or.inl ⟨hcomplete, by simpa using hlength, ?_⟩⟩
        · apply ready_of_immediate T hvalid hcomplete
          · simp [hnext, readsImmediate]
          · exact hstart
          · simp [stageIs8bit, hnext, hopcode, hreg, himmed8bit]
          · simp [hopcode, hreg, hcount]
        · intro rest
          rw [List.nil_append, hresume]
          simp [resume, hnext, record, hcomplete, parseImmediates, hopcode,
            hreg, hcount]

theorem count_one {n : BitVec 2} (hzero : n ≠ 0#2) (htwo : n ≠ 2#2)
    (hthree : n ≠ 3#2) : n = 1#2 := by
  revert n
  decide

section Immediates

variable {low : List Byte}
  (hready : DecoderReady T d)
  (hreset : i.reset = false) (hflush : i.flush = false)
  (himmed : i.immedComplete = true)
  (htake : forall rest, takeImmediate d.immedIs8bit
    (low ++ i.fifoRdData :: rest) = some (i.immediate, rest))
  (hlow : low.length + 1 = immediateBytes d.immedIs8bit)
  (hshort : (record d).length.toNat + low.length + 1 < 16)

include hready hreset hflush himmed htake hlow hshort

theorem immed2_takes (hstate : d.state = .STATE_IMMED2) :
    DecoderReady T (InsnDecoder.advance T i d) ∧
      Finishes T i d low i.fifoRdData (InsnDecoder.advance T i d) := by
  have hunfinished : d.complete = false :=
    unfinished T hready (by simp [hstate]) (by simp [hstate])
  have hrecord : record d = d.instruction := by
    simp [record, hunfinished]
  have his8bit : d.immedIs8bit =
      T.insnImmedIs8bit d.instruction.opcode d.instruction.reg true := by
    rw [hready.is8bit (by simp [hstate, readsImmediate])]
    simp [stageIs8bit, hstate]
  have hinstr : (InsnDecoder.advance T i d).instruction =
      { d.instruction.addLength (immediateBytes d.immedIs8bit) with
        immediates1 := i.immediate } := by
    simp only [InsnDecoder.advance, hstate, himmed, hunfinished,
      Bool.false_and, Bool.false_eq_true, if_false, if_true]
    rfl
  have hstart : (InsnDecoder.advance T i d).immedStart = false := by
    simp [InsnDecoder.advance, hstate, himmed]
  have hdone : InsnDecoder.insnComplete T i d = true := by
    simp [InsnDecoder.insnComplete, hstate, himmed]
  have hnext := advance_state T i d
  have hcomplete : (InsnDecoder.advance T i d).complete =
      InsnDecoder.insnComplete T i d :=
    advance_complete T (by simp [hunfinished])
  generalize InsnDecoder.advance T i d = d' at *
  rw [hrecord, Nat.add_assoc, hlow] at hshort
  have hlen := addLength_short hready.valid hshort
  have hvalid : d'.instruction.invalid = false := by
    rw [hinstr]
    exact hlen.left
  have hfinishes : Finishes T i d low i.fifoRdData d' := by
    refine ⟨hcomplete.trans hdone, ?_, ?_⟩
    · rw [hnext]
      simp [InsnDecoder.nextState, hreset, hflush, hstate, himmed,
        nextInstr_of_complete T hdone]
    · intro rest
      have htaken := htake rest
      rw [his8bit] at htaken
      simp only [resume, hstate, hrecord, parseImmed2, htaken, hinstr, his8bit]
  exact ⟨ready_of_finishes T hfinishes hvalid hstart, hfinishes⟩

theorem immed1_takes (hstate : d.state = .STATE_IMMED1)
    (htable : T.insnImmedCount d.instruction.opcode d.instruction.reg
      ≠ 3#2) :
    DecoderReady T (InsnDecoder.advance T i d) ∧
      (Extends T d low i.fifoRdData (InsnDecoder.advance T i d) [] ∨
        Finishes T i d low i.fifoRdData (InsnDecoder.advance T i d)) := by
  have hunfinished : d.complete = false :=
    unfinished T hready (by simp [hstate]) (by simp [hstate])
  have hrecord : record d = d.instruction := by
    simp [record, hunfinished]
  have his8bit : d.immedIs8bit =
      T.insnImmedIs8bit d.instruction.opcode d.instruction.reg false := by
    rw [hready.is8bit (by simp [hstate, readsImmediate])]
    simp [stageIs8bit, hstate]
  have hinstr : (InsnDecoder.advance T i d).instruction =
      { d.instruction.addLength (immediateBytes d.immedIs8bit) with
        immediates0 := i.immediate } := by
    simp only [InsnDecoder.advance, hstate, himmed, hunfinished,
      Bool.false_and, Bool.false_eq_true, if_false, if_true]
    split <;> rfl
  have hstart : (InsnDecoder.advance T i d).immedStart =
      decide (InsnDecoder.nextState T i d = .STATE_IMMED2) := by
    simp only [InsnDecoder.advance, hstate, himmed, if_true]
    split
    · next h => simp [h]
    · next h => simp [h]
  have hsecond8bit : InsnDecoder.nextState T i d = .STATE_IMMED2 ->
      (InsnDecoder.advance T i d).immedIs8bit = T.insnImmedIs8bit
        d.instruction.opcode d.instruction.reg true := by
    intro h
    simp [InsnDecoder.advance, hstate, h]
  have hnext := advance_state T i d
  have hcomplete : (InsnDecoder.advance T i d).complete =
      InsnDecoder.insnComplete T i d :=
    advance_complete T (by simp [hunfinished])
  generalize InsnDecoder.advance T i d = d' at *
  have hbytes : d.instruction.length.toNat + immediateBytes d.immedIs8bit =
      (record d).length.toNat + low.length + 1 := by
    rw [hrecord]
    omega
  have hlen := addLength_short hready.valid (hbytes ▸ hshort)
  have hvalid : d'.instruction.invalid = false := by
    rw [hinstr]
    exact hlen.left
  have hlength : d'.instruction.length.toNat =
      (record d).length.toNat + low.length + 1 := by
    rw [hinstr, ← hbytes]
    exact hlen.right
  have hopcode : d'.instruction.opcode = d.instruction.opcode := by
    rw [hinstr]
    rfl
  have hreg : d'.instruction.reg = d.instruction.reg := by
    rw [hinstr]
    rfl
  have hresume : forall rest, resume T d (low ++ i.fifoRdData :: rest) =
      if T.insnImmedCount d.instruction.opcode d.instruction.reg = 2#2 then
        parseImmed2 T d'.instruction rest
      else some (d'.instruction, rest) := by
    intro rest
    have htaken := htake rest
    rw [his8bit] at htaken
    simp only [resume, hstate, hrecord, parseImmed1, htaken, hinstr, his8bit]
  simp only [InsnDecoder.nextState, InsnDecoder.recordImmedCount, hreset,
    hflush, hstate, himmed] at hnext hstart hsecond8bit
  by_cases htwo : T.insnImmedCount d.instruction.opcode d.instruction.reg =
      2#2
  · have hunfinished' : d'.complete = false := by
      rw [hcomplete]
      simp [InsnDecoder.insnComplete, InsnDecoder.recordImmedCount, hstate,
        htwo]
    simp [htwo] at hnext hstart hsecond8bit hresume
    refine ⟨?_, Or.inl ⟨hunfinished', by simpa using hlength, ?_⟩⟩
    · apply ready_of_immediate T hvalid hunfinished'
      · simp [hnext, readsImmediate]
      · exact hstart
      · simp [stageIs8bit, hnext, hopcode, hreg, hsecond8bit]
      · simp [hnext]
    · intro rest
      rw [hresume]
      simp [resume, hnext, record, hunfinished']
  · have hone : T.insnImmedCount d.instruction.opcode d.instruction.reg =
        1#2 :=
      count_one (hready.immed1 hstate) htwo htable
    have hdone : InsnDecoder.insnComplete T i d = true := by
      simp [InsnDecoder.insnComplete, InsnDecoder.recordImmedCount, hstate,
        hone, himmed]
    simp [hone, nextInstr_of_complete T hdone] at hnext hstart hresume
    have hfinishes : Finishes T i d low i.fifoRdData d' := by
      refine ⟨hcomplete.trans hdone, by simpa using hnext, ?_⟩
      intro rest
      exact hresume rest
    refine ⟨ready_of_finishes T hfinishes hvalid ?_, Or.inr hfinishes⟩
    rw [hstart]
    split <;> rfl

theorem displacement_takes (hstate : d.state = .STATE_DISPLACEMENT) :
    DecoderReady T (InsnDecoder.advance T i d) ∧
      (Extends T d low i.fifoRdData (InsnDecoder.advance T i d) [] ∨
        Finishes T i d low i.fifoRdData (InsnDecoder.advance T i d)) := by
  have hunfinished : d.complete = false :=
    unfinished T hready (by simp [hstate]) (by simp [hstate])
  have hrecord : record d = d.instruction := by
    simp [record, hunfinished]
  have his8bit : d.immedIs8bit = displacementIs8bit d.instruction.modRm := by
    rw [hready.is8bit (by simp [hstate, readsImmediate])]
    simp [stageIs8bit, hstate]
  have hinstr : (InsnDecoder.advance T i d).instruction =
      { d.instruction.addLength (immediateBytes d.immedIs8bit) with
        displacement := i.immediate } := by
    simp only [InsnDecoder.advance, hstate, himmed, hunfinished,
      Bool.false_and, Bool.false_eq_true, if_false, if_true]
    split <;> rfl
  have hstart : (InsnDecoder.advance T i d).immedStart =
      decide (InsnDecoder.nextState T i d = .STATE_IMMED1) := by
    simp only [InsnDecoder.advance, hstate, himmed, if_true]
    split
    · next h => simp [h]
    · next h => simp [h]
  have hfirst8bit : InsnDecoder.nextState T i d = .STATE_IMMED1 ->
      (InsnDecoder.advance T i d).immedIs8bit = T.insnImmedIs8bit
        d.instruction.opcode d.instruction.reg false := by
    intro h
    simp [InsnDecoder.advance, hstate, h]
  have hnext := advance_state T i d
  have hcomplete : (InsnDecoder.advance T i d).complete =
      InsnDecoder.insnComplete T i d :=
    advance_complete T (by simp [hunfinished])
  generalize InsnDecoder.advance T i d = d' at *
  have hbytes : d.instruction.length.toNat + immediateBytes d.immedIs8bit =
      (record d).length.toNat + low.length + 1 := by
    rw [hrecord]
    omega
  have hlen := addLength_short hready.valid (hbytes ▸ hshort)
  have hvalid : d'.instruction.invalid = false := by
    rw [hinstr]
    exact hlen.left
  have hlength : d'.instruction.length.toNat =
      (record d).length.toNat + low.length + 1 := by
    rw [hinstr, ← hbytes]
    exact hlen.right
  have hopcode : d'.instruction.opcode = d.instruction.opcode := by
    rw [hinstr]
    rfl
  have hreg : d'.instruction.reg = d.instruction.reg := by
    rw [hinstr]
    rfl
  have hresume : forall rest, resume T d (low ++ i.fifoRdData :: rest) =
      parseImmediates T d'.instruction rest := by
    intro rest
    have htaken := htake rest
    rw [his8bit] at htaken
    simp only [resume, hstate, hrecord, parseDisplacement, htaken, hinstr,
      his8bit]
  simp only [InsnDecoder.nextState, InsnDecoder.recordImmedCount, hreset,
    hflush, hstate, himmed] at hnext hstart hfirst8bit
  by_cases hcount : T.insnImmedCount d.instruction.opcode d.instruction.reg =
      0#2
  · have hdone : InsnDecoder.insnComplete T i d = true := by
      simp [InsnDecoder.insnComplete, InsnDecoder.recordImmedCount, hstate,
        hcount, himmed]
    simp [hcount, nextInstr_of_complete T hdone] at hnext hstart
    have hfinishes : Finishes T i d low i.fifoRdData d' := by
      refine ⟨hcomplete.trans hdone, by simpa using hnext, ?_⟩
      intro rest
      rw [hresume]
      simp [parseImmediates, hopcode, hreg, hcount]
    refine ⟨ready_of_finishes T hfinishes hvalid ?_, Or.inr hfinishes⟩
    rw [hstart]
    split <;> rfl
  · have hunfinished' : d'.complete = false := by
      rw [hcomplete]
      simp [InsnDecoder.insnComplete, InsnDecoder.recordImmedCount, hstate,
        hcount]
    simp [hcount] at hnext hstart hfirst8bit
    refine ⟨?_, Or.inl ⟨hunfinished', by simpa using hlength, ?_⟩⟩
    · apply ready_of_immediate T hvalid hunfinished'
      · simp [hnext, readsImmediate]
      · exact hstart
      · simp [stageIs8bit, hnext, hopcode, hreg, hfirst8bit]
      · simp [hopcode, hreg, hcount]
    · intro rest
      rw [hresume]
      simp [resume, hnext, record, hunfinished', parseImmediates, hopcode,
        hreg, hcount]

end Immediates

/-- Nothing the decoder could take: a finished record may still be written. -/
structure Waits (i : InsnDecoder.Inputs) (d d' : InsnDecoder) : Prop where
  ready : DecoderReady T d'
  record : record d' = record d
  parse : forall rest, resume T d' rest = resume T d rest
  complete : d'.complete = (d.complete && i.stall)
  instruction : d'.complete = true -> d'.instruction = d.instruction
  state : d'.complete = true -> d'.state = .STATE_WAIT_SPACE
  start : d'.immedStart = d.immedStart
  is8bit : d'.immedIs8bit = d.immedIs8bit

theorem decoder_waits_opcode (hready : DecoderReady T d)
    (hreset : i.reset = false) (hflush : i.flush = false)
    (hstate : d.state = .STATE_OPCODE) (hempty : i.fifoEmpty = true)
    (hstall : d.complete = true -> i.stall = false) :
    Waits T i d (InsnDecoder.advance T i d) := by
  have hadvance : InsnDecoder.advance T i d =
      { d with instruction := record d, complete := false } := by
    cases hcomplete : d.complete with
    | true =>
        simp [InsnDecoder.advance, InsnDecoder.nextState,
          InsnDecoder.insnComplete, record, hreset, hflush, hstate, hempty,
          hready.valid, hcomplete, hstall hcomplete]
    | false =>
        simp [InsnDecoder.advance, InsnDecoder.nextState,
          InsnDecoder.insnComplete, record, hreset, hflush, hstate, hempty,
          hready.valid, hcomplete]
  have hstart : d.immedStart = false := by
    rw [hready.start, hstate]
    rfl
  rw [hadvance]
  refine ⟨?_, rfl, ?_, ?_, ?_, ?_, rfl, rfl⟩
  · apply ready_of_bytes T
    · exact record_valid hready.valid
    · exact hstart
    · simp [hstate, readsImmediate]
    · intro _
      exact hready.opcode hstate
    · simp
    · simp [hstate]
  · intro rest
    simp [resume, hstate, record]
  · cases hcomplete : d.complete with
    | true =>
        simp [hstall hcomplete]
    | false =>
        rfl
  · simp
  · simp

theorem decoder_waits_space (hready : DecoderReady T d)
    (hreset : i.reset = false) (hflush : i.flush = false)
    (hstate : d.state = .STATE_WAIT_SPACE) :
    Waits T i d (InsnDecoder.advance T i d) := by
  have hcomplete := hready.waiting hstate
  have hstart : d.immedStart = false := by
    rw [hready.start, hstate]
    rfl
  cases hstall : i.stall with
  | true =>
      have hadvance : InsnDecoder.advance T i d = d := by
        cases d
        simp_all [InsnDecoder.advance, InsnDecoder.nextState,
          InsnDecoder.insnComplete]
      rw [hadvance]
      refine ⟨hready, rfl, ?_, ?_, ?_, ?_, rfl, rfl⟩
      · intro rest
        rfl
      · simp [hstall]
      · intro _
        rfl
      · intro _
        exact hstate
  | false =>
      have hadvance : InsnDecoder.advance T i d =
          { d with
            state := .STATE_OPCODE, instruction := .zero
            complete := false } := by
        simp [InsnDecoder.advance, InsnDecoder.nextState,
          InsnDecoder.insnComplete, hreset, hflush, hstate, hstall, hcomplete]
      rw [hadvance]
      refine ⟨?_, ?_, ?_, ?_, ?_, ?_, rfl, rfl⟩
      · apply ready_of_bytes T
        · rfl
        · exact hstart
        · rfl
        · simp [record, Instruction.zero]
        · simp
        · simp
      · simp [record, hcomplete]
      · intro rest
        simp [resume, record, hstate, hcomplete]
      · simp [hstall]
      · simp
      · simp

/-- In the remaining states a waiting decoder changes nothing. -/
theorem decoder_waits_inside (hready : DecoderReady T d)
    (hreset : i.reset = false) (hflush : i.flush = false)
    (hopcode : d.state ≠ .STATE_OPCODE)
    (hspace : d.state ≠ .STATE_WAIT_SPACE)
    (hmodrm : d.state = .STATE_MODRM -> i.fifoEmpty = true)
    (himmed : d.state ≠ .STATE_MODRM -> i.immedComplete = false) :
    Waits T i d (InsnDecoder.advance T i d) := by
  have hcomplete := unfinished T hready hopcode hspace
  have hadvance : InsnDecoder.advance T i d = d := by
    rcases d with ⟨state, instruction, complete, immedStart, immedIs8bit⟩
    cases state <;>
      simp_all [InsnDecoder.advance, InsnDecoder.nextState,
        InsnDecoder.insnComplete]
  rw [hadvance]
  refine ⟨hready, rfl, ?_, ?_, ?_, ?_, rfl, rfl⟩
  · intro rest
    rfl
  · simp [hcomplete]
  · intro _
    rfl
  · simp [hcomplete]

end Decoder

/-!
## The invariant
-/

section Invariant

variable (T : OpcodeTable) {s : System} {c : Cycle}
  {done part : List Byte}

/--
The bytes taken so far are whole instructions, already written or pending, and
the beginning of one that the decoder and the reader hold.
-/
structure Inv (s : System) (done part : List Byte) : Prop where
  bytes : s.consumedBytes = done ++ part
  decodes : Decodes T done (s.written ++ s.pending)
  parse : forall rest, parseInstruction T .zero (part ++ rest) =
    resume T s.decoder (lowByte s.reader ++ rest)
  length : (record s.decoder).length.toNat + (lowByte s.reader).length =
    part.length
  decoder : DecoderReady T s.decoder
  reader : ReaderReady s.decoder.immedStart s.decoder.immedIs8bit s.reader
  space : s.decoder.state = .STATE_OPCODE -> s.decoder.complete = true ->
    s.fifo.count ≤ 3

/-- Every instruction of the stream, whole or cut off, has at most 15 bytes. -/
def ShortInstructions (stream : Nat -> Byte) : Prop :=
  forall n, (parseStream T ((List.range n).map stream)).2.length < 15

theorem resume_none (hdecoder : DecoderReady T s.decoder)
    (hreader : ReaderReady s.decoder.immedStart s.decoder.immedIs8bit
      s.reader) :
    resume T s.decoder (lowByte s.reader) = none := by
  have htake : readsImmediate s.decoder.state = true ->
      takeImmediate (stageIs8bit T s.decoder) (lowByte s.reader) = none := by
    intro hreads
    rw [← hdecoder.is8bit hreads]
    rcases hreader.bytes with hzero | ⟨hone, h8, _⟩
    · rw [lowByte_of_zero hzero]
      simp [takeImmediate]
    · rw [lowByte_of_one hone, h8]
      simp [takeImmediate]
  have hempty : readsImmediate s.decoder.state = false ->
      lowByte s.reader = [] := by
    intro hreads
    apply lowByte_of_zero
    exact (hreader.idle (hdecoder.start.trans hreads)).right
  have hrecord : readsImmediate s.decoder.state = true ->
      record s.decoder = s.decoder.instruction := by
    intro hreads
    have hunfinished := unfinished T hdecoder
      (by intro h; simp [h, readsImmediate] at hreads)
      (by intro h; simp [h, readsImmediate] at hreads)
    simp [record, hunfinished]
  cases hstate : s.decoder.state <;>
    simp_all [resume, readsImmediate, stageIs8bit, parseInstruction,
      parseModrm, parseDisplacement, parseImmed1, parseImmed2]

theorem Inv.parsed (h : Inv T s done part) :
    parseStream T s.consumedBytes = (s.written ++ s.pending, part) := by
  rw [h.bytes]
  apply parseStream_of_decodes h.decodes
  have hparse := h.parse []
  rw [List.append_nil, List.append_nil] at hparse
  rw [hparse]
  exact resume_none T h.decoder h.reader

theorem Inv.short (h : Inv T s done part)
    (hshort : ShortInstructions T s.stream) : part.length < 15 := by
  have hlength := hshort s.consumed
  rw [show (List.range s.consumed).map s.stream = s.consumedBytes from rfl,
    h.parsed] at hlength
  exact hlength

/-- Only the bytes taken so far matter. -/
theorem Inv.restream (h : Inv T s done part) {stream : Nat -> Byte}
    (hsame : forall k, k < s.consumed -> stream k = s.stream k) :
    Inv T { s with stream := stream } done part := by
  have hbytes : ({ s with stream := stream } : System).consumedBytes =
      s.consumedBytes :=
    List.map_congr_left fun k hk => hsame k (List.mem_range.mp hk)
  exact ⟨hbytes.trans h.bytes, h.decodes, h.parse, h.length, h.decoder,
    h.reader, h.space⟩

theorem pending_of_unfinished (h : s.decoder.complete = false) :
    s.pending = [] := by
  simp [System.pending, h]

theorem pending_of_finished (h : s.decoder.complete = true) :
    s.pending = [s.decoder.instruction] := by
  simp [System.pending, h]

/-- A record that waits in the opcode state always finds space. -/
theorem Inv.not_full (h : Inv T s done part)
    (hstate : s.decoder.state = .STATE_OPCODE)
    (hcomplete : s.decoder.complete = true) :
    s.fifo.full instructionFifo = false := by
  have hcount := h.space hstate hcomplete
  simp only [Fifo.full, instructionFifo, beq_eq_false_iff_ne]
  omega

theorem nextCount_le (i : Fifo.Inputs Instruction) (f : Fifo Instruction) :
    (Fifo.step instructionFifo i f).count ≤ f.count + 1 := by
  simp only [Fifo.step, Fifo.nextCount]
  repeat' split
  all_goals omega

/-- Only a write to a FIFO with space adds an item. -/
theorem nextCount_le_writes (i : Fifo.Inputs Instruction)
    (f : Fifo Instruction) :
    (Fifo.step instructionFifo i f).count ≤
      f.count + (i.wrEn && !f.full instructionFifo).toNat := by
  have hread : forall read : Bool,
      (if read then f.count - 1 else f.count) ≤ f.count := by
    intro read
    cases read with
    | true =>
        exact Nat.sub_le _ _
    | false =>
        exact Nat.le_refl _
  simp only [Fifo.step, Fifo.nextCount]
  cases hwrite : i.wrEn && !f.full instructionFifo with
  | true =>
      simp only [Bool.toNat_true]
      repeat' split
      all_goals omega
  | false =>
      simp only [Bool.false_and, Bool.false_eq_true, if_false,
        Bool.toNat_false]
      have hnone := hread (i.rdEn && !f.empty)
      repeat' split
      all_goals omega

theorem readerReady_of_idle {r : ImmediateReader}
    (hbytes : r.bytesRead = 0#2) (hbusy : r.fetchBusy = false)
    (start is8bit : Bool) : ReaderReady start is8bit r :=
  ⟨fun _ => ⟨hbusy, hbytes⟩, Or.inl hbytes⟩

/-- The invariant right after a reset or a flush. -/
theorem inv_restart (hrestart : c.restarts = true) (s : System) :
    Inv T (s.step T c) [] [] := by
  have hdecoder : (s.step T c).decoder =
      { s.decoder with
        state := .STATE_OPCODE
        instruction := .zero
        complete := false
        immedStart := false } := by
    simp only [Cycle.restarts] at hrestart
    simp [System.step, InsnDecoder.step, System.decoderInputs, hrestart]
  have hbytes : (s.step T c).reader.bytesRead = 0#2 := by
    cases hreset : c.reset with
    | true =>
        simp [System.step, ImmediateReader.step, ImmediateReader.nextBytesRead,
          System.readerInputs, hreset]
    | false =>
        have hflush : c.flush = true := by
          simpa [Cycle.restarts, hreset] using hrestart
        simp [System.step, ImmediateReader.step, ImmediateReader.nextBytesRead,
          System.readerInputs, hreset, hflush]
  have hbusy : (s.step T c).reader.fetchBusy = false := by
    cases hreset : c.reset with
    | true =>
        simp [System.step, ImmediateReader.step, System.readerInputs, hreset]
    | false =>
        have hflush : c.flush = true := by
          simpa [Cycle.restarts, hreset] using hrestart
        simp [System.step, ImmediateReader.step, System.readerInputs, hreset,
          hflush]
  refine ⟨?_, ?_, ?_, ?_, ?_, ?_, ?_⟩
  · simp [System.consumedBytes, System.step, hrestart]
  · have hpending : (s.step T c).pending = [] := by
      simp [System.pending, hdecoder]
    have hwritten : (s.step T c).written = [] := by
      simp [System.step, hrestart]
    rw [hpending, hwritten]
    exact Decodes.nil
  · intro rest
    simp [hdecoder, resume, record, lowByte_of_zero hbytes]
  · simp [hdecoder, record, lowByte_of_zero hbytes, Instruction.zero]
  · rw [hdecoder]
    apply ready_of_bytes T
    · rfl
    · rfl
    · rfl
    · simp [record, Instruction.zero]
    · simp
    · simp
  · exact readerReady_of_idle hbytes hbusy _ _
  · simp [hdecoder]

/-!
## One cycle
-/

section Step

variable (hrestart : c.restarts = false)

include hrestart

theorem step_decoder (s : System) :
    (s.step T c).decoder =
      InsnDecoder.advance T (s.decoderInputs c) s.decoder := by
  have hnone : (c.reset || c.flush) = false := hrestart
  simp [System.step, InsnDecoder.step, System.decoderInputs, hnone]

theorem step_consumedBytes (s : System)
    (hread : s.fifoRdEn c = true) (hempty : c.fifoEmpty = false) :
    (s.step T c).consumedBytes = s.consumedBytes ++ [s.fifoRdData c] := by
  simp [System.consumedBytes, System.step, hrestart, hread, hempty,
    List.range_succ, System.fifoRdData]

theorem step_consumedBytes_idle (s : System)
    (hread : s.fifoRdEn c = false) :
    (s.step T c).consumedBytes = s.consumedBytes := by
  simp [System.consumedBytes, System.step, hrestart, hread]

/-- Taking a byte writes out the record that was pending. -/
theorem Inv.written_takes (h : Inv T s done part)
    (hspace : s.decoder.state ≠ .STATE_WAIT_SPACE) :
    (s.step T c).written = s.written ++ s.pending := by
  cases hcomplete : s.decoder.complete with
  | true =>
      have hstate : s.decoder.state = .STATE_OPCODE := by
        rcases h.decoder.finished hcomplete with hopcode | hwait
        · exact hopcode
        · exact absurd hwait hspace
      simp [System.step, System.pending, hrestart, hcomplete,
        h.not_full T hstate hcomplete]
  | false =>
      simp [System.step, System.pending, hrestart, hcomplete]

theorem Inv.waits (h : Inv T s done part)
    (hwaits : Waits T (s.decoderInputs c) s.decoder (s.step T c).decoder)
    (hread : s.fifoRdEn c = false)
    (hlow : lowByte (s.step T c).reader = lowByte s.reader)
    (hreader : ReaderReady s.decoder.immedStart s.decoder.immedIs8bit
      (s.step T c).reader) :
    Inv T (s.step T c) done part := by
  refine ⟨?_, ?_, ?_, ?_, hwaits.ready, ?_, ?_⟩
  · rw [step_consumedBytes_idle T hrestart s hread]
    exact h.bytes
  · have hwritten : (s.step T c).written ++ (s.step T c).pending =
        s.written ++ s.pending := by
      have hcomplete := hwaits.complete
      have hinstr := hwaits.instruction
      simp only [System.decoderInputs] at hcomplete
      cases hdone : s.decoder.complete with
      | true =>
          cases hfull : s.fifo.full instructionFifo with
          | true =>
              simp only [hdone, hfull, Bool.and_true] at hcomplete
              rw [System.pending, hcomplete, hinstr hcomplete]
              simp [System.step, System.pending, hrestart, hdone, hfull]
          | false =>
              simp only [hdone, hfull, Bool.and_false] at hcomplete
              rw [System.pending, hcomplete]
              simp [System.step, System.pending, hrestart, hdone, hfull]
      | false =>
          simp only [hdone, Bool.false_and] at hcomplete
          rw [System.pending, hcomplete]
          simp [System.step, System.pending, hrestart, hdone]
    rw [hwritten]
    exact h.decodes
  · intro rest
    rw [hwaits.parse, hlow]
    exact h.parse rest
  · rw [hwaits.record, hlow]
    exact h.length
  · rw [hwaits.start, hwaits.is8bit]
    exact hreader
  · intro hstate hcomplete
    rw [hwaits.state hcomplete] at hstate
    cases hstate

/-- Taking the low byte of a word. -/
theorem Inv.takesLow (h : Inv T s done part)
    (hwaits : Waits T (s.decoderInputs c) s.decoder (s.step T c).decoder)
    (hspace : s.decoder.state ≠ .STATE_WAIT_SPACE)
    (hread : s.fifoRdEn c = true) (hempty : c.fifoEmpty = false)
    (hcomplete : (s.step T c).decoder.complete = false)
    (hlow : lowByte (s.step T c).reader =
      lowByte s.reader ++ [s.fifoRdData c])
    (hreader : ReaderReady s.decoder.immedStart s.decoder.immedIs8bit
      (s.step T c).reader) :
    Inv T (s.step T c) done (part ++ [s.fifoRdData c]) := by
  refine ⟨?_, ?_, ?_, ?_, hwaits.ready, ?_, ?_⟩
  · rw [step_consumedBytes T hrestart s hread hempty, h.bytes,
      List.append_assoc]
  · rw [h.written_takes T hrestart hspace, pending_of_unfinished hcomplete,
      List.append_nil]
    exact h.decodes
  · intro rest
    rw [List.append_assoc, h.parse, hwaits.parse, hlow, List.append_assoc]
  · have hlength := h.length
    rw [hwaits.record, hlow, List.length_append, List.length_append]
    omega
  · rw [hwaits.start, hwaits.is8bit]
    exact hreader
  · intro _ hdone
    rw [hcomplete] at hdone
    cases hdone

theorem Inv.extends (h : Inv T s done part)
    (hdecoder : DecoderReady T (s.step T c).decoder)
    (hextends : Extends T s.decoder (lowByte s.reader) (s.fifoRdData c)
      (s.step T c).decoder [])
    (hspace : s.decoder.state ≠ .STATE_WAIT_SPACE)
    (hread : s.fifoRdEn c = true) (hempty : c.fifoEmpty = false)
    (hbytes : (s.step T c).reader.bytesRead = 0#2)
    (hbusy : (s.step T c).reader.fetchBusy = false) :
    Inv T (s.step T c) done (part ++ [s.fifoRdData c]) := by
  have hcomplete := hextends.complete
  refine ⟨?_, ?_, ?_, ?_, hdecoder, readerReady_of_idle hbytes hbusy _ _, ?_⟩
  · rw [step_consumedBytes T hrestart s hread hempty, h.bytes,
      List.append_assoc]
  · rw [h.written_takes T hrestart hspace, pending_of_unfinished hcomplete,
      List.append_nil]
    exact h.decodes
  · intro rest
    rw [List.append_assoc, h.parse, lowByte_of_zero hbytes]
    exact hextends.parse rest
  · have hlength := h.length
    have hgrows := hextends.length
    rw [lowByte_of_zero hbytes]
    simp only [record, hcomplete, Bool.false_eq_true, if_false,
      List.length_append, List.length_nil, List.length_singleton] at *
    omega
  · intro _ hdone
    rw [hcomplete] at hdone
    cases hdone

theorem Inv.finishes (h : Inv T s done part)
    (hdecoder : DecoderReady T (s.step T c).decoder)
    (hfinishes : Finishes T (s.decoderInputs c) s.decoder (lowByte s.reader)
      (s.fifoRdData c) (s.step T c).decoder)
    (hspace : s.decoder.state ≠ .STATE_WAIT_SPACE)
    (hread : s.fifoRdEn c = true) (hempty : c.fifoEmpty = false)
    (hbytes : (s.step T c).reader.bytesRead = 0#2)
    (hbusy : (s.step T c).reader.fetchBusy = false) :
    Inv T (s.step T c) (done ++ (part ++ [s.fifoRdData c])) [] := by
  have hcomplete := hfinishes.complete
  have hrecord : record (s.step T c).decoder = .zero := by
    simp [record, hcomplete]
  refine ⟨?_, ?_, ?_, ?_, hdecoder, readerReady_of_idle hbytes hbusy _ _, ?_⟩
  · rw [step_consumedBytes T hrestart s hread hempty, h.bytes]
    simp
  · have hchunk : parseInstruction T .zero (part ++ [s.fifoRdData c]) =
        some ((s.step T c).decoder.instruction, []) := by
      rw [h.parse]
      exact hfinishes.parse []
    rw [h.written_takes T hrestart hspace, pending_of_finished hcomplete]
    exact h.decodes.snoc hchunk
  · intro rest
    rw [lowByte_of_zero hbytes, resume, hrecord, hfinishes.state]
    cases hroom : ((s.decoderInputs c).nearlyFull ||
        (s.decoderInputs c).stall) with
    | true =>
        rfl
    | false =>
        rfl
  · rw [hrecord, lowByte_of_zero hbytes]
    rfl
  · intro hstate _
    rw [hfinishes.state] at hstate
    have hroom : s.fifo.nearlyFull instructionFifo = false := by
      cases hnear : s.fifo.nearlyFull instructionFifo with
      | true =>
          simp [System.decoderInputs, hnear] at hstate
      | false =>
          rfl
    simp [Fifo.nearlyFull, instructionFifo] at hroom
    have hcount := nextCount_le (s.fifoInputs c) s.fifo
    have hstep : (s.step T c).fifo.count =
        (Fifo.step instructionFifo (s.fifoInputs c) s.fifo).count := rfl
    omega

/-- A cycle in which the reader is not started and no byte can be taken. -/
theorem Inv.waits_idle (h : Inv T s done part)
    (hstart : s.decoder.immedStart = false)
    (hwait : s.decoder.state = .STATE_WAIT_SPACE ∨ c.fifoEmpty = true)
    (hwaits : Waits T (s.decoderInputs c) s.decoder (s.step T c).decoder) :
    Inv T (s.step T c) done part := by
  rcases (Bool.or_eq_false_iff.mp hrestart) with ⟨hreset, hflush⟩
  rcases reader_waits (i := s.readerInputs c) h.reader hreset hflush
    (Or.inr hstart) with ⟨hreader, _, hlow, hready⟩
  apply h.waits T hrestart hwaits _ hlow hready
  rw [System.fifoRdEn, hreader, Bool.or_false]
  rcases hwait with hspace | hempty
  · simp [InsnDecoder.fifoRdEn, hspace]
  · simp [InsnDecoder.fifoRdEn, System.decoderInputs, hempty]

/-- A cycle in which the decoder itself takes a byte. -/
theorem Inv.takes_byte (h : Inv T s done part)
    (hstart : s.decoder.immedStart = false)
    (hspace : s.decoder.state ≠ .STATE_WAIT_SPACE)
    (hempty : c.fifoEmpty = false)
    (htakes : DecoderReady T (s.step T c).decoder ∧
      (Extends T s.decoder [] (s.fifoRdData c) (s.step T c).decoder [] ∨
        Finishes T (s.decoderInputs c) s.decoder [] (s.fifoRdData c)
          (s.step T c).decoder)) :
    exists done' part', Inv T (s.step T c) done' part' := by
  rcases (Bool.or_eq_false_iff.mp hrestart) with ⟨hreset, hflush⟩
  rcases reader_waits (i := s.readerInputs c) h.reader hreset hflush
    (Or.inr hstart) with ⟨_, _, _, hready⟩
  rcases hready.idle hstart with ⟨hbusy, hbytes⟩
  have hlow : lowByte s.reader = [] :=
    lowByte_of_zero (h.reader.idle hstart).right
  have hread : s.fifoRdEn c = true := by
    simp [System.fifoRdEn, InsnDecoder.fifoRdEn, System.decoderInputs, hreset,
      hempty, hstart, hspace]
  rcases htakes with ⟨hdecoder, hextends | hfinishes⟩
  · rw [← hlow] at hextends
    exact ⟨_, _, h.extends T hrestart hdecoder (hlow ▸ hextends) hspace hread
      hempty hbytes hbusy⟩
  · rw [← hlow] at hfinishes
    exact ⟨_, _, h.finishes T hrestart hdecoder hfinishes hspace hread hempty
      hbytes hbusy⟩

/-- A cycle of a state in which the immediate reader takes the bytes. -/
theorem Inv.immediate (h : Inv T s done part)
    (hshort : part.length < 15)
    (htable : forall opcode reg, T.insnImmedCount opcode reg ≠ 3#2)
    (hreads : readsImmediate s.decoder.state = true) :
    exists done' part', Inv T (s.step T c) done' part' := by
  rcases (Bool.or_eq_false_iff.mp hrestart) with ⟨hreset, hflush⟩
  have hstart : s.decoder.immedStart = true := h.decoder.start.trans hreads
  have hopcode : s.decoder.state ≠ .STATE_OPCODE := by
    intro hstate
    simp [hstate, readsImmediate] at hreads
  have hmodrm : s.decoder.state ≠ .STATE_MODRM := by
    intro hstate
    simp [hstate, readsImmediate] at hreads
  have hspace : s.decoder.state ≠ .STATE_WAIT_SPACE := by
    intro hstate
    simp [hstate, readsImmediate] at hreads
  have hwaits : ImmediateReader.complete (s.readerInputs c) s.reader = false ->
      Waits T (s.decoderInputs c) s.decoder (s.step T c).decoder := by
    intro hcomplete
    rw [step_decoder T hrestart s]
    exact decoder_waits_inside T h.decoder hreset hflush hopcode hspace
      (fun hstate => absurd hstate hmodrm) (fun _ => hcomplete)
  have hquiet : InsnDecoder.fifoRdEn (s.decoderInputs c) s.decoder = false := by
    simp [InsnDecoder.fifoRdEn, hstart]
  cases hempty : c.fifoEmpty with
  | true =>
      rcases reader_waits (i := s.readerInputs c) h.reader hreset hflush
        (Or.inl hempty) with ⟨hreader, hcomplete, hlow, hready⟩
      have hread : s.fifoRdEn c = false := by
        rw [System.fifoRdEn, hreader, hquiet]
        rfl
      exact ⟨_, _, h.waits T hrestart (hwaits hcomplete) hread hlow hready⟩
  | false =>
      rcases reader_takes (i := s.readerInputs c) h.reader hreset hflush hstart
        hempty with ⟨hreader, ⟨hcomplete, htake, hlow, hbytes, hbusy⟩ |
          ⟨hcomplete, hlow, hready⟩⟩
      · have hread : s.fifoRdEn c = true := by
          rw [System.fifoRdEn, hreader, Bool.or_true]
        have hlength : (record s.decoder).length.toNat +
            (lowByte s.reader).length + 1 < 16 := by
          have hsum := h.length
          omega
        have htakes : DecoderReady T (s.step T c).decoder ∧
            (Extends T s.decoder (lowByte s.reader) (s.fifoRdData c)
                (s.step T c).decoder [] ∨
              Finishes T (s.decoderInputs c) s.decoder (lowByte s.reader)
                (s.fifoRdData c) (s.step T c).decoder) := by
          rw [step_decoder T hrestart s]
          cases hstate : s.decoder.state with
          | STATE_DISPLACEMENT =>
              exact displacement_takes T h.decoder hreset hflush hcomplete
                htake hlow hlength hstate
          | STATE_IMMED1 =>
              exact immed1_takes T h.decoder hreset hflush hcomplete htake
                hlow hlength hstate (htable _ _)
          | STATE_IMMED2 =>
              have hdone := immed2_takes T (i := s.decoderInputs c) h.decoder
                hreset hflush hcomplete htake hlow hlength hstate
              exact ⟨hdone.left, Or.inr hdone.right⟩
          | STATE_OPCODE =>
              exact absurd hstate hopcode
          | STATE_MODRM =>
              exact absurd hstate hmodrm
          | STATE_WAIT_SPACE =>
              exact absurd hstate hspace
        rcases htakes with ⟨hdecoder, hextends | hfinishes⟩
        · exact ⟨_, _, h.extends T hrestart hdecoder hextends hspace hread
            hempty hbytes hbusy⟩
        · exact ⟨_, _, h.finishes T hrestart hdecoder hfinishes hspace hread
            hempty hbytes hbusy⟩
      · have hread : s.fifoRdEn c = true := by
          rw [System.fifoRdEn, hreader, Bool.or_true]
        have hunfinished : (s.step T c).decoder.complete = false := by
          rw [(hwaits hcomplete).complete,
            unfinished T h.decoder hopcode hspace]
          rfl
        exact ⟨_, _, h.takesLow T hrestart (hwaits hcomplete) hspace hread
          hempty hunfinished hlow hready⟩

theorem Inv.cycle (h : Inv T s done part)
    (hshort : part.length < 15)
    (htable : forall opcode reg, T.insnImmedCount opcode reg ≠ 3#2) :
    exists done' part', Inv T (s.step T c) done' part' := by
  rcases (Bool.or_eq_false_iff.mp hrestart) with ⟨hreset, hflush⟩
  have hlength : readsImmediate s.decoder.state = false ->
      (record s.decoder).length.toNat + 1 < 16 := by
    intro _
    have hsum := h.length
    omega
  cases hstate : s.decoder.state with
  | STATE_OPCODE =>
      have hstart : s.decoder.immedStart = false := by
        rw [h.decoder.start, hstate]
        rfl
      have hstall : s.decoder.complete = true ->
          (s.decoderInputs c).stall = false := by
        intro hcomplete
        exact h.not_full T hstate hcomplete
      cases hempty : c.fifoEmpty with
      | true =>
          refine ⟨_, _, h.waits_idle T hrestart hstart (Or.inr hempty) ?_⟩
          rw [step_decoder T hrestart s]
          exact decoder_waits_opcode T h.decoder hreset hflush hstate hempty
            hstall
      | false =>
          apply h.takes_byte T hrestart hstart (by simp [hstate]) hempty
          rw [step_decoder T hrestart s]
          exact opcode_takes T h.decoder hstate hempty hreset hflush hstall
            (hlength (by simp [hstate, readsImmediate]))
  | STATE_MODRM =>
      have hstart : s.decoder.immedStart = false := by
        rw [h.decoder.start, hstate]
        rfl
      cases hempty : c.fifoEmpty with
      | true =>
          refine ⟨_, _, h.waits_idle T hrestart hstart (Or.inr hempty) ?_⟩
          rw [step_decoder T hrestart s]
          apply decoder_waits_inside T h.decoder hreset hflush
          · simp [hstate]
          · simp [hstate]
          · intro _
            exact hempty
          · intro hother
            exact absurd hstate hother
      | false =>
          apply h.takes_byte T hrestart hstart (by simp [hstate]) hempty
          rw [step_decoder T hrestart s]
          exact modrm_takes T h.decoder hstate hempty hreset hflush
            (hlength (by simp [hstate, readsImmediate]))
  | STATE_DISPLACEMENT =>
      exact h.immediate T hrestart hshort htable
        (by simp [hstate, readsImmediate])
  | STATE_IMMED1 =>
      exact h.immediate T hrestart hshort htable
        (by simp [hstate, readsImmediate])
  | STATE_IMMED2 =>
      exact h.immediate T hrestart hshort htable
        (by simp [hstate, readsImmediate])
  | STATE_WAIT_SPACE =>
      have hstart : s.decoder.immedStart = false := by
        rw [h.decoder.start, hstate]
        rfl
      refine ⟨_, _, h.waits_idle T hrestart hstart (Or.inl hstate) ?_⟩
      rw [step_decoder T hrestart s]
      exact decoder_waits_space T h.decoder hreset hflush hstate

end Step

end Invariant

/-!
## Whole runs
-/

/-- Every stream that a cycle of the run starts has short instructions. -/
def ShortStreams (T : OpcodeTable) (cycles : List Cycle) : Prop :=
  forall c, c ∈ cycles -> c.restarts = true ->
    ShortInstructions T c.newStream

theorem inv_run {T : OpcodeTable}
    (htable : forall opcode reg, T.insnImmedCount opcode reg ≠ 3#2)
    (cycles : List Cycle) :
    forall (s : System) (done part : List Byte), Inv T s done part ->
      ShortInstructions T s.stream -> ShortStreams T cycles ->
      exists done' part',
        Inv T (run (System.step T) s cycles) done' part' := by
  induction cycles with
  | nil =>
      intro s done part h _ _
      exact ⟨done, part, h⟩
  | cons c rest ih =>
      intro s done part h hshort hstreams
      have hrest : ShortStreams T rest := by
        intro c' hmem
        exact hstreams c' (List.mem_cons_of_mem c hmem)
      cases hrestart : c.restarts with
      | true =>
          apply ih _ _ _ (inv_restart T hrestart s) _ hrest
          have hnew : (s.step T c).stream = c.newStream := by
            simp [System.step, hrestart]
          rw [hnew]
          exact hstreams c List.mem_cons_self hrestart
      | false =>
          rcases h.cycle T hrestart (h.short T hshort) htable with
            ⟨done', part', h'⟩
          apply ih _ _ _ h' _ hrest
          have hsame : (s.step T c).stream = s.stream := by
            simp [System.step, hrestart]
          rw [hsame]
          exact hshort

/-- The decoder takes a byte in every cycle that offers one. -/
theorem consumed_of_offered (T : OpcodeTable) (s : System) {c : Cycle}
    (hrestart : c.restarts = false)
    (hempty : c.fifoEmpty = false)
    (hspace : s.decoder.state ≠ .STATE_WAIT_SPACE) :
    (s.step T c).consumed = s.consumed + 1 := by
  rcases (Bool.or_eq_false_iff.mp hrestart) with ⟨hreset, hflush⟩
  have hread : s.fifoRdEn c = true := by
    cases hstart : s.decoder.immedStart with
    | true =>
        simp [System.fifoRdEn, ImmediateReader.fifoRdEn, System.readerInputs,
          hstart, hempty]
    | false =>
        simp [System.fifoRdEn, InsnDecoder.fifoRdEn, System.decoderInputs,
          hreset, hempty, hstart, hspace]
  simp [System.step, hrestart, hread, hempty]

/-- A decoder that waits for space goes on as soon as there is some. -/
theorem Inv.resumes {T : OpcodeTable} {s : System} {done part : List Byte}
    (h : Inv T s done part) {c : Cycle} (hrestart : c.restarts = false)
    (hspace : s.decoder.state = .STATE_WAIT_SPACE)
    (hfull : s.fifo.full instructionFifo = false) :
    (s.step T c).decoder.state = .STATE_OPCODE ∧
      (s.step T c).written = s.written ++ [s.decoder.instruction] := by
  have hnone : (c.reset || c.flush) = false := hrestart
  constructor
  · rw [step_decoder T hrestart s, advance_state]
    simp [InsnDecoder.nextState, System.decoderInputs, hnone, hspace, hfull]
  · simp [System.step, hrestart, h.decoder.waiting hspace, hfull]

/-- The first bytes of a stream. -/
def firstBytes (stream : Nat -> Byte) (n : Nat) : List Byte :=
  (List.range n).map stream

theorem firstBytes_add (stream : Nat -> Byte) (m n : Nat) :
    firstBytes stream (m + n) = firstBytes stream m ++
      (List.range n).map fun k => stream (m + k) := by
  simp [firstBytes, List.range_add, Function.comp_def]

/-- The records found so far are the first ones of the whole stream. -/
theorem Inv.first_records {T : OpcodeTable} {s : System}
    {done part : List Byte} (h : Inv T s done part) {n : Nat}
    (hn : s.consumed ≤ n) :
    s.written ++ s.pending <+: (parseStream T (firstBytes s.stream n)).1 := by
  rcases Nat.exists_eq_add_of_le hn with ⟨m, rfl⟩
  have hbytes : firstBytes s.stream s.consumed = done ++ part := h.bytes
  rw [firstBytes_add, hbytes, List.append_assoc]
  exact parseStream_extends h.decodes _

/--
After any run that begins with a reset or a flush, the records written since
the last one, with the record about to be written, are the parse of the bytes
taken since then and the first records of the whole stream.  A byte that is
offered is taken unless the decoder waits for space in the instruction FIFO,
and it waits no longer than the FIFO is full.
-/
theorem decoder_parses_stream (s : System) (first : Cycle)
    (cycles : List Cycle) (hfirst : first.restarts = true)
    (hshort : ShortStreams OpcodeTable.generated (first :: cycles)) :
    let t := run (System.step OpcodeTable.generated) s (first :: cycles)
    (parseStream OpcodeTable.generated (firstBytes t.stream t.consumed)).1 =
        t.written ++ t.pending ∧
      (forall n, t.consumed ≤ n -> t.written ++ t.pending <+:
        (parseStream OpcodeTable.generated (firstBytes t.stream n)).1) ∧
      forall c : Cycle, c.restarts = false ->
        (c.fifoEmpty = false ->
          t.decoder.state ≠ .STATE_WAIT_SPACE ->
          (t.step OpcodeTable.generated c).consumed = t.consumed + 1) ∧
        (t.decoder.state = .STATE_WAIT_SPACE ->
          t.fifo.full instructionFifo = false ->
          (t.step OpcodeTable.generated c).decoder.state = .STATE_OPCODE ∧
            (t.step OpcodeTable.generated c).written =
              t.written ++ [t.decoder.instruction]) := by
  intro t
  have hstart := inv_restart OpcodeTable.generated hfirst s
  have hstream : ShortInstructions OpcodeTable.generated
      (s.step OpcodeTable.generated first).stream := by
    have hnew : (s.step OpcodeTable.generated first).stream =
        first.newStream := by
      simp [System.step, hfirst]
    rw [hnew]
    exact hshort first List.mem_cons_self hfirst
  have hrest : ShortStreams OpcodeTable.generated cycles := by
    intro c hmem
    exact hshort c (List.mem_cons_of_mem first hmem)
  have hinv : exists done part, Inv OpcodeTable.generated t done part :=
    inv_run OpcodeTable.generated_immedCount_le cycles _ _ _ hstart hstream
      hrest
  rcases hinv with ⟨done, part, h⟩
  refine ⟨?_, ?_, ?_⟩
  · exact congrArg Prod.fst h.parsed
  · intro n hn
    exact h.first_records hn
  · intro c hrestart
    exact ⟨fun hempty hspace =>
        consumed_of_offered OpcodeTable.generated t hrestart hempty hspace,
      fun hspace hfull => h.resumes hrestart hspace hfull⟩

/-!
## A single instruction
-/

def nopRecord : Instruction :=
  { Instruction.zero with length := 1#4, opcode := 0x90#8 }

theorem nops_decode (n : Nat) :
    Decodes OpcodeTable.generated (List.replicate n 0x90#8)
      (List.replicate n nopRecord) := by
  induction n with
  | zero =>
      exact Decodes.nil
  | succ n ih =>
      have hnop : parseInstruction OpcodeTable.generated .zero [0x90#8] =
          some (nopRecord, []) := by
        decide +kernel
      exact Decodes.cons hnop ih

/-- These bytes, followed by `nop` for ever. -/
def padded (bytes : List Byte) (k : Nat) : Byte := bytes.getD k 0x90#8

theorem firstBytes_padded (bytes : List Byte) (n : Nat) :
    firstBytes (padded bytes) n =
      bytes.take n ++ List.replicate (n - bytes.length) 0x90#8 := by
  apply List.ext_getElem
  · simp only [firstBytes, List.length_map, List.length_range,
      List.length_append, List.length_take, List.length_replicate]
    omega
  · intro k hk _
    have hkn : k < n := by simpa [firstBytes] using hk
    simp only [firstBytes, List.getElem_map, List.getElem_range, padded,
      List.getElem_append, List.length_take, List.getElem_take,
      List.getElem_replicate]
    by_cases hlen : k < bytes.length
    · rw [dif_pos (by omega), List.getD_eq_getElem?_getD,
        List.getElem?_eq_getElem hlen, Option.getD_some]
    · rw [dif_neg (by omega), List.getD_eq_getElem?_getD,
        List.getElem?_eq_none (by omega), Option.getD_none]

section Single

variable {bytes : List Byte} {i : Instruction}
  (hparse : parseInstruction OpcodeTable.generated .zero bytes = some (i, []))

include hparse

/-- A part of an instruction is no instruction. -/
theorem parse_take_none {n : Nat} (hn : n < bytes.length) :
    parseInstruction OpcodeTable.generated .zero (bytes.take n) = none := by
  cases hpart : parseInstruction OpcodeTable.generated .zero
      (bytes.take n) with
  | none =>
      rfl
  | some out =>
      rcases out with ⟨j, rest⟩
      have hall := parseInstruction_append _ hpart (bytes.drop n)
      rw [List.take_append_drop, hparse] at hall
      have hempty := congrArg (fun o => o.map fun p => p.2.length) hall
      simp at hempty
      omega

/-- The records of these bytes and the `nop`s behind them. -/
theorem parse_padded (n : Nat) :
    parseStream OpcodeTable.generated (firstBytes (padded bytes) n) =
      if n < bytes.length then ([], bytes.take n)
      else (i :: List.replicate (n - bytes.length) nopRecord, []) := by
  rw [firstBytes_padded]
  by_cases hn : n < bytes.length
  · have hnone := parseStream_of_decodes Decodes.nil
      (parse_take_none hparse hn)
    rw [List.nil_append] at hnone
    rw [if_pos hn, Nat.sub_eq_zero_of_le (Nat.le_of_lt hn),
      List.replicate_zero, List.append_nil, hnone]
  · have hdone := @parseStream_of_decodes OpcodeTable.generated _ [] _
      (Decodes.cons hparse (nops_decode (n - bytes.length))) rfl
    rw [List.append_nil] at hdone
    rw [if_neg hn, List.take_of_length_le (Nat.le_of_not_lt hn), hdone]

theorem padded_short (hlen : bytes.length ≤ 15) :
    ShortInstructions OpcodeTable.generated (padded bytes) := by
  intro n
  change (parseStream OpcodeTable.generated
    (firstBytes (padded bytes) n)).2.length < 15
  rw [parse_padded hparse]
  split
  · simp only [List.length_take]
    omega
  · exact Nat.zero_lt_succ 14

/-- The decoder reads these bytes and the `nop`s behind them. -/
structure Reading (bytes : List Byte) (s : System) : Prop where
  inv : exists done part, Inv OpcodeTable.generated s done part
  stream : s.stream = padded bytes
  count : s.fifo.count ≤ s.written.length

omit hparse in
theorem reading_restart {first : Cycle} (hfirst : first.restarts = true)
    (hstream : first.newStream = padded bytes) (s : System) :
    Reading bytes (s.step OpcodeTable.generated first) where
  inv := ⟨[], [], inv_restart OpcodeTable.generated hfirst s⟩
  stream := by simp [System.step, hfirst, hstream]
  count := by
    have hreset : first.reset = true ∨ first.flush = true :=
      Bool.or_eq_true_iff.mp hfirst
    have hcount : Fifo.nextCount instructionFifo (s.fifoInputs first) s.fifo =
        0 := by
      unfold Fifo.nextCount System.fifoInputs
      rcases hreset with h | h
      · simp [h]
      · simp [h]
    exact hcount.trans_le (Nat.zero_le _)

theorem Reading.cycle (hlen : bytes.length ≤ 15) {s : System}
    (h : Reading bytes s) {c : Cycle} (hrestart : c.restarts = false) :
    Reading bytes (s.step OpcodeTable.generated c) where
  inv := by
    rcases h.inv with ⟨done, part, hinv⟩
    have hshort := padded_short hparse hlen
    rw [<- h.stream] at hshort
    exact hinv.cycle OpcodeTable.generated hrestart
      (hinv.short OpcodeTable.generated hshort)
      OpcodeTable.generated_immedCount_le
  stream := by
    rw [<- h.stream]
    simp [System.step, hrestart]
  count := by
    have hcount := h.count
    have hnext := nextCount_le_writes (s.fifoInputs c) s.fifo
    have hwritten : (s.step OpcodeTable.generated c).written.length =
        s.written.length +
          (s.decoder.complete && !s.fifo.full instructionFifo).toNat := by
      simp only [System.step, hrestart, Bool.false_eq_true, if_false]
      split
      · next hwrite =>
          rw [hwrite, List.length_append]
          rfl
      · next hwrite =>
          rw [Bool.not_eq_true] at hwrite
          rw [hwrite]
          rfl
    change (s.step OpcodeTable.generated c).fifo.count ≤ _ at hnext
    change _ ≤ _ + (s.decoder.complete && _).toNat at hnext
    omega

theorem Reading.run (hlen : bytes.length ≤ 15) (cycles : List Cycle)
    {s : System} (h : Reading bytes s)
    (hcycles : forall c, c ∈ cycles -> c.restarts = false) :
    Reading bytes
      (Foundation.Clocked.run (System.step OpcodeTable.generated) s
        cycles) := by
  induction cycles generalizing s with
  | nil =>
      exact h
  | cons c rest ih =>
      exact ih (h.cycle hparse hlen (hcycles c List.mem_cons_self))
        fun c' hc => hcycles c' (List.mem_cons_of_mem c hc)

/-- Nothing is found before the instruction has been taken whole. -/
theorem Reading.records {s : System} (h : Reading bytes s) :
    s.written ++ s.pending =
      if s.consumed < bytes.length then []
      else i :: List.replicate (s.consumed - bytes.length) nopRecord := by
  rcases h.inv with ⟨done, part, hinv⟩
  have hparsed := congrArg Prod.fst (hinv.parsed OpcodeTable.generated)
  have hbytes : s.consumedBytes = firstBytes (padded bytes) s.consumed := by
    rw [<- h.stream]
    rfl
  rw [hbytes, parse_padded hparse] at hparsed
  refine Eq.trans hparsed.symm ?_
  split <;> rfl

/-- As long as the instruction is not whole, every byte offered is taken. -/
theorem Reading.consumed {s : System} (h : Reading bytes s) {c : Cycle}
    (hrestart : c.restarts = false) (hempty : c.fifoEmpty = false)
    (hpart : s.consumed < bytes.length) :
    (s.step OpcodeTable.generated c).consumed = s.consumed + 1 := by
  rcases h.inv with ⟨done, part, hinv⟩
  apply consumed_of_offered OpcodeTable.generated s hrestart hempty
  intro hwait
  have hnone := h.records hparse
  rw [if_pos hpart] at hnone
  have hpending := (List.append_eq_nil_iff.mp hnone).2
  rw [pending_of_finished (hinv.decoder.waiting hwait)] at hpending
  cases hpending

omit hparse in
theorem consumed_le (s : System) {c : Cycle} (hrestart : c.restarts = false) :
    s.consumed ≤ (s.step OpcodeTable.generated c).consumed := by
  simp only [System.step, hrestart, Bool.false_eq_true, if_false]
  split
  · exact Nat.le_succ _
  · exact Nat.le_refl _

/-- How many cycles have a byte on offer. -/
def offers (cycles : List Cycle) : Nat :=
  cycles.countP fun c => !c.fifoEmpty

/-- When enough bytes have been offered, the instruction has been taken. -/
theorem Reading.takes (hlen : bytes.length ≤ 15) (cycles : List Cycle)
    {s : System} (h : Reading bytes s)
    (hcycles : forall c, c ∈ cycles -> c.restarts = false)
    (hoffers : bytes.length ≤ s.consumed + offers cycles) :
    bytes.length ≤
      (Foundation.Clocked.run (System.step OpcodeTable.generated) s
        cycles).consumed := by
  induction cycles generalizing s with
  | nil =>
      exact hoffers
  | cons c rest ih =>
      have hrestart := hcycles c List.mem_cons_self
      apply ih (h.cycle hparse hlen hrestart) fun c' hc =>
        hcycles c' (List.mem_cons_of_mem c hc)
      have hmono := consumed_le s hrestart
      by_cases hwhole : bytes.length ≤ s.consumed
      · omega
      · unfold offers at hoffers ⊢
        rw [List.countP_cons] at hoffers
        cases hempty : c.fifoEmpty with
        | true =>
            simp only [hempty, Bool.not_true, Bool.false_eq_true, if_false]
              at hoffers
            omega
        | false =>
            have htaken := h.consumed hparse hrestart hempty
              (Nat.lt_of_not_le hwhole)
            simp only [hempty, Bool.not_false, if_true] at hoffers
            omega

/-- A record that is found is written in the next cycle, if not before. -/
theorem Reading.writes {s : System} (h : Reading bytes s)
    (hwhole : bytes.length ≤ s.consumed) {c : Cycle}
    (hrestart : c.restarts = false) :
    exists more, (s.step OpcodeTable.generated c).written = i :: more := by
  have hfound := h.records hparse
  rw [if_neg (Nat.not_lt_of_le hwhole)] at hfound
  cases hwritten : s.written with
  | nil =>
      rw [hwritten, List.nil_append] at hfound
      have hcomplete : s.decoder.complete = true := by
        by_contra hnot
        rw [pending_of_unfinished (Bool.not_eq_true _ |>.mp hnot)] at hfound
        cases hfound
      have hempty : s.fifo.count = 0 := by
        have hcount := h.count
        rw [hwritten] at hcount
        exact Nat.le_zero.mp hcount
      rw [pending_of_finished hcomplete] at hfound
      injection hfound with hrecord
      refine ⟨[], ?_⟩
      simp [System.step, hrestart, hcomplete, Fifo.full, instructionFifo,
        hempty, hwritten, hrecord]
  | cons j more =>
      rw [hwritten, List.cons_append] at hfound
      injection hfound with hrecord
      simp only [System.step, hrestart, Bool.false_eq_true, if_false, hwritten,
        hrecord]
      split
      · exact ⟨_, rfl⟩
      · exact ⟨more, rfl⟩

/--
After a reset or a flush with these bytes ahead, the first record found is
their parse, and it is written once as many bytes as it has have been offered,
one cycle later at the latest.
-/
theorem first_record (hlen : bytes.length ≤ 15) (s : System) (first : Cycle)
    (cycles : List Cycle) (hfirst : first.restarts = true)
    (hstream : first.newStream = padded bytes)
    (hcycles : forall c, c ∈ cycles -> c.restarts = false) :
    let t := Foundation.Clocked.run (System.step OpcodeTable.generated) s
      (first :: cycles)
    (forall j more, t.written ++ t.pending = j :: more -> j = i) ∧
      (bytes.length ≤ offers cycles -> forall c : Cycle, c.restarts = false ->
        exists more,
          (t.step OpcodeTable.generated c).written = i :: more) := by
  intro t
  have hstart := reading_restart hfirst hstream s
  have hreading := hstart.run hparse hlen cycles hcycles
  constructor
  · intro j more hfound
    have hrecords := hreading.records hparse
    rw [show t.written ++ t.pending = _ from hrecords] at hfound
    split at hfound
    · cases hfound
    · injection hfound with hj
      exact hj.symm
  · intro hoffers c hrestart
    have hwhole := hstart.takes hparse hlen cycles hcycles (by omega)
    exact hreading.writes hparse hwhole hrestart

end Single

/-!
## A run with an empty FIFO inside an immediate
-/

/-- `ES: mov ax, 1234h` followed by `nop` for ever. -/
def movStream : Nat -> Byte
  | 0 => 0x26#8
  | 1 => 0xb8#8
  | 2 => 0x34#8
  | 3 => 0x12#8
  | _ => 0x90#8

def movRecord : Instruction :=
  { Instruction.zero with
    length := 4#4, hasSegmentOverride := true, segment := .ES
    immediates0 := 0x1234#16, opcode := 0xb8#8 }

theorem movStream_short :
    ShortInstructions OpcodeTable.generated movStream := by
  have hmov : parseInstruction OpcodeTable.generated .zero
      [0x26#8, 0xb8#8, 0x34#8, 0x12#8] = some (movRecord, []) := by
    decide +kernel
  have hstream : movStream = padded [0x26#8, 0xb8#8, 0x34#8, 0x12#8] := by
    funext k
    match k with
    | 0 | 1 | 2 | 3 | _ + 4 => rfl
  rw [hstream]
  exact padded_short hmov (by decide)

/-- The registers before the first reset, which hold anything. -/
def powerOn : System :=
  { decoder :=
      { state := .STATE_IMMED2, instruction := nopRecord, complete := true
        immedStart := true, immedIs8bit := false }
    reader := { immediateBuf := 0#16, bytesRead := 2#2, fetchBusy := true }
    fifo := { mem := fun _ => .zero, rdPtr := 0, wrPtr := 0, count := 0 }
    stream := fun _ => 0#8
    consumed := 0
    written := [] }

def resetCycle : Cycle :=
  { reset := true, flush := false, newStream := movStream, fifoEmpty := true
    staleData := 0xcc#8, instructionFifoRdEn := false }

/-- A cycle without a reset, with or without a byte on offer. -/
def offer (fifoEmpty : Bool) : Cycle :=
  { resetCycle with reset := false, fifoEmpty := fifoEmpty }

/-- The FIFO runs empty before the opcode and between the immediate's bytes. -/
def movCycles : List Cycle :=
  [offer false, offer true, offer false, offer false, offer true, offer true,
    offer false, offer true]

theorem decoder_parses_stream_mov :
    (run (System.step OpcodeTable.generated) powerOn
        (resetCycle :: movCycles)).written = [movRecord] ∧
      (parseStream OpcodeTable.generated (firstBytes movStream 4)).1 =
        [movRecord] := by
  have hshort : ShortStreams OpcodeTable.generated
      (resetCycle :: movCycles) := by
    intro c hmem hrestart
    have hfirst : c = resetCycle := by
      rcases List.mem_cons.mp hmem with hfirst | hrest
      · exact hfirst
      · simp only [movCycles, List.mem_cons, List.not_mem_nil, or_false]
          at hrest
        rcases hrest with h | h | h | h | h | h | h | h <;>
          · rw [h] at hrestart
            cases hrestart
    rw [hfirst]
    exact movStream_short
  have hparse := (decoder_parses_stream powerOn resetCycle movCycles rfl
    hshort).left
  have hwritten : (run (System.step OpcodeTable.generated) powerOn
      (resetCycle :: movCycles)).written = [movRecord] := by
    decide +kernel
  have hpending : (run (System.step OpcodeTable.generated) powerOn
      (resetCycle :: movCycles)).pending = [] := by
    decide +kernel
  have hconsumed : (run (System.step OpcodeTable.generated) powerOn
      (resetCycle :: movCycles)).consumed = 4 := by
    decide +kernel
  have hstream : (run (System.step OpcodeTable.generated) powerOn
      (resetCycle :: movCycles)).stream = movStream := rfl
  rw [hwritten, hpending, hconsumed, hstream] at hparse
  exact ⟨hwritten, hparse⟩

end DecoderStream
end Rtl
end S80x86
