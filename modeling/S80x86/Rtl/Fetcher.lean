import S80x86.Rtl.DecoderStream
import S80x86.Rtl.FifoQueue
import S80x86.Rtl.PrefetchStream

/-!
# From the memory to the instructions

The prefetcher, its FIFO, the decoder with the immediate reader and the
instruction FIFO, as the core wires them, and the parts of them of which much is
known already.
-/

open Foundation

namespace S80x86
namespace Rtl

open S80x86.Rtl.Parser

namespace Fetcher

/-- What the rest of the core and the memory do in one cycle. -/
structure Cycle where
  reset : Bool
  loadNewIp : Bool
  newCs : BitVec 16
  newIp : BitVec 16
  memAck : Bool
  instructionFifoRdEn : Bool

end Fetcher

/-- The registers, the access that the memory has accepted, and what has
happened since the last jump. -/
structure Fetcher where
  prefetch : Prefetch
  prefetchFifo : Fifo.Registers PrefetchFifo.generics (BitVec 8)
  decoder : InsnDecoder
  reader : ImmediateReader
  instructionFifo : Fifo Instruction
  pending : Option (BitVec 19)
  loadedCs : BitVec 16
  loadedIp : BitVec 16
  /-- The bytes written to the prefetch FIFO, and how many have left it. -/
  fetched : List (BitVec 8)
  consumed : Nat
  /-- The records written to the instruction FIFO, and the ones taken. -/
  decoded : List Instruction
  taken : List Instruction

namespace Fetcher

/-!
## The wiring
-/

section Wiring

variable (mem : Memory) (c : Cycle) (s : Fetcher)

def prefetchInputs : Prefetch.Inputs :=
  { reset := c.reset
    newCs := c.newCs
    newIp := c.newIp
    loadNewIp := c.loadNewIp
    fifoFull := s.prefetchFifo.nearlyFull
    memAck := c.memAck
    memData := Bus.readWord mem (s.pending.getD s.prefetch.memAddress) }

def fifoReset : Bool := Prefetch.fifoReset (s.prefetchInputs mem c) s.prefetch

/-- Whether a reset or a jump empties the queues. -/
def restarts : Bool := c.reset || s.fifoReset mem c

def readerInputs : ImmediateReader.Inputs :=
  { reset := c.reset
    start := s.decoder.immedStart
    flush := s.fifoReset mem c
    is8bit := s.decoder.immedIs8bit
    fifoRdData := s.prefetchFifo.rdData
    fifoEmpty := s.prefetchFifo.empty }

def decoderInputs : InsnDecoder.Inputs :=
  { reset := c.reset
    flush := s.fifoReset mem c
    stall := s.instructionFifo.full DecoderStream.instructionFifo
    nearlyFull := s.instructionFifo.nearlyFull DecoderStream.instructionFifo
    fifoRdData := s.prefetchFifo.rdData
    fifoEmpty := s.prefetchFifo.empty
    immedComplete := ImmediateReader.complete (s.readerInputs mem c) s.reader
    immediate := ImmediateReader.immediate (s.readerInputs mem c) s.reader }

def fifoRdEn : Bool :=
  ImmediateReader.fifoRdEn (s.readerInputs mem c) s.reader ||
    InsnDecoder.fifoRdEn (s.decoderInputs mem c) s.decoder

def prefetchFifoInputs : Fifo.Inputs (BitVec 8) :=
  { reset := c.reset
    flush := s.fifoReset mem c
    wrEn := Prefetch.fifoWrEn (s.prefetchInputs mem c) s.prefetch
    wrData := Prefetch.fifoWrData (s.prefetchInputs mem c) s.prefetch
    rdEn := s.fifoRdEn mem c }

def instructionFifoInputs : Fifo.Inputs Instruction :=
  { reset := c.reset
    flush := s.fifoReset mem c
    wrEn := s.decoder.complete
    wrData := s.decoder.instruction
    rdEn := c.instructionFifoRdEn }

/-- One clock edge. -/
def step : Fetcher :=
  { prefetch := Prefetch.step (s.prefetchInputs mem c) s.prefetch
    prefetchFifo := s.prefetchFifo.step (s.prefetchFifoInputs mem c)
    decoder := InsnDecoder.step .generated (s.decoderInputs mem c) s.decoder
    reader := ImmediateReader.step (s.readerInputs mem c) s.reader
    instructionFifo :=
      Fifo.step DecoderStream.instructionFifo (s.instructionFifoInputs mem c)
        s.instructionFifo
    pending :=
      if c.memAck then none
      else if s.prefetch.memAccess2 then
        some (s.pending.getD s.prefetch.memAddress)
      else s.pending
    loadedCs :=
      if c.reset then 0xffff#16
      else if c.loadNewIp then c.newCs else s.loadedCs
    loadedIp :=
      if c.reset then 0#16 else if c.loadNewIp then c.newIp else s.loadedIp
    fetched :=
      if s.restarts mem c then []
      else if Prefetch.fifoWrEn (s.prefetchInputs mem c) s.prefetch then
        s.fetched ++ [Prefetch.fifoWrData (s.prefetchInputs mem c) s.prefetch]
      else s.fetched
    consumed :=
      if s.restarts mem c then 0
      else if s.fifoRdEn mem c && !s.prefetchFifo.empty then s.consumed + 1
      else s.consumed
    decoded :=
      if s.restarts mem c then []
      else if s.decoder.complete &&
          !s.instructionFifo.full DecoderStream.instructionFifo then
        s.decoded ++ [s.decoder.instruction]
      else s.decoded
    taken :=
      if s.restarts mem c then []
      else if c.instructionFifoRdEn && !s.instructionFifo.empty then
        s.taken ++ [s.instructionFifo.rdData]
      else s.taken }

end Wiring

/-!
## The parts
-/

section Parts

variable (mem : Memory) (c : Cycle) (s : Fetcher)

/-- The prefetcher and the bytes it has written. -/
def stream : PrefetchStream.System :=
  { prefetch := s.prefetch, pending := s.pending, loadedCs := s.loadedCs
    loadedIp := s.loadedIp, written := s.fetched }

def streamCycle : PrefetchStream.Cycle :=
  { loadNewIp := c.loadNewIp, newCs := c.newCs, newIp := c.newIp
    fifoFull := s.prefetchFifo.nearlyFull, memAck := c.memAck }

/-- The prefetcher and its FIFO. -/
def queue : PrefetchFifo.System :=
  { prefetch := s.prefetch, fifo := s.prefetchFifo
    pending := s.pending.isSome }

def queueCycle : PrefetchFifo.Cycle :=
  { reset := c.reset, loadNewIp := c.loadNewIp, newCs := c.newCs
    newIp := c.newIp, memAck := c.memAck
    memData := Bus.readWord mem (s.pending.getD s.prefetch.memAddress)
    fifoRdEn := s.fifoRdEn mem c }

/-- The decoder, the reader and the instruction FIFO behind a stream of
bytes. -/
def parser (bytes : List (BitVec 8)) : DecoderStream.System :=
  { decoder := s.decoder, reader := s.reader, fifo := s.instructionFifo
    stream := fun k => bytes.getD k 0#8, consumed := s.consumed
    written := s.decoded }

def parserCycle : DecoderStream.Cycle :=
  { reset := c.reset, flush := s.fifoReset mem c, newStream := fun _ => 0#8
    fifoEmpty := s.prefetchFifo.empty, staleData := s.prefetchFifo.rdData
    instructionFifoRdEn := c.instructionFifoRdEn }

theorem inputs_stream (hreset : c.reset = false) :
    PrefetchStream.inputs mem (s.streamCycle c) s.stream =
      s.prefetchInputs mem c := by
  unfold prefetchInputs
  rw [hreset]
  rfl

theorem step_stream (hreset : c.reset = false) :
    (s.step mem c).stream =
      PrefetchStream.cycle mem (s.streamCycle c) s.stream := by
  have hrestarts : s.restarts mem c = s.fifoReset mem c := by
    rw [restarts, hreset, Bool.false_or]
  unfold PrefetchStream.cycle
  rw [inputs_stream mem c s hreset]
  unfold stream step
  rw [hrestarts, hreset]
  rfl

theorem step_queue :
    (s.step mem c).queue = PrefetchFifo.cycle (s.queueCycle mem c) s.queue := by
  have hpending : (s.step mem c).pending.isSome =
      (!c.memAck && (s.pending.isSome || s.prefetch.memAccess2)) := by
    change (if c.memAck then none else if s.prefetch.memAccess2 then
      some (s.pending.getD s.prefetch.memAddress)
        else s.pending).isSome = _
    cases c.memAck <;> cases s.prefetch.memAccess2 <;> simp
  unfold queue
  rw [hpending]
  rfl

/-- The read port of the prefetch FIFO shows the next byte of the stream. -/
theorem parser_step (bytes : List (BitVec 8))
    (hdata : s.prefetchFifo.empty = false ->
      s.prefetchFifo.rdData = bytes.getD s.consumed 0#8) :
    (s.step mem c).parser bytes =
      { (s.parser bytes).step .generated (s.parserCycle mem c) with
        stream := fun k => bytes.getD k 0#8 } := by
  have hport : (s.parser bytes).fifoRdData (s.parserCycle mem c) =
      s.prefetchFifo.rdData := by
    change (if s.prefetchFifo.empty then s.prefetchFifo.rdData
      else bytes.getD s.consumed 0#8) = _
    cases hempty : s.prefetchFifo.empty with
    | true =>
        rfl
    | false =>
        exact (hdata hempty).symm
  have hreader : (s.parser bytes).readerInputs (s.parserCycle mem c) =
      s.readerInputs mem c := by
    unfold DecoderStream.System.readerInputs
    rw [hport]
    rfl
  have hdecoder : (s.parser bytes).decoderInputs (s.parserCycle mem c) =
      s.decoderInputs mem c := by
    unfold DecoderStream.System.decoderInputs
    rw [hport, hreader]
    rfl
  have hread : (s.parser bytes).fifoRdEn (s.parserCycle mem c) =
      s.fifoRdEn mem c := by
    unfold DecoderStream.System.fifoRdEn
    rw [hreader, hdecoder, Bool.or_comm]
    rfl
  unfold DecoderStream.System.step
  rw [hread, hreader, hdecoder]
  rfl

end Parts

/-!
## Where the prefetcher stands
-/

/-- The address of a byte of the stream. -/
def address (s : Fetcher) (k : Nat) : BitVec 20 :=
  Bus.linear s.loadedCs (s.loadedIp + BitVec.ofNat 16 k)

/-- A memory of zeros, from which every word is alike. -/
def zeros : Memory := fun _ => 0#8

/-- The prefetcher as it were if it had read zeros. -/
def blank (s : PrefetchStream.System) : PrefetchStream.System :=
  { s with
    prefetch := { s.prefetch with fetchedHighByte := 0#8 }
    written := List.replicate s.written.length 0#8 }

theorem readWord_zeros (a : BitVec 19) : Bus.readWord zeros a = 0#16 := by
  unfold Bus.readWord zeros
  decide

theorem blank_eq {s t : PrefetchStream.System}
    (hhigh : t.prefetch.fetchedHighByte = 0#8)
    (hwritten : t.written = List.replicate s.written.length 0#8)
    (hrest : { t with
      prefetch := { t.prefetch with
        fetchedHighByte := s.prefetch.fetchedHighByte }
      written := s.written } = s) : blank s = t := by
  rw [<- hrest]
  unfold blank
  dsimp only
  rw [<- hwritten, <- hhigh]

/-- The prefetcher goes to the same addresses whatever it reads. -/
theorem blank_cycle (mem : Memory) (c : PrefetchStream.Cycle)
    (s : PrefetchStream.System) :
    blank (PrefetchStream.cycle mem c s) =
      PrefetchStream.cycle zeros c (blank s) := by
  have hdata : Prefetch.fifoWrData (PrefetchStream.inputs zeros c (blank s))
      (blank s).prefetch = 0#8 := by
    unfold Prefetch.fifoWrData PrefetchStream.inputs
    dsimp only
    rw [readWord_zeros]
    cases c.memAck <;> cases (blank s).prefetch.fetchAddress.getLsbD 0 <;> rfl
  have hhigh : (PrefetchStream.cycle zeros c
      (blank s)).prefetch.fetchedHighByte = 0#8 := by
    change (if c.memAck then (Bus.readWord zeros _).extractLsb' 8 8
      else 0#8) = 0#8
    rw [readWord_zeros]
    cases c.memAck <;> rfl
  have hwritten : (PrefetchStream.cycle zeros c (blank s)).written =
      List.replicate (PrefetchStream.cycle mem c s).written.length 0#8 := by
    unfold PrefetchStream.cycle
    dsimp only
    rw [hdata]
    change (if Prefetch.fifoReset (PrefetchStream.inputs mem c s) s.prefetch
      then [] else if Prefetch.fifoWrEn (PrefetchStream.inputs mem c s)
        s.prefetch then List.replicate s.written.length 0#8 ++ [0#8]
      else List.replicate s.written.length 0#8) = _
    split
    · rfl
    · split
      · rw [List.length_append, List.replicate_append_replicate.symm]
        rfl
      · rfl
  exact blank_eq hhigh hwritten rfl

/-- Where the prefetcher stands, whatever it has read. -/
def Placed (s : Fetcher) : Prop := PrefetchStream.Inv zeros (blank s.stream)

section Placed

variable {s : Fetcher} (h : s.Placed)
include h

theorem Placed.cs (habort : s.prefetch.abortCur = false) :
    s.prefetch.cs = s.loadedCs :=
  (h.fetching habort).cs

theorem Placed.fetchAddress (habort : s.prefetch.abortCur = false) :
    s.prefetch.fetchAddress =
      s.loadedIp + BitVec.ofNat 16 s.fetched.length := by
  have haddress := (h.fetching habort).fetchAddress
  unfold blank at haddress
  simp only [List.length_replicate] at haddress
  exact haddress

theorem Placed.linear (habort : s.prefetch.abortCur = false) :
    Bus.linear s.prefetch.cs s.prefetch.fetchAddress =
      s.address s.fetched.length := by
  rw [h.cs habort, h.fetchAddress habort]
  rfl

theorem Placed.served (habort : s.prefetch.abortCur = false)
    (hout : s.pending.isSome ∨ s.prefetch.memAccess2 = true) :
    s.pending.getD s.prefetch.memAddress =
      Bus.wordAddress s.prefetch.cs s.prefetch.fetchAddress :=
  (h.fetching habort).served hout

theorem Placed.nothing (habort : s.prefetch.abortCur = true) :
    s.fetched = [] := by
  have hwritten := (h.aborting habort).written
  unfold blank at hwritten
  exact List.length_eq_zero_iff.mp ((List.replicate_eq_nil_iff _).mp hwritten)

end Placed

end Fetcher
end Rtl
end S80x86
