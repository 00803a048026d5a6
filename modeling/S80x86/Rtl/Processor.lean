import S80x86.Rtl.FetcherStream
import S80x86.Rtl.Sequencing

/-!
# The core and its fetch unit

The fetch unit closed with the core that takes its instructions: where the core
stands in the code is where the stream of instructions stands, as long as the
core takes no more than it is offered.
-/

namespace S80x86
namespace Rtl

structure Processor where
  core : Core
  fetcher : Fetcher

namespace Processor

/-- What comes from outside in one cycle. -/
structure Input where
  nmi : Bool
  intr : Bool
  irq : BitVec 8
  ready : Bool
  ioData : BitVec 16
  /-- The memory acknowledges an access of the prefetcher. -/
  instrAck : Bool

section Wiring

variable (i : Input) (p : Processor)

def coreInput : Core.Input :=
  { nmi := i.nmi
    intr := i.intr
    irq := i.irq
    ready := i.ready
    ioData := i.ioData
    instructionEmpty := p.fetcher.instructionFifo.empty
    nextInstructionValue := p.fetcher.instructionFifo.rdData
    prefetchAccess := p.fetcher.prefetch.memAccess2 && !i.instrAck
    prefetchAck := i.instrAck }

/-- The code segment that goes to the prefetcher. -/
def prefetchCs (s : Core) : BitVec 16 :=
  if s.csipInput.csUpdate then s.aluOut else s.segments.registers .CS

def fetcherCycle : Fetcher.Cycle :=
  { reset := false
    loadNewIp := p.core.loadNewIp
    newCs := prefetchCs p.core
    newIp := p.core.newIp
    memAck := i.instrAck
    instructionFifoRdEn := p.core.startingInstruction (p.coreInput i) }

/-- One clock edge. -/
def step : Processor :=
  { core := p.core.step (p.coreInput i)
    fetcher := p.fetcher.step p.core.mem (p.fetcherCycle i) }

end Wiring

/-!
## Where the core stands
-/

/-- Where the core stands in its segment is where the stream of instructions
stands. -/
structure Stands (p : Processor) : Prop where
  fetcher : p.fetcher.Inv p.core.mem
  abort : p.core.abortCur = p.fetcher.prefetch.abortCur
  ip : p.core.ip.curVal =
    p.fetcher.loadedIp + BitVec.ofNat 16 p.fetcher.position
  settled : p.core.Settled
  aligned : p.core.Aligned

/-- The segment is that of the stream too, unless its change is kept in mind. -/
structure Linked (p : Processor) : Prop extends Stands p where
  cs : p.core.csip.csUpdated = false ->
    p.core.segments.registers .CS = p.fetcher.loadedCs

/-- No interrupt comes, the memory acknowledges only what is outstanding, no
instruction is too long, and what was fetched and not yet taken is not
changed. -/
structure Steady (i : Input) (p : Processor) : Prop where
  nmi : i.nmi = false
  intr : i.intr = false
  ack : i.instrAck = true -> p.fetcher.pending.isSome = true ∨
    p.fetcher.prefetch.memAccess2 = true
  brief : p.fetcher.Brief
  spares : p.fetcher.Spares p.core.mem (p.step i).core.mem

instance (i : Input) (p : Processor) : Decidable (Steady i p) :=
  decidable_of_iff (i.nmi = false ∧ i.intr = false ∧
    (i.instrAck = true -> p.fetcher.pending.isSome = true ∨
      p.fetcher.prefetch.memAccess2 = true) ∧
    p.fetcher.Brief ∧ p.fetcher.Spares p.core.mem (p.step i).core.mem)
    ⟨fun ⟨hnmi, hintr, hack, hbrief, hspares⟩ =>
      ⟨hnmi, hintr, hack, hbrief, hspares⟩,
      fun ⟨hnmi, hintr, hack, hbrief, hspares⟩ =>
        ⟨hnmi, hintr, hack, hbrief, hspares⟩⟩

section Step

variable {i : Input} {p : Processor}

/-- The code segment after a cycle is what goes to the prefetcher in it. -/
theorem step_cs : (p.step i).core.segments.registers .CS =
    prefetchCs p.core := by
  change (if p.core.current.segmentWrEn then
    SegmentRegisterFile.set p.core.segments.registers p.core.segWrSel
      p.core.aluOut else p.core.segments.registers) .CS = _
  unfold prefetchCs Core.csipInput SegmentRegisterFile.set
  dsimp only
  cases p.core.current.segmentWrEn with
  | false =>
      rw [Bool.and_false]
      rfl
  | true =>
      rw [Bool.and_true, if_pos rfl]
      by_cases hcs : p.core.segWrSel = .CS
      · rw [hcs]
        rfl
      · rw [if_neg (fun h => hcs h.symm), if_neg (by simpa using hcs)]

/-- Without a jump the code segment stays, or its change is kept in mind. -/
theorem kept_of_not_load (hload : p.core.loadNewIp = false)
    (hnot : (p.step i).core.csip.csUpdated = false) :
    p.core.csip.csUpdated = false ∧
      p.core.csipInput.csUpdate = false := by
  change (CSIPSync.step p.core.csipInput p.core.csip).csUpdated = false at hnot
  unfold Core.loadNewIp CSIPSync.updateOut at hload
  unfold CSIPSync.step at hnot
  cases hdone : p.core.csipInput.propagate with
  | true =>
      rw [hdone] at hload
      simp only [Bool.true_and, Bool.or_eq_false_iff] at hload
      exact ⟨hload.1.1.2, hload.1.2⟩
  | false =>
      rw [hdone] at hnot
      simpa using hnot

/-- Nothing is offered while an access is being aborted. -/
theorem Stands.empty (h : Stands p) (hsteady : Steady i p)
    (habort : p.core.abortCur = true) :
    (p.coreInput i).instructionEmpty = true := by
  rw [h.abort] at habort
  exact h.fetcher.empty_of_abort hsteady.brief habort

theorem Stands.admits (h : Stands p) (hsteady : Steady i p)
    (htakes : Core.Takes (p.coreInput i) p.core) :
    Fetcher.Admits (p.fetcherCycle i) p.fetcher := by
  refine ⟨rfl, hsteady.ack, fun hload => ?_⟩
  rw [<- h.abort]
  exact htakes.abort hload

theorem Stands.step_abort (h : Stands p) :
    (p.step i).core.abortCur = (p.step i).fetcher.prefetch.abortCur := by
  change (if p.core.abortCur && i.instrAck then false
    else p.core.abortCur || (p.fetcher.prefetch.memAccess2 && !i.instrAck) &&
      p.core.loadNewIp) =
    (if p.fetcher.prefetch.abortCur && i.instrAck then false
    else if (p.fetcher.prefetch.memAccess2 && !i.instrAck) &&
      p.core.loadNewIp then true else p.fetcher.prefetch.abortCur)
  rw [h.abort]
  cases p.fetcher.prefetch.abortCur <;> cases i.instrAck <;>
    cases p.fetcher.prefetch.memAccess2 <;> cases p.core.loadNewIp <;> rfl

theorem Linked.step_cs (h : Linked p)
    (hnot : (p.step i).core.csip.csUpdated = false) :
    (p.step i).core.segments.registers .CS = (p.step i).fetcher.loadedCs := by
  rw [Processor.step_cs]
  change _ = if p.core.loadNewIp then prefetchCs p.core
    else p.fetcher.loadedCs
  cases hload : p.core.loadNewIp with
  | true =>
      rfl
  | false =>
      obtain ⟨hnone, hupdate⟩ := kept_of_not_load hload hnot
      unfold prefetchCs
      rw [hupdate]
      exact h.cs hnone

/-- The queue of instructions moves on with the instruction pointer. -/
theorem Stands.step_ip (h : Stands p) (hsteady : Steady i p)
    (htakes : Core.Takes (p.coreInput i) p.core) :
    (p.step i).core.ip.curVal = (p.step i).fetcher.loadedIp +
      BitVec.ofNat 16 (p.step i).fetcher.position := by
  have hip : (p.step i).core.ip.curVal =
      if p.core.loadNewIp then p.core.newIp
      else if p.core.startingInstruction (p.coreInput i) then
        p.core.ip.curVal +
          p.fetcher.instructionFifo.rdData.length.setWidth 16
      else p.core.ip.curVal := by
    change (IP.step (p.core.ipInput (p.coreInput i)) p.core.ip).curVal = _
    unfold IP.step
    rw [htakes.rollback]
    rfl
  have hloaded : (p.step i).fetcher.loadedIp =
      if p.core.loadNewIp then p.core.newIp else p.fetcher.loadedIp := rfl
  rw [hip, hloaded]
  cases hload : p.core.loadNewIp with
  | true =>
      have hrestart : p.fetcher.restarts p.core.mem (p.fetcherCycle i) =
          true := by
        change (false || (p.core.loadNewIp || _)) = true
        rw [hload]
        rfl
      have hzero : (p.step i).fetcher.position = 0 := by
        unfold Fetcher.position
        rw [show (p.step i).fetcher.taken = [] from if_pos hrestart]
        rfl
      rw [hzero]
      exact (BitVec.add_zero _).symm
  | false =>
      have hoffered (hstart : p.core.startingInstruction (p.coreInput i) =
          true) : p.fetcher.instructionFifo.empty = false :=
        htakes.offered hstart
      rw [if_neg Bool.false_ne_true, if_neg Bool.false_ne_true, h.ip]
      cases hrun : p.fetcher.restarts p.core.mem (p.fetcherCycle i) with
      | true =>
          -- The aborted access has come to its end.
          have habort : p.fetcher.prefetch.abortCur = true := by
            change (false || (p.core.loadNewIp ||
              (p.fetcher.prefetch.abortCur && i.instrAck))) = true at hrun
            rw [hload] at hrun
            simpa using (Bool.and_eq_true_iff.mp hrun).1
          have hempty := h.fetcher.empty_of_abort hsteady.brief habort
          have hstart : p.core.startingInstruction (p.coreInput i) = false := by
            rw [<- Bool.not_eq_true]
            intro hstart
            rw [hoffered hstart] at hempty
            cases hempty
          have hbefore : p.fetcher.position = 0 := by
            have hle := h.fetcher.position_le hsteady.brief
            rw [h.fetcher.placed.nothing habort] at hle
            exact Nat.le_zero.mp hle
          have hafter : (p.step i).fetcher.position = 0 := by
            unfold Fetcher.position
            rw [show (p.step i).fetcher.taken = [] from if_pos hrun]
            rfl
          rw [hstart, hbefore, hafter]
          rfl
      | false =>
          have htaken : (p.step i).fetcher.taken = p.fetcher.taken ++
              (if p.core.startingInstruction (p.coreInput i) &&
                  !p.fetcher.instructionFifo.empty then
                [p.fetcher.instructionFifo.rdData] else []) :=
            Fetcher.step_taken hrun
          unfold Fetcher.position
          rw [htaken]
          cases hstart : p.core.startingInstruction (p.coreInput i) with
          | true =>
              rw [hoffered hstart]
              simp [BitVec.ofNat_add, BitVec.add_assoc]
          | false =>
              simp

theorem Stands.takes (h : Stands p) (horderly : p.core.Orderly)
    (hsteady : Steady i p) : Core.Takes (p.coreInput i) p.core :=
  horderly (p.coreInput i) hsteady.intr (h.empty hsteady)

theorem Stands.step (h : Stands p) (horderly : p.core.Orderly)
    (hsteady : Steady i p) : Stands (p.step i) := by
  have htakes := h.takes horderly hsteady
  exact ⟨h.fetcher.step (h.admits hsteady htakes) hsteady.brief hsteady.spares,
    h.step_abort, h.step_ip hsteady htakes, h.settled.step hsteady.intr,
    h.aligned.step hsteady.intr⟩

theorem Linked.step (h : Linked p) (horderly : p.core.Orderly)
    (hsteady : Steady i p) : Linked (p.step i) :=
  ⟨h.toStands.step horderly hsteady, h.step_cs⟩

end Step

/-!
## The memory
-/

section Stores

variable {i : Input} {p : Processor}

/-- A store of the core is accepted. -/
def stores (i : Input) (p : Processor) : Bool :=
  p.core.accepted (p.coreInput i) && p.core.current.memWrite &&
    !p.core.current.io

theorem mem_of_not_stores (h : stores i p = false) :
    (p.step i).core.mem = p.core.mem :=
  if_neg (Bool.eq_false_iff.mp h)

theorem mem_of_stores {a : BitVec 19} {enables : Bool × Bool} {v : BitVec 16}
    (h : stores i p = true)
    (haddr : LoadStore.mAddr (p.core.loadStoreInput (p.coreInput i))
      p.core.loadStore = a)
    (henables : LoadStore.mBytesel (p.core.loadStoreInput (p.coreInput i))
      p.core.loadStore = enables)
    (hv : LoadStore.mDataOut p.core.loadStore = v) :
    (p.step i).core.mem = Core.writeWord p.core.mem a enables v := by
  subst haddr henables hv
  exact if_pos h

end Stores

end Processor
end Rtl
end S80x86
