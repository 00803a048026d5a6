import S80x86.Isa.Reset
import S80x86.Rtl.FetcherProgress
import S80x86.Rtl.Processor

/-!
# Programs in the core with its fetch unit

The fetch unit offers what the memory holds at `CS:IP`, so a program runs in the
whole core, with nothing but a memory around it, if it does not change what was
fetched already.
-/

open Foundation Foundation.Clocked

namespace S80x86
namespace Isa

open Rtl Rtl.Parser

theorem State.reads_of_code {s : State} {bytes : List (BitVec 8)} {n : Nat}
    (h : forall j, (hj : j < bytes.length) -> s.code (n + j) = bytes[j]) :
    s.Reads n bytes := by
  induction bytes generalizing n with
  | nil =>
      trivial
  | cons b rest ih =>
      refine ⟨h 0 (Nat.zero_lt_succ _), ih (fun j hj => ?_)⟩
      have hnext := h (j + 1) (Nat.succ_lt_succ hj)
      rw [List.getElem_cons_succ] at hnext
      rw [<- hnext, Nat.add_assoc, Nat.add_comm 1]

/-!
## What the fetch unit offers
-/

section Supplies

variable {i : Processor.Input} {p : Processor}

/-- A core that asks for an instruction has told the prefetcher where it
stands. -/
theorem asks_updated (h : p.Linked) (hasks : Asks p.core) :
    p.core.loadNewIp = false ∧ p.core.csip.csUpdated = false ∧
      p.core.csipInput.csUpdate = false := by
  rcases hasks with ⟨hdone, hload⟩ | haddr
  · have hnone := hload
    unfold Core.loadNewIp CSIPSync.updateOut at hnone
    rw [show p.core.csipInput.propagate = true from hdone] at hnone
    simp only [Bool.true_and, Bool.or_eq_false_iff] at hnone
    exact ⟨hload, hnone.1.1.2, hnone.1.2⟩
  · have hdone : p.core.doNextInstruction = false := by
      unfold Core.doNextInstruction Core.current
      rw [haddr]
      rfl
    have hword : p.core.current.segmentWrEn = false := by
      unfold Core.current
      rw [haddr]
      rfl
    refine ⟨?_, h.settled haddr, ?_⟩
    · unfold Core.loadNewIp CSIPSync.updateOut Core.csipInput
      simp [hdone]
    · unfold Core.csipInput
      simp [hword]

/-- The next instruction is read at the place where the stream stands. -/
theorem asks_code (h : p.Linked) (hasks : Asks p.core) (j : Nat) :
    (ofArch (p.step i).core.arch).code j =
      (p.step i).core.mem (p.fetcher.address (p.fetcher.position + j)) := by
  obtain ⟨hload, hnot, hupdate⟩ := asks_updated h hasks
  have hcs : (p.step i).core.segments.registers .CS = p.fetcher.loadedCs := by
    rw [Processor.step_cs, Processor.prefetchCs, hupdate]
    exact h.cs hnot
  have hip : (p.step i).core.ip.instructionStartAddr =
      p.fetcher.loadedIp + BitVec.ofNat 16 p.fetcher.position := by
    rw [<- h.ip]
    change (IP.step (p.core.ipInput (p.coreInput i))
      p.core.ip).instructionStartAddr = _
    unfold IP.step Core.ipInput
    dsimp only
    rw [hload]
    rcases hasks with ⟨hdone, -⟩ | haddr
    · rw [hdone, Bool.or_true]
      rfl
    · rw [<- h.aligned haddr]
      exact ite_self _
  change (p.step i).core.mem (Bus.linear
    ((p.step i).core.segments.registers .CS)
    ((p.step i).core.ip.instructionStartAddr + BitVec.ofNat 16 j)) = _
  rw [hcs, hip, BitVec.add_assoc, <- BitVec.ofNat_add]
  rfl

/-- What is offered is the instruction that the program needs next. -/
theorem linked_supplies (h : p.Linked) (hsteady : Processor.Steady i p) :
    Supplies (p.coreInput i) p.core := by
  refine ⟨hsteady.nmi, hsteady.intr, h.empty hsteady,
    fun hasks hempty bytes v hreads hparse => ?_⟩
  obtain ⟨chunk, hchunk, hle, hbytes⟩ := h.fetcher.offers hsteady.brief hempty
  have hcode : (ofArch (p.step i).core.arch).Reads 0 chunk := by
    refine State.reads_of_code (fun j hj => ?_)
    rw [asks_code h hasks, Nat.zero_add, hbytes j hj]
    exact hsteady.spares _ (Nat.le_add_right _ _) (by omega)
  exact hcode.parses_once hreads hchunk hparse

end Supplies

/-!
## Whole runs
-/

section Runs

variable {inputs : Nat -> Processor.Input} {p : Processor}

/-- The memory accepts the accesses of the core again and again and leaves none
of the prefetcher for ever. -/
structure Answers (inputs : Nat -> Processor.Input) (p : Processor) :
    Prop where
  ready : Recurs (fun i => i.ready = true) inputs
  fetches : forall n, exists k, (inputs (n + k)).instrAck = true ∨
    ¬ (trace Processor.step inputs p (n + k)).fetcher.Outstanding

structure Surrounds (inputs : Nat -> Processor.Input) (p : Processor) :
    Prop extends Answers inputs p where
  steady : forall n,
    Processor.Steady (inputs n) (trace Processor.step inputs p n)

/-- What the core sees in each cycle. -/
def coreInputs (inputs : Nat -> Processor.Input) (p : Processor) (n : Nat) :
    Core.Input :=
  (trace Processor.step inputs p n).coreInput (inputs n)

theorem trace_core (inputs : Nat -> Processor.Input) (p : Processor)
    (n : Nat) : trace Core.step (coreInputs inputs p) p.core n =
      (trace Processor.step inputs p n).core := by
  induction n with
  | zero =>
      rfl
  | succ n ih =>
      change (trace Core.step (coreInputs inputs p) p.core n).step
        (coreInputs inputs p n) = _
      rw [ih]
      rfl

theorem Surrounds.after (h : Surrounds inputs p) (n : Nat) :
    Surrounds (after inputs n) (trace Processor.step inputs p n) := by
  refine ⟨⟨h.ready.after n, fun k => ?_⟩, fun k => ?_⟩
  · obtain ⟨j, hj⟩ := h.fetches (n + k)
    rw [Nat.add_assoc] at hj
    refine ⟨j, ?_⟩
    rw [<- trace_add]
    exact hj
  · rw [<- trace_add]
    exact h.steady (n + k)

/-- What every orderly cycle keeps. -/
theorem Surrounds.keeps (h : Surrounds inputs p) {P : Processor -> Prop}
    (hstep : forall i p, P p -> p.core.Orderly -> Processor.Steady i p ->
      P (p.step i)) (hp : P p) {n : Nat}
    (horderly : forall k, k < n ->
      (trace Processor.step inputs p k).core.Orderly) :
    P (trace Processor.step inputs p n) := by
  induction n with
  | zero =>
      exact hp
  | succ n ih =>
      exact hstep _ _ (ih fun k hk => horderly k (Nat.lt_succ_of_lt hk))
        (horderly n (Nat.lt_succ_self n)) (h.steady n)

theorem Surrounds.linked (h : Surrounds inputs p) (hlinked : p.Linked) {n : Nat}
    (horderly : forall k, k < n ->
      (trace Processor.step inputs p k).core.Orderly) :
    (trace Processor.step inputs p n).Linked :=
  h.keeps (fun _ _ hp => hp.step) hlinked horderly

/-- A core that waits is offered an instruction in the end. -/
theorem Surrounds.offers (h : Surrounds inputs p) (hlinked : p.Linked) {n : Nat}
    (horderly : forall k, k < n ->
      (trace Processor.step inputs p k).core.Orderly) :
    exists k, (coreInputs inputs p (n + k)).instructionEmpty = false ∨
      ¬ Waiting (trace Processor.step inputs p (n + k)).core := by
  by_contra hnever
  have hwaiting (k : Nat) :
      Waiting (trace Processor.step inputs p (n + k)).core := by
    by_contra hnot
    exact hnever ⟨k, Or.inr hnot⟩
  have hwaits (k : Nat) :
      (trace Processor.step inputs p (n + k)).core.Orderly ∧
        (trace Processor.step inputs p (n + k)).core.loadNewIp = false := by
    obtain ⟨⟨x, hx⟩, hcalm⟩ := hwaiting k
    exact ⟨hx.orderly hcalm, hx.loadNewIp⟩
  have hlinks (k : Nat) : (trace Processor.step inputs p (n + k)).Linked := by
    refine h.linked hlinked (fun j hj => ?_)
    by_cases hlt : j < n
    · exact horderly j hlt
    · have hsplit : j = n + (j - n) := by omega
      rw [hsplit]
      exact (hwaits (j - n)).1
  have hunbroken : Fetcher.Unbroken
      (fun k => (trace Processor.step inputs p (n + k)).core.mem)
      (fun k => (trace Processor.step inputs p (n + k)).fetcherCycle
        (inputs (n + k)))
      (fun k => (trace Processor.step inputs p (n + k)).fetcher) := by
    refine ⟨fun k => rfl, fun k => (hlinks k).fetcher, fun k => ?_,
      fun k => (h.steady _).brief, fun k => (hwaits k).2, fun k => ?_⟩
    · exact (hlinks k).admits (h.steady _)
        ((hlinks k).takes (hwaits k).1 (h.steady _))
    · obtain ⟨j, hj⟩ := h.fetches (n + k)
      rw [Nat.add_assoc] at hj
      exact ⟨j, hj⟩
  obtain ⟨k, hk⟩ := hunbroken.offers
  exact hnever ⟨k, Or.inl hk⟩

/-- The fetch unit serves the core as long as that is orderly. -/
theorem Surrounds.serves (h : Surrounds inputs p) (hlinked : p.Linked) :
    Serves (coreInputs inputs p) p.core := by
  have horder (n : Nat) (horderly : forall k, k < n ->
      (trace Core.step (coreInputs inputs p) p.core k).Orderly) (k : Nat)
      (hk : k < n) : (trace Processor.step inputs p k).core.Orderly := by
    rw [<- trace_core]
    exact horderly k hk
  refine ⟨fun n => (h.steady n).nmi, fun n => (h.steady n).intr,
    fun n horderly => ?_, h.ready, fun n horderly => ?_⟩
  · rw [trace_core]
    exact linked_supplies (h.linked hlinked (horder n horderly)) (h.steady n)
  · obtain ⟨k, hk⟩ := h.offers hlinked (horder n horderly)
    rw [<- trace_core] at hk
    exact ⟨k, hk⟩

/-- The core with its fetch unit comes to the end of every program. -/
theorem Surrounds.runs {lengths : List Nat} {s s' : State}
    (h : Surrounds inputs p) (hlinked : p.Linked)
    (hbetween : Between s p.core) (hrun : Run lengths s s') :
    exists n, Between s' (trace Processor.step inputs p n).core := by
  obtain ⟨n, -, hn⟩ := core_run_served hbetween hrun (h.serves hlinked)
  rw [trace_core] at hn
  exact ⟨n, hn⟩

/-- The core and its fetch unit in the first cycle after a reset that found no
access in flight. -/
structure Processor.AtReset (p : Processor) : Prop where
  core : Isa.AtReset p.core
  fetcher : exists (mem : Memory) (c : Fetcher.Cycle) (s : Fetcher),
    c.reset = true ∧ p.fetcher = s.step mem c ∧ p.fetcher.pending = none

theorem Processor.AtReset.stands (h : Processor.AtReset p) :
    p.Stands ∧ p.fetcher.loadedCs = 0xffff#16 := by
  obtain ⟨mem, c, s, hreset, hfetcher, hidle⟩ := h.fetcher
  have hrestart : s.restarts mem c = true := by
    rw [Fetcher.restarts, hreset, Bool.true_or]
  have habort : p.fetcher.prefetch.abortCur = false := by
    rw [hfetcher]
    exact if_pos hreset
  have hip : p.fetcher.loadedIp = 0#16 := by
    rw [hfetcher]
    exact if_pos hreset
  have hcs : p.fetcher.loadedCs = 0xffff#16 := by
    rw [hfetcher]
    exact if_pos hreset
  have hzero : p.fetcher.position = 0 := by
    unfold Fetcher.position
    rw [hfetcher, show (s.step mem c).taken = [] from if_pos hrestart]
    rfl
  have hnot : p.core.addr ≠ Core.nextInstructionAddress := by
    rw [h.core.addr]
    decide
  refine ⟨⟨?_, ?_, ?_, fun haddr => absurd haddr hnot,
    fun haddr => absurd haddr hnot⟩, hcs⟩
  · rw [hfetcher]
    rw [hfetcher] at hidle
    exact Fetcher.inv_afterReset hreset hidle
  · rw [h.core.abort, habort]
  · rw [h.core.curVal, hip, hzero]
    rfl

/-- The reset microprogram ends where the fetch unit has started. -/
theorem Surrounds.boots (h : Surrounds inputs p)
    (hreset : Processor.AtReset p) :
    exists n, (trace Processor.step inputs p n).Linked ∧
      Between (State.reset p.core.mem)
        (trace Processor.step inputs p n).core := by
  obtain ⟨hstands, hloaded⟩ := hreset.stands
  obtain ⟨n, hstay, hbetween, hcs⟩ :=
    @reset_reaches (coreInputs inputs p) p.core hreset.core
      (fun k => (h.steady k).nmi) (fun k => (h.steady k).intr)
  simp only [trace_core] at hstay hbetween hcs
  have hkept (k : Nat) (hk : k <= n) :
      (trace Processor.step inputs p k).fetcher.loadedCs = 0xffff#16 := by
    induction k with
    | zero =>
        exact hloaded
    | succ k ih =>
        have hload : (trace Processor.step inputs p k).core.loadNewIp =
            false := by
          unfold Core.loadNewIp CSIPSync.updateOut Core.csipInput
          simp [(hstay k hk).1]
        change (if (trace Processor.step inputs p k).core.loadNewIp then _
          else (trace Processor.step inputs p k).fetcher.loadedCs) = _
        rw [hload]
        exact ih (Nat.le_of_succ_le hk)
  refine ⟨n, ⟨h.keeps (fun _ _ hp => hp.step) hstands
    (fun k hk => (hstay k hk).2), fun _ => ?_⟩, hbetween⟩
  rw [hcs, hkept n (Nat.le_refl n)]

end Runs

/-!
## Programs
-/

section Programs

variable {inputs : Nat -> Processor.Input} {p : Processor} {s s' : State}
  {lengths : List Nat}

/-- Until the program has ended, no interrupt comes and nothing changes what was
fetched and not yet taken. -/
def SteadyUntil (s' : State) (inputs : Nat -> Processor.Input)
    (p : Processor) : Prop :=
  forall n, (forall k, k <= n ->
      ¬ Between s' (trace Processor.step inputs p k).core) ->
    Processor.Steady (inputs n) (trace Processor.step inputs p n)

/-- A program that does not end would be run in such surroundings for ever. -/
theorem Answers.ends (h : Answers inputs p) (hsteady : SteadyUntil s' inputs p)
    (hends : Surrounds inputs p ->
      exists n, Between s' (trace Processor.step inputs p n).core) :
    exists n, Between s' (trace Processor.step inputs p n).core := by
  by_contra hnever
  exact hnever (hends ⟨h, fun n =>
    hsteady n fun k _ hbetween => hnever ⟨k, hbetween⟩⟩)

/-- The core with its fetch unit runs every program that does not change what
was fetched already. -/
theorem processor_run (hlinked : p.Linked) (hbetween : Between s p.core)
    (hrun : Run lengths s s') (hanswers : Answers inputs p)
    (hsteady : SteadyUntil s' inputs p) :
    exists n, Between s' (trace Processor.step inputs p n).core :=
  hanswers.ends hsteady (fun h => h.runs hlinked hbetween hrun)

/-- After a reset it runs the program at the reset vector. -/
theorem processor_boots (hreset : Processor.AtReset p)
    (hrun : Run lengths (State.reset p.core.mem) s')
    (hanswers : Answers inputs p) (hsteady : SteadyUntil s' inputs p) :
    exists n, Between s' (trace Processor.step inputs p n).core := by
  refine hanswers.ends hsteady (fun h => ?_)
  obtain ⟨n, hlinked, hbetween⟩ := h.boots hreset
  obtain ⟨k, hk⟩ := (h.after n).runs hlinked hbetween hrun
  rw [<- trace_add] at hk
  exact ⟨n + k, hk⟩

end Programs

/-!
## A reset
-/

section Boot

/-- A fetch unit that something else has used. -/
def usedFetcher : Fetcher :=
  { prefetch :=
      { nextFetchAddress := 0x0011#16, fetchAddress := 0x0022#16
        nextCs := 0x3333#16, cs := 0x4444#16, abortCur := true
        fetchedHighByte := 0x55#8, writeSecond := true
        nextSequentialFetch := 0x0077#16, memAddress := 0x00005#19
        memAccess2 := false }
    prefetchFifo :=
      { mem := fun _ => 0xaa#8, rdPtr := 1, wrPtr := 4, count := 3 }
    decoder :=
      { state := .STATE_WAIT_SPACE, instruction := .zero, complete := true
        immedStart := false, immedIs8bit := true }
    reader := { immediateBuf := 0x1234#16, bytesRead := 1#2, fetchBusy := true }
    instructionFifo :=
      { mem := fun _ => .zero, rdPtr := 1, wrPtr := 3, count := 2 }
    pending := none, loadedCs := 0x4444#16, loadedIp := 0x0022#16
    fetched := [], consumed := 0, decoded := [], taken := [] }

def resetCycle : Fetcher.Cycle :=
  { reset := true, loadNewIp := false, newCs := 0x3333#16, newIp := 0x0022#16
    memAck := false, instructionFifoRdEn := false }

def bootingProcessor : Processor :=
  { core := booting, fetcher := usedFetcher.step copying resetCycle }

theorem bootingProcessor_atReset : Processor.AtReset bootingProcessor :=
  ⟨booting_atReset, copying, resetCycle, usedFetcher, rfl, rfl, rfl⟩

/-- Of three cycles one is for the prefetcher and one for the core. -/
def sharedBus (n : Nat) : Processor.Input :=
  { nmi := false, intr := false, irq := 0#8, ready := everyThird n
    ioData := 0#16, instrAck := n % 3 == 1 }

theorem sharedBus_answers (p : Processor) : Answers sharedBus p := by
  refine ⟨everyThird_recurs, fun n => ⟨(4 - n % 3) % 3, Or.inl ?_⟩⟩
  change ((n + (4 - n % 3) % 3) % 3 == 1) = true
  rw [beq_iff_eq]
  omega

/-- The processor some cycles after the reset. -/
def booted (n : Nat) : Processor :=
  trace Processor.step sharedBus bootingProcessor n

theorem booted_steady :
    forall n, n < 27 -> Processor.Steady (sharedBus n) (booted n) := by
  decide +kernel

/-- The word is pushed in cycle 23, and nothing else is stored. -/
theorem booted_stores : forall n, n < 27 ->
    Processor.stores (sharedBus n) (booted n) = decide (n = 23) := by
  decide +kernel

theorem booted_mem {n k : Nat} (hle : n + k <= 27)
    (hnot : n + k <= 23 ∨ 23 < n) :
    (booted (n + k)).core.mem = (booted n).core.mem := by
  induction k with
  | zero =>
      rfl
  | succ k ih =>
      rw [<- ih (Nat.le_of_succ_le hle) (hnot.imp_left Nat.le_of_succ_le)]
      refine Processor.mem_of_not_stores ((booted_stores (n + k) hle).trans ?_)
      rw [decide_eq_false_iff_not]
      omega

theorem booted_copied : (booted 27).core.mem = copied 0#16 := by
  have hstep : booted 24 = (booted 23).step (sharedBus 23) := rfl
  have hword : (booted 24).core.mem =
      Core.writeWord (booted 23).core.mem 0x7fff#19 (true, true) 0#16 := by
    rw [hstep]
    exact Processor.mem_of_stores (by decide +kernel) (by decide +kernel)
      (by decide +kernel) (by decide +kernel)
  have hcopying : (booted 23).core.mem = copying :=
    @booted_mem 0 23 (by decide) (Or.inl (Nat.le_refl 23))
  have hlast : (booted 27).core.mem = (booted 24).core.mem :=
    @booted_mem 24 3 (Nat.le_refl 27) (Or.inr (by decide))
  rw [hlast, hword, hcopying]
  funext a
  simp only [Core.writeWord, copied, Machine.storeWord, Machine.storeByte,
    Bool.true_and, beq_iff_eq]
  rfl

theorem reset_copying : Copying (State.reset copying) :=
  ⟨rfl, rfl, rfl, rfl, rfl, by decide⟩

theorem booted_arch :
    ofArch (booted 27).core.arch = skipped (State.reset copying) := by
  have hmem (t : Core) : (ofArch t.arch).mem = t.mem := rfl
  have hcopied : (skipped (State.reset copying)).mem = copied 0#16 :=
    reset_copying.saved_mem
  refine State.ext ?_ ?_ ?_ ?_ ?_
  · funext r
    revert r
    decide +kernel
  · funext r
    cases r <;> decide +kernel
  · decide +kernel
  · decide +kernel
  · rw [hcopied, hmem, booted_copied]

/-- The core waits for the instruction to which the program has jumped. -/
theorem booted_between :
    Between (skipped (State.reset copying)) (booted 27).core := by
  have hbetween (t : Core) (hwaits : Core.Rests t ∧ t.csip.ipUpdated = false ∧
      t.override.overrideActive = false ∧ t.modrm.bpAsBase = false ∧
      t.addr = Core.nextInstructionAddress ∧ t.ip.curVal = t.arch.ip ∧
      Core.Calm t) : Between (ofArch t.arch) t := by
    obtain ⟨hrests, hupdated, hoverride, hbase, haddr, hip, hcalm⟩ := hwaits
    exact ⟨⟨t.arch, rfl, Or.inr
      ⟨⟨hrests, rfl, hupdated, hoverride, hbase⟩, haddr, hip⟩⟩, hcalm⟩
  rw [<- booted_arch]
  exact hbetween _ (by decide +kernel)

/-- A word is pushed and a jump taken, out of the fetch unit. -/
theorem processor_boots_copying :
    exists n, Between (skipped (State.reset copying)) (booted n).core := by
  refine processor_boots bootingProcessor_atReset
    (.next reset_copying.push (.next reset_copying.jump (.done _)))
    (sharedBus_answers _) (fun n hnot => booted_steady n ?_)
  by_contra hle
  exact hnot 27 (Nat.le_of_not_lt hle) booted_between

end Boot

end Isa
end S80x86
