import S80x86.Foundation.Clocked
import S80x86.Rtl.Prefetch

/-!
# The byte stream of the prefetcher

The prefetcher is closed with a memory that answers its accesses after any
number of cycles.  The claim is about the bytes written since the last FIFO
reset: they are the memory bytes from the most recently loaded address on.
-/

namespace S80x86
namespace Rtl
namespace PrefetchStream

open Foundation

/-- What the surroundings choose in one cycle. -/
structure Cycle where
  loadNewIp : Bool
  newCs : BitVec 16
  newIp : BitVec 16
  fifoFull : Bool
  memAck : Bool
  deriving DecidableEq, Repr

/--
The prefetcher, the access the memory has accepted and not yet acknowledged,
the address loaded last and the bytes written since the last FIFO reset.
-/
structure System where
  prefetch : Prefetch
  pending : Option (BitVec 19)
  loadedCs : BitVec 16
  loadedIp : BitVec 16
  written : List (BitVec 8)

/-- The word the memory serves: the accepted access, or the one being requested. -/
def servedAddress (s : System) : BitVec 19 :=
  s.pending.getD s.prefetch.memAddress

def inputs (mem : Memory) (c : Cycle) (s : System) : Prefetch.Inputs :=
  { reset := false
    newCs := c.newCs
    newIp := c.newIp
    loadNewIp := c.loadNewIp
    fifoFull := c.fifoFull
    memAck := c.memAck
    memData := Bus.readWord mem (servedAddress s) }

def nextPending (c : Cycle) (s : System) : Option (BitVec 19) :=
  if c.memAck then none
  else if s.prefetch.memAccess2 then some (servedAddress s)
  else s.pending

def cycle (mem : Memory) (c : Cycle) (s : System) : System :=
  let i := inputs mem c s
  { prefetch := Prefetch.step i s.prefetch
    pending := nextPending c s
    loadedCs := if c.loadNewIp then c.newCs else s.loadedCs
    loadedIp := if c.loadNewIp then c.newIp else s.loadedIp
    written :=
      if Prefetch.fifoReset i s.prefetch then []
      else if Prefetch.fifoWrEn i s.prefetch then
        s.written ++ [Prefetch.fifoWrData i s.prefetch]
      else s.written }

/-- Acknowledges are only given to outstanding accesses. -/
def AcksOutstanding (s : System) (c : Cycle) : Prop :=
  c.memAck = true -> s.pending.isSome ∨ s.prefetch.memAccess2 = true

/--
A jump does not arrive in the cycle that acknowledges an access already being
aborted, and not while an access that is no longer requested is outstanding.
-/
def JumpSeen (s : System) (c : Cycle) : Prop :=
  c.loadNewIp = true ->
    (s.prefetch.abortCur = true -> c.memAck = false) ∧
    (s.prefetch.abortCur = false -> s.prefetch.memAccess2 = false ->
      c.memAck = false -> s.pending = none)

instance (s : System) (c : Cycle) : Decidable (AcksOutstanding s c) := by
  unfold AcksOutstanding
  infer_instance

instance (s : System) (c : Cycle) : Decidable (JumpSeen s c) := by
  unfold JumpSeen
  infer_instance

/-- The system right after a reset cycle, from any register contents. -/
def afterReset (s : Prefetch) (i : Prefetch.Inputs) : System :=
  { prefetch := Prefetch.step { i with reset := true } s
    pending := none
    loadedCs := 0xffff#16
    loadedIp := 0#16
    written := [] }

/-- Byte `k` of the stream that starts at a segment and an offset. -/
def streamByte (mem : Memory) (cs ip : BitVec 16) (k : Nat) : BitVec 8 :=
  mem (Bus.linear cs (ip + BitVec.ofNat 16 k))

/-- The bytes written so far are the first bytes of the loaded stream. -/
def StreamExact (mem : Memory) (s : System) : Prop :=
  s.written = (List.range s.written.length).map
    (streamByte mem s.loadedCs s.loadedIp)

/-!
## The invariant
-/

/-- The registers while no abort is in progress. -/
structure Fetching (mem : Memory) (s : System) : Prop where
  cs : s.prefetch.cs = s.loadedCs
  fetchAddress : s.prefetch.fetchAddress =
    s.loadedIp + BitVec.ofNat 16 s.written.length
  pending : forall a, s.pending = some a ->
    a = Bus.wordAddress s.prefetch.cs s.prefetch.fetchAddress
  memAddress : s.prefetch.memAccess2 = true ->
    s.prefetch.memAddress =
      Bus.wordAddress s.prefetch.cs s.prefetch.fetchAddress
  writeSecond : s.prefetch.writeSecond = true ->
    s.pending = none ∧ s.prefetch.memAccess2 = false ∧
      s.prefetch.fetchedHighByte =
        mem (Bus.linear s.prefetch.cs s.prefetch.fetchAddress)

/-- The registers while the access in flight is being aborted. -/
structure Aborting (s : System) : Prop where
  nextCs : s.prefetch.nextCs = s.loadedCs
  nextFetchAddress : s.prefetch.nextFetchAddress = s.loadedIp
  written : s.written = []
  writeSecond : s.prefetch.writeSecond = false

structure Inv (mem : Memory) (s : System) : Prop where
  stream : StreamExact mem s
  fetching : s.prefetch.abortCur = false -> Fetching mem s
  aborting : s.prefetch.abortCur = true -> Aborting s

theorem streamExact_nil (mem : Memory) {s : System} (h : s.written = []) :
    StreamExact mem s := by
  unfold StreamExact
  rw [h]
  rfl

theorem inv_afterReset (mem : Memory) (s : Prefetch) (i : Prefetch.Inputs) :
    Inv mem (afterReset s i) := by
  refine ⟨streamExact_nil mem rfl, ?_, ?_⟩
  · intro _
    refine ⟨rfl, rfl, ?_, ?_, ?_⟩
    · intro a ha
      cases ha
    · intro h
      simp [afterReset, Prefetch.step, Prefetch.nextMemAccess] at h
    · intro h
      cases h
  · intro h
    cases h

/-- The address the memory serves is the one the prefetcher stands at. -/
theorem Fetching.served {mem : Memory} {s : System} (h : Fetching mem s)
    (hout : s.pending.isSome ∨ s.prefetch.memAccess2 = true) :
    servedAddress s =
      Bus.wordAddress s.prefetch.cs s.prefetch.fetchAddress := by
  unfold servedAddress
  cases hp : s.pending with
  | some a =>
      exact h.pending a hp
  | none =>
      rcases hout with hsome | haccess
      · rw [hp] at hsome
        cases hsome
      · exact h.memAddress haccess

/-- An acknowledged access delivers the byte the prefetcher stands at. -/
theorem fifoWrData_of_ack {mem : Memory} {i : Prefetch.Inputs} {s : Prefetch}
    (hack : i.memAck = true)
    (hdata : i.memData =
      Bus.readWord mem (Bus.wordAddress s.cs s.fetchAddress)) :
    Prefetch.fifoWrData i s = mem (Bus.linear s.cs s.fetchAddress) := by
  unfold Prefetch.fifoWrData
  rw [hdata, if_pos hack]
  cases hodd : s.fetchAddress.getLsbD 0 with
  | false =>
      rw [if_neg (by decide), Bus.readWord_low,
        Bus.lowByteAddress_wordAddress hodd]
  | true =>
      rw [if_pos rfl, Bus.readWord_high, Bus.highByteAddress_wordAddress hodd]

/-- The other byte of the word is kept for an even address only. -/
theorem fetchedHighByte_of_second {mem : Memory} {i : Prefetch.Inputs}
    {s : Prefetch} (hreset : i.reset = false)
    (hsecond : (Prefetch.step i s).writeSecond = true)
    (hdata : i.memData =
      Bus.readWord mem (Bus.wordAddress s.cs s.fetchAddress)) :
    (Prefetch.step i s).fetchedHighByte =
      mem (Bus.linear s.cs (s.fetchAddress + 1#16)) := by
  have hkept : Prefetch.shouldWriteSecondByte i s = true := by
    simpa [Prefetch.step, hreset] using hsecond
  unfold Prefetch.shouldWriteSecondByte at hkept
  simp only [Bool.and_eq_true, Bool.not_eq_true'] at hkept
  obtain ⟨⟨⟨hack, -⟩, heven⟩, -⟩ := hkept
  change (if i.memAck then i.memData.extractLsb' 8 8 else s.fetchedHighByte) = _
  rw [if_pos hack, hdata, Bus.readWord_high,
    Bus.highByteAddress_wordAddress_succ heven]

theorem Fetching.fifoWrData {mem : Memory} {s : System} (h : Fetching mem s)
    (hout : s.pending.isSome ∨ s.prefetch.memAccess2 = true)
    {c : Cycle} (hack : c.memAck = true) :
    Prefetch.fifoWrData (inputs mem c s) s.prefetch =
      mem (Bus.linear s.prefetch.cs s.prefetch.fetchAddress) := by
  refine fifoWrData_of_ack hack ?_
  rw [← h.served hout]
  rfl

/-- Writing the byte the prefetcher stands at extends the stream by one byte. -/
theorem streamExact_append {mem : Memory} {s : System} (h : Fetching mem s)
    (hs : StreamExact mem s) {t : System} {b : BitVec 8}
    (hb : b = mem (Bus.linear s.prefetch.cs s.prefetch.fetchAddress))
    (hw : t.written = s.written ++ [b])
    (hcs : t.loadedCs = s.loadedCs) (hip : t.loadedIp = s.loadedIp) :
    StreamExact mem t := by
  unfold StreamExact at *
  rw [hw, hcs, hip, List.length_append, List.length_singleton,
    List.range_succ, List.map_append, ← hs]
  congr 1
  rw [hb, h.cs, h.fetchAddress]
  rfl

theorem fetchAddress_succ {s : System} {mem : Memory} (h : Fetching mem s)
    (b : BitVec 8) :
    s.prefetch.fetchAddress + 1#16 =
      s.loadedIp + BitVec.ofNat 16 (s.written ++ [b]).length := by
  rw [h.fetchAddress, List.length_append, List.length_singleton,
    BitVec.ofNat_add, BitVec.add_assoc]

/-!
## One cycle
-/

/-- A jump that the prefetcher takes over at once. -/
theorem inv_jump_idle {mem : Memory} {s : System} {c : Cycle}
    (hab : s.prefetch.abortCur = false) (hload : c.loadNewIp = true)
    (hidle : Prefetch.memAccess (inputs mem c s) s.prefetch = false)
    (hnone : nextPending c s = none) : Inv mem (cycle mem c s) := by
  have hl : (inputs mem c s).loadNewIp = true := hload
  have hr : (inputs mem c s).reset = false := rfl
  have hw : (cycle mem c s).written = [] := by
    simp [cycle, Prefetch.fifoReset, hl]
  have habort : (cycle mem c s).prefetch.abortCur = false := by
    simp [cycle, Prefetch.step, Prefetch.nextAbortCur, hr, hab, hidle]
  have hacc : (cycle mem c s).prefetch.memAccess2 = false := by
    simp [cycle, Prefetch.step, Prefetch.nextMemAccess, hl, hidle]
  refine ⟨streamExact_nil mem hw, ?_, ?_⟩
  · intro _
    refine ⟨?_, ?_, ?_, ?_, ?_⟩
    · simp [cycle, Prefetch.step, Prefetch.nextCsReg, hr, hab, hl, hidle,
        hload]
      rfl
    · rw [hw]
      simp [cycle, Prefetch.step, Prefetch.nextFetchAddressReg, hr, hab, hl,
        hidle, hload]
      rfl
    · intro a ha
      have hp : (cycle mem c s).pending = none := hnone
      rw [hp] at ha
      cases ha
    · intro h
      rw [hacc] at h
      cases h
    · intro h
      simp [cycle, Prefetch.step, Prefetch.shouldWriteSecondByte,
        Prefetch.fifoReset, hl] at h
  · intro h
    rw [habort] at h
    cases h

/-- A jump that has to wait for the access in flight. -/
theorem inv_jump_aborting {mem : Memory} {s : System} {c : Cycle}
    (hload : c.loadNewIp = true) (hack : c.memAck = false)
    (hbusy : s.prefetch.abortCur = true ∨ s.prefetch.memAccess2 = true) :
    Inv mem (cycle mem c s) := by
  have hl : (inputs mem c s).loadNewIp = true := hload
  have ha : (inputs mem c s).memAck = false := hack
  have hr : (inputs mem c s).reset = false := rfl
  have hw : (cycle mem c s).written = [] := by
    simp [cycle, Prefetch.fifoReset, hl]
  have habort : (cycle mem c s).prefetch.abortCur = true := by
    rcases hbusy with hab | hacc
    · simp [cycle, Prefetch.step, Prefetch.nextAbortCur, hr, ha, hab]
    · simp [cycle, Prefetch.step, Prefetch.nextAbortCur, Prefetch.memAccess,
        hr, ha, hl, hacc]
  refine ⟨streamExact_nil mem hw, ?_, ?_⟩
  · intro h
    rw [habort] at h
    cases h
  · intro _
    refine ⟨?_, ?_, hw, ?_⟩
    · simp [cycle, Prefetch.step, hr, hl, hload]
      rfl
    · simp [cycle, Prefetch.step, hr, hl, hload]
      rfl
    · simp [cycle, Prefetch.step, Prefetch.shouldWriteSecondByte, ha]

/-- The aborted access is acknowledged and the jump takes effect. -/
theorem inv_abort_done {mem : Memory} {s : System} {c : Cycle}
    (h : Aborting s) (hab : s.prefetch.abortCur = true)
    (hload : c.loadNewIp = false) (hack : c.memAck = true) :
    Inv mem (cycle mem c s) := by
  have hl : (inputs mem c s).loadNewIp = false := hload
  have ha : (inputs mem c s).memAck = true := hack
  have hr : (inputs mem c s).reset = false := rfl
  have hw : (cycle mem c s).written = [] := by
    simp [cycle, Prefetch.fifoReset, hab, ha]
  refine ⟨streamExact_nil mem hw, ?_, ?_⟩
  · intro _
    refine ⟨?_, ?_, ?_, ?_, ?_⟩
    · simpa [cycle, Prefetch.step, Prefetch.nextCsReg, hr, hab, ha, hload]
        using h.nextCs
    · rw [hw]
      simpa [cycle, Prefetch.step, Prefetch.nextFetchAddressReg, hr, hab, ha,
        hload] using h.nextFetchAddress
    · intro a hp
      simp [cycle, nextPending, hack] at hp
    · intro hacc
      simp [cycle, Prefetch.step, Prefetch.nextMemAccess, ha] at hacc
    · intro hsec
      simp [cycle, Prefetch.step, Prefetch.shouldWriteSecondByte, hab] at hsec
  · intro h'
    simp [cycle, Prefetch.step, Prefetch.nextAbortCur, hr, hab, ha] at h'

theorem inv_abort_wait {mem : Memory} {s : System} {c : Cycle}
    (h : Aborting s) (hab : s.prefetch.abortCur = true)
    (hload : c.loadNewIp = false) (hack : c.memAck = false) :
    Inv mem (cycle mem c s) := by
  have hl : (inputs mem c s).loadNewIp = false := hload
  have ha : (inputs mem c s).memAck = false := hack
  have hr : (inputs mem c s).reset = false := rfl
  have hw : (cycle mem c s).written = [] := by
    simp [cycle, Prefetch.fifoReset, Prefetch.fifoWrEn, hab, ha, hl, h.written]
  refine ⟨streamExact_nil mem hw, ?_, ?_⟩
  · intro h'
    simp [cycle, Prefetch.step, Prefetch.nextAbortCur, hr, hab, ha, hl] at h'
  · intro _
    refine ⟨?_, ?_, hw, ?_⟩
    · simpa [cycle, Prefetch.step, hr, hl, hload] using h.nextCs
    · simpa [cycle, Prefetch.step, hr, hl, hload] using h.nextFetchAddress
    · simp [cycle, Prefetch.step, Prefetch.shouldWriteSecondByte, ha]

/-- An acknowledged word delivers its first byte and keeps the second. -/
theorem inv_fetch_ack {mem : Memory} {s : System} {c : Cycle}
    (hinv : Inv mem s) (hab : s.prefetch.abortCur = false)
    (hload : c.loadNewIp = false) (hack : c.memAck = true)
    (hout : s.pending.isSome ∨ s.prefetch.memAccess2 = true) :
    Inv mem (cycle mem c s) := by
  have hl : (inputs mem c s).loadNewIp = false := hload
  have ha : (inputs mem c s).memAck = true := hack
  have hr : (inputs mem c s).reset = false := rfl
  have h := hinv.fetching hab
  have hbyte := h.fifoWrData hout hack
  have hw : (cycle mem c s).written =
      s.written ++ [Prefetch.fifoWrData (inputs mem c s) s.prefetch] := by
    simp [cycle, Prefetch.fifoReset, Prefetch.fifoWrEn, hab, ha, hl]
  have hcs : (cycle mem c s).prefetch.cs = s.prefetch.cs := by
    simp [cycle, Prefetch.step, Prefetch.nextCsReg, hr, hab, hl]
  have hfa : (cycle mem c s).prefetch.fetchAddress =
      s.prefetch.fetchAddress + 1#16 := by
    simp [cycle, Prefetch.step, Prefetch.nextFetchAddressReg, hr, hab, ha, hl]
  have hlcs : (cycle mem c s).loadedCs = s.loadedCs := by
    simp [cycle, hload]
  have hlip : (cycle mem c s).loadedIp = s.loadedIp := by
    simp [cycle, hload]
  have hpend : (cycle mem c s).pending = none := by
    simp [cycle, nextPending, hack]
  have hacc : (cycle mem c s).prefetch.memAccess2 = false := by
    simp [cycle, Prefetch.step, Prefetch.nextMemAccess, ha]
  refine ⟨streamExact_append h hinv.stream hbyte hw hlcs hlip, ?_, ?_⟩
  · intro _
    refine ⟨?_, ?_, ?_, ?_, ?_⟩
    · rw [hcs, hlcs]
      exact h.cs
    · rw [hfa, hlip, hw]
      exact fetchAddress_succ h _
    · intro a hp
      rw [hpend] at hp
      cases hp
    · intro h'
      rw [hacc] at h'
      cases h'
    · intro hsec
      refine ⟨hpend, hacc, ?_⟩
      rw [hcs, hfa]
      refine fetchedHighByte_of_second hr hsec ?_
      rw [← h.served hout]
      rfl
  · intro h'
    simp [cycle, Prefetch.step, Prefetch.nextAbortCur, Prefetch.memAccess,
      hr, hab, ha] at h'

theorem inv_fetch_second {mem : Memory} {s : System} {c : Cycle}
    (hinv : Inv mem s) (hab : s.prefetch.abortCur = false)
    (hload : c.loadNewIp = false) (hack : c.memAck = false)
    (hsec : s.prefetch.writeSecond = true) : Inv mem (cycle mem c s) := by
  have hl : (inputs mem c s).loadNewIp = false := hload
  have ha : (inputs mem c s).memAck = false := hack
  have hr : (inputs mem c s).reset = false := rfl
  have h := hinv.fetching hab
  rcases h.writeSecond hsec with ⟨hpend, hacc, hbyte⟩
  have hw : (cycle mem c s).written =
      s.written ++ [s.prefetch.fetchedHighByte] := by
    simp [cycle, Prefetch.fifoReset, Prefetch.fifoWrEn, Prefetch.fifoWrData,
      hab, ha, hl, hsec]
  have hcs : (cycle mem c s).prefetch.cs = s.prefetch.cs := by
    simp [cycle, Prefetch.step, Prefetch.nextCsReg, hr, hab, hl]
  have hfa : (cycle mem c s).prefetch.fetchAddress =
      s.prefetch.fetchAddress + 1#16 := by
    simp [cycle, Prefetch.step, Prefetch.nextFetchAddressReg, hr, hab, ha, hl,
      hsec]
  have hlcs : (cycle mem c s).loadedCs = s.loadedCs := by
    simp [cycle, hload]
  have hlip : (cycle mem c s).loadedIp = s.loadedIp := by
    simp [cycle, hload]
  refine ⟨streamExact_append h hinv.stream hbyte hw hlcs hlip, ?_, ?_⟩
  · intro _
    refine ⟨?_, ?_, ?_, ?_, ?_⟩
    · rw [hcs, hlcs]
      exact h.cs
    · rw [hfa, hlip, hw]
      exact fetchAddress_succ h _
    · intro a hp
      simp [cycle, nextPending, hack, hacc, hpend] at hp
    · intro h'
      simp [cycle, Prefetch.step, Prefetch.nextMemAccess, hsec] at h'
    · intro h'
      simp [cycle, Prefetch.step, Prefetch.shouldWriteSecondByte, ha] at h'
  · intro h'
    simp [cycle, Prefetch.step, Prefetch.nextAbortCur, Prefetch.memAccess,
      hr, hab, hl] at h'

theorem inv_fetch_wait {mem : Memory} {s : System} {c : Cycle}
    (hinv : Inv mem s) (hab : s.prefetch.abortCur = false)
    (hload : c.loadNewIp = false) (hack : c.memAck = false)
    (hsec : s.prefetch.writeSecond = false) : Inv mem (cycle mem c s) := by
  have hl : (inputs mem c s).loadNewIp = false := hload
  have ha : (inputs mem c s).memAck = false := hack
  have hr : (inputs mem c s).reset = false := rfl
  have h := hinv.fetching hab
  have hw : (cycle mem c s).written = s.written := by
    simp [cycle, Prefetch.fifoReset, Prefetch.fifoWrEn, hab, ha, hl, hsec]
  have hcs : (cycle mem c s).prefetch.cs = s.prefetch.cs := by
    simp [cycle, Prefetch.step, Prefetch.nextCsReg, hr, hab, hl]
  have hfa : (cycle mem c s).prefetch.fetchAddress =
      s.prefetch.fetchAddress := by
    simp [cycle, Prefetch.step, Prefetch.nextFetchAddressReg, hr, hab, ha, hl,
      hsec]
  have hlcs : (cycle mem c s).loadedCs = s.loadedCs := by
    simp [cycle, hload]
  have hlip : (cycle mem c s).loadedIp = s.loadedIp := by
    simp [cycle, hload]
  refine ⟨?_, ?_, ?_⟩
  · unfold StreamExact
    rw [hw, hlcs, hlip]
    exact hinv.stream
  · intro _
    refine ⟨?_, ?_, ?_, ?_, ?_⟩
    · rw [hcs, hlcs]
      exact h.cs
    · rw [hfa, hlip, hw]
      exact h.fetchAddress
    · intro a hp
      rw [hcs, hfa]
      have hp' : nextPending c s = some a := hp
      unfold nextPending at hp'
      rw [hack] at hp'
      cases hacc : s.prefetch.memAccess2 with
      | false =>
          rw [hacc] at hp'
          exact h.pending a hp'
      | true =>
          rw [hacc] at hp'
          cases hp'
          exact h.served (Or.inr hacc)
    · intro _
      rw [hcs, hfa]
      simp [cycle, Prefetch.step, Prefetch.nextAddress, ha]
    · intro h'
      simp [cycle, Prefetch.step, Prefetch.shouldWriteSecondByte, ha] at h'
  · intro h'
    simp [cycle, Prefetch.step, Prefetch.nextAbortCur, Prefetch.memAccess,
      hr, hab, hl] at h'

theorem inv_cycle {mem : Memory} (s : System) (c : Cycle) (h : Inv mem s)
    (hok : AcksOutstanding s c ∧ JumpSeen s c) : Inv mem (cycle mem c s) := by
  rcases hok with ⟨hacks, hjump⟩
  cases hload : c.loadNewIp with
  | true =>
      rcases hjump hload with ⟨hrace, hdropped⟩
      cases hab : s.prefetch.abortCur with
      | true =>
          exact inv_jump_aborting hload (hrace hab) (Or.inl hab)
      | false =>
          cases hack : c.memAck with
          | true =>
              apply inv_jump_idle hab hload
              · simp [Prefetch.memAccess, inputs, hack]
              · simp [nextPending, hack]
          | false =>
              cases hacc : s.prefetch.memAccess2 with
              | true =>
                  exact inv_jump_aborting hload hack (Or.inr hacc)
              | false =>
                  apply inv_jump_idle hab hload
                  · simp [Prefetch.memAccess, hacc]
                  · simpa [nextPending, hack, hacc] using
                      hdropped hab hacc hack
  | false =>
      cases hab : s.prefetch.abortCur with
      | true =>
          cases hack : c.memAck with
          | true =>
              exact inv_abort_done (h.aborting hab) hab hload hack
          | false =>
              exact inv_abort_wait (h.aborting hab) hab hload hack
      | false =>
          cases hack : c.memAck with
          | true =>
              exact inv_fetch_ack h hab hload hack (hacks hack)
          | false =>
              cases hsec : s.prefetch.writeSecond with
              | true =>
                  exact inv_fetch_second h hab hload hack hsec
              | false =>
                  exact inv_fetch_wait h hab hload hack hsec

/-!
## Whole runs
-/

/--
Along every run in which no jump falls into one of the two blind spots, the
bytes written since the last FIFO reset are exactly the loaded stream.
-/
theorem prefetch_stream_exact (mem : Memory) (s : Prefetch)
    (i : Prefetch.Inputs) (cycles : List Cycle)
    (hrun : Clocked.Admissible (cycle mem)
      (fun s c => AcksOutstanding s c ∧ JumpSeen s c) (afterReset s i)
      cycles) :
    StreamExact mem (Clocked.run (cycle mem) (afterReset s i) cycles) :=
  (Clocked.run_invariant (fun s c h hok => inv_cycle s c h hok)
    (inv_afterReset mem s i) hrun).stream

/-- A cycle in which nothing happens. -/
def quiet : Cycle :=
  { loadNewIp := false, newCs := 0#16, newIp := 0#16, fifoFull := false
    memAck := false }

def jumpTo (cs ip : BitVec 16) : Cycle :=
  { quiet with loadNewIp := true, newCs := cs, newIp := ip }

def acked (c : Cycle) : Cycle :=
  { c with memAck := true }

/-- Registers that all hold zero, as a simulator starts them. -/
def zeroed : Prefetch :=
  { nextFetchAddress := 0#16, fetchAddress := 0#16, nextCs := 0#16
    cs := 0#16, abortCur := false, fetchedHighByte := 0#8
    writeSecond := false, nextSequentialFetch := 0#16
    memAddress := 0#19, memAccess2 := false }

def idleInputs : Prefetch.Inputs :=
  { reset := false, newCs := 0#16, newIp := 0#16, loadNewIp := false
    fifoFull := false, memAck := false, memData := 0#16 }

/-- A memory whose bytes name the page they are in. -/
def pageMemory : Memory :=
  fun a => (a >>> 12).setWidth 8

/-- Two jumps, the second in the cycle that acknowledges the aborted access. -/
def lostJump : List Cycle :=
  [quiet, jumpTo 0x100#16 0#16, acked (jumpTo 0x200#16 0#16), quiet,
    acked quiet]

/-- After the lost jump the FIFO receives a byte of the first jump's target. -/
theorem prefetch_jump_lost :
    Clocked.Admissible (cycle pageMemory) AcksOutstanding
        (afterReset zeroed idleInputs) lostJump ∧
      (Clocked.run (cycle pageMemory) (afterReset zeroed idleInputs)
        lostJump).loadedCs = 0x200#16 ∧
      ¬ StreamExact pageMemory
        (Clocked.run (cycle pageMemory) (afterReset zeroed idleInputs)
          lostJump) := by
  refine ⟨?_, by decide, ?_⟩
  · simp only [lostJump, Clocked.admissible_cons, Clocked.admissible_nil,
      and_true]
    decide
  · unfold StreamExact
    decide

/-- One jump while an access is in flight, and the first byte of its target. -/
theorem prefetch_stream_exact_one_jump :
    StreamExact pageMemory
      (Clocked.run (cycle pageMemory) (afterReset zeroed idleInputs)
        [quiet, jumpTo 0x200#16 1#16, acked quiet, quiet, acked quiet]) := by
  apply prefetch_stream_exact
  simp only [Clocked.admissible_cons, Clocked.admissible_nil, and_true]
  decide

end PrefetchStream
end Rtl
end S80x86
