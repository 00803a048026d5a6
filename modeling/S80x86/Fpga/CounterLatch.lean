import S80x86.Fpga.TimerPeriod

/-!
# The counter latch

A latch command keeps the count for the reads that follow it.  How many reads
that are, and of which bytes, is what the access mode of the channel says.
-/

open Foundation

namespace S80x86
namespace Fpga
namespace CounterLatch

/-!
## What is observed
-/

inductive Observed where
  /-- A latch command, and the count at that time. -/
  | latched (count : BitVec 16)
  /-- A read, the running count and the byte that was read. -/
  | read (count : BitVec 16) (byte : BitVec 8)
  deriving DecidableEq

/-- The byte that read `n` after a latch command is to give: what the access
mode selects of the latched count, then of the running count. -/
def due (rw : BitVec 2) (n : Nat) (latched running : BitVec 16) : BitVec 8 :=
  if rw = 1#2 then TimerUnit.Regs.low (if n = 0 then latched else running)
  else if rw = 2#2 then
    TimerUnit.Regs.high (if n = 0 then latched else running)
  else
    let count := if n < 2 then latched else running
    if n % 2 = 0 then TimerUnit.Regs.low count else TimerUnit.Regs.high count

/-- The reads since the last latch command and the count at the command. -/
abbrev Since := Option (Nat × BitVec 16)

def follow (since : Since) : Observed -> Since
  | .latched count => some (0, count)
  | .read _ _ => since.map fun (n, latched) => (n + 1, latched)

/-- The reads give the bytes that are due.  Before the first command any byte
will do. -/
def Correct (rw : BitVec 2) : Since -> List Observed -> Prop
  | _, [] => True
  | since, o :: rest =>
      (match since, o with
        | some (n, latched), .read count byte => byte = due rw n latched count
        | _, _ => True) ∧
        Correct rw (follow since o) rest

end CounterLatch

namespace TimerUnit

open CounterLatch

/-!
## The channel
-/

def observed (i : Cycle) (s : Regs) : List Observed :=
  if i.latchCount then [.latched s.count]
  else if i.readCount then [.read s.count s.countOut]
  else []

def observe : Regs -> List Cycle -> List Observed
  | _, [] => []
  | s, i :: rest => observed i s ++ observe (step i s) rest

/-- A cycle with at most one access, which does not change the mode. -/
def Cycle.Accesses (i : Cycle) : Prop :=
  i.reset = false ∧ i.configure = false ∧
    (i.latchCount && i.readCount) = false

/-- Latches, reads and loads in any order, in one access mode. -/
def UnitLatch (rw : BitVec 2) : Prop :=
  forall (s : Regs) (cycles : List Cycle), s.rw = rw ->
    (forall i, i ∈ cycles -> i.Accesses) ->
    Correct rw none (observe s cycles)

/-- When the unit gives the byte that is due for read `n`.  It never gives the
high byte of the running count, keeps a latched count for ever unless both its
bytes are read, and gives the low byte of it in place of the high byte. -/
def Served (rw : BitVec 2) (n : Nat) (latched running : BitVec 16) : Prop :=
  if rw = 1#2 then n = 0 ∨ Regs.low latched = Regs.low running
  else if rw = 2#2 then
    Regs.low latched = Regs.high (if n = 0 then latched else running)
  else n < 2 ∨ n % 2 = 0 ∨ Regs.low running = Regs.high running

instance (rw : BitVec 2) (n : Nat) (latched running : BitVec 16) :
    Decidable (Served rw n latched running) := by
  unfold Served
  infer_instance

def AllServed (rw : BitVec 2) : Since -> Regs -> List Cycle -> Prop
  | _, _, [] => True
  | since, s, i :: rest =>
      (i.readCount = true -> forall n latched, since = some (n, latched) ->
        Served rw n latched s.count) ∧
        AllServed rw ((observed i s).foldl follow since) (step i s) rest

/-- What `latched_count` holds after `n` reads. -/
def HoldsAfter (rw : BitVec 2) (s : Regs) (n : Nat) (latched : BitVec 16) :
    Prop :=
  if rw = 3#2 then
    s.accessLow = true ∧
      (n = 0 ∧ s.latched = 3#2 ∧ s.latchedCount = latched ∨
        n = 1 ∧ s.latched = 1#2 ∧
          Regs.low s.latchedCount = Regs.high latched ∨
        2 ≤ n ∧ s.latched = 0#2)
  else s.latched = 3#2 ∧ s.latchedCount = latched

def Holds (rw : BitVec 2) (s : Regs) (since : Since) : Prop :=
  forall n latched, since = some (n, latched) -> HoldsAfter rw s n latched

theorem holds_none (rw : BitVec 2) (s : Regs) : Holds rw s none := by
  intro n latched h
  cases h

theorem holds_some {rw : BitVec 2} {s : Regs} {n : Nat} {latched : BitVec 16}
    (h : HoldsAfter rw s n latched) : Holds rw s (some (n, latched)) := by
  rintro _ _ ⟨⟩
  exact h

theorem word_or_byte {rw : BitVec 2} (hrw : rw ≠ 0#2) :
    rw = 1#2 ∨ rw = 2#2 ∨ rw = 3#2 := by
  revert rw
  decide

section Cycles

variable {rw : BitVec 2} {i : Cycle} {s : Regs} (hi : i.Accesses)
  (hrw : s.rw = rw)

/-- The byte that the unit gives is the one that is due when the read is
served, and only then. -/
theorem countOut_iff (hmode : rw ≠ 0#2) {n : Nat} {latched : BitVec 16}
    (h : HoldsAfter rw s n latched) :
    s.countOut = due rw n latched s.count ↔ Served rw n latched s.count := by
  rcases word_or_byte hmode with rfl | rfl | rfl
  · obtain ⟨hlatched, hcount⟩ := h
    have hout : s.countOut = Regs.low latched := by
      simp [Regs.countOut, hlatched, hcount]
    rw [hout]
    cases n with
    | zero => simp [due, Served]
    | succ n => simp [due, Served]
  · obtain ⟨hlatched, hcount⟩ := h
    have hout : s.countOut = Regs.low latched := by
      simp [Regs.countOut, hlatched, hcount]
    rw [hout]
    simp [due, Served]
  · obtain ⟨haccess, hreads⟩ := h
    rcases hreads with ⟨rfl, hlatched, hcount⟩ | ⟨rfl, hlatched, hcount⟩ |
      ⟨htwo, hlatched⟩
    · simp [Regs.countOut, due, Served, hlatched, hcount]
    · simp [Regs.countOut, due, Served, hlatched, hcount]
    · have hout : s.countOut = Regs.low s.count := by
        simp [Regs.countOut, hlatched, haccess]
      have hlate : ¬ n < 2 := by omega
      rw [hout]
      by_cases heven : n % 2 = 0
      · simp [due, Served, hlate, heven]
      · simp [due, Served, hlate, heven]

include hi hrw

theorem step_rw : (step i s).rw = rw := by
  simp [step, Regs.nextMode, hi.1, hi.2.1, hrw]

theorem holds_latch (hlatch : i.latchCount = true) :
    HoldsAfter rw (step i s) 0 s.count := by
  have hlatched : (step i s).latched = 3#2 := by
    simp [step, Regs.nextLatched, hi.1, hlatch]
  have hcount : (step i s).latchedCount = s.count := by
    simp [step, Regs.nextLatched, hi.1, hlatch]
  unfold HoldsAfter
  by_cases hword : rw = 3#2
  · rw [if_pos hword]
    refine ⟨?_, Or.inl ⟨rfl, hlatched, hcount⟩⟩
    simp [step, Regs.nextAccessLow, hi.1, hlatch, hrw, hword]
  · rw [if_neg hword]
    exact ⟨hlatched, hcount⟩

/-- The low byte stays selected. -/
theorem accessLow_step (hword : rw = 3#2) (h : s.accessLow = true)
    (hlatch : i.latchCount = false) : (step i s).accessLow = true := by
  simp [step, Regs.nextAccessLow, hi.1, hlatch, hrw, hword, h]

theorem holds_other (hlatch : i.latchCount = false)
    (hread : i.readCount = false) {since : Since} (h : Holds rw s since) :
    Holds rw (step i s) since := by
  have hlatched : (step i s).latched = s.latched := by
    simp [step, Regs.nextLatched, hi.1, hlatch, hread]
  have hcount : (step i s).latchedCount = s.latchedCount := by
    simp [step, Regs.nextLatched, hi.1, hlatch, hread]
  intro n latched hsince
  have hholds := h n latched hsince
  unfold HoldsAfter at *
  rw [hlatched, hcount]
  by_cases hword : rw = 3#2
  · rw [if_pos hword] at hholds ⊢
    exact ⟨accessLow_step hi hrw hword hholds.1 hlatch, hholds.2⟩
  · rw [if_neg hword] at hholds ⊢
    exact hholds

/-- A read of one byte leaves the latch, a read of two bytes shifts it. -/
theorem holds_read (hread : i.readCount = true) {n : Nat}
    {latched : BitVec 16} (h : HoldsAfter rw s n latched) :
    HoldsAfter rw (step i s) (n + 1) latched := by
  have hlatch : i.latchCount = false := by simpa [hread] using hi.2.2
  unfold HoldsAfter at *
  by_cases hword : rw = 3#2
  · rw [if_pos hword] at h ⊢
    have hcount : (step i s).latchedCount =
        (Regs.high s.latchedCount).setWidth 16 := by
      simp [step, Regs.nextLatched, hi.1, hlatch, hread, hrw, hword]
    have hlatched : (step i s).latched =
        (s.latched.extractLsb' 1 1).setWidth 2 := by
      simp [step, Regs.nextLatched, hi.1, hlatch, hread, hrw, hword]
    refine ⟨accessLow_step hi hrw hword h.1 hlatch, ?_⟩
    rw [hlatched, hcount]
    rcases h.2 with ⟨rfl, hthree, hlow⟩ | ⟨rfl, hone, _⟩ | ⟨htwo, hzero⟩
    · refine Or.inr (Or.inl ⟨rfl, ?_, ?_⟩)
      · rw [hthree]
        rfl
      · rw [hlow]
        exact Bits.extractLsb'_low_setWidth _
    · refine Or.inr (Or.inr ⟨by omega, ?_⟩)
      rw [hone]
      rfl
    · refine Or.inr (Or.inr ⟨by omega, ?_⟩)
      rw [hzero]
      rfl
  · rw [if_neg hword] at h ⊢
    have hkept : (step i s).latchedCount = s.latchedCount ∧
        (step i s).latched = s.latched := by
      simp [step, Regs.nextLatched, hi.1, hlatch, hread, hrw, hword]
    rw [hkept.1, hkept.2]
    exact h

end Cycles

theorem correct_iff {rw : BitVec 2} (hmode : rw ≠ 0#2) {cycles : List Cycle}
    (hcycles : forall i, i ∈ cycles -> i.Accesses) {s : Regs}
    (hrw : s.rw = rw) {since : Since} (h : Holds rw s since) :
    Correct rw since (observe s cycles) ↔ AllServed rw since s cycles := by
  induction cycles generalizing s since with
  | nil => simp [observe, Correct, AllServed]
  | cons i rest ih =>
      have hi := hcycles i List.mem_cons_self
      have hnext {since} (h : Holds rw (step i s) since) :=
        ih (fun j hj => hcycles j (List.mem_cons_of_mem i hj))
          (step_rw hi hrw) h
      unfold observe observed AllServed
      cases hlatch : i.latchCount with
      | true =>
          have hread : i.readCount = false := by simpa [hlatch] using hi.2.2
          have hrest := hnext (holds_some (holds_latch hi hrw hlatch))
          simp [Correct, follow, observed, hlatch, hread, hrest]
      | false =>
          cases hread : i.readCount with
          | false =>
              have hrest := hnext (holds_other hi hrw hlatch hread h)
              simp [observed, hlatch, hread, hrest]
          | true =>
              cases since with
              | none =>
                  have hrest := hnext (holds_none rw (step i s))
                  simp [Correct, follow, observed, hlatch, hread, hrest]
              | some reads =>
                  obtain ⟨n, latched⟩ := reads
                  have hholds := h n latched rfl
                  have hrest := hnext (holds_some (holds_read hi hrw hread hholds))
                  have hbyte := countOut_iff hmode hholds
                  simp [Correct, follow, observed, hlatch, hread, hrest, hbyte]

/-- A channel in mode 2 that is about to count on. -/
def counting (rw : BitVec 2) : Regs :=
  { afterReset with
    count := 0x1234#16
    reload := 0x2000#16
    rw := rw
    mode := 2#2
    lastGate := true }

def accessCycle (latch read clk : Bool) : Cycle :=
  { pitCycle clk with latchCount := latch, readCount := read }

/-- A latch, a read, a clock and another read. -/
def latchAndReads : List Cycle :=
  [accessCycle true false false, accessCycle false true false,
    accessCycle false false true, accessCycle false true false]

theorem latchAndReads_access : forall i, i ∈ latchAndReads -> i.Accesses := by
  intro i hi
  simp only [latchAndReads, List.mem_cons, List.not_mem_nil, or_false] at hi
  rcases hi with rfl | rfl | rfl | rfl <;> exact ⟨rfl, rfl, rfl⟩

/-- Two more reads after the latched bytes. -/
def latchAndRunning : List Cycle :=
  accessCycle true false false :: List.replicate 4 (accessCycle false true false)

theorem latchAndRunning_access :
    forall i, i ∈ latchAndRunning -> i.Accesses := by
  intro i hi
  rcases List.mem_cons.mp hi with rfl | hi
  · exact ⟨rfl, rfl, rfl⟩
  · rw [List.eq_of_mem_replicate hi]
    exact ⟨rfl, rfl, rfl⟩

/-- Only reads of two bytes ever clear the latch. -/
theorem not_unitLatch_low : ¬ UnitLatch 1#2 := by
  intro h
  have hrun := h (counting 1#2) latchAndReads rfl latchAndReads_access
  have hserved := (@correct_iff 1#2 (by decide) _ latchAndReads_access _ rfl none
    (holds_none 1#2 _)).mp hrun
  exact absurd (hserved.2.2.2.1 rfl 1 0x1234#16 rfl) (by decide)

/-- The high byte is latched, and the low byte is read. -/
theorem not_unitLatch_high : ¬ UnitLatch 2#2 := by
  intro h
  have hrun := h (counting 2#2) latchAndReads rfl latchAndReads_access
  have hserved := (@correct_iff 2#2 (by decide) _ latchAndReads_access _ rfl none
    (holds_none 2#2 _)).mp hrun
  exact absurd (hserved.2.1 rfl 0 0x1234#16 rfl) (by decide)

/-- After the latched bytes the low byte is read and never the high byte. -/
theorem not_unitLatch_word : ¬ UnitLatch 3#2 := by
  intro h
  have hrun := h (counting 3#2) latchAndRunning rfl latchAndRunning_access
  have hserved := (@correct_iff 3#2 (by decide) _ latchAndRunning_access _ rfl none
    (holds_none 3#2 _)).mp hrun
  exact absurd (hserved.2.2.2.2.1 rfl 3 0x1234#16 rfl) (by decide)

theorem not_unitLatch {rw : BitVec 2} (hmode : rw ≠ 0#2) : ¬ UnitLatch rw := by
  rcases word_or_byte hmode with rfl | rfl | rfl
  · exact not_unitLatch_low
  · exact not_unitLatch_high
  · exact not_unitLatch_word

end TimerUnit
end Fpga

namespace Sim
namespace TimerTick

open Fpga.CounterLatch

/-!
## The simulator
-/

inductive Access where
  /-- A latch command for channel 0, with any mode bits. -/
  | latch (mode : BitVec 3)
  | read
  | write (v : BitVec 8)
  | tick (cycles : BitVec 32)

def latchWord (mode : BitVec 3) : BitVec 8 := mode.setWidth 8 <<< 1

/-- What is observed, and the timer afterwards.  No result stands for
`BadTimer`. -/
def serve : Access -> TimerTick -> Option (List Observed × TimerTick)
  | .latch mode, t =>
      (t.write8 2#16 1 (latchWord mode)).map fun t' =>
        ([.latched t.readCounter], t')
  | .read, t =>
      let result := t.read8 0#16 0
      some ([.read t.readCounter result.1], result.2)
  | .write v, t => (t.write8 0#16 0 v).map fun t' => ([], t')
  | .tick cycles, t => some ([], (t.tick cycles).2)

def observe : List Access -> TimerTick -> Option (List Observed)
  | [], _ => some []
  | e :: rest, t =>
      (serve e t).bind fun (seen, t) => (observe rest t).map (seen ++ ·)

/-- An access that finds no latched byte in its way, and no read of the running
count after a latch command: the command leaves one byte selected for good. -/
def Allowed (rw : BitVec 2) (since : Since) (t : TimerTick) : Access -> Prop
  | .latch _ => t.latched = false ∨ t.latchedVal = t.readCounter
  | .read =>
      since = none ∨
        t.latched = true ∧ (rw = 3#2 ∨ rw = 1#2 ∧ t.accessLow = true)
  | .write _ => t.latched = false ∨ t.accessLow = false
  | .tick _ => True

def AllAllowed (rw : BitVec 2) : Since -> List Access -> TimerTick -> Prop
  | _, [], _ => True
  | since, e :: rest, t =>
      Allowed rw since t e ∧ forall seen t', serve e t = some (seen, t') ->
        AllAllowed rw (seen.foldl follow since) rest t'

/-- A latched value is the count at the last command, and at most one of its
bytes has been read. -/
def Holds (t : TimerTick) (since : Since) : Prop :=
  forall n count, since = some (n, count) -> t.latched = true ->
    t.latchedVal = count ∧ n = if t.accessLow then 0 else 1

theorem Holds.of_unlatched {t : TimerTick} (h : t.latched = false)
    (since : Since) : Holds t since := by
  intro n count _ hlatched
  rw [h] at hlatched
  cases hlatched

theorem Holds.of_eq {t t' : TimerTick} {since : Since} (h : Holds t since)
    (hlatched : t'.latched = t.latched)
    (hval : t'.latchedVal = t.latchedVal)
    (haccess : t'.accessLow = t.accessLow) : Holds t' since := by
  unfold Holds
  rw [hlatched, hval, haccess]
  exact h

/-- What is due does not change with the count and the reload value. -/
theorem doReload_leaves (t : TimerTick) :
    t.doReload.latched = t.latched ∧ t.doReload.latchedVal = t.latchedVal ∧
      t.doReload.accessLow = t.accessLow := by
  -- The fields are compared one by one, so that no count is evaluated.
  cases t
  dsimp only [doReload]
  exact ⟨rfl, rfl, rfl⟩

theorem tick_leaves (cycles : BitVec 32) (t : TimerTick) :
    (t.tick cycles).2.latched = t.latched ∧
      (t.tick cycles).2.latchedVal = t.latchedVal ∧
      (t.tick cycles).2.accessLow = t.accessLow := by
  unfold tick
  split
  next => exact ⟨rfl, rfl, rfl⟩
  next =>
    split
    next =>
      split
      next => exact doReload_leaves t
      next => exact ⟨rfl, rfl, rfl⟩
    next => exact ⟨rfl, rfl, rfl⟩

theorem writeMode_latchWord (mode : BitVec 3) (t : TimerTick) :
    t.writeMode (latchWord mode) =
      some { t with
        access := 0#8
        latched := true
        latchedVal := if t.latched then t.latchedVal else t.readCounter
        accessLow := true } := by
  have hword : latchWord mode >>> 6 = 0#8 ∧
      latchWord mode >>> 4 &&& 0x3#8 = 0#8 ∧
      latchWord mode &&& 0x1#8 = 0#8 := by
    revert mode
    decide
  unfold writeMode
  simp only [hword.1, hword.2.1, hword.2.2]
  cases t.latched <;> simp [readCounter]

/-- An access leaves a latched value that is due, and shows what was due. -/
def Serves (rw : BitVec 2) (t : TimerTick) (since : Since) (e : Access) :
    Prop :=
  exists seen t', serve e t = some (seen, t') ∧
    Holds t' (seen.foldl follow since) ∧
    forall rest, Correct rw (seen.foldl follow since) rest ->
      Correct rw since (seen ++ rest)

section Serves

variable {rw : BitVec 2} {t : TimerTick} {since : Since}

theorem serves_latch (mode : BitVec 3)
    (hallowed : Allowed rw since t (.latch mode)) :
    Serves rw t since (.latch mode) := by
  have hserve : serve (.latch mode) t = some ([.latched t.readCounter],
      { t with
        access := 0#8
        latched := true
        latchedVal := if t.latched then t.latchedVal else t.readCounter
        accessLow := true }) := by
    rw [serve, write8, if_pos ⟨rfl, rfl⟩, writeMode_latchWord mode t]
    rfl
  refine ⟨_, _, hserve, ?_, ?_⟩
  · rintro n count ⟨⟩ _
    refine ⟨?_, rfl⟩
    dsimp only
    split
    next hlatched =>
      rcases hallowed with hfalse | hval
      · rw [hlatched] at hfalse
        cases hfalse
      · exact hval
    next => rfl
  · intro rest hrest
    cases since with
    | none => exact ⟨trivial, hrest⟩
    | some reads => exact ⟨trivial, hrest⟩

/-- The value that a read takes its byte from. -/
def counterVal (t : TimerTick) : BitVec 16 :=
  if t.latched then t.latchedVal else t.readCounter

theorem serve_read_low (h : t.accessLow = true) :
    serve .read t = some
      ([.read t.readCounter (Fpga.TimerUnit.Regs.low t.counterVal)],
        { t with accessLow := false }) := by
  simp [serve, read8, h, Fpga.TimerUnit.Regs.low, counterVal]

theorem serve_read_high (h : t.accessLow = false) :
    serve .read t = some
      ([.read t.readCounter (Fpga.TimerUnit.Regs.high t.counterVal)],
        { t with latched := false }) := by
  simp [serve, read8, h, Fpga.TimerUnit.Regs.high, counterVal]

/-- Nothing is due before the first latch command. -/
theorem serves_read_none : Serves rw t none .read := by
  cases haccess : t.accessLow with
  | true =>
      refine ⟨_, _, serve_read_low haccess, ?_, fun _ hrest => ⟨trivial, hrest⟩⟩
      rintro n count ⟨⟩
  | false =>
      refine ⟨_, _, serve_read_high haccess, ?_, fun _ hrest => ⟨trivial, hrest⟩⟩
      rintro n count ⟨⟩

theorem serves_read (h : Holds t since) (hallowed : Allowed rw since t .read) :
    Serves rw t since .read := by
  rcases since with _ | ⟨n, count⟩
  · exact serves_read_none
  · rcases hallowed with hnone | ⟨hlatched, hmode⟩
    · cases hnone
    · obtain ⟨hval, hreads⟩ := h n count rfl hlatched
      have hcounter : t.counterVal = count := by
        rw [counterVal, if_pos hlatched, hval]
      cases haccess : t.accessLow with
      | true =>
          -- the low byte of the latched value; the high byte stays due
          rw [haccess, if_pos rfl] at hreads
          refine ⟨_, _, serve_read_low haccess, ?_, ?_⟩
          · rintro _ _ ⟨⟩ _
            exact ⟨hval, by rw [hreads]; rfl⟩
          · intro rest hrest
            refine ⟨?_, hrest⟩
            rw [hcounter, hreads]
            rcases hmode with rfl | ⟨rfl, _⟩ <;> rfl
      | false =>
          have hword : rw = 3#2 := by
            rcases hmode with hword | ⟨_, htrue⟩
            · exact hword
            · rw [haccess] at htrue
              cases htrue
          rw [haccess, if_neg (by decide)] at hreads
          refine ⟨_, _, serve_read_high haccess, Holds.of_unlatched rfl _, ?_⟩
          intro rest hrest
          refine ⟨?_, hrest⟩
          rw [hcounter, hreads, hword]
          rfl

theorem serves_write (h : Holds t since) (v : BitVec 8)
    (hallowed : Allowed rw since t (.write v)) :
    Serves rw t since (.write v) := by
  have hserve : serve (.write v) t = some ([], t.writeReload v) := by
    simp [serve, write8]
  refine ⟨_, _, hserve, ?_, fun _ hrest => hrest⟩
  rcases hallowed with hlatched | haccess
  · apply Holds.of_unlatched
    unfold writeReload
    split
    next => exact hlatched
    next => exact (doReload_leaves _).1.trans hlatched
  · have hwrite : t.writeReload v = doReload
        { t with reload := v ++ t.reload.extractLsb' 0 8, enabled := true } := by
      rw [writeReload, if_neg (by simp [haccess])]
    rw [hwrite]
    obtain ⟨hlatched, hval, hlow⟩ := doReload_leaves
      { t with reload := v ++ t.reload.extractLsb' 0 8, enabled := true }
    exact h.of_eq hlatched hval hlow

theorem serves_allowed (h : Holds t since) {e : Access}
    (hallowed : Allowed rw since t e) : Serves rw t since e := by
  cases e with
  | latch mode => exact serves_latch mode hallowed
  | read => exact serves_read h hallowed
  | write v => exact serves_write h v hallowed
  | tick cycles =>
      obtain ⟨hlatched, hval, haccess⟩ := tick_leaves cycles t
      exact ⟨_, _, rfl, h.of_eq hlatched hval haccess, fun _ hrest => hrest⟩

end Serves

theorem correct_accesses {rw : BitVec 2} {accesses : List Access}
    {t : TimerTick} {since : Since} (h : Holds t since)
    (hallowed : AllAllowed rw since accesses t) :
    exists seen, observe accesses t = some seen ∧ Correct rw since seen := by
  induction accesses generalizing t since with
  | nil => exact ⟨[], rfl, by simp [Correct]⟩
  | cons e rest ih =>
      obtain ⟨seen, t', hserve, hholds, hcorrect⟩ :=
        serves_allowed h hallowed.1
      obtain ⟨later, hlater, hrest⟩ := ih hholds (hallowed.2 seen t' hserve)
      refine ⟨seen ++ later, ?_, hcorrect later hrest⟩
      rw [observe, hserve, Option.bind_some]
      dsimp only
      rw [hlater]
      rfl

end TimerTick
end Sim

namespace Fpga
namespace CounterLatch

open Sim.TimerTick (AllAllowed observe)

/-- The channel is right in no access mode for all runs, and in the runs whose
reads are all served.  The simulator is right as long as no latched byte is left
when the next one is latched or the reload value is written, and only latched
bytes are read after a latch command. -/
theorem counter_latch_iff {rw : BitVec 2} (hrw : rw ≠ 0#2) :
    ¬ TimerUnit.UnitLatch rw ∧
      (forall (s : TimerUnit.Regs) (cycles : List TimerUnit.Cycle),
        s.rw = rw -> (forall i, i ∈ cycles -> i.Accesses) ->
        (Correct rw none (TimerUnit.observe s cycles) ↔
          TimerUnit.AllServed rw none s cycles)) ∧
      forall accesses t, AllAllowed rw none accesses t ->
        exists seen, observe accesses t = some seen ∧
          Correct rw none seen := by
  refine ⟨TimerUnit.not_unitLatch hrw, ?_, ?_⟩
  · intro s cycles hs hcycles
    exact TimerUnit.correct_iff hrw hcycles hs (TimerUnit.holds_none rw s)
  · intro accesses t hallowed
    refine Sim.TimerTick.correct_accesses ?_ hallowed
    rintro n count ⟨⟩

/-- Both latched bytes are read and then the low byte of the running count. -/
theorem counter_latch_iff_word :
    Correct 3#2 none (TimerUnit.observe (TimerUnit.counting 3#2)
        (TimerUnit.latchAndRunning.take 4)) ∧
      exists seen, observe [.latch 2#3, .read, .tick 50#32, .read]
          Sim.TimerTick.initial = some seen ∧
        Correct 3#2 none seen := by
  obtain ⟨_, hunit, hsim⟩ :=
    counter_latch_iff (show (3#2 : BitVec 2) ≠ 0#2 by decide)
  constructor
  · refine (hunit _ _ rfl fun i hi => TimerUnit.latchAndRunning_access i
      (List.mem_of_mem_take hi)).mpr ?_
    refine ⟨?_, ?_, ?_, ?_, trivial⟩
    · intro h
      cases h
    · rintro _ _ _ ⟨⟩
      exact Or.inl (by decide)
    · rintro _ _ _ ⟨⟩
      exact Or.inl (by decide)
    · rintro _ _ _ ⟨⟩
      exact Or.inr (Or.inl rfl)
  · apply hsim
    refine ⟨Or.inl rfl, ?_⟩
    rintro _ _ ⟨⟩
    refine ⟨Or.inr ⟨rfl, Or.inl rfl⟩, ?_⟩
    rintro _ _ ⟨⟩
    refine ⟨trivial, ?_⟩
    rintro _ _ ⟨⟩
    refine ⟨Or.inr ⟨rfl, Or.inl rfl⟩, ?_⟩
    rintro _ _ ⟨⟩
    trivial

/-- A latched low byte is read again and again. -/
theorem low_byte_stays_latched :
    ¬ forall rw : BitVec 2, rw ≠ 0#2 ->
      TimerUnit.UnitLatch rw ∧
        forall accesses t, exists seen, observe accesses t = some seen ∧
          Correct rw none seen := by
  intro h
  exact TimerUnit.not_unitLatch_low (h 1#2 (by decide)).1

end CounterLatch
end Fpga
end S80x86
