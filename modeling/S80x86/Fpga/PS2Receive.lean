import S80x86.Fpga.PS2Periods

/-!
# Receiving PS/2 frames

A frame of the device is a start bit, the data with its low bit first, a parity
bit and a stop bit.  The host goes through the same conditions in each frame
and ends where it began, so that one frame leaves nothing to the next.
-/

open Foundation

namespace S80x86
namespace Fpga
namespace PS2Host

/-!
## Frames
-/

structure Frame where
  data : BitVec 8
  parity : Bool
  stop : Bool

def dataBits (v : BitVec 8) : List Bool := (List.range 8).map v.getLsbD

def Frame.bits (f : Frame) : List Bool :=
  false :: (dataBits f.data ++ [f.parity, f.stop])

/-- An even number of ones. -/
def evenParity (bits : List Bool) : Bool := bits.count true % 2 == 0

/-- What the host tells of a frame. -/
def Frame.received (f : Frame) : BitVec 8 × Bool :=
  (f.data, evenParity (dataBits f.data ++ [f.parity]))

/-- The bit that a period carries. -/
def Period.bit (p : Period) : Bool := p.fall.deviceDat

/-- `rx` and `error`, in the cycles with `rx_valid`. -/
def rxOut (s : Regs) : List (BitVec 8 × Bool) :=
  if s.rxValid then [(s.rx, s.error)] else []

theorem rxOut_of_no_sample (s : Regs) (h : s.doSample = false) :
    rxOut s = [] := by
  simp [rxOut, Regs.rxValid, h]

/-!
## Parity
-/

theorem foldl_xor (bits : List Bool) (a : Bool) :
    bits.foldl (fun parity b => parity ^^ b) a =
      (a ^^ !evenParity bits) := by
  induction bits generalizing a with
  | nil => simp [evenParity]
  | cons b bits ih =>
      rw [List.foldl_cons, ih]
      cases b with
      | false => simp [evenParity]
      | true =>
          have hflip : evenParity (true :: bits) = !evenParity bits := by
            unfold evenParity
            rw [List.count_cons_self]
            rcases Nat.mod_two_eq_zero_or_one (bits.count true) with h | h
            · simp [h, Nat.add_mod]
            · simp [h, Nat.add_mod]
          rw [hflip]
          cases a <;> cases evenParity bits <;> rfl

theorem xnorReduce_eq {n : Nat} (v : BitVec n) :
    Regs.xnorReduce v = evenParity ((List.range n).map v.getLsbD) := by
  have hfold := foldl_xor ((List.range n).map v.getLsbD) false
  rw [List.foldl_map] at hfold
  rw [Regs.xnorReduce, hfold]
  simp

theorem xnorReduce_frame (v : BitVec 8) (p : Bool) :
    Regs.xnorReduce (v ++ BitVec.ofBool p) =
      evenParity (dataBits v ++ [p]) := by
  have hbits : (List.range (8 + 1)).map (v ++ BitVec.ofBool p).getLsbD =
      p :: dataBits v := by
    rw [List.range_succ_eq_map, List.map_cons, List.map_map]
    congr 1
    · rw [BitVec.getLsbD_append]
      cases p <;> rfl
    · apply List.map_congr_left
      intro k _
      rw [Function.comp_apply, BitVec.getLsbD_append, if_neg (by omega),
        Nat.succ_sub_one]
  rw [xnorReduce_eq, hbits]
  unfold evenParity
  rw [List.count_append, List.count_cons, List.count_singleton, Nat.add_comm]

/-!
## Conditions
-/

def AwaitsStart (s : Regs) : Prop := s.state = .idle

/-- The first `k` bits of the data are in. -/
structure AwaitsBit (d : BitVec 8) (k : Nat) (s : Regs) : Prop where
  state : s.state = if k < 8 then .rx else .rxParity
  bitpos : k < 8 -> s.bitpos.toNat = k
  rx : forall j, j < k -> s.rx.getLsbD (8 - k + j) = d.getLsbD j

structure AwaitsStop (f : Frame) (s : Regs) : Prop where
  state : s.state = .stop
  rx : s.rx = f.data
  error : s.error = evenParity (dataBits f.data ++ [f.parity])

theorem waits_start : Waits AwaitsStart where
  kept i s hi hnone hs := by
    have hstate : s.state = .idle := hs
    simp [AwaitsStart, step, Regs.nextState, hi.1, hi.2, hstate, hnone]
  released s hs := by
    rw [show s.state = .idle from hs]
    decide

theorem waits_bit (d : BitVec 8) (k : Nat) : Waits (AwaitsBit d k) where
  kept i s hi hnone hs := by
    obtain ⟨hstate, hbitpos, hrx⟩ := hs
    by_cases hk : k < 8
    · rw [if_pos hk] at hstate
      refine ⟨?_, ?_, ?_⟩
      · simp [step, Regs.nextState, hi.1, hi.2, hstate, hnone, hk]
      · simpa [step, Regs.nextBitpos, hstate, hnone] using hbitpos
      · simpa [step, Regs.nextRx, hstate, hnone] using hrx
    · rw [if_neg hk] at hstate
      refine ⟨?_, fun h => absurd h hk, ?_⟩
      · simp [step, Regs.nextState, hi.1, hi.2, hstate, hnone, hk]
      · simpa [step, Regs.nextRx, hstate] using hrx
  released s hs := by
    rw [hs.state]
    split <;> decide

theorem AwaitsBit.data {d : BitVec 8} {s : Regs} (hs : AwaitsBit d 8 s) :
    s.rx = d := by
  apply BitVec.eq_of_getLsbD_eq
  intro j hj
  have h := hs.rx j hj
  rwa [Nat.sub_self, Nat.zero_add] at h

theorem waits_stop (f : Frame) : Waits (AwaitsStop f) where
  kept i s hi hnone hs := by
    obtain ⟨hstate, hrx, herror⟩ := hs
    refine ⟨?_, ?_, ?_⟩
    · simp [step, Regs.nextState, hi.1, hi.2, hstate, hnone]
    · simpa [step, Regs.nextRx, hstate] using hrx
    · simpa [step, Regs.nextError, hi.1, hstate] using herror
  released s hs := by
    rw [hs.state]
    decide

/-!
## Samples
-/

theorem getLsbD_shifted (b : Bool) (v : BitVec 8) {k : Nat} (hk : k < 8) :
    (BitVec.ofBool b ++ v.extractLsb' 1 7).getLsbD k =
      if k < 7 then v.getLsbD (1 + k) else b := by
  rw [BitVec.getLsbD_append]
  by_cases hlt : k < 7
  · rw [if_pos hlt, if_pos hlt, BitVec.getLsbD_extractLsb', decide_eq_true hlt,
      Bool.true_and]
  · have hseven : k = 7 := by omega
    subst hseven
    cases b <;> rfl

section Samples

variable {i : Cycle} {s : Regs} (hi : i.Quiet) (hsample : s.doSample = true)
include hi hsample

theorem sample_start (hs : AwaitsStart s) (hdat : s.datSync.p2 = false)
    (d : BitVec 8) : AwaitsBit d 0 (step i s) := by
  have hstate : s.state = .idle := hs
  refine ⟨?_, fun _ => ?_, fun j hj => absurd hj (Nat.not_lt_zero j)⟩
  · simp [step, Regs.nextState, hi.1, hi.2, hstate, hsample, hdat]
  · simp [step, Regs.nextBitpos, hstate]

/-- The bits in `rx` move down by one. -/
theorem sample_bit {d : BitVec 8} {k : Nat} (hk : k < 8)
    (hs : AwaitsBit d k s) (hdat : s.datSync.p2 = d.getLsbD k) :
    AwaitsBit d (k + 1) (step i s) := by
  obtain ⟨hstate, hbitpos, hrx⟩ := hs
  rw [if_pos hk] at hstate
  have hpos := hbitpos hk
  have hshift : (step i s).rx =
      BitVec.ofBool s.datSync.p2 ++ s.rx.extractLsb' 1 7 := by
    simp [step, Regs.nextRx, hstate, hsample]
  refine ⟨?_, ?_, ?_⟩
  · by_cases hlast : k = 7
    · subst hlast
      have hseven : s.bitpos = 7#3 := BitVec.eq_of_toNat_eq hpos
      simp [step, Regs.nextState, hi.1, hi.2, hstate, hsample, hseven]
    · have hne : s.bitpos ≠ 7#3 := by
        intro heq
        rw [heq] at hpos
        exact hlast hpos.symm
      rw [if_pos (by omega)]
      simp [step, Regs.nextState, hi.1, hi.2, hstate, hne]
  · intro hlt
    have hnext : (step i s).bitpos = s.bitpos + 1#3 := by
      simp [step, Regs.nextBitpos, hstate, hsample]
    rw [hnext, BitVec.toNat_add, hpos, BitVec.toNat_ofNat]
    omega
  · intro j hj
    rw [hshift, hdat, getLsbD_shifted _ _ (by omega)]
    by_cases hnew : j = k
    · subst hnew
      exact if_neg (by omega)
    · have hindex : 1 + (8 - (k + 1) + j) = 8 - k + j := by omega
      rw [if_pos (by omega), hindex]
      exact hrx j (by omega)

theorem sample_parity {f : Frame} (hs : AwaitsBit f.data 8 s)
    (hdat : s.datSync.p2 = f.parity) : AwaitsStop f (step i s) := by
  have hstate : s.state = .rxParity := hs.state
  refine ⟨?_, ?_, ?_⟩
  · simp [step, Regs.nextState, hi.1, hi.2, hstate, hsample]
  · simp [step, Regs.nextRx, hstate, hs.data]
  · rw [<- xnorReduce_frame]
    simp [step, Regs.nextError, hi.1, hstate, hsample, hdat, hs.data]

theorem sample_stop {f : Frame} (hs : AwaitsStop f s) :
    AwaitsStart (step i s) ∧ rxOut s = [f.received] := by
  obtain ⟨hstate, hrx, herror⟩ := hs
  constructor
  · simp [AwaitsStart, step, Regs.nextState, hi.1, hi.2, hstate, hsample]
  · simp [rxOut, Regs.rxValid, hstate, hsample, hrx, herror, Frame.received]

end Samples

/-!
## Whole frames
-/

/-- The host leaves the data to the device. -/
theorem ps2Dat_of_released {s : Regs} (h : s.driveDat = false) (i : Cycle) :
    s.ps2Dat i = i.deviceDat := by
  simp [Regs.ps2Dat, Regs.hostDat, h]

theorem rxOut_of_not_stop {s : Regs} (h : s.state ≠ .stop) : rxOut s = [] := by
  simp [rxOut, Regs.rxValid, h]

theorem start_leads (p : Period) (hbit : p.bit = false) (d : BitVec 8) :
    Leads rxOut AwaitsStart p.cycles [] (AwaitsBit d 0) := by
  apply period_leads rxOut_of_no_sample waits_start (waits_bit d 0)
  intro i s s' hi hsample hs hs' hdat
  have hstate : s.state = .idle := hs
  have hstate' : s'.state = .idle := hs'
  rw [ps2Dat_of_released (by simp [Regs.driveDat, hstate'])] at hdat
  refine ⟨sample_start hi hsample hs (hdat.trans hbit) d, ?_⟩
  exact rxOut_of_not_stop (by rw [hstate]; decide)

theorem bit_leads (p : Period) {d : BitVec 8} {k : Nat} (hk : k < 8)
    (hbit : p.bit = d.getLsbD k) :
    Leads rxOut (AwaitsBit d k) p.cycles [] (AwaitsBit d (k + 1)) := by
  apply period_leads rxOut_of_no_sample (waits_bit d k) (waits_bit d (k + 1))
  intro i s s' hi hsample hs hs' hdat
  have hstate : s.state = .rx := hs.state.trans (if_pos hk)
  have hstate' : s'.state = .rx := hs'.state.trans (if_pos hk)
  rw [ps2Dat_of_released (by simp [Regs.driveDat, hstate'])] at hdat
  refine ⟨sample_bit hi hsample hk hs (hdat.trans hbit), ?_⟩
  exact rxOut_of_not_stop (by rw [hstate]; decide)

theorem parity_leads (p : Period) (f : Frame) (hbit : p.bit = f.parity) :
    Leads rxOut (AwaitsBit f.data 8) p.cycles [] (AwaitsStop f) := by
  apply period_leads rxOut_of_no_sample (waits_bit f.data 8) (waits_stop f)
  intro i s s' hi hsample hs hs' hdat
  have hstate : s.state = .rxParity := hs.state
  have hstate' : s'.state = .rxParity := hs'.state
  rw [ps2Dat_of_released (by simp [Regs.driveDat, hstate'])] at hdat
  refine ⟨sample_parity hi hsample hs (hdat.trans hbit), ?_⟩
  exact rxOut_of_not_stop (by rw [hstate]; decide)

theorem stop_leads (p : Period) (f : Frame) :
    Leads rxOut (AwaitsStop f) p.cycles [f.received] AwaitsStart :=
  period_leads rxOut_of_no_sample (waits_stop f) waits_start p
    fun _ _ _ hi hsample hs _ _ => sample_stop hi hsample hs

/-- The data bits from the `k`-th on. -/
theorem data_leads (d : BitVec 8) (n : Nat) {k : Nat} (hk : k + n = 8)
    (ps : List Period)
    (hbits : ps.map Period.bit = (List.range' k n).map d.getLsbD) :
    Leads rxOut (AwaitsBit d k) (ps.flatMap Period.cycles) []
      (AwaitsBit d 8) := by
  induction n generalizing k ps with
  | zero =>
      cases ps with
      | nil =>
          rw [Nat.add_zero] at hk
          subst hk
          exact Leads.refl rxOut _
      | cons p ps => cases hbits
  | succ n ih =>
      cases ps with
      | nil => cases hbits
      | cons p ps =>
          rw [List.range'_succ, List.map_cons, List.map_cons,
            List.cons.injEq] at hbits
          rw [List.flatMap_cons]
          exact (bit_leads p (by omega) hbits.1).trans
            (ih (by omega) ps hbits.2)

theorem frame_leads (f : Frame) (ps : List Period)
    (hbits : ps.map Period.bit = f.bits) :
    Leads rxOut AwaitsStart (ps.flatMap Period.cycles) [f.received]
      AwaitsStart := by
  rw [Frame.bits, dataBits, List.range_eq_range'] at hbits
  obtain ⟨start, rest, rfl, hstart, hrest⟩ := List.map_eq_cons_iff.mp hbits
  obtain ⟨data, rest, rfl, hdata, hrest⟩ := List.map_eq_append_iff.mp hrest
  obtain ⟨parity, rest, rfl, hparity, hrest⟩ :=
    List.map_eq_cons_iff.mp hrest
  obtain ⟨stop, rest, rfl, hstop, hrest⟩ := List.map_eq_cons_iff.mp hrest
  rw [List.map_eq_nil_iff] at hrest
  subst hrest
  rw [List.flatMap_cons, List.flatMap_append, List.flatMap_cons,
    List.flatMap_cons, List.flatMap_nil, List.append_nil]
  exact (start_leads start hstart f.data).trans
    ((data_leads f.data 8 rfl data hdata).trans
      ((parity_leads parity f hparity).trans (stop_leads stop f)))

theorem frames_lead (frames : List Frame) (ps : List Period)
    (hbits : ps.map Period.bit = frames.flatMap Frame.bits) :
    Leads rxOut AwaitsStart (ps.flatMap Period.cycles)
      (frames.map Frame.received) AwaitsStart := by
  induction frames generalizing ps with
  | nil =>
      rw [List.flatMap_nil, List.map_eq_nil_iff] at hbits
      subst hbits
      exact Leads.refl rxOut _
  | cons f frames ih =>
      rw [List.flatMap_cons] at hbits
      obtain ⟨first, rest, rfl, hfirst, hrest⟩ :=
        List.map_eq_append_iff.mp hbits
      rw [List.flatMap_append, List.map_cons]
      exact (frame_leads f first hfirst).trans (ih rest hrest)

/-- After a reset, the cycles with `rx_valid` are one for each frame, with its
byte and with the parity error of that frame. -/
theorem receives_frames {reset : Cycle} (hreset : reset.reset = true)
    (s : Regs) (frames : List Frame) (ps : List Period)
    (hbits : ps.map Period.bit = frames.flatMap Frame.bits)
    (idle : List Cycle)
    (hidle : forall i, i ∈ idle -> i.Quiet ∧ i.deviceClk = true) :
    Clocked.outputs step rxOut (step reset s)
        (ps.flatMap Period.cycles ++ idle) = frames.map Frame.received := by
  have hsync : (step reset s).Low := by
    simp [Regs.Low, step, BitSync.step, hreset]
  have hstart : AwaitsStart (step reset s) := by
    simp [AwaitsStart, step, Regs.nextState, hreset]
  have hall := (frames_lead frames ps hbits).trans
    (high_leads rxOut_of_no_sample waits_start hidle)
  rw [List.append_nil] at hall
  exact (hall _ hsync.calm hstart).2.2

/-- A cycle in which only the device does something. -/
def deviceCycle (clk dat : Bool) : Cycle where
  reset := false
  startTx := false
  tx := 0#8
  deviceClk := clk
  deviceDat := dat

theorem deviceCycle_replicate (n : Nat) (clk dat : Bool) :
    forall i, i ∈ List.replicate n (deviceCycle clk dat) ->
      i.Quiet ∧ i.deviceClk = clk := by
  intro i hi
  rw [List.eq_of_mem_replicate hi]
  exact ⟨⟨rfl, rfl⟩, rfl⟩

/-- A short period that carries a bit. -/
def bitPeriod (b : Bool) : Period where
  high := List.replicate 3 (deviceCycle true b)
  fall := deviceCycle false b
  low := List.replicate 2 (deviceCycle false b)
  high_clk := deviceCycle_replicate 3 true b
  high_ne := List.cons_ne_nil _ _
  fall_clk := ⟨⟨rfl, rfl⟩, rfl⟩
  low_clk := deviceCycle_replicate 2 false b
  low_length := Nat.le_refl 2

def hostReset : Cycle := { deviceCycle true true with reset := true }

def someRegs : Regs where
  clkInhibitCount := 0#13
  clkSync := { p1 := true, p2 := true }
  datSync := { p1 := true, p2 := true }
  lastPs2Clk := true
  bitpos := 5#3
  txReg := 0#8
  state := .txAck
  datO := false
  txBusy := false
  rx := 0#8
  error := true

theorem receives_frames_two :
    Clocked.outputs step rxOut (step hostReset someRegs)
        ((([⟨0x1c#8, false, true⟩, ⟨0xf0#8, false, true⟩] :
          List Frame).flatMap Frame.bits).map bitPeriod |>.flatMap
            Period.cycles) =
      [(0x1c#8, false), (0xf0#8, true)] := by
  have h := @receives_frames hostReset rfl someRegs
    [⟨0x1c#8, false, true⟩, ⟨0xf0#8, false, true⟩]
    ((([⟨0x1c#8, false, true⟩, ⟨0xf0#8, false, true⟩] :
      List Frame).flatMap Frame.bits).map bitPeriod) (by decide) []
    (fun i hi => absurd hi List.not_mem_nil)
  rw [List.append_nil] at h
  exact h.trans (by decide)

end PS2Host
end Fpga
end S80x86
