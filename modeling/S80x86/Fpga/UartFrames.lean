import S80x86.Fpga.Uart
import Mathlib.Tactic.Ring

/-!
# A frame of the UART

The transmitter and the receiver, each at a place in the frame of one byte: the
start bit, eight bits with the low one first, and the stop bit.
-/

open Foundation

namespace S80x86
namespace Fpga
namespace Uart

def clkFreq : Nat := 50000000

theorem baud_step {s : BaudRateGen.Regs} (hrx : s.rxAcc < 28)
    (htx : s.txAcc < 435) :
    BaudRateGen.step clkFreq false s =
      { rxAcc := (s.rxAcc + 1) % 28, txAcc := (s.txAcc + 1) % 435 } := by
  have hrxWidth : BaudRateGen.rxAccMax clkFreq <
      2 ^ BaudRateGen.rxAccWidth clkFreq := by
    decide
  have htxWidth : BaudRateGen.txAccMax clkFreq <
      2 ^ BaudRateGen.txAccWidth clkFreq := by
    decide
  have hrxNext := BaudRateGen.nextAcc_eq hrxWidth (Nat.le_of_lt_succ hrx)
  have htxNext := BaudRateGen.nextAcc_eq htxWidth (Nat.le_of_lt_succ htx)
  simp only [BaudRateGen.step, Bool.false_eq_true, if_false]
  rw [hrxNext, htxNext]
  rfl

/-!
## The transmitter
-/

/-- The start bit and then the bits of the byte. -/
def lineBit (b : BitVec 8) (q : Nat) : Bool :=
  if q = 0 then false else b.getLsbD (q - 1)

/-- The bit `q` of the frame is on the line. -/
structure TxSends (b : BitVec 8) (q : Nat) (t : Transmitter.Regs) : Prop where
  state : t.state = if q < 8 then .data else .stop
  data : t.data = b
  bitpos : q < 8 -> t.bitpos.toNat = q
  tx : t.tx = lineBit b q

/-- The line is idle, and a byte may wait for the next bit time. -/
inductive TxQuiet : List (BitVec 8) -> Transmitter.Regs -> Prop where
  | idle {t : Transmitter.Regs} (state : t.state = .idle) (tx : t.tx = true) :
      TxQuiet [] t
  | start {b : BitVec 8} {t : Transmitter.Regs} (state : t.state = .start)
      (data : t.data = b) (bitpos : t.bitpos = 0#3) (tx : t.tx = true) :
      TxQuiet [b] t

/-- The byte that the transmitter takes in this cycle. -/
def taken (wrEn : Bool) (din : BitVec 8) (t : Transmitter.Regs) :
    List (BitVec 8) :=
  if wrEn && !Transmitter.txBusy t then [din] else []

theorem taken_of_busy {wrEn : Bool} {din : BitVec 8} {t : Transmitter.Regs}
    (h : t.state ≠ .idle) : taken wrEn din t = [] := by
  simp [taken, Transmitter.txBusy, h]

theorem TxQuiet.tx {pending : List (BitVec 8)} {t : Transmitter.Regs}
    (h : TxQuiet pending t) : t.tx = true := by
  cases h with
  | idle _ tx =>
      exact tx
  | start _ _ _ tx =>
      exact tx

theorem TxSends.busy {b : BitVec 8} {q : Nat} {t : Transmitter.Regs}
    (h : TxSends b q t) : t.state ≠ .idle := by
  rw [h.state]
  split <;> decide

theorem TxSends.holds {b : BitVec 8} {q : Nat} {t : Transmitter.Regs}
    (h : TxSends b q t) (din : BitVec 8) (wrEn : Bool) :
    TxSends b q (Transmitter.step false false din wrEn t) := by
  have hsame : Transmitter.step false false din wrEn t = t := by
    have hstate := h.state
    by_cases hq : q < 8
    · rw [if_pos hq] at hstate
      simp [Transmitter.step, hstate]
    · rw [if_neg hq] at hstate
      simp [Transmitter.step, hstate]
  rw [hsame]
  exact h

theorem TxSends.next {b : BitVec 8} {q : Nat} {t : Transmitter.Regs}
    (h : TxSends b q t) (hq : q < 8) (din : BitVec 8) (wrEn : Bool) :
    TxSends b (q + 1) (Transmitter.step false true din wrEn t) := by
  have hstate : t.state = .data := h.state.trans (if_pos hq)
  have hbitpos := h.bitpos hq
  have hlast : t.bitpos = 7#3 ↔ q = 7 := by
    rw [<- BitVec.toNat_inj, hbitpos]
    rfl
  simp only [Transmitter.step, hstate, Bool.false_eq_true, if_false, if_true]
  refine ⟨?_, h.data, ?_, ?_⟩
  · change (if t.bitpos = 7#3 then Transmitter.State.stop else .data) =
      if q + 1 < 8 then .data else .stop
    by_cases h7 : q = 7
    · have hover : ¬ q + 1 < 8 := by omega
      rw [if_pos (hlast.mpr h7), if_neg hover]
    · have hunder : q + 1 < 8 := by omega
      rw [if_neg (mt hlast.mp h7), if_pos hunder]
  · intro hq'
    change (if t.bitpos = 7#3 then t.bitpos else t.bitpos + 1#3).toNat = q + 1
    rw [if_neg (mt hlast.mp (by omega)), BitVec.toNat_add, hbitpos]
    change (q + 1) % 8 = q + 1
    omega
  · change t.data.getLsbD t.bitpos.toNat = lineBit b (q + 1)
    rw [h.data, hbitpos]
    rfl

theorem TxSends.ends {b : BitVec 8} {t : Transmitter.Regs}
    (h : TxSends b 8 t) (din : BitVec 8) (wrEn : Bool) :
    TxQuiet [] (Transmitter.step false true din wrEn t) := by
  have hstate : t.state = .stop := h.state
  simp only [Transmitter.step, hstate, Bool.false_eq_true, if_false, if_true]
  exact TxQuiet.idle rfl rfl

theorem TxQuiet.starts {b : BitVec 8} {t : Transmitter.Regs}
    (h : TxQuiet [b] t) (din : BitVec 8) (wrEn : Bool) :
    TxSends b 0 (Transmitter.step false true din wrEn t) := by
  cases h with
  | start state data bitpos tx =>
      simp only [Transmitter.step, state, Bool.false_eq_true, if_false, if_true]
      exact ⟨rfl, data, fun _ => congrArg BitVec.toNat bitpos, rfl⟩

/-- A quiet line stays quiet until a byte waits at a tick. -/
theorem TxQuiet.waits {pending : List (BitVec 8)} {t : Transmitter.Regs}
    {clken : Bool} (h : TxQuiet pending t)
    (hwait : pending = [] ∨ clken = false) (din : BitVec 8) (wrEn : Bool) :
    TxQuiet (pending ++ taken wrEn din t)
      (Transmitter.step false clken din wrEn t) := by
  cases h with
  | idle state tx =>
      cases wrEn with
      | false =>
          have htaken : taken false din t = [] := rfl
          simp only [Transmitter.step, state, Bool.false_eq_true, if_false,
            htaken, List.append_nil]
          exact TxQuiet.idle state tx
      | true =>
          have htaken : taken true din t = [din] := by
            simp [taken, Transmitter.txBusy, state]
          simp only [Transmitter.step, state, Bool.false_eq_true, if_false,
            if_true, htaken, List.nil_append]
          exact TxQuiet.start rfl rfl rfl tx
  | start state data bitpos tx =>
      have hclken : clken = false :=
        hwait.resolve_left (List.cons_ne_nil _ _)
      have htaken : taken wrEn din t = [] := taken_of_busy (by simp [state])
      simp only [Transmitter.step, state, hclken, Bool.false_eq_true, if_false,
        htaken, List.append_nil]
      exact TxQuiet.start state data bitpos tx

/-!
## The receiver
-/

/-- The receiver waits for a start bit. -/
structure RxRests (r : Receiver.Regs) : Prop where
  state : r.state = .start
  sample : r.sample = 0#4

/-- The receiver has taken `j` samples of the frame. -/
structure RxAt (b : BitVec 8) (j : Nat) (r : Receiver.Regs) : Prop where
  state : r.state =
    if j < 16 then .start else if j < 144 then .data else .stop
  sample : r.sample.toNat = j % 16
  bitpos : 16 ≤ j -> j < 144 -> r.bitpos.toNat = (j - 9) / 16
  scratch : 16 ≤ j -> forall k, k < (j - 9) / 16 -> k < 8 ->
    r.scratch.getLsbD k = b.getLsbD k

/-- What the receiver may see in its sample `j` of the frame. -/
structure LineFits (b : BitVec 8) (j : Nat) (rx : Bool) : Prop where
  start : j = 0 -> rx = false
  bits : forall k, k < 8 -> j = 16 * k + 24 -> rx = b.getLsbD k
  stop : 152 ≤ j -> rx = true

theorem RxRests.rxAt {r : Receiver.Regs} (h : RxRests r) (b : BitVec 8) :
    RxAt b 0 r where
  state := h.state
  sample := congrArg BitVec.toNat h.sample
  bitpos := fun h => absurd h (by omega)
  scratch := fun h => absurd h (by omega)

theorem RxAt.scratch_eq {b : BitVec 8} {j : Nat} {r : Receiver.Regs}
    (h : RxAt b j r) (hj : 144 ≤ j) : r.scratch = b := by
  apply BitVec.eq_of_getLsbD_eq
  intro k hk
  exact h.scratch (by omega) k (by omega) hk

theorem RxAt.cleared {b : BitVec 8} {j : Nat} {r : Receiver.Regs}
    (h : RxAt b j r) (rdy : Bool) : RxAt b j { r with rdy := rdy } :=
  ⟨h.state, h.sample, h.bitpos, h.scratch⟩

theorem sample_eq_iff {b : BitVec 8} {j : Nat} {r : Receiver.Regs}
    (h : RxAt b j r) (k : Nat) (hk : k < 16) :
    r.sample = BitVec.ofNat 4 k ↔ j % 16 = k := by
  rw [<- BitVec.toNat_inj, h.sample, BitVec.toNat_ofNat, Nat.mod_eq_of_lt hk]

theorem sample_next {b : BitVec 8} {j : Nat} {r : Receiver.Regs}
    (h : RxAt b j r) : (r.sample + 1#4).toNat = (j + 1) % 16 := by
  rw [BitVec.toNat_add, h.sample]
  change (j % 16 + 1) % 16 = (j + 1) % 16
  omega

theorem getLsbD_written (v : BitVec 8) (pos : BitVec 4) (rx : Bool) (k : Nat)
    (hpos : pos.toNat < 8) :
    (Bits.setSlice v (pos.extractLsb' 0 3).toNat 1
        (BitVec.ofBool rx)).getLsbD k =
      if k = pos.toNat then rx else v.getLsbD k := by
  have hlow : (pos.extractLsb' 0 3).toNat = pos.toNat := by
    rw [BitVec.extractLsb'_toNat]
    exact Nat.mod_eq_of_lt hpos
  rw [hlow, Bits.getLsbD_setSlice]
  by_cases h : k = pos.toNat
  · rw [if_pos (by omega), if_pos h, h, Nat.sub_self]
    cases rx <;> rfl
  · rw [if_neg (by omega), if_neg h]

theorem RxAt.next_data {b : BitVec 8} {j : Nat} {r : Receiver.Regs}
    {rx : Bool} (h : RxAt b j r) (hj : 16 ≤ j) (hdata : j < 144)
    (hstate : r.state = .data) (hline : LineFits b j rx) :
    RxAt b (j + 1) (Receiver.sampled rx r) := by
  have hpos := h.bitpos hj hdata
  have h8 := sample_eq_iff h 8 (by omega)
  have h15 := sample_eq_iff h 15 (by omega)
  have hfull : r.bitpos = 8#4 ↔ (j - 9) / 16 = 8 := by
    rw [<- BitVec.toNat_inj, hpos]
    rfl
  simp only [Receiver.sampled, hstate]
  refine ⟨?_, sample_next h, ?_, ?_⟩
  · change (if r.bitpos = 8#4 ∧ r.sample = 15#4 then Receiver.State.stop
      else .data) = _
    rw [if_neg (by omega : ¬ j + 1 < 16)]
    by_cases hlast : j = 143
    · have hboth : r.bitpos = 8#4 ∧ r.sample = 15#4 :=
        ⟨hfull.mpr (by omega), h15.mpr (by omega)⟩
      rw [if_pos hboth, if_neg (by omega : ¬ j + 1 < 144)]
    · have hnot : ¬ (r.bitpos = 8#4 ∧ r.sample = 15#4) := by
        rw [hfull, h15]
        omega
      rw [if_neg hnot, if_pos (by omega : j + 1 < 144)]
  · intro _ _
    change (if r.sample = 8#4 then r.bitpos + 1#4 else r.bitpos).toNat = _
    by_cases hmid : j % 16 = 8
    · rw [if_pos (h8.mpr hmid), BitVec.toNat_add, hpos]
      change ((j - 9) / 16 + 1) % 16 = _
      omega
    · rw [if_neg (mt h8.mp hmid), hpos]
      omega
  · intro _ k hk hk8
    by_cases hmid : j % 16 = 8
    · -- The bit that is taken here is the one after those already there.
      have hlt : r.bitpos.toNat < 8 := by omega
      simp only [if_pos (h8.mpr hmid)]
      rw [getLsbD_written r.scratch r.bitpos rx k hlt, hpos]
      by_cases hnew : k = (j - 9) / 16
      · rw [if_pos hnew]
        exact hline.bits k hk8 (by omega)
      · rw [if_neg hnew]
        exact h.scratch hj k (by omega) hk8
    · simp only [if_neg (mt h8.mp hmid)]
      exact h.scratch hj k (by omega) hk8

theorem RxAt.stopEnds_eq {b : BitVec 8} {j : Nat} {r : Receiver.Regs}
    (h : RxAt b j r) (rx : Bool) :
    Receiver.stopEnds rx r =
      (decide (j % 16 = 15) || (decide (8 ≤ j % 16) && !rx)) := by
  have h15 := sample_eq_iff h 15 (by omega)
  rw [Receiver.stopEnds, h.sample, decide_eq_decide.mpr h15]

/-- Before its last sample the stop bit goes on while the line is high. -/
theorem RxAt.stop_stays {b : BitVec 8} {j : Nat} {r : Receiver.Regs} {rx : Bool}
    (h : RxAt b j r) (hstop : 144 ≤ j) (hj : j < 159)
    (hline : LineFits b j rx) : Receiver.stopEnds rx r = false := by
  rw [h.stopEnds_eq rx, decide_eq_false (by omega : ¬ j % 16 = 15)]
  by_cases hhalf : 152 ≤ j
  · simp [hline.stop hhalf]
  · rw [decide_eq_false (by omega : ¬ 8 ≤ j % 16)]
    rfl

/-- The next sample of a frame. -/
theorem RxAt.next {b : BitVec 8} {j : Nat} {r : Receiver.Regs} {rx : Bool}
    (h : RxAt b j r) (hj : j < 159) (hline : LineFits b j rx) :
    RxAt b (j + 1) (Receiver.sampled rx r) := by
  have hstate := h.state
  have hnext := sample_next h
  have h0 := sample_eq_iff h 0 (by omega)
  have h8 := sample_eq_iff h 8 (by omega)
  have h15 := sample_eq_iff h 15 (by omega)
  by_cases hstart : j < 16
  · rw [if_pos hstart] at hstate
    simp only [Receiver.sampled, hstate]
    by_cases hlast : j = 15
    · rw [if_pos (h15.mpr (by omega)), hlast]
      exact ⟨rfl, rfl, fun _ _ => rfl, fun _ k hk => absurd hk (by omega)⟩
    · have hcount : (!rx || decide (r.sample ≠ 0#4)) = true := by
        by_cases hj0 : j = 0
        · rw [hline.start hj0]
          rfl
        · have hne : r.sample ≠ 0#4 := mt h0.mp (by omega)
          simp [hne]
      rw [if_neg (mt h15.mp (by omega)), if_pos hcount]
      refine ⟨?_, hnext, fun h => absurd h (by omega),
        fun h => absurd h (by omega)⟩
      change Receiver.State.start = _
      rw [if_pos (by omega : j + 1 < 16)]
  · rw [if_neg hstart] at hstate
    by_cases hdata : j < 144
    · rw [if_pos hdata] at hstate
      exact h.next_data (by omega) hdata hstate hline
    · rw [if_neg hdata] at hstate
      have hends := h.stop_stays (by omega) hj hline
      simp only [Receiver.sampled, hstate, hends, Bool.false_eq_true, if_false]
      refine ⟨?_, hnext, fun _ h => absurd h (by omega), ?_⟩
      · change Receiver.State.stop = _
        rw [if_neg (by omega : ¬ j + 1 < 16),
          if_neg (by omega : ¬ j + 1 < 144)]
      · intro _ k _ hk
        exact h.scratch (by omega) k (by omega) hk

theorem RxAt.incomplete {b : BitVec 8} {j : Nat} {r : Receiver.Regs} {rx : Bool}
    (h : RxAt b j r) (hj : j < 159) (hline : LineFits b j rx) (clken : Bool) :
    Receiver.completes clken rx r = false := by
  by_cases hstop : 144 ≤ j
  · rw [Receiver.completes, h.stop_stays hstop hj hline, Bool.and_false]
  · have hne : r.state ≠ .stop := by
      rw [h.state]
      split
      · decide
      · rw [if_pos (by omega : j < 144)]
        decide
    simp [Receiver.completes, hne]

theorem RxAt.complete {b : BitVec 8} {j : Nat} {r : Receiver.Regs} {rx : Bool}
    (h : RxAt b j r) (hstop : 152 ≤ j) (hj : j < 160)
    (hend : j = 159 ∨ rx = false) : Receiver.completes true rx r = true := by
  have hstate : r.state = .stop := by
    rw [h.state, if_neg (by omega), if_neg (by omega)]
  have hends : Receiver.stopEnds rx r = true := by
    rw [h.stopEnds_eq rx]
    rcases hend with hlast | hlow
    · rw [hlast]
      rfl
    · rw [hlow, decide_eq_true (by omega : 8 ≤ j % 16), Bool.not_false,
        Bool.and_true, Bool.or_true]
  rw [Receiver.completes, hends, decide_eq_true hstate]
  rfl

/-!
## The ready flag
-/

/-- The byte with which the ready flag rises. -/
def raised (r r' : Receiver.Regs) : List (BitVec 8) :=
  if !r.rdy && r'.rdy then [r'.data] else []

theorem receiver_step_eq (clken rx rdyClr : Bool) (r : Receiver.Regs) :
    Receiver.step false clken rx rdyClr r =
      if clken then Receiver.sampled rx { r with rdy := r.rdy && !rdyClr }
      else { r with rdy := r.rdy && !rdyClr } := by
  have hcleared : (if rdyClr then { r with rdy := false } else r) =
      { r with rdy := r.rdy && !rdyClr } := by
    cases rdyClr with
    | false =>
        simp
    | true =>
        simp
  simp only [Receiver.step, Bool.false_eq_true, if_false]
  rw [hcleared]

theorem sampled_rdy (rx : Bool) (r : Receiver.Regs) :
    (Receiver.sampled rx r).rdy =
      (r.rdy || Receiver.completes true rx r) := by
  unfold Receiver.sampled Receiver.completes
  cases hstate : r.state with
  | start =>
      by_cases hlast : r.sample = 15#4
      · simp [hlast]
      · simp only [if_neg hlast]
        split <;> simp
  | data =>
      simp
  | stop =>
      cases hends : Receiver.stopEnds rx r <;> simp

theorem raised_of_incomplete {clken rx : Bool} {r : Receiver.Regs}
    (h : Receiver.completes clken rx r = false) (rdyClr : Bool) :
    raised r (Receiver.step false clken rx rdyClr r) = [] := by
  have hrdy : (Receiver.step false clken rx rdyClr r).rdy =
      (r.rdy && !rdyClr) := by
    rw [receiver_step_eq]
    cases clken with
    | false =>
        rfl
    | true =>
        have hsame : Receiver.completes true rx
            { r with rdy := r.rdy && !rdyClr } = false := h
        rw [if_pos rfl, sampled_rdy, hsame, Bool.or_false]
  rw [raised, hrdy]
  cases r.rdy <;> rfl

theorem sampled_of_complete {rx : Bool} {r : Receiver.Regs}
    (h : Receiver.completes true rx r = true) :
    Receiver.sampled rx r =
      { r with state := .start, data := r.scratch, rdy := true,
               sample := 0#4 } := by
  simp only [Receiver.completes, Bool.true_and, Bool.and_eq_true,
    decide_eq_true_eq] at h
  obtain ⟨hstate, hends⟩ := h
  simp only [Receiver.sampled, hstate, hends, if_true]

/-- A byte that completes while the flag is low raises it. -/
theorem raised_of_complete {rx : Bool} {r : Receiver.Regs}
    (h : Receiver.completes true rx r = true) (hrdy : r.rdy = false)
    (rdyClr : Bool) :
    raised r (Receiver.step false true rx rdyClr r) = [r.scratch] ∧
      RxRests (Receiver.step false true rx rdyClr r) := by
  have hclear : Receiver.completes true rx
      { r with rdy := r.rdy && !rdyClr } = true := h
  rw [receiver_step_eq, if_pos rfl, sampled_of_complete hclear, raised, hrdy]
  exact ⟨rfl, ⟨rfl, rfl⟩⟩

theorem RxAt.step {b : BitVec 8} {j : Nat} {r : Receiver.Regs} {clken rx : Bool}
    (h : RxAt b j r) (hline : clken = true -> j < 159 ∧ LineFits b j rx)
    (rdyClr : Bool) :
    RxAt b (if clken then j + 1 else j)
      (Receiver.step false clken rx rdyClr r) := by
  rw [receiver_step_eq]
  cases clken with
  | false =>
      exact h.cleared _
  | true =>
      obtain ⟨hj, hfits⟩ := hline rfl
      exact (h.cleared _).next hj hfits

/-- On an idle line the receiver goes on waiting. -/
theorem RxRests.step {r : Receiver.Regs} (h : RxRests r) (clken rdyClr : Bool) :
    RxRests (Receiver.step false clken true rdyClr r) := by
  rw [receiver_step_eq]
  cases clken with
  | false =>
      exact ⟨h.state, h.sample⟩
  | true =>
      simp only [if_true, Receiver.sampled, h.state, h.sample]
      exact ⟨rfl, rfl⟩

theorem RxRests.incomplete {r : Receiver.Regs} (h : RxRests r)
    (clken rx : Bool) : Receiver.completes clken rx r = false := by
  simp [Receiver.completes, h.state]

end Uart
end Fpga
end S80x86
