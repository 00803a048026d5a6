import S80x86.Fpga.UartFrames

/-!
# The UART round trip

Sixteen samples take 448 cycles and a bit takes 435, so within a byte the
samples fall behind by 13 cycles a bit.  The receiver takes up every byte from
its own start bit, at most 55 cycles late, and nothing adds up from byte to
byte.
-/

open Foundation

namespace S80x86
namespace Fpga
namespace Uart

/-- The byte that the transmitter takes, if it is not busy. -/
def accepted (i : Cycle) (s : Regs) : List (BitVec 8) :=
  taken i.wrEn i.din s.transmitter

/-- The data with which the ready flag rises. -/
def received (i : Cycle) (s : Regs) : List (BitVec 8) :=
  raised s.receiver (wired clkFreq i s).receiver

/-- There is no reset, and a byte that completes finds the flag low. -/
def ClearedInTime (s : Regs) (i : Cycle) : Prop :=
  i.reset = false ∧
    (Receiver.completes (BaudRateGen.rxclkEn s.baud) s.transmitter.tx
      s.receiver = true -> s.receiver.rdy = false)

theorem wired_eq {i : Cycle} (h : i.reset = false) (s : Regs) :
    wired clkFreq i s =
      { baud := BaudRateGen.step clkFreq false s.baud
        transmitter :=
          Transmitter.step false (BaudRateGen.txclkEn s.baud) i.din i.wrEn
            s.transmitter
        receiver :=
          Receiver.step false (BaudRateGen.rxclkEn s.baud) s.transmitter.tx
            i.rdyClr s.receiver } := by
  simp only [wired, step, h]

theorem received_of_incomplete {i : Cycle} {s : Regs} (hreset : i.reset = false)
    (h : Receiver.completes (BaudRateGen.rxclkEn s.baud) s.transmitter.tx
      s.receiver = false) : received i s = [] := by
  rw [received, wired_eq hreset]
  exact raised_of_incomplete h i.rdyClr

/-!
## Time
-/

/-- In the cycle `u` of a frame, `d` cycles before a sample. -/
structure Timed (u d : Nat) (s : BaudRateGen.Regs) : Prop where
  near : d < 28
  rxAcc : s.rxAcc = (28 - d) % 28
  txAcc : s.txAcc = (u + 1) % 435

theorem Timed.next {u d : Nat} {s : BaudRateGen.Regs} (h : Timed u d s) :
    Timed (u + 1) (if d = 0 then 27 else d - 1)
      (BaudRateGen.step clkFreq false s) := by
  obtain ⟨near, rxAcc, txAcc⟩ := h
  rw [baud_step (by omega) (by omega)]
  refine ⟨?_, ?_, ?_⟩
  · split <;> omega
  · change (s.rxAcc + 1) % 28 = _
    split <;> omega
  · change (s.txAcc + 1) % 435 = _
    omega

theorem Timed.rxclkEn {u d : Nat} {s : BaudRateGen.Regs} (h : Timed u d s) :
    BaudRateGen.rxclkEn s = decide (d = 0) := by
  obtain ⟨near, rxAcc, _⟩ := h
  rw [BaudRateGen.rxclkEn, decide_eq_decide]
  omega

theorem Timed.txclkEn {u d : Nat} {s : BaudRateGen.Regs} (h : Timed u d s) :
    BaudRateGen.txclkEn s = decide (u % 435 = 434) := by
  rw [BaudRateGen.txclkEn, h.txAcc, decide_eq_decide]
  omega

/-- A bound on the cycles until a byte that waits has been received. -/
def wait (s : BaudRateGen.Regs) : Nat := 4701 + (435 - s.txAcc) % 435

structure InRange (s : BaudRateGen.Regs) : Prop where
  rxAcc : s.rxAcc < 28
  txAcc : s.txAcc < 435

theorem Timed.inRange {u d : Nat} {s : BaudRateGen.Regs} (h : Timed u d s) :
    InRange s := by
  obtain ⟨near, rxAcc, txAcc⟩ := h
  exact ⟨by omega, by omega⟩

theorem InRange.next {s : BaudRateGen.Regs} (h : InRange s) :
    InRange (BaudRateGen.step clkFreq false s) := by
  rw [baud_step h.rxAcc h.txAcc]
  exact ⟨Nat.mod_lt _ (by decide), Nat.mod_lt _ (by decide)⟩

theorem InRange.wait_falls {s : BaudRateGen.Regs} (h : InRange s)
    (htick : BaudRateGen.txclkEn s = false) :
    wait (BaudRateGen.step clkFreq false s) < wait s := by
  have hpos : s.txAcc ≠ 0 := of_decide_eq_false htick
  have hless := h.txAcc
  rw [baud_step h.rxAcc h.txAcc, wait, wait]
  change 4701 + (435 - (s.txAcc + 1) % 435) % 435 < _
  omega

/-- A tick of the transmitter is the cycle before its frame or its next bit. -/
theorem InRange.timed {s : BaudRateGen.Regs} (h : InRange s)
    (htick : BaudRateGen.txclkEn s = true) :
    Timed 0 ((27 - s.rxAcc) % 28) (BaudRateGen.step clkFreq false s) := by
  have hzero : s.txAcc = 0 := of_decide_eq_true htick
  have hless := h.rxAcc
  rw [baud_step h.rxAcc h.txAcc]
  refine ⟨Nat.mod_lt _ (by decide), ?_, ?_⟩
  · change (s.rxAcc + 1) % 28 = _
    omega
  · change (s.txAcc + 1) % 435 = _
    rw [hzero]

/-!
## Phases
-/

/--
The cycle `u` of the frame of a byte, after `j` samples.  The first one was
`lag` cycles after the line went low.
-/
structure Sampling (b : BitVec 8) (lag u j : Nat) (s : Regs) : Prop where
  rx : RxAt b j s.receiver
  late : lag < 56
  past : u ≤ lag + 28 * j
  time : Timed u (lag + 28 * j - u) s.baud

/-- The bytes on the way, and a bound on the cycles until they have come. -/
inductive Phase : List (BitVec 8) -> Nat -> Regs -> Prop where
  | resting {pending : List (BitVec 8)} {s : Regs} (range : InRange s.baud)
      (rx : RxRests s.receiver) (tx : TxQuiet pending s.transmitter) :
      Phase pending (wait s.baud) s
  | sending {b : BitVec 8} {lag u j : Nat} {s : Regs}
      (sampling : Sampling b lag u j s) (before : u < 3915)
      (tx : TxSends b (u / 435) s.transmitter) : Phase [b] (4600 - u) s
  | stopping {b : BitVec 8} {pending : List (BitVec 8)} {lag u j : Nat}
      {s : Regs} (sampling : Sampling b lag u j s) (after : 3915 ≤ u)
      (last : j < 160) (tx : TxQuiet pending s.transmitter) :
      Phase (b :: pending) (if pending = [] then 4600 - u else wait s.baud) s
  -- The next start bit is on the line before the receiver has seen it.
  | overlapping {b b' : BitVec 8} {u d j : Nat} {s : Regs}
      (rx : RxAt b j s.receiver) (half : 152 ≤ j) (last : j < 160)
      (time : Timed u d s.baud) (soon : u + d < 28)
      (tx : TxSends b' 0 s.transmitter) : Phase [b, b'] (4700 - u) s

theorem Sampling.step {b : BitVec 8} {lag u j : Nat} {s : Regs} {i : Cycle}
    (h : Sampling b lag u j s) (hreset : i.reset = false)
    (hline : u = lag + 28 * j -> j < 159 ∧ LineFits b j s.transmitter.tx) :
    Sampling b lag (u + 1) (if u = lag + 28 * j then j + 1 else j)
      (wired clkFreq i s) ∧ received i s = [] := by
  obtain ⟨rx, late, past, time⟩ := h
  have htick : BaudRateGen.rxclkEn s.baud = decide (u = lag + 28 * j) := by
    rw [time.rxclkEn, decide_eq_decide]
    omega
  have hnext := rx.step
    (fun hclken => hline (of_decide_eq_true (htick.symm.trans hclken)))
    i.rdyClr
  have hquiet : Receiver.completes (BaudRateGen.rxclkEn s.baud)
      s.transmitter.tx s.receiver = false := by
    by_cases hnow : u = lag + 28 * j
    · exact rx.incomplete (hline hnow).left (hline hnow).right _
    · rw [htick, decide_eq_false hnow]
      rfl
  refine ⟨?_, received_of_incomplete hreset hquiet⟩
  have htime := time.next
  rw [wired_eq hreset]
  by_cases hnow : u = lag + 28 * j
  · rw [htick, decide_eq_true hnow] at hnext
    rw [if_pos (by omega)] at htime
    rw [if_pos hnow]
    refine ⟨?_, late, by omega, ?_⟩
    · change RxAt b (j + 1) (Receiver.step false (BaudRateGen.rxclkEn s.baud)
        s.transmitter.tx i.rdyClr s.receiver)
      rw [htick, decide_eq_true hnow]
      exact hnext
    · have hd : lag + 28 * (j + 1) - (u + 1) = 27 := by omega
      rw [hd]
      exact htime
  · rw [htick, decide_eq_false hnow] at hnext
    rw [if_neg (by omega)] at htime
    rw [if_neg hnow]
    refine ⟨?_, late, by omega, ?_⟩
    · change RxAt b j (Receiver.step false (BaudRateGen.rxclkEn s.baud)
        s.transmitter.tx i.rdyClr s.receiver)
      rw [htick, decide_eq_false hnow]
      exact hnext
    · have hd : lag + 28 * j - (u + 1) = lag + 28 * j - u - 1 := by omega
      rw [hd]
      exact htime

/-!
## The steps
-/

/-- What a cycle does with the bytes on the way. -/
def Advances (q : List (BitVec 8)) (m : Nat) (i : Cycle) (s : Regs) : Prop :=
  exists q' m', Phase q' m' (wired clkFreq i s) ∧
    q ++ accepted i s = received i s ++ q' ∧
    (accepted i s = [] -> q' ≠ [] -> m' < m)

theorem accepted_of_sends {b : BitVec 8} {q : Nat} {i : Cycle} {s : Regs}
    (h : TxSends b q s.transmitter) : accepted i s = [] :=
  taken_of_busy h.busy

theorem accepted_of_pending {b : BitVec 8} {i : Cycle} {s : Regs}
    (h : TxQuiet [b] s.transmitter) : accepted i s = [] := by
  apply taken_of_busy
  cases h with
  | start state _ _ _ =>
      rw [state]
      decide

/-- A line that is quiet, at a tick with a byte that waits or not. -/
theorem TxQuiet.starts_or_waits {pending : List (BitVec 8)}
    {t : Transmitter.Regs} (h : TxQuiet pending t) (clken : Bool) :
    (exists b, pending = [b] ∧ clken = true) ∨
      (pending = [] ∨ clken = false) := by
  cases h with
  | idle _ _ =>
      exact Or.inr (Or.inl rfl)
  | start _ _ _ _ =>
      cases clken with
      | false =>
          exact Or.inr (Or.inr rfl)
      | true =>
          exact Or.inl ⟨_, rfl, rfl⟩

theorem resting_advances {pending : List (BitVec 8)} {i : Cycle} {s : Regs}
    (hreset : i.reset = false) (range : InRange s.baud)
    (rx : RxRests s.receiver) (tx : TxQuiet pending s.transmitter) :
    Advances pending (wait s.baud) i s := by
  have hnone := received_of_incomplete hreset
    (rx.incomplete (BaudRateGen.rxclkEn s.baud) s.transmitter.tx)
  have hrests := rx.step (BaudRateGen.rxclkEn s.baud) i.rdyClr
  rw [<- tx.tx] at hrests
  rcases tx.starts_or_waits (BaudRateGen.txclkEn s.baud) with
    ⟨b, hpending, htick⟩ | hwait
  · rw [hpending] at tx
    have htime := range.timed htick
    have hsends := tx.starts i.din i.wrEn
    rw [<- htick] at hsends
    have hsampling : Sampling b ((27 - s.baud.rxAcc) % 28) 0 0
        (wired clkFreq i s) := by
      rw [wired_eq hreset]
      exact ⟨hrests.rxAt b, by omega, by omega, htime⟩
    have hphase : Phase [b] (4600 - 0) (wired clkFreq i s) := by
      apply Phase.sending hsampling (by omega)
      rw [wired_eq hreset]
      exact hsends
    refine ⟨_, _, hphase, ?_, ?_⟩
    · rw [hpending, accepted_of_pending tx, hnone]
      rfl
    · intro _ _
      unfold wait
      omega
  · have hwaits := tx.waits hwait i.din i.wrEn
    have hphase : Phase (pending ++ accepted i s)
        (wait (wired clkFreq i s).baud) (wired clkFreq i s) := by
      rw [wired_eq hreset]
      exact Phase.resting range.next hrests hwaits
    refine ⟨_, _, hphase, ?_, ?_⟩
    · rw [hnone]
      rfl
    · intro haccepted hsome
      rw [haccepted, List.append_nil] at hsome
      rw [wired_eq hreset]
      exact range.wait_falls (hwait.resolve_left hsome)

theorem sending_advances {b : BitVec 8} {lag u j : Nat} {i : Cycle} {s : Regs}
    (hreset : i.reset = false) (sampling : Sampling b lag u j s)
    (before : u < 3915) (tx : TxSends b (u / 435) s.transmitter) :
    Advances [b] (4600 - u) i s := by
  have hlate := sampling.late
  have hpast := sampling.past
  have hnear := sampling.time.near
  have hline : u = lag + 28 * j ->
      j < 159 ∧ LineFits b j s.transmitter.tx := by
    intro hnow
    refine ⟨by omega, ?_, ?_, ?_⟩
    · intro hj
      have hq : u / 435 = 0 := by omega
      rw [tx.tx, hq]
      rfl
    · intro k hk hj
      have hq : u / 435 = k + 1 := by omega
      rw [tx.tx, hq]
      rfl
    · omega
  obtain ⟨hnext, hnone⟩ := sampling.step hreset hline
  have htick := sampling.time.txclkEn
  have heq : [b] ++ accepted i s = received i s ++ [b] := by
    rw [accepted_of_sends tx, hnone]
    rfl
  by_cases hbit : u % 435 = 434
  · by_cases hlast : u / 435 = 8
    · -- The stop bit begins.
      have hquiet := (hlast ▸ tx).ends i.din i.wrEn
      have hphase : Phase [b] (4600 - (u + 1)) (wired clkFreq i s) := by
        apply Phase.stopping hnext (by omega)
        · split <;> omega
        · rw [wired_eq hreset, htick, decide_eq_true hbit]
          exact hquiet
      exact ⟨_, _, hphase, heq, fun _ _ => by omega⟩
    · have hsends := tx.next (by omega) i.din i.wrEn
      have hphase : Phase [b] (4600 - (u + 1)) (wired clkFreq i s) := by
        apply Phase.sending hnext (by omega)
        have hq : (u + 1) / 435 = u / 435 + 1 := by omega
        rw [wired_eq hreset, htick, decide_eq_true hbit, hq]
        exact hsends
      exact ⟨_, _, hphase, heq, fun _ _ => by omega⟩
  · have hholds := tx.holds i.din i.wrEn
    have hphase : Phase [b] (4600 - (u + 1)) (wired clkFreq i s) := by
      apply Phase.sending hnext (by omega)
      have hq : (u + 1) / 435 = u / 435 := by omega
      rw [wired_eq hreset, htick, decide_eq_false hbit, hq]
      exact hholds
    exact ⟨_, _, hphase, heq, fun _ _ => by omega⟩

/-- A byte completes and the receiver waits for the next start bit. -/
theorem completes_rests {b : BitVec 8} {u j : Nat} {i : Cycle} {s : Regs}
    (hok : ClearedInTime s i) (rx : RxAt b j s.receiver) (half : 152 ≤ j)
    (last : j < 160) (time : Timed u 0 s.baud)
    (hend : j = 159 ∨ s.transmitter.tx = false) :
    received i s = [b] ∧ RxRests (wired clkFreq i s).receiver := by
  have htick : BaudRateGen.rxclkEn s.baud = true := time.rxclkEn
  have hdone := rx.complete half last hend
  have hlow := hok.right (by rw [htick]; exact hdone)
  have hraised := raised_of_complete hdone hlow i.rdyClr
  rw [rx.scratch_eq (by omega)] at hraised
  rw [received, wired_eq hok.left, htick]
  exact hraised

theorem stopping_advances {b : BitVec 8} {pending : List (BitVec 8)}
    {lag u j : Nat} {i : Cycle} {s : Regs} (hok : ClearedInTime s i)
    (sampling : Sampling b lag u j s) (after : 3915 ≤ u) (last : j < 160)
    (tx : TxQuiet pending s.transmitter) :
    Advances (b :: pending) (if pending = [] then 4600 - u else wait s.baud)
      i s := by
  have hreset := hok.left
  have htick := sampling.time.txclkEn
  have hlate := sampling.late
  have hpast := sampling.past
  have hnear := sampling.time.near
  have hrange := sampling.time.inRange
  by_cases hend : u = lag + 28 * 159
  · -- No frame begins in this cycle: the line has been idle for too long.
    have hj : j = 159 := by omega
    have htime : Timed u 0 s.baud := by
      have hd : lag + 28 * j - u = 0 := by omega
      exact hd ▸ sampling.time
    obtain ⟨hreceived, hrests⟩ :=
      completes_rests hok sampling.rx (by omega) last htime (Or.inl hj)
    have hidle : BaudRateGen.txclkEn s.baud = false := by
      rw [htick, decide_eq_false (by omega)]
    have hwaits := tx.waits (Or.inr hidle) i.din i.wrEn
    have hphase : Phase (pending ++ accepted i s)
        (wait (wired clkFreq i s).baud) (wired clkFreq i s) := by
      apply Phase.resting _ hrests
      · rw [wired_eq hreset]
        exact hwaits
      · rw [wired_eq hreset]
        exact hrange.next
    refine ⟨_, _, hphase, ?_, ?_⟩
    · rw [hreceived]
      rfl
    · intro haccepted hsome
      rw [haccepted, List.append_nil] at hsome
      rw [if_neg hsome, wired_eq hreset]
      exact hrange.wait_falls hidle
  · have hline : u = lag + 28 * j ->
        j < 159 ∧ LineFits b j s.transmitter.tx := by
      intro hnow
      have hj : j ≠ 159 := fun h => hend (h ▸ hnow)
      refine ⟨by omega, by omega, by omega, fun _ => tx.tx⟩
    obtain ⟨hnext, hnone⟩ := sampling.step hreset hline
    rcases tx.starts_or_waits (BaudRateGen.txclkEn s.baud) with
      ⟨b', hpending, hnow⟩ | hwait
    · -- The next frame begins before the receiver has left this one.
      rw [hpending] at tx ⊢
      have hu : u % 435 = 434 := of_decide_eq_true (htick.symm.trans hnow)
      have hsends := tx.starts i.din i.wrEn
      have htime : Timed 0 (if lag + 28 * j - u = 0 then 27
          else lag + 28 * j - u - 1) (wired clkFreq i s).baud := by
        have hfirst := sampling.time.next
        rw [wired_eq hreset]
        refine ⟨hfirst.near, hfirst.rxAcc, ?_⟩
        rw [hfirst.txAcc]
        omega
      have hphase : Phase [b, b'] (4700 - 0) (wired clkFreq i s) := by
        apply Phase.overlapping hnext.rx _ _ htime
        · split <;> omega
        · rw [wired_eq hreset, hnow]
          exact hsends
        · split <;> omega
        · split <;> omega
      refine ⟨_, _, hphase, ?_, ?_⟩
      · rw [accepted_of_pending tx, hnone]
        rfl
      · intro _ _
        rw [if_neg (List.cons_ne_nil _ _)]
        unfold wait
        omega
    · have hwaits := tx.waits hwait i.din i.wrEn
      have hphase : Phase (b :: (pending ++ accepted i s))
          (if pending ++ accepted i s = [] then 4600 - (u + 1)
            else wait (wired clkFreq i s).baud) (wired clkFreq i s) := by
        apply Phase.stopping hnext (by omega)
        · split <;> omega
        · rw [wired_eq hreset]
          exact hwaits
      refine ⟨_, _, hphase, ?_, ?_⟩
      · rw [hnone]
        rfl
      · intro haccepted _
        rw [haccepted, List.append_nil]
        by_cases hempty : pending = []
        · rw [if_pos hempty, if_pos hempty]
          omega
        · rw [if_neg hempty, if_neg hempty, wired_eq hreset]
          exact hrange.wait_falls (hwait.resolve_left hempty)

theorem overlapping_advances {b b' : BitVec 8} {u d j : Nat} {i : Cycle}
    {s : Regs} (hok : ClearedInTime s i) (rx : RxAt b j s.receiver)
    (half : 152 ≤ j) (last : j < 160) (time : Timed u d s.baud)
    (soon : u + d < 28) (tx : TxSends b' 0 s.transmitter) :
    Advances [b, b'] (4700 - u) i s := by
  have hreset := hok.left
  have hidle : BaudRateGen.txclkEn s.baud = false := by
    rw [time.txclkEn, decide_eq_false (by omega)]
  have hholds : TxSends b' 0 (wired clkFreq i s).transmitter := by
    rw [wired_eq hreset, hidle]
    exact tx.holds i.din i.wrEn
  have hnext : Timed (u + 1) (if d = 0 then 27 else d - 1)
      (wired clkFreq i s).baud := by
    rw [wired_eq hreset]
    exact time.next
  by_cases hnow : d = 0
  · -- The receiver leaves the stop bit on a sample of the next start bit,
    -- which it does not count.
    rw [if_pos hnow] at hnext
    rw [hnow] at time
    obtain ⟨hreceived, hrests⟩ :=
      completes_rests hok rx half last time (Or.inr tx.tx)
    have hsampling : Sampling b' (u + 28) (u + 1) 0 (wired clkFreq i s) := by
      refine ⟨hrests.rxAt b', by omega, by omega, ?_⟩
      have hd : u + 28 + 28 * 0 - (u + 1) = 27 := by omega
      rw [hd]
      exact hnext
    have hphase : Phase [b'] (4600 - (u + 1)) (wired clkFreq i s) := by
      apply Phase.sending hsampling (by omega)
      have hq : (u + 1) / 435 = 0 := by omega
      rw [hq]
      exact hholds
    refine ⟨_, _, hphase, ?_, fun _ _ => by omega⟩
    rw [accepted_of_sends tx, hreceived]
    rfl
  · rw [if_neg hnow] at hnext
    have hquiet : BaudRateGen.rxclkEn s.baud = false := by
      rw [time.rxclkEn, decide_eq_false hnow]
    have hnone := received_of_incomplete hreset (by
      rw [hquiet]
      rfl)
    have hstill : RxAt b j (wired clkFreq i s).receiver := by
      rw [wired_eq hreset, hquiet, receiver_step_eq]
      exact rx.cleared _
    have hphase : Phase [b, b'] (4700 - (u + 1)) (wired clkFreq i s) :=
      Phase.overlapping hstill half last hnext (by omega) hholds
    refine ⟨_, _, hphase, ?_, fun _ _ => by omega⟩
    rw [accepted_of_sends tx, hnone]
    rfl

/-- Bytes go over the line in order, and none stays on the way. -/
theorem carries :
    Clocked.Carries (wired clkFreq) ClearedInTime accepted received Phase := by
  intro q m s i hphase hok
  cases hphase with
  | resting range rx tx =>
      exact resting_advances hok.left range rx tx
  | sending sampling before tx =>
      exact sending_advances hok.left sampling before tx
  | stopping sampling after last tx =>
      exact stopping_advances hok sampling after last tx
  | overlapping rx half last time soon tx =>
      exact overlapping_advances hok rx half last time soon tx

/-!
## The round trip
-/

/-- After a reset of the two ends, with the counters anywhere. -/
structure Starts (s : Regs) : Prop where
  rxAcc : s.baud.rxAcc ≤ BaudRateGen.rxAccMax clkFreq
  txAcc : s.baud.txAcc ≤ BaudRateGen.txAccMax clkFreq
  transmitter : s.transmitter = Transmitter.resetRegs
  receiver : s.receiver = Receiver.resetRegs s.receiver

theorem Starts.phase {s : Regs} (h : Starts s) : Phase [] (wait s.baud) s := by
  apply Phase.resting
  · exact ⟨Nat.lt_succ_of_le h.rxAcc, Nat.lt_succ_of_le h.txAcc⟩
  · rw [h.receiver]
    exact ⟨rfl, rfl⟩
  · rw [h.transmitter]
    exact TxQuiet.idle rfl rfl

theorem Phase.bound {q : List (BitVec 8)} {m : Nat} {s : Regs}
    (h : Phase q m s) : q.length ≤ 2 ∧ m < 12 * 435 := by
  have hwait : forall s, wait s < 12 * 435 := by
    intro s
    unfold wait
    omega
  cases h with
  | resting _ _ tx =>
      refine ⟨?_, hwait s.baud⟩
      cases tx <;> simp
  | sending _ _ _ =>
      exact ⟨Nat.le_succ 1, by omega⟩
  | stopping _ _ _ tx =>
      constructor
      · cases tx <;> simp
      · have hless := hwait s.baud
        split <;> omega
  | overlapping _ _ _ _ _ _ =>
      exact ⟨Nat.le_refl 2, by omega⟩

/-- The bytes written in a run while the transmitter is not busy. -/
def written (s : Regs) (inputs : List Cycle) : List (BitVec 8) :=
  Clocked.events (wired clkFreq) accepted s inputs

/-- The data at each rise of the ready flag in a run. -/
def arrived (s : Regs) (inputs : List Cycle) : List (BitVec 8) :=
  Clocked.events (wired clkFreq) received s inputs

/--
At any moment all bytes have arrived but at most two, and all of them when no
byte has been written for twelve bit times.
-/
theorem arrived_eq_written {s : Regs} (hs : Starts s) {inputs : List Cycle}
    (hrun : Clocked.Admissible (wired clkFreq) ClearedInTime s inputs) :
    (exists inflight, inflight.length ≤ 2 ∧
      written s inputs = arrived s inputs ++ inflight) ∧
    forall quiet,
      Clocked.Admissible (wired clkFreq) ClearedInTime s (inputs ++ quiet) ->
      written (Clocked.run (wired clkFreq) s inputs) quiet = [] ->
      12 * (BaudRateGen.txAccMax clkFreq + 1) ≤ quiet.length ->
      arrived s (inputs ++ quiet) = written s inputs := by
  obtain ⟨q, m, hphase, heq⟩ := carries.run hs.phase hrun
  rw [List.nil_append] at heq
  obtain ⟨hshort, hsoon⟩ := hphase.bound
  refine ⟨⟨q, hshort, heq⟩, ?_⟩
  intro quiet hboth hnone hlong
  have hquiet := ((Clocked.admissible_append _ _ _ _ _).mp hboth).right
  have hdrained := carries.drains hphase hquiet hnone
    (Nat.lt_of_lt_of_le hsoon hlong)
  rw [arrived, Clocked.events_append, hdrained]
  exact heq.symm

/-- Whoever clears the flag in every cycle clears it in time. -/
theorem admissible_of_clearing {inputs : List Cycle}
    (hclear : forall i, i ∈ inputs -> i.reset = false ∧ i.rdyClr = true)
    {s : Regs} (hs : s.receiver.rdy = true -> s.receiver.state = .start) :
    Clocked.Admissible (wired clkFreq) ClearedInTime s inputs := by
  induction inputs generalizing s with
  | nil =>
      trivial
  | cons i rest ih =>
      obtain ⟨hreset, hrdyClr⟩ := hclear i List.mem_cons_self
      refine ⟨⟨hreset, ?_⟩,
        ih (fun j hj => hclear j (List.mem_cons_of_mem i hj)) ?_⟩
      · intro hdone
        cases hrdy : s.receiver.rdy with
        | false =>
            rfl
        | true =>
            have hnever : Receiver.completes (BaudRateGen.rxclkEn s.baud)
                s.transmitter.tx s.receiver = false := by
              simp [Receiver.completes, hs hrdy]
            rw [hnever] at hdone
            exact absurd hdone Bool.false_ne_true
      · rw [wired_eq hreset, hrdyClr, receiver_step_eq]
        simp only [Bool.not_true, Bool.and_false]
        cases BaudRateGen.rxclkEn s.baud with
        | false =>
            intro hrdy
            exact absurd hrdy Bool.false_ne_true
        | true =>
            intro hrdy
            rw [if_pos rfl, sampled_rdy, Bool.false_or] at hrdy
            rw [if_pos rfl, sampled_of_complete hrdy]

theorem written_of_silent {inputs : List Cycle}
    (hsilent : forall i, i ∈ inputs -> i.wrEn = false) (s : Regs) :
    written s inputs = [] := by
  induction inputs generalizing s with
  | nil =>
      rfl
  | cons i rest ih =>
      have hnone : accepted i s = [] := by
        rw [accepted, taken, hsilent i List.mem_cons_self]
        rfl
      change accepted i s ++ written (wired clkFreq i s) rest = []
      rw [hnone, ih (fun j hj => hsilent j (List.mem_cons_of_mem i hj))]
      rfl

/-- A start with the receiver in the middle of its sample period. -/
def restingRegs : Regs where
  baud := { rxAcc := 14, txAcc := 100 }
  transmitter := Transmitter.resetRegs
  receiver :=
    { state := .start, sample := 0#4, bitpos := 0#4, scratch := 0#8,
      rdy := false, data := 0#8 }

def writes (b : BitVec 8) : Cycle where
  reset := false
  din := b
  wrEn := true
  rx := true
  rdyClr := true

def idles : Cycle where
  reset := false
  din := 0#8
  wrEn := false
  rx := true
  rdyClr := true

/-- A byte, and a second one held until the transmitter has taken it. -/
def twoBytes : List Cycle :=
  writes 0x41#8 :: List.replicate 4450 (writes 0x42#8)

/-- The second byte follows the first, whose flag has been cleared by then. -/
theorem arrived_eq_written_two :
    arrived restingRegs (twoBytes ++ List.replicate 5220 idles) =
      [0x41#8, 0x42#8] := by
  have hcycles : forall i, i ∈ twoBytes ++ List.replicate 5220 idles ->
      i.reset = false ∧ i.rdyClr = true := by
    intro i hi
    rcases List.mem_append.mp hi with hi | hi
    · rcases List.mem_cons.mp hi with rfl | hi
      · exact ⟨rfl, rfl⟩
      · rw [List.eq_of_mem_replicate hi]
        exact ⟨rfl, rfl⟩
    · rw [List.eq_of_mem_replicate hi]
      exact ⟨rfl, rfl⟩
  have hall := admissible_of_clearing hcycles
    (s := restingRegs) (fun h => absurd h Bool.false_ne_true)
  have hfirst := ((Clocked.admissible_append _ _ _ _ _).mp hall).left
  have hstarts : Starts restingRegs := ⟨by decide, by decide, rfl, rfl⟩
  have hsilent : forall i, i ∈ List.replicate 5220 idles -> i.wrEn = false := by
    intro i hi
    rw [List.eq_of_mem_replicate hi]
    rfl
  have hlong : 12 * (BaudRateGen.txAccMax clkFreq + 1) ≤
      (List.replicate 5220 idles).length := by
    rw [List.length_replicate]
    decide
  rw [(arrived_eq_written hstarts hfirst).right _ hall
    (written_of_silent hsilent _) hlong]
  decide +kernel

end Uart
end Fpga
end S80x86
