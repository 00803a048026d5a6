import S80x86.Fpga.PS2Receive
import Mathlib.Data.List.Forall2

/-!
# Sending a byte over PS/2

After the request the device clocks eleven periods.  The parity bit is computed
with the ninth sample, and from that sample on the host does not drive the
data any more.
-/

open Foundation

namespace S80x86
namespace Fpga
namespace PS2Host

/-!
## Bits on the line
-/

/-- The parity bit that makes the number of ones odd. -/
def oddParity (v : BitVec 8) : Bool := evenParity (dataBits v)

def txBits (v : BitVec 8) : List Bool :=
  false :: (dataBits v ++ [oddParity v, true])

def txOut (s : Regs) : List Unit := if s.txComplete then [()] else []

theorem txOut_of_no_sample (s : Regs) (h : s.doSample = false) :
    txOut s = [] := by
  simp [txOut, Regs.txComplete, h]

theorem txOut_of_not_ack {s : Regs} (h : s.state ≠ .txAck) :
    txOut s = [] := by
  simp [txOut, Regs.txComplete, h]

/-- What the device reads from the beginning of each high phase up to the
falling edge. -/
def reads : Regs -> List Period -> List (List Bool)
  | _, [] => []
  | s, p :: ps =>
      Clocked.outputs step (fun s => [s.hostDat]) s (p.high ++ [p.fall]) ::
        reads (Clocked.run step s p.cycles) ps

/-- Whenever the device reads in a period, it reads this bit. -/
def Reads (values : List Bool) (b : Bool) : Prop :=
  values ≠ [] ∧ forall v, v ∈ values -> v = b

theorem high_reads {P : Regs -> Prop} (hP : Waits P) {b : Bool}
    (hbit : forall s, P s -> s.hostDat = b) (p : Period) {s : Regs}
    (hcalm : s.Calm) (hs : P s) :
    Reads (Clocked.outputs step (fun s => [s.hostDat]) s
      (p.high ++ [p.fall])) b := by
  have hhigh := Clocked.outputs_forall
    (fun s i (h : s.Calm ∧ P s) hi =>
      ⟨calm_step hi.1 (hP.released s h.2) hi.2 h.1,
        hP.kept i s hi.1 h.1.no_sample h.2⟩)
    (fun s h x hx => (List.mem_singleton.mp hx).trans (hbit s h.2))
    p.high_clk ⟨hcalm, hs⟩
  have hfall := hbit _ (high_leads txOut_of_no_sample hP p.high_clk s hcalm
    hs).2.1
  rw [Clocked.outputs_append]
  constructor
  · exact List.append_ne_nil_of_right_ne_nil _ (List.cons_ne_nil _ _)
  · intro v hv
    rcases List.mem_append.mp hv with hv | hv
    · exact hhigh v hv
    · exact (List.mem_singleton.mp hv).trans hfall

/-!
## Conditions
-/

/-- What is on the line after `k` samples. -/
def sentBit (v : BitVec 8) (k : Nat) : Bool :=
  if k = 0 then false else v.getLsbD (k - 1)

structure Sends (v : BitVec 8) (k : Nat) (s : Regs) : Prop where
  state : s.state = if k < 8 then .tx else .txParity
  txReg : s.txReg = v
  bitpos : k < 8 -> s.bitpos.toNat = k
  datO : s.datO = sentBit v k

def Stops (s : Regs) : Prop := s.state = .txStop

def AwaitsAck (s : Regs) : Prop := s.state = .txAck

/-- The host only receives. -/
def Rests (s : Regs) : Prop :=
  s.state = .idle ∨ s.state = .rx ∨ s.state = .rxParity ∨ s.state = .stop

theorem waits_sends (v : BitVec 8) (k : Nat) : Waits (Sends v k) where
  kept i s hi hnone hs := by
    obtain ⟨hstate, htxReg, hbitpos, hdatO⟩ := hs
    by_cases hk : k < 8
    · rw [if_pos hk] at hstate
      refine ⟨?_, ?_, ?_, ?_⟩
      · simp [step, Regs.nextState, hi.1, hi.2, hstate, hnone, hk]
      · simpa [step, hi.2] using htxReg
      · simpa [step, Regs.nextBitpos, hstate, hnone] using hbitpos
      · simpa [step, Regs.nextDatO, hstate, hnone] using hdatO
    · rw [if_neg hk] at hstate
      refine ⟨?_, ?_, fun h => absurd h hk, ?_⟩
      · simp [step, Regs.nextState, hi.1, hi.2, hstate, hnone, hk]
      · simpa [step, hi.2] using htxReg
      · simpa [step, Regs.nextDatO, hstate, hnone] using hdatO
  released s hs := by
    rw [hs.state]
    split <;> decide

theorem waits_stops : Waits Stops where
  kept i s hi hnone hs := by
    have hstate : s.state = .txStop := hs
    simp [Stops, step, Regs.nextState, hi.1, hi.2, hstate, hnone]
  released s hs := by
    rw [show s.state = .txStop from hs]
    decide

theorem waits_ack : Waits AwaitsAck where
  kept i s hi hnone hs := by
    have hstate : s.state = .txAck := hs
    simp [AwaitsAck, step, Regs.nextState, hi.1, hi.2, hstate, hnone]
  released s hs := by
    rw [show s.state = .txAck from hs]
    decide

theorem rests_step {i : Cycle} {s : Regs} (hi : i.Quiet) (hs : Rests s) :
    Rests (step i s) := by
  have hnext : (step i s).state = s.nextState i := rfl
  unfold Rests
  rw [hnext]
  rcases hs with h | h | h | h
  all_goals
    simp only [Regs.nextState, hi.1, hi.2, h, Bool.false_eq_true, if_false]
    split <;> simp

theorem waits_rests : Waits Rests where
  kept i s hi _ hs := rests_step hi hs
  released s hs := by
    rcases hs with h | h | h | h <;> rw [h] <;> decide

theorem hostDat_sends {v : BitVec 8} {k : Nat} {s : Regs} (hs : Sends v k s) :
    s.hostDat = sentBit v k := by
  have hdrive : s.driveDat = true := by
    unfold Regs.driveDat
    rw [hs.state]
    by_cases hk : k < 8
    · rw [if_pos hk]
    · rw [if_neg hk]
  rw [Regs.hostDat, if_pos hdrive, hs.datO]

/-!
## Samples
-/

theorem sends_leads (p : Period) {v : BitVec 8} {k : Nat} (hk : k < 8) :
    Leads txOut (Sends v k) p.cycles [] (Sends v (k + 1)) := by
  apply period_leads txOut_of_no_sample (waits_sends v k)
    (waits_sends v (k + 1))
  intro i s _ hi hsample hs _ _
  obtain ⟨hstate, htxReg, hbitpos, hdatO⟩ := hs
  rw [if_pos hk] at hstate
  have hpos := hbitpos hk
  refine ⟨⟨?_, ?_, ?_, ?_⟩, txOut_of_not_ack (by rw [hstate]; decide)⟩
  · by_cases hlast : k = 7
    · subst hlast
      have hseven : s.bitpos = 7#3 := BitVec.eq_of_toNat_eq hpos
      simp [step, Regs.nextState, hi.1, hi.2, hstate, hsample, hseven]
    · have hne : s.bitpos ≠ 7#3 := by
        intro heq
        rw [heq] at hpos
        exact hlast hpos.symm
      rw [if_pos (by omega)]
      simp [step, Regs.nextState, hi.1, hi.2, hstate, hne]
  · simpa [step, hi.2] using htxReg
  · intro hlt
    have hnext : (step i s).bitpos = s.bitpos + 1#3 := by
      simp [step, Regs.nextBitpos, hstate, hsample]
    rw [hnext, BitVec.toNat_add, hpos, BitVec.toNat_ofNat]
    omega
  · simp [step, Regs.nextDatO, hstate, hsample, htxReg, hpos, sentBit]

theorem parity_leads_stop (p : Period) (v : BitVec 8) :
    Leads txOut (Sends v 8) p.cycles [] Stops := by
  apply period_leads txOut_of_no_sample (waits_sends v 8) waits_stops
  intro i s _ hi hsample hs _ _
  have hstate : s.state = .txParity := hs.state
  refine ⟨?_, txOut_of_not_ack (by rw [hstate]; decide)⟩
  simp [Stops, step, Regs.nextState, hi.1, hi.2, hstate, hsample]

theorem stop_leads_ack (p : Period) :
    Leads txOut Stops p.cycles [] AwaitsAck := by
  apply period_leads txOut_of_no_sample waits_stops waits_ack
  intro i s _ hi hsample hs _ _
  have hstate : s.state = .txStop := hs
  refine ⟨?_, txOut_of_not_ack (by rw [hstate]; decide)⟩
  simp [AwaitsAck, step, Regs.nextState, hi.1, hi.2, hstate, hsample]

theorem ack_leads (p : Period) :
    Leads txOut AwaitsAck p.cycles [()] Rests := by
  apply period_leads txOut_of_no_sample waits_ack waits_rests
  intro i s _ hi hsample hs _ _
  have hstate : s.state = .txAck := hs
  constructor
  · simp [Rests, step, Regs.nextState, hi.1, hi.2, hstate, hsample]
  · simp [txOut, Regs.txComplete, hstate, hsample]

theorem rests_outputs {cycles : List Cycle}
    (hquiet : forall i, i ∈ cycles -> i.Quiet) {s : Regs} (hs : Rests s) :
    Clocked.outputs step txOut s cycles = [] := by
  rw [List.eq_nil_iff_forall_not_mem]
  refine @Clocked.outputs_forall _ _ _ step txOut Cycle.Quiet Rests
    (fun _ => False) (fun s i h hi => rests_step hi h) ?_ _ hquiet s hs
  intro s h x hx
  have hnot : s.state ≠ .txAck := by
    rcases h with h | h | h | h <;> rw [h] <;> decide
  rw [txOut_of_not_ack hnot] at hx
  cases hx

/-- From the acknowledge on the data is not driven. -/
theorem ack_not_driven {cycles : List Cycle}
    (hquiet : forall i, i ∈ cycles -> i.Quiet) {s : Regs} (hs : AwaitsAck s) :
    forall d, d ∈ Clocked.outputs step (fun s => [s.driveDat]) s cycles ->
      d = false := by
  refine @Clocked.outputs_forall _ _ _ step _ Cycle.Quiet
    (fun s => AwaitsAck s ∨ Rests s) (fun d => d = false) ?_ ?_ _ hquiet s
    (Or.inl hs)
  · rintro s i (h | h) hi
    · have hstate : s.state = .txAck := h
      cases hsample : s.doSample with
      | false => exact Or.inl (waits_ack.kept i s hi hsample h)
      | true =>
          right
          simp [Rests, step, Regs.nextState, hi.1, hi.2, hstate, hsample]
    · exact Or.inr (rests_step hi h)
  · intro s h x hx
    rw [List.mem_singleton.mp hx]
    rcases h with h | h | h | h | h
    · simp [Regs.driveDat, show s.state = .txAck from h]
    all_goals simp [Regs.driveDat, h]

/-!
## The request
-/

/-- The host holds the clock low, so that the synchroniser fills with zeros
before the count runs out. -/
def InhibitSync (s : Regs) : Prop :=
  s.state = .inhibit ->
    (s.clkInhibitCount.toNat < 5000 -> s.clkSync.p1 = false) ∧
      (s.clkInhibitCount.toNat < 4999 -> s.clkSync.p2 = false) ∧
      (s.clkInhibitCount.toNat < 4998 -> s.lastPs2Clk = false)

theorem inhibitSync_step (i : Cycle) {s : Regs} (h : InhibitSync s) :
    InhibitSync (step i s) := by
  intro hnext
  cases hreset : i.reset with
  | true =>
      have hidle : (step i s).state = .idle := by
        simp [step, Regs.nextState, hreset]
      rw [hidle] at hnext
      cases hnext
  | false =>
      by_cases hstate : s.state = .inhibit
      · obtain ⟨hp1, hp2, _⟩ := h hstate
        have hcount : (step i s).clkInhibitCount =
            s.clkInhibitCount - 1#13 := by
          simp [step, Regs.nextClkInhibitCount, hreset, hstate]
        have hbefore : (step i s).clkInhibitCount.toNat < 5000 ->
            s.clkInhibitCount.toNat =
              (step i s).clkInhibitCount.toNat + 1 := by
          rw [hcount, BitVec.toNat_sub, BitVec.toNat_ofNat]
          have hlt := s.clkInhibitCount.isLt
          omega
        refine ⟨?_, ?_, ?_⟩
        · intro _
          simp [step, BitSync.step, hreset, Regs.ps2Clk, hstate]
        · intro hlt
          have hsync : (step i s).clkSync.p2 = s.clkSync.p1 := by
            simp [step, BitSync.step, hreset]
          rw [hsync]
          exact hp1 (by omega)
        · intro hlt
          have hsync : (step i s).lastPs2Clk = s.clkSync.p2 := by
            simp [step, hreset]
          rw [hsync]
          exact hp2 (by omega)
      · have hcount : (step i s).clkInhibitCount = 5000#13 := by
          simp [step, Regs.nextClkInhibitCount, hreset, hstate,
            txClockInhibitReload, clkf]
        rw [hcount]
        refine ⟨?_, ?_, ?_⟩ <;> intro hlt <;> exact absurd hlt (by decide)

theorem inhibitSync_run {reset : Cycle} (hreset : reset.reset = true)
    (s : Regs) (before : List Cycle) :
    InhibitSync (Clocked.run step (step reset s) before) := by
  refine Clocked.run_preserves (fun _ i hs => inhibitSync_step i hs) ?_ before
  intro hstate
  simp [step, Regs.nextState, hreset] at hstate

/-- The host holds the clock, and has the byte. -/
structure Requests (v : BitVec 8) (s : Regs) : Prop where
  state : s.state = .inhibit
  txReg : s.txReg = v
  sync : InhibitSync s

/-- The clock has just been let go. -/
structure Released (v : BitVec 8) (s : Regs) : Prop where
  state : s.state = .txStart
  txReg : s.txReg = v
  low : s.Low

theorem requests_start {start : Cycle} (hreset : start.reset = false)
    (hstart : start.startTx = true) {s : Regs} (hs : InhibitSync s) :
    Requests start.tx (step start s) where
  state := by simp [step, Regs.nextState, hreset, hstart]
  txReg := by simp [step, hstart]
  sync := inhibitSync_step start hs

/-- The clock is let go when the count has run out. -/
theorem requests_run {v : BitVec 8} {wait : List Cycle}
    (hquiet : forall i, i ∈ wait -> i.Quiet) {s : Regs} (hs : Requests v s)
    (hlength : wait.length = s.clkInhibitCount.toNat + 1) :
    Released v (Clocked.run step s wait) ∧
      Clocked.outputs step txOut s wait = [] := by
  induction wait generalizing s with
  | nil => cases hlength
  | cons i wait ih =>
      obtain ⟨hstate, htxReg, hsync⟩ := hs
      have hi := hquiet i List.mem_cons_self
      rw [List.length_cons, Nat.succ_inj] at hlength
      have hnone : txOut s = [] := txOut_of_not_ack (by rw [hstate]; decide)
      have hreg : (step i s).txReg = v := by simpa [step, hi.2] using htxReg
      rw [Clocked.outputs, hnone, List.nil_append, Clocked.run_cons]
      by_cases hzero : s.clkInhibitCount = 0#13
      · have hnil : wait = [] := by
          rw [<- List.length_eq_zero_iff, hlength, hzero]
          rfl
        subst hnil
        have hcount : s.clkInhibitCount.toNat = 0 := by
          rw [hzero]
          rfl
        obtain ⟨hp1, hp2, _⟩ := hsync hstate
        refine ⟨⟨?_, hreg, ?_, ?_, ?_⟩, rfl⟩
        · simp [step, Regs.nextState, hi.1, hi.2, hstate, hzero]
        · simp [step, BitSync.step, hi.1, Regs.ps2Clk, hstate]
        · exact (step_p2 hi).trans (hp1 (by omega))
        · exact (step_last hi).trans (hp2 (by omega))
      · have hcount : (step i s).clkInhibitCount =
            s.clkInhibitCount - 1#13 := by
          simp [step, Regs.nextClkInhibitCount, hi.1, hstate]
        apply ih (fun j hj => hquiet j (List.mem_cons_of_mem i hj))
        · refine ⟨?_, hreg, inhibitSync_step i hsync⟩
          simp [step, Regs.nextState, hi.1, hi.2, hstate, hzero]
        · have hpos : s.clkInhibitCount.toNat ≠ 0 := fun h =>
            hzero (BitVec.eq_of_toNat_eq h)
          have hlt := s.clkInhibitCount.isLt
          rw [hlength, hcount, BitVec.toNat_sub, BitVec.toNat_ofNat]
          omega

theorem released_step {v : BitVec 8} {release : Cycle}
    (hquiet : release.Quiet) {s : Regs} (hs : Released v s) :
    Sends v 0 (step release s) ∧ (step release s).Calm ∧ txOut s = [] := by
  obtain ⟨hstate, htxReg, hlow⟩ := hs
  refine ⟨⟨?_, ?_, fun _ => ?_, ?_⟩, ?_,
    txOut_of_not_ack (by rw [hstate]; decide)⟩
  · simp [step, Regs.nextState, hquiet.1, hquiet.2, hstate]
  · simpa [step, hquiet.2] using htxReg
  · simp [step, Regs.nextBitpos, hstate]
  · simp [step, Regs.nextDatO, hstate, sentBit]
  · unfold Regs.Calm
    rw [step_p2 hquiet, step_last hquiet, hlow.1, hlow.2.1]
    simp

/-!
## The transmission
-/

theorem reads_append (s : Regs) (ps ps' : List Period) :
    reads s (ps ++ ps') =
      reads s ps ++
        reads (Clocked.run step s (ps.flatMap Period.cycles)) ps' := by
  induction ps generalizing s with
  | nil => rfl
  | cons p ps ih =>
      rw [List.cons_append, reads, reads, ih, List.flatMap_cons,
        Clocked.run_append, List.cons_append]

/-- A value is read, so there is only one bit. -/
theorem reads_unique {values : List (List Bool)} {bits bits' : List Bool}
    (h : List.Forall₂ Reads values bits)
    (h' : List.Forall₂ Reads values bits') : bits = bits' := by
  induction h generalizing bits' with
  | nil =>
      cases h'
      rfl
  | @cons values b _ _ hvalues _ ih =>
      cases h' with
      | cons hvalues' hrest' =>
          obtain ⟨x, hx⟩ := List.exists_mem_of_ne_nil _ hvalues.1
          rw [<- hvalues.2 x hx, hvalues'.2 x hx, ih hrest']

/-- The start bit and the data bits. -/
theorem data_reads (v : BitVec 8) (n : Nat) {k : Nat} (hk : k + n = 8)
    {ps : List Period} (hlength : ps.length = n) :
    Leads txOut (Sends v k) (ps.flatMap Period.cycles) [] (Sends v 8) ∧
      forall s : Regs, s.Calm -> Sends v k s ->
        List.Forall₂ Reads (reads s ps)
          ((List.range' k n).map (sentBit v)) := by
  induction n generalizing k ps with
  | zero =>
      have hnil : ps = [] := List.length_eq_zero_iff.mp hlength
      subst hnil
      rw [Nat.add_zero] at hk
      subst hk
      exact ⟨Leads.refl txOut _, fun _ _ _ => List.Forall₂.nil⟩
  | succ n ih =>
      cases ps with
      | nil => cases hlength
      | cons p ps =>
          have hfirst : Leads txOut (Sends v k) p.cycles []
              (Sends v (k + 1)) :=
            sends_leads p (by omega)
          obtain ⟨hleads, hreads⟩ :=
            @ih (k + 1) (by omega) ps (Nat.succ_inj.mp hlength)
          constructor
          · rw [List.flatMap_cons]
            exact hfirst.trans hleads
          · intro s hcalm hs
            obtain ⟨hcalm', hs', _⟩ := hfirst s hcalm hs
            rw [List.range'_succ, List.map_cons]
            exact List.Forall₂.cons
              (high_reads (waits_sends v k) (fun _ => hostDat_sends) p hcalm hs)
              (hreads _ hcalm' hs')

/-- What is really on the line. -/
def drivenBits (v : BitVec 8) : List Bool :=
  false :: (dataBits v ++ [true, true])

theorem released_hostDat {s : Regs} (h : s.driveDat = false) :
    s.hostDat = true := by
  simp [Regs.hostDat, h]

theorem driveDat_stops {s : Regs} (hs : Stops s) : s.driveDat = false := by
  simp [Regs.driveDat, show s.state = .txStop from hs]

theorem driveDat_ack {s : Regs} (hs : AwaitsAck s) : s.driveDat = false := by
  simp [Regs.driveDat, show s.state = .txAck from hs]

/-- Ten periods take the byte to the acknowledge. -/
theorem body_reads (v : BitVec 8) {body : List Period}
    (hlength : body.length = 10) {s : Regs} (hcalm : s.Calm)
    (hs : Sends v 0 s) (last : Period) :
    (Regs.Calm (Clocked.run step s (body.flatMap Period.cycles)) ∧
      AwaitsAck (Clocked.run step s (body.flatMap Period.cycles)) ∧
      Clocked.outputs step txOut s (body.flatMap Period.cycles) = []) ∧
    List.Forall₂ Reads (reads s (body ++ [last])) (drivenBits v) := by
  obtain ⟨data, parity, stop, hdata, rfl⟩ : exists data parity stop,
      data.length = 8 ∧ body = data ++ [parity, stop] := by
    obtain ⟨parity, stop, hrest⟩ := @List.length_eq_two _ (body.drop 8) |>.mp
      (by rw [List.length_drop, hlength])
    refine ⟨body.take 8, parity, stop, ?_, ?_⟩
    · rw [List.length_take, hlength]
      rfl
    · rw [<- hrest, List.take_append_drop]
  obtain ⟨hleads, hreads⟩ := data_reads v 8 rfl hdata
  have hcycles : (data ++ [parity, stop]).flatMap Period.cycles =
      data.flatMap Period.cycles ++ (parity.cycles ++ stop.cycles) := by
    simp
  have hall := hleads.trans
    ((parity_leads_stop parity v).trans (stop_leads_ack stop))
  refine ⟨by rw [hcycles]; exact hall s hcalm hs, ?_⟩
  obtain ⟨hcalm₁, hs₁, _⟩ := hleads s hcalm hs
  obtain ⟨hcalm₂, hs₂, _⟩ := parity_leads_stop parity v _ hcalm₁ hs₁
  obtain ⟨hcalm₃, hs₃, _⟩ := stop_leads_ack stop _ hcalm₂ hs₂
  have hbits : drivenBits v =
      (List.range' 0 8).map (sentBit v) ++ [sentBit v 8, true, true] := rfl
  rw [List.append_assoc, reads_append, hbits]
  refine List.rel_append (hreads s hcalm hs) ?_
  refine List.Forall₂.cons (high_reads (waits_sends v 8)
    (fun _ => hostDat_sends) parity hcalm₁ hs₁) ?_
  refine List.Forall₂.cons (high_reads waits_stops
    (fun _ h => released_hostDat (driveDat_stops h)) stop hcalm₂ hs₂) ?_
  exact List.Forall₂.cons (high_reads waits_ack
    (fun _ h => released_hostDat (driveDat_ack h)) last hcalm₃ hs₃)
    List.Forall₂.nil

/-- Everything that is said of a transmission of some bits, from the registers
after `start_tx` on. -/
structure Transmits (bits : List Bool) (s : Regs) (wait : List Cycle)
    (release : Cycle) (body : List Period) (last : Period)
    (rest : List Cycle) : Prop where
  requested : (Clocked.run step s wait).state = .txStart
  sampled : List.Forall₂ Reads
    (reads (Clocked.run step s (wait ++ [release])) (body ++ [last]))
    bits
  released : forall d,
    d ∈ Clocked.outputs step (fun s => [s.driveDat])
      (Clocked.run step s
        (wait ++ [release] ++ body.flatMap Period.cycles)) last.cycles ->
    d = false
  complete : Clocked.outputs step txOut s
    (wait ++ [release] ++ body.flatMap Period.cycles ++ last.cycles ++ rest) =
      [()]

/-- The bits that are in the byte, and those that are on the line. -/
theorem txBits_eq_iff (v : BitVec 8) :
    drivenBits v = txBits v ↔ oddParity v = true := by
  rw [drivenBits, txBits, List.cons.injEq, List.append_right_inj,
    List.cons.injEq]
  constructor
  · rintro ⟨_, h, _⟩
    exact h.symm
  · intro h
    exact ⟨rfl, h.symm, rfl⟩

section Transmission

variable {reset start release : Cycle} {s : Regs} {before wait : List Cycle}
variable {body : List Period} {last : Period} {rest : List Cycle}

theorem Transmits.unique {bits bits' : List Bool}
    (h : Transmits bits s wait release body last rest)
    (h' : Transmits bits' s wait release body last rest) : bits = bits' :=
  reads_unique h.sampled h'.sampled

variable (hreset : reset.reset = true)
variable (hstart : start.reset = false ∧ start.startTx = true)
variable (hwait : forall i, i ∈ wait -> i.Quiet)
variable (hlength : wait.length =
  (step start (Clocked.run step (step reset s)
    before)).clkInhibitCount.toNat + 1)
variable (hrelease : release.Quiet) (hbody : body.length = 10)
variable (hrest : forall i, i ∈ rest -> i.Quiet)
include hreset hstart hwait hlength hrelease hbody hrest

theorem transmits_drivenBits :
    Transmits (drivenBits start.tx)
      (step start (Clocked.run step (step reset s) before))
      wait release body last rest := by
  have hrequests : Requests start.tx _ :=
    requests_start hstart.1 hstart.2 (inhibitSync_run hreset s before)
  revert hlength hrequests
  generalize step start (Clocked.run step (step reset s) before) = s₀
  intro hlength hrequests
  obtain ⟨hreleased, hwaitout⟩ := requests_run hwait hrequests hlength
  obtain ⟨hsends, hcalm, hreleaseout⟩ := released_step hrelease hreleased
  have hrun : Clocked.run step s₀ (wait ++ [release]) =
      step release (Clocked.run step s₀ wait) := by
    rw [Clocked.run_append]
    rfl
  have hout : Clocked.outputs step txOut s₀ (wait ++ [release]) = [] := by
    rw [Clocked.outputs_append, hwaitout, Clocked.outputs, hreleaseout]
    rfl
  obtain ⟨⟨hcalm₁, hack, hbodyout⟩, hreads⟩ :=
    body_reads start.tx hbody hcalm hsends last
  rw [<- hrun] at hcalm₁ hack hbodyout hreads
  obtain ⟨_, hresting, hackout⟩ := ack_leads last _ hcalm₁ hack
  refine ⟨hreleased.state, hreads, ?_, ?_⟩
  · rw [Clocked.run_append]
    exact ack_not_driven last.quiet hack
  · rw [Clocked.outputs_append, Clocked.outputs_append,
      Clocked.outputs_append, hout, hbodyout, Clocked.run_append,
      hackout, Clocked.run_append, Clocked.run_append,
      rests_outputs hrest hresting]
    rfl

/-- After a request only the parity bit can be wrong. -/
theorem transmits_iff :
    Transmits (txBits start.tx)
        (step start (Clocked.run step (step reset s) before))
        wait release body last rest ↔
      oddParity start.tx = true := by
  have hdriven := @transmits_drivenBits reset start release s before wait body
    last rest hreset hstart hwait hlength hrelease hbody hrest
  rw [<- txBits_eq_iff]
  constructor
  · intro h
    exact hdriven.unique h
  · intro h
    rw [<- h]
    exact hdriven

end Transmission

def startCycle (v : BitVec 8) : Cycle :=
  { deviceCycle true true with startTx := true, tx := v }

/-- A device that waits for the clock to be let go. -/
def hostWaits : List Cycle := List.replicate 5001 (deviceCycle true true)

theorem hostWaits_length (v : BitVec 8) :
    hostWaits.length =
      (step (startCycle v) (Clocked.run step (step hostReset someRegs)
        [])).clkInhibitCount.toNat + 1 :=
  List.length_replicate.trans rfl

theorem hostWaits_quiet : forall i, i ∈ hostWaits -> i.Quiet :=
  fun i hi => (deviceCycle_replicate _ true true i hi).1

theorem transmits_iff_ed :
    Transmits (txBits 0xed#8)
        (step (startCycle 0xed#8)
          (Clocked.run step (step hostReset someRegs) []))
        hostWaits (deviceCycle true true)
        (List.replicate 10 (bitPeriod true)) (bitPeriod false) [] ↔
      oddParity 0xed#8 = true :=
  transmits_iff rfl ⟨rfl, rfl⟩ hostWaits_quiet (hostWaits_length 0xed#8)
    ⟨rfl, rfl⟩ List.length_replicate (fun _ hi => absurd hi List.not_mem_nil)

/-- A byte with one bit set is sent with the parity bit one. -/
theorem transmits_wrong_parity :
    ¬ forall (reset start release : Cycle) (s : Regs)
        (before wait : List Cycle) (body : List Period) (last : Period)
        (rest : List Cycle),
      reset.reset = true -> start.reset = false ∧ start.startTx = true ->
      (forall i, i ∈ wait -> i.Quiet) ->
      wait.length =
        (step start (Clocked.run step (step reset s)
          before)).clkInhibitCount.toNat + 1 ->
      release.Quiet -> body.length = 10 ->
      (forall i, i ∈ rest -> i.Quiet) ->
      Transmits (txBits start.tx)
        (step start (Clocked.run step (step reset s) before))
        wait release body last rest := by
  intro h
  have hrest : forall i : Cycle, i ∈ [] -> i.Quiet :=
    fun _ hi => absurd hi List.not_mem_nil
  have htx := h hostReset (startCycle 0x01#8) (deviceCycle true true) someRegs
    [] hostWaits (List.replicate 10 (bitPeriod true)) (bitPeriod false) [] rfl
    ⟨rfl, rfl⟩ hostWaits_quiet (hostWaits_length 0x01#8) ⟨rfl, rfl⟩
    List.length_replicate hrest
  have hdriven := @transmits_drivenBits hostReset (startCycle 0x01#8)
    (deviceCycle true true) someRegs [] hostWaits
    (List.replicate 10 (bitPeriod true)) (bitPeriod false) [] rfl
    ⟨rfl, rfl⟩ hostWaits_quiet (hostWaits_length 0x01#8) ⟨rfl, rfl⟩
    List.length_replicate hrest
  have heq : drivenBits 0x01#8 = txBits 0x01#8 := hdriven.unique htx
  exact absurd heq (by decide)

end PS2Host
end Fpga
end S80x86
