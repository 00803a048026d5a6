import S80x86.Fpga.TimerUnit
import S80x86.Foundation.Bits
import S80x86.Sim.TimerTick

/-!
# The period of the timer

In mode 2 the output rises once in each round of the counter, which takes as
many clocks as the reload value says.  In mode 3 the output is turned over once
in a round, so that it rises in every second one.
-/

open Foundation

namespace S80x86
namespace Fpga
namespace TimerUnit

/-!
## Clocks
-/

/-- A cycle that only counts. -/
def Cycle.Undisturbed (i : Cycle) : Prop :=
  i.reset = false ∧ i.configure = false ∧ i.load = false ∧ i.gate = true

/-- One clock of the timer, slower than `clk`. -/
structure PitClock where
  rise : Cycle
  high : List Cycle
  low : List Cycle
  rise_clk : rise.Undisturbed ∧ rise.pitClk = true
  high_clk : forall i, i ∈ high -> i.Undisturbed ∧ i.pitClk = true
  low_clk : forall i, i ∈ low -> i.Undisturbed ∧ i.pitClk = false
  low_ne : low ≠ []

def PitClock.cycles (p : PitClock) : List Cycle := p.rise :: (p.high ++ p.low)

/-- How often `out` rises. -/
def risingEdges : Regs -> List Cycle -> Nat
  | _, [] => 0
  | s, i :: rest =>
      (if s.out = false ∧ (step i s).out = true then 1 else 0) +
        risingEdges (step i s) rest

theorem risingEdges_append (s : Regs) (first second : List Cycle) :
    risingEdges s (first ++ second) =
      risingEdges s first + risingEdges (Clocked.run step s first) second := by
  induction first generalizing s with
  | nil => exact (Nat.zero_add _).symm
  | cons i rest ih =>
      rw [List.cons_append, risingEdges, risingEdges, ih, Clocked.run_cons,
        Nat.add_assoc]

/-!
## Cycles
-/

/-- What a clock edge makes of the count. -/
def countAfter (m : BitVec 2) (r c : BitVec 16) : BitVec 16 :=
  if m = 3#2 then
    if c = 0#16 ∨ c = 1#16 then
      if r.getLsbD 0 then r - 1#16 else r
    else c - 1#16
  else (if c = 0#16 then r else c) - 1#16

/-- The output in the cycle after the clock edge. -/
def outAfter (m : BitVec 2) (c : BitVec 16) (o : Bool) : Bool :=
  if m = 3#2 then if c = 2#16 then !o else o else decide (c ≠ 1#16)

/-- The output after a cycle without an edge. -/
def outStill (m : BitVec 2) (c : BitVec 16) (o : Bool) : Bool :=
  if m = 3#2 then o else decide (c ≠ 1#16)

/-- The registers that matter for counting, while the gate is open. -/
structure At (m : BitVec 2) (r c : BitVec 16) (o : Bool) (s : Regs) :
    Prop where
  mode : s.mode = m
  reload : s.reload = r
  count : s.count = c
  out : s.out = o
  lastGate : s.lastGate = true

section Cycles

variable {m : BitVec 2} {r c : BitVec 16} {o : Bool} {i : Cycle} {s : Regs}
variable (hm : m = 2#2 ∨ m = 3#2) (hi : i.Undisturbed)
include hm hi

theorem at_still (hs : At m r c o s) (hedge : s.pitClkPosedge i = false) :
    At m r c (outStill m c o) (step i s) := by
  obtain ⟨hreset, hconfigure, hload, hgate⟩ := hi
  obtain ⟨hmode, hreload, hcount, hout, hlast⟩ := hs
  have htrigger : s.trigger i = false := by simp [Regs.trigger, hlast]
  refine ⟨?_, ?_, ?_, ?_, hgate⟩
  · simpa [step, Regs.nextMode, hreset, hconfigure] using hmode
  · simpa [step, Regs.nextReload, hreset, hconfigure, hload] using hreload
  all_goals
    rcases hm with rfl | rfl
    · simp [step, Regs.nextCount, hreset, hmode, Regs.countSquareWave,
        htrigger, hedge, hgate, hcount, outStill]
    · simp [step, Regs.nextCount, hreset, hmode, Regs.countRateGen,
        htrigger, hedge, hgate, hcount, hout, outStill]

theorem at_edge (hs : At m r c o s) (hedge : s.pitClkPosedge i = true) :
    At m r (countAfter m r c) (outAfter m c o) (step i s) := by
  obtain ⟨hreset, hconfigure, hload, hgate⟩ := hi
  obtain ⟨hmode, hreload, hcount, hout, hlast⟩ := hs
  have htrigger : s.trigger i = false := by simp [Regs.trigger, hlast]
  refine ⟨?_, ?_, ?_, ?_, hgate⟩
  · simpa [step, Regs.nextMode, hreset, hconfigure] using hmode
  · simpa [step, Regs.nextReload, hreset, hconfigure, hload] using hreload
  all_goals
    rcases hm with rfl | rfl
    · simp [step, Regs.nextCount, hreset, hmode, Regs.countSquareWave,
        htrigger, hedge, hgate, hcount, hreload, countAfter, outAfter]
    · simp [step, Regs.nextCount, hreset, hmode, Regs.countRateGen,
        htrigger, hedge, hgate, hcount, hreload, hout, countAfter, outAfter,
        Regs.evenReload]

end Cycles

/-- One rising edge of the output from `o` to `o'`. -/
def rises (o o' : Bool) : Nat := if o = false ∧ o' = true then 1 else 0

theorem outStill_idem (m : BitVec 2) (c : BitVec 16) (o : Bool) :
    outStill m c (outStill m c o) = outStill m c o := by
  unfold outStill
  split <;> rfl

/-- Cycles without an edge of the clock. -/
theorem at_still_run {m : BitVec 2} (hm : m = 2#2 ∨ m = 3#2)
    {r c : BitVec 16} {b : Bool} {cycles : List Cycle}
    (hcycles : forall i, i ∈ cycles -> i.Undisturbed ∧ i.pitClk = b)
    {o : Bool} {s : Regs} (hs : At m r c (outStill m c o) s)
    (hlast : b = true -> s.lastPitClk = true) :
    At m r c (outStill m c o) (Clocked.run step s cycles) ∧
      (b = true -> (Clocked.run step s cycles).lastPitClk = true) ∧
      risingEdges s cycles = 0 := by
  induction cycles generalizing s with
  | nil => exact ⟨hs, hlast, rfl⟩
  | cons i rest ih =>
      obtain ⟨hi, hclk⟩ := hcycles i List.mem_cons_self
      have hedge : s.pitClkPosedge i = false := by
        unfold Regs.pitClkPosedge
        rw [hclk]
        cases b with
        | false => rfl
        | true => rw [hlast rfl]; rfl
      have hnext := at_still hm hi hs hedge
      rw [outStill_idem] at hnext
      obtain ⟨hs', hlast', hrises⟩ :=
        ih (fun j hj => hcycles j (List.mem_cons_of_mem i hj)) hnext
          (fun _ => hclk.trans ‹_›)
      refine ⟨hs', hlast', ?_⟩
      rw [risingEdges, hrises, hs.out, hnext.out]
      cases outStill m c o <;> rfl

/-- Between two clocks `pit_clk` is low. -/
def AtRest (m : BitVec 2) (r c : BitVec 16) (o : Bool) (s : Regs) : Prop :=
  At m r c o s ∧ s.lastPitClk = false

/-- After the rising edge, one more cycle sets the output of mode 2. -/
theorem atRest_of_low {m : BitVec 2} (hm : m = 2#2 ∨ m = 3#2)
    {r c : BitVec 16} {low : List Cycle}
    (hlow : forall i, i ∈ low -> i.Undisturbed ∧ i.pitClk = false)
    (hne : low ≠ []) {o : Bool} {s : Regs} (hs : At m r c o s) :
    AtRest m r c (outStill m c o) (Clocked.run step s low) ∧
      risingEdges s low = rises o (outStill m c o) := by
  cases low with
  | nil => exact absurd rfl hne
  | cons i rest =>
      obtain ⟨hi, hclk⟩ := hlow i List.mem_cons_self
      have hedge : s.pitClkPosedge i = false := by
        rw [Regs.pitClkPosedge, hclk]
        rfl
      have hnext := at_still hm hi hs hedge
      obtain ⟨hs', _, hrises⟩ := at_still_run hm
        (fun j hj => hlow j (List.mem_cons_of_mem i hj)) hnext
        (fun h => Bool.noConfusion h)
      refine ⟨⟨hs', ?_⟩, ?_⟩
      · obtain ⟨j, hj⟩ := Option.isSome_iff_exists.mp
          (List.getLast?_isSome.mpr hne)
        have hsplit := List.dropLast_append_getLast? j hj
        rw [<- hsplit, Clocked.run_append]
        exact (hlow j (List.mem_of_getLast? hj)).2
      · rw [risingEdges, hrises, hs.out, hnext.out]
        rfl

theorem rises_self (o : Bool) : rises o o = 0 := by
  cases o <;> rfl

/-- The high cycles may be over at once, the low ones not. -/
theorem atRest_of_high {m : BitVec 2} (hm : m = 2#2 ∨ m = 3#2)
    {r c : BitVec 16} (p : PitClock) {o : Bool} {s : Regs}
    (hs : At m r c o s) (hlast : s.lastPitClk = true) :
    AtRest m r c (outStill m c o)
        (Clocked.run step s (p.high ++ p.low)) ∧
      risingEdges s (p.high ++ p.low) = rises o (outStill m c o) := by
  cases hhigh : p.high with
  | nil => exact atRest_of_low hm p.low_clk p.low_ne hs
  | cons i rest =>
      have hclks := p.high_clk
      rw [hhigh] at hclks
      obtain ⟨hi, hclk⟩ := hclks i List.mem_cons_self
      have hedge : s.pitClkPosedge i = false := by
        rw [Regs.pitClkPosedge, hclk, hlast]
        rfl
      have hnext := at_still hm hi hs hedge
      obtain ⟨hs', _, hrises⟩ := at_still_run hm
        (fun j hj => hclks j (List.mem_cons_of_mem i hj)) hnext
        (fun _ => hclk)
      obtain ⟨hrest, hlowrises⟩ := atRest_of_low hm p.low_clk p.low_ne hs'
      rw [outStill_idem] at hrest hlowrises
      rw [List.cons_append, Clocked.run_cons, Clocked.run_append]
      refine ⟨hrest, ?_⟩
      rw [risingEdges, risingEdges_append, hrises, hlowrises, rises_self,
        hs.out, hnext.out]
      rfl

/-- The count and the output after one clock, and the edges in it. -/
theorem pitClock_run {m : BitVec 2} (hm : m = 2#2 ∨ m = 3#2)
    {r c : BitVec 16} {o : Bool} (p : PitClock) {s : Regs}
    (hs : AtRest m r c o s) :
    AtRest m r (countAfter m r c)
        (outStill m (countAfter m r c) (outAfter m c o))
        (Clocked.run step s p.cycles) ∧
      risingEdges s p.cycles =
        rises o (outAfter m c o) +
          rises (outAfter m c o)
            (outStill m (countAfter m r c) (outAfter m c o)) := by
  obtain ⟨hat, hlast⟩ := hs
  have hedge : s.pitClkPosedge p.rise = true := by
    rw [Regs.pitClkPosedge, p.rise_clk.2, hlast]
    rfl
  have hrise := at_edge hm p.rise_clk.1 hat hedge
  obtain ⟨hrest, hrises⟩ := atRest_of_high hm p hrise p.rise_clk.2
  rw [PitClock.cycles, Clocked.run_cons, risingEdges, hrises, hat.out,
    hrise.out]
  exact ⟨hrest, rfl⟩

/-!
## Stretches of clocks
-/

/-- Over so many clocks the count and the output change like this, and the
output rises so often. -/
def Counts (m : BitVec 2) (r c : BitVec 16) (o : Bool) (n : Nat)
    (c' : BitVec 16) (o' : Bool) (edges : Nat) : Prop :=
  forall (s : Regs) (ps : List PitClock), AtRest m r c o s -> ps.length = n ->
    AtRest m r c' o' (Clocked.run step s (ps.flatMap PitClock.cycles)) ∧
      risingEdges s (ps.flatMap PitClock.cycles) = edges

theorem Counts.zero (m : BitVec 2) (r c : BitVec 16) (o : Bool) :
    Counts m r c o 0 c o 0 := by
  intro s ps hs hlength
  rw [List.length_eq_zero_iff.mp hlength]
  exact ⟨hs, rfl⟩

theorem Counts.trans {m : BitVec 2} {r c c' c'' : BitVec 16}
    {o o' o'' : Bool} {n n' edges edges' : Nat}
    (h : Counts m r c o n c' o' edges)
    (h' : Counts m r c' o' n' c'' o'' edges') :
    Counts m r c o (n + n') c'' o'' (edges + edges') := by
  intro s ps hs hlength
  have hfirst : (ps.take n).length = n := by
    rw [List.length_take]
    omega
  have hsecond : (ps.drop n).length = n' := by
    rw [List.length_drop]
    omega
  obtain ⟨hs', hedges⟩ := h s (ps.take n) hs hfirst
  obtain ⟨hs'', hedges'⟩ := h' _ (ps.drop n) hs' hsecond
  rw [<- List.take_append_drop n ps, List.flatMap_append,
    Clocked.run_append, risingEdges_append, hedges, hedges']
  exact ⟨hs'', rfl⟩

theorem Counts.one {m : BitVec 2} (hm : m = 2#2 ∨ m = 3#2)
    (r c : BitVec 16) (o : Bool) :
    Counts m r c o 1 (countAfter m r c)
      (outStill m (countAfter m r c) (outAfter m c o))
      (rises o (outAfter m c o) +
        rises (outAfter m c o)
          (outStill m (countAfter m r c) (outAfter m c o))) := by
  intro s ps hs hlength
  obtain ⟨p, rfl⟩ := List.length_eq_one_iff.mp hlength
  rw [List.flatMap_cons, List.flatMap_nil, List.append_nil]
  exact pitClock_run hm p hs

/-!
## Mode 2
-/

/-- The clocks that the reload value stands for. -/
def pitClocks (r : BitVec 16) : Nat := if r = 0#16 then 65536 else r.toNat

def lowAtOne (c : BitVec 16) : Bool := decide (c ≠ 1#16)

/-- One clock of mode 2. -/
theorem counts2_one (r c : BitVec 16) :
    Counts 2#2 r c (lowAtOne c) 1
      ((if c = 0#16 then r else c) - 1#16)
      (lowAtOne ((if c = 0#16 then r else c) - 1#16))
      (if c = 1#16 then 1 else 0) := by
  have h := Counts.one (Or.inl rfl) r c (lowAtOne c)
  have hcount : countAfter 2#2 r c = (if c = 0#16 then r else c) - 1#16 := rfl
  have hout : outAfter 2#2 c (lowAtOne c) = lowAtOne c := rfl
  have hstill (c' : BitVec 16) (o : Bool) :
      outStill 2#2 c' o = lowAtOne c' := rfl
  rw [hout, hstill, hcount, rises_self, Nat.zero_add] at h
  by_cases hc : c = 1#16
  · subst hc
    have hzero : (if 1#16 = 0#16 then r else 1#16) - 1#16 = 0#16 := by
      rw [if_neg (by decide)]
      rfl
    rw [hzero] at h
    rw [hzero, if_pos rfl]
    exact h
  · have htrue : lowAtOne c = true := decide_eq_true hc
    rw [htrue] at h
    rw [if_neg hc, htrue]
    exact h

/-- Counting down, the output rises when one becomes zero. -/
theorem counts2_down (r : BitVec 16) (k : Nat) {c : BitVec 16}
    (hk : k ≤ c.toNat) :
    Counts 2#2 r c (lowAtOne c) k (c - BitVec.ofNat 16 k)
      (lowAtOne (c - BitVec.ofNat 16 k))
      (if k = c.toNat ∧ 0 < k then 1 else 0) := by
  induction k with
  | zero =>
      have h := Counts.zero 2#2 r c (lowAtOne c)
      simpa using h
  | succ k ih =>
      have hbefore := ih (by omega)
      have hcount : (c - BitVec.ofNat 16 k).toNat = c.toNat - k := by
        have hlt := c.isLt
        rw [BitVec.toNat_sub, BitVec.toNat_ofNat]
        omega
      have hne : c - BitVec.ofNat 16 k ≠ 0#16 := by
        intro heq
        rw [heq] at hcount
        have hzero : (0#16).toNat = 0 := rfl
        omega
      have hnext := counts2_one r (c - BitVec.ofNat 16 k)
      rw [if_neg hne, BitVec.sub_sub, <- BitVec.ofNat_add] at hnext
      have hall := hbefore.trans hnext
      rw [if_neg (by omega), Nat.zero_add] at hall
      have hone : c - BitVec.ofNat 16 k = 1#16 ↔ k + 1 = c.toNat := by
        rw [<- BitVec.toNat_inj, hcount]
        have hone : (1#16).toNat = 1 := rfl
        omega
      simp only [hone] at hall
      simpa using hall

theorem toNat_sub_one (r : BitVec 16) :
    (r - 1#16).toNat = pitClocks r - 1 := by
  have hlt := r.isLt
  unfold pitClocks
  split
  next heq =>
    rw [heq]
    rfl
  next hne =>
    have hpos : r.toNat ≠ 0 := fun h => hne (BitVec.eq_of_toNat_eq h)
    rw [BitVec.toNat_sub, BitVec.toNat_ofNat]
    omega

theorem pitClocks_ge_two {r : BitVec 16} (hr : r ≠ 1#16) :
    2 ≤ pitClocks r := by
  unfold pitClocks
  split
  next => decide
  next hne =>
    have hzero : r.toNat ≠ 0 := fun h => hne (BitVec.eq_of_toNat_eq h)
    have hone : r.toNat ≠ 1 := fun h => hr (BitVec.eq_of_toNat_eq h)
    omega

/-- A whole round, down to zero and down again to where it began. -/
theorem counts2_round {r c : BitVec 16} (hr : r ≠ 1#16)
    (hc : c.toNat < pitClocks r) :
    Counts 2#2 r c (lowAtOne c) (pitClocks r) c (lowAtOne c) 1 := by
  have htwo := pitClocks_ge_two hr
  have htop := toNat_sub_one r
  have hdown := counts2_down r c.toNat (Nat.le_refl _)
  rw [BitVec.ofNat_toNat, BitVec.setWidth_eq, BitVec.sub_self] at hdown
  have hreload := counts2_one r 0#16
  rw [if_pos rfl, if_neg (by decide)] at hreload
  have hagain := @counts2_down r (pitClocks r - 1 - c.toNat) (r - 1#16)
    (by omega)
  have hback : r - 1#16 - BitVec.ofNat 16 (pitClocks r - 1 - c.toNat) = c := by
    have hlt := (r - 1#16).isLt
    apply BitVec.eq_of_toNat_eq
    rw [BitVec.toNat_sub, htop, BitVec.toNat_ofNat]
    omega
  rw [hback, htop] at hagain
  have hall := (hdown.trans hreload).trans hagain
  have hlength : c.toNat + 1 + (pitClocks r - 1 - c.toNat) = pitClocks r := by
    omega
  have hedges : (if c.toNat = c.toNat ∧ 0 < c.toNat then 1 else 0) + 0 +
      (if pitClocks r - 1 - c.toNat = pitClocks r - 1 ∧
        0 < pitClocks r - 1 - c.toNat then 1 else 0) = 1 := by
    by_cases hzero : c.toNat = 0
    · rw [if_neg (by omega), if_pos (by omega)]
    · rw [if_pos (by omega), if_neg (by omega)]
  rw [hlength, hedges] at hall
  exact hall

/-- After enough clocks the count is below the reload value. -/
theorem counts2_settles (r c : BitVec 16) {n : Nat} (hn : 65536 ≤ n) :
    exists c' edges, c'.toNat < pitClocks r ∧
      Counts 2#2 r c (lowAtOne c) n c' (lowAtOne c') edges := by
  have hlt := c.isLt
  have hdown := counts2_down r c.toNat (Nat.le_refl _)
  rw [BitVec.ofNat_toNat, BitVec.setWidth_eq, BitVec.sub_self] at hdown
  have hreload := counts2_one r 0#16
  rw [if_pos rfl] at hreload
  have htop := toNat_sub_one r
  have hpos : 0 < pitClocks r := by
    unfold pitClocks
    split
    next => decide
    next hne =>
      exact Nat.pos_of_ne_zero fun h => hne (BitVec.eq_of_toNat_eq h)
  have hstart := hdown.trans hreload
  -- From the first reload on the count stays below the reload value.
  obtain ⟨k, rfl⟩ : exists k, n = c.toNat + 1 + k :=
    ⟨n - (c.toNat + 1), by omega⟩
  clear hn
  induction k with
  | zero =>
      exact ⟨_, _, by omega, hstart⟩
  | succ k ih =>
      obtain ⟨c', edges, hc', hcounts⟩ := ih
      have hnext := hcounts.trans (counts2_one r c')
      refine ⟨_, _, ?_, hnext⟩
      by_cases hzero : c' = 0#16
      · rw [if_pos hzero]
        omega
      · rw [if_neg hzero, BitVec.toNat_sub, BitVec.toNat_ofNat]
        have hne : c'.toNat ≠ 0 := fun h => hzero (BitVec.eq_of_toNat_eq h)
        omega

/-!
## Mode 3
-/

/-- Where a round of mode 3 begins. -/
def evenOf (r : BitVec 16) : BitVec 16 :=
  if r.getLsbD 0 then r - 1#16 else r

theorem toNat_evenOf (r : BitVec 16) :
    (evenOf r).toNat = r.toNat - r.toNat % 2 := by
  have hlt := r.isLt
  have hlow : r.getLsbD 0 = decide (r.toNat % 2 = 1) := by
    rw [BitVec.getLsbD, Nat.testBit_zero]
  unfold evenOf
  rw [hlow]
  by_cases hodd : r.toNat % 2 = 1
  · rw [if_pos (decide_eq_true hodd), BitVec.toNat_sub, BitVec.toNat_ofNat]
    omega
  · rw [if_neg (by simpa using hodd)]
    omega

theorem counts3_one (r c : BitVec 16) (o : Bool) :
    Counts 3#2 r c o 1
      (if c = 0#16 ∨ c = 1#16 then evenOf r else c - 1#16)
      (if c = 2#16 then !o else o)
      (rises o (if c = 2#16 then !o else o)) := by
  have h := Counts.one (Or.inr rfl) r c o
  have hstill (c' : BitVec 16) (o' : Bool) : outStill 3#2 c' o' = o' := rfl
  rw [hstill, rises_self, Nat.add_zero] at h
  exact h

theorem counts3_down (r : BitVec 16) (k : Nat) {c : BitVec 16}
    (hk : k + 2 ≤ c.toNat) (o : Bool) :
    Counts 3#2 r c o k (c - BitVec.ofNat 16 k) o 0 := by
  induction k with
  | zero =>
      have h := Counts.zero 3#2 r c o
      simpa using h
  | succ k ih =>
      have hcount : (c - BitVec.ofNat 16 k).toNat = c.toNat - k := by
        have hlt := c.isLt
        rw [BitVec.toNat_sub, BitVec.toNat_ofNat]
        omega
      have hne (n : Nat) (hn : n < 3) :
          c - BitVec.ofNat 16 k ≠ BitVec.ofNat 16 n := by
        intro heq
        rw [heq, BitVec.toNat_ofNat] at hcount
        omega
      have hnext := counts3_one r (c - BitVec.ofNat 16 k) o
      rw [if_neg (not_or.mpr ⟨hne 0 (by decide), hne 1 (by decide)⟩),
        if_neg (hne 2 (by decide)), rises_self, BitVec.sub_sub,
        <- BitVec.ofNat_add] at hnext
      exact (ih (by omega)).trans hnext

/-- The output is turned over when two becomes one. -/
theorem counts3_to_one (r : BitVec 16) {c : BitVec 16} (hc : 2 ≤ c.toNat)
    (o : Bool) :
    Counts 3#2 r c o (c.toNat - 1) 1#16 (!o) (rises o !o) := by
  have hdown := @counts3_down r (c.toNat - 2) c (by omega) o
  have htwo : c - BitVec.ofNat 16 (c.toNat - 2) = 2#16 := by
    have hlt := c.isLt
    apply BitVec.eq_of_toNat_eq
    rw [BitVec.toNat_sub, BitVec.toNat_ofNat, BitVec.toNat_ofNat]
    omega
  rw [htwo] at hdown
  have hall := hdown.trans (counts3_one r 2#16 o)
  rw [if_neg (by decide), if_pos rfl, Nat.zero_add] at hall
  have hlength : c.toNat - 2 + 1 = c.toNat - 1 := by omega
  rw [hlength] at hall
  exact hall

/-- One round turns the output over once. -/
theorem counts3_round {r : BitVec 16} (hr : 2 ≤ (evenOf r).toNat) (o : Bool) :
    Counts 3#2 r 1#16 o (evenOf r).toNat 1#16 (!o) (rises o !o) := by
  have hreload := counts3_one r 1#16 o
  rw [if_pos (Or.inr rfl), if_neg (by decide), rises_self] at hreload
  have hall := hreload.trans (counts3_to_one r hr o)
  have hlength : 1 + ((evenOf r).toNat - 1) = (evenOf r).toNat := by omega
  rw [hlength, Nat.zero_add] at hall
  exact hall

theorem counts3_reaches_one {r : BitVec 16} (hr : 2 ≤ (evenOf r).toNat)
    (c : BitVec 16) (o : Bool) :
    exists n o' edges, Counts 3#2 r c o n 1#16 o' edges := by
  by_cases hzero : c = 0#16
  · have hreload := counts3_one r c o
    rw [if_pos (Or.inl hzero)] at hreload
    exact ⟨_, _, _, hreload.trans (counts3_to_one r hr _)⟩
  · by_cases hone : c = 1#16
    · rw [hone]
      exact ⟨0, o, 0, Counts.zero 3#2 r 1#16 o⟩
    · have htwo : 2 ≤ c.toNat := by
        have h0 : c.toNat ≠ 0 := fun h => hzero (BitVec.eq_of_toNat_eq h)
        have h1 : c.toNat ≠ 1 := fun h => hone (BitVec.eq_of_toNat_eq h)
        omega
      exact ⟨_, _, _, counts3_to_one r htwo o⟩

/-- The output has just risen, so it does not rise in the clocks of the next
round and the one after that. -/
theorem counts3_no_edge {r : BitVec 16} (hr : r ≠ 0#16) (hone : r ≠ 1#16)
    (c : BitVec 16) (o : Bool) :
    exists n c' o' edges c'' o'', Counts 3#2 r c o n c' o' edges ∧
      Counts 3#2 r c' o' (pitClocks r) c'' o'' 0 := by
  have htwo := pitClocks_ge_two hone
  have hclocks : pitClocks r = r.toNat := if_neg hr
  have heven := toNat_evenOf r
  have hround : 2 ≤ (evenOf r).toNat := by omega
  have hwindow : exists c'' o'',
      Counts 3#2 r 1#16 true (pitClocks r) c'' o'' 0 := by
    have hfirst := counts3_round hround true
    by_cases hodd : r.toNat % 2 = 1
    · have hmore := hfirst.trans (counts3_one r 1#16 false)
      rw [if_neg (by decide : ¬ 1#16 = 2#16)] at hmore
      have hlength : (evenOf r).toNat + 1 = pitClocks r := by omega
      rw [hlength] at hmore
      exact ⟨_, _, hmore⟩
    · have hlength : (evenOf r).toNat = pitClocks r := by omega
      rw [hlength] at hfirst
      exact ⟨_, _, hfirst⟩
  obtain ⟨c'', o'', hwindow⟩ := hwindow
  obtain ⟨n, o', edges, hreach⟩ := counts3_reaches_one hround c o
  cases o' with
  | true => exact ⟨n, 1#16, true, edges, c'', o'', hreach, hwindow⟩
  | false =>
      exact ⟨_, 1#16, true, _, c'', o'',
        hreach.trans (counts3_round hround false), hwindow⟩

/-- With reload value zero the count stays at zero. -/
theorem counts3_stuck (o : Bool) (n : Nat) :
    Counts 3#2 0#16 0#16 o n 0#16 o 0 := by
  induction n with
  | zero => exact Counts.zero 3#2 0#16 0#16 o
  | succ n ih =>
      have hone := counts3_one 0#16 0#16 o
      rw [if_neg (by decide : ¬ 0#16 = 2#16), rises_self] at hone
      exact ih.trans hone

theorem counts3_reaches_zero (c : BitVec 16) (o : Bool) :
    exists n o' edges, Counts 3#2 0#16 c o n 0#16 o' edges := by
  have hlast (o : Bool) := counts3_one 0#16 1#16 o
  by_cases hzero : c = 0#16
  · rw [hzero]
    exact ⟨0, o, 0, Counts.zero 3#2 0#16 0#16 o⟩
  · by_cases hone : c = 1#16
    · rw [hone]
      exact ⟨_, _, _, hlast o⟩
    · have htwo : 2 ≤ c.toNat := by
        have h0 : c.toNat ≠ 0 := fun h => hzero (BitVec.eq_of_toNat_eq h)
        have h1 : c.toNat ≠ 1 := fun h => hone (BitVec.eq_of_toNat_eq h)
        omega
      exact ⟨_, _, _, (counts3_to_one 0#16 htwo o).trans (hlast _)⟩

theorem mode3_no_edge {r : BitVec 16} (hr : r ≠ 1#16) (c : BitVec 16)
    (o : Bool) :
    exists n c' o' edges c'' o'', Counts 3#2 r c o n c' o' edges ∧
      Counts 3#2 r c' o' (pitClocks r) c'' o'' 0 := by
  by_cases hzero : r = 0#16
  · subst hzero
    obtain ⟨n, o', edges, hreach⟩ := counts3_reaches_zero c o
    exact ⟨n, 0#16, o', edges, 0#16, o', hreach, counts3_stuck o' _⟩
  · exact counts3_no_edge hzero hr c o

/-!
## Programming
-/

/-- A cycle that does not program the channel. -/
def Cycle.Leaves (i : Cycle) : Prop :=
  i.reset = false ∧ i.configure = false ∧ i.load = false

/-- The mode with `rw` 11, then the low byte and the high byte, with any gaps
between them. -/
structure Programming (m : BitVec 2) (r : BitVec 16) where
  control : Cycle
  gap : List Cycle
  lowByte : Cycle
  gap' : List Cycle
  highByte : Cycle
  rest : List Cycle
  control_ok : control.reset = false ∧ control.configure = true ∧
    control.rwIn = 3#2 ∧ control.modeIn = m
  lowByte_ok : lowByte.reset = false ∧ lowByte.configure = false ∧
    lowByte.load = true ∧ lowByte.reloadIn = Regs.low r
  highByte_ok : highByte.reset = false ∧ highByte.configure = false ∧
    highByte.load = true ∧ highByte.reloadIn = Regs.high r
  gap_ok : forall i, i ∈ gap -> i.Leaves
  gap'_ok : forall i, i ∈ gap' -> i.Leaves
  rest_ok : forall i, i ∈ rest -> i.Leaves

def Programming.cycles {m : BitVec 2} {r : BitVec 16}
    (prog : Programming m r) : List Cycle :=
  prog.control :: (prog.gap ++ prog.lowByte ::
    (prog.gap' ++ prog.highByte :: prog.rest))

/-- The registers that programming writes. -/
structure Programmed (m rw : BitVec 2) (r : BitVec 16) (lowByte : BitVec 8)
    (stored : Bool) (s : Regs) : Prop where
  mode : s.mode = m
  rw : s.rw = rw
  reload : s.reload = r
  reloadLow : s.reloadLow = lowByte
  stored : s.reloadLowStored = stored

theorem programmed_step {m rw : BitVec 2} {r : BitVec 16} {b : BitVec 8}
    {stored : Bool} {i : Cycle} (hi : i.Leaves) {s : Regs}
    (h : Programmed m rw r b stored s) :
    Programmed m rw r b stored (step i s) := by
  obtain ⟨hreset, hconfigure, hload⟩ := hi
  obtain ⟨hmode, hrw, hreload, hlow, hstored⟩ := h
  constructor
  · simpa [step, Regs.nextMode, hreset, hconfigure] using hmode
  · simpa [step, Regs.nextMode, hreset, hconfigure] using hrw
  · simpa [step, Regs.nextReload, hreset, hconfigure, hload] using hreload
  · simpa [step, Regs.nextReload, hreset, hconfigure, hload] using hlow
  · simpa [step, Regs.nextReload, hreset, hconfigure, hload] using hstored

theorem programmed_run {m rw : BitVec 2} {r : BitVec 16} {b : BitVec 8}
    {stored : Bool} {cycles : List Cycle}
    (hcycles : forall i, i ∈ cycles -> i.Leaves) {s : Regs}
    (h : Programmed m rw r b stored s) :
    Programmed m rw r b stored (Clocked.run step s cycles) := by
  induction cycles generalizing s with
  | nil => exact h
  | cons i rest ih =>
      exact ih (fun j hj => hcycles j (List.mem_cons_of_mem i hj))
        (programmed_step (hcycles i List.mem_cons_self) h)

section Bytes

variable {m : BitVec 2} {r : BitVec 16} {b : BitVec 8} {i : Cycle} {s : Regs}
variable (hi : i.reset = false ∧ i.configure = false ∧ i.load = true)
include hi

theorem programmed_lowByte (h : Programmed m 3#2 r b false s) :
    Programmed m 3#2 r i.reloadIn true (step i s) := by
  obtain ⟨hreset, hconfigure, hload⟩ := hi
  obtain ⟨hmode, hrw, hreload, _, hstored⟩ := h
  constructor <;>
    simp [step, Regs.nextMode, Regs.nextReload, hreset, hconfigure, hload,
      hmode, hrw, hreload, hstored]

theorem programmed_highByte (h : Programmed m 3#2 r b true s) :
    Programmed m 3#2 (i.reloadIn ++ b) b false (step i s) := by
  obtain ⟨hreset, hconfigure, hload⟩ := hi
  obtain ⟨hmode, hrw, _, hlow, hstored⟩ := h
  constructor <;>
    simp [step, Regs.nextMode, Regs.nextReload, hreset, hconfigure, hload,
      hmode, hrw, hlow, hstored]

end Bytes

theorem high_append_low (r : BitVec 16) : Regs.high r ++ Regs.low r = r :=
  Bits.append_halves r

theorem programming_run {m : BitVec 2} {r : BitVec 16}
    (prog : Programming m r) (s : Regs) :
    Programmed m 3#2 r (Regs.low r) false
      (Clocked.run step s prog.cycles) := by
  obtain ⟨hreset, hconfigure, hrw, hmode⟩ := prog.control_ok
  obtain ⟨hreset₁, hconfigure₁, hload₁, hlow⟩ := prog.lowByte_ok
  obtain ⟨hreset₂, hconfigure₂, hload₂, hhigh⟩ := prog.highByte_ok
  have hcontrol : Programmed m 3#2 0#16 s.reloadLow false
      (step prog.control s) := by
    constructor <;>
      simp [step, Regs.nextMode, Regs.nextReload, hreset, hconfigure, hrw,
        hmode]
  have hfirst := programmed_lowByte ⟨hreset₁, hconfigure₁, hload₁⟩
    (programmed_run prog.gap_ok hcontrol)
  have hsecond := programmed_highByte ⟨hreset₂, hconfigure₂, hload₂⟩
    (programmed_run prog.gap'_ok hfirst)
  rw [hlow, hhigh, high_append_low] at hsecond
  rw [Programming.cycles, Clocked.run_cons, Clocked.run_append,
    Clocked.run_cons, Clocked.run_append, Clocked.run_cons]
  exact programmed_run prog.rest_ok hsecond

/-- The first clock may open the gate, after it the channel counts. -/
theorem atRest_first {m rw : BitVec 2} (hm : m = 2#2 ∨ m = 3#2)
    {r : BitVec 16} {b : BitVec 8} {stored : Bool} {s : Regs}
    (h : Programmed m rw r b stored s) (p : PitClock) :
    exists c o, AtRest m r c (outStill m c o)
      (Clocked.run step s p.cycles) := by
  obtain ⟨⟨hreset, hconfigure, hload, hgate⟩, hclk⟩ := p.rise_clk
  obtain ⟨hmode, _, hreload, _, _⟩ :=
    programmed_step ⟨hreset, hconfigure, hload⟩ h
  have hat : At m r (step p.rise s).count (step p.rise s).out
      (step p.rise s) :=
    ⟨hmode, hreload, rfl, rfl, hgate⟩
  exact ⟨_, _, (atRest_of_high hm p hat hclk).1⟩

/-!
## The period
-/

/-- Whenever the channel has been programmed and has counted for long enough,
the output rises once in as many clocks as the reload value says. -/
def UnitPeriod (m : BitVec 2) (r : BitVec 16) : Prop :=
  forall (prog : Programming m r) (s : Regs) (settle window : List PitClock),
    65537 ≤ settle.length -> window.length = pitClocks r ->
    risingEdges
      (Clocked.run step s
        (prog.cycles ++ settle.flatMap PitClock.cycles))
      (window.flatMap PitClock.cycles) = 1

/-- A channel after programming and one clock. -/
theorem run_first {m : BitVec 2} (hm : m = 2#2 ∨ m = 3#2) {r : BitVec 16}
    (prog : Programming m r) (s : Regs) (p : PitClock)
    (settle : List PitClock) :
    exists c o s₁, AtRest m r c (outStill m c o) s₁ ∧
      Clocked.run step s
          (prog.cycles ++ (p :: settle).flatMap PitClock.cycles) =
        Clocked.run step s₁ (settle.flatMap PitClock.cycles) := by
  obtain ⟨c, o, hrest⟩ := atRest_first hm (programming_run prog s) p
  refine ⟨c, o, _, hrest, ?_⟩
  rw [Clocked.run_append, List.flatMap_cons, Clocked.run_append]

theorem unitPeriod_mode2 {r : BitVec 16} (hr : r ≠ 1#16) :
    UnitPeriod 2#2 r := by
  intro prog s settle window hsettle hwindow
  cases settle with
  | nil => exact absurd hsettle (by decide)
  | cons p settle =>
      obtain ⟨c, o, s₁, hrest, hrun⟩ := run_first (Or.inl rfl) prog s p settle
      have hlength : 65536 ≤ settle.length := by
        rw [List.length_cons] at hsettle
        omega
      obtain ⟨c', edges, hc', hcounts⟩ := counts2_settles r c hlength
      obtain ⟨hrest', _⟩ := hcounts s₁ settle hrest rfl
      rw [hrun]
      exact (counts2_round hr hc' _ window hrest' hwindow).2

/-- A cycle with nothing but the clock of the timer. -/
def pitCycle (clk : Bool) : Cycle where
  reset := false
  pitClk := clk
  reloadIn := 0#8
  load := false
  rwIn := 0#2
  modeIn := 0#2
  configure := false
  latchCount := false
  readCount := false
  gate := true

theorem pitCycle_low : forall i, i ∈ [pitCycle false] ->
    i.Undisturbed ∧ i.pitClk = false := by
  intro i hi
  rw [List.mem_singleton.mp hi]
  exact ⟨⟨rfl, rfl, rfl, rfl⟩, rfl⟩

def shortClock : PitClock where
  rise := pitCycle true
  high := []
  low := [pitCycle false]
  rise_clk := ⟨⟨rfl, rfl, rfl, rfl⟩, rfl⟩
  high_clk := fun _ hi => absurd hi List.not_mem_nil
  low_clk := pitCycle_low
  low_ne := List.cons_ne_nil _ _

def programming (m : BitVec 2) (r : BitVec 16) : Programming m r where
  control :=
    { pitCycle false with configure := true, rwIn := 3#2, modeIn := m }
  gap := []
  lowByte := { pitCycle false with load := true, reloadIn := Regs.low r }
  gap' := []
  highByte := { pitCycle false with load := true, reloadIn := Regs.high r }
  rest := []
  control_ok := ⟨rfl, rfl, rfl, rfl⟩
  lowByte_ok := ⟨rfl, rfl, rfl, rfl⟩
  highByte_ok := ⟨rfl, rfl, rfl, rfl⟩
  gap_ok := fun _ hi => absurd hi List.not_mem_nil
  gap'_ok := fun _ hi => absurd hi List.not_mem_nil
  rest_ok := fun _ hi => absurd hi List.not_mem_nil

/-- A channel after a reset. -/
def afterReset : Regs where
  lastPitClk := false
  count := 0#16
  reload := 0#16
  latchedCount := 0#16
  rw := 0#2
  mode := 0#2
  latched := 0#2
  reloadLow := 0#8
  reloadLowStored := false
  accessLow := false
  lastGate := false
  out := true

/-- In mode 3 there are as many clocks without a rising edge. -/
theorem not_unitPeriod_mode3 {r : BitVec 16} (hr : r ≠ 1#16) :
    ¬ UnitPeriod 3#2 r := by
  intro h
  obtain ⟨c, o, s₁, hrest, hrun⟩ := run_first (Or.inr rfl)
    (programming 3#2 r) afterReset shortClock (List.replicate 65536 shortClock)
  -- The count and the output after the clocks that any window waits for.
  obtain ⟨c₁, o₁, hrest₁⟩ : exists c o, AtRest 3#2 r c o
      (Clocked.run step s₁
        ((List.replicate 65536 shortClock).flatMap PitClock.cycles)) := by
    have hstep (n : Nat) : exists c o, AtRest 3#2 r c o
        (Clocked.run step s₁
          ((List.replicate n shortClock).flatMap PitClock.cycles)) := by
      induction n with
      | zero => exact ⟨c, _, hrest⟩
      | succ n ih =>
          obtain ⟨c, o, ih⟩ := ih
          rw [List.replicate_succ', List.flatMap_append, Clocked.run_append]
          exact ⟨_, _, (counts3_one r c o _ [shortClock] ih rfl).1⟩
    exact hstep 65536
  obtain ⟨n, c₂, o₂, edges, c₃, o₃, hreach, hwindow⟩ :=
    mode3_no_edge hr c₁ o₁
  obtain ⟨hrest₂, _⟩ := hreach _ (List.replicate n shortClock) hrest₁
    List.length_replicate
  obtain ⟨_, hnone⟩ := hwindow _ (List.replicate (pitClocks r) shortClock)
    hrest₂ List.length_replicate
  have hone := h (programming 3#2 r) afterReset
    (shortClock :: List.replicate 65536 shortClock ++
      List.replicate n shortClock)
    (List.replicate (pitClocks r) shortClock)
    (by
      rw [List.length_append, List.length_cons, List.length_replicate]
      omega)
    List.length_replicate
  rw [List.flatMap_append, <- List.append_assoc, Clocked.run_append, hrun,
    hnone] at hone
  cases hone

theorem unitPeriod_iff {m : BitVec 2} (hm : m = 2#2 ∨ m = 3#2)
    {r : BitVec 16} (hr : r ≠ 1#16) :
    UnitPeriod m r ↔ m = 2#2 := by
  constructor
  · intro h
    rcases hm with hm | rfl
    · exact hm
    · exact absurd h (not_unitPeriod_mode3 hr)
  · rintro rfl
    exact unitPeriod_mode2 hr

end TimerUnit
end Fpga

namespace Sim

/-!
## The simulator
-/

theorem roundNearest_le (num den : Nat) :
    roundNearest num den ≤ num / den + 1 := by
  unfold roundNearest
  dsimp only
  split <;> omega

theorem le_roundNearest (num den : Nat) :
    num / den ≤ roundNearest num den := by
  unfold roundNearest
  dsimp only
  split <;> omega

/-- Scaling does not change the whole part. -/
theorem scaled_div (num den k : Nat) :
    num * 2 ^ k / den / 2 ^ k = num / den := by
  rw [Nat.div_div_eq_div_mul, Nat.mul_div_mul_right _ _ (Nat.two_pow_pos k)]

theorem truncDouble_le (num den : Nat) :
    truncDouble num den ≤ num / den + 1 := by
  unfold truncDouble
  dsimp only
  generalize 52 - Nat.log 2 (num / den) = k
  have hpos := Nat.two_pow_pos k
  calc roundNearest (num * 2 ^ k) den / 2 ^ k
      ≤ (num * 2 ^ k / den + 1 * 2 ^ k) / 2 ^ k :=
        Nat.div_le_div_right
          (Nat.le_trans (roundNearest_le _ _) (by omega))
    _ = num / den + 1 := by
        rw [Nat.add_mul_div_right _ _ hpos, scaled_div]

theorem le_truncDouble (num den : Nat) : num / den ≤ truncDouble num den := by
  unfold truncDouble
  dsimp only
  generalize 52 - Nat.log 2 (num / den) = k
  rw [<- scaled_div num den k]
  exact Nat.div_le_div_right (le_roundNearest _ _)

namespace TimerTick

/-- The cycles in some ticks, rounded down. -/
def cyclesIn (ticks : Nat) : Nat := ticks * cyclesPerTick / 2 ^ 47

theorem cyclesPerTick_eq : cyclesPerTick = 5899680351648352 := by
  decide +kernel

/-- A tick is more than 41 cycles. -/
theorem cyclesIn_succ (ticks : Nat) :
    cyclesIn ticks + 41 ≤ cyclesIn (ticks + 1) := by
  unfold cyclesIn
  rw [cyclesPerTick_eq, Nat.succ_mul]
  omega

/-- The two control words of a square wave and a rate generator. -/
def controlWord (m : BitVec 2) : BitVec 8 := 0x30#8 ||| m.setWidth 8 <<< 1

def program (m : BitVec 2) (r : BitVec 16) (t : TimerTick) :
    Option TimerTick :=
  (t.write8 2#16 1 (controlWord m)).bind fun t =>
    (t.write8 0#16 0 (Fpga.TimerUnit.Regs.low r)).bind fun t =>
      t.write8 0#16 0 (Fpga.TimerUnit.Regs.high r)

/-- Whether each of so many cycles raises the interrupt. -/
def irqs : Nat -> TimerTick -> List Bool
  | 0, _ => []
  | n + 1, t => (t.tick 1#32).1 :: irqs n (t.tick 1#32).2

/-- The timer after some cycles. -/
def afterCycles : Nat -> TimerTick -> TimerTick
  | 0, t => t
  | n + 1, t => afterCycles n (t.tick 1#32).2

/-- The interrupt is raised when so many cycles have passed. -/
def RaisesAt (t : TimerTick) (n : Nat) : Prop :=
  ((t.afterCycles n).tick 1#32).1 = true

/-- The first interrupt comes with this cycle. -/
def RaisesAfter (t : TimerTick) (cycles : Nat) : Prop :=
  irqs cycles t = List.replicate (cycles - 1) false ++ [true]

/-- Interrupts keep coming after programming, and in the steady state the next
one follows each of them after so many ticks, in whole cycles. -/
def SimPeriod (m : BitVec 2) (r : BitVec 16) (ticks : Nat) : Prop :=
  forall t t', program m r t = some t' ->
    exists settled, (forall n, exists k, t'.RaisesAt (n + k)) ∧
      forall n, settled ≤ n -> t'.RaisesAt n ->
        exists cycles, (t'.afterCycles (n + 1)).RaisesAfter cycles ∧
          (cycles = cyclesIn ticks ∨ cycles = cyclesIn ticks + 1)

/-- A timer that counts down from its reload value. -/
structure Running (r : BitVec 16) (t : TimerTick) : Prop where
  enabled : t.enabled = true
  operatingMode : t.operatingMode = 2#8
  reload : t.reload = r

/-- A timer that has just been loaded. -/
structure Loaded (r : BitVec 16) (t : TimerTick) : Prop
    extends Running r t where
  count : t.count.toNat =
    truncDouble ((Fpga.TimerUnit.pitClocks r - 1) * cyclesPerTick) (2 ^ 47)

theorem toNat_ticks (r : BitVec 16) :
    ((r.setWidth 32 - 1#32) &&& 0xffff#32).toNat =
      Fpga.TimerUnit.pitClocks r - 1 := by
  have hmask : (0xffff#32).toNat = 2 ^ 16 - 1 := rfl
  have hlt := r.isLt
  rw [BitVec.toNat_and, hmask, Nat.and_two_pow_sub_one_eq_mod,
    BitVec.toNat_sub, BitVec.toNat_setWidth, BitVec.toNat_ofNat]
  unfold Fpga.TimerUnit.pitClocks
  split
  next heq =>
    rw [heq]
    rfl
  next hne =>
    have hpos : r.toNat ≠ 0 := fun h => hne (BitVec.eq_of_toNat_eq h)
    omega

theorem pitClocks_le (r : BitVec 16) : Fpga.TimerUnit.pitClocks r ≤ 65536 := by
  have hlt := r.isLt
  unfold Fpga.TimerUnit.pitClocks
  split <;> omega

theorem writeMode_controlWord {m : BitVec 2} (hm : m = 2#2 ∨ m = 3#2)
    (t : TimerTick) :
    t.writeMode (controlWord m) =
      some { t with
        access := 3#8
        operatingMode := 2#8
        enabled := false
        accessLow := true } := by
  rcases hm with rfl | rfl <;> rfl

theorem Running.doReload {r : BitVec 16} {t : TimerTick} (h : Running r t) :
    Loaded r t.doReload := by
  have hkept : t.doReload.enabled = t.enabled ∧
      t.doReload.operatingMode = t.operatingMode ∧
      t.doReload.reload = t.reload := by
    -- The fields are compared one by one, so that no count is evaluated.
    cases t
    dsimp only [TimerTick.doReload]
    exact ⟨rfl, rfl, rfl⟩
  refine ⟨⟨hkept.1.trans h.enabled, hkept.2.1.trans h.operatingMode,
    hkept.2.2.trans h.reload⟩, ?_⟩
  have hcount : t.doReload.count = BitVec.ofNat 32 (truncDouble
      (((t.reload.setWidth 32 - 1#32) &&& 0xffff#32).toNat * cyclesPerTick)
      (2 ^ 47)) := rfl
  have hle := truncDouble_le
    ((Fpga.TimerUnit.pitClocks r - 1) * cyclesPerTick) (2 ^ 47)
  have hclocks := pitClocks_le r
  rw [hcount, h.reload, toNat_ticks, BitVec.toNat_ofNat]
  apply Nat.mod_eq_of_lt
  rw [cyclesPerTick_eq] at hle ⊢
  omega

theorem program_loaded {m : BitVec 2} (hm : m = 2#2 ∨ m = 3#2)
    (r : BitVec 16) (t : TimerTick) :
    exists t', program m r t = some t' ∧ Loaded r t' := by
  let t₁ : TimerTick :=
    { t with
      access := 3#8
      operatingMode := 2#8
      enabled := true
      accessLow := false
      reload := r }
  have hprogram : program m r t = some t₁.doReload := by
    have hmode := writeMode_controlWord hm t
    simp [program, write8, hmode, writeReload,
      Fpga.TimerUnit.high_append_low, t₁]
  have hrunning : Running r t₁ := ⟨rfl, rfl, rfl⟩
  exact ⟨_, hprogram, hrunning.doReload⟩

/-- A cycle raises the interrupt and loads the count, or counts it down. -/
theorem Running.tick {r : BitVec 16} {t : TimerTick} (h : Running r t) :
    t.count.toNat ≤ 1 ∧ t.tick 1#32 = (true, t.doReload) ∨
      1 < t.count.toNat ∧
        t.tick 1#32 = (false, { t with count := t.count - 1#32 }) := by
  have hone : (1#32).toNat = 1 := rfl
  have henabled : ¬ t.enabled = false := by simp [h.enabled]
  by_cases hle : t.count.toNat ≤ 1
  · left
    refine ⟨hle, ?_⟩
    unfold TimerTick.tick
    rw [if_neg henabled, if_pos (by omega), if_pos h.operatingMode]
  · right
    refine ⟨by omega, ?_⟩
    unfold TimerTick.tick
    rw [if_neg henabled, if_neg (by omega)]

theorem Running.next {r : BitVec 16} {t : TimerTick} (h : Running r t) :
    Running r (t.tick 1#32).2 := by
  rcases h.tick with ⟨_, htick⟩ | ⟨_, htick⟩
  · rw [htick]
    exact h.doReload.toRunning
  · rw [htick]
    exact ⟨h.enabled, h.operatingMode, h.reload⟩

theorem Running.afterCycles {r : BitVec 16} (n : Nat) {t : TimerTick}
    (h : Running r t) : Running r (t.afterCycles n) := by
  induction n generalizing t with
  | zero => exact h
  | succ n ih => exact ih h.next

theorem afterCycles_add (n k : Nat) (t : TimerTick) :
    t.afterCycles (n + k) = (t.afterCycles n).afterCycles k := by
  induction n generalizing t with
  | zero => rw [Nat.zero_add, TimerTick.afterCycles]
  | succ n ih => rw [Nat.succ_add, TimerTick.afterCycles, ih, TimerTick.afterCycles]

theorem RaisesAt.add {t : TimerTick} {n k : Nat}
    (h : (t.afterCycles n).RaisesAt k) : t.RaisesAt (n + k) := by
  unfold RaisesAt
  rw [afterCycles_add]
  exact h

/-- The count runs out. -/
theorem Running.exists_raisesAt {r : BitVec 16} {t : TimerTick}
    (h : Running r t) : exists k, t.RaisesAt k := by
  induction hcount : t.count.toNat generalizing t with
  | zero =>
      rcases h.tick with ⟨_, htick⟩ | ⟨hlt, _⟩
      · exact ⟨0, congrArg Prod.fst htick⟩
      · omega
  | succ n ih =>
      rcases h.tick with ⟨_, htick⟩ | ⟨hlt, htick⟩
      · exact ⟨0, congrArg Prod.fst htick⟩
      · have hnext : (t.tick 1#32).2.count.toNat = n := by
          have hone : (1#32).toNat = 1 := rfl
          have hbound := t.count.isLt
          rw [htick, BitVec.toNat_sub, hone]
          omega
        rcases ih h.next hnext with ⟨k, hk⟩
        exact ⟨k + 1, hk⟩

/-- The cycle that raises the interrupt loads the count again. -/
theorem Running.loaded_of_raisesAt {r : BitVec 16} {t : TimerTick} {n : Nat}
    (h : Running r t) (hraises : t.RaisesAt n) :
    Loaded r (t.afterCycles (n + 1)) := by
  rw [afterCycles_add]
  change Loaded r ((t.afterCycles n).tick 1#32).2
  unfold RaisesAt at hraises
  rcases (h.afterCycles n).tick with ⟨_, htick⟩ | ⟨_, htick⟩
  · rw [htick]
    exact (h.afterCycles n).doReload
  · rw [htick] at hraises
    cases hraises

/-- The count goes down with each cycle. -/
theorem irqs_down (n : Nat) {t : TimerTick} (henabled : t.enabled = true)
    (hn : n < t.count.toNat) (rest : Nat) :
    irqs (n + rest) t =
      List.replicate n false ++
        irqs rest { t with count := t.count - BitVec.ofNat 32 n } := by
  induction n generalizing t with
  | zero => simp
  | succ n ih =>
      have hone : (1#32).toNat = 1 := rfl
      have htick : t.tick 1#32 =
          (false, { t with count := t.count - 1#32 }) := by
        unfold tick
        rw [if_neg (by simp [henabled]), if_neg (by omega)]
      have hcount : (t.count - 1#32).toNat = t.count.toNat - 1 := by
        have hlt := t.count.isLt
        rw [BitVec.toNat_sub, hone]
        omega
      rw [Nat.succ_add, irqs, htick]
      dsimp only
      rw [@ih { t with count := t.count - 1#32 } henabled
        (by dsimp only; omega)]
      dsimp only
      rw [BitVec.sub_sub, BitVec.add_comm 1#32, <- BitVec.ofNat_add,
        List.replicate_succ, List.cons_append]

theorem raisesAfter_count {r : BitVec 16} {t : TimerTick} (h : Loaded r t)
    (hpos : 0 < t.count.toNat) : t.RaisesAfter t.count.toNat := by
  have hdown := irqs_down (t.count.toNat - 1) h.enabled (by omega) 1
  have hlength : t.count.toNat - 1 + 1 = t.count.toNat := by omega
  have hone : (t.count - BitVec.ofNat 32 (t.count.toNat - 1)).toNat = 1 := by
    have hlt := t.count.isLt
    rw [BitVec.toNat_sub, BitVec.toNat_ofNat]
    omega
  have hlast : irqs 1 { t with
      count := t.count - BitVec.ofNat 32 (t.count.toNat - 1) } = [true] := by
    have hle : (t.count - BitVec.ofNat 32 (t.count.toNat - 1)).toNat ≤
        (1#32).toNat :=
      Nat.le_of_eq hone
    unfold irqs tick
    rw [if_neg (by simp [h.enabled]), if_pos hle, if_pos h.operatingMode]
    rfl
  unfold RaisesAfter
  rw [hlength, hlast] at hdown
  exact hdown

theorem take_irqs {n k : Nat} (h : n ≤ k) (t : TimerTick) :
    (irqs k t).take n = irqs n t := by
  induction n generalizing k t with
  | zero => rfl
  | succ n ih =>
      cases k with
      | zero => cases h
      | succ k =>
          rw [irqs, irqs, List.take_succ_cons, ih (Nat.le_of_succ_le_succ h)]

/-- The first interrupt is the only first one. -/
theorem RaisesAfter.le {t : TimerTick} {n k : Nat} (hn : t.RaisesAfter n)
    (hk : t.RaisesAfter k) : k ≤ n := by
  by_contra hlt
  have htake := take_irqs (Nat.le_of_not_le hlt) t
  rw [hk, hn, List.take_append_of_le_length
    (by rw [List.length_replicate]; omega), List.take_replicate] at htake
  have hmem : true ∈ List.replicate (min n (k - 1)) false := by
    rw [htake]
    exact List.mem_append_right _ List.mem_cons_self
  exact absurd (List.eq_of_mem_replicate hmem) (by decide)

theorem cyclesIn_lt {a b : Nat} (h : a < b) : cyclesIn a + 41 ≤ cyclesIn b := by
  have hmono : cyclesIn (a + 1) ≤ cyclesIn b :=
    Nat.div_le_div_right (Nat.mul_le_mul_right _ h)
  exact Nat.le_trans (cyclesIn_succ a) hmono

/-- From one interrupt to the next, the count that was loaded runs out. -/
theorem Loaded.raisesAfter {r : BitVec 16} (hr : r ≠ 1#16) {t : TimerTick}
    (h : Loaded r t) :
    exists cycles, t.RaisesAfter cycles ∧
      (cycles = cyclesIn (Fpga.TimerUnit.pitClocks r - 1) ∨
        cycles = cyclesIn (Fpga.TimerUnit.pitClocks r - 1) + 1) := by
  have htwo := Fpga.TimerUnit.pitClocks_ge_two hr
  have hpos : cyclesIn 0 + 41 ≤ cyclesIn (Fpga.TimerUnit.pitClocks r - 1) :=
    cyclesIn_lt (by omega)
  have hle := truncDouble_le
    ((Fpga.TimerUnit.pitClocks r - 1) * cyclesPerTick) (2 ^ 47)
  have hge := le_truncDouble
    ((Fpga.TimerUnit.pitClocks r - 1) * cyclesPerTick) (2 ^ 47)
  rw [<- h.count] at hle hge
  change t.count.toNat ≤ cyclesIn (Fpga.TimerUnit.pitClocks r - 1) + 1 at hle
  change cyclesIn (Fpga.TimerUnit.pitClocks r - 1) ≤ t.count.toNat at hge
  exact ⟨t.count.toNat, raisesAfter_count h (by omega), by omega⟩

section Programmed

variable {m : BitVec 2} (hm : m = 2#2 ∨ m = 3#2) {r : BitVec 16}
  (hr : r ≠ 1#16)
include hm hr

/-- The simulator loads one tick less than the reload value says. -/
theorem simPeriod_short : SimPeriod m r (Fpga.TimerUnit.pitClocks r - 1) := by
  intro t t' hprogram
  obtain ⟨t₁, hprogram₁, hloaded⟩ := program_loaded hm r t
  rw [hprogram, Option.some.injEq] at hprogram₁
  rw [<- hprogram₁] at hloaded
  refine ⟨0, ?_, ?_⟩
  · intro n
    obtain ⟨k, hk⟩ := (hloaded.toRunning.afterCycles n).exists_raisesAt
    exact ⟨k, hk.add⟩
  · intro n _ hraises
    exact (hloaded.toRunning.loaded_of_raisesAt hraises).raisesAfter hr

/-- No other period is the simulator's. -/
theorem eq_of_simPeriod {ticks : Nat} (h : SimPeriod m r ticks) :
    ticks = Fpga.TimerUnit.pitClocks r - 1 := by
  obtain ⟨t, hprogram, hloaded⟩ := program_loaded hm r initial
  obtain ⟨settled, hrecurs, hgaps⟩ := h initial t hprogram
  obtain ⟨k, hraises⟩ := hrecurs settled
  obtain ⟨cycles, hcycles, hticks⟩ := hgaps _ (by omega) hraises
  obtain ⟨count, hcount, hshort⟩ :=
    (hloaded.toRunning.loaded_of_raisesAt hraises).raisesAfter hr
  have hle := hcycles.le hcount
  have hge := hcount.le hcycles
  rcases Nat.lt_trichotomy ticks (Fpga.TimerUnit.pitClocks r - 1) with
    hlt | heq | hgt
  · have hfar := cyclesIn_lt hlt
    omega
  · exact heq
  · have hfar := cyclesIn_lt hgt
    omega

theorem not_simPeriod : ¬ SimPeriod m r (Fpga.TimerUnit.pitClocks r) := by
  intro h
  have hshort := eq_of_simPeriod hm hr h
  have htwo := Fpga.TimerUnit.pitClocks_ge_two hr
  omega

end Programmed

end TimerTick
end Sim

namespace Fpga
namespace TimerUnit

/-- The channel has the period of the reload value in mode 2 only.  The
simulator never has it: its interrupts are one tick less apart. -/
theorem timer_period_iff {m : BitVec 2} (hm : m = 2#2 ∨ m = 3#2)
    {r : BitVec 16} (hr : r ≠ 1#16) :
    (UnitPeriod m r ↔ m = 2#2) ∧
      ¬ Sim.TimerTick.SimPeriod m r (pitClocks r) ∧
      Sim.TimerTick.SimPeriod m r (pitClocks r - 1) :=
  ⟨unitPeriod_iff hm hr, Sim.TimerTick.not_simPeriod hm hr,
    Sim.TimerTick.simPeriod_short hm hr⟩

theorem timer_period_iff_speaker :
    (UnitPeriod 3#2 1193#16 ↔ (3#2 : BitVec 2) = 2#2) ∧
      ¬ Sim.TimerTick.SimPeriod 3#2 1193#16 (pitClocks 1193#16) ∧
      Sim.TimerTick.SimPeriod 3#2 1193#16 (pitClocks 1193#16 - 1) :=
  timer_period_iff (Or.inr rfl) (by decide)

/-- With reload value two, the output of mode 3 rises every fourth clock. -/
theorem mode3_period_twice :
    ¬ forall (m : BitVec 2) (r : BitVec 16), m = 2#2 ∨ m = 3#2 ->
      r ≠ 1#16 ->
        UnitPeriod m r ∧ Sim.TimerTick.SimPeriod m r (pitClocks r) := by
  intro h
  exact not_unitPeriod_mode3 (by decide)
    (h 3#2 2#16 (Or.inr rfl) (by decide)).1

end TimerUnit
end Fpga
end S80x86
