import S80x86.Fpga.PS2Host

/-!
# Periods of the PS/2 clock

A period of the device's clock is a high phase and a low phase that outlasts
the synchroniser.  However long they are, the host samples once in a period,
and what it reads is the data of the first low cycle.
-/

open Foundation

namespace S80x86
namespace Fpga
namespace PS2Host

/-- A cycle that neither resets the host nor starts a transmission. -/
def Cycle.Quiet (i : Cycle) : Prop := i.reset = false ∧ i.startTx = false

structure Period where
  high : List Cycle
  fall : Cycle
  low : List Cycle
  high_clk : forall i, i ∈ high -> i.Quiet ∧ i.deviceClk = true
  high_ne : high ≠ []
  fall_clk : fall.Quiet ∧ fall.deviceClk = false
  low_clk : forall i, i ∈ low -> i.Quiet ∧ i.deviceClk = false
  /-- The low phase is longer than two cycles. -/
  low_length : 2 ≤ low.length

def Period.cycles (p : Period) : List Cycle := p.high ++ p.fall :: p.low

theorem Period.quiet (p : Period) : forall i, i ∈ p.cycles -> i.Quiet := by
  intro i hi
  rcases List.mem_append.mp hi with hi | hi
  · exact (p.high_clk i hi).1
  · rcases List.mem_cons.mp hi with rfl | hi
    · exact p.fall_clk.1
    · exact (p.low_clk i hi).1

/-!
## The synchroniser
-/

namespace Regs

/-- The clock has been low. -/
def Low (s : Regs) : Prop :=
  s.clkSync.p1 = false ∧ s.clkSync.p2 = false ∧ s.lastPs2Clk = false

/-- No falling edge is under way. -/
def Calm (s : Regs) : Prop :=
  (s.clkSync.p2 = true -> s.clkSync.p1 = true) ∧
    (s.lastPs2Clk = true -> s.clkSync.p2 = true)

theorem Low.calm {s : Regs} (h : s.Low) : s.Calm := by
  obtain ⟨_, hp2, hlast⟩ := h
  simp [Calm, hp2, hlast]

theorem Calm.no_sample {s : Regs} (h : s.Calm) : s.doSample = false := by
  unfold doSample
  cases hlast : s.lastPs2Clk with
  | false => rfl
  | true => rw [h.2 hlast]; rfl

end Regs

section Lines

variable {i : Cycle} {s : Regs}

theorem step_p1 (hi : i.Quiet) (hstate : s.state ≠ .inhibit) :
    (step i s).clkSync.p1 = i.deviceClk := by
  simp [step, BitSync.step, hi.1, Regs.ps2Clk, hstate]

theorem step_p2 (hi : i.Quiet) : (step i s).clkSync.p2 = s.clkSync.p1 := by
  simp [step, BitSync.step, hi.1]

theorem step_last (hi : i.Quiet) :
    (step i s).lastPs2Clk = s.clkSync.p2 := by
  simp [step, hi.1]

theorem step_dat_p1 (hi : i.Quiet) :
    (step i s).datSync.p1 = s.ps2Dat i := by
  simp [step, BitSync.step, hi.1]

theorem step_dat_p2 (hi : i.Quiet) :
    (step i s).datSync.p2 = s.datSync.p1 := by
  simp [step, BitSync.step, hi.1]

theorem calm_step (hi : i.Quiet) (hstate : s.state ≠ .inhibit)
    (hclk : i.deviceClk = true) (h : s.Calm) : (step i s).Calm := by
  unfold Regs.Calm
  rw [step_p1 hi hstate, step_p2 hi, step_last hi]
  exact ⟨fun _ => hclk, h.1⟩

theorem low_step (hi : i.Quiet) (hstate : s.state ≠ .inhibit)
    (hclk : i.deviceClk = false) (h : s.Low) : (step i s).Low := by
  unfold Regs.Low
  rw [step_p1 hi hstate, step_p2 hi, step_last hi]
  exact ⟨hclk, h.1, h.2.1⟩

end Lines

/-!
## What the host waits in
-/

/-- A condition that cycles without a sample do not change. -/
structure Waits (P : Regs -> Prop) : Prop where
  kept : forall i s, i.Quiet -> s.doSample = false -> P s -> P (step i s)
  released : forall s, P s -> s.state ≠ .inhibit

/-- From one condition, while no falling edge is under way, the cycles lead to
another condition, and give some outputs on the way. -/
def Leads {Output : Type} (out : Regs -> List Output) (P : Regs -> Prop)
    (cycles : List Cycle) (given : List Output) (Q : Regs -> Prop) : Prop :=
  forall s, s.Calm -> P s ->
    Regs.Calm (Clocked.run step s cycles) ∧ Q (Clocked.run step s cycles) ∧
      Clocked.outputs step out s cycles = given

theorem Leads.refl {Output : Type} (out : Regs -> List Output)
    (P : Regs -> Prop) : Leads out P [] [] P :=
  fun _ hsync hs => ⟨hsync, hs, rfl⟩

theorem Leads.trans {Output : Type} {out : Regs -> List Output}
    {P Q R : Regs -> Prop} {first second : List Cycle}
    {given given' : List Output} (h : Leads out P first given Q)
    (h' : Leads out Q second given' R) :
    Leads out P (first ++ second) (given ++ given') R := by
  intro s hsync hs
  obtain ⟨hsync₁, hs₁, hout₁⟩ := h s hsync hs
  obtain ⟨hsync₂, hs₂, hout₂⟩ := h' _ hsync₁ hs₁
  rw [Clocked.run_append, Clocked.outputs_append, hout₁, hout₂]
  exact ⟨hsync₂, hs₂, rfl⟩

section Period

variable {Output : Type} {out : Regs -> List Output}
variable (hout : forall s, s.doSample = false -> out s = [])
variable {P : Regs -> Prop} (hP : Waits P)
include hout hP

theorem high_leads {high : List Cycle}
    (hhigh : forall i, i ∈ high -> i.Quiet ∧ i.deviceClk = true) :
    Leads out P high [] P := by
  induction high with
  | nil => exact Leads.refl out P
  | cons i rest ih =>
      intro s hcalm hs
      obtain ⟨hi, hclk⟩ := hhigh i List.mem_cons_self
      obtain ⟨hcalm', hs', hnone⟩ :=
        ih (fun j hj => hhigh j (List.mem_cons_of_mem i hj)) (step i s)
          (calm_step hi (hP.released s hs) hclk hcalm)
          (hP.kept i s hi hcalm.no_sample hs)
      refine ⟨hcalm', hs', ?_⟩
      rw [Clocked.outputs, hout s hcalm.no_sample, hnone]
      rfl

theorem run_low {low : List Cycle} {s : Regs}
    (hlow : forall i, i ∈ low -> i.Quiet ∧ i.deviceClk = false)
    (hsync : s.Low) (hs : P s) :
    Regs.Low (Clocked.run step s low) ∧ P (Clocked.run step s low) ∧
      Clocked.outputs step out s low = [] := by
  induction low generalizing s with
  | nil => exact ⟨hsync, hs, rfl⟩
  | cons i rest ih =>
      obtain ⟨hi, hclk⟩ := hlow i List.mem_cons_self
      have hnone := hsync.calm.no_sample
      have hnext := low_step hi (hP.released s hs) hclk hsync
      obtain ⟨hsync', hs', houts⟩ :=
        ih (fun j hj => hlow j (List.mem_cons_of_mem i hj)) hnext
          (hP.kept i s hi hnone hs)
      refine ⟨hsync', hs', ?_⟩
      rw [Clocked.outputs, hout s hnone, houts]
      rfl

/-- The high phase ends with the clock high in the first flip-flop. -/
theorem run_high_p1 {high : List Cycle} {s : Regs}
    (hhigh : forall i, i ∈ high -> i.Quiet ∧ i.deviceClk = true)
    (hne : high ≠ []) (hcalm : s.Calm) (hs : P s) :
    (Clocked.run step s high).clkSync.p1 = true := by
  obtain ⟨i, hi⟩ := List.getLast?_isSome.mpr hne |> Option.isSome_iff_exists.mp
  have hsplit := List.dropLast_append_getLast? i hi
  have hlast := hhigh i (List.mem_of_getLast? hi)
  have hbefore := high_leads hout hP
    (fun j hj => hhigh j (List.dropLast_subset high hj)) s hcalm hs
  rw [<- hsplit, Clocked.run_append]
  exact (step_p1 hlast.1 (hP.released _ hbefore.2.1)).trans hlast.2

/-- One period takes the host from one condition to the next, with the outputs
of one sample. -/
theorem period_leads {Q : Regs -> Prop} (hQ : Waits Q) (p : Period)
    {given : List Output}
    (hsample : forall i s s', i.Quiet -> s.doSample = true -> P s -> P s' ->
      s.datSync.p2 = s'.ps2Dat p.fall -> Q (step i s) ∧ out s = given) :
    Leads out P p.cycles given Q := by
  intro s hsync hs
  rcases hlow : p.low with _ | ⟨low1, _ | ⟨low2, low⟩⟩
  · exact absurd p.low_length (by rw [hlow]; decide)
  · exact absurd p.low_length (by rw [hlow, List.length_singleton]; decide)
  have hlowclk := p.low_clk
  rw [hlow] at hlowclk
  obtain ⟨hquiet1, hclk1⟩ := hlowclk low1 List.mem_cons_self
  obtain ⟨hquiet2, hclk2⟩ :=
    hlowclk low2 (List.mem_cons_of_mem _ List.mem_cons_self)
  obtain ⟨hcalm₀, hs₀, hout₀⟩ := high_leads hout hP p.high_clk s hsync hs
  have hhigh₀ := run_high_p1 hout hP p.high_clk p.high_ne hsync hs
  let s₀ := Clocked.run step s p.high
  let s₁ := step p.fall s₀
  let s₂ := step low1 s₁
  let s₃ := step low2 s₂
  -- The edge reaches the second flip-flop two cycles after the line.
  have hs₁ : P s₁ := hP.kept _ _ p.fall_clk.1 hcalm₀.no_sample hs₀
  have hp2₁ : s₁.clkSync.p2 = true := (step_p2 p.fall_clk.1).trans hhigh₀
  have hp1₁ : s₁.clkSync.p1 = false :=
    (step_p1 p.fall_clk.1 (hP.released _ hs₀)).trans p.fall_clk.2
  have hnone₁ : s₁.doSample = false := by
    rw [Regs.doSample, hp2₁, Bool.not_true, Bool.and_false]
  have hs₂ : P s₂ := hP.kept _ _ hquiet1 hnone₁ hs₁
  have hp1₂ : s₂.clkSync.p1 = false :=
    (step_p1 hquiet1 (hP.released _ hs₁)).trans hclk1
  have hp2₂ : s₂.clkSync.p2 = false := (step_p2 hquiet1).trans hp1₁
  have hlast₂ : s₂.lastPs2Clk = true := (step_last hquiet1).trans hp2₁
  have hsample₂ : s₂.doSample = true := by
    rw [Regs.doSample, hp2₂, hlast₂]
    rfl
  have hdat₂ : s₂.datSync.p2 = s₀.ps2Dat p.fall :=
    (step_dat_p2 hquiet1).trans (step_dat_p1 p.fall_clk.1)
  obtain ⟨hs₃, hgiven⟩ :=
    hsample low2 s₂ s₀ hquiet2 hsample₂ hs₂ hs₀ hdat₂
  have hsync₃ : s₃.Low :=
    ⟨(step_p1 hquiet2 (hP.released _ hs₂)).trans hclk2,
      (step_p2 hquiet2).trans hp1₂, (step_last hquiet2).trans hp2₂⟩
  obtain ⟨hsync', hs', hout'⟩ := run_low hout hQ
    (fun i hi => hlowclk i (List.mem_cons_of_mem _ (List.mem_cons_of_mem _ hi)))
    hsync₃ hs₃
  have hrun : Clocked.run step s p.cycles = Clocked.run step s₃ low := by
    rw [Period.cycles, hlow, Clocked.run_append]
    rfl
  refine ⟨?_, ?_, ?_⟩
  · rw [hrun]
    exact hsync'.calm
  · rw [hrun]
    exact hs'
  · rw [Period.cycles, hlow, Clocked.outputs_append, hout₀, List.nil_append]
    change out s₀ ++ (out s₁ ++ (out s₂ ++
      Clocked.outputs step out s₃ low)) = given
    rw [hout s₀ hcalm₀.no_sample, hout s₁ hnone₁, hgiven, hout',
      List.append_nil]
    rfl

end Period

end PS2Host
end Fpga
end S80x86
