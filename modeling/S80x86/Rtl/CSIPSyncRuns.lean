import S80x86.Foundation.Clocked
import S80x86.Rtl.Units

/-!
# When the prefetcher is restarted

Updates of `CS` and `IP` are collected from one propagation to the next.  The
runs are endless; the interval of a cycle goes back to the cycle after the last
propagation.
-/

open Foundation Foundation.Clocked

namespace S80x86
namespace Rtl
namespace CSIPSync

/-- Nothing is pending after a reset; the saved `IP` is arbitrary. -/
def AfterReset (s : State) : Prop := s.ipUpdated = false ∧ s.csUpdated = false

section Intervals

variable (inputs : Nat -> Input)

/-- No cycle from `m` up to `n` propagates: `m` is in the interval of `n`. -/
def Within (m n : Nat) : Prop :=
  m ≤ n ∧ forall k, m ≤ k -> k < n -> (inputs k).propagate = false

/-- The updates of `IP` in one interval agree on the new value. -/
def OneValue : Prop :=
  forall m m' n, Within inputs m n -> Within inputs m' n ->
    (inputs m).ipUpdate = true -> (inputs m').ipUpdate = true ->
    (inputs m).newIp = (inputs m').newIp

/-- Some cycle of the interval before `n` has the property. -/
def Pending (p : Input -> Bool) (n : Nat) : Prop :=
  exists m, m < n ∧ Within inputs m n ∧ p (inputs m) = true

variable {inputs}

theorem Within.self (n : Nat) : Within inputs n n :=
  ⟨Nat.le_refl n, fun _ hmk hkn => absurd hmk (Nat.not_le.mpr hkn)⟩

theorem within_succ {m n : Nat} (h : m < n + 1) :
    Within inputs m (n + 1) ↔
      Within inputs m n ∧ (inputs n).propagate = false := by
  constructor
  · intro hw
    refine ⟨⟨Nat.le_of_lt_succ h, fun k hmk hkn => ?_⟩, ?_⟩
    · exact hw.2 k hmk (Nat.lt_succ_of_lt hkn)
    · exact hw.2 n (Nat.le_of_lt_succ h) (Nat.lt_succ_self n)
  · rintro ⟨hw, hn⟩
    refine ⟨Nat.le_of_lt h, fun k hmk hkn => ?_⟩
    rcases Nat.lt_succ_iff_lt_or_eq.mp hkn with hk | rfl
    · exact hw.2 k hmk hk
    · exact hn

theorem pending_zero (p : Input -> Bool) : ¬ Pending inputs p 0 := by
  rintro ⟨m, hm, -⟩
  exact Nat.not_lt_zero m hm

theorem pending_succ (p : Input -> Bool) (n : Nat) :
    Pending inputs p (n + 1) ↔
      (inputs n).propagate = false ∧
        (Pending inputs p n ∨ p (inputs n) = true) := by
  constructor
  · rintro ⟨m, hm, hw, hp⟩
    obtain ⟨hw, hn⟩ := (within_succ hm).mp hw
    refine ⟨hn, ?_⟩
    rcases Nat.lt_succ_iff_lt_or_eq.mp hm with hm | rfl
    · exact Or.inl ⟨m, hm, hw, hp⟩
    · exact Or.inr hp
  · rintro ⟨hn, ⟨m, hm, hw, hp⟩ | hp⟩
    · have hm' := Nat.lt_succ_of_lt hm
      exact ⟨m, hm', (within_succ hm').mpr ⟨hw, hn⟩, hp⟩
    · have hself := Nat.lt_succ_self n
      exact ⟨n, hself, (within_succ hself).mpr ⟨Within.self n, hn⟩, hp⟩

/-- The interval of a cycle is what is pending and the cycle itself. -/
theorem exists_within (p : Input -> Bool) (n : Nat) :
    (exists m, Within inputs m n ∧ p (inputs m) = true) ↔
      Pending inputs p n ∨ p (inputs n) = true := by
  constructor
  · rintro ⟨m, hw, hp⟩
    rcases Nat.lt_or_eq_of_le hw.1 with hm | rfl
    · exact Or.inl ⟨m, hm, hw, hp⟩
    · exact Or.inr hp
  · rintro (⟨m, -, hw, hp⟩ | hp)
    · exact ⟨m, hw, hp⟩
    · exact ⟨n, Within.self n, hp⟩

/-- An interval ends in one propagation. -/
theorem within_unique {m n k : Nat} (hn : Within inputs m n)
    (hk : Within inputs m k) (hpn : (inputs n).propagate = true)
    (hpk : (inputs k).propagate = true) : k = n := by
  rcases Nat.lt_trichotomy k n with h | h | h
  · rw [hn.2 k hk.1 h] at hpk
    cases hpk
  · exact h
  · rw [hk.2 n hn.1 h] at hpn
    cases hpn

end Intervals

/-!
## The latches
-/

/-- What the latches hold before a cycle. -/
structure Latched (inputs : Nat -> Input) (n : Nat) (s : State) : Prop where
  ipUpdated : s.ipUpdated = true ↔ Pending inputs (·.ipUpdate) n
  csUpdated : s.csUpdated = true ↔ Pending inputs (·.csUpdate) n
  ip : s.ipUpdated = true -> exists m, Within inputs m n ∧
    (inputs m).ipUpdate = true ∧ s.ip = (inputs m).newIp

theorem latched_step {inputs : Nat -> Input} {n : Nat} {s : State}
    (h : Latched inputs n s) : Latched inputs (n + 1) (step (inputs n) s) := by
  have hip := @pending_succ inputs (·.ipUpdate) n
  have hcs := @pending_succ inputs (·.csUpdate) n
  cases hp : (inputs n).propagate with
  | true =>
      simp only [hp, Bool.true_eq_false, false_and] at hip hcs
      constructor <;> simp [step, hp, hip, hcs]
  | false =>
      simp only [hp, true_and, ← h.ipUpdated, ← h.csUpdated] at hip hcs
      constructor
      · simp [step, hp, hip]
      · simp [step, hp, hcs]
      · intro _
        have hself := Nat.lt_succ_self n
        cases hold : s.ipUpdated with
        | true =>
            obtain ⟨m, hw, hu, hv⟩ := h.ip hold
            have hm := Nat.lt_succ_of_le hw.1
            refine ⟨m, (within_succ hm).mpr ⟨hw, hp⟩, hu, ?_⟩
            simp [step, hp, hold, hv]
        | false =>
            have hnew : (inputs n).ipUpdate = true := by
              simp_all [step]
            refine ⟨n, (within_succ hself).mpr ⟨Within.self n, hp⟩, hnew, ?_⟩
            simp [step, hp, hold, hnew]

theorem latched_trace {inputs : Nat -> Input} {s : State} (h : AfterReset s)
    (n : Nat) : Latched inputs n (trace step inputs s n) := by
  induction n with
  | zero =>
      constructor
      · simp [trace, h.1, pending_zero]
      · simp [trace, h.2, pending_zero]
      · simp [trace, h.1]
  | succ n ih =>
      exact latched_step ih

theorem updateOut_iff {inputs : Nat -> Input} {s : State} (h : AfterReset s)
    (n : Nat) :
    updateOut (inputs n) (trace step inputs s n) = true ↔
      (inputs n).propagate = true ∧
        exists m, Within inputs m n ∧
          ((inputs m).csUpdate || (inputs m).ipUpdate) = true := by
  have hlatched := @latched_trace inputs s h n
  have hip := @exists_within inputs (·.ipUpdate) n
  have hcs := @exists_within inputs (·.csUpdate) n
  rw [← hlatched.ipUpdated] at hip
  rw [← hlatched.csUpdated] at hcs
  have hsplit : (exists m, Within inputs m n ∧
      ((inputs m).csUpdate || (inputs m).ipUpdate) = true) ↔
      (exists m, Within inputs m n ∧ (inputs m).csUpdate = true) ∨
        exists m, Within inputs m n ∧ (inputs m).ipUpdate = true := by
    simp only [Bool.or_eq_true, and_or_left, exists_or]
  unfold updateOut
  rw [hsplit, hip, hcs]
  simp only [Bool.and_eq_true, Bool.or_eq_true]
  tauto

theorem ipOut_of_update {inputs : Nat -> Input} {s : State} (h : AfterReset s)
    (hone : OneValue inputs) {m n : Nat} (hw : Within inputs m n)
    (hm : (inputs m).ipUpdate = true) :
    ipOut (inputs n) (trace step inputs s n) = (inputs m).newIp := by
  have hlatched := @latched_trace inputs s h n
  unfold ipOut
  cases hu : (trace step inputs s n).ipUpdated with
  | true =>
      obtain ⟨k, hk, hupdate, hip⟩ := hlatched.ip hu
      rw [if_pos rfl, hip]
      exact hone k m n hk hw hupdate hm
  | false =>
      have hnow := (@exists_within inputs (·.ipUpdate) n).mp ⟨m, hw, hm⟩
      rw [← hlatched.ipUpdated, hu] at hnow
      have hn : (inputs n).ipUpdate = true := by simpa using hnow
      rw [if_neg Bool.false_ne_true, if_pos hn]
      exact hone n m n (Within.self n) hw hn hm

theorem ipOut_of_none {inputs : Nat -> Input} {s : State} (h : AfterReset s)
    {n : Nat}
    (hnone : forall m, Within inputs m n -> (inputs m).ipUpdate = false) :
    ipOut (inputs n) (trace step inputs s n) = (inputs n).ipIn := by
  have hlatched := @latched_trace inputs s h n
  have hold : (trace step inputs s n).ipUpdated = false := by
    rw [← Bool.not_eq_true, hlatched.ipUpdated]
    rintro ⟨m, -, hw, hm⟩
    exact Bool.false_ne_true ((hnone m hw).symm.trans hm)
  unfold ipOut
  rw [hold, hnone n (Within.self n)]
  rfl

/-!
## The segment that goes with it
-/

/-- The inputs of one cycle, wired as in the core: an update of `CS` is a write
of that segment register. -/
structure Cycle where
  sync : Input
  segment : SegmentRegisterFile.Input
  csUpdate_eq : sync.csUpdate = (segment.wrSel == .CS && segment.wrEn)

structure Wired where
  sync : State
  segments : SegmentRegisterFile.State

namespace Wired

def step (c : Cycle) (s : Wired) : Wired :=
  { sync := CSIPSync.step c.sync s.sync
    segments := SegmentRegisterFile.step c.segment s.segments }

/-- `prefetch_cs`. -/
def prefetchCs (c : Cycle) (s : Wired) : BitVec 16 :=
  if c.sync.csUpdate then c.segment.wrVal else s.segments.registers .CS

theorem step_cs (c : Cycle) (s : Wired) :
    (step c s).segments.registers .CS = prefetchCs c s := by
  unfold step prefetchCs SegmentRegisterFile.step SegmentRegisterFile.set
  rw [c.csUpdate_eq]
  cases c.segment.wrEn <;> cases c.segment.wrSel <;> rfl

variable (cycles : Nat -> Cycle) (s : Wired)

theorem trace_sync (n : Nat) :
    (trace step cycles s n).sync =
      trace CSIPSync.step (fun k => (cycles k).sync) s.sync n := by
  induction n with
  | zero =>
      rfl
  | succ n ih =>
      exact congrArg (CSIPSync.step (cycles n).sync) ih

/-- Without a write in between, `CS` stays what it is. -/
theorem trace_cs {m n : Nat} (hmn : m ≤ n)
    (hnone : forall k, m ≤ k -> k < n -> (cycles k).sync.csUpdate = false) :
    (trace step cycles s n).segments.registers .CS =
      (trace step cycles s m).segments.registers .CS := by
  induction n, hmn using Nat.le_induction with
  | base =>
      rfl
  | succ n hmn ih =>
      have hold := ih fun k hmk hkn => hnone k hmk (Nat.lt_succ_of_lt hkn)
      have hn := hnone n hmn (Nat.lt_succ_self n)
      change (step (cycles n) _).segments.registers .CS = _
      rw [step_cs, prefetchCs, hn, if_neg Bool.false_ne_true, hold]

end Wired

/-- The prefetcher is restarted exactly at the propagations of an interval
with an update, once for every update, with the `IP` written in the interval
or the current one and with the last `CS`. -/
theorem propagation_restarts (cycles : Nat -> Cycle) (s : Wired)
    (h : AfterReset s.sync) (hone : OneValue fun n => (cycles n).sync)
    (n : Nat) :
    let inputs := fun n => (cycles n).sync
    let now := trace Wired.step cycles s n
    (updateOut (inputs n) now.sync = true ↔
        (inputs n).propagate = true ∧
          exists m, Within inputs m n ∧
            ((inputs m).csUpdate || (inputs m).ipUpdate) = true) ∧
      (forall m, Within inputs m n -> (inputs m).ipUpdate = true ->
        ipOut (inputs n) now.sync = (inputs m).newIp) ∧
      ((forall m, Within inputs m n -> (inputs m).ipUpdate = false) ->
        ipOut (inputs n) now.sync = (inputs n).ipIn) ∧
      (forall m, Within inputs m n -> (inputs n).propagate = true ->
        ((inputs m).csUpdate || (inputs m).ipUpdate) = true ->
        forall k, Within inputs m k ->
          (updateOut (inputs k) (trace Wired.step cycles s k).sync = true ↔
            k = n)) ∧
      (forall m, m ≤ n -> (inputs m).csUpdate = true ->
        (forall k, m < k -> k ≤ n -> (inputs k).csUpdate = false) ->
        Wired.prefetchCs (cycles n) now = (cycles m).segment.wrVal) ∧
      forall m, m ≤ n ->
        (forall k, m ≤ k -> k ≤ n -> (inputs k).csUpdate = false) ->
        Wired.prefetchCs (cycles n) now =
          (trace Wired.step cycles s m).segments.registers .CS := by
  intro inputs now
  have hsync : forall k, (trace Wired.step cycles s k).sync =
      trace step inputs s.sync k := Wired.trace_sync cycles s
  have hupdate := fun k => @updateOut_iff inputs s.sync h k
  simp only [← hsync] at hupdate
  refine ⟨hupdate n, ?_, ?_, ?_, ?_, ?_⟩
  · intro m hw hm
    rw [hsync]
    exact ipOut_of_update h hone hw hm
  · intro hnone
    rw [hsync]
    exact ipOut_of_none h hnone
  · intro m hw hn hm k hk
    rw [hupdate]
    constructor
    · rintro ⟨hpropagate, -⟩
      exact within_unique hw hk hn hpropagate
    · rintro rfl
      exact ⟨hn, m, hk, hm⟩
  · intro m hmn hm hlast
    rw [← Wired.step_cs]
    change (trace Wired.step cycles s (n + 1)).segments.registers .CS = _
    rw [Wired.trace_cs cycles s (Nat.succ_le_succ hmn) fun k hmk hkn =>
      hlast k hmk (Nat.le_of_lt_succ hkn)]
    change (Wired.step (cycles m) _).segments.registers .CS = _
    rw [Wired.step_cs, Wired.prefetchCs, if_pos hm]
  · intro m hmn hnone
    rw [← Wired.step_cs]
    change (trace Wired.step cycles s (n + 1)).segments.registers .CS = _
    exact Wired.trace_cs cycles s (Nat.le_succ_of_le hmn) fun k hmk hkn =>
      hnone k hmk (Nat.le_of_lt_succ hkn)

/-- `IP` is written in one cycle and `CS` in the next, which propagates. -/
def farJump (n : Nat) : Cycle :=
  { sync :=
      { csUpdate := n == 1, ipUpdate := n == 0, ipIn := 0x100#16
        newIp := 0x1234#16, propagate := n == 1 }
    segment :=
      { rdSel := .DS, wrEn := n == 1, wrSel := .CS, wrVal := 0xf000#16 }
    csUpdate_eq := by simp }

def quiet : Wired :=
  { sync := { ip := 0#16, ipUpdated := false, csUpdated := false }
    segments := { registers := fun _ => 0#16, rdVal := 0#16 } }

theorem propagation_restarts_farJump :
    updateOut (farJump 1).sync (trace Wired.step farJump quiet 1).sync =
        true ∧
      ipOut (farJump 1).sync (trace Wired.step farJump quiet 1).sync =
        0x1234#16 ∧
      Wired.prefetchCs (farJump 1) (trace Wired.step farJump quiet 1) =
        0xf000#16 := by
  have hwithin : Within (fun n => (farJump n).sync) 0 1 := by
    refine ⟨by decide, fun k _ hk => ?_⟩
    have hzero : k = 0 := by omega
    subst hzero
    rfl
  have hone : OneValue fun n => (farJump n).sync :=
    fun _ _ _ _ _ _ _ => rfl
  obtain ⟨hupdate, hip, -, -, hcs, -⟩ :=
    propagation_restarts farJump quiet ⟨rfl, rfl⟩ hone 1
  refine ⟨hupdate.mpr ⟨rfl, 0, hwithin, rfl⟩, hip 0 hwithin rfl, ?_⟩
  exact hcs 1 (Nat.le_refl 1) rfl fun k hk hk' => absurd hk (by omega)

end CSIPSync
end Rtl
end S80x86
