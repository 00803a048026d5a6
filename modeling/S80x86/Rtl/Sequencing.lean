import S80x86.Rtl.MicroProgram
import S80x86.Rtl.Retirement

/-!
# From one instruction to the next

The last cycle of an instruction, the cycles in which the core waits for the
next one, and the first cycle of that, while no interrupt comes.
-/

open Foundation Clocked

namespace S80x86
namespace Rtl
namespace Core

variable {s : Core} {i : Input} {inputs : Nat -> Input}

/-!
## Interrupts that do not come
-/

/-- No interrupt has come, and the last instruction is not traced. -/
structure Calm (s : Core) : Prop where
  nmiPending : s.nmiPending = false
  nmiPulse : s.nmiPulse.q = false
  trapFlagSet : s.trapFlagSet = false

instance (s : Core) : Decidable (Calm s) :=
  decidable_of_iff (s.nmiPending = false ∧ s.nmiPulse.q = false ∧
    s.trapFlagSet = false)
    ⟨fun ⟨hpending, hpulse, htrap⟩ => ⟨hpending, hpulse, htrap⟩,
      fun ⟨hpending, hpulse, htrap⟩ => ⟨hpending, hpulse, htrap⟩⟩

theorem Calm.takeNmi (h : Calm s) : s.takeNmi = false := by
  simp [Core.takeNmi, h.nmiPending, h.nmiPulse]

theorem Calm.doSingleStep (h : Calm s) : s.doSingleStep = false := by
  simp [Core.doSingleStep, h.trapFlagSet]

theorem Calm.step (h : Calm s) (hnmi : i.nmi = false)
    (htrap : s.startingInstruction i = true -> s.flags.T = false) :
    Calm (s.step i) := by
  constructor
  · change (if s.nextAddr i == nmiAddress then false
      else s.nmiPending || s.nmiPulse.q) = false
    rw [h.nmiPending, h.nmiPulse]
    exact ite_self false
  · change (PosedgeToPulse.step i.nmi s.nmiPulse).q = false
    rw [hnmi]
    exact Bool.and_false _
  · change (if s.nextAddr i == singleStepAddress then false
      else if s.startingInstruction i then s.flags.T
      else s.trapFlagSet) = false
    cases hstart : s.startingInstruction i with
    | false =>
        rw [h.trapFlagSet]
        exact ite_self false
    | true =>
        rw [htrap hstart]
        exact ite_self false

/-- No interrupt comes while the core is between two instructions. -/
theorem Calm.reaches (h : Calm s) {goal : Core -> Prop}
    (hnmi : forall n, (inputs n).nmi = false)
    (hgoal : Reaches Core.step Continues goal inputs s) :
    Reaches Core.step Continues (fun t => goal t ∧ Calm t) inputs s := by
  obtain ⟨n, hstay, hn⟩ := hgoal
  have hcalm (k : Nat) (hk : k <= n) : Calm (trace Core.step inputs s k) := by
    induction k with
    | zero =>
        exact h
    | succ k ih =>
        refine (ih (Nat.le_of_succ_le hk)).step (hnmi k) (fun hstart => ?_)
        rw [(hstay k hk).starting] at hstart
        cases hstart
  exact ⟨n, hstay, hn, hcalm n (Nat.le_refl n)⟩

/-!
## The next instruction
-/

/-- No unit is at work, whatever the prefetch unit does. -/
structure Rests (s : Core) : Prop where
  fetching : s.loadStore.fetching = false
  secondByte : s.loadStore.secondByte = false
  complete : s.loadStore.complete = false
  ack : s.mAck = false
  divider : DividerIdle s.divider

instance (s : Core) : Decidable (Rests s) :=
  decidable_of_iff (s.loadStore.fetching = false ∧
    s.loadStore.secondByte = false ∧ s.loadStore.complete = false ∧
    s.mAck = false ∧ s.divider.state = .INIT ∧ s.divider.complete = false ∧
    s.divider.error = false)
    ⟨fun ⟨hfetch, hsecond, hdone, hack, hstate, hcomplete, herror⟩ =>
      ⟨hfetch, hsecond, hdone, hack, ⟨hstate, hcomplete, herror⟩⟩,
      fun ⟨hfetch, hsecond, hdone, hack, ⟨hstate, hcomplete, herror⟩⟩ =>
        ⟨hfetch, hsecond, hdone, hack, hstate, hcomplete, herror⟩⟩

theorem Rests.idle (h : Rests s) (habort : s.abortCur = false) : Idle s :=
  ⟨h.fetching, h.secondByte, h.complete, h.ack, h.divider, habort⟩

/-- The units rest after the last cycle of a word. -/
theorem Last.rests {u : Microinstruction} {a : Nat} {y : Machine}
    (h : Last u a y s) (i : Input) : Rests (s.step i) := by
  have hstart := h.start
  have hdiv := h.dividerStart
  have hreset : s.dividerInputs.reset = false := rfl
  refine ⟨?_, ?_, ?_, h.accepted i, ⟨?_, ?_, ?_⟩⟩
  · change (if s.loadStoreStart then true else if s.loadStore.complete then
      false else s.loadStore.fetching) = false
    rcases h.unit with hc | hc <;> simp [hstart, hc]
  · change (LoadStore.step (s.loadStoreInput i) s.loadStore).secondByte = false
    rcases h.unit with hc | hc <;>
      simp [LoadStore.step, loadStoreInput, h.ack, hstart, hc]
  · simp [Core.step, LoadStore.step, loadStoreInput, h.ack]
  · simp [Core.step, Divider.step, Divider.nextState, h.divider, hdiv]
  · simp [Core.step, Divider.step, h.divider, hdiv, hreset]
  · simp [Core.step, Divider.step, h.divider, hdiv, hreset]

/-- A valid instruction without prefixes and ModRM byte. -/
structure Simple (v : Instruction) : Prop where
  invalid : v.invalid = false
  hasSegmentOverride : v.hasSegmentOverride = false
  hasModrm : v.hasModrm = false
  plain : plainOpcode v.opcode = true

/-- What the core holds for the program and no instruction changes. -/
structure Holds (x : Arch) (s : Core) : Prop where
  rests : Rests s
  arch : s.arch = x
  notUpdated : s.csip.ipUpdated = false
  override : s.override.overrideActive = false
  bpAsBase : s.modrm.bpAsBase = false

/-- The core waits for the next instruction. -/
structure Waits (x : Arch) (s : Core) : Prop where
  holds : Holds x s
  addr : s.addr = nextInstructionAddress
  ip : s.ip.curVal = x.ip

/-- The first cycle of an instruction. -/
structure Begins (x : Arch) (v : Instruction) (s : Core) : Prop where
  holds : Holds x s
  addr : s.addr = v.opcode.toNat
  ip : s.ip.curVal = x.ip + v.length.setWidth 16
  curInstruction : s.curInstruction = v
  abort : s.abortCur = false

theorem Begins.starts {x : Arch} {v : Instruction} (h : Begins x v s) :
    s.Starts v.opcode :=
  ⟨h.holds.rests.idle h.abort, h.addr, congrArg Instruction.opcode
    h.curInstruction, h.holds.notUpdated⟩

section Retiring

variable {x : Arch} (h : Retiring x s) (hcalm : Calm s)
include h

theorem Retiring.doNextInstruction : s.doNextInstruction = true := by
  obtain ⟨y, hlast⟩ := h.last
  simp [Core.doNextInstruction, h.ends, hlast.stall]

theorem Retiring.not_at : s.addr ≠ nextInstructionAddress ∧
    s.addr ≠ modrmWaitAddress := by
  have hholds := h.holds
  simp only [holdsAddress, Bool.and_eq_true, bne_iff_ne] at hholds
  exact hholds.1.1

theorem Retiring.modrmStart (i : Input) : s.modrmStart i = false := by
  obtain ⟨hnext, hwait⟩ := h.not_at
  simp [Core.modrmStart, hnext, hwait]

include hcalm

/-- The sequencer takes the instruction that is offered, or waits for one. -/
theorem Retiring.nextAddr (hintr : i.intr = false) :
    s.nextAddr i =
      if s.offered i then
        if i.nextInstructionValue.hasModrm then modrmWaitAddress
        else i.nextInstructionValue.opcode.toNat
      else nextInstructionAddress := by
  obtain ⟨y, hlast⟩ := h.last
  have hplain := Microcode.mem_endsPlainly s.addr
  unfold Microcode.endsPlainly at hplain
  change (!s.current.nextInstruction || (s.current.jumpType ==
    .UNCONDITIONAL && !s.current.divide && _)) = true at hplain
  rw [h.ends] at hplain
  simp only [Bool.not_true, Bool.false_or, Bool.and_eq_true, beq_iff_eq,
    Bool.not_eq_true'] at hplain
  obtain ⟨⟨hjump, hdivide⟩, -⟩ := hplain
  have hint := h.word
  simp only [Microinstruction.isInternal, Bool.and_eq_true,
    Bool.not_eq_true'] at hint
  have hyield := hint.1.1.1
  have herror : s.divider.error = false := by
    rw [<- Bool.not_eq_true]
    intro herror
    rw [hlast.error herror] at hdivide
    cases hdivide
  have hirq : s.takeIrq i = false := by
    simp [takeIrq, hintr]
  have haddr : (s.addr == nextInstructionAddress) = false := by
    simp [h.not_at.1]
  unfold Core.nextAddr
  simp only [hlast.stall, hyield, haddr, hjump, herror, hcalm.takeNmi, hirq,
    hcalm.doSingleStep, hcalm.trapFlagSet, h.ends, Bool.true_or, Bool.false_and, Bool.and_false,
    Bool.or_false, Bool.false_eq_true, bne_self_eq_false, if_false, if_true]

/-- What is taken is what is offered. -/
theorem Retiring.starting (hintr : i.intr = false)
    (hstart : s.startingInstruction i = true) : s.offered i = true := by
  have hnext := h.nextAddr hcalm hintr
  have hlt := i.nextInstructionValue.opcode.isLt
  simp only [startingInstruction, Bool.and_eq_true, beq_iff_eq] at hstart
  rw [hstart.2] at hnext
  cases hoffered : s.offered i with
  | true =>
      rfl
  | false =>
      rw [hoffered] at hnext
      have heq : i.nextInstructionValue.opcode.toNat = 0x100 := hnext
      omega

theorem Retiring.step_holds (hintr : i.intr = false)
    (hsimple : s.offered i = true -> Simple i.nextInstructionValue) :
    Holds x (s.step i) := by
  obtain ⟨y, hlast⟩ := h.last
  have hdone := h.doNextInstruction
  refine ⟨hlast.rests i, h.arch i, ?_, ?_, ?_⟩
  · change (CSIPSync.step s.csipInput s.csip).ipUpdated = false
    unfold CSIPSync.step csipInput
    simp only [hdone, if_true]
  · have hupdate : (s.startingInstruction i &&
        i.nextInstructionValue.hasSegmentOverride) = false := by
      cases hstart : s.startingInstruction i with
      | false =>
          rfl
      | true =>
          exact (hsimple (h.starting hcalm hintr hstart)).hasSegmentOverride
    change (SegmentOverride.step (s.overrideInput i) s.override).overrideActive
      = false
    unfold SegmentOverride.step overrideInput
    simp [hupdate, hdone]
  · change (ModRMDecode.step (s.modrmInput i) s.modrm).bpAsBase = false
    unfold ModRMDecode.step modrmInput
    simp [h.modrmStart i, hdone]

/-- Nothing takes the instruction pointer back. -/
theorem Retiring.ip (hintr : i.intr = false)
    (hsimple : s.offered i = true -> Simple i.nextInstructionValue) :
    (s.step i).ip.curVal =
      if s.loadNewIp then x.ip
      else if s.startingInstruction i then
        x.ip + i.nextInstructionValue.length.setWidth 16
      else x.ip := by
  have hlt := i.nextInstructionValue.opcode.isLt
  have hnext := h.nextAddr hcalm hintr
  have hlow : s.nextAddr i <= 0x100 := by
    cases hoffered : s.offered i with
    | false =>
        rw [hnext, hoffered]
        exact Nat.le_refl _
    | true =>
        rw [hnext, hoffered, (hsimple hoffered).hasModrm]
        exact Nat.le_of_lt hlt
  have hint : s.startInterrupt i = false := by
    simp only [startInterrupt, nmiAddress, irqAddress, Bool.or_eq_false_iff,
      beq_eq_false_iff_ne]
    omega
  have hescape : s.doEscapeFault i = false := by
    simp only [doEscapeFault, doIntAddress, Bool.and_eq_false_iff,
      beq_eq_false_iff_ne]
    omega
  have hdone := h.doNextInstruction
  have hip := congrArg Arch.ip (h.arch i)
  change (IP.step (s.ipInput i) s.ip).instructionStartAddr = x.ip at hip
  change (IP.step (s.ipInput i) s.ip).curVal = _
  unfold IP.step ipInput at hip ⊢
  simp only [hint, hescape, hdone, Bool.false_and, Bool.or_false,
    Bool.or_true, Bool.false_eq_true, if_false, if_true] at hip ⊢
  rw [<- hip]
  cases s.loadNewIp <;> simp

/-- The next instruction begins at once. -/
theorem Retiring.begins (hintr : i.intr = false) (hoffered : s.offered i = true)
    (hsimple : Simple i.nextInstructionValue) :
    Begins x i.nextInstructionValue (s.step i) := by
  obtain ⟨y, hlast⟩ := h.last
  have hnext := h.nextAddr hcalm hintr
  rw [hoffered, hsimple.hasModrm] at hnext
  have hstart : s.startingInstruction i = true := by
    simp [startingInstruction, hlast.stall, hnext]
  have hload : s.loadNewIp = false := by
    have hfifo := hoffered
    simp only [offered, Core.fifoReset, Bool.and_eq_true, Bool.not_eq_true',
      Bool.or_eq_false_iff] at hfifo
    exact hfifo.2.1
  have hip := h.ip hcalm hintr (fun _ => hsimple)
  rw [hload, hstart] at hip
  refine ⟨h.step_holds hcalm hintr (fun _ => hsimple), hnext, hip, ?_, ?_⟩
  · change (if s.startingInstruction i then i.nextInstructionValue
      else s.curInstruction) = i.nextInstructionValue
    rw [hstart]
    rfl
  · change (if s.abortCur && i.prefetchAck then false
      else s.abortCur || (i.prefetchAccess && s.loadNewIp)) = false
    simp [hlast.abort, hload]

/-- The core waits for the next instruction. -/
theorem Retiring.waits (hintr : i.intr = false)
    (hoffered : s.offered i = false) : Waits x (s.step i) := by
  have hnext := h.nextAddr hcalm hintr
  rw [hoffered] at hnext
  have hsimple : s.offered i = true -> Simple i.nextInstructionValue := by
    intro htrue
    rw [hoffered] at htrue
    cases htrue
  have hstart : s.startingInstruction i = false := by
    rw [<- Bool.not_eq_true]
    intro hstart
    rw [h.starting hcalm hintr hstart] at hoffered
    cases hoffered
  have hip := h.ip hcalm hintr hsimple
  rw [hstart] at hip
  refine ⟨h.step_holds hcalm hintr hsimple, hnext, ?_⟩
  rw [hip]
  exact ite_self _

end Retiring

/-!
## Cycles in which the core waits for an instruction
-/

section Waits

variable {x : Arch} (h : Waits x s)
include h

theorem Waits.current : s.current = Microcode.mem nextInstructionAddress := by
  unfold Core.current
  rw [h.addr]

theorem Waits.stall : s.stall = false := by
  have hcurrent := h.current
  have hidle := h.holds.rests.divider.not_busy (by rw [hcurrent]; rfl)
  have hstart : s.loadStoreStart = false := by
    unfold loadStoreStart
    rw [hcurrent]
    rfl
  have hbusy : s.alu.busy = false := by
    unfold alu
    rw [hcurrent]
    rfl
  simp [Core.stall, loadStoreBusy, hstart, h.holds.rests.fetching,
    h.holds.rests.secondByte, hidle.1, hbusy]

theorem Waits.doNextInstruction : s.doNextInstruction = false := by
  unfold Core.doNextInstruction
  rw [h.current]
  rfl

theorem Waits.loadNewIp : s.loadNewIp = false := by
  unfold Core.loadNewIp CSIPSync.updateOut csipInput
  simp [h.doNextInstruction]

theorem Waits.nextAddr (hcalm : Calm s) (hintr : i.intr = false)
    (hvalid : i.instructionEmpty = false ->
      i.nextInstructionValue.invalid = false) :
    s.nextAddr i =
      if i.instructionEmpty then nextInstructionAddress
      else i.nextInstructionValue.opcode.toNat := by
  have hirq : s.takeIrq i = false := by
    simp [takeIrq, hintr]
  have hinvalid : (s.offered i && i.nextInstructionValue.invalid) = false := by
    cases hempty : i.instructionEmpty with
    | false =>
        rw [hvalid hempty, Bool.and_false]
    | true =>
        simp [offered, hempty]
  have hjump : (s.current.jumpType != .UNCONDITIONAL) = true := by
    rw [h.current]
    rfl
  have htarget : s.jumpTarget i =
      if !i.instructionEmpty then i.nextInstructionValue.opcode.toNat
      else s.addr := by
    unfold jumpTarget
    rw [h.current]
    rfl
  unfold Core.nextAddr
  simp only [h.stall, hcalm.takeNmi, hirq, hjump, htarget, h.addr,
    Bool.and_assoc, hinvalid, Bool.and_false, Bool.false_eq_true, if_false,
    if_true]
  cases i.instructionEmpty <;> rfl

theorem Waits.loadStoreStart : s.loadStoreStart = false := by
  unfold Core.loadStoreStart
  rw [h.current]
  rfl

theorem Waits.accepted (i : Input) : s.accepted i = false := by
  simp [Core.accepted, LoadStore.mAccess, LoadStore.active, loadStoreInput,
    h.loadStoreStart, h.holds.rests.fetching, h.holds.rests.secondByte]

theorem Waits.rests (i : Input) : Rests (s.step i) := by
  have hrests := h.holds.rests
  have hdivide : s.current.divide = false := by
    rw [h.current]
    rfl
  have hdivider : s.divider.step s.dividerInputs = s.divider :=
    (hrests.divider.not_busy hdivide).2
  refine ⟨?_, ?_, ?_, h.accepted i, ?_⟩
  · change (if s.loadStoreStart then true else if s.loadStore.complete then
      false else s.loadStore.fetching) = false
    simp [h.loadStoreStart, hrests.fetching]
  · change (LoadStore.step (s.loadStoreInput i) s.loadStore).secondByte = false
    simp [LoadStore.step, loadStoreInput, hrests.ack, h.loadStoreStart,
      hrests.secondByte]
  · simp [Core.step, LoadStore.step, loadStoreInput, hrests.ack]
  · change DividerIdle (s.divider.step s.dividerInputs)
    rw [hdivider]
    exact hrests.divider

/-- A cycle at the fetch word changes nothing that the program sees. -/
theorem Waits.arch (i : Input) : (s.step i).arch = x := by
  have hgprs : (s.step i).registers.gprs = s.registers.gprs := by
    rw [gprs_step, h.current]
    rfl
  have hsegments : (s.step i).segments.registers = s.segments.registers := by
    rw [segments_step, h.current]
    rfl
  have hflags : (s.step i).flags = s.flags := by
    change Flags.step s.current.updateFlags s.alu.flagsOut s.flags = s.flags
    rw [h.current]
    rfl
  have hmem : (s.step i).mem = s.mem := by
    change s.nextMem i = s.mem
    simp [nextMem, h.accepted i]
  have hx := h.holds.arch
  have hip : (s.step i).ip.instructionStartAddr =
      s.ip.instructionStartAddr := by
    have hcur : s.ip.curVal = s.ip.instructionStartAddr :=
      h.ip.trans (congrArg Arch.ip hx).symm
    change (IP.step (s.ipInput i) s.ip).instructionStartAddr = _
    unfold IP.step ipInput
    simp only [h.loadNewIp, Bool.false_eq_true, if_false, hcur]
    exact ite_self _
  rw [<- hx]
  unfold Core.arch
  rw [hgprs, hsegments, hflags, hmem, hip]

theorem Waits.starting (hcalm : Calm s) (hintr : i.intr = false)
    (hvalid : i.instructionEmpty = false ->
      i.nextInstructionValue.invalid = false) :
    s.startingInstruction i = !i.instructionEmpty := by
  have hlt := i.nextInstructionValue.opcode.isLt
  unfold startingInstruction
  rw [h.nextAddr hcalm hintr hvalid, h.stall]
  cases i.instructionEmpty with
  | false =>
      simp
  | true =>
      have hne : nextInstructionAddress ≠
          i.nextInstructionValue.opcode.toNat := by
        unfold nextInstructionAddress
        omega
      simp [hne]

theorem Waits.step_holds (hcalm : Calm s) (hintr : i.intr = false)
    (hsimple : i.instructionEmpty = false -> Simple i.nextInstructionValue) :
    Holds x (s.step i) := by
  have hstarting := h.starting hcalm hintr (fun he => (hsimple he).invalid)
  have hdone := h.doNextInstruction
  have hload : s.current.loadIp = false := by
    rw [h.current]
    rfl
  have hupdate : (s.startingInstruction i &&
      i.nextInstructionValue.hasSegmentOverride) = false := by
    rw [hstarting]
    cases hempty : i.instructionEmpty with
    | false =>
        rw [(hsimple hempty).hasSegmentOverride]
        rfl
    | true =>
        rfl
  have hmodrm : s.modrmStart i = false := by
    have hwait : (s.addr == modrmWaitAddress) = false := by
      rw [h.addr]
      rfl
    unfold modrmStart
    rw [hwait]
    cases hempty : i.instructionEmpty with
    | false =>
        simp [(hsimple hempty).hasModrm]
    | true =>
        simp
  refine ⟨h.rests i, h.arch i, ?_, ?_, ?_⟩
  · change (CSIPSync.step s.csipInput s.csip).ipUpdated = false
    unfold CSIPSync.step csipInput
    simp [hdone, hload, h.holds.notUpdated]
  · change (SegmentOverride.step (s.overrideInput i) s.override).overrideActive
      = false
    unfold SegmentOverride.step overrideInput
    simp only [hupdate, Bool.false_eq_true, if_false]
    split
    · rfl
    · exact h.holds.override
  · change (ModRMDecode.step (s.modrmInput i) s.modrm).bpAsBase = false
    unfold ModRMDecode.step modrmInput
    simp only [hmodrm, Bool.false_eq_true, if_false]
    split
    · rfl
    · exact h.holds.bpAsBase

/-- Nothing takes the instruction pointer back. -/
theorem Waits.step_ip (hcalm : Calm s) (hintr : i.intr = false)
    (hvalid : i.instructionEmpty = false ->
      i.nextInstructionValue.invalid = false) :
    (s.step i).ip.curVal =
      if i.instructionEmpty then x.ip
      else x.ip + i.nextInstructionValue.length.setWidth 16 := by
  have hlt := i.nextInstructionValue.opcode.isLt
  have hnext := h.nextAddr hcalm hintr hvalid
  have hlow : s.nextAddr i <= 0x100 := by
    rw [hnext]
    split
    · exact Nat.le_refl _
    · exact Nat.le_of_lt hlt
  have hint : s.startInterrupt i = false := by
    simp only [startInterrupt, nmiAddress, irqAddress, Bool.or_eq_false_iff,
      beq_eq_false_iff_ne]
    omega
  have hescape : s.doEscapeFault i = false := by
    simp only [doEscapeFault, doIntAddress, Bool.and_eq_false_iff,
      beq_eq_false_iff_ne]
    omega
  change (IP.step (s.ipInput i) s.ip).curVal = _
  unfold IP.step ipInput
  simp only [hint, hescape, h.loadNewIp, h.starting hcalm hintr hvalid, h.ip,
    Bool.false_and, Bool.or_false, Bool.false_eq_true, if_false]
  cases i.instructionEmpty <;> rfl

theorem Waits.begins (hcalm : Calm s) (hintr : i.intr = false)
    (hempty : i.instructionEmpty = false)
    (hsimple : Simple i.nextInstructionValue) (habort : s.abortCur = false) :
    Begins x i.nextInstructionValue (s.step i) := by
  have hvalid (_ : i.instructionEmpty = false) := hsimple.invalid
  have hnext := h.nextAddr hcalm hintr hvalid
  have hstart := h.starting hcalm hintr hvalid
  have hip := h.step_ip hcalm hintr hvalid
  rw [hempty] at hnext hstart hip
  refine ⟨h.step_holds hcalm hintr (fun _ => hsimple), hnext, hip, ?_, ?_⟩
  · change (if s.startingInstruction i then i.nextInstructionValue
      else s.curInstruction) = i.nextInstructionValue
    rw [hstart]
    rfl
  · change (if s.abortCur && i.prefetchAck then false
      else s.abortCur || (i.prefetchAccess && s.loadNewIp)) = false
    simp [habort, h.loadNewIp]

theorem Waits.waits (hcalm : Calm s) (hintr : i.intr = false)
    (hempty : i.instructionEmpty = true) : Waits x (s.step i) := by
  have hvalid : i.instructionEmpty = false ->
      i.nextInstructionValue.invalid = false := by
    intro hfalse
    rw [hempty] at hfalse
    cases hfalse
  have hsimple : i.instructionEmpty = false ->
      Simple i.nextInstructionValue := by
    intro hfalse
    rw [hempty] at hfalse
    cases hfalse
  have hnext := h.nextAddr hcalm hintr hvalid
  have hstart := h.starting hcalm hintr hvalid
  have hip := h.step_ip hcalm hintr hvalid
  rw [hempty] at hnext hstart hip
  exact ⟨h.step_holds hcalm hintr hsimple, hnext, hip⟩

end Waits

/-!
## The start of an instruction
-/

/-- No word but the last of an instruction goes to the one that waits for the
next. -/
def neverFetches (a : Nat) (u : Microinstruction) : Bool :=
  u.nextInstruction || a == nextInstructionAddress ||
    match u.jumpType with
    | .OPCODE => true
    | .DISPATCH_REG => decide (nextInstructionAddress < u.next)
    | _ => !Microcode.mayFollow u a nextInstructionAddress

theorem mem_neverFetches (a : Nat) :
    neverFetches a (Microcode.mem a) = true := by
  refine Microcode.mem_check (by decide +kernel) (fun a => ?_) a
  simp [neverFetches, Microcode.mayFollow, Microcode.spread,
    divideErrorAddress, nextInstructionAddress]

section Fetches

variable (hgoes : s.current.nextInstruction = false)
  (haddr : s.addr ≠ nextInstructionAddress)
include hgoes haddr

theorem jumpTarget_apart (hcond : s.current.jumpType ≠ .UNCONDITIONAL)
    (i : Input) : s.jumpTarget i ≠ nextInstructionAddress := by
  have hword := mem_neverFetches s.addr
  change neverFetches s.addr s.current = true at hword
  simp only [neverFetches, hgoes, Bool.false_or, Bool.or_eq_true, beq_iff_eq,
    haddr, false_or] at hword
  intro htarget
  cases hjump : s.current.jumpType with
  | OPCODE =>
      have hlt := i.nextInstructionValue.opcode.isLt
      unfold jumpTarget at htarget
      simp only [hjump] at htarget
      split at htarget
      · unfold nextInstructionAddress at htarget
        omega
      · exact haddr htarget
  | DISPATCH_REG =>
      rw [hjump] at hword
      simp only [decide_eq_true_eq] at hword
      unfold jumpTarget at htarget
      simp only [hjump] at htarget
      omega
  | UNCONDITIONAL =>
      exact hcond hjump
  | _ =>
      have hne : s.current.jumpType ≠ .OPCODE := by
        rw [hjump]
        decide
      have hfollows := Machine.target_follows (m := s.machine) hne s.addr
      rw [<- jumpTarget_eq hne hcond i, htarget] at hfollows
      rw [hjump, hfollows] at hword
      cases hword

theorem next_apart (hcond : s.current.jumpType = .UNCONDITIONAL) :
    s.current.next ≠ nextInstructionAddress := by
  have hword := mem_neverFetches s.addr
  change neverFetches s.addr s.current = true at hword
  simp only [neverFetches, hgoes, hcond, Bool.false_or, Bool.or_eq_true,
    beq_iff_eq, haddr, false_or] at hword
  intro hnext
  simp [Microcode.mayFollow, hnext] at hword

/-- The core comes to wait for an instruction only from the last word of
another. -/
theorem nextAddr_apart (hintr : i.intr = false) (hstall : s.stall = false) :
    s.nextAddr i ≠ nextInstructionAddress := by
  have hat : (s.addr == nextInstructionAddress) = false := by
    simp [haddr]
  unfold Core.nextAddr
  simp only [hstall, hgoes, hintr, hat, Bool.false_and, Bool.and_false,
    Bool.or_false, Bool.false_or, Bool.false_eq_true, if_false]
  split
  · decide
  · split
    · decide
    · split
      · next hcond => exact jumpTarget_apart hgoes haddr (by simpa using hcond) i
      · next hcond =>
          split
          · decide
          · split
            · decide
            · exact next_apart hgoes haddr (by simpa using hcond)

end Fetches

/-- A core that goes on to the fetch word without an end of an instruction is
there already. -/
theorem addr_of_waits (hnext : s.nextAddr i = nextInstructionAddress)
    (hintr : i.intr = false) (hdone : s.doNextInstruction = false) :
    s.addr = nextInstructionAddress := by
  by_contra haddr
  cases hstall : s.stall with
  | true =>
      unfold Core.nextAddr at hnext
      rw [hstall] at hnext
      exact haddr hnext
  | false =>
      have hgoes : s.current.nextInstruction = false := by
        unfold Core.doNextInstruction at hdone
        rw [hstall] at hdone
        simpa using hdone
      exact nextAddr_apart hgoes haddr hintr hstall hnext

/-- A core that waits for an instruction is at the start of it. -/
def Aligned (s : Core) : Prop :=
  s.addr = nextInstructionAddress -> s.ip.curVal = s.ip.instructionStartAddr

theorem Aligned.step (h : Aligned s) (hintr : i.intr = false) :
    Aligned (s.step i) := by
  intro haddr
  have hnext : s.nextAddr i = nextInstructionAddress := haddr
  have hlt := i.nextInstructionValue.opcode.isLt
  have hstart : s.startingInstruction i = false := by
    have hne : nextInstructionAddress ≠
        i.nextInstructionValue.opcode.toNat := by
      unfold nextInstructionAddress
      omega
    simp [startingInstruction, hnext, hne]
  have hint : s.startInterrupt i = false := by
    rw [startInterrupt, hnext]
    rfl
  have hescape : s.doEscapeFault i = false := by
    rw [doEscapeFault, hnext]
    exact Bool.and_false _
  change (IP.step (s.ipInput i) s.ip).curVal =
    (IP.step (s.ipInput i) s.ip).instructionStartAddr
  unfold IP.step ipInput
  simp only [hstart, hint, hescape, Bool.false_and, Bool.or_false,
    Bool.false_or, Bool.false_eq_true, if_false]
  cases hdone : s.doNextInstruction with
  | true =>
      rfl
  | false =>
      have hload : s.loadNewIp = false := by
        unfold Core.loadNewIp CSIPSync.updateOut csipInput
        simp [hdone]
      rw [hload]
      exact h (addr_of_waits hnext hintr hdone)

/-- Both pointers of a core that waits for an instruction have gone to the
prefetch unit. -/
def Settled (s : Core) : Prop :=
  s.addr = nextInstructionAddress -> s.csip.csUpdated = false

theorem Settled.step (h : Settled s) (hintr : i.intr = false) :
    Settled (s.step i) := by
  intro haddr
  have hnext : s.nextAddr i = nextInstructionAddress := haddr
  change (CSIPSync.step s.csipInput s.csip).csUpdated = false
  unfold CSIPSync.step csipInput
  dsimp only
  cases hdone : s.doNextInstruction with
  | true =>
      rfl
  | false =>
      have hat := addr_of_waits hnext hintr hdone
      have hword : s.current.segmentWrEn = false := by
        unfold Core.current
        rw [hat]
        rfl
      rw [if_neg Bool.false_ne_true, h hat, hword, Bool.and_false]
      rfl

/-!
## What a core takes
-/

/-- The core takes no more than it is offered, does not jump while an access of
the prefetch unit is being aborted, and keeps its instruction pointer. -/
structure Takes (i : Input) (s : Core) : Prop where
  offered : s.startingInstruction i = true -> i.instructionEmpty = false
  abort : s.loadNewIp = true -> s.abortCur = false
  rollback : (s.ipInput i).rollback = false

/-- The core does so whatever it is offered, if no interrupt comes and nothing
is offered while an access is being aborted. -/
def Orderly (s : Core) : Prop :=
  forall i : Input, i.intr = false ->
    (s.abortCur = true -> i.instructionEmpty = true) -> Takes i s

theorem Continues.orderly (h : Continues s) : Orderly s := by
  intro i _ _
  have hload : s.loadNewIp = false := by
    unfold Core.loadNewIp CSIPSync.updateOut csipInput
    simp [h.doNextInstruction]
  refine ⟨fun hstart => ?_, fun htrue => ?_, h.rollback i⟩
  · rw [h.starting i] at hstart
    cases hstart
  · rw [hload] at htrue
    cases htrue

/-- None of the addresses at which an instruction begins is one of an
interrupt. -/
theorem not_rollback_of_begins {b : Nat} (hnext : s.nextAddr i = b)
    (hb : b < 0x101 ∨ b = modrmWaitAddress ∨ b = badOpcodeAddress) :
    (s.ipInput i).rollback = false := by
  have hapart : b ≠ nmiAddress ∧ b ≠ irqAddress ∧ b ≠ doIntAddress := by
    unfold modrmWaitAddress badOpcodeAddress at hb
    unfold nmiAddress irqAddress doIntAddress
    omega
  exact not_rollback hnext ⟨hapart.1, hapart.2.1⟩ (Or.inr hapart.2.2)

theorem Retiring.orderly {x : Arch} (h : Retiring x s) (hcalm : Calm s) :
    Orderly s := by
  intro i hintr _
  refine ⟨fun hstart => ?_, fun _ => ?_, ?_⟩
  · have hoffered := h.starting hcalm hintr hstart
    simp only [Core.offered, Bool.and_eq_true, Bool.not_eq_true'] at hoffered
    exact hoffered.1
  · obtain ⟨y, hlast⟩ := h.last
    exact hlast.abort
  · have hlt := i.nextInstructionValue.opcode.isLt
    refine not_rollback_of_begins (h.nextAddr hcalm hintr) ?_
    split
    · split
      · exact Or.inr (Or.inl rfl)
      · exact Or.inl (by omega)
    · exact Or.inl (by decide)

theorem Waits.orderly {x : Arch} (h : Waits x s) (hcalm : Calm s) :
    Orderly s := by
  intro i hintr habort
  have hlt := i.nextInstructionValue.opcode.isLt
  refine ⟨fun hstart => ?_, fun hload => ?_, ?_⟩
  · rw [<- Bool.not_eq_true]
    intro hempty
    have hnone := h.starting hcalm hintr (fun hfalse => by
      rw [hempty] at hfalse
      cases hfalse)
    rw [hempty, hstart] at hnone
    cases hnone
  · rw [h.loadNewIp] at hload
    cases hload
  · by_cases hvalid : i.instructionEmpty = false ->
        i.nextInstructionValue.invalid = false
    · refine not_rollback_of_begins (h.nextAddr hcalm hintr hvalid) (Or.inl ?_)
      split
      · decide
      · omega
    · -- What is no instruction is taken to the handler of such.
      rw [Classical.not_imp, Bool.not_eq_false] at hvalid
      have hrunning : s.abortCur = false := by
        rw [<- Bool.not_eq_true]
        intro htrue
        rw [habort htrue] at hvalid
        cases hvalid.1
      have hoffered : s.offered i = true := by
        simp [offered, Core.fifoReset, h.loadNewIp, hrunning, hvalid.1]
      have hirq : s.takeIrq i = false := by
        simp [takeIrq, hintr]
      refine not_rollback_of_begins (b := badOpcodeAddress) ?_
        (Or.inr (Or.inr rfl))
      unfold Core.nextAddr
      simp [h.stall, hcalm.takeNmi, hirq, h.addr, hoffered, hvalid.2]

/-!
## Words of one cycle
-/

/-- Whether the word takes one cycle and goes to the address that it names,
where the sequencer has no rule of its own for an escape. -/
def brief (u : Microinstruction) : Bool :=
  !u.waits && u.jumpType == .UNCONDITIONAL && u.next != doIntAddress

/-- A word of a path is executed in one cycle, whatever instruction is
latched. -/
theorem Idle.brief_step {c : Control} {before : Option Microinstruction}
    {a b : Nat} (h : Idle s) (haddr : s.addr = a)
    (hgoes : c.Goes before a b) (hbrief : brief (Microcode.mem a) = true)
    (ha : a ≠ nextInstructionAddress ∧ a ≠ modrmWaitAddress)
    (hcalm : Calm s) (hintr : i.intr = false) :
    s.doNextInstruction = false ∧ (s.step i).addr = b ∧
      (s.step i).machine = s.machine.follow [Microcode.mem a] ∧
      Idle (s.step i) ∧ b ≠ doIntAddress := by
  simp only [brief, Bool.and_eq_true, Bool.not_eq_true', beq_iff_eq,
    bne_iff_ne] at hbrief
  obtain ⟨⟨hwaits, hjump⟩, hapart⟩ := hbrief
  have hselects := hgoes.selects
  simp only [selects, Bool.and_eq_true, Bool.not_eq_true'] at hselects
  obtain ⟨⟨hdivide, hshift⟩, -⟩ := hselects
  have hnext := hgoes.target
  unfold Control.target at hnext
  rw [hjump] at hnext
  simp only [hdivide, Bool.false_eq_true, if_false, Option.some.injEq] at hnext
  have hcurrent : s.current = Microcode.mem a := by
    unfold Core.current
    rw [haddr]
  have hbusy : s.alu.busy = false := by
    rw [alu_eq, hcurrent]
    exact Machine.busy_eq_false hshift s.machine
  have htarget : s.machine.target (Microcode.mem a) a = b := by
    unfold Machine.target
    rw [hjump]
    simp only [hdivide, Bool.false_and, Bool.false_eq_true, if_false]
    exact hnext
  have hfollow : s.machine.follow [Microcode.mem a] =
      s.machine.advance (Microcode.mem a) := by
    simp only [Microinstruction.waits, Bool.or_eq_false_iff] at hwaits
    simp [Machine.follow, Machine.ready, hwaits.1.1, hwaits.1.2]
  have hlast := h.last haddr hcurrent hwaits hbusy
  have hstep := hlast.step (i := i) rfl hgoes.isInternal hgoes.goes ha
    ⟨fun _ => ⟨hcalm.trapFlagSet, hintr⟩, fun _ => by
      rw [htarget, <- hnext]
      exact hapart⟩
    (by rw [htarget]; exact hgoes.plain) (by rw [htarget]; exact hgoes.moves)
  rw [htarget] at hstep
  rw [hfollow]
  rw [hnext] at hapart
  obtain ⟨hdone, haddr', hm, hidle⟩ := hstep
  exact ⟨hdone, haddr', hm, hidle, hapart⟩

/-- The core executes words of one cycle, one after another. -/
theorem Idle.reaches_path {c : Control} {n : Nat}
    {before : Option Microinstruction} {a b : Nat}
    {us : List Microinstruction} (hpath : c.path n before a = some (us, b))
    (hbrief : us.all brief = true) (h : Idle s) (hcalm : Calm s)
    (haddr : s.addr = a)
    (ha : a ≠ nextInstructionAddress ∧ a ≠ modrmWaitAddress)
    (hnmi : forall k, (inputs k).nmi = false)
    (hintr : forall k, (inputs k).intr = false) :
    Reaches Core.step (fun t => t.doNextInstruction = false ∧ Orderly t)
      (fun t => Idle t ∧ Calm t ∧ t.addr = b ∧
        t.machine = s.machine.follow us) inputs s := by
  induction n generalizing before a us s inputs with
  | zero =>
      cases hpath
      exact Reaches.now ⟨h, hcalm, haddr, rfl⟩
  | succ n ih =>
      obtain ⟨a', us', hgoes, rfl, hrest⟩ := Control.path_succ hpath
      rw [List.all_cons, Bool.and_eq_true] at hbrief
      have hstep (i : Input) (hi : i.intr = false) :=
        h.brief_step haddr hgoes hbrief.1 ha hcalm hi
      obtain ⟨hdone, haddr', hm, hidle, -⟩ := hstep (inputs 0) (hintr 0)
      have horderly : Orderly s := by
        intro i hi _
        obtain ⟨-, hnext, -, -, hapart⟩ := hstep i hi
        refine ⟨fun hstart => ?_, fun hload => ?_, not_rollback hnext
          (apart_of_holds (holdsAddress_of_plain hgoes.plain)) (Or.inr hapart)⟩
        · rw [not_starting hnext hgoes.plain] at hstart
          cases hstart
        · unfold Core.loadNewIp CSIPSync.updateOut csipInput at hload
          rw [hdone] at hload
          cases hload
      have hcalm' : Calm (s.step (inputs 0)) :=
        hcalm.step (hnmi 0) (fun hstart => by
          rw [not_starting haddr' hgoes.plain] at hstart
          cases hstart)
      have hne : a' ≠ nextInstructionAddress ∧ a' ≠ modrmWaitAddress := by
        have hholds := holdsAddress_of_plain hgoes.plain
        simp only [holdsAddress, Bool.and_eq_true, bne_iff_ne] at hholds
        exact hholds.left.left
      refine Reaches.later ⟨hdone, horderly⟩ ?_
      have hreach := ih hrest hbrief.2 hidle hcalm' haddr' hne
        (fun k => hnmi (1 + k)) (fun k => hintr (1 + k))
      rw [hm] at hreach
      exact hreach

end Core
end Rtl
end S80x86
