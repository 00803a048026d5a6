import S80x86.Rtl.BusTransfer
import S80x86.Rtl.MicroWaits

/-!
# The core executes microinstructions

A cycle of the core, seen through what a microprogram can see of it, is an edge
of the machine; the waits for memory, divider and shifter end, and with them
the core has done what one microinstruction does.
-/

open Foundation Clocked

namespace S80x86
namespace Rtl

/-!
## Read ports
-/

/-- A read port latches what the register file holds after the edge. -/
theorem RegisterFile.port_eq (i : RegisterFile.Input) (g : Gprs)
    (sel : BitVec 3) :
    RegisterFile.port i g sel =
      (if i.wrEn then g.write i.is8Bit i.wrSel i.wrVal else g).read i.is8Bit
        sel := by
  unfold RegisterFile.port
  cases i.wrEn with
  | false =>
      simp
  | true =>
      simp [Gprs.read_write]

theorem SegmentRegisterFile.rdVal_step (i : SegmentRegisterFile.Input)
    (s : SegmentRegisterFile.State) :
    (SegmentRegisterFile.step i s).rdVal =
      (SegmentRegisterFile.step i s).registers i.rdSel := by
  unfold SegmentRegisterFile.step SegmentRegisterFile.set
  cases i.wrEn with
  | false =>
      simp
  | true =>
      by_cases h : i.rdSel = i.wrSel
      · simp [h]
      · have h' : ¬i.wrSel = i.rdSel := fun heq => h heq.symm
        simp [h, h']

namespace Core

/-- What a microprogram sees of the core. -/
def machine (s : Core) : Machine :=
  { gprs := s.registers.gprs
    ra := s.registers.rdVal0
    rb := s.registers.rdVal1
    segments := s.segments.registers
    sr := s.segments.rdVal
    flags := s.flags
    mar := s.loadStore.mar
    mdr := s.loadStore.mdr
    tmp := s.tmp
    newIp := if s.csip.ipUpdated then some s.csip.ip else none
    count := s.count
    quotient := s.divider.quotient
    P := s.divider.P
    divideError := s.divider.error
    mem := s.mem
    insn := s.curInstruction
    ip := s.ip.curVal
    modrm := s.modrm
    override :=
      if s.override.overrideActive then some s.override.override else none }

/-- What the next instruction finds. -/
def arch (s : Core) : Arch :=
  { gprs := s.registers.gprs
    segments := s.segments.registers
    flags := s.flags
    ip := s.ip.instructionStartAddr
    mem := s.mem }

variable (i : Input) (s : Core)

theorem alu_eq : s.alu = s.machine.alu s.current := rfl

theorem aluOut_eq : s.aluOut = s.machine.aluOut s.current := rfl

/-- A cycle that ends neither the instruction nor begins another, in which no
interrupt is taken. -/
structure Quiet : Prop where
  starting : s.startingInstruction i = false
  ends : s.doNextInstruction = false
  interrupt : s.startInterrupt i = false
  escape : s.doEscapeFault i = false
  modrm : s.modrmStart i = false
  abort : s.abortCur = false

variable {i s}

theorem Quiet.loadNewIp (h : Quiet i s) : s.loadNewIp = false := by
  unfold Core.loadNewIp CSIPSync.updateOut csipInput
  simp [h.ends]

theorem Quiet.fifoReset (h : Quiet i s) : s.fifoReset i = false := by
  unfold Core.fifoReset
  simp [h.loadNewIp, h.abort]

theorem Quiet.irqToMdr (h : Quiet i s) : s.irqToMdr i = false := by
  have hstart := h.interrupt
  unfold startInterrupt at hstart
  unfold Core.irqToMdr
  exact (Bool.or_eq_false_iff.mp hstart).right

theorem Quiet.srRdSel (h : Quiet i s) :
    SegmentOverride.srRdSel (s.overrideInput i) s.override =
      s.machine.srSel s.current := by
  unfold SegmentOverride.srRdSel overrideInput Machine.srSel machine
  cases hactive : s.override.overrideActive <;> simp [h.starting]

theorem Quiet.override (h : Quiet i s) :
    (s.step i).override = s.override := by
  unfold step SegmentOverride.step overrideInput
  simp [h.starting, h.ends, h.fifoReset]

theorem Quiet.ip (h : Quiet i s) : (s.step i).ip = s.ip := by
  unfold step IP.step ipInput
  simp [h.starting, h.ends, h.interrupt, h.escape, h.loadNewIp]

theorem Quiet.modrm_eq (h : Quiet i s) : (s.step i).modrm = s.modrm := by
  unfold step ModRMDecode.step modrmInput
  simp [h.modrm, h.ends, h.interrupt, h.fifoReset]

theorem Quiet.newIp (h : Quiet i s) :
    (s.step i).machine.newIp = s.machine.loadedIp s.current := by
  have hcsip : (s.step i).csip =
      { ip := if s.current.loadIp && !s.csip.ipUpdated then s.aluOut
          else s.csip.ip
        ipUpdated := s.csip.ipUpdated || s.current.loadIp
        csUpdated := s.csip.csUpdated || s.csipInput.csUpdate } := by
    unfold step CSIPSync.step csipInput
    simp [h.ends]
  unfold Machine.loadedIp
  rw [<- aluOut_eq]
  show (if (s.step i).csip.ipUpdated then some (s.step i).csip.ip else none) =
    Option.or (if s.csip.ipUpdated then some s.csip.ip else none) _
  rw [hcsip]
  cases s.csip.ipUpdated <;> cases s.current.loadIp <;> rfl

theorem regWrVal_eq : s.registersInput.wrVal = s.machine.regWrVal s.current := by
  unfold registersInput Machine.regWrVal
  cases s.current.regWrSource <;> rfl

theorem gprs_step : (s.step i).registers.gprs = s.machine.nextGprs s.current := by
  unfold step RegisterFile.step Machine.nextGprs
  rw [<- regWrVal_eq]
  rfl

theorem rdVal0_step : (s.step i).registers.rdVal0 =
    (s.machine.nextGprs s.current).read s.is8Bit
      (s.machine.raSel s.current) := by
  rw [<- gprs_step (i := i)]
  exact RegisterFile.port_eq _ _ _

theorem rdVal1_step : (s.step i).registers.rdVal1 =
    (s.machine.nextGprs s.current).read s.is8Bit
      (s.machine.rbSel s.current) := by
  rw [<- gprs_step (i := i)]
  exact RegisterFile.port_eq _ _ _

theorem segments_step : (s.step i).segments.registers =
    s.machine.nextSegments s.current := rfl

theorem Quiet.sr (h : Quiet i s) : (s.step i).segments.rdVal =
    s.machine.nextSegments s.current (s.machine.srSel s.current) := by
  rw [<- h.srRdSel, <- segments_step (i := i)]
  exact SegmentRegisterFile.rdVal_step _ _

/-- What one quiet cycle does to the machine. -/
theorem Quiet.machine_step (h : Quiet i s) :
    (s.step i).machine =
      { s.machine.edge s.current with
        mar := (LoadStore.step (s.loadStoreInput i) s.loadStore).mar
        mdr := LoadStore.nextMdr (s.loadStoreInput i) s.loadStore
        newIp := s.machine.loadedIp s.current
        count := LoopCounter.step false
          (!s.stall && s.current.jumpType == .LOOP_DONE) 0#5 s.count
        quotient := (s.divider.step s.dividerInputs).quotient
        P := (s.divider.step s.dividerInputs).P
        divideError := (s.divider.step s.dividerInputs).error
        mem := s.nextMem i } := by
  have hcount : (s.step i).count = LoopCounter.step false
      (!s.stall && s.current.jumpType == .LOOP_DONE) 0#5 s.count := by
    unfold step LoopCounter.step
    simp [h.starting]
  have hinsn : (s.step i).curInstruction = s.curInstruction := by
    unfold step
    simp [h.starting]
  have hnew := h.newIp
  unfold machine at hnew
  dsimp only at hnew
  unfold machine Machine.edge
  rw [hnew, gprs_step, rdVal0_step, rdVal1_step, h.sr, hcount, hinsn, h.ip,
    h.modrm_eq, h.override]
  rfl

/-!
## Cycles in which the microinstruction waits
-/

/-- An address at which the sequencer does nothing of its own in a stall. -/
def holdsAddress (a : Nat) : Bool :=
  a != nextInstructionAddress && a != modrmWaitAddress && a != nmiAddress &&
    a != irqAddress

/-- The instructions for which the sequencer has no rule of its own. -/
def plainOpcode (opcode : BitVec 8) : Bool :=
  opcode != 0xf4#8 && opcode.extractLsb' 3 5 != 0b11011#5

theorem quiet_of_stall (hstall : s.stall = true)
    (haddr : holdsAddress s.addr = true) (hop : plainOpcode s.opcode = true)
    (habort : s.abortCur = false) : Quiet i s := by
  have hnext : s.nextAddr i = s.addr := by
    simp [nextAddr, hstall]
  simp only [holdsAddress, Bool.and_eq_true, bne_iff_ne] at haddr
  simp only [plainOpcode, Bool.and_eq_true, bne_iff_ne] at hop
  rcases haddr with ⟨⟨⟨h1, h2⟩, h3⟩, h4⟩
  refine ⟨?_, ?_, ?_, ?_, ?_, habort⟩
  · simp [startingInstruction, hstall]
  · simp [doNextInstruction, hstall]
  · simp [startInterrupt, hnext, h3, h4]
  · simp [doEscapeFault, hop.right]
  · simp [modrmStart, h1, h2]

/-- What one stalled cycle does to the machine. -/
theorem stalled_step (hstall : s.stall = true) (h : Quiet i s) :
    (s.step i).addr = s.addr ∧
    (s.step i).machine =
      { s.machine.edge s.current with
        mdr := LoadStore.nextMdr (s.loadStoreInput i) s.loadStore
        newIp := s.machine.loadedIp s.current
        quotient := (s.divider.step s.dividerInputs).quotient
        P := (s.divider.step s.dividerInputs).P
        divideError := (s.divider.step s.dividerInputs).error
        mem := s.nextMem i } := by
  have hnext : s.nextAddr i = s.addr := by
    simp [nextAddr, hstall]
  refine ⟨hnext, ?_⟩
  have hmar : (LoadStore.step (s.loadStoreInput i) s.loadStore).mar =
      s.loadStore.mar := by
    simp [LoadStore.step, loadStoreInput, hnext]
  have hcount : LoopCounter.step false
      (!s.stall && s.current.jumpType == .LOOP_DONE) 0#5 s.count = s.count := by
    simp [LoopCounter.step, hstall]
  rw [h.machine_step, hmar, hcount]
  rfl

/-- The divider waits for a start. -/
structure DividerIdle (d : Divider) : Prop where
  state : d.state = .INIT
  complete : d.complete = false
  error : d.error = false

theorem DividerIdle.step {d : Divider} (h : DividerIdle d)
    {inputs : Divider.Inputs} (hreset : inputs.reset = false)
    (hstart : inputs.start = false) : d.step inputs = d := by
  rcases d with ⟨state, P, idx, quotient, error, complete⟩
  rcases h with ⟨hst, hc, he⟩
  dsimp only at hst hc he
  subst hst hc he
  simp [Divider.step, Divider.nextState, hreset, hstart]

theorem DividerIdle.not_busy (h : DividerIdle s.divider)
    (hdiv : s.current.divide = false) :
    s.divider.busy s.dividerInputs = false ∧
      s.divider.step s.dividerInputs = s.divider := by
  have hstart : s.dividerInputs.start = false := by
    simp [dividerInputs, hdiv]
  refine ⟨?_, h.step rfl hstart⟩
  simp [Divider.busy, hstart, h.state]

/-- The transfer that the load and store unit is busy with. -/
def transfer (s : Core) : BusTransfer.State :=
  { unit := s.loadStore, mAck := s.mAck, mDataIn := s.mDataIn, mem := s.mem }

def busTransfer (s : Core) : BusTransfer :=
  { segment := s.segments.rdVal
    is8Bit := s.is8Bit
    wrEn := s.current.memWrite }

/-- A cycle of a microinstruction that waits for the memory is a cycle of the
transfer. -/
theorem transfer_step (hmem : (s.current.memRead || s.current.memWrite) = true)
    (hio : s.current.io = false) (hmdr : s.current.mdrWrite = false)
    (hbusy : s.loadStore.complete = false) (hnext : s.nextAddr i = s.addr)
    (hirq : s.irqToMdr i = false) :
    (s.step i).transfer = s.busTransfer.step i.ready s.transfer := by
  have hstart : s.loadStoreStart = true := by
    simp [loadStoreStart, hmem, hbusy]
  have hunit : LoadStore.step (s.loadStoreInput i) s.loadStore =
      LoadStore.step (s.busTransfer.input s.transfer) s.loadStore := by
    simp [LoadStore.step, LoadStore.nextMdr, loadStoreInput, BusTransfer.input,
      busTransfer, transfer, hnext, hmdr, hirq, hstart, hbusy]
  have haccess : LoadStore.mAccess (s.loadStoreInput i) s.loadStore =
      LoadStore.mAccess (s.busTransfer.input s.transfer) s.loadStore := by
    simp [LoadStore.mAccess, LoadStore.active, loadStoreInput,
      BusTransfer.input, transfer, hstart, hbusy]
  have haddr : LoadStore.mAddr (s.loadStoreInput i) s.loadStore =
      LoadStore.mAddr (s.busTransfer.input s.transfer) s.loadStore := by
    simp [LoadStore.mAddr, loadStoreInput, BusTransfer.input, busTransfer, hio]
  show BusTransfer.State.mk _ _ _ _ = BusTransfer.State.mk _ _ _ _
  unfold step nextMem nextMDataIn accepted BusTransfer.accepted
  simp only [hunit, haccess, haddr, hio, Bool.not_false, Bool.and_true]
  rfl

/-- What the microinstruction promises when it waits for the memory. -/
structure Transfers (u : Microinstruction) (a : Nat) (m : Machine) : Prop where
  word : Microcode.mem a = u
  memory : (u.memRead || u.memWrite) = true
  io : u.io = false
  steady : Machine.Steady u
  sr : m.sr = m.segments (m.srSel u)
  holds : holdsAddress a = true
  plain : plainOpcode m.insn.opcode = true

def transferOf (u : Microinstruction) (m : Machine) : BusTransfer :=
  { segment := m.sr, is8Bit := m.is8Bit u, wrEn := u.memWrite }

/-- The core executes `u` for the machine `m`; the memory may have written and
answered already. -/
structure Waiting (u : Microinstruction) (a : Nat) (m : Machine) (s : Core) :
    Prop where
  addr : s.addr = a
  held : Machine.Held u { m with mdr := s.loadStore.mdr, mem := s.mem }
    s.machine
  divider : DividerIdle s.divider
  abort : s.abortCur = false

section Waiting

variable {u : Microinstruction} {a : Nat} {m : Machine}

theorem Waiting.opcode (h : Waiting u a m s) : s.opcode = m.insn.opcode := by
  rcases h.held with heq | ⟨c, heq⟩
  · exact congrArg (fun x => x.insn.opcode) heq
  · exact congrArg (fun x => x.insn.opcode) heq

theorem Waiting.current (t : Transfers u a m) (h : Waiting u a m s) :
    s.current = u := by
  unfold Core.current
  rw [h.addr, t.word]

theorem Waiting.busTransfer (t : Transfers u a m) (h : Waiting u a m s) :
    s.busTransfer = transferOf u m := by
  have hu := h.current t
  have h8 : s.is8Bit = m.is8Bit u := by
    unfold Core.is8Bit Machine.is8Bit
    rw [hu, h.opcode]
  have hseg : s.segments.rdVal = m.sr := by
    rcases h.held with heq | ⟨c, heq⟩
    · exact congrArg Machine.sr heq
    · exact (congrArg Machine.sr heq).trans t.sr.symm
  unfold Core.busTransfer
  rw [h8, hseg, hu]
  rfl

/-- The machine some cycles into the transfer. -/
def Scribbled (u : Microinstruction) (m : Machine) (s : Core) : Prop :=
  exists c, s.machine =
    ({ m with mdr := s.loadStore.mdr, mem := s.mem } : Machine).scribbled u c

theorem Waiting.step (t : Transfers u a m) (h : Waiting u a m s)
    (hbusy : s.loadStore.complete = false) (i : Input) :
    s.stall = true ∧ Waiting u a m (s.step i) ∧ Scribbled u m (s.step i) ∧
      (s.step i).transfer = (transferOf u m).step i.ready s.transfer := by
  have hu := h.current t
  have hmem := t.memory
  have hsteady := t.steady
  have hdiv : u.divide = false := by
    rw [<- Bool.not_eq_true]
    intro hd
    have halone := hsteady.alone hd
    rw [halone.left, halone.right] at hmem
    cases hmem
  have hidle := h.divider.not_busy (hu.symm ▸ hdiv)
  have hstall : s.stall = true := by
    rw [<- hu] at hmem
    simp [stall, loadStoreBusy, loadStoreStart, hmem, hbusy]
  have hquiet : Quiet i s :=
    quiet_of_stall hstall (h.addr.symm ▸ t.holds)
      (h.opcode.symm ▸ t.plain) h.abort
  have hnext : s.nextAddr i = s.addr := by
    simp [nextAddr, hstall]
  have hstep := stalled_step hstall hquiet
  have hscribbled : Scribbled u m (s.step i) := by
    refine ⟨s.machine.writes u, ?_⟩
    have hedge := h.held.edge hsteady
    have hq : s.divider.quotient = m.quotient ∧ s.divider.P = m.P ∧
        s.divider.error = m.divideError := by
      rcases h.held with heq | ⟨c, heq⟩
      · exact ⟨congrArg Machine.quotient heq, congrArg Machine.P heq,
          congrArg Machine.divideError heq⟩
      · exact ⟨congrArg Machine.quotient heq, congrArg Machine.P heq,
          congrArg Machine.divideError heq⟩
    rw [hstep.right, hidle.right, hq.left, hq.right.left, hq.right.right, hu]
    calc _ = { ({ s.machine.edge u with newIp := s.machine.loadedIp u } :
                Machine) with
              mdr := (s.step i).loadStore.mdr
              quotient := m.quotient
              P := m.P
              divideError := m.divideError
              mem := (s.step i).mem } := rfl
      _ = { m.scribbled u (s.machine.writes u) with
              mdr := (s.step i).loadStore.mdr
              quotient := m.quotient
              P := m.P
              divideError := m.divideError
              mem := (s.step i).mem } := by
          rw [hedge]
          rw [hsteady.scribbled_with (m := m) _ _ m.quotient m.P m.divideError]
      _ = _ := (hsteady.scribbled_with _ _ _ _ _ _).symm
  refine ⟨hstall, ⟨hstep.left.trans h.addr, Or.inr hscribbled, ?_, ?_⟩,
    hscribbled, ?_⟩
  · show DividerIdle (s.divider.step s.dividerInputs)
    rw [hidle.right]
    exact h.divider
  · show (if s.abortCur && i.prefetchAck then false
      else s.abortCur || (i.prefetchAccess && s.loadNewIp)) = false
    simp [h.abort, hquiet.loadNewIp]
  · rw [<- h.busTransfer t]
    subst hu
    exact transfer_step hmem t.io hsteady.mdr hbusy hnext hquiet.irqToMdr

theorem Waiting.trace (t : Transfers u a m) (h : Waiting u a m s)
    (inputs : Nat -> Input) (n : Nat)
    (hbusy : forall k, k < n ->
      (trace (transferOf u m).step (fun k => (inputs k).ready)
        s.transfer k).unit.complete = false) :
    Waiting u a m (trace Core.step inputs s n) ∧
      (trace Core.step inputs s n).transfer =
        trace (transferOf u m).step (fun k => (inputs k).ready)
          s.transfer n := by
  induction n with
  | zero =>
      exact ⟨h, rfl⟩
  | succ n ih =>
      rcases ih (fun k hk => hbusy k (by omega)) with ⟨hwait, htransfer⟩
      have hbusy' := hbusy n (by omega)
      rw [<- htransfer] at hbusy'
      have hstep := hwait.step t hbusy' (inputs n)
      refine ⟨hstep.right.left, ?_⟩
      rw [htransfer] at hstep
      exact hstep.right.right.right

end Waiting

/-!
## The last cycle
-/

/-- No unit is at work. -/
structure Idle (s : Core) : Prop where
  fetching : s.loadStore.fetching = false
  secondByte : s.loadStore.secondByte = false
  complete : s.loadStore.complete = false
  ack : s.mAck = false
  divider : DividerIdle s.divider
  abort : s.abortCur = false

/-- The core ends `u`, and the machine does what `y` does. -/
structure Last (u : Microinstruction) (a : Nat) (y : Machine) (s : Core) :
    Prop where
  addr : s.addr = a
  stall : s.stall = false
  unit : s.loadStore.complete = true ∨
    (s.loadStore.fetching = false ∧ s.loadStore.secondByte = false ∧
      s.loadStore.complete = false)
  ack : s.mAck = false
  divider : s.divider.state = .INIT
  error : s.divider.error = true -> u.divide = true
  abort : s.abortCur = false
  opcode : s.opcode = y.insn.opcode
  advance : s.machine.advance u = y.advance u
  retire : s.machine.retire u = y.retire u
  target : s.machine.target u a = y.target u a

theorem Last.start {u : Microinstruction} {a : Nat} {y : Machine}
    (h : Last u a y s) : s.loadStoreStart = false := by
  have hstall := h.stall
  simp only [Core.stall, Bool.or_eq_false_iff] at hstall
  have hbusy := hstall.left.left
  rcases h.unit with hc | hc
  · simp [loadStoreStart, hc]
  · rw [loadStoreBusy, hc.right.right] at hbusy
    simp only [Bool.not_false, Bool.and_true, Bool.or_eq_false_iff] at hbusy
    exact hbusy.left.left

theorem Last.dividerStart {u : Microinstruction} {a : Nat} {y : Machine}
    (h : Last u a y s) : s.dividerInputs.start = false := by
  have hstall := h.stall
  simp only [Core.stall, Bool.or_eq_false_iff, Divider.busy] at hstall
  exact hstall.left.right.left

theorem Last.accepted {u : Microinstruction} {a : Nat} {y : Machine}
    (h : Last u a y s) (i : Input) : s.accepted i = false := by
  have hstart := h.start
  rcases h.unit with hc | hc <;>
    simp [Core.accepted, LoadStore.mAccess, LoadStore.active, loadStoreInput,
      hstart, hc]

/-- After the last cycle the units are idle. -/
theorem Last.idle {u : Microinstruction} {a : Nat} {y : Machine}
    (h : Last u a y s) (hip : s.loadNewIp = false) (i : Input) :
    Idle (s.step i) := by
  have hstart := h.start
  have hdiv := h.dividerStart
  refine ⟨?_, ?_, ?_, ?_, ⟨?_, ?_, ?_⟩, ?_⟩
  · show (if s.loadStoreStart then true else if s.loadStore.complete then false
      else s.loadStore.fetching) = false
    rcases h.unit with hc | hc <;> simp [hstart, hc]
  · show (LoadStore.step (s.loadStoreInput i) s.loadStore).secondByte = false
    rcases h.unit with hc | hc <;>
      simp [LoadStore.step, loadStoreInput, h.ack, hstart, hc]
  · simp [step, LoadStore.step, loadStoreInput, h.ack]
  · exact h.accepted i
  · simp [step, Divider.step, Divider.nextState, h.divider, hdiv]
  · simp [step, Divider.step, h.divider, hdiv]
    simp [dividerInputs]
  · simp [step, Divider.step, h.divider, hdiv]
    simp [dividerInputs]
  · simp [step, h.abort, hip]

/-- Where a word with a condition goes. -/
theorem jumpTarget_eq (hjump : s.current.jumpType ≠ .OPCODE)
    (hcond : s.current.jumpType ≠ .UNCONDITIONAL) (i : Input) :
    s.jumpTarget i = s.machine.target s.current s.addr := by
  unfold jumpTarget Machine.target
  dsimp only
  revert hjump hcond
  cases s.current.jumpType with
  | OPCODE =>
      exact fun hjump _ => absurd rfl hjump
  | UNCONDITIONAL =>
      exact fun _ hcond => absurd rfl hcond
  | _ =>
      exact fun _ _ => rfl

/-- The sequencer has no rule of its own for this cycle, which leads to an
address. -/
structure Ruleless (next : Nat) (i : Input) (s : Core) : Prop where
  halted : s.isHlt = true -> s.trapFlagSet = false ∧ i.intr = false
  escape : s.opcode.extractLsb' 3 5 = 0b11011#5 -> next ≠ doIntAddress

theorem ruleless_of_plain (hop : plainOpcode s.opcode = true) (next : Nat)
    (i : Input) : Ruleless next i s := by
  simp only [plainOpcode, Bool.and_eq_true, bne_iff_ne] at hop
  refine ⟨fun hhlt => ?_, fun hescape => absurd hescape hop.2⟩
  exact absurd (eq_of_beq hhlt) hop.1

/-- The sequencer goes where the machine goes. -/
theorem Last.nextAddr {u : Microinstruction} {a : Nat} {y : Machine}
    (h : Last u a y s) (hword : Microcode.mem a = u)
    (hint : u.isInternal = true) (hends : u.nextInstruction = false)
    (ha : a ≠ nextInstructionAddress)
    (hruleless : Ruleless (y.target u a) i s) :
    s.nextAddr i = y.target u a := by
  have hu : s.current = u := by
    unfold current
    rw [h.addr, hword]
  have hhalted : (s.isHlt && s.trapFlagSet) = false ∧
      (s.isHlt && i.intr) = false := by
    cases hhlt : s.isHlt with
    | false =>
        exact ⟨rfl, rfl⟩
    | true =>
        exact hruleless.halted hhlt
  simp only [Microinstruction.isInternal, Bool.and_eq_true, Bool.not_eq_true',
    bne_iff_ne] at hint
  rcases hint with ⟨⟨⟨hyield, hjump⟩, hio⟩, hsteady⟩
  have haddr : (s.addr == nextInstructionAddress) = false := by
    simp [h.addr, ha]
  rw [<- h.target]
  unfold Core.nextAddr
  simp only [hu, h.stall, hyield, haddr, hends, hhalted.1, hhalted.2,
    Bool.false_and, Bool.false_or, Bool.false_eq_true, if_false]
  by_cases hcond : u.jumpType = .UNCONDITIONAL
  · have herror : (u.divide && s.divider.error) = s.divider.error := by
      cases he : s.divider.error with
      | false =>
          simp
      | true =>
          simp [h.error he]
    simp only [hcond, bne_self_eq_false, Bool.false_eq_true, if_false,
      Machine.target]
    show _ = if u.divide && s.divider.error then _ else _
    rw [herror]
  · have hne : (u.jumpType != .UNCONDITIONAL) = true := by
      simp [hcond]
    rw [hne, if_pos rfl, jumpTarget_eq (by rwa [hu]) (by rwa [hu]) i, hu,
      h.addr]

/-- The last cycle of a microinstruction that another one follows. -/
theorem Last.step {u : Microinstruction} {a : Nat} {y : Machine}
    (h : Last u a y s) (hword : Microcode.mem a = u)
    (hint : u.isInternal = true) (hends : u.nextInstruction = false)
    (ha : a ≠ nextInstructionAddress ∧ a ≠ modrmWaitAddress)
    (hruleless : Ruleless (y.target u a) i s)
    (hplain : Machine.plainAddress (y.target u a) = true)
    (hmoves : y.target u a ≠ a) :
    s.doNextInstruction = false ∧ (s.step i).addr = y.target u a ∧
      (s.step i).machine = y.advance u ∧ Idle (s.step i) := by
  have hu : s.current = u := by
    unfold current
    rw [h.addr, hword]
  have hnext := h.nextAddr hword hint hends ha.left hruleless
  simp only [Machine.plainAddress, Bool.and_eq_true, decide_eq_true_eq,
    bne_iff_ne] at hplain
  rw [<- hnext] at hplain
  rcases hplain with ⟨⟨⟨hgt, hnmi⟩, hirq⟩, hmodrm⟩
  have hdone : s.doNextInstruction = false := by
    simp [doNextInstruction, hu, hends]
  have hquiet : Quiet i s := by
    refine ⟨?_, hdone, ?_, ?_, ?_, h.abort⟩
    · have hlt := i.nextInstructionValue.opcode.isLt
      have hne : s.nextAddr i ≠ i.nextInstructionValue.opcode.toNat := by
        unfold nextInstructionAddress at hgt
        omega
      simp [startingInstruction, hne]
    · simp [startInterrupt, hnmi, hirq]
    · rw [<- Bool.not_eq_true]
      intro hfault
      simp only [doEscapeFault, Bool.and_eq_true, beq_iff_eq] at hfault
      exact hruleless.escape hfault.1 (hnext.symm.trans hfault.2)
    · simp [modrmStart, h.addr, ha]
  refine ⟨hdone, hnext, ?_, h.idle hquiet.loadNewIp i⟩
  have hstart := h.start
  have hne : (s.addr != s.nextAddr i) = true := by
    rw [hnext, h.addr, bne_iff_ne]
    exact hmoves.symm
  have hdiv : (s.divider.step s.dividerInputs).quotient = s.divider.quotient ∧
      (s.divider.step s.dividerInputs).P = s.divider.P := by
    have hreset : s.dividerInputs.reset = false := rfl
    simp [Divider.step, h.divider, h.dividerStart, hreset]
  have herror : (s.divider.step s.dividerInputs).error = false :=
    (h.idle hquiet.loadNewIp i).divider.error
  have hmem : s.nextMem i = s.mem := by
    simp [nextMem, h.accepted i]
  have hmdr : LoadStore.nextMdr (s.loadStoreInput i) s.loadStore =
      if u.mdrWrite then s.machine.aluOut u else s.loadStore.mdr := by
    have hout : s.aluOut = s.machine.aluOut u := by
      rw [aluOut_eq, hu]
    unfold LoadStore.nextMdr loadStoreInput
    simp only [hstart, h.ack, hu, hquiet.irqToMdr, hout]
    cases u.mdrWrite <;> simp
  have hmar : (LoadStore.step (s.loadStoreInput i) s.loadStore).mar =
      (s.machine.advance u).mar := by
    unfold LoadStore.step loadStoreInput Machine.advance
    simp only [hne, hu, Bool.and_true]
    rw [aluOut_eq, hu]
    rfl
  have hcount : (!s.stall && u.jumpType == .LOOP_DONE) =
      (u.jumpType == .LOOP_DONE) := by
    simp [h.stall]
  rw [hquiet.machine_step, <- h.advance, hu, hdiv.left, hdiv.right, herror,
    hmem, hmdr, hmar, hcount]
  rfl

/-- The last cycle of the instruction. -/
theorem Last.arch {u : Microinstruction} {a : Nat} {y : Machine}
    (h : Last u a y s) (hword : Microcode.mem a = u)
    (hends : u.nextInstruction = true) (i : Input) :
    s.doNextInstruction = true ∧ (s.step i).arch = y.retire u := by
  have hu : s.current = u := by
    unfold current
    rw [h.addr, hword]
  have hdone : s.doNextInstruction = true := by
    simp [doNextInstruction, hu, hends, h.stall]
  refine ⟨hdone, ?_⟩
  have hmem : s.nextMem i = s.mem := by
    simp [nextMem, h.accepted i]
  have hip : (s.step i).ip.instructionStartAddr =
      (s.machine.loadedIp u).getD s.ip.curVal := by
    have hnew : (if s.loadNewIp then s.newIp else s.ip.curVal) =
        (s.machine.loadedIp u).getD s.ip.curVal := by
      have hout : s.aluOut = s.machine.aluOut u := by
        rw [aluOut_eq, hu]
      unfold Machine.loadedIp loadNewIp newIp CSIPSync.updateOut CSIPSync.ipOut
        csipInput machine
      simp only [hdone, hu]
      cases hupd : s.csip.ipUpdated with
      | true =>
          simp
      | false =>
          cases hload : u.loadIp with
          | true =>
              simp [hout]
              rfl
          | false =>
              simp
    simp only [Core.step, IP.step, ipInput, hdone, Bool.or_true, if_true]
    exact hnew
  rw [<- h.retire]
  show Arch.mk _ _ _ _ _ = _
  rw [hip, gprs_step, hu]
  show Arch.mk _ _ _ _ (s.nextMem i) = _
  rw [hmem, segments_step, hu]
  show Arch.mk _ _ (Flags.step s.current.updateFlags s.alu.flagsOut s.flags) _
    _ = _
  rw [alu_eq, hu]
  rfl

end Core
end Rtl
end S80x86
