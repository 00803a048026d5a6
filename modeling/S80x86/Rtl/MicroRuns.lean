import S80x86.Rtl.MicroRefines

/-!
# The core executes microprograms

Every wait ends when the memory goes on answering, so the core reaches the last
cycle of each microinstruction, and with it the end of the microprogram.
-/

open Foundation Clocked

namespace S80x86
namespace Rtl
namespace Core

variable {i : Input} {s : Core}

/-!
## Reaching the last cycle
-/

/-- The core waits in the microinstruction at this address. -/
def Stays (a : Nat) (s : Core) : Prop := s.addr = a ∧ s.stall = true

section

variable {u : Microinstruction} {a : Nat} {inputs : Nat -> Input}

theorem Idle.last (h : Idle s) (haddr : s.addr = a) (hu : s.current = u)
    (hwaits : u.waits = false) (hbusy : s.alu.busy = false) :
    Last u a s.machine s := by
  simp only [Microinstruction.waits, Bool.or_eq_false_iff] at hwaits
  have hdiv := h.divider.not_busy (hu.symm ▸ hwaits.right)
  have hstall : s.stall = false := by
    simp [Core.stall, loadStoreBusy, loadStoreStart, hu, hwaits.left, hdiv.left,
      hbusy, h.fetching, h.secondByte]
  refine ⟨haddr, hstall, Or.inr ⟨h.fetching, h.secondByte, h.complete⟩, h.ack,
    h.divider.state, ?_, h.abort, rfl, rfl, rfl, rfl⟩
  rw [h.divider.error]
  intro he
  cases he

theorem extractLsb'_high_word (x y : BitVec 16) :
    (x ++ y).extractLsb' 16 16 = x :=
  BitVec.extractLsb'_append_eq_left

theorem shift_busy {is8Bit : Bool} {v flags : BitVec 16} {count : BitVec 5}
    {multi : Bool} {r : ALU.Shifted}
    (h : (ALU.shift is8Bit v count flags multi r).busy = true) :
    count ≠ 0#5 ∧
      (ALU.shift is8Bit v count flags multi r).out.extractLsb' 16 16 =
        (count - 1#5).setWidth 16 := by
  have hne : count ≠ 0#5 := by
    intro h0
    subst h0
    cases multi <;> simp [ALU.shift] at h
  refine ⟨hne, ?_⟩
  have hcond : (count != 0#5 || !multi) = true := by
    simp [hne]
  simp only [ALU.shift, hcond, if_true]
  exact extractLsb'_high_word _ _

/-- A busy shifter puts out what is left of the count. -/
theorem busy_counts {m : Machine} (h : (m.alu u).busy = true) :
    m.tmp.extractLsb' 0 5 ≠ 0#5 ∧
      (m.alu u).out.extractLsb' 16 16 =
        (m.tmp.extractLsb' 0 5 - 1#5).setWidth 16 := by
  have hshift : u.isShift = true := by
    rw [<- Bool.not_eq_false]
    intro hf
    rw [Machine.busy_eq_false hf] at h
    cases h
  unfold Machine.alu ALU.run at h ⊢
  simp only [Microinstruction.isShift, Bool.or_eq_true, beq_iff_eq] at hshift
  rcases hshift with (((((hop | hop) | hop) | hop) | hop) | hop) | hop <;>
    simp only [hop] at h ⊢ <;> exact shift_busy h

/-- A cycle in which the shifter is busy. -/
theorem Idle.shift (h : Idle s) (hu : s.current = u)
    (hwaits : u.waits = false) (hload : u.loadIp = false)
    (hbusy : s.alu.busy = true) (hholds : holdsAddress s.addr = true)
    (hop : plainOpcode s.opcode = true) (i : Input) :
    Stays s.addr s ∧ Idle (s.step i) ∧ (s.step i).addr = s.addr ∧
      (s.step i).machine = s.machine.edge u := by
  simp only [Microinstruction.waits, Bool.or_eq_false_iff] at hwaits
  have hdiv := h.divider.not_busy (hu.symm ▸ hwaits.right)
  have hstall : s.stall = true := by
    simp [Core.stall, hbusy]
  have hquiet : Quiet i s := quiet_of_stall hstall hholds hop h.abort
  have hstep := stalled_step hstall hquiet
  have hstart : s.loadStoreStart = false := by
    simp [loadStoreStart, hu, hwaits.left]
  have haccepted : s.accepted i = false := by
    simp [accepted, LoadStore.mAccess, LoadStore.active, loadStoreInput,
      hstart, h.fetching, h.secondByte]
  refine ⟨⟨rfl, hstall⟩, ⟨?_, ?_, ?_, haccepted, ?_, ?_⟩, hstep.left, ?_⟩
  · show (if s.loadStoreStart then true else if s.loadStore.complete then false
      else s.loadStore.fetching) = false
    simp [hstart, h.fetching]
  · show (LoadStore.step (s.loadStoreInput i) s.loadStore).secondByte = false
    simp [LoadStore.step, loadStoreInput, h.ack, hstart, h.secondByte]
  · simp [step, LoadStore.step, loadStoreInput, h.ack]
  · show DividerIdle (s.divider.step s.dividerInputs)
    rw [hdiv.right]
    exact h.divider
  · simp [step, h.abort, hquiet.loadNewIp]
  · have hmem : s.nextMem i = s.mem := by
      simp [nextMem, haccepted]
    have hmdr : LoadStore.nextMdr (s.loadStoreInput i) s.loadStore =
        if u.mdrWrite then s.machine.aluOut u else s.loadStore.mdr := by
      have hout : s.aluOut = s.machine.aluOut u := by
        rw [aluOut_eq, hu]
      unfold LoadStore.nextMdr loadStoreInput
      simp only [hstart, h.ack, hu, hquiet.irqToMdr, hout]
      cases u.mdrWrite <;> simp
    have hip : s.machine.loadedIp u = s.machine.newIp := by
      simp [Machine.loadedIp, hload]
    rw [hstep.right, hdiv.right, hmem, hu, hmdr, hip]
    rfl

theorem Idle.reaches_shifted (h : Idle s) (haddr : s.addr = a)
    (hword : Microcode.mem a = u) (hwaits : u.waits = false)
    (hload : u.isShift = true -> u.loadIp = false)
    (hcounts : (s.machine.alu u).busy = true ->
      u.tmpWrEn = true ∧ u.tmpWrSel = .Q_HIGH)
    (hholds : holdsAddress a = true)
    (hop : plainOpcode s.opcode = true) {n : Nat}
    (hn : (s.tmp.extractLsb' 0 5).toNat ≤ n) :
    Reaches Core.step (Stays a) (Last u a (Machine.shifted u n s.machine))
      inputs s := by
  have hu : forall s' : Core, s'.addr = a -> s'.current = u := by
    intro s' ha
    unfold current
    rw [ha, hword]
  induction n generalizing s inputs with
  | zero =>
      have hzero : s.tmp.extractLsb' 0 5 = 0#5 := by
        apply BitVec.eq_of_toNat_eq
        exact Nat.le_zero.mp hn
      have hbusy : s.alu.busy = false := by
        rw [<- Bool.not_eq_true, alu_eq]
        intro hb
        exact (busy_counts hb).left hzero
      exact Reaches.now (h.last haddr (hu s haddr) hwaits hbusy)
  | succ n ih =>
      unfold Machine.shifted
      have halu : s.alu = s.machine.alu u := by
        rw [alu_eq, hu s haddr]
      cases hbusy : (s.machine.alu u).busy with
      | false =>
          rw [<- halu] at hbusy
          exact Reaches.now (h.last haddr (hu s haddr) hwaits hbusy)
      | true =>
          have hshift : u.isShift = true := by
            rw [<- Bool.not_eq_false]
            intro hf
            rw [Machine.busy_eq_false hf] at hbusy
            cases hbusy
          have hleft := busy_counts hbusy
          have hwrites := hcounts hbusy
          rw [<- halu] at hbusy
          rw [<- haddr] at hholds
          rcases h.shift (hu s haddr) hwaits (hload hshift) hbusy hholds hop
            (inputs 0) with ⟨hstay, hidle, haddr', hmachine⟩
          rw [haddr] at hstay haddr'
          have hop' : plainOpcode (s.step (inputs 0)).opcode = true := by
            have hinsn := congrArg (fun m : Machine => m.insn.opcode) hmachine
            rw [show (s.step (inputs 0)).opcode = s.opcode from hinsn]
            exact hop
          have htmp : (s.step (inputs 0)).tmp =
              (s.tmp.extractLsb' 0 5 - 1#5).setWidth 16 := by
            have htmp' := congrArg Machine.tmp hmachine
            simp only [Machine.edge, TempReg.step, hwrites, if_true] at htmp'
            exact htmp'.trans hleft.right
          refine Reaches.later hstay ?_
          rw [if_pos rfl, <- hmachine]
          apply ih hidle haddr' (fun _ => hwrites) hop'
          have hfalls : forall c : BitVec 5, c ≠ 0#5 ->
              (((c - 1#5).setWidth 16).extractLsb' 0 5).toNat + 1 =
                c.toNat := by
            decide
          have hleft' := hfalls (s.tmp.extractLsb' 0 5) hleft.left
          rw [htmp]
          omega

/-!
### Memory
-/

theorem Transfers.divide {m : Machine} (t : Transfers u a m) :
    u.divide = false := by
  have hmem := t.memory
  rw [<- Bool.not_eq_true]
  intro hd
  have halone := t.steady.alone hd
  rw [halone.left, halone.right] at hmem
  cases hmem

theorem last_memory {m : Machine} (hmem : (u.memRead || u.memWrite) = true)
    {t : BusTransfer.State} (hmar : t.unit.mar = m.mar)
    (hmdr : t.unit.mdr = m.mdr) (hmemory : t.mem = m.mem) :
    ({ m with
        mdr := (transferOf u m).mdr t
        mem := (transferOf u m).mem t } : Machine).waited u = m.last u := by
  unfold Machine.last BusTransfer.mdr BusTransfer.mem transferOf
  simp only [hmar, hmdr, hmemory]
  cases hw : u.memWrite with
  | true =>
      rfl
  | false =>
      have hr : u.memRead = true := by
        simpa [hw] using hmem
      rw [hr]
      rfl

/-- The cycle after the transfer has completed is the last one. -/
theorem Waiting.last {s₀ : Core} (t : Transfers u a s₀.machine)
    (h : Waiting u a s₀.machine s)
    (hdone : (transferOf u s₀.machine).Completed s₀.transfer s.transfer)
    (hscribbled : Scribbled u s₀.machine s) :
    Last u a (s₀.machine.last u) s := by
  have hu := h.current t
  have hc : s.loadStore.complete = true := hdone.complete
  have hdiv := h.divider.not_busy (hu.symm ▸ t.divide)
  have hstall : s.stall = false := by
    have hbusy : s.alu.busy = false := by
      rw [alu_eq, hu]
      exact Machine.busy_eq_false t.steady.notShift _
    simp [Core.stall, loadStoreBusy, hc, hdiv.left, hbusy]
  rcases hscribbled with ⟨c, hc'⟩
  have hmdr : s.loadStore.mdr = (transferOf u s₀.machine).mdr s₀.transfer :=
    hdone.mdr
  have hmem : s.mem = (transferOf u s₀.machine).mem s₀.transfer := hdone.mem
  have hwaited := last_memory (m := s₀.machine) t.memory (t := s₀.transfer) rfl
    rfl rfl
  rw [hmdr, hmem] at hc'
  refine ⟨h.addr, hstall, Or.inl hc, hdone.ack, h.divider.state, ?_, h.abort,
    ?_, ?_, ?_, ?_⟩
  · rw [h.divider.error]
    intro he
    cases he
  · rw [h.opcode, <- hwaited]
    rfl
  · rw [hc', t.steady.advance, hwaited]
  · rw [hc', t.steady.retire, hwaited]
  · rw [hc', t.steady.target, hwaited]

theorem Idle.reaches_transferred (h : Idle s) (haddr : s.addr = a)
    (t : Transfers u a s.machine)
    (hready : Recurs (fun i => i.ready = true) inputs) :
    Reaches Core.step (Stays a) (Last u a (s.machine.last u)) inputs s := by
  have hwait : Waiting u a s.machine s :=
    ⟨haddr, Or.inl rfl, h.divider, h.abort⟩
  have hidle : BusTransfer.Idle s.transfer :=
    ⟨h.fetching, h.secondByte, h.complete, h.ack⟩
  have hready' : Recurs (fun r => r = true) (fun k => (inputs k).ready) :=
    hready
  rcases BusTransfer.completes (t := transferOf u s.machine) hidle hready' with
    ⟨n, hbusy, hdone⟩
  cases n with
  | zero =>
      have hc := hdone.complete
      rw [show (trace _ _ s.transfer 0).unit.complete = false from h.complete]
        at hc
      cases hc
  | succ n =>
      have hbefore := fun k (hk : k < n + 1) =>
        hwait.trace t inputs k (fun j hj => hbusy j (by omega))
      have hstep := fun k (hk : k < n + 1) =>
        (hbefore k hk).left.step t
          (((congrArg (fun x : BusTransfer.State => x.unit.complete)
            (hbefore k hk).right)).trans (hbusy k hk)) (inputs k)
      rcases hwait.trace t inputs (n + 1) hbusy with ⟨hlast, htransfer⟩
      rw [<- htransfer] at hdone
      refine ⟨n + 1, fun k hk => ⟨(hbefore k hk).left.addr,
        (hstep k hk).left⟩, ?_⟩
      exact hlast.last t hdone (hstep n (by omega)).right.right.left

/-!
### Division
-/

/-- What the microinstruction promises when it waits for the divider. -/
structure Divides (u : Microinstruction) (a : Nat) (m : Machine) : Prop where
  word : Microcode.mem a = u
  divide : u.divide = true
  steady : Machine.Steady u
  ra : m.is8Bit u = false -> m.ra = m.gprs.read false (m.raSel u)
  presented : (m.dividerInputs u).Presented
  holds : holdsAddress a = true
  plain : plainOpcode m.insn.opcode = true

/-- The core waits for the divider. -/
structure Dividing (u : Microinstruction) (a : Nat) (m : Machine) (s : Core) :
    Prop where
  addr : s.addr = a
  held : Machine.Held u
    { m with
      quotient := s.divider.quotient
      P := s.divider.P
      divideError := s.divider.error } s.machine
  fetching : s.loadStore.fetching = false
  secondByte : s.loadStore.secondByte = false
  complete : s.loadStore.complete = false
  ack : s.mAck = false
  abort : s.abortCur = false

theorem Divides.isSilent {m : Machine} (d : Divides u a m) :
    u.isSilent = true := by
  have hop := d.divide
  simp only [Microinstruction.divide, Bool.or_eq_true, beq_iff_eq] at hop
  rcases d.steady.writes with hs | hs | hs | hs
  · exact hs
  · rcases hop with hop | hop <;>
      simp [Microinstruction.writesRegister, hop] at hs
  · rcases hop with hop | hop <;> simp [Microinstruction.writesTmp, hop] at hs
  · rcases hop with hop | hop <;> simp [Microinstruction.writesFlags, hop] at hs

theorem Dividing.current {m : Machine} (d : Divides u a m)
    (h : Dividing u a m s) : s.current = u := by
  unfold Core.current
  rw [h.addr, d.word]

/-- The divider sees the same operands in every cycle. -/
theorem Dividing.operands {m : Machine} (d : Divides u a m)
    (h : Dividing u a m s) :
    s.dividerInputs =
      { m.dividerInputs u with start := !s.divider.complete } := by
  have hu := h.current d
  have hs := d.isSilent
  simp only [Microinstruction.isSilent, Bool.and_eq_true, Bool.not_eq_true'] at hs
  have hsame : s.opcode = m.insn.opcode ∧ s.tmp = m.tmp ∧
      s.loadStore.mdr = m.mdr ∧
      (m.is8Bit u = false -> s.registers.rdVal0 = m.ra) := by
    rcases h.held with heq | ⟨c, heq⟩
    · exact ⟨congrArg (fun x => x.insn.opcode) heq, congrArg Machine.tmp heq,
        congrArg Machine.mdr heq, fun _ => congrArg Machine.ra heq⟩
    · refine ⟨congrArg (fun x => x.insn.opcode) heq, ?_,
        congrArg Machine.mdr heq, fun h8 => ?_⟩
      · have htmp := congrArg Machine.tmp heq
        simp only [Machine.scribbled, TempReg.step, hs.left.left.right] at htmp
        exact htmp
      · have hra := congrArg Machine.ra heq
        rw [d.ra h8, <- h8]
        simp only [Machine.scribbled, Machine.scribbledGprs,
          hs.left.left.left] at hra
        exact hra
  have h8 : s.is8Bit = m.is8Bit u := by
    unfold Core.is8Bit Machine.is8Bit
    rw [hu, hsame.left]
  unfold Core.dividerInputs Machine.dividerInputs
  simp only [hu, h8, hsame.right.left, hsame.right.right.left, d.divide,
    Bool.true_and]
  cases hw : m.is8Bit u with
  | true =>
      rfl
  | false =>
      rw [hsame.right.right.right hw]

theorem Dividing.step {m : Machine} (d : Divides u a m)
    (h : Dividing u a m s) (hbusy : s.divider.complete = false) (i : Input) :
    s.stall = true ∧ Dividing u a m (s.step i) ∧
      (exists c, (s.step i).machine =
        ({ m with
          quotient := (s.step i).divider.quotient
          P := (s.step i).divider.P
          divideError := (s.step i).divider.error } : Machine).scribbled u c) ∧
      (s.step i).divider = Divider.drive (m.dividerInputs u) s.divider := by
  have hu := h.current d
  have hoperands := h.operands d
  have hmem := d.steady.alone d.divide
  have hstall : s.stall = true := by
    simp [stall, Divider.busy, hoperands, hbusy]
  have hopcode : s.opcode = m.insn.opcode := by
    rcases h.held with heq | ⟨c, heq⟩
    · exact congrArg (fun x => x.insn.opcode) heq
    · exact congrArg (fun x => x.insn.opcode) heq
  have hquiet : Quiet i s :=
    quiet_of_stall hstall (h.addr.symm ▸ d.holds) (hopcode.symm ▸ d.plain)
      h.abort
  have hstep := stalled_step hstall hquiet
  have hdivider : (s.step i).divider =
      Divider.drive (m.dividerInputs u) s.divider := by
    show s.divider.step s.dividerInputs = _
    rw [hoperands]
    rfl
  have hstart : s.loadStoreStart = false := by
    simp [loadStoreStart, hu, hmem]
  have haccepted : s.accepted i = false := by
    simp [accepted, LoadStore.mAccess, LoadStore.active, loadStoreInput,
      hstart, h.fetching, h.secondByte]
  have hmdr : LoadStore.nextMdr (s.loadStoreInput i) s.loadStore =
      s.loadStore.mdr := by
    simp [LoadStore.nextMdr, loadStoreInput, hstart, h.ack, hu, d.steady.mdr,
      hquiet.irqToMdr]
  have hnextMem : s.nextMem i = s.mem := by
    simp [nextMem, haccepted]
  have hscribbled : (s.step i).machine =
      ({ m with
        quotient := (s.step i).divider.quotient
        P := (s.step i).divider.P
        divideError := (s.step i).divider.error } : Machine).scribbled u
          (s.machine.writes u) := by
    have hedge := h.held.edge d.steady
    have hsame : s.loadStore.mdr = m.mdr ∧ s.mem = m.mem := by
      rcases h.held with heq | ⟨c, heq⟩
      · exact ⟨congrArg Machine.mdr heq, congrArg Machine.mem heq⟩
      · exact ⟨congrArg Machine.mdr heq, congrArg Machine.mem heq⟩
    rw [hstep.right, hmdr, hnextMem, hsame.left, hsame.right, hu]
    calc _ = { ({ s.machine.edge u with newIp := s.machine.loadedIp u } :
                Machine) with
              mdr := m.mdr
              quotient := (s.step i).divider.quotient
              P := (s.step i).divider.P
              divideError := (s.step i).divider.error
              mem := m.mem } := rfl
      _ = { m.scribbled u (s.machine.writes u) with
              mdr := m.mdr
              quotient := (s.step i).divider.quotient
              P := (s.step i).divider.P
              divideError := (s.step i).divider.error
              mem := m.mem } := by
          rw [hedge]
          rw [d.steady.scribbled_with (m := m) _ m.mdr _ _ _ m.mem]
      _ = _ := (d.steady.scribbled_with _ m.mdr _ _ _ m.mem).symm
  refine ⟨hstall, ⟨hstep.left.trans h.addr, Or.inr ⟨_, hscribbled⟩, ?_, ?_, ?_,
    haccepted, ?_⟩, ⟨_, hscribbled⟩, hdivider⟩
  · show (if s.loadStoreStart then true else if s.loadStore.complete then false
      else s.loadStore.fetching) = false
    simp [hstart, h.fetching]
  · show (LoadStore.step (s.loadStoreInput i) s.loadStore).secondByte = false
    simp [LoadStore.step, loadStoreInput, h.ack, hstart, h.secondByte]
  · simp [Core.step, LoadStore.step, loadStoreInput, h.ack]
  · simp [Core.step, h.abort, hquiet.loadNewIp]

theorem Dividing.trace {m : Machine} (d : Divides u a m)
    (h : Dividing u a m s) (inputs : Nat -> Input) (n : Nat)
    (hbusy : forall k, k < n ->
      ((Divider.drive (m.dividerInputs u))^[k] s.divider).complete = false) :
    Dividing u a m (trace Core.step inputs s n) ∧
      (trace Core.step inputs s n).divider =
        (Divider.drive (m.dividerInputs u))^[n] s.divider := by
  induction n with
  | zero =>
      exact ⟨h, rfl⟩
  | succ n ih =>
      rcases ih (fun k hk => hbusy k (by omega)) with ⟨hwait, hdivider⟩
      have hbusy' := hbusy n (by omega)
      rw [<- hdivider] at hbusy'
      have hstep := hwait.step d hbusy' (inputs n)
      refine ⟨hstep.right.left, ?_⟩
      rw [Function.iterate_succ_apply', <- hdivider]
      exact hstep.right.right.right

theorem divided_eq {i : Divider.Inputs} {d : Divider} {n k : Nat}
    (hk : n ≤ k)
    (hbusy : forall m, m < n -> ((Divider.drive i)^[m] d).complete = false)
    (hdone : ((Divider.drive i)^[n] d).complete = true) :
    Machine.divided k i d = (Divider.drive i)^[n] d := by
  induction n generalizing d k with
  | zero =>
      cases k with
      | zero =>
          rfl
      | succ k =>
          unfold Machine.divided
          exact if_pos hdone
  | succ n ih =>
      cases k with
      | zero =>
          exact absurd hk (Nat.not_succ_le_zero n)
      | succ k =>
          have hbusy' : d.complete = false := hbusy 0 (by omega)
          unfold Machine.divided
          rw [hbusy', if_neg (by decide), Function.iterate_succ_apply]
          exact ih (by omega) (fun m hm => hbusy (m + 1) (by omega)) hdone

/-- A divider that has completed is back in its first state. -/
theorem drive_init (i : Divider.Inputs) {d : Divider}
    (h : d.complete = true -> d.state = .INIT) :
    (Divider.drive i d).complete = true -> (Divider.drive i d).state = .INIT := by
  unfold Divider.drive Divider.step Divider.nextState
  cases hreset : i.reset with
  | true =>
      simp
  | false =>
      cases hst : d.state with
      | INIT =>
          cases hc : d.complete <;> simp +contextual
      | WORKING =>
          cases hc : d.complete with
          | true =>
              rw [hst] at h
              cases h hc
          | false =>
              cases hp : d.P.msb <;> simp
      | RESTORE =>
          simp +contextual
      | FIX_SIGN =>
          simp

theorem iterate_drive_init (i : Divider.Inputs) {d : Divider}
    (h : d.complete = true -> d.state = .INIT) (n : Nat) :
    ((Divider.drive i)^[n] d).complete = true ->
      ((Divider.drive i)^[n] d).state = .INIT := by
  induction n with
  | zero =>
      exact h
  | succ n ih =>
      rw [Function.iterate_succ_apply']
      exact drive_init i ih

/-- What the divider held before its start is lost. -/
theorem DividerIdle.drive {d d' : Divider} (h : DividerIdle d)
    (h' : DividerIdle d') {i : Divider.Inputs} (hreset : i.reset = false) :
    Divider.drive i d = Divider.drive i d' := by
  rw [Divider.init_drive hreset h.state h.complete,
    Divider.init_drive hreset h'.state h'.complete, h.error, h'.error]

/-- The cycle after the division has completed is the last one. -/
theorem Dividing.last {m : Machine} (d : Divides u a m)
    (h : Dividing u a m s) (hc : s.divider.complete = true)
    (hstate : s.divider.state = .INIT)
    (hvalue : Machine.divided 20 (m.dividerInputs u) m.idleDivider = s.divider)
    (hscribbled : exists c, s.machine =
      ({ m with
        quotient := s.divider.quotient
        P := s.divider.P
        divideError := s.divider.error } : Machine).scribbled u c) :
    Last u a (m.last u) s := by
  have hu := h.current d
  have hmem := d.steady.alone d.divide
  have hstall : s.stall = false := by
    have hbusy : s.alu.busy = false := by
      rw [alu_eq, hu]
      exact Machine.busy_eq_false d.steady.notShift _
    simp [Core.stall, loadStoreBusy, loadStoreStart, hu, hmem, h.fetching,
      h.secondByte, hbusy, Divider.busy, h.operands d, hc]
  rcases hscribbled with ⟨c, hc'⟩
  have hwaited : ({ m with
      quotient := s.divider.quotient
      P := s.divider.P
      divideError := s.divider.error } : Machine).waited u = m.last u := by
    simp only [Machine.last, hmem, d.divide, hvalue]
    rfl
  have hopcode : s.opcode = (m.last u).insn.opcode := by
    rw [<- hwaited]
    exact congrArg (fun x => x.insn.opcode) hc'
  refine ⟨h.addr, hstall, Or.inr ⟨h.fetching, h.secondByte, h.complete⟩, h.ack,
    hstate, fun _ => d.divide, h.abort, hopcode, ?_, ?_, ?_⟩
  · rw [hc', d.steady.advance, hwaited]
  · rw [hc', d.steady.retire, hwaited]
  · rw [hc', d.steady.target, hwaited]

theorem Idle.reaches_divided (h : Idle s) (haddr : s.addr = a)
    (d : Divides u a s.machine) :
    Reaches Core.step (Stays a) (Last u a (s.machine.last u)) inputs s := by
  have hwait : Dividing u a s.machine s :=
    ⟨haddr, Or.inl rfl, h.fetching, h.secondByte, h.complete, h.ack, h.abort⟩
  rcases Divider.completes rfl d.presented h.divider.state h.divider.complete with
    ⟨n, hn, hdone⟩
  cases n with
  | zero =>
      have hc := hdone.divided.complete
      rw [show ((Divider.drive _)^[0] s.divider).complete = false from
        h.divider.complete] at hc
      cases hc
  | succ n =>
      have hbefore := fun k (hk : k < n + 1) =>
        hwait.trace d inputs k
          (fun j hj => hdone.first j (by omega))
      have hstep := fun k (hk : k < n + 1) =>
        (hbefore k hk).left.step d
          ((congrArg Divider.complete (hbefore k hk).right).trans
            (hdone.first k hk)) (inputs k)
      rcases hwait.trace d inputs (n + 1) hdone.first with
        ⟨hlast, hdivider⟩
      refine ⟨n + 1, fun k hk => ⟨(hbefore k hk).left.addr,
        (hstep k hk).left⟩, ?_⟩
      have hc : (Clocked.trace Core.step inputs s (n + 1)).divider.complete =
          true := by
        rw [hdivider]
        exact hdone.divided.complete
      have hstate : (Clocked.trace Core.step inputs s (n + 1)).divider.state =
          .INIT := by
        rw [hdivider]
        exact iterate_drive_init _ (fun _ => h.divider.state) _
          hdone.divided.complete
      have hidle : DividerIdle s.machine.idleDivider := ⟨rfl, rfl, rfl⟩
      have hdrive := hidle.drive h.divider (i := s.machine.dividerInputs u) rfl
      have hvalue : Machine.divided 20 (s.machine.dividerInputs u)
          s.machine.idleDivider =
            (Clocked.trace Core.step inputs s (n + 1)).divider := by
        rw [hdivider]
        have hiter : forall k, (Divider.drive (s.machine.dividerInputs u))^[k + 1]
            s.machine.idleDivider =
              (Divider.drive (s.machine.dividerInputs u))^[k + 1] s.divider := by
          intro k
          rw [Function.iterate_succ_apply, Function.iterate_succ_apply, hdrive]
        rw [<- hiter]
        apply divided_eq hn
        · intro k hk
          cases k with
          | zero =>
              rfl
          | succ k =>
              rw [hiter]
              exact hdone.first _ hk
        · rw [hiter]
          exact hdone.divided.complete
      exact hlast.last d hc hstate hvalue (hstep n (by omega)).right.right.left

/-!
## Microprograms
-/

theorem Idle.reaches_last (h : Idle s) (haddr : s.addr = a)
    (hword : Microcode.mem a = u) (hint : u.isInternal = true)
    (hstable : s.machine.Stable u) (hholds : holdsAddress a = true)
    (hop : plainOpcode s.opcode = true)
    (hready : Recurs (fun i => i.ready = true) inputs) :
    Reaches Core.step (Stays a) (Last u a (s.machine.last u)) inputs s := by
  simp only [Microinstruction.isInternal, Bool.and_eq_true, Bool.not_eq_true',
    bne_iff_ne] at hint
  rcases hint with ⟨⟨⟨hyield, hjump⟩, hio⟩, hsteady⟩
  cases hwaits : u.waits with
  | true =>
      have hs := Machine.steady hsteady hwaits
      cases hmem : (u.memRead || u.memWrite) with
      | true =>
          exact h.reaches_transferred haddr
            ⟨hword, hmem, hio, hs, hstable.sr hmem, hholds, hop⟩ hready
      | false =>
          have hdiv : u.divide = true := by
            simpa [Microinstruction.waits, hmem] using hwaits
          exact h.reaches_divided haddr
            ⟨hword, hdiv, hs, hstable.ra hdiv, hstable.presented hdiv, hholds,
              hop⟩
  | false =>
      have hlast : s.machine.last u = Machine.shifted u 32 s.machine := by
        simp only [Microinstruction.waits, Bool.or_eq_false_iff] at hwaits
        simp [Machine.last, hwaits]
      have hload : u.isShift = true -> u.loadIp = false := by
        intro hshift
        simpa [Microinstruction.isSteady, hwaits, hshift] using hsteady
      have hcount := (s.tmp.extractLsb' 0 5).isLt
      rw [hlast]
      exact h.reaches_shifted haddr hword hwaits hload hstable.counts hholds hop
        (by omega)

theorem shifted_insn (m : Machine) (n : Nat) :
    (Machine.shifted u n m).insn = m.insn := by
  induction n generalizing m with
  | zero =>
      rfl
  | succ n ih =>
      unfold Machine.shifted
      cases (m.alu u).busy with
      | false =>
          rfl
      | true =>
          exact ih (m.edge u)

theorem last_insn (m : Machine) : (m.last u).insn = m.insn := by
  unfold Machine.last
  cases u.memWrite with
  | true =>
      rfl
  | false =>
      cases u.memRead with
      | true =>
          rfl
      | false =>
          cases u.divide with
          | true =>
              rfl
          | false =>
              exact shifted_insn m 32

theorem holdsAddress_of_plain {n : Nat}
    (h : Machine.plainAddress n = true) : holdsAddress n = true := by
  simp only [Machine.plainAddress, Bool.and_eq_true, decide_eq_true_eq,
    bne_iff_ne] at h
  simp only [holdsAddress, Bool.and_eq_true, bne_iff_ne]
  rcases h with ⟨⟨⟨hgt, hnmi⟩, hirq⟩, hmodrm⟩
  exact ⟨⟨⟨Nat.ne_of_gt hgt, hmodrm⟩, hnmi⟩, hirq⟩

/-- The core ends the instruction, and leaves these registers to the next. -/
def Ends (x : Arch) (s : Core) : Prop :=
  s.doNextInstruction = true ∧ forall i, (s.step i).arch = x

/-- The core executes the microprogram that starts at its address, whenever
the memory answers and whatever interrupts come meanwhile. -/
theorem reaches_ends {m : Machine} {x : Arch} (hrun : Retires a m x)
    (h : Idle s) (haddr : s.addr = a) (hm : s.machine = m)
    (hholds : holdsAddress a = true) (hop : plainOpcode m.insn.opcode = true)
    (hready : Recurs (fun i => i.ready = true) inputs) :
    Reaches Core.step (fun s => s.doNextInstruction = false) (Ends x)
      inputs s := by
  have hstays : forall (a : Nat) (s : Core), Stays a s ->
      s.doNextInstruction = false := by
    intro a s hstay
    simp [doNextInstruction, hstay.right]
  induction hrun generalizing s inputs with
  | last u hword hint hstable hends =>
      subst hm
      have hlast := h.reaches_last haddr hword hint hstable hholds hop hready
      apply (hlast.imp (hstays _)).trans
      intro n hn
      exact Reaches.now ⟨(hn.arch hword hends (inputs 0)).left,
        fun i => (hn.arch hword hends i).right⟩
  | @step a m x u hword hint hstable hgoes hplain hmoves hrest ih =>
      subst hm
      have hlast := h.reaches_last haddr hword hint hstable hholds hop hready
      apply (hlast.imp (hstays _)).trans
      intro n hn
      have hne : forall a : Nat, holdsAddress a = true ->
          a ≠ nextInstructionAddress ∧ a ≠ modrmWaitAddress := by
        intro a ha
        simp only [holdsAddress, Bool.and_eq_true, bne_iff_ne] at ha
        exact ha.left.left
      have hop' : plainOpcode (s.machine.last u).insn.opcode = true := by
        rw [last_insn]
        exact hop
      have hruleless := ruleless_of_plain (by rw [hn.opcode]; exact hop')
        ((s.machine.last u).target u a) (after inputs n 0)
      rcases hn.step hword hint hgoes (hne _ hholds) hruleless hplain hmoves
        with ⟨hdone, haddr', hm', hidle⟩
      refine Reaches.later hdone ?_
      exact ih hidle haddr' hm' (holdsAddress_of_plain hplain) hop'
        ((hready.after n).after 1)

end

end Core
end Rtl
end S80x86
