import S80x86.Sim.FootprintCases

/-!
# Operations

What makes the emulator access memory: the parts of a step and the host.  Every
operation touches the places that the state before it tells.
-/

namespace S80x86
namespace Sim

open Foundation.Effect

variable {W : Type}

/-- A part of a step, or an access of the host. -/
inductive Operation where
  | insn
  | reject
  | trap
  | nmi
  | irq
  | host (h : HostAccess)
  | hasTrapped

namespace Operation

def run : Operation -> EmuM W Unit
  | insn => runInsn
  | reject => rejectLong
  | trap => singleStep
  | nmi => do
      clearNmi
      interruptHere Vector.NMI
  | irq => do
      let irqNum ← getPendingIrq
      assert (irqNum != 0#8)
      clearIrq
      ackInt irqNum
      interruptHere (irqNum.toNat * 4)
  | host h => do
      let _ ← h.run
  | hasTrapped => do
      let _ ← Sim.hasTrapped

end Operation

/-- What the host reads or writes. -/
def HostAccess.place : HostAccess -> Place
  | readMem8 segment addr =>
      { addr := getPhysAddr segment addr.toNat, type := .uint8_t }
  | readMem16 segment addr =>
      { addr := getPhysAddr segment addr.toNat, type := .uint16_t }
  | readMem32 segment addr =>
      { addr := getPhysAddr segment addr.toNat, type := .uint32_t }
  | writeMem8 segment addr _ =>
      { addr := getPhysAddr segment addr.toNat, type := .uint8_t }
  | writeMem16 segment addr _ =>
      { addr := getPhysAddr segment addr.toNat, type := .uint16_t }
  | writeMem32 segment addr _ =>
      { addr := getPhysAddr segment addr.toNat, type := .uint32_t }

/-- The data that an operation touches. -/
def Operation.places : Operation -> Footprint W
  | insn => fun env e =>
      { x | exists k, e.prefixCount = some k ∧
        x ∈ Footprint.ofOpcode (e.codeByte k) env (e.atOpcode k) }
  | reject => fun _ e =>
      placesIf (16 ≤ e.instrLength)
        (e.registers.interrupt Vector.INVALID_OPCODE)
  | trap => fun _ e =>
      placesIf (e.tfWasSet = true ∧ e.extIntInhibit = false)
        (e.registers.interrupt Vector.SINGLE_STEP)
  | nmi => Footprint.interrupt Vector.NMI
  | irq => fun _ e =>
      placesIf (e.pendingIrq ≠ 0#8)
        (e.registers.interrupt (e.pendingIrq.toNat * 4))
  | host h => fun _ _ => {h.place}
  | hasTrapped => fun _ _ =>
      {Place.operand .OP_WIDTH_16 (.vector (Vector.INT + 2)),
        Place.operand .OP_WIDTH_16 (.vector Vector.INT)}

/-!
## The accesses of an operation
-/

section Operation

set_option synthInstance.maxSize 1000000

variable {env : Environment W} {e : Emulator W}

instance : Idles Access.code env getTfWasSet := skips_gets _ _ _ _

instance : Idles Access.code env getExtIntInhibit := skips_gets _ _ _ _

instance : Idles Access.code env getPendingIrq := skips_gets _ _ _ _

instance : Idles Access.code env clearNmi := skips_modify _ _ _ fun _ => rfl

instance : Idles Access.code env clearIrq := skips_modify _ _ _ fun _ => rfl

instance (irqNum : BitVec 8) : Idles Access.code env (ackInt irqNum) :=
  skips_quiet _ _ _ (fun _ => rfl) fun _ _ _ h => by
    cases h
    rfl

/-- Only instructions fetch. -/
theorem fetches_operation (op : Operation) (hop : op ≠ .insn) :
    fetches (op.run env e) = [] := by
  cases op with
  | insn =>
      exact absurd rfl hop
  | reject =>
      change fetches ((if 16 ≤ e.instrLength then do
        setInstrLength (e.instrLength % 16)
        invalidOpcode
        else pure () : EmuM W Unit) env e) = []
      split
      · have hlength : Returns (setInstrLength (e.instrLength % 16)) env e ()
            { e with instrLength := e.instrLength % 16 } := rfl
        rw [fetches_bind hlength, fetches_idles (m := invalidOpcode)
          inferInstance]
        rfl
      · rfl
  | trap =>
      refine fetches_idles ?_
      unfold Operation.run singleStep
      infer_instance
  | nmi =>
      refine fetches_idles ?_
      unfold Operation.run
      infer_instance
  | irq =>
      refine fetches_idles ?_
      unfold Operation.run
      infer_instance
  | host h =>
      refine fetches_idles ?_
      cases h <;> unfold Operation.run HostAccess.run <;> infer_instance
  | hasTrapped =>
      refine fetches_idles ?_
      unfold Operation.run Sim.hasTrapped
      infer_instance

/-!
## What may stop one
-/

instance : Explains env True (getTfWasSet : EmuM W Bool) := blames_gets _ _ _

instance : Explains env True (getExtIntInhibit : EmuM W Bool) :=
  blames_gets _ _ _

instance : Explains env True (getPendingIrq : EmuM W (BitVec 8)) :=
  blames_gets _ _ _

instance : Explains env True (clearNmi : EmuM W Unit) := blames_modify _ _ _

instance : Explains env True (clearIrq : EmuM W Unit) := blames_modify _ _ _

instance (irqNum : BitVec 8) : Explains env True (ackInt irqNum : EmuM W Unit) :=
  blames_total _ _ fun _ => ⟨_, _, rfl⟩

theorem explains_operation (op : Operation) :
    Explains env True (op.run : EmuM W Unit) := by
  cases op with
  | insn =>
      unfold Operation.run runInsn
      infer_instance
  | reject =>
      unfold Operation.run
      infer_instance
  | trap =>
      unfold Operation.run singleStep
      infer_instance
  | nmi =>
      unfold Operation.run
      infer_instance
  | irq =>
      unfold Operation.run
      infer_instance
  | host h =>
      cases h <;> unfold Operation.run HostAccess.run <;> infer_instance
  | hasTrapped =>
      unfold Operation.run Sim.hasTrapped
      infer_instance

/-!
## What one touches
-/

instance : NoData env (startInsn : EmuM W Unit) :=
  emits_quiet _ _ _ fun _ => rfl

instance noData_readPrefixes (n : Nat) :
    NoData env (readPrefixes n : EmuM W (BitVec 8)) := by
  induction n with
  | zero =>
      unfold readPrefixes
      infer_instance
  | succ n ih =>
      unfold readPrefixes
      infer_instance

variable (henv : env.addressing = Addressing.emulator)
include henv

theorem touches_insn (e : Emulator W) :
    Touches (Operation.insn.places env e) (runInsn env e) := by
  have hlinear : env.addressing.LinearBytes := by
    rw [henv]
    exact Addressing.linearBytes_emulator
  have hprefixes : NoData env
      (do startInsn; readPrefixes memorySize : EmuM W (BitVec 8)) :=
    inferInstance
  rw [runInsn_eq]
  cases hcount : e.prefixCount with
  | none =>
      have hfault : Faults (do startInsn; readPrefixes memorySize :
          EmuM W (BitVec 8)) env e .endlessPrefixes :=
        startInsn_endless hlinear hcount
      have hnone : Operation.insn.places env e = ∅ := by
        apply Set.eq_empty_of_forall_notMem
        rintro x ⟨k, hk, _⟩
        rw [hcount] at hk
        cases hk
      rw [hnone]
      refine covers_unseen ?_
      rw [Faults.bind_events hfault]
      exact hprefixes.place_eq_none e
  | some k =>
      have hexecute := touches_execute henv (e.atOpcode_overrideSegment k)
        (e.codeByte k)
      refine (Covers.after (startInsn_skip hlinear e hcount)
        (hprefixes.place_eq_none e) hexecute).congr ?_
      ext x
      constructor
      · intro hx
        exact ⟨k, hcount, hx⟩
      · rintro ⟨j, hj, hx⟩
        obtain rfl := Option.some.inj (hcount.symm.trans hj)
        exact hx

/-- One access and what is done with the bytes. -/
theorem touches_access {p : PhysAddr} {type : AccessType} {write : Bool}
    {f : List (BitVec 20) -> EmuM W α}
    (hf : forall l, exists v t, f l env e = ([], .ok (v, t))) :
    Touches {{ addr := p, type := type }}
      ((resolve { addr := p, type := type, write := write } >>= f) env e) := by
  obtain ⟨v, t, hrun⟩ := hf ((List.range type.sizeof).map fun i =>
    BitVec.ofNat 20 (p.linear + i))
  let a : Access := { addr := p, type := type, write := write }
  exact touches_run (a := a) rfl (access_run henv hrun)

theorem touches_host (h : HostAccess) (e : Emulator W) :
    Touches {h.place} ((Operation.host h).run env e) := by
  cases h <;>
    · simp only [Operation.run, HostAccess.run, HostAccess.place, bind_assoc]
      exact touches_access henv fun _ => ⟨_, _, rfl⟩

theorem touches_hasTrapped (e : Emulator W) :
    Touches (Operation.hasTrapped.places env e)
      (Operation.hasTrapped.run env e) := by
  unfold Operation.places Operation.run Sim.hasTrapped
  rw [bind_assoc]
  refine touches_bind rfl (readMem_run henv .OP_WIDTH_16 _ e) ?_
  rw [bind_assoc, <- insert_empty_eq]
  exact touches_bind rfl (readMem_run henv .OP_WIDTH_16 _ e) (touches_quiet rfl)

theorem touches_irq (e : Emulator W) :
    Touches (Operation.irq.places env e) (Operation.irq.run env e) := by
  change Touches _ (((if e.pendingIrq != 0#8 then pure ()
    else fault .assertion) >>= fun _ => clearIrq >>= fun _ =>
      ackInt e.pendingIrq >>= fun _ =>
        interruptHere (e.pendingIrq.toNat * 4)) env e)
  unfold Operation.places
  dsimp only
  by_cases h : e.pendingIrq = 0#8
  · rw [placesIf_of_not (fun hne => hne h), h]
    exact touches_quiet rfl
  · rw [placesIf_of h, if_pos (bne_iff_ne.mpr h)]
    let s := { e with pendingIrq := 0#8 }.afterDevice
      (env.ackInt e.pendingIrq e.world)
    have hack : Returns (clearIrq >>= fun _ => ackInt e.pendingIrq) env e () s :=
      rfl
    rw [pure_bind, <- bind_assoc]
    exact Covers.after hack (fun a ha => by cases ha)
      (touches_interruptHere henv (e := s) _)

theorem touches_operation (op : Operation) (e : Emulator W) :
    Touches (op.places env e) (op.run env e) := by
  cases op with
  | insn =>
      exact touches_insn henv e
  | reject =>
      change Touches _ ((if 16 ≤ e.instrLength then do
        setInstrLength (e.instrLength % 16)
        invalidOpcode
        else pure () : EmuM W Unit) env e)
      unfold Operation.places
      dsimp only
      split
      · next h =>
          rw [placesIf_of h]
          exact touches_interrupt henv
            (e := { e with instrLength := e.instrLength % 16 }) _
      · next h =>
          rw [placesIf_of_not h]
          exact touches_quiet rfl
  | trap =>
      change Touches _ ((if !e.tfWasSet || e.extIntInhibit then pure ()
        else interruptHere Vector.SINGLE_STEP : EmuM W Unit) env e)
      unfold Operation.places
      dsimp only
      cases e.tfWasSet <;> cases e.extIntInhibit
      · rw [placesIf_of_not (by decide)]
        exact touches_quiet rfl
      · rw [placesIf_of_not (by decide)]
        exact touches_quiet rfl
      · rw [placesIf_of ⟨rfl, rfl⟩]
        exact touches_interruptHere henv _
      · rw [placesIf_of_not (by decide)]
        exact touches_quiet rfl
  | nmi =>
      exact touches_interruptHere henv (e := { e with nmiPending := false }) _
  | irq =>
      exact touches_irq henv e
  | host h =>
      exact touches_host henv h e
  | hasTrapped =>
      exact touches_hasTrapped henv e

end Operation

/-!
## The operations of a step
-/

/-- The operations that a step may make and the states they start in. -/
inductive Within (env : Environment W) (e : Emulator W) :
    Operation -> Emulator W -> Prop where
  | first {op : Operation} : op = .nmi ∨ op = .irq ∨ op = .insn ->
      Within env e op e.sampled
  | reject {s t : Emulator W} : Within env e .insn s ->
      Returns Operation.insn.run env s () t -> Within env e .reject t
  | tail {op : Operation} {s t u : Emulator W} : Within env e .reject s ->
      Returns Operation.reject.run env s () t -> Returns advanceIp env t () u ->
      op = .nmi ∨ op = .irq ∨ op = .trap -> Within env e op u
  | trap {op : Operation} {s t : Emulator W} : Within env e op s ->
      op = .nmi ∨ op = .irq -> Returns op.run env s () t ->
      Within env e .trap t

section Step

variable {env : Environment W} {e : Emulator W} {a : Access}

/-- An access of an operation of a step. -/
def Within.Makes (env : Environment W) (e : Emulator W) (a : Access) : Prop :=
  exists op s, Within env e op s ∧ a ∈ (op.run env s).1

theorem makes_handleNmi {s : Emulator W} (hs : Within env e .nmi s)
    (ha : a ∈ (handleNmi env s).1) : Within.Makes env e a := by
  have heq : (handleNmi : EmuM W Unit) =
      Operation.nmi.run >>= fun _ => singleStep := by
    simp only [handleNmi, Operation.run, bind_assoc]
  rw [heq] at ha
  rcases mem_bind.mp ha with ha | ⟨_, t, hret, ha⟩
  · exact ⟨.nmi, s, hs, ha⟩
  · exact ⟨.trap, t, .trap hs (.inl rfl) hret, ha⟩

theorem makes_handleIrq {s : Emulator W} (hs : Within env e .irq s)
    (ha : a ∈ (handleIrq env s).1) : Within.Makes env e a := by
  have heq : (handleIrq : EmuM W Unit) =
      Operation.irq.run >>= fun _ => singleStep := by
    simp only [handleIrq, Operation.run, bind_assoc]
  rw [heq] at ha
  rcases mem_bind.mp ha with ha | ⟨_, t, hret, ha⟩
  · exact ⟨.irq, s, hs, ha⟩
  · exact ⟨.trap, t, .trap hs (.inr rfl) hret, ha⟩

theorem makes_afterInsn {s : Emulator W}
    (hs : forall op : Operation, op = .nmi ∨ op = .irq ∨ op = .trap ->
      Within env e op s)
    (ha : a ∈ (afterInsn env s).1) : Within.Makes env e a := by
  change a ∈ ((if s.nmiPending && !s.extIntInhibit then handleNmi
    else if s.pendingIrq != 0#8 && !s.extIntInhibit &&
      s.registers.getFlag Flag.IF then handleIrq
    else if !s.extIntInhibit then singleStep else pure () : EmuM W Unit)
      env s).1 at ha
  split at ha
  · exact makes_handleNmi (hs .nmi (.inl rfl)) ha
  · split at ha
    · exact makes_handleIrq (hs .irq (.inr (.inl rfl))) ha
    · split at ha
      · exact ⟨.trap, s, hs .trap (.inr (.inr rfl)), ha⟩
      · cases ha

/-- Every access of a step is one of an operation that the step makes. -/
theorem makes_step (ha : a ∈ (step env e).1) : Within.Makes env e a := by
  let s := e.sampled
  change a ∈ ((if s.nmiPending && !s.extIntInhibit then do
      handleNmi
      return 0
    else if s.pendingIrq != 0#8 && !s.extIntInhibit &&
      s.registers.getFlag Flag.IF then do
      handleIrq
      return 0
    else do
      let len ← emulateInsn
      afterInsn
      return len : EmuM W Nat) env s).1 at ha
  split at ha
  · rcases mem_bind.mp ha with ha | ⟨_, t, _, ha⟩
    · exact makes_handleNmi (.first (.inl rfl)) ha
    · cases ha
  · split at ha
    · rcases mem_bind.mp ha with ha | ⟨_, t, _, ha⟩
      · exact makes_handleIrq (.first (.inr (.inl rfl))) ha
      · cases ha
    · have heq : (emulateInsn : EmuM W Nat) =
          Operation.insn.run >>= fun _ => Operation.reject.run >>= fun _ =>
            advanceIp >>= fun _ => getInstrLength := by
        simp only [emulateInsn, Operation.run, runInsn, bind_assoc]
      have hfirst : Within env e .insn s := .first (.inr (.inr rfl))
      rw [heq, bind_assoc] at ha
      rcases mem_bind.mp ha with ha | ⟨_, t, hinsn, ha⟩
      · exact ⟨.insn, s, hfirst, ha⟩
      have hreject : Within env e .reject t := .reject hfirst hinsn
      rw [bind_assoc] at ha
      rcases mem_bind.mp ha with ha | ⟨_, u, hrun, ha⟩
      · exact ⟨.reject, t, hreject, ha⟩
      rw [bind_assoc] at ha
      rcases mem_bind.mp ha with ha | ⟨_, v, hadvance, ha⟩
      · have hquiet : (advanceIp env u).1 = [] := by
          change ((if u.jumpTaken then pure () else do
            let next ← nextIp
            set .IP next : EmuM W Unit) env u).1 = []
          split <;> rfl
        rw [hquiet] at ha
        cases ha
      rcases mem_bind.mp ha with ha | ⟨_, x, hlength, ha⟩
      · cases ha
      obtain ⟨rfl, rfl⟩ := returns_gets.mp hlength
      rcases mem_bind.mp ha with ha | ⟨_, y, _, ha⟩
      · exact makes_afterInsn
          (fun op hop => .tail hreject hrun hadvance hop) ha
      · cases ha

end Step

end Sim
end S80x86
