import S80x86.Sim.Emulate

/-!
# What emulator code leaves alone

Handlers change registers, memory and the fields of the current instruction.
The board, the pending interrupts and the inhibit flag change only through the
few operations that are for them, so a property of these is kept by every
handler that keeps it at those operations.
-/

namespace S80x86
namespace Sim

open Foundation.Effect

variable {W : Type}

/-- A property of the board, the pending interrupts and the inhibit flag. -/
class OfInterrupts (P : Emulator W -> Prop) : Prop where
  congr : forall e e', e'.world = e.world -> e'.pendingIrq = e.pendingIrq ->
    e'.nmiPending = e.nmiPending -> e'.extIntInhibit = e.extIntInhibit ->
    P e -> P e'

/-- A property that the setters of registers, flags and memory keep, and that
does not speak about the current instruction. -/
class AllowsSetters (P : Emulator W -> Prop) : Prop where
  set : forall e r v, P e -> P { e with registers := e.registers.set r v }
  setFlags : forall e v mask, P e ->
    P { e with registers := e.registers.setFlags v mask }
  write : forall e a v, P e -> P { e with mem := e.mem.write a v }
  congr : forall e e', e'.registers = e.registers -> e'.mem = e.mem ->
    e'.world = e.world -> e'.pendingIrq = e.pendingIrq ->
    e'.nmiPending = e.nmiPending -> e'.extIntInhibit = e.extIntInhibit ->
    P e -> P e'

instance (P : Emulator W -> Prop) [hP : OfInterrupts P] : AllowsSetters P where
  set e _ _ := hP.congr e _ rfl rfl rfl rfl
  setFlags e _ _ := hP.congr e _ rfl rfl rfl rfl
  write e _ _ := hP.congr e _ rfl rfl rfl rfl
  congr e e' _ _ := hP.congr e e'

/-- A property that a call of a device keeps. -/
class AllowsDevices (env : Environment W) (P : Emulator W -> Prop) : Prop where
  read8 : forall base p port offs e, env.io base = some p -> P e ->
    P (e.afterDevice (p.read8 port offs e.world).2)
  read16 : forall base p port e, env.io base = some p -> P e ->
    P (e.afterDevice (p.read16 port e.world).2)
  write8 : forall base p port offs v e, env.io base = some p -> P e ->
    P (e.afterDevice (p.write8 port offs v e.world))
  write16 : forall base p port v e, env.io base = some p -> P e ->
    P (e.afterDevice (p.write16 port v e.world))

/-- A property that opening and closing inhibit windows keeps. -/
class AllowsInhibit (P : Emulator W -> Prop) : Prop where
  inhibit : forall e b, P e -> P { e with extIntInhibit := b }

section Keeps

set_option synthInstance.maxSize 1000000

variable (P : Emulator W -> Prop) (env : Environment W)

section Setters

variable [hP : AllowsSetters P]

instance (r : GPR) : Keeps P env (get r) := keeps_gets _ _ _

instance (r : GPR) (v : BitVec 16) : Keeps P env (set r v) :=
  keeps_modify _ _ fun e => hP.set e r v

instance : Keeps P env getFlags := keeps_gets _ _ _

instance (f : BitVec 16) : Keeps P env (getFlag f) := keeps_gets _ _ _

instance (f : (BitVec 16 -> Bool) -> Bool) : Keeps P env (flagTest f) :=
  keeps_gets _ _ _

instance (v mask : BitVec 16) : Keeps P env (setFlags v mask) :=
  keeps_modify _ _ fun e => hP.setFlags e v mask

instance (a : Access) : Keeps P env (resolve a) where
  kept e f e' h hret := by
    unfold Returns resolve at hret
    cases hf : env.addressing a with
    | none =>
        simp [hf] at hret
    | some g =>
        simp only [hf, Except.ok.injEq, Prod.mk.injEq] at hret
        rw [<- hret.2]
        exact h

instance (a : BitVec 20) : Keeps P env (loadByte a) := keeps_gets _ _ _

instance (a : BitVec 20) (v : BitVec 8) : Keeps P env (storeByte a v) :=
  keeps_modify _ _ fun e => hP.write e a v

instance : Keeps P env getTrapEscape where
  kept e b e' h hret := by
    unfold Returns getTrapEscape at hret
    simp only [Except.ok.injEq, Prod.mk.injEq] at hret
    rw [<- hret.2]
    exact h

instance (f : ModRMDecoder -> α) : Keeps P env (decoded f) where
  kept e b e' h hret := by
    unfold Returns decoded at hret
    split at hret
    · simp only [Except.ok.injEq, Prod.mk.injEq] at hret
      rw [<- hret.2]
      exact h
    · cases hret

instance : Keeps P env getInstrLength := keeps_gets _ _ _

instance : Keeps P env getOpcode := keeps_gets _ _ _

instance : Keeps P env getHasRepPrefix := keeps_gets _ _ _

instance : Keeps P env getRep := keeps_gets _ _ _

instance : Keeps P env getJumpTaken := keeps_gets _ _ _

instance : Keeps P env getOverride := keeps_gets _ _ _

instance : Keeps P env usesBpAsBase := keeps_gets _ _ _

instance : Keeps P env getTfWasSet := keeps_gets _ _ _

instance : Keeps P env getExtIntInhibit := keeps_gets _ _ _

instance : Keeps P env getNmiPending := keeps_gets _ _ _

instance : Keeps P env getPendingIrq := keeps_gets _ _ _

instance : Keeps P env takeJump :=
  keeps_modify _ _ fun e => hP.congr e _ rfl rfl rfl rfl rfl rfl

instance : Keeps P env nextByte where
  kept e b e' h hret := by
    unfold Returns nextByte at hret
    simp only [Except.ok.injEq, Prod.mk.injEq] at hret
    rw [<- hret.2]
    exact hP.congr e _ rfl rfl rfl rfl rfl rfl h

instance (w : OperandWidth) : Keeps P env (setWidth w) :=
  keeps_modify _ _ fun e => hP.congr e _ rfl rfl rfl rfl rfl rfl

instance (a : BitVec 16) : Keeps P env (cacheAddress a) :=
  keeps_modify _ _ fun e => hP.congr e _ rfl rfl rfl rfl rfl rfl

instance (b : BitVec 8) : Keeps P env (setModrm b) :=
  keeps_modify _ _ fun e => hP.congr e _ rfl rfl rfl rfl rfl rfl

instance (r : GPR) : Keeps P env (setOverrideSegment r) :=
  keeps_modify _ _ fun e => hP.congr e _ rfl rfl rfl rfl rfl rfl

instance (mode : RepMode) : Keeps P env (setRep mode) :=
  keeps_modify _ _ fun e => hP.congr e _ rfl rfl rfl rfl rfl rfl

instance (b : BitVec 8) : Keeps P env (setOpcode b) :=
  keeps_modify _ _ fun e => hP.congr e _ rfl rfl rfl rfl rfl rfl

instance (n : Nat) : Keeps P env (setInstrLength n) :=
  keeps_modify _ _ fun e => hP.congr e _ rfl rfl rfl rfl rfl rfl

instance : Keeps P env sampleTf :=
  keeps_modify _ _ fun e => hP.congr e _ rfl rfl rfl rfl rfl rfl

instance : Keeps P env effectiveAddress := by
  refine Keeps.bind inferInstance ?_
  intro cached
  cases cached with
  | none =>
      dsimp only
      infer_instance
  | some address =>
      dsimp only
      infer_instance

instance (stack : Bool) : Keeps P env (getSegment stack) := by
  unfold getSegment
  cases stack with
  | true =>
      exact keeps_pure _ _ _
  | false =>
      refine Keeps.bind inferInstance ?_
      intro override
      cases override with
      | none =>
          dsimp only
          infer_instance
      | some segment =>
          dsimp only
          infer_instance

instance keeps_enterLoop (n : Nat) : Keeps P env (enterLoop n) := by
  induction n with
  | zero =>
      unfold enterLoop
      infer_instance
  | succ n ih =>
      unfold enterLoop
      infer_instance

instance keeps_repLoop (primitive : EmuM W Unit)
    (shouldTerminate : EmuM W Bool) [Keeps P env primitive]
    [Keeps P env shouldTerminate] (n : Nat) :
    Keeps P env (repLoop primitive shouldTerminate n) := by
  induction n with
  | zero =>
      unfold repLoop
      infer_instance
  | succ n ih =>
      unfold repLoop
      infer_instance

instance (b : BitVec 8) : Keeps P env (processPrefix b) := by
  unfold processPrefix
  infer_instance

instance keeps_rejectLong : Keeps P env rejectLong := by
  unfold rejectLong
  infer_instance

instance keeps_advanceIp : Keeps P env advanceIp := by
  unfold advanceIp
  infer_instance

instance keeps_singleStep : Keeps P env singleStep := by
  unfold singleStep
  infer_instance

end Setters

section Devices

/-- A call of a device, where one is at the port. -/
theorem keeps_device {addr : BitVec 16} {absent : α}
    {call : IOPorts W -> BitVec 16 -> W -> α × W × Raised}
    (h : forall p port e, env.io (addr &&& ~~~1#16) = some p -> P e ->
      P (e.afterDevice (call p port e.world).2)) :
    Keeps P env (device addr absent call) where
  kept e b e' he hret := by
    unfold Returns device at hret
    cases hio : env.io (addr &&& ~~~1#16) with
    | none =>
        simp only [hio, Except.ok.injEq, Prod.mk.injEq] at hret
        rw [<- hret.2]
        exact he
    | some p =>
        simp only [hio, Except.ok.injEq, Prod.mk.injEq] at hret
        rw [<- hret.2]
        exact h p _ e hio he

variable [hdev : AllowsDevices env P]

instance (addr : BitVec 16) (v : BitVec 8) : Keeps P env (writeIo8 addr v) :=
  keeps_device P env fun p port e => hdev.write8 _ p port _ v e

instance (addr : BitVec 16) (v : BitVec 16) :
    Keeps P env (writeIo16 addr v) :=
  keeps_device P env fun p port e => hdev.write16 _ p port v e

instance (addr : BitVec 16) : Keeps P env (readIo8 addr) :=
  keeps_device P env fun p port e => hdev.read8 _ p port _ e

instance (addr : BitVec 16) : Keeps P env (readIo16 addr) :=
  keeps_device P env fun p port e => hdev.read16 _ p port e

end Devices

section Inhibit

variable [hP : AllowsSetters P] [hinh : AllowsInhibit P]

omit hP in
instance : Keeps P env inhibitExtInt :=
  keeps_modify _ _ fun e => hinh.inhibit e true

instance : Keeps P env startInsn :=
  keeps_modify _ _ fun e he =>
    hP.congr { e with extIntInhibit := false } _ rfl rfl rfl rfl rfl rfl
      (hinh.inhibit e false he)

variable [AllowsDevices env P]

/-- Every handler keeps a property that devices and inhibit windows keep. -/
theorem keeps_cases :
    forall c : Case W, c ∈ cases -> Keeps P env c.handler := by
  unfold cases
  repeat' first
    | exact List.forall_mem_nil _
    | refine List.forall_mem_cons.mpr ⟨inferInstance, ?_⟩

instance keeps_execute (opcode : BitVec 8) : Keeps P env (execute opcode) := by
  unfold execute
  cases hfind : cases.find? fun c : Case W => c.covers opcode with
  | none =>
      exact keeps_pure _ _ _
  | some c =>
      exact keeps_cases P env c (List.mem_of_find?_eq_some hfind)

instance keeps_prefixLoop (n : Nat) : Keeps P env (prefixLoop n) := by
  induction n with
  | zero =>
      unfold prefixLoop
      infer_instance
  | succ n ih =>
      unfold prefixLoop
      infer_instance

instance keeps_emulateInsn : Keeps P env emulateInsn := by
  unfold emulateInsn
  infer_instance

end Inhibit

end Keeps

end Sim
end S80x86
