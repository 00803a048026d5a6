import S80x86.Sim.Emulate
import Mathlib.Data.List.Induction

/-!
# Tracking of side effects

The processor and its memory each keep a flag that their setters change.  A
write of a register other than `IP` clears the flag of the registers, which a
write of the flags sets.
-/

open Foundation

namespace S80x86
namespace Sim

def RegisterFile.hasWritten (r : RegisterFile) : Bool := r.written

def RegisterFile.clearHasWritten (r : RegisterFile) : RegisterFile :=
  { r with written := false }

def Memory.hasWritten (m : Memory) : Bool := m.written

def Memory.clearHasWritten (m : Memory) : Memory := { m with written := false }

namespace SoftwareCPU

/-- The registers and the memory of the simulated processor. -/
structure Objects where
  registers : RegisterFile
  mem : Memory

def Objects.instructionHadSideEffects (c : Objects) : Bool :=
  c.mem.hasWritten || c.registers.hasWritten

def Objects.clearSideEffects (c : Objects) : Objects where
  registers := c.registers.clearHasWritten
  mem := c.mem.clearHasWritten

/-!
## Sequences of writes and reads
-/

/-- A write of a word is a write of each of its bytes. -/
inductive Operation where
  | readReg (regnum : GPR)
  | readFlags
  | readMem (addr : BitVec 20)
  | writeReg (regnum : GPR) (value : BitVec 16)
  | writeFlags (val mask : BitVec 16)
  | writeMem (addr : BitVec 20) (val : BitVec 8)

def Operation.perform (c : Objects) : Operation -> Objects
  | .readReg _ => c
  | .readFlags => c
  | .readMem _ => c
  | .writeReg regnum value =>
      { c with registers := c.registers.set regnum value }
  | .writeFlags val mask =>
      { c with registers := c.registers.setFlags val mask }
  | .writeMem addr val => { c with mem := c.mem.write addr val }

def Objects.run (c : Objects) (ops : List Operation) : Objects :=
  ops.foldl Operation.perform c

namespace Operation

/-- A write of a register other than `IP`. -/
def writesReg : Operation -> Bool
  | writeReg regnum _ => decide (regnum ≠ .IP)
  | _ => false

def writesFlags : Operation -> Bool
  | writeFlags _ _ => true
  | _ => false

def writesMem : Operation -> Bool
  | writeMem _ _ => true
  | _ => false

end Operation

/-- Some register other than `IP`, the flags or memory is written. -/
def Writes (ops : List Operation) : Prop :=
  exists op, op ∈ ops ∧
    (op.writesReg = true ∨ op.writesFlags = true ∨ op.writesMem = true)

/-- Every write of a register other than `IP` is followed by a write of the
flags. -/
def FlagsFollow (ops : List Operation) : Prop :=
  forall before op after, ops = before ++ op :: after ->
    op.writesReg = true -> exists f, f ∈ after ∧ f.writesFlags = true

theorem flagsFollow_nil : FlagsFollow [] := by
  intro before op after h
  cases before with
  | nil =>
      cases h
  | cons _ _ =>
      cases h

theorem flagsFollow_concat (ops : List Operation) (op : Operation) :
    FlagsFollow (ops ++ [op]) ↔
      op.writesFlags = true ∨ (op.writesReg = false ∧ FlagsFollow ops) := by
  constructor
  · intro h
    by_cases hflags : op.writesFlags = true
    · exact Or.inl hflags
    · refine Or.inr ⟨?_, ?_⟩
      · by_contra hreg
        obtain ⟨f, hf, _⟩ := h ops op [] rfl (Bool.not_eq_false _ ▸ hreg)
        cases hf
      · intro before x after hops hx
        obtain ⟨f, hf, hwrites⟩ := h before x (after ++ [op])
          (by rw [hops, List.append_assoc, List.cons_append]) hx
        rcases List.mem_append.mp hf with hf | hf
        · exact ⟨f, hf, hwrites⟩
        · rw [List.mem_singleton.mp hf] at hwrites
          exact absurd hwrites hflags
  · rintro h before x after hops hx
    rcases List.eq_nil_or_concat after with hnil | ⟨rest, last, hlast⟩
    · rw [hnil] at hops
      obtain ⟨_, hsame⟩ := List.append_inj' hops rfl
      have hop : op = x := (List.cons.inj hsame).left
      rw [<- hop] at hx
      rcases h with hflags | ⟨hreg, _⟩
      · cases op <;>
          simp [Operation.writesReg, Operation.writesFlags] at hx hflags
      · rw [hx] at hreg
        cases hreg
    · rw [hlast, List.concat_eq_append, <- List.cons_append,
        <- List.append_assoc] at hops
      obtain ⟨hfront, hsame⟩ := List.append_inj' hops rfl
      have hop : op = last := (List.cons.inj hsame).left
      rw [hlast, List.concat_eq_append]
      rcases h with hflags | ⟨_, hfollow⟩
      · exact ⟨op, List.mem_append_right _ (List.mem_singleton.mpr hop),
          hflags⟩
      · obtain ⟨f, hf, hwrites⟩ := hfollow before x rest hfront hx
        exact ⟨f, List.mem_append_left _ hf, hwrites⟩

/-!
## The two flags
-/

theorem written_set (r : RegisterFile) (regnum : GPR) (value : BitVec 16) :
    (r.set regnum value).written =
      if regnum = .IP then r.written else false := by
  cases regnum <;> rfl

theorem registers_written_perform (c : Objects) (op : Operation) :
    (op.perform c).registers.written =
      if op.writesFlags then true
      else if op.writesReg then false else c.registers.written := by
  cases op with
  | writeReg regnum value =>
      have h := written_set c.registers regnum value
      by_cases hip : regnum = .IP
      · simpa [Operation.perform, Operation.writesFlags, Operation.writesReg,
          hip] using h
      · simpa [Operation.perform, Operation.writesFlags, Operation.writesReg,
          hip] using h
  | readReg regnum =>
      rfl
  | readFlags =>
      rfl
  | readMem addr =>
      rfl
  | writeFlags val mask =>
      rfl
  | writeMem addr val =>
      rfl

theorem mem_written_perform (c : Objects) (op : Operation) :
    (op.perform c).mem.written = (op.writesMem || c.mem.written) := by
  cases op <;> rfl

theorem run_concat (c : Objects) (ops : List Operation) (op : Operation) :
    c.run (ops ++ [op]) = op.perform (c.run ops) := by
  simp [Objects.run]

theorem mem_written_run (c : Objects) (ops : List Operation) :
    (c.clearSideEffects.run ops).mem.written = true ↔
      exists op, op ∈ ops ∧ op.writesMem = true := by
  induction ops using List.reverseRecOn with
  | nil =>
      simp [Objects.run, Objects.clearSideEffects, Memory.clearHasWritten]
  | append_singleton ops op ih =>
      rw [run_concat, mem_written_perform, Bool.or_eq_true, ih]
      simp only [List.mem_append, List.mem_singleton, or_and_right, exists_or,
        exists_eq_left]
      exact or_comm

/-- The flag of the registers tells whether registers or flags are written
just when the flags are written after the registers. -/
theorem registers_written_run (c : Objects) (ops : List Operation) :
    ((c.clearSideEffects.run ops).registers.written = true ↔
        exists op, op ∈ ops ∧ (op.writesReg = true ∨ op.writesFlags = true)) ↔
      FlagsFollow ops := by
  induction ops using List.reverseRecOn with
  | nil =>
      simp [Objects.run, Objects.clearSideEffects,
        RegisterFile.clearHasWritten, flagsFollow_nil]
  | append_singleton ops op ih =>
      rw [run_concat, registers_written_perform, flagsFollow_concat, <- ih]
      simp only [List.mem_append, List.mem_singleton, or_and_right, exists_or,
        exists_eq_left]
      cases hflags : op.writesFlags with
      | true =>
          simp
      | false =>
          cases hreg : op.writesReg with
          | true =>
              simp
          | false =>
              simp

/-!
## Instructions
-/

/-- What the emulator shares with the processor that holds it. -/
def objects {W : Type} (e : Emulator W) : Objects where
  registers := e.registers
  mem := e.mem

section Instructions

open Effect

variable {W : Type}

/-- A run of the code makes these writes, one after the other. -/
inductive Makes (env : Environment W) : {α : Type} -> EmuM W α -> Emulator W ->
    List Operation -> α -> Emulator W -> Prop where
  | silent {α : Type} {m : EmuM W α} {e e' : Emulator W} {a : α}
      (hm : forall s b s', Returns m env s b s' -> objects s' = objects s)
      (h : Returns m env e a e') : Makes env m e [] a e'
  | set (e : Emulator W) (r : GPR) (v : BitVec 16) :
      Makes env (set r v) e [.writeReg r v] ()
        { e with registers := e.registers.set r v }
  | setFlags (e : Emulator W) (v mask : BitVec 16) :
      Makes env (setFlags v mask) e [.writeFlags v mask] ()
        { e with registers := e.registers.setFlags v mask }
  | storeByte (e : Emulator W) (a : BitVec 20) (v : BitVec 8) :
      Makes env (storeByte a v) e [.writeMem a v] ()
        { e with mem := e.mem.write a v }
  | bind {α β : Type} {m : EmuM W α} {f : α -> EmuM W β}
      {e e₁ e₂ : Emulator W} {a : α} {b : β} {ops ops' : List Operation}
      (first : Makes env m e ops a e₁) (rest : Makes env (f a) e₁ ops' b e₂) :
      Makes env (m >>= f) e (ops ++ ops') b e₂

theorem Makes.run {env : Environment W} {α : Type} {m : EmuM W α}
    {e e' : Emulator W} {ops : List Operation} {a : α}
    (h : Makes env m e ops a e') : objects e' = (objects e).run ops := by
  induction h with
  | silent hm h =>
      exact hm _ _ _ h
  | set e r v =>
      rfl
  | setFlags e v mask =>
      rfl
  | storeByte e a v =>
      rfl
  | bind first rest ih ih' =>
      rw [ih', ih, Objects.run, Objects.run, Objects.run, List.foldl_append]

/-- Whenever the code returns, it makes some writes. -/
class Logged (env : Environment W) (m : EmuM W α) : Prop where
  makes : forall e a e', Returns m env e a e' ->
    exists ops, Makes env m e ops a e'

section Logged

set_option synthInstance.maxSize 1000000

variable (env : Environment W)

theorem logged_silent {m : EmuM W α}
    (hm : forall s b s', Returns m env s b s' -> objects s' = objects s) :
    Logged env m where
  makes _ _ _ h := ⟨[], .silent hm h⟩

theorem logged_gets (f : Emulator W -> α) :
    Logged env (gets f : EmuM W α) :=
  logged_silent env fun s b s' h => by
    rw [(returns_gets.mp h).2]

theorem logged_modify {f : Emulator W -> Emulator W}
    (hf : forall s, objects (f s) = objects s) :
    Logged env (modify f : EmuM W Unit) :=
  logged_silent env fun s b s' h => by
    rw [returns_modify.mp h, hf]

instance logged_pure (a : α) : Logged env (pure a : EmuM W α) :=
  logged_gets env fun _ => a

instance logged_fault (x : Fault) : Logged env (fault x : EmuM W α) where
  makes _ _ _ h := absurd h not_returns_fault

theorem Logged.bind {env : Environment W} {m : EmuM W α}
    {f : α -> EmuM W β} (hm : Logged env m) (hf : forall a, Logged env (f a)) :
    Logged env (m >>= f) where
  makes e b e' h := by
    obtain ⟨a, e₁, hfirst, hrest⟩ := returns_bind.mp h
    obtain ⟨ops, hops⟩ := hm.makes e a e₁ hfirst
    obtain ⟨ops', hops'⟩ := (hf a).makes e₁ b e' hrest
    exact ⟨ops ++ ops', .bind hops hops'⟩

instance logged_bind (m : EmuM W α) (f : α -> EmuM W β)
    [hm : Logged env m] [hf : forall a, Logged env (f a)] :
    Logged env (m >>= f) := hm.bind hf

instance logged_ite (c : Prop) [Decidable c] (a b : EmuM W α)
    [ha : Logged env a] [hb : Logged env b] :
    Logged env (if c then a else b) := by
  by_cases hc : c
  · rw [if_pos hc]
    exact ha
  · rw [if_neg hc]
    exact hb

instance (r : GPR) (v : BitVec 16) : Logged env (set r v) where
  makes e u e' h := by
    rw [returns_modify.mp h]
    exact ⟨_, .set e r v⟩

instance (v mask : BitVec 16) : Logged env (setFlags v mask) where
  makes e u e' h := by
    rw [returns_modify.mp h]
    exact ⟨_, .setFlags e v mask⟩

instance (a : BitVec 20) (v : BitVec 8) : Logged env (storeByte a v) where
  makes e u e' h := by
    rw [returns_modify.mp h]
    exact ⟨_, .storeByte e a v⟩

instance (r : GPR) : Logged env (get r) := logged_gets env _

instance : Logged env getFlags := logged_gets env _

instance (f : BitVec 16) : Logged env (getFlag f) := logged_gets env _

instance (f : (BitVec 16 -> Bool) -> Bool) : Logged env (flagTest f) :=
  logged_gets env _

instance (a : BitVec 20) : Logged env (loadByte a) := logged_gets env _

instance : Logged env getInstrLength := logged_gets env _

instance : Logged env getOpcode := logged_gets env _

instance : Logged env getHasRepPrefix := logged_gets env _

instance : Logged env getRep := logged_gets env _

instance : Logged env getJumpTaken := logged_gets env _

instance : Logged env getOverride := logged_gets env _

instance : Logged env usesBpAsBase := logged_gets env _

instance : Logged env getTfWasSet := logged_gets env _

instance : Logged env getExtIntInhibit := logged_gets env _

instance : Logged env getNmiPending := logged_gets env _

instance : Logged env getPendingIrq := logged_gets env _

instance : Logged env takeJump := logged_modify env fun _ => rfl

instance : Logged env inhibitExtInt := logged_modify env fun _ => rfl

instance : Logged env startInsn := logged_modify env fun _ => rfl

instance : Logged env sampleTf := logged_modify env fun _ => rfl

instance : Logged env clearNmi := logged_modify env fun _ => rfl

instance : Logged env clearIrq := logged_modify env fun _ => rfl

instance (w : OperandWidth) : Logged env (setWidth w) :=
  logged_modify env fun _ => rfl

instance (a : BitVec 16) : Logged env (cacheAddress a) :=
  logged_modify env fun _ => rfl

instance (b : BitVec 8) : Logged env (setModrm b) :=
  logged_modify env fun _ => rfl

instance (r : GPR) : Logged env (setOverrideSegment r) :=
  logged_modify env fun _ => rfl

instance (mode : RepMode) : Logged env (setRep mode) :=
  logged_modify env fun _ => rfl

instance (b : BitVec 8) : Logged env (setOpcode b) :=
  logged_modify env fun _ => rfl

instance (n : Nat) : Logged env (setInstrLength n) :=
  logged_modify env fun _ => rfl

instance : Logged env nextByte :=
  logged_silent env fun s b s' h => by
    cases h
    rfl

instance : Logged env getTrapEscape :=
  logged_silent env fun s b s' h => by
    cases h
    rfl

instance (irqNum : BitVec 8) : Logged env (ackInt irqNum) :=
  logged_silent env fun s b s' h => by
    cases h
    rfl

instance (a : Access) : Logged env (resolve a) :=
  logged_silent env fun s b s' h => by
    unfold Effect.Returns resolve at h
    cases hf : env.addressing a with
    | none =>
        simp only [hf, reduceCtorEq] at h
    | some f =>
        simp only [hf] at h
        cases h
        rfl

instance (f : ModRMDecoder -> α) : Logged env (decoded f) :=
  logged_silent env fun s b s' h => by
    unfold Effect.Returns decoded at h
    split at h
    · cases h
      rfl
    · cases h

instance (addr : BitVec 16) (absent : α)
    (call : IOPorts W -> BitVec 16 -> W -> α × W × Raised) :
    Logged env (device addr absent call) :=
  logged_silent env fun s b s' h => by
    unfold Effect.Returns device at h
    cases hio : env.io (addr &&& ~~~1#16) with
    | none =>
        simp only [hio] at h
        cases h
        rfl
    | some p =>
        simp only [hio] at h
        cases h
        rfl

instance : Logged env effectiveAddress := by
  refine Logged.bind inferInstance ?_
  intro cached
  cases cached with
  | none =>
      dsimp only
      infer_instance
  | some address =>
      dsimp only
      infer_instance

instance (stack : Bool) : Logged env (getSegment stack) := by
  unfold getSegment
  cases stack with
  | true =>
      exact logged_pure env _
  | false =>
      refine Logged.bind inferInstance ?_
      intro override
      cases override with
      | none =>
          dsimp only
          infer_instance
      | some segment =>
          dsimp only
          infer_instance

instance logged_enterLoop (n : Nat) : Logged env (enterLoop n) := by
  induction n with
  | zero =>
      unfold enterLoop
      infer_instance
  | succ n ih =>
      unfold enterLoop
      infer_instance

instance logged_repLoop (primitive : EmuM W Unit)
    (shouldTerminate : EmuM W Bool) [Logged env primitive]
    [Logged env shouldTerminate] (n : Nat) :
    Logged env (repLoop primitive shouldTerminate n) := by
  induction n with
  | zero =>
      unfold repLoop
      infer_instance
  | succ n ih =>
      unfold repLoop
      infer_instance

instance (b : BitVec 8) : Logged env (processPrefix b) := by
  unfold processPrefix
  infer_instance

theorem logged_cases : forall c : Case W, c ∈ cases -> Logged env c.handler := by
  unfold cases
  repeat' first
    | exact List.forall_mem_nil _
    | refine List.forall_mem_cons.mpr ⟨inferInstance, ?_⟩

instance (opcode : BitVec 8) : Logged env (execute opcode) := by
  unfold execute
  cases hfind : cases.find? fun c : Case W => c.covers opcode with
  | none =>
      exact logged_pure env _
  | some c =>
      exact logged_cases env c (List.mem_of_find?_eq_some hfind)

instance logged_prefixLoop (n : Nat) : Logged env (prefixLoop n) := by
  induction n with
  | zero =>
      unfold prefixLoop
      infer_instance
  | succ n ih =>
      unfold prefixLoop
      infer_instance

instance logged_rejectLong : Logged env rejectLong := by
  unfold rejectLong
  infer_instance

instance logged_advanceIp : Logged env advanceIp := by
  unfold advanceIp
  infer_instance

instance logged_emulateInsn : Logged env emulateInsn := by
  unfold emulateInsn
  infer_instance

instance logged_singleStep : Logged env singleStep := by
  unfold singleStep
  infer_instance

instance logged_handleNmi : Logged env handleNmi := by
  unfold handleNmi
  infer_instance

instance logged_handleIrq : Logged env handleIrq := by
  unfold handleIrq
  infer_instance

instance logged_afterInsn : Logged env afterInsn := by
  unfold afterInsn
  infer_instance

instance logged_step : Logged env step := by
  unfold step
  infer_instance

end Logged

end Instructions

/-!
## What is reported
-/

theorem instructionHadSideEffects_run (c : Objects) (ops : List Operation) :
    (c.clearSideEffects.run ops).instructionHadSideEffects = true ↔
      (exists op, op ∈ ops ∧ op.writesMem = true) ∨
        (c.clearSideEffects.run ops).registers.written = true := by
  rw [Objects.instructionHadSideEffects, Bool.or_eq_true]
  exact or_congr_left (mem_written_run c ops)

theorem writes_iff (ops : List Operation) :
    Writes ops ↔
      (exists op, op ∈ ops ∧ op.writesMem = true) ∨
        exists op, op ∈ ops ∧
          (op.writesReg = true ∨ op.writesFlags = true) := by
  constructor
  · rintro ⟨op, hop, hreg | hflags | hmem⟩
    · exact Or.inr ⟨op, hop, Or.inl hreg⟩
    · exact Or.inr ⟨op, hop, Or.inr hflags⟩
    · exact Or.inl ⟨op, hop, hmem⟩
  · rintro (⟨op, hop, hmem⟩ | ⟨op, hop, hreg | hflags⟩)
    · exact ⟨op, hop, Or.inr (Or.inr hmem)⟩
    · exact ⟨op, hop, Or.inl hreg⟩
    · exact ⟨op, hop, Or.inr (Or.inl hflags)⟩

/-- Side effects are reported truly just when memory is written, or the flags
after the last register.  The writes of a step are such a sequence. -/
theorem reports_iff_flagsFollow (c : Objects) (ops : List Operation) :
    (((c.clearSideEffects.run ops).instructionHadSideEffects = true ↔
        Writes ops) ↔
      (exists op, op ∈ ops ∧ op.writesMem = true) ∨ FlagsFollow ops) ∧
    forall {W : Type} (env : Environment W) (e e' : Emulator W) (n : Nat),
      objects e = c.clearSideEffects -> Effect.Returns step env e n e' ->
        exists ops, Makes env step e ops n e' ∧
          objects e' = c.clearSideEffects.run ops := by
  constructor
  · rw [instructionHadSideEffects_run, writes_iff, <- registers_written_run c]
    by_cases hmem : exists op, op ∈ ops ∧ op.writesMem = true
    · simp [hmem]
    · simp [hmem]
  · intro W env e e' n he hrun
    obtain ⟨made, hmade⟩ := (logged_step env).makes e n e' hrun
    exact ⟨made, hmade, he ▸ hmade.run⟩

/-- Storing the flags after a register, and a step that moves a word to `AX`. -/
theorem reports_iff_flagsFollow_step :
    (((objects (Emulator.fresh () fun _ => 0xb8#8)).clearSideEffects.run
          [.writeReg .AX 1#16, .writeFlags 0#16 1#16]).instructionHadSideEffects
            = true ↔
        Writes [.writeReg .AX 1#16, .writeFlags 0#16 1#16]) ∧
      exists n e', Effect.Returns step .bare
          (Emulator.fresh () fun _ => 0xb8#8) n e' ∧
        exists ops,
          Makes .bare step (Emulator.fresh () fun _ => 0xb8#8) ops n e' ∧
            objects e' =
              (objects (Emulator.fresh () fun _ => 0xb8#8)).run ops := by
  have hruns : exists n e', Effect.Returns step .bare
      (Emulator.fresh () fun _ => 0xb8#8) n e' ∧ True :=
    Effect.exists_returns_of_run (by decide +kernel)
  obtain ⟨n, e', hrun, _⟩ := hruns
  have h := reports_iff_flagsFollow
    (objects (Emulator.fresh () fun _ => 0xb8#8))
    [.writeReg .AX 1#16, .writeFlags 0#16 1#16]
  have hfollow : FlagsFollow [.writeReg .AX 1#16, .writeFlags 0#16 1#16] :=
    (flagsFollow_concat [.writeReg .AX 1#16] _).mpr (Or.inl rfl)
  exact ⟨h.left.mpr (Or.inr hfollow), n, e', hrun,
    h.right .bare _ e' n rfl hrun⟩

/-- `MOV AX, 0b8b8h` changes a register and reports nothing. -/
theorem reports_not_writes :
    (¬ forall (c : Objects) (ops : List Operation),
      (c.clearSideEffects.run ops).instructionHadSideEffects = true ↔
        Writes ops) ∧
      exists n e', Effect.Returns step .bare
          (Emulator.fresh () fun _ => 0xb8#8) n e' ∧
        e'.registers.ax = 0xb8b8#16 ∧
        (objects e').instructionHadSideEffects = false := by
  constructor
  · intro h
    have hwrites : Writes [.writeReg .AX 0xb8b8#16] :=
      ⟨_, List.mem_singleton.mpr rfl, Or.inl rfl⟩
    have hreports := (h (objects (Emulator.fresh () fun _ => 0xb8#8)) _).mpr
      hwrites
    cases hreports
  · exact Effect.exists_returns_of_run (by decide +kernel)

end SoftwareCPU
end Sim
end S80x86
