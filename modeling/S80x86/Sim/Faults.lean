import S80x86.Sim.Operands
import S80x86.Sim.Prefixes

/-!
# Why an instruction stops

An instruction that does not end has made an access that the memory does not
take, or it is an `IDIV` for which the host has no quotient.
-/

namespace S80x86
namespace Sim

open Foundation.Effect

variable {W : Type}

/-- The access of a failed assertion is among those made, and it failed; the
host lacks a quotient only where it may. -/
def Fault.Explained (env : Environment W) (division : Prop)
    (made : List Access) : Fault -> Prop
  | memoryAssertion a => a ∈ made ∧ env.addressing a = none
  | undefinedDivision => division
  | assertion => True
  | endlessPrefixes => True

instance (env : Environment W) (division : Prop) :
    Accrues (Fault.Explained env division) where
  append t t' x h := by
    cases x with
    | memoryAssertion a =>
        exact ⟨List.mem_append_right t h.1, h.2⟩
    | undefinedDivision =>
        exact h
    | assertion =>
        trivial
    | endlessPrefixes =>
        trivial

/-- What stops the code is a failed access of its own, a division where there
may be one, an assertion about the decoder or prefixes without an end. -/
abbrev Explains (env : Environment W) (division : Prop) (m : EmuM W α) :
    Prop :=
  Blames (Fault.Explained env division) env m

section Explains

set_option synthInstance.maxSize 1000000

variable (env : Environment W) (division : Prop)

instance (a : Access) : Explains env division (resolve a) where
  explained e x h := by
    unfold Faults at h
    unfold resolve at h ⊢
    cases hf : env.addressing a with
    | none =>
        simp only [hf, Except.error.injEq] at h ⊢
        rw [<- h]
        exact ⟨List.mem_cons_self, hf⟩
    | some f =>
        simp only [hf] at h
        cases h

instance (f : ModRMDecoder -> α) : Explains env division (decoded f) where
  explained e x h := by
    unfold Faults decoded at h
    split at h
    · cases h
    · cases h
      trivial

instance : Explains env division (fault .assertion : EmuM W α) :=
  blames_fault _ _ trivial

instance (addr : BitVec 16) (absent : α)
    (call : IOPorts W -> BitVec 16 -> W -> α × W × Raised) :
    Explains env division (device addr absent call) :=
  blames_total _ _ fun e => by
    unfold Returns device
    dsimp only
    cases env.io (addr &&& ~~~1#16) with
    | none =>
        exact ⟨absent, e, rfl⟩
    | some p =>
        exact ⟨_, _, rfl⟩

instance : Explains env division (nextByte : EmuM W Nat) :=
  blames_total _ _ fun _ => ⟨_, _, rfl⟩

instance : Explains env division (getTrapEscape : EmuM W Bool) :=
  blames_total _ _ fun _ => ⟨_, _, rfl⟩

instance (r : GPR) : Explains env division (get r : EmuM W _) := blames_gets _ _ _

instance (r : GPR) (v : BitVec 16) : Explains env division (set r v : EmuM W _) :=
  blames_modify _ _ _

instance : Explains env division (getFlags : EmuM W _) := blames_gets _ _ _

instance (f : BitVec 16) : Explains env division (getFlag f : EmuM W _) :=
  blames_gets _ _ _

instance (f : (BitVec 16 -> Bool) -> Bool) :
    Explains env division (flagTest f : EmuM W _) := blames_gets _ _ _

instance (v mask : BitVec 16) : Explains env division (setFlags v mask : EmuM W _) :=
  blames_modify _ _ _

instance (a : BitVec 20) : Explains env division (loadByte a : EmuM W _) :=
  blames_gets _ _ _

instance (a : BitVec 20) (v : BitVec 8) :
    Explains env division (storeByte a v : EmuM W _) := blames_modify _ _ _

instance : Explains env division (getInstrLength : EmuM W _) := blames_gets _ _ _

instance : Explains env division (getOpcode : EmuM W _) := blames_gets _ _ _

instance : Explains env division (getHasRepPrefix : EmuM W _) := blames_gets _ _ _

instance : Explains env division (getRep : EmuM W _) := blames_gets _ _ _

instance : Explains env division (getOverride : EmuM W _) := blames_gets _ _ _

instance : Explains env division (usesBpAsBase : EmuM W _) := blames_gets _ _ _

instance : Explains env division (takeJump : EmuM W _) := blames_modify _ _ _

instance : Explains env division (inhibitExtInt : EmuM W _) := blames_modify _ _ _

instance (w : OperandWidth) : Explains env division (setWidth w : EmuM W _) :=
  blames_modify _ _ _

instance (a : BitVec 16) : Explains env division (cacheAddress a : EmuM W _) :=
  blames_modify _ _ _

instance (b : BitVec 8) : Explains env division (setModrm b : EmuM W _) :=
  blames_modify _ _ _

instance : Explains env division (effectiveAddress : EmuM W _) := by
  refine Blames.bind inferInstance ?_
  intro cached
  cases cached with
  | none =>
      dsimp only
      infer_instance
  | some address =>
      dsimp only
      infer_instance

instance (stack : Bool) : Explains env division (getSegment stack : EmuM W _) := by
  unfold getSegment
  cases stack with
  | true =>
      exact blames_pure _ _ _
  | false =>
      refine Blames.bind inferInstance ?_
      intro override
      cases override with
      | none =>
          dsimp only
          infer_instance
      | some segment =>
          dsimp only
          infer_instance

instance explains_enterLoop (n : Nat) :
    Explains env division (enterLoop n : EmuM W _) := by
  induction n with
  | zero =>
      unfold enterLoop
      infer_instance
  | succ n ih =>
      unfold enterLoop
      infer_instance

instance explains_repLoop (primitive : EmuM W Unit)
    (shouldTerminate : EmuM W Bool) [Explains env division primitive]
    [Explains env division shouldTerminate] (n : Nat) :
    Explains env division (repLoop primitive shouldTerminate n) := by
  induction n with
  | zero =>
      unfold repLoop
      infer_instance
  | succ n ih =>
      unfold repLoop
      infer_instance

instance [h : Fact division] :
    Explains env division (fault .undefinedDivision : EmuM W α) :=
  blames_fault _ _ h.out

/-- Only the group `F7` holds a division that the host may lack. -/
theorem explains_cases :
    forall c : Case W, c ∈ cases -> (c.lo = 0xf7 ∧ c.hi = 0xf7 -> division) ->
      Explains env division c.handler := by
  unfold cases
  repeat' first
    | exact List.forall_mem_nil _
    | refine List.forall_mem_cons.mpr ⟨fun _ => inferInstance, ?_⟩
    | refine List.forall_mem_cons.mpr ⟨fun h => ?_, ?_⟩
  have hdivision : Fact division := ⟨h ⟨rfl, rfl⟩⟩
  infer_instance

theorem explains_execute {division : Prop} {opcode : BitVec 8}
    (h : opcode = 0xf7#8 -> division) :
    Explains env division (execute opcode : EmuM W _) := by
  unfold execute
  cases hfind : cases.find? fun c : Case W => c.covers opcode with
  | none =>
      exact blames_pure _ _ _
  | some c =>
      refine explains_cases env division c (List.mem_of_find?_eq_some hfind) ?_
      rintro ⟨hlo, hhi⟩
      have hcovers := List.find?_some hfind
      rw [Case.covers, hlo, hhi, Bool.and_eq_true, decide_eq_true_eq,
        decide_eq_true_eq] at hcovers
      exact h (BitVec.eq_of_toNat_eq (Nat.le_antisymm hcovers.2 hcovers.1))

instance (opcode : BitVec 8) : Explains env True (execute opcode : EmuM W _) :=
  explains_execute env fun _ => trivial

instance : Explains env division (startInsn : EmuM W Unit) :=
  blames_modify _ _ _

instance (b : BitVec 8) : Explains env division (setOpcode b : EmuM W Unit) :=
  blames_modify _ _ _

instance (r : GPR) :
    Explains env division (setOverrideSegment r : EmuM W Unit) :=
  blames_modify _ _ _

instance (mode : RepMode) : Explains env division (setRep mode : EmuM W Unit) :=
  blames_modify _ _ _

instance (b : BitVec 8) :
    Explains env division (processPrefix b : EmuM W Unit) := by
  unfold processPrefix
  infer_instance

instance (n : Nat) :
    Explains env division (readPrefixes n : EmuM W (BitVec 8)) := by
  induction n with
  | zero =>
      exact blames_fault _ _ trivial
  | succ n ih =>
      unfold readPrefixes
      infer_instance

instance (n : Nat) : Explains env True (prefixLoop n : EmuM W Unit) := by
  induction n with
  | zero =>
      exact blames_fault _ _ trivial
  | succ n ih =>
      unfold prefixLoop
      infer_instance

instance : Explains env division (getJumpTaken : EmuM W Bool) :=
  blames_gets _ _ _

instance (n : Nat) : Explains env division (setInstrLength n : EmuM W Unit) :=
  blames_modify _ _ _

instance : Explains env division (rejectLong : EmuM W Unit) := by
  unfold rejectLong
  infer_instance

instance : Explains env division (advanceIp : EmuM W Unit) := by
  unfold advanceIp
  infer_instance

instance : Explains env division (finishInsn : EmuM W Nat) := by
  unfold finishInsn
  infer_instance

instance : Explains env True (emulateInsn : EmuM W Nat) := by
  unfold emulateInsn
  infer_instance

end Explains

/-!
## The division that the host lacks
-/

section Division

set_option synthInstance.maxSize 1000000

variable {env : Environment W}

/-- Code that has no division the host may lack. -/
theorem Explains.not_undefined {m : EmuM W α} {e : Emulator W}
    (h : Explains env False m) : ¬Faults m env e .undefinedDivision :=
  h.explained e _

variable (henv : env.addressing = Addressing.emulator) {e : Emulator W}
include henv

theorem idivf7_undefined (h : e.Decoded)
    (hfault : Faults idivf7 env e .undefinedDivision) :
    e.registers.dx ++ e.registers.ax = 0x80000000#32 ∧
      e.operandValue .OP_WIDTH_16 = 0xffff#16 := by
  have hsound : Explains env False
      (readData .OP_WIDTH_16 false : EmuM W (BitVec 16)) := inferInstance
  rcases faults_bind.mp hfault with hread | ⟨v, s, hread, hrest⟩
  · exact absurd hread hsound.not_undefined
  obtain ⟨rfl, rfl⟩ := hread.unique
    (readData_returns henv h (readData_fits henv h hread))
  rw [(getDxAx_returns env s).faults_iff] at hrest
  refine (?_ : Explains env _ _).explained s _ hrest
  refine Blames.ite (fun _ => inferInstance) fun _ =>
    Blames.ite (fun hleast => ?_) fun _ => inferInstance
  have hdivision : Fact _ := ⟨hleast⟩
  infer_instance

/-- The group `F7` stops for want of a quotient at `IDIV` of 80000000h by
FFFFh only. -/
theorem negMulNotTestDivF7_undefined
    (hfault : Faults negMulNotTestDivF7 env e .undefinedDivision) :
    (e.decodedFor .OP_WIDTH_16).modrmDecoder.rawReg = 7#3 ∧
      e.registers.dx ++ e.registers.ax = 0x80000000#32 ∧
      (e.decodedFor .OP_WIDTH_16).operandValue .OP_WIDTH_16 = 0xffff#16 := by
  have hlinear : env.addressing.LinearBytes := by
    rw [henv]
    exact Addressing.linearBytes_emulator
  have hdecoded := decodedFor_decoded .OP_WIDTH_16 e
  have hwidth : Returns (setWidth .OP_WIDTH_16) env e ()
      { e with
        modrmDecoder := { e.modrmDecoder with width := .OP_WIDTH_16 } } := rfl
  have hdecode := decode_returns hlinear
    { e with modrmDecoder := { e.modrmDecoder with width := .OP_WIDTH_16 } }
  have hraw : Returns rawReg env (e.decodedFor .OP_WIDTH_16)
      (e.decodedFor .OP_WIDTH_16).modrmDecoder.rawReg
      (e.decodedFor .OP_WIDTH_16) :=
    decoded_returns _ hdecoded.isDecoded
  rw [hwidth.faults_iff, hdecode.faults_iff] at hfault
  change Faults _ env (e.decodedFor .OP_WIDTH_16) _ at hfault
  rw [hraw.faults_iff] at hfault
  have hothers : forall r : BitVec 3, r ≠ 7#3 ->
      r = 2#3 ∨ r = 3#3 ∨ r = 4#3 ∨ r = 5#3 ∨ (r = 0#3 ∨ r = 1#3) ∨
        r = 6#3 := by
    decide
  by_cases h7 : (e.decodedFor .OP_WIDTH_16).modrmDecoder.rawReg = 7#3
  · rw [h7] at hfault
    exact ⟨h7, idivf7_undefined henv hdecoded hfault⟩
  · refine absurd hfault (Explains.not_undefined ?_)
    refine Blames.ite (fun _ => inferInstance) fun h2 =>
      Blames.ite (fun _ => inferInstance) fun h3 =>
      Blames.ite (fun _ => inferInstance) fun h4 =>
      Blames.ite (fun _ => inferInstance) fun h5 =>
      Blames.ite (fun _ => inferInstance) fun htest =>
      Blames.ite (fun _ => inferInstance) fun h6 => ?_
    have hnone := hothers _ h7
    simp only [h2, h3, h4, h5, htest, h6, or_self] at hnone

end Division

/-!
## The instruction at `CS:IP`
-/

/-- The instruction is `IDIV` of 80000000h by a word operand of FFFFh. -/
def Emulator.DividesLeast (e : Emulator W) : Prop :=
  exists k, e.prefixCount = some k ∧ e.codeByte k = 0xf7#8 ∧
    (e.codeByte (k + 1)).extractLsb' 3 3 = 7#3 ∧
    e.registers.dx ++ e.registers.ax = 0x80000000#32 ∧
    ((e.atOpcode k).decodedFor .OP_WIDTH_16).operandValue .OP_WIDTH_16 =
      0xffff#16

section Instruction

variable {env : Environment W} (henv : env.addressing = Addressing.emulator)
  {e : Emulator W}
include henv

/-- An instruction that fails the assertion of the memory has made an access
past the end. -/
theorem emulateInsn_memoryAssertion {a : Access}
    (hfault : Faults emulateInsn env e (.memoryAssertion a)) :
    a ∈ (emulateInsn env e).1 ∧ memorySize < a.addr.linear + a.size := by
  have hsound : Explains env True (emulateInsn : EmuM W Nat) := inferInstance
  obtain ⟨hmade, hnone⟩ := hsound.explained e _ hfault
  refine ⟨hmade, ?_⟩
  rw [henv] at hnone
  unfold Addressing.emulator at hnone
  split at hnone
  · cases hnone
  · next hpast =>
      exact Nat.lt_of_not_le hpast

/-- An instruction for which the host has no quotient is that `IDIV`. -/
theorem emulateInsn_undefinedDivision
    (hfault : Faults emulateInsn env e .undefinedDivision) :
    e.DividesLeast := by
  have hlinear : env.addressing.LinearBytes := by
    rw [henv]
    exact Addressing.linearBytes_emulator
  have hprefixes : Explains env False
      (do startInsn; readPrefixes memorySize : EmuM W (BitVec 8)) :=
    inferInstance
  have hfinish : Explains env False (finishInsn : EmuM W Nat) := inferInstance
  rw [emulateInsn_eq] at hfault
  rcases faults_bind.mp hfault with hread | ⟨b, s, hread, hrest⟩
  · exact absurd hread hprefixes.not_undefined
  cases hcount : e.prefixCount with
  | none =>
      have hendless := startInsn_endless hlinear hcount
      unfold Returns at hread
      rw [hendless] at hread
      cases hread
  | some k =>
      obtain ⟨rfl, rfl⟩ := hread.unique (startInsn_skip hlinear e hcount)
      rcases faults_bind.mp hrest with hexecute | ⟨_, t, _, hlast⟩
      · have hopcode : e.codeByte k = 0xf7#8 :=
          (explains_execute env id).explained _ _ hexecute
        rw [hopcode] at hexecute
        obtain ⟨hreg, hdividend, hdivisor⟩ :=
          negMulNotTestDivF7_undefined henv hexecute
        rw [Emulator.decodedFor_rawReg, Emulator.codeByte_atOpcode] at hreg
        rw [(e.atOpcode_same k).1] at hdividend
        exact ⟨k, hcount, hopcode, hreg, hdividend, hdivisor⟩
      · exact absurd hlast hfinish.not_undefined

end Instruction
end Sim
end S80x86
