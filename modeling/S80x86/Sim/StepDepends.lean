import S80x86.Sim.Leftovers
import S80x86.Sim.Operands
import S80x86.Sim.OverLong

/-!
# A step depends on the architectural state

Two emulators in the same architectural state take the same step, whatever
they ran before.  The exception is `BOUND` with its bounds in memory: it reads
the register under the operand width the last instruction has left.
-/

namespace S80x86
namespace Sim

open Foundation.Effect

variable {W : Type}

/-!
## The architectural state
-/

/-- The same registers, flags, memory, devices and pending interrupts. -/
structure SameArchitecture (s t : Emulator W) : Prop where
  get : forall r, s.registers.get r = t.registers.get r
  flags : s.registers.flags = t.registers.flags
  mem : s.mem.mem = t.mem.mem
  world : s.world = t.world
  nmiPending : s.nmiPending = t.nmiPending
  pendingIrq : s.pendingIrq = t.pendingIrq
  extIntInhibit : s.extIntInhibit = t.extIntInhibit

theorem RegisterFile.values_eq {r q : RegisterFile}
    (hget : forall x, r.get x = q.get x) (hflags : r.flags = q.flags) :
    r.values = q.values := by
  have hall := And.intro (And.intro (hget .AX) (hget .CX))
    (And.intro (hget .DX) (hget .BX))
  have hindex := And.intro (And.intro (hget .SP) (hget .BP))
    (And.intro (hget .SI) (hget .DI))
  have hsegments := And.intro (And.intro (hget .ES) (hget .CS))
    (And.intro (hget .SS) (hget .DS))
  have hip := hget .IP
  cases r
  cases q
  simp_all [values, get]

theorem SameArchitecture.same {s t : Emulator W} (h : SameArchitecture s t) :
    Same ⟨.entry, s.modrmDecoder.width, t.modrmDecoder.width⟩ s t where
  registers := RegisterFile.values_eq h.get h.flags
  mem := h.mem
  world := h.world
  nmiPending := h.nmiPending
  extIntInhibit := h.extIntInhibit
  pendingIrq := h.pendingIrq
  tfWasSet hi := absurd hi (by simp [Phase.rank])
  insn hi := absurd hi (by simp [Phase.rank])
  opcode hi := absurd hi (by simp [Phase.rank])
  left := rfl
  right := rfl

theorem Same.architecture {i : Stage} {s t : Emulator W} (h : Same i s t) :
    SameArchitecture s t where
  get := RegisterFile.get_congr h.registers
  flags := RegisterFile.flags_congr h.registers
  mem := h.mem
  world := h.world
  nmiPending := h.nmiPending
  pendingIrq := h.pendingIrq
  extIntInhibit := h.extIntInhibit

/-!
## The register of `BOUND`
-/

namespace Emulator

/-- The next step runs a `BOUND` with its bounds in memory, behind `k`
prefixes. -/
def RunsBound (e : Emulator W) (k : Nat) : Prop :=
  e.nmiIsReady = false ∧ e.irqIsReady = false ∧ e.prefixCount = some k ∧
    e.codeByte k = 0x62#8 ∧ (e.codeByte (k + 1)).extractLsb' 6 2 ≠ 3#2

/-- Whether the register operand of `BOUND`, under a width, is within the
bounds at its memory operand. -/
def boundHolds (e : Emulator W) (w : OperandWidth) : Bool :=
  let lower := e.mem.word e.operandAddr.linear
  let upper := e.mem.word (e.operandAddr.add 2).linear
  let v := e.registers.get (ModRMDecoder.gpr w e.modrmDecoder.rawReg)
  lower.sle v && v.sle upper

/-- The same for the instruction behind `k` prefixes. -/
def passesBound (e : Emulator W) (k : Nat) (w : OperandWidth) : Bool :=
  (e.atOpcode k).afterDecode.boundHolds w

theorem prefixCount_sampled (e : Emulator W) :
    e.sampled.prefixCount = e.prefixCount := by
  unfold prefixCount
  rw [findOpcode_congr (e := e) (s := e.sampled) rfl rfl]

theorem passesBound_sampled (e : Emulator W) (k : Nat) (w : OperandWidth) :
    e.sampled.passesBound k w = e.passesBound k w := by
  have hstate : e.sampled.atOpcode k =
      { e.atOpcode k with tfWasSet := e.registers.getFlag Flag.TF } :=
    e.started.skipPrefixes_tfWasSet k _
  unfold passesBound
  rw [hstate]
  rfl

end Emulator

/-- The comparison of `BOUND`, once its bounds are read. -/
@[reducible]
def checkBounds (lower upper : BitVec 16) : EmuM W Unit := do
  let r ← reg
  let v ← get r
  if lower.sle v && v.sle upper then pure ()
  else interrupt Vector.BOUND

section Bound

set_option synthInstance.maxSize 1000000

variable {env : Environment W} {s t : Emulator W} {w v : OperandWidth}

theorem checkBounds_run (hdec : s.modrmDecoder.isDecoded = true)
    (lower upper : BitVec 16) :
    checkBounds lower upper env s =
      (if lower.sle (s.registers.get s.modrmDecoder.reg) &&
          (s.registers.get s.modrmDecoder.reg).sle upper then pure ()
        else interrupt Vector.BOUND : EmuM W Unit) env s := by
  have hreg : (reg >>= get : EmuM W (BitVec 16)) env s =
      ([], .ok (s.registers.get s.modrmDecoder.reg, s)) := by
    rw [bind_run]
    unfold reg decoded
    rw [hdec]
    rfl
  have hsplit : (checkBounds lower upper : EmuM W Unit) =
      (reg >>= get) >>= fun x =>
        if lower.sle x && x.sle upper then pure ()
        else interrupt Vector.BOUND := by
    rw [bind_assoc]
  rw [hsplit, bind_run, hreg]
  rfl

/-- Registers that are both within the bounds or both outside. -/
theorem agree_checkBounds (h : Same ⟨.insn, w, v⟩ s t)
    (hdec : s.modrmDecoder.isDecoded = true) (lower upper : BitVec 16)
    (htest : (lower.sle (s.registers.get
          (ModRMDecoder.gpr w s.modrmDecoder.rawReg)) &&
        (s.registers.get (ModRMDecoder.gpr w s.modrmDecoder.rawReg)).sle
          upper) =
      (lower.sle (s.registers.get
          (ModRMDecoder.gpr v s.modrmDecoder.rawReg)) &&
        (s.registers.get (ModRMDecoder.gpr v s.modrmDecoder.rawReg)).sle
          upper)) :
    Foundation.Effect.Agree (Same ⟨.insn, w, v⟩) (checkBounds lower upper env s)
      (checkBounds lower upper env t) := by
  have hinsn := h.insn (Nat.le_succ 2)
  have hdec' : t.modrmDecoder.isDecoded = true := by
    rw [<- hinsn.isDecoded, hdec]
  have hraw : t.modrmDecoder.rawReg = s.modrmDecoder.rawReg := by
    unfold ModRMDecoder.rawReg
    rw [hinsn.modrm hdec]
  rw [checkBounds_run hdec, checkBounds_run hdec']
  unfold ModRMDecoder.reg
  rw [h.left, h.right, hraw, <- RegisterFile.get_congr h.registers, htest]
  have hrest (b : Bool) : Fresh ⟨.insn, w, v⟩ ⟨.insn, w, v⟩
      (if b then pure () else interrupt Vector.BOUND : EmuM W Unit) := by
    infer_instance
  exact (hrest _).agree env s t h

theorem read16_word (henv : env.addressing = Addressing.emulator)
    {p : PhysAddr} {x : BitVec 16} (h : Returns (read16 p) env s x t) :
    x = s.mem.word p.linear ∧ t = s := by
  have hfits : p.linear + 2 ≤ memorySize :=
    readMem_fits (w := .OP_WIDTH_16) henv h
  exact h.unique (read16_returns henv s hfits)

/-- `BOUND` from states that differ in leftovers. -/
theorem agree_bound62 (henv : env.addressing = Addressing.emulator)
    (h : Same ⟨.insn, w, v⟩ s t)
    (htest : (s.codeByte s.instrLength).extractLsb' 6 2 ≠ 3#2 ->
      s.afterDecode.boundHolds w = s.afterDecode.boundHolds v) :
    Foundation.Effect.Agree (Same ⟨.insn, w, v⟩) (bound62 env s) (bound62 env t) := by
  have hlinear : env.addressing.LinearBytes := by
    rw [henv]
    exact Addressing.linearBytes_emulator
  have hdecode : Fresh ⟨.insn, w, v⟩ ⟨.insn, w, v⟩ (decode : EmuM W Unit) :=
    inferInstance
  refine (hdecode.agree env s t h).bind ?_
  intro _ s' t' hrun h'
  obtain ⟨-, rfl⟩ := hrun.unique (decode_returns hlinear s)
  have hbyte := decodedAs_decoderAfter s (s.instrLength + 1)
    (s.codeByte s.instrLength)
  have hDecoded : s.afterDecode.Decoded := ⟨hbyte.isDecoded, hbyte.addrIsCached⟩
  have htype : Fresh ⟨.insn, w, v⟩ ⟨.insn, w, v⟩ (rmType : EmuM W OperandType) :=
    inferInstance
  refine (htype.agree env _ t' h').bind ?_
  intro type s₁ t₁ hrun h₁
  obtain ⟨rfl, rfl⟩ := hrun.unique (decoded_returns _ hbyte.isDecoded)
  by_cases hreg : s.afterDecode.modrmDecoder.rmType = .OP_REG
  · rw [if_pos hreg]
    have hinvalid : Fresh ⟨.insn, w, v⟩ ⟨.insn, w, v⟩
        (invalidOpcode : EmuM W Unit) := inferInstance
    exact hinvalid.agree env _ t₁ h₁
  · rw [if_neg hreg]
    have hmem := (rmType_cases _).resolve_left hreg
    have hmode : (s.codeByte s.instrLength).extractLsb' 6 2 ≠ 3#2 := by
      rw [ne_eq, <- hbyte.modrm]
      exact fun hmod => hreg ((rmType_eq_reg_iff _).mpr hmod)
    have haddr : Fresh ⟨.insn, w, v⟩ ⟨.insn, w, v⟩
        (operandAddr false : EmuM W PhysAddr) := inferInstance
    have hword (p : PhysAddr) : Fresh ⟨.insn, w, v⟩ ⟨.insn, w, v⟩
        (read16 p : EmuM W (BitVec 16)) := inferInstance
    refine (haddr.agree env _ t₁ h₁).bind ?_
    intro p32 s₂ t₂ hrun h₂
    obtain ⟨rfl, rfl⟩ := hrun.unique (operandAddr_returns hDecoded hmem)
    refine ((hword _).agree env _ t₂ h₂).bind ?_
    intro lower s₃ t₃ hrun h₃
    obtain ⟨rfl, rfl⟩ := read16_word henv hrun
    refine ((hword _).agree env _ t₃ h₃).bind ?_
    intro upper s₄ t₄ hrun h₄
    obtain ⟨rfl, rfl⟩ := read16_word henv hrun
    exact agree_checkBounds h₄ hbyte.isDecoded _ _ (htest hmode)

end Bound

/-!
## Whole steps
-/

section Steps

set_option synthInstance.maxSize 1000000

variable {E : OperandWidth -> OperandWidth -> Prop}

theorem respects_readPrefixes (n : Nat) :
    Respects (SameBut E) .started .insn (readPrefixes n : EmuM W _) := by
  induction n with
  | zero =>
      exact ⟨fun _ _ _ _ => ⟨rfl, rfl⟩⟩
  | succ n ih =>
      have hfetch : Respects (SameBut E) .started .started
          (fetchByte : EmuM W _) :=
        respects_of_fresh_all fun _ _ => inferInstance
      have hopcode (b : BitVec 8) : Respects (SameBut E) .started .insn
          (setOpcode b : EmuM W _) :=
        respects_of_fresh_all fun _ _ => inferInstance
      have hagain : Respects (SameBut E) .insn .insn
          (readPrefixes n : EmuM W _) :=
        ⟨fun r s t h => ih.agree r s t (h.earlier (by decide))⟩
      unfold readPrefixes
      refine hfetch.bind fun b => (hopcode b).bind fun _ => ?_
      split
      · exact (respects_processPrefix b).bind fun _ => hagain
      · exact respects_pure _ _ _

theorem respects_startInsn :
    Respects (SameBut E) .sampled .insn
      (do startInsn; readPrefixes memorySize : EmuM W _) := by
  have hstart : Respects (SameBut E) .sampled .started
      (startInsn : EmuM W _) :=
    respects_of_fresh_all fun _ _ => inferInstance
  exact hstart.bind fun _ => respects_readPrefixes memorySize

theorem respects_finishInsn :
    Respects (SameBut E) .insn .insn (finishInsn : EmuM W _) := by
  have hlength : Respects (SameBut E) .insn .insn
      (getInstrLength : EmuM W _) :=
    respects_of_fresh_all fun _ _ => inferInstance
  exact respects_rejectLong.bind fun _ => respects_advanceIp.bind fun _ =>
    hlength

theorem agree_emulateInsn {env : Environment W} {s t : Emulator W}
    {w v : OperandWidth} (henv : env.addressing = Addressing.emulator)
    (h : Same ⟨.sampled, w, v⟩ s t)
    (hbound : forall k, s.prefixCount = some k -> s.codeByte k = 0x62#8 ->
      (s.codeByte (k + 1)).extractLsb' 6 2 ≠ 3#2 ->
        s.passesBound k w = s.passesBound k v) :
    Foundation.Effect.Agree (SameBut AnyWidths .insn) (emulateInsn env s)
      (emulateInsn env t) := by
  have hlinear : env.addressing.LinearBytes := by
    rw [henv]
    exact Addressing.linearBytes_emulator
  have hstart := (respects_startInsn (E := fun x y => x = w ∧ y = v)).agree
    env s t ⟨w, v, ⟨rfl, rfl⟩, h⟩
  rw [emulateInsn_eq]
  refine hstart.bind ?_
  rintro b s' t' hrun ⟨_, _, ⟨rfl, rfl⟩, hsame⟩
  cases hcount : s.prefixCount with
  | none =>
      have hendless := startInsn_endless hlinear hcount
      unfold Returns at hrun
      rw [hendless] at hrun
      cases hrun
  | some k =>
      obtain ⟨rfl, rfl⟩ := hrun.unique (startInsn_skip hlinear s hcount)
      have hexecute : Foundation.Effect.Agree (SameBut AnyWidths .insn)
          (execute (s.codeByte k) env (s.atOpcode k))
          (execute (s.codeByte k) env t') := by
        by_cases hopcode : s.codeByte k = 0x62#8
        · rw [hopcode]
          have hagree := agree_bound62 henv hsame (by
            rw [Emulator.codeByte_atOpcode]
            exact hbound k hcount hopcode)
          exact hagree.mono fun x y hxy => ⟨_, _, trivial, hxy⟩
        · exact (respects_execute hopcode).agree env _ t'
            ⟨_, _, trivial, hsame⟩
      exact hexecute.bind fun _ x y _ hxy =>
        respects_finishInsn.agree env x y hxy

theorem step_run (env : Environment W) (e : Emulator W) :
    step env e =
      (if e.nmiIsReady then do
          handleNmi
          return 0
        else if e.irqIsReady then do
          handleIrq
          return 0
        else do
          let len ← emulateInsn
          afterInsn
          return len : EmuM W Nat) env e.sampled := rfl

/-- One step from the same architectural state gives the same one, unless it
runs a `BOUND` whose register passes under only one of the leftover widths. -/
theorem step_sameArchitecture (env : Environment W)
    (henv : env.addressing = Addressing.emulator) (s t : Emulator W)
    (h : SameArchitecture s t)
    (hbound : forall k, s.RunsBound k ->
      s.passesBound k s.modrmDecoder.width =
        s.passesBound k t.modrmDecoder.width) :
    Foundation.Effect.Agree SameArchitecture (step env s) (step env t) := by
  have hsampled : Same ⟨.sampled, s.modrmDecoder.width, t.modrmDecoder.width⟩
      s.sampled t.sampled := by
    have hsample : Fresh ⟨.entry, s.modrmDecoder.width, t.modrmDecoder.width⟩
        ⟨.sampled, s.modrmDecoder.width, t.modrmDecoder.width⟩
        (sampleTf : EmuM W Unit) := inferInstance
    exact (hsample.agree env s t h.same).2.2
  have hsampled' : SameBut AnyWidths .sampled s.sampled t.sampled :=
    ⟨_, _, trivial, hsampled⟩
  have hend {p : Phase} (x y : Emulator W) (hxy : SameBut AnyWidths p x y) :
      SameArchitecture x y := by
    obtain ⟨_, _, _, hsame⟩ := hxy
    exact hsame.architecture
  have hNmi : t.nmiIsReady = s.nmiIsReady := by
    rw [Emulator.nmiIsReady, Emulator.nmiIsReady, h.nmiPending,
      h.extIntInhibit]
  have hIrq : t.irqIsReady = s.irqIsReady := by
    unfold Emulator.irqIsReady RegisterFile.getFlag
    rw [h.pendingIrq, h.extIntInhibit, h.flags]
  rw [step_run, step_run, hNmi, hIrq]
  cases hnmi : s.nmiIsReady with
  | true =>
      have hreturn : Respects (SameBut AnyWidths) .sampled .sampled
          (do handleNmi; return 0 : EmuM W Nat) :=
        respects_handleNmi.bind fun _ => respects_pure _ _ _
      exact (hreturn.agree env _ _ hsampled').mono hend
  | false =>
      cases hirq : s.irqIsReady with
      | true =>
          have hreturn : Respects (SameBut AnyWidths) .sampled .sampled
              (do handleIrq; return 0 : EmuM W Nat) :=
            respects_handleIrq.bind fun _ => respects_pure _ _ _
          exact (hreturn.agree env _ _ hsampled').mono hend
      | false =>
          have hinsn := agree_emulateInsn henv hsampled (by
            intro k hcount hcode hmode
            rw [Emulator.prefixCount_sampled] at hcount
            rw [Emulator.passesBound_sampled, Emulator.passesBound_sampled]
            exact hbound k ⟨hnmi, hirq, hcount, hcode, hmode⟩)
          refine hinsn.bind ?_
          intro len x y _ hxy
          have hafter : Respects (SameBut AnyWidths) .sampled .sampled
              (do afterInsn; return len : EmuM W Nat) :=
            respects_afterInsn.bind fun _ => respects_pure _ _ _
          exact (hafter.agree env x y (hxy.earlier (by decide))).mono hend

/-!
## A `BOUND` after a byte instruction and after a word instruction
-/

/-- `BOUND AX, [BX+SI]` with the bounds 0 and 0. -/
def beforeBound (ax : BitVec 16) (w : OperandWidth) : Emulator Unit :=
  let e := Emulator.fresh () fun a => if a = 0#20 then 0x62#8 else 0#8
  { e with
    registers := (e.registers.set .AX ax).set .BX 4#16
    modrmDecoder := { e.modrmDecoder with width := w } }

theorem beforeBound_same (ax : BitVec 16) (w v : OperandWidth) :
    SameArchitecture (beforeBound ax w) (beforeBound ax v) :=
  ⟨fun _ => rfl, rfl, rfl, rfl, rfl, rfl, rfl⟩

theorem step_sameArchitecture_bound :
    Foundation.Effect.Agree SameArchitecture (step .bare (beforeBound 0#16 .OP_WIDTH_8))
      (step .bare (beforeBound 0#16 .OP_WIDTH_16)) := by
  refine step_sameArchitecture .bare rfl _ _ (beforeBound_same 0#16 _ _) ?_
  rintro k ⟨_, _, hcount, _⟩
  have hzero : (beforeBound 0#16 .OP_WIDTH_8).prefixCount = some 0 := by
    decide +kernel
  rw [hzero] at hcount
  cases hcount
  decide +kernel

theorem step_not_sameArchitecture :
    ¬ forall (env : Environment Unit) (s t : Emulator Unit),
      env.addressing = Addressing.emulator -> SameArchitecture s t ->
        forall n s', Returns step env s n s' ->
          exists t', Returns step env t n t' ∧ SameArchitecture s' t' := by
  intro h
  have hbyte : exists n s', Returns step .bare
      (beforeBound 0x100#16 .OP_WIDTH_8) n s' ∧ s'.registers.ip = 2#16 :=
    exists_returns_of_run (by decide +kernel)
  have hword : exists n t', Returns step .bare
      (beforeBound 0x100#16 .OP_WIDTH_16) n t' ∧ t'.registers.ip = 0#16 :=
    exists_returns_of_run (by decide +kernel)
  obtain ⟨n, s', hs, hip⟩ := hbyte
  obtain ⟨m, u, hu, hip'⟩ := hword
  obtain ⟨t', ht, hsame⟩ :=
    h .bare _ _ rfl (beforeBound_same 0x100#16 _ _) n s' hs
  obtain ⟨_, rfl⟩ := hu.unique ht
  have hget : s'.registers.ip = u.registers.ip := hsame.get .IP
  rw [hip, hip'] at hget
  cases hget

end Steps

end Sim
end S80x86
