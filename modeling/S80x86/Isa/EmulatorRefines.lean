import S80x86.Isa.EmulatorStrings
import S80x86.Isa.EmulatorTransfers
import S80x86.Sim.InterruptReturn

/-!
# The emulator refines the instructions

Every instruction without a ModRM byte, from the bytes of the code to the end
of the step, and programs of such instructions.
-/

open Foundation Foundation.Effect

namespace S80x86
namespace Isa

open Rtl (SR)
open Rtl.GPR

variable {W : Type} {env : Sim.Environment W} {v : View}

/-!
## Dispatch
-/

section Fetches

variable (henv : env.addressing = Sim.Addressing.emulator)
include henv

theorem Handles.fetchWord {body : BitVec 16 -> Sim.EmuM W Unit}
    {op : Operation} {x : BitVec 16} {n : Nat}
    (hfits : v.state.ip.toNat + v.length + 1 < 2 ^ 16)
    (hlow : v.state.code v.length = x.extractLsb' 0 8)
    (hhigh : v.state.code (v.length + 1) = x.extractLsb' 8 8)
    (h : Handles env (body x) (v.fetched 2) n op) :
    Handles env (Sim.fetch16bit >>= body) v (2 + n) op := by
  obtain ⟨v', hacts, hleft, hrest⟩ := h
  have hfetched : (v.fetched 2).fetched n = v.fetched (2 + n) := by
    ext1
    case length =>
      exact Nat.add_assoc v.length 2 n
    all_goals rfl
  rw [hfetched] at hleft hrest
  exact ⟨v', (acts_fetch16bit henv hfits hlow hhigh).bind hacts, hleft, hrest⟩

end Fetches

/-- The low bits of an opcode name the register. -/
theorem opcode_reg (r : BitVec 3) :
    (0x50#8 + r.setWidth 8).extractLsb' 0 3 = r ∧
      (0x58#8 + r.setWidth 8).extractLsb' 0 3 = r ∧
      (0x90#8 + r.setWidth 8).extractLsb' 0 3 = r ∧
      (0xb0#8 + r.setWidth 8).extractLsb' 0 3 = r ∧
      (0xb8#8 + r.setWidth 8).extractLsb' 0 3 = r := by
  revert r
  decide

/-- The cases of the switch that cover eight opcodes. -/
theorem execute_reg (r : BitVec 3) :
    (Sim.execute (0x50#8 + r.setWidth 8) : Sim.EmuM W Unit) = Sim.push50_57 ∧
      (Sim.execute (0x58#8 + r.setWidth 8) : Sim.EmuM W Unit) =
        Sim.pop58_5f ∧
      (Sim.execute (0x90#8 + r.setWidth 8) : Sim.EmuM W Unit) =
        Sim.xchg90_97 ∧
      (Sim.execute (0xb0#8 + r.setWidth 8) : Sim.EmuM W Unit) =
        Sim.movb0_b7 ∧
      (Sim.execute (0xb8#8 + r.setWidth 8) : Sim.EmuM W Unit) =
        Sim.movb8_bf := by
  rcases reg_cases r with
    rfl | rfl | rfl | rfl | rfl | rfl | rfl | rfl <;>
    exact ⟨rfl, rfl, rfl, rfl, rfl⟩

theorem execute_count (r : BitVec 3) :
    (Sim.execute (0x40#8 + r.setWidth 8) : Sim.EmuM W Unit) = Sim.inc40_47 ∧
      (Sim.execute (0x48#8 + r.setWidth 8) : Sim.EmuM W Unit) =
        Sim.dec48_4f := by
  rcases reg_cases r with
    rfl | rfl | rfl | rfl | rfl | rfl | rfl | rfl <;>
    exact ⟨rfl, rfl⟩

theorem opcode_count (r : BitVec 3) :
    (0x40#8 + r.setWidth 8).extractLsb' 0 3 = r ∧
      (0x48#8 + r.setWidth 8).extractLsb' 0 3 = r := by
  revert r
  decide

/-- The flags that the handlers update. -/
def Arith.emulatorMask (op : Arith) : BitVec 16 :=
  if op.isLogic then Sim.logicFlags else Sim.arithmeticFlags

theorem Arith.emulatorMask_all (op : Arith) :
    op.emulatorMask &&& Flag.all = op.mask := by
  cases op <;> decide

/-- The handlers of an operation on the accumulator. -/
theorem execute_arith (op : Arith) :
    (Sim.execute op.opcode : Sim.EmuM W Unit) =
        Sim.aluAcc .OP_WIDTH_8 (op.helper _) op.emulatorMask op.stores ∧
      (Sim.execute (op.opcode + 1#8) : Sim.EmuM W Unit) =
        Sim.aluAcc .OP_WIDTH_16 (op.helper _) op.emulatorMask op.stores := by
  cases op <;> exact ⟨rfl, rfl⟩

section Encoded

variable {opcode : BitVec 8} {immediate : Immediate} {op : Operation}

/-- The handler of an opcode does what the instruction is for. -/
theorem handles_encoded (h : Encodes opcode immediate op)
    (henv : env.addressing = Sim.Addressing.emulator)
    (hopcode : v.opcode = opcode) (htaken : v.taken = false)
    (hplain : v.plain = true)
    (hreads : v.state.Reads v.length immediate.bytes)
    (hend : v.state.ip.toNat + (v.length + immediate.bytes.length) ≤ 2 ^ 16)
    (hfits : op.Fits v.state) :
    Handles env (Sim.execute opcode) v immediate.bytes.length op := by
  have hbyte (hn : 1 <= immediate.bytes.length) :
      v.state.ip.toNat + v.length < 2 ^ 16 := by omega
  have hword (hn : 2 <= immediate.bytes.length) :
      v.state.ip.toNat + v.length + 1 < 2 ^ 16 := by omega
  have hfar (hn : 4 <= immediate.bytes.length) :
      (v.fetched 2).state.ip.toNat + (v.fetched 2).length + 1 < 2 ^ 16 := by
    change v.state.ip.toNat + (v.length + 2) + 1 < 2 ^ 16
    omega
  cases h with
  | pushEs =>
      exact @handles_pushSegment W env v henv htaken .ES
        (by rw [hopcode]; rfl) (State.pushesFit_of_words hfits)
  | pushCs =>
      exact @handles_pushSegment W env v henv htaken .CS
        (by rw [hopcode]; rfl) (State.pushesFit_of_words hfits)
  | pushSs =>
      exact @handles_pushSegment W env v henv htaken .SS
        (by rw [hopcode]; rfl) (State.pushesFit_of_words hfits)
  | pushDs =>
      exact @handles_pushSegment W env v henv htaken .DS
        (by rw [hopcode]; rfl) (State.pushesFit_of_words hfits)
  | popEs =>
      exact @handles_popSegment W env v henv htaken .ES
        (by rw [hopcode]; rfl) (State.popsFit_of_words hfits)
  | popSs =>
      exact @handles_popSegment W env v henv htaken .SS
        (by rw [hopcode]; rfl) (State.popsFit_of_words hfits)
  | popDs =>
      exact @handles_popSegment W env v henv htaken .DS
        (by rw [hopcode]; rfl) (State.popsFit_of_words hfits)
  | pushWord r =>
      rw [(execute_reg r).1]
      exact handles_pushWord henv htaken
        (by rw [hopcode]; exact (opcode_reg r).1)
        (State.pushesFit_of_words hfits)
  | popWord r =>
      rw [(execute_reg r).2.1]
      exact handles_popWord henv htaken
        (by rw [hopcode]; exact (opcode_reg r).2.1)
        (State.popsFit_of_words hfits)
  | pusha =>
      exact handles_pusha henv htaken (State.pushesFit_of_words hfits)
  | popa => exact handles_popa henv htaken (State.popsFit_of_words hfits)
  | pushImmediate x =>
      change Handles env Sim.push68 v (2 + 0) _
      exact Handles.fetchWord henv (hword Nat.le.refl) hreads.1 hreads.2.1
        (@handles_pushValue W env (v.fetched 2) henv htaken x
          (State.pushesFit_of_words hfits))
  | pushSigned x =>
      change Handles env Sim.push6a v 1 _
      exact Handles.fetchSigned henv (hbyte Nat.le.refl) hreads.1
        (@handles_pushValue W env (v.fetched 1) henv htaken (x.signExtend 16)
          (State.pushesFit_of_words hfits))
  | jcc condition x =>
      rw [<- opcode_conditionOf, Sim.execute_condition]
      exact Handles.fetchSigned henv (hbyte Nat.le.refl) hreads.1
        (@handles_jcc W env (v.fetched 1) htaken condition (x.signExtend 16))
  | xchg r =>
      rw [(execute_reg r).2.2.1]
      exact handles_xchg htaken (by rw [hopcode]; exact (opcode_reg r).2.2.1)
  | cbw => exact handles_cbw htaken
  | cwd => exact handles_cwd htaken
  | callFar cs ip =>
      change Handles env Sim.call9a v (2 + (2 + 0)) _
      exact Handles.fetchWord henv (hword (Nat.le_add_right 2 2)) hreads.1 hreads.2.1
        (Handles.fetchWord henv (hfar Nat.le.refl) hreads.2.2.1 hreads.2.2.2.1
          (@handles_callFar W env ((v.fetched 2).fetched 2) henv cs ip
            (State.pushesFit_of_words hfits)))
  | pushf => exact handles_pushf henv htaken (State.pushesFit_of_words hfits)
  | popf => exact handles_popf henv htaken (State.popsFit_of_words hfits)
  | sahf => exact handles_sahf htaken
  | lahf => exact handles_lahf htaken
  | movByte r x =>
      rw [(execute_reg r).2.2.2.1]
      exact handles_movByte htaken
        (by rw [hopcode]; exact (opcode_reg r).2.2.2.1) henv (hbyte Nat.le.refl) hreads.1
  | movWord r x =>
      rw [(execute_reg r).2.2.2.2]
      exact handles_movWord htaken
        (by rw [hopcode]; exact (opcode_reg r).2.2.2.2)
        (acts_fetch16bit henv (hword Nat.le.refl) hreads.1 hreads.2.1)
  | retDiscard x =>
      change Handles env Sim.retc2 v (2 + 0) _
      exact Handles.fetchWord henv (hword Nat.le.refl) hreads.1 hreads.2.1
        (@handles_retDiscard W env (v.fetched 2) henv x
          (State.popsFit_of_words hfits))
  | ret => exact handles_ret henv (State.popsFit_of_words hfits)
  | leave =>
      have hmem : (v.state.segments .SS, v.state.gprs BP) ∈
          Operation.leave.words v.state := List.mem_singleton.mpr rfl
      have htop := hfits _ hmem
      exact handles_leave henv htaken htop
  | retFarDiscard x =>
      change Handles env Sim.retca v (2 + 0) _
      exact Handles.fetchWord henv (hword Nat.le.refl) hreads.1 hreads.2.1
        (@handles_retFarDiscard W env (v.fetched 2) henv x
          (State.popsFit_of_words hfits))
  | retFar => exact handles_retFar henv (State.popsFit_of_words hfits)
  | int3 => exact handles_int3 henv (State.pushesFit_of_words hfits)
  | int n =>
      exact handles_int henv (hbyte Nat.le.refl) hreads.1 (State.pushesFit_of_words hfits)
  | into =>
      refine handles_into henv htaken (fun hof => ?_)
      refine State.pushesFit_of_words ?_
      unfold Operation.Fits Operation.words at hfits
      rw [if_pos hof] at hfits
      exact hfits
  | iret => exact handles_iret henv (State.popsFit_of_words hfits)
  | setalc => exact handles_setalc htaken
  | loopne x =>
      change Handles env Sim.loopnze0 v 1 _
      exact Handles.fetchSigned henv (hbyte Nat.le.refl) hreads.1
        (@handles_loop W env (v.fetched 1) htaken (fun z => !z) (some false)
          (by decide) (x.signExtend 16))
  | loope x =>
      change Handles env Sim.loopee1 v 1 _
      exact Handles.fetchSigned henv (hbyte Nat.le.refl) hreads.1
        (@handles_loop W env (v.fetched 1) htaken (fun z => z) (some true)
          (by decide) (x.signExtend 16))
  | loop x =>
      change Handles env Sim.loope2 v 1 _
      exact Handles.fetchSigned henv (hbyte Nat.le.refl) hreads.1
        (@handles_loop W env (v.fetched 1) htaken (fun _ => true) none
          (by decide) (x.signExtend 16))
  | jcxz x =>
      change Handles env Sim.jcxze3 v 1 _
      exact Handles.fetchSigned henv (hbyte Nat.le.refl) hreads.1
        (@handles_jcxz W env (v.fetched 1) htaken (x.signExtend 16))
  | call x =>
      change Handles env Sim.calle8 v (2 + 0) _
      exact Handles.fetchWord henv (hword Nat.le.refl) hreads.1 hreads.2.1
        (@handles_call W env (v.fetched 2) henv x
          (State.pushesFit_of_words hfits))
  | jmp x =>
      change Handles env Sim.jmpe9 v (2 + 0) _
      exact Handles.fetchWord henv (hword Nat.le.refl) hreads.1 hreads.2.1
        (@handles_jmp W env (v.fetched 2) x)
  | jmpFar cs ip =>
      change Handles env Sim.jmpea v (2 + (2 + 0)) _
      exact Handles.fetchWord henv (hword (Nat.le_add_right 2 2)) hreads.1 hreads.2.1
        (Handles.fetchWord henv (hfar Nat.le.refl) hreads.2.2.1 hreads.2.2.2.1
          (@handles_jmpFar W env ((v.fetched 2).fetched 2) cs ip))
  | jmpShort x =>
      change Handles env Sim.jmpeb v 1 _
      exact Handles.fetchSigned henv (hbyte Nat.le.refl) hreads.1
        (@handles_jmp W env (v.fetched 1) (x.signExtend 16))
  | cmc => exact handles_cmc htaken
  | clc => exact handles_clear htaken rfl
  | stc => exact handles_raise htaken rfl
  | cli => exact handles_clear htaken rfl
  | sti => exact handles_sti htaken
  | cld => exact handles_clear htaken rfl
  | std => exact handles_raise htaken rfl
  | arithByte op x =>
      have hfetch := acts_fetchByte henv (hbyte Nat.le.refl)
      rw [hreads.1] at hfetch
      rw [(execute_arith op).1]
      exact @handles_arith W env v htaken op .OP_WIDTH_8 _ op.emulatorMask_all
        1 x hfetch
  | arithWord op x =>
      have hfetch := acts_fetch16bit henv (hword Nat.le.refl) hreads.1
        hreads.2.1
      have harith := @handles_arith W env v htaken op .OP_WIDTH_16 _
        op.emulatorMask_all 2 x hfetch
      rw [show x.setWidth 16 = x from BitVec.setWidth_eq x] at harith
      rw [(execute_arith op).2]
      exact harith
  | inc r =>
      rw [(execute_count r).1]
      exact handles_count htaken false
        (by rw [hopcode]; exact (opcode_count r).1)
  | dec r =>
      rw [(execute_count r).2]
      exact handles_count htaken true
        (by rw [hopcode]; exact (opcode_count r).2)
  | loadByte x =>
      exact @handles_load W env v henv htaken hplain .OP_WIDTH_8 x
        (acts_fetch16bit henv (hword Nat.le.refl) hreads.1 hreads.2.1)
        (fun hword => absurd hword (by decide))
  | loadWord x =>
      have hmem : (v.state.segments .DS, x) ∈
          (Operation.load false x).words v.state := List.mem_singleton.mpr rfl
      have hword' := hfits _ hmem
      exact @handles_load W env v henv htaken hplain .OP_WIDTH_16 x
        (acts_fetch16bit henv (hword Nat.le.refl) hreads.1 hreads.2.1)
        (fun _ => hword')
  | saveByte x =>
      exact @handles_save W env v henv htaken hplain .OP_WIDTH_8 x
        (acts_fetch16bit henv (hword Nat.le.refl) hreads.1 hreads.2.1)
        (fun hword => absurd hword (by decide))
  | saveWord x =>
      have hmem : (v.state.segments .DS, x) ∈
          (Operation.save false x).words v.state := List.mem_singleton.mpr rfl
      have hword' := hfits _ hmem
      exact @handles_save W env v henv htaken hplain .OP_WIDTH_16 x
        (acts_fetch16bit henv (hword Nat.le.refl) hreads.1 hreads.2.1)
        (fun _ => hword')
  | movsb =>
      exact Handles.once hplain
        (@handles_movs W env v henv htaken hplain .OP_WIDTH_8 hfits)
  | movsw =>
      exact Handles.once hplain
        (@handles_movs W env v henv htaken hplain .OP_WIDTH_16 hfits)
  | cmpsb =>
      exact Handles.once hplain
        (@handles_cmps W env v henv htaken hplain .OP_WIDTH_8 hfits)
  | cmpsw =>
      exact Handles.once hplain
        (@handles_cmps W env v henv htaken hplain .OP_WIDTH_16 hfits)
  | stosb => exact Handles.once hplain (handles_stosb henv htaken)
  | stosw => exact Handles.once hplain (handles_stosw henv htaken hfits)
  | lodsb =>
      exact Handles.once hplain
        (@handles_lods W env v henv htaken hplain .OP_WIDTH_8 hfits)
  | lodsw =>
      exact Handles.once hplain
        (@handles_lods W env v henv htaken hplain .OP_WIDTH_16 hfits)
  | scasb =>
      exact Handles.once hplain
        (@handles_scas W env v henv htaken .OP_WIDTH_8 hfits)
  | scasw =>
      exact Handles.once hplain
        (@handles_scas W env v henv htaken .OP_WIDTH_16 hfits)

end Encoded

/-!
## Instructions
-/

section Progress

/-- The view when an instruction starts. -/
def View.started (v : View) : View :=
  { v with length := 0, taken := false, plain := true }

/-- The view when the opcode is fetched. -/
def View.dispatched (v : View) (opcode : BitVec 8) : View :=
  { v.started with opcode := opcode, length := 1 }

theorem acts_startInsn : Acts view env Sim.startInsn v () v.started :=
  acts_modify _ (fun v : View => v.started) (fun _ => rfl)

theorem acts_rejectLong (h : v.length <= 15) :
    Acts view env Sim.rejectLong v () v := by
  intro e he
  subst he
  exact ⟨e, Sim.rejectLong_returns env e h, rfl⟩

theorem acts_advanceIp :
    Acts view env Sim.advanceIp v () { v with state := v.left } := by
  refine (acts_gets _ (fun v : View => v.taken) (fun _ => rfl)).bind ?_
  unfold View.left
  refine Acts.ite (fun htaken => ?_) (fun htaken => ?_)
  · rw [if_pos htaken]
    exact acts_pure ()
  · rw [if_neg htaken]
    exact acts_nextIp.bind (acts_setIp _)

theorem acts_instrLength : Acts view env Sim.getInstrLength v v.length v :=
  acts_gets _ (fun v : View => v.length) (fun _ => rfl)

/-- An opcode is fetched and executed. -/
theorem acts_prefixLoop {opcode : BitVec 8} {n : Nat} {v' : View}
    (henv : env.addressing = Sim.Addressing.emulator)
    (hunprefixed : Sim.isPrefix opcode = false)
    (hfits : v.state.ip.toNat < 2 ^ 16) (hcode : v.state.code 0 = opcode)
    (hacts : Acts view env (Sim.execute opcode) (v.dispatched opcode) () v') :
    Acts view env (Sim.prefixLoop (n + 1)) v.started () v' := by
  have hfetch := acts_fetchByte henv (v := v.started) hfits
  rw [show v.started.state.code v.started.length = opcode from hcode] at hfetch
  have hset : Acts view env (Sim.setOpcode opcode) (v.started.fetched 1) ()
      (v.dispatched opcode) :=
    acts_modify _ (fun v : View => { v with opcode := opcode })
      (fun _ => rfl)
  refine hfetch.bind (hset.bind ?_)
  rw [hunprefixed]
  exact hacts

end Progress

theorem Encodes.not_prefix {opcode : BitVec 8} {immediate : Immediate}
    {op : Operation} (h : Encodes opcode immediate op) :
    Sim.isPrefix opcode = false := by
  have hall : forall b, b ∈ opcodes -> Sim.isPrefix b = false := by
    decide +kernel
  exact hall opcode h.mem_opcodes

/-- The instruction is fetched and executed, and `IP` moves on. -/
theorem acts_emulateInsn {opcode : BitVec 8} {immediate : Immediate}
    {op : Operation} (henv : env.addressing = Sim.Addressing.emulator)
    (h : Fetches v.state opcode immediate op) (hfits : op.Fits v.state) :
    exists v', Acts view env Sim.emulateInsn v (1 + immediate.bytes.length)
        v' ∧
      v'.state = op.exec (v.state.goto
        (v.state.ip + BitVec.ofNat 16 (1 + immediate.bytes.length))) ∧
      v'.nmiPending = v.nmiPending ∧ v'.pendingIrq = v.pendingIrq ∧
      v'.tfWasSet = v.tfWasSet := by
  obtain ⟨v', hacts, hleft, hrest⟩ := @handles_encoded W env
    (v.dispatched opcode) _ _ _ h.encodes henv rfl rfl rfl h.reads.2 h.inSegment
    hfits
  have hlength : v'.length = 1 + immediate.bytes.length :=
    congrArg (fun r => r.1) hrest
  have hshort := immediate.length_bytes
  have hsize : Sim.memorySize = 1048575 + 1 := rfl
  have hloop : Acts view env (Sim.prefixLoop Sim.memorySize) v.started ()
      v' := by
    rw [hsize]
    exact acts_prefixLoop henv h.encodes.not_prefix v.state.ip.isLt h.reads.1
      hacts
  have hinsn : Acts view env Sim.emulateInsn v v'.length
      { v' with state := v'.left } :=
    acts_startInsn.bind (hloop.bind ((acts_rejectLong (by omega)).bind
      (acts_advanceIp.bind acts_instrLength)))
  rw [hlength] at hinsn
  refine ⟨_, hinsn, hleft, ?_, ?_, ?_⟩
  · exact congrArg (fun r => r.2.1) hrest
  · exact congrArg (fun r => r.2.2.1) hrest
  · exact congrArg (fun r => r.2.2.2) hrest

/-!
## Steps and runs
-/

/-- No interrupt waits. -/
structure Quiet (e : Sim.Emulator W) : Prop where
  nmiPending : e.nmiPending = false
  pendingIrq : e.pendingIrq = 0#8

/-- A number of steps of the emulator, and what they return. -/
def emulatorRun : Nat -> Sim.EmuM W (List Nat)
  | 0 => pure []
  | n + 1 => do
      let length ← Sim.step
      let lengths ← emulatorRun n
      return length :: lengths

variable {e : Sim.Emulator W} {length : Nat} {lengths : List Nat} {s' : State}

/-- The emulator does what the next instruction is for. -/
theorem emulator_step (henv : env.addressing = Sim.Addressing.emulator)
    (hquiet : Quiet e) (h : Step (ofEmulator e) length s') :
    exists e', Returns Sim.step env e length e' ∧ ofEmulator e' = s' ∧
      Quiet e' := by
  obtain @⟨opcode, immediate, op, hfetches, hfits, huntraced⟩ := h
  have htf : e.registers.getFlag Sim.Flag.TF = false :=
    (getFlag_eq (by decide) rfl rfl e).trans huntraced
  obtain ⟨v', hacts, hstate, hnmi, hirq, htrap⟩ :=
    @acts_emulateInsn W env (view e.sampled) opcode immediate op henv hfetches
      hfits
  obtain ⟨e', hreturns, rfl⟩ := hacts e.sampled rfl
  have hnmi' : e'.nmiPending = false := hnmi.trans hquiet.nmiPending
  have hirq' : e'.pendingIrq = 0#8 := hirq.trans hquiet.pendingIrq
  have hafter : Returns Sim.afterInsn env e' () e' := by
    refine Sim.afterInsn_returns (htrap.trans htf) ?_ ?_
    · unfold Sim.Emulator.nmiIsReady
      rw [hnmi']
      rfl
    · unfold Sim.Emulator.irqIsReady
      rw [hirq']
      rfl
  refine ⟨e', Sim.step_insn ?_ ?_ hreturns hafter, hstate,
    ⟨hnmi', hirq'⟩⟩
  · unfold Sim.Emulator.nmiIsReady
    rw [hquiet.nmiPending]
    rfl
  · unfold Sim.Emulator.irqIsReady
    rw [hquiet.pendingIrq]
    rfl

/-- From every emulator that shows the state a program starts in. -/
theorem emulator_follows (henv : env.addressing = Sim.Addressing.emulator)
    {s : State} (h : Run lengths s s') (hquiet : Quiet e)
    (hs : ofEmulator e = s) :
    exists e', Returns (emulatorRun lengths.length) env e lengths e' ∧
      ofEmulator e' = s' ∧ Quiet e' := by
  induction h generalizing e with
  | done s =>
      exact ⟨e, rfl, hs, hquiet⟩
  | next first rest ih =>
      subst hs
      obtain ⟨e₁, hstep, hstate, hquiet₁⟩ := emulator_step henv hquiet first
      obtain ⟨e', hrun, hfinal, hquiet'⟩ := ih hquiet₁ hstate
      exact ⟨e', returns_bind.mpr ⟨_, e₁, hstep,
        returns_bind.mpr ⟨_, e', hrun, rfl⟩⟩, hfinal, hquiet'⟩

/-- The emulator runs every program as it is meant, and each step returns the
bytes of the code that it has executed. -/
theorem emulator_run (henv : env.addressing = Sim.Addressing.emulator)
    (hquiet : Quiet e) (h : Run lengths (ofEmulator e) s') :
    exists e', Returns (emulatorRun lengths.length) env e lengths e' ∧
      ofEmulator e' = s' ∧ Quiet e' :=
  emulator_follows henv h hquiet rfl

/-- An emulator at the start of the program that copies a register. -/
def copyingEmulator : Sim.Emulator Unit :=
  { Sim.Emulator.fresh () copying with
    registers :=
      { Sim.RegisterFile.reset with ax := 0x1234#16, cs := 0xffff#16 } }

theorem copyingEmulator_starts : Copying (ofEmulator copyingEmulator) :=
  ⟨rfl, rfl, rfl, rfl, rfl, by decide⟩

/-- A word goes over the stack, past a jump. -/
theorem emulator_run_copying :
    exists e', Returns (emulatorRun 3) Sim.Environment.bare copyingEmulator
      [1, 2, 1] e' ∧ (ofEmulator e').ip = 5#16 ∧
        (ofEmulator e').gprs Rtl.GPR.BX = 0x1234#16 := by
  obtain ⟨s', hrun, hip, hbx⟩ := run_copying copyingEmulator_starts
  obtain ⟨e', hreturns, hstate, -⟩ :=
    @emulator_run Unit Sim.Environment.bare copyingEmulator [1, 2, 1] s' rfl
      ⟨rfl, rfl⟩ hrun
  refine ⟨e', hreturns, ?_⟩
  rw [hstate]
  exact ⟨hip, hbx⟩

end Isa
end S80x86
