import S80x86.Foundation.Abstraction
import S80x86.Isa.CoreState
import S80x86.Isa.Program
import S80x86.Sim.CoreStates

/-!
# The emulator as an implementation

What a program and the rest of an instruction see of the emulator, and what
the primitive operations of the emulator do to it.
-/

open Foundation Foundation.Effect

namespace S80x86
namespace Isa

open Rtl (SR)
open Rtl.GPR

variable {W : Type}

def ofEmulator (e : Sim.Emulator W) : State :=
  { gprs := e.registers.words
    segments := fun n => e.registers.get (Sim.segmentRegister n)
    flags := e.registers.getFlags, ip := e.registers.ip, mem := e.mem.mem }

/-- The state of the program, and how far the instruction has come.  While it
is plain, there was neither a prefix nor a ModRM byte. -/
@[ext] structure View where
  state : State
  opcode : BitVec 8
  length : Nat
  taken : Bool
  nmiPending : Bool
  pendingIrq : BitVec 8
  tfWasSet : Bool
  plain : Bool

def view (e : Sim.Emulator W) : View :=
  { state := ofEmulator e, opcode := e.opcode, length := e.instrLength
    taken := e.jumpTaken, nmiPending := e.nmiPending
    pendingIrq := e.pendingIrq, tfWasSet := e.tfWasSet
    plain := !(e.defaultSegmentOverriden || e.hasRepPrefix ||
      e.modrmDecoder.isDecoded) }

namespace View

variable (v : View)

@[simps] def setWord (r : BitVec 3) (x : BitVec 16) : View :=
  { v with state := v.state.setWord r x }

@[simps] def setByte (r : BitVec 3) (x : BitVec 16) : View :=
  { v with state := v.state.setReg true r x }

@[simps] def setSegment (n : SR) (x : BitVec 16) : View :=
  { v with state := v.state.setSegment n x }

@[simps] def setFlags (mask x : BitVec 16) : View :=
  { v with state := v.state.setFlags mask x }

@[simps] def goto (ip : BitVec 16) : View :=
  { v with state := v.state.goto ip }

@[simps] def push (x : BitVec 16) : View :=
  { v with state := v.state.push x }

@[simps] def drop (n : BitVec 16) : View :=
  { v with state := v.state.drop n }

@[simps] def fetched (n : Nat) : View := { v with length := v.length + n }

@[simps] def jumped : View := { v with taken := true }

/-- The address after the bytes fetched so far. -/
def nextIp : BitVec 16 := v.state.ip + BitVec.ofNat 16 v.length

/-- The state in which `IP` is already at the next instruction. -/
def next : State := v.state.goto v.nextIp

/-- The state that the instruction leaves. -/
def left : State := if v.taken then v.state else v.next

end View

/-!
## Registers and flags
-/

section Registers

variable {env : Sim.Environment W} {v : View}

theorem acts_getWord (r : BitVec 3) :
    Acts view env (Sim.get (.word r)) v (v.state.gprs r) v :=
  acts_gets _ (fun v : View => v.state.gprs r) (fun _ => rfl)

theorem acts_getSegment (n : SR) :
    Acts view env (Sim.get (Sim.segmentRegister n)) v (v.state.segments n) v :=
  acts_gets _ (fun v : View => v.state.segments n) (fun _ => rfl)

theorem acts_getIp : Acts view env (Sim.get .IP) v v.state.ip v :=
  acts_gets _ (fun v : View => v.state.ip) (fun _ => rfl)

theorem acts_getFlags : Acts view env Sim.getFlags v v.state.flags v :=
  acts_gets _ (fun v : View => v.state.flags) (fun _ => rfl)

theorem acts_getByte (r : BitVec 3) :
    Acts view env (Sim.get (.byte r)) v (v.state.gprs.read true r) v :=
  acts_gets _ (fun v : View => v.state.gprs.read true r)
    (fun e : Sim.Emulator W => Sim.get_selected e.registers true r)

/-- What the registers show after one of them is written. -/
theorem ofEmulator_set {e : Sim.Emulator W} (r : Sim.RegisterFile) (s : State)
    (hgprs : r.words = s.gprs)
    (hsegments : forall n, r.get (Sim.segmentRegister n) = s.segments n)
    (hflags : r.getFlags = s.flags) (hip : r.ip = s.ip)
    (hmem : e.mem.mem = s.mem) :
    ofEmulator { e with registers := r } = s := by
  ext1
  · exact hgprs
  · exact funext hsegments
  · exact hflags
  · exact hip
  · exact hmem

theorem acts_setWord (r : BitVec 3) (x : BitVec 16) :
    Acts view env (Sim.set (.word r) x) v () (v.setWord r x) := by
  refine acts_modify _ (fun v : View => v.setWord r x) ?_
  intro e
  have hset := Sim.words_set e.registers false r x
  have hstate : ofEmulator
      { e with registers := e.registers.set (.word r) x } =
        (ofEmulator e).setWord r x := by
    refine ofEmulator_set _ _ hset ?_ ?_ ?_ rfl
    · intro n
      rcases reg_cases r with
        rfl | rfl | rfl | rfl | rfl | rfl | rfl | rfl <;> cases n <;> rfl
    · unfold Sim.RegisterFile.getFlags
      rw [Sim.RegisterFile.flags_set]
      rfl
    · rcases reg_cases r with
        rfl | rfl | rfl | rfl | rfl | rfl | rfl | rfl <;> rfl
  ext1
  · exact hstate
  all_goals rfl

theorem acts_setByte (r : BitVec 3) (x : BitVec 16) :
    Acts view env (Sim.set (.byte r) x) v () (v.setByte r x) := by
  refine acts_modify _ (fun v : View => v.setByte r x) ?_
  intro e
  have hset := Sim.words_set e.registers true r x
  have hstate : ofEmulator
      { e with registers := e.registers.set (.byte r) x } =
        (ofEmulator e).setReg true r x := by
    refine ofEmulator_set _ _ hset ?_ ?_ ?_ rfl
    · intro n
      rcases reg_cases r with
        rfl | rfl | rfl | rfl | rfl | rfl | rfl | rfl <;> cases n <;> rfl
    · unfold Sim.RegisterFile.getFlags
      rw [Sim.RegisterFile.flags_set]
      rfl
    · rcases reg_cases r with
        rfl | rfl | rfl | rfl | rfl | rfl | rfl | rfl <;> rfl
  ext1
  · exact hstate
  all_goals rfl

theorem acts_setSegment (n : SR) (x : BitVec 16) :
    Acts view env (Sim.set (Sim.segmentRegister n) x) v ()
      (v.setSegment n x) := by
  refine acts_modify _ (fun v : View => v.setSegment n x) ?_
  intro e
  have hstate : ofEmulator
      { e with registers := e.registers.set (Sim.segmentRegister n) x } =
        (ofEmulator e).setSegment n x := by
    refine ofEmulator_set _ _ ?_ ?_ ?_ ?_ rfl
    · funext r
      rcases reg_cases r with
        rfl | rfl | rfl | rfl | rfl | rfl | rfl | rfl <;> cases n <;> rfl
    · intro k
      cases n <;> cases k <;> rfl
    · unfold Sim.RegisterFile.getFlags
      rw [Sim.RegisterFile.flags_set]
      rfl
    · cases n <;> rfl
  ext1
  · exact hstate
  all_goals rfl

theorem acts_setIp (x : BitVec 16) :
    Acts view env (Sim.set .IP x) v () (v.goto x) := by
  refine acts_modify _ (fun v : View => v.goto x) ?_
  intro e
  have hstate : ofEmulator { e with registers := e.registers.set .IP x } =
      (ofEmulator e).goto x := by
    refine ofEmulator_set _ _ ?_ ?_ rfl rfl rfl
    · funext r
      rcases reg_cases r with
        rfl | rfl | rfl | rfl | rfl | rfl | rfl | rfl <;> rfl
    · intro k
      cases k <;> rfl
  ext1
  · exact hstate
  all_goals rfl

/-- The flags of a mask that the emulator writes are the valid ones. -/
theorem acts_setFlags {mask valid : BitVec 16} (x : BitVec 16)
    (hmask : mask &&& Flag.all = valid) :
    Acts view env (Sim.setFlags x mask) v () (v.setFlags valid x) := by
  refine acts_modify _ (fun v : View => v.setFlags valid x) ?_
  intro e
  have hsame : e.registers.setFlags x mask = e.registers.setFlags x valid := by
    have hvalid : mask &&& ~~~Sim.Flag.reservedMask &&& Sim.Flag.validMask =
        valid &&& ~~~Sim.Flag.reservedMask &&& Sim.Flag.validMask := by
      rw [<- hmask, BitVec.and_assoc, BitVec.and_assoc, BitVec.and_assoc]
      rfl
    unfold Sim.RegisterFile.setFlags
    dsimp only
    rw [hvalid]
  have hstate : ofEmulator
      { e with registers := e.registers.setFlags x mask } =
        (ofEmulator e).setFlags valid x := by
    refine ofEmulator_set _ _ ?_ ?_ ?_ rfl rfl
    · funext r
      exact Sim.RegisterFile.get_setFlags _ _ _ _
    · intro k
      exact Sim.RegisterFile.get_setFlags _ _ _ _
    · rw [hsame]
      refine withFlags_setFlags _ ?_ _
      rw [<- hmask, BitVec.and_assoc, BitVec.and_self]
  ext1
  · exact hstate
  all_goals rfl

end Registers

/-!
## Progress
-/

section Progress

variable {env : Sim.Environment W} {v : View}

theorem acts_opcodeReg :
    Acts view env Sim.opcodeReg v (v.opcode.extractLsb' 0 3) v :=
  Acts.bind (acts_gets _ (fun v : View => v.opcode) (fun _ => rfl))
    (acts_pure _)

theorem acts_opcodeSegment :
    Acts view env Sim.opcodeSegment v
      (.segment (v.opcode.extractLsb' 3 2)) v :=
  Acts.bind (acts_gets _ (fun v : View => v.opcode) (fun _ => rfl))
    (acts_pure _)

theorem acts_takeJump : Acts view env Sim.takeJump v () v.jumped :=
  acts_modify _ (fun v : View => v.jumped) (fun _ => rfl)

theorem acts_inhibitExtInt : Acts view env Sim.inhibitExtInt v () v :=
  acts_modify _ (fun v : View => v) (fun _ => rfl)

theorem acts_nextIp : Acts view env Sim.nextIp v v.nextIp v :=
  acts_getIp.bind ((acts_gets _ (fun v : View => v.length)
    (fun _ => rfl)).bind (acts_pure _))

/-- A flag that is there. -/
theorem getFlag_eq {f : BitVec 16} {i : Nat} (hi : i < 12)
    (hf : f = BitVec.twoPow 16 i)
    (hstuck : Sim.Flag.stuckBits.getLsbD i = false) (e : Sim.Emulator W) :
    e.registers.getFlag f = (ofEmulator e).flag i := by
  have hwide : i < 16 := by omega
  have hbit : (ofEmulator e).flag i = e.registers.flags.getLsbD i := by
    change (e.registers.flags ||| Sim.Flag.stuckBits).getLsbD i = _
    rw [BitVec.getLsbD_or, hstuck, Bool.or_false]
  have hne : BitVec.twoPow 16 i ≠ 0#16 := by
    interval_cases i <;> decide
  rw [hbit, hf]
  unfold Sim.RegisterFile.getFlag
  rw [BitVec.and_twoPow]
  cases e.registers.flags.getLsbD i with
  | false => rfl
  | true => simpa using hne

theorem acts_getFlag {f : BitVec 16} {i : Nat} (hi : i < 12)
    (hf : f = BitVec.twoPow 16 i)
    (hstuck : Sim.Flag.stuckBits.getLsbD i = false) :
    Acts view env (Sim.getFlag f) v (v.state.flag i) v := by
  refine acts_gets _ (fun v : View => v.state.flag i) ?_
  intro e
  exact getFlag_eq hi hf hstuck e

theorem acts_addSp (n : BitVec 16) :
    Acts view env (Sim.addSp n) v () (v.drop n) :=
  (acts_getWord SP).bind (acts_setWord SP _)

theorem acts_subSp (n : BitVec 16) :
    Acts view env (Sim.subSp n) v () (v.setWord SP (v.state.gprs SP - n)) :=
  (acts_getWord SP).bind (acts_setWord SP _)

end Progress

/-!
## Memory
-/

namespace View

/-- A word written to the memory. -/
def store (v : View) (segment offset x : BitVec 16) : View :=
  { v with state :=
      { v.state with
        mem := Rtl.Machine.storeWord v.state.mem segment offset x } }

end View

/-- The word does not go across the end of memory. -/
theorem word_fits {segment offset : BitVec 16}
    (h : Rtl.Bus.linear segment offset ≠ 0xfffff#20) :
    (Sim.getPhysAddr segment offset.toNat).linear + 2 <= Sim.memorySize := by
  have hlt : (Sim.getPhysAddr segment offset.toNat).linear < Sim.memorySize :=
    Nat.mod_lt _ (by decide)
  have hne : (Sim.getPhysAddr segment offset.toNat).linear ≠ 0xfffff := by
    intro heq
    rw [Sim.linear_eq, heq] at h
    exact h rfl
  unfold Sim.memorySize at hlt ⊢
  omega

section Memory

variable {env : Sim.Environment W} {v : View}
  (henv : env.addressing = Sim.Addressing.emulator)
include henv

theorem acts_read16 {segment offset : BitVec 16}
    (h : Rtl.Bus.linear segment offset ≠ 0xfffff#20) :
    Acts view env (Sim.read16 (Sim.getPhysAddr segment offset.toNat)) v
      (Rtl.Machine.loadWord v.state.mem segment offset) v := by
  intro e he
  subst he
  refine ⟨e, ?_, rfl⟩
  have hload : Rtl.Machine.loadWord (view e).state.mem segment offset =
      e.mem.word (Sim.getPhysAddr segment offset.toNat).linear :=
    Sim.loadWord_eq e.mem segment offset
  rw [hload]
  exact Sim.read16_returns henv e (word_fits h)

theorem acts_write16 {segment offset : BitVec 16} (x : BitVec 16)
    (h : Rtl.Bus.linear segment offset ≠ 0xfffff#20) :
    Acts view env (Sim.write16 (Sim.getPhysAddr segment offset.toNat) x) v ()
      (v.store segment offset x) := by
  intro e he
  subst he
  refine ⟨_, Sim.write16_returns henv e x (word_fits h), ?_⟩
  have hstore := Sim.storeWord_eq e.mem segment offset x
  ext1
  · ext1
    · rfl
    · rfl
    · rfl
    · rfl
    · exact hstore.symm
  all_goals rfl

theorem acts_loadTop
    (h : Rtl.Bus.linear (v.state.segments .SS) (v.state.gprs SP) ≠
      0xfffff#20) :
    Acts view env Sim.loadTop v v.state.top v :=
  (acts_getSegment .SS).bind ((acts_getWord SP).bind (acts_read16 henv h))

theorem acts_popWord
    (h : Rtl.Bus.linear (v.state.segments .SS) (v.state.gprs SP) ≠
      0xfffff#20) :
    Acts view env Sim.popWord v v.state.top (v.drop 2#16) :=
  (acts_getSegment .SS).bind ((acts_getWord SP).bind
    ((acts_read16 henv h).bind ((acts_getWord SP).bind
      ((acts_setWord SP _).bind (acts_pure _)))))

theorem acts_storeTop (x : BitVec 16)
    (h : Rtl.Bus.linear (v.state.segments .SS) (v.state.gprs SP) ≠
      0xfffff#20) :
    Acts view env (Sim.storeTop x) v ()
      (v.store (v.state.segments .SS) (v.state.gprs SP) x) :=
  (acts_getSegment .SS).bind ((acts_getWord SP).bind (acts_write16 henv x h))

theorem acts_pushWord (x : BitVec 16)
    (h : Rtl.Bus.linear (v.state.segments .SS) (v.state.gprs SP - 2#16) ≠
      0xfffff#20) :
    Acts view env (Sim.pushWord x) v () (v.push x) :=
  (acts_getWord SP).bind ((acts_setWord SP _).bind
    ((acts_getSegment .SS).bind ((acts_getWord SP).bind
      (acts_write16 henv x h))))

theorem acts_fetchByte (h : v.state.ip.toNat + v.length < 2 ^ 16) :
    Acts view env Sim.fetchByte v (v.state.code v.length) (v.fetched 1) := by
  intro e he
  subst he
  have hreturns := Sim.fetchByte_returns (Sim.linear henv) e
  have hip : e.registers.ip.toNat + e.instrLength < 2 ^ 16 := h
  have hoffset : (e.registers.ip + BitVec.ofNat 16 e.instrLength).toNat =
      e.registers.ip.toNat + e.instrLength := by
    rw [BitVec.toNat_add, BitVec.toNat_ofNat,
      Nat.mod_eq_of_lt (by omega : e.instrLength < 2 ^ 16),
      Nat.mod_eq_of_lt hip]
  have hcode : (view e).state.code (view e).length =
      e.codeByte e.instrLength := by
    have hload := Sim.loadByte_eq e.mem e.registers.cs
      (e.registers.ip + BitVec.ofNat 16 e.instrLength)
    rw [hoffset] at hload
    exact hload
  rw [hcode]
  exact ⟨_, hreturns, rfl⟩

end Memory
end Isa
end S80x86
