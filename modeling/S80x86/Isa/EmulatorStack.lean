import S80x86.Isa.EmulatorHandlers

/-!
# The stack handlers of the emulator

The emulator stops when a word goes across the end of memory; where none does,
the handlers of the stack do what the instructions are for.
-/

open Foundation Foundation.Effect

namespace S80x86
namespace Isa

open Rtl (SR)
open Rtl.GPR
open scoped Rtl.Machine.Eval

variable {W : Type}

/-!
## Words that fit
-/

namespace State

variable {s : State}

/-- The next words below the top of the stack fit. -/
def PushesFit (s : State) (n : Nat) : Prop :=
  forall i, i < n -> Rtl.Bus.linear (s.segments .SS)
    (s.gprs SP - BitVec.ofNat 16 (2 * (i + 1))) ≠ 0xfffff#20

/-- The words at the top of the stack fit. -/
def PopsFit (s : State) (n : Nat) : Prop :=
  forall i, i < n -> Rtl.Bus.linear (s.segments .SS)
    (s.gprs SP + BitVec.ofNat 16 (2 * i)) ≠ 0xfffff#20

theorem pushesFit_of_words {n : Nat}
    (h : forall p, p ∈ s.pushes n -> Rtl.Bus.linear p.1 p.2 ≠ 0xfffff#20) :
    s.PushesFit n := by
  intro i hi
  have hmem : (s.segments .SS, s.gprs SP - BitVec.ofNat 16 (2 * (i + 1))) ∈
      s.pushes n := List.mem_map.mpr ⟨i, List.mem_range.mpr hi, rfl⟩
  have hword := h _ hmem
  exact hword

theorem popsFit_of_words {n : Nat}
    (h : forall p, p ∈ s.pops n -> Rtl.Bus.linear p.1 p.2 ≠ 0xfffff#20) :
    s.PopsFit n := by
  intro i hi
  have hmem : (s.segments .SS, s.gprs SP + BitVec.ofNat 16 (2 * i)) ∈
      s.pops n := List.mem_map.mpr ⟨i, List.mem_range.mpr hi, rfl⟩
  have hword := h _ hmem
  exact hword

theorem PushesFit.first {n : Nat} (h : s.PushesFit (n + 1)) :
    Rtl.Bus.linear (s.segments .SS) (s.gprs SP - 2#16) ≠ 0xfffff#20 :=
  h 0 (Nat.succ_pos n)

theorem PushesFit.push {n : Nat} (h : s.PushesFit (n + 1)) (x : BitVec 16) :
    (s.push x).PushesFit n := by
  intro i hi
  have hnext := h (i + 1) (Nat.succ_lt_succ hi)
  have hsp : s.gprs SP - BitVec.ofNat 16 (2 * (i + 1 + 1)) =
      s.gprs SP - 2#16 - BitVec.ofNat 16 (2 * (i + 1)) := by
    rw [BitVec.sub_sub, <- BitVec.ofNat_add]
    congr 2
    omega
  rw [hsp] at hnext
  simpa using hnext

theorem PopsFit.first {n : Nat} (h : s.PopsFit (n + 1)) :
    Rtl.Bus.linear (s.segments .SS) (s.gprs SP) ≠ 0xfffff#20 := by
  simpa using h 0 (Nat.succ_pos n)

theorem PopsFit.drop {n : Nat} (h : s.PopsFit (n + 1)) :
    (s.drop 2#16).PopsFit n := by
  intro i hi
  have hnext := h (i + 1) (Nat.succ_lt_succ hi)
  have hsp : s.gprs SP + BitVec.ofNat 16 (2 * (i + 1)) =
      s.gprs SP + 2#16 + BitVec.ofNat 16 (2 * i) := by
    rw [BitVec.add_assoc, <- BitVec.ofNat_add]
    congr 2
    omega
  rw [hsp] at hnext
  simpa using hnext

/-- The other registers say nothing about the stack. -/
theorem PopsFit.setWord {n : Nat} (h : s.PopsFit n) {r : BitVec 3}
    (hr : SP ≠ r) (x : BitVec 16) : (s.setWord r x).PopsFit n := by
  intro i hi
  have hnext := h i hi
  simpa [hr] using hnext

end State

/-!
## Pushes
-/

/-- A register taken from the stack. -/
def View.pop (v : View) (r : BitVec 3) : View :=
  (v.drop 2#16).setWord r v.state.top

section Stack

variable {env : Sim.Environment W} {v : View}
  (henv : env.addressing = Sim.Addressing.emulator)
include henv

theorem acts_storeMoved (x : BitVec 16) (h : v.state.PushesFit 1) :
    Acts view env
      (Sim.storeTop x) (v.setWord SP (v.state.gprs SP - 2#16)) ()
      (v.push x) := by
  have hfits : Rtl.Bus.linear
      ((v.setWord SP (v.state.gprs SP - 2#16)).state.segments .SS)
      ((v.setWord SP (v.state.gprs SP - 2#16)).state.gprs SP) ≠ 0xfffff#20 := by
    simpa using h.first
  refine (acts_storeTop henv x hfits).congr ?_
  ext1
  · ext1 <;> simp
  all_goals rfl

/-- One push of many, and the rest of them. -/
theorem acts_pushWord_next {x : BitVec 16} {n : Nat} {v' : View}
    {body : Unit -> Sim.EmuM W Unit} (h : v.state.PushesFit (n + 1))
    (hbody : (v.push x).state.PushesFit n ->
      Acts view env (body ()) (v.push x) () v') :
    Acts view env (Sim.pushWord x >>= body) v () v' :=
  (acts_pushWord henv x h.first).bind (hbody (h.push x))

theorem acts_pushReg_next (r : BitVec 3) {n : Nat} {v' : View}
    {body : Unit -> Sim.EmuM W Unit} (h : v.state.PushesFit (n + 1))
    (hbody : (v.push (v.state.gprs r)).state.PushesFit n ->
      Acts view env (body ()) (v.push (v.state.gprs r)) () v') :
    Acts view env (Sim.pushReg (.word r) >>= body) v () v' :=
  Acts.bind ((acts_getWord r).bind (acts_pushWord henv _ h.first))
    (hbody (h.push _))

variable (htaken : v.taken = false)
include htaken

theorem handles_pushWord {r : BitVec 3} (hr : v.opcode.extractLsb' 0 3 = r)
    (hfits : v.state.PushesFit 1) :
    Handles env Sim.push50_57 v 0 (.push (.word r)) := by
  subst hr
  refine ⟨_, acts_opcodeReg.bind ((acts_subSp 2#16).bind
    ((acts_getWord _).bind (acts_storeMoved henv _ hfits))), ?_, rfl⟩
  ext1 <;> simp [htaken]

theorem handles_pushSegment {n : SR}
    (hn : Sim.GPR.segment (v.opcode.extractLsb' 3 2) = Sim.segmentRegister n)
    (hfits : v.state.PushesFit 1) :
    Handles env Sim.pushsr v 0 (.push (.segment n)) := by
  have hsegment := @acts_opcodeSegment W env v
  rw [hn] at hsegment
  refine ⟨_, hsegment.bind ((acts_getSegment n).bind ((acts_subSp 2#16).bind
    (acts_storeMoved henv _ hfits))), ?_, rfl⟩
  ext1 <;> simp [htaken]

theorem handles_pushf (hfits : v.state.PushesFit 1) :
    Handles env Sim.pushf9c v 0 (.push .flags) := by
  refine ⟨_, acts_getFlags.bind ((acts_subSp 2#16).bind
    (acts_storeMoved henv _ hfits)), ?_, rfl⟩
  ext1 <;> simp [htaken]

theorem handles_pushValue (x : BitVec 16) (hfits : v.state.PushesFit 1) :
    Handles env (Sim.subSp 2#16 >>= fun _ => Sim.storeTop x) v 0
      (.push (.value x)) := by
  refine ⟨_, (acts_subSp 2#16).bind (acts_storeMoved henv _ hfits), ?_, rfl⟩
  ext1 <;> simp [htaken]

theorem handles_pusha (hfits : v.state.PushesFit 8) :
    Handles env Sim.pusha60 v 0 .pusha := by
  have hacts : Acts view env Sim.pusha60 v ()
      ((((((((v.push (v.state.gprs AX)).push (v.state.gprs CX)).push
        (v.state.gprs DX)).push (v.state.gprs BX)).push (v.state.gprs SP)).push
          (v.state.gprs BP)).push (v.state.gprs SI)).push
            (v.state.gprs DI)) := by
    refine (acts_getWord SP).bind ?_
    refine acts_pushReg_next henv AX hfits (fun h => ?_)
    refine acts_pushReg_next henv CX h (fun h => ?_)
    refine acts_pushReg_next henv DX h (fun h => ?_)
    refine acts_pushReg_next henv BX h (fun h => ?_)
    refine acts_pushWord_next henv h (fun h => ?_)
    refine acts_pushReg_next henv BP h (fun h => ?_)
    refine acts_pushReg_next henv SI h (fun h => ?_)
    exact (acts_getWord DI).bind (acts_pushWord henv _ h.first)
  refine ⟨_, hacts, ?_, rfl⟩
  ext1 <;> simp [htaken]

/-!
## Pops
-/

theorem handles_popWord {r : BitVec 3} (hr : v.opcode.extractLsb' 0 3 = r)
    (hfits : v.state.PopsFit 1) :
    Handles env Sim.pop58_5f v 0 (.pop (.word r)) := by
  subst hr
  refine ⟨_, acts_opcodeReg.bind ((acts_loadTop henv hfits.first).bind
    ((acts_addSp 2#16).bind (acts_setWord _ _))), ?_, rfl⟩
  ext1 <;> simp [htaken]

theorem handles_popSegment {n : SR}
    (hn : Sim.GPR.segment (v.opcode.extractLsb' 3 2) = Sim.segmentRegister n)
    (hfits : v.state.PopsFit 1) :
    Handles env Sim.popsr v 0 (.pop (.segment n)) := by
  have hsegment := @acts_opcodeSegment W env v
  rw [hn] at hsegment
  refine ⟨_, hsegment.bind ((acts_loadTop henv hfits.first).bind
    ((acts_setSegment n _).bind ((acts_addSp 2#16).bind
      acts_inhibitExtInt))), ?_, rfl⟩
  ext1 <;> simp [htaken]

theorem handles_popf (hfits : v.state.PopsFit 1) :
    Handles env Sim.popf9d v 0 (.pop .flags) := by
  refine ⟨_, (acts_loadTop henv hfits.first).bind ((acts_setFlags _
    (show 0xffff#16 &&& Flag.all = Flag.all from rfl)).bind
      (acts_addSp 2#16)), ?_, rfl⟩
  ext1 <;> simp [htaken]

theorem handles_leave
    (hfits : Rtl.Bus.linear (v.state.segments .SS) (v.state.gprs BP) ≠
      0xfffff#20) :
    Handles env Sim.leavec9 v 0 .leave := by
  have htop : Rtl.Bus.linear
      ((v.setWord SP (v.state.gprs BP)).state.segments .SS)
      ((v.setWord SP (v.state.gprs BP)).state.gprs SP) ≠ 0xfffff#20 := by
    simpa using hfits
  refine ⟨_, (acts_getWord BP).bind ((acts_setWord SP _).bind
    ((acts_popWord henv htop).bind (acts_setWord BP _))), ?_, rfl⟩
  ext1 <;> simp [htaken]

omit htaken in
theorem acts_popReg_next (r : BitVec 3) (hr : SP ≠ r) {n : Nat} {v' : View}
    {body : Unit -> Sim.EmuM W Unit} (h : v.state.PopsFit (n + 1))
    (hbody : (v.pop r).state.PopsFit n ->
      Acts view env (body ()) (v.pop r) () v') :
    Acts view env (Sim.popReg (.word r) >>= body) v () v' :=
  Acts.bind ((acts_popWord henv h.first).bind (acts_setWord r _))
    (hbody (h.drop.setWord hr _))

theorem handles_popa (hfits : v.state.PopsFit 8) :
    Handles env Sim.popa61 v 0 .popa := by
  have hacts : Acts view env Sim.popa61 v ()
      ((((((((v.pop DI).pop SI).pop BP).drop 2#16).pop BX).pop DX).pop CX).pop
        AX) := by
    refine acts_popReg_next henv DI (by decide) hfits (fun h => ?_)
    refine acts_popReg_next henv SI (by decide) h (fun h => ?_)
    refine acts_popReg_next henv BP (by decide) h (fun h => ?_)
    refine (acts_popWord henv h.first).bind ?_
    refine acts_popReg_next henv BX (by decide) h.drop (fun h => ?_)
    refine acts_popReg_next henv DX (by decide) h (fun h => ?_)
    refine acts_popReg_next henv CX (by decide) h (fun h => ?_)
    exact (acts_popWord henv h.first).bind (acts_setWord AX _)
  refine ⟨_, hacts, ?_, rfl⟩
  ext1
  · funext r
    rcases reg_cases r with
      rfl | rfl | rfl | rfl | rfl | rfl | rfl | rfl
    all_goals simp [View.pop, htaken, BitVec.add_assoc]
    all_goals rfl
  all_goals simp [View.pop, htaken]

end Stack
end Isa
end S80x86
