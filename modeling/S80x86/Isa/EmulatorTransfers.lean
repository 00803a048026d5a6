import S80x86.Isa.EmulatorStack
import S80x86.Sim.ConditionalJumps

/-!
# Jumps, calls and returns in the emulator

The handlers that set the instruction pointer.  They say so, and the emulator
does not move it again when the instruction ends.
-/

open Foundation Foundation.Effect

namespace S80x86
namespace Isa

open Rtl (SR)
open Rtl.GPR
open scoped Rtl.Machine.Eval

variable {W : Type} {env : Sim.Environment W} {v : View}

/-!
## Relative jumps
-/

theorem acts_jumpRelative (x : BitVec 16) :
    Acts view env (Sim.jumpRelative x) v () (v.goto (v.nextIp + x)).jumped :=
  acts_nextIp.bind ((acts_setIp _).bind acts_takeJump)

theorem handles_jmp (x : BitVec 16) :
    Handles env (Sim.jumpRelative x) v 0 (.jmp x) := by
  refine ⟨_, acts_jumpRelative x, ?_, rfl⟩
  ext1 <;> simp

/-- A jump that is taken or not, from a state that the handler has reached. -/
theorem left_jump {c : Bool} {x : BitVec 16} (htaken : v.taken = false) :
    (if c then (v.goto (v.nextIp + x)).jumped else v).left =
      v.next.jump c x := by
  cases c with
  | true =>
      ext1 <;> simp
  | false =>
      ext1 <;> simp [htaken]

theorem acts_jumpWhen (c : Bool) (x : BitVec 16) :
    Acts view env (if c then Sim.jumpRelative x else pure ()) v ()
      (if c then (v.goto (v.nextIp + x)).jumped else v) := by
  cases c with
  | true =>
      exact acts_jumpRelative x
  | false =>
      exact acts_pure ()

section Taken

variable (htaken : v.taken = false)
include htaken

theorem handles_jumpIf {cond : Sim.EmuM W Bool} {c : Bool} {x : BitVec 16}
    {op : Operation} (hcond : Acts view env cond v c v)
    (hop : op.exec v.next = v.next.jump c x) :
    Handles env (do
      let taken ← cond
      if taken then Sim.jumpRelative x) v 0 op := by
  refine ⟨_, hcond.bind (acts_jumpWhen c x), ?_, ?_⟩
  · rw [left_jump htaken]
    exact hop.symm
  · cases c <;> rfl

theorem handles_jcxz (x : BitVec 16) :
    Handles env (do
      let taken ← (do
        let cx ← Sim.get .CX
        return cx == 0#16)
      if taken then Sim.jumpRelative x) v 0 (.jcxz x) :=
  handles_jumpIf htaken ((acts_getWord CX).bind (acts_pure _)) rfl

theorem handles_loop {cond : Bool -> Bool} {zero : Option Bool}
    (hcond : forall z, cond z = zero.all fun b => z == b) (x : BitVec 16) :
    Handles env (do
      let cx ← Sim.get .CX
      Sim.set .CX (cx - 1#16)
      let cx ← Sim.get .CX
      let zf ← Sim.getFlag Sim.Flag.ZF
      if cx != 0#16 && cond zf then Sim.jumpRelative x) v 0
      (.loop zero x) := by
  let v₁ := v.setWord CX (v.state.gprs CX - 1#16)
  have hzero : Acts view env (Sim.getFlag Sim.Flag.ZF) v₁
      (v₁.state.flag Rtl.Flag.ZF_IDX) v₁ := acts_getFlag (by decide) rfl rfl
  have hjump : Acts view env _ v₁ () _ := acts_jumpWhen
    (v₁.state.gprs CX != 0#16 && cond (v₁.state.flag Rtl.Flag.ZF_IDX)) x
  refine ⟨_, (acts_getWord CX).bind ((acts_setWord CX _).bind
    ((acts_getWord CX).bind (hzero.bind hjump))), ?_, ?_⟩
  · have htaken₁ : v₁.taken = false := htaken
    rw [left_jump htaken₁, hcond]
    rfl
  · cases v₁.state.gprs CX != 0#16 && cond (v₁.state.flag Rtl.Flag.ZF_IDX) <;>
      rfl

end Taken

/-!
## Conditional jumps
-/

/-- The jump that a code names. -/
def conditionOf (condition : BitVec 4) : Sim.Condition :=
  match condition with
  | 0x0#4 => .jo
  | 0x1#4 => .jno
  | 0x2#4 => .jb
  | 0x3#4 => .jnb
  | 0x4#4 => .je
  | 0x5#4 => .jne
  | 0x6#4 => .jbe
  | 0x7#4 => .jnbe
  | 0x8#4 => .js
  | 0x9#4 => .jns
  | 0xa#4 => .jp
  | 0xb#4 => .jnp
  | 0xc#4 => .jl
  | 0xd#4 => .jnl
  | 0xe#4 => .jle
  | _ => .jnle

theorem opcode_conditionOf (condition : BitVec 4) :
    (conditionOf condition).opcode = 0x70#8 + condition.setWidth 8 := by
  revert condition
  decide

/-- The jump tests the flags that its code names. -/
theorem test_conditionOf (s : State) (condition : BitVec 4)
    {f : Sim.ArithmeticFlags} (hcf : f.cf = s.flag Rtl.Flag.CF_IDX)
    (hsf : f.sf = s.flag Rtl.Flag.SF_IDX) (hzf : f.zf = s.flag Rtl.Flag.ZF_IDX)
    (hpf : f.pf = s.flag Rtl.Flag.PF_IDX)
    (hof : f.of = s.flag Rtl.Flag.OF_IDX) :
    (conditionOf condition).test f = s.holds condition := by
  obtain ⟨af, cf, sf, zf, pf, of⟩ := f
  subst hcf hsf hzf hpf hof
  unfold State.holds State.test Sim.Condition.test
  generalize s.flag Rtl.Flag.OF_IDX = o
  generalize s.flag Rtl.Flag.CF_IDX = c
  generalize s.flag Rtl.Flag.ZF_IDX = z
  generalize s.flag Rtl.Flag.SF_IDX = n
  generalize s.flag Rtl.Flag.PF_IDX = p
  revert af o c z n p condition
  decide +kernel

theorem acts_flagTest (condition : BitVec 4) :
    Acts view env (Sim.flagTest fun f =>
      (conditionOf condition).test
        { af := f Sim.Flag.AF, cf := f Sim.Flag.CF, sf := f Sim.Flag.SF
          zf := f Sim.Flag.ZF, pf := f Sim.Flag.PF, of := f Sim.Flag.OF })
      v (v.state.holds condition) v := by
  refine acts_gets _ (fun v : View => v.state.holds condition) ?_
  intro e
  have hflag {m : BitVec 16} {i : Nat} (hi : i < 12)
      (hm : m = BitVec.twoPow 16 i)
      (hstuck : Sim.Flag.stuckBits.getLsbD i = false) :
      e.registers.getFlag m = (ofEmulator e).flag i := getFlag_eq hi hm hstuck e
  refine test_conditionOf (ofEmulator e) condition ?_ ?_ ?_ ?_ ?_
  · exact hflag (i := Rtl.Flag.CF_IDX) (by decide) rfl rfl
  · exact hflag (i := Rtl.Flag.SF_IDX) (by decide) rfl rfl
  · exact hflag (i := Rtl.Flag.ZF_IDX) (by decide) rfl rfl
  · exact hflag (i := Rtl.Flag.PF_IDX) (by decide) rfl rfl
  · exact hflag (i := Rtl.Flag.OF_IDX) (by decide) rfl rfl

theorem handles_jcc (htaken : v.taken = false) (condition : BitVec 4)
    (x : BitVec 16) :
    Handles env (do
      let taken ← Sim.flagTest fun f =>
        (conditionOf condition).test
          { af := f Sim.Flag.AF, cf := f Sim.Flag.CF, sf := f Sim.Flag.SF
            zf := f Sim.Flag.ZF, pf := f Sim.Flag.PF, of := f Sim.Flag.OF }
      if taken then Sim.jumpRelative x) v 0 (.jcc condition x) :=
  handles_jumpIf htaken (acts_flagTest condition) rfl

/-!
## Far jumps, calls and returns
-/

/-- An address that the handler sets. -/
theorem acts_far (cs ip : BitVec 16) :
    Acts view env (do
      Sim.set .IP ip
      Sim.set .CS cs
      Sim.takeJump) v () ((v.goto ip).setSegment .CS cs).jumped :=
  (acts_setIp ip).bind ((acts_setSegment .CS cs).bind acts_takeJump)

theorem handles_jmpFar (cs ip : BitVec 16) :
    Handles env (do
      Sim.set .IP ip
      Sim.set .CS cs
      Sim.takeJump) v 0 (.jmpFar cs ip) := by
  refine ⟨_, acts_far cs ip, ?_, rfl⟩
  ext1 <;> simp

section Calls

variable (henv : env.addressing = Sim.Addressing.emulator)
include henv

theorem acts_pushNextIp (h : v.state.PushesFit 1) :
    Acts view env Sim.pushNextIp v () (v.push v.nextIp) :=
  acts_nextIp.bind (acts_pushWord henv _ h.first)

theorem handles_call (x : BitVec 16) (h : v.state.PushesFit 1) :
    Handles env (do
      Sim.pushNextIp
      Sim.jumpRelative x) v 0 (.call x) := by
  refine ⟨_, (acts_pushNextIp henv h).bind (acts_jumpRelative x), ?_, rfl⟩
  ext1 <;> simp

theorem handles_callFar (cs ip : BitVec 16) (h : v.state.PushesFit 2) :
    Handles env (do
      Sim.pushReg .CS
      Sim.pushNextIp
      Sim.set .CS cs
      Sim.set .IP ip
      Sim.takeJump) v 0 (.callFar cs ip) := by
  have hcs : Acts view env (Sim.pushReg .CS) v ()
      (v.push (v.state.segments .CS)) :=
    (acts_getSegment .CS).bind (acts_pushWord henv _ h.first)
  have hip : Acts view env Sim.pushNextIp (v.push (v.state.segments .CS)) ()
      ((v.push (v.state.segments .CS)).push v.nextIp) :=
    acts_pushNextIp henv (h.push (v.state.segments .CS))
  have hlast : Acts view env (do
      Sim.set .CS cs
      Sim.set .IP ip
      Sim.takeJump) ((v.push (v.state.segments .CS)).push v.nextIp) ()
      ((((v.push (v.state.segments .CS)).push v.nextIp).setSegment .CS
        cs).goto ip).jumped :=
    (acts_setSegment .CS cs).bind ((acts_setIp ip).bind acts_takeJump)
  refine ⟨_, hcs.bind (Acts.bind hip hlast), ?_, rfl⟩
  ext1 <;> simp

theorem handles_ret (h : v.state.PopsFit 1) :
    Handles env Sim.retc3 v 0 (.ret 0#16) := by
  refine ⟨_, (acts_popWord henv h.first).bind
    ((acts_setIp _).bind acts_takeJump), ?_, rfl⟩
  ext1 <;> simp

theorem handles_retDiscard (x : BitVec 16) (h : v.state.PopsFit 1) :
    Handles env (do
      let ip ← Sim.popWord
      Sim.set .IP ip
      Sim.addSp x
      Sim.takeJump) v 0 (.ret x) := by
  refine ⟨_, (acts_popWord henv h.first).bind
    ((acts_setIp _).bind ((acts_addSp x).bind acts_takeJump)), ?_, rfl⟩
  ext1 <;> simp [BitVec.add_assoc]

theorem handles_retFar (h : v.state.PopsFit 2) :
    Handles env Sim.retcb v 0 (.retFar 0#16) := by
  refine ⟨_, (acts_popWord henv h.first).bind
    ((acts_popWord henv h.drop.first).bind (acts_far _ _)), ?_, rfl⟩
  ext1 <;> simp [BitVec.add_assoc]

theorem handles_retFarDiscard (x : BitVec 16) (h : v.state.PopsFit 2) :
    Handles env (do
      let ip ← Sim.popWord
      let cs ← Sim.popWord
      Sim.set .IP ip
      Sim.set .CS cs
      Sim.addSp x
      Sim.takeJump) v 0 (.retFar x) := by
  refine ⟨_, (acts_popWord henv h.first).bind
    ((acts_popWord henv h.drop.first).bind ((acts_setIp _).bind
      ((acts_setSegment .CS _).bind ((acts_addSp x).bind acts_takeJump)))),
        ?_, rfl⟩
  ext1 <;> simp [BitVec.add_assoc]

theorem handles_iret (h : v.state.PopsFit 3) :
    Handles env Sim.iretcf v 0 .iret := by
  refine ⟨_, (acts_popWord henv h.first).bind
    ((acts_popWord henv h.drop.first).bind
      ((acts_popWord henv h.drop.drop.first).bind ((acts_setIp _).bind
        ((acts_setSegment .CS _).bind ((acts_setFlags _
          (show 0xffff#16 &&& Flag.all = Flag.all from rfl)).bind
            acts_takeJump))))), ?_, rfl⟩
  ext1 <;> simp [BitVec.add_assoc]

/-!
## Interrupts
-/

/-- The vectors are in the first bytes of memory. -/
theorem acts_readVector {vector : BitVec 16} {n : Nat}
    (hn : n = vector.toNat) :
    Acts view env (Sim.read16 (.vector n)) v
      (Rtl.Machine.loadWord v.state.mem 0#16 vector) v := by
  subst hn
  have hfits : Rtl.Bus.linear 0#16 vector ≠ 0xfffff#20 := by
    intro heq
    have hnat := congrArg BitVec.toNat heq
    rw [Rtl.Bus.linear_toNat] at hnat
    have hlt := vector.isLt
    simp at hnat
    omega
  exact acts_read16 henv hfits

/-- What an interrupt makes of the flags, the stack and the address. -/
theorem handles_interrupt (n : BitVec 8) {vector : Nat}
    (hvector : vector = n.toNat * 4) (h : v.state.PushesFit 3) :
    Handles env (Sim.interruptWith v.state.flags vector Sim.nextIp) v 0
      (.int n) := by
  have hn := n.isLt
  have hip : vector = (n.setWidth 16 * 4#16).toNat := by
    rw [BitVec.toNat_mul, BitVec.toNat_setWidth, hvector]
    simp
    omega
  have hcs : vector + 2 = (n.setWidth 16 * 4#16 + 2#16).toNat := by
    rw [BitVec.toNat_add, <- hip, hvector]
    simp
    omega
  have hmask : (Sim.Flag.IF ||| Sim.Flag.TF) &&& Flag.all = Flag.traps := rfl
  let v₁ := v.push v.state.flags
  let v₂ := v₁.push (v.state.segments .CS)
  let v₃ := v₂.push v.nextIp
  have hfits₁ : v₁.state.PushesFit 2 := h.push _
  have hfits₂ : v₂.state.PushesFit 1 := hfits₁.push _
  have hpushed : Acts view env (Sim.pushWord v.nextIp) v₂ () v₃ :=
    acts_pushWord henv _ hfits₂.first
  let v₄ := v₃.setFlags Flag.traps
    (v.state.flags &&& ~~~(Sim.Flag.IF ||| Sim.Flag.TF))
  have hflagged : Acts view env (Sim.setFlags
      (v.state.flags &&& ~~~(Sim.Flag.IF ||| Sim.Flag.TF))
      (Sim.Flag.IF ||| Sim.Flag.TF)) v₃ () v₄ := acts_setFlags _ hmask
  have hgone : Acts view env (do
      let newCs ← Sim.read16 (.vector (vector + 2))
      let newIp ← Sim.read16 (.vector vector)
      Sim.set .CS newCs
      Sim.set .IP newIp
      Sim.takeJump) v₄ () _ :=
    (acts_readVector henv hcs).bind ((acts_readVector henv hip).bind
      ((acts_setSegment .CS _).bind ((acts_setIp _).bind acts_takeJump)))
  refine ⟨_, (acts_pushWord henv _ h.first).bind ((acts_getSegment .CS).bind
    ((acts_pushWord henv _ hfits₁.first).bind (acts_nextIp.bind
      (hpushed.bind (hflagged.bind hgone))))), ?_, rfl⟩
  have hflags : withFlags Flag.traps
      (v.state.flags &&& ~~~(Sim.Flag.IF ||| Sim.Flag.TF)) v.state.flags =
        withFlags Flag.traps 0#16 v.state.flags :=
    withFlags_congr (cleared _ Flag.traps)
  ext1 <;> simp [State.interrupt, hflags, v₁, v₂, v₃, v₄]

theorem handles_int3 (h : v.state.PushesFit 3) :
    Handles env Sim.intcc v 0 (.int 3#8) := by
  obtain ⟨v', hacts, hrest⟩ := handles_interrupt henv 3#8
    (show Sim.Vector.INT = _ from rfl) h
  exact ⟨v', acts_getFlags.bind hacts, hrest⟩

theorem handles_int {n : BitVec 8}
    (hfits : v.state.ip.toNat + v.length < 2 ^ 16)
    (hn : v.state.code v.length = n) (h : v.state.PushesFit 3) :
    Handles env Sim.intcd v 1 (.int n) := by
  have hhandles : Handles env (Sim.fetchByte >>= fun n =>
      Sim.interruptWith v.state.flags (n.toNat * 4) Sim.nextIp) v 1 (.int n) :=
    Handles.fetchByte henv hfits hn
      (@handles_interrupt W env (v.fetched 1) henv n _ rfl h)
  obtain ⟨v', hacts, hrest⟩ := hhandles
  exact ⟨v', acts_getFlags.bind hacts, hrest⟩

theorem handles_into (htaken : v.taken = false)
    (h : v.state.flag Rtl.Flag.OF_IDX = true -> v.state.PushesFit 3) :
    Handles env Sim.intoce v 0 .into := by
  have hof : v.state.flags &&& Sim.Flag.OF =
      if v.state.flag Rtl.Flag.OF_IDX then Sim.Flag.OF else 0#16 :=
    BitVec.and_twoPow v.state.flags 11
  cases hset : v.state.flag Rtl.Flag.OF_IDX with
  | true =>
      obtain ⟨v', hacts, hleft, hrest⟩ := handles_interrupt henv 4#8
        (show Sim.Vector.OVERFLOW = _ from rfl) (h hset)
      have hne : v.state.flags &&& Sim.Flag.OF ≠ 0#16 := by
        rw [hof, hset]
        decide
      refine ⟨v', acts_getFlags.bind ?_, ?_, hrest⟩
      · rw [if_neg hne]
        exact hacts
      · rw [hleft]
        have hnext : v.next.flag Rtl.Flag.OF_IDX = true := hset
        simp only [Operation.exec, View.fetched, Nat.add_zero]
        exact (if_pos hnext).symm
  | false =>
      have heq : v.state.flags &&& Sim.Flag.OF = 0#16 := by
        rw [hof, hset]
        rfl
      refine ⟨v, acts_getFlags.bind ?_, ?_, rfl⟩
      · rw [if_pos heq]
        exact acts_pure ()
      · have hnext : ¬v.next.flag Rtl.Flag.OF_IDX = true := by
          change ¬v.state.flag Rtl.Flag.OF_IDX = true
          rw [hset]
          decide
        unfold View.left
        rw [htaken]
        exact (if_neg hnext).symm

end Calls
end Isa
end S80x86
