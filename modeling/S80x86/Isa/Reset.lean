import S80x86.Isa.CoreProgram

/-!
# Reset

The microprogram that follows a reset, and the program that the core runs after
it.
-/

open Foundation Foundation.Clocked

namespace S80x86
namespace Isa

open Rtl Rtl.GPR Rtl.Machine
open scoped Rtl.Machine.Eval

/-- The state in which a program starts. -/
def State.reset (mem : Memory) : State :=
  { gprs := fun _ => 0#16
    segments := fun n => if n = .CS then 0xffff#16 else 0#16
    flags := 0xf002#16, ip := 0#16, mem := mem }

/-!
## The microprogram
-/

/-- The word that clears a register. -/
def clearWord (r : BitVec 3) (next : Nat) : Microinstruction :=
  { bSel := .IMMEDIATE, aluOp := .SELB, immediate := some 0#16
    rdSelSource := .MICROCODE_RD_SEL, rdSel := r, next := next }

/-- The word that loads a segment register. -/
def segmentWord (n : SR) (v : BitVec 16) (next : Nat) : Microinstruction :=
  { bSel := .IMMEDIATE, aluOp := .SELB, immediate := some v
    segmentForce := true, segment := n, segmentWrEn := true, next := next }

/-- The registers that are cleared, with the addresses that follow. -/
def clearedRegisters : List (BitVec 3 × Nat) :=
  [(AX, 0x48c), (CX, 0x48d), (DX, 0x48e), (BX, 0x48f), (SP, 0x490),
    (BP, 0x491), (SI, 0x492), (DI, 0x493)]

/-- The segment registers that are loaded. -/
def segmentsLoaded : List ((SR × BitVec 16) × Nat) :=
  [((.ES, 0#16), 0x494), ((.CS, 0xffff#16), 0x495), ((.SS, 0#16), 0x496),
    ((.DS, 0#16), 0x497)]

def clears : List Microinstruction :=
  clearedRegisters.map (fun p => clearWord p.1 p.2)

def loads : List Microinstruction :=
  segmentsLoaded.map (fun p => segmentWord p.1.1 p.1.2 p.2)

/-- The words before the last. -/
def resetWords : List Microinstruction :=
  ({ next := 0x48b } :: clears) ++ loads

/-- The address of the last word. -/
def resetEnd : Nat := 0x497

set_option maxRecDepth 4000 in
theorem resetEnd_word : Microcode.mem resetEnd = fallWord 0x100 := rfl

theorem resetWords_brief : resetWords.all Core.brief = true := rfl

set_option maxRecDepth 4000 in
theorem reset_path (c : Control) :
    c.path 13 none Core.resetAddress = some (resetWords, resetEnd) := rfl

section Words

variable {m : Machine} (hnew : m.newIp = none)

include hnew in
theorem clearWord_follow (r : BitVec 3) (next : Nat) :
    (m.follow [clearWord r next]).newIp = none ∧
      ofMachine (m.follow [clearWord r next]) =
        (ofMachine m).setWord r 0#16 := by
  constructor
  · simp [clearWord, hnew]
  · ext1 <;> simp [clearWord]

include hnew in
theorem segmentWord_follow (n : SR) (v : BitVec 16) (next : Nat) :
    (m.follow [segmentWord n v next]).newIp = none ∧
      ofMachine (m.follow [segmentWord n v next]) =
        (ofMachine m).setSegment n v := by
  constructor
  · simp [segmentWord, hnew]
  · ext1 <;> simp [segmentWord]

/-- The registers are cleared one after another. -/
theorem clears_follow (rs : List (BitVec 3 × Nat)) {m : Machine}
    (hnew : m.newIp = none) :
    (m.follow (rs.map (fun p => clearWord p.1 p.2))).newIp = none ∧
      ofMachine (m.follow (rs.map (fun p => clearWord p.1 p.2))) =
        rs.foldl (fun s p => s.setWord p.1 0#16) (ofMachine m) := by
  induction rs generalizing m with
  | nil =>
      exact ⟨hnew, rfl⟩
  | cons p rs ih =>
      obtain ⟨hfirst, hstate⟩ := clearWord_follow hnew p.1 p.2
      obtain ⟨hrest, hrests⟩ := ih hfirst
      rw [hstate] at hrests
      exact ⟨hrest, hrests⟩

theorem loads_follow (ns : List ((SR × BitVec 16) × Nat)) {m : Machine}
    (hnew : m.newIp = none) :
    (m.follow (ns.map (fun p => segmentWord p.1.1 p.1.2 p.2))).newIp = none ∧
      ofMachine (m.follow (ns.map (fun p => segmentWord p.1.1 p.1.2 p.2))) =
        ns.foldl (fun s p => s.setSegment p.1.1 p.1.2) (ofMachine m) := by
  induction ns generalizing m with
  | nil =>
      exact ⟨hnew, rfl⟩
  | cons p ns ih =>
      obtain ⟨hfirst, hstate⟩ := segmentWord_follow hnew p.1.1 p.1.2 p.2
      obtain ⟨hrest, hrests⟩ := ih hfirst
      rw [hstate] at hrests
      exact ⟨hrest, hrests⟩

end Words

/-- Every register is loaded, whatever it held. -/
theorem reset_registers (s : State) (hflags : s.flags = 0xf002#16)
    (hip : s.ip = 0#16) :
    segmentsLoaded.foldl (fun s p => s.setSegment p.1.1 p.1.2)
      (clearedRegisters.foldl (fun s p => s.setWord p.1 0#16) s) =
        State.reset s.mem := by
  ext1
  · funext r
    rcases reg_cases r with
      rfl | rfl | rfl | rfl | rfl | rfl | rfl | rfl <;> rfl
  · funext n
    cases n <;> rfl
  · exact hflags
  · exact hip
  · rfl

/-- The registers after the words before the last, whatever they held. -/
theorem reset_follow {m : Machine} (hnew : m.newIp = none) (hip : m.ip = 0#16)
    (hflags : m.flags.flagsOut = 0xf002#16) :
    (m.follow resetWords).newIp = none ∧
      ofMachine (m.follow resetWords) = State.reset m.mem := by
  have hjump : (m.follow [{ next := 0x48b }]).newIp = none ∧
      ofMachine (m.follow [{ next := 0x48b }]) = ofMachine m := by
    constructor
    · simp [hnew]
    · ext1 <;> simp
  obtain ⟨hcleared, hclear⟩ := clears_follow clearedRegisters hjump.1
  obtain ⟨hloaded, hload⟩ := loads_follow segmentsLoaded hcleared
  have hreset := reset_registers (ofMachine m) hflags hip
  rw [<- hjump.2, <- hclear, <- hload] at hreset
  unfold resetWords
  rw [follow_append]
  exact ⟨hloaded, hreset⟩

/-!
## The core after a reset
-/

/-- The first cycle after a reset.  What the registers of the program held
before it is still there. -/
structure AtReset (t : Core) : Prop where
  rests : Core.Rests t
  calm : Core.Calm t
  abort : t.abortCur = false
  addr : t.addr = Core.resetAddress
  flags : t.flags = ⟨false, false, false, false, false, false, false, false,
    false⟩
  curVal : t.ip.curVal = 0#16
  notUpdated : t.csip.ipUpdated = false

section Boots

variable {inputs : Nat -> Core.Input} {s' : State} {t : Core}

/-- The reset microprogram ends in the state in which a program starts,
whatever instruction was executed before the reset. -/
theorem reset_reaches (h : AtReset t) (hnmi : forall k, (inputs k).nmi = false)
    (hintr : forall k, (inputs k).intr = false) :
    Reaches Core.step
      (fun r => r.doNextInstruction = false ∧ Core.Orderly r)
      (fun r => Between (State.reset t.mem) r ∧
        r.segments.registers .CS = 0xffff#16) inputs t := by
  have hnew : t.machine.newIp = none := by
    change (if t.csip.ipUpdated then some t.csip.ip else none) = none
    rw [h.notUpdated]
    rfl
  have hflags : t.machine.flags.flagsOut = 0xf002#16 := by
    change t.flags.flagsOut = 0xf002#16
    rw [h.flags]
    rfl
  obtain ⟨hloaded, hstate⟩ := reset_follow hnew h.curVal hflags
  have hreach := (h.rests.idle h.abort).reaches_path
    (reset_path t.machine.control) resetWords_brief h.calm h.addr
    ⟨by decide, by decide⟩ hnmi hintr
  refine hreach.trans ?_
  rintro k ⟨hidle, hcalm, haddr, hmachine⟩
  generalize trace Core.step inputs t k = r at hidle hcalm haddr hmachine
  have hcurrent : r.current = fallWord 0x100 := by
    unfold Core.current
    rw [haddr, resetEnd_word]
  have hbusy : r.alu.busy = false := by
    unfold Core.alu
    rw [hcurrent]
    rfl
  have hlast := hidle.last haddr hcurrent rfl hbusy
  have hretiring :=
    hlast.retiring resetEnd_word rfl rfl rfl (fun heq => by cases heq)
  refine Reaches.now ⟨⟨⟨_, ?_, Or.inl hretiring⟩, hcalm⟩, ?_⟩
  · rw [hmachine]
    exact (retire_fall hloaded).trans hstate
  · change r.machine.segments .CS = 0xffff#16
    rw [hmachine]
    exact congrArg (fun s => s.segments .CS) hstate

/-- After a reset the core runs the program that it finds at the reset
vector. -/
theorem core_boots {lengths : List Nat} (h : AtReset t)
    (hrun : Run lengths (State.reset t.mem) s') (hfeeds : Feeds inputs t) :
    Reaches Core.step (fun _ => True) (Between s') inputs t :=
  ((reset_reaches h (fun k => (hfeeds.supplies k).nmi)
    (fun k => (hfeeds.supplies k).intr)).imp (fun _ _ => trivial)).trans
      (fun k hat => (core_run_served hat.1 hrun (hfeeds.after k).serves).imp
        (fun _ _ => trivial))

end Boots

/-!
## A reset
-/

/-- Registers that are not what they are after a reset. -/
def haltedArch : Arch :=
  { copyingArch with
    gprs := fun _ => 0x5555#16, segments := fun _ => 0x3333#16 }

/-- A core that was halted before the reset. -/
def booting : Core :=
  { atFetch haltedArch with
    addr := Core.resetAddress
    curInstruction := latched 0xf4#8
    ip := { curVal := 0#16, instructionStartAddr := 0#16 } }

theorem booting_atReset : AtReset booting :=
  ⟨⟨rfl, rfl, rfl, rfl, ⟨rfl, rfl, rfl⟩⟩, ⟨rfl, rfl, rfl⟩, rfl, rfl, rfl, rfl,
    rfl⟩

/-- The program that copies a register is at the reset vector. -/
theorem core_boots_copying :
    exists inputs n s', (forall k, (inputs k).ready = everyThird k) ∧
      Between s' (trace Core.step inputs booting n) ∧ s'.ip = 5#16 ∧
        s'.gprs BX = 0#16 := by
  obtain ⟨s', hrun, hip, hbx⟩ := @run_copying (State.reset copying)
    ⟨rfl, rfl, rfl, rfl, rfl, by decide⟩
  obtain ⟨inputs, hfeeds, hready⟩ :=
    @exists_feeds booting (fun _ => rfl) _ everyThird_recurs
  obtain ⟨n, -, hbetween⟩ := core_boots booting_atReset hrun hfeeds
  exact ⟨inputs, n, s', hready, hbetween, hip, hbx⟩

end Isa
end S80x86
