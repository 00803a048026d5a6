import S80x86.Isa.CoreState

/-!
# Jumps, calls and returns in the core

The microprograms that load the instruction pointer.  A branch of the
microcode decides whether a conditional jump is taken.
-/

namespace S80x86
namespace Isa

open Rtl Rtl.GPR Rtl.Machine
open scoped Rtl.Machine.Eval

/-!
## Relative jumps
-/

/-- The word that goes to a displacement from the next instruction. -/
def takeWord (next : Nat) : Microinstruction :=
  { aSel := .IP, bSel := .IMMEDIATE, aluOp := .ADD, loadIp := true
    nextInstruction := true, next := next }

/-- The word that goes on with the next instruction. -/
def fallWord (next : Nat) : Microinstruction :=
  { nextInstruction := true, next := next }

section Ends

variable {addr next : Nat} {m : Machine}

theorem leaves_take (hnew : m.newIp = none)
    (hword : forall c : Control,
      c.program 0 addr = some ([], takeWord next)) :
    Leaves addr m ((ofMachine m).jump true m.insn.immediates0) := by
  refine ⟨_, retires_of_program (hword m.control), ?_⟩
  ext1 <;> simp [takeWord, hnew]

theorem retire_fall (hnew : m.newIp = none) :
    ofArch ((m.ready (fallWord next)).retire (fallWord next)) =
      ofMachine m := by
  ext1 <;> simp [fallWord, hnew]

theorem leaves_fall (hnew : m.newIp = none)
    (hword : forall c : Control,
      c.program 0 addr = some ([], fallWord next)) :
    Leaves addr m (ofMachine m) :=
  ⟨_, retires_of_program (hword m.control), retire_fall hnew⟩

end Ends

/-- A jump that depends on an answer. -/
theorem leaves_jump {take fall takeNext fallNext : Nat} {c : Bool} {m : Machine}
    (hnew : m.newIp = none)
    (htake : forall c : Control,
      c.program 0 take = some ([], takeWord takeNext))
    (hfall : forall c : Control,
      c.program 0 fall = some ([], fallWord fallNext)) :
    Leaves (if c then take else fall) m
      ((ofMachine m).jump c m.insn.immediates0) := by
  cases c with
  | true =>
      exact leaves_take hnew htake
  | false =>
      exact leaves_fall hnew hfall

variable (m : Machine) (hnew : m.newIp = none)

include hnew in
theorem performs_jmp : Performs 0xe9 m (.jmp m.insn.immediates0) :=
  leaves_take hnew (fun _ => rfl)

include hnew in
theorem performs_jmpShort : Performs 0xeb m (.jmp m.insn.immediates0) :=
  leaves_take hnew (fun _ => rfl)

/-!
## Conditional jumps
-/

/-- The flags that a code names. -/
theorem taken_condition (s : State) (condition : BitVec 4) :
    JumpTest.taken (0x70#8 + condition.setWidth 8) s.flags =
      s.holds condition := by
  unfold State.holds State.test State.flag JumpTest.taken
  generalize s.flags.getLsbD Rtl.Flag.OF_IDX = o
  generalize s.flags.getLsbD Rtl.Flag.CF_IDX = c
  generalize s.flags.getLsbD Rtl.Flag.ZF_IDX = z
  generalize s.flags.getLsbD Rtl.Flag.SF_IDX = n
  generalize s.flags.getLsbD Rtl.Flag.PF_IDX = p
  revert o c z n p condition
  decide +kernel

/-- The two ends of a jump after the word that asks for the answer, which
changes nothing that the program sees. -/
theorem leaves_answered {addr take fall takeNext fallNext : Nat}
    {u : Microinstruction} {m : Machine} {c : Bool} (h : IsBranch addr u)
    (hsel : selects none u = true) (hc : (m.ready u).branch u = some c)
    (htake : forall c : Control,
      c.program 0 take = some ([], takeWord takeNext))
    (hfall : forall c : Control,
      c.program 0 fall = some ([], fallWord fallNext))
    (hnew : ((m.ready u).advance u).newIp = none)
    (hstate : ofMachine ((m.ready u).advance u) = ofMachine m)
    (hinsn : ((m.ready u).advance u).insn = m.insn) {taken : Bool}
    (hgo : (if c then u.next else addr + 1) = if taken then take else fall) :
    Leaves addr m ((ofMachine m).jump taken m.insn.immediates0) := by
  have hbranch := steps_branch h hsel trivial hc
  have hends := leaves_jump (c := taken) hnew htake hfall
  rw [hgo] at hbranch
  rw [hstate, hinsn] at hends
  exact hends.after hbranch

def jccBranch : Microinstruction := { jumpType := .JUMP_TAKEN, next := 0x269 }

theorem jccBranch_isBranch : IsBranch 0x267 jccBranch :=
  ⟨rfl, rfl, rfl, ⟨rfl, rfl⟩, by decide⟩

theorem jcc_path (c : Control) (condition : BitVec 4) :
    c.path 1 none (0x70#8 + condition.setWidth 8).toNat =
      some ([{ next := 0x267 }], 0x267) := by
  obtain ⟨k, hk, rfl⟩ : exists k, k < 16 ∧ condition = BitVec.ofNat 4 k :=
    ⟨condition.toNat, condition.isLt, by simp⟩
  interval_cases k <;> rfl

include hnew in
theorem leaves_condition (condition : BitVec 4)
    (hopcode : m.insn.opcode = 0x70#8 + condition.setWidth 8) :
    Leaves 0x267 m ((ofMachine m).jump ((ofMachine m).holds condition)
      m.insn.immediates0) := by
  have hanswer : (m.ready jccBranch).branch jccBranch =
      some ((ofMachine m).holds condition) := by
    rw [<- taken_condition, <- hopcode]
    rfl
  have hnone : (m.advance jccBranch).newIp = none := by
    simp [jccBranch, hnew]
  exact leaves_answered jccBranch_isBranch rfl hanswer (fun _ => rfl)
    (fun _ => rfl) hnone rfl rfl rfl

include hnew in
theorem performs_jcc (condition : BitVec 4)
    (hopcode : m.insn.opcode = 0x70#8 + condition.setWidth 8) :
    Performs (0x70#8 + condition.setWidth 8).toNat m
      (.jcc condition m.insn.immediates0) := by
  have hpath := steps_of_path (jcc_path m.control condition) rfl trivial
  have hends := leaves_condition (m.follow [{ next := 0x267 }])
    (by simpa using hnew) condition (by simpa using hopcode)
  have hstate : ofMachine (m.follow [{ next := 0x267 }]) = ofMachine m := by
    ext1 <;> simp
  have hinsn : (m.follow [{ next := 0x267 }]).insn = m.insn := by
    simp
  rw [hstate, hinsn] at hends
  exact hends.after hpath

def jcxzBranch : Microinstruction := { jumpType := .RB_ZERO, next := 0x266 }

theorem jcxzBranch_isBranch : IsBranch 0x264 jcxzBranch :=
  ⟨rfl, rfl, rfl, ⟨rfl, rfl⟩, by decide⟩

def jcxzWord : Microinstruction := { rbCl := true, next := 0x264 }

theorem jcxz_path (c : Control) :
    c.path 1 none 0xe3 = some ([jcxzWord], 0x264) := rfl

include hnew in
theorem leaves_zero : Leaves 0x264 m
    ((ofMachine m).jump (m.rb == 0#16) m.insn.immediates0) := by
  have hnone : (m.advance jcxzBranch).newIp = none := by
    simp [jcxzBranch, hnew]
  exact leaves_answered jcxzBranch_isBranch rfl rfl (fun _ => rfl)
    (fun _ => rfl) hnone rfl rfl rfl

include hnew in
theorem performs_jcxz : Performs 0xe3 m (.jcxz m.insn.immediates0) := by
  have hpath := steps_of_path (jcxz_path m.control) rfl trivial
  have hends := leaves_zero (m.follow [jcxzWord])
    (by simpa [jcxzWord] using hnew)
  have hstate : ofMachine (m.follow [jcxzWord]) = ofMachine m := by
    ext1 <;> simp [jcxzWord]
  have hinsn : (m.follow [jcxzWord]).insn = m.insn := by
    simp [jcxzWord]
  have hrb : (m.follow [jcxzWord]).rb = m.gprs CX := by
    simp [jcxzWord]
  rw [hstate, hinsn, hrb] at hends
  exact hends.after hpath

/-!
## Loops
-/

/-- The word of a loop that counts, and may ask for the zero flag. -/
def countWord (jumpType : JumpType) (next : Nat) : Microinstruction :=
  { bSel := .IMMEDIATE, immediate := some 0x1#16, aluOp := .SUB
    rdSelSource := .MICROCODE_RD_SEL, rdSel := CX, rbCl := true
    jumpType := jumpType, next := next }

/-- The word that asks for a zero counter. -/
def zeroBranch (next : Nat) : Microinstruction :=
  { jumpType := .RB_ZERO, next := next }

/-- A machine in which the counter is counted down, and selected. -/
structure Counted (m m' : Machine) : Prop where
  state : ofMachine m' = (ofMachine m).setWord CX (m.gprs CX - 1#16)
  rb : m'.rb = m.gprs CX - 1#16
  newIp : m'.newIp = none
  insn : m'.insn = m.insn

/-- The machine after the first two words of a loop. -/
def counting (jumpType : JumpType) (next next' : Nat) (m : Machine) : Machine :=
  m.follow [{ raSel := CX, next := next }, countWord jumpType next']

include hnew in
theorem counting_counted (jumpType : JumpType) (next next' : Nat) :
    Counted m (counting jumpType next next' m) := by
  constructor
  · ext1 <;> simp [counting, countWord]
  · simp only [counting, countWord, follow, ready, advance, edge]
    simp
  · simp [counting, countWord, hnew]
  · simp [counting, countWord]

/-- The end of a loop whose counter is counted down. -/
theorem Counted.leaves {m m' : Machine} (h : Counted m m')
    {addr takeNext : Nat} (hbranch : IsBranch addr (zeroBranch 0x28f))
    (htake : forall c : Control,
      c.program 0 (addr + 1) = some ([], takeWord takeNext)) :
    Leaves addr m' (((ofMachine m).setWord CX (m.gprs CX - 1#16)).jump
      (m.gprs CX - 1#16 != 0#16) m.insn.immediates0) := by
  have hanswer : m'.branch (zeroBranch 0x28f) =
      some (m.gprs CX - 1#16 == 0#16) := by
    rw [<- h.rb]
    rfl
  have hnew : (m'.advance (zeroBranch 0x28f)).newIp = none := by
    simp [zeroBranch, h.newIp]
  have hgo : (if m.gprs CX - 1#16 == 0#16 then 0x28f else addr + 1) =
      if m.gprs CX - 1#16 != 0#16 then addr + 1 else 0x28f := by
    unfold bne
    cases m.gprs CX - 1#16 == 0#16 <;> rfl
  have hends := leaves_answered hbranch rfl hanswer htake (fun _ => rfl) hnew
    rfl rfl hgo
  rw [h.state, h.insn] at hends
  exact hends

theorem Counted.falls {m m' : Machine} (h : Counted m m') :
    Leaves 0x28f m' ((ofMachine m).setWord CX (m.gprs CX - 1#16)) := by
  rw [<- h.state]
  exact leaves_fall h.newIp (fun _ => rfl)

theorem loop_path (c : Control) :
    c.path 2 none 0xe2 = some ([{ raSel := CX, next := 0x28c },
      countWord .UNCONDITIONAL 0x28d], 0x28d) := rfl

theorem zeroBranch_isBranch {addr : Nat}
    (hword : Microcode.mem addr = zeroBranch 0x28f)
    (hplain : plainAddress (addr + 1) = true) (hmoves : 0x28f ≠ addr) :
    IsBranch addr (zeroBranch 0x28f) :=
  ⟨hword, rfl, rfl, ⟨rfl, hplain⟩, hmoves⟩

include hnew in
theorem performs_loop :
    Performs 0xe2 m (.loop none m.insn.immediates0) := by
  have hpath : Steps 0xe2 m 0x28d (counting .UNCONDITIONAL 0x28c 0x28d m) :=
    steps_of_path (loop_path m.control) rfl trivial
  have hcounted := counting_counted m hnew .UNCONDITIONAL 0x28c 0x28d
  have hends := hcounted.leaves
    (@zeroBranch_isBranch 0x28d rfl rfl (by decide)) (fun _ => rfl)
  have hleaves := hends.after hpath
  simpa [Performs] using hleaves

theorem zero_flag (m : Machine) :
    (ofMachine m).flag Rtl.Flag.ZF_IDX = m.flags.Z := by
  have hcore := Sim.coreFlags_flagsOut m.flags
  exact (congrArg Sim.ArithmeticFlags.zf hcore).symm

theorem loope_path (c : Control) :
    c.path 1 none 0xe1 = some ([{ raSel := CX, next := 0x290 }], 0x290) := rfl

theorem loopne_path (c : Control) :
    c.path 1 none 0xe0 = some ([{ raSel := CX, next := 0x294 }], 0x294) := rfl

theorem fall_path (c : Control) :
    c.path 1 none 0x291 = some ([{ next := 0x28f }], 0x28f) := rfl

theorem Counted.fallsThrough {m m' : Machine} (h : Counted m m') :
    Leaves 0x291 m' ((ofMachine m).setWord CX (m.gprs CX - 1#16)) := by
  have hpath := steps_of_path (fall_path m'.control) rfl trivial
  have hends := @leaves_fall 0x28f 0x290
    (m'.follow [{ next := 0x28f }]) (by simpa using h.newIp) (fun _ => rfl)
  have hstate : ofMachine (m'.follow [{ next := 0x28f }]) = ofMachine m' := by
    ext1 <;> simp
  rw [hstate, h.state] at hends
  exact hends.after hpath

theorem countWord_isBranch {addr next : Nat}
    (hword : Microcode.mem addr = countWord .ZERO next)
    (hplain : plainAddress next = true ∧ plainAddress (addr + 1) = true)
    (hmoves : next ≠ addr) : IsBranch addr (countWord .ZERO next) :=
  ⟨hword, rfl, rfl, hplain, hmoves⟩

include hnew in
/-- A loop that goes on only while the zero flag has one value. -/
theorem performs_loopWhile {addr start stop : Nat} {zero : Bool}
    (hpath : Steps addr m start (m.follow [{ raSel := CX, next := start }]))
    (hbranch : IsBranch start (countWord .ZERO stop))
    (hends : forall m', Counted m m' ->
      Leaves (if m.flags.Z then stop else start + 1) m'
        (((ofMachine m).setWord CX (m.gprs CX - 1#16)).jump
          (m.gprs CX - 1#16 != 0#16 && m.flags.Z == zero)
          m.insn.immediates0)) :
    Performs addr m (.loop (some zero) m.insn.immediates0) := by
  have hcounted := counting_counted m hnew .ZERO start stop
  have hcount : Steps start (m.follow [{ raSel := CX, next := start }])
      (if m.flags.Z then stop else start + 1)
      (counting .ZERO start stop m) :=
    @steps_branch _ _ _ none _ hbranch rfl trivial rfl
  have hleaves := ((hends _ hcounted).after hcount).after hpath
  have hflag : m.flags.flagsOut.getLsbD Rtl.Flag.ZF_IDX = m.flags.Z :=
    zero_flag m
  simp only [Performs, Operation.exec]
  simpa [hflag] using hleaves

include hnew in
theorem performs_loope :
    Performs 0xe1 m (.loop (some true) m.insn.immediates0) := by
  have hpath := steps_of_path (loope_path m.control) rfl trivial
  have hbranch : IsBranch 0x290 (countWord .ZERO 0x292) :=
    countWord_isBranch rfl ⟨rfl, rfl⟩ (by decide)
  refine performs_loopWhile m hnew hpath hbranch ?_
  intro m' hcounted
  cases m.flags.Z with
  | true =>
      have hends := hcounted.leaves
        (@zeroBranch_isBranch 0x292 rfl rfl (by decide)) (fun _ => rfl)
      simpa using hends
  | false =>
      have hends := hcounted.fallsThrough
      simpa using hends

include hnew in
theorem performs_loopne :
    Performs 0xe0 m (.loop (some false) m.insn.immediates0) := by
  have hpath := steps_of_path (loopne_path m.control) rfl trivial
  have hbranch : IsBranch 0x294 (countWord .ZERO 0x28f) :=
    countWord_isBranch rfl ⟨rfl, rfl⟩ (by decide)
  refine performs_loopWhile m hnew hpath hbranch ?_
  intro m' hcounted
  cases m.flags.Z with
  | true =>
      have hends := hcounted.falls
      simpa using hends
  | false =>
      have hends := hcounted.leaves
        (@zeroBranch_isBranch 0x295 rfl rfl (by decide)) (fun _ => rfl)
      simpa using hends

end Isa
end S80x86
