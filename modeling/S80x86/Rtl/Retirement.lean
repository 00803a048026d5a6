import S80x86.Rtl.InstructionRuns

/-!
# The last cycle of an instruction

Every microprogram comes to a last word, and what the sequencer does after that
word does not depend on what the microprogram did before, except for the trap
flag.
-/

open Foundation Clocked

namespace S80x86
namespace Rtl

/-!
## Words of the store
-/

namespace Microcode

/-- The words of a block, with their addresses. -/
def checkWords (p : Nat -> Microinstruction -> Bool) :
    Nat -> List Microinstruction -> Bool
  | _, [] => true
  | a, u :: rest => p a u && checkWords p (a + 1) rest

/-- The words of blocks that follow one another. -/
def checkBlocks (p : Nat -> Microinstruction -> Bool) :
    Nat -> List (Nat × List Microinstruction) -> Bool
  | _, [] => true
  | a, (base, words) :: rest =>
      base == a && checkWords p a words &&
        checkBlocks p (a + words.length) rest

theorem checkWords_get {p : Nat -> Microinstruction -> Bool}
    {u : Microinstruction} (words : List Microinstruction) {a k : Nat}
    (h : checkWords p a words = true) (hk : words[k]? = some u) :
    p (a + k) u = true := by
  induction words generalizing a k with
  | nil =>
      cases hk
  | cons w rest ih =>
      unfold checkWords at h
      rw [Bool.and_eq_true] at h
      cases k with
      | zero =>
          cases hk
          exact h.1
      | succ k =>
          have hrest := ih h.2 hk
          rw [Nat.add_assoc, Nat.add_comm 1] at hrest
          exact hrest

theorem checkBlocks_read {p : Nat -> Microinstruction -> Bool}
    {u : Microinstruction} (blocks : List (Nat × List Microinstruction))
    {start a : Nat} (h : checkBlocks p start blocks = true)
    (hstart : start <= a) (hread : readBlocks blocks a = some u) :
    p a u = true := by
  induction blocks generalizing start with
  | nil =>
      cases hread
  | cons b rest ih =>
      unfold checkBlocks at h
      simp only [Bool.and_eq_true, beq_iff_eq] at h
      obtain ⟨⟨rfl, hwords⟩, hrest⟩ := h
      unfold readBlocks at hread
      split at hread
      · have hp := checkWords_get b.2 hwords hread
        rw [Nat.add_sub_cancel' hstart] at hp
        exact hp
      · next hlt => exact ih hrest (Nat.le_of_not_lt hlt) hread

/-- What holds of every word of the store, and of the word that is read where
there is none, holds everywhere. -/
theorem mem_check {p : Nat -> Microinstruction -> Bool}
    (h : checkBlocks p 0 blocks = true)
    (hnone : forall a, p a { next := 0 } = true) (a : Nat) :
    p a (mem a) = true := by
  unfold mem
  cases hread : readBlocks blocks a with
  | none =>
      exact hnone a
  | some u =>
      exact checkBlocks_read blocks h (Nat.zero_le a) hread

/-- The last word of `POPF`, which loads the trap flag. -/
def popfAddress : Nat := 0x322

/-- The words of `POPF`. -/
def inPopf (a : Nat) : Bool :=
  a == 0x9d || (decide (0x320 <= a) && decide (a <= popfAddress))

/-- How far from its own target a word may go. -/
def spread (u : Microinstruction) : Nat :=
  match u.jumpType with
  | .RM_REG_MEM => 1
  | .DISPATCH_REG => 7
  | _ => 0

/-- The addresses that may follow a word. -/
def mayFollow (u : Microinstruction) (a b : Nat) : Bool :=
  (u.jumpType != .UNCONDITIONAL && b == a + 1) ||
    b == Core.divideErrorAddress ||
      (decide (u.next <= b) && decide (b <= u.next + spread u))

/-- What the sequencer relies on in the words that end an instruction. -/
def endsPlainly (a : Nat) (u : Microinstruction) : Bool :=
  !u.nextInstruction || (u.jumpType == .UNCONDITIONAL && !u.divide &&
    (!u.updateFlags.contains .TF || a == popfAddress))

theorem mem_endsPlainly (a : Nat) : endsPlainly a (mem a) = true :=
  mem_check (by decide +kernel) (fun _ => rfl) a

/-- The words of `POPF` follow no others, and none but the last loads the trap
flag. -/
def staysInPopf (a : Nat) (u : Microinstruction) : Bool :=
  u.nextInstruction || (inPopf a && !u.updateFlags.contains .TF) ||
    !(mayFollow u a 0x320 || mayFollow u a 0x321 || mayFollow u a 0x322)

theorem mem_staysInPopf (a : Nat) : staysInPopf a (mem a) = true := by
  refine mem_check (by decide +kernel) (fun a => ?_) a
  simp [staysInPopf, mayFollow, spread, Core.divideErrorAddress]

end Microcode

namespace Machine

variable {u : Microinstruction} {m : Machine}

/-- Where a word that does not ask the decoder goes. -/
theorem target_follows (hjump : u.jumpType ≠ .OPCODE) (a : Nat) :
    Microcode.mayFollow u a (m.target u a) = true := by
  have hreg := m.modrm.regnum.isLt
  unfold target Microcode.mayFollow Microcode.spread
  cases hj : u.jumpType with
  | OPCODE =>
      exact absurd hj hjump
  | RM_REG_MEM =>
      cases m.modrm.rmIsReg <;> simp
  | DISPATCH_REG =>
      simp
      omega
  | UNCONDITIONAL =>
      cases u.divide && m.divideError <;> simp
  | REP_NOT_COMPLETE =>
      dsimp only
      generalize (!_) = c
      cases c <;> simp
  | _ =>
      dsimp only
      split <;> simp

end Machine

namespace Core

variable {s : Core} {i : Input} {inputs : Nat -> Input}

/-!
## The trap flag
-/

theorem trap_step (h : s.current.updateFlags.contains .TF = false) (i : Input) :
    (s.step i).flags.T = s.flags.T := by
  have hstep : (s.step i).flags =
      Flags.step s.current.updateFlags s.alu.flagsOut s.flags := rfl
  rw [hstep]
  unfold Flags.step
  simp only [h]
  rfl

/-- While a word that leaves the trap flag alone is executed. -/
theorem Reaches.trap {a : Nat} {goal : Core -> Prop}
    (hword : (Microcode.mem a).updateFlags.contains .TF = false)
    (h : Reaches Core.step (Stays a) goal inputs s) :
    Reaches Core.step (Stays a) (fun t => goal t ∧ t.flags.T = s.flags.T)
      inputs s := by
  obtain ⟨n, hstay, hgoal⟩ := h
  have htrap (k : Nat) (hk : k <= n) :
      (trace Core.step inputs s k).flags.T = s.flags.T := by
    induction k with
    | zero =>
        rfl
    | succ k ih =>
        rw [<- ih (Nat.le_of_succ_le hk)]
        have hcurrent : (trace Core.step inputs s k).current =
            Microcode.mem a := by
          unfold Core.current
          rw [(hstay k hk).1]
        exact trap_step (by rw [hcurrent]; exact hword) _
  exact ⟨n, hstay, hgoal, htrap n (Nat.le_refl n)⟩

/-- The last word of `POPF` is executed in one cycle. -/
theorem Idle.not_stall (h : Idle s) (haddr : s.addr = Microcode.popfAddress) :
    s.stall = false := by
  have hcurrent : s.current = Microcode.mem Microcode.popfAddress := by
    unfold current
    rw [haddr]
  have hbusy : s.alu.busy = false := by
    unfold alu
    rw [hcurrent]
    rfl
  exact (h.last haddr hcurrent rfl hbusy).stall

/-- The trap flag in the last cycle of a word. -/
theorem Idle.reaches_trap {a : Nat} {goal : Core -> Prop} (h : Idle s)
    (haddr : s.addr = a)
    (hword : (Microcode.mem a).updateFlags.contains .TF = false ∨
      a = Microcode.popfAddress)
    (hgoal : Reaches Core.step (Stays a) goal inputs s) :
    Reaches Core.step (Stays a) (fun t => goal t ∧ t.flags.T = s.flags.T)
      inputs s := by
  rcases hword with hword | hpopf
  · exact Reaches.trap hword hgoal
  · obtain ⟨n, hstay, hlast⟩ := hgoal
    cases n with
    | zero =>
        exact Reaches.now ⟨hlast, rfl⟩
    | succ n =>
        have hstall := (hstay 0 (Nat.succ_pos n)).2
        have hnot := h.not_stall (haddr.trans hpopf)
        change s.stall = true at hstall
        rw [hnot] at hstall
        cases hstall

/-!
## The last cycle of an instruction
-/

theorem apart_of_holds {b : Nat} (h : holdsAddress b = true) :
    b ≠ nmiAddress ∧ b ≠ irqAddress := by
  simp only [holdsAddress, Bool.and_eq_true, bne_iff_ne] at h
  exact ⟨h.1.2, h.2⟩

/-- Nothing but an interrupt and the coprocessor takes the instruction pointer
back. -/
theorem not_rollback {b : Nat} (hnext : s.nextAddr i = b)
    (hb : b ≠ nmiAddress ∧ b ≠ irqAddress)
    (hop : plainOpcode s.opcode = true ∨ b ≠ doIntAddress) :
    (s.ipInput i).rollback = false := by
  have hescape : s.doEscapeFault i = false := by
    unfold doEscapeFault
    rw [hnext]
    rcases hop with hplain | hapart
    · simp only [plainOpcode, Bool.and_eq_true, bne_iff_ne] at hplain
      simp [hplain.2]
    · simp [hapart]
  change ((s.startInterrupt i && s.current.extIntYield && !s.isHlt) ||
    s.doEscapeFault i) = false
  rw [hescape]
  simp [startInterrupt, hnext, hb.1, hb.2]

/-- The core neither ends an instruction nor begins one. -/
structure Continues (s : Core) : Prop where
  doNextInstruction : s.doNextInstruction = false
  starting : forall i, s.startingInstruction i = false
  addr : s.addr ≠ nextInstructionAddress
  rollback : forall i, (s.ipInput i).rollback = false

theorem Stays.continues {a : Nat} (h : Stays a s)
    (ha : holdsAddress a = true) (hop : plainOpcode s.opcode = true) :
    Continues s := by
  have hne := ha
  simp only [holdsAddress, Bool.and_eq_true, bne_iff_ne] at hne
  constructor
  · simp [Core.doNextInstruction, h.2]
  · intro i
    simp [startingInstruction, h.2]
  · rw [h.1]
    exact hne.1.1.1
  · intro i
    have hnext : s.nextAddr i = s.addr := by
      simp [Core.nextAddr, h.2]
    rw [h.1] at hnext
    exact not_rollback hnext (apart_of_holds ha) (Or.inl hop)

/-- No other instruction comes while a word is executed. -/
theorem Reaches.plain {a : Nat} {goal : Core -> Prop}
    (hop : plainOpcode s.opcode = true)
    (h : Reaches Core.step (Stays a) goal inputs s) :
    Reaches Core.step (fun t => Stays a t ∧ plainOpcode t.opcode = true) goal
      inputs s := by
  obtain ⟨n, hstay, hgoal⟩ := h
  have hplain (k : Nat) (hk : k <= n) :
      plainOpcode (trace Core.step inputs s k).opcode = true := by
    induction k with
    | zero =>
        exact hop
    | succ k ih =>
        have hstall := (hstay k hk).2
        have hsame : ((trace Core.step inputs s k).step (inputs k)).opcode =
            (trace Core.step inputs s k).opcode := by
          simp [Core.opcode, Core.step, startingInstruction, hstall]
        change plainOpcode ((trace Core.step inputs s k).step
          (inputs k)).opcode = true
        rw [hsame]
        exact ih (Nat.le_of_succ_le hk)
  exact ⟨n, fun k hk => ⟨hstay k hk, hplain k (Nat.le_of_lt hk)⟩, hgoal⟩

/-- No instruction starts at an address after the opcodes. -/
theorem not_starting {b : Nat} (hnext : s.nextAddr i = b)
    (hplain : Machine.plainAddress b = true) :
    s.startingInstruction i = false := by
  have hlt := i.nextInstructionValue.opcode.isLt
  simp only [Machine.plainAddress, Bool.and_eq_true, decide_eq_true_eq]
    at hplain
  have hgt : 0x100 < b := hplain.1.1.1
  have hapart : b ≠ i.nextInstructionValue.opcode.toNat := by omega
  simp [startingInstruction, hnext, hapart]

/-- The last cycle of an instruction that leaves these registers. -/
structure Retiring (x : Arch) (s : Core) : Prop where
  last : exists y, Last s.current s.addr y s
  word : s.current.isInternal = true
  ends : s.current.nextInstruction = true
  holds : holdsAddress s.addr = true
  arch : forall i, (s.step i).arch = x
  trap : x.flags.T = false -> s.flags.T = false

/-- The words of `POPF` are entered with the trap flag clear. -/
def Untrapped (a : Nat) (s : Core) : Prop :=
  Microcode.inPopf a = true -> s.flags.T = false

theorem Last.current {u : Microinstruction} {a : Nat} {y : Machine}
    (h : Last u a y s) (hword : Microcode.mem a = u) : s.current = u := by
  unfold Core.current
  rw [h.addr, hword]

/-- The trap flag that the last word leaves is the one before it, or the word
is the last of `POPF`. -/
theorem Last.retiring {u : Microinstruction} {a : Nat} {y : Machine}
    (h : Last u a y s) (hword : Microcode.mem a = u)
    (hint : u.isInternal = true) (hends : u.nextInstruction = true)
    (hholds : holdsAddress a = true)
    (htrap : a = Microcode.popfAddress -> s.flags.T = false) :
    Retiring (y.retire u) s := by
  have hu := h.current hword
  have harch (i : Input) := (h.arch hword hends i).2
  refine ⟨⟨y, ?_⟩, ?_, ?_, ?_, harch, ?_⟩
  · rw [hu, h.addr]
    exact h
  · rw [hu]
    exact hint
  · rw [hu]
    exact hends
  · rw [h.addr]
    exact hholds
  · intro hx
    have hplain := Microcode.mem_endsPlainly a
    unfold Microcode.endsPlainly at hplain
    rw [hword, hends] at hplain
    simp only [Bool.not_true, Bool.false_or, Bool.and_eq_true, Bool.or_eq_true,
      Bool.not_eq_true', beq_iff_eq] at hplain
    rcases hplain.2 with htf | hpopf
    · have hstep := trap_step (s := s) (by rw [hu]; exact htf) undisturbed
      rw [<- hstep]
      have hflags := congrArg (fun x => x.flags.T) (harch undisturbed)
      exact hflags.trans hx
    · exact htrap hpopf

/-- A word of `POPF` follows only words that leave the trap flag alone. -/
theorem untrapped_step {u : Microinstruction} {a b : Nat} {t : Core}
    (hword : Microcode.mem a = u) (hgoes : u.nextInstruction = false)
    (hfollows : Microcode.mayFollow u a b = true)
    (hplain : Machine.plainAddress b = true) (htrap : Untrapped a s)
    (hu : t.current = u)
    (hsame : u.updateFlags.contains .TF = false -> t.flags.T = s.flags.T)
    (i : Input) : Untrapped b (t.step i) := by
  intro hin
  have hbound : b = 0x320 ∨ b = 0x321 ∨ b = 0x322 := by
    simp only [Machine.plainAddress, Bool.and_eq_true, decide_eq_true_eq]
      at hplain
    have hgt := hplain.1.1.1
    unfold Microcode.inPopf Microcode.popfAddress at hin
    simp only [Bool.or_eq_true, Bool.and_eq_true, beq_iff_eq,
      decide_eq_true_eq] at hin
    have hlow : 0x100 < b := hgt
    omega
  have hstays := Microcode.mem_staysInPopf a
  unfold Microcode.staysInPopf at hstays
  rw [hword, hgoes] at hstays
  have hfollow : (Microcode.mayFollow u a 0x320 ||
      Microcode.mayFollow u a 0x321 || Microcode.mayFollow u a 0x322) =
        true := by
    rcases hbound with rfl | rfl | rfl <;> simp [hfollows]
  rw [hfollow] at hstays
  simp only [Bool.false_or, Bool.not_true, Bool.or_false, Bool.and_eq_true,
    Bool.not_eq_true'] at hstays
  rw [trap_step (by rw [hu]; exact hstays.2), hsame hstays.2]
  exact htrap hstays.1

/-- The core executes the microprogram that starts at its address and comes to
its last cycle. -/
theorem reaches_retiring {a : Nat} {m : Machine} {x : Arch}
    (hrun : Retires a m x) (h : Idle s) (haddr : s.addr = a)
    (hm : s.machine = m) (hholds : holdsAddress a = true)
    (hop : plainOpcode m.insn.opcode = true) (htrap : Untrapped a s)
    (hready : Recurs (fun i => i.ready = true) inputs) :
    Reaches Core.step Continues (Retiring x) inputs s := by
  have hne {a : Nat} (hholds : holdsAddress a = true) :
      a ≠ nextInstructionAddress ∧ a ≠ modrmWaitAddress := by
    simp only [holdsAddress, Bool.and_eq_true, bne_iff_ne] at hholds
    exact hholds.left.left
  induction hrun generalizing s inputs with
  | @last a m u hword hint hstable hends =>
      subst hm
      have hplain := Microcode.mem_endsPlainly a
      unfold Microcode.endsPlainly at hplain
      rw [hword, hends] at hplain
      simp only [Bool.not_true, Bool.false_or, Bool.and_eq_true,
        Bool.or_eq_true, Bool.not_eq_true', beq_iff_eq] at hplain
      rw [<- hword] at hplain
      have hlast := h.reaches_trap haddr hplain.2
        (h.reaches_last haddr hword hint hstable hholds hop hready)
      apply ((Reaches.plain hop hlast).imp
        (fun _ ht => ht.1.continues hholds ht.2)).trans
      rintro n ⟨hn, hsame⟩
      refine Reaches.now (hn.retiring hword hint hends hholds ?_)
      rintro rfl
      rw [hsame]
      exact htrap rfl
  | @step a m x u hword hint hstable hgoes hplain hmoves hrest ih =>
      subst hm
      have hlast : Reaches Core.step (Stays a) (fun t =>
          Last u a (s.machine.last u) t ∧
            (u.updateFlags.contains .TF = false -> t.flags.T = s.flags.T))
          inputs s := by
        have hreach :=
          h.reaches_last haddr hword hint hstable hholds hop hready
        cases htf : u.updateFlags.contains .TF with
        | false =>
            obtain ⟨n, hstay, hgoal, hsame⟩ :=
              Reaches.trap (by rw [hword]; exact htf) hreach
            exact ⟨n, hstay, hgoal, fun _ => hsame⟩
        | true =>
            obtain ⟨n, hstay, hgoal⟩ := hreach
            exact ⟨n, hstay, hgoal, fun hfalse => by cases hfalse⟩
      apply ((Reaches.plain hop hlast).imp
        (fun _ ht => ht.1.continues hholds ht.2)).trans
      rintro n ⟨hn, hsame⟩
      have hop' : plainOpcode (s.machine.last u).insn.opcode = true := by
        rw [last_insn]
        exact hop
      have hstep (i : Input) := hn.step hword hint hgoes (hne hholds)
        (ruleless_of_plain (by rw [hn.opcode]; exact hop') _ i) hplain hmoves
      obtain ⟨hdone, haddr', hm', hidle⟩ := hstep (after inputs n 0)
      have hcontinues : Continues (trace Core.step inputs s n) :=
        ⟨hdone, fun i => not_starting (hstep i).2.1 hplain,
          by rw [hn.addr]; exact (hne hholds).1,
          fun i => not_rollback (hstep i).2.1
            (apart_of_holds (holdsAddress_of_plain hplain))
            (Or.inl (by rw [hn.opcode]; exact hop'))⟩
      have hjump : u.jumpType ≠ .OPCODE := by
        simp only [Microinstruction.isInternal, Bool.and_eq_true,
          bne_iff_ne] at hint
        exact hint.1.1.2
      refine Reaches.later hcontinues ?_
      exact ih hidle haddr' hm' (holdsAddress_of_plain hplain) hop'
        (untrapped_step hword hgoes (Machine.target_follows hjump a) hplain
          htrap (hn.current hword) hsame _)
        ((hready.after n).after 1)

end Core
end Rtl
end S80x86
