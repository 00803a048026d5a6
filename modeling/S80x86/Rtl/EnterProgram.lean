import S80x86.Rtl.MicroBranch

/-!
# `ENTER`

The microprogram of `ENTER` writes the new frame pointer before it copies the
display of the enclosing frames, and reads it back at the end.
-/

namespace S80x86
namespace Rtl
namespace Machine

open GPR
open scoped Eval

/-!
## The display
-/

/-- Words are copied within a segment, one after the other. -/
def copyWords (segment : BitVec 16) :
    List (BitVec 16 × BitVec 16) -> Memory -> Memory
  | [], mem => mem
  | p :: rest, mem =>
      copyWords segment rest
        (storeWord mem segment p.2 (loadWord mem segment p.1))

/-- The words that are copied, from below one pointer to below the other. -/
def displayWords :
    Nat -> BitVec 16 -> BitVec 16 -> List (BitVec 16 × BitVec 16)
  | 0, _, _ => []
  | n + 1, bp, sp =>
      (bp - 2#16, sp - 2#16) :: displayWords n (bp - 2#16) (sp - 2#16)

def loopWord : Microinstruction :=
  { raSel := BP, jumpType := .LOOP_DONE, next := 0x1db }

theorem loopWord_isBranch : IsBranch 0x1d5 loopWord :=
  ⟨rfl, rfl, rfl, ⟨rfl, rfl⟩, by decide⟩

/-- The words of one round. -/
def roundWords : List Microinstruction := (Microcode.enterWords.drop 7).take 5

theorem round_path (c : Control) :
    c.path 5 none 0x1d6 = some (roundWords, 0x1d5) := rfl

/-- What the loop keeps and what it changes. -/
structure Copied (n : Nat) (m m' : Machine) : Prop where
  gprs : forall r, r ≠ SP -> r ≠ BP -> m'.gprs r = m.gprs r
  sp : m'.gprs SP = m.gprs SP - BitVec.ofNat 16 (2 * n)
  segments : m'.segments = m.segments
  flags : m'.flags = m.flags
  tmp : m'.tmp = m.tmp
  ip : m'.ip = m.ip
  newIp : m'.newIp = m.newIp
  mem : m'.mem = copyWords (m.segments .SS)
    (displayWords n (m.gprs BP) (m.gprs SP)) m.mem

/-- The machine after one round. -/
def afterRound (m : Machine) : Machine :=
  (((m.ready loopWord).advance loopWord)).follow roundWords

theorem afterRound_gprs (m : Machine) :
    m.afterRound.gprs =
      (m.gprs.set BP (m.gprs BP - 2#16)).set SP (m.gprs SP - 2#16) := by
  have h : (m.gprs.set BP (m.gprs BP - 2#16)) SP = m.gprs SP := rfl
  simp [afterRound, loopWord, roundWords, Microcode.enterWords, h]

theorem afterRound_rest (m : Machine) :
    m.afterRound.segments = m.segments ∧ m.afterRound.flags = m.flags ∧
      m.afterRound.tmp = m.tmp ∧ m.afterRound.ip = m.ip ∧
      m.afterRound.newIp = m.newIp ∧
      m.afterRound.count = LoopCounter.step false true 0#5 m.count ∧
      m.afterRound.mem =
        storeWord m.mem (m.segments .SS) (m.gprs SP - 2#16)
          (loadWord m.mem (m.segments .SS) (m.gprs BP - 2#16)) := by
  have h : (m.gprs.set BP (m.gprs BP - 2#16)) SP = m.gprs SP := rfl
  simp [afterRound, loopWord, roundWords, Microcode.enterWords, h]

theorem steps_round {m : Machine} (h : m.count ≠ 0#5) :
    Steps 0x1d5 m 0x1d5 m.afterRound := by
  have hloop := @steps_branch _ _ m none (LoopCounter.done m.count)
    loopWord_isBranch rfl trivial rfl
  have hdone : LoopCounter.done m.count = false := beq_eq_false_iff_ne.mpr h
  rw [hdone] at hloop
  have hround := steps_of_path
    (round_path ((m.ready loopWord).advance loopWord).control) rfl trivial
  exact hloop.trans hround

/-- A counter that is not down counts down. -/
theorem count_down {count : BitVec 5} {n : Nat} (hn : n + 1 < 32)
    (h : count = BitVec.ofNat 5 (n + 1)) :
    count ≠ 0#5 ∧
      LoopCounter.step false true 0#5 count = BitVec.ofNat 5 n := by
  have hne : count ≠ 0#5 := by
    intro hzero
    have htoNat := congrArg BitVec.toNat (h.symm.trans hzero)
    simp only [BitVec.toNat_ofNat] at htoNat
    omega
  refine ⟨hne, ?_⟩
  unfold LoopCounter.step
  rw [if_neg (by decide), if_pos (by simpa using hne), h, BitVec.ofNat_add,
    BitVec.add_sub_cancel]

/-- The loop copies one word a round. -/
theorem steps_copies {m : Machine} {n : Nat} (hn : n < 32)
    (h : m.count = BitVec.ofNat 5 n) :
    exists m', Steps 0x1d5 m 0x1db m' ∧ Copied n m m' := by
  induction n generalizing m with
  | zero =>
      have hloop := @steps_branch _ _ m none (LoopCounter.done m.count)
        loopWord_isBranch rfl trivial rfl
      have hdone : LoopCounter.done m.count = true := by
        rw [h]
        rfl
      rw [hdone] at hloop
      refine ⟨_, hloop, ?_⟩
      constructor <;> simp [loopWord, copyWords, displayWords]
  | succ n ih =>
      obtain ⟨hsegments, hflags, htmp, hip, hnew, hcount, hmem⟩ :=
        m.afterRound_rest
      obtain ⟨hne, hdown⟩ := count_down hn h
      obtain ⟨m', hsteps, hcopied⟩ := ih (by omega) (hcount.trans hdown)
      have hgprs := m.afterRound_gprs
      have hbp : m.afterRound.gprs BP = m.gprs BP - 2#16 := by
        rw [hgprs]
        rfl
      have hsp : m.afterRound.gprs SP = m.gprs SP - 2#16 := by
        rw [hgprs]
        rfl
      refine ⟨m', (steps_round hne).trans hsteps, ?_⟩
      constructor
      · intro r hrsp hrbp
        rw [hcopied.gprs r hrsp hrbp, hgprs, Eval.gprs_set_ne _ _ hrsp,
          Eval.gprs_set_ne _ _ hrbp]
      · rw [hcopied.sp, hsp, BitVec.sub_sub, Nat.mul_succ, Nat.add_comm,
          BitVec.ofNat_add]
      · exact hcopied.segments.trans hsegments
      · exact hcopied.flags.trans hflags
      · exact hcopied.tmp.trans htmp
      · exact hcopied.ip.trans hip
      · exact hcopied.newIp.trans hnew
      · rw [hcopied.mem, hsegments, hbp, hsp, hmem]
        rfl

/-!
## The whole instruction
-/

/-- The words up to the one that stores the old `BP`. -/
def saveWords : List Microinstruction :=
  { bSel := .IMMEDIATE, aluOp := .SELB, tmpWrEn := true, raSel := SP
    next := 0x1cf } :: Microcode.enterWords.take 2

theorem save_path (c : Control) :
    c.path 3 none 0xc8 = some (saveWords, 0x1d1) := rfl

def storeWordLoop : Microinstruction :=
  { segmentForce := true, segment := .SS, memWrite := true, raSel := SP
    jumpType := .LOOP_DONE, next := 0x1e0 }

theorem storeWordLoop_isBranch : IsBranch 0x1d1 storeWordLoop :=
  ⟨rfl, rfl, rfl, ⟨rfl, rfl⟩, by decide⟩

/-- The words that store the new frame pointer in its last place. -/
def frameWords : List Microinstruction := (Microcode.enterWords.drop 3).take 3

theorem frame_path (c : Control) :
    c.path 3 none 0x1d2 = some (frameWords, 0x1d5) := rfl

/-- The last word takes the size of the frame from `SP`. -/
def sizeWord (next : Nat) : Microinstruction :=
  { bSel := .TEMP, aluOp := .SUB, rdSel := SP
    rdSelSource := .MICROCODE_RD_SEL, nextInstruction := true, next := next }

def flatWords : List Microinstruction := (Microcode.enterWords.drop 17).take 1

def nestedWords : List Microinstruction :=
  (Microcode.enterWords.drop 12).take 4

theorem flat_program (c : Control) :
    c.program 1 0x1e0 = some (flatWords, sizeWord 0x1e2) := rfl

theorem nested_program (c : Control) :
    c.program 4 0x1db = some (nestedWords, sizeWord 0x1e0) := rfl

/-- The machine when the old `BP` is stored. -/
def saved (m : Machine) : Machine :=
  (((m.follow saveWords).ready storeWordLoop).advance storeWordLoop)

theorem steps_save (m : Machine) :
    Steps 0xc8 m (if LoopCounter.done m.count then 0x1e0 else 0x1d2)
      m.saved := by
  have hpath := steps_of_path (m := m) (save_path m.control) rfl trivial
  have hloop := @steps_branch _ _ (m.follow saveWords) saveWords.getLast?
    (LoopCounter.done m.count) storeWordLoop_isBranch rfl follow_selected
    (by simp [saveWords, Microcode.enterWords, branch, storeWordLoop])
  exact hpath.trans hloop

/-- The top of the stack with the old `BP` on it. -/
def frameTop (m : Machine) : BitVec 16 := m.gprs SP - 2#16

/-- The memory with the old `BP` on the stack. -/
def savedMem (m : Machine) : Memory :=
  storeWord m.mem (m.segments .SS) m.frameTop (m.gprs BP)

theorem saved_gprs (m : Machine) : m.saved.gprs = m.gprs.set SP m.frameTop := by
  simp [saved, saveWords, storeWordLoop, Microcode.enterWords, frameTop]

theorem saved_rest (m : Machine) :
    m.saved.segments = m.segments ∧ m.saved.flags = m.flags ∧
      m.saved.tmp = m.insn.immediates0 ∧ m.saved.ip = m.ip ∧
      m.saved.newIp = m.newIp ∧ m.saved.insn = m.insn ∧
      m.saved.count = LoopCounter.step false true 0#5 m.count ∧
      m.saved.mem = m.savedMem ∧ m.saved.ra = m.frameTop := by
  have h : (m.gprs.set SP (m.gprs SP - 2#16)) BP = m.gprs BP := rfl
  simp [saved, saveWords, storeWordLoop, Microcode.enterWords, frameTop,
    savedMem, h]

theorem frameTempAddr {n : Nat} (hn : n < 32) (a : BitVec 16) {b : BitVec 5}
    (h : b = BitVec.ofNat 5 n) :
    ALU.doEnterFrameTempAddr a b = a - BitVec.ofNat 16 (2 * n) := by
  unfold ALU.doEnterFrameTempAddr
  congr 1
  apply BitVec.eq_of_toNat_eq
  rw [h]
  simp only [BitVec.toNat_shiftLeft, BitVec.toNat_setWidth, BitVec.toNat_ofNat,
    Nat.shiftLeft_eq]
  omega

/-- The machine when the frame pointer is in its last place. -/
theorem frame_rest {m : Machine} {n : Nat} (hn : n < 32)
    (h : m.insn.immediates1.extractLsb' 0 5 = BitVec.ofNat 5 n)
    (hra : m.ra = m.gprs SP) :
    (m.follow frameWords).gprs = m.gprs ∧
      (m.follow frameWords).segments = m.segments ∧
      (m.follow frameWords).flags = m.flags ∧
      (m.follow frameWords).tmp = m.tmp ∧ (m.follow frameWords).ip = m.ip ∧
      (m.follow frameWords).newIp = m.newIp ∧
      (m.follow frameWords).count = m.count ∧
      (m.follow frameWords).mem =
        storeWord m.mem (m.segments .SS)
          (m.gprs SP - BitVec.ofNat 16 (2 * n)) (m.gprs SP) := by
  have haddr := frameTempAddr hn (m.gprs SP) h
  simp [frameWords, Microcode.enterWords, hra, haddr]

/-- A frame without a display. -/
theorem retires_flat {m : Machine} (hcount : m.count = 0#5) :
    exists x, Retires 0xc8 m x ∧ x.gprs BP = m.frameTop ∧
      x.gprs SP = m.frameTop - m.insn.immediates0 ∧ x.mem = m.savedMem := by
  have hsteps := m.steps_save
  rw [show LoopCounter.done m.count = true by rw [hcount]; rfl] at hsteps
  obtain ⟨-, -, htmp, -, -, -, -, hmem, hra⟩ := m.saved_rest
  have hgprs := m.saved_gprs
  refine ⟨_, hsteps.retires (retires_of_program (flat_program _)), ?_, ?_, ?_⟩
  · simp [flatWords, sizeWord, Microcode.enterWords, hgprs, hra]
    rfl
  · simp [flatWords, sizeWord, Microcode.enterWords, hgprs, htmp]
    rfl
  · simp [flatWords, sizeWord, Microcode.enterWords, hmem]

/-- The place of the new frame pointer below the display. -/
def framePlace (n : Nat) (m : Machine) : BitVec 16 :=
  m.frameTop - BitVec.ofNat 16 (2 * n)

/-- The memory with the display copied. -/
def copiedMem (n : Nat) (m : Machine) : Memory :=
  copyWords (m.segments .SS) (displayWords (n - 1) (m.gprs BP) m.frameTop)
    (storeWord m.savedMem (m.segments .SS) (m.framePlace n) m.frameTop)

/-- A frame with a display: the frame pointer is what its place holds after the
copy. -/
theorem retires_nested {m : Machine} {n : Nat} (hpos : 0 < n) (hn : n < 32)
    (hcount : m.count = BitVec.ofNat 5 n)
    (himm : m.insn.immediates1.extractLsb' 0 5 = BitVec.ofNat 5 n) :
    exists x, Retires 0xc8 m x ∧
      x.gprs BP = loadWord (m.copiedMem n) (m.segments .SS) (m.framePlace n) ∧
      x.gprs SP = m.framePlace n - m.insn.immediates0 ∧
      x.mem = m.copiedMem n := by
  obtain ⟨k, rfl⟩ : exists k, n = k + 1 := ⟨n - 1, by omega⟩
  obtain ⟨hne, hdown⟩ := count_down hn hcount
  obtain ⟨hsegments, -, htmp, -, -, hinsn, hsaved, hmem, hra⟩ := m.saved_rest
  have hbp : m.saved.gprs BP = m.gprs BP := by
    rw [m.saved_gprs]
    rfl
  have hsp : m.saved.gprs SP = m.frameTop := by
    rw [m.saved_gprs]
    rfl
  have hsave := m.steps_save
  rw [show LoopCounter.done m.count = false from
    beq_eq_false_iff_ne.mpr hne] at hsave
  have hframe := steps_of_path (frame_path m.saved.control) rfl trivial
  obtain ⟨hgprs, hsegments', -, htmp', -, -, hcount', hmem'⟩ :=
    frame_rest (m := m.saved) hn (by rw [hinsn]; exact himm)
      (hra.trans hsp.symm)
  obtain ⟨m', hloop, hcopied⟩ := steps_copies (n := k) (by omega)
    (hcount'.trans (hsaved.trans hdown))
  have hrun := (hsave.trans (hframe.trans hloop)).retires
    (retires_of_program (nested_program _))
  have hplace : m'.gprs SP - 2#16 = m.framePlace (k + 1) := by
    rw [hcopied.sp, hgprs, hsp]
    unfold framePlace
    rw [BitVec.sub_sub, Nat.mul_succ, BitVec.ofNat_add]
  have hsegment : m'.segments .SS = m.segments .SS := by
    rw [hcopied.segments, hsegments', hsegments]
  have hcopy : m'.mem = m.copiedMem (k + 1) := by
    rw [hcopied.mem, hsegments', hmem', hgprs, hbp, hsp, hsegments, hmem]
    rfl
  have hsize : m'.tmp = m.insn.immediates0 := by
    rw [hcopied.tmp, htmp', htmp]
  refine ⟨_, hrun, ?_, ?_, ?_⟩
  · simp [nestedWords, sizeWord, Microcode.enterWords, hplace, hsegment, hcopy]
    rfl
  · simp [nestedWords, sizeWord, Microcode.enterWords, hplace, hsize]
    rfl
  · simp [nestedWords, sizeWord, Microcode.enterWords, hcopy]

end Machine
end Rtl
end S80x86
