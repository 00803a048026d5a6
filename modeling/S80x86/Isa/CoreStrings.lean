import S80x86.Isa.CoreArithmetic

/-!
# Strings in the core

The microprograms that load and store the accumulator, and one round of the
string instructions without a repetition prefix.
-/

namespace S80x86
namespace Isa

open Rtl Rtl.GPR Rtl.Machine
open scoped Rtl.Machine.Eval

/-- No prefix changes what the instruction does. -/
structure Unprefixed (m : Machine) : Prop where
  override : m.override = none
  bpAsBase : m.modrm.bpAsBase = false
  rep : m.insn.rep = .NONE

/-!
## Accumulator and memory
-/

def loadWords (next : Nat) : List Microinstruction :=
  [{ marWrite := true, marWrSel := .Q, bSel := .IMMEDIATE, aluOp := .SELB
     segment := .DS, next := next },
    { segment := .DS, width := .WAUTO, memRead := true, next := 0x2a7 }]

def loadLast : Microinstruction :=
  { rdSelSource := .MICROCODE_RD_SEL, rdSel := AL, width := .WAUTO
    aSel := .MDR, nextInstruction := true, next := 0x2a8 }

def saveWords : List Microinstruction :=
  [{ marWrite := true, marWrSel := .Q, bSel := .IMMEDIATE, aluOp := .SELB
     raSel := AL, next := 0x2a8 },
    { mdrWrite := true, segment := .DS, next := 0x499 }]

def saveLast : Microinstruction :=
  { segment := .DS, memWrite := true, width := .WAUTO, nextInstruction := true
    next := 0x49a }

theorem load_program (c : Control) :
    c.program 2 0xa0 = some (loadWords 0x2a6, loadLast) ∧
      c.program 2 0xa1 = some (loadWords 0x2a6, loadLast) := ⟨rfl, rfl⟩

set_option maxRecDepth 4000 in
theorem save_program (c : Control) :
    c.program 2 0xa2 = some (saveWords, saveLast) ∧
      c.program 2 0xa3 = some (saveWords, saveLast) := ⟨rfl, rfl⟩

section Moves

variable {m : Machine} {is8Bit : Bool}

/-- The word that moves what has been read to the accumulator. -/
theorem retire_loadLast (hnew : m.newIp = none)
    (hwidth : m.insn.opcode[0] = !is8Bit) :
    ofArch ((m.ready loadLast).retire loadLast) =
      (ofMachine m).setReg is8Bit AX m.mdr := by
  cases is8Bit with
  | true =>
      ext1 <;> simp [loadLast, hnew, hwidth]
  | false =>
      ext1 <;> simp [loadLast, hnew, hwidth]

/-- The words before it read the element. -/
theorem loadWords_follow (next : Nat) (hnew : m.newIp = none) (h : Unprefixed m)
    (hwidth : m.insn.opcode[0] = !is8Bit) :
    (m.follow (loadWords next)).newIp = none ∧
      (m.follow (loadWords next)).insn = m.insn ∧
      ofMachine (m.follow (loadWords next)) = ofMachine m ∧
      (m.follow (loadWords next)).mdr =
        (ofMachine m).element is8Bit .DS m.insn.immediates0 := by
  refine ⟨?_, ?_, ?_, ?_⟩
  · simp [loadWords, hnew]
  · simp [loadWords]
  · ext1 <;> simp [loadWords]
  · cases is8Bit <;>
      simp [loadWords, hwidth, h.override, h.bpAsBase, State.element]

theorem performs_load {addr next : Nat} (hnew : m.newIp = none) (h : Unprefixed m)
    (hwidth : m.insn.opcode[0] = !is8Bit) (hprogram : forall c : Control,
      c.program 2 addr = some (loadWords next, loadLast)) :
    Performs addr m (.load is8Bit m.insn.immediates0) := by
  obtain ⟨hnew', hinsn, hstate, hmdr⟩ := loadWords_follow next hnew h hwidth
  have hwidth' : (m.follow (loadWords next)).insn.opcode[0] = !is8Bit := by
    rw [hinsn]
    exact hwidth
  have hretire := retire_loadLast hnew' hwidth'
  rw [hstate, hmdr] at hretire
  exact ⟨_, retires_of_program (hprogram m.control), hretire⟩

/-- The word that stores what has been put into the data register. -/
theorem retire_saveLast (hnew : m.newIp = none)
    (hwidth : m.insn.opcode[0] = !is8Bit) {n : SR}
    (hsr : m.sr = m.segments n) :
    ofArch ((m.ready saveLast).retire saveLast) =
      (ofMachine m).place is8Bit n m.mar m.mdr := by
  cases is8Bit with
  | true =>
      ext1 <;> simp [saveLast, hnew, hwidth, hsr]
  | false =>
      ext1 <;> simp [saveLast, hnew, hwidth, hsr]

theorem saveWords_follow (hnew : m.newIp = none) (h : Unprefixed m) :
    (m.follow saveWords).newIp = none ∧
      (m.follow saveWords).insn = m.insn ∧
      ofMachine (m.follow saveWords) = ofMachine m ∧
      (m.follow saveWords).sr = m.segments .DS ∧
      (m.follow saveWords).mar = m.insn.immediates0 ∧
      (m.follow saveWords).mdr = m.gprs AX := by
  refine ⟨?_, ?_, ?_, ?_, ?_, ?_⟩
  · simp [saveWords, hnew]
  · simp [saveWords]
  · ext1 <;> simp [saveWords]
  · simp [saveWords, h.override, h.bpAsBase]
  · simp [saveWords]
  · simp [saveWords]

/-- A place takes as much of a value as it has room for. -/
theorem place_read (s : State) (is8Bit : Bool) (n : SR) (offset : BitVec 16)
    (g : Gprs) : s.place is8Bit n offset (g.read is8Bit AX) =
      s.place is8Bit n offset (g AX) := by
  cases is8Bit with
  | true =>
      ext1 <;> simp [State.place]
  | false =>
      rfl

theorem performs_save {addr : Nat} (hnew : m.newIp = none) (h : Unprefixed m)
    (hwidth : m.insn.opcode[0] = !is8Bit) (hprogram : forall c : Control,
      c.program 2 addr = some (saveWords, saveLast)) :
    Performs addr m (.save is8Bit m.insn.immediates0) := by
  obtain ⟨hnew', hinsn, hstate, hsr, hmar, hmdr⟩ := saveWords_follow hnew h
  have hsegments : (m.follow saveWords).segments = m.segments :=
    congrArg State.segments hstate
  have hwidth' : (m.follow saveWords).insn.opcode[0] = !is8Bit := by
    rw [hinsn]
    exact hwidth
  rw [<- hsegments] at hsr
  have hretire := retire_saveLast hnew' hwidth' hsr
  rw [hstate, hmar, hmdr, <- place_read] at hretire
  exact ⟨_, retires_of_program (hprogram m.control), hretire⟩

end Moves

/-!
## Elements of strings
-/

attribute [local simp] index_ne State.element

def elementWidth (is8Bit : Bool) : WidthType := if is8Bit then .W8 else .W16

def elementSize (is8Bit : Bool) : BitVec 16 := if is8Bit then 1#16 else 2#16

/-- The word that ends an instruction and does nothing else. -/
def endWord (next : Nat) : Microinstruction :=
  { nextInstruction := true, next := next }

/-- The word that moves `DI` on from the address that was used. -/
def nextDiWord (is8Bit : Bool) (next : Nat) : Microinstruction :=
  { aSel := .MAR, bSel := .IMMEDIATE, immediate := some (elementSize is8Bit)
    aluOp := .NEXT, rdSelSource := .MICROCODE_RD_SEL, rdSel := DI
    nextInstruction := true, next := next }

def lodsSteps (is8Bit : Bool) (entry : Nat) : List Microinstruction :=
  [{ next := entry },
    { raSel := SI, rbCl := true, jumpType := .HAS_NO_REP_PREFIX
      next := entry + 3 },
    { raSel := SI, marWrSel := .Q, marWrite := true, segment := .DS
      next := entry + 4 },
    { bSel := .IMMEDIATE, immediate := some (elementSize is8Bit)
      aluOp := .NEXT, rdSelSource := .MICROCODE_RD_SEL, rdSel := SI
      segment := .DS, next := entry + 5 },
    { width := elementWidth is8Bit, segment := .DS, memRead := true
      aSel := .MDR, rdSelSource := .MICROCODE_RD_SEL, rdSel := AL
      jumpType := .HAS_NO_REP_PREFIX, next := entry + 7 }]

def stosSteps (is8Bit : Bool) : List Microinstruction :=
  if is8Bit then
    [{ width := .W8, raSel := AL, next := 0x3df },
      { width := .W8, mdrWrite := true, next := 0x3e0 },
      { raSel := DI, rbCl := true, jumpType := .HAS_NO_REP_PREFIX
        next := 0x3e3 },
      { raSel := DI, marWrSel := .Q, marWrite := true, next := 0x3e4 },
      { bSel := .IMMEDIATE, immediate := some 1#16, aluOp := .NEXT
        rdSelSource := .MICROCODE_RD_SEL, rdSel := DI, next := 0x3e5 },
      { width := .W8, raSel := AL, next := 0x3e6 },
      { width := .W8, mdrWrite := true, segment := .ES, segmentForce := true
        next := 0x3e7 },
      { width := .W8, segment := .ES, segmentForce := true, memWrite := true
        jumpType := .HAS_NO_REP_PREFIX, next := 0x3e9 }]
  else
    [{ next := 0x3ea },
      { mdrWrite := true, raSel := DI, rbCl := true
        jumpType := .HAS_NO_REP_PREFIX, next := 0x3ed },
      { raSel := DI, marWrSel := .Q, marWrite := true, next := 0x3ee },
      { bSel := .IMMEDIATE, immediate := some 2#16, aluOp := .NEXT
        rdSelSource := .MICROCODE_RD_SEL, rdSel := DI, segment := .ES
        segmentForce := true, next := 0x3ef },
      { segment := .ES, segmentForce := true, memWrite := true
        jumpType := .HAS_NO_REP_PREFIX, next := 0x3f1 }]

def movsSteps (is8Bit : Bool) : List Microinstruction :=
  if is8Bit then
    [{ next := 0x2b6 },
      { raSel := SI, rbCl := true, jumpType := .HAS_NO_REP_PREFIX
        next := 0x2b9 },
      { marWrSel := .Q, marWrite := true, raSel := SI, segment := .DS
        next := 0x2ba },
      { width := .W8, segment := .DS, memRead := true, next := 0x2bb },
      { raSel := DI, aSel := .MAR, bSel := .IMMEDIATE, immediate := some 1#16
        aluOp := .NEXT, rdSelSource := .MICROCODE_RD_SEL, rdSel := SI
        next := 0x2bc },
      { raSel := DI, marWrSel := .Q, marWrite := true, segment := .ES
        segmentForce := true, next := 0x2bd },
      { width := .W8, segment := .ES, segmentForce := true, memWrite := true
        jumpType := .HAS_NO_REP_PREFIX, next := 0x2c0 }]
  else
    [{ next := 0x2c1 },
      { raSel := SI, rbCl := true, jumpType := .HAS_NO_REP_PREFIX
        next := 0x2c4 },
      { marWrSel := .Q, marWrite := true, raSel := SI, next := 0x2c5 },
      { bSel := .IMMEDIATE, immediate := some 2#16, aluOp := .NEXT
        rdSelSource := .MICROCODE_RD_SEL, rdSel := SI, segment := .DS
        next := 0x2c6 },
      { segment := .DS, memRead := true, raSel := DI, marWrSel := .Q
        marWrite := true, next := 0x2c7 },
      { bSel := .IMMEDIATE, immediate := some 2#16, aluOp := .NEXT
        rdSelSource := .MICROCODE_RD_SEL, rdSel := DI, segment := .ES
        segmentForce := true, next := 0x2c8 },
      { segment := .ES, segmentForce := true, memWrite := true
        jumpType := .HAS_NO_REP_PREFIX, next := 0x2ca }]

def cmpsSteps (is8Bit : Bool) : List Microinstruction :=
  if is8Bit then
    [{ next := 0x19b },
      { raSel := DI, rbCl := true, jumpType := .HAS_NO_REP_PREFIX
        next := 0x19e },
      { raSel := DI, marWrSel := .Q, marWrite := true, segment := .ES
        segmentForce := true, next := 0x19f },
      { width := .W8, segment := .ES, segmentForce := true, memRead := true
        aSel := .MDR, tmpWrEn := true, next := 0x1a0 },
      { aSel := .MAR, bSel := .IMMEDIATE, immediate := some 1#16
        aluOp := .NEXT, rdSelSource := .MICROCODE_RD_SEL, rdSel := DI
        raSel := SI, next := 0x1a1 },
      { marWrSel := .Q, marWrite := true, segment := .DS, raSel := SI
        next := 0x1a2 },
      { bSel := .IMMEDIATE, immediate := some 1#16, aluOp := .NEXT
        rdSelSource := .MICROCODE_RD_SEL, rdSel := SI, segment := .DS
        next := 0x1a3 },
      { width := .W8, segment := .DS, memRead := true, next := 0x1a4 }]
  else
    [{ next := 0x1a7 },
      { raSel := DI, rbCl := true, jumpType := .HAS_NO_REP_PREFIX
        next := 0x1aa },
      { raSel := DI, marWrSel := .Q, marWrite := true, segment := .ES
        segmentForce := true, next := 0x1ab },
      { segment := .ES, segmentForce := true, memRead := true
        aSel := .MDR, tmpWrEn := true, raSel := DI, next := 0x1ac },
      { bSel := .IMMEDIATE, immediate := some 2#16
        aluOp := .NEXT, rdSelSource := .MICROCODE_RD_SEL, rdSel := DI
        raSel := SI, next := 0x1ad },
      { marWrSel := .Q, marWrite := true, segment := .DS, raSel := SI
        next := 0x1ae },
      { bSel := .IMMEDIATE, immediate := some 2#16, aluOp := .NEXT
        rdSelSource := .MICROCODE_RD_SEL, rdSel := SI, segment := .DS
        next := 0x1af }]

/-- The word that compares what has been read with the element before. -/
def compareWord (is8Bit : Bool) : Microinstruction :=
  { width := elementWidth is8Bit, segment := if is8Bit then .ES else .DS
    memRead := !is8Bit, aSel := .MDR, bSel := .TEMP, aluOp := .SUB
    updateFlags := [.OF, .SF, .ZF, .CF, .PF, .AF]
    jumpType := .HAS_NO_REP_PREFIX
    next := if is8Bit then 0x1a6 else 0x1b1 }

def scasSteps (is8Bit : Bool) (entry : Nat) : List Microinstruction :=
  [{ raSel := DI, next := entry },
    { raSel := DI, marWrSel := .Q, marWrite := true, rbCl := true
      jumpType := .HAS_NO_REP_PREFIX, next := entry + 3 },
    { width := elementWidth is8Bit, segment := .ES, segmentForce := true
      memRead := true, raSel := AL, tmpWrEn := true, next := entry + 4 }]

def scanWord (is8Bit : Bool) (next : Nat) : Microinstruction :=
  { width := elementWidth is8Bit, aSel := .MDR, bSel := .TEMP
    aluOp := .SUBREV, updateFlags := [.OF, .SF, .ZF, .CF, .PF, .AF]
    jumpType := .HAS_NO_REP_PREFIX, next := next }

/-- A word that selects `ES`, whatever the prefixes say. -/
def forcedWord : Microinstruction :=
  { segment := .ES, segmentForce := true, next := 0 }

/-!
## Where the words are
-/

section Programs

variable {c : Control} (h : c.noRep = true)
include h

/-- What holds for any ModRM byte. -/
theorem Control.of_noRep {P : Control -> Prop}
    (hall : forall rmIsReg regnum, P ⟨rmIsReg, regnum, true⟩) : P c := by
  rcases c with ⟨rmIsReg, regnum, noRep⟩
  cases h
  exact hall rmIsReg regnum

theorem lods_program :
    c.program 5 0xac = some (lodsSteps true 0x27c, endWord 0x284) ∧
      c.program 5 0xad = some (lodsSteps false 0x284, endWord 0x28c) := by
  apply Control.of_noRep h
  decide +kernel

theorem stos_program :
    c.program 8 0xaa = some (stosSteps true, endWord 0x3ea) ∧
      c.program 5 0xab = some (stosSteps false, endWord 0x3f2) := by
  apply Control.of_noRep h
  decide +kernel

theorem movs_program :
    c.program 7 0xa4 = some (movsSteps true, nextDiWord true 0x2c1) ∧
      c.program 7 0xa5 = some (movsSteps false, endWord 0x2cb) := by
  apply Control.of_noRep h
  decide +kernel

theorem cmps_program :
    c.program 9 0xa6 =
        some (cmpsSteps true ++ [compareWord true], endWord 0x1a7) ∧
      c.program 8 0xa7 =
        some (cmpsSteps false ++ [compareWord false], endWord 0x1b2) := by
  apply Control.of_noRep h
  decide +kernel

theorem scasb_paths :
    c.path 2 none 0xae = some ((scasSteps true 0x3b9).take 2, 0x3bc) ∧
      c.path 2 (some forcedWord) 0x3bc =
        some ((scasSteps true 0x3b9).drop 2 ++ [scanWord true 0x3c0], 0x3c0) ∧
      c.program 0 0x3c0 = some ([], nextDiWord true 0x3c1) := by
  apply Control.of_noRep h
  decide +kernel

theorem scasw_paths :
    c.path 2 none 0xaf = some ((scasSteps false 0x3c1).take 2, 0x3c4) ∧
      c.path 2 (some forcedWord) 0x3c4 =
        some ((scasSteps false 0x3c1).drop 2 ++ [scanWord false 0x3c8],
          0x3c8) ∧
      c.program 0 0x3c8 = some ([], nextDiWord false 0x3c9) := by
  apply Control.of_noRep h
  decide +kernel

end Programs

/-!
## What the words do
-/

section Elements

variable {m : Machine} (is8Bit : Bool)

theorem retire_end {m : Machine} (next : Nat) (hnew : m.newIp = none) :
    ofArch ((m.ready (endWord next)).retire (endWord next)) = ofMachine m := by
  ext1 <;> simp [endWord, hnew]

theorem retire_nextDi {m : Machine} (next : Nat) (hnew : m.newIp = none)
    (hmar : m.mar = m.gprs DI) :
    ofArch ((m.ready (nextDiWord is8Bit next)).retire (nextDiWord is8Bit next)) =
      (ofMachine m).advance is8Bit DI := by
  cases hdf : m.flags.flagsOut.getLsbD Rtl.Flag.DF_IDX <;> cases is8Bit <;>
    ext1 <;> simp [nextDiWord, elementSize, hnew, hmar, hdf, State.advance]

theorem lods_follow (h : Unprefixed m) (hnew : m.newIp = none) (entry : Nat) :
    (m.follow (lodsSteps is8Bit entry)).newIp = none ∧
      ofMachine (m.follow (lodsSteps is8Bit entry)) =
        ((ofMachine m).advance is8Bit SI).setReg is8Bit AX
          ((ofMachine m).element is8Bit .DS ((ofMachine m).gprs SI)) := by
  constructor
  · simp [lodsSteps, hnew]
  · cases is8Bit <;> cases hdf : m.flags.flagsOut.getLsbD Rtl.Flag.DF_IDX <;>
      ext1 <;> simp [lodsSteps, elementWidth, elementSize, h.override,
        h.bpAsBase, hdf, State.advance]

theorem stos_follow (hnew : m.newIp = none) :
    (m.follow (stosSteps is8Bit)).newIp = none ∧
      ofMachine (m.follow (stosSteps is8Bit)) =
        ((ofMachine m).place is8Bit .ES ((ofMachine m).gprs DI)
          ((ofMachine m).gprs.read is8Bit AX)).advance is8Bit DI := by
  constructor
  · cases is8Bit <;> simp [stosSteps, hnew]
  · cases is8Bit <;> cases hdf : m.flags.flagsOut.getLsbD Rtl.Flag.DF_IDX <;>
      ext1 <;> simp [stosSteps, hdf, State.advance]

theorem movsb_follow (h : Unprefixed m) (hnew : m.newIp = none) :
    (m.follow (movsSteps true)).newIp = none ∧
      (m.follow (movsSteps true)).mar = m.gprs DI ∧
      ofMachine (m.follow (movsSteps true)) =
        ((ofMachine m).place true .ES ((ofMachine m).gprs DI)
          ((ofMachine m).element true .DS ((ofMachine m).gprs SI))).advance true SI := by
  refine ⟨?_, ?_, ?_⟩
  · simp [movsSteps, hnew]
  · cases hdf : m.flags.flagsOut.getLsbD Rtl.Flag.DF_IDX <;>
      simp [movsSteps, hdf, h.override, h.bpAsBase]
  · cases hdf : m.flags.flagsOut.getLsbD Rtl.Flag.DF_IDX <;>
      ext1 <;> simp [movsSteps, hdf, h.override, h.bpAsBase, State.advance]

theorem movsw_follow (h : Unprefixed m) (hnew : m.newIp = none) :
    (m.follow (movsSteps false)).newIp = none ∧
      ofMachine (m.follow (movsSteps false)) =
        (((ofMachine m).place false .ES ((ofMachine m).gprs DI)
          ((ofMachine m).element false .DS ((ofMachine m).gprs SI))).advance false SI).advance
            false DI := by
  refine ⟨?_, ?_⟩
  · simp [movsSteps, hnew]
  · cases hdf : m.flags.flagsOut.getLsbD Rtl.Flag.DF_IDX <;>
      ext1 <;> simp [movsSteps, hdf, h.override, h.bpAsBase, State.advance]

theorem updates_arithmetic :
    Updates [.OF, .SF, .ZF, .CF, .PF, .AF] Flag.arithmetic :=
  ⟨fun u => by cases u <;> decide, by decide⟩

/-- The flags after a comparison. -/
theorem compare_flags (m : Machine) (i : Rtl.ALU.Input) (hop : i.op = .SUB)
    (his : i.is8Bit = is8Bit) :
    (Flags.step [.OF, .SF, .ZF, .CF, .PF, .AF] (Rtl.ALU.run i).flagsOut
      m.flags).flagsOut =
      ((ofMachine m).compare is8Bit i.a i.b).flags := by
  subst his
  have hrun := (run_arith .cmp i hop).shows_flags
  rw [updates_arithmetic.flagsOut_step]
  exact hrun.withFlags_eq (by decide) _

theorem scan_follow (next : Nat) :
    (m.follow [scanWord is8Bit next]).newIp = m.newIp ∧
      (m.follow [scanWord is8Bit next]).mar = m.mar ∧
      (m.follow [scanWord is8Bit next]).gprs = m.gprs ∧
      ofMachine (m.follow [scanWord is8Bit next]) =
        (ofMachine m).compare is8Bit m.tmp m.mdr := by
  refine ⟨?_, ?_, ?_, ?_⟩
  · simp [scanWord]
  · simp [scanWord]
  · simp [scanWord]
  · have hflags := compare_flags is8Bit m
      { a := m.tmp, b := m.mdr, is8Bit := is8Bit, op := .SUB
        flagsIn := m.flags.flagsOut, multibitShift := m.multibitShift
        shiftCount := m.tmp.extractLsb' 0 5 } rfl rfl
    ext1
    · simp [scanWord, State.compare]
    · simp [scanWord, State.compare]
    · cases is8Bit with
      | true => exact hflags
      | false => exact hflags
    · simp [scanWord, State.compare]
    · simp [scanWord, State.compare]

theorem scasSteps_follow (h : Unprefixed m) (hnew : m.newIp = none)
    (entry : Nat) :
    (m.follow (scasSteps is8Bit entry)).newIp = none ∧
      (m.follow (scasSteps is8Bit entry)).mar = m.gprs DI ∧
      ofMachine (m.follow (scasSteps is8Bit entry)) = ofMachine m ∧
      (m.follow (scasSteps is8Bit entry)).tmp = m.gprs.read is8Bit AX ∧
      (m.follow (scasSteps is8Bit entry)).mdr =
        (ofMachine m).element is8Bit .ES (m.gprs DI) := by
  refine ⟨?_, ?_, ?_, ?_, ?_⟩
  · simp [scasSteps, hnew]
  · simp [scasSteps]
  · ext1 <;> simp [scasSteps]
  · cases is8Bit <;> simp [scasSteps, elementWidth]
  · cases is8Bit <;>
      simp [scasSteps, elementWidth, h.override, h.bpAsBase]

theorem cmpsSteps_follow (h : Unprefixed m) (hnew : m.newIp = none) :
    (m.follow (cmpsSteps is8Bit)).newIp = none ∧
      ofMachine (m.follow (cmpsSteps is8Bit)) =
        ((ofMachine m).advance is8Bit DI).advance is8Bit SI ∧
      (m.follow (cmpsSteps is8Bit)).tmp =
        (ofMachine m).element is8Bit .ES (m.gprs DI) := by
  refine ⟨?_, ?_, ?_⟩
  · cases is8Bit <;> simp [cmpsSteps, hnew]
  · cases is8Bit <;> cases hdf : m.flags.flagsOut.getLsbD Rtl.Flag.DF_IDX <;>
      ext1 <;> simp [cmpsSteps, hdf, h.override, h.bpAsBase, State.advance]
  · cases is8Bit <;> simp [cmpsSteps, h.override, h.bpAsBase]

/-- A byte has been read by the words before, a word is still to be read. -/
theorem cmpsSteps_source (h : Unprefixed m) :
    (m.follow (cmpsSteps true)).mdr =
        (ofMachine m).element true .DS (m.gprs SI) ∧
      (m.follow (cmpsSteps false)).sr = m.segments .DS ∧
      (m.follow (cmpsSteps false)).mar = m.gprs SI := by
  refine ⟨?_, ?_, ?_⟩
  · cases hdf : m.flags.flagsOut.getLsbD Rtl.Flag.DF_IDX <;>
      simp [cmpsSteps, hdf, h.override, h.bpAsBase]
  · simp [cmpsSteps, h.override, h.bpAsBase]
  · cases hdf : m.flags.flagsOut.getLsbD Rtl.Flag.DF_IDX <;>
      simp [cmpsSteps, hdf]

/-- The other element is compared where the words before have left it. -/
theorem compareWord_follow :
    (m.follow [compareWord is8Bit]).newIp = m.newIp ∧
      ofMachine (m.follow [compareWord is8Bit]) =
        (ofMachine m).compare is8Bit
          (bif is8Bit then m.mdr else loadWord m.mem m.sr m.mar) m.tmp := by
  constructor
  · cases is8Bit <;> simp [compareWord]
  · have hflags := compare_flags is8Bit m
      { a := bif is8Bit then m.mdr else loadWord m.mem m.sr m.mar, b := m.tmp
        is8Bit := is8Bit, op := .SUB
        flagsIn := m.flags.flagsOut, multibitShift := m.multibitShift
        shiftCount := m.tmp.extractLsb' 0 5 } rfl rfl
    ext1
    · cases is8Bit <;> simp [compareWord]
    · cases is8Bit <;> simp [compareWord]
    · cases is8Bit with
      | true => exact hflags
      | false => exact hflags
    · cases is8Bit <;> simp [compareWord]
    · cases is8Bit <;> simp [compareWord]

end Elements

/-- No word changes the instruction. -/
theorem follow_control (us : List Microinstruction) (m : Machine) :
    (m.follow us).control = m.control := by
  induction us generalizing m with
  | nil =>
      rfl
  | cons u us ih =>
      exact (ih _).trans (ready_control m u)

/-- A microprogram in two parts: what the second relies on need not be in the
word before it. -/
theorem retires_of_paths {n k addr middle last : Nat} {m : Machine}
    {us vs : List Microinstruction} {u : Microinstruction}
    {before : Option Microinstruction}
    (hfirst : m.control.path n none addr = some (us, middle))
    (hselected : (m.follow us).Selected before)
    (hsecond : m.control.path k before middle = some (vs, last))
    (hlast : m.control.program 0 last = some ([], u)) :
    Retires addr m (((m.follow (us ++ vs)).ready u).retire u) := by
  have hsteps := (steps_of_path hfirst rfl trivial).trans
    (steps_of_path hsecond (follow_control us m) hselected)
  rw [<- follow_append] at hsteps
  rw [<- follow_control (us ++ vs) m] at hlast
  have hretires := @retires_of_program 0 last [] u (m.follow (us ++ vs)) hlast
  rw [Machine.follow] at hretires
  exact hsteps.retires hretires

/-!
## One round
-/

section Rounds

variable {m : Machine} (h : Unprefixed m) (hnew : m.newIp = none)
include h

theorem Unprefixed.noRep : m.control.noRep = true := by
  change (m.insn.rep == .NONE) = true
  rw [h.rep]
  rfl

/-- Without a prefix the words before the one that reads select `ES`. -/
theorem scasSteps_selected (is8Bit : Bool) (entry : Nat) :
    (m.follow ((scasSteps is8Bit entry).take 2)).Selected (some forcedWord) := by
  change (m.follow ((scasSteps is8Bit entry).take 2)).sr = _
  simp [scasSteps, forcedWord, h.override, h.bpAsBase]

include hnew

theorem performs_lods :
    Performs 0xac m (.lods true) ∧ Performs 0xad m (.lods false) := by
  obtain ⟨hbyte, hword⟩ := lods_program h.noRep
  constructor
  · obtain ⟨hnew', hstate⟩ := lods_follow true h hnew 0x27c
    exact ⟨_, retires_of_program hbyte, (retire_end _ hnew').trans hstate⟩
  · obtain ⟨hnew', hstate⟩ := lods_follow false h hnew 0x284
    exact ⟨_, retires_of_program hword, (retire_end _ hnew').trans hstate⟩

theorem performs_stos :
    Performs 0xaa m (.stos true) ∧ Performs 0xab m (.stos false) := by
  obtain ⟨hbyte, hword⟩ := stos_program h.noRep
  constructor
  · obtain ⟨hnew', hstate⟩ := stos_follow true hnew
    exact ⟨_, retires_of_program hbyte, (retire_end _ hnew').trans hstate⟩
  · obtain ⟨hnew', hstate⟩ := stos_follow false hnew
    exact ⟨_, retires_of_program hword, (retire_end _ hnew').trans hstate⟩

theorem performs_movs :
    Performs 0xa4 m (.movs true) ∧ Performs 0xa5 m (.movs false) := by
  obtain ⟨hbyte, hword⟩ := movs_program h.noRep
  constructor
  · obtain ⟨hnew', hmar, hstate⟩ := movsb_follow h hnew
    have hdi : (m.follow (movsSteps true)).gprs DI = m.gprs DI := by
      have hgprs := congrArg (fun s => s.gprs DI) hstate
      simpa using hgprs
    rw [<- hdi] at hmar
    have hretire := retire_nextDi true 0x2c1 hnew' hmar
    rw [hstate] at hretire
    exact ⟨_, retires_of_program hbyte, hretire⟩
  · obtain ⟨hnew', hstate⟩ := movsw_follow h hnew
    exact ⟨_, retires_of_program hword, (retire_end _ hnew').trans hstate⟩

theorem performs_cmps :
    Performs 0xa6 m (.cmps true) ∧ Performs 0xa7 m (.cmps false) := by
  obtain ⟨hbyte, hword⟩ := cmps_program h.noRep
  obtain ⟨hmdr, hsr, hmar⟩ := cmpsSteps_source h
  constructor
  · obtain ⟨hnew', hstate, htmp⟩ := cmpsSteps_follow true h hnew
    obtain ⟨hkept, hcompare⟩ := @compareWord_follow (m.follow (cmpsSteps true)) true
    rw [<- follow_append] at hkept hcompare
    rw [hstate, cond_true, hmdr, htmp] at hcompare
    exact ⟨_, retires_of_program hbyte,
      (retire_end _ (hkept.trans hnew')).trans hcompare⟩
  · obtain ⟨hnew', hstate, htmp⟩ := cmpsSteps_follow false h hnew
    obtain ⟨hkept, hcompare⟩ := @compareWord_follow (m.follow (cmpsSteps false)) false
    have hmem : (m.follow (cmpsSteps false)).mem = m.mem :=
      congrArg State.mem hstate
    rw [<- follow_append] at hkept hcompare
    rw [hstate, cond_false, hmem, hsr, hmar, htmp] at hcompare
    exact ⟨_, retires_of_program hword,
      (retire_end _ (hkept.trans hnew')).trans hcompare⟩

theorem scas_state (is8Bit : Bool) (entry next stop : Nat) :
    ofArch (((m.follow (scasSteps is8Bit entry ++
      [scanWord is8Bit next])).ready (nextDiWord is8Bit stop)).retire
        (nextDiWord is8Bit stop)) =
      (Operation.scas is8Bit).exec (ofMachine m) := by
  obtain ⟨hnew', hmar, hstate, htmp, hmdr⟩ :=
    scasSteps_follow is8Bit h hnew entry
  obtain ⟨hkept, hmar', hgprs, hcompare⟩ :=
    @scan_follow (m.follow (scasSteps is8Bit entry)) is8Bit next
  rw [<- follow_append] at hkept hmar' hgprs hcompare
  have hsame : (m.follow (scasSteps is8Bit entry)).gprs = m.gprs :=
    congrArg State.gprs hstate
  rw [hmar, <- hsame, <- hgprs] at hmar'
  rw [hstate, htmp, hmdr] at hcompare
  have hretire := retire_nextDi is8Bit stop (hkept.trans hnew') hmar'
  rw [hcompare] at hretire
  exact hretire

theorem performs_scas :
    Performs 0xae m (.scas true) ∧ Performs 0xaf m (.scas false) := by
  constructor
  · obtain ⟨hfirst, hsecond, hlast⟩ := scasb_paths h.noRep
    have hretires := retires_of_paths hfirst (scasSteps_selected h true 0x3b9)
      hsecond hlast
    rw [<- List.append_assoc, List.take_append_drop] at hretires
    exact ⟨_, hretires, scas_state h hnew true 0x3b9 0x3c0 0x3c1⟩
  · obtain ⟨hfirst, hsecond, hlast⟩ := scasw_paths h.noRep
    have hretires := retires_of_paths hfirst (scasSteps_selected h false 0x3c1)
      hsecond hlast
    rw [<- List.append_assoc, List.take_append_drop] at hretires
    exact ⟨_, hretires, scas_state h hnew false 0x3c1 0x3c8 0x3c9⟩

end Rounds

end Isa
end S80x86
