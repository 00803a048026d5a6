import S80x86.Isa.CoreState

/-!
# The stack instructions of the core

The microprograms of `PUSH`, `POP`, `PUSHA`, `POPA` and `LEAVE` do what the
instructions are for, whatever the registers and the memory hold.
-/

namespace S80x86
namespace Isa

open Rtl Rtl.GPR Rtl.Machine
open scoped Rtl.Machine.Eval

/-!
## Pushes
-/

/-- The last word of `push_gpr`, `push_sp` and `push_sr`. -/
def storeTop (next : Nat) : Microinstruction :=
  { segmentForce := true, segment := .SS, memWrite := true, aSel := .MAR
    rdSel := SP, rdSelSource := .MICROCODE_RD_SEL, nextInstruction := true
    next := next }

/-- The last word of the pushes that move `SP` first. -/
def storeMoved (next : Nat) : Microinstruction :=
  { segmentForce := true, segment := .SS, memWrite := true
    nextInstruction := true, next := next }

def pushGprWords (r : BitVec 3) : List Microinstruction :=
  { raSel := r, next := 0x329 } :: (Microcode.pushWords.drop 6).take 2

def pushSpWords : List Microinstruction :=
  { raSel := SP, next := 0x32c } :: (Microcode.pushWords.drop 9).take 1

theorem pushGpr_program (c : Control) {r : BitVec 3} (h : r ≠ SP) :
    c.program 3 (0x50#8 + r.setWidth 8).toNat =
      some (pushGprWords r, storeTop 0x32c) := by
  rcases reg_cases r with rfl | rfl | rfl | rfl | rfl | rfl | rfl | rfl
  · rfl
  · rfl
  · rfl
  · rfl
  · exact absurd rfl h
  · rfl
  · rfl
  · rfl

theorem pushSp_program (c : Control) :
    c.program 2 0x54 = some (pushSpWords, storeTop 0x32e) := rfl

theorem performs_pushWord (m : Machine) (r : BitVec 3)
    (hnew : m.newIp = none) :
    Performs (0x50#8 + r.setWidth 8).toNat m (.push (.word r)) := by
  by_cases h : r = SP
  · subst h
    refine ⟨_, retires_of_program (pushSp_program m.control), ?_⟩
    ext1 <;> simp [pushSpWords, storeTop, Microcode.pushWords, hnew]
  · refine ⟨_, retires_of_program (pushGpr_program m.control h), ?_⟩
    ext1 <;> simp [pushGprWords, storeTop, Microcode.pushWords, h, hnew]

def pushSrWords (n : SR) : List Microinstruction :=
  { segmentForce := true, segment := n, next := 0x32e } ::
    (Microcode.pushWords.drop 11).take 2

/-- `PUSH` of a segment register. -/
def pushSrOpcode : SR -> Nat
  | .ES => 0x06
  | .CS => 0x0e
  | .SS => 0x16
  | .DS => 0x1e

theorem pushSr_program (c : Control) (n : SR) :
    c.program 3 (pushSrOpcode n) = some (pushSrWords n, storeTop 0x331) := by
  cases n <;> rfl

theorem performs_pushSegment (m : Machine) (n : SR) (hnew : m.newIp = none) :
    Performs (pushSrOpcode n) m (.push (.segment n)) := by
  refine ⟨_, retires_of_program (pushSr_program m.control n), ?_⟩
  ext1 <;> simp [pushSrWords, storeTop, Microcode.pushWords, hnew]

def pushImmed16Words : List Microinstruction :=
  { raSel := SP, next := 0x331 } :: (Microcode.pushWords.drop 14).take 2

def pushImmed8Words : List Microinstruction :=
  { raSel := SP, next := 0x334 } :: (Microcode.pushWords.drop 17).take 2

theorem pushImmed16_program (c : Control) :
    c.program 3 0x68 = some (pushImmed16Words, storeMoved 0x334) := rfl

theorem pushImmed8_program (c : Control) :
    c.program 3 0x6a = some (pushImmed8Words, storeMoved 0x337) := rfl

theorem performs_pushImmediate (m : Machine) (hnew : m.newIp = none) :
    Performs 0x68 m (.push (.value m.insn.immediates0)) := by
  refine ⟨_, retires_of_program (pushImmed16_program m.control), ?_⟩
  ext1 <;> simp [pushImmed16Words, storeMoved, Microcode.pushWords, hnew]

theorem performs_pushSigned (m : Machine) (hnew : m.newIp = none) :
    Performs 0x6a m (.push (.value m.insn.immediates0)) := by
  refine ⟨_, retires_of_program (pushImmed8_program m.control), ?_⟩
  ext1 <;> simp [pushImmed8Words, storeMoved, Microcode.pushWords, hnew]

def pushfWords : List Microinstruction :=
  { aluOp := .GETFLAGS, mdrWrite := true, raSel := SP, next := 0x337 } ::
    (Microcode.pushWords.drop 20).take 1

theorem pushf_program (c : Control) :
    c.program 2 0x9c = some (pushfWords, storeMoved 0x339) := rfl

theorem performs_pushf (m : Machine) (hnew : m.newIp = none) :
    Performs 0x9c m (.push .flags) := by
  refine ⟨_, retires_of_program (pushf_program m.control), ?_⟩
  ext1 <;> simp [pushfWords, storeMoved, Microcode.pushWords, hnew]

/-- The words of `PUSHA` that store one register and select the next. -/
def pushRoundWords (r : BitVec 3) (next : Nat) : List Microinstruction :=
  [
    { mdrWrite := true, segmentForce := true, segment := .SS, next := next },
    { segmentForce := true, segment := .SS, memWrite := true, raSel := r
      aSel := .MAR, bSel := .IMMEDIATE, immediate := some 0x2#16
      aluOp := .SUB, marWrSel := .Q, marWrite := true, next := next + 1 }
  ]

def pushRound (r : BitVec 3) (next : Nat) (m : Machine) : Machine :=
  m.follow (pushRoundWords r next)

section PushRound

variable (r : BitVec 3) (next : Nat) (m : Machine)

theorem pushRound_ra : (pushRound r next m).ra = m.gprs r := by
  simp [pushRound, pushRoundWords]

theorem pushRound_mar : (pushRound r next m).mar = m.mar - 2#16 := by
  simp [pushRound, pushRoundWords]

theorem pushRound_mem : (pushRound r next m).mem =
    storeWord m.mem (m.segments .SS) m.mar m.ra := by
  simp [pushRound, pushRoundWords]

theorem pushRound_rest : (pushRound r next m).gprs = m.gprs ∧
    (pushRound r next m).segments = m.segments ∧
      (pushRound r next m).flags = m.flags ∧ (pushRound r next m).ip = m.ip ∧
        (pushRound r next m).newIp = m.newIp := by
  simp [pushRound, pushRoundWords]

end PushRound

/-- The words of `PUSHA` before the first store. -/
def pushaFirst : List Microinstruction :=
  { raSel := SP, next := 0x339 } :: (Microcode.pushWords.drop 22).take 1

def pushaWords : List Microinstruction :=
  { raSel := SP, next := 0x339 } :: (Microcode.pushWords.drop 22).take 16

theorem pusha_program (c : Control) :
    c.program 17 0x60 = some (pushaWords, storeTop 0x34a) := rfl

/-- The machine before the last store of `PUSHA`. -/
def pushaRounds (m : Machine) : Machine :=
  pushRound DI 0x347 (pushRound SI 0x345 (pushRound BP 0x343
    (pushRound SP 0x341 (pushRound BX 0x33f (pushRound DX 0x33d
      (pushRound CX 0x33b (m.follow pushaFirst)))))))

theorem pushaRounds_mar (m : Machine) :
    (pushaRounds m).mar = m.gprs SP - 2#16 - 2#16 - 2#16 - 2#16 - 2#16 - 2#16 -
      2#16 - 2#16 := by
  simp only [pushaRounds, pushRound_mar]
  simp [pushaFirst, Microcode.pushWords]

theorem pushaRounds_rest (m : Machine) : (pushaRounds m).gprs = m.gprs ∧
    (pushaRounds m).segments = m.segments ∧
      (pushaRounds m).flags = m.flags ∧ (pushaRounds m).ip = m.ip ∧
        (pushaRounds m).newIp = m.newIp := by
  simp only [pushaRounds, pushRound_rest]
  simp [pushaFirst, Microcode.pushWords]

def pushaMdr : Microinstruction :=
  { mdrWrite := true, segmentForce := true, segment := .SS, next := 0x349 }

theorem follow_pushaWords (m : Machine) :
    m.follow pushaWords = (pushaRounds m).follow [pushaMdr] := by
  have hwords : pushaWords = pushaFirst ++ pushRoundWords CX 0x33b ++
      pushRoundWords DX 0x33d ++ pushRoundWords BX 0x33f ++
        pushRoundWords SP 0x341 ++ pushRoundWords BP 0x343 ++
          pushRoundWords SI 0x345 ++ pushRoundWords DI 0x347 ++
            [pushaMdr] := rfl
  simp only [hwords, follow_append, pushaRounds, pushRound]

/-- The last register is stored, and `SP` moved. -/
theorem stored_last (m : Machine) (hnew : m.newIp = none) :
    ofArch (((m.follow [pushaMdr]).ready (storeTop 0x34a)).retire
        (storeTop 0x34a)) =
      { gprs := m.gprs.set SP m.mar, segments := m.segments
        flags := m.flags.flagsOut, ip := m.ip
        mem := storeWord m.mem (m.segments .SS) m.mar m.ra } := by
  simp [pushaMdr, storeTop, hnew]

theorem performs_pusha (m : Machine) (hnew : m.newIp = none) :
    Performs 0x60 m .pusha := by
  refine ⟨_, retires_of_program (pusha_program m.control), ?_⟩
  obtain ⟨hgprs, hsegments, hflags, hip, hnone⟩ := pushaRounds_rest m
  rw [follow_pushaWords, stored_last _ (hnone.trans hnew), pushaRounds_mar,
    hgprs, hsegments, hflags, hip]
  ext1
  · simp
  · simp
  · simp
  · simp
  · simp only [pushaRounds, pushRound_ra, pushRound_mar, pushRound_mem,
      pushRound_rest]
    simp [pushaFirst, Microcode.pushWords]

/-!
## Pops
-/

def popGprWords (r : BitVec 3) : List Microinstruction :=
  { raSel := SP, next := 0x308 + 3 * r.toNat } ::
    (Microcode.popWords.drop (17 + 3 * r.toNat)).take 2

def popGprLast (r : BitVec 3) : Microinstruction :=
  { aSel := .MDR, rdSel := r, rdSelSource := .MICROCODE_RD_SEL
    nextInstruction := true, next := 0x30b + 3 * r.toNat }

theorem popGpr_program (c : Control) (r : BitVec 3) :
    c.program 3 (0x58#8 + r.setWidth 8).toNat =
      some (popGprWords r, popGprLast r) := by
  rcases reg_cases r with rfl | rfl | rfl | rfl | rfl | rfl | rfl | rfl <;> rfl

theorem performs_popWord (m : Machine) (r : BitVec 3) (hnew : m.newIp = none) :
    Performs (0x58#8 + r.setWidth 8).toNat m (.pop (.word r)) := by
  refine ⟨_, retires_of_program (popGpr_program m.control r), ?_⟩
  rcases reg_cases r with rfl | rfl | rfl | rfl | rfl | rfl | rfl | rfl <;>
    (ext1 <;> simp [popGprWords, popGprLast, Microcode.popWords, hnew])

/-- Where the words of `POP` of a segment register start. -/
def popSrStart : SR -> Nat
  | .ES => 0x2ff
  | .CS => 0x2ff
  | .SS => 0x302
  | .DS => 0x305

def popSrWords (n : SR) : List Microinstruction :=
  [
    { raSel := SP, next := popSrStart n },
    { marWrSel := .Q, marWrite := true, segmentForce := true, segment := .SS
      next := popSrStart n + 1 },
    { segmentForce := true, segment := .SS, memRead := true, aSel := .MAR
      bSel := .IMMEDIATE, immediate := some 0x2#16, aluOp := .ADD, rdSel := SP
      rdSelSource := .MICROCODE_RD_SEL, next := popSrStart n + 2 }
  ]

def popSrLast (n : SR) : Microinstruction :=
  { aSel := .MDR, segmentForce := true, segment := n, segmentWrEn := true
    extIntInhibit := true, nextInstruction := true, next := popSrStart n + 3 }

theorem popSr_program (c : Control) {n : SR} (h : n ≠ .CS) :
    c.program 3 (pushSrOpcode n + 1) = some (popSrWords n, popSrLast n) := by
  cases n with
  | CS =>
      exact absurd rfl h
  | _ =>
      rfl

theorem performs_popSegment (m : Machine) {n : SR} (h : n ≠ .CS)
    (hnew : m.newIp = none) :
    Performs (pushSrOpcode n + 1) m (.pop (.segment n)) := by
  refine ⟨_, retires_of_program (popSr_program m.control h), ?_⟩
  ext1 <;> simp [popSrWords, popSrLast, hnew]

def popfWords : List Microinstruction :=
  { raSel := SP, next := 0x320 } :: (Microcode.popWords.drop 41).take 2

def popfLast : Microinstruction :=
  { aSel := .MDR, aluOp := .SETFLAGSA
    updateFlags := [.CF, .PF, .AF, .ZF, .SF, .TF, .IF, .DF, .OF]
    extIntInhibit := true, nextInstruction := true, next := 0x323 }

theorem popf_program (c : Control) :
    c.program 3 0x9d = some (popfWords, popfLast) := rfl

theorem performs_popf (m : Machine) (hnew : m.newIp = none) :
    Performs 0x9d m (.pop .flags) := by
  refine ⟨_, retires_of_program (popf_program m.control), ?_⟩
  ext1 <;> simp [popfWords, popfLast, Microcode.popWords, hnew,
    updates_all.flagsOut_step]

/-- The words of `POPA` that go on by some bytes and load a register. -/
def popRoundWords (r : BitVec 3) (k : BitVec 16) (next : Nat) :
    List Microinstruction :=
  [
    { aSel := .MAR, bSel := .IMMEDIATE, immediate := some k, aluOp := .ADD
      marWrSel := .Q, marWrite := true, segmentForce := true, segment := .SS
      next := next },
    { segmentForce := true, segment := .SS, memRead := true
      rdSelSource := .MICROCODE_RD_SEL, rdSel := r, aSel := .MDR
      next := next + 1 }
  ]

def popRound (r : BitVec 3) (k : BitVec 16) (next : Nat) (m : Machine) :
    Machine := m.follow (popRoundWords r k next)

section PopRound

variable (r : BitVec 3) (k : BitVec 16) (next : Nat) (m : Machine)

theorem popRound_mar : (popRound r k next m).mar = m.mar + k := by
  simp [popRound, popRoundWords]

theorem popRound_gprs : (popRound r k next m).gprs =
    m.gprs.set r (loadWord m.mem (m.segments .SS) (m.mar + k)) := by
  simp [popRound, popRoundWords]

theorem popRound_rest : (popRound r k next m).mem = m.mem ∧
    (popRound r k next m).segments = m.segments ∧
      (popRound r k next m).flags = m.flags ∧
        (popRound r k next m).ip = m.ip ∧
          (popRound r k next m).newIp = m.newIp := by
  simp [popRound, popRoundWords]

end PopRound

/-- The words of `POPA` up to the first load. -/
def popaFirst : List Microinstruction :=
  { raSel := SP, next := 0x34a } :: (Microcode.pushWords.drop 39).take 2

def popaWords : List Microinstruction :=
  { raSel := SP, next := 0x34a } :: (Microcode.pushWords.drop 39).take 14

def popaLast : Microinstruction :=
  { aSel := .MAR, bSel := .IMMEDIATE, immediate := some 0x2#16, aluOp := .ADD
    rdSelSource := .MICROCODE_RD_SEL, rdSel := SP, nextInstruction := true
    next := 0x359 }

theorem popa_program (c : Control) :
    c.program 15 0x61 = some (popaWords, popaLast) := rfl

/-- The machine when all registers are loaded. -/
def popaRounds (m : Machine) : Machine :=
  popRound AX 2#16 0x357 (popRound CX 2#16 0x355 (popRound DX 2#16 0x353
    (popRound BX 4#16 0x351 (popRound BP 2#16 0x34f (popRound SI 2#16 0x34d
      (m.follow popaFirst))))))

theorem follow_popaWords (m : Machine) :
    m.follow popaWords = popaRounds m := by
  have hwords : popaWords = popaFirst ++ popRoundWords SI 2#16 0x34d ++
      popRoundWords BP 2#16 0x34f ++ popRoundWords BX 4#16 0x351 ++
        popRoundWords DX 2#16 0x353 ++ popRoundWords CX 2#16 0x355 ++
          popRoundWords AX 2#16 0x357 := rfl
  simp only [hwords, follow_append, popaRounds, popRound]

theorem popaFirst_loads (m : Machine) :
    (m.follow popaFirst).mar = m.gprs SP ∧
      (m.follow popaFirst).gprs = m.gprs.set DI
        (loadWord m.mem (m.segments .SS) (m.gprs SP)) ∧
      (m.follow popaFirst).mem = m.mem ∧
      (m.follow popaFirst).segments = m.segments ∧
      (m.follow popaFirst).flags = m.flags ∧
      (m.follow popaFirst).ip = m.ip ∧
      (m.follow popaFirst).newIp = m.newIp := by
  simp [popaFirst, Microcode.pushWords]

theorem popaLast_state (m : Machine) (hnew : m.newIp = none) :
    ofArch ((m.ready popaLast).retire popaLast) =
      { gprs := m.gprs.set SP (m.mar + 2#16), segments := m.segments
        flags := m.flags.flagsOut, ip := m.ip, mem := m.mem } := by
  simp [popaLast, hnew]

theorem popaRounds_rest (m : Machine) : (popaRounds m).mem = m.mem ∧
    (popaRounds m).segments = m.segments ∧
      (popaRounds m).flags = m.flags ∧ (popaRounds m).ip = m.ip ∧
        (popaRounds m).newIp = m.newIp ∧
          (popaRounds m).mar = m.gprs SP + 14#16 := by
  simp only [popaRounds, popRound_rest, popRound_mar, popaFirst_loads]
  simp [BitVec.add_assoc]

theorem performs_popa (m : Machine) (hnew : m.newIp = none) :
    Performs 0x61 m .popa := by
  refine ⟨_, retires_of_program (popa_program m.control), ?_⟩
  obtain ⟨hmem, hsegments, hflags, hip, hnone, hmar⟩ := popaRounds_rest m
  rw [follow_popaWords, popaLast_state _ (hnone.trans hnew), hmem, hsegments,
    hflags, hip, hmar]
  ext1
  · simp only [popaRounds, popRound_gprs, popRound_mar, popRound_rest,
      popaFirst_loads]
    simp [BitVec.add_assoc]
  · simp
  · simp
  · simp
  · simp

def leaveWords : List Microinstruction :=
  { raSel := BP, next := 0x272 } :: Microcode.leaveWords.take 3

def leaveLast : Microinstruction :=
  { aSel := .MAR, bSel := .IMMEDIATE, immediate := some 0x2#16, aluOp := .ADD
    rdSelSource := .MICROCODE_RD_SEL, rdSel := SP, nextInstruction := true
    next := 0x276 }

theorem leave_program (c : Control) :
    c.program 4 0xc9 = some (leaveWords, leaveLast) := rfl

theorem performs_leave (m : Machine) (hnew : m.newIp = none) :
    Performs 0xc9 m .leave := by
  refine ⟨_, retires_of_program (leave_program m.control), ?_⟩
  have hne : BP ≠ SP := by decide
  ext1 <;> simp [leaveWords, leaveLast, Microcode.leaveWords, hnew,
    gprs_set_comm _ _ _ hne]

end Isa
end S80x86
