import S80x86.Sim.Decode
import S80x86.Sim.Emulate

/-!
# Prefixes

An instruction begins with prefixes, as many as there are, and the handler of
its opcode starts in a state that the bytes at `CS:IP` determine.
-/

namespace S80x86
namespace Sim

open Foundation.Effect

variable {W : Type}

/-!
## The opcode at `CS:IP`
-/

/-- Read the prefixes up to an opcode. -/
def readPrefixes : Nat -> EmuM W (BitVec 8)
  | 0 => fault .endlessPrefixes
  | n + 1 => do
      let opcode ← fetchByte
      setOpcode opcode
      if isPrefix opcode then
        processPrefix opcode
        readPrefixes n
      else return opcode

theorem prefixLoop_eq (n : Nat) :
    (prefixLoop n : EmuM W Unit) = readPrefixes n >>= execute := by
  induction n with
  | zero =>
      rfl
  | succ n ih =>
      simp only [prefixLoop, readPrefixes, bind_assoc, ite_bind, pure_bind, ih]

namespace Emulator

/-- The offset of the first byte that is no prefix, among the bytes of the
whole memory. -/
def findOpcode (e : Emulator W) : Nat -> Nat -> Option Nat
  | 0, _ => none
  | n + 1, k =>
      if isPrefix (e.codeByte k) then e.findOpcode n (k + 1) else some k

def prefixCount (e : Emulator W) : Option Nat := e.findOpcode memorySize 0

end Emulator

namespace Emulator

theorem codeByte_congr {e s : Emulator W} (hRegs : s.registers = e.registers)
    (hMem : s.mem = e.mem) (n : Nat) : s.codeByte n = e.codeByte n := by
  unfold codeByte
  rw [hRegs, hMem]

theorem findOpcode_congr {e s : Emulator W}
    (hRegs : s.registers = e.registers) (hMem : s.mem = e.mem) (n k : Nat) :
    s.findOpcode n k = e.findOpcode n k := by
  induction n generalizing k with
  | zero =>
      rfl
  | succ n ih =>
      simp only [findOpcode, codeByte_congr hRegs hMem, ih]

theorem findOpcode_eq_none {e : Emulator W} {n k : Nat} :
    e.findOpcode n k = none ↔
      forall i, i < n -> isPrefix (e.codeByte (k + i)) = true := by
  induction n generalizing k with
  | zero =>
      simp [findOpcode]
  | succ n ih =>
      unfold findOpcode
      constructor
      · intro h i hi
        split at h
        next hPrefix =>
          cases i with
          | zero =>
              exact hPrefix
          | succ i =>
              have hrest := (ih.mp h) i (by omega)
              rw [Nat.add_assoc, Nat.add_comm 1] at hrest
              exact hrest
        next hPrefix =>
          cases h
      · intro h
        have hfirst := h 0 (by omega)
        rw [Nat.add_zero] at hfirst
        rw [if_pos hfirst, ih]
        intro i hi
        rw [Nat.add_assoc, Nat.add_comm 1]
        exact h (i + 1) (by omega)

/-- Every byte of the memory is reached from `CS:IP`. -/
theorem exists_codeByte (e : Emulator W) (a : BitVec 20) :
    exists i, i < memorySize ∧ e.codeByte i = e.mem.mem a := by
  have hsize : memorySize = 1048576 := rfl
  let c := (e.registers.get .CS).toNat * 16 + (e.registers.get .IP).toNat
  have ha : a.toNat < 1048576 := a.isLt
  refine ⟨(a.toNat + (1048576 - c % 1048576)) % 1048576, ?_, ?_⟩
  · rw [hsize]
    exact Nat.mod_lt _ (by omega)
  · simp only [codeByte]
    apply congrArg
    apply BitVec.eq_of_toNat_eq
    simp only [getPhysAddr, PhysAddr.linear, hsize, BitVec.toNat_ofNat]
    simp only [c]
    omega

/-- There is an opcode unless the memory holds nothing but prefixes. -/
theorem prefixCount_ne_none {e : Emulator W} :
    e.prefixCount ≠ none ↔ exists a, isPrefix (e.mem.mem a) = false := by
  constructor
  · intro h
    by_contra hAll
    apply h
    rw [prefixCount, findOpcode_eq_none]
    intro i _
    by_contra hByte
    rw [Bool.not_eq_true] at hByte
    exact hAll ⟨_, hByte⟩
  · rintro ⟨a, ha⟩ hNone
    rw [prefixCount, findOpcode_eq_none] at hNone
    obtain ⟨i, hi, hbyte⟩ := e.exists_codeByte a
    have hPrefix := hNone i hi
    rw [Nat.zero_add, hbyte, ha] at hPrefix
    cases hPrefix

end Emulator

/-!
## What prefixes leave
-/

/-- What a prefix leaves in the emulator. -/
def Emulator.prefixed (b : BitVec 8) (e : Emulator W) : Emulator W :=
  if b = 0x26#8 then
    { e with overrideSegment := .ES, defaultSegmentOverriden := true }
  else if b = 0x2e#8 then
    { e with overrideSegment := .CS, defaultSegmentOverriden := true }
  else if b = 0x36#8 then
    { e with overrideSegment := .SS, defaultSegmentOverriden := true }
  else if b = 0x3e#8 then
    { e with overrideSegment := .DS, defaultSegmentOverriden := true }
  else if b = 0xf2#8 then { e with repMode := .REPNE, hasRepPrefix := true }
  else if b = 0xf3#8 then { e with repMode := .REPE, hasRepPrefix := true }
  else e

theorem processPrefix_prefixed (env : Environment W) (b : BitVec 8)
    (e : Emulator W) : Returns (processPrefix b) env e () (e.prefixed b) := by
  unfold processPrefix Emulator.prefixed
  repeat' split
  all_goals rfl

namespace Emulator

/-- The next byte fetched and stored as the opcode. -/
def fetched (e : Emulator W) : Emulator W :=
  { e with
    instrLength := e.instrLength + 1
    opcode := e.codeByte e.instrLength }

/-- An opcode behind some prefixes fetched. -/
def skipPrefixes (e : Emulator W) : Nat -> Emulator W
  | 0 => e.fetched
  | k + 1 => (e.fetched.prefixed (e.codeByte e.instrLength)).skipPrefixes k

def started (e : Emulator W) : Emulator W :=
  { e with
    instrLength := 0
    defaultSegmentOverriden := false
    hasRepPrefix := false
    modrmDecoder := { e.modrmDecoder with isDecoded := false }
    jumpTaken := false
    extIntInhibit := false }

/-- The state in which the handler of an opcode behind `k` prefixes starts. -/
def atOpcode (e : Emulator W) (k : Nat) : Emulator W :=
  e.started.skipPrefixes k

theorem prefixed_same (e : Emulator W) (b : BitVec 8) :
    (e.prefixed b).registers = e.registers ∧ (e.prefixed b).mem = e.mem ∧
      (e.prefixed b).instrLength = e.instrLength := by
  unfold prefixed
  repeat' split
  all_goals exact ⟨rfl, rfl, rfl⟩

theorem skipPrefixes_same (e : Emulator W) (k : Nat) :
    (e.skipPrefixes k).registers = e.registers ∧
      (e.skipPrefixes k).mem = e.mem ∧
      (e.skipPrefixes k).instrLength = e.instrLength + k + 1 := by
  induction k generalizing e with
  | zero =>
      exact ⟨rfl, rfl, rfl⟩
  | succ k ih =>
      obtain ⟨hRegs, hMem, hLength⟩ :=
        e.fetched.prefixed_same (e.codeByte e.instrLength)
      obtain ⟨hRegs', hMem', hLength'⟩ :=
        ih (e.fetched.prefixed (e.codeByte e.instrLength))
      refine ⟨hRegs'.trans hRegs, hMem'.trans hMem, hLength'.trans ?_⟩
      have hfetched : (e.fetched.prefixed
          (e.codeByte e.instrLength)).instrLength = e.instrLength + 1 := hLength
      omega

/-- Prefixes do not look at the sampled `TF`. -/
theorem skipPrefixes_tfWasSet (e : Emulator W) (k : Nat) (tf : Bool) :
    ({ e with tfWasSet := tf }.skipPrefixes k) =
      { e.skipPrefixes k with tfWasSet := tf } := by
  induction k generalizing e with
  | zero =>
      rfl
  | succ k ih =>
      have hprefixed (b : BitVec 8) (x : Emulator W) :
          { x with tfWasSet := tf }.prefixed b =
            { x.prefixed b with tfWasSet := tf } := by
        unfold prefixed
        repeat' split
        all_goals rfl
      change ({ e.fetched with tfWasSet := tf }.prefixed _).skipPrefixes k = _
      rw [hprefixed, ih]
      rfl

/-- Prefixes change nothing but the fields of the current instruction. -/
theorem atOpcode_same (e : Emulator W) (k : Nat) :
    (e.atOpcode k).registers = e.registers ∧
      (e.atOpcode k).mem = e.mem ∧
      (e.atOpcode k).instrLength = k + 1 := by
  obtain ⟨hRegs, hMem, hLength⟩ := e.started.skipPrefixes_same k
  refine ⟨hRegs, hMem, hLength.trans ?_⟩
  rw [show e.started.instrLength = 0 from rfl, Nat.zero_add]

theorem skipPrefixes_opcode (e : Emulator W) (k : Nat) :
    (e.skipPrefixes k).opcode = e.codeByte (e.instrLength + k) := by
  induction k generalizing e with
  | zero =>
      rfl
  | succ k ih =>
      obtain ⟨hRegs, hMem, hLength⟩ :=
        e.fetched.prefixed_same (e.codeByte e.instrLength)
      unfold skipPrefixes
      rw [ih, hLength, codeByte_congr (e := e) hRegs hMem]
      exact congrArg e.codeByte (Nat.add_right_comm _ 1 k)

theorem codeByte_atOpcode (e : Emulator W) (k : Nat) :
    (e.atOpcode k).codeByte (e.atOpcode k).instrLength =
      e.codeByte (k + 1) := by
  obtain ⟨hRegs, hMem, hLength⟩ := e.atOpcode_same k
  rw [codeByte_congr hRegs hMem, hLength]

theorem le_of_findOpcode {e : Emulator W} {n i k : Nat}
    (h : e.findOpcode n i = some k) : i ≤ k := by
  induction n generalizing i with
  | zero =>
      cases h
  | succ n ih =>
      unfold findOpcode at h
      split at h
      · exact Nat.le_of_succ_le (ih h)
      · cases h
        exact Nat.le_refl _

end Emulator

/-!
## The last prefix counts
-/

/-- The segment register a prefix selects. -/
def segmentPrefix (b : BitVec 8) : Option GPR :=
  if b = 0x26#8 then some .ES
  else if b = 0x2e#8 then some .CS
  else if b = 0x36#8 then some .SS
  else if b = 0x3e#8 then some .DS
  else none

/-- The way a prefix repeats a string instruction. -/
def repPrefix (b : BitVec 8) : Option RepMode :=
  if b = 0xf2#8 then some .REPNE
  else if b = 0xf3#8 then some .REPE
  else none

namespace Emulator

/-- The override prefix in force. -/
def override (e : Emulator W) : Option GPR :=
  if e.defaultSegmentOverriden then some e.overrideSegment else none

/-- The repetition prefix in force. -/
def rep (e : Emulator W) : Option RepMode :=
  if e.hasRepPrefix then some e.repMode else none

/-- What the last of the `k` bytes from byte `n` on that means something to
`f` means. -/
def lastOf (e : Emulator W) (f : BitVec 8 -> Option α) :
    Nat -> Nat -> Option α
  | _, 0 => none
  | n, k + 1 => (e.lastOf f (n + 1) k).or (f (e.codeByte n))

theorem lastOf_congr {e s : Emulator W} (hRegs : s.registers = e.registers)
    (hMem : s.mem = e.mem) (f : BitVec 8 -> Option α) (n k : Nat) :
    s.lastOf f n k = e.lastOf f n k := by
  induction k generalizing n with
  | zero =>
      rfl
  | succ k ih =>
      simp only [lastOf, codeByte_congr hRegs hMem, ih]

theorem prefixed_override (e : Emulator W) (b : BitVec 8) :
    (e.prefixed b).override = (segmentPrefix b).or e.override := by
  unfold prefixed segmentPrefix
  repeat' split
  all_goals rfl

theorem prefixed_rep (e : Emulator W) (b : BitVec 8) :
    (e.prefixed b).rep = (repPrefix b).or e.rep := by
  by_cases hne : b = 0xf2#8
  · subst hne
    rfl
  · by_cases he : b = 0xf3#8
    · subst he
      rfl
    · unfold prefixed repPrefix
      rw [if_neg hne, if_neg he]
      repeat' split
      all_goals rfl

/-- A field that each prefix sets or leaves is set by the last one that sets
it. -/
theorem skipPrefixes_field {f : BitVec 8 -> Option α}
    {field : Emulator W -> Option α}
    (hprefixed : forall (e : Emulator W) b,
      field (e.prefixed b) = (f b).or (field e))
    (hfetched : forall e : Emulator W, field e.fetched = field e) (k : Nat)
    (e : Emulator W) :
    field (e.skipPrefixes k) = (e.lastOf f e.instrLength k).or (field e) := by
  induction k generalizing e with
  | zero =>
      exact hfetched e
  | succ k ih =>
      obtain ⟨hRegs, hMem, hLength⟩ :=
        e.fetched.prefixed_same (e.codeByte e.instrLength)
      unfold skipPrefixes lastOf
      rw [ih, hprefixed, hfetched, hLength, lastOf_congr hRegs hMem,
        lastOf_congr (e := e) (s := e.fetched) rfl rfl, Option.or_assoc]
      rfl

/-- The last segment prefix is in force behind the prefixes. -/
theorem atOpcode_override (e : Emulator W) (k : Nat) :
    (e.atOpcode k).override = e.lastOf segmentPrefix 0 k := by
  have hfield := skipPrefixes_field prefixed_override (fun _ => rfl) k
    e.started
  rw [show e.started.override = none from rfl, Option.or_none,
    lastOf_congr (e := e) (s := e.started) rfl rfl] at hfield
  exact hfield

/-- The last repetition prefix is in force behind the prefixes. -/
theorem atOpcode_rep (e : Emulator W) (k : Nat) :
    (e.atOpcode k).rep = e.lastOf repPrefix 0 k := by
  have hfield := skipPrefixes_field prefixed_rep (fun _ => rfl) k e.started
  rw [show e.started.rep = none from rfl, Option.or_none,
    lastOf_congr (e := e) (s := e.started) rfl rfl] at hfield
  exact hfield

end Emulator

/-!
## Reading them
-/

section Prefixes

variable {env : Environment W} (henv : env.addressing.LinearBytes)
include henv

theorem readPrefixes_round (n : Nat) (e : Emulator W) :
    (readPrefixes (n + 1) env e).2 =
      ((if isPrefix (e.codeByte e.instrLength) then
          processPrefix (e.codeByte e.instrLength) >>= fun _ => readPrefixes n
        else pure (e.codeByte e.instrLength)) env e.fetched).2 := by
  have hfetch := fetchByte_returns henv e
  unfold Returns at hfetch
  rw [readPrefixes, bind_run]
  simp only [next, hfetch]
  rfl

theorem readPrefixes_endless (n : Nat) (e : Emulator W)
    (h : e.findOpcode n e.instrLength = none) :
    (readPrefixes n env e).2 = .error .endlessPrefixes := by
  induction n generalizing e with
  | zero =>
      rfl
  | succ n ih =>
      unfold Emulator.findOpcode at h
      split at h
      next hPrefix =>
        rw [readPrefixes_round henv, if_pos hPrefix, bind_run]
        have hrun := processPrefix_prefixed env (e.codeByte e.instrLength)
          e.fetched
        obtain ⟨hRegs, hMem, hLength⟩ :=
          e.fetched.prefixed_same (e.codeByte e.instrLength)
        unfold Returns at hrun
        simp only [next, hrun]
        apply ih
        rw [Emulator.findOpcode_congr (e := e) hRegs hMem, hLength]
        exact h
      next hPrefix =>
        cases h

theorem readPrefixes_skip (n : Nat) (e : Emulator W) {k j : Nat}
    (hk : k = e.instrLength + j)
    (h : e.findOpcode n e.instrLength = some k) :
    Returns (readPrefixes n) env e (e.codeByte k) (e.skipPrefixes j) := by
  induction n generalizing e j with
  | zero =>
      cases h
  | succ n ih =>
      unfold Returns
      rw [readPrefixes_round henv]
      unfold Emulator.findOpcode at h
      split at h
      next hPrefix =>
        rw [if_pos hPrefix]
        have hrun := processPrefix_prefixed env (e.codeByte e.instrLength)
          e.fetched
        obtain ⟨hRegs, hMem, hLength⟩ :=
          e.fetched.prefixed_same (e.codeByte e.instrLength)
        have hfind : (e.fetched.prefixed (e.codeByte e.instrLength)).findOpcode
            n (e.fetched.prefixed (e.codeByte e.instrLength)).instrLength =
              some k := by
          rw [Emulator.findOpcode_congr (e := e) hRegs hMem, hLength]
          exact h
        have hlater := Emulator.le_of_findOpcode h
        cases j with
        | zero =>
            omega
        | succ j =>
            have hlength : (e.fetched.prefixed
                (e.codeByte e.instrLength)).instrLength =
                  e.instrLength + 1 := hLength
            have hrest := ih (j := j) _ (by omega) hfind
            rw [Emulator.codeByte_congr (e := e) hRegs hMem] at hrest
            exact returns_bind.mpr ⟨(), _, hrun, hrest⟩
      next hPrefix =>
        rw [if_neg hPrefix]
        cases h
        have hzero : j = 0 := by omega
        rw [hzero]
        rfl

theorem startInsn_skip (e : Emulator W) {k : Nat}
    (h : e.prefixCount = some k) :
    Returns (do startInsn; readPrefixes memorySize) env e (e.codeByte k)
      (e.atOpcode k) := by
  have hfind : e.started.findOpcode memorySize e.started.instrLength =
      some k := by
    rw [Emulator.findOpcode_congr (e := e) (s := e.started) rfl rfl]
    exact h
  have hrun := readPrefixes_skip henv memorySize e.started
    (Nat.zero_add k).symm hfind
  exact returns_bind.mpr ⟨(), e.started, rfl, hrun⟩

theorem startInsn_endless {e : Emulator W} (h : e.prefixCount = none) :
    ((do startInsn; readPrefixes memorySize : EmuM W (BitVec 8)) env e).2 =
      .error .endlessPrefixes := by
  have hfind : e.started.findOpcode memorySize e.started.instrLength =
      none := by
    rw [Emulator.findOpcode_congr (e := e) (s := e.started) rfl rfl]
    exact h
  have hstart : Returns startInsn env e () e.started := rfl
  have hendless := readPrefixes_endless henv memorySize e.started hfind
  unfold Returns at hstart
  rw [bind_run]
  simp only [next, hstart, hendless]

end Prefixes

/-- What follows the handler. -/
def finishInsn : EmuM W Nat := do
  rejectLong
  advanceIp
  getInstrLength

/-- An instruction is its prefixes, its handler and what follows. -/
theorem emulateInsn_eq :
    (emulateInsn : EmuM W Nat) = (do
      let opcode ← (do startInsn; readPrefixes memorySize)
      execute opcode
      finishInsn) := by
  unfold emulateInsn finishInsn
  rw [prefixLoop_eq]
  simp only [bind_assoc]

end Sim
end S80x86
