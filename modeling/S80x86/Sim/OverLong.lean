import S80x86.Sim.IdleHandlers
import S80x86.Sim.InterruptReturn

/-!
# Instructions that are too long

The emulator reads prefixes without a bound and looks at the length of an
instruction only after its handler has run.
-/

namespace S80x86
namespace Sim

open Foundation.Effect

variable {W : Type}

/-!
## The instruction at `CS:IP`
-/

/-- The bytes behind an opcode. -/
def tailLength (opcode modrm : BitVec 8) : Nat :=
  if rowHasModrm opcode.toNat then
    1 + displacementBytes modrm +
      rowImmedBytes opcode.toNat (modrm.extractLsb' 3 3)
  else rowImmedBytes opcode.toNat 0#3

/-- The length of the instruction at `CS:IP` with its prefixes, if it ends. -/
def Emulator.insnLength (e : Emulator W) : Option Nat :=
  e.prefixCount.map fun k =>
    k + 1 + tailLength (e.codeByte k) (e.codeByte (k + 1))

/-!
## The handler and the length
-/

section Handler

variable {env : Environment W} (henv : env.addressing.LinearBytes)
include henv

/-- A handler fetches the bytes behind its opcode. -/
theorem execute_length (b : BitVec 8) (s : Emulator W) :
    match (execute b env s).2 with
    | .ok (_, t) =>
        t.instrLength = s.instrLength + tailLength b (s.codeByte s.instrLength)
    | .error x => x.Expected := by
  cases fetches_execute henv b with
  | plain k hmodrm hbytes htakes =>
      have hout := (htakes s.modrmDecoder).outcome s s.instrLength rfl rfl
      cases hrun : (execute b env s).2 with
      | error x =>
          simp only [hrun] at hout
          exact hout
      | ok out =>
          simp only [hrun] at hout
          simp only [tailLength, hmodrm, Bool.false_eq_true, if_false, hbytes]
          exact hout.2
  | modrm k hmodrm hbytes htakes =>
      have hout := (htakes (s.codeByte s.instrLength)).outcome s rfl
      cases hrun : (execute b env s).2 with
      | error x =>
          simp only [hrun] at hout
          exact hout
      | ok out =>
          simp only [hrun] at hout
          simp only [tailLength, hmodrm, if_true, hbytes]
          rw [hout.2]
          omega

end Handler

/-!
## The interrupt at the end
-/

section Emulator

variable {env : Environment W} (henv : env.addressing = Addressing.emulator)
include henv

theorem pushWord_fits {e t : Emulator W} {v : BitVec 16}
    (h : Returns (pushWord v) env e () t) :
    e.registers.stackAddress (e.registers.sp - 2#16) + 2 <= memorySize ∧
      t = e.pushed v := by
  by_cases hFits :
      e.registers.stackAddress (e.registers.sp - 2#16) + 2 <= memorySize
  · exact ⟨hFits, (h.unique (pushWord_returns henv e v hFits)).2⟩
  · obtain ⟨sp, e₁, h₁, h⟩ := returns_bind.mp h
    cases h₁
    obtain ⟨u, e₂, h₂, h⟩ := returns_bind.mp h
    cases h₂
    obtain ⟨ss, e₃, h₃, h⟩ := returns_bind.mp h
    cases h₃
    obtain ⟨sp', e₄, h₄, h⟩ := returns_bind.mp h
    cases h₄
    exact absurd (write16_fits henv h) hFits

/-- An interrupt is delivered only when its frame lies below the end of
memory. -/
theorem interruptWith_fits {e t : Emulator W} {flags : BitVec 16}
    {vector : Nat} {returnIp : EmuM W (BitVec 16)} (ip : BitVec 16)
    (hIp : forall s : Emulator W, s.registers.ip = e.registers.ip ->
      s.instrLength = e.instrLength -> Returns returnIp env s ip s)
    (h : Returns (interruptWith flags vector returnIp) env e () t) :
    FrameFits e.registers := by
  obtain ⟨u, e₁, h₁, h⟩ := returns_bind.mp h
  obtain ⟨hFirst, rfl⟩ := pushWord_fits henv h₁
  obtain ⟨cs, e₂, h₂, h⟩ := returns_bind.mp h
  cases h₂
  obtain ⟨u, e₃, h₃, h⟩ := returns_bind.mp h
  obtain ⟨hSecond, rfl⟩ := pushWord_fits henv h₃
  obtain ⟨ip', e₄, h₄, h⟩ := returns_bind.mp h
  obtain ⟨rfl, rfl⟩ := h₄.unique (hIp _ rfl rfl)
  obtain ⟨u, e₅, h₅, h⟩ := returns_bind.mp h
  obtain ⟨hThird, _⟩ := pushWord_fits henv h₅
  simp only [Emulator.pushed_registers, RegisterFile.stackAddress_sp,
    Emulator.sub_two_two, Emulator.sub_four_two] at hSecond hThird
  exact ⟨hFirst, hSecond, hThird⟩

omit henv in
theorem rejectLong_long {e s t : Emulator W}
    (hs : s = { e with instrLength := e.instrLength % 16 })
    (hLong : 16 <= e.instrLength) :
    Returns rejectLong env e () t ↔
      Returns (interruptWith s.registers.getFlags Vector.INVALID_OPCODE nextIp)
        env s () t := by
  unfold rejectLong
  rw [returns_bind]
  constructor
  · rintro ⟨n, e₁, h₁, h⟩
    cases h₁
    rw [if_pos hLong, returns_bind] at h
    obtain ⟨u, e₂, h₂, h⟩ := h
    cases h₂
    simp only [← hs] at h
    obtain ⟨flags, e₃, h₃, h⟩ := returns_bind.mp h
    cases h₃
    exact h
  · intro h
    refine ⟨e.instrLength, e, rfl, ?_⟩
    rw [if_pos hLong]
    refine returns_bind.mpr ⟨(), s, by rw [hs]; rfl, ?_⟩
    exact returns_bind.mpr ⟨s.registers.getFlags, s, rfl, h⟩

/-- The end of an instruction that was too long. -/
theorem long_returns {e s : Emulator W}
    (hs : s = { e with instrLength := e.instrLength % 16 })
    (hLong : 16 <= e.instrLength) (hFrame : FrameFits s.registers) :
    Returns finishInsn env e s.instrLength
      (s.interrupted s.registers.getFlags
        (s.registers.ip + BitVec.ofNat 16 s.instrLength)
        Vector.INVALID_OPCODE) := by
  have hreject :=
    (rejectLong_long hs hLong).mpr
      (interruptNext_returns henv hFrame (by decide))
  obtain ⟨_, _, _, hLength, hJump⟩ :=
    Emulator.interrupted_rest s.registers.getFlags
      (s.registers.ip + BitVec.ofNat 16 s.instrLength) Vector.INVALID_OPCODE s
  generalize s.interrupted s.registers.getFlags
    (s.registers.ip + BitVec.ofNat 16 s.instrLength) Vector.INVALID_OPCODE =
      t at *
  refine returns_bind.mpr ⟨(), t, hreject, ?_⟩
  refine returns_bind.mpr ⟨(), t, ?_, ?_⟩
  · refine returns_bind.mpr ⟨t.jumpTaken, t, rfl, ?_⟩
    rw [if_pos hJump]
    rfl
  · rw [← hLength]
    rfl

theorem long_fits {e s t : Emulator W} {len : Nat}
    (hs : s = { e with instrLength := e.instrLength % 16 })
    (hLong : 16 <= e.instrLength)
    (h : Returns finishInsn env e len t) :
    FrameFits s.registers := by
  obtain ⟨u, e₁, h₁, _⟩ := returns_bind.mp h
  refine interruptWith_fits henv
    (s.registers.ip + BitVec.ofNat 16 s.instrLength) ?_
    ((rejectLong_long hs hLong).mp h₁)
  intro s' hip hlength
  rw [← hip, ← hlength]
  rfl

end Emulator

/-!
## What is asked for
-/

/-- The only effect of an instruction of `n` bytes is the interrupt. -/
def RejectedOnly (env : Environment W) (e : Emulator W) (n : Nat) : Prop :=
  exists len t, Returns emulateInsn env e len t ∧
    SameArch t
      (e.started.interrupted e.registers.getFlags
        (e.registers.ip + BitVec.ofNat 16 (n % 16)) Vector.INVALID_OPCODE)

/-- The instruction ends, and is rejected as a whole when it is too long. -/
def EndsAndRejects (env : Environment W) (e : Emulator W) : Prop :=
  (emulateInsn env e).2 ≠ .error .endlessPrefixes ∧
    forall n, e.insnLength = some n -> 16 <= n -> RejectedOnly env e n

/-- Nothing has changed but bytes that the frame of an interrupt covers. -/
structure Unchanged (e t : Emulator W) : Prop where
  get : forall r, t.registers.get r = e.registers.get r
  flags : t.registers.getFlags = e.registers.getFlags
  mem : forall a, ¬ InFrame e.registers a -> t.mem.mem a = e.mem.mem a
  world : t.world = e.world
  pendingIrq : t.pendingIrq = e.pendingIrq
  nmiPending : t.nmiPending = e.nmiPending
  extIntInhibit : t.extIntInhibit = e.extIntInhibit

/-- The handler of the instruction behind `k` prefixes changes nothing. -/
def HandlerIsIdle (env : Environment W) (e : Emulator W) (k : Nat) : Prop :=
  exists t, Returns (execute (e.codeByte k)) env (e.atOpcode k) () t ∧
    Unchanged e.started t

/-!
## An interrupt shows what it started from
-/

namespace RegisterFile

theorem getFlags_setFlags_congr {r r' : RegisterFile} (v mask : BitVec 16)
    (h : r.getFlags = r'.getFlags) :
    (r.setFlags v mask).getFlags = (r'.setFlags v mask).getFlags := by
  unfold getFlags at h
  have hbit (i : Nat) (hi : i < 16) :
      (r.flags[i] || Flag.stuckBits[i]) = (r'.flags[i] || Flag.stuckBits[i]) := by
    rw [← BitVec.getElem_or, ← BitVec.getElem_or, h]
  unfold getFlags setFlags
  ext i hi
  have hi' := hbit i hi
  simp only [BitVec.getElem_or, BitVec.getElem_and] at *
  cases hstuck : Flag.stuckBits[i] with
  | true =>
      simp
  | false =>
      simp only [hstuck, Bool.or_false] at hi'
      rw [hi']

end RegisterFile

namespace Emulator

theorem interrupted_devices (flags ip : BitVec 16) (vector : Nat)
    (e : Emulator W) :
    (e.interrupted flags ip vector).world = e.world ∧
      (e.interrupted flags ip vector).pendingIrq = e.pendingIrq ∧
      (e.interrupted flags ip vector).nmiPending = e.nmiPending ∧
      (e.interrupted flags ip vector).extIntInhibit = e.extIntInhibit := by
  simp only [interrupted, pushed, and_self]

end Emulator

theorem Memory.writeWord_congr {m m' : Memory} {a : Nat} {v : BitVec 16}
    {b : BitVec 20}
    (h : m.mem b = m'.mem b ∨ b = BitVec.ofNat 20 a ∨
      b = BitVec.ofNat 20 (a + 1)) :
    (m.writeWord a v).mem b = (m'.writeWord a v).mem b := by
  simp only [writeWord, write]
  split
  next =>
    rfl
  next hHigh =>
    split
    next =>
      rfl
    next hLow =>
      obtain h | h | h := h
      · exact h
      · exact absurd h hLow
      · exact absurd h hHigh

theorem RegisterFile.stackAddress_congr {r r' : RegisterFile}
    (h : r.ss = r'.ss) : r.stackAddress = r'.stackAddress := by
  funext offset
  rw [stackAddress_eq, stackAddress_eq, h]

theorem Memory.word_congr {m m' : Memory} (h : m.mem = m'.mem) (a : Nat) :
    m.word a = m'.word a := by
  unfold word
  rw [h]

namespace Unchanged

variable {e t : Emulator W}

/-- The frame covers what may differ. -/
theorem framed (h : Unchanged e t) (flags ip : BitVec 16) :
    (t.framed flags ip).mem = (e.framed flags ip).mem := by
  have hsp : t.registers.sp = e.registers.sp := h.get .SP
  have hcs : t.registers.cs = e.registers.cs := h.get .CS
  have hss : t.registers.stackAddress = e.registers.stackAddress :=
    RegisterFile.stackAddress_congr (h.get .SS)
  funext a
  simp only [Emulator.framed, hsp, hcs, hss]
  by_cases hIn : InFrame e.registers a
  · obtain ⟨k, hk, ha⟩ := hIn
    simp only [List.mem_cons, List.not_mem_nil, or_false] at hk
    obtain rfl | rfl | rfl := hk
    · exact Memory.writeWord_congr (.inl (Memory.writeWord_congr
        (.inl (Memory.writeWord_congr (.inr ha)))))
    · exact Memory.writeWord_congr (.inl (Memory.writeWord_congr (.inr ha)))
    · exact Memory.writeWord_congr (.inr ha)
  · exact Memory.writeWord_congr (.inl (Memory.writeWord_congr
      (.inl (Memory.writeWord_congr (.inl (h.mem a hIn))))))

theorem interrupted (h : Unchanged e t) (flags ip : BitVec 16)
    (vector : Nat) :
    SameArch (t.interrupted flags ip vector) (e.interrupted flags ip vector) := by
  have hword := fun n => Memory.word_congr (h.framed flags ip) n
  obtain ⟨hWorld, hIrq, hNmi, hInhibit⟩ :=
    Emulator.interrupted_devices flags ip vector t
  obtain ⟨hWorld', hIrq', hNmi', hInhibit'⟩ :=
    Emulator.interrupted_devices flags ip vector e
  refine ⟨?_, ?_, ?_, ?_, ?_, ?_, ?_⟩
  · intro r
    have hget := h.get r
    have hsp : t.registers.sp = e.registers.sp := h.get .SP
    simp only [Emulator.interrupted_registers, hword]
    cases r with
    | SP =>
        simp only [RegisterFile.get, hsp]
    | CS =>
        rfl
    | IP =>
        rfl
    | _ =>
        exact hget
  · rw [Emulator.interrupted_registers, Emulator.interrupted_registers]
    exact RegisterFile.getFlags_setFlags_congr _ _ h.flags
  · rw [Emulator.interrupted_mem, Emulator.interrupted_mem]
    exact h.framed flags ip
  · rw [hWorld, hWorld', h.world]
  · rw [hIrq, hIrq', h.pendingIrq]
  · rw [hNmi, hNmi', h.nmiPending]
  · rw [hInhibit, hInhibit', h.extIntInhibit]

theorem frameFits (h : Unchanged e t) :
    FrameFits t.registers ↔ FrameFits e.registers := by
  have hsp : t.registers.sp = e.registers.sp := h.get .SP
  unfold FrameFits
  rw [RegisterFile.stackAddress_congr (h.get .SS), hsp]

/-- Two interrupts look alike only when nothing was changed before. -/
theorem of_interrupted {n vector : Nat} (hFrame : FrameFits t.registers)
    (h : SameArch
      (t.interrupted t.registers.getFlags
        (t.registers.ip + BitVec.ofNat 16 n) vector)
      (e.interrupted e.registers.getFlags
        (e.registers.ip + BitVec.ofNat 16 n) vector)) :
    Unchanged e t := by
  have hsp : t.registers.sp = e.registers.sp := by
    have hget := h.get .SP
    simp only [Emulator.interrupted_registers, RegisterFile.get] at hget
    have hsum := congrArg (· + 6#16) hget
    simpa only [BitVec.sub_add_cancel] using hsum
  have hss : t.registers.ss = e.registers.ss := by
    have hget := h.get .SS
    simpa only [Emulator.interrupted_registers, RegisterFile.get] using hget
  have hstack := RegisterFile.stackAddress_congr hss
  have hFrame' : FrameFits e.registers := by
    unfold FrameFits at *
    rw [← hstack, ← hsp]
    exact hFrame
  have hmem := h.mem
  rw [Emulator.interrupted_mem, Emulator.interrupted_mem] at hmem
  have hword := fun a => Memory.word_congr hmem a
  have hflags : t.registers.getFlags = e.registers.getFlags := by
    have hpushed := Emulator.framed_flags t.registers.getFlags
      (t.registers.ip + BitVec.ofNat 16 n) hFrame
    rw [hword, hstack, hsp, Emulator.framed_flags _ _ hFrame'] at hpushed
    exact hpushed.symm
  have hcs : t.registers.cs = e.registers.cs := by
    have hpushed := Emulator.framed_cs t.registers.getFlags
      (t.registers.ip + BitVec.ofNat 16 n) hFrame
    rw [hword, hstack, hsp, Emulator.framed_cs _ _ hFrame'] at hpushed
    exact hpushed.symm
  have hip : t.registers.ip = e.registers.ip := by
    have hpushed := Emulator.framed_ip t.registers.getFlags
      (t.registers.ip + BitVec.ofNat 16 n) hFrame
    rw [hword, hstack, hsp, Emulator.framed_ip _ _ hFrame'] at hpushed
    exact (BitVec.add_left_inj _).mp hpushed.symm
  obtain ⟨hWorld, hIrq, hNmi, hInhibit⟩ :=
    Emulator.interrupted_devices t.registers.getFlags
      (t.registers.ip + BitVec.ofNat 16 n) vector t
  obtain ⟨hWorld', hIrq', hNmi', hInhibit'⟩ :=
    Emulator.interrupted_devices e.registers.getFlags
      (e.registers.ip + BitVec.ofNat 16 n) vector e
  refine ⟨?_, hflags, ?_, ?_, ?_, ?_, ?_⟩
  · intro r
    have hget := h.get r
    simp only [Emulator.interrupted_registers] at hget
    cases r with
    | SP =>
        exact hsp
    | CS =>
        exact hcs
    | IP =>
        exact hip
    | _ =>
        exact hget
  · intro a ha
    have ha' : ¬ InFrame t.registers a := by
      unfold InFrame at *
      rw [hstack, hsp]
      exact ha
    rw [← Emulator.framed_mem e.registers.getFlags
        (e.registers.ip + BitVec.ofNat 16 n) ha,
      ← Emulator.framed_mem t.registers.getFlags
        (t.registers.ip + BitVec.ofNat 16 n) ha', hmem]
  · rw [<- hWorld, <- hWorld', h.world]
  · rw [<- hIrq, <- hIrq', h.pendingIrq]
  · rw [<- hNmi, <- hNmi', h.nmiPending]
  · rw [<- hInhibit, <- hInhibit', h.extIntInhibit]

end Unchanged

/-!
## Termination
-/

/-- The code stops with an expected fault, if with any. -/
abbrev Expects (env : Environment W) (m : EmuM W α) : Prop :=
  Advances (fun _ => True) (fun _ => 0) Fault.Expected env 0 0 m

theorem expects_of_takes {env : Environment W} {m : EmuM W α}
    (h : forall d i, Takes env d i i m) : Expects env m where
  outcome s base _ hzero := by
    have hout := (h s.modrmDecoder s.instrLength).outcome s 0 rfl
      (Nat.zero_add _).symm
    cases hrun : (m env s).2 with
    | error x =>
        simp only [hrun] at hout
        exact hout
    | ok out =>
        exact ⟨trivial, hzero⟩

set_option synthInstance.maxSize 1000000 in
theorem expects_reject (env : Environment W) :
    Expects env (finishInsn : EmuM W Nat) := by
  have hinterrupt : Expects env (invalidOpcode : EmuM W Unit) :=
    expects_of_takes fun d i => inferInstance
  have hnext : Expects env (nextIp : EmuM W (BitVec 16)) :=
    expects_of_takes fun d i => inferInstance
  have hset (v : BitVec 16) : Expects env (set .IP v : EmuM W Unit) :=
    expects_of_takes fun d i => inferInstance
  have hlength (n : Nat) : Expects env (setInstrLength n : EmuM W Unit) :=
    ⟨fun _ _ h hi => ⟨h, hi⟩⟩
  unfold finishInsn rejectLong advanceIp getInstrLength getJumpTaken
  infer_instance

section Ends

variable {env : Environment W} (henv : env.addressing.LinearBytes)
include henv

theorem emulateInsn_endless {e : Emulator W} (h : e.prefixCount = none) :
    (emulateInsn env e).2 = .error .endlessPrefixes := by
  rw [emulateInsn_eq, bind_run]
  simp only [next, startInsn_endless henv h]

/-- The emulator hangs on the instruction at `CS:IP` when the memory holds
nothing but prefixes. -/
theorem emulateInsn_ends (e : Emulator W) :
    (emulateInsn env e).2 ≠ .error .endlessPrefixes ↔
      exists a, isPrefix (e.mem.mem a) = false := by
  rw [← Emulator.prefixCount_ne_none]
  constructor
  · intro h hNone
    exact h (emulateInsn_endless henv hNone)
  · intro h hEndless
    obtain ⟨k, hk⟩ := Option.ne_none_iff_exists'.mp h
    have hrun := startInsn_skip henv e hk
    have hlength := execute_length henv (e.codeByte k) (e.atOpcode k)
    unfold Returns at hrun
    rw [emulateInsn_eq, bind_run] at hEndless
    simp only [next, hrun] at hEndless
    rw [bind_run] at hEndless
    cases hexec : (execute (e.codeByte k) env (e.atOpcode k)).2 with
    | error x =>
        simp only [hexec] at hlength
        simp only [next, hexec, Except.error.injEq] at hEndless
        rw [hEndless] at hlength
        exact hlength
    | ok out =>
        have hexpects := (expects_reject env).outcome out.2 0 trivial rfl
        simp only [next, hexec] at hEndless
        rw [hEndless] at hexpects
        exact hexpects

end Ends

/-!
## Atomicity
-/

section Rejects

variable {env : Environment W} (henv : env.addressing = Addressing.emulator)
include henv

theorem rejectedOnly_iff {e : Emulator W} {k n : Nat}
    (hk : e.prefixCount = some k) (hLength : e.insnLength = some n)
    (hLong : 16 <= n) :
    RejectedOnly env e n ↔ FrameFits e.registers ∧ HandlerIsIdle env e k := by
  have hlinear : env.addressing.LinearBytes := by
    rw [henv]
    exact Addressing.linearBytes_emulator
  have hn : k + 1 + tailLength (e.codeByte k) (e.codeByte (k + 1)) = n := by
    unfold Emulator.insnLength at hLength
    rw [hk] at hLength
    exact Option.some.inj hLength
  have hprefixes := startInsn_skip hlinear e hk
  obtain ⟨hRegs, hMem, hcount⟩ := e.atOpcode_same k
  have hexec := execute_length hlinear (e.codeByte k) (e.atOpcode k)
  rw [hcount, Emulator.codeByte_congr hRegs hMem, hn] at hexec
  constructor
  · rintro ⟨len, t, hrun, hsame⟩
    rw [emulateInsn_eq] at hrun
    obtain ⟨b, s', h₁, hrun⟩ := returns_bind.mp hrun
    obtain ⟨rfl, rfl⟩ := h₁.unique hprefixes
    obtain ⟨u, t₁, h₂, hrun⟩ := returns_bind.mp hrun
    unfold Returns at h₂
    simp only [h₂] at hexec
    obtain ⟨q, hq⟩ :
        exists q, q = { t₁ with instrLength := t₁.instrLength % 16 } :=
      ⟨_, rfl⟩
    have hLong' : 16 <= t₁.instrLength := by
      rw [hexec]
      exact hLong
    have hFrame := long_fits henv hq hLong' hrun
    obtain ⟨_, rfl⟩ := hrun.unique (long_returns henv hq hLong' hFrame)
    have hqLength : q.instrLength = t₁.instrLength % 16 := by
      rw [hq]
    rw [hqLength, hexec] at hsame
    have hUnchanged := Unchanged.of_interrupted (e := e.started) hFrame hsame
    refine ⟨hUnchanged.frameFits.mp hFrame, t₁, h₂, ?_⟩
    rw [hq] at hUnchanged
    exact ⟨hUnchanged.get, hUnchanged.flags, hUnchanged.mem,
      hUnchanged.world, hUnchanged.pendingIrq, hUnchanged.nmiPending,
      hUnchanged.extIntInhibit⟩
  · rintro ⟨hFrame, t₁, h₂, hIdle⟩
    have h₂' := h₂
    unfold Returns at h₂'
    simp only [h₂'] at hexec
    obtain ⟨q, hq⟩ :
        exists q, q = { t₁ with instrLength := t₁.instrLength % 16 } :=
      ⟨_, rfl⟩
    have hLong' : 16 <= t₁.instrLength := by
      rw [hexec]
      exact hLong
    have hUnchanged : Unchanged e.started q := by
      rw [hq]
      exact ⟨hIdle.get, hIdle.flags, hIdle.mem, hIdle.world,
        hIdle.pendingIrq, hIdle.nmiPending, hIdle.extIntInhibit⟩
    have hrun := long_returns henv hq hLong' (hUnchanged.frameFits.mpr hFrame)
    have hip : q.registers.ip = e.registers.ip := hUnchanged.get .IP
    have hflags : q.registers.getFlags = e.registers.getFlags :=
      hUnchanged.flags
    have hqLength : q.instrLength = t₁.instrLength % 16 := by
      rw [hq]
    have hsame := hUnchanged.interrupted q.registers.getFlags
      (q.registers.ip + BitVec.ofNat 16 q.instrLength) Vector.INVALID_OPCODE
    refine ⟨q.instrLength, q.interrupted q.registers.getFlags
      (q.registers.ip + BitVec.ofNat 16 q.instrLength)
      Vector.INVALID_OPCODE, ?_, ?_⟩
    · rw [emulateInsn_eq]
      exact returns_bind.mpr ⟨_, _, hprefixes,
        returns_bind.mpr ⟨_, _, h₂, hrun⟩⟩
    · rw [hqLength, hexec, hip, hflags] at hsame
      rw [hqLength, hexec, hip, hflags]
      exact hsame

theorem handlerIsIdle_of_doesNothing {e : Emulator W} {k : Nat}
    (h : DoesNothing env (e.atOpcode k) (e.codeByte k)) :
    HandlerIsIdle env e k := by
  have hopcode : (e.atOpcode k).opcode = e.codeByte k := by
    have hskip := e.started.skipPrefixes_opcode k
    rw [show e.started.instrLength = 0 from rfl, Nat.zero_add] at hskip
    exact hskip
  obtain ⟨t, hrun, hsame⟩ := execute_doesNothing henv hopcode h
  have hsame := hsame.trans (sameArch_skipPrefixes k e.started)
  refine ⟨t, hrun, ⟨hsame.get, hsame.flags, ?_, hsame.world,
    hsame.pendingIrq, hsame.nmiPending, hsame.extIntInhibit⟩⟩
  intro a _
  rw [hsame.mem]

/-- An instruction ends and is rejected as a whole when there is an opcode
and, if it is too long, room for the frame of an interrupt and nothing for its
handler to do. There is no other way to find an opcode, nor to reject without
room for the frame. -/
theorem emulateInsn_rejects (e : Emulator W) :
    ((exists a, isPrefix (e.mem.mem a) = false) ∧
        (forall k n, e.prefixCount = some k -> e.insnLength = some n ->
          16 <= n ->
          FrameFits e.registers ∧
            DoesNothing env (e.atOpcode k) (e.codeByte k)) ->
      EndsAndRejects env e) ∧
      (EndsAndRejects env e ->
        (exists a, isPrefix (e.mem.mem a) = false) ∧
          forall n, e.insnLength = some n -> 16 <= n ->
            FrameFits e.registers) := by
  have hlinear : env.addressing.LinearBytes := by
    rw [henv]
    exact Addressing.linearBytes_emulator
  have hcount : forall n, e.insnLength = some n ->
      exists k, e.prefixCount = some k := by
    intro n hn
    obtain ⟨k, hk, _⟩ := Option.map_eq_some_iff.mp hn
    exact ⟨k, hk⟩
  unfold EndsAndRejects
  rw [emulateInsn_ends hlinear]
  constructor
  · rintro ⟨hEnds, hIdle⟩
    refine ⟨hEnds, ?_⟩
    intro n hLength hLong
    obtain ⟨k, hk⟩ := hcount n hLength
    obtain ⟨hFrame, hNothing⟩ := hIdle k n hk hLength hLong
    exact (rejectedOnly_iff henv hk hLength hLong).mpr
      ⟨hFrame, handlerIsIdle_of_doesNothing henv hNothing⟩
  · rintro ⟨hEnds, hRejects⟩
    refine ⟨hEnds, ?_⟩
    intro n hLength hLong
    obtain ⟨k, hk⟩ := hcount n hLength
    exact ((rejectedOnly_iff henv hk hLength hLong).mp
      (hRejects n hLength hLong)).1

end Rejects

/-- Fifteen `LOCK` prefixes and an opcode at `0000:0200`. -/
def tooLong (opcode : BitVec 8) : Emulator Unit :=
  { Emulator.fresh () (fun a =>
      if 0x200#20 <= a ∧ a < 0x20f#20 then 0xf0#8
      else if a = 0x20f#20 then opcode
      else 0#8) with
    registers :=
      { RegisterFile.reset with ip := 0x200#16, ss := 0x1000#16, sp := 0x100#16 } }

/-- `NOP`. -/
theorem emulateInsn_rejects_nop : EndsAndRejects .bare (tooLong 0x90#8) := by
  have hcount : (tooLong 0x90#8).prefixCount = some 15 := by decide +kernel
  refine (emulateInsn_rejects rfl _).1 ⟨⟨0#20, by decide⟩, ?_⟩
  intro k n hk _ _
  rw [hcount] at hk
  cases hk
  exact ⟨by decide, .exchange 0#3 rfl⟩

/-- `INC AX`. -/
theorem emulateInsn_executes_inc : ¬ EndsAndRejects .bare (tooLong 0x40#8) := by
  rintro ⟨_, h⟩
  obtain ⟨len, t, hrun, hsame⟩ := h 16 (by decide +kernel) (by omega)
  have hruns :
      exists len t, Returns emulateInsn .bare (tooLong 0x40#8) len t ∧
        t.registers.ax = 1#16 :=
    exists_returns_of_run (by decide +kernel)
  obtain ⟨len', t', hrun', hax⟩ := hruns
  obtain ⟨_, rfl⟩ := hrun.unique hrun'
  have hget := hsame.get .AX
  rw [Emulator.interrupted_registers] at hget
  have hzero : t.registers.ax = 0#16 := hget
  rw [hax] at hzero
  cases hzero

end Sim
end S80x86
