import S80x86.Sim.ConditionalJumps
import S80x86.Sim.Prefixes

/-!
# Handlers with nothing to do

Some instructions, in some states, leave the registers, the flags, the memory
and the devices as they are: jumps that are not taken, repetitions with no
rounds, shifts by zero, exchanges of equal registers and forms that an opcode
does not define.
-/

namespace S80x86
namespace Sim

open Foundation.Effect
open S80x86.Sim.Flag

variable {W : Type}

/-- The same registers, flags, memory, devices and pending interrupts. -/
structure SameArch (s t : Emulator W) : Prop where
  get : forall r, s.registers.get r = t.registers.get r
  flags : s.registers.getFlags = t.registers.getFlags
  mem : s.mem.mem = t.mem.mem
  world : s.world = t.world
  pendingIrq : s.pendingIrq = t.pendingIrq
  nmiPending : s.nmiPending = t.nmiPending
  extIntInhibit : s.extIntInhibit = t.extIntInhibit

/-- The string instructions. -/
def stringOpcodes : List (BitVec 8) :=
  [0x6c#8, 0x6d#8, 0x6e#8, 0x6f#8, 0xa4#8, 0xa5#8, 0xa6#8, 0xa7#8, 0xaa#8,
    0xab#8, 0xac#8, 0xad#8, 0xae#8, 0xaf#8]

namespace Emulator

/-- The byte behind the opcode. -/
def modrmByte (s : Emulator W) : BitVec 8 := s.codeByte s.instrLength

/-- The opcode and its ModRM byte, taken for one, are a form without effect:
one that wants memory and names a register, or a register field without an
operation. -/
def FormIgnored (s : Emulator W) (b : BitVec 8) : Prop :=
  let named := s.modrmByte.extractLsb' 6 2 = 3#2
  let field := s.modrmByte.extractLsb' 3 3
  (b = 0x8d#8 ∨ b = 0xc4#8 ∨ b = 0xc5#8) ∧ named ∨
    (b = 0xc6#8 ∨ b = 0xc7#8 ∨ b = 0x8f#8) ∧ field ≠ 0#3 ∨
    b = 0xfe#8 ∧ field ≠ 0#3 ∧ field ≠ 1#3 ∧ field ≠ 7#3 ∨
    b = 0xff#8 ∧ (field = 3#3 ∨ field = 5#3) ∧ named

instance (s : Emulator W) (b : BitVec 8) : Decidable (s.FormIgnored b) := by
  unfold FormIgnored
  infer_instance

/-- The opcode shifts by zero, an operand that lies below the end of memory. -/
def ShiftsByZero (s : Emulator W) (b : BitVec 8) : Prop :=
  exists w, (s.decodedFor w).operandFits w ∧
    ((b = match w with | .OP_WIDTH_8 => 0xc0#8 | .OP_WIDTH_16 => 0xc1#8) ∧
        (s.decodedFor w).modrmByte &&& 0x1f#8 = 0#8 ∨
      (b = match w with | .OP_WIDTH_8 => 0xd2#8 | .OP_WIDTH_16 => 0xd3#8) ∧
        s.registers.get .CL = 0#16)

end Emulator

/-- The instructions that give one flag a value. -/
def flagInstructions : List (BitVec 8 × BitVec 16 × Bool) :=
  [(0xf8#8, CF, false), (0xf9#8, CF, true), (0xfa#8, IF, false),
    (0xfc#8, DF, false), (0xfd#8, DF, true)]

/-- The handler of an opcode has nothing to do in a state. -/
inductive DoesNothing (env : Environment W) (s : Emulator W) :
    BitVec 8 -> Prop where
  | wait : DoesNothing env s 0x9b#8
  | hlt : DoesNothing env s 0xf4#8
  | exchange (r : BitVec 3)
      (h : s.registers.get (.word r) = s.registers.get .AX) :
      DoesNothing env s (0x90#8 + r.setWidth 8)
  | jump (c : Condition) (h : c.test s.registers.arithmetic = false) :
      DoesNothing env s c.opcode
  | jcxz (h : s.registers.get .CX ≠ 0#16) : DoesNothing env s 0xe3#8
  | into (h : s.registers.getFlags &&& OF = 0#16) : DoesNothing env s 0xce#8
  | flag {b : BitVec 8} {f : BitVec 16} {v : Bool}
      (hb : (b, f, v) ∈ flagInstructions)
      (h : s.registers.getFlags &&& f = if v then f else 0#16) :
      DoesNothing env s b
  | esc (r : BitVec 3) (h : env.trapEscape = false) :
      DoesNothing env s (0xd8#8 + r.setWidth 8)
  | string {b : BitVec 8} (hb : b ∈ stringOpcodes)
      (hrep : s.hasRepPrefix = true) (hcx : s.registers.get .CX = 0#16) :
      DoesNothing env s b
  | form {b : BitVec 8} (h : s.FormIgnored b) : DoesNothing env s b
  | shift {b : BitVec 8} (h : s.ShiftsByZero b) : DoesNothing env s b

/-!
## Flags that are set to what they are
-/

namespace RegisterFile

theorem getFlags_setFlags_same (r : RegisterFile) {v mask : BitVec 16}
    (h : v &&& mask = r.getFlags &&& mask) :
    (r.setFlags v mask).getFlags = r.getFlags := by
  have hlow : Flag.validMask &&& 0x0fff#16 = Flag.validMask := by decide
  unfold setFlags getFlags
  dsimp only
  ext i hi
  have hbit := congrArg (·[i]) h
  have hvalid := congrArg (·[i]) hlow
  simp only [getFlags, BitVec.getElem_or, BitVec.getElem_and,
    BitVec.getElem_not] at hbit hvalid ⊢
  revert hbit hvalid
  generalize r.flags[i] = f
  generalize v[i] = x
  generalize mask[i] = m
  generalize Flag.reservedMask[i] = reserved
  generalize Flag.validMask[i] = valid
  generalize Flag.stuckBits[i] = stuck
  generalize (0x0fff#16)[i] = low
  revert f x m reserved valid stuck low
  decide

/-- A word register that is set to what it holds. -/
theorem get_set_word_same (r : RegisterFile) (n : BitVec 3) (x : GPR) :
    (r.set (.word n) (r.get (.word n))).get x = r.get x := by
  rcases n with ⟨⟨n, hn⟩⟩
  interval_cases n <;> cases x <;> rfl

end RegisterFile

theorem SameArch.refl (s : Emulator W) : SameArch s s :=
  ⟨fun _ => rfl, rfl, rfl, rfl, rfl, rfl, rfl⟩

theorem SameArch.trans {s t u : Emulator W} (h : SameArch s t)
    (h' : SameArch t u) : SameArch s u where
  get r := (h.get r).trans (h'.get r)
  flags := h.flags.trans h'.flags
  mem := h.mem.trans h'.mem
  world := h.world.trans h'.world
  pendingIrq := h.pendingIrq.trans h'.pendingIrq
  nmiPending := h.nmiPending.trans h'.nmiPending
  extIntInhibit := h.extIntInhibit.trans h'.extIntInhibit

/-- Prefixes change nothing else. -/
theorem sameArch_skipPrefixes (k : Nat) (s : Emulator W) :
    SameArch (s.skipPrefixes k) s := by
  induction k generalizing s with
  | zero =>
      exact ⟨fun _ => rfl, rfl, rfl, rfl, rfl, rfl, rfl⟩
  | succ k ih =>
      have hprefixed : forall b : BitVec 8, SameArch (s.fetched.prefixed b) s := by
        intro b
        unfold Emulator.prefixed
        repeat' split
        all_goals exact ⟨fun _ => rfl, rfl, rfl, rfl, rfl, rfl, rfl⟩
      exact (ih _).trans (hprefixed _)

section Flags

variable (env : Environment W) {s : Emulator W} {f : BitVec 16}

theorem setFlags_same {v mask : BitVec 16}
    (h : v &&& mask = s.registers.getFlags &&& mask) :
    exists t, Returns (setFlags v mask) env s () t ∧ SameArch t s :=
  ⟨_, rfl, RegisterFile.get_setFlags s.registers v mask,
    RegisterFile.getFlags_setFlags_same s.registers h, rfl, rfl, rfl, rfl, rfl⟩

theorem clearFlag_same (h : s.registers.getFlags &&& f = 0#16) :
    exists t, Returns (clearFlag f) env s () t ∧ SameArch t s := by
  have hsame : s.registers.getFlags &&& ~~~f &&& f =
      s.registers.getFlags &&& f := by
    rw [BitVec.and_assoc, BitVec.and_comm (~~~f), BitVec.and_not_self, h]
    exact BitVec.and_zero
  obtain ⟨t, hrun, ht⟩ := setFlags_same env hsame
  exact ⟨t, returns_bind.mpr ⟨_, s, rfl, hrun⟩, ht⟩

theorem raiseFlag_same (h : s.registers.getFlags &&& f = f) :
    exists t, Returns (raiseFlag f) env s () t ∧ SameArch t s := by
  have hsame : (s.registers.getFlags ||| f) &&& f =
      s.registers.getFlags &&& f := by
    rw [h]
    ext i hi
    simp only [BitVec.getElem_and, BitVec.getElem_or]
    cases f[i] <;> simp
  obtain ⟨t, hrun, ht⟩ := setFlags_same env hsame
  exact ⟨t, returns_bind.mpr ⟨_, s, rfl, hrun⟩, ht⟩

end Flags

/-!
## Registers, jumps and repetitions
-/

section Handlers

variable {env : Environment W} {s : Emulator W}

theorem execute_exchange (r : BitVec 3) :
    (execute (0x90#8 + r.setWidth 8) : EmuM W Unit) = xchg90_97 := by
  rcases r with ⟨⟨n, hn⟩⟩
  interval_cases n <;> rfl

theorem execute_esc (r : BitVec 3) :
    (execute (0xd8#8 + r.setWidth 8) : EmuM W Unit) = escd8 := by
  rcases r with ⟨⟨n, hn⟩⟩
  interval_cases n <;> rfl

theorem exchange_same {r : BitVec 3} (hop : s.opcode.extractLsb' 0 3 = r)
    (h : s.registers.get (.word r) = s.registers.get .AX) :
    exists t, Returns xchg90_97 env s () t ∧ SameArch t s := by
  have hreg : Returns opcodeReg env s r s := by
    refine returns_bind.mpr ⟨s.opcode, s, rfl, ?_⟩
    rw [hop]
    rfl
  refine ⟨_, returns_bind.mpr ⟨r, s, hreg, returns_bind.mpr ⟨_, s, rfl,
    returns_bind.mpr ⟨_, s, rfl, returns_bind.mpr ⟨(), _, rfl, rfl⟩⟩⟩⟩, ?_⟩
  have hfirst : forall x, (s.registers.set .AX (s.registers.get
      (.word r))).get x = s.registers.get x := by
    intro x
    rw [h]
    exact s.registers.get_set_word_same 0#3 x
  refine ⟨fun x => ?_, ?_, rfl, rfl, rfl, rfl, rfl⟩
  · have hsecond := RegisterFile.get_set_word_same
      (s.registers.set .AX (s.registers.get (.word r))) r x
    rw [hfirst (.word r), h] at hsecond
    change ((s.registers.set .AX (s.registers.get (.word r))).set (.word r)
      (s.registers.get .AX)).get x = s.registers.get x
    rw [h] at hfirst ⊢
    exact hsecond.trans (hfirst x)
  · unfold RegisterFile.getFlags
    dsimp only
    rw [RegisterFile.flags_set, RegisterFile.flags_set]

/-- A repetition with no rounds. -/
theorem doRep_same (primitive : EmuM W Unit) (shouldTerminate : EmuM W Bool)
    (hrep : s.hasRepPrefix = true) (hcx : s.registers.get .CX = 0#16) :
    Returns (doRep primitive shouldTerminate) env s () s := by
  refine returns_bind.mpr ⟨true, s, ?_, ?_⟩
  · rw [<- hrep]
    rfl
  · refine returns_bind.mpr ⟨s.registers.get .CX, s, rfl, ?_⟩
    rw [if_pos hcx]
    rfl

theorem string_same {b : BitVec 8} (hb : b ∈ stringOpcodes)
    (hrep : s.hasRepPrefix = true) (hcx : s.registers.get .CX = 0#16) :
    Returns (execute b) env s () s := by
  simp only [stringOpcodes, List.mem_cons, List.not_mem_nil, or_false] at hb
  rcases hb with rfl | rfl | rfl | rfl | rfl | rfl | rfl | rfl | rfl | rfl |
    rfl | rfl | rfl | rfl
  all_goals exact doRep_same _ _ hrep hcx

theorem jcxz_same (henv : env.addressing.LinearBytes)
    (h : s.registers.get .CX ≠ 0#16) :
    exists t, Returns jcxze3 env s () t ∧ SameArch t s := by
  refine ⟨{ s with instrLength := s.instrLength + 1 }, ?_,
    ⟨fun _ => rfl, rfl, rfl, rfl, rfl, rfl, rfl⟩⟩
  refine returns_bind.mpr ⟨(s.codeByte s.instrLength).signExtend 16, _,
    returns_bind.mpr ⟨_, _, fetchByte_returns henv s, rfl⟩, ?_⟩
  refine returns_bind.mpr ⟨false, _, ?_, rfl⟩
  refine returns_bind.mpr ⟨s.registers.get .CX, _, rfl, ?_⟩
  rw [beq_eq_false_iff_ne.mpr h]
  rfl

theorem jump_same (henv : env.addressing.LinearBytes) {c : Condition}
    (h : c.test s.registers.arithmetic = false) :
    exists t, Returns (execute c.opcode) env s () t ∧ SameArch t s := by
  have hrun := condition_returns henv c s
  rw [h] at hrun
  exact ⟨_, hrun, ⟨fun _ => rfl, rfl, rfl, rfl, rfl, rfl, rfl⟩⟩

theorem into_same (h : s.registers.getFlags &&& OF = 0#16) :
    Returns intoce env s () s := by
  refine returns_bind.mpr ⟨s.registers.getFlags, s, rfl, ?_⟩
  rw [if_pos h]
  rfl

theorem flag_same {b : BitVec 8} {f : BitVec 16} {v : Bool}
    (hb : (b, f, v) ∈ flagInstructions)
    (h : s.registers.getFlags &&& f = if v then f else 0#16) :
    exists t, Returns (execute b) env s () t ∧ SameArch t s := by
  simp only [flagInstructions, List.mem_cons, List.not_mem_nil, or_false,
    Prod.mk.injEq] at hb
  rcases hb with ⟨rfl, rfl, rfl⟩ | ⟨rfl, rfl, rfl⟩ | ⟨rfl, rfl, rfl⟩ |
    ⟨rfl, rfl, rfl⟩ | ⟨rfl, rfl, rfl⟩
  · exact clearFlag_same env h
  · exact raiseFlag_same env h
  · exact clearFlag_same env h
  · exact clearFlag_same env h
  · exact raiseFlag_same env h

theorem esc_same (henv : env.addressing.LinearBytes)
    (h : env.trapEscape = false) :
    exists t, Returns escd8 env s () t ∧ SameArch t s := by
  refine ⟨s.afterDecode, ?_, ⟨fun _ => rfl, rfl, rfl, rfl, rfl, rfl, rfl⟩⟩
  refine returns_bind.mpr ⟨(), _, decode_returns henv s, ?_⟩
  refine returns_bind.mpr ⟨false, _, ?_, rfl⟩
  unfold Returns getTrapEscape
  rw [h]

/-!
## Forms of a ModRM byte
-/

namespace Emulator

theorem decodedFor_mod (w : OperandWidth) (s : Emulator W) :
    (s.decodedFor w).modrmDecoder.mod = s.modrmByte.extractLsb' 6 2 := by
  unfold decodedFor afterDecode decoderAfter
  dsimp only
  split <;> rfl

theorem decodedFor_rmType {s : Emulator W}
    (h : s.modrmByte.extractLsb' 6 2 = 3#2) (w : OperandWidth) :
    (s.decodedFor w).modrmDecoder.rmType = .OP_REG := by
  rw [rmType_eq_reg_iff, decodedFor_mod]
  exact h

end Emulator

/-- A handler that decodes a ModRM byte and then has nothing to do. -/
theorem decodes_same (henv : env.addressing.LinearBytes) {w : OperandWidth}
    {body : EmuM W Unit}
    (h : exists t, Returns body env (s.decodedFor w) () t ∧
      SameArch t (s.decodedFor w)) :
    exists t, Returns (do setWidth w; decode; body) env s () t ∧
      SameArch t s := by
  obtain ⟨t, hrun, hsame⟩ := h
  exact ⟨t, returns_bind.mpr ⟨(), _, rfl, returns_bind.mpr ⟨(), _,
    decode_returns henv _, hrun⟩⟩,
    ⟨hsame.get, hsame.flags, hsame.mem, hsame.world, hsame.pendingIrq,
      hsame.nmiPending, hsame.extIntInhibit⟩⟩

theorem rawReg_bind {w : OperandWidth} {f : BitVec 3 -> EmuM W Unit}
    {t : Emulator W} :
    Returns (rawReg >>= f) env (s.decodedFor w) () t ↔
      Returns (f (s.modrmByte.extractLsb' 3 3)) env (s.decodedFor w) () t := by
  have hraw : Returns rawReg env (s.decodedFor w)
      (s.decodedFor w).modrmDecoder.rawReg (s.decodedFor w) :=
    decoded_returns _ (decodedFor_decoded w s).isDecoded
  rw [Emulator.decodedFor_rawReg] at hraw
  exact hraw.bind_iff

/-- Forms that are ignored. -/
theorem form_same (henv : env.addressing.LinearBytes) {b : BitVec 8}
    (h : s.FormIgnored b) :
    exists t, Returns (execute b) env s () t ∧ SameArch t s := by
  have hrefl (w : OperandWidth) := SameArch.refl (s.decodedFor w)
  rcases h with ⟨hb, hnamed⟩ | ⟨hb, hfield⟩ | ⟨rfl, h0, h1, h7⟩ |
    ⟨rfl, hfield, hnamed⟩
  · have htype : Returns rmType env (s.decodedFor .OP_WIDTH_16) .OP_REG
        (s.decodedFor .OP_WIDTH_16) := by
      rw [<- Emulator.decodedFor_rmType hnamed .OP_WIDTH_16]
      exact decoded_returns _ (decodedFor_decoded _ s).isDecoded
    rcases hb with rfl | rfl | rfl
    all_goals
      exact decodes_same henv ⟨_, htype.bind_iff.mpr rfl, hrefl _⟩
  · rcases hb with rfl | rfl | rfl
    all_goals
      refine decodes_same henv ⟨_, rawReg_bind.mpr ?_, hrefl _⟩
      rw [if_neg hfield]
      rfl
  · refine decodes_same henv ⟨_, rawReg_bind.mpr ?_, hrefl _⟩
    rw [if_neg h7, if_pos ⟨h0, h1⟩]
    rfl
  · have htype : Returns rmType env (s.decodedFor .OP_WIDTH_16) .OP_REG
        (s.decodedFor .OP_WIDTH_16) := by
      rw [<- Emulator.decodedFor_rmType hnamed .OP_WIDTH_16]
      exact decoded_returns _ (decodedFor_decoded _ s).isDecoded
    refine decodes_same henv ⟨_, rawReg_bind.mpr ?_, hrefl _⟩
    rcases hfield with h3 | h5
    · rw [h3]
      exact htype.bind_iff.mpr rfl
    · rw [h5]
      exact htype.bind_iff.mpr rfl

/-!
## Shifts by zero
-/

theorem shiftImmediate_same (henv : env.addressing = Addressing.emulator)
    {d : Emulator W} (hdecoded : d.Decoded) {w : OperandWidth}
    (hfits : d.operandFits w) (hcount : d.modrmByte &&& 0x1f#8 = 0#8)
    (op : ShiftOp W w) (mask : BitVec 16) :
    Returns (shiftImmediate w op mask) env d ()
      { d with instrLength := d.instrLength + 1 } := by
  have hlinear : env.addressing.LinearBytes := by
    rw [henv]
    exact Addressing.linearBytes_emulator
  refine returns_bind.mpr ⟨_, _, readData_returns henv hdecoded hfits, ?_⟩
  refine returns_bind.mpr ⟨d.modrmByte, _, fetchByte_returns hlinear d, ?_⟩
  rw [if_pos hcount]
  rfl

theorem shiftCl_same (henv : env.addressing = Addressing.emulator)
    {d : Emulator W} (hdecoded : d.Decoded) {w : OperandWidth}
    (hfits : d.operandFits w) (hcount : d.registers.get .CL = 0#16)
    (op : ShiftOp W w) (mask : BitVec 16) :
    Returns (shiftCl w op mask) env d () d := by
  refine returns_bind.mpr ⟨_, _, readData_returns henv hdecoded hfits, ?_⟩
  refine returns_bind.mpr ⟨d.registers.get .CL, d, rfl, ?_⟩
  rw [if_pos hcount]
  rfl

/-- Whichever of its operations a group selects, if all do the same. -/
theorem shiftGroup_same (henv : env.addressing.LinearBytes)
    {w : OperandWidth} {shl shr sar rol rcl rcr ror : EmuM W Unit}
    {t : Emulator W} (ht : SameArch t (s.decodedFor w))
    (h : forall op, op ∈ [shl, shr, sar, rol, rcl, rcr, ror] ->
      Returns op env (s.decodedFor w) () t) :
    exists t, Returns (shiftGroup w shl shr sar rol rcl rcr ror) env s () t ∧
      SameArch t s := by
  refine decodes_same henv ⟨t, rawReg_bind.mpr ?_, ht⟩
  repeat' split
  all_goals
    apply h
    simp only [List.mem_cons, true_or, or_true]

theorem shift_same (henv : env.addressing = Addressing.emulator)
    {b : BitVec 8} (h : s.ShiftsByZero b) :
    exists t, Returns (execute b) env s () t ∧ SameArch t s := by
  have hlinear : env.addressing.LinearBytes := by
    rw [henv]
    exact Addressing.linearBytes_emulator
  obtain ⟨w, hfits, hshift⟩ := h
  have himmediate := fun hcount => shiftImmediate_same henv
    (decodedFor_decoded w s) hfits hcount
  have hcl := fun hcount => shiftCl_same henv (decodedFor_decoded w s) hfits
    hcount
  have hmoved : SameArch
      { s.decodedFor w with instrLength := (s.decodedFor w).instrLength + 1 }
      (s.decodedFor w) := ⟨fun _ => rfl, rfl, rfl, rfl, rfl, rfl, rfl⟩
  cases w with
  | OP_WIDTH_8 =>
      rcases hshift with ⟨rfl, hcount⟩ | ⟨rfl, hcount⟩
      · refine shiftGroup_same hlinear hmoved ?_
        simp only [List.forall_mem_cons]
        exact ⟨himmediate hcount _ _, himmediate hcount _ _,
          himmediate hcount _ _, himmediate hcount _ _, himmediate hcount _ _,
          himmediate hcount _ _, himmediate hcount _ _,
          List.forall_mem_nil _⟩
      · refine shiftGroup_same hlinear (SameArch.refl _) ?_
        simp only [List.forall_mem_cons]
        exact ⟨hcl hcount _ _, hcl hcount _ _, hcl hcount _ _, hcl hcount _ _,
          hcl hcount _ _, hcl hcount _ _, hcl hcount _ _,
          List.forall_mem_nil _⟩
  | OP_WIDTH_16 =>
      rcases hshift with ⟨rfl, hcount⟩ | ⟨rfl, hcount⟩
      · refine shiftGroup_same hlinear hmoved ?_
        simp only [List.forall_mem_cons]
        exact ⟨himmediate hcount _ _, himmediate hcount _ _,
          himmediate hcount _ _, himmediate hcount _ _, himmediate hcount _ _,
          himmediate hcount _ _, himmediate hcount _ _,
          List.forall_mem_nil _⟩
      · refine shiftGroup_same hlinear (SameArch.refl _) ?_
        simp only [List.forall_mem_cons]
        exact ⟨hcl hcount _ _, hcl hcount _ _, hcl hcount _ _, hcl hcount _ _,
          hcl hcount _ _, hcl hcount _ _, hcl hcount _ _,
          List.forall_mem_nil _⟩

/-- A handler with nothing to do returns and leaves everything as it is. -/
theorem execute_doesNothing (henv : env.addressing = Addressing.emulator)
    {b : BitVec 8} (hop : s.opcode = b) (h : DoesNothing env s b) :
    exists t, Returns (execute b) env s () t ∧ SameArch t s := by
  have hlinear : env.addressing.LinearBytes := by
    rw [henv]
    exact Addressing.linearBytes_emulator
  cases h with
  | wait =>
      exact ⟨s, rfl, SameArch.refl s⟩
  | hlt =>
      exact ⟨s, rfl, SameArch.refl s⟩
  | exchange r h =>
      have hfield : forall r : BitVec 3,
          (0x90#8 + r.setWidth 8).extractLsb' 0 3 = r := by decide
      rw [execute_exchange]
      exact exchange_same (hop ▸ hfield r) h
  | jump c h =>
      exact jump_same hlinear h
  | jcxz h =>
      exact jcxz_same hlinear h
  | into h =>
      exact ⟨s, into_same h, SameArch.refl s⟩
  | flag hb h =>
      exact flag_same hb h
  | esc r h =>
      rw [execute_esc]
      exact esc_same hlinear h
  | string hb hrep hcx =>
      exact ⟨s, string_same hb hrep hcx, SameArch.refl s⟩
  | form h =>
      exact form_same hlinear h
  | shift h =>
      exact shift_same henv h

end Handlers

end Sim
end S80x86
