import Mathlib.Tactic.IntervalCases
import S80x86.Foundation.Clocked
import S80x86.Rtl.Units
import S80x86.Sim.ModRM

/-!
# The two register files

The register file and the flags of the core against the register file of the
emulator, over every run of writes, reads and flag updates.  Both have a build
option that clears the upper bits of the flags word.
-/

open Foundation Foundation.Clocked

namespace S80x86
namespace Sim

open Rtl.Flag

/-!
## Flags with the build option
-/

/-- `FLAGS_STUCK_BITS`. -/
def stuckBits (pseudo286 : Bool) : BitVec 16 :=
  if pseudo286 then 0x0002#16 else 0xf002#16

def reservedMask (pseudo286 : Bool) : BitVec 16 :=
  if pseudo286 then 0xf02a#16 else 0x002a#16

namespace RegisterFile

def getFlagsOf (pseudo286 : Bool) (r : RegisterFile) : BitVec 16 :=
  r.flags ||| stuckBits pseudo286

def setFlagsOf (pseudo286 : Bool) (r : RegisterFile) (val mask : BitVec 16) :
    RegisterFile :=
  let mask := mask &&& ~~~reservedMask pseudo286
  let mask := mask &&& Flag.validMask
  { r with
    flags := (r.flags &&& ~~~mask) |||
      (((val &&& mask) ||| stuckBits pseudo286) &&& 0x0fff#16)
    written := true }

end RegisterFile

/-- `flags_out`. -/
def flagsOutOf (pseudo286 : Bool) (f : Rtl.Flags) : BitVec 16 :=
  (if pseudo286 then 0b0000#4 else 0b1111#4) ++ BitVec.ofBool f.O ++
    BitVec.ofBool f.D ++ BitVec.ofBool f.I ++ BitVec.ofBool f.T ++
    BitVec.ofBool f.S ++ BitVec.ofBool f.Z ++ 0b0#1 ++ BitVec.ofBool f.A ++
    0b0#1 ++ BitVec.ofBool f.P ++ 0b1#1 ++ BitVec.ofBool f.C

/-- The position of a flag. -/
def flagIndex : Rtl.UpdateFlags -> Nat
  | .CF => CF_IDX
  | .PF => PF_IDX
  | .AF => AF_IDX
  | .ZF => ZF_IDX
  | .SF => SF_IDX
  | .TF => TF_IDX
  | .IF => IF_IDX
  | .DF => DF_IDX
  | .OF => OF_IDX

/-- One cycle: a write, two reads and the flags to update, with the mask the
emulator is given for them. -/
structure RegisterCycle where
  file : Rtl.RegisterFile.Input
  updateFlags : List Rtl.UpdateFlags
  flagsIn : BitVec 16
  mask : BitVec 16
  mask_eq : forall u, updateFlags.contains u = mask.getLsbD (flagIndex u)

/-- The registers of the core. -/
structure CoreRegisters where
  file : Rtl.RegisterFile.State
  flags : Rtl.Flags

def CoreRegisters.step (c : RegisterCycle) (s : CoreRegisters) :
    CoreRegisters :=
  { file := Rtl.RegisterFile.step c.file s.file
    flags := Rtl.Flags.step c.updateFlags c.flagsIn s.flags }

/-- The register a select names in an operation of this width. -/
def selected (is8Bit : Bool) (sel : BitVec 3) : GPR :=
  if is8Bit then .byte sel else .word sel

/-- The same updates in the emulator. -/
def RegisterFile.update (pseudo286 : Bool) (c : RegisterCycle)
    (r : RegisterFile) : RegisterFile :=
  (if c.file.wrEn then r.set (selected c.file.is8Bit c.file.wrSel) c.file.wrVal
  else r).setFlagsOf pseudo286 c.flagsIn c.mask

/-!
## Flags
-/

theorem getLsbD_step_flags (pseudo286 : Bool) (c : RegisterCycle)
    (f : Rtl.Flags) (u : Rtl.UpdateFlags) :
    (flagsOutOf pseudo286
        (Rtl.Flags.step c.updateFlags c.flagsIn f)).getLsbD (flagIndex u) =
      if c.mask.getLsbD (flagIndex u) then c.flagsIn.getLsbD (flagIndex u)
      else (flagsOutOf pseudo286 f).getLsbD (flagIndex u) := by
  rw [← c.mask_eq]
  unfold flagsOutOf Rtl.Flags.step
  simp only [BitVec.getLsbD_append]
  cases u <;>
    simp [flagIndex, CF_IDX, PF_IDX, AF_IDX, ZF_IDX, SF_IDX, TF_IDX, IF_IDX,
      DF_IDX, OF_IDX]

/-- The bits that are no flags. -/
theorem flagsOutOf_fixed (pseudo286 : Bool) (f : Rtl.Flags) :
    flagsOutOf pseudo286 f &&& 0xf02a#16 = stuckBits pseudo286 := by
  apply BitVec.eq_of_getLsbD_eq
  intro k hk
  unfold flagsOutOf stuckBits
  rw [BitVec.getLsbD_and]
  simp only [BitVec.getLsbD_append]
  cases pseudo286 <;> interval_cases k <;> simp

/-- A bit of the flags word is a flag or has a fixed value. -/
theorem flag_or_fixed {k : Nat} (hk : k < 16) :
    (exists u, flagIndex u = k) ∨ (0xf02a#16).getLsbD k = true := by
  have hall : forall k : Fin 16,
      (k.val ∈ [CF_IDX, PF_IDX, AF_IDX, ZF_IDX, SF_IDX, TF_IDX, IF_IDX, DF_IDX,
        OF_IDX]) ∨ (0xf02a#16).getLsbD k.val = true := by
    decide
  rcases hall ⟨k, hk⟩ with hmem | hfixed
  · simp only [List.mem_cons, List.not_mem_nil, or_false] at hmem
    rcases hmem with h | h | h | h | h | h | h | h | h
    · exact Or.inl ⟨.CF, h.symm⟩
    · exact Or.inl ⟨.PF, h.symm⟩
    · exact Or.inl ⟨.AF, h.symm⟩
    · exact Or.inl ⟨.ZF, h.symm⟩
    · exact Or.inl ⟨.SF, h.symm⟩
    · exact Or.inl ⟨.TF, h.symm⟩
    · exact Or.inl ⟨.IF, h.symm⟩
    · exact Or.inl ⟨.DF, h.symm⟩
    · exact Or.inl ⟨.OF, h.symm⟩
  · exact Or.inr hfixed

theorem flags_step {pseudo286 : Bool} {f : Rtl.Flags} {r : RegisterFile}
    (h : flagsOutOf pseudo286 f = r.getFlagsOf pseudo286) (c : RegisterCycle) :
    flagsOutOf pseudo286 (Rtl.Flags.step c.updateFlags c.flagsIn f) =
      (r.setFlagsOf pseudo286 c.flagsIn c.mask).getFlagsOf pseudo286 := by
  apply BitVec.eq_of_getLsbD_eq
  intro k hk
  have hold : (flagsOutOf pseudo286 f).getLsbD k =
      (r.flags.getLsbD k || (stuckBits pseudo286).getLsbD k) := by
    rw [h, RegisterFile.getFlagsOf, BitVec.getLsbD_or]
  have hnew : ((r.setFlagsOf pseudo286 c.flagsIn c.mask).getFlagsOf
      pseudo286).getLsbD k =
      (r.flags.getLsbD k && !(c.mask.getLsbD k &&
          !(reservedMask pseudo286).getLsbD k && Flag.validMask.getLsbD k) ||
        (c.flagsIn.getLsbD k && (c.mask.getLsbD k &&
            !(reservedMask pseudo286).getLsbD k && Flag.validMask.getLsbD k) ||
          (stuckBits pseudo286).getLsbD k) && (0x0fff#16).getLsbD k ||
        (stuckBits pseudo286).getLsbD k) := by
    simp only [RegisterFile.getFlagsOf, RegisterFile.setFlagsOf,
      BitVec.getLsbD_or, BitVec.getLsbD_and, BitVec.getLsbD_not, hk,
      decide_true, Bool.true_and]
  rcases flag_or_fixed hk with ⟨u, rfl⟩ | hfixed
  · have hbits : (stuckBits pseudo286).getLsbD (flagIndex u) = false ∧
        (reservedMask pseudo286).getLsbD (flagIndex u) = false ∧
        Flag.validMask.getLsbD (flagIndex u) = true ∧
        (0x0fff#16).getLsbD (flagIndex u) = true := by
      cases u <;> cases pseudo286 <;> decide
    obtain ⟨hstuck, hreserved, hvalid, hlow⟩ := hbits
    rw [getLsbD_step_flags, hnew, hold, hstuck, hreserved, hvalid, hlow]
    cases c.mask.getLsbD (flagIndex u) <;> simp
  · have hbit : forall g : Rtl.Flags, (flagsOutOf pseudo286 g).getLsbD k =
        (stuckBits pseudo286).getLsbD k := by
      intro g
      rw [← flagsOutOf_fixed pseudo286 g, BitVec.getLsbD_and, hfixed,
        Bool.and_true]
    have hinvalid : Flag.validMask.getLsbD k = false := by
      have hall : forall k : Fin 16, (0xf02a#16).getLsbD k.val = true ->
          Flag.validMask.getLsbD k.val = false := by
        decide
      exact hall ⟨k, hk⟩ hfixed
    rw [hbit] at hold ⊢
    rw [hnew, hinvalid]
    cases hs : (stuckBits pseudo286).getLsbD k with
    | false =>
        rw [hs, Bool.or_false] at hold
        simp [← hold]
    | true =>
        simp

/-!
## Registers
-/

/-- The word registers as the core selects them. -/
def RegisterFile.words (r : RegisterFile) : Rtl.Gprs := fun n => r.get (.word n)

theorem lowByte_eq (x v : BitVec 16) :
    RegisterFile.lowByte x v = x.extractLsb' 8 8 ++ v.extractLsb' 0 8 := by
  apply BitVec.eq_of_getLsbD_eq
  intro k hk
  unfold RegisterFile.lowByte
  simp only [BitVec.getLsbD_append]
  interval_cases k <;> simp

theorem highByte_eq (x v : BitVec 16) :
    RegisterFile.highByte x v = v.extractLsb' 0 8 ++ x.extractLsb' 0 8 := by
  apply BitVec.eq_of_getLsbD_eq
  intro k hk
  unfold RegisterFile.highByte
  simp only [BitVec.getLsbD_append]
  interval_cases k <;> simp

theorem register_cases (n : BitVec 3) :
    n = 0#3 ∨ n = 1#3 ∨ n = 2#3 ∨ n = 3#3 ∨ n = 4#3 ∨ n = 5#3 ∨ n = 6#3 ∨
      n = 7#3 := by
  revert n
  decide

theorem words_set_word (r : RegisterFile) (n : BitVec 3) (v : BitVec 16) :
    (r.set (.word n) v).words = r.words.set n v := by
  funext m
  rcases register_cases n with rfl | rfl | rfl | rfl | rfl | rfl | rfl | rfl <;>
    rcases register_cases m with
      rfl | rfl | rfl | rfl | rfl | rfl | rfl | rfl <;>
    rfl

/-- A write of a byte register replaces half of a word register. -/
theorem words_set_byte (r : RegisterFile) (b : BitVec 3) (v : BitVec 16) :
    (r.set (.byte b) v).words = r.words.write true b v := by
  have hlow : forall n : BitVec 3,
      (r.set (.word n) (RegisterFile.lowByte (r.get (.word n)) v)).words =
        r.words.set n
          ((r.words n).extractLsb' 8 8 ++ v.extractLsb' 0 8) := by
    intro n
    rw [words_set_word, lowByte_eq]
    rfl
  have hhigh : forall n : BitVec 3,
      (r.set (.word n) (RegisterFile.highByte (r.get (.word n)) v)).words =
        r.words.set n
          (v.extractLsb' 0 8 ++ (r.words n).extractLsb' 0 8) := by
    intro n
    rw [words_set_word, highByte_eq]
    rfl
  rcases register_cases b with rfl | rfl | rfl | rfl | rfl | rfl | rfl | rfl
  · exact hlow 0#3
  · exact hlow 1#3
  · exact hlow 2#3
  · exact hlow 3#3
  · exact hhigh 0#3
  · exact hhigh 1#3
  · exact hhigh 2#3
  · exact hhigh 3#3

theorem words_set (r : RegisterFile) (is8Bit : Bool) (sel : BitVec 3)
    (v : BitVec 16) :
    (r.set (selected is8Bit sel) v).words = r.words.write is8Bit sel v := by
  cases is8Bit with
  | false =>
      exact words_set_word r sel v
  | true =>
      exact words_set_byte r sel v

/-- A byte register is half of a word register. -/
theorem get_selected (r : RegisterFile) (is8Bit : Bool) (sel : BitVec 3) :
    r.get (selected is8Bit sel) = r.words.read is8Bit sel := by
  have hlow : forall x : BitVec 16,
      x &&& 0x00ff#16 = (x.extractLsb' 0 8).setWidth 16 := by
    intro x
    ext i hi
    interval_cases i <;> simp
  have hhigh : forall x : BitVec 16,
      x >>> 8 = (x.extractLsb' 8 8).setWidth 16 := by
    intro x
    ext i hi
    interval_cases i <;> simp
  cases is8Bit with
  | false =>
      rfl
  | true =>
      rcases register_cases sel with
        rfl | rfl | rfl | rfl | rfl | rfl | rfl | rfl
      · exact hlow r.ax
      · exact hlow r.cx
      · exact hlow r.dx
      · exact hlow r.bx
      · exact hhigh r.ax
      · exact hhigh r.cx
      · exact hhigh r.dx
      · exact hhigh r.bx

/-!
## The ports of the core
-/

section Ports

open Rtl.RegisterFile

/-- The registers after the write of a cycle. -/
def written (i : Rtl.RegisterFile.Input) (g : Rtl.Gprs) : Rtl.Gprs :=
  if i.wrEn then g.write i.is8Bit i.wrSel i.wrVal else g

/-- The word register a byte select is half of. -/
def wordOf (sel : BitVec 3) : BitVec 3 := 0#1 ++ sel.extractLsb' 0 2

theorem byte_halves : forall a b : BitVec 3, wordOf a = wordOf b ->
    a.getLsbD 2 = b.getLsbD 2 -> a = b := by
  decide

theorem write_byte (g : Rtl.Gprs) (a : BitVec 3) (v : BitVec 16) :
    g.write true a v =
      g.set (wordOf a)
        (if a.getLsbD 2 then
          v.extractLsb' 0 8 ++ (g (wordOf a)).extractLsb' 0 8
        else (g (wordOf a)).extractLsb' 8 8 ++ v.extractLsb' 0 8) := by
  unfold Rtl.Gprs.write
  cases a.getLsbD 2 <;> rfl

theorem read_byte (g : Rtl.Gprs) (b : BitVec 3) :
    g.read true b =
      if b.getLsbD 2 then ((g (wordOf b)).extractLsb' 8 8).setWidth 16
      else ((g (wordOf b)).extractLsb' 0 8).setWidth 16 := rfl

/-- A byte register reads what is written to it and is not touched by a write
of another one. -/
theorem read_write_byte (g : Rtl.Gprs) (a b : BitVec 3) (v : BitVec 16) :
    (g.write true a v).read true b =
      if a = b then (v.extractLsb' 0 8).setWidth 16 else g.read true b := by
  have hlow : forall x y : BitVec 8, (x ++ y : BitVec 16).extractLsb' 0 8 = y :=
    Bits.extractLsb'_low_append
  have hhigh : forall x y : BitVec 8,
      (x ++ y : BitVec 16).extractLsb' 8 8 = x :=
    Bits.extractLsb'_high_append
  rw [write_byte, read_byte, read_byte, Rtl.Gprs.set]
  by_cases hsame : wordOf b = wordOf a
  · rw [if_pos hsame]
    by_cases hab : a = b
    · subst hab
      rw [if_pos rfl]
      cases a.getLsbD 2 <;> simp only [if_true, hhigh, hlow, if_false,
        Bool.false_eq_true]
    · have hbit : ¬ a.getLsbD 2 = b.getLsbD 2 :=
        fun h => hab (byte_halves a b hsame.symm h)
      rw [if_neg hab, hsame]
      cases ha : a.getLsbD 2 <;> cases hb : b.getLsbD 2
      · exact absurd (ha.trans hb.symm) hbit
      · simp only [if_true, Bool.false_eq_true, if_false, hhigh]
      · simp only [if_true, Bool.false_eq_true, if_false, hlow]
      · exact absurd (ha.trans hb.symm) hbit
  · have hab : ¬ a = b := fun h => hsame (congrArg wordOf h.symm)
    rw [if_neg hsame, if_neg hab]

/-- A read port shows the register after the write of the cycle. -/
theorem port_eq (i : Rtl.RegisterFile.Input) (g : Rtl.Gprs) (sel : BitVec 3) :
    port i g sel = (written i g).read i.is8Bit sel := by
  unfold port written
  cases i.wrEn with
  | false =>
      simp
  | true =>
      cases i.is8Bit with
      | false =>
          simp only [Bool.true_and, beq_iff_eq, if_true, Bool.false_eq_true,
            if_false, Rtl.Gprs.read, Rtl.Gprs.write, Rtl.Gprs.set]
          by_cases h : i.wrSel = sel
          · simp [h]
          · have h' : ¬ sel = i.wrSel := fun heq => h heq.symm
            simp [h, h']
      | true =>
          simp only [if_true, read_write_byte, Bool.true_and, beq_iff_eq]

theorem copy_eq (i : Rtl.RegisterFile.Input) (g : Rtl.Gprs) {sel : BitVec 3}
    (hsel : sel.getLsbD 2 = true) : copy i g sel = written i g sel := by
  have hword : forall a : BitVec 3, ¬ sel = wordOf a := by
    have hall : forall s a : BitVec 3, s.getLsbD 2 = true -> ¬ s = wordOf a := by
      decide
    exact fun a => hall sel a hsel
  unfold copy written
  cases i.wrEn with
  | false =>
      simp
  | true =>
      cases i.is8Bit with
      | false =>
          by_cases h : i.wrSel = sel
          · simp [h, Rtl.Gprs.write, Rtl.Gprs.set]
          · have h' : ¬ sel = i.wrSel := fun heq => h heq.symm
            simp [h, h', Rtl.Gprs.write, Rtl.Gprs.set]
      | true =>
          rw [if_pos rfl, write_byte, Rtl.Gprs.set, if_neg (hword i.wrSel)]
          rfl

theorem copyBx_eq (i : Rtl.RegisterFile.Input) (g : Rtl.Gprs) :
    copyBx i g = written i g Rtl.GPR.BX := by
  unfold copyBx copy written
  cases i.wrEn with
  | false =>
      simp
  | true =>
      cases i.is8Bit with
      | false =>
          by_cases h : i.wrSel = Rtl.GPR.BX
          · simp [h, Rtl.Gprs.write, Rtl.Gprs.set]
          · have h' : ¬ Rtl.GPR.BX = i.wrSel := fun heq => h heq.symm
            simp [h, h', Rtl.Gprs.write, Rtl.Gprs.set]
      | true =>
          rcases register_cases i.wrSel with
            h | h | h | h | h | h | h | h <;>
            rw [h] <;> rfl

end Ports

/-!
## Runs
-/

/-- The two hold the same registers and flags. -/
structure SameRegisters (pseudo286 : Bool) (s : CoreRegisters)
    (r : RegisterFile) : Prop where
  gprs : s.file.gprs = r.words
  flags : flagsOutOf pseudo286 s.flags = r.getFlagsOf pseudo286

/-- Every output of the core is what the emulator reads. -/
structure SameOutputs (pseudo286 : Bool) (i : Rtl.RegisterFile.Input)
    (s : CoreRegisters) (r : RegisterFile) : Prop where
  rdVal0 : s.file.rdVal0 = r.get (selected i.is8Bit i.rdSel0)
  rdVal1 : s.file.rdVal1 = r.get (selected i.is8Bit i.rdSel1)
  si : s.file.si = r.get .SI
  di : s.file.di = r.get .DI
  bp : s.file.bp = r.get .BP
  bx : s.file.bx = r.get .BX
  flags : flagsOutOf pseudo286 s.flags = r.getFlagsOf pseudo286

theorem words_update (pseudo286 : Bool) (c : RegisterCycle)
    {g : Rtl.Gprs} {r : RegisterFile} (h : g = r.words) :
    (r.update pseudo286 c).words = written c.file g := by
  have hflags : forall (q : RegisterFile) (v m : BitVec 16),
      (q.setFlagsOf pseudo286 v m).words = q.words := by
    intro q v m
    funext n
    rcases register_cases n with
      rfl | rfl | rfl | rfl | rfl | rfl | rfl | rfl <;> rfl
  unfold RegisterFile.update written
  rw [hflags, h]
  cases c.file.wrEn with
  | false =>
      rfl
  | true =>
      exact words_set r _ _ _

theorem sameRegisters_step {pseudo286 : Bool} {s : CoreRegisters}
    {r : RegisterFile} (h : SameRegisters pseudo286 s r) (c : RegisterCycle) :
    SameRegisters pseudo286 (s.step c) (r.update pseudo286 c) ∧
      SameOutputs pseudo286 c.file (s.step c) (r.update pseudo286 c) := by
  have hwords := words_update pseudo286 c h.gprs
  have hflags : flagsOutOf pseudo286 (s.step c).flags =
      (r.update pseudo286 c).getFlagsOf pseudo286 := by
    have hset : forall q : RegisterFile, q.flags = r.flags ->
        flagsOutOf pseudo286 s.flags = q.getFlagsOf pseudo286 := by
      intro q hq
      rw [h.flags, RegisterFile.getFlagsOf, RegisterFile.getFlagsOf, hq]
    apply flags_step (hset _ _)
    cases c.file.wrEn with
    | false =>
        rfl
    | true =>
        exact RegisterFile.flags_set _ _ _
  have hget : forall n : BitVec 3, written c.file s.file.gprs n =
      (r.update pseudo286 c).get (.word n) := by
    intro n
    rw [← hwords]
    rfl
  refine ⟨⟨hwords.symm, hflags⟩, ?_, ?_, ?_, ?_, ?_, ?_, hflags⟩
  · rw [get_selected, hwords]
    exact port_eq c.file s.file.gprs c.file.rdSel0
  · rw [get_selected, hwords]
    exact port_eq c.file s.file.gprs c.file.rdSel1
  · exact (copy_eq c.file s.file.gprs rfl).trans (hget 6#3)
  · exact (copy_eq c.file s.file.gprs rfl).trans (hget 7#3)
  · exact (copy_eq c.file s.file.gprs rfl).trans (hget 5#3)
  · exact (copyBx_eq c.file s.file.gprs).trans (hget 3#3)


/-- After a reset the flags agree; the general registers hold whatever they
held. -/
def CoreRegisters.AfterReset (s : CoreRegisters) : Prop :=
  s.flags =
    { C := false, P := false, A := false, Z := false, S := false, T := false
      I := false, D := false, O := false }

theorem sameRegisters_reset (pseudo286 : Bool) {s : CoreRegisters}
    {r : RegisterFile} (hs : s.AfterReset) (hgprs : s.file.gprs = r.words)
    (hr : r.flags = stuckBits pseudo286) : SameRegisters pseudo286 s r := by
  refine ⟨hgprs, ?_⟩
  rw [hs, RegisterFile.getFlagsOf, hr]
  cases pseudo286 <;> decide

theorem sameRegisters_trace {pseudo286 : Bool} {s : CoreRegisters}
    {r : RegisterFile} (h : SameRegisters pseudo286 s r)
    (cycles : Nat -> RegisterCycle) (n : Nat) :
    SameRegisters pseudo286 (trace CoreRegisters.step cycles s n)
      (trace (RegisterFile.update pseudo286) cycles r n) := by
  induction n with
  | zero =>
      exact h
  | succ n ih =>
      exact (sameRegisters_step ih (cycles n)).1

/-- In every run of writes, reads and flag updates from a reset, the core puts
out after each cycle what the emulator reads.  A byte register is half of a
word register, a write of it leaves the other half and all other registers
alone, and the bits of the flags word that are no flags keep their values. -/
theorem register_files_agree (pseudo286 : Bool) {s : CoreRegisters}
    {r : RegisterFile} (hs : s.AfterReset) (hgprs : s.file.gprs = r.words)
    (hr : r.flags = stuckBits pseudo286) (cycles : Nat -> RegisterCycle)
    (n : Nat) :
    let before := trace CoreRegisters.step cycles s n
    let after := trace CoreRegisters.step cycles s (n + 1)
    let emulated := trace (RegisterFile.update pseudo286) cycles r (n + 1)
    let i := (cycles n).file
    SameOutputs pseudo286 i after emulated ∧
      after.file.gprs = emulated.words ∧
      (forall b, emulated.get (.byte b) =
        if b.getLsbD 2 then emulated.words (wordOf b) >>> 8
        else emulated.words (wordOf b) &&& 0x00ff#16) ∧
      (i.wrEn = true -> i.is8Bit = true -> forall m,
        after.file.gprs m =
          if m = wordOf i.wrSel then
            if i.wrSel.getLsbD 2 then
              i.wrVal.extractLsb' 0 8 ++ (before.file.gprs m).extractLsb' 0 8
            else
              (before.file.gprs m).extractLsb' 8 8 ++ i.wrVal.extractLsb' 0 8
          else before.file.gprs m) ∧
      flagsOutOf pseudo286 after.flags &&& 0xf02a#16 = stuckBits pseudo286 := by
  intro before after emulated i
  have hbefore := sameRegisters_trace
    (sameRegisters_reset pseudo286 hs hgprs hr) cycles n
  obtain ⟨hafter, houtputs⟩ := sameRegisters_step hbefore (cycles n)
  refine ⟨houtputs, hafter.gprs, ?_, ?_, flagsOutOf_fixed pseudo286 _⟩
  · intro b
    rcases register_cases b with
      rfl | rfl | rfl | rfl | rfl | rfl | rfl | rfl <;> rfl
  · intro hen h8 m
    change (if i.wrEn then before.file.gprs.write i.is8Bit i.wrSel i.wrVal
      else before.file.gprs) m = _
    rw [hen, h8, if_pos rfl, write_byte, Rtl.Gprs.set]
    by_cases hm : m = wordOf i.wrSel
    · rw [if_pos hm, if_pos hm, hm]
    · rw [if_neg hm, if_neg hm]

/-- `BH` is written and read in one cycle, and `CF` set. -/
def writeBh : RegisterCycle :=
  { file :=
      { is8Bit := true, rdSel0 := 7#3, rdSel1 := 3#3, wrSel := 7#3
        wrVal := 0xff12#16, wrEn := true }
    updateFlags := [.CF]
    flagsIn := 0xffff#16
    mask := 0x0001#16
    mask_eq := by
      intro u
      cases u <;> rfl }

theorem register_files_agree_bh :
    exists s : CoreRegisters,
      s.file.rdVal0 = 0x12#16 ∧ s.file.bx = 0x1234#16 ∧
        s.flags.flagsOut = 0xf003#16 := by
  let start : RegisterFile := { RegisterFile.reset with bx := 0x1034#16 }
  let core : CoreRegisters :=
    { file :=
        { gprs := start.words, rdVal0 := 0#16, rdVal1 := 0#16, si := 0#16
          di := 0#16, bp := 0#16, bx := 0#16 }
      flags :=
        { C := false, P := false, A := false, Z := false, S := false
          T := false, I := false, D := false, O := false } }
  obtain ⟨hout, -⟩ :=
    register_files_agree false (s := core) (r := start) rfl rfl rfl
      (fun _ => writeBh) 0
  refine ⟨_, hout.rdVal0.trans ?_, hout.bx.trans ?_, hout.flags.trans ?_⟩
  · decide
  · decide
  · decide

end Sim
end S80x86
