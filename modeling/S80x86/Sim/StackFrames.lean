import Mathlib.Tactic.IntervalCases
import S80x86.Foundation.Bits
import S80x86.Sim.Emulate
import S80x86.Sim.Stack

/-!
# Stack frames

What `ENTER` and `PUSHA` push, whatever else they read from memory on the way,
`LEAVE` and `POPA` find again.
-/

open Foundation

namespace S80x86
namespace Sim

open Foundation.Effect

variable {W : Type}

/-!
## Several words
-/

namespace Memory

/-- The memory after several words are pushed, the first word first. -/
def pushWords (address : BitVec 16 -> Nat) :
    BitVec 16 -> List (BitVec 16) -> Memory -> Memory
  | _, [], m => m
  | sp, v :: rest, m =>
      pushWords address (sp - 2#16) rest
        (m.writeWord (address (sp - 2#16)) v)

end Memory

/-- The offset of a word below the top of the stack, the nearest one first. -/
def below (sp : BitVec 16) (k : Nat) : BitVec 16 :=
  sp - BitVec.ofNat 16 (2 * (k + 1))

theorem below_zero (sp : BitVec 16) : below sp 0 = sp - 2#16 := rfl

theorem below_succ (sp : BitVec 16) (k : Nat) :
    below (sp - 2#16) k = below sp (k + 1) := by
  unfold below
  rw [BitVec.sub_sub, BitVec.add_comm, Nat.mul_add 2 (k + 1) 1,
    BitVec.ofNat_add]

theorem sub_sub_two (sp : BitVec 16) (n : Nat) :
    sp - BitVec.ofNat 16 (2 * n) - 2#16 = below sp n := by
  unfold below
  rw [BitVec.sub_sub, Nat.mul_add, BitVec.ofNat_add]

theorem sub_two_sub (sp : BitVec 16) (n : Nat) :
    sp - 2#16 - BitVec.ofNat 16 (2 * n) =
      sp - BitVec.ofNat 16 (2 * (n + 1)) := by
  rw [BitVec.sub_sub, BitVec.add_comm, Nat.mul_add, BitVec.ofNat_add]

theorem stackAddress_congr {r r' : RegisterFile} (h : r'.ss = r.ss) :
    r'.stackAddress = r.stackAddress := by
  funext offset
  rw [stackAddress_eq, stackAddress_eq, h]

/-- The words pushed below the top of the stack do not wrap at the end of
memory. -/
def WordsFit (r : RegisterFile) (n : Nat) : Prop :=
  forall k, k < n -> r.stackAddress (below r.sp k) + 2 <= memorySize

instance (r : RegisterFile) (n : Nat) : Decidable (WordsFit r n) :=
  inferInstanceAs (Decidable (forall k, k < n -> _))

theorem apart_below (r : RegisterFile) {sp : BitVec 16} {j k : Nat}
    (hj : r.stackAddress (below sp j) + 2 <= memorySize)
    (hk : r.stackAddress (below sp k) + 2 <= memorySize) (hjk : j < k)
    (hsmall : 2 * (k + 1) + 2 <= 2 ^ 16) :
    Memory.Apart (r.stackAddress (below sp j))
      (r.stackAddress (below sp k)) :=
  stackAddress_apart r sp hj hk (by omega) hsmall

namespace Memory

variable {r : RegisterFile} {sp : BitVec 16}

/-- Pushing words leaves the words apart from them alone. -/
theorem word_pushWords_apart (vs : List (BitVec 16)) (m : Memory) {a : Nat}
    (hfits : forall k, k < vs.length ->
      r.stackAddress (below sp k) + 2 <= memorySize)
    (ha : a + 2 <= memorySize)
    (hapart : forall k, k < vs.length ->
      Apart (r.stackAddress (below sp k)) a) :
    (m.pushWords r.stackAddress sp vs).word a = m.word a := by
  induction vs generalizing sp m with
  | nil =>
      rfl
  | cons v rest ih =>
      simp only [List.length_cons] at hfits hapart
      have hrest : (pushWords r.stackAddress (sp - 2#16) rest
          (m.writeWord (r.stackAddress (sp - 2#16)) v)).word a =
            (m.writeWord (r.stackAddress (sp - 2#16)) v).word a := by
        apply ih
        · intro k hk
          rw [below_succ]
          exact hfits (k + 1) (by omega)
        · intro k hk
          rw [below_succ]
          exact hapart (k + 1) (by omega)
      rw [pushWords, hrest]
      exact word_writeWord_apart (hfits 0 (by omega)) ha
        (hapart 0 (by omega))

/-- Every pushed word is found at its place. -/
theorem word_pushWords (vs : List (BitVec 16)) (m : Memory)
    (hsmall : 2 * vs.length + 2 <= 2 ^ 16)
    (hfits : forall k, k < vs.length ->
      r.stackAddress (below sp k) + 2 <= memorySize)
    (k : Nat) (v : BitVec 16) (hv : vs[k]? = some v) :
    (m.pushWords r.stackAddress sp vs).word (r.stackAddress (below sp k)) =
      v := by
  induction vs generalizing sp m k with
  | nil =>
      cases hv
  | cons x rest ih =>
      simp only [List.length_cons] at hfits hsmall
      have hrest : forall j, j < rest.length ->
          r.stackAddress (below (sp - 2#16) j) + 2 <= memorySize := by
        intro j hj
        rw [below_succ]
        exact hfits (j + 1) (by omega)
      rw [pushWords]
      cases k with
      | zero =>
          cases hv
          have hkeep := word_pushWords_apart rest
            (m.writeWord (r.stackAddress (sp - 2#16)) v) hrest
            (hfits 0 (by omega)) (fun j hj => by
              rw [below_succ]
              exact (apart_below r (hfits 0 (by omega))
                (hfits (j + 1) (by omega)) (by omega) (by omega)).symm)
          rw [below_zero] at hkeep ⊢
          rw [hkeep]
          exact word_writeWord v (hfits 0 (by omega))
      | succ k =>
          rw [← below_succ]
          exact ih _ (by omega) hrest k hv

end Memory

theorem WordsFit.pushed {e : Emulator W} {n : Nat}
    (h : WordsFit e.registers (n + 1)) (v : BitVec 16) :
    WordsFit (e.pushed v).registers n := by
  intro k hk
  rw [Emulator.pushed_registers, RegisterFile.stackAddress_sp, below_succ]
  exact h (k + 1) (by omega)

namespace Emulator

/-- The state after several words are pushed. -/
def pushAll (vs : List (BitVec 16)) (e : Emulator W) : Emulator W :=
  vs.foldl (fun s v => s.pushed v) e

theorem pushAll_mem (vs : List (BitVec 16)) (e : Emulator W) :
    (e.pushAll vs).mem =
      e.mem.pushWords e.registers.stackAddress e.registers.sp vs := by
  induction vs generalizing e with
  | nil =>
      rfl
  | cons v rest ih =>
      exact ih (e.pushed v)

theorem pushAll_sp (vs : List (BitVec 16)) (e : Emulator W) :
    (e.pushAll vs).registers.sp =
      e.registers.sp - BitVec.ofNat 16 (2 * vs.length) := by
  induction vs generalizing e with
  | nil =>
      exact (BitVec.sub_zero e.registers.sp).symm
  | cons v rest ih =>
      exact (ih (e.pushed v)).trans (sub_two_sub e.registers.sp rest.length)

theorem pushAll_get (vs : List (BitVec 16)) (e : Emulator W) {r : GPR}
    (hr : r ≠ .SP) : (e.pushAll vs).registers.get r = e.registers.get r := by
  induction vs generalizing e with
  | nil =>
      rfl
  | cons v rest ih =>
      refine (ih (e.pushed v)).trans ?_
      rw [pushed_registers]
      cases r with
      | SP =>
          exact absurd rfl hr
      | _ =>
          rfl

theorem pushAll_concat (vs : List (BitVec 16)) (v : BitVec 16)
    (e : Emulator W) : (e.pushAll vs).pushed v = e.pushAll (vs ++ [v]) := by
  unfold pushAll
  rw [List.foldl_append]
  rfl

end Emulator

/-!
## Copies in memory
-/

namespace Memory

/-- Words are copied one after the other. -/
def copyWords : List (Nat × Nat) -> Memory -> Memory
  | [], m => m
  | p :: rest, m => copyWords rest (m.writeWord p.2 (m.word p.1))

theorem word_eq_iff {m m' : Memory} {a : Nat} :
    m.word a = m'.word a ↔
      m.mem (BitVec.ofNat 20 a) = m'.mem (BitVec.ofNat 20 a) ∧
        m.mem (BitVec.ofNat 20 (a + 1)) = m'.mem (BitVec.ofNat 20 (a + 1)) := by
  rw [word_append, word_append]
  constructor
  · intro h
    have hlow := congrArg (BitVec.extractLsb' 0 8) h
    have hhigh := congrArg (BitVec.extractLsb' 8 8) h
    rw [Bits.extractLsb'_low_append, Bits.extractLsb'_low_append] at hlow
    rw [Bits.extractLsb'_high_append, Bits.extractLsb'_high_append] at hhigh
    exact ⟨hlow, hhigh⟩
  · rintro ⟨hlow, hhigh⟩
    rw [hlow, hhigh]

/-- The bytes of a word. -/
def InWord (a : Nat) (y : BitVec 20) : Prop :=
  y = BitVec.ofNat 20 a ∨ y = BitVec.ofNat 20 (a + 1)

theorem writeWord_mem_in {m m' : Memory} {a : Nat} {v : BitVec 16}
    {y : BitVec 20} (h : InWord a y) :
    (m.writeWord a v).mem y = (m'.writeWord a v).mem y := by
  unfold writeWord write
  dsimp only
  split
  · rfl
  · next hhigh =>
      rw [if_pos (h.resolve_right hhigh), if_pos (h.resolve_right hhigh)]

theorem writeWord_mem_out {m : Memory} {a : Nat} {v : BitVec 16}
    {y : BitVec 20} (h : ¬ InWord a y) : (m.writeWord a v).mem y = m.mem y :=
  writeWord_mem (fun hlow => h (.inl hlow)) fun hhigh => h (.inr hhigh)

theorem Apart.not_inWord {a b : Nat} (ha : a + 2 ≤ memorySize)
    (hb : b + 2 ≤ memorySize) (h : Apart a b) {y : BitVec 20}
    (hy : InWord a y) : ¬ InWord b y := by
  unfold Apart at h
  unfold InWord at hy ⊢
  rintro (h' | h') <;> rcases hy with rfl | rfl <;>
    exact ofNat_ne (by omega) (by omega) (by omega) h'

theorem writeWord_comm {m : Memory} {a b : Nat} {v w : BitVec 16}
    (ha : a + 2 ≤ memorySize) (hb : b + 2 ≤ memorySize) (h : Apart a b) :
    (m.writeWord a v).writeWord b w = (m.writeWord b w).writeWord a v := by
  have hmem : ((m.writeWord a v).writeWord b w).mem =
      ((m.writeWord b w).writeWord a v).mem := by
    funext y
    by_cases hin : InWord a y
    · have hout := h.not_inWord ha hb hin
      rw [writeWord_mem_out hout]
      exact writeWord_mem_in hin
    · rw [writeWord_mem_out (a := a) hin]
      by_cases hin' : InWord b y
      · exact writeWord_mem_in hin'
      · rw [writeWord_mem_out hin', writeWord_mem_out hin',
          writeWord_mem_out hin]
  exact congrArg (fun f => ({ mem := f, written := true } : Memory)) hmem

/-- Whether a word is left alone by a write does not depend on what was written
apart from it. -/
theorem word_writeWord_iff {m : Memory} {a b x : Nat} {v w : BitVec 16}
    (ha : a + 2 ≤ memorySize) (hb : b + 2 ≤ memorySize) (h : Apart a b) :
    ((m.writeWord b w).writeWord a v).word x = (m.writeWord b w).word x ↔
      (m.writeWord a v).word x = m.word x := by
  have hbyte (y : BitVec 20) :
      ((m.writeWord b w).writeWord a v).mem y = (m.writeWord b w).mem y ↔
        (m.writeWord a v).mem y = m.mem y := by
    by_cases hin : InWord a y
    · rw [@writeWord_mem_in _ m _ _ _ hin,
        writeWord_mem_out (h.not_inWord ha hb hin)]
    · rw [writeWord_mem_out hin, writeWord_mem_out hin]
      exact iff_of_true rfl rfl
  rw [word_eq_iff, word_eq_iff, hbyte, hbyte]

/-- The copies go to places apart from each other and from an address. -/
structure GoApart (a : Nat) (ps : List (Nat × Nat)) : Prop where
  fits : forall p, p ∈ ps -> p.2 + 2 ≤ memorySize
  apart : forall p, p ∈ ps -> Apart a p.2
  pairwise : ps.Pairwise fun p q => Apart p.2 q.2

theorem GoApart.tail {a : Nat} {p : Nat × Nat} {ps : List (Nat × Nat)}
    (h : GoApart a (p :: ps)) : GoApart a ps where
  fits q hq := h.fits q (List.mem_cons_of_mem p hq)
  apart q hq := h.apart q (List.mem_cons_of_mem p hq)
  pairwise := (List.pairwise_cons.mp h.pairwise).2

/-- The first place is apart from the others. -/
theorem GoApart.head {a : Nat} {p : Nat × Nat} {ps : List (Nat × Nat)}
    (h : GoApart a (p :: ps)) : GoApart p.2 ps where
  fits q hq := h.fits q (List.mem_cons_of_mem p hq)
  apart := (List.pairwise_cons.mp h.pairwise).1
  pairwise := (List.pairwise_cons.mp h.pairwise).2

theorem word_copyWords {a : Nat} (ha : a + 2 ≤ memorySize)
    {ps : List (Nat × Nat)} (m : Memory) (h : GoApart a ps) :
    (m.copyWords ps).word a = m.word a := by
  induction ps generalizing m with
  | nil =>
      rfl
  | cons p ps ih =>
      have hp := List.mem_cons_self (a := p) (l := ps)
      rw [copyWords, ih _ h.tail]
      exact word_writeWord_apart (h.fits p hp) ha (h.apart p hp).symm

/-- A word can be written before the copies as well as after them just when no
copy reads another value because of it. -/
theorem copyWords_writeWord_iff {a : Nat} {v : BitVec 16}
    (ha : a + 2 ≤ memorySize) {ps : List (Nat × Nat)} (m : Memory)
    (h : GoApart a ps) :
    ((m.writeWord a v).copyWords ps).mem =
        ((m.copyWords ps).writeWord a v).mem ↔
      forall p, p ∈ ps -> (m.writeWord a v).word p.1 = m.word p.1 := by
  induction ps generalizing m with
  | nil =>
      exact iff_of_true rfl fun p hp => absurd hp (List.not_mem_nil)
  | cons p ps ih =>
      have hmem := List.mem_cons_self (a := p) (l := ps)
      have hp := h.fits p hmem
      have hapart := h.apart p hmem
      rw [List.forall_mem_cons, copyWords, copyWords]
      by_cases hread : (m.writeWord a v).word p.1 = m.word p.1
      · rw [and_iff_right hread, hread, writeWord_comm ha hp hapart,
          ih _ h.tail]
        have hiff (q : Nat × Nat) :=
          word_writeWord_iff (m := m) (v := v) (w := m.word p.1) (x := q.1)
            ha hp hapart
        simp only [hiff]
      · refine iff_of_false ?_ fun hall => hread hall.1
        intro heq
        apply hread
        have hword : (((m.writeWord a v).writeWord p.2
            ((m.writeWord a v).word p.1)).copyWords ps).word p.2 =
              (((m.writeWord p.2 (m.word p.1)).copyWords ps).writeWord a
                v).word p.2 :=
          word_eq_iff.mpr ⟨congrFun heq _, congrFun heq _⟩
        rw [word_copyWords hp _ h.head, word_writeWord _ hp,
          word_writeWord_apart ha hp hapart, word_copyWords hp _ h.head,
          word_writeWord _ hp] at hword
        exact hword

end Memory

/-!
## Frames of `ENTER`
-/

/-- The words that `ENTER` reads and pushes do not wrap at the end of memory. -/
structure EnterFits (r : RegisterFile) (nest : Nat) : Prop where
  frame : WordsFit r (nest + 1)
  display : forall i, i + 1 < nest ->
    r.stackAddress (below r.bp i) + 2 <= memorySize

/-- The words of the display and the places of their copies. -/
def displayCopies (address : BitVec 16 -> Nat) :
    Nat -> BitVec 16 -> BitVec 16 -> List (Nat × Nat)
  | 0, _, _ => []
  | n + 1, bp, sp =>
      (address (bp - 2#16), address (sp - 2#16)) ::
        displayCopies address n (bp - 2#16) (sp - 2#16)

theorem mem_displayCopies {address : BitVec 16 -> Nat} {n : Nat}
    {bp sp : BitVec 16} {p : Nat × Nat} :
    p ∈ displayCopies address n bp sp ↔
      exists i, i < n ∧ p = (address (below bp i), address (below sp i)) := by
  induction n generalizing bp sp with
  | zero =>
      simp [displayCopies]
  | succ n ih =>
      rw [displayCopies, List.mem_cons, ih]
      simp only [below_succ]
      constructor
      · rintro (h | ⟨i, hi, h⟩)
        · exact ⟨0, Nat.succ_pos n, h⟩
        · exact ⟨i + 1, Nat.succ_lt_succ hi, h⟩
      · rintro ⟨i, hi, h⟩
        cases i with
        | zero =>
            exact .inl h
        | succ i =>
            exact .inr ⟨i, Nat.lt_of_succ_lt_succ hi, h⟩

/-- What holds of every word of the display. -/
theorem forall_displayCopies {address : BitVec 16 -> Nat} {n : Nat}
    {bp sp : BitVec 16} {P : Nat -> Prop} :
    (forall p, p ∈ displayCopies address n bp sp -> P p.1) ↔
      forall i, i < n -> P (address (below bp i)) := by
  constructor
  · intro h i hi
    exact h _ (mem_displayCopies.mpr ⟨i, hi, rfl⟩)
  · intro h p hp
    obtain ⟨i, hi, rfl⟩ := mem_displayCopies.mp hp
    exact h i hi

theorem pairwise_displayCopies {r : RegisterFile} {n : Nat}
    {bp sp : BitVec 16} (hn : n < 32)
    (hfits : forall k, k < n ->
      r.stackAddress (below sp k) + 2 <= memorySize) :
    (displayCopies r.stackAddress n bp sp).Pairwise fun p q =>
      Memory.Apart p.2 q.2 := by
  induction n generalizing bp sp with
  | zero =>
      exact List.Pairwise.nil
  | succ n ih =>
      have htail : forall k, k < n ->
          r.stackAddress (below (sp - 2#16) k) + 2 <= memorySize := by
        intro k hk
        rw [below_succ]
        exact hfits (k + 1) (by omega)
      refine List.pairwise_cons.mpr ⟨?_, ih (Nat.lt_of_succ_lt hn) htail⟩
      intro q hq
      obtain ⟨i, hi, rfl⟩ := mem_displayCopies.mp hq
      have hapart : Memory.Apart (r.stackAddress (below sp 0))
          (r.stackAddress (below sp (i + 1))) :=
        apart_below r (hfits 0 (by omega)) (hfits (i + 1) (by omega))
          (by omega) (by omega)
      rw [← below_succ] at hapart
      exact hapart

theorem goApart_displayCopies {r : RegisterFile} {n : Nat} {bp sp : BitVec 16}
    (hn : n < 32)
    (hfits : forall k, k < n -> r.stackAddress (below sp k) + 2 <= memorySize)
    {a : Nat} (hapart : forall k, k < n ->
      Memory.Apart a (r.stackAddress (below sp k))) :
    Memory.GoApart a (displayCopies r.stackAddress n bp sp) := by
  constructor
  · intro p hp
    obtain ⟨i, hi, rfl⟩ := mem_displayCopies.mp hp
    exact hfits i hi
  · intro p hp
    obtain ⟨i, hi, rfl⟩ := mem_displayCopies.mp hp
    exact hapart i hi
  · exact pairwise_displayCopies hn hfits

namespace Emulator

/-- The nesting level of the `ENTER` whose operands come next. -/
def nest (e : Emulator W) : Nat :=
  (e.codeByte (e.instrLength + 2) &&& 0x1f#8).toNat

/-- The memory with the display copied below the saved `BP`. -/
def displayedMem (e : Emulator W) : Memory :=
  let r := e.registers
  let top := r.sp - 2#16
  (e.mem.writeWord (r.stackAddress top) r.bp).copyWords
    (displayCopies r.stackAddress (e.nest - 1) r.bp top)

/-- The memory after `ENTER`. -/
def enteredMem (e : Emulator W) : Memory :=
  let r := e.registers
  if e.nest = 0 then e.displayedMem
  else e.displayedMem.writeWord (r.stackAddress (below r.sp e.nest))
    (r.sp - 2#16)

end Emulator

section Returns

variable {env : Environment W} (henv : env.addressing = Addressing.emulator)
include henv

theorem enterLoop_returns (n : Nat) (e : Emulator W)
    (hframe : WordsFit e.registers n)
    (hdisplay : forall i, i < n ->
      e.registers.stackAddress (below e.registers.bp i) + 2 <= memorySize) :
    exists s, Returns (enterLoop n) env e () s ∧
      s.registers.ss = e.registers.ss ∧
      s.registers.sp = e.registers.sp - BitVec.ofNat 16 (2 * n) ∧
      s.mem = e.mem.copyWords (displayCopies e.registers.stackAddress n
        e.registers.bp e.registers.sp) := by
  induction n generalizing e with
  | zero =>
      exact ⟨e, rfl, rfl, (BitVec.sub_zero e.registers.sp).symm, rfl⟩
  | succ n ih =>
      let inner : Emulator W :=
        { e with registers := e.registers.set .BP (e.registers.bp - 2#16) }
      let v := inner.mem.word
        (inner.registers.stackAddress inner.registers.bp)
      have hinner : WordsFit inner.registers (n + 1) := hframe
      obtain ⟨s, hrun, hss, hsp, hmem⟩ :=
        ih (inner.pushed v) (hinner.pushed v) (fun i hi => by
          show e.registers.stackAddress (below (e.registers.bp - 2#16) i) + 2
            <= memorySize
          rw [below_succ]
          exact hdisplay (i + 1) (by omega))
      refine ⟨s, ?_, hss, ?_, hmem⟩
      · refine returns_bind.mpr ⟨_, _, rfl, ?_⟩
        refine returns_bind.mpr ⟨(), inner, rfl, ?_⟩
        refine returns_bind.mpr ⟨_, _, rfl, ?_⟩
        refine returns_bind.mpr ⟨_, _, rfl, ?_⟩
        refine returns_bind.mpr
          ⟨v, inner, read16_returns henv inner (hdisplay 0 (by omega)), ?_⟩
        refine returns_bind.mpr
          ⟨_, _, pushWord_returns henv inner v (hframe 0 (by omega)), ?_⟩
        exact hrun
      · rw [hsp]
        exact sub_two_sub e.registers.sp n

/-- The frame pointer is pushed last, at every level but zero. -/
theorem enterLast_returns {nest : Nat} (s : Emulator W) (v : BitVec 16)
    (hfits : nest ≠ 0 ->
      s.registers.stackAddress (s.registers.sp - 2#16) + 2 <= memorySize) :
    Returns (if nest ≠ 0 then pushWord v else pure ()) env s ()
      (if nest = 0 then s else s.pushed v) := by
  by_cases hzero : nest = 0
  · rw [if_pos hzero, if_neg (not_not_intro hzero)]
    rfl
  · rw [if_neg hzero, if_pos hzero]
    exact pushWord_returns henv s v (hfits hzero)

omit henv in
theorem nest_lt (e : Emulator W) : e.nest < 32 := by
  have hmask : (e.codeByte (e.instrLength + 2) &&& 0x1f#8).toNat ≤ 0x1f := by
    rw [BitVec.toNat_and]
    exact Nat.and_le_right
  exact Nat.lt_succ_of_le hmask

/-- `ENTER` saves `BP`, copies the display, and pushes the pointer to the saved
`BP` below it. -/
theorem enterc8_frame (e : Emulator W)
    (hfits : EnterFits e.registers e.nest) :
    exists s, Returns enterc8 env e () s ∧
      s.registers.ss = e.registers.ss ∧
      s.registers.bp = e.registers.sp - 2#16 ∧
      s.registers.sp = e.registers.sp - 2#16 - BitVec.ofNat 16 (2 * e.nest) -
        e.codeWord e.instrLength ∧
      s.mem = e.enteredMem := by
  have hlinear : env.addressing.LinearBytes := by
    rw [henv]
    exact Addressing.linearBytes_emulator
  have hframe := hfits.frame
  let fetched : Emulator W := { e with instrLength := e.instrLength + 3 }
  let saved := fetched.pushed e.registers.bp
  have hsaved : WordsFit saved.registers e.nest :=
    WordsFit.pushed (e := fetched) hframe e.registers.bp
  obtain ⟨s, hloop, hss, hsp, hmem⟩ :=
    enterLoop_returns henv (e.nest - 1) saved
      (fun k hk => hsaved k (by omega))
      (fun i hi => hfits.display i (by omega))
  have haddress : s.registers.stackAddress = e.registers.stackAddress :=
    stackAddress_congr hss
  have hsub : e.nest ≠ 0 -> s.registers.sp - 2#16 =
      below e.registers.sp e.nest := by
    intro hzero
    rw [hsp, sub_sub_two]
    show below (e.registers.sp - 2#16) (e.nest - 1) = _
    rw [below_succ, Nat.sub_add_cancel (Nat.pos_of_ne_zero hzero)]
  have hlast := @enterLast_returns W env henv e.nest s saved.registers.sp
    (fun hzero => by
      rw [haddress, hsub hzero]
      exact hframe e.nest (by omega))
  generalize ht : (if e.nest = 0 then s else s.pushed saved.registers.sp) = t
    at hlast
  refine ⟨{ t with
    registers :=
      (t.registers.set .BP saved.registers.sp).set .SP
        (t.registers.sp - e.codeWord e.instrLength) }, ?_, ?_, rfl, ?_, ?_⟩
  · refine returns_bind.mpr ⟨_, _, fetch16bit_returns hlinear e, ?_⟩
    refine returns_bind.mpr ⟨_, _, fetchByte_returns hlinear _, ?_⟩
    refine returns_bind.mpr ⟨(), saved, ?_, ?_⟩
    · refine returns_bind.mpr ⟨_, _, rfl, ?_⟩
      exact pushWord_returns henv fetched _ (hframe 0 (by omega))
    refine returns_bind.mpr ⟨_, _, rfl, ?_⟩
    refine returns_bind.mpr ⟨_, _, hloop, ?_⟩
    refine returns_bind.mpr ⟨_, _, hlast, ?_⟩
    rfl
  · rw [← ht]
    split <;> exact hss
  · show t.registers.sp - _ = _
    congr 1
    rw [← ht]
    split
    · next hzero =>
        rw [hsp, hzero]
        rfl
    · next hzero =>
        show s.registers.sp - 2#16 = _
        rw [hsub hzero]
        unfold below
        rw [BitVec.sub_sub, Nat.mul_succ, Nat.add_comm, BitVec.ofNat_add]
  · show t.mem = _
    unfold Emulator.enteredMem
    rw [← ht]
    split
    · exact hmem
    · next hzero =>
        show s.mem.writeWord (s.registers.stackAddress _) _ = _
        rw [hsub hzero, haddress, hmem]
        rfl

/-- `ENTER` leaves `BP` at the word that holds the old one. -/
theorem enterc8_returns (e : Emulator W)
    (hfits : EnterFits e.registers e.nest) :
    exists s, Returns enterc8 env e () s ∧
      s.registers.ss = e.registers.ss ∧
      s.registers.bp = e.registers.sp - 2#16 ∧
      s.mem.word (e.registers.stackAddress (e.registers.sp - 2#16)) =
        e.registers.bp := by
  obtain ⟨s, hrun, hss, hbp, -, hmem⟩ := enterc8_frame henv e hfits
  refine ⟨s, hrun, hss, hbp, ?_⟩
  have hfirst := hfits.frame 0 (by omega)
  have hnest := nest_lt e
  have hapart : forall k, k < e.nest ->
      Memory.Apart (e.registers.stackAddress (below e.registers.sp 0))
        (e.registers.stackAddress (below e.registers.sp (k + 1))) := by
    intro k hk
    exact apart_below e.registers hfirst (hfits.frame (k + 1) (by omega))
      (by omega) (by omega)
  have hplaces : Memory.GoApart
      (e.registers.stackAddress (below e.registers.sp 0))
      (displayCopies e.registers.stackAddress (e.nest - 1) e.registers.bp
        (e.registers.sp - 2#16)) := by
    apply goApart_displayCopies (by omega)
    · intro k hk
      rw [below_succ]
      exact hfits.frame (k + 1) (by omega)
    · intro k hk
      rw [below_succ]
      exact hapart k (by omega)
  have hdisplayed : e.displayedMem.word
      (e.registers.stackAddress (below e.registers.sp 0)) =
        e.registers.bp := by
    unfold Emulator.displayedMem
    dsimp only
    rw [Memory.word_copyWords hfirst _ hplaces]
    exact Memory.word_writeWord e.registers.bp hfirst
  rw [hmem, ← below_zero]
  unfold Emulator.enteredMem
  dsimp only
  split
  · exact hdisplayed
  · next hzero =>
      have hlast := hapart (e.nest - 1) (by omega)
      rw [Nat.sub_add_cancel (Nat.pos_of_ne_zero hzero)] at hlast
      rw [Memory.word_writeWord_apart (hfits.frame e.nest (by omega)) hfirst
        hlast.symm]
      exact hdisplayed

theorem leavec9_returns (e : Emulator W)
    (hfits : e.registers.stackAddress e.registers.bp + 2 <= memorySize) :
    exists s, Returns leavec9 env e () s ∧
      s.registers.sp = e.registers.bp + 2#16 ∧
      s.registers.bp =
        e.mem.word (e.registers.stackAddress e.registers.bp) := by
  let top : Emulator W :=
    { e with registers := e.registers.set .SP e.registers.bp }
  refine ⟨{ top.popped with
    registers := top.popped.registers.set .BP top.top }, ?_, rfl, rfl⟩
  refine returns_bind.mpr ⟨_, _, rfl, ?_⟩
  refine returns_bind.mpr ⟨(), top, rfl, ?_⟩
  refine returns_bind.mpr ⟨_, _, popWord_returns henv top hfits, ?_⟩
  rfl

end Returns

/-!
## All general registers
-/

/-- The words of `PUSHA` in the order they are pushed. -/
def RegisterFile.general (r : RegisterFile) : List (BitVec 16) :=
  [r.ax, r.cx, r.dx, r.bx, r.sp, r.bp, r.si, r.di]

section Returns

variable {env : Environment W} (henv : env.addressing = Addressing.emulator)
include henv

/-- One more word on top of those pushed so far. -/
theorem pushWord_next {e : Emulator W} (hfits : WordsFit e.registers 8)
    (vs : List (BitVec 16)) (v : BitVec 16) (hlen : vs.length < 8) :
    Returns (pushWord v) env (e.pushAll vs) () (e.pushAll (vs ++ [v])) := by
  rw [← Emulator.pushAll_concat]
  apply pushWord_returns henv
  have hss : (e.pushAll vs).registers.ss = e.registers.ss :=
    e.pushAll_get vs (r := .SS) (by decide)
  rw [stackAddress_congr hss, Emulator.pushAll_sp, sub_sub_two]
  exact hfits vs.length hlen

theorem pushReg_next {e : Emulator W} (hfits : WordsFit e.registers 8)
    (vs : List (BitVec 16)) (r : GPR) (hr : r ≠ .SP) (hlen : vs.length < 8) :
    Returns (pushReg r) env (e.pushAll vs) ()
      (e.pushAll (vs ++ [e.registers.get r])) := by
  refine returns_bind.mpr ⟨e.registers.get r, e.pushAll vs, ?_, ?_⟩
  · rw [← e.pushAll_get vs hr]
    rfl
  · exact pushWord_next henv hfits vs _ hlen

theorem pusha60_returns (e : Emulator W) (hfits : WordsFit e.registers 8) :
    Returns pusha60 env e () (e.pushAll e.registers.general) := by
  have next := fun vs r hr hlen => pushReg_next henv hfits vs r hr hlen
  refine returns_bind.mpr ⟨e.registers.sp, e.pushAll [], rfl, ?_⟩
  refine returns_bind.mpr ⟨_, _, next [] .AX (by decide) (by decide), ?_⟩
  refine returns_bind.mpr ⟨_, _, next [_] .CX (by decide) (by simp), ?_⟩
  refine returns_bind.mpr ⟨_, _, next [_, _] .DX (by decide) (by simp), ?_⟩
  refine returns_bind.mpr
    ⟨_, _, next [_, _, _] .BX (by decide) (by simp), ?_⟩
  refine returns_bind.mpr
    ⟨_, _, pushWord_next henv hfits [_, _, _, _] _ (by simp), ?_⟩
  refine returns_bind.mpr
    ⟨_, _, next [_, _, _, _, _] .BP (by decide) (by simp), ?_⟩
  refine returns_bind.mpr
    ⟨_, _, next [_, _, _, _, _, _] .SI (by decide) (by simp), ?_⟩
  exact next [_, _, _, _, _, _, _] .DI (by decide) (by simp)

end Returns

/-- The offset of a word from the top of the stack on. -/
def above (sp : BitVec 16) (k : Nat) : BitVec 16 :=
  sp + BitVec.ofNat 16 (2 * k)

theorem above_zero (sp : BitVec 16) : above sp 0 = sp := BitVec.add_zero sp

theorem above_add_two (sp : BitVec 16) (k : Nat) :
    above sp k + 2#16 = above sp (k + 1) := by
  unfold above
  rw [BitVec.add_assoc, Nat.mul_add, BitVec.ofNat_add]

/-- Below the lowest word that is pushed lie those pushed before it. -/
theorem above_below (sp : BitVec 16) {j k : Nat} (h : j ≤ k) :
    above (below sp k) j = below sp (k - j) := by
  unfold above below
  have hsplit : BitVec.ofNat 16 (2 * (k + 1)) =
      BitVec.ofNat 16 (2 * (k - j + 1)) + BitVec.ofNat 16 (2 * j) := by
    rw [← BitVec.ofNat_add]
    congr 1
    omega
  rw [hsplit, ← BitVec.sub_sub, BitVec.sub_add_cancel]

namespace Emulator

def wordAbove (e : Emulator W) (k : Nat) : BitVec 16 :=
  e.mem.word (e.registers.stackAddress (above e.registers.sp k))

/-- The words popped do not wrap at the end of memory. -/
def PopsFit (e : Emulator W) : Prop :=
  forall k, k < 8 ->
    e.registers.stackAddress (above e.registers.sp k) + 2 <= memorySize

end Emulator

/-- The registers after some words are popped, with what the general registers
hold by then. -/
structure Popping (e : Emulator W) (k : Nat) (r : RegisterFile)
    (general : List (BitVec 16)) : Prop where
  ss : r.ss = e.registers.ss
  sp : r.sp = above e.registers.sp k
  general : r.general = general

/-- A general register other than `SP`, and its place in the list. -/
structure Placed (x : GPR) (i : Nat) : Prop where
  ss : forall r v, (RegisterFile.set r x v).ss = r.ss
  sp : forall r v, (RegisterFile.set r x v).sp = r.sp
  general : forall r v,
    (RegisterFile.set r x v).general = r.general.set i v

theorem placed (n : BitVec 3) (hn : n ≠ 4#3) :
    Placed (.word n) n.toNat := by
  obtain ⟨⟨i, hi⟩⟩ := n
  interval_cases i
  all_goals first
    | exact absurd rfl hn
    | exact ⟨fun _ _ => rfl, fun _ _ => rfl, fun _ _ => rfl⟩

section Returns

variable {env : Environment W} (henv : env.addressing = Addressing.emulator)
include henv

theorem popWord_next {e : Emulator W} (hfits : e.PopsFit) {k : Nat}
    (hk : k < 8) {r : RegisterFile} {general : List (BitVec 16)}
    (h : Popping e k r general) :
    exists r', Returns popWord env { e with registers := r } (e.wordAbove k)
        { e with registers := r' } ∧
      Popping e (k + 1) r' (general.set 4 (above e.registers.sp (k + 1))) := by
  have hreturns := popWord_returns henv { e with registers := r } (by
    simp only [stackAddress_congr h.ss, h.sp]
    exact hfits k hk)
  simp only [Emulator.top, Emulator.popped, stackAddress_congr h.ss, h.sp,
    above_add_two] at hreturns
  refine ⟨_, hreturns, h.ss, rfl, ?_⟩
  rw [← h.general]
  rfl

theorem popReg_next {e : Emulator W} (hfits : e.PopsFit) {k : Nat}
    (hk : k < 8) {r : RegisterFile} {general : List (BitVec 16)}
    (h : Popping e k r general) {x : GPR} {i : Nat} (hx : Placed x i) :
    exists r', Returns (popReg x) env { e with registers := r } ()
        { e with registers := r' } ∧
      Popping e (k + 1) r'
        ((general.set 4 (above e.registers.sp (k + 1))).set i
          (e.wordAbove k)) := by
  obtain ⟨r', hpop, hnext⟩ := popWord_next henv hfits hk h
  refine ⟨r'.set x (e.wordAbove k), ?_, ?_, ?_, ?_⟩
  · exact returns_bind.mpr ⟨_, _, hpop, rfl⟩
  · rw [hx.ss, hnext.ss]
  · rw [hx.sp, hnext.sp]
  · rw [hx.general, hnext.general]

/-- `POPA` finds every register at its place and skips the stack pointer. -/
theorem popa61_returns (e : Emulator W) (hfits : e.PopsFit) :
    exists r, Returns popa61 env e () { e with registers := r } ∧
      r.general =
        [e.wordAbove 7, e.wordAbove 6, e.wordAbove 5, e.wordAbove 4,
          above e.registers.sp 8, e.wordAbove 2, e.wordAbove 1,
          e.wordAbove 0] := by
  have h0 : Popping e 0 e.registers e.registers.general :=
    ⟨rfl, (above_zero e.registers.sp).symm, rfl⟩
  obtain ⟨r1, hDi, h1⟩ := popReg_next henv hfits (by decide) h0
    (placed 7#3 (by decide))
  obtain ⟨r2, hSi, h2⟩ := popReg_next henv hfits (by decide) h1
    (placed 6#3 (by decide))
  obtain ⟨r3, hBp, h3⟩ := popReg_next henv hfits (by decide) h2
    (placed 5#3 (by decide))
  obtain ⟨r4, hSp, h4⟩ := popWord_next henv hfits (by decide) h3
  obtain ⟨r5, hBx, h5⟩ := popReg_next henv hfits (by decide) h4
    (placed 3#3 (by decide))
  obtain ⟨r6, hDx, h6⟩ := popReg_next henv hfits (by decide) h5
    (placed 2#3 (by decide))
  obtain ⟨r7, hCx, h7⟩ := popReg_next henv hfits (by decide) h6
    (placed 1#3 (by decide))
  obtain ⟨r8, hAx, h8⟩ := popReg_next henv hfits (by decide) h7
    (placed 0#3 (by decide))
  have hgeneral := h8.general
  simp only [RegisterFile.general, BitVec.toNat_ofNat, Nat.reducePow,
    Nat.reduceMod, Nat.reduceAdd, List.set_cons_zero,
    List.set_cons_succ] at hgeneral
  refine ⟨r8, ?_, hgeneral⟩
  refine returns_bind.mpr ⟨_, _, hDi, ?_⟩
  refine returns_bind.mpr ⟨_, _, hSi, ?_⟩
  refine returns_bind.mpr ⟨_, _, hBp, ?_⟩
  refine returns_bind.mpr ⟨_, _, hSp, ?_⟩
  refine returns_bind.mpr ⟨_, _, hBx, ?_⟩
  refine returns_bind.mpr ⟨_, _, hDx, ?_⟩
  exact returns_bind.mpr ⟨_, _, hCx, hAx⟩

end Returns

/-!
## Round trips
-/

instance (r : RegisterFile) (nest : Nat) : Decidable (EnterFits r nest) :=
  decidable_of_iff
    (WordsFit r (nest + 1) ∧ forall i, i < nest - 1 ->
      r.stackAddress (below r.bp i) + 2 <= memorySize)
    ⟨fun h => ⟨h.1, fun i hi => h.2 i (by omega)⟩,
      fun h => ⟨h.frame, fun i hi => h.display i (by omega)⟩⟩

/--
`LEAVE` undoes `ENTER` at every size and level, and `POPA` undoes `PUSHA`,
whatever happens in between to anything but the words they find again and the
registers that point at them.
-/
theorem stack_frames_restore {env : Environment W}
    (henv : env.addressing = Addressing.emulator) (e : Emulator W) :
    (EnterFits e.registers e.nest ->
      exists s, Returns (execute 0xc8#8) env e () s ∧
        forall t : Emulator W,
          t.registers.bp = s.registers.bp ->
          t.registers.ss = s.registers.ss ->
          t.mem.word (s.registers.stackAddress s.registers.bp) =
            s.mem.word (s.registers.stackAddress s.registers.bp) ->
          exists u, Returns (execute 0xc9#8) env t () u ∧
            u.registers.bp = e.registers.bp ∧
            u.registers.sp = e.registers.sp) ∧
    (WordsFit e.registers 8 ->
      exists s, Returns (execute 0x60#8) env e () s ∧
        forall t : Emulator W,
          t.registers.sp = s.registers.sp ->
          t.registers.ss = s.registers.ss ->
          (forall k, k < 8 ->
            t.mem.word (e.registers.stackAddress (below e.registers.sp k)) =
              s.mem.word
                (e.registers.stackAddress (below e.registers.sp k))) ->
          exists u, Returns (execute 0x61#8) env t () u ∧
            u.registers.general = e.registers.general) := by
  have henter : execute (W := W) 0xc8#8 = enterc8 := rfl
  have hleave : execute (W := W) 0xc9#8 = leavec9 := rfl
  have hpusha : execute (W := W) 0x60#8 = pusha60 := rfl
  have hpopa : execute (W := W) 0x61#8 = popa61 := rfl
  rw [henter, hleave, hpusha, hpopa]
  constructor
  · intro hfits
    obtain ⟨s, hrun, hss, hbp, hword⟩ := enterc8_returns henv e hfits
    refine ⟨s, hrun, ?_⟩
    intro t htbp htss hkeep
    have haddress : t.registers.stackAddress = e.registers.stackAddress :=
      stackAddress_congr (htss.trans hss)
    rw [stackAddress_congr hss, hbp, hword] at hkeep
    obtain ⟨u, hback, husp, hubp⟩ := leavec9_returns henv t (by
      rw [haddress, htbp, hbp]
      exact hfits.frame 0 (by omega))
    refine ⟨u, hback, ?_, ?_⟩
    · rw [hubp, haddress, htbp, hbp, hkeep]
    · rw [husp, htbp, hbp, BitVec.sub_add_cancel]
  · intro hfits
    refine ⟨_, pusha60_returns henv e hfits, ?_⟩
    intro t htsp htss hkeep
    have haddress : t.registers.stackAddress = e.registers.stackAddress :=
      stackAddress_congr
        (htss.trans (e.pushAll_get e.registers.general (r := .SS) (by decide)))
    have hsp : t.registers.sp = below e.registers.sp 7 :=
      htsp.trans (e.pushAll_sp e.registers.general)
    have hword : forall k v, k < 8 -> e.registers.general[7 - k]? = some v ->
        t.wordAbove k = v := by
      intro k v hk hv
      unfold Emulator.wordAbove
      rw [haddress, hsp, above_below _ (by omega), hkeep (7 - k) (by omega),
        Emulator.pushAll_mem]
      have hsmall : 2 * e.registers.general.length + 2 <= 2 ^ 16 := by
        show 2 * 8 + 2 <= 2 ^ 16
        decide
      exact Memory.word_pushWords e.registers.general e.mem hsmall hfits
        (7 - k) v hv
    obtain ⟨r, hback, hgeneral⟩ := popa61_returns henv t (by
      intro k hk
      rw [haddress, hsp, above_below _ (by omega)]
      exact hfits (7 - k) (by omega))
    refine ⟨_, hback, ?_⟩
    have hback : above t.registers.sp 8 = e.registers.sp := by
      rw [hsp]
      exact BitVec.sub_add_cancel e.registers.sp _
    show r.general = _
    rw [hgeneral, hword 7 _ (by decide) rfl, hword 6 _ (by decide) rfl,
      hword 5 _ (by decide) rfl, hword 4 _ (by decide) rfl, hback,
      hword 2 _ (by decide) rfl, hword 1 _ (by decide) rfl,
      hword 0 _ (by decide) rfl]
    rfl

/-- A state before `ENTER 10h, 3`, whose display overlaps the new frame. -/
def beforeEnter : Emulator Unit :=
  { (Emulator.fresh () fun a =>
      if a = 0#20 then 0x10#8 else if a = 2#20 then 3#8 else 0#8 :
        Emulator Unit) with
    registers :=
      { RegisterFile.reset with ss := 0x1000#16, sp := 2#16, bp := 2#16 } }

/-- The frame wraps around the stack segment. -/
theorem stack_frames_restore_nested :
    beforeEnter.nest = 3 ∧
      (exists s u, Returns (execute 0xc8#8) Environment.bare beforeEnter () s ∧
        Returns (execute 0xc9#8) Environment.bare s () u ∧
        u.registers.bp = 2#16 ∧ u.registers.sp = 2#16) ∧
      exists s u, Returns (execute 0x60#8) Environment.bare beforeEnter () s ∧
        Returns (execute 0x61#8) Environment.bare s () u ∧
        u.registers.general = beforeEnter.registers.general := by
  obtain ⟨henter, hpusha⟩ :=
    @stack_frames_restore Unit Environment.bare rfl beforeEnter
  obtain ⟨s, hrun, hback⟩ := henter (by decide)
  obtain ⟨u, hleave, hbp, hsp⟩ := hback s rfl rfl rfl
  obtain ⟨s', hrun', hback'⟩ := hpusha (by decide)
  obtain ⟨u', hpopa, hgeneral⟩ := hback' s' rfl rfl (fun _ _ => rfl)
  exact ⟨by decide, ⟨s, u, hrun, hleave, hbp, hsp⟩,
    ⟨s', u', hrun', hpopa, hgeneral⟩⟩

end Sim
end S80x86
