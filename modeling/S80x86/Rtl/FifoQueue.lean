import Mathlib.Data.Nat.Log
import S80x86.Foundation.Clocked
import S80x86.Foundation.RingBuffer
import S80x86.Rtl.Fifo
import S80x86.Rtl.Prefetch

/-!
# The FIFO is a bounded queue

The FIFO is modelled once more with its registers as wide as the design makes
them, for every depth the parameters can have.  These registers follow the
unbounded ones of the plain model, and those hold a bounded queue.  The
prefetcher's instance is then closed with the prefetcher, whose back pressure
keeps it from ever filling up.
-/

open Foundation

namespace S80x86
namespace Rtl

namespace Fifo

variable {α : Type}

/-!
## The registers of an instance
-/

/-- The parameters an instance can be elaborated with: 32-bit integers. -/
structure Generics extends Params where
  two_le_depth : 2 ≤ depth
  depth_lt : depth < 2 ^ 31
  fullThreshold_lt : fullThreshold < 2 ^ 31

def Generics.ptrBits (g : Generics) : Nat := Nat.clog 2 g.depth

/-- The registers; the pointers are just wide enough for the depth. -/
structure Registers (g : Generics) (α : Type) where
  mem : BitVec g.ptrBits -> α
  rdPtr : BitVec g.ptrBits
  wrPtr : BitVec g.ptrBits
  count : BitVec (g.ptrBits + 1)

namespace Registers

variable {g : Generics}

def empty (r : Registers g α) : Bool := r.count == 0

def full (r : Registers g α) : Bool := r.count.toNat == g.depth

/-- The difference of the parameters is taken in 32 bits without a sign. -/
def nearlyFull (r : Registers g α) : Bool :=
  decide ((BitVec.ofNat 32 g.depth - BitVec.ofNat 32 g.fullThreshold).toNat ≤
    r.count.toNat)

def rdData (r : Registers g α) : α := r.mem r.rdPtr

def advance (g : Generics) (ptr : BitVec g.ptrBits) : BitVec g.ptrBits :=
  if ptr == BitVec.ofNat g.ptrBits g.depth - 1 then 0 else ptr + 1

/-- One clock edge. -/
def step (i : Inputs α) (r : Registers g α) : Registers g α :=
  { mem :=
      if !i.reset && !i.flush && i.wrEn && !r.full then
        fun a => if a = r.wrPtr then i.wrData else r.mem a
      else r.mem
    rdPtr :=
      if i.reset then 0
      else if i.flush then 0
      else if i.rdEn && !r.empty then advance g r.rdPtr
      else r.rdPtr
    wrPtr :=
      if i.reset then 0
      else if i.flush then 0
      else if i.wrEn && !r.full then advance g r.wrPtr
      else r.wrPtr
    count :=
      if i.reset then 0
      else if i.flush then 0
      else if i.wrEn && !r.full && i.rdEn && !r.empty then r.count
      else if i.wrEn && !r.full then r.count + 1
      else if i.rdEn && !r.empty then r.count - 1
      else r.count }

end Registers

/-!
## The plain model holds a queue
-/

/-- The queue after one cycle of the FIFO. -/
def queueNext (p : Params) (i : Inputs α) (q : List α) : List α :=
  if i.reset || i.flush then []
  else
    RingBuffer.next p.depth (if i.wrEn then some i.wrData else none) i.rdEn q

/-- The ring holds the elements of the queue. -/
structure Represents (p : Params) (s : Fifo α) (q : List α) : Prop where
  bounded : q.length ≤ p.depth
  count : s.count = q.length
  rdPtr : s.rdPtr < p.depth
  wrPtr : s.wrPtr = RingBuffer.position p.depth s.rdPtr q.length
  holds : RingBuffer.Holds p.depth s.mem s.rdPtr q

theorem advance_eq (p : Params) {ptr : Nat} (hptr : ptr < p.depth) :
    advance p ptr = RingBuffer.position p.depth ptr 1 := by
  unfold advance RingBuffer.position
  by_cases hlast : ptr = p.depth - 1
  · rw [if_pos (by simpa using hlast), if_neg (by omega)]
    omega
  · rw [if_neg (by simpa using hlast), if_pos (by omega)]

section Represents

variable {p : Params} {s : Fifo α} {q : List α}

theorem Represents.empty (h : Represents p s q) :
    s.empty = true ↔ q = [] := by
  unfold Fifo.empty
  rw [beq_iff_eq, h.count, List.length_eq_zero_iff]

theorem Represents.full (h : Represents p s q) :
    s.full p = true ↔ q.length = p.depth := by
  unfold Fifo.full
  rw [beq_iff_eq, h.count]

/-- Clearing the pointers and the count empties the queue. -/
theorem represents_nil (mem : Nat -> α) (hdepth : 0 < p.depth) :
    Represents p { mem := mem, rdPtr := 0, wrPtr := 0, count := 0 } [] := by
  refine ⟨Nat.zero_le p.depth, rfl, hdepth, ?_, RingBuffer.holds_nil _ _ _⟩
  show 0 = RingBuffer.position p.depth 0 0
  rw [RingBuffer.position, if_pos hdepth]

theorem Represents.push (h : Represents p s q) (hroom : q.length < p.depth)
    (x : α) :
    Represents p
      { mem := fun a => if a = s.wrPtr then x else s.mem a
        rdPtr := s.rdPtr
        wrPtr := Fifo.advance p s.wrPtr
        count := s.count + 1 } (q ++ [x]) := by
  have hlen : (q ++ [x]).length = q.length + 1 := by
    rw [List.length_append, List.length_singleton]
  refine ⟨by omega, ?_, h.rdPtr, ?_, ?_⟩
  · show s.count + 1 = (q ++ [x]).length
    rw [hlen, h.count]
  · show Fifo.advance p s.wrPtr = RingBuffer.position p.depth s.rdPtr _
    have hwr := RingBuffer.position_lt h.rdPtr h.bounded
    rw [hlen, h.wrPtr, advance_eq p hwr,
      RingBuffer.succ_position h.rdPtr q.length hroom]
  · rw [h.wrPtr]
    exact h.holds.append hroom x

theorem Represents.pop (h : Represents p s q) (hq : q ≠ []) :
    Represents p
      { mem := s.mem
        rdPtr := Fifo.advance p s.rdPtr
        wrPtr := s.wrPtr
        count := s.count - 1 } q.tail := by
  have hpos : 0 < q.length := List.length_pos_iff.mpr hq
  have hlen : q.tail.length = q.length - 1 := List.length_tail
  have hbounded := h.bounded
  have hrd := advance_eq p h.rdPtr
  refine ⟨by omega, ?_, ?_, ?_, ?_⟩
  · show s.count - 1 = q.tail.length
    rw [hlen, h.count]
  · show Fifo.advance p s.rdPtr < p.depth
    rw [hrd]
    exact RingBuffer.position_lt h.rdPtr (by omega)
  · show s.wrPtr = RingBuffer.position p.depth (Fifo.advance p s.rdPtr) _
    rw [hrd, hlen, RingBuffer.position_succ h.rdPtr _ (by omega), h.wrPtr,
      Nat.sub_add_cancel hpos]
  · show RingBuffer.Holds p.depth s.mem (Fifo.advance p s.rdPtr) q.tail
    rw [hrd]
    exact h.holds.tail h.rdPtr h.bounded

/-- The guard on a write is that of the queue. -/
theorem Represents.accepted (h : Represents p s q) (i : Inputs α) :
    (if i.wrEn && !s.full p then [i.wrData] else []) =
      RingBuffer.accepted p.depth (if i.wrEn then some i.wrData else none)
        q := by
  have hbounded := h.bounded
  have hfull := h.full
  unfold RingBuffer.accepted
  cases hf : s.full p with
  | false =>
      rw [hf] at hfull
      have hne : q.length ≠ p.depth := fun he => by
        cases hfull.mpr he
      have hroom : q.length < p.depth := by omega
      rw [if_pos hroom, Bool.not_false, Bool.and_true]
      cases i.wrEn <;> rfl
  | true =>
      have hroom : ¬ q.length < p.depth := by
        rw [hfull.mp hf]
        exact Nat.lt_irrefl p.depth
      rw [if_neg hroom, Bool.not_true, Bool.and_false]
      rfl

theorem Represents.queueNext_eq (h : Represents p s q) {i : Inputs α}
    (hreset : i.reset = false) (hflush : i.flush = false) :
    queueNext p i q =
      (if i.rdEn && !s.empty then q.tail else q) ++
        (if i.wrEn && !s.full p then [i.wrData] else []) := by
  have hread : (if i.rdEn && !s.empty then q.tail else q) =
      if i.rdEn then q.tail else q := by
    cases hempty : s.empty with
    | false =>
        rw [Bool.not_false, Bool.and_true]
    | true =>
        rw [h.empty.mp hempty, List.tail_nil, ite_self, ite_self]
  rw [hread, h.accepted, queueNext, hreset, hflush]
  rfl

/-- One cycle of the FIFO is one cycle of the queue. -/
theorem Represents.step (h : Represents p s q) (i : Inputs α) :
    Represents p (Fifo.step p i s) (queueNext p i q) := by
  have hdepth : 0 < p.depth := Nat.zero_lt_of_lt h.rdPtr
  have hnil := @represents_nil α p s.mem hdepth
  cases hreset : i.reset with
  | true =>
      simpa [Fifo.step, nextCount, queueNext, hreset] using hnil
  | false =>
      cases hflush : i.flush with
      | true =>
          simpa [Fifo.step, nextCount, queueNext, hreset, hflush] using hnil
      | false =>
          rw [h.queueNext_eq hreset hflush]
          cases hwrite : (i.wrEn && !s.full p) with
          | false =>
              cases hread : (i.rdEn && !s.empty) with
              | false =>
                  simpa [Fifo.step, nextCount, hreset, hflush, hwrite, hread]
                    using h
              | true =>
                  have hq : q ≠ [] := fun he => by
                    simp [h.empty.mpr he] at hread
                  simpa [Fifo.step, nextCount, hreset, hflush, hwrite, hread]
                    using h.pop hq
          | true =>
              have hroom : q.length < p.depth := by
                have hbounded := h.bounded
                have hne : q.length ≠ p.depth := fun he => by
                  simp [h.full.mpr he] at hwrite
                omega
              have hpush := h.push hroom i.wrData
              cases hread : (i.rdEn && !s.empty) with
              | false =>
                  simpa [Fifo.step, nextCount, hreset, hflush, hwrite, hread]
                    using hpush
              | true =>
                  have hq : q ≠ [] := fun he => by
                    simp [h.empty.mpr he] at hread
                  -- The new element goes in first, then the oldest goes out.
                  have hpop := hpush.pop (List.append_ne_nil_of_left_ne_nil hq _)
                  rw [List.tail_append_of_ne_nil hq] at hpop
                  simpa [Fifo.step, nextCount, hreset, hflush, hwrite, hread]
                    using hpop

end Represents

/-!
## The registers follow the plain model
-/

theorem Generics.depth_le (g : Generics) : g.depth ≤ 2 ^ g.ptrBits :=
  Nat.le_pow_clog (by decide) g.depth

theorem Generics.two_le_pow (g : Generics) : 2 ≤ 2 ^ g.ptrBits :=
  g.two_le_depth.trans g.depth_le

theorem Generics.toNat_one (g : Generics) :
    (1 : BitVec g.ptrBits).toNat = 1 :=
  Nat.mod_eq_of_lt g.two_le_pow

theorem Generics.pow_succ_eq (g : Generics) :
    2 ^ (g.ptrBits + 1) = 2 * 2 ^ g.ptrBits := by
  rw [Nat.pow_succ, Nat.mul_comm]

namespace Registers

variable {g : Generics}

/-- A depth that is a power of two leaves no bits for itself, and still the
last position comes out. -/
theorem toNat_last (g : Generics) :
    (BitVec.ofNat g.ptrBits g.depth - 1).toNat = g.depth - 1 := by
  have htwo := g.two_le_depth
  have hle := g.depth_le
  have hpow := g.two_le_pow
  rw [BitVec.toNat_sub, g.toNat_one, BitVec.toNat_ofNat, Nat.add_mod_mod]
  have hsplit : 2 ^ g.ptrBits - 1 + g.depth =
      g.depth - 1 + 2 ^ g.ptrBits := by omega
  rw [hsplit, Nat.add_mod_right, Nat.mod_eq_of_lt (by omega)]

theorem toNat_advance {ptr : BitVec g.ptrBits} (hptr : ptr.toNat < g.depth) :
    (advance g ptr).toNat = Fifo.advance g.toParams ptr.toNat := by
  have hlast := toNat_last g
  have hle := g.depth_le
  have hpow := g.two_le_pow
  unfold advance Fifo.advance
  by_cases heq : ptr.toNat = g.depth - 1
  · have hptr' : ptr = BitVec.ofNat g.ptrBits g.depth - 1 := by
      apply BitVec.eq_of_toNat_eq
      rw [hlast, heq]
    rw [if_pos (by simpa using hptr'), if_pos (by simpa using heq)]
    exact BitVec.toNat_zero
  · have hptr' : ptr ≠ BitVec.ofNat g.ptrBits g.depth - 1 := fun he => by
      rw [he, hlast] at heq
      exact heq rfl
    rw [if_neg (by simpa using hptr'), if_neg (by simpa using heq),
      BitVec.toNat_add, g.toNat_one, Nat.mod_eq_of_lt (by omega)]

/-- The registers show the state of the plain model. -/
structure Follows (r : Registers g α) (s : Fifo α) : Prop where
  rdPtr : r.rdPtr.toNat = s.rdPtr
  wrPtr : r.wrPtr.toNat = s.wrPtr
  count : r.count.toNat = s.count
  mem : forall a, a < g.depth ->
    r.mem (BitVec.ofNat g.ptrBits a) = s.mem a

section Follows

variable {r : Registers g α} {s : Fifo α} {q : List α}

theorem Follows.empty (h : Follows r s) : r.empty = s.empty := by
  unfold Registers.empty Fifo.empty
  rw [← h.count, Bool.eq_iff_iff, beq_iff_eq, beq_iff_eq]
  exact BitVec.toNat_inj.symm

theorem Follows.full (h : Follows r s) : r.full = s.full g.toParams := by
  unfold Registers.full Fifo.full
  rw [h.count]

theorem Follows.rdData (h : Follows r s) (hrd : s.rdPtr < g.depth) :
    r.rdData = s.rdData := by
  have hptr : r.rdPtr = BitVec.ofNat g.ptrBits s.rdPtr := by
    rw [← h.rdPtr, BitVec.ofNat_toNat, BitVec.setWidth_eq]
  unfold Registers.rdData Fifo.rdData
  rw [hptr]
  exact h.mem s.rdPtr hrd

theorem Follows.nextCount (h : Follows r s) (hcount : s.count ≤ g.depth)
    (i : Inputs α) :
    (Registers.step i r).count.toNat = Fifo.nextCount g.toParams i s := by
  have hle := g.depth_le
  have hpow := g.two_le_pow
  have hsucc := g.pow_succ_eq
  have hone : (1 : BitVec (g.ptrBits + 1)).toNat = 1 :=
    BitVec.toNat_one (Nat.succ_pos g.ptrBits)
  have hc := h.count
  simp only [Registers.step, Fifo.nextCount, h.empty, h.full]
  split
  · exact BitVec.toNat_zero
  · split
    · exact BitVec.toNat_zero
    · split
      · exact hc
      · split
        · rename_i hwrite
          have hroom : s.count ≠ g.depth := fun he => by
            simp [Fifo.full, he] at hwrite
          rw [BitVec.toNat_add, hone, hc, Nat.mod_eq_of_lt (by omega)]
        · split
          · rename_i hread
            have hpos : s.count ≠ 0 := fun he => by
              simp [Fifo.empty, he] at hread
            have hsub : 1 ≤ r.count := by
              rw [BitVec.le_def, hone]
              omega
            rw [BitVec.toNat_sub_of_le hsub, hone, hc]
          · exact hc

theorem Follows.nextMem (h : Follows r s) (i : Inputs α) (a : Nat)
    (ha : a < g.depth) :
    (Registers.step i r).mem (BitVec.ofNat g.ptrBits a) =
      (Fifo.step g.toParams i s).mem a := by
  have hle := g.depth_le
  simp only [Registers.step, Fifo.step, h.full]
  split
  · have hiff : BitVec.ofNat g.ptrBits a = r.wrPtr ↔ a = s.wrPtr := by
      rw [← BitVec.toNat_inj, BitVec.toNat_ofNat, h.wrPtr,
        Nat.mod_eq_of_lt (by omega)]
    by_cases heq : a = s.wrPtr
    · exact (if_pos (hiff.mpr heq)).trans (if_pos heq).symm
    · have hother : BitVec.ofNat g.ptrBits a ≠ r.wrPtr :=
        fun hc => heq (hiff.mp hc)
      calc
        _ = r.mem (BitVec.ofNat g.ptrBits a) := if_neg hother
        _ = s.mem a := h.mem a ha
        _ = _ := (if_neg heq).symm
  · exact h.mem a ha

theorem Follows.step (h : Follows r s)
    (hq : Represents g.toParams s q) (i : Inputs α) :
    Follows (Registers.step i r) (Fifo.step g.toParams i s) := by
  have hrd : r.rdPtr.toNat < g.depth := by
    rw [h.rdPtr]
    exact hq.rdPtr
  have hwr : s.wrPtr < g.depth := by
    rw [hq.wrPtr]
    exact RingBuffer.position_lt hq.rdPtr hq.bounded
  have hwr' : r.wrPtr.toNat < g.depth := by
    rw [h.wrPtr]
    exact hwr
  have hcount : s.count ≤ g.depth := by
    rw [hq.count]
    exact hq.bounded
  refine ⟨?_, ?_, h.nextCount hcount i, h.nextMem i⟩
  · simp only [Registers.step, Fifo.step, h.empty]
    split_ifs
    · exact BitVec.toNat_zero
    · exact BitVec.toNat_zero
    · rw [toNat_advance hrd, h.rdPtr]
    · exact h.rdPtr
  · simp only [Registers.step, Fifo.step, h.full]
    split_ifs
    · exact BitVec.toNat_zero
    · exact BitVec.toNat_zero
    · rw [toNat_advance hwr', h.wrPtr]
    · exact h.wrPtr

end Follows

/-- The registers hold a queue. -/
def Holds (r : Registers g α) (q : List α) : Prop :=
  exists s, Follows r s ∧ Represents g.toParams s q

/-- A reset or a flush empties the queue, whatever the registers hold. -/
theorem holds_clear (r : Registers g α) {i : Inputs α}
    (hclear : i.reset = true ∨ i.flush = true) :
    Holds (Registers.step i r) [] := by
  have hdepth : 0 < g.toParams.depth := Nat.zero_lt_of_lt g.two_le_depth
  refine ⟨_, ?_, represents_nil
    (fun a => (Registers.step i r).mem (BitVec.ofNat g.ptrBits a)) hdepth⟩
  refine ⟨?_, ?_, ?_, fun a _ => rfl⟩ <;>
    rcases hclear with h | h <;> simp [Registers.step, h]

section Holds

variable {r : Registers g α} {q : List α}

theorem Holds.step (h : Holds r q) (i : Inputs α) :
    Holds (Registers.step i r) (queueNext g.toParams i q) := by
  rcases h with ⟨s, hfollows, hq⟩
  exact ⟨_, hfollows.step hq i, hq.step i⟩

theorem Holds.length_le (h : Holds r q) : q.length ≤ g.depth := by
  rcases h with ⟨s, _, hq⟩
  exact hq.bounded

theorem Holds.count (h : Holds r q) : r.count.toNat = q.length := by
  rcases h with ⟨s, hfollows, hq⟩
  rw [hfollows.count, hq.count]

theorem Holds.empty (h : Holds r q) : r.empty = true ↔ q = [] := by
  rcases h with ⟨s, hfollows, hq⟩
  rw [hfollows.empty]
  exact hq.empty

theorem Holds.full (h : Holds r q) :
    r.full = true ↔ q.length = g.depth := by
  rcases h with ⟨s, hfollows, hq⟩
  rw [hfollows.full]
  exact hq.full

theorem Holds.rdData (h : Holds r q) (hne : q ≠ []) :
    q.head? = some r.rdData := by
  rcases h with ⟨s, hfollows, hq⟩
  rw [hfollows.rdData hq.rdPtr]
  exact hq.holds.head hq.rdPtr hne

theorem Holds.accepted (h : Holds r q) (i : Inputs α) :
    (if i.wrEn && !r.full then [i.wrData] else []) =
      RingBuffer.accepted g.depth (if i.wrEn then some i.wrData else none)
        q := by
  rcases h with ⟨s, hfollows, hq⟩
  rw [hfollows.full]
  exact hq.accepted i

theorem Holds.removed (h : Holds r q) (i : Inputs α) :
    (if i.rdEn && !r.empty then [r.rdData] else []) =
      RingBuffer.removed i.rdEn q := by
  unfold RingBuffer.removed
  cases he : r.empty with
  | false =>
      have hne : q ≠ [] := fun hq => by
        rw [h.empty.mpr hq] at he
        cases he
      rw [h.rdData hne, Bool.not_false, Bool.and_true]
      rfl
  | true =>
      rw [h.empty.mp he, Bool.not_true, Bool.and_false]
      cases i.rdEn <;> rfl

theorem Holds.queueNext_eq (h : Holds r q) {i : Inputs α}
    (hreset : i.reset = false) (hflush : i.flush = false) :
    queueNext g.toParams i q =
      (if i.rdEn && !r.empty then q.tail else q) ++
        (if i.wrEn && !r.full then [i.wrData] else []) := by
  rcases h with ⟨s, hfollows, hq⟩
  rw [hfollows.empty, hfollows.full]
  exact hq.queueNext_eq hreset hflush

/-- A threshold beyond the depth never reports a nearly full FIFO. -/
theorem Holds.nearlyFull (h : Holds r q) :
    r.nearlyFull = true ↔
      g.fullThreshold ≤ g.depth ∧ g.depth ≤ q.length + g.fullThreshold := by
  have hbound := h.length_le
  have hdepth := g.depth_lt
  have hthreshold := g.fullThreshold_lt
  unfold Registers.nearlyFull
  have hmod := @Nat.mod_eq_of_lt g.depth (2 ^ 32) (by omega)
  have hmod' := @Nat.mod_eq_of_lt g.fullThreshold (2 ^ 32) (by omega)
  rw [decide_eq_true_iff, h.count, BitVec.toNat_sub, BitVec.toNat_ofNat,
    BitVec.toNat_ofNat, hmod, hmod']
  by_cases hle : g.fullThreshold ≤ g.depth
  · have hsplit : 2 ^ 32 - g.fullThreshold + g.depth =
        g.depth - g.fullThreshold + 2 ^ 32 := by omega
    rw [hsplit, Nat.add_mod_right, Nat.mod_eq_of_lt (by omega)]
    omega
  · rw [Nat.mod_eq_of_lt (by omega)]
    omega

end Holds

/-!
## Whole runs
-/

/--
The FIFO beside a queue that sees the same cycles, with the data accepted and
delivered at the ports since the last flush or reset.
-/
structure Observed (g : Generics) (α : Type) where
  fifo : Registers g α
  queue : List α
  written : List α
  read : List α

def Observed.cycle (i : Inputs α) (s : Observed g α) : Observed g α :=
  { fifo := s.fifo.step i
    queue := queueNext g.toParams i s.queue
    written :=
      if i.reset || i.flush then []
      else s.written ++ (if i.wrEn && !s.fifo.full then [i.wrData] else [])
    read :=
      if i.reset || i.flush then []
      else
        s.read ++ (if i.rdEn && !s.fifo.empty then [s.fifo.rdData] else []) }

theorem Observed.queue_run (cycles : List (Inputs α)) (s : Observed g α) :
    (Clocked.run Observed.cycle s cycles).queue =
      Clocked.run (queueNext g.toParams) s.queue cycles := by
  induction cycles generalizing s with
  | nil =>
      rfl
  | cons i rest ih =>
      exact ih (Observed.cycle i s)

/-- Right after a reset cycle, from any register contents. -/
def Observed.afterReset (r : Registers g α) (i : Inputs α) : Observed g α :=
  { fifo := r.step { i with reset := true }
    queue := []
    written := []
    read := [] }

structure Observed.Exact (s : Observed g α) : Prop where
  holds : s.fifo.Holds s.queue
  order : s.written = s.read ++ s.queue

theorem Observed.exact_afterReset (r : Registers g α) (i : Inputs α) :
    (Observed.afterReset r i).Exact :=
  ⟨holds_clear r (Or.inl rfl), rfl⟩

theorem Observed.Exact.cycle {s : Observed g α} (h : s.Exact)
    (i : Inputs α) : (Observed.cycle i s).Exact := by
  refine ⟨h.holds.step i, ?_⟩
  simp only [Observed.cycle, queueNext, h.holds.accepted i, h.holds.removed i]
  cases hclear : (i.reset || i.flush) with
  | true =>
      rfl
  | false =>
      simp only [Bool.false_eq_true, if_false, h.order, List.append_assoc]
      congr 1
      exact (RingBuffer.removed_append_next _ _ _ _).symm

end Registers

end Fifo
/-!
## The prefetcher's back pressure
-/

namespace PrefetchFifo

open Fifo

/-- The instance in the core, with the default threshold. -/
def generics : Generics :=
  { depth := 6
    fullThreshold := 2
    two_le_depth := by decide
    depth_lt := by decide
    fullThreshold_lt := by decide }

/-- What the surroundings choose in one cycle. -/
structure Cycle where
  reset : Bool
  loadNewIp : Bool
  newCs : BitVec 16
  newIp : BitVec 16
  memAck : Bool
  memData : BitVec 16
  fifoRdEn : Bool
  deriving DecidableEq, Repr

/--
The prefetcher, its FIFO, and whether the memory has accepted an access that it
has not acknowledged yet.
-/
structure System where
  prefetch : Prefetch
  fifo : Registers generics (BitVec 8)
  pending : Bool

/-- The prefetcher sees the nearly full output as its full input. -/
def inputs (c : Cycle) (s : System) : Prefetch.Inputs :=
  { reset := c.reset
    newCs := c.newCs
    newIp := c.newIp
    loadNewIp := c.loadNewIp
    fifoFull := s.fifo.nearlyFull
    memAck := c.memAck
    memData := c.memData }

def fifoInputs (c : Cycle) (s : System) : Fifo.Inputs (BitVec 8) :=
  let i := inputs c s
  { reset := c.reset
    flush := Prefetch.fifoReset i s.prefetch
    wrEn := Prefetch.fifoWrEn i s.prefetch
    wrData := Prefetch.fifoWrData i s.prefetch
    rdEn := c.fifoRdEn }

/-- A reset of the core does not recall an access the memory has accepted. -/
def cycle (c : Cycle) (s : System) : System :=
  { prefetch := Prefetch.step (inputs c s) s.prefetch
    fifo := s.fifo.step (fifoInputs c s)
    pending := !c.memAck && (s.pending || s.prefetch.memAccess2) }

def Outstanding (s : System) : Prop :=
  s.pending = true ∨ s.prefetch.memAccess2 = true

/-- Acknowledges are only given to outstanding accesses. -/
def AcksOutstanding (s : System) (c : Cycle) : Prop :=
  c.memAck = true -> Outstanding s

instance (s : System) : Decidable (Outstanding s) := by
  unfold Outstanding
  infer_instance

instance (s : System) (c : Cycle) : Decidable (AcksOutstanding s c) := by
  unfold AcksOutstanding
  infer_instance

/-- The system right after a reset cycle, from any register contents. -/
def afterReset (s : System) (c : Cycle) : System :=
  cycle { c with reset := true } s

/--
An access is only outstanding while both of its bytes still fit, and the second
byte is only kept while it fits.
-/
structure Room (s : System) (q : List (BitVec 8)) : Prop where
  holds : s.fifo.Holds q
  length : q.length ≤ 5
  outstanding : Outstanding s ->
    q.length ≤ 3 ∧ s.prefetch.writeSecond = false
  second : s.prefetch.writeSecond = true -> q.length ≤ 4

theorem not_writeSecond_of_reset (i : Prefetch.Inputs) (s : Prefetch)
    (hreset : i.reset = true) : (Prefetch.step i s).writeSecond = false := by
  simp [Prefetch.step, hreset]

theorem room_afterReset (s : System) (c : Cycle) :
    Room (afterReset s c) [] := by
  have hsecond : (afterReset s c).prefetch.writeSecond = false :=
    not_writeSecond_of_reset _ s.prefetch rfl
  refine ⟨Registers.holds_clear s.fifo (Or.inl rfl), by decide, ?_, ?_⟩
  · intro _
    exact ⟨by decide, hsecond⟩
  · intro _
    decide

/-- No cycle adds more than the byte it writes. -/
theorem length_queueNext_le (i : Fifo.Inputs (BitVec 8))
    (q : List (BitVec 8)) :
    (queueNext generics.toParams i q).length ≤
      q.length + if i.wrEn then 1 else 0 := by
  unfold queueNext
  split
  · exact Nat.zero_le _
  · have hnext := RingBuffer.length_next_le_succ generics.depth
      (if i.wrEn then some i.wrData else none) i.rdEn q
    have hacc := RingBuffer.length_accepted_le generics.depth
      (if i.wrEn then some i.wrData else none) q
    cases hwr : i.wrEn with
    | false =>
        rw [hwr] at hnext
        simpa [RingBuffer.accepted] using hnext
    | true =>
        rw [hwr] at hnext hacc
        have hone : (if q.length < generics.depth then 1 else 0) ≤ 1 := by
          split <;> decide
        exact hnext.trans (Nat.add_le_add_left (hacc.trans hone) q.length)

/-- A new access is only requested while the FIFO is not nearly full. -/
theorem length_of_requested {s : System} {q : List (BitVec 8)}
    (h : Room s q) {c : Cycle}
    (hreq : (cycle c s).prefetch.memAccess2 = true) : q.length ≤ 3 := by
  have hnear := h.holds.nearlyFull
  cases hn : s.fifo.nearlyFull with
  | true =>
      simp [cycle, Prefetch.step, Prefetch.nextMemAccess, inputs, hn] at hreq
  | false =>
      rw [hn] at hnear
      have hnot : ¬ (2 ≤ 6 ∧ 6 ≤ q.length + 2) := fun hc => by
        cases hnear.mpr hc
      omega

section Cycle

variable {s : System} {q : List (BitVec 8)} {c : Cycle}

theorem Room.cycle_ack (h : Room s q) (hack : c.memAck = true)
    (hout : Outstanding s) :
    Room (cycle c s) (queueNext generics.toParams (fifoInputs c s) q) := by
  have hlen := length_queueNext_le (fifoInputs c s) q
  have hfree := (h.outstanding hout).left
  have hgrow : (if (fifoInputs c s).wrEn then 1 else 0) ≤ 1 := by
    split <;> decide
  refine ⟨h.holds.step (fifoInputs c s), by omega, ?_, fun _ => by omega⟩
  -- The acknowledged access is done and no other is requested yet.
  rintro (hpending | haccess)
  · simp [cycle, hack] at hpending
  · simp [cycle, Prefetch.step, Prefetch.nextMemAccess, inputs, hack]
      at haccess

theorem Room.cycle_second (h : Room s q) (hack : c.memAck = false)
    (hsecond : s.prefetch.writeSecond = true) :
    Room (cycle c s) (queueNext generics.toParams (fifoInputs c s) q) := by
  have hlen := length_queueNext_le (fifoInputs c s) q
  have hfree := h.second hsecond
  have hgrow : (if (fifoInputs c s).wrEn then 1 else 0) ≤ 1 := by
    split <;> decide
  have hidle : ¬ Outstanding s := fun hout => by
    rw [(h.outstanding hout).right] at hsecond
    cases hsecond
  refine ⟨h.holds.step (fifoInputs c s), by omega, ?_, ?_⟩
  · rintro (hpending | haccess)
    · simp only [cycle, hack, Bool.not_false, Bool.true_and, Bool.or_eq_true]
        at hpending
      exact absurd hpending hidle
    · simp [cycle, Prefetch.step, Prefetch.nextMemAccess, hsecond] at haccess
  · intro hnext
    simp [cycle, Prefetch.step, Prefetch.shouldWriteSecondByte, inputs, hack]
      at hnext

theorem Room.cycle_wait (h : Room s q) (hack : c.memAck = false)
    (hsecond : s.prefetch.writeSecond = false) :
    Room (cycle c s) (queueNext generics.toParams (fifoInputs c s) q) := by
  have hlen := length_queueNext_le (fifoInputs c s) q
  have hwr : (fifoInputs c s).wrEn = false := by
    simp [fifoInputs, Prefetch.fifoWrEn, inputs, hack, hsecond]
  have hnext : (cycle c s).prefetch.writeSecond = false := by
    simp [cycle, Prefetch.step, Prefetch.shouldWriteSecondByte, inputs, hack]
  have hold := h.length
  rw [hwr] at hlen
  refine ⟨h.holds.step (fifoInputs c s), hlen.trans hold, ?_, ?_⟩
  · rintro (hpending | haccess)
    · simp only [cycle, hack, Bool.not_false, Bool.true_and, Bool.or_eq_true]
        at hpending
      exact ⟨hlen.trans (h.outstanding hpending).left, hnext⟩
    · exact ⟨hlen.trans (length_of_requested h haccess), hnext⟩
  · intro htrue
    rw [hnext] at htrue
    cases htrue

theorem Room.cycle (h : Room s q) (hok : AcksOutstanding s c) :
    Room (cycle c s) (queueNext generics.toParams (fifoInputs c s) q) := by
  cases hack : c.memAck with
  | true =>
      exact h.cycle_ack hack (hok hack)
  | false =>
      cases hsecond : s.prefetch.writeSecond with
      | true =>
          exact h.cycle_second hack hsecond
      | false =>
          exact h.cycle_wait hack hsecond

end Cycle

def HasRoom (s : System) : Prop := exists q, Room s q

theorem hasRoom_cycle (s : System) (c : Cycle) (h : HasRoom s)
    (hok : AcksOutstanding s c) : HasRoom (cycle c s) := by
  rcases h with ⟨q, hroom⟩
  exact ⟨_, hroom.cycle hok⟩

theorem HasRoom.not_full {s : System} (h : HasRoom s) :
    s.fifo.full = false := by
  rcases h with ⟨q, hroom⟩
  cases hfull : s.fifo.full with
  | false =>
      rfl
  | true =>
      have hlen : q.length = 6 := hroom.holds.full.mp hfull
      have hle := hroom.length
      omega

end PrefetchFifo

/--
Every instance is a bounded queue along every run from a reset on, and the
prefetcher never offers its instance a byte while that is full.
-/
theorem fifo_refines_queue :
    (forall (g : Fifo.Generics) (α : Type) (r : Fifo.Registers g α)
      (i : Fifo.Inputs α) (cycles : List (Fifo.Inputs α)),
      let start := Fifo.Registers.Observed.afterReset r i
      let s := Clocked.run Fifo.Registers.Observed.cycle start cycles
      s.queue = Clocked.run (Fifo.queueNext g.toParams) [] cycles ∧
        s.written = s.read ++ s.queue ∧
        (s.queue ≠ [] -> s.queue.head? = some s.fifo.rdData) ∧
        (s.fifo.empty = true ↔ s.queue.length = 0) ∧
        (s.fifo.full = true ↔ s.queue.length = g.depth) ∧
        (s.fifo.nearlyFull = true ↔
          g.fullThreshold ≤ g.depth ∧
            g.depth - g.fullThreshold ≤ s.queue.length)) ∧
    (forall (start : PrefetchFifo.System) (c : PrefetchFifo.Cycle)
      (cycles : List PrefetchFifo.Cycle),
      Clocked.Admissible PrefetchFifo.cycle PrefetchFifo.AcksOutstanding
        (PrefetchFifo.afterReset start c) cycles ->
      (Clocked.run PrefetchFifo.cycle (PrefetchFifo.afterReset start c)
        cycles).fifo.full = false) := by
  constructor
  · intro g α r i cycles start s
    have hexact : s.Exact :=
      Clocked.run_preserves (fun t j ht => ht.cycle j)
        (Fifo.Registers.Observed.exact_afterReset r i) cycles
    have hholds := hexact.holds
    refine ⟨?_, hexact.order, hholds.rdData, ?_, hholds.full, ?_⟩
    · exact Fifo.Registers.Observed.queue_run cycles start
    · rw [List.length_eq_zero_iff]
      exact hholds.empty
    · rw [hholds.nearlyFull]
      omega
  · intro start c cycles hrun
    have hstart : PrefetchFifo.HasRoom (PrefetchFifo.afterReset start c) :=
      ⟨[], PrefetchFifo.room_afterReset start c⟩
    exact (Clocked.run_invariant PrefetchFifo.hasRoom_cycle hstart
      hrun).not_full

namespace PrefetchFifo

def quiet : Cycle :=
  { reset := false, loadNewIp := false, newCs := 0#16, newIp := 0#16
    memAck := false, memData := 0xbbaa#16, fifoRdEn := false }

def acked : Cycle := { quiet with memAck := true }

/-- A jump to an odd address, and then bytes as fast as they come. -/
def burst : List Cycle :=
  [{ quiet with loadNewIp := true, newIp := 1#16 }, quiet, acked, quiet, acked,
    quiet, quiet, acked, quiet, quiet, quiet]

def zeroed : System :=
  { prefetch :=
      { nextFetchAddress := 0#16, fetchAddress := 0#16, nextCs := 0#16
        cs := 0#16, abortCur := false, fetchedHighByte := 0#8
        writeSecond := false, nextSequentialFetch := 0#16
        memAddress := 0#19, memAccess2 := false }
    fifo := { mem := fun _ => 0#8, rdPtr := 0, wrPtr := 0, count := 0 }
    pending := false }

end PrefetchFifo

/-- The burst stops at five bytes, one short of the depth. -/
theorem fifo_refines_queue_burst :
    let s := Clocked.run PrefetchFifo.cycle
      (PrefetchFifo.afterReset PrefetchFifo.zeroed PrefetchFifo.quiet)
      PrefetchFifo.burst
    s.fifo.count.toNat = 5 ∧ s.fifo.full = false := by
  refine ⟨by decide +kernel, fifo_refines_queue.right _ _ _ ?_⟩
  simp only [PrefetchFifo.burst, Clocked.admissible_cons,
    Clocked.admissible_nil, and_true]
  decide +kernel

end Rtl
end S80x86
