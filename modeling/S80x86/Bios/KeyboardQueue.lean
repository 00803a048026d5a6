import S80x86.Bios.Keyboard
import S80x86.Foundation.RingBuffer
import Mathlib.Tactic.Ring

/-!
# The keyboard buffer is a queue

The words from the head to the tail are the keys that were added and not yet
waited for.  A key that is zero cannot be told from no key.
-/

open Foundation

namespace S80x86
namespace Bios
namespace Keyboard

open FarMemory RingBuffer

/-!
## Traces
-/

/-- The keys that went into the buffer, in order. -/
def accepted : List KeyEvent -> List (BitVec 16)
  | [] => []
  | .added key :: trace => accepted trace ++ [key]
  | _ :: trace => accepted trace

/-- The keys that `keyboard_wait` returned, in order. -/
def returned : List KeyEvent -> List (BitVec 16)
  | [] => []
  | .waited ax :: trace => returned trace ++ [ax]
  | _ :: trace => returned trace

def queue : List KeyEvent -> List (BitVec 16)
  | [] => []
  | .added key :: trace => queue trace ++ [key]
  | .waited _ :: trace => (queue trace).tail
  | _ :: trace => queue trace

/-- The queue when the last peek started. -/
def lastPeek : List KeyEvent -> List (BitVec 16)
  | [] => []
  | .peeked :: trace => queue trace
  | _ :: trace => lastPeek trace

/-- Keys leave in the order they came, and only a full queue drops one. -/
def Ordered : List KeyEvent -> Prop
  | [] => True
  | .dropped _ :: trace => Ordered trace ∧ (queue trace).length = 15
  | .waited ax :: trace => Ordered trace ∧ (queue trace).head? = some ax
  | _ :: trace => Ordered trace

/-- A status tells of the oldest key, and leaves it. -/
def StatusTells (trace : List KeyEvent) (zf : Bool) (ax : BitVec 16) : Prop :=
  forall oldest, (lastPeek trace).head? = some oldest ->
    zf = false ∧ ax = oldest ∧ queue trace = lastPeek trace

def Reported : List KeyEvent -> Prop
  | [] => True
  | .status zf ax :: trace => Reported trace ∧ StatusTells trace zf ax
  | _ :: trace => Reported trace

/-- No status was asked for when zero was the oldest key. -/
def NoZeroReported : List KeyEvent -> Prop
  | [] => True
  | .status _ _ :: trace =>
      NoZeroReported trace ∧ (lastPeek trace).head? ≠ some 0#16
  | _ :: trace => NoZeroReported trace

/-- Every accepted key is returned once, or still queued. -/
theorem Ordered.accepted_eq {trace : List KeyEvent} (h : Ordered trace) :
    accepted trace = returned trace ++ queue trace := by
  induction trace with
  | nil => rfl
  | cons e trace ih =>
      cases e with
      | added key =>
          change accepted trace ++ [key] =
            returned trace ++ (queue trace ++ [key])
          rw [ih h, List.append_assoc]
      | dropped key => exact ih h.1
      | peeked => exact ih h
      | waited ax =>
          obtain ⟨h, hhead⟩ := h
          change accepted trace =
            returned trace ++ [ax] ++ (queue trace).tail
          rw [ih h, List.append_assoc, List.singleton_append,
            List.cons_head?_tail hhead]
      | status zf ax => exact ih h

/-!
## The ring in memory
-/

/-- The address of an entry of the buffer. -/
def slot (i : Nat) : BitVec 16 := BitVec.ofNat 16 (0x1e + 2 * i)

def cellsOf (m : FarMemory) (i : Nat) : BitVec 16 :=
  m.readw Bda.segment (slot i)

theorem toNat_slot {i : Nat} (h : i < 16) : (slot i).toNat = 0x1e + 2 * i := by
  rw [slot, BitVec.toNat_ofNat]
  omega

theorem slot_inj {i j : Nat} (hi : i < 16) (hj : j < 16) :
    slot i = slot j ↔ i = j := by
  constructor
  · intro h
    have hnat := congrArg BitVec.toNat h
    rw [toNat_slot hi, toNat_slot hj] at hnat
    omega
  · rintro rfl
    rfl

theorem entry_slot {i : Nat} (h : i < 16) :
    entry (slot i - Bda.kbdBuffer) = slot i := by
  have hslot := toNat_slot h
  have hbuffer : Bda.kbdBuffer.toNat = 0x1e := rfl
  have hoffset : (slot i - Bda.kbdBuffer).toNat = 2 * i := by
    rw [BitVec.toNat_sub, hslot, hbuffer]
    omega
  have htwo : (2#16).toNat = 2 := rfl
  apply BitVec.eq_of_toNat_eq
  rw [hslot, entry, BitVec.toNat_add, BitVec.toNat_mul, BitVec.toNat_udiv,
    hoffset, hbuffer, htwo]
  omega

theorem advanced_slot {i : Nat} (h : i < 16) :
    advanced (slot i) = slot (position 16 i 1) := by
  have hslot := toNat_slot h
  have hnext : (slot i + 2#16).toNat = 0x1e + 2 * (i + 1) := by
    rw [BitVec.toNat_add, hslot, BitVec.toNat_ofNat]
    omega
  have hend : Bda.driveRecalibrationStatus.toNat = 0x3e := rfl
  unfold advanced position
  dsimp only
  rw [hnext, hend]
  by_cases hlast : i + 1 < 16
  · rw [if_neg (by omega), if_pos hlast]
    apply BitVec.eq_of_toNat_eq
    rw [hnext, toNat_slot hlast]
  · have hi : i = 15 := by omega
    subst hi
    rfl

theorem apart_of_toNat {a b : BitVec 16} (ha : a.toNat + 1 < 2 ^ 16)
    (hb : b.toNat + 1 < 2 ^ 16)
    (h : a.toNat + 2 ≤ b.toNat ∨ b.toNat + 2 ≤ a.toNat) : Apart a b := by
  refine ⟨?_, ?_, ?_⟩ <;> intro heq
  · rw [heq] at h
    omega
  all_goals
    have hnat := congrArg BitVec.toNat heq
    rw [BitVec.toNat_add, BitVec.toNat_ofNat] at hnat
    omega

/-- The memory holds a queue in its ring. -/
def Represents (m : FarMemory) (q : List (BitVec 16)) : Prop :=
  q.length ≤ 15 ∧ exists start, start < 16 ∧ head m = slot start ∧
    tail m = slot (position 16 start q.length) ∧
    Holds 16 (cellsOf m) start q

/-- The words of the ring are the same. -/
structure SameRing (m m' : FarMemory) : Prop where
  head_eq : head m' = head m
  tail_eq : tail m' = tail m
  cells_eq : forall i, i < 16 -> cellsOf m' i = cellsOf m i

theorem SameRing.represents {m m' : FarMemory} (h : SameRing m m')
    {q : List (BitVec 16)} (hq : Represents m q) : Represents m' q := by
  obtain ⟨hlength, start, hstart, hhead, htail, hholds⟩ := hq
  refine ⟨hlength, start, hstart, ?_, ?_, ?_⟩
  · rw [h.head_eq, hhead]
  · rw [h.tail_eq, htail]
  · exact hholds.congr hstart (by omega) h.cells_eq

/-- A byte below the ring. -/
theorem sameRing_writeb {a : BitVec 16} (ha : a.toNat < 0x1a) (v : BitVec 8)
    (m : FarMemory) : SameRing m (m.writeb Bda.segment a v) := by
  have hword {b : BitVec 16} (hlow : 0x1a ≤ b.toNat)
      (hhigh : b.toNat + 1 < 2 ^ 16) :
      (m.writeb Bda.segment a v).readw Bda.segment b =
        m.readw Bda.segment b := by
    have hne : b ≠ a := by
      rintro rfl
      omega
    have hne' : b + 1#16 ≠ a := by
      rintro rfl
      rw [BitVec.toNat_add, BitVec.toNat_ofNat] at ha
      omega
    unfold readw
    rw [readb_writeb, readb_writeb, if_neg hne, if_neg hne']
  constructor
  · exact hword (by decide) (by decide)
  · exact hword (by decide) (by decide)
  · intro i hi
    have hslot := toNat_slot hi
    exact hword (by omega) (by omega)

theorem apart_slot {a : BitVec 16} (ha : a.toNat < 0x1d) {i : Nat}
    (hi : i < 16) : Apart a (slot i) := by
  have hslot := toNat_slot hi
  exact apart_of_toNat (by omega) (by omega) (by omega)

theorem apart_slot_slot {i j : Nat} (hi : i < 16) (hj : j < 16)
    (hne : j ≠ i) : Apart (slot i) (slot j) := by
  have hslot := toNat_slot hi
  have hslot' := toNat_slot hj
  exact apart_of_toNat (by omega) (by omega) (by omega)

/-!
## Adding and removing
-/

/-- The full test, in the two ways the tail can be before the head. -/
theorem kbdBufferFull_iff {m : FarMemory} {q : List (BitVec 16)}
    (h : Represents m q) : kbdBufferFull m = true ↔ q.length = 15 := by
  obtain ⟨hlength, start, hstart, hhead, htail, _⟩ := h
  have hlt : position 16 start q.length < 16 := position_lt hstart (by omega)
  have hlast : Bda.driveRecalibrationStatus - 2#16 = slot 15 := rfl
  have hfirst : Bda.kbdBuffer = slot 0 := rfl
  have hbefore : slot (position 16 start q.length) = slot start - 2#16 ↔
      position 16 start q.length + 1 = start := by
    rw [<- BitVec.toNat_inj, BitVec.toNat_sub, toNat_slot hlt,
      toNat_slot hstart, BitVec.toNat_ofNat]
    omega
  unfold kbdBufferFull
  rw [hhead, htail, Bool.or_eq_true, Bool.and_eq_true, decide_eq_true_iff,
    decide_eq_true_iff, decide_eq_true_iff, hlast, hfirst, hbefore,
    slot_inj hstart (by omega), slot_inj hlt (by omega)]
  unfold position
  split <;> omega

/-- The memory that `kbd_buffer_add` leaves. -/
def addedTo (m : FarMemory) (key : BitVec 16) : FarMemory :=
  (m.writew Bda.segment (entry (tail m - Bda.kbdBuffer)) key).writew
    Bda.segment Bda.kbdBufferTail (advanced (tail m))

theorem represents_addedTo {m : FarMemory} {q : List (BitVec 16)}
    (h : Represents m q) (hroom : q.length < 15) (key : BitVec 16) :
    Represents (addedTo m key) (q ++ [key]) := by
  obtain ⟨_, start, hstart, hhead, htail, hholds⟩ := h
  have hlt : position 16 start q.length < 16 := position_lt hstart (by omega)
  have hentry : entry (tail m - Bda.kbdBuffer) =
      slot (position 16 start q.length) := by
    rw [htail, entry_slot hlt]
  have hnext : advanced (tail m) =
      slot (position 16 start (q.length + 1)) := by
    rw [htail, advanced_slot hlt, succ_position hstart _ (by omega)]
  have hcells : forall i, i < 16 -> cellsOf (addedTo m key) i =
      if i = position 16 start q.length then key else cellsOf m i := by
    intro i hi
    unfold cellsOf addedTo
    rw [readw_writew_apart (apart_slot (by decide) hi), hentry]
    by_cases heq : i = position 16 start q.length
    · rw [if_pos heq, heq, readw_writew_same]
    · rw [if_neg heq, readw_writew_apart (apart_slot_slot hlt hi heq)]
  have hlength : (q ++ [key]).length = q.length + 1 := by
    rw [List.length_append, List.length_singleton]
  refine ⟨by omega, start, hstart, ?_, ?_, ?_⟩
  · unfold head addedTo
    rw [readw_writew_apart (apart_of_toNat (by decide) (by decide)
      (by decide)), hentry, readw_writew_apart]
    · exact hhead
    · have hslot := toNat_slot hlt
      have hnat : Bda.kbdBufferHead.toNat = 0x1a := rfl
      exact apart_of_toNat (by omega) (by decide) (by omega)
  · rw [hlength, <- hnext]
    exact readw_writew_same _ _ _ _
  · exact (hholds.append (by omega) key).congr hstart (by omega) hcells

/-- The memory that `kbd_buffer_pop` leaves. -/
def poppedFrom (m : FarMemory) : FarMemory :=
  m.writew Bda.segment Bda.kbdBufferHead (advanced (head m))

theorem represents_poppedFrom {m : FarMemory} {q : List (BitVec 16)}
    (h : Represents m q) (hne : q ≠ []) :
    Represents (poppedFrom m) q.tail := by
  obtain ⟨hle, start, hstart, hhead, htail, hholds⟩ := h
  have hpos : 0 < q.length := List.length_pos_iff.mpr hne
  have hlength : q.tail.length = q.length - 1 := List.length_tail
  have hnext : advanced (head m) = slot (position 16 start 1) := by
    rw [hhead, advanced_slot hstart]
  refine ⟨by omega, position 16 start 1, position_lt hstart (by omega), ?_, ?_,
    ?_⟩
  · rw [<- hnext]
    exact readw_writew_same _ _ _ _
  · unfold tail poppedFrom
    rw [readw_writew_apart (apart_of_toNat (by decide) (by decide)
      (by decide)), hlength, position_succ hstart _ (by omega),
      Nat.sub_add_cancel hpos]
    exact htail
  · refine (hholds.tail hstart (by omega)).congr
      (position_lt hstart (by omega)) (by omega) ?_
    intro i hi
    unfold cellsOf poppedFrom
    rw [readw_writew_apart (apart_slot (by decide) hi)]

theorem head_eq_tail_iff {m : FarMemory} {q : List (BitVec 16)}
    (h : Represents m q) : head m = tail m ↔ q = [] := by
  obtain ⟨hle, start, hstart, hhead, htail, _⟩ := h
  rw [hhead, htail, slot_inj hstart (position_lt hstart (by omega)),
    <- List.length_eq_zero_iff]
  unfold position
  split <;> omega

theorem entry_head {m : FarMemory} {q : List (BitVec 16)}
    (h : Represents m q) (hne : q ≠ []) :
    q.head? = some (m.readw Bda.segment (entry (head m - Bda.kbdBuffer))) := by
  obtain ⟨_, start, hstart, hhead, _, hholds⟩ := h
  rw [hhead, entry_slot hstart]
  exact hholds.head hstart hne

/-!
## Polls
-/

/-- What every part of a run keeps. -/
structure Sound (s : Keyboard) : Prop where
  ring : Represents s.mem (queue s.trace)
  ordered : Ordered s.trace
  reported : Reported s.trace ↔ NoZeroReported s.trace

/-- Keys may have come, since the same peek. -/
structure Polled (s s' : Keyboard) : Prop where
  sound : Sound s'
  lastPeek_eq : lastPeek s'.trace = lastPeek s.trace

theorem Polled.refl {s : Keyboard} (h : Sound s) : Polled s s := ⟨h, rfl⟩

theorem Polled.trans {s s' s'' : Keyboard} (h : Polled s s')
    (h' : Polled s' s'') : Polled s s'' :=
  ⟨h'.sound, h'.lastPeek_eq.trans h.lastPeek_eq⟩

/-- Only the ring and the trace matter. -/
theorem Sound.of_sameRing {s s' : Keyboard} (h : Sound s)
    (hring : SameRing s.mem s'.mem) (htrace : s'.trace = s.trace) :
    Polled s s' := by
  refine ⟨⟨?_, ?_, ?_⟩, by rw [htrace]⟩
  · rw [htrace]
    exact hring.represents h.ring
  · rw [htrace]
    exact h.ordered
  · rw [htrace]
    exact h.reported

theorem SameRing.refl (m : FarMemory) : SameRing m m :=
  ⟨rfl, rfl, fun _ _ => rfl⟩

theorem polled_kbdBufferAdd {s : Keyboard} (h : Sound s) (key : BitVec 16) :
    Polled s (s.kbdBufferAdd key) := by
  unfold kbdBufferAdd
  by_cases hfull : kbdBufferFull s.mem = true
  · rw [if_pos hfull]
    have hlength := (kbdBufferFull_iff h.ring).mp hfull
    exact ⟨⟨h.ring, ⟨h.ordered, hlength⟩, h.reported⟩, rfl⟩
  · rw [if_neg hfull]
    have hle := h.ring.1
    have hroom : (queue s.trace).length < 15 := by
      have hne := mt (kbdBufferFull_iff h.ring).mpr hfull
      omega
    exact ⟨⟨represents_addedTo h.ring hroom key, h.ordered, h.reported⟩, rfl⟩

theorem polled_modifierKey {s : Keyboard} (h : Sound s) (b : BitVec 8)
    (keyup : Bool) : Polled s (s.modifierKey b keyup) :=
  h.of_sameRing (sameRing_writeb (by decide) _ _) rfl

theorem polled_keypress {s : Keyboard} (h : Sound s) (row : Keydef) :
    Polled s (s.keypress row) := by
  unfold keypress
  dsimp only
  repeat' split
  all_goals first | exact polled_kbdBufferAdd h _ | exact Polled.refl h

theorem polled_serialPoll {s : Keyboard} (h : Sound s) :
    Polled s s.serialPoll := by
  have hin : Polled s s.inUart.2 := h.of_sameRing (SameRing.refl _) rfl
  unfold serialPoll
  cases hb : s.inUart.1 with
  | none => simpa [hb] using hin
  | some b => simpa [hb] using hin.trans (polled_kbdBufferAdd hin.sound _)

variable {config : Config}

theorem polled_keyboardPoll {s : Keyboard} (h : Sound s) :
    Polled s (keyboardPoll config s).2 := by
  have hin : Polled s s.inScancode.2 := h.of_sameRing (SameRing.refl _) rfl
  unfold keyboardPoll
  dsimp only
  split
  next => exact hin
  next =>
    split
    next => exact hin.trans (polled_modifierKey hin.sound _ _)
    next =>
      split
      next => exact hin
      next =>
        cases config.keycodeMap[s.inScancode.1.toNat]? with
        | none => exact hin
        | some row => exact hin.trans (polled_keypress hin.sound row)

theorem polled_pollAll {fuel : Nat} {s s' : Keyboard} (h : Sound s)
    (hpoll : pollAll config fuel s = some s') : Polled s s' := by
  induction fuel generalizing s with
  | zero => cases hpoll
  | succ fuel ih =>
      have hfirst : Polled s (keyboardPoll config s).2 := polled_keyboardPoll h
      unfold pollAll at hpoll
      dsimp only at hpoll
      split at hpoll
      next => exact hfirst.trans (ih hfirst.sound hpoll)
      next =>
        cases hpoll
        exact hfirst

theorem polled_serialPollIf {s : Keyboard} (h : Sound s) :
    Polled s (serialPollIf config s) := by
  unfold serialPollIf
  split
  next => exact polled_serialPoll h
  next => exact Polled.refl h

theorem Sound.peeked {s : Keyboard} (h : Sound s) : Sound (s.log .peeked) :=
  ⟨h.ring, h.ordered, h.reported⟩

/-- A peek gives the oldest key, or zero while keys may come. -/
theorem peek_cases {fuel : Nat} {s s' : Keyboard} {c : BitVec 16}
    (h : Sound s) (hpeek : kbdBufferPeek config fuel s = some (c, s')) :
    Sound s' ∧ lastPeek s'.trace = queue s.trace ∧
      (queue s.trace = [] ∧ c = 0#16 ∨
        (queue s.trace).head? = some c ∧ queue s'.trace = queue s.trace) := by
  unfold kbdBufferPeek at hpeek
  dsimp only at hpeek
  by_cases hempty : head s.mem = tail s.mem
  · rw [if_pos hempty] at hpeek
    obtain ⟨s₁, hpoll, heq⟩ := Option.map_eq_some_iff.mp hpeek
    cases heq
    have hpolled := polled_pollAll h.peeked hpoll
    exact ⟨hpolled.sound, hpolled.lastPeek_eq,
      Or.inl ⟨(head_eq_tail_iff h.ring).mp hempty, rfl⟩⟩
  · rw [if_neg hempty] at hpeek
    cases hpeek
    have hne := mt (head_eq_tail_iff h.ring).mpr hempty
    exact ⟨h.peeked, rfl, Or.inr ⟨entry_head h.ring hne, rfl⟩⟩

/-!
## The services
-/

theorem waitLoop_gives {fuel : Nat} {s s' : Keyboard} {c : BitVec 16}
    (h : Sound s) (hwait : waitLoop config fuel s = some (c, s')) :
    c ≠ 0#16 ∧ Sound s' ∧ (queue s'.trace).head? = some c := by
  induction fuel generalizing s with
  | zero => cases hwait
  | succ fuel ih =>
      obtain ⟨⟨c₁, s₁⟩, hpeek, hwait⟩ := Option.bind_eq_some_iff.mp hwait
      obtain ⟨hsound, _, hcases⟩ := peek_cases h hpeek
      dsimp only at hwait
      by_cases hc : c₁ = 0#16
      · rw [if_pos hc] at hwait
        obtain ⟨s₂, hpoll, hwait⟩ := Option.bind_eq_some_iff.mp hwait
        have hserial : Polled s₁ (serialPollIf config s₁) :=
          polled_serialPollIf hsound
        exact ih (polled_pollAll hserial.sound hpoll).sound hwait
      · rw [if_neg hc] at hwait
        cases hwait
        refine ⟨hc, hsound, ?_⟩
        rcases hcases with ⟨_, hzero⟩ | ⟨hhead, hqueue⟩
        · exact absurd hzero hc
        · rw [hqueue]
          exact hhead

/-- The oldest key is removed with the event that returns it. -/
theorem Sound.popped {s : Keyboard} {c : BitVec 16} (h : Sound s)
    (hhead : (queue s.trace).head? = some c) :
    Sound (s.kbdBufferPop.log (.waited c)) := by
  have hne : queue s.trace ≠ [] := by
    intro hnil
    rw [hnil] at hhead
    cases hhead
  have hmem : s.kbdBufferPop.mem = poppedFrom s.mem := by
    unfold kbdBufferPop
    dsimp only
    split <;> rfl
  have htrace : s.kbdBufferPop.trace = s.trace := by
    unfold kbdBufferPop
    dsimp only
    split <;> rfl
  constructor
  · change Represents s.kbdBufferPop.mem (queue s.kbdBufferPop.trace).tail
    rw [hmem, htrace]
    exact represents_poppedFrom h.ring hne
  · change Ordered s.kbdBufferPop.trace ∧
      (queue s.kbdBufferPop.trace).head? = some c
    rw [htrace]
    exact ⟨h.ordered, hhead⟩
  · change Reported s.kbdBufferPop.trace ↔
      NoZeroReported s.kbdBufferPop.trace
    rw [htrace]
    exact h.reported

theorem sound_wait {fuel : Nat} {regs regs' : CallRegs} {s s' : Keyboard}
    (h : Sound s) (hwait : keyboardWait config fuel regs s = some (regs', s')) :
    regs'.ax ≠ 0#16 ∧ Sound (s'.log (.waited regs'.ax)) := by
  obtain ⟨⟨c, s₁⟩, hloop, heq⟩ := Option.map_eq_some_iff.mp hwait
  cases heq
  obtain ⟨hc, hsound, hhead⟩ := waitLoop_gives h hloop
  exact ⟨hc, hsound.popped hhead⟩

theorem sound_statusPolls {fuel : Nat} {s s' : Keyboard} (h : Sound s)
    (hpolls : statusPolls config fuel s = some s') : Sound s' := by
  obtain ⟨⟨c, s₁⟩, hpeek, heq⟩ := Option.map_eq_some_iff.mp hpolls
  have hsound := (peek_cases h hpeek).1
  dsimp only at heq
  by_cases hc : c = 0#16
  · rw [if_pos hc] at heq
    cases heq
    have hpoll : Polled s₁ (keyboardPoll config s₁).2 :=
      polled_keyboardPoll hsound
    exact (polled_serialPollIf hpoll.sound).sound
  · rw [if_neg hc] at heq
    cases heq
    exact hsound

/-- `ZF` is set for zero. -/
theorem status_zf (flags c : BitVec 16) :
    (if c ≠ 0#16 then flags &&& ~~~ZF else flags ||| ZF) &&& ZF ≠ 0#16 ↔
      c = 0#16 := by
  by_cases hc : c = 0#16
  · rw [if_neg (not_not.mpr hc), ZF, or_bit_and_bit]
    simp [hc]
  · rw [if_pos hc, ZF, and_not_bit_and_bit]
    simp [hc]

theorem sound_status {fuel : Nat} {regs regs' : CallRegs} {s s' : Keyboard}
    (h : Sound s)
    (hstatus : keyboardStatus config fuel regs s = some (regs', s')) :
    Sound (s'.log (.status (regs'.flags &&& ZF ≠ 0#16) regs'.ax)) := by
  obtain ⟨s₁, hpolls, hstatus⟩ := Option.bind_eq_some_iff.mp hstatus
  obtain ⟨⟨c, s₂⟩, hpeek, heq⟩ := Option.map_eq_some_iff.mp hstatus
  cases heq
  have h₁ := sound_statusPolls h hpolls
  obtain ⟨hsound, hlast, hcases⟩ := peek_cases h₁ hpeek
  have htells : forall zf : Bool, (zf = true ↔ c = 0#16) ->
      (StatusTells s'.trace zf c ↔
        (lastPeek s'.trace).head? ≠ some 0#16) := by
    intro zf hzf
    unfold StatusTells
    rw [hlast]
    rcases hcases with ⟨hnil, _⟩ | ⟨hhead, hqueue⟩
    · rw [hnil]
      simp
    · rw [hhead, hqueue]
      cases zf <;> simp_all
  refine ⟨hsound.ring, hsound.ordered, ?_⟩
  exact and_congr hsound.reported
    (htells _ (decide_eq_true_iff.trans (status_zf _ c)))

/-!
## Runs
-/

theorem sound_call {fuel : Nat} {c : Call} {s s' : Keyboard} (h : Sound s)
    (hcall : call config fuel c s = some s') : Sound s' := by
  cases c with
  | add key =>
      cases hcall
      exact (polled_kbdBufferAdd h key).sound
  | wait regs =>
      obtain ⟨⟨regs', s₁⟩, hwait, heq⟩ := Option.map_eq_some_iff.mp hcall
      cases heq
      exact (sound_wait h hwait).2
  | status regs =>
      obtain ⟨⟨regs', s₁⟩, hstatus, heq⟩ := Option.map_eq_some_iff.mp hcall
      cases heq
      exact sound_status h hstatus

theorem sound_run {fuel : Nat} {calls : List Call} {s s' : Keyboard}
    (h : Sound s) (hrun : run config fuel calls s = some s') : Sound s' := by
  induction calls generalizing s with
  | nil =>
      cases hrun
      exact h
  | cons c calls ih =>
      obtain ⟨s₁, hcall, hrun⟩ := Option.bind_eq_some_iff.mp hrun
      exact ih (sound_call h hcall) hrun

theorem sound_keyboardInit (s : Keyboard) : Sound s.keyboardInit := by
  refine ⟨⟨Nat.zero_le 15, 0, by decide, ?_, ?_, holds_nil _ _ _⟩, trivial,
    Iff.rfl⟩
  · exact readw_writew_same _ _ _ _
  · unfold tail keyboardInit
    dsimp only
    rw [readw_writew_apart (apart_of_toNat (by decide) (by decide)
      (by decide)), readw_writew_same]
    rfl

variable (config)

/-- The keyboard buffer is a queue of at most 15 keys. -/
structure IsFifo (s : Keyboard) : Prop where
  aligned : exists i j, i < 16 ∧ j < 16 ∧
    (head s.mem).toNat = Bda.kbdBuffer.toNat + 2 * i ∧
    (tail s.mem).toNat = Bda.kbdBuffer.toNat + 2 * j
  ordered : Ordered s.trace
  accepted_eq : accepted s.trace = returned s.trace ++ queue s.trace
  reported : Reported s.trace
  waits : forall regs key, (queue s.trace).head? = some key ->
    exists fuel regs' s',
      keyboardWait config fuel regs s = some (regs', s') ∧ regs'.ax = key

/-- A key that is not zero is there at the first peek. -/
theorem keyboardWait_oldest {s : Keyboard} (h : Sound s) (regs : CallRegs)
    {key : BitVec 16} (hhead : (queue s.trace).head? = some key)
    (hkey : key ≠ 0#16) :
    exists regs' s', keyboardWait config 1 regs s = some (regs', s') ∧
      regs'.ax = key := by
  have hne : queue s.trace ≠ [] := by
    intro hnil
    rw [hnil] at hhead
    cases hhead
  have hentry := entry_head h.ring hne
  rw [hhead] at hentry
  have hpeek : kbdBufferPeek config 0 s = some (key, s.log .peeked) := by
    unfold kbdBufferPeek
    rw [if_neg (mt (head_eq_tail_iff h.ring).mp hne), Option.some.inj hentry]
    rfl
  have hloop : waitLoop config 1 s = some (key, s.log .peeked) := by
    unfold waitLoop
    rw [hpeek]
    exact if_neg hkey
  refine ⟨{ regs with flags := regs.flags &&& ~~~CF, ax := key },
    (s.log .peeked).kbdBufferPop, ?_, rfl⟩
  unfold keyboardWait
  rw [hloop]
  rfl

/-- In every state that a run reaches, all of it holds unless a zero key is
the oldest one, now or when a status was asked for. -/
theorem run_isFifo_iff {fuel : Nat} {calls : List Call} {s s' : Keyboard}
    (h : run config fuel calls s.keyboardInit = some s') :
    IsFifo config s' ↔
      NoZeroReported s'.trace ∧ (queue s'.trace).head? ≠ some 0#16 := by
  have hsound := sound_run (sound_keyboardInit s) h
  constructor
  · intro hfifo
    refine ⟨hsound.reported.mp hfifo.reported, ?_⟩
    intro hzero
    obtain ⟨fuel', regs', s'', hwait, hax⟩ :=
      hfifo.waits ⟨0, 0, 0, 0, 0, 0⟩ 0#16 hzero
    exact (sound_wait hsound hwait).1 hax
  · rintro ⟨hreported, hzero⟩
    obtain ⟨hle, start, hstart, hhead, htail, _⟩ := hsound.ring
    refine ⟨⟨start, position 16 start (queue s'.trace).length, hstart,
      position_lt hstart (by omega), ?_, ?_⟩, hsound.ordered,
      hsound.ordered.accepted_eq, hsound.reported.mpr hreported, ?_⟩
    · rw [hhead, toNat_slot hstart]
      rfl
    · rw [htail, toNat_slot (position_lt hstart (by omega))]
      rfl
    · intro regs key hkey
      refine ⟨1, keyboardWait_oldest config hsound regs hkey ?_⟩
      rintro rfl
      exact hzero hkey

/-- A machine without keys, whose serial port has received a zero byte. -/
def zeroReceived : Keyboard where
  mem := { bytes := fun _ => 0#8, written := [] }
  leds := 0#16
  scancodes := fun _ => 0#8
  uart := fun n => if n = 0 then some 0#8 else none
  trace := []

def noRegs : CallRegs where
  bx := 0#16
  dx := 0#16
  cx := 0#16
  ax := 0#16
  es := 0#16
  flags := 0#16

def serialConsole : Config where
  keycodeMap := []
  serialStdio := true

theorem run_isFifo_iff_oneKey :
    exists s, run serialConsole 2 [.add 0x1e61#16, .wait noRegs]
        zeroReceived.keyboardInit = some s ∧
      (IsFifo serialConsole s ↔
        NoZeroReported s.trace ∧ (queue s.trace).head? ≠ some 0#16) :=
  ⟨_, rfl, @run_isFifo_iff serialConsole 2 [.add 0x1e61#16, .wait noRegs]
    zeroReceived _ rfl⟩

/-- The zero byte is in the buffer, and no key is reported. -/
theorem status_hides_zero :
    ¬ forall (config : Config) (fuel : Nat) (calls : List Call)
        (s s' : Keyboard),
      run config fuel calls s.keyboardInit = some s' -> IsFifo config s' := by
  intro h
  obtain ⟨s', hrun, htrace⟩ : exists s',
      run serialConsole 2 [.status noRegs] zeroReceived.keyboardInit =
        some s' ∧
      s'.trace = [.status true 0#16, .peeked, .added 0#16, .peeked] :=
    ⟨_, rfl, by decide⟩
  have hreported := (h serialConsole 2 _ zeroReceived s' hrun).reported
  rw [htrace] at hreported
  exact absurd (hreported.2 0#16 rfl).1 (by decide)

end Keyboard
end Bios
end S80x86
