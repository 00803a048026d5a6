import S80x86.Foundation.Clocked
import S80x86.Rtl.Micro

/-!
# Transfers between the core and the memory

The load and store unit with the memory behind it, for one access: a word at an
odd address takes two accesses of the bus.  Whenever the memory accepts again
and again, the transfer completes and has moved the bytes that the segment and
the offset name.
-/

open Foundation Clocked Bits

namespace S80x86
namespace Rtl

/-- What the core holds while the transfer goes on. -/
structure BusTransfer where
  segment : BitVec 16
  is8Bit : Bool
  wrEn : Bool

namespace BusTransfer

structure State where
  unit : LoadStore.State
  mAck : Bool
  mDataIn : BitVec 16
  mem : Memory

variable (t : BusTransfer)

def input (s : State) : LoadStore.Input :=
  { writeMar := false
    segment := t.segment
    marIn := 0#16
    writeMdr := false
    mdrIn := 0#16
    mDataIn := s.mDataIn
    mAck := s.mAck
    io := false
    start := !s.unit.complete
    is8Bit := t.is8Bit
    wrEn := t.wrEn }

def accepted (ready : Bool) (s : State) : Bool :=
  LoadStore.mAccess (t.input s) s.unit && ready

def step (ready : Bool) (s : State) : State :=
  { unit := LoadStore.step (t.input s) s.unit
    mAck := t.accepted ready s
    mDataIn := Bus.readWord s.mem (LoadStore.mAddr (t.input s) s.unit)
    mem :=
      if t.accepted ready s && t.wrEn then
        Core.writeWord s.mem (LoadStore.mAddr (t.input s) s.unit)
          (LoadStore.mBytesel (t.input s) s.unit) (LoadStore.mDataOut s.unit)
      else s.mem }

/-!
## What a transfer does
-/

/-- The data register after the transfer. -/
def mdr (s : State) : BitVec 16 :=
  if t.wrEn then s.unit.mdr
  else if t.is8Bit then
    (Machine.loadByte s.mem t.segment s.unit.mar).setWidth 16
  else Machine.loadWord s.mem t.segment s.unit.mar

/-- The memory after the transfer. -/
def mem (s : State) : Memory :=
  if !t.wrEn then s.mem
  else if t.is8Bit then
    Machine.storeByte s.mem t.segment s.unit.mar
      (s.unit.mdr.extractLsb' 0 8)
  else Machine.storeWord s.mem t.segment s.unit.mar s.unit.mdr

/-- Nothing has been asked of the unit. -/
structure Idle (s : State) : Prop where
  fetching : s.unit.fetching = false
  secondByte : s.unit.secondByte = false
  complete : s.unit.complete = false
  ack : s.mAck = false

/-- The transfer that began in `s` has completed. -/
structure Completed (s s' : State) : Prop where
  complete : s'.unit.complete = true
  ack : s'.mAck = false
  mar : s'.unit.mar = s.unit.mar
  mdr : s'.unit.mdr = t.mdr s
  mem : s'.mem = t.mem s

/-!
## The accesses of a transfer
-/

/-- The registers while an access is awaited or has been answered. -/
structure Phase (mar mdr : BitVec 16) (mem : Memory) (second ack : Bool)
    (s : State) : Prop where
  fetching : s.unit.fetching = true
  secondByte : s.unit.secondByte = second
  complete : s.unit.complete = false
  ack : s.mAck = ack
  mar : s.unit.mar = mar
  mdr : s.unit.mdr = mdr
  mem : s.mem = mem

def address (mar : BitVec 16) (second : Bool) : BitVec 19 :=
  Bus.wordAddress t.segment mar + (BitVec.ofBool second).setWidth 19

/-- The memory after an access has been accepted. -/
def accessMem (mar mdr : BitVec 16) (mem : Memory) (second : Bool) : Memory :=
  let odd := mar.getLsbD 0
  Core.writeWord mem (t.address mar second)
    (if !t.is8Bit && !odd then (true, true)
      else if odd && !second then (true, false) else (false, true))
    (if odd && !second then mdr.extractLsb' 0 8 ++ 0#8
      else if odd && second then 0#8 ++ mdr.extractLsb' 8 8 else mdr)

variable {t}

theorem Phase.step_wait {mar mdr : BitVec 16} {mem : Memory} {second : Bool}
    {s : State} (h : Phase mar mdr mem second false s) (ready : Bool) :
    Phase mar mdr
        (if ready && t.wrEn then t.accessMem mar mdr mem second else mem)
        second ready (t.step ready s) ∧
      (t.step ready s).mDataIn =
        Bus.readWord mem (t.address mar second) := by
  have hacc : t.accepted ready s = ready := by
    simp [accepted, LoadStore.mAccess, LoadStore.active, input, h.complete,
      h.ack]
  have haddr : LoadStore.mAddr (t.input s) s.unit = t.address mar second := by
    simp [LoadStore.mAddr, input, address, h.mar, h.secondByte]
  refine ⟨⟨?_, ?_, ?_, hacc, ?_, ?_, ?_⟩, ?_⟩
  · simp [step, LoadStore.step, input, h.complete]
  · simp [step, LoadStore.step, input, h.complete, h.ack, h.fetching,
      h.secondByte]
  · simp [step, LoadStore.step, input, h.ack]
  · simp [step, LoadStore.step, input, h.mar]
  · simp [step, LoadStore.step, LoadStore.nextMdr, input, h.ack, h.fetching,
      h.mdr]
  · show (if t.accepted ready s && t.wrEn then _ else _) = _
    rw [hacc, haddr, h.mem]
    unfold accessMem LoadStore.mBytesel LoadStore.mDataOut
    simp only [LoadStore.State.unaligned, h.mar, h.mdr, h.secondByte]
    rfl
  · show Bus.readWord s.mem (LoadStore.mAddr (t.input s) s.unit) = _
    rw [haddr, h.mem]

/-- The first cycle presents the access like the cycles of a wait, and clears
the data register for a load. -/
theorem step_idle {s : State} (h : Idle s) (ready : Bool) :
    Phase s.unit.mar (if t.wrEn then s.unit.mdr else 0#16)
        (if ready && t.wrEn then
          t.accessMem s.unit.mar s.unit.mdr s.mem false else s.mem)
        false ready (t.step ready s) ∧
      (t.step ready s).mDataIn =
        Bus.readWord s.mem (t.address s.unit.mar false) := by
  have hacc : t.accepted ready s = ready := by
    simp [accepted, LoadStore.mAccess, LoadStore.active, input, h.complete,
      h.ack]
  have haddr : LoadStore.mAddr (t.input s) s.unit =
      t.address s.unit.mar false := by
    simp [LoadStore.mAddr, input, address, h.secondByte]
  refine ⟨⟨?_, ?_, ?_, hacc, ?_, ?_, ?_⟩, ?_⟩
  · simp [step, LoadStore.step, input, h.complete]
  · simp [step, LoadStore.step, input, h.complete, h.ack, h.fetching]
  · simp [step, LoadStore.step, input, h.ack]
  · simp [step, LoadStore.step, input]
  · cases hw : t.wrEn <;>
      simp [step, LoadStore.step, LoadStore.nextMdr, input, h.ack, h.fetching,
        h.complete, hw]
  · show (if t.accepted ready s && t.wrEn then _ else _) = _
    rw [hacc, haddr]
    unfold accessMem LoadStore.mBytesel LoadStore.mDataOut
    simp only [LoadStore.State.unaligned, h.secondByte]
    rfl
  · show Bus.readWord s.mem (LoadStore.mAddr (t.input s) s.unit) = _
    rw [haddr]

/-- What an answer leaves in the data register. -/
def answered (t : BusTransfer) (mar mdr data : BitVec 16) (second : Bool) :
    BitVec 16 :=
  if t.wrEn then mdr
  else if !mar.getLsbD 0 then
    if t.is8Bit then (data.extractLsb' 0 8).setWidth 16 else data
  else if !second then mdr.extractLsb' 8 8 ++ data.extractLsb' 8 8
  else data.extractLsb' 0 8 ++ mdr.extractLsb' 0 8

theorem Phase.mdr_ack {mar mdr : BitVec 16} {mem : Memory} {second : Bool}
    {s : State} (h : Phase mar mdr mem second true s) (ready : Bool) :
    (t.step ready s).unit.mdr = t.answered mar mdr s.mDataIn second := by
  show LoadStore.nextMdr (t.input s) s.unit = _
  unfold LoadStore.nextMdr answered
  simp only [input, LoadStore.State.unaligned, h.mar, h.mdr, h.ack, h.fetching,
    h.secondByte, h.complete]
  cases t.wrEn <;> cases mar.getLsbD 0 <;> cases second <;> simp

/-- The answer that completes the transfer. -/
theorem Phase.step_last {mar mdr : BitVec 16} {mem : Memory} {second : Bool}
    {s : State} (h : Phase mar mdr mem second true s) (ready : Bool)
    (hlast : t.is8Bit = true ∨ mar.getLsbD 0 = false ∨ second = true) :
    (t.step ready s).unit.complete = true ∧ (t.step ready s).mAck = false ∧
      (t.step ready s).unit.mar = mar ∧ (t.step ready s).mem = mem := by
  have hacc : t.accepted ready s = false := by
    simp [accepted, LoadStore.mAccess, input, h.ack]
  refine ⟨?_, hacc, ?_, ?_⟩
  · simp only [step, LoadStore.step, LoadStore.State.unaligned, input, h.ack,
      h.mar, h.secondByte]
    revert hlast
    cases t.is8Bit <;> cases mar.getLsbD 0 <;> cases second <;> simp
  · simp [step, LoadStore.step, input, h.mar]
  · show (if t.accepted ready s && t.wrEn then _ else s.mem) = _
    rw [hacc]
    exact h.mem

/-- The answer to the first of two accesses. -/
theorem Phase.step_first {mar mdr : BitVec 16} {mem : Memory} {s : State}
    (h : Phase mar mdr mem false true s) (ready : Bool)
    (h8 : t.is8Bit = false) (hodd : mar.getLsbD 0 = true) :
    Phase mar (t.answered mar mdr s.mDataIn false) mem true false
      (t.step ready s) := by
  have hacc : t.accepted ready s = false := by
    simp [accepted, LoadStore.mAccess, input, h.ack]
  refine ⟨?_, ?_, ?_, hacc, ?_, h.mdr_ack ready, ?_⟩
  · simp [step, LoadStore.step, input, h.complete]
  · simp [step, LoadStore.step, LoadStore.State.unaligned, input, h.ack, h.mar,
      hodd, h.secondByte, h8]
  · simp [step, LoadStore.step, LoadStore.State.unaligned, input, h.mar, hodd,
      h.secondByte, h8]
  · simp [step, LoadStore.step, input, h.mar]
  · show (if t.accepted ready s && t.wrEn then _ else s.mem) = _
    rw [hacc]
    exact h.mem

/-!
## The bytes that are moved
-/

theorem accessMem_even (mar mdr : BitVec 16) (mem : Memory)
    (heven : mar.getLsbD 0 = false) :
    t.accessMem mar mdr mem false =
      if t.is8Bit then
        Machine.storeByte mem t.segment mar (mdr.extractLsb' 0 8)
      else Machine.storeWord mem t.segment mar mdr := by
  have hlow : Bus.lowByteAddress (Bus.wordAddress t.segment mar) =
      Bus.linear t.segment mar :=
    Bus.lowByteAddress_wordAddress heven
  have hhigh : Bus.highByteAddress (Bus.wordAddress t.segment mar) =
      Bus.linear t.segment mar + 1#20 :=
    Bus.highByteAddress_of_even heven
  funext a
  simp only [accessMem, heven]
  cases t.is8Bit <;>
    simp [Core.writeWord, address, hlow, hhigh, Machine.storeByte,
      Machine.storeWord]

theorem accessMem_odd (mar mdr : BitVec 16) (mem : Memory)
    (hodd : mar.getLsbD 0 = true) :
    t.accessMem mar mdr mem false =
      Machine.storeByte mem t.segment mar (mdr.extractLsb' 0 8) := by
  have hhigh : Bus.highByteAddress (Bus.wordAddress t.segment mar) =
      Bus.linear t.segment mar :=
    Bus.highByteAddress_wordAddress hodd
  funext a
  simp only [accessMem, hodd]
  simp [Core.writeWord, address, hhigh, Machine.storeByte]

theorem accessMem_second (mar mdr : BitVec 16) (mem : Memory)
    (hodd : mar.getLsbD 0 = true) :
    t.accessMem mar mdr
        (Machine.storeByte mem t.segment mar (mdr.extractLsb' 0 8)) true =
      Machine.storeWord mem t.segment mar mdr := by
  have hlow : Bus.lowByteAddress (Bus.wordAddress t.segment mar + 1#19) =
      Bus.linear t.segment mar + 1#20 :=
    Bus.lowByteAddress_of_odd hodd
  funext a
  simp only [accessMem, hodd]
  simp [Core.writeWord, address, hlow, Machine.storeWord]

theorem readWord_eq (mem : Memory) (a : BitVec 19) :
    Bus.readWord mem a =
      mem (Bus.highByteAddress a) ++ mem (Bus.lowByteAddress a) := by
  rw [<- Bus.readWord_high mem, <- Bus.readWord_low mem]
  exact (append_halves _).symm

theorem answered_even (mar mdr : BitVec 16) (mem : Memory)
    (hwr : t.wrEn = false) (heven : mar.getLsbD 0 = false) :
    t.answered mar mdr (Bus.readWord mem (t.address mar false)) false =
      if t.is8Bit then (Machine.loadByte mem t.segment mar).setWidth 16
      else Machine.loadWord mem t.segment mar := by
  have hlow : Bus.lowByteAddress (Bus.wordAddress t.segment mar) =
      Bus.linear t.segment mar :=
    Bus.lowByteAddress_wordAddress heven
  have hhigh : Bus.highByteAddress (Bus.wordAddress t.segment mar) =
      Bus.linear t.segment mar + 1#20 :=
    Bus.highByteAddress_of_even heven
  simp only [answered, hwr, heven, readWord_eq]
  simp [address, hlow, hhigh, Machine.loadByte, Machine.loadWord]

theorem answered_odd (mar : BitVec 16) (mem : Memory)
    (hwr : t.wrEn = false) (hodd : mar.getLsbD 0 = true) :
    t.answered mar 0#16 (Bus.readWord mem (t.address mar false)) false =
      (Machine.loadByte mem t.segment mar).setWidth 16 := by
  have hhigh : Bus.highByteAddress (Bus.wordAddress t.segment mar) =
      Bus.linear t.segment mar :=
    Bus.highByteAddress_wordAddress hodd
  simp only [answered, hwr, hodd, readWord_eq]
  simp [address, hhigh, Machine.loadByte]

theorem answered_second (mar : BitVec 16) (mem : Memory)
    (hwr : t.wrEn = false) (hodd : mar.getLsbD 0 = true) :
    t.answered mar ((Machine.loadByte mem t.segment mar).setWidth 16)
        (Bus.readWord mem (t.address mar true)) true =
      Machine.loadWord mem t.segment mar := by
  have hlow : Bus.lowByteAddress (Bus.wordAddress t.segment mar + 1#19) =
      Bus.linear t.segment mar + 1#20 :=
    Bus.lowByteAddress_of_odd hodd
  simp only [answered, hwr, hodd, readWord_eq]
  simp [address, hlow, Machine.loadByte, Machine.loadWord]

/-!
## The whole transfer
-/

/-- The transfer is still going on. -/
def Busy (s : State) : Prop := s.unit.complete = false

theorem completes_last {s s' : State} {mdr : BitVec 16} {second : Bool}
    {mem : Memory} (inputs : Nat -> Bool)
    (h : Phase s.unit.mar mdr mem second true s')
    (hlast : t.is8Bit = true ∨ s.unit.mar.getLsbD 0 = false ∨ second = true)
    (hmem : mem = t.mem s)
    (hmdr : t.answered s.unit.mar mdr s'.mDataIn second = t.mdr s) :
    Reaches t.step Busy (t.Completed s) inputs s' := by
  rcases h.step_last (t := t) (inputs 0) hlast with ⟨hc, hack, hmar, hmem'⟩
  refine Reaches.later (show Busy s' from h.complete) (Reaches.now ?_)
  refine ⟨hc, hack, hmar, ?_, hmem'.trans hmem⟩
  rw [h.mdr_ack]
  exact hmdr

/-- An access that is awaited is answered. -/
theorem Phase.reaches_ack {mar mdr : BitVec 16} {mem : Memory} {second : Bool}
    {s : State} {inputs : Nat -> Bool} (h : Phase mar mdr mem second false s)
    (hready : Recurs (fun r => r = true) inputs) :
    Reaches t.step Busy
      (fun s' =>
        Phase mar mdr (if t.wrEn then t.accessMem mar mdr mem second else mem)
            second true s' ∧
          s'.mDataIn = Bus.readWord mem (t.address mar second))
      inputs s := by
  refine hready.reaches ?_ ?_ h
  · intro i s' hwait hi
    have hstep := hwait.step_wait (t := t) i
    subst hi
    exact ⟨hwait.complete, hstep⟩
  · intro i s' hwait hi
    have hstep := hwait.step_wait (t := t) i
    rw [Bool.not_eq_true] at hi
    subst hi
    exact ⟨hwait.complete, hstep.left⟩

/-- The answer to the first access leads to the end of the transfer. -/
theorem reaches_completed {s s' : State} {inputs : Nat -> Bool}
    (hready : Recurs (fun r => r = true) inputs)
    (h : Phase s.unit.mar (if t.wrEn then s.unit.mdr else 0#16)
      (if t.wrEn then t.accessMem s.unit.mar s.unit.mdr s.mem false
        else s.mem) false true s')
    (hdata : s'.mDataIn =
      Bus.readWord s.mem (t.address s.unit.mar false)) :
    Reaches t.step Busy (t.Completed s) inputs s' := by
  cases hodd : s.unit.mar.getLsbD 0 with
  | false =>
      apply completes_last inputs h (Or.inr (Or.inl hodd))
      · unfold BusTransfer.mem
        cases hw : t.wrEn with
        | false =>
            rfl
        | true =>
            simp [accessMem_even _ _ _ hodd]
      · unfold BusTransfer.mdr
        rw [hdata]
        cases hw : t.wrEn with
        | false =>
            simp [answered_even _ _ _ hw hodd]
        | true =>
            simp [answered, hw]
  | true =>
      cases h8 : t.is8Bit with
      | true =>
          apply completes_last inputs h (Or.inl h8)
          · unfold BusTransfer.mem
            cases hw : t.wrEn with
            | false =>
                rfl
            | true =>
                simp [accessMem_odd _ _ _ hodd, h8]
          · unfold BusTransfer.mdr
            rw [hdata]
            cases hw : t.wrEn with
            | false =>
                simp [answered_odd _ _ hw hodd, h8]
            | true =>
                simp [answered, hw]
      | false =>
          have hnext := h.step_first (t := t) (inputs 0) h8 hodd
          refine Reaches.later (show Busy s' from h.complete) ?_
          apply (hnext.reaches_ack (hready.after 1)).trans
          intro n hack
          apply completes_last _ hack.left (Or.inr (Or.inr rfl))
          · unfold BusTransfer.mem
            cases hw : t.wrEn with
            | false =>
                rfl
            | true =>
                simp [answered, hw, accessMem_odd _ _ _ hodd,
                  accessMem_second _ _ _ hodd, h8]
          · unfold BusTransfer.mdr
            rw [hack.right, hdata]
            cases hw : t.wrEn with
            | false =>
                simp [answered_odd _ _ hw hodd, answered_second _ _ hw hodd, h8]
            | true =>
                simp [answered, hw]

theorem completes {s : State} (h : Idle s) {inputs : Nat -> Bool}
    (hready : Recurs (fun r => r = true) inputs) :
    Reaches t.step Busy (t.Completed s) inputs s := by
  have hstep := step_idle (t := t) h (inputs 0)
  refine Reaches.later (show Busy s from h.complete) ?_
  cases hr : inputs 0 with
  | true =>
      rw [hr] at hstep
      exact reaches_completed (hready.after 1) hstep.left hstep.right
  | false =>
      rw [hr] at hstep
      apply (hstep.left.reaches_ack (hready.after 1)).trans
      intro n hack
      apply reaches_completed ((hready.after 1).after n)
      · cases hw : t.wrEn with
        | false =>
            simpa [hw] using hack.left
        | true =>
            simpa [hw] using hack.left
      · exact hack.right

end BusTransfer
end Rtl
end S80x86
