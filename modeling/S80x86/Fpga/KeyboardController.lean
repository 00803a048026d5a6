import S80x86.Rtl.FifoQueue

/-!
# The keyboard controller and the polling driver

Scancodes wait in a FIFO behind the ports 60 and 61.  The driver reads a byte
from port 60 and, unless it is zero, writes port 61 back with its top bit set.
The controller is closed with that driver, which may pause in any cycle, and
with scancodes that arrive in any cycle.
-/

open Foundation

namespace S80x86
namespace Fpga

open Rtl

/-!
## The controller
-/

namespace PS2KeyboardController

def fifoParams : Fifo.Params := { depth := 8, fullThreshold := 2 }

theorem fifoParams_two_le_depth : 2 ≤ fifoParams.depth := by decide

theorem fifoParams_lt :
    fifoParams.depth < 2 ^ 31 ∧ fifoParams.fullThreshold < 2 ^ 31 := by
  decide

def fifoGenerics : Fifo.Generics :=
  { toParams := fifoParams
    two_le_depth := fifoParams_two_le_depth
    depth_lt := fifoParams_lt.left
    fullThreshold_lt := fifoParams_lt.right }

/-- The wires into the controller; the scancode comes from the translator. -/
structure Inputs where
  reset : Bool
  cs : Bool
  access : Bool
  wrEn : Bool
  dataIn : BitVec 16
  bytesel : BitVec 2
  scancode : BitVec 8
  scancodeValid : Bool
  txBusy : Bool
  rxError : Bool
  deriving DecidableEq, Repr

end PS2KeyboardController

structure PS2KeyboardController where
  fifo : Fifo.Registers PS2KeyboardController.fifoGenerics (BitVec 8)
  unreadError : Bool
  dataOut : BitVec 16
  ack : Bool
  speakerData : Bool
  speakerGateEn : Bool

namespace PS2KeyboardController

def Inputs.doRead (i : Inputs) : Bool := i.access && i.cs && !i.wrEn

def Inputs.doWrite (i : Inputs) : Bool := i.access && i.cs && i.wrEn

def fifoWrEn (i : Inputs) (s : PS2KeyboardController) : Bool :=
  i.scancodeValid && !s.fifo.full && i.scancode != 0#8

def fifoFlush (i : Inputs) : Bool :=
  i.doWrite && i.bytesel.getLsbD 1 && i.dataIn.getLsbD 15

def fifoRdEn (i : Inputs) (s : PS2KeyboardController) : Bool :=
  i.cs && i.wrEn && i.bytesel.getLsbD 1 && i.dataIn.getLsbD 15 &&
    !s.fifo.empty

def fifoInputs (i : Inputs) (s : PS2KeyboardController) :
    Fifo.Inputs (BitVec 8) :=
  { reset := i.reset
    flush := fifoFlush i
    wrEn := fifoWrEn i s
    wrData := i.scancode
    rdEn := fifoRdEn i s }

def status (i : Inputs) (s : PS2KeyboardController) : BitVec 8 :=
  0#3 ++ BitVec.ofBool (!s.fifo.empty) ++ BitVec.ofBool i.txBusy ++
    BitVec.ofBool s.unreadError ++ BitVec.ofBool s.speakerData ++
    BitVec.ofBool s.speakerGateEn

def data (s : PS2KeyboardController) : BitVec 8 :=
  if s.fifo.empty then 0#8 else s.fifo.rdData

/-- One clock edge. -/
def step (i : Inputs) (s : PS2KeyboardController) : PS2KeyboardController :=
  { fifo := s.fifo.step (fifoInputs i s)
    unreadError :=
      if i.reset then false
      else if i.rxError then true
      else if i.doRead && i.bytesel.getLsbD 1 then false
      else s.unreadError
    dataOut := if i.doRead then status i s ++ data s else 0#16
    ack := i.access && i.cs
    speakerData :=
      if i.reset then false
      else if i.doWrite && i.bytesel.getLsbD 1 then i.dataIn.getLsbD 9
      else s.speakerData
    speakerGateEn :=
      if i.reset then false
      else if i.doWrite && i.bytesel.getLsbD 1 then i.dataIn.getLsbD 8
      else s.speakerGateEn }

end PS2KeyboardController

/-!
## The driver
-/

namespace Keyboard

open PS2KeyboardController

/-- Where `keyboard_poll` stands: before its read of port 60, with the answer
on the bus, before and after the read of port 61, and before its write. -/
inductive Phase where
  | idle
  | readingData
  | gotData
  | readingCtrl
  | gotCtrl (ctrl : BitVec 8)
  deriving DecidableEq, Repr

/-- The driver has a byte that is still at the head of the FIFO. -/
def Phase.holdsByte : Phase -> Bool
  | .idle => false
  | .readingData => false
  | .gotData => true
  | .readingCtrl => true
  | .gotCtrl _ => true

/-- What the surroundings choose in one cycle: the keyboard's side, whether the
driver makes its next access, and what is on the bus if it does not. -/
structure Cycle where
  scancode : BitVec 8
  scancodeValid : Bool
  txBusy : Bool
  rxError : Bool
  go : Bool
  wrEn : Bool
  dataIn : BitVec 16
  bytesel : BitVec 2
  deriving DecidableEq, Repr

/--
The controller with the contents of its FIFO, the driver, the scancodes the
FIFO has accepted and the bytes the polls have returned.
-/
structure System where
  controller : PS2KeyboardController
  queue : List (BitVec 8)
  phase : Phase
  accepted : List (BitVec 8)
  delivered : List (BitVec 8)

def ctrlClear : BitVec 8 := 0x80#8

/-- The access the driver makes: lane, and the data of a write. -/
def request : Phase -> Option (BitVec 2 × Option (BitVec 8))
  | .idle => some (0b01#2, none)
  | .gotData => some (0b10#2, none)
  | .gotCtrl ctrl => some (0b10#2, some (ctrl ||| ctrlClear))
  | .readingData => none
  | .readingCtrl => none

def inputs (c : Cycle) (s : System) : Inputs :=
  match (if c.go then request s.phase else none) with
  | none =>
      { reset := false, cs := false, access := false, wrEn := c.wrEn
        dataIn := c.dataIn, bytesel := c.bytesel, scancode := c.scancode
        scancodeValid := c.scancodeValid, txBusy := c.txBusy
        rxError := c.rxError }
  | some (lane, out) =>
      { reset := false, cs := true, access := true, wrEn := out.isSome
        dataIn := out.getD 0#8 ++ c.dataIn.extractLsb' 0 8
        bytesel := lane, scancode := c.scancode
        scancodeValid := c.scancodeValid, txBusy := c.txBusy
        rxError := c.rxError }

/-- The byte that a finished read of port 60 has returned. -/
def returned (s : System) : BitVec 8 := s.controller.dataOut.extractLsb' 0 8

def nextPhase (c : Cycle) (s : System) : Phase :=
  match s.phase with
  | .idle => if c.go then .readingData else .idle
  | .readingData => if returned s == 0#8 then .idle else .gotData
  | .gotData => if c.go then .readingCtrl else .gotData
  | .readingCtrl => .gotCtrl (s.controller.dataOut.extractLsb' 8 8)
  | .gotCtrl ctrl => if c.go then .idle else .gotCtrl ctrl

def step (c : Cycle) (s : System) : System :=
  let i := inputs c s
  { controller := s.controller.step i
    queue :=
      Fifo.queueNext fifoGenerics.toParams (fifoInputs i s.controller) s.queue
    phase := nextPhase c s
    accepted :=
      if fifoWrEn i s.controller then s.accepted ++ [c.scancode]
      else s.accepted
    delivered :=
      if s.phase = .readingData ∧ returned s ≠ 0#8 then
        s.delivered ++ [returned s]
      else s.delivered }

/-- Right after a reset cycle, from any register contents. -/
def afterReset (s : PS2KeyboardController) (i : Inputs) : System :=
  { controller := s.step { i with reset := true }
    queue := []
    phase := .idle
    accepted := []
    delivered := [] }

/-- The bytes in the FIFO that no poll has returned yet. -/
def undelivered (s : System) : List (BitVec 8) :=
  if s.phase.holdsByte then s.queue.tail else s.queue

/-- The bytes returned are the accepted ones in order, and those that are
missing still wait in the FIFO. -/
def Lossless (s : System) : Prop :=
  s.accepted = s.delivered ++ undelivered s

/-- The driver writes port 61 in this cycle. -/
def Acknowledges (s : System) (c : Cycle) : Prop :=
  c.go = true ∧ exists ctrl, s.phase = .gotCtrl ctrl

/-- The write finds no byte but the one that was read, and none arrives with
it. -/
def AloneInQueue (s : System) (c : Cycle) : Prop :=
  Acknowledges s c ->
    s.queue.length ≤ 1 ∧ fifoWrEn (inputs c s) s.controller = false

/-!
## One cycle
-/

theorem inputs_reset (c : Cycle) (s : System) :
    (inputs c s).reset = false := by
  unfold inputs
  split <;> rfl

theorem inputs_scancode (c : Cycle) (s : System) :
    (inputs c s).scancode = c.scancode := by
  unfold inputs
  split <;> rfl

theorem flush_of_acknowledges {s : System} {c : Cycle}
    (h : Acknowledges s c) : fifoFlush (inputs c s) = true := by
  obtain ⟨hgo, ctrl, hphase⟩ := h
  have hbit : forall low : BitVec 8,
      ((ctrl ||| ctrlClear) ++ low).getLsbD 15 = true := by
    intro low
    rw [BitVec.getLsbD_append]
    simp [ctrlClear]
  unfold inputs
  rw [hgo, hphase]
  simp [request, fifoFlush, Inputs.doWrite, hbit]

/-- Only the driver's write selects the controller for writing. -/
theorem no_write_of_not_acknowledges {s : System} {c : Cycle}
    (h : ¬ Acknowledges s c) :
    ((inputs c s).cs && (inputs c s).wrEn) = false := by
  unfold inputs
  cases hgo : c.go with
  | false =>
      rfl
  | true =>
      cases hphase : s.phase with
      | gotCtrl ctrl =>
          exact absurd ⟨hgo, ctrl, hphase⟩ h
      | _ =>
          rfl

theorem quiet_of_not_acknowledges {s : System} {c : Cycle}
    (h : ¬ Acknowledges s c) :
    fifoFlush (inputs c s) = false ∧
      fifoRdEn (inputs c s) s.controller = false := by
  have hwrite := no_write_of_not_acknowledges h
  constructor
  · unfold fifoFlush Inputs.doWrite
    rw [Bool.and_assoc (inputs c s).access, hwrite]
    simp
  · unfold fifoRdEn
    rw [hwrite]
    simp

/-- The queue after a cycle without an acknowledge. -/
theorem queue_of_not_acknowledges {s : System} {c : Cycle}
    (hholds : s.controller.fifo.Holds s.queue) (h : ¬ Acknowledges s c) :
    (step c s).queue =
      s.queue ++
        if fifoWrEn (inputs c s) s.controller then [c.scancode] else [] := by
  obtain ⟨hflush, hread⟩ := quiet_of_not_acknowledges h
  have haccepted := hholds.accepted (fifoInputs (inputs c s) s.controller)
  have hguard : (fifoWrEn (inputs c s) s.controller && !s.controller.fifo.full) =
      fifoWrEn (inputs c s) s.controller := by
    unfold fifoWrEn
    cases s.controller.fifo.full <;> simp
  simp only [fifoInputs, hguard, inputs_scancode] at haccepted
  show Fifo.queueNext _ _ s.queue = _
  unfold Fifo.queueNext
  simp only [fifoInputs, inputs_reset, hflush, hread, Bool.or_self,
    Bool.false_eq_true, if_false, RingBuffer.next, inputs_scancode]
  rw [haccepted]

theorem queue_of_acknowledges {s : System} {c : Cycle}
    (h : Acknowledges s c) : (step c s).queue = [] := by
  show Fifo.queueNext _ _ s.queue = _
  unfold Fifo.queueNext
  simp only [fifoInputs, flush_of_acknowledges h, Bool.or_true, if_true]

/-!
## What always holds
-/

structure Inv (s : System) : Prop where
  holds : s.controller.fifo.Holds s.queue
  nonzero : forall b, b ∈ s.queue -> b ≠ 0#8
  reading : s.phase = .readingData ->
    returned s = 0#8 ∨ s.queue.head? = some (returned s)
  byte : s.phase.holdsByte = true -> s.queue ≠ []

theorem inv_afterReset (s : PS2KeyboardController) (i : Inputs) :
    Inv (afterReset s i) := by
  refine ⟨Fifo.Registers.holds_clear s.fifo (Or.inl rfl), ?_, ?_, ?_⟩
  · intro b hb
    cases hb
  · intro h
    cases h
  · intro h
    cases h

theorem nonzero_of_fifoWrEn {s : System} {c : Cycle}
    (h : fifoWrEn (inputs c s) s.controller = true) : c.scancode ≠ 0#8 := by
  unfold fifoWrEn at h
  rw [inputs_scancode] at h
  simp only [Bool.and_eq_true, bne_iff_ne, ne_eq] at h
  exact h.2

/-- A read of port 60 returns the head of the FIFO, or zero. -/
theorem returned_step {s : System} {c : Cycle} (h : Inv s)
    (hphase : s.phase = .idle) (hgo : c.go = true) :
    returned (step c s) = 0#8 ∨
      s.queue.head? = some (returned (step c s)) := by
  have hdata : returned (step c s) = data s.controller := by
    unfold returned
    show ((if (inputs c s).doRead then _ else 0#16) : BitVec 16).extractLsb' 0 8
      = _
    have hread : (inputs c s).doRead = true := by
      unfold inputs
      rw [hgo, hphase]
      rfl
    rw [if_pos hread]
    exact Bits.extractLsb'_low_append _ _
  rw [hdata]
  unfold data
  cases hempty : s.controller.fifo.empty with
  | true =>
      exact Or.inl rfl
  | false =>
      have hne : s.queue ≠ [] := fun hnil => by
        rw [h.holds.empty.mpr hnil] at hempty
        cases hempty
      exact Or.inr (h.holds.rdData hne)

/-- Appending to a queue keeps its head. -/
theorem head?_append_of_some {q new : List (BitVec 8)} {b : BitVec 8}
    (h : q.head? = some b) : (q ++ new).head? = some b := by
  rw [List.head?_append, h]
  rfl

theorem inv_step_acknowledges {s : System} {c : Cycle} (h : Inv s)
    (hack : Acknowledges s c) : Inv (step c s) := by
  have hqueue := queue_of_acknowledges hack
  have hphase : (step c s).phase = .idle := by
    obtain ⟨hgo, ctrl, hp⟩ := hack
    simp only [step, nextPhase, hp, hgo, if_true]
  refine ⟨h.holds.step _, ?_, ?_, ?_⟩
  · rw [hqueue]
    intro b hb
    cases hb
  · rw [hphase]
    intro hc
    cases hc
  · rw [hphase]
    intro hc
    cases hc

/-- Only an idle driver starts a read. -/
theorem idle_of_readingData {s : System} {c : Cycle}
    (h : nextPhase c s = .readingData) : s.phase = .idle ∧ c.go = true := by
  unfold nextPhase at h
  cases hp : s.phase with
  | idle =>
      rw [hp] at h
      cases hgo : c.go with
      | false =>
          rw [hgo] at h
          cases h
      | true =>
          exact ⟨rfl, rfl⟩
  | readingCtrl =>
      rw [hp] at h
      cases h
  | _ =>
      rw [hp] at h
      simp only at h
      split at h <;> cases h

theorem inv_step {s : System} {c : Cycle} (h : Inv s) : Inv (step c s) := by
  by_cases hack : Acknowledges s c
  · exact inv_step_acknowledges h hack
  · have hqueue := queue_of_not_acknowledges h.holds hack
    refine ⟨h.holds.step _, ?_, ?_, ?_⟩
    · rw [hqueue]
      intro b hb
      rcases List.mem_append.mp hb with hold | hnew
      · exact h.nonzero b hold
      · split at hnew
        · rename_i hwr
          rw [List.mem_singleton.mp hnew]
          exact nonzero_of_fifoWrEn hwr
        · cases hnew
    · intro hphase
      have hidle := idle_of_readingData hphase
      rcases returned_step h hidle.1 hidle.2 with hzero | hhead
      · exact Or.inl hzero
      · rw [hqueue]
        exact Or.inr (head?_append_of_some hhead)
    · intro hbyte
      rw [hqueue]
      apply List.append_ne_nil_of_left_ne_nil
      have hnext : (nextPhase c s).holdsByte = true := hbyte
      unfold nextPhase at hnext
      cases hp : s.phase with
      | idle =>
          rw [hp] at hnext
          cases hgo : c.go <;> rw [hgo] at hnext <;> cases hnext
      | readingData =>
          rw [hp] at hnext
          rcases h.reading hp with hzero | hhead
          · rw [hzero] at hnext
            cases hnext
          · intro hnil
            rw [hnil] at hhead
            cases hhead
      | gotData =>
          exact h.byte (by rw [hp]; rfl)
      | readingCtrl =>
          exact h.byte (by rw [hp]; rfl)
      | gotCtrl ctrl =>
          exact h.byte (by rw [hp]; rfl)

/-!
## What is lost
-/

theorem accepted_step (s : System) (c : Cycle) :
    (step c s).accepted =
      s.accepted ++
        if fifoWrEn (inputs c s) s.controller then [c.scancode] else [] := by
  simp only [step]
  split
  · rfl
  · rw [List.append_nil]

/-- A driver with a byte keeps it until the acknowledge. -/
theorem holdsByte_step {s : System} {c : Cycle} (hack : ¬ Acknowledges s c)
    (hbyte : s.phase.holdsByte = true) :
    (step c s).phase.holdsByte = true ∧
      (step c s).delivered = s.delivered := by
  simp only [step, nextPhase]
  cases hp : s.phase with
  | idle =>
      rw [hp] at hbyte
      cases hbyte
  | readingData =>
      rw [hp] at hbyte
      cases hbyte
  | gotData =>
      cases c.go <;> exact ⟨rfl, rfl⟩
  | readingCtrl =>
      exact ⟨rfl, rfl⟩
  | gotCtrl ctrl =>
      cases hgo : c.go with
      | false =>
          exact ⟨rfl, rfl⟩
      | true =>
          exact absurd ⟨hgo, ctrl, hp⟩ hack

/-- A driver without a byte takes the head of the queue, or nothing. -/
theorem takes_step {s : System} {c : Cycle} (h : Inv s)
    (hbyte : s.phase.holdsByte = false) :
    ((step c s).phase.holdsByte = false ∧
        (step c s).delivered = s.delivered) ∨
      exists b rest, s.queue = b :: rest ∧
        (step c s).phase.holdsByte = true ∧
        (step c s).delivered = s.delivered ++ [b] := by
  simp only [step, nextPhase]
  cases hp : s.phase with
  | idle =>
      cases c.go <;> exact Or.inl ⟨rfl, rfl⟩
  | readingData =>
      by_cases hzero : returned s = 0#8
      · rw [hzero]
        exact Or.inl ⟨rfl, rfl⟩
      · rcases h.reading hp with hc | hhead
        · exact absurd hc hzero
        · obtain ⟨rest, hrest⟩ := List.head?_eq_some_iff.mp hhead
          refine Or.inr ⟨returned s, rest, hrest, ?_, ?_⟩
          · simp only [beq_iff_eq, hzero, if_false]
            rfl
          · rw [if_pos ⟨rfl, hzero⟩]
  | _ =>
      rw [hp] at hbyte
      cases hbyte

/-- A cycle without an acknowledge loses nothing. -/
theorem lossless_step {s : System} {c : Cycle} (h : Inv s)
    (hs : Lossless s) (hack : ¬ Acknowledges s c) : Lossless (step c s) := by
  have hqueue := queue_of_not_acknowledges h.holds hack
  unfold Lossless undelivered at hs ⊢
  rw [accepted_step, hs, hqueue]
  cases hbyte : s.phase.holdsByte with
  | true =>
      obtain ⟨hnext, hdelivered⟩ := holdsByte_step hack hbyte
      rw [hnext, hdelivered, if_pos rfl, if_pos rfl,
        List.tail_append_of_ne_nil (h.byte hbyte), List.append_assoc]
  | false =>
      rcases @takes_step s c h hbyte with
        ⟨hnext, hdelivered⟩ | ⟨b, rest, hrest, hnext, hdelivered⟩
      · rw [hnext, hdelivered, List.append_assoc]
        rfl
      · rw [hnext, hdelivered, hrest]
        simp

/-- An acknowledge loses nothing just when nothing else is there. -/
theorem lossless_step_iff {s : System} {c : Cycle} (hs : Lossless s)
    (hack : Acknowledges s c) :
    Lossless (step c s) ↔
      s.queue.length ≤ 1 ∧ fifoWrEn (inputs c s) s.controller = false := by
  obtain ⟨hgo, ctrl, hp⟩ := id hack
  have hphase : (step c s).phase = .idle := by
    simp only [step, nextPhase, hp, hgo, if_true]
  have hdelivered : (step c s).delivered = s.delivered := by
    simp only [step, hp, reduceCtorEq, false_and, if_false]
  have htail : s.queue.tail = [] ↔ s.queue.length ≤ 1 := by
    rw [← List.length_eq_zero_iff, List.length_tail]
    omega
  unfold Lossless undelivered at hs ⊢
  rw [hp] at hs
  rw [accepted_step, hs, hphase, hdelivered, queue_of_acknowledges hack,
    List.append_assoc]
  simp only [Phase.holdsByte, if_true, Bool.false_eq_true, if_false,
    List.append_cancel_left_eq, List.append_eq_nil_iff, htail]
  cases fifoWrEn (inputs c s) s.controller <;> simp

/-- Where each acknowledge finds the byte alone, and only there, the polls
return the accepted scancodes in order, each of them once. -/
theorem polls_lossless_iff (s : PS2KeyboardController) (i : Inputs)
    (cycles : List Cycle) :
    Clocked.Always step Lossless (afterReset s i) cycles ↔
      Clocked.Admissible step AloneInQueue (afterReset s i) cycles := by
  have hstart : Lossless (afterReset s i) := rfl
  refine Clocked.always_iff_admissible (fun t c h => inv_step h) ?_
    (inv_afterReset s i) hstart cycles
  intro t c hinv hlossless
  by_cases hack : Acknowledges t c
  · rw [lossless_step_iff hlossless hack]
    exact ⟨fun h _ => h, fun h => h hack⟩
  · exact ⟨fun _ h => absurd h hack,
      fun _ => lossless_step hinv hlossless hack⟩

def zeroed : PS2KeyboardController :=
  { fifo := { mem := fun _ => 0#8, rdPtr := 0, wrPtr := 0, count := 0 }
    unreadError := false, dataOut := 0#16, ack := false
    speakerData := false, speakerGateEn := false }

def noInputs : Inputs :=
  { reset := false, cs := false, access := false, wrEn := false
    dataIn := 0#16, bytesel := 0#2, scancode := 0#8, scancodeValid := false
    txBusy := false, rxError := false }

/-- The driver goes on as fast as it can. -/
def polling : Cycle :=
  { scancode := 0#8, scancodeValid := false, txBusy := false, rxError := false
    go := true, wrEn := false, dataIn := 0#16, bytesel := 0#2 }

def arrives (code : BitVec 8) : Cycle :=
  { polling with scancode := code, scancodeValid := true, go := false }

/-- A key is pressed and released before the driver polls twice. -/
def pressAndRelease : List Cycle :=
  [arrives 0x1e#8, arrives 0x9e#8, polling, polling, polling, polling, polling,
    polling, polling]

instance (s : System) : Decidable (Lossless s) :=
  inferInstanceAs (Decidable (_ = _))

/-- The second poll finds the FIFO empty: the release is lost. -/
theorem polls_lose_release :
    let s := Clocked.run step (afterReset zeroed noInputs) pressAndRelease
    s.accepted = [0x1e#8, 0x9e#8] ∧ s.delivered = [0x1e#8] ∧
      s.phase = .idle ∧ s.queue = [] ∧ ¬ Lossless s := by
  decide +kernel

end Keyboard
end Fpga
end S80x86
