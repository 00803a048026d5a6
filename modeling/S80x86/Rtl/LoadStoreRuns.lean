import S80x86.Rtl.BusTransfer

/-!
# Runs of the load and store unit

A master gives the unit one thing to do after another: registers to write or an
access of the memory or of the ports, which it keeps up until the unit
completes. Whatever the bus takes to answer, the unit is left as if the accesses
had been done at once.
-/

open Foundation Clocked

namespace S80x86
namespace Rtl
namespace LoadStore

/-- An access. -/
structure Access where
  io : Bool
  segment : BitVec 16
  is8Bit : Bool
  wrEn : Bool

/-- What is written to the registers of the unit. -/
structure Writes where
  mar : Option (BitVec 16)
  mdr : Option (BitVec 16)

/-- One thing to do; an access can be followed by writes to the registers in
the cycle that completes it. -/
inductive Command where
  | set (w : Writes)
  | access (a : Access) (w : Writes)

/-- The unit with the memory and the ports behind it. -/
structure System where
  unit : State
  mAck : Bool
  mDataIn : BitVec 16
  mem : Memory
  ports : Memory

/-- The environment of a cycle: whether the bus accepts an access, and whether
the master goes on to ask for one that is under way. -/
structure Env where
  ready : Bool
  hold : Bool

namespace System

/-- The bytes that an access can reach. -/
def space (io : Bool) (s : System) : Memory :=
  if io then s.ports else s.mem

def setSpace (io : Bool) (bytes : Memory) (s : System) : System :=
  if io then { s with ports := bytes } else { s with mem := bytes }

/-- The inputs of the unit. -/
def input (c : Command) (e : Env) (s : System) : Input :=
  match c with
  | .set w =>
      { writeMar := w.mar.isSome, segment := 0#16, marIn := w.mar.getD 0#16
        writeMdr := w.mdr.isSome, mdrIn := w.mdr.getD 0#16
        mDataIn := s.mDataIn, mAck := s.mAck, io := false, start := false
        is8Bit := false, wrEn := false }
  | .access a w =>
      { writeMar := w.mar.isSome && s.unit.complete, segment := a.segment
        marIn := w.mar.getD 0#16
        writeMdr := w.mdr.isSome && s.unit.complete, mdrIn := w.mdr.getD 0#16
        mDataIn := s.mDataIn, mAck := s.mAck, io := a.io
        start := (!s.unit.fetching || e.hold) && !s.unit.complete
        is8Bit := a.is8Bit, wrEn := a.wrEn }

/-- A clock edge of the unit and of the bus behind it. -/
def step (c : Command) (e : Env) (s : System) : System :=
  let i := input c e s
  let accepted := mAccess i s.unit && e.ready
  let a := mAddr i s.unit
  let bytes := s.space i.io
  let s' :=
    { s with
      unit := LoadStore.step i s.unit
      mAck := accepted
      mDataIn := Bus.readWord bytes a }
  if accepted && i.wrEn then
    s'.setSpace i.io
      (Core.writeWord bytes a (mBytesel i s.unit) (mDataOut s.unit))
  else s'

/-- Nothing is asked of the unit, and the bus owes no answer. -/
structure Idle (s : System) : Prop where
  fetching : s.unit.fetching = false
  secondByte : s.unit.secondByte = false
  complete : s.unit.complete = false
  ack : s.mAck = false

end System

/-!
## What the unit is for
-/

/-- The registers and the bytes, without the progress of an access. -/
structure Contents where
  mar : BitVec 16
  mdr : BitVec 16
  mem : Memory
  ports : Memory

def System.contents (s : System) : Contents :=
  { mar := s.unit.mar, mdr := s.unit.mdr, mem := s.mem, ports := s.ports }

namespace Contents

def write (w : Writes) (c : Contents) : Contents :=
  { c with mar := w.mar.getD c.mar, mdr := w.mdr.getD c.mdr }

/-- The address of the first byte of an access; ports have no segment. -/
def first (a : Access) (c : Contents) : BitVec 20 :=
  if a.io then c.mar.setWidth 20 else Bus.linear a.segment c.mar

/-- The byte at the address, and for a word the next one. -/
def load (a : Access) (bytes : Memory) (c : Contents) : BitVec 16 :=
  if a.is8Bit then (bytes (c.first a)).setWidth 16
  else bytes (c.first a + 1#20) ++ bytes (c.first a)

/-- The byte at the address, and for a word the next one, are replaced. -/
def store (a : Access) (bytes : Memory) (c : Contents) : Memory :=
  fun n =>
    if n = c.first a + 1#20 ∧ a.is8Bit = false then c.mdr.extractLsb' 8 8
    else if n = c.first a then c.mdr.extractLsb' 0 8
    else bytes n

/-- An access done at once. -/
def access (a : Access) (c : Contents) : Contents :=
  match a.wrEn, a.io with
  | true, true => { c with ports := c.store a c.ports }
  | true, false => { c with mem := c.store a c.mem }
  | false, true => { c with mdr := c.load a c.ports }
  | false, false => { c with mdr := c.load a c.mem }

end Contents

/-- The cycles of one command after another. An access keeps the unit busy
until the one cycle that completes it; in that cycle the registers and the bytes
are as if it had been done at once, and after it the unit is idle. -/
def Serves : List Command -> (Nat -> Env) -> System -> Prop
  | [], _, s => s.Idle
  | .set w :: rest, inputs, s =>
      s.Idle ∧ busy (s.input (.set w) (inputs 0)) s.unit = false ∧
        (s.step (.set w) (inputs 0)).contents = s.contents.write w ∧
        Serves rest (after inputs 1) (s.step (.set w) (inputs 0))
  | .access a w :: rest, inputs, s =>
      s.Idle ∧ exists n,
        (forall k, k < n ->
          let s' := trace (System.step (.access a w)) inputs s k
          busy (s'.input (.access a w) (inputs k)) s'.unit = true ∧
            s'.unit.complete = false) ∧
        let s' := trace (System.step (.access a w)) inputs s n
        s'.unit.complete = true ∧
          busy (s'.input (.access a w) (inputs n)) s'.unit = false ∧
          s'.contents = s.contents.access a ∧
          (s'.step (.access a w) (inputs n)).contents =
            (s.contents.access a).write w ∧
          Serves rest (after inputs (n + 1)) (s'.step (.access a w) (inputs n))

/-!
## One access
-/

namespace System

/-- The transfer that an access makes. -/
def transfer (a : Access) : BusTransfer :=
  { segment := if a.io then 0#16 else a.segment, is8Bit := a.is8Bit
    wrEn := a.wrEn }

/-- The part of the system that takes part in an access. -/
def view (a : Access) (s : System) : BusTransfer.State :=
  { unit := s.unit, mAck := s.mAck, mDataIn := s.mDataIn
    mem := s.space a.io }

theorem wordAddress_zero (mar : BitVec 16) :
    Bus.wordAddress 0#16 mar = (mar.extractLsb' 1 15).setWidth 19 := by
  simp [Bus.wordAddress]

theorem linear_zero (mar : BitVec 16) :
    Bus.linear 0#16 mar = mar.setWidth 20 := by
  simp [Bus.linear]

theorem mAddr_access (a : Access) (w : Writes) (e : Env) (s : System) :
    mAddr (s.input (.access a w) e) s.unit =
      mAddr ((transfer a).input (s.view a)) s.unit := by
  cases hio : a.io <;>
    simp [mAddr, input, transfer, BusTransfer.input, hio, wordAddress_zero]

theorem active_access {s : System} (h : s.unit.complete = false) (a : Access)
    (w : Writes) (e : Env) :
    active (s.input (.access a w) e) s.unit = true := by
  cases hf : s.unit.fetching <;> simp [active, input, h, hf]

/-- While the access goes on, the unit steps as in the transfer, whether the
master goes on to ask or not. -/
theorem unit_access {s : System} (h : s.unit.complete = false) (a : Access)
    (w : Writes) (e : Env) :
    LoadStore.step (s.input (.access a w) e) s.unit =
      LoadStore.step ((transfer a).input (s.view a)) s.unit := by
  cases hf : s.unit.fetching <;>
    simp [LoadStore.step, nextMdr, input, transfer, BusTransfer.input, view, h,
      hf]

theorem accepted_access {s : System} (h : s.unit.complete = false) (a : Access)
    (w : Writes) (e : Env) :
    (mAccess (s.input (.access a w) e) s.unit && e.ready) =
      (transfer a).accepted e.ready (s.view a) := by
  have hactive := active_access h a w e
  have hview : active ((transfer a).input (s.view a)) s.unit = true := by
    simp [active, BusTransfer.input, view, h]
  show (active _ s.unit && _ && _) = (active _ s.unit && _ && _)
  rw [hactive, hview]
  rfl

theorem view_setSpace (a : Access) (bytes : Memory) (s : System) :
    (s.setSpace a.io bytes).view a = { s.view a with mem := bytes } := by
  cases hio : a.io <;> simp [view, setSpace, space, hio]

theorem space_setSpace_other (io : Bool) (bytes : Memory) (s : System) :
    (s.setSpace io bytes).space (!io) = s.space (!io) := by
  cases io <;> rfl

theorem view_step {s : System} (h : s.unit.complete = false) (a : Access)
    (w : Writes) (e : Env) :
    (s.step (.access a w) e).view a = (transfer a).step e.ready (s.view a) := by
  have hunit := unit_access h a w e
  have haddr := mAddr_access a w e s
  have hacc := accepted_access h a w e
  have hio : (s.input (.access a w) e).io = a.io := rfl
  have hwr : (s.input (.access a w) e).wrEn = (transfer a).wrEn := rfl
  unfold step BusTransfer.step
  simp only [hunit, haddr, hacc, hio, hwr]
  cases (transfer a).accepted e.ready (s.view a) && (transfer a).wrEn with
  | false =>
      rfl
  | true =>
      simp only [if_true]
      rw [view_setSpace]
      rfl

theorem other_step (a : Access) (w : Writes) (e : Env) (s : System) :
    (s.step (.access a w) e).space (!a.io) = s.space (!a.io) := by
  unfold step
  simp only
  split
  next =>
    exact space_setSpace_other a.io _ _
  next =>
    rfl

/-- The trace of an access is the trace of its transfer until it completes. -/
theorem view_trace (a : Access) (w : Writes) (inputs : Nat -> Env) (s : System)
    (n : Nat)
    (h : forall k, k < n ->
      BusTransfer.Busy (trace (transfer a).step (fun k => (inputs k).ready)
        (s.view a) k)) :
    (trace (step (.access a w)) inputs s n).view a =
        trace (transfer a).step (fun k => (inputs k).ready) (s.view a) n ∧
      (trace (step (.access a w)) inputs s n).space (!a.io) =
        s.space (!a.io) := by
  induction n with
  | zero =>
      exact ⟨rfl, rfl⟩
  | succ n ih =>
      obtain ⟨hview, hother⟩ := ih (fun k hk => h k (by omega))
      have hbusy := h n (by omega)
      rw [← hview] at hbusy
      refine ⟨?_, (other_step a w _ _).trans hother⟩
      show view a (step (.access a w) (inputs n) _) = _
      rw [view_step hbusy, hview]
      rfl

/-- The unit after the cycle that completes an access. -/
theorem step_complete {s : System} (h : s.unit.complete = true)
    (hack : s.mAck = false) (a : Access) (w : Writes) (e : Env) :
    busy (s.input (.access a w) e) s.unit = false ∧
      (s.step (.access a w) e).Idle ∧
      (s.step (.access a w) e).contents = s.contents.write w := by
  have hactive : active (s.input (.access a w) e) s.unit = false := by
    simp [active, h]
  have hstep :
      s.step (.access a w) e =
        { s with
          unit := LoadStore.step (s.input (.access a w) e) s.unit
          mAck := false
          mDataIn :=
            Bus.readWord (s.space a.io)
              (mAddr (s.input (.access a w) e) s.unit) } := by
    simp [step, mAccess, hactive]
    rfl
  refine ⟨hactive, ?_, ?_⟩
  · rw [hstep]
    constructor <;> simp [LoadStore.step, input, h, hack]
  · rw [hstep]
    cases hmar : w.mar <;> cases hmdr : w.mdr <;>
      simp [contents, Contents.write, LoadStore.step, nextMdr, input, h, hack,
        hmar, hmdr]

theorem step_set {s : System} (h : s.Idle) (w : Writes) (e : Env) :
    busy (s.input (.set w) e) s.unit = false ∧ (s.step (.set w) e).Idle ∧
      (s.step (.set w) e).contents = s.contents.write w := by
  have hactive : active (s.input (.set w) e) s.unit = false := by
    simp [active, input, h.fetching, h.secondByte]
  have hstep :
      s.step (.set w) e =
        { s with
          unit := LoadStore.step (s.input (.set w) e) s.unit
          mAck := false
          mDataIn :=
            Bus.readWord s.mem (mAddr (s.input (.set w) e) s.unit) } := by
    simp [step, mAccess, hactive]
    rfl
  refine ⟨hactive, ?_, ?_⟩
  · rw [hstep]
    constructor <;>
      simp [LoadStore.step, input, h.fetching, h.secondByte, h.complete, h.ack]
  · rw [hstep]
    cases hmar : w.mar <;> cases hmdr : w.mdr <;>
      simp [contents, Contents.write, LoadStore.step, nextMdr, input, h.ack,
        hmar, hmdr]

theorem load_transfer (a : Access) (s : System) :
    (if a.is8Bit then
      (Machine.loadByte (s.space a.io) (transfer a).segment
        s.unit.mar).setWidth 16
    else
      Machine.loadWord (s.space a.io) (transfer a).segment s.unit.mar) =
      s.contents.load a (s.space a.io) := by
  cases hio : a.io <;>
    simp [Contents.load, Contents.first, Machine.loadByte, Machine.loadWord,
      transfer, contents, hio, linear_zero]

theorem store_transfer (a : Access) (s : System) :
    (if a.is8Bit then
      Machine.storeByte (s.space a.io) (transfer a).segment s.unit.mar
        (s.unit.mdr.extractLsb' 0 8)
    else
      Machine.storeWord (s.space a.io) (transfer a).segment s.unit.mar
        s.unit.mdr) =
      s.contents.store a (s.space a.io) := by
  cases hio : a.io <;> cases h8 : a.is8Bit <;> funext n <;>
    simp [Contents.store, Contents.first, Machine.storeByte, Machine.storeWord,
      transfer, contents, hio, h8, linear_zero]

/-- A completed transfer has done the access. -/
theorem contents_completed {a : Access} {s s' : System}
    (h : (transfer a).Completed (s.view a) (s'.view a))
    (hother : s'.space (!a.io) = s.space (!a.io)) :
    s'.contents = s.contents.access a := by
  have hmar : s'.unit.mar = s.unit.mar := h.mar
  have hmdr :
      s'.unit.mdr =
        if a.wrEn then s.unit.mdr else s.contents.load a (s.space a.io) := by
    rw [← load_transfer]
    exact h.mdr
  have hmem :
      s'.space a.io =
        if a.wrEn then s.contents.store a (s.space a.io)
        else s.space a.io := by
    rw [← store_transfer]
    refine Eq.trans h.mem ?_
    unfold BusTransfer.mem
    cases hwr : a.wrEn <;> simp [transfer, view, hwr]
  cases hwr : a.wrEn <;> cases hio : a.io <;>
    simp_all [contents, Contents.access, space]

end System

/-- Every list of commands is served, whatever the bus takes to accept. -/
theorem load_store_serves (commands : List Command) {inputs : Nat -> Env}
    (hready : Recurs (fun e => e.ready = true) inputs) {s : System}
    (h : s.Idle) : Serves commands inputs s := by
  induction commands generalizing inputs s with
  | nil =>
      exact h
  | cons c rest ih =>
      cases c with
      | set w =>
          obtain ⟨hBusy, hIdle, hContents⟩ := System.step_set h w (inputs 0)
          exact ⟨h, hBusy, hContents, ih (hready.after 1) hIdle⟩
      | access a w =>
          have hview : BusTransfer.Idle (s.view a) :=
            ⟨h.fetching, h.secondByte, h.complete, h.ack⟩
          have hrecurs :
              Recurs (fun r => r = true) (fun k => (inputs k).ready) := hready
          obtain ⟨n, hBusy, hDone⟩ :=
            BusTransfer.completes (t := System.transfer a) hview hrecurs
          obtain ⟨hTrace, hOther⟩ := System.view_trace a w inputs s n hBusy
          rw [← hTrace] at hDone
          have hContents := System.contents_completed hDone hOther
          obtain ⟨hFree, hIdle, hWritten⟩ :=
            System.step_complete hDone.complete hDone.ack a w (inputs n)
          refine ⟨h, n, ?_, hDone.complete, hFree, hContents, ?_,
            ih (hready.after (n + 1)) hIdle⟩
          · intro k hk
            have hk' := hBusy k hk
            rw [← (System.view_trace a w inputs s k
              (fun j hj => hBusy j (by omega))).1] at hk'
            exact ⟨System.active_access hk' a w (inputs k), hk'⟩
          · rw [hWritten, hContents]

/-- A word stored at an odd offset and loaded back as a byte from a port. -/
theorem load_store_serves_odd :
    Serves
      [.set ⟨some 0x0001#16, some 0x1234#16⟩,
        .access ⟨false, 0xffff#16, false, true⟩ ⟨none, none⟩,
        .access ⟨true, 0xffff#16, true, false⟩ ⟨some 0x0002#16, none⟩]
      (fun k => ⟨k % 3 = 0, k % 2 = 0⟩)
      ⟨⟨0#16, 0#16, false, false, false⟩, false, 0#16, fun _ => 0#8,
        fun _ => 0x5a#8⟩ := by
  apply load_store_serves
  · intro n
    refine ⟨2 * n, ?_⟩
    simp
    omega
  · exact ⟨rfl, rfl, rfl, rfl⟩

end LoadStore
end Rtl
end S80x86
