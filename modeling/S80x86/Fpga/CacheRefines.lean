import S80x86.Foundation.Clocked
import S80x86.Foundation.WriteBack
import S80x86.Fpga.Cache

/-!
# The cache against a flat memory

The cache between a frontend that holds a request until it is acknowledged and
a backend that acknowledges an access after any number of cycles.  Every cycle
is a sequence of operations of a write-back store, which keep the flat memory.
-/

namespace S80x86
namespace Fpga
namespace CacheRefines

open Foundation.Clocked
open Foundation.WriteBack

/-!
## Frontend and backend
-/

/-- A memory of words, by line and word in the line. -/
abbrev Words := BitVec 16 -> BitVec 3 -> BitVec 16

structure Request where
  addr : WordAddress
  dataOut : BitVec 16
  wrEn : Bool
  bytesel : BitVec 2
  deriving DecidableEq, Repr

/-- An access as the backend sampled it. -/
structure Access where
  addr : WordAddress
  wrEn : Bool
  dataOut : BitVec 16
  deriving DecidableEq, Repr

structure System where
  cache : Cache
  backend : Words
  /-- What a flat memory would hold after the acknowledged writes. -/
  reference : Words
  /-- The request of the last cycle, if it was not acknowledged. -/
  waiting : Option Request
  /-- The access the backend has not acknowledged yet. -/
  inFlight : Option Access

structure Cycle where
  access : Bool
  request : Request
  mAck : Bool
  /-- What the backend drives when it does not acknowledge a read. -/
  idleData : BitVec 16

namespace System

variable (k : Nat)

def cAck (c : Cycle) (s : System) : Bool := s.cache.cAck k true c.mAck

def mDataIn (c : Cycle) (s : System) : BitVec 16 :=
  match s.inFlight with
  | some a =>
      if c.mAck then s.backend a.addr.line a.addr.word else c.idleData
  | none => c.idleData

/-- The frontend drops the access in the cycle that acknowledges it. -/
def inputs (c : Cycle) (s : System) : Cache.Inputs :=
  { enabled := true
    cAddr := c.request.addr
    cDataOut := c.request.dataOut
    cAccess := c.access && !s.cAck k c
    cWrEn := c.request.wrEn
    cBytesel := c.request.bytesel
    mDataIn := s.mDataIn c
    mAck := c.mAck }

def cDataIn (c : Cycle) (s : System) : BitVec 16 :=
  s.cache.cDataIn k true c.mAck (s.mDataIn c)

/-- The access on the bus in this cycle. -/
def busAccess (c : Cycle) (s : System) : Option Access :=
  if s.cache.mAccess (s.inputs k c) then
    some
      { addr := s.cache.mAddr (s.inputs k c)
        wrEn := s.cache.mWrEn (s.inputs k c)
        dataOut := s.cache.mDataOut (s.inputs k c) }
  else none

def nextBackend (c : Cycle) (s : System) : Words :=
  match s.inFlight with
  | some a =>
      if c.mAck && a.wrEn then
        setWord s.backend a.addr.line a.addr.word a.dataOut
      else s.backend
  | none => s.backend

def nextReference (c : Cycle) (s : System) : Words :=
  let a := c.request.addr
  if s.cAck k c && c.request.wrEn then
    setWord s.reference a.line a.word
      (writeBytes c.request.bytesel (s.reference a.line a.word)
        c.request.dataOut)
  else s.reference

/-- One clock edge. -/
def step (c : Cycle) (s : System) : System :=
  { cache := s.cache.step k (s.inputs k c)
    backend := s.nextBackend c
    reference := s.nextReference k c
    waiting := if c.access && !s.cAck k c then some c.request else none
    inFlight :=
      if c.mAck then none
      else
        match s.inFlight with
        | some a => some a
        | none => s.busAccess k c }

/--
A request that was not acknowledged is held, and the backend acknowledges only
an access it has seen.
-/
structure Allowed (s : System) (c : Cycle) : Prop where
  held : forall r, s.waiting = some r -> c.access = true ∧ c.request = r
  acks : c.mAck = true -> s.inFlight ≠ none

/-!
## The store behind the registers
-/

def phase (s : System) : Phase (BitVec 16) (BitVec 3) :=
  if s.cache.busy then
    if s.cache.flushing then
      .flushing s.cache.cMAddr.line
        fun w => decide (w.toNat < s.cache.lineIdx.toNat)
    else .filling s.cache.latchedAddress.line s.cache.lineValid
  else .idle

def store (s : System) : Store (BitVec 16) (BitVec 3) (BitVec 16) Nat :=
  { resident := fun i =>
      if s.cache.validRam.ram i then
        some (Cache.lineOf k (s.cache.tagRam.ram i) i)
      else none
    dirty := s.cache.dirtyRam.ram
    data := fun i w => s.cache.lineRam.ram (i, w)
    backend := s.backend
    phase := s.phase }

end System

variable {k : Nat} {s : System} {c : Cycle}

theorem lineOf_tagOf (line : BitVec 16) :
    Cache.lineOf k (Cache.tagOf k line) (Cache.indexOf k line) = line := by
  unfold Cache.lineOf Cache.tagOf Cache.indexOf
  rw [Nat.mul_comm, Nat.div_add_mod]
  simp

/-!
## The control registers
-/

/-- What the control registers say about each other between two edges. -/
structure Control (k : Nat) (s : System) : Prop where
  idle : s.cache.busy = false ->
    s.cache.flushing = false ∧ s.cache.lineIdx = 0#3 ∧ s.inFlight = none
  accessing : s.cache.accessing = s.waiting.isSome
  fetch : forall r, s.waiting = some r -> s.cache.fetchAddress = r.addr
  tag : s.cache.accessing = true -> s.cache.tag =
    s.cache.tagRam.ram (Cache.indexOf k s.cache.fetchAddress.line)
  valid : s.cache.accessing = true -> s.cache.valid =
    s.cache.validRam.ram (Cache.indexOf k s.cache.fetchAddress.line)
  dirty : s.cache.accessing = true -> s.cache.dirty =
    s.cache.dirtyRam.ram (Cache.indexOf k s.cache.fetchAddress.line)
  data : s.cache.accessing = true -> s.cache.cQ =
    s.cache.lineRam.ram (Cache.indexOf k s.cache.fetchAddress.line,
      s.cache.fetchAddress.word)
  updating : s.cache.updating = true -> s.cache.accessing = true ∧
    s.cache.latchedAddress = s.cache.fetchAddress ∧
    (s.cache.busy = true -> s.cache.flushing = true)
  filling : s.cache.busy = true -> s.cache.flushing = false ->
    s.cache.cMAddr.line = s.cache.latchedAddress.line ∧
    s.cache.tagRam.ram (Cache.indexOf k s.cache.latchedAddress.line) =
      Cache.tagOf k s.cache.latchedAddress.line ∧
    forall w, s.cache.lineValid w =
      decide ((w - (s.cache.cMAddr.word - s.cache.lineIdx)).toNat <
        s.cache.lineIdx.toNat)
  flushing : s.cache.flushing = true -> s.cache.busy = true ∧
    s.cache.updating = true ∧
    Cache.indexOf k s.cache.cMAddr.line =
      Cache.indexOf k s.cache.latchedAddress.line ∧
    s.cache.cMAddr.word = s.cache.lineIdx ∧
    s.cache.lineRam.qB = s.cache.lineRam.ram
      (Cache.indexOf k s.cache.latchedAddress.line, s.cache.cMAddr.word)
  inFlight : forall a, s.inFlight = some a -> a.addr = s.cache.cMAddr ∧
    a.wrEn = s.cache.flushing ∧
    (s.cache.flushing = true -> a.dataOut = s.cache.lineRam.qB)
  tags : forall i, s.cache.validRam.ram i = true ->
    exists line, Cache.indexOf k line = i ∧
      Cache.tagOf k line = s.cache.tagRam.ram i

theorem Control.request_held (h : Control k s) (hok : s.Allowed c)
    (haccess : s.cache.accessing = true) :
    c.access = true ∧ c.request.addr = s.cache.fetchAddress := by
  cases hwait : s.waiting with
  | none =>
      rw [h.accessing, hwait] at haccess
      cases haccess
  | some r =>
      have hheld := hok.held r hwait
      refine ⟨hheld.left, ?_⟩
      rw [hheld.right, h.fetch r hwait]

theorem Control.ack_busy (h : Control k s) (hok : s.Allowed c)
    (hack : c.mAck = true) : s.cache.busy = true := by
  cases hbusy : s.cache.busy with
  | true =>
      rfl
  | false =>
      exact absurd (h.idle hbusy).right.right (hok.acks hack)

/-!
## The RAMs after a cycle
-/

/-- The word the frontend writes in this cycle. -/
def writes (k : Nat) (s : System) (c : Cycle) : Bool :=
  s.cAck k c && c.request.wrEn

theorem cAck_eq (k : Nat) (s : System) (c : Cycle) :
    s.cAck k c =
      (s.cache.accessing && !s.cache.flushing && s.cache.hit k) := rfl

theorem tagRam_step (k : Nat) (s : System) (c : Cycle) (i : Nat) :
    (s.step k c).cache.tagRam.ram i =
      if s.cache.doFill k = true ∧
          i = Cache.indexOf k s.cache.latchedAddress.line then
        Cache.tagOf k s.cache.latchedAddress.line
      else s.cache.tagRam.ram i := by
  simp [System.step, Cache.step, DPRam.step, Cache.tagRamInputs]

theorem validRam_step (k : Nat) (s : System) (c : Cycle) (i : Nat) :
    (s.step k c).cache.validRam.ram i =
      if s.cache.writeValid k (s.inputs k c) = true ∧
          i = Cache.indexOf k s.cache.latchedAddress.line then
        if s.cache.doFlush k then false
        else !s.cache.flushing && s.cache.lineIdx == 0b111#3
      else s.cache.validRam.ram i := by
  simp [System.step, Cache.step, DPRam.step, Cache.validRamInputs]

theorem dirtyRam_step (k : Nat) (s : System) (c : Cycle) (i : Nat) :
    (s.step k c).cache.dirtyRam.ram i =
      if s.cache.doFlush k = true ∧
          i = Cache.indexOf k s.cache.latchedAddress.line then false
      else if writes k s c = true ∧
          i = Cache.indexOf k c.request.addr.line then true
      else s.cache.dirtyRam.ram i := rfl

theorem lineRam_write (k : Nat) (s : System) (c : Cycle) :
    (s.cache.lineRamInputs k (s.inputs k c)).wrEnA = writes k s c := by
  simp only [Cache.lineRamInputs, writes, System.inputs]
  rw [← System.cAck, cAck_eq]
  cases s.cache.accessing <;> cases s.cache.flushing <;>
    cases s.cache.hit k <;> cases c.request.wrEn <;> rfl

theorem lineRam_step (k : Nat) (s : System) (c : Cycle) (i : Nat)
    (w : BitVec 3) :
    (s.step k c).cache.lineRam.ram (i, w) =
      if (c.mAck && !s.cache.flushing) = true ∧
          (i, w) = s.cache.lineAddress k (s.inputs k c) then s.mDataIn c
      else if writes k s c = true ∧
          i = Cache.indexOf k c.request.addr.line ∧ w = c.request.addr.word
        then
        writeBytes c.request.bytesel (s.cache.lineRam.ram (i, w))
          c.request.dataOut
      else s.cache.lineRam.ram (i, w) := by
  have hwrite := lineRam_write k s c
  simp only [System.step, Cache.step, BlockRam.step]
  rw [hwrite]
  simp only [Cache.lineRamInputs, Cache.writeLine, System.inputs,
    writeBytes_all, Prod.mk.injEq]
  congr

/-!
## The three phases
-/

section Phases

theorem not_start_of_busy (hbusy : s.cache.busy = true) :
    s.cache.doFlush k = false ∧ s.cache.doFill k = false := by
  simp [Cache.doFlush, Cache.doFill, hbusy]

theorem not_start_of_hit (hhit : s.cache.hit k = true) :
    s.cache.doFlush k = false ∧ s.cache.doFill k = false := by
  simp [Cache.doFlush, Cache.doFill, hhit]

theorem cAck_of_start
    (hstart : s.cache.doFlush k = true ∨ s.cache.doFill k = true) :
    s.cAck k c = false := by
  have hmiss : s.cache.hit k = false := by
    cases hhit : s.cache.hit k with
    | true =>
        rcases hstart with h | h
        · simp [not_start_of_hit hhit] at h
        · simp [not_start_of_hit hhit] at h
    | false =>
        rfl
  simp [cAck_eq, hmiss]

/-- A word the cache acknowledges is held in its slot. -/
theorem Control.holds_of_ack (h : Control k s) (hok : s.Allowed c)
    (hack : s.cAck k c = true) :
    Holds (Cache.indexOf k) (s.store k) c.request.addr.line
      c.request.addr.word := by
  rw [cAck_eq] at hack
  simp only [Bool.and_eq_true, Bool.not_eq_true'] at hack
  rcases hack with ⟨⟨haccess, hflush⟩, hhit⟩
  rw [(h.request_held hok haccess).right]
  simp only [Cache.hit, haccess, Bool.true_and, Bool.or_eq_true,
    Bool.and_eq_true] at hhit
  rcases hhit with ⟨hvalid, htag⟩ | ⟨⟨hbusy, hcurrent⟩, hword⟩
  · refine Or.inl ?_
    rw [h.valid haccess] at hvalid
    simp only [Cache.tagsMatch, beq_iff_eq] at htag
    rw [h.tag haccess] at htag
    simp [System.store, hvalid, htag, lineOf_tagOf]
  · refine Or.inr ⟨s.cache.lineValid, ?_, hword⟩
    simp only [Cache.fillingCurrent, beq_iff_eq] at hcurrent
    simp [System.store, System.phase, hbusy, hflush, hcurrent]

/-- The cache answers a read with the word in the slot. -/
theorem Control.cDataIn_of_ack (h : Control k s) (hok : s.Allowed c)
    (hack : s.cAck k c = true) :
    s.cDataIn k c = (s.store k).data (Cache.indexOf k c.request.addr.line)
      c.request.addr.word := by
  have haccess : s.cache.accessing = true := by
    rw [cAck_eq] at hack
    simp only [Bool.and_eq_true] at hack
    exact hack.left.left
  have hack' : s.cache.cAck k true c.mAck = true := hack
  simp only [System.cDataIn, Cache.cDataIn, if_true, hack',
    (h.request_held hok haccess).right, System.store]
  exact h.data haccess

end Phases

/-!
## Each cycle as operations of the store
-/

section Operations

/-- The store after the frontend's write of this cycle, if there is one. -/
def served (k : Nat) (s : System) (c : Cycle) :
    Store (BitVec 16) (BitVec 3) (BitVec 16) Nat :=
  if writes k s c then
    write (Cache.indexOf k) (s.store k) c.request.addr.line
      c.request.addr.word
      (writeBytes c.request.bytesel
        ((s.store k).data (Cache.indexOf k c.request.addr.line)
          c.request.addr.word) c.request.dataOut)
  else s.store k

theorem served_coherent (h : Control k s) (hok : s.Allowed c)
    (hcoherent : Coherent (Cache.indexOf k) (s.store k) s.reference) :
    Coherent (Cache.indexOf k) (served k s c) (s.nextReference k c) := by
  cases hwrites : writes k s c with
  | true =>
      have hack : s.cAck k c = true := by
        simp only [writes, Bool.and_eq_true] at hwrites
        exact hwrites.left
      have hholds := h.holds_of_ack hok hack
      have hdata := hcoherent.held _ _ hholds
      have hnext : s.nextReference k c =
          setWord s.reference c.request.addr.line c.request.addr.word
            (writeBytes c.request.bytesel
              (s.reference c.request.addr.line c.request.addr.word)
              c.request.dataOut) := by
        have hboth : (s.cAck k c && c.request.wrEn) = true := hwrites
        simp [System.nextReference, hboth]
      rw [served, if_pos hwrites, hnext, ← hdata]
      exact hcoherent.write (Cache.indexOf k) hholds _
  | false =>
      have hnext : s.nextReference k c = s.reference := by
        have hboth : (s.cAck k c && c.request.wrEn) = false := hwrites
        simp [System.nextReference, hboth]
      rw [served, hnext]
      simpa [hwrites] using hcoherent

@[simp] theorem served_resident :
    (served k s c).resident = (s.store k).resident := by
  unfold served
  split <;> rfl

@[simp] theorem served_backend :
    (served k s c).backend = (s.store k).backend := by
  unfold served
  split <;> rfl

@[simp] theorem served_phase : (served k s c).phase = s.phase := by
  unfold served
  split <;> rfl

theorem served_dirty (i : Nat) :
    (served k s c).dirty i =
      if writes k s c = true ∧ i = Cache.indexOf k c.request.addr.line then
        true
      else s.cache.dirtyRam.ram i := by
  cases hwrites : writes k s c with
  | true =>
      simp [served, hwrites, write, System.store, Function.update_apply]
  | false =>
      simp [served, hwrites, System.store]

theorem served_data (i : Nat) (w : BitVec 3) :
    (served k s c).data i w =
      if writes k s c = true ∧
          i = Cache.indexOf k c.request.addr.line ∧ w = c.request.addr.word
        then
        writeBytes c.request.bytesel (s.cache.lineRam.ram (i, w))
          c.request.dataOut
      else s.cache.lineRam.ram (i, w) := by
  cases hwrites : writes k s c with
  | true =>
      simp only [served, hwrites, if_true, write, System.store, setWord,
        true_and]
      split
      · next h =>
          rw [h.left, h.right]
      · rfl
  | false =>
      simp [served, hwrites, System.store]

/-- A cycle without an acknowledgement that starts no transfer. -/
theorem store_quiet (hack : c.mAck = false)
    (hflush : s.cache.doFlush k = false) (hfill : s.cache.doFill k = false) :
    (s.step k c).store k = served k s c := by
  have htransfer : s.cache.transfer k (s.inputs k c) = s.cache := by
    simp [Cache.transfer, System.inputs, hack, hflush, hfill]
  apply Store.ext
  · funext i
    rw [served_resident]
    simp [System.store, validRam_step, tagRam_step, Cache.writeValid,
      Cache.lastWord, System.inputs, hack, hflush, hfill]
  · funext i
    rw [served_dirty]
    simp [System.store, dirtyRam_step, hflush]
  · funext i w
    rw [served_data]
    simp [System.store, lineRam_step, hack]
  · rw [served_backend]
    simp only [System.store, System.step, System.nextBackend]
    cases hflight : s.inFlight with
    | none =>
        rfl
    | some a =>
        simp [hack]
  · rw [served_phase]
    simp only [System.store, System.phase, System.step, Cache.step, htransfer]
    cases hbusy : s.cache.busy with
    | true =>
        simp
    | false =>
        simp

/-- A request that is looked up while no transfer runs. -/
structure LookedUp (k : Nat) (s : System) (c : Cycle) : Prop where
  busy : s.cache.busy = false
  flushing : s.cache.flushing = false
  accessing : s.cache.accessing = true
  miss : s.cache.hit k = false
  latched : s.cache.latchedAddress = c.request.addr
  fetch : s.cache.fetchAddress = c.request.addr

theorem Control.lookedUp (h : Control k s) (hok : s.Allowed c)
    (hstart : s.cache.doFlush k = true ∨ s.cache.doFill k = true) :
    LookedUp k s c ∧ s.cache.updating = true ∧
      s.cache.dirty = s.cache.doFlush k := by
  have hwires : s.cache.updating = true ∧ s.cache.hit k = false ∧
      s.cache.busy = false ∧ s.cache.flushing = false ∧
      s.cache.dirty = s.cache.doFlush k := by
    rcases hstart with hflush | hfill
    · have hall := hflush
      simp only [Cache.doFlush, Bool.and_eq_true, Bool.not_eq_true'] at hall
      rcases hall with ⟨⟨⟨⟨hupdating, hmiss⟩, hbusy⟩, hflushing⟩, hdirty⟩
      exact ⟨hupdating, hmiss, hbusy, hflushing, hdirty.trans hflush.symm⟩
    · have hall := hfill
      simp only [Cache.doFill, Bool.and_eq_true, Bool.not_eq_true'] at hall
      rcases hall with ⟨⟨⟨⟨hupdating, hmiss⟩, hbusy⟩, hflushing⟩, hclean⟩
      refine ⟨hupdating, hmiss, hbusy, hflushing, ?_⟩
      simp [Cache.doFlush, hclean]
  rcases hwires with ⟨hupdating, hmiss, hbusy, hflushing, hdirty⟩
  rcases h.updating hupdating with ⟨haccess, hlatched, _⟩
  have haddr := (h.request_held hok haccess).right
  exact ⟨⟨hbusy, hflushing, haccess, hmiss, hlatched.trans haddr.symm,
    haddr.symm⟩, hupdating, hdirty⟩

theorem Control.idle_no_ack (h : Control k s) (hok : s.Allowed c)
    (hbusy : s.cache.busy = false) : c.mAck = false := by
  cases hack : c.mAck with
  | true =>
      have hbusy' := h.ack_busy hok hack
      rw [hbusy] at hbusy'
      cases hbusy'
  | false =>
      rfl

/-- The line that a flush writes back. -/
def victim (k : Nat) (s : System) : BitVec 16 :=
  Cache.lineOf k s.cache.tag (Cache.indexOf k s.cache.latchedAddress.line)

theorem store_startFlush (h : Control k s) (hok : s.Allowed c)
    (hflush : s.cache.doFlush k = true)
    (hindex : Cache.indexOf k (victim k s) =
      Cache.indexOf k s.cache.latchedAddress.line) :
    (s.step k c).store k =
      startFlush (Cache.indexOf k) (s.store k) (victim k s) := by
  rcases h.lookedUp hok (Or.inl hflush) with ⟨hlook, _, _⟩
  have hack := h.idle_no_ack hok hlook.busy
  have hfill : s.cache.doFill k = false := by
    simp only [Cache.doFlush, Bool.and_eq_true] at hflush
    simp [Cache.doFill, hflush.right]
  have hquiet : writes k s c = false := by
    simp [writes, cAck_of_start (c := c) (Or.inl hflush)]
  have hidle := h.idle hlook.busy
  apply Store.ext
  · funext i
    simp only [System.store, validRam_step, tagRam_step, Cache.writeValid,
      hflush, hfill, startFlush, hindex, Function.update_apply]
    by_cases hi : i = Cache.indexOf k s.cache.latchedAddress.line
    · simp [hi]
    · simp [hi]
  · funext i
    simp only [System.store, dirtyRam_step, hflush, hquiet, startFlush, hindex,
      Function.update_apply]
    simp
  · funext i w
    simp [System.store, lineRam_step, hack, hquiet, startFlush]
  · simp [System.store, System.step, System.nextBackend, hidle, startFlush]
  · simp [System.store, System.phase, System.step, Cache.step, Cache.transfer,
      System.inputs, hack, hflush, startFlush, victim, hidle]

theorem store_startFill (h : Control k s) (hok : s.Allowed c)
    (hfill : s.cache.doFill k = true) :
    (s.step k c).store k =
      startFill (Cache.indexOf k) (s.store k) c.request.addr.line := by
  rcases h.lookedUp hok (Or.inr hfill) with ⟨hlook, _, hdirty⟩
  have hack := h.idle_no_ack hok hlook.busy
  have hflush : s.cache.doFlush k = false := by
    have hclean := hfill
    simp only [Cache.doFill, Bool.and_eq_true, Bool.not_eq_true'] at hclean
    rw [← hdirty]
    exact hclean.right
  have hquiet : writes k s c = false := by
    simp [writes, cAck_of_start (c := c) (Or.inr hfill)]
  have hidle := h.idle hlook.busy
  apply Store.ext
  · funext i
    simp only [System.store, validRam_step, tagRam_step, Cache.writeValid,
      hflush, hfill, startFill, hlook.latched, Function.update_apply]
    by_cases hi : i = Cache.indexOf k c.request.addr.line
    · simp [hi, hidle]
    · simp [hi]
  · funext i
    simp [System.store, dirtyRam_step, hflush, hquiet, startFill]
  · funext i w
    simp [System.store, lineRam_step, hack, hquiet, startFill]
  · simp [System.store, System.step, System.nextBackend, hidle, startFill]
  · simp [System.store, System.phase, System.step, Cache.step, Cache.transfer,
      System.inputs, hack, hflush, hfill, startFill, hlook.busy,
      hlook.flushing]

/-- Marking the next word in order. -/
theorem written_succ {n : BitVec 3} (hn : n ≠ 0b111#3) :
    (fun w : BitVec 3 => decide (w.toNat < (n + 1#3).toNat)) =
      Function.update (fun w => decide (w.toNat < n.toNat)) n true := by
  funext w
  rw [Function.update_apply]
  revert n w
  decide

theorem written_last (w : BitVec 3) :
    Function.update (fun w => decide (w.toNat < (0b111#3).toNat)) 0b111#3 true
      w = true := by
  rw [Function.update_apply]
  revert w
  decide

/-- The words before the acknowledgement of a flush. -/
def writtenBack (s : System) : BitVec 3 -> Bool :=
  fun w => decide (w.toNat < s.cache.lineIdx.toNat)

/-- An acknowledged write-back, apart from the phase. -/
theorem store_flushWord (h : Control k s) (hok : s.Allowed c)
    (hflushing : s.cache.flushing = true) (hack : c.mAck = true) :
    (s.step k c).store k =
      { flushWord (Cache.indexOf k) (s.store k) s.cache.cMAddr.line
          (writtenBack s) s.cache.lineIdx with
        phase := (s.step k c).phase } := by
  rcases h.flushing hflushing with ⟨hbusy, _, hindex, hword, hqB⟩
  rcases not_start_of_busy (k := k) hbusy with ⟨hflush, hfill⟩
  have hquiet : writes k s c = false := by
    simp [writes, cAck_eq, hflushing]
  apply Store.ext
  · funext i
    simp [System.store, validRam_step, tagRam_step, Cache.writeValid,
      Cache.lastWord, hflush, hfill, hflushing, flushWord]
  · funext i
    simp [System.store, dirtyRam_step, hflush, hquiet, flushWord]
  · funext i w
    simp [System.store, lineRam_step, hflushing, hquiet, flushWord]
  · cases hflight : s.inFlight with
    | none =>
        exact absurd hflight (hok.acks hack)
    | some a =>
        rcases h.inFlight a hflight with ⟨haddr, hwrEn, hdata⟩
        simp [System.store, System.step, System.nextBackend, hflight, hack,
          hwrEn, hflushing, haddr, hdata hflushing, hqB, hword, hindex,
          flushWord]
  · rfl

theorem phase_flushWord (h : Control k s)
    (hflushing : s.cache.flushing = true) (hack : c.mAck = true) :
    (s.step k c).phase =
      if s.cache.lineIdx = 0b111#3 then .idle
      else .flushing s.cache.cMAddr.line
        (Function.update (writtenBack s) s.cache.lineIdx true) := by
  have hbusy := (h.flushing hflushing).left
  by_cases hlast : s.cache.lineIdx = 0b111#3
  · simp [System.phase, System.step, Cache.step, Cache.transfer, System.inputs,
      hack, hlast]
  · have hmark : Function.update (writtenBack s) s.cache.lineIdx true =
        fun w => decide (w.toNat < (s.cache.lineIdx + 1#3).toNat) :=
      (written_succ hlast).symm
    rw [if_neg hlast, hmark]
    simp [System.phase, System.step, Cache.step, Cache.transfer, System.inputs,
      hack, hlast, hbusy, hflushing, -BitVec.toNat_add]

theorem Control.phase_of_flushing (h : Control k s)
    (hflushing : s.cache.flushing = true) :
    (s.store k).phase = .flushing s.cache.cMAddr.line (writtenBack s) := by
  have hbusy := (h.flushing hflushing).left
  simp only [System.store, System.phase, hbusy, hflushing, if_true]
  rfl

/-- An acknowledged fill, apart from the phase and the valid bit. -/
theorem store_fillWord (h : Control k s) (hok : s.Allowed c)
    (hbusy : s.cache.busy = true) (hflushing : s.cache.flushing = false)
    (hack : c.mAck = true) :
    (s.step k c).store k =
      { fillWord (Cache.indexOf k) (served k s c)
          s.cache.latchedAddress.line s.cache.lineValid s.cache.cMAddr.word with
        resident := ((s.step k c).store k).resident
        phase := (s.step k c).phase } := by
  rcases h.filling hbusy hflushing with ⟨hline, _, _⟩
  rcases not_start_of_busy (k := k) hbusy with ⟨hflush, hfill⟩
  have hfetched : s.mDataIn c =
      s.backend s.cache.latchedAddress.line s.cache.cMAddr.word := by
    cases hflight : s.inFlight with
    | none =>
        exact absurd hflight (hok.acks hack)
    | some a =>
        rcases h.inFlight a hflight with ⟨haddr, _, _⟩
        simp [System.mDataIn, hflight, hack, haddr, hline]
  have haddress : s.cache.lineAddress k (s.inputs k c) =
      (Cache.indexOf k s.cache.latchedAddress.line, s.cache.cMAddr.word) := by
    simp [Cache.lineAddress, hflushing, hbusy]
  apply Store.ext
  · rfl
  · funext i
    simp only [System.store, dirtyRam_step, hflush, fillWord, served_dirty]
    simp
  · funext i w
    have hstep : ((s.step k c).store k).data i w =
        (s.step k c).cache.lineRam.ram (i, w) := rfl
    rw [hstep, lineRam_step, haddress, hfetched]
    simp only [fillWord, setWord, served_backend, served_data, hack, hflushing,
      System.store, Prod.mk.injEq]
    simp
  · simp only [fillWord, served_backend]
    simp only [System.store, System.step, System.nextBackend]
    cases hflight : s.inFlight with
    | none =>
        rfl
    | some a =>
        rcases h.inFlight a hflight with ⟨_, hwrEn, _⟩
        simp [hwrEn, hflushing]
  · rfl

theorem resident_fillWord (h : Control k s)
    (hbusy : s.cache.busy = true) (hflushing : s.cache.flushing = false)
    (hack : c.mAck = true) :
    ((s.step k c).store k).resident =
      if s.cache.lineIdx = 0b111#3 then
        Function.update (s.store k).resident
          (Cache.indexOf k s.cache.latchedAddress.line)
          (some s.cache.latchedAddress.line)
      else (s.store k).resident := by
  rcases h.filling hbusy hflushing with ⟨_, htag, _⟩
  rcases not_start_of_busy (k := k) hbusy with ⟨hflush, hfill⟩
  funext i
  by_cases hlast : s.cache.lineIdx = 0b111#3
  · simp only [System.store, validRam_step, tagRam_step, Cache.writeValid,
      Cache.lastWord, System.inputs, hflush, hfill, hflushing, hlast, hack]
    by_cases hi : i = Cache.indexOf k s.cache.latchedAddress.line
    · simp [hi, htag, lineOf_tagOf]
    · simp [hi]
  · simp [System.store, validRam_step, tagRam_step, Cache.writeValid,
      Cache.lastWord, hflush, hfill, hlast]

theorem phase_fillWord (hbusy : s.cache.busy = true)
    (hflushing : s.cache.flushing = false) (hack : c.mAck = true) :
    (s.step k c).phase =
      if s.cache.lineIdx = 0b111#3 then .idle
      else .filling s.cache.latchedAddress.line
        (Function.update s.cache.lineValid s.cache.cMAddr.word true) := by
  have hmark : (fun w => if w = s.cache.cMAddr.word then true
      else s.cache.lineValid w) =
      Function.update s.cache.lineValid s.cache.cMAddr.word true := by
    funext w
    rw [Function.update_apply]
  by_cases hlast : s.cache.lineIdx = 0b111#3
  · simp [System.phase, System.step, Cache.step, Cache.transfer, System.inputs,
      hack, hlast]
  · rw [← hmark]
    simp [System.phase, System.step, Cache.step, Cache.transfer, System.inputs,
      hack, hlast, hbusy, hflushing]

/-!
## Coherence
-/

theorem Control.tag_of_dirty (h : Control k s) (hok : s.Allowed c)
    (hcoherent : Coherent (Cache.indexOf k) (s.store k) s.reference)
    (hflush : s.cache.doFlush k = true) :
    Cache.indexOf k (victim k s) =
        Cache.indexOf k s.cache.latchedAddress.line ∧
      (s.store k).resident (Cache.indexOf k (victim k s)) =
        some (victim k s) := by
  rcases h.lookedUp hok (Or.inl hflush) with ⟨hlook, _, hdirty⟩
  have hlatched : s.cache.latchedAddress = s.cache.fetchAddress :=
    hlook.latched.trans hlook.fetch.symm
  have hslot : (s.store k).dirty
      (Cache.indexOf k s.cache.latchedAddress.line) = true := by
    rw [hlatched]
    exact (h.dirty hlook.accessing).symm.trans (hdirty.trans hflush)
  have hphase : (s.store k).phase = .idle := by
    simp [System.store, System.phase, hlook.busy]
  rcases hcoherent.dirty_slot _ hslot with ⟨l, hres⟩ | ⟨l, present, hfill, _⟩
  · have hindex := hcoherent.resident_index _ l hres
    have hline : l = victim k s := by
      have hres' := hres
      simp only [System.store] at hres'
      split at hres'
      · rw [victim, h.tag hlook.accessing, ← hlatched]
        exact (Option.some.inj hres').symm
      · cases hres'
    rw [hline] at hindex hres
    exact ⟨hindex, by rw [hindex]; exact hres⟩
  · rw [hphase] at hfill
    cases hfill

theorem fill_present (h : Control k s) (hbusy : s.cache.busy = true)
    (hflushing : s.cache.flushing = false) :
    s.cache.lineValid s.cache.cMAddr.word = false := by
  rcases h.filling hbusy hflushing with ⟨_, _, hvalid⟩
  rw [hvalid]
  generalize s.cache.cMAddr.word = w
  generalize s.cache.lineIdx = n
  revert w n
  decide

theorem fill_complete (h : Control k s) (hbusy : s.cache.busy = true)
    (hflushing : s.cache.flushing = false)
    (hlast : s.cache.lineIdx = 0b111#3) (w : BitVec 3) :
    Function.update s.cache.lineValid s.cache.cMAddr.word true w = true := by
  rcases h.filling hbusy hflushing with ⟨_, _, hvalid⟩
  rw [Function.update_apply, hvalid, hlast]
  generalize s.cache.cMAddr.word = v
  revert v w
  decide

/-- Every cycle keeps the flat memory. -/
theorem coherent_step (h : Control k s) (hok : s.Allowed c)
    (hcoherent : Coherent (Cache.indexOf k) (s.store k) s.reference) :
    Coherent (Cache.indexOf k) ((s.step k c).store k)
      (s.step k c).reference := by
  have hserved := served_coherent h hok hcoherent
  have href : (s.step k c).reference = s.nextReference k c := rfl
  rw [href]
  cases hack : c.mAck with
  | true =>
      have hbusy := h.ack_busy hok hack
      cases hflushing : s.cache.flushing with
      | true =>
          have hquiet : s.nextReference k c = s.reference := by
            simp [System.nextReference, cAck_eq, hflushing]
          have hphase := h.phase_of_flushing hflushing
          have hword : writtenBack s s.cache.lineIdx = false := by
            simp [writtenBack]
          have hflushed := hcoherent.flushWord (Cache.indexOf k) hphase hword
          rw [hquiet, store_flushWord h hok hflushing hack,
            phase_flushWord h hflushing hack]
          split
          · next hlast =>
              apply hflushed.finishFlush (Cache.indexOf k) rfl
              intro w
              have hall := written_last w
              rw [← hlast] at hall
              exact hall
          · exact hflushed
      | false =>
          have hphase : (served k s c).phase =
              .filling s.cache.latchedAddress.line s.cache.lineValid := by
            simp [System.phase, hbusy, hflushing]
          have hfilled := hserved.fillWord (Cache.indexOf k) hphase
            (fill_present h hbusy hflushing)
          rw [store_fillWord h hok hbusy hflushing hack,
            phase_fillWord hbusy hflushing hack,
            resident_fillWord h hbusy hflushing hack]
          split
          · next hlast =>
              have hdone := hfilled.finishFill (Cache.indexOf k) rfl
                (fill_complete h hbusy hflushing hlast)
              simpa [finishFill, fillWord] using hdone
          · simpa [fillWord] using hfilled
  | false =>
      cases hflush : s.cache.doFlush k with
      | true =>
          rcases h.tag_of_dirty hok hcoherent hflush with ⟨hindex, hres⟩
          have hlook := (h.lookedUp hok (Or.inl hflush)).left
          have hidle : (s.store k).phase = .idle := by
            simp [System.store, System.phase, hlook.busy]
          have hquiet : s.nextReference k c = s.reference := by
            simp [System.nextReference, cAck_of_start (Or.inl hflush)]
          rw [store_startFlush h hok hflush hindex, hquiet]
          exact hcoherent.startFlush (Cache.indexOf k) hidle hres
      | false =>
          cases hfill : s.cache.doFill k with
          | true =>
              rcases h.lookedUp hok (Or.inr hfill) with ⟨hlook, _, hdirty⟩
              have hidle : (s.store k).phase = .idle := by
                simp [System.store, System.phase, hlook.busy]
              have hquiet : s.nextReference k c = s.reference := by
                simp [System.nextReference, cAck_of_start (Or.inr hfill)]
              have hclean : (s.store k).dirty
                  (Cache.indexOf k c.request.addr.line) = false := by
                rw [← hlook.fetch]
                exact (h.dirty hlook.accessing).symm.trans
                  (hdirty.trans hflush)
              rw [store_startFill h hok hfill, hquiet]
              exact hcoherent.startFill (Cache.indexOf k) hidle hclean
          | false =>
              rw [store_quiet hack hflush hfill]
              exact hserved

/-!
## The control registers after a cycle
-/

theorem busy_step :
    (s.step k c).cache.busy =
      if c.mAck then if s.cache.lineIdx = 0b111#3 then false else s.cache.busy
      else s.cache.busy || s.cache.doFlush k || s.cache.doFill k := by
  cases hack : c.mAck <;> cases hflush : s.cache.doFlush k <;>
    cases hfill : s.cache.doFill k <;>
      simp [System.step, Cache.step, Cache.transfer, System.inputs, hack,
        hflush, hfill]

theorem flushing_step :
    (s.step k c).cache.flushing =
      if c.mAck then
        if s.cache.lineIdx = 0b111#3 then false else s.cache.flushing
      else s.cache.flushing || s.cache.doFlush k := by
  cases hack : c.mAck <;> cases hflush : s.cache.doFlush k <;>
    cases hfill : s.cache.doFill k <;> cases hflushing : s.cache.flushing <;>
      simp [System.step, Cache.step, Cache.transfer, System.inputs, hack,
        hflush, hfill, hflushing]

theorem lineIdx_step :
    (s.step k c).cache.lineIdx =
      if c.mAck then s.cache.lineIdx + 1#3 else s.cache.lineIdx := by
  cases hack : c.mAck <;> cases hflush : s.cache.doFlush k <;>
    cases hfill : s.cache.doFill k <;>
      simp [System.step, Cache.step, Cache.transfer, System.inputs, hack,
        hflush, hfill]

theorem cMAddr_step :
    (s.step k c).cache.cMAddr =
      if c.mAck then
        { s.cache.cMAddr with word := s.cache.cMAddr.word + 1#3 }
      else if s.cache.doFlush k then { line := victim k s, word := 0#3 }
      else if s.cache.doFill k then c.request.addr
      else s.cache.cMAddr := by
  cases hack : c.mAck <;> cases hflush : s.cache.doFlush k <;>
    cases hfill : s.cache.doFill k <;>
      simp [System.step, Cache.step, Cache.transfer, System.inputs, victim,
        hack, hflush, hfill]

theorem lineValid_step (w : BitVec 3) :
    (s.step k c).cache.lineValid w =
      if c.mAck then
        if s.cache.flushing then s.cache.lineValid w
        else if w = s.cache.cMAddr.word then true
        else s.cache.lineValid w
      else if s.cache.doFlush k then s.cache.lineValid w
      else if s.cache.doFill k then false
      else s.cache.lineValid w := by
  cases hack : c.mAck <;> cases hflush : s.cache.doFlush k <;>
    cases hfill : s.cache.doFill k <;> cases hflushing : s.cache.flushing <;>
      simp [System.step, Cache.step, Cache.transfer, System.inputs, hack,
        hflush, hfill, hflushing]

theorem latched_step :
    (s.step k c).cache.latchedAddress =
      if !s.cache.busy && !s.cache.flushing then c.request.addr
      else s.cache.latchedAddress := rfl

theorem fetch_step :
    (s.step k c).cache.fetchAddress = c.request.addr := rfl

theorem accessing_step :
    (s.step k c).cache.accessing = (c.access && !s.cAck k c) := rfl

theorem updating_step :
    (s.step k c).cache.updating =
      if s.cache.updating && !(s.cache.doFlush k || s.cache.flushing) then
        false
      else if !s.cache.busy && !s.cache.flushing &&
          (c.access && !s.cAck k c) then true
      else s.cache.updating := rfl

/-- A busy cycle without an acknowledgement keeps the transfer registers. -/
theorem transfer_waits (hbusy : s.cache.busy = true) (hack : c.mAck = false) :
    (s.step k c).cache.busy = true ∧
      (s.step k c).cache.flushing = s.cache.flushing ∧
      (s.step k c).cache.lineIdx = s.cache.lineIdx ∧
      (s.step k c).cache.cMAddr = s.cache.cMAddr ∧
      (s.step k c).cache.lineValid = s.cache.lineValid ∧
      (s.step k c).cache.latchedAddress = s.cache.latchedAddress := by
  rcases not_start_of_busy (k := k) hbusy with ⟨hflush, hfill⟩
  refine ⟨?_, ?_, ?_, ?_, ?_, ?_⟩
  · simp [busy_step, hack, hbusy]
  · simp [flushing_step, hack, hflush]
  · simp [lineIdx_step, hack]
  · simp [cMAddr_step, hack, hflush, hfill]
  · funext w
    simp [lineValid_step, hack, hflush, hfill]
  · simp [latched_step, hbusy]

/-- During a flush port B shows the word at the next address. -/
theorem qB_step_flushing (h : Control k s)
    (hflushing : s.cache.flushing = true) :
    (s.step k c).cache.lineRam.qB =
      s.cache.lineRam.ram
        (Cache.indexOf k s.cache.latchedAddress.line,
          if c.mAck then s.cache.cMAddr.word + 1#3 else s.cache.cMAddr.word) ∧
      (s.step k c).cache.lineRam.ram = s.cache.lineRam.ram := by
  have hbusy := (h.flushing hflushing).left
  have hquiet : writes k s c = false := by
    simp [writes, cAck_eq, hflushing]
  constructor
  · have hread : (s.cache.lineRamInputs k (s.inputs k c)).wrEnA = false :=
      (lineRam_write k s c).trans hquiet
    have haddr : (s.cache.lineRamInputs k (s.inputs k c)).addrB =
        (Cache.indexOf k s.cache.latchedAddress.line,
          if c.mAck then s.cache.cMAddr.word + 1#3
          else s.cache.cMAddr.word) := by
      cases hack : c.mAck with
      | true =>
          simp [Cache.lineRamInputs, Cache.lineAddress, System.inputs, hack,
            hflushing]
      | false =>
          simp [Cache.lineRamInputs, Cache.lineAddress, System.inputs, hack,
            hflushing]
    rw [← haddr]
    exact BlockRam.qB_step _ _ hread
  · funext a
    rcases a with ⟨i, w⟩
    simp [lineRam_step, hflushing, hquiet]

theorem Control.flushing_next (h : Control k s) (hok : s.Allowed c)
    (hcoherent : Coherent (Cache.indexOf k) (s.store k) s.reference)
    (hnext : (s.step k c).cache.flushing = true) :
    (s.step k c).cache.busy = true ∧
      (s.step k c).cache.updating = true ∧
      Cache.indexOf k (s.step k c).cache.cMAddr.line =
        Cache.indexOf k (s.step k c).cache.latchedAddress.line ∧
      (s.step k c).cache.cMAddr.word = (s.step k c).cache.lineIdx ∧
      (s.step k c).cache.lineRam.qB = (s.step k c).cache.lineRam.ram
        (Cache.indexOf k (s.step k c).cache.latchedAddress.line,
          (s.step k c).cache.cMAddr.word) := by
  cases hflushing : s.cache.flushing with
  | true =>
      rcases h.flushing hflushing with ⟨hbusy, hupdating, hindex, hword, _⟩
      rcases qB_step_flushing (c := c) h hflushing with ⟨hqB, hram⟩
      have hstill : (s.step k c).cache.updating = true := by
        simp [updating_step, hflushing, hupdating]
      cases hack : c.mAck with
      | true =>
          have hmore : s.cache.lineIdx ≠ 0b111#3 := by
            intro hlast
            simp [flushing_step, hack, hlast] at hnext
          refine ⟨?_, hstill, ?_, ?_, ?_⟩
          · simp [busy_step, hack, hmore, hbusy]
          · simp [cMAddr_step, latched_step, hack, hbusy, hindex]
          · simp [cMAddr_step, lineIdx_step, hack, hword]
          · rw [hqB, hram]
            simp [cMAddr_step, latched_step, hack, hbusy]
      | false =>
          rcases transfer_waits (k := k) hbusy hack with
            ⟨hbusy', _, hidx, haddr, _, hlatched⟩
          refine ⟨hbusy', hstill, ?_, ?_, ?_⟩
          · rw [haddr, hlatched]
            exact hindex
          · rw [haddr, hidx]
            exact hword
          · rw [hqB, hram, haddr, hlatched, hack]
            simp
  | false =>
      have hack : c.mAck = false := by
        cases hack : c.mAck with
        | true =>
            simp [flushing_step, hack, hflushing] at hnext
        | false =>
            rfl
      have hflush : s.cache.doFlush k = true := by
        simpa [flushing_step, hack, hflushing] using hnext
      rcases h.lookedUp hok (Or.inl hflush) with ⟨hlook, hupdating, hdirty⟩
      have hidx := (h.idle hlook.busy).right.left
      have hvictim := (h.tag_of_dirty hok hcoherent hflush).left
      have hquiet : writes k s c = false := by
        simp [writes, cAck_of_start (c := c) (Or.inl hflush)]
      have hlatched : (s.step k c).cache.latchedAddress =
          s.cache.latchedAddress := by
        simp [latched_step, hlook.busy, hflushing, hlook.latched]
      have haddr : (s.step k c).cache.cMAddr =
          { line := victim k s, word := 0#3 } := by
        simp [cMAddr_step, hack, hflush]
      refine ⟨?_, ?_, ?_, ?_, ?_⟩
      · simp [busy_step, hack, hflush]
      · simp [updating_step, hflush, hupdating]
      · rw [haddr, hlatched]
        exact hvictim
      · rw [haddr]
        simp [lineIdx_step, hack, hidx]
      · have hread : (s.cache.lineRamInputs k (s.inputs k c)).wrEnA = false :=
          (lineRam_write k s c).trans hquiet
        have hport : (s.cache.lineRamInputs k (s.inputs k c)).addrB =
            (Cache.indexOf k s.cache.latchedAddress.line, 0#3) := by
          simp [Cache.lineRamInputs, Cache.lineAddress, System.inputs, hack,
            hlook.miss, hlook.busy, hflushing, hdirty, hflush]
        have hqB : (s.step k c).cache.lineRam.qB = s.cache.lineRam.ram
            (Cache.indexOf k s.cache.latchedAddress.line, 0#3) := by
          rw [← hport]
          exact BlockRam.qB_step _ _ hread
        rw [hqB, haddr, hlatched]
        simp [lineRam_step, hack, hquiet]

theorem lineValid_succ (w v n : BitVec 3) (hn : n ≠ 0b111#3) :
    (if w = v then true else decide ((w - (v - n)).toNat < n.toNat)) =
      decide ((w - (v + 1#3 - (n + 1#3))).toNat < (n + 1#3).toNat) := by
  revert w v n
  decide

theorem Control.filling_next (h : Control k s) (hok : s.Allowed c)
    (hbusy' : (s.step k c).cache.busy = true)
    (hnext : (s.step k c).cache.flushing = false) :
    (s.step k c).cache.cMAddr.line =
        (s.step k c).cache.latchedAddress.line ∧
      (s.step k c).cache.tagRam.ram
          (Cache.indexOf k (s.step k c).cache.latchedAddress.line) =
        Cache.tagOf k (s.step k c).cache.latchedAddress.line ∧
      forall w, (s.step k c).cache.lineValid w =
        decide ((w - ((s.step k c).cache.cMAddr.word -
          (s.step k c).cache.lineIdx)).toNat <
            (s.step k c).cache.lineIdx.toNat) := by
  cases hbusy : s.cache.busy with
  | true =>
      have hflushing : s.cache.flushing = false := by
        cases hflushing : s.cache.flushing with
        | true =>
            cases hack : c.mAck with
            | true =>
                by_cases hlast : s.cache.lineIdx = 0b111#3
                · simp [busy_step, hack, hlast] at hbusy'
                · simp [flushing_step, hack, hlast, hflushing] at hnext
            | false =>
                simp [flushing_step, hack, hflushing] at hnext
        | false =>
            rfl
      rcases not_start_of_busy (k := k) hbusy with ⟨hflush, hfill⟩
      rcases h.filling hbusy hflushing with ⟨hline, htag, hvalid⟩
      cases hack : c.mAck with
      | true =>
          have hmore : s.cache.lineIdx ≠ 0b111#3 := by
            intro hlast
            simp [busy_step, hack, hlast] at hbusy'
          refine ⟨?_, ?_, ?_⟩
          · simp [cMAddr_step, latched_step, hack, hbusy, hline]
          · simp [tagRam_step, latched_step, hfill, hbusy, htag]
          · intro w
            have hsucc := lineValid_succ w s.cache.cMAddr.word s.cache.lineIdx
              hmore
            rw [lineValid_step, cMAddr_step, lineIdx_step, hack, hflushing,
              hvalid]
            simpa using hsucc
      | false =>
          rcases transfer_waits (k := k) hbusy hack with
            ⟨_, _, hidx, haddr, hsame, hlatched⟩
          rw [hidx, haddr, hsame, hlatched]
          refine ⟨hline, ?_, hvalid⟩
          simp [tagRam_step, hfill, htag]
  | false =>
      have hack := h.idle_no_ack hok hbusy
      have hflush : s.cache.doFlush k = false := by
        cases hflush : s.cache.doFlush k with
        | true =>
            simp [flushing_step, hack, hflush] at hnext
        | false =>
            rfl
      have hfill : s.cache.doFill k = true := by
        simpa [busy_step, hack, hbusy, hflush] using hbusy'
      rcases h.lookedUp hok (Or.inr hfill) with ⟨hlook, _, _⟩
      have hidx := (h.idle hbusy).right.left
      have hlatched : (s.step k c).cache.latchedAddress = c.request.addr := by
        simp [latched_step, hbusy, hlook.flushing]
      have haddr : (s.step k c).cache.cMAddr = c.request.addr := by
        simp [cMAddr_step, hack, hflush, hfill]
      rw [hlatched, haddr]
      refine ⟨rfl, ?_, ?_⟩
      · simp [tagRam_step, hfill, hlook.latched]
      · intro w
        simp [lineValid_step, lineIdx_step, hack, hflush, hfill, hidx]

theorem Control.idle_next (h : Control k s) (hok : s.Allowed c)
    (hnext : (s.step k c).cache.busy = false) :
    (s.step k c).cache.flushing = false ∧
      (s.step k c).cache.lineIdx = 0#3 ∧ (s.step k c).inFlight = none := by
  cases hack : c.mAck with
  | true =>
      have hbusy := h.ack_busy hok hack
      have hlast : s.cache.lineIdx = 0b111#3 := by
        by_cases hlast : s.cache.lineIdx = 0b111#3
        · exact hlast
        · simp [busy_step, hack, hlast, hbusy] at hnext
      refine ⟨?_, ?_, ?_⟩
      · simp [flushing_step, hack, hlast]
      · simp [lineIdx_step, hack, hlast]
      · simp [System.step, hack]
  | false =>
      simp only [busy_step, hack, Bool.false_eq_true, if_false,
        Bool.or_eq_false_iff] at hnext
      rcases hnext with ⟨⟨hbusy, hflush⟩, _⟩
      rcases h.idle hbusy with ⟨hflushing, hidx, hflight⟩
      refine ⟨?_, ?_, ?_⟩
      · simp [flushing_step, hack, hflushing, hflush]
      · simp [lineIdx_step, hack, hidx]
      · simp [System.step, System.busAccess, Cache.mAccess, System.inputs,
          hack, hflight, hbusy]

theorem Control.updating_next (h : Control k s) (hok : s.Allowed c)
    (hnext : (s.step k c).cache.updating = true) :
    (s.step k c).cache.accessing = true ∧
      (s.step k c).cache.latchedAddress = (s.step k c).cache.fetchAddress ∧
      ((s.step k c).cache.busy = true ->
        (s.step k c).cache.flushing = true) := by
  cases hupdating : s.cache.updating with
  | true =>
      rcases h.updating hupdating with ⟨haccess, hlatched, hbusyFlush⟩
      rcases h.request_held hok haccess with ⟨hreq, haddr⟩
      have hgoing : s.cache.doFlush k = true ∨ s.cache.flushing = true := by
        cases hflush : s.cache.doFlush k with
        | true =>
            exact Or.inl rfl
        | false =>
            cases hflushing : s.cache.flushing with
            | true =>
                exact Or.inr rfl
            | false =>
                simp [updating_step, hupdating, hflush, hflushing] at hnext
      have hack : s.cAck k c = false := by
        rcases hgoing with hflush | hflushing
        · exact cAck_of_start (Or.inl hflush)
        · simp [cAck_eq, hflushing]
      refine ⟨?_, ?_, ?_⟩
      · simp [accessing_step, hreq, hack]
      · rw [latched_step, fetch_step]
        split
        · rfl
        · exact hlatched.trans haddr.symm
      · intro hbusy'
        rcases hgoing with hflush | hflushing
        · have hlook := (h.lookedUp hok (Or.inl hflush)).left
          have hnoack := h.idle_no_ack hok hlook.busy
          simp [flushing_step, hnoack, hflush]
        · cases hnoack : c.mAck with
          | true =>
              by_cases hlast : s.cache.lineIdx = 0b111#3
              · simp [busy_step, hnoack, hlast] at hbusy'
              · simp [flushing_step, hnoack, hlast, hflushing]
          | false =>
              simp [flushing_step, hnoack, hflushing]
  | false =>
      simp only [updating_step, hupdating, Bool.false_and, Bool.false_eq_true,
        if_false] at hnext
      split at hnext
      · next hcond =>
          simp only [Bool.and_eq_true, Bool.not_eq_true'] at hcond
          rcases hcond with ⟨⟨hbusy, hflushing⟩, hreq, hack⟩
          have hnoack := h.idle_no_ack hok hbusy
          refine ⟨?_, ?_, ?_⟩
          · simp [accessing_step, hreq, hack]
          · simp [latched_step, fetch_step, hbusy, hflushing]
          · intro hbusy'
            simp [busy_step, hnoack, hbusy, Cache.doFlush, Cache.doFill,
              hupdating] at hbusy'
      · cases hnext

theorem Control.inFlight_next (h : Control k s) (a : Access)
    (hnext : (s.step k c).inFlight = some a) :
    a.addr = (s.step k c).cache.cMAddr ∧
      a.wrEn = (s.step k c).cache.flushing ∧
      ((s.step k c).cache.flushing = true ->
        a.dataOut = (s.step k c).cache.lineRam.qB) := by
  have hack : c.mAck = false := by
    cases hack : c.mAck with
    | true =>
        simp [System.step, hack] at hnext
    | false =>
        rfl
  have hbusAddr : s.cache.busy = true ∧ a.addr = s.cache.cMAddr ∧
      a.wrEn = s.cache.flushing ∧
      (s.cache.flushing = true -> a.dataOut = s.cache.lineRam.qB) := by
    cases hflight : s.inFlight with
    | some b =>
        have hsame : b = a := by
          simpa [System.step, hack, hflight] using hnext
        have hbusy : s.cache.busy = true := by
          cases hbusy : s.cache.busy with
          | true =>
              rfl
          | false =>
              rw [(h.idle hbusy).right.right] at hflight
              cases hflight
        rw [← hsame]
        exact ⟨hbusy, h.inFlight b hflight⟩
    | none =>
        simp only [System.step, hack, hflight, System.busAccess,
          Cache.mAccess, Cache.mAddr, Cache.mWrEn, Cache.mDataOut,
          System.inputs] at hnext
        cases hbusy : s.cache.busy with
        | true =>
            simp [hbusy] at hnext
            rw [← hnext]
            simp
        | false =>
            simp [hbusy] at hnext
  rcases hbusAddr with ⟨hbusy, haddr, hwrEn, hdata⟩
  rcases transfer_waits (k := k) hbusy hack with
    ⟨_, hflush, _, hcMAddr, _, _⟩
  rw [hflush, hcMAddr]
  refine ⟨haddr, hwrEn, ?_⟩
  intro hflushing
  rcases h.flushing hflushing with ⟨_, _, _, _, hqB⟩
  rw [(qB_step_flushing h hflushing).left, hack, hdata hflushing, hqB]
  simp

theorem Control.tags_next (h : Control k s) (i : Nat)
    (hnext : (s.step k c).cache.validRam.ram i = true) :
    exists line, Cache.indexOf k line = i ∧
      Cache.tagOf k line = (s.step k c).cache.tagRam.ram i := by
  rw [validRam_step] at hnext
  by_cases hwrite : s.cache.writeValid k (s.inputs k c) = true ∧
      i = Cache.indexOf k s.cache.latchedAddress.line
  · rw [if_pos hwrite] at hnext
    rcases hwrite with ⟨_, hi⟩
    split at hnext
    · cases hnext
    · simp only [Bool.and_eq_true, Bool.not_eq_true', beq_iff_eq] at hnext
      have hbusy : s.cache.busy = true := by
        cases hbusy : s.cache.busy with
        | true =>
            rfl
        | false =>
            rw [(h.idle hbusy).right.left] at hnext
            exact absurd hnext.right (by decide)
      rcases h.filling hbusy hnext.left with ⟨_, htag, _⟩
      refine ⟨s.cache.latchedAddress.line, hi.symm, ?_⟩
      rw [tagRam_step, hi, htag]
      split <;> rfl
  · rw [if_neg hwrite] at hnext
    rcases h.tags i hnext with ⟨line, hindex, htag⟩
    refine ⟨line, hindex, ?_⟩
    rw [tagRam_step]
    split
    · next hfill =>
        exact absurd ⟨by simp [Cache.writeValid, hfill.left], hfill.right⟩
          hwrite
    · exact htag

/-- Every cycle keeps the relations between the control registers. -/
theorem control_step (h : Control k s) (hok : s.Allowed c)
    (hcoherent : Coherent (Cache.indexOf k) (s.store k) s.reference) :
    Control k (s.step k c) := by
  have hquiet : (s.step k c).cache.accessing = true ->
      s.cAck k c = false := by
    intro haccess
    simp only [accessing_step, Bool.and_eq_true, Bool.not_eq_true'] at haccess
    exact haccess.right
  refine
    { idle := h.idle_next hok
      accessing := ?_
      fetch := ?_
      tag := ?_
      valid := ?_
      dirty := ?_
      data := ?_
      updating := h.updating_next hok
      filling := h.filling_next hok
      flushing := h.flushing_next hok hcoherent
      inFlight := h.inFlight_next
      tags := h.tags_next }
  · rw [accessing_step]
    simp only [System.step]
    cases c.access && !s.cAck k c <;> rfl
  · intro r hwait
    simp only [System.step] at hwait
    split at hwait
    · cases hwait
      rfl
    · cases hwait
  · intro _
    exact DPRam.qA_step (s.cache.tagRamInputs k (s.inputs k c)) _ rfl
  · intro _
    exact DPRam.qA_step (s.cache.validRamInputs k (s.inputs k c)) _ rfl
  · intro haccess
    have hread :
        (s.cache.dirtyRamInputs k (s.inputs k c)).wrEnA = false := by
      have hnone := hquiet haccess
      rw [System.cAck] at hnone
      simp [Cache.dirtyRamInputs, System.inputs, hnone]
    exact DPRam.qA_step (s.cache.dirtyRamInputs k (s.inputs k c)) _ hread
  · intro haccess
    have hread :
        (s.cache.lineRamInputs k (s.inputs k c)).wrEnA = false := by
      rw [lineRam_write]
      simp [writes, hquiet haccess]
    exact BlockRam.qA_step (s.cache.lineRamInputs k (s.inputs k c)) _ hread rfl

end Operations

/-!
## The flat memory
-/

namespace System

/-- A word that can be read from the cache. -/
def wordValid (k : Nat) (s : System) (l : BitVec 16) (w : BitVec 3) : Bool :=
  (s.cache.validRam.ram (Cache.indexOf k l) &&
      s.cache.tagRam.ram (Cache.indexOf k l) == Cache.tagOf k l) ||
    (s.cache.busy && !s.cache.flushing && l == s.cache.latchedAddress.line &&
      s.cache.lineValid w)

/-- A word of the line being flushed whose write is not yet acknowledged. -/
def toWriteBack (s : System) (l : BitVec 16) (w : BitVec 3) : Bool :=
  s.cache.flushing && l == s.cache.cMAddr.line &&
    decide (s.cache.lineIdx.toNat ≤ w.toNat)

/-- The backend, overlaid with the valid dirty words. -/
def overlaid (k : Nat) (s : System) : Words :=
  fun l w =>
    if s.wordValid k l w && s.cache.dirtyRam.ram (Cache.indexOf k l) then
      s.cache.lineRam.ram (Cache.indexOf k l, w)
    else s.backend l w

/-- The same, and with the words still to be written back. -/
def flat (k : Nat) (s : System) : Words :=
  fun l w =>
    if s.toWriteBack l w then s.cache.lineRam.ram (Cache.indexOf k l, w)
    else s.overlaid k l w

end System

theorem Control.holds_iff (h : Control k s) (l : BitVec 16) (w : BitVec 3) :
    Holds (Cache.indexOf k) (s.store k) l w ↔ s.wordValid k l w = true := by
  have hresident : (s.store k).resident (Cache.indexOf k l) = some l ↔
      s.cache.validRam.ram (Cache.indexOf k l) = true ∧
        s.cache.tagRam.ram (Cache.indexOf k l) = Cache.tagOf k l := by
    simp only [System.store]
    constructor
    · intro hres
      split at hres
      · next hvalid =>
          refine ⟨hvalid, ?_⟩
          rcases h.tags _ hvalid with ⟨line, hindex, htag⟩
          have hline : line = l := by
            rw [← htag, ← hindex, lineOf_tagOf] at hres
            exact Option.some.inj hres
          rw [← htag, hline]
      · cases hres
    · rintro ⟨hvalid, htag⟩
      rw [if_pos hvalid, htag, lineOf_tagOf]
  have hfilling : (exists present,
      (s.store k).phase = .filling l present ∧ present w = true) ↔
      s.cache.busy = true ∧ s.cache.flushing = false ∧
        l = s.cache.latchedAddress.line ∧ s.cache.lineValid w = true := by
    simp only [System.store, System.phase]
    cases hbusy : s.cache.busy with
    | true =>
        cases hflushing : s.cache.flushing with
        | true =>
            simp
        | false =>
            simp only [if_true, Bool.false_eq_true, if_false, true_and]
            constructor
            · rintro ⟨present, hphase, hword⟩
              cases hphase
              exact ⟨rfl, hword⟩
            · rintro ⟨rfl, hword⟩
              exact ⟨_, rfl, hword⟩
    | false =>
        simp
  rw [Holds, hresident, hfilling]
  simp [System.wordValid, and_assoc]

theorem Control.unwritten_iff (h : Control k s) (l : BitVec 16)
    (w : BitVec 3) :
    Unwritten (s.store k) l w ↔ s.toWriteBack l w = true := by
  simp only [Unwritten, System.store, System.phase, System.toWriteBack]
  cases hflushing : s.cache.flushing with
  | true =>
      have hbusy := (h.flushing hflushing).left
      simp only [hbusy, if_true, Bool.true_and, Bool.and_eq_true, beq_iff_eq,
        decide_eq_true_eq]
      constructor
      · rintro ⟨written, hphase, hword⟩
        cases hphase
        exact ⟨rfl, by simpa using hword⟩
      · rintro ⟨rfl, hle⟩
        exact ⟨_, rfl, by simpa using hle⟩
  | false =>
      cases hbusy : s.cache.busy with
      | true =>
          simp
      | false =>
          simp

theorem flat_eq_reference (h : Control k s)
    (hcoherent : Coherent (Cache.indexOf k) (s.store k) s.reference) :
    s.flat k = s.reference := by
  rw [← hcoherent.overlay]
  funext l w
  have hholds := h.holds_iff l w
  have hunwritten := h.unwritten_iff l w
  simp only [System.flat, System.overlaid, overlay, hholds, hunwritten]
  cases hback : s.toWriteBack l w with
  | true =>
      simp [System.store]
  | false =>
      simp [System.store]

/-!
## Progress
-/

/-- The backend keeps the cache waiting in this cycle. -/
def stalled (s : System) (c : Cycle) : Bool := s.cache.busy && !c.mAck

/-- The cycles, stalled ones apart, until a waiting request is acknowledged. -/
def remaining (k : Nat) (s : System) : Nat :=
  if s.cache.flushing then 17 - s.cache.lineIdx.toNat
  else if s.cache.hit k then 0
  else if s.cache.busy then
    (if s.cache.latchedAddress.line = s.cache.fetchAddress.line then 8
      else 27) - s.cache.lineIdx.toNat
  else if s.cache.updating then if s.cache.dirty then 18 else 9
  else 19

theorem lineIdx_lt (n : BitVec 3) (hn : n ≠ 0b111#3) :
    (n + 1#3).toNat = n.toNat + 1 ∧ n.toNat < 7 := by
  revert n
  decide

section Progress

variable (h : Control k s) (hok : s.Allowed c)
  (hcoherent : Coherent (Cache.indexOf k) (s.store k) s.reference)
  (haccess : s.cache.accessing = true) (hnot : s.cAck k c = false)

include h hok hcoherent haccess hnot

omit hcoherent in
theorem accessing_next : (s.step k c).cache.accessing = true := by
  simp [accessing_step, (h.request_held hok haccess).left, hnot]

theorem remaining_flushing (hflushing : s.cache.flushing = true) :
    remaining k (s.step k c) + 1 ≤
      remaining k s + (if stalled s c then 1 else 0) := by
  rcases h.flushing hflushing with ⟨hbusy, hupdating, hindex, _, _⟩
  rcases h.updating hupdating with ⟨_, hlatched, _⟩
  have hnow : remaining k s = 17 - s.cache.lineIdx.toNat := by
    simp [remaining, hflushing]
  cases hack : c.mAck with
  | true =>
      by_cases hlast : s.cache.lineIdx = 0b111#3
      · have hclean : (s.step k c).cache.dirty = false := by
          have hcontrol := control_step h hok hcoherent
          have haccess' := accessing_next h hok haccess hnot
          rw [hcontrol.dirty haccess', fetch_step,
            (h.request_held hok haccess).right, ← hlatched, ← hindex,
            dirtyRam_step]
          have hslot : s.cache.dirtyRam.ram
              (Cache.indexOf k s.cache.cMAddr.line) = false :=
            (hcoherent.flushing_slot _ _
              (h.phase_of_flushing hflushing)).right
          have hquiet : writes k s c = false := by
            simp [writes, hnot]
          simpa [(not_start_of_busy (k := k) hbusy).left, hquiet] using hslot
        have hbusy' : (s.step k c).cache.busy = false := by
          simp [busy_step, hack, hlast]
        have hflushing' : (s.step k c).cache.flushing = false := by
          simp [flushing_step, hack, hlast]
        have hupdating' : (s.step k c).cache.updating = true := by
          simp [updating_step, hflushing, hupdating]
        have hnext : remaining k (s.step k c) ≤ 9 := by
          simp only [remaining, hflushing', hbusy', hupdating', hclean]
          cases (s.step k c).cache.hit k <;> simp
        rw [hnow, hlast]
        simp only [stalled, hack]
        simp
        omega
      · have hsucc := lineIdx_lt _ hlast
        have hnext : remaining k (s.step k c) =
            17 - (s.cache.lineIdx.toNat + 1) := by
          rw [← hsucc.left]
          simp [remaining, flushing_step, lineIdx_step, hack, hlast, hflushing,
            -BitVec.toNat_add]
        rw [hnow, hnext]
        omega
  | false =>
      rcases transfer_waits (k := k) hbusy hack with ⟨_, hflush, hidx, _⟩
      have hnext : remaining k (s.step k c) =
          17 - s.cache.lineIdx.toNat := by
        simp [remaining, hflush, hflushing, hidx]
      rw [hnow, hnext]
      simp [stalled, hbusy, hack]

theorem remaining_filling (hbusy : s.cache.busy = true)
    (hflushing : s.cache.flushing = false) :
    remaining k (s.step k c) + 1 ≤
      remaining k s + (if stalled s c then 1 else 0) := by
  have hmiss : s.cache.hit k = false := by
    simpa [cAck_eq, haccess, hflushing] using hnot
  have hupdating : s.cache.updating = false := by
    cases hupdating : s.cache.updating with
    | true =>
        have hflush := (h.updating hupdating).right.right hbusy
        rw [hflushing] at hflush
        cases hflush
    | false =>
        rfl
  have haddr := (h.request_held hok haccess).right
  have hlatched : (s.step k c).cache.latchedAddress =
      s.cache.latchedAddress := by
    simp [latched_step, hbusy]
  have hfetch : (s.step k c).cache.fetchAddress = s.cache.fetchAddress := haddr
  have hflushing' : (s.step k c).cache.flushing = false := by
    have hflush := (not_start_of_busy (k := k) hbusy).left
    cases hack : c.mAck <;> simp [flushing_step, hack, hflushing, hflush]
  have hnow : remaining k s =
      (if s.cache.latchedAddress.line = s.cache.fetchAddress.line then 8
        else 27) - s.cache.lineIdx.toNat := by
    simp [remaining, hflushing, hmiss, hbusy]
  cases hack : c.mAck with
  | true =>
      by_cases hlast : s.cache.lineIdx = 0b111#3
      · have hbusy' : (s.step k c).cache.busy = false := by
          simp [busy_step, hack, hlast]
        have hupdating' : (s.step k c).cache.updating = false := by
          simp [updating_step, hupdating, hbusy]
        by_cases hown : s.cache.latchedAddress.line =
            s.cache.fetchAddress.line
        · have hhit : (s.step k c).cache.hit k = true := by
            have hcontrol := control_step h hok hcoherent
            have haccess' := accessing_next h hok haccess hnot
            rcases h.filling hbusy hflushing with ⟨_, htag, _⟩
            rcases not_start_of_busy (k := k) hbusy with ⟨hflush, hfill⟩
            have hvalid : (s.step k c).cache.valid = true := by
              rw [hcontrol.valid haccess', hfetch, ← hown, validRam_step]
              simp [Cache.writeValid, Cache.lastWord, System.inputs, hack,
                hflush, hlast, hflushing]
            have hmatch : (s.step k c).cache.tagsMatch k = true := by
              rw [Cache.tagsMatch, hcontrol.tag haccess', hfetch, ← hown,
                tagRam_step]
              simp [hfill, htag]
            simp [Cache.hit, haccess', hvalid, hmatch]
          have hnext : remaining k (s.step k c) = 0 := by
            simp [remaining, hflushing', hhit]
          rw [hnext, hnow, hlast, if_pos hown]
          simp
        · have hnext : remaining k (s.step k c) ≤ 19 := by
            simp only [remaining, hflushing', hbusy', hupdating']
            cases (s.step k c).cache.hit k <;> simp
          rw [hnow, hlast, if_neg hown]
          simp only [stalled, hack]
          simp
          omega
      · have hsucc := lineIdx_lt _ hlast
        have hbusy' : (s.step k c).cache.busy = true := by
          simp [busy_step, hack, hlast, hbusy]
        have hidx : (s.step k c).cache.lineIdx.toNat =
            s.cache.lineIdx.toNat + 1 := by
          rw [lineIdx_step, hack, if_pos rfl]
          exact hsucc.left
        have hnext : remaining k (s.step k c) ≤
            (if s.cache.latchedAddress.line = s.cache.fetchAddress.line then 8
              else 27) - (s.cache.lineIdx.toNat + 1) := by
          simp only [remaining, hflushing', hbusy', hlatched, hfetch, hidx]
          cases (s.step k c).cache.hit k <;> simp
        rw [hnow]
        split at hnext
        · next hown =>
            simp only [hown, if_true]
            omega
        · next hown =>
            simp only [hown, if_false]
            omega
  | false =>
      rcases transfer_waits (k := k) hbusy hack with ⟨hbusy', _, hidx, _⟩
      have hnext : remaining k (s.step k c) ≤
          (if s.cache.latchedAddress.line = s.cache.fetchAddress.line then 8
            else 27) - s.cache.lineIdx.toNat := by
        simp only [remaining, hflushing', hbusy', hlatched, hfetch, hidx]
        cases (s.step k c).cache.hit k <;> simp
      rw [hnow]
      simp only [stalled, hbusy, hack]
      simpa using hnext

omit hcoherent in
theorem remaining_idle (hbusy : s.cache.busy = false) :
    remaining k (s.step k c) + 1 ≤
      remaining k s + (if stalled s c then 1 else 0) := by
  rcases h.idle hbusy with ⟨hflushing, hidx, _⟩
  have hack := h.idle_no_ack hok hbusy
  have hmiss : s.cache.hit k = false := by
    simpa [cAck_eq, haccess, hflushing] using hnot
  cases hupdating : s.cache.updating with
  | true =>
      cases hdirty : s.cache.dirty with
      | true =>
          have hflush : s.cache.doFlush k = true := by
            simp [Cache.doFlush, hupdating, hmiss, hbusy, hflushing, hdirty]
          have hnext : remaining k (s.step k c) = 17 := by
            simp [remaining, flushing_step, lineIdx_step, hack, hflush, hidx]
          have hnow : remaining k s = 18 := by
            simp [remaining, hflushing, hmiss, hbusy, hupdating, hdirty]
          omega
      | false =>
          have hfill : s.cache.doFill k = true := by
            simp [Cache.doFill, hupdating, hmiss, hbusy, hflushing, hdirty]
          have hflush : s.cache.doFlush k = false := by
            simp [Cache.doFlush, hdirty]
          have hflushing' : (s.step k c).cache.flushing = false := by
            simp [flushing_step, hack, hflushing, hflush]
          have hbusy' : (s.step k c).cache.busy = true := by
            simp [busy_step, hack, hfill]
          have hsame : (s.step k c).cache.latchedAddress =
              (s.step k c).cache.fetchAddress := by
            simp [latched_step, fetch_step, hbusy, hflushing]
          have hnext : remaining k (s.step k c) ≤ 8 := by
            simp only [remaining, hflushing', hbusy', hsame]
            cases (s.step k c).cache.hit k <;> simp
          have hnow : remaining k s = 9 := by
            simp [remaining, hflushing, hmiss, hbusy, hupdating, hdirty]
          omega
  | false =>
      have hflush : s.cache.doFlush k = false := by
        simp [Cache.doFlush, hupdating]
      have hfill : s.cache.doFill k = false := by
        simp [Cache.doFill, hupdating]
      have hflushing' : (s.step k c).cache.flushing = false := by
        simp [flushing_step, hack, hflushing, hflush]
      have hbusy' : (s.step k c).cache.busy = false := by
        simp [busy_step, hack, hbusy, hflush, hfill]
      have hupdating' : (s.step k c).cache.updating = true := by
        simp [updating_step, hupdating, hbusy, hflushing,
          (h.request_held hok haccess).left, hnot]
      have hnext : remaining k (s.step k c) ≤ 18 := by
        simp only [remaining, hflushing', hbusy', hupdating']
        cases (s.step k c).cache.hit k <;>
          cases (s.step k c).cache.dirty <;> simp
      have hnow : remaining k s = 19 := by
        simp [remaining, hflushing, hmiss, hbusy, hupdating]
      omega

/-- A cycle without an acknowledgement comes closer to one, or is stalled. -/
theorem remaining_step :
    remaining k (s.step k c) + 1 ≤
      remaining k s + (if stalled s c then 1 else 0) := by
  cases hbusy : s.cache.busy with
  | true =>
      cases hflushing : s.cache.flushing with
      | true =>
          exact remaining_flushing h hok hcoherent haccess hnot hflushing
      | false =>
          exact remaining_filling h hok hcoherent haccess hnot hbusy hflushing
  | false =>
      exact remaining_idle h hok haccess hnot hbusy

end Progress

/-!
## Whole runs
-/

/-- No transfer and no request, all lines invalid and clean. -/
structure Initial (s : System) : Prop where
  busy : s.cache.busy = false
  flushing : s.cache.flushing = false
  updating : s.cache.updating = false
  accessing : s.cache.accessing = false
  lineIdx : s.cache.lineIdx = 0#3
  invalid : forall i, s.cache.validRam.ram i = false
  clean : forall i, s.cache.dirtyRam.ram i = false
  waiting : s.waiting = none
  inFlight : s.inFlight = none
  reference : s.reference = s.backend

structure Inv (k : Nat) (s : System) : Prop where
  control : Control k s
  coherent : Coherent (Cache.indexOf k) (s.store k) s.reference

theorem inv_initial (k : Nat) (h : Initial s) : Inv k s := by
  constructor
  · refine
      { idle := fun _ => ⟨h.flushing, h.lineIdx, h.inFlight⟩
        accessing := by simp [h.accessing, h.waiting]
        fetch := by simp [h.waiting]
        tag := by simp [h.accessing]
        valid := by simp [h.accessing]
        dirty := by simp [h.accessing]
        data := by simp [h.accessing]
        updating := by simp [h.updating]
        filling := by simp [h.busy]
        flushing := by simp [h.flushing]
        inFlight := by simp [h.inFlight]
        tags := by simp [h.invalid] }
  · have hphase : (s.store k).phase = .idle := by
      simp [System.store, System.phase, h.busy]
    have hnone : forall i, (s.store k).resident i = none := by
      intro i
      simp [System.store, h.invalid]
    have hholds : forall l w,
        ¬ Holds (Cache.indexOf k) (s.store k) l w := by
      rintro l w (hres | ⟨present, hfill, _⟩)
      · rw [hnone] at hres
        cases hres
      · rw [hphase] at hfill
        cases hfill
    refine ⟨?_, ?_, ?_, ?_, ?_, ?_, ?_, ?_⟩
    · intro l w hheld
      exact absurd hheld (hholds l w)
    · intro l w hheld
      exact absurd hheld (hholds l w)
    · intro l w _ _
      rw [h.reference]
      rfl
    · rintro l w ⟨written, hflush, _⟩
      rw [hphase] at hflush
      cases hflush
    · intro i l hres
      rw [hnone] at hres
      cases hres
    · intro i hdirty
      rw [show (s.store k).dirty i = false from h.clean i] at hdirty
      cases hdirty
    · intro l present hfill
      rw [hphase] at hfill
      cases hfill
    · intro l written hflush
      rw [hphase] at hflush
      cases hflush

theorem inv_step (h : Inv k s) (hok : s.Allowed c) : Inv k (s.step k c) :=
  ⟨control_step h.control hok h.coherent,
    coherent_step h.control hok h.coherent⟩

/-- A request is presented in every cycle and in none of them acknowledged. -/
def Unanswered (k : Nat) : System -> List Cycle -> Prop
  | _, [] => True
  | s, c :: rest =>
      c.access = true ∧ s.cAck k c = false ∧ Unanswered k (s.step k c) rest

/-- The cycles in which the backend keeps the cache waiting. -/
def stalls (k : Nat) : System -> List Cycle -> Nat
  | _, [] => 0
  | s, c :: rest =>
      (if stalled s c then 1 else 0) + stalls k (s.step k c) rest

theorem remaining_run (cycles : List Cycle) :
    forall s : System, Inv k s -> s.cache.accessing = true ->
      Admissible (System.step k) System.Allowed s cycles ->
      Unanswered k s cycles ->
      cycles.length ≤ remaining k s + stalls k s cycles := by
  induction cycles with
  | nil =>
      intro s _ _ _ _
      simp
  | cons c rest ih =>
      intro s h haccess hrun hunanswered
      rcases hrun with ⟨hok, hrest⟩
      rcases hunanswered with ⟨_, hnot, hunanswered⟩
      have hstep := remaining_step h.control hok h.coherent haccess hnot
      have htail := ih (s.step k c) (inv_step h hok)
        (accessing_next h.control hok haccess hnot) hrest hunanswered
      simp only [List.length_cons, stalls]
      omega

theorem remaining_le (k : Nat) (s : System) : remaining k s ≤ 27 := by
  unfold remaining
  repeat' split
  all_goals omega

/-- A request waits at most for 28 cycles that are not stalled. -/
theorem answered_within {cycles : List Cycle} (h : Inv k s)
    (hrun : Admissible (System.step k) System.Allowed s cycles)
    (hunanswered : Unanswered k s cycles) :
    cycles.length ≤ 28 + stalls k s cycles := by
  cases cycles with
  | nil =>
      simp
  | cons c rest =>
      rcases hrun with ⟨hok, hrest⟩
      rcases hunanswered with ⟨hreq, hnot, hunanswered⟩
      have haccess : (s.step k c).cache.accessing = true := by
        simp [accessing_step, hreq, hnot]
      have htail := remaining_run rest (s.step k c) (inv_step h hok) haccess
        hrest hunanswered
      have hbound := remaining_le k (s.step k c)
      simp only [List.length_cons, stalls]
      omega

/--
Along every run from an idle, empty cache the flat memory is the reference
memory, an acknowledged read returns the word of the reference memory, and a
request is acknowledged after finitely many cycles of the backend.
-/
theorem cache_refines_memory (k : Nat) (s : System) (h : Initial s)
    (cycles : List Cycle)
    (hrun : Admissible (System.step k) System.Allowed s cycles) :
    let t := run (System.step k) s cycles
    t.flat k = t.reference ∧
      (forall c, t.Allowed c -> t.cAck k c = true ->
        t.cDataIn k c =
          t.reference c.request.addr.line c.request.addr.word) ∧
      forall more,
        Admissible (System.step k) System.Allowed t more ->
        Unanswered k t more -> more.length ≤ 28 + stalls k t more := by
  intro t
  have hinv : Inv k t :=
    run_invariant (fun s c h hok => inv_step h hok) (inv_initial k h) hrun
  refine ⟨?_, ?_, ?_⟩
  · exact flat_eq_reference hinv.control hinv.coherent
  · intro c hok hack
    rw [hinv.control.cDataIn_of_ack hok hack]
    exact hinv.coherent.held _ _ (hinv.control.holds_of_ack hok hack)
  · intro more hmore hunanswered
    exact answered_within hinv hmore hunanswered

/-!
## An eviction
-/

instance (s : System) (c : Cycle) : Decidable (s.Allowed c) :=
  decidable_of_iff
    ((match s.waiting with
      | none => true
      | some r => c.access && decide (c.request = r)) = true ∧
      (c.mAck = true -> s.inFlight.isSome = true)) (by
    constructor
    · rintro ⟨hheld, hacks⟩
      constructor
      · intro r hwait
        simpa [hwait] using hheld
      · intro hack hnone
        simp [hnone] at hacks
        rw [hacks] at hack
        cases hack
    · rintro ⟨hheld, hacks⟩
      constructor
      · cases hwait : s.waiting with
        | none =>
            rfl
        | some r =>
            simpa using hheld r hwait
      · intro hack
        exact Option.isSome_iff_ne_none.mpr (hacks hack))

def emptyRam {Addr Data : Type} (d : Data) : DPRam Addr Data :=
  { ram := fun _ => d, rA := d, rB := d, bypassAVal := d, bypassBVal := d
    bypassA := false, bypassB := false }

def emptyCache : Cache :=
  { cMAddr := ⟨0#16, 0#3⟩, lineIdx := 0#3, lineValid := fun _ => false
    busy := false, flushing := false, latchedAddress := ⟨0#16, 0#3⟩
    fetchAddress := ⟨0#16, 0#3⟩, updating := false, accessing := false
    tagRam := emptyRam 0, validRam := emptyRam false
    dirtyRam := emptyRam false
    lineRam :=
      { ram := fun _ => 0#16, rA := 0#16, rB := 0#16, bypassAVal := 0#16
        bypassBVal := 0#16, bypassA := false, bypassB := false } }

/-- An empty cache of two lines in front of a memory of zeros. -/
def powerOn : System :=
  { cache := emptyCache, backend := fun _ _ => 0#16
    reference := fun _ _ => 0#16, waiting := none, inFlight := none }

def store0 : Request :=
  { addr := ⟨0#16, 0#3⟩, dataOut := 0xa5a5#16, wrEn := true
    bytesel := 0b11#2 }

/-- A read of another line with the same index. -/
def load2 : Request :=
  { addr := ⟨2#16, 0#3⟩, dataOut := 0#16, wrEn := false, bytesel := 0b11#2 }

def cycleOf (access : Bool) (request : Request) (mAck : Bool) : Cycle :=
  { access := access, request := request, mAck := mAck, idleData := 0#16 }

/-- The backend samples an access and acknowledges it in the next cycle. -/
def fillRest : Nat -> List Cycle
  | 0 => []
  | n + 1 => cycleOf false store0 false :: cycleOf false store0 true ::
      fillRest n

/--
A write that brings line 0 in, the rest of the fill, and a read of line 2 up to
the cycle that starts the flush of line 0.
-/
def eviction : List Cycle :=
  [cycleOf true store0 false, cycleOf true store0 false,
    cycleOf true store0 false, cycleOf true store0 true,
    cycleOf true store0 false, cycleOf false store0 true] ++
    fillRest 6 ++ [cycleOf true load2 false, cycleOf true load2 false]

theorem powerOn_initial : Initial powerOn := by
  constructor <;> intros <;> rfl

theorem eviction_allowed :
    Admissible (System.step 1) System.Allowed powerOn eviction := by
  simp only [eviction, fillRest, List.cons_append, List.nil_append,
    admissible_cons, admissible_nil, and_true]
  decide +kernel

/--
When a flush begins, the dirty bit and the valid bit of its line are already
clear while the backend still holds the old words.
-/
theorem cache_overlay_misses_flush :
    Initial powerOn ∧
      Admissible (System.step 1) System.Allowed powerOn eviction ∧
      (run (System.step 1) powerOn eviction).overlaid 1 0#16 0#3 ≠
        (run (System.step 1) powerOn eviction).reference 0#16 0#3 := by
  refine ⟨powerOn_initial, eviction_allowed, ?_⟩
  decide +kernel

theorem cache_refines_memory_eviction :
    (run (System.step 1) powerOn eviction).flat 1 0#16 0#3 = 0xa5a5#16 := by
  have hflat := (cache_refines_memory 1 powerOn powerOn_initial eviction
    eviction_allowed).left
  have hreference : (run (System.step 1) powerOn eviction).reference 0#16 0#3 =
      0xa5a5#16 := by
    decide +kernel
  rw [hflat]
  exact hreference

end CacheRefines
end Fpga
end S80x86
