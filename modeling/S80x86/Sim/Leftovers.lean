import S80x86.Sim.Emulate

/-!
# What a step reads of earlier steps

The emulator object keeps decoder fields, prefixes and counters from one step
to the next.  Two emulators in the same architectural state may differ in all
of them; a stage says which of the fields a step has set again by then.
-/

namespace S80x86
namespace Sim

open Foundation.Effect

variable {W : Type}

/-!
## Registers without the tracking bit
-/

namespace RegisterFile

/-- The registers and flags; whether they were written since is left out. -/
def values (r : RegisterFile) : RegisterFile := { r with written := false }

theorem get_values (r : RegisterFile) (x : GPR) : r.get x = r.values.get x := by
  cases x <;> rfl

theorem set_values (r : RegisterFile) (x : GPR) (v : BitVec 16) :
    (r.set x v).values = (r.values.set x v).values := by
  cases x <;> rfl

theorem get_congr {r q : RegisterFile} (h : r.values = q.values) (x : GPR) :
    r.get x = q.get x := by
  rw [get_values, h, <- get_values]

theorem set_congr {r q : RegisterFile} (h : r.values = q.values) (x : GPR)
    (v : BitVec 16) : (r.set x v).values = (q.set x v).values := by
  rw [set_values, h, <- set_values]

theorem flags_congr {r q : RegisterFile} (h : r.values = q.values) :
    r.flags = q.flags := by
  show r.values.flags = q.values.flags
  rw [h]

theorem setFlags_congr {r q : RegisterFile} (h : r.values = q.values)
    (v mask : BitVec 16) :
    (r.setFlags v mask).values = (q.setFlags v mask).values := by
  show (r.values.setFlags v mask).values = (q.values.setFlags v mask).values
  rw [h]

end RegisterFile

/-!
## Stages of a step
-/

/-- How far a step has come: entered, `TF` sampled, an instruction started, or
its opcode fetched. -/
inductive Phase where
  | entry
  | sampled
  | started
  | insn

def Phase.rank : Phase -> Nat
  | entry => 0
  | sampled => 1
  | started => 2
  | insn => 3

/-- A phase and the operand widths the two emulators hold. -/
structure Stage where
  phase : Phase
  left : OperandWidth
  right : OperandWidth

/-- The fields of the current instruction that are set when it starts; what
they guard is compared only where they say that it is there. -/
structure SameInsn (s t : Emulator W) : Prop where
  instrLength : s.instrLength = t.instrLength
  jumpTaken : s.jumpTaken = t.jumpTaken
  overriden : s.defaultSegmentOverriden = t.defaultSegmentOverriden
  override : s.defaultSegmentOverriden = true ->
    s.overrideSegment = t.overrideSegment
  hasRep : s.hasRepPrefix = t.hasRepPrefix
  rep : s.hasRepPrefix = true -> s.repMode = t.repMode
  isDecoded : s.modrmDecoder.isDecoded = t.modrmDecoder.isDecoded
  modrm : s.modrmDecoder.isDecoded = true ->
    s.modrmDecoder.modrm = t.modrmDecoder.modrm
  addrIsCached : s.modrmDecoder.isDecoded = true ->
    s.modrmDecoder.addrIsCached = t.modrmDecoder.addrIsCached
  cachedAddress : s.modrmDecoder.isDecoded = true ->
    s.modrmDecoder.addrIsCached = true ->
    s.modrmDecoder.cachedAddress = t.modrmDecoder.cachedAddress

/-- The same architectural state, the same leftovers where the phase has set
them, and the operand widths of the stage. -/
structure Same (i : Stage) (s t : Emulator W) : Prop where
  registers : s.registers.values = t.registers.values
  mem : s.mem.mem = t.mem.mem
  world : s.world = t.world
  nmiPending : s.nmiPending = t.nmiPending
  extIntInhibit : s.extIntInhibit = t.extIntInhibit
  pendingIrq : s.pendingIrq = t.pendingIrq
  tfWasSet : 1 ≤ i.phase.rank -> s.tfWasSet = t.tfWasSet
  insn : 2 ≤ i.phase.rank -> SameInsn s t
  opcode : 3 ≤ i.phase.rank -> s.opcode = t.opcode
  left : s.modrmDecoder.width = i.left
  right : t.modrmDecoder.width = i.right

/-- A run that reads nothing an earlier step left behind. -/
abbrev Fresh (i : Stage) (j : outParam Stage) (m : EmuM W α) : Prop :=
  Respects Same i j m

section Primitives

variable (i : Stage)

instance (r : GPR) : Fresh i i (get r : EmuM W _) :=
  respects_gets _ _ _ fun _ _ h => RegisterFile.get_congr h.registers r

instance (r : GPR) (v : BitVec 16) : Fresh i i (set r v : EmuM W _) :=
  respects_modify _ _ _ _ fun _ _ h =>
    { h with
      registers := RegisterFile.set_congr h.registers r v
      insn := fun hi => { h.insn hi with } }

instance : Fresh i i (getFlags : EmuM W _) :=
  respects_gets _ _ _ fun _ _ h => by
    simp only [RegisterFile.getFlags, RegisterFile.flags_congr h.registers]

instance (f : BitVec 16) : Fresh i i (getFlag f : EmuM W _) :=
  respects_gets _ _ _ fun _ _ h => by
    simp only [RegisterFile.getFlag, RegisterFile.flags_congr h.registers]

instance (f : (BitVec 16 -> Bool) -> Bool) :
    Fresh i i (flagTest f : EmuM W _) :=
  respects_gets _ _ _ fun _ _ h => by
    unfold RegisterFile.getFlag
    rw [RegisterFile.flags_congr h.registers]

instance (v mask : BitVec 16) : Fresh i i (setFlags v mask : EmuM W _) :=
  respects_modify _ _ _ _ fun _ _ h =>
    { h with
      registers := RegisterFile.setFlags_congr h.registers v mask
      insn := fun hi => { h.insn hi with } }

instance (a : Access) : Fresh i i (resolve a : EmuM W _) where
  agree env s t h := by
    unfold resolve
    cases env.addressing a with
    | none =>
        exact ⟨rfl, rfl⟩
    | some f =>
        exact ⟨rfl, rfl, h⟩

instance (a : BitVec 20) : Fresh i i (loadByte a : EmuM W _) :=
  respects_gets _ _ _ fun _ _ h => congrFun h.mem a

instance (a : BitVec 20) (v : BitVec 8) :
    Fresh i i (storeByte a v : EmuM W _) :=
  respects_modify _ _ _ _ fun s t h =>
    { h with
      mem := by
        show (s.mem.write a v).mem = (t.mem.write a v).mem
        simp only [Memory.write, h.mem]
      insn := fun hi => { h.insn hi with } }

theorem Same.afterDevice {i : Stage} {s t : Emulator W} (h : Same i s t)
    (out : W × Raised) : Same i (s.afterDevice out) (t.afterDevice out) :=
  { h with
    world := rfl
    pendingIrq := by
      unfold Emulator.afterDevice
      cases out.2 with
      | none =>
          exact h.pendingIrq
      | some v =>
          rfl
    insn := fun hi => { h.insn hi with } }

instance (addr : BitVec 16) (absent : α)
    (call : IOPorts W -> BitVec 16 -> W -> α × W × Raised) :
    Fresh i i (device addr absent call) where
  agree env s t h := by
    unfold device
    dsimp only
    cases env.io (addr &&& ~~~1#16) with
    | none =>
        exact ⟨rfl, rfl, h⟩
    | some p =>
        rw [h.world]
        exact ⟨rfl, rfl, h.afterDevice _⟩

instance (irqNum : BitVec 8) : Fresh i i (ackInt irqNum : EmuM W _) where
  agree env s t h := by
    unfold ackInt
    rw [h.world]
    exact ⟨rfl, rfl, h.afterDevice _⟩

instance : Fresh i i (getTrapEscape : EmuM W _) where
  agree _ _ _ h := ⟨rfl, rfl, h⟩

instance : Fresh i i (takeJump : EmuM W _) :=
  respects_modify _ _ _ _ fun _ _ h =>
    { h with insn := fun hi => { h.insn hi with jumpTaken := rfl } }

instance : Fresh i i (inhibitExtInt : EmuM W _) :=
  respects_modify _ _ _ _ fun _ _ h =>
    { h with
      extIntInhibit := rfl
      insn := fun hi => { h.insn hi with } }

/-!
## The current instruction
-/

/-- The stages in which an instruction has started. -/
class Stage.Started (i : Stage) : Prop where
  le_rank : 2 ≤ i.phase.rank

instance (w v : OperandWidth) : Stage.Started ⟨.started, w, v⟩ :=
  ⟨Nat.le_refl 2⟩

instance (w v : OperandWidth) : Stage.Started ⟨.insn, w, v⟩ :=
  ⟨Nat.le_succ 2⟩

section Started

variable [hi : i.Started]

instance : Fresh i i (getInstrLength : EmuM W _) :=
  respects_gets _ _ _ fun _ _ h => (h.insn hi.le_rank).instrLength

instance : Fresh i i (nextByte : EmuM W _) where
  agree _ s t h := by
    have hlen := (h.insn hi.le_rank).instrLength
    have hnext := congrArg (· + 1) hlen
    exact ⟨rfl, hlen,
      { h with insn := fun hi => { h.insn hi with instrLength := hnext } }⟩

instance : Fresh i i (getJumpTaken : EmuM W _) :=
  respects_gets _ _ _ fun _ _ h => (h.insn hi.le_rank).jumpTaken

instance (n : Nat) : Fresh i i (setInstrLength n : EmuM W _) :=
  respects_modify _ _ _ _ fun _ _ h =>
    { h with insn := fun hi => { h.insn hi with instrLength := rfl } }

instance (r : GPR) : Fresh i i (setOverrideSegment r : EmuM W _) :=
  respects_modify _ _ _ _ fun _ _ h =>
    { h with
      insn := fun hi =>
        { h.insn hi with overriden := rfl, override := fun _ => rfl } }

instance : Fresh i i (getOverride : EmuM W _) :=
  respects_gets _ _ _ fun s t h => by
    have hinsn := h.insn hi.le_rank
    rw [<- hinsn.overriden]
    split
    · next hset =>
        rw [hinsn.override hset]
    · rfl

instance (mode : RepMode) : Fresh i i (setRep mode : EmuM W _) :=
  respects_modify _ _ _ _ fun _ _ h =>
    { h with
      insn := fun hi => { h.insn hi with hasRep := rfl, rep := fun _ => rfl } }

instance : Fresh i i (getHasRepPrefix : EmuM W _) :=
  respects_gets _ _ _ fun _ _ h => (h.insn hi.le_rank).hasRep

instance : Fresh i i (getRep : EmuM W _) :=
  respects_gets _ _ _ fun s t h => by
    have hinsn := h.insn hi.le_rank
    rw [<- hinsn.hasRep]
    split
    · next hset =>
        rw [hinsn.rep hset]
    · rfl

instance (b : BitVec 8) : Fresh i i (setModrm b : EmuM W _) :=
  respects_modify _ _ _ _ fun _ _ h =>
    { h with
      insn := fun hi =>
        { h.insn hi with
          isDecoded := rfl
          modrm := fun _ => rfl
          addrIsCached := fun _ => rfl
          cachedAddress := fun _ hc => by cases hc } }

instance (a : BitVec 16) : Fresh i i (cacheAddress a : EmuM W _) :=
  respects_modify _ _ _ _ fun _ _ h =>
    { h with
      insn := fun hi =>
        { h.insn hi with
          addrIsCached := fun _ => rfl
          cachedAddress := fun _ _ => rfl } }

/-- A getter of the decoder that ignores the width and a stale address. -/
theorem fresh_decoded {f : ModRMDecoder -> α}
    (hf : forall d d' : ModRMDecoder, d.modrm = d'.modrm ->
      d.addrIsCached = d'.addrIsCached ->
      (d.addrIsCached = true -> d.cachedAddress = d'.cachedAddress) ->
      f d = f d') :
    Fresh i i (decoded f : EmuM W _) where
  agree _ s t h := by
    have hinsn := h.insn hi.le_rank
    unfold decoded
    rw [<- hinsn.isDecoded]
    split
    · next hdec =>
        refine ⟨rfl, ?_, h⟩
        exact hf _ _ (hinsn.modrm hdec) (hinsn.addrIsCached hdec)
          (hinsn.cachedAddress hdec)
    · exact ⟨rfl, rfl⟩

instance : Fresh i i (decoded fun d => d.rmType : EmuM W _) :=
  fresh_decoded i fun d d' h _ _ => by
    unfold ModRMDecoder.rmType
    rw [h]

instance : Fresh i i (decoded fun d => d.rawReg : EmuM W _) :=
  fresh_decoded i fun d d' h _ _ => by
    unfold ModRMDecoder.rawReg
    rw [h]

instance : Fresh i i (decoded fun d => d.rm : EmuM W _) :=
  fresh_decoded i fun d d' h _ _ => by
    unfold ModRMDecoder.rm
    rw [h]

instance : Fresh i i (decoded fun d => d.mod : EmuM W _) :=
  fresh_decoded i fun d d' h _ _ => by
    unfold ModRMDecoder.mod
    rw [h]

instance : Fresh i i (getCachedAddress : EmuM W _) :=
  fresh_decoded i fun d d' _ hc ha => by
    rw [<- hc]
    split
    · next hset =>
        rw [ha hset]
    · rfl

instance : Fresh i i (usesBpAsBase : EmuM W _) :=
  respects_gets _ _ _ fun s t h => by
    have hinsn := h.insn hi.le_rank
    cases hdec : s.modrmDecoder.isDecoded with
    | false =>
        have hdec' : t.modrmDecoder.isDecoded = false := by
          rw [<- hinsn.isDecoded, hdec]
        simp only [ModRMDecoder.usesBpAsBase, hdec, hdec', Bool.not_false,
          if_true]
    | true =>
        have hdec' : t.modrmDecoder.isDecoded = true := by
          rw [<- hinsn.isDecoded, hdec]
        unfold ModRMDecoder.usesBpAsBase ModRMDecoder.rmType ModRMDecoder.mod
          ModRMDecoder.rm
        rw [hdec, hdec', hinsn.modrm hdec]

end Started

instance (w v : OperandWidth) :
    Fresh ⟨.insn, w, v⟩ ⟨.insn, w, v⟩ (getOpcode : EmuM W _) :=
  respects_gets _ _ _ fun _ _ h => h.opcode (Nat.le_refl 3)

instance (w v x : OperandWidth) :
    Fresh ⟨.insn, w, v⟩ ⟨.insn, x, x⟩ (setWidth x : EmuM W _) :=
  respects_modify _ _ _ _ fun _ _ h =>
    { h with
      insn := fun hi => { h.insn hi with }
      left := rfl
      right := rfl }

/-!
## The course of a step
-/

section Course

variable (w v : OperandWidth)

instance : Fresh i i (getNmiPending : EmuM W _) :=
  respects_gets _ _ _ fun _ _ h => h.nmiPending

instance : Fresh i i (getExtIntInhibit : EmuM W _) :=
  respects_gets _ _ _ fun _ _ h => h.extIntInhibit

instance : Fresh i i (getPendingIrq : EmuM W _) :=
  respects_gets _ _ _ fun _ _ h => h.pendingIrq

instance : Fresh i i (clearNmi : EmuM W _) :=
  respects_modify _ _ _ _ fun _ _ h =>
    { h with nmiPending := rfl, insn := fun hi => { h.insn hi with } }

instance : Fresh i i (clearIrq : EmuM W _) :=
  respects_modify _ _ _ _ fun _ _ h =>
    { h with pendingIrq := rfl, insn := fun hi => { h.insn hi with } }

instance : Fresh ⟨.entry, w, v⟩ ⟨.sampled, w, v⟩ (sampleTf : EmuM W _) :=
  respects_modify _ _ _ _ fun _ _ h =>
    { h with
      tfWasSet := fun _ => by
        simp only [RegisterFile.getFlag, RegisterFile.flags_congr h.registers]
      insn := fun hi => absurd hi (by simp [Phase.rank])
      opcode := fun hi => absurd hi (by simp [Phase.rank]) }

instance : Fresh ⟨.sampled, w, v⟩ ⟨.sampled, w, v⟩ (getTfWasSet : EmuM W _) :=
  respects_gets _ _ _ fun _ _ h => h.tfWasSet (by simp [Phase.rank])

instance : Fresh ⟨.sampled, w, v⟩ ⟨.started, w, v⟩ (startInsn : EmuM W _) :=
  respects_modify _ _ _ _ fun _ _ h =>
    { h with
      extIntInhibit := rfl
      tfWasSet := fun _ => h.tfWasSet (by simp [Phase.rank])
      insn := fun _ =>
        { instrLength := rfl
          jumpTaken := rfl
          overriden := rfl
          override := fun hset => by cases hset
          hasRep := rfl
          rep := fun hset => by cases hset
          isDecoded := rfl
          modrm := fun hset => by cases hset
          addrIsCached := fun hset => by cases hset
          cachedAddress := fun hset => by cases hset }
      opcode := fun hi => absurd hi (by simp [Phase.rank]) }

instance (b : BitVec 8) :
    Fresh ⟨.started, w, v⟩ ⟨.insn, w, v⟩ (setOpcode b : EmuM W _) :=
  respects_modify _ _ _ _ fun _ _ h =>
    { h with
      tfWasSet := fun _ => h.tfWasSet (by simp [Phase.rank])
      insn := fun _ => { h.insn (by simp [Phase.rank]) with }
      opcode := fun _ => rfl }

end Course

/-- With one width on both sides, the register operands are the same. -/
theorem fresh_decoded_width (w : OperandWidth) {f : ModRMDecoder -> α}
    (hf : forall d d' : ModRMDecoder, d.modrm = d'.modrm ->
      d.width = d'.width -> f d = f d') :
    Fresh ⟨.insn, w, w⟩ ⟨.insn, w, w⟩ (decoded f : EmuM W _) where
  agree _ s t h := by
    have hinsn := h.insn (Nat.le_succ 2)
    unfold decoded
    rw [<- hinsn.isDecoded]
    split
    · next hdec =>
        exact ⟨rfl, hf _ _ (hinsn.modrm hdec) (h.left.trans h.right.symm), h⟩
    · exact ⟨rfl, rfl⟩

instance (w : OperandWidth) :
    Fresh ⟨.insn, w, w⟩ ⟨.insn, w, w⟩ (decoded fun d => d.reg : EmuM W _) :=
  fresh_decoded_width w fun d d' hm hw => by
    unfold ModRMDecoder.reg ModRMDecoder.rawReg
    rw [hm, hw]

instance (w : OperandWidth) :
    Fresh ⟨.insn, w, w⟩ ⟨.insn, w, w⟩ (decoded fun d => d.rmReg : EmuM W _) :=
  fresh_decoded_width w fun d d' hm hw => by
    unfold ModRMDecoder.rmReg ModRMDecoder.rm
    rw [hm, hw]

end Primitives

/-!
## Instructions
-/

section Instructions

set_option synthInstance.maxSize 1000000

variable (w v : OperandWidth)

instance fresh_effectiveAddress :
    Fresh ⟨.insn, w, v⟩ ⟨.insn, w, v⟩ (effectiveAddress : EmuM W _) := by
  refine Respects.bind inferInstance ?_
  intro cached
  cases cached with
  | none =>
      dsimp only
      infer_instance
  | some address =>
      dsimp only
      infer_instance

instance fresh_getSegment (stack : Bool) :
    Fresh ⟨.insn, w, v⟩ ⟨.insn, w, v⟩ (getSegment stack : EmuM W _) := by
  unfold getSegment
  cases stack with
  | true =>
      exact respects_pure _ _ _
  | false =>
      refine Respects.bind inferInstance ?_
      intro override
      cases override with
      | none =>
          dsimp only
          infer_instance
      | some segment =>
          dsimp only
          infer_instance

instance fresh_enterLoop (n : Nat) :
    Fresh ⟨.insn, w, v⟩ ⟨.insn, w, v⟩ (enterLoop n : EmuM W _) := by
  induction n with
  | zero =>
      unfold enterLoop
      infer_instance
  | succ n ih =>
      unfold enterLoop
      infer_instance

instance fresh_repLoop (primitive : EmuM W Unit)
    (shouldTerminate : EmuM W Bool)
    [Fresh ⟨.insn, w, v⟩ ⟨.insn, w, v⟩ primitive]
    [Fresh ⟨.insn, w, v⟩ ⟨.insn, w, v⟩ shouldTerminate] (n : Nat) :
    Fresh ⟨.insn, w, v⟩ ⟨.insn, w, v⟩
      (repLoop primitive shouldTerminate n) := by
  induction n with
  | zero =>
      unfold repLoop
      infer_instance
  | succ n ih =>
      unfold repLoop
      infer_instance

/-- Every instruction but `BOUND` sets all it reads. -/
theorem fresh_cases :
    forall c : Case W, c ∈ cases -> c.lo ≠ 0x62 ->
      exists x y, Fresh ⟨.insn, w, v⟩ ⟨.insn, x, y⟩ c.handler := by
  unfold cases
  repeat' first
    | exact List.forall_mem_nil _
    | refine List.forall_mem_cons.mpr ⟨fun _ => ⟨_, _, inferInstance⟩, ?_⟩
    | refine List.forall_mem_cons.mpr ⟨fun h => absurd rfl h, ?_⟩

end Instructions

/-!
## Whole steps
-/

/-- The same but for leftovers, with widths in some relation. -/
def SameBut (E : OperandWidth -> OperandWidth -> Prop) (p : Phase)
    (s t : Emulator W) : Prop :=
  exists x y, E x y ∧ Same ⟨p, x, y⟩ s t

/-- No relation at all. -/
abbrev AnyWidths : OperandWidth -> OperandWidth -> Prop := fun _ _ => True

theorem Same.earlier {p q : Phase} {w v : OperandWidth} {s t : Emulator W}
    (h : Same ⟨p, w, v⟩ s t) (hle : q.rank <= p.rank) :
    Same ⟨q, w, v⟩ s t :=
  { h with
    tfWasSet := fun hq => h.tfWasSet (Nat.le_trans hq hle)
    insn := fun hq => h.insn (Nat.le_trans hq hle)
    opcode := fun hq => h.opcode (Nat.le_trans hq hle) }

section Steps

set_option synthInstance.maxSize 1000000

variable {E : OperandWidth -> OperandWidth -> Prop} {p q : Phase}

theorem SameBut.earlier {s t : Emulator W} (h : SameBut E p s t)
    (hle : q.rank <= p.rank) : SameBut E q s t := by
  obtain ⟨x, y, hE, hsame⟩ := h
  exact ⟨x, y, hE, hsame.earlier hle⟩

theorem respects_of_fresh {m : EmuM W α}
    (h : forall w v, E w v -> exists x y,
      Fresh ⟨p, w, v⟩ ⟨q, x, y⟩ m ∧ E x y) :
    Respects (SameBut E) p q m where
  agree r s t hst := by
    obtain ⟨w, v, hE, hsame⟩ := hst
    obtain ⟨x, y, hfresh, hE'⟩ := h w v hE
    exact (hfresh.agree r s t hsame).mono fun s' t' h' => ⟨x, y, hE', h'⟩

theorem respects_of_fresh_all {m : EmuM W α}
    (h : forall w v, Fresh ⟨p, w, v⟩ ⟨q, w, v⟩ m) :
    Respects (SameBut E) p q m :=
  respects_of_fresh fun w v hE => ⟨w, v, h w v, hE⟩

theorem respects_rejectLong :
    Respects (SameBut E) .insn .insn (rejectLong : EmuM W _) := by
  apply respects_of_fresh_all
  intro w v
  unfold rejectLong
  infer_instance

theorem respects_advanceIp :
    Respects (SameBut E) .insn .insn (advanceIp : EmuM W _) := by
  apply respects_of_fresh_all
  intro w v
  unfold advanceIp
  infer_instance

theorem respects_processPrefix (b : BitVec 8) :
    Respects (SameBut E) .insn .insn (processPrefix b : EmuM W _) := by
  apply respects_of_fresh_all
  intro w v
  unfold processPrefix
  infer_instance

theorem bound_alone {c : Case W} (hc : c ∈ cases) (h : c.lo = 0x62) :
    c.hi = 0x62 := by
  have hunit :
      forall p, p ∈ (cases : List (Case Unit)).map (fun c => (c.lo, c.hi)) ->
        p.1 = 0x62 -> p.2 = 0x62 := by
    decide +kernel
  have hsame :
      (cases : List (Case W)).map (fun c => (c.lo, c.hi)) =
        (cases : List (Case Unit)).map (fun c => (c.lo, c.hi)) := rfl
  apply hunit (c.lo, c.hi)
  · rw [← hsame]
    exact List.mem_map_of_mem hc
  · exact h

/-- The handlers, but for `BOUND`. -/
theorem respects_execute {b : BitVec 8} (hb : b ≠ 0x62#8) :
    Respects (SameBut AnyWidths) .insn .insn (execute b : EmuM W _) := by
  unfold execute
  cases hfind : cases.find? fun c => Case.covers c b with
  | none =>
      exact respects_pure _ _ _
  | some c =>
      have hmem := List.mem_of_find?_eq_some hfind
      have hcovers := List.find?_some hfind
      have hlo : c.lo ≠ 0x62 := by
        intro hlo
        have hhi := bound_alone hmem hlo
        simp only [Case.covers, hlo, hhi, Bool.and_eq_true,
          decide_eq_true_eq] at hcovers
        exact hb (BitVec.eq_of_toNat_eq (by
          rw [BitVec.toNat_ofNat]
          omega))
      apply respects_of_fresh
      intro w v _
      obtain ⟨x, y, hfresh⟩ := fresh_cases w v c hmem hlo
      exact ⟨x, y, hfresh, trivial⟩

theorem respects_singleStep :
    Respects (SameBut E) .sampled .sampled (singleStep : EmuM W _) := by
  apply respects_of_fresh_all
  intro w v
  unfold singleStep
  infer_instance

theorem respects_handleNmi :
    Respects (SameBut E) .sampled .sampled (handleNmi : EmuM W _) := by
  apply respects_of_fresh_all
  intro w v
  unfold handleNmi singleStep
  infer_instance

theorem respects_handleIrq :
    Respects (SameBut E) .sampled .sampled (handleIrq : EmuM W _) := by
  apply respects_of_fresh_all
  intro w v
  unfold handleIrq singleStep
  infer_instance

theorem respects_nmiReady :
    Respects (SameBut E) .sampled .sampled (nmiReady : EmuM W _) :=
  respects_of_fresh_all fun _ _ => inferInstance

theorem respects_irqReady :
    Respects (SameBut E) .sampled .sampled (irqReady : EmuM W _) :=
  respects_of_fresh_all fun _ _ => inferInstance

theorem respects_afterInsn :
    Respects (SameBut E) .sampled .sampled (afterInsn : EmuM W _) := by
  have hinhibit :
      Respects (SameBut E) .sampled .sampled (getExtIntInhibit : EmuM W _) :=
    respects_of_fresh_all fun w v => inferInstance
  unfold afterInsn
  refine respects_nmiReady.bind fun nmi => respects_irqReady.bind fun irq =>
    hinhibit.bind fun inhibit => ?_
  split
  next =>
    exact respects_handleNmi
  next =>
    split
    next =>
      exact respects_handleIrq
    next =>
      split
      next =>
        exact respects_singleStep
      next =>
        exact respects_pure _ _ _

end Steps

end Sim
end S80x86
