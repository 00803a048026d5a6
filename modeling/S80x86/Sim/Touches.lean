import S80x86.Sim.CodeOrder
import S80x86.Sim.Footprints

/-!
# Handlers and their footprints

Every handler touches its footprint: no other data, and all of it unless an
access fails.
-/

namespace S80x86
namespace Sim

open Foundation.Effect
open Rtl.Machine (Division)

variable {W : Type}

def Fault.OfMemory : Fault -> Prop
  | memoryAssertion _ => True
  | _ => False

/-- The data accesses of an outcome are at the places of a set, at all of them
unless one fails. -/
abbrev Touches (S : Set Place)
    (x : List Access × Except Fault (α × Emulator W)) : Prop :=
  Covers Access.place Fault.OfMemory S x

theorem touches_quiet {x : List Access × Except Fault (α × Emulator W)}
    (h : x.1 = []) : Touches ∅ x :=
  covers_unseen fun a ha => by
    rw [h] at ha
    cases ha

/-!
## Accesses
-/

section Accesses

variable {env : Environment W} {e t : Emulator W} {m : EmuM W α}
  {f : α -> EmuM W β} {a : Access} {c : Prop} [Decidable c] {v : α}

theorem touches_run (hcode : a.code = false)
    (hrun : m env e =
      if c then ([a], .ok (v, t)) else ([a], .error (.memoryAssertion a))) :
    Touches {{ addr := a.addr, type := a.type }} (m env e) := by
  have hplace : a.place = some { addr := a.addr, type := a.type } := by
    unfold Access.place
    rw [hcode]
    rfl
  have hevents : (m env e).1 = [a] := by
    rw [hrun]
    split <;> rfl
  constructor
  · intro b hb k hk
    rw [hevents, List.mem_singleton] at hb
    rw [hb, hplace] at hk
    exact (Option.some.inj hk).symm
  · intro _ k hk
    rw [hevents]
    exact ⟨a, List.mem_singleton_self a,
      hplace.trans (congrArg some hk.symm)⟩

/-- Take off an access. -/
theorem touches_bind {T : Set Place} (hcode : a.code = false)
    (hrun : m env e =
      if c then ([a], .ok (v, t)) else ([a], .error (.memoryAssertion a)))
    (hf : Touches T (f v env t)) :
    Touches (insert { addr := a.addr, type := a.type } T)
      ((m >>= f) env e) := by
  have hstop : forall y, Faults m env e y -> y.OfMemory := by
    intro y hy
    unfold Faults at hy
    rw [hrun] at hy
    split at hy
    · cases hy
    · cases hy
      exact trivial
  refine ((touches_run hcode hrun).bind hstop fun b t' hret => ?_).congr
    (Set.insert_eq _ T).symm
  unfold Returns at hret
  rw [hrun] at hret
  split at hret
  · cases hret
    exact hf
  · cases hret

end Accesses

section Runs

variable {env : Environment W} (henv : env.addressing = Addressing.emulator)
include henv

theorem resolve_run (a : Access) (e : Emulator W) :
    resolve a env e =
      if a.addr.linear + a.size ≤ memorySize then
        ([a], .ok ((List.range a.size).map fun i =>
          BitVec.ofNat 20 (a.addr.linear + i), e))
      else ([a], .error (.memoryAssertion a)) := by
  unfold resolve
  rw [henv]
  unfold Addressing.emulator
  split
  · next h =>
      split at h
      · next hfits =>
          rw [if_pos hfits]
          cases h
          rfl
      · cases h
  · next h =>
      split at h
      · cases h
      · next hfits =>
          rw [if_neg hfits]

/-- An access and what is done with the bytes. -/
theorem access_run {a : Access} {f : List (BitVec 20) -> EmuM W α}
    {e t : Emulator W} {v : α}
    (hf : f ((List.range a.size).map fun i =>
      BitVec.ofNat 20 (a.addr.linear + i)) env e = ([], .ok (v, t))) :
    (resolve a >>= f) env e =
      if a.addr.linear + a.size ≤ memorySize then ([a], .ok (v, t))
      else ([a], .error (.memoryAssertion a)) := by
  rw [bind_run, resolve_run henv]
  split
  · simp only [next, hf, List.append_nil]
  · rfl

theorem readMem_run (w : OperandWidth) (p : PhysAddr) (e : Emulator W) :
    readMem w p env e =
      let a : Access := { addr := p, type := w.accessType, write := false }
      if p.linear + w.bytes ≤ memorySize then
        ([a], .ok (e.mem.readAt w p.linear, e))
      else ([a], .error (.memoryAssertion a)) := by
  cases w with
  | OP_WIDTH_8 =>
      exact access_run henv rfl
  | OP_WIDTH_16 =>
      exact access_run henv rfl

theorem writeMem_run (w : OperandWidth) (p : PhysAddr) (v : BitVec w.bits)
    (e : Emulator W) :
    writeMem w p v env e =
      let a : Access := { addr := p, type := w.accessType, write := true }
      if p.linear + w.bytes ≤ memorySize then
        ([a], .ok ((), { e with mem := e.mem.writeAt w p.linear v }))
      else ([a], .error (.memoryAssertion a)) := by
  cases w with
  | OP_WIDTH_8 =>
      exact access_run henv rfl
  | OP_WIDTH_16 =>
      exact access_run henv rfl

theorem read32_run (p : PhysAddr) (e : Emulator W) :
    exists v, read32 p env e =
      let a : Access := { addr := p, type := .uint32_t, write := false }
      if p.linear + 4 ≤ memorySize then ([a], .ok (v, e))
      else ([a], .error (.memoryAssertion a)) :=
  ⟨_, access_run henv rfl⟩

theorem pushWord_run (v : BitVec 16) (e : Emulator W) :
    pushWord v env e =
      let r := e.registers
      let p := getPhysAddr r.ss (r.sp - 2#16).toNat
      let a : Access := { addr := p, type := .uint16_t, write := true }
      if p.linear + 2 ≤ memorySize then ([a], .ok ((), e.pushed v))
      else ([a], .error (.memoryAssertion a)) :=
  writeMem_run henv .OP_WIDTH_16
    (getPhysAddr e.registers.ss (e.registers.sp - 2#16).toNat) v
    { e with registers := e.registers.set .SP (e.registers.sp - 2#16) }

theorem popWord_run (e : Emulator W) :
    popWord env e =
      let p := getPhysAddr e.registers.ss e.registers.sp.toNat
      let a : Access := { addr := p, type := .uint16_t, write := false }
      if p.linear + 2 ≤ memorySize then ([a], .ok (e.top, e.popped))
      else ([a], .error (.memoryAssertion a)) := by
  change next (readMem .OP_WIDTH_16 (getPhysAddr e.registers.ss
    e.registers.sp.toNat) env e) _ = _
  rw [readMem_run henv]
  dsimp only
  split <;> rfl

end Runs
/-!
## The stack
-/

section Stack

theorem RegisterFile.pushes_zero (r : RegisterFile) : r.pushes 0 = ∅ := by
  apply Set.eq_empty_of_forall_notMem
  rintro x ⟨k, hk, _⟩
  exact Nat.not_lt_zero k hk

theorem RegisterFile.pops_zero (r : RegisterFile) : r.pops 0 = ∅ := by
  apply Set.eq_empty_of_forall_notMem
  rintro x ⟨k, hk, _⟩
  exact Nat.not_lt_zero k hk

theorem pushes_succ (e : Emulator W) (v : BitVec 16) (n : Nat) :
    e.registers.pushes (n + 1) =
      insert (Place.word e.registers.ss (e.registers.sp - 2#16))
        ((e.pushed v).registers.pushes n) := by
  ext x
  constructor
  · rintro ⟨k, hk, rfl⟩
    cases k with
    | zero =>
        exact Or.inl rfl
    | succ k =>
        refine Or.inr ⟨k, Nat.lt_of_succ_lt_succ hk, ?_⟩
        rw [Emulator.pushed_registers, below_succ]
  · rintro (rfl | ⟨k, hk, rfl⟩)
    · exact ⟨0, Nat.succ_pos n, rfl⟩
    · refine ⟨k + 1, Nat.succ_lt_succ hk, ?_⟩
      rw [Emulator.pushed_registers, below_succ]

theorem pops_succ {e s : Emulator W} (n : Nat)
    (hss : s.registers.ss = e.registers.ss)
    (hsp : s.registers.sp = e.registers.sp + 2#16) :
    e.registers.pops (n + 1) =
      insert (Place.word e.registers.ss e.registers.sp)
        (s.registers.pops n) := by
  have habove : forall k,
      above s.registers.sp k = above e.registers.sp (k + 1) := by
    intro k
    rw [hsp]
    unfold above
    rw [BitVec.add_assoc, BitVec.add_comm 2#16, Nat.mul_add,
      BitVec.ofNat_add]
  ext x
  constructor
  · rintro ⟨k, hk, rfl⟩
    cases k with
    | zero =>
        exact Or.inl (by rw [above_zero])
    | succ k =>
        refine Or.inr ⟨k, Nat.lt_of_succ_lt_succ hk, ?_⟩
        rw [hss, habove]
  · rintro (rfl | ⟨k, hk, rfl⟩)
    · exact ⟨0, Nat.succ_pos n, by rw [above_zero]⟩
    · refine ⟨k + 1, Nat.succ_lt_succ hk, ?_⟩
      rw [hss, habove]

theorem pushes_one (r : RegisterFile) :
    r.pushes 1 = {Place.word r.ss (r.sp - 2#16)} := by
  ext x
  constructor
  · rintro ⟨k, hk, rfl⟩
    obtain rfl := Nat.lt_one_iff.mp hk
    rfl
  · rintro rfl
    exact ⟨0, Nat.one_pos, rfl⟩

theorem pops_one (r : RegisterFile) :
    r.pops 1 = {Place.word r.ss r.sp} := by
  ext x
  constructor
  · rintro ⟨k, hk, rfl⟩
    obtain rfl := Nat.lt_one_iff.mp hk
    rw [above_zero]
    rfl
  · rintro rfl
    exact ⟨0, Nat.one_pos, by rw [above_zero]⟩

variable {env : Environment W} (henv : env.addressing = Addressing.emulator)
  {e : Emulator W} {n : Nat} {T : Set Place}
include henv

/-- Take off a push. -/
theorem touches_push {v : BitVec 16} {f : Unit -> EmuM W α}
    (hf : Touches ((e.pushed v).registers.pushes n ∪ T)
      (f () env (e.pushed v))) :
    Touches (e.registers.pushes (n + 1) ∪ T) ((pushWord v >>= f) env e) := by
  rw [pushes_succ e v, Set.insert_union]
  exact touches_bind rfl (pushWord_run henv v e) hf

theorem touches_pushReg {r : GPR} {f : Unit -> EmuM W α}
    (hf : Touches ((e.pushed (e.registers.get r)).registers.pushes n ∪ T)
      (f () env (e.pushed (e.registers.get r)))) :
    Touches (e.registers.pushes (n + 1) ∪ T) ((pushReg r >>= f) env e) :=
  touches_push henv (v := e.registers.get r) hf

theorem touches_pushNextIp {f : Unit -> EmuM W α}
    (hf : forall v, Touches ((e.pushed v).registers.pushes n ∪ T)
      (f () env (e.pushed v))) :
    Touches (e.registers.pushes (n + 1) ∪ T)
      ((pushNextIp >>= f) env e) :=
  touches_push henv (v := e.registers.ip + BitVec.ofNat 16 e.instrLength)
    (hf _)

theorem touches_pushed (v : BitVec 16) :
    Touches (e.registers.pushes 1) (pushWord v env e) := by
  rw [pushes_one]
  exact touches_run rfl (pushWord_run henv v e)

/-- Take off a pop into a register other than `SP`. -/
theorem touches_pop {f : BitVec 16 -> EmuM W α}
    (hf : Touches (e.popped.registers.pops n) (f e.top env e.popped)) :
    Touches (e.registers.pops (n + 1)) ((popWord >>= f) env e) := by
  rw [pops_succ (e := e) (s := e.popped) n rfl rfl]
  exact touches_bind rfl (popWord_run henv e) hf

theorem touches_popReg {r : GPR} {f : Unit -> EmuM W α}
    (hr : r ∈ [GPR.AX, .BX, .CX, .DX, .SI, .DI, .BP])
    (hf : forall s : Emulator W,
      Touches (s.registers.pops n) (f () env s)) :
    Touches (e.registers.pops (n + 1)) ((popReg r >>= f) env e) := by
  rw [bind_assoc]
  let s : Emulator W :=
    { e.popped with registers := e.popped.registers.set r e.top }
  have hkept : s.registers.ss = e.registers.ss ∧
      s.registers.sp = e.registers.sp + 2#16 := by
    simp only [List.mem_cons, List.not_mem_nil, or_false] at hr
    rcases hr with rfl | rfl | rfl | rfl | rfl | rfl | rfl <;>
      exact ⟨rfl, rfl⟩
  rw [pops_succ (e := e) (s := s) n hkept.1 hkept.2]
  exact touches_bind rfl (popWord_run henv e) (hf s)

theorem touches_top {f : BitVec 16 -> EmuM W α}
    (hf : Touches T (f e.top env e)) :
    Touches (e.registers.pops 1 ∪ T) ((loadTop >>= f) env e) := by
  rw [pops_one, Set.singleton_union]
  exact touches_bind rfl (readMem_run henv .OP_WIDTH_16
    (getPhysAddr e.registers.ss e.registers.sp.toNat) e) hf

theorem touches_storeTop (v : BitVec 16) :
    Touches (e.registers.pushes 1)
      ((do subSp 2#16; storeTop v : EmuM W Unit) env e) := by
  rw [pushes_one]
  exact touches_run rfl (writeMem_run henv .OP_WIDTH_16
    (getPhysAddr e.registers.ss (e.registers.sp - 2#16).toNat) v
    { e with registers := e.registers.set .SP (e.registers.sp - 2#16) })

/-- An interrupt, however the return address is found. -/
theorem touches_interruptWith (flags : BitVec 16) {vector : Nat}
    {returnIp : EmuM W (BitVec 16)}
    (hip : forall s, exists ip, returnIp env s = ([], .ok (ip, s))) :
    Touches (e.registers.interrupt vector)
      (interruptWith flags vector returnIp env e) := by
  refine touches_push henv ?_
  refine touches_push henv (v := (e.pushed flags).registers.cs) ?_
  obtain ⟨ip, hrun⟩ := hip
    ((e.pushed flags).pushed (e.pushed flags).registers.cs)
  rw [bind_run, hrun]
  refine touches_push henv (v := ip) ?_
  rw [RegisterFile.pushes_zero, Set.empty_union]
  refine touches_bind rfl (readMem_run henv .OP_WIDTH_16
    (.vector (vector + 2)) _) ?_
  rw [<- insert_empty_eq]
  exact touches_bind rfl (readMem_run henv .OP_WIDTH_16 (.vector vector) _)
    (touches_quiet rfl)

theorem touches_interrupt (vector : Nat) :
    Touches (e.registers.interrupt vector) (interrupt vector env e) :=
  touches_interruptWith henv e.registers.getFlags fun _ => ⟨_, rfl⟩

theorem touches_interruptHere (vector : Nat) :
    Touches (e.registers.interrupt vector) (interruptHere vector env e) :=
  touches_interruptWith henv e.registers.getFlags fun _ => ⟨_, rfl⟩

end Stack

/-!
## Operands
-/

theorem bind_of_run {env : Environment W} {e t : Emulator W} {m : EmuM W α}
    {v : α} (h : m env e = ([], .ok (v, t))) (f : α -> EmuM W β) :
    (m >>= f) env e = f v env t := by
  rw [bind_run, h]
  rfl

section Operand

variable {env : Environment W} {s : Emulator W} {w : OperandWidth}

theorem decoded_run (h : s.Decoded) (f : ModRMDecoder -> α) :
    decoded f env s = ([], .ok (f s.modrmDecoder, s)) := by
  unfold decoded
  rw [h.isDecoded]
  rfl

theorem effectiveAddress_run (h : s.Decoded)
    (hmem : s.modrmDecoder.rmType = .OP_MEM) :
    effectiveAddress env s =
      ([], .ok (s.modrmDecoder.cachedAddress, s)) := by
  unfold effectiveAddress
  rw [bind_of_run (decoded_run h _), h.addrIsCached hmem]
  rfl

theorem getSegment_run :
    getSegment false env s = ([], .ok (s.operandSegment, s)) := by
  have hoverride : getOverride env s = ([], .ok
      (if s.defaultSegmentOverriden then some s.overrideSegment else none,
        s)) := rfl
  unfold getSegment Emulator.operandSegment
  simp only [Bool.false_eq_true, if_false]
  rw [bind_of_run hoverride]
  cases s.defaultSegmentOverriden with
  | true =>
      rfl
  | false =>
      simp only [Bool.false_eq_true, if_false, Bool.or_false]
      rfl

theorem operandAddr_run (h : s.Decoded)
    (hmem : s.modrmDecoder.rmType = .OP_MEM) :
    operandAddr false env s = ([], .ok (s.operandAddr, s)) := by
  rw [operandAddr, bind_of_run (effectiveAddress_run h hmem),
    bind_of_run getSegment_run]
  rfl

theorem readData_memory (h : s.Decoded)
    (hmem : s.modrmDecoder.rmType = .OP_MEM) :
    readData w false env s = readMem w s.operandAddr env s := by
  rw [readData, bind_of_run (decoded_run h _), if_pos hmem,
    bind_of_run (operandAddr_run h hmem)]

theorem writeData_memory (h : s.Decoded)
    (hmem : s.modrmDecoder.rmType = .OP_MEM) (v : BitVec w.bits) :
    writeData w v false env s = writeMem w s.operandAddr v env s := by
  have hreg : ¬s.modrmDecoder.rmType = .OP_REG := by
    rw [hmem]
    decide
  rw [writeData, bind_of_run (decoded_run h _), if_neg hreg,
    bind_of_run (operandAddr_run h hmem)]

theorem rmReg_run (h : s.Decoded)
    (hmem : ¬s.modrmDecoder.rmType = .OP_MEM) :
    rmReg env s = ([], .ok (s.modrmDecoder.rmReg, s)) := by
  have hreg := (rmType_cases s.modrmDecoder).resolve_right hmem
  rw [rmReg, bind_of_run (decoded_run h _), hreg]
  change decoded (fun d => d.rmReg) env s = _
  exact decoded_run h _

theorem readData_register (h : s.Decoded)
    (hmem : ¬s.modrmDecoder.rmType = .OP_MEM) :
    readData w false env s = ([], .ok (s.operandValue w, s)) := by
  unfold Emulator.operandValue
  rw [readData, bind_of_run (decoded_run h _), if_neg hmem, if_neg hmem,
    bind_of_run (rmReg_run h hmem)]
  rfl

theorem writeData_register (h : s.Decoded)
    (hmem : ¬s.modrmDecoder.rmType = .OP_MEM) (v : BitVec w.bits) :
    writeData w v false env s = ([], .ok ((), s.operandWritten w v)) := by
  have hreg := (rmType_cases s.modrmDecoder).resolve_right hmem
  unfold Emulator.operandWritten
  rw [writeData, bind_of_run (decoded_run h _), if_pos hreg, if_neg hmem,
    bind_of_run (rmReg_run h hmem)]
  rfl

theorem placesIf_of {c : Prop} (h : c) (S : Set Place) :
    placesIf c S = S :=
  Set.ext fun _ => ⟨fun hx => hx.2, fun hx => ⟨h, hx⟩⟩

@[simp] theorem placesIf_true (S : Set Place) : placesIf True S = S :=
  placesIf_of trivial S

theorem placesIf_of_not {c : Prop} (h : ¬c) (S : Set Place) :
    placesIf c S = ∅ :=
  Set.eq_empty_of_forall_notMem fun _ hx => h hx.1

@[simp] theorem placesIf_false (S : Set Place) : placesIf False S = ∅ :=
  placesIf_of_not id S

variable (henv : env.addressing = Addressing.emulator) {T : Set Place}
include henv

/-- Take off the reading of the operand. -/
theorem touches_readData (h : s.Decoded) {f : BitVec w.bits -> EmuM W α}
    (hf : Touches T (f (s.operandValue w) env s)) :
    Touches (s.operandPlaces w ∪ T) ((readData w false >>= f) env s) := by
  unfold Emulator.operandPlaces
  by_cases hmem : s.modrmDecoder.rmType = .OP_MEM
  · rw [placesIf_of hmem, Set.singleton_union, bind_run,
      readData_memory h hmem]
    refine touches_bind rfl (readMem_run henv w s.operandAddr s) ?_
    unfold Emulator.operandValue at hf
    rw [if_pos hmem] at hf
    exact hf
  · rw [placesIf_of_not hmem, Set.empty_union,
      bind_of_run (readData_register h hmem)]
    exact hf

theorem touches_writeData (h : s.Decoded) (v : BitVec w.bits) :
    Touches (s.operandPlaces w) (writeData w v false env s) := by
  unfold Emulator.operandPlaces
  by_cases hmem : s.modrmDecoder.rmType = .OP_MEM
  · rw [placesIf_of hmem, writeData_memory h hmem]
    exact touches_run rfl (writeMem_run henv w s.operandAddr v s)
  · rw [placesIf_of_not hmem, writeData_register h hmem]
    exact touches_quiet rfl

/-- The far pointer of a memory form, read at once. -/
theorem touches_readData32 (h : s.Decoded)
    (hmem : s.modrmDecoder.rmType = .OP_MEM) {f : BitVec 32 -> EmuM W α}
    (hf : forall v, Touches T (f v env s)) :
    Touches (s.dwordPlaces ∪ T) ((readData32 false >>= f) env s) := by
  obtain ⟨v, hrun⟩ := read32_run henv s.operandAddr s
  unfold Emulator.dwordPlaces
  rw [placesIf_of hmem, Set.singleton_union, bind_run, readData32,
    bind_of_run (decoded_run h _), if_pos hmem,
    bind_of_run (operandAddr_run h hmem)]
  exact touches_bind rfl hrun (hf v)

end Operand

/-!
## Code without data
-/

/-- All accesses of the code are fetches. -/
abbrev NoData (env : Environment W) (m : EmuM W α) : Prop :=
  Emits (fun _ => True) (fun a => a.code = true) env m

section NoData

set_option synthInstance.maxSize 1000000

variable {env : Environment W} {P : Emulator W -> Prop} {ok : Access -> Prop}

theorem idles_quiet {m : EmuM W α} (h : Idles (fun _ => true) env m)
    (e : Emulator W) : (m env e).1 = [] := by
  have hnone := h.unmarked e
  rw [List.filter_eq_nil_iff] at hnone
  exact List.eq_nil_iff_forall_not_mem.mpr fun a ha => hnone a ha rfl

instance (priority := low) emits_of_idles (m : EmuM W α)
    [h : Idles (fun _ => true) env m] : Emits P ok env m :=
  emits_quiet P ok env (idles_quiet h)

instance (m : EmuM W α) : Keeps (fun _ => True) env m :=
  ⟨fun _ _ _ _ _ => trivial⟩

theorem mem_fetchByte {e : Emulator W} {a : Access}
    (h : a ∈ (fetchByte env e).1) : a.code = true := by
  change a ∈ ((resolve (codeAccess e.registers.cs e.registers.ip
    e.instrLength) >>= fun f => loadByte (f.getD 0 0#20)) env
      { e with instrLength := e.instrLength + 1 }).1 at h
  rcases mem_bind.mp h with h | ⟨f, t, _, h⟩
  · unfold resolve at h
    split at h
    · rw [List.mem_singleton.mp h]
      rfl
    · rw [List.mem_singleton.mp h]
      rfl
  · cases h

instance (priority := high) : NoData env fetchByte where
  events _ _ _ ha := mem_fetchByte ha

instance : NoData env effectiveAddress := by
  refine Emits.bind inferInstance inferInstance ?_
  intro cached
  cases cached with
  | none =>
      dsimp only
      infer_instance
  | some address =>
      dsimp only
      infer_instance

theorem NoData.place_eq_none {m : EmuM W α} (h : NoData env m) (e : Emulator W)
    (a : Access) (ha : a ∈ (m env e).1) : a.place = none :=
  if_pos (h.events e trivial a ha)

theorem touches_nothing {m : EmuM W α} (h : NoData env m) (e : Emulator W) :
    Touches ∅ (m env e) :=
  covers_unseen (h.place_eq_none e)

end NoData

/-!
## Handlers that touch their operand
-/

/-- Decoder and operand of a state are those of another one. -/
structure OperandOf (s t : Emulator W) : Prop where
  modrmDecoder : t.modrmDecoder = s.modrmDecoder
  operandAddr : t.operandAddr = s.operandAddr

/-- An instruction byte or the operand. -/
def OnOperand (s : Emulator W) (w : OperandWidth) (a : Access) : Prop :=
  forall x, a.place = some x -> x ∈ s.operandPlaces w

section Operand

set_option synthInstance.maxSize 1000000

variable {env : Environment W} {s t : Emulator W} {w : OperandWidth}

theorem OperandOf.decoded (h : OperandOf s t) (hs : s.Decoded) :
    t.Decoded := by
  constructor
  · rw [h.modrmDecoder]
    exact hs.isDecoded
  · rw [h.modrmDecoder]
    exact hs.addrIsCached

theorem OperandOf.operandPlaces (h : OperandOf s t) :
    t.operandPlaces w = s.operandPlaces w := by
  unfold Emulator.operandPlaces
  rw [h.modrmDecoder, h.operandAddr]

theorem operandOf_setFlags (v mask : BitVec 16) (h : OperandOf s t) :
    OperandOf s { t with registers := t.registers.setFlags v mask } := by
  refine ⟨h.modrmDecoder, ?_⟩
  rw [<- h.operandAddr]
  unfold Emulator.operandAddr Emulator.operandSegment
  dsimp only
  congr 1

instance (r : GPR) : Keeps (OperandOf s) env (get r) := keeps_gets _ _ _

instance : Keeps (OperandOf s) env getFlags := keeps_gets _ _ _

instance (f : BitVec 16) : Keeps (OperandOf s) env (getFlag f) :=
  keeps_gets _ _ _

instance (v mask : BitVec 16) : Keeps (OperandOf s) env (setFlags v mask) :=
  keeps_modify _ _ fun _ h => operandOf_setFlags v mask h

instance (a : BitVec 20) : Keeps (OperandOf s) env (loadByte a) :=
  keeps_gets _ _ _

instance : Keeps (OperandOf s) env nextByte where
  kept t a t' h hret := by
    cases hret
    exact ⟨h.modrmDecoder, h.operandAddr⟩

instance (a : Access) : Keeps (OperandOf s) env (resolve a) where
  kept t b t' h hret := by
    unfold Returns resolve at hret
    split at hret
    · cases hret
      exact h
    · cases hret

instance (f : ModRMDecoder -> α) : Keeps (OperandOf s) env (decoded f) where
  kept t b t' h hret := by
    unfold Returns decoded at hret
    split at hret
    · cases hret
      exact h
    · cases hret

instance (priority := high) :
    Emits (OperandOf s) (OnOperand s w) env fetchByte where
  events t _ a ha x hx := by
    rw [Access.place, if_pos (mem_fetchByte ha)] at hx
    cases hx

variable [henv : Fact (env.addressing = Addressing.emulator)]
  [hs : Fact s.Decoded]

theorem emits_readData :
    Emits (OperandOf s) (OnOperand s w) env (readData w false) where
  events t ht a ha x hx := by
    have htouches := touches_readData (w := w) henv.out (ht.decoded hs.out)
      (f := fun v => (pure v : EmuM W (BitVec w.bits))) (T := ∅)
      (touches_quiet rfl)
    rw [bind_pure, Set.union_empty, ht.operandPlaces] at htouches
    exact htouches.sound a ha x hx

theorem emits_writeData (v : BitVec w.bits) :
    Emits (OperandOf s) (OnOperand s w) env (writeData w v false) where
  events t ht a ha x hx := by
    have htouches := touches_writeData henv.out (ht.decoded hs.out) v
    rw [ht.operandPlaces] at htouches
    exact htouches.sound a ha x hx

omit henv in
theorem keeps_readData : Keeps (OperandOf s) env (readData w false) where
  kept t v t' ht hret := by
    have hdecoded := ht.decoded hs.out
    by_cases hmem : t.modrmDecoder.rmType = .OP_MEM
    · unfold Returns at hret
      rw [readData_memory hdecoded hmem] at hret
      have hkeeps : Keeps (OperandOf s) env
          (readMem w t.operandAddr : EmuM W (BitVec w.bits)) := by
        cases w <;> infer_instance
      exact hkeeps.kept t v t' ht hret
    · unfold Returns at hret
      rw [readData_register hdecoded hmem] at hret
      cases hret
      exact ht

-- The instances are for each width, where the type of the value is known.
instance (priority := high) :
    Emits (OperandOf s) (OnOperand s .OP_WIDTH_8) env
      (readData .OP_WIDTH_8 false) := emits_readData

instance (priority := high) :
    Emits (OperandOf s) (OnOperand s .OP_WIDTH_16) env
      (readData .OP_WIDTH_16 false) := emits_readData

instance (priority := high) (v : BitVec OperandWidth.OP_WIDTH_8.bits) :
    Emits (OperandOf s) (OnOperand s .OP_WIDTH_8) env
      (writeData .OP_WIDTH_8 v false) := emits_writeData (w := .OP_WIDTH_8) v

instance (priority := high) (v : BitVec OperandWidth.OP_WIDTH_16.bits) :
    Emits (OperandOf s) (OnOperand s .OP_WIDTH_16) env
      (writeData .OP_WIDTH_16 v false) := emits_writeData (w := .OP_WIDTH_16) v

omit henv in
instance (priority := high) :
    Keeps (OperandOf s) env (readData .OP_WIDTH_8 false) := keeps_readData

omit henv in
instance (priority := high) :
    Keeps (OperandOf s) env (readData .OP_WIDTH_16 false) := keeps_readData

/-- The code reads or writes the operand. -/
abbrev Reaches (env : Environment W) (s : Emulator W) (w : OperandWidth)
    (m : EmuM W α) : Prop :=
  Causes (OperandOf s)
    (fun a => a.place = some (Place.operand w s.operandAddr)) env m

omit henv hs in
instance (r : GPR) : Passes (OperandOf s) env (get r) := passes_gets _ _ _

omit henv hs in
instance : Passes (OperandOf s) env getFlags := passes_gets _ _ _

omit henv in
instance (f : ModRMDecoder -> α) : Passes (OperandOf s) env (decoded f) where
  returns t ht :=
    ⟨f t.modrmDecoder, t, decoded_returns f (ht.decoded hs.out).isDecoded,
      ht⟩

omit hs in
instance (priority := high) : Passes (OperandOf s) env fetchByte where
  returns t ht := by
    have hlinear : env.addressing.LinearBytes := by
      rw [henv.out]
      exact Addressing.linearBytes_emulator
    exact ⟨_, _, fetchByte_returns hlinear t,
      ⟨ht.modrmDecoder, ht.operandAddr⟩⟩

variable [hmem : Fact (s.modrmDecoder.rmType = .OP_MEM)]

theorem reaches_readData : Reaches env s w (readData w false) where
  event t ht := by
    have htmem : t.modrmDecoder.rmType = .OP_MEM := by
      rw [ht.modrmDecoder]
      exact hmem.out
    rw [readData_memory (ht.decoded hs.out) htmem, readMem_run henv.out,
      ht.operandAddr]
    dsimp only
    split
    · exact ⟨_, List.mem_singleton_self _, rfl⟩
    · exact ⟨_, List.mem_singleton_self _, rfl⟩

theorem reaches_writeData (v : BitVec w.bits) :
    Reaches env s w (writeData w v false) where
  event t ht := by
    have htmem : t.modrmDecoder.rmType = .OP_MEM := by
      rw [ht.modrmDecoder]
      exact hmem.out
    rw [writeData_memory (ht.decoded hs.out) htmem, writeMem_run henv.out,
      ht.operandAddr]
    dsimp only
    split
    · exact ⟨_, List.mem_singleton_self _, rfl⟩
    · exact ⟨_, List.mem_singleton_self _, rfl⟩

instance (priority := high) :
    Reaches env s .OP_WIDTH_8 (readData .OP_WIDTH_8 false) := reaches_readData

instance (priority := high) :
    Reaches env s .OP_WIDTH_16 (readData .OP_WIDTH_16 false) :=
  reaches_readData

instance (priority := high) (v : BitVec OperandWidth.OP_WIDTH_8.bits) :
    Reaches env s .OP_WIDTH_8 (writeData .OP_WIDTH_8 v false) :=
  reaches_writeData (w := .OP_WIDTH_8) v

instance (priority := high) (v : BitVec OperandWidth.OP_WIDTH_16.bits) :
    Reaches env s .OP_WIDTH_16 (writeData .OP_WIDTH_16 v false) :=
  reaches_writeData (w := .OP_WIDTH_16) v

end Operand

/-!
## Behind the ModRM byte
-/

section Modrm

set_option synthInstance.maxSize 1000000

variable {env : Environment W} (henv : env.addressing = Addressing.emulator)
  {e : Emulator W} {S : Set Place}
include henv

/-- Decoding fetches and does nothing else. -/
theorem touches_decode {m : EmuM W α}
    (hm : Touches S (m env e.afterDecode)) :
    Touches S ((decode >>= fun _ => m) env e) := by
  have hlinear : env.addressing.LinearBytes := by
    rw [henv]
    exact Addressing.linearBytes_emulator
  have hdecode : NoData env (decode : EmuM W Unit) := inferInstance
  exact Covers.after (decode_returns hlinear e) (hdecode.place_eq_none e) hm

theorem touches_modrm {w : OperandWidth} {m : EmuM W α}
    (hm : Touches S (m env (e.decodedFor w))) :
    Touches S ((setWidth w >>= fun _ => decode >>= fun _ => m) env e) :=
  touches_decode henv
    (e := { e with modrmDecoder := { e.modrmDecoder with width := w } }) hm

/-- Code that touches the operand and nothing else. -/
theorem touches_onOperand {s : Emulator W} {w : OperandWidth} {m : EmuM W α}
    (hs : s.Decoded)
    (hemits : forall [Fact (env.addressing = Addressing.emulator)]
      [Fact s.Decoded], Emits (OperandOf s) (OnOperand s w) env m)
    (hreaches : forall [Fact (env.addressing = Addressing.emulator)]
      [Fact s.Decoded] [Fact (s.modrmDecoder.rmType = .OP_MEM)],
      Reaches env s w m) :
    Touches (s.operandPlaces w) (m env s) := by
  have hself : OperandOf s s := ⟨rfl, rfl⟩
  have henv' : Fact (env.addressing = Addressing.emulator) := ⟨henv⟩
  have hs' : Fact s.Decoded := ⟨hs⟩
  constructor
  · intro a ha x hx
    exact hemits.events s hself a ha x hx
  · rintro _ x ⟨hmem, rfl⟩
    have hmem' : Fact (s.modrmDecoder.rmType = .OP_MEM) := ⟨hmem⟩
    exact hreaches.event s hself

theorem touches_operand {w : OperandWidth} {m : EmuM W Unit}
    (hemits : forall (s : Emulator W)
      [Fact (env.addressing = Addressing.emulator)] [Fact s.Decoded],
      Emits (OperandOf s) (OnOperand s w) env m)
    (hreaches : forall (s : Emulator W)
      [Fact (env.addressing = Addressing.emulator)] [Fact s.Decoded]
      [Fact (s.modrmDecoder.rmType = .OP_MEM)], Reaches env s w m) :
    Touches (Footprint.operand w env e)
      ((setWidth w >>= fun _ => decode >>= fun _ => m) env e) :=
  touches_modrm henv (touches_onOperand henv (decodedFor_decoded w e)
    (hemits _) (hreaches _))

end Modrm

end Sim
end S80x86
