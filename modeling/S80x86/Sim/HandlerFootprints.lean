import S80x86.Sim.Touches

/-!
# The footprints of single handlers

Every handler that is more than an operation on its operand, against its
footprint.
-/

namespace S80x86
namespace Sim

open Foundation.Effect
open Rtl.Machine (Division)

variable {W : Type}

section Handlers

variable {env : Environment W} (henv : env.addressing = Addressing.emulator)
  {e : Emulator W}
include henv

/-!
## Immediates
-/

/-- Take off an immediate byte. -/
theorem touches_fetchByte {S : Set Place} {f : BitVec 8 -> EmuM W α}
    (hf : Touches S (f (e.codeByte e.instrLength) env
      { e with instrLength := e.instrLength + 1 })) :
    Touches S ((fetchByte >>= f) env e) := by
  have hlinear : env.addressing.LinearBytes := by
    rw [henv]
    exact Addressing.linearBytes_emulator
  have hfetch : NoData env (fetchByte : EmuM W (BitVec 8)) := inferInstance
  exact Covers.after (fetchByte_returns hlinear e) (hfetch.place_eq_none e) hf

theorem touches_fetch16bit {S : Set Place} {f : BitVec 16 -> EmuM W α}
    (hf : Touches S (f (e.codeWord e.instrLength) env
      { e with instrLength := e.instrLength + 2 })) :
    Touches S ((fetch16bit >>= f) env e) := by
  have hlinear : env.addressing.LinearBytes := by
    rw [henv]
    exact Addressing.linearBytes_emulator
  have hfetch : NoData env (fetch16bit : EmuM W (BitVec 16)) := inferInstance
  exact Covers.after (fetch16bit_returns hlinear e) (hfetch.place_eq_none e) hf

/-!
## Pushes
-/

theorem touches_pushsr : Touches (e.registers.pushes 1) (pushsr env e) := by
  exact touches_storeTop henv
    (e.registers.get (.segment (e.opcode.extractLsb' 3 2)))

theorem touches_pushf9c : Touches (e.registers.pushes 1) (pushf9c env e) :=
  touches_storeTop henv e.registers.getFlags

theorem touches_push68 : Touches (e.registers.pushes 1) (push68 env e) :=
  touches_fetch16bit henv
    (touches_storeTop henv
      (e := { e with instrLength := e.instrLength + 2 }) _)

theorem touches_push6a : Touches (e.registers.pushes 1) (push6a env e) := by
  rw [push6a, bind_assoc]
  exact touches_fetchByte henv
    (touches_storeTop henv
      (e := { e with instrLength := e.instrLength + 1 }) _)

theorem touches_push50_57 :
    Touches (e.registers.pushes 1) (push50_57 env e) := by
  let r := e.registers.set .SP (e.registers.sp - 2#16)
  rw [pushes_one]
  exact touches_run rfl (writeMem_run henv .OP_WIDTH_16
    (getPhysAddr e.registers.ss (e.registers.sp - 2#16).toNat)
    (r.get (.word (e.opcode.extractLsb' 0 3))) { e with registers := r })

theorem touches_pusha60 : Touches (e.registers.pushes 8) (pusha60 env e) := by
  rw [<- Set.union_empty (e.registers.pushes 8)]
  refine touches_pushReg henv (r := .AX) ?_
  refine touches_pushReg henv (r := .CX) ?_
  refine touches_pushReg henv (r := .DX) ?_
  refine touches_pushReg henv (r := .BX) ?_
  refine touches_push henv ?_
  refine touches_pushReg henv (r := .BP) ?_
  refine touches_pushReg henv (r := .SI) ?_
  rw [Set.union_empty]
  exact touches_pushed henv _

theorem touches_calle8 : Touches (e.registers.pushes 1) (calle8 env e) := by
  refine touches_fetch16bit henv ?_
  rw [<- Set.union_empty (e.registers.pushes 1)]
  refine touches_pushNextIp henv
    (e := { e with instrLength := e.instrLength + 2 }) fun v => ?_
  rw [RegisterFile.pushes_zero, Set.union_empty]
  exact touches_quiet rfl

theorem touches_call9a : Touches (e.registers.pushes 2) (call9a env e) := by
  refine touches_fetch16bit henv ?_
  refine touches_fetch16bit henv ?_
  rw [<- Set.union_empty (e.registers.pushes 2)]
  refine touches_pushReg henv (r := .CS)
    (e := { e with instrLength := e.instrLength + 4 }) ?_
  refine touches_pushNextIp henv fun v => ?_
  rw [RegisterFile.pushes_zero, Set.union_empty]
  exact touches_quiet rfl

/-!
## Pops
-/

theorem touches_popOne {f : BitVec 16 -> EmuM W Unit}
    (hf : (f e.top env e).1 = []) :
    Touches (e.registers.pops 1) ((loadTop >>= f) env e) := by
  rw [<- Set.union_empty (e.registers.pops 1)]
  exact touches_top henv (touches_quiet hf)

theorem touches_popsr : Touches (e.registers.pops 1) (popsr env e) :=
  touches_popOne henv (f := fun val => do
    set (.segment (e.opcode.extractLsb' 3 2)) val
    addSp 2#16
    inhibitExtInt) rfl

theorem touches_pop58_5f : Touches (e.registers.pops 1) (pop58_5f env e) :=
  touches_popOne henv (f := fun val => do
    addSp 2#16
    set (.word (e.opcode.extractLsb' 0 3)) val) rfl

theorem touches_popf9d : Touches (e.registers.pops 1) (popf9d env e) :=
  touches_popOne henv rfl

theorem touches_popa61 : Touches (e.registers.pops 8) (popa61 env e) := by
  refine touches_popReg henv (by decide) fun s => ?_
  refine touches_popReg henv (by decide) fun s => ?_
  refine touches_popReg henv (by decide) fun s => ?_
  refine touches_pop henv ?_
  refine touches_popReg henv (by decide) fun s => ?_
  refine touches_popReg henv (by decide) fun s => ?_
  refine touches_popReg henv (by decide) fun s => ?_
  refine touches_pop henv ?_
  rw [RegisterFile.pops_zero]
  exact touches_quiet rfl

theorem touches_retc3 : Touches (e.registers.pops 1) (retc3 env e) := by
  refine touches_pop henv ?_
  rw [RegisterFile.pops_zero]
  exact touches_quiet rfl

theorem touches_retc2 : Touches (e.registers.pops 1) (retc2 env e) := by
  refine touches_fetch16bit henv ?_
  refine touches_pop henv (e := { e with instrLength := e.instrLength + 2 }) ?_
  rw [RegisterFile.pops_zero]
  exact touches_quiet rfl

theorem touches_retcb : Touches (e.registers.pops 2) (retcb env e) := by
  refine touches_pop henv ?_
  refine touches_pop henv ?_
  rw [RegisterFile.pops_zero]
  exact touches_quiet rfl

theorem touches_retca : Touches (e.registers.pops 2) (retca env e) := by
  refine touches_fetch16bit henv ?_
  refine touches_pop henv (e := { e with instrLength := e.instrLength + 2 }) ?_
  refine touches_pop henv ?_
  rw [RegisterFile.pops_zero]
  exact touches_quiet rfl

theorem touches_iretcf : Touches (e.registers.pops 3) (iretcf env e) := by
  refine touches_pop henv ?_
  refine touches_pop henv ?_
  refine touches_pop henv ?_
  rw [RegisterFile.pops_zero]
  exact touches_quiet rfl

/-- The frame is found through `BP`. -/
theorem touches_leavec9 : Touches (Footprint.leave env e) (leavec9 env e) := by
  let s : Emulator W :=
    { e with registers := e.registers.set .SP e.registers.bp }
  have hpop : Touches (s.registers.pops 1) ((popReg .BP) env s) := by
    refine touches_pop henv ?_
    rw [RegisterFile.pops_zero]
    exact touches_quiet rfl
  rw [pops_one] at hpop
  exact hpop

/-!
## Direct addresses
-/

omit henv in
theorem dataAddr_run (n : Nat) :
    dataAddr n env e =
      ([], .ok (getPhysAddr (e.registers.get e.operandSegment) n, e)) := by
  rw [dataAddr, bind_of_run getSegment_run]
  rfl

theorem touches_movAccMem {w : OperandWidth} :
    Touches (Footprint.direct w env e) (movAccMem w env e) := by
  refine touches_fetch16bit henv ?_
  rw [bind_of_run (dataAddr_run _)]
  unfold Footprint.direct
  rw [<- insert_empty_eq]
  exact touches_bind rfl (readMem_run henv w _ _) (touches_quiet rfl)

theorem touches_movMemAcc {w : OperandWidth} :
    Touches (Footprint.direct w env e) (movMemAcc w env e) := by
  refine touches_fetch16bit henv ?_
  change Touches _ ((dataAddr _ >>= fun addr => writeMem w addr
    ((e.registers.get (accumulator w)).setWidth w.bits)) env
      { e with instrLength := e.instrLength + 2 })
  rw [bind_of_run (dataAddr_run _)]
  exact touches_run rfl (writeMem_run henv w _ _ _)

theorem touches_xlatd7 : Touches (Footprint.table env e) (xlatd7 env e) := by
  change Touches _ ((dataAddr _ >>= fun addr => do
    let v ← readMem .OP_WIDTH_8 addr
    set .AL (v.setWidth 16)) env e)
  rw [bind_of_run (dataAddr_run _)]
  unfold Footprint.table
  rw [<- insert_empty_eq]
  exact touches_bind rfl (readMem_run henv .OP_WIDTH_8 _ _)
    (touches_quiet rfl)

/-!
## Interrupts
-/

theorem touches_intcd :
    Touches (Footprint.intImmediate env e) (intcd env e) := by
  change Touches _ ((fetchByte >>= fun intNum =>
    interruptWith e.registers.getFlags (intNum.toNat * 4) nextIp) env e)
  refine touches_fetchByte henv ?_
  exact touches_interruptWith henv
    (e := { e with instrLength := e.instrLength + 1 }) _ fun _ => ⟨_, rfl⟩

theorem touches_intoce :
    Touches (Footprint.intOverflow env e) (intoce env e) := by
  change Touches _ ((if e.registers.getFlags &&& Flag.OF = 0#16 then pure ()
    else interruptWith e.registers.getFlags Vector.OVERFLOW nextIp) env e)
  unfold Footprint.intOverflow
  by_cases h : e.registers.getFlags &&& Flag.OF = 0#16
  · rw [placesIf_of_not (fun hne => hne h), if_pos h]
    exact touches_quiet rfl
  · rw [placesIf_of h, if_neg h]
    exact touches_interruptWith henv _ fun _ => ⟨_, rfl⟩

theorem touches_escd8 : Touches (Footprint.escape env e) (escd8 env e) := by
  refine touches_decode henv ?_
  change Touches _ ((if !env.trapEscape then pure ()
    else interruptHere Vector.ESCAPE) env e.afterDecode)
  unfold Footprint.escape
  cases h : env.trapEscape with
  | false =>
      rw [placesIf_of_not Bool.false_ne_true]
      exact touches_quiet rfl
  | true =>
      rw [placesIf_of rfl]
      exact touches_interruptHere henv (e := e.afterDecode) Vector.ESCAPE

theorem touches_aamd4 : Touches (Footprint.adjust env e) (aamd4 env e) := by
  refine touches_fetchByte henv ?_
  unfold Footprint.adjust
  by_cases h : e.codeByte e.instrLength = 0#8
  · rw [placesIf_of h, if_pos h]
    exact touches_interruptHere henv
      (e := { e with instrLength := e.instrLength + 1 }) Vector.DIVIDE_ERROR
  · rw [placesIf_of_not h, if_neg h]
    exact touches_quiet rfl

/-!
## The display
-/

omit henv in
theorem display_succ {e s : Emulator W} (n : Nat)
    (hss : s.registers.ss = e.registers.ss)
    (hbp : s.registers.bp = e.registers.bp - 2#16) :
    e.registers.display (n + 1) =
      insert (Place.word e.registers.ss (e.registers.bp - 2#16))
        (s.registers.display n) := by
  ext x
  constructor
  · rintro ⟨k, hk, rfl⟩
    cases k with
    | zero =>
        exact Or.inl rfl
    | succ k =>
        refine Or.inr ⟨k, Nat.lt_of_succ_lt_succ hk, ?_⟩
        rw [hss, hbp, below_succ]
  · rintro (rfl | ⟨k, hk, rfl⟩)
    · exact ⟨0, Nat.succ_pos n, rfl⟩
    · refine ⟨k + 1, Nat.succ_lt_succ hk, ?_⟩
      rw [hss, hbp, below_succ]

omit henv in
theorem display_zero (r : RegisterFile) : r.display 0 = ∅ := by
  apply Set.eq_empty_of_forall_notMem
  rintro x ⟨k, hk, _⟩
  exact Nat.not_lt_zero k hk

omit henv in
/-- One copy of the display, among all of them. -/
theorem insert_insert_union (x y : Place) (S T U : Set Place) :
    insert x (insert y (S ∪ T ∪ U)) = insert y S ∪ insert x T ∪ U := by
  ext z
  simp only [Set.mem_insert_iff, Set.mem_union]
  tauto

/-- The copies of `ENTER` and what comes after them. -/
theorem touches_enterLoop {T : Set Place} {f : Unit -> EmuM W α} (n : Nat)
    (s : Emulator W)
    (hf : forall t : Emulator W, t.registers.ss = s.registers.ss ->
      t.registers.sp = s.registers.sp - BitVec.ofNat 16 (2 * n) ->
      Touches T (f () env t)) :
    Touches (s.registers.pushes n ∪ s.registers.display n ∪ T)
      ((enterLoop n >>= f) env s) := by
  induction n generalizing s with
  | zero =>
      rw [RegisterFile.pushes_zero, display_zero, Set.union_empty,
        Set.empty_union]
      exact hf s rfl (BitVec.sub_zero s.registers.sp).symm
  | succ n ih =>
      let s₁ : Emulator W :=
        { s with registers := s.registers.set .BP (s.registers.bp - 2#16) }
      let v := s₁.mem.readAt .OP_WIDTH_16
        (getPhysAddr s.registers.ss (s.registers.bp - 2#16).toNat).linear
      have hrest := ih (s₁.pushed v) fun t hss hsp => hf t hss (by
        rw [hsp]
        exact sub_two_sub s.registers.sp n)
      have hpush := touches_bind rfl (pushWord_run henv v s₁)
        (f := fun _ => enterLoop n >>= f) hrest
      have hread := touches_bind rfl (readMem_run henv .OP_WIDTH_16
        (getPhysAddr s.registers.ss (s.registers.bp - 2#16).toNat) s₁)
        (f := fun v => pushWord v >>= fun _ => enterLoop n >>= f) hpush
      have hpushes : s.registers.pushes (n + 1) =
          insert (Place.word s.registers.ss (s.registers.sp - 2#16))
            ((s₁.pushed v).registers.pushes n) := pushes_succ s₁ v n
      rw [hpushes, display_succ (e := s) (s := s₁.pushed v) n rfl rfl,
        <- insert_insert_union]
      simp only [bind_assoc] at hread
      simp only [enterLoop, bind_assoc]
      exact hread

omit henv in
theorem pushes_last (r : RegisterFile) (n : Nat) :
    r.pushes (n + 1) = r.pushes n ∪ {Place.word r.ss (below r.sp n)} := by
  ext x
  constructor
  · rintro ⟨k, hk, rfl⟩
    rcases Nat.lt_or_eq_of_le (Nat.le_of_lt_succ hk) with hlt | rfl
    · exact Or.inl ⟨k, hlt, rfl⟩
    · exact Or.inr rfl
  · rintro (⟨k, hk, rfl⟩ | rfl)
    · exact ⟨k, Nat.lt_succ_of_lt hk, rfl⟩
    · exact ⟨n, Nat.lt_succ_self n, rfl⟩

theorem touches_enterc8 : Touches (Footprint.enter env e) (enterc8 env e) := by
  refine touches_fetch16bit henv ?_
  refine touches_fetchByte henv ?_
  let s : Emulator W := { e with instrLength := e.instrLength + 3 }
  let t : Emulator W := s.pushed e.registers.bp
  change Touches _ ((pushWord e.registers.bp >>= fun _ => do
    let frameTemp ← get .SP
    enterLoop (e.nest - 1)
    let _ ← (if e.nest ≠ 0 then pushWord frameTemp else pure ())
    set .BP frameTemp
    subSp (e.codeWord e.instrLength)) env s)
  have hentered : Footprint.enter env e =
      s.registers.pushes (e.nest + 1) ∪ t.registers.display (e.nest - 1) := rfl
  rw [hentered]
  refine touches_push henv ?_
  have hloop := touches_enterLoop henv (e.nest - 1) t
    (f := fun _ => do
      let _ ← (if e.nest ≠ 0 then pushWord t.registers.sp else pure ())
      set .BP t.registers.sp
      subSp (e.codeWord e.instrLength))
    (T := placesIf (e.nest ≠ 0)
      {Place.word t.registers.ss (below t.registers.sp (e.nest - 1))})
    fun u hss hsp => by
      by_cases h : e.nest ≠ 0
      · rw [placesIf_of h, if_pos h, <- insert_empty_eq, <- sub_sub_two,
          <- hsp, <- hss]
        exact touches_bind rfl (pushWord_run henv t.registers.sp u)
          (touches_quiet rfl)
      · rw [placesIf_of_not h, if_neg h]
        exact touches_quiet rfl
  refine hloop.congr ?_
  by_cases h : e.nest ≠ 0
  · have hnest : e.nest = e.nest - 1 + 1 := by omega
    rw [placesIf_of h, Set.union_right_comm, <- pushes_last, <- hnest]
  · rw [placesIf_of_not h, Set.union_empty, not_not.mp h]

/-!
## Groups
-/

/-- The start of a handler that goes on by the register field. -/
theorem touches_group {w : OperandWidth} {S : Set Place}
    {f : BitVec 3 -> EmuM W Unit}
    (hf : Touches S
      (f (e.decodedFor w).modrmDecoder.rawReg env (e.decodedFor w))) :
    Touches S ((do setWidth w; decode; let r ← rawReg; f r) env e) := by
  refine touches_modrm henv ?_
  rw [rawReg, bind_of_run (decoded_run (decodedFor_decoded w e) _)]
  exact hf

theorem touches_movc6 :
    Touches (Footprint.immediateMove .OP_WIDTH_8 env e) (movc6 env e) := by
  refine touches_group henv ?_
  unfold Footprint.immediateMove
  dsimp only
  split
  · next h =>
      rw [placesIf_of h]
      exact touches_onOperand henv (decodedFor_decoded .OP_WIDTH_8 e)
        inferInstance inferInstance
  · next h =>
      rw [placesIf_of_not h]
      exact touches_quiet rfl

theorem touches_movc7 :
    Touches (Footprint.immediateMove .OP_WIDTH_16 env e) (movc7 env e) := by
  refine touches_group henv ?_
  unfold Footprint.immediateMove
  dsimp only
  split
  · next h =>
      rw [placesIf_of h]
      exact touches_onOperand henv (decodedFor_decoded .OP_WIDTH_16 e)
        inferInstance inferInstance
  · next h =>
      rw [placesIf_of_not h]
      exact touches_quiet rfl

theorem touches_incDecFe :
    Touches (Footprint.groupFe env e) (incDecFe env e) := by
  refine touches_group henv ?_
  unfold Footprint.groupFe
  dsimp only
  generalize hr : (e.decodedFor .OP_WIDTH_8).modrmDecoder.rawReg = r
  by_cases h : r = 7#3
  · rw [if_pos h, placesIf_of h, placesIf_of_not (by rw [h]; decide),
      Set.empty_union]
    exact touches_interrupt henv (e := e.decodedFor .OP_WIDTH_8)
      Vector.INVALID_OPCODE
  · rw [if_neg h, placesIf_of_not h, Set.union_empty]
    split
    · next hother =>
        rw [placesIf_of_not (not_or.mpr hother)]
        exact touches_quiet rfl
    · next hother =>
        rw [placesIf_of (or_iff_not_and_not.mpr hother)]
        exact touches_onOperand henv (decodedFor_decoded .OP_WIDTH_8 e)
          inferInstance inferInstance

/-!
## Divisions
-/

/-- Once the operands are known a divide error is due or not. -/
theorem touches_quotient {s : Emulator W} {v : Division} {c : Prop}
    [Decidable c] {m : EmuM W Unit} (hdefined : ¬Undefined v s)
    (hraises : Raises v s ↔ c) (hm : (m env s).1 = []) :
    Touches (placesIf (s.Overflows v)
        (s.registers.interrupt Vector.DIVIDE_ERROR))
      ((if c then divideError else m) env s) := by
  have hoverflows : s.Overflows v ↔ c :=
    (and_iff_right hdefined).trans hraises
  by_cases h : c
  · rw [placesIf_of (hoverflows.mpr h), if_pos h]
    exact touches_interruptHere henv Vector.DIVIDE_ERROR
  · rw [placesIf_of_not (mt hoverflows.mp h), if_neg h]
    exact touches_quiet hm

/-- What a division touches, with its operand. -/
abbrev TouchesDivision (v : Division) (s : Emulator W)
    (x : List Access × Except Fault (Unit × Emulator W)) : Prop :=
  Touches (s.operandPlaces (operandWidth v) ∪ placesIf (s.Overflows v)
    (s.registers.interrupt Vector.DIVIDE_ERROR)) x

section Division

variable {s : Emulator W} (hs : s.Decoded)
include hs

theorem touches_divf6 :
    TouchesDivision ⟨false, true⟩ s (divf6 env s) := by
  have hb : divisor ⟨false, true⟩ s =
      (s.operandValue .OP_WIDTH_8).toNat := rfl
  refine touches_readData henv hs (w := .OP_WIDTH_8) ?_
  refine touches_quotient henv (not_undefined (.inl rfl)) ?_ rfl
  rw [raises_unsigned rfl hb, BitVec.toNat_eq]
  rfl

theorem touches_divf7 :
    TouchesDivision ⟨false, false⟩ s (divf7 env s) := by
  have hb : divisor ⟨false, false⟩ s =
      (s.operandValue .OP_WIDTH_16).toNat := rfl
  refine touches_readData henv hs (w := .OP_WIDTH_16) ?_
  refine Covers.after (getDxAx_returns env s) (fun _ h => by cases h) ?_
  refine touches_quotient henv (not_undefined (.inl rfl)) ?_ rfl
  rw [raises_unsigned rfl hb, BitVec.toNat_eq]
  rfl

theorem touches_idivf6 :
    TouchesDivision ⟨true, true⟩ s (idivf6 env s) := by
  have hb : divisor ⟨true, true⟩ s =
      (s.operandValue .OP_WIDTH_8).toInt := rfl
  refine touches_readData henv hs (w := .OP_WIDTH_8) ?_
  refine touches_quotient henv (not_undefined (.inr rfl)) ?_ rfl
  rw [raises_signed rfl hb, <- BitVec.toInt_inj]
  rfl

/-- The host has no quotient in one case, where nothing is pushed. -/
theorem touches_idivf7 :
    TouchesDivision ⟨true, false⟩ s (idivf7 env s) := by
  have ha : dividend ⟨true, false⟩ s.registers =
      (s.registers.dx ++ s.registers.ax).toInt := rfl
  have hb : divisor ⟨true, false⟩ s =
      (s.operandValue .OP_WIDTH_16).toInt := rfl
  have hraises := raises_signed ha hb
  have hundefined : Undefined ⟨true, false⟩ s ↔
      s.registers.dx ++ s.registers.ax = 0x80000000#32 ∧
        s.operandValue .OP_WIDTH_16 = 0xffff#16 := by
    unfold Undefined
    rw [ha, hb, <- BitVec.toInt_inj, <- BitVec.toInt_inj]
    simp
  have hzero : (s.operandValue .OP_WIDTH_16).toInt = 0 ↔
      s.operandValue .OP_WIDTH_16 = 0#16 := by
    rw [<- BitVec.toInt_inj]
    rfl
  refine touches_readData henv hs (w := .OP_WIDTH_16) ?_
  refine Covers.after (getDxAx_returns env s) (fun _ h => by cases h) ?_
  by_cases hu : Undefined ⟨true, false⟩ s
  · have hu' := hundefined.mp hu
    rw [placesIf_of_not fun h => h.1 hu, if_neg (by rw [hu'.2]; decide),
      if_pos hu']
    exact touches_quiet rfl
  · rw [if_neg (mt hundefined.mpr hu)]
    by_cases hb0 : s.operandValue .OP_WIDTH_16 = 0#16
    · rw [if_pos hb0, placesIf_of ⟨hu, hraises.mpr (.inl (hzero.mpr hb0))⟩]
      exact touches_interruptHere henv Vector.DIVIDE_ERROR
    · rw [if_neg hb0]
      refine touches_quotient henv hu ?_ rfl
      rw [hraises, hzero, or_iff_right hb0]
      rfl

end Division

omit henv in
/-- The members of a group that touch their operand and nothing else. -/
theorem touches_onlyOperand {w : OperandWidth} {v₁ v₂ : Division}
    {s : Emulator W} {m : EmuM W Unit} (h6 : ¬s.modrmDecoder.rawReg = 6#3)
    (h7 : ¬s.modrmDecoder.rawReg = 7#3)
    (hm : Touches (s.operandPlaces w) (m env s)) :
    Touches (s.operandPlaces w ∪ placesIf
      ((s.modrmDecoder.rawReg = 6#3 ∧ s.Overflows v₁) ∨
        s.modrmDecoder.rawReg = 7#3 ∧ s.Overflows v₂)
      (s.registers.interrupt Vector.DIVIDE_ERROR)) (m env s) := by
  rw [placesIf_of_not, Set.union_empty]
  · exact hm
  · rintro (⟨h, _⟩ | ⟨h, _⟩)
    · exact h6 h
    · exact h7 h

theorem touches_negMulNotTestDivF6 :
    Touches (Footprint.unary .OP_WIDTH_8 true env e)
      (negMulNotTestDivF6 env e) := by
  have hs := decodedFor_decoded .OP_WIDTH_8 e
  refine touches_group henv ?_
  unfold Footprint.unary
  dsimp only
  change Touches ((e.decodedFor .OP_WIDTH_8).operandPlaces .OP_WIDTH_8 ∪
    placesIf _ ((e.decodedFor .OP_WIDTH_8).registers.interrupt _)) _
  generalize e.decodedFor .OP_WIDTH_8 = s at hs ⊢
  by_cases h6 : s.modrmDecoder.rawReg = 6#3
  · simp only [h6, BitVec.reduceEq, if_false, if_true, true_and, false_and,
      or_false, or_self]
    exact touches_divf6 henv hs
  · by_cases h7 : s.modrmDecoder.rawReg = 7#3
    · simp only [h7, BitVec.reduceEq, if_false, true_and, false_and,
        false_or, or_self]
      exact touches_idivf6 henv hs
    · refine touches_onlyOperand h6 h7 ?_
      rw [if_neg h6]
      split_ifs
      case neg => bv_omega
      all_goals exact touches_onOperand henv hs inferInstance inferInstance

theorem touches_negMulNotTestDivF7 :
    Touches (Footprint.unary .OP_WIDTH_16 false env e)
      (negMulNotTestDivF7 env e) := by
  have hs := decodedFor_decoded .OP_WIDTH_16 e
  refine touches_group henv ?_
  unfold Footprint.unary
  dsimp only
  change Touches ((e.decodedFor .OP_WIDTH_16).operandPlaces .OP_WIDTH_16 ∪
    placesIf _ ((e.decodedFor .OP_WIDTH_16).registers.interrupt _)) _
  generalize e.decodedFor .OP_WIDTH_16 = s at hs ⊢
  by_cases h6 : s.modrmDecoder.rawReg = 6#3
  · simp only [h6, BitVec.reduceEq, if_false, if_true, true_and, false_and,
      or_false, or_self]
    exact touches_divf7 henv hs
  · by_cases h7 : s.modrmDecoder.rawReg = 7#3
    · simp only [h7, BitVec.reduceEq, if_false, true_and, false_and,
        false_or, or_self]
      exact touches_idivf7 henv hs
    · refine touches_onlyOperand h6 h7 ?_
      rw [if_neg h6]
      split_ifs
      case neg => bv_omega
      all_goals exact touches_onOperand henv hs inferInstance inferInstance

/-!
## Far pointers and bounds
-/

omit henv in
theorem rmType_run {s : Emulator W} (hs : s.Decoded) :
    rmType env s = ([], .ok (s.modrmDecoder.rmType, s)) :=
  decoded_run hs _

/-- Take off the reading of two words. -/
theorem touches_pair {s : Emulator W} {S : Set Place} (hs : s.Decoded)
    (hmem : s.modrmDecoder.rmType = .OP_MEM)
    {f : BitVec 16 -> BitVec 16 -> EmuM W α}
    (hf : Touches S (f (s.mem.word s.operandAddr.linear)
      (s.mem.word (s.operandAddr.add 2).linear) env s)) :
    Touches (s.pairPlaces ∪ S)
      ((operandAddr false >>= fun p =>
        read16 p >>= fun lower => read16 (p.add 2) >>= f lower) env s) := by
  unfold Emulator.pairPlaces
  rw [placesIf_of hmem, Set.insert_union, Set.singleton_union,
    bind_of_run (operandAddr_run hs hmem)]
  refine touches_bind rfl
    (readMem_run henv .OP_WIDTH_16 s.operandAddr s) ?_
  exact touches_bind rfl
    (readMem_run henv .OP_WIDTH_16 (s.operandAddr.add 2) s) hf

theorem touches_loadFar (segment : GPR) :
    Touches (Footprint.farPointer env e) (loadFar segment env e) := by
  refine touches_modrm henv ?_
  have hs := decodedFor_decoded .OP_WIDTH_16 e
  unfold Footprint.farPointer
  generalize e.decodedFor .OP_WIDTH_16 = s at hs ⊢
  rw [bind_of_run (rmType_run hs)]
  split
  · next hreg =>
      unfold Emulator.pairPlaces
      rw [placesIf_of_not (by rw [hreg]; decide)]
      exact touches_quiet rfl
  · next hmem =>
      rw [<- Set.union_empty s.pairPlaces]
      refine touches_pair henv hs
        ((rmType_cases s.modrmDecoder).resolve_left hmem) ?_
      rw [reg, bind_of_run (decoded_run hs _)]
      exact touches_quiet rfl

theorem touches_bound62 :
    Touches (Footprint.bound env e) (bound62 env e) := by
  refine touches_decode henv ?_
  have hs := afterDecode_decoded e
  have hregs : e.afterDecode.registers = e.registers := rfl
  unfold Footprint.bound
  rw [<- hregs]
  generalize e.afterDecode = s at hs ⊢
  rw [bind_of_run (rmType_run hs)]
  split
  · next hreg =>
      have hmem : ¬s.modrmDecoder.rmType = .OP_MEM := by
        rw [hreg]
        decide
      dsimp only
      unfold Emulator.pairPlaces
      rw [placesIf_of_not hmem, placesIf_of_not fun h => hmem h.1,
        placesIf_of hreg, Set.empty_union, Set.empty_union]
      exact touches_interrupt henv Vector.INVALID_OPCODE
  · next hreg =>
      have hmem := (rmType_cases s.modrmDecoder).resolve_left hreg
      dsimp only
      rw [placesIf_of_not hreg, Set.union_empty]
      refine touches_pair henv hs hmem ?_
      rw [reg, bind_of_run (decoded_run hs _)]
      change Touches _ ((if _ then pure () else interrupt Vector.BOUND) env s)
      split
      · next hinside =>
          rw [placesIf_of_not fun h => h.2 hinside]
          exact touches_quiet rfl
      · next houtside =>
          rw [placesIf_of ⟨hmem, houtside⟩]
          exact touches_interrupt henv Vector.BOUND

/-!
## Operands beside the stack
-/

omit henv in
theorem operandOf_setSp {s : Emulator W}
    (hseg : s.operandSegment.isSegment = true) (v : BitVec 16) :
    OperandOf s { s with registers := s.registers.set .SP v } := by
  refine ⟨rfl, ?_⟩
  have hbase : (s.registers.set .SP v).get s.operandSegment =
      s.registers.get s.operandSegment := by
    revert hseg
    generalize s.operandSegment = x
    intro hseg
    cases x with
    | ES => rfl
    | CS => rfl
    | SS => rfl
    | DS => rfl
    | _ => cases hseg
  exact congrArg (fun base => getPhysAddr base
    s.modrmDecoder.cachedAddress.toNat) hbase

omit henv in
theorem OperandOf.dwordPlaces {s t : Emulator W} (h : OperandOf s t) :
    t.dwordPlaces = s.dwordPlaces := by
  unfold Emulator.dwordPlaces
  rw [h.modrmDecoder, h.operandAddr]

theorem touches_jmpffInter {s : Emulator W} (hs : s.Decoded)
    (hmem : s.modrmDecoder.rmType = .OP_MEM) :
    Touches s.dwordPlaces (jmpffInter env s) := by
  have hreg : ¬s.modrmDecoder.rmType = .OP_REG := by
    rw [hmem]
    decide
  rw [jmpffInter, bind_of_run (rmType_run hs), if_neg hreg,
    <- Set.union_empty s.dwordPlaces]
  exact touches_readData32 henv hs hmem fun _ => touches_quiet rfl

theorem touches_callffIntra {s : Emulator W} (hs : s.Decoded) :
    Touches (s.operandPlaces .OP_WIDTH_16 ∪ s.registers.pushes 1)
      (callffIntra env s) := by
  refine touches_readData henv hs (w := .OP_WIDTH_16) ?_
  rw [<- Set.union_empty (s.registers.pushes 1)]
  refine touches_pushNextIp henv fun v => ?_
  rw [RegisterFile.pushes_zero, Set.union_empty]
  exact touches_quiet rfl

section Stack

variable {s : Emulator W} (hs : s.Decoded)
  (hseg : s.operandSegment.isSegment = true)
include hs hseg

theorem touches_pushff (hr : s.modrmDecoder.rawReg = 6#3) :
    Touches (s.operandPlaces .OP_WIDTH_16 ∪ s.registers.pushes 1)
      (pushff env s) := by
  let t : Emulator W :=
    { s with registers := s.registers.set .SP (s.registers.sp - 2#16) }
  have ht : OperandOf s t := operandOf_setSp hseg _
  rw [pushff, rawReg, bind_of_run (decoded_run hs _), hr]
  change Touches _ ((readData .OP_WIDTH_16 false >>= storeTop) env t)
  rw [<- ht.operandPlaces, pushes_one]
  refine touches_readData henv (ht.decoded hs) (w := .OP_WIDTH_16) ?_
  exact touches_run rfl (writeMem_run henv .OP_WIDTH_16
    (getPhysAddr s.registers.ss (s.registers.sp - 2#16).toNat) _ t)

theorem touches_popOperand :
    Touches (s.registers.pops 1 ∪ s.operandPlaces .OP_WIDTH_16)
      ((do
        let val ← loadTop
        addSp 2#16
        writeData .OP_WIDTH_16 val false) env s) := by
  let t : Emulator W :=
    { s with registers := s.registers.set .SP (s.registers.sp + 2#16) }
  have ht : OperandOf s t := operandOf_setSp hseg _
  refine touches_top henv ?_
  change Touches _ (writeData .OP_WIDTH_16 s.top false env t)
  rw [<- ht.operandPlaces]
  exact touches_writeData henv (ht.decoded hs) _

theorem touches_callffInter (hmem : s.modrmDecoder.rmType = .OP_MEM) :
    Touches (s.registers.pushes 2 ∪ s.dwordPlaces)
      (callffInter env s) := by
  have hreg : ¬s.modrmDecoder.rmType = .OP_REG := by
    rw [hmem]
    decide
  rw [callffInter, bind_of_run (rmType_run hs), if_neg hreg]
  refine touches_pushReg henv (r := .CS) ?_
  refine touches_pushNextIp henv fun v => ?_
  let t : Emulator W := (s.pushed (s.registers.get .CS)).pushed v
  have ht : OperandOf s t := by
    have hfirst := operandOf_setSp hseg (s.registers.sp - 2#16)
    have hseg' : (s.pushed (s.registers.get .CS)).operandSegment.isSegment =
        true := hseg
    have hnext := operandOf_setSp hseg'
      ((s.pushed (s.registers.get .CS)).registers.sp - 2#16)
    exact ⟨rfl, hnext.operandAddr.trans hfirst.operandAddr⟩
  rw [RegisterFile.pushes_zero, Set.empty_union, <- ht.dwordPlaces,
    <- Set.union_empty t.dwordPlaces]
  exact touches_readData32 henv (ht.decoded hs) hmem fun _ => touches_quiet rfl

end Stack

theorem touches_pop8f
    (hseg : (e.decodedFor .OP_WIDTH_16).operandSegment.isSegment = true) :
    Touches (Footprint.popOperand env e) (pop8f env e) := by
  refine touches_group henv ?_
  have hs := decodedFor_decoded .OP_WIDTH_16 e
  unfold Footprint.popOperand
  change Touches (placesIf ((e.decodedFor .OP_WIDTH_16).modrmDecoder.rawReg =
    0#3) ((e.decodedFor .OP_WIDTH_16).registers.pops 1 ∪ _)) _
  generalize e.decodedFor .OP_WIDTH_16 = s at hs hseg ⊢
  split
  · next h =>
      rw [placesIf_of h]
      exact touches_popOperand henv hs hseg
  · next h =>
      rw [placesIf_of_not h]
      exact touches_quiet rfl

omit henv in
/-- The field of the group is the one that `INC` and `DEC` expect. -/
theorem incDecWord_run {s : Emulator W} {n : BitVec 3} (hs : s.Decoded)
    (hr : s.modrmDecoder.rawReg = n) (alu : Alu W .OP_WIDTH_16) :
    incDecWord n alu env s =
      (do
        let v ← readData .OP_WIDTH_16 false
        let out ← alu v 1#16
        setFlags out.1 incDecFlags
        writeData .OP_WIDTH_16 out.2 false : EmuM W Unit) env s := by
  rw [incDecWord, rawReg, bind_of_run (decoded_run hs _), hr, assert,
    beq_self_eq_true, if_pos rfl]
  rfl

theorem touches_pushIncJmpCallFf
    (hseg : (e.decodedFor .OP_WIDTH_16).operandSegment.isSegment = true) :
    Touches (Footprint.groupFf env e) (pushIncJmpCallFf env e) := by
  refine touches_group henv ?_
  have hs := decodedFor_decoded .OP_WIDTH_16 e
  have hregs : (e.decodedFor .OP_WIDTH_16).registers = e.registers := rfl
  unfold Footprint.groupFf
  dsimp only
  rw [<- hregs]
  generalize e.decodedFor .OP_WIDTH_16 = s at hs hseg ⊢
  have hcases : forall r : BitVec 3, r = 0#3 ∨ r = 1#3 ∨ r = 2#3 ∨ r = 3#3 ∨
      r = 4#3 ∨ r = 5#3 ∨ r = 6#3 ∨ r = 7#3 := by
    decide
  rcases hcases s.modrmDecoder.rawReg with h | h | h | h | h | h | h | h <;>
    simp only [h, BitVec.reduceEq, or_true, or_false, true_and, false_and,
      placesIf_true, placesIf_false, Set.union_empty, Set.empty_union,
      if_true, if_false]
  · rw [incff, incDecWord_run hs h]
    exact touches_onOperand henv hs inferInstance inferInstance
  · rw [decff, incDecWord_run hs h]
    exact touches_onOperand henv hs inferInstance inferInstance
  · exact touches_callffIntra henv hs
  · by_cases hmem : s.modrmDecoder.rmType = .OP_MEM
    · rw [placesIf_of hmem]
      exact touches_callffInter henv hs hseg hmem
    · have hnone : s.dwordPlaces = ∅ := placesIf_of_not hmem _
      have hreg := (rmType_cases s.modrmDecoder).resolve_right hmem
      rw [placesIf_of_not hmem, hnone, Set.empty_union, callffInter,
        bind_of_run (rmType_run hs), if_pos hreg]
      exact touches_quiet rfl
  · exact touches_onOperand henv hs inferInstance inferInstance
  · by_cases hmem : s.modrmDecoder.rmType = .OP_MEM
    · exact touches_jmpffInter henv hs hmem
    · have hnone : s.dwordPlaces = ∅ := placesIf_of_not hmem _
      have hreg := (rmType_cases s.modrmDecoder).resolve_right hmem
      rw [hnone, jmpffInter, bind_of_run (rmType_run hs), if_pos hreg]
      exact touches_quiet rfl
  · exact touches_pushff henv hs hseg h
  · exact touches_interrupt henv Vector.INVALID_OPCODE

end Handlers
end Sim
end S80x86
