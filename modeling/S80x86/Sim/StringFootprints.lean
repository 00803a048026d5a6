import S80x86.Sim.HandlerFootprints

/-!
# The footprints of string instructions

One element at a time, and from it what the loop around the elements touches.
-/

namespace S80x86
namespace Sim

open Foundation.Effect

variable {W : Type}

/-!
## The loop
-/

/-- The places of the rounds from `k` on, of at most `limit` ones, up to the
first that ends the loop. -/
def roundPlaces (places : Nat -> Set Place) (ends : Nat -> Bool)
    (limit k : Nat) : Set Place :=
  { x | exists i, (i < limit ∧ forall j, j < i -> ends (k + j) = false) ∧
    x ∈ places (k + i) }

section Rounds

variable (places : Nat -> Set Place) (ends : Nat -> Bool)

theorem roundPlaces_zero (k : Nat) : roundPlaces places ends 0 k = ∅ := by
  apply Set.eq_empty_of_forall_notMem
  rintro x ⟨i, ⟨hi, _⟩, _⟩
  exact Nat.not_lt_zero i hi

/-- The first round and, unless it ends the loop, the others. -/
theorem roundPlaces_succ (limit k : Nat) :
    roundPlaces places ends (limit + 1) k =
      places k ∪
        placesIf (ends k = false) (roundPlaces places ends limit (k + 1)) := by
  ext x
  constructor
  · rintro ⟨i, ⟨hi, hbefore⟩, hx⟩
    cases i with
    | zero =>
        exact Or.inl hx
    | succ i =>
        refine Or.inr ⟨hbefore 0 (Nat.succ_pos i), i,
          ⟨Nat.lt_of_succ_lt_succ hi, fun j hj => ?_⟩, ?_⟩
        · rw [Nat.add_right_comm]
          exact hbefore (j + 1) (Nat.succ_lt_succ hj)
        · rw [Nat.add_right_comm]
          exact hx
  · rintro (hx | ⟨hgoes, i, ⟨hi, hbefore⟩, hx⟩)
    · exact ⟨0, ⟨Nat.succ_pos limit, fun j hj => absurd hj (Nat.not_lt_zero j)⟩,
        hx⟩
    · refine ⟨i + 1, ⟨Nat.succ_lt_succ hi, fun j hj => ?_⟩, ?_⟩
      · cases j with
        | zero =>
            exact hgoes
        | succ j =>
            have hnext := hbefore j (Nat.lt_of_succ_lt_succ hj)
            rw [Nat.add_right_comm] at hnext
            exact hnext
      · rw [Nat.add_right_comm] at hx
        exact hx

end Rounds

section Loop

variable {env : Environment W} {primitive : EmuM W Unit}
  {shouldTerminate : EmuM W Bool} {places : Nat -> Set Place}
  {ends : Nat -> Bool} {P : Nat -> Emulator W -> Prop}

/-- From states with `P k` a round touches its places and leads, with the
counter taken down, to `P (k + 1)`. -/
def RoundTouches (env : Environment W) (primitive : EmuM W Unit)
    (places : Nat -> Set Place) (P : Nat -> Emulator W -> Prop) : Prop :=
  forall k s, P k s -> forall (T : Set Place) (f : Unit -> EmuM W Unit),
    (forall s', s'.registers.cx = s.registers.cx ->
      P (k + 1) (s'.withCx (s'.registers.cx - 1#16)) ->
      Touches T (f () env s')) ->
    Touches (places k ∪ T) ((primitive >>= f) env s)

theorem touches_repLoop
    (h : RoundTouches env primitive places P)
    (htest : forall k s, P (k + 1) s ->
      shouldTerminate env s = ([], .ok (ends k, s)))
    (fuel k : Nat) (s : Emulator W) (hs : P k s)
    (hfuel : s.registers.cx.toNat ≤ fuel) :
    Touches (roundPlaces places ends s.registers.cx.toNat k)
      (repLoop primitive shouldTerminate fuel env s) := by
  induction fuel generalizing k s with
  | zero =>
      rw [Nat.le_zero.mp hfuel, roundPlaces_zero]
      exact touches_quiet rfl
  | succ fuel ih =>
      change Touches _ ((if s.registers.cx = 0#16 then pure () else
        primitive >>= fun _ => do
          let cx ← get .CX
          set .CX (cx - 1#16)
          let done ← shouldTerminate
          if done then pure ()
          else repLoop primitive shouldTerminate fuel) env s)
      by_cases hzero : s.registers.cx = 0#16
      · rw [if_pos hzero, hzero]
        change Touches (roundPlaces places ends 0 k) _
        rw [roundPlaces_zero]
        exact touches_quiet rfl
      · obtain ⟨limit, hlimit⟩ : exists limit,
            s.registers.cx.toNat = limit + 1 := by
          refine Nat.exists_eq_succ_of_ne_zero fun hc => hzero ?_
          exact BitVec.eq_of_toNat_eq hc
        rw [if_neg hzero, hlimit, roundPlaces_succ]
        refine h k s hs _ _ fun s' hcx hnext => ?_
        let t := s'.withCx (s'.registers.cx - 1#16)
        have ht : t.registers.cx.toNat = limit := by
          change (s'.registers.cx - 1#16).toNat = limit
          rw [hcx]
          bv_omega
        change Touches _ ((shouldTerminate >>= fun done =>
          if done then pure ()
          else repLoop primitive shouldTerminate fuel) env t)
        rw [bind_of_run (htest k t hnext)]
        cases ends k with
        | true =>
            rw [placesIf_of_not (by decide)]
            exact touches_quiet rfl
        | false =>
            rw [placesIf_of rfl, <- ht]
            exact ih (k + 1) t hnext (by omega)

/-- With a prefix the rounds of the loop are made, without one the first. -/
theorem touches_doRep {w : OperandWidth} {base : Option (BitVec 16)}
    {destination : Bool} {e : Emulator W}
    (h : RoundTouches env primitive (e.elementPlaces w base destination) P)
    (htest : e.hasRepPrefix = true -> forall k s, P (k + 1) s ->
      shouldTerminate env s = ([], .ok (ends k, s)))
    (he : P 0 e) :
    Touches (e.stringPlaces w base destination ends)
      (doRep primitive shouldTerminate env e) := by
  change Touches _ ((if !e.hasRepPrefix then primitive
    else repLoop primitive shouldTerminate (2 ^ 16)) env e)
  unfold Emulator.stringPlaces Emulator.Repeats
  cases hrep : e.hasRepPrefix with
  | true =>
      refine (touches_repLoop h (htest hrep) (2 ^ 16) 0 e he
        (Nat.le_of_lt e.registers.cx.isLt)).congr ?_
      unfold roundPlaces
      simp only [Nat.zero_add, if_true]
  | false =>
      have hfirst := h 0 e he ∅ pure fun _ _ _ => touches_quiet rfl
      rw [Set.union_empty, bind_pure] at hfirst
      refine hfirst.congr ?_
      ext x
      simp

end Loop

/-!
## The places of an element
-/

namespace Emulator

variable (s : Emulator W) (w : OperandWidth) (b : BitVec 16) (k : Nat)

theorem elementPlaces_both :
    s.elementPlaces w (some b) true k =
      {s.sourcePlace w b k, s.destinationPlace w k} := by
  ext x
  constructor
  · rintro (⟨_, hb, rfl⟩ | ⟨_, rfl⟩)
    · cases hb
      exact Or.inl rfl
    · exact Or.inr rfl
  · rintro (rfl | rfl)
    · exact Or.inl ⟨b, rfl, rfl⟩
    · exact Or.inr ⟨rfl, rfl⟩

theorem elementPlaces_source :
    s.elementPlaces w (some b) false k = {s.sourcePlace w b k} := by
  ext x
  constructor
  · rintro (⟨_, hb, rfl⟩ | ⟨h, _⟩)
    · cases hb
      rfl
    · cases h
  · rintro rfl
    exact Or.inl ⟨b, rfl, rfl⟩

theorem elementPlaces_destination :
    s.elementPlaces w none true k = {s.destinationPlace w k} := by
  ext x
  constructor
  · rintro (⟨_, hb, _⟩ | ⟨_, rfl⟩)
    · cases hb
    · rfl
  · rintro rfl
    exact Or.inr ⟨rfl, rfl⟩

theorem sourcePlace_zero :
    s.sourcePlace w b 0 =
      Place.operand w (getPhysAddr b s.registers.si.toNat) := by
  unfold sourcePlace
  rw [BitVec.zero_mul, BitVec.add_zero]

theorem destinationPlace_zero :
    s.destinationPlace w 0 =
      Place.operand w (getPhysAddr s.registers.es s.registers.di.toNat) := by
  unfold destinationPlace
  rw [BitVec.zero_mul, BitVec.add_zero]

end Emulator

section Element

variable {env : Environment W} {e : Emulator W} {w : OperandWidth}

theorem segSi_run :
    segSi env e = ([], .ok (getPhysAddr (e.registers.get e.operandSegment)
      e.registers.si.toNat, e)) := by
  rw [segSi, bind_of_run getSegment_run]
  rfl

theorem esDi_run :
    esDi env e =
      ([], .ok (getPhysAddr e.registers.es e.registers.di.toNat, e)) := rfl

/-- Take off what is left of an element after its accesses. -/
theorem touches_rest {s t : Emulator W} {m : EmuM W Unit} {T : Set Place}
    {f : Unit -> EmuM W β} (hret : Returns m env s () t)
    (hquiet : (m env s).1 = []) (hf : Touches T (f () env t)) :
    Touches T ((m >>= f) env s) := by
  refine Covers.after hret (fun a ha => ?_) hf
  rw [hquiet] at ha
  cases ha

variable (henv : env.addressing = Addressing.emulator) {T : Set Place}
include henv

/-- Take off the reading of the source element. -/
theorem touches_source {g : BitVec w.bits -> EmuM W α} {f : α -> EmuM W β}
    (hf : Touches T
      ((g (e.mem.readAt w (e.sourceAddress w 0)) >>= f) env e)) :
    Touches
      (insert (e.sourcePlace w (e.registers.get e.operandSegment) 0) T)
      (((segSi >>= fun source => readMem w source >>= g) >>= f) env e) := by
  rw [bind_assoc, bind_of_run segSi_run, bind_assoc,
    Emulator.sourcePlace_zero]
  rw [sourceAddress_zero] at hf
  exact touches_bind rfl (readMem_run henv w _ e) hf

/-- Take off the reading of the destination element. -/
theorem touches_destination {g : BitVec w.bits -> EmuM W α}
    {f : α -> EmuM W β}
    (hf : Touches T
      ((g (e.mem.readAt w (e.destinationAddress w 0)) >>= f) env e)) :
    Touches (insert (e.destinationPlace w 0) T)
      (((esDi >>= fun dest => readMem w dest >>= g) >>= f) env e) := by
  rw [bind_assoc, bind_of_run esDi_run, bind_assoc,
    Emulator.destinationPlace_zero]
  rw [destinationAddress_zero] at hf
  exact touches_bind rfl (readMem_run henv w _ e) hf

theorem touches_store {v : BitVec w.bits} {g : Unit -> EmuM W α}
    {f : α -> EmuM W β}
    (hf : Touches T ((g () >>= f) env
      (e.withMem (e.mem.writeAt w (e.destinationAddress w 0) v)))) :
    Touches (insert (e.destinationPlace w 0) T)
      (((esDi >>= fun dest => writeMem w dest v >>= g) >>= f) env e) := by
  rw [bind_assoc, bind_of_run esDi_run, bind_assoc,
    Emulator.destinationPlace_zero]
  rw [destinationAddress_zero] at hf
  exact touches_bind rfl (writeMem_run henv w _ v e) hf

/-- Take off one element step. -/
theorem touches_primitive (op : StringOp) {f : Unit -> EmuM W Unit}
    (hf : Touches T (f () env (e.element w op))) :
    Touches (e.elementPlaces w
        (if op.usesSi then some (e.registers.get e.operandSegment) else none)
        op.usesDi 0 ∪ T)
      ((op.primitive w >>= f) env e) := by
  cases op with
  | movs =>
      simp only [StringOp.usesSi, StringOp.usesDi, if_true]
      rw [Emulator.elementPlaces_both, Set.insert_union, Set.singleton_union]
      refine touches_source henv ?_
      refine touches_store henv ?_
      exact touches_rest (returns_bind.mpr
        ⟨_, _, advance_returns _ w .DI, advance_returns _ w .SI⟩) rfl hf
  | stos =>
      simp only [StringOp.usesSi, StringOp.usesDi, Bool.false_eq_true,
        if_false]
      rw [Emulator.elementPlaces_destination, Set.singleton_union]
      cases w with
      | OP_WIDTH_8 =>
          let v := e.accumulator .OP_WIDTH_8
          change Touches _ (((esDi >>= fun dest =>
            writeMem .OP_WIDTH_8 dest v >>= fun _ => do
              set .AL (e.registers.get .AL)
              advance .OP_WIDTH_8 .DI) >>= f) env e)
          refine touches_store henv (v := v) ?_
          exact touches_rest (writeBack_returns (e.withMem _)) rfl hf
      | OP_WIDTH_16 =>
          let v := e.accumulator .OP_WIDTH_16
          change Touches _ (((esDi >>= fun dest =>
            writeMem .OP_WIDTH_16 dest v >>= fun _ =>
              advance .OP_WIDTH_16 .DI) >>= f) env e)
          refine touches_store henv (v := v) ?_
          exact touches_rest (advance_returns _ .OP_WIDTH_16 .DI) rfl hf
  | lods =>
      simp only [StringOp.usesSi, StringOp.usesDi, if_true]
      rw [Emulator.elementPlaces_source, Set.singleton_union]
      refine touches_source henv ?_
      exact touches_rest (returns_bind.mpr
        ⟨_, _, rfl, advance_returns _ w .SI⟩) rfl hf
  | cmps =>
      simp only [StringOp.usesSi, StringOp.usesDi, if_true]
      rw [Emulator.elementPlaces_both, Set.insert_union, Set.singleton_union]
      refine touches_source henv ?_
      refine touches_destination henv ?_
      exact touches_rest (returns_bind.mpr
        ⟨_, _, compareFlags_returns e _ _, returns_bind.mpr
          ⟨_, _, advance_returns _ w .DI, advance_returns _ w .SI⟩⟩)
        (idles_quiet inferInstance _) hf
  | scas =>
      simp only [StringOp.usesSi, StringOp.usesDi, Bool.false_eq_true,
        if_false]
      rw [Emulator.elementPlaces_destination, Set.singleton_union]
      refine touches_destination henv ?_
      exact touches_rest (returns_bind.mpr
        ⟨_, _, rfl, returns_bind.mpr ⟨_, _, compareFlags_returns e _ _,
          advance_returns _ w .DI⟩⟩)
        (idles_quiet inferInstance _) hf

end Element

/-!
## Memory to memory
-/

section Instruction

variable {env : Environment W} (henv : env.addressing = Addressing.emulator)
  {e : Emulator W} {w : OperandWidth}
include henv

omit henv in
theorem shouldTerminate_run (op : StringOp) (s : Emulator W) :
    op.shouldTerminate env s = ([], .ok (s.done op, s)) := by
  have hquiet : (op.shouldTerminate env s).1 = [] := by
    unfold StringOp.shouldTerminate
    split <;> rfl
  exact Prod.ext hquiet (shouldTerminate_returns op s)

omit henv in
/-- The elements of a round are those of the step with its number. -/
theorem elementPlaces_round (op : StringOp)
    (hseg : e.operandSegment.isSegment = true) (k : Nat) :
    let s := (Emulator.round fun s => s.element w op)^[k] e
    s.elementPlaces w
        (if op.usesSi then some (s.registers.get s.operandSegment) else none)
        op.usesDi 0 =
      e.elementPlaces w
        (if op.usesSi then some (e.registers.get e.operandSegment) else none)
        op.usesDi k := by
  have hrest := sameRest_round (w := w) op hseg k
  have hsi := round_si (w := w) op hseg k
  have hdi := round_di (w := w) op hseg k
  generalize (Emulator.round fun s => s.element w op)^[k] e = s at hrest hsi hdi
  have hbase : s.registers.get s.operandSegment =
      e.registers.get e.operandSegment := by
    rw [hrest.operandSegment]
    apply hrest.get
    revert hseg
    generalize e.operandSegment = x
    cases x <;> decide
  have hes : s.registers.es = e.registers.es := hrest.get .ES (by decide)
  dsimp only
  rw [hbase]
  ext x
  unfold Emulator.elementPlaces
  rw [Set.mem_ofPred_eq, Set.mem_ofPred_eq]
  refine or_congr (exists_congr fun b => and_congr_right fun hb => ?_)
    (and_congr_right fun hop => ?_)
  · have hop : op.usesSi = true := by
      by_contra hno
      rw [if_neg hno] at hb
      cases hb
    rw [s.sourcePlace_zero, hsi, if_pos hop]
    rfl
  · rw [s.destinationPlace_zero, hdi, if_pos hop, hes]
    rfl

theorem touches_string (op : StringOp)
    (hseg : e.operandSegment.isSegment = true) :
    Touches (Footprint.string op w env e)
      (doRep (op.primitive w) op.shouldTerminate env e) := by
  refine touches_doRep
    (P := fun k s => s = (Emulator.round fun s => s.element w op)^[k] e)
    ?_ ?_ rfl
  · intro k s hs T f hf
    have hplaces := elementPlaces_round (w := w) op hseg k
    rw [<- hs] at hplaces
    rw [<- hplaces]
    refine touches_primitive henv op (hf _ (Emulator.element_cx op s) ?_)
    dsimp only
    rw [Function.iterate_succ_apply', <- hs]
    rfl
  · intro hrep k s hs
    rw [shouldTerminate_run, hs, Emulator.round_iterate op hseg,
      Emulator.done_elements hseg hrep]

end Instruction

/-!
## Memory and ports
-/

section Ports

variable {env : Environment W} {e s : Emulator W} {w : OperandWidth}

/-- Devices leave the registers and the memory alone. -/
theorem device_run (env : Environment W) (s : Emulator W) (addr : BitVec 16)
    (absent : α)
    (call : IOPorts W -> BitVec 16 -> W -> α × W × Raised) :
    exists v s', device addr absent call env s = ([], .ok (v, s')) ∧
      s'.registers = s.registers := by
  unfold device
  dsimp only
  cases env.io (addr &&& ~~~1#16) with
  | none =>
      exact ⟨absent, s, rfl, rfl⟩
  | some p =>
      exact ⟨_, _, rfl, rfl⟩

theorem readIo_run (env : Environment W) (s : Emulator W) (port : BitVec 16) :
    exists v s', readIo w port env s = ([], .ok (v, s')) ∧
      s'.registers = s.registers := by
  cases w <;> exact device_run env s port _ _

theorem writeIo_run (env : Environment W) (s : Emulator W) (port : BitVec 16)
    (v : BitVec w.bits) :
    exists s', writeIo w port v env s = ([], .ok ((), s')) ∧
      s'.registers = s.registers := by
  cases w with
  | OP_WIDTH_8 =>
      obtain ⟨_, s', hrun, hregs⟩ := device_run env s port ()
        fun p port' w => ((), p.write8 port' (lane port) v w)
      exact ⟨s', hrun, hregs⟩
  | OP_WIDTH_16 =>
      obtain ⟨_, s', hrun, hregs⟩ := device_run env s port ()
        fun p port' w => ((), p.write16 port' v w)
      exact ⟨s', hrun, hregs⟩

/-- An index register has moved on by a number of elements. -/
structure MovedOn (w : OperandWidth) (x : GPR) (e : Emulator W) (k : Nat)
    (s : Emulator W) : Prop where
  index : s.registers.get x =
    e.registers.get x + BitVec.ofNat 16 k * e.registers.stride w
  es : s.registers.es = e.registers.es
  ds : s.registers.ds = e.registers.ds
  flags : s.registers.flags = e.registers.flags

theorem movedOn_zero (x : GPR) : MovedOn w x e 0 e := by
  refine ⟨?_, rfl, rfl, rfl⟩
  rw [BitVec.zero_mul, BitVec.add_zero]

/-- One element more, and the counter. -/
theorem MovedOn.succ {x : GPR} {k : Nat} {t : Emulator W}
    (hx : x ∈ [GPR.SI, .DI]) (h : MovedOn w x e k s)
    (ht : t.registers = s.registers) (v : BitVec 16) :
    MovedOn w x e (k + 1) ((t.advanced w x).withCx v) := by
  have hstride : s.registers.stride w = e.registers.stride w := by
    unfold RegisterFile.stride RegisterFile.getFlag
    rw [h.flags]
  have hindex : s.registers.get x + s.registers.stride w =
      e.registers.get x + BitVec.ofNat 16 (k + 1) * e.registers.stride w := by
    rw [hstride, h.index]
    exact Emulator.add_stride _ _ k
  simp only [List.mem_cons, List.not_mem_nil, or_false] at hx
  unfold Emulator.advanced Emulator.withCx
  rw [ht]
  rcases hx with rfl | rfl
  · exact ⟨hindex, h.es, h.ds, h.flags⟩
  · exact ⟨hindex, h.es, h.ds, h.flags⟩

variable (henv : env.addressing = Addressing.emulator)
include henv

theorem touches_ins :
    Touches (Footprint.insString w env e) (doRep (ins w) (pure false) env e) := by
  refine touches_doRep (P := MovedOn w .DI e) ?_ (fun _ _ _ _ => rfl)
    (movedOn_zero .DI)
  intro k s hs T f hf
  obtain ⟨v, s', hread, hregs⟩ :=
    readIo_run (w := w) env s s.registers.dx
  have hplace : e.destinationPlace w k = s'.destinationPlace w 0 := by
    rw [s'.destinationPlace_zero, hregs, hs.es]
    exact congrArg (fun x : BitVec 16 =>
      Place.operand w (getPhysAddr e.registers.es x.toNat)) hs.index.symm
  rw [Emulator.elementPlaces_destination, hplace, Set.singleton_union]
  change Touches _ (((readIo w s.registers.dx >>= fun v => esDi >>= fun dest =>
    writeMem w dest v >>= fun _ => advance w .DI) >>= f) env s)
  rw [bind_assoc, bind_of_run hread]
  refine touches_store henv ?_
  generalize s'.mem.writeAt w _ v = mem
  have hmoved : (s'.withMem mem).registers = s.registers := hregs
  have hcx : ((s'.withMem mem).advanced w .DI).registers.cx =
      s.registers.cx := by
    rw [<- hregs]
    rfl
  exact touches_rest (advance_returns _ w .DI) rfl
    (hf _ hcx (hs.succ (by decide) hmoved _))

theorem touches_outs :
    Touches (Footprint.outsString w env e)
      (doRep (outs w) (pure false) env e) := by
  refine touches_doRep (P := MovedOn w .SI e) ?_ (fun _ _ _ _ => rfl)
    (movedOn_zero .SI)
  intro k s hs T f hf
  have hplace : e.sourcePlace w e.registers.ds k =
      s.sourcePlace w s.registers.ds 0 := by
    rw [s.sourcePlace_zero, hs.ds]
    exact congrArg (fun x : BitVec 16 =>
      Place.operand w (getPhysAddr e.registers.ds x.toNat)) hs.index.symm
  rw [Emulator.elementPlaces_source, hplace, Set.singleton_union,
    s.sourcePlace_zero]
  change Touches _ (((readMem w (getPhysAddr s.registers.ds
    s.registers.si.toNat) >>= fun v => get .DX >>= fun port =>
      writeIo w port v >>= fun _ => advance w .SI) >>= f) env s)
  rw [bind_assoc]
  refine touches_bind rfl (readMem_run henv w _ s) ?_
  generalize s.mem.readAt w _ = v
  obtain ⟨s', hwrite, hregs⟩ := writeIo_run env s s.registers.dx v
  change Touches _ (((writeIo w s.registers.dx v >>= fun _ =>
    advance w .SI) >>= f) env s)
  rw [bind_assoc, bind_of_run hwrite]
  have hcx : (s'.advanced w .SI).registers.cx = s.registers.cx := by
    rw [<- hregs]
    rfl
  exact touches_rest (advance_returns _ w .SI) rfl
    (hf _ hcx (hs.succ (by decide) hregs _))

end Ports

end Sim
end S80x86
