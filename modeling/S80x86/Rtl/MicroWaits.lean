import S80x86.Rtl.Micro

/-!
# What a microinstruction writes while it waits

The registers of the datapath are written in every cycle, also in those in
which the microinstruction waits for the memory or the divider.  Of the words
of the store that wait, none reads back what it has written so: the last cycle
writes what it would have written after no wait at all.
-/

namespace S80x86
namespace Rtl

open Rtl.Flag

namespace Gprs

theorem name_inj : forall w r : BitVec 3,
    (w = r ↔ 0#1 ++ r.extractLsb' 0 2 = 0#1 ++ w.extractLsb' 0 2 ∧
      w.getLsbD 2 = r.getLsbD 2) := by
  decide

theorem read_write (g : Gprs) (is8Bit : Bool) (w r : BitVec 3)
    (v : BitVec 16) :
    (g.write is8Bit w v).read is8Bit r =
      if w = r then
        if is8Bit then (v.extractLsb' 0 8).setWidth 16 else v
      else g.read is8Bit r := by
  cases is8Bit with
  | false =>
      by_cases h : w = r
      · simp [read, write, set, h]
      · have h' : ¬r = w := fun heq => h heq.symm
        simp [read, write, set, h, h']
  | true =>
      rw [ite_congr (propext (name_inj w r)) (fun _ => rfl) (fun _ => rfl)]
      unfold read write set
      by_cases hn : 0#1 ++ r.extractLsb' 0 2 = 0#1 ++ w.extractLsb' 0 2
      · cases hw : w.getLsbD 2 <;> cases hr : r.getLsbD 2 <;> simp [hn]
      · cases hw : w.getLsbD 2 <;> simp [hn]

theorem set_set (g : Gprs) (n : BitVec 3) (v v' : BitVec 16) :
    (g.set n v).set n v' = g.set n v' := by
  funext k
  by_cases h : k = n <;> simp [set, h]

/-- Of two writes to one place the second stays. -/
theorem write_write (g : Gprs) (is8Bit : Bool) (w : BitVec 3)
    (v v' : BitVec 16) :
    (g.write is8Bit w v).write is8Bit w v' = g.write is8Bit w v' := by
  cases is8Bit with
  | false =>
      exact set_set g w v v'
  | true =>
      unfold write
      cases hw : w.getLsbD 2 <;> simp [set_set] <;> simp [set]

end Gprs

namespace ALU
theorem doSub_flags (is8Bit : Bool) (a b v v' : BitVec 16) {k : Nat}
    (hk : k ∈ [CF_IDX, PF_IDX, AF_IDX, ZF_IDX, SF_IDX, OF_IDX]) :
    (doSub is8Bit a b v).2.getLsbD k = (doSub is8Bit a b v').2.getLsbD k := by
  have hlt : k < 16 := by
    revert k
    decide
  unfold doSub commonFlags
  rcases carryAndOut is8Bit (a.setWidth 17 - b.setWidth 17) a b with ⟨c, out⟩
  simp only [getLsbD_setFlag hlt]
  simp only [List.mem_cons, List.not_mem_nil, or_false] at hk
  rcases hk with rfl | rfl | rfl | rfl | rfl | rfl <;> rfl
end ALU
/-!
## Writes that are made again
-/

theorem Flags.step_nil (v : BitVec 16) (f : Flags) : Flags.step [] v f = f :=
  rfl

theorem Flags.step_step (us : List UpdateFlags) (v v' : BitVec 16)
    (f : Flags) : Flags.step us v' (Flags.step us v f) = Flags.step us v' f := by
  have hlatch : forall (c : Bool) (x y z : Bool),
      (if c = true then x else if c = true then y else z) =
        if c = true then x else z := by
    decide
  simp only [Flags.step, hlatch]

namespace Machine

variable (u : Microinstruction) (m : Machine)

/-- Values that `u` writes while it waits. -/
structure Scribble where
  reg : BitVec 16
  flags : BitVec 16
  tmp : BitVec 16

def scribbledGprs (v : BitVec 16) : Gprs :=
  if u.regWrEn then m.gprs.write (m.is8Bit u) (m.regWrSel u) v else m.gprs

/-- The machine after some cycles of a wait. -/
def scribbled (c : Scribble) : Machine :=
  { m with
    gprs := m.scribbledGprs u c.reg
    ra := (m.scribbledGprs u c.reg).read (m.is8Bit u) (m.raSel u)
    rb := (m.scribbledGprs u c.reg).read (m.is8Bit u) (m.rbSel u)
    sr := m.segments (m.srSel u)
    flags := Flags.step u.updateFlags c.flags m.flags
    tmp := TempReg.step u.tmpWrEn c.tmp m.tmp
    newIp := m.loadedIp u }

/-- What the cycle in `m` would write. -/
def writes : Scribble :=
  { reg := m.regWrVal u
    flags := (m.alu u).flagsOut
    tmp :=
      match u.tmpWrSel with
      | .Q_LOW => m.aluOut u
      | .Q_HIGH => (m.alu u).out.extractLsb' 16 16 }

theorem edge_eq_scribbled (hseg : u.segmentWrEn = false)
    (hmdr : u.mdrWrite = false) :
    { m.edge u with newIp := m.loadedIp u } = m.scribbled u (m.writes u) := by
  unfold edge scribbled
  simp only [nextSegments, hseg, hmdr]
  rfl

/-- The first instruction pointer that is loaded stays. -/
theorem loadedIp_scribbled (c : Scribble) :
    (m.scribbled u c).loadedIp u = m.loadedIp u := by
  show Option.or (m.loadedIp u) _ = _
  unfold loadedIp
  cases m.newIp <;> cases u.loadIp <;> rfl

theorem scribbled_scribbled (c d : Scribble) :
    (m.scribbled u c).scribbled u d = m.scribbled u d := by
  have hgprs : (m.scribbled u c).scribbledGprs u d.reg =
      m.scribbledGprs u d.reg := by
    unfold scribbledGprs
    cases hw : u.regWrEn with
    | false =>
        simp [scribbled, scribbledGprs, hw]
    | true =>
        have hgprs' : (m.scribbled u c).gprs =
            m.gprs.write (m.is8Bit u) (m.regWrSel u) c.reg := by
          simp [scribbled, scribbledGprs, hw]
        rw [hgprs']
        exact Gprs.write_write _ _ _ _ _
  have hflags : Flags.step u.updateFlags d.flags (m.scribbled u c).flags =
      Flags.step u.updateFlags d.flags m.flags :=
    Flags.step_step _ _ _ _
  have htmp : TempReg.step u.tmpWrEn d.tmp (m.scribbled u c).tmp =
      TempReg.step u.tmpWrEn d.tmp m.tmp := by
    show TempReg.step _ _ (TempReg.step _ _ _) = _
    unfold TempReg.step
    cases u.tmpWrEn <;> rfl
  conv_lhs =>
    rw [scribbled, hgprs, loadedIp_scribbled, hflags, htmp]
  rfl

/-!
## The last cycle of a wait
-/

/-- The flags of a difference do not depend on the flags before it. -/
theorem step_doSub {us : List UpdateFlags}
    (hus : us.all Microinstruction.arithmeticFlags.contains = true)
    (is8Bit : Bool) (a b v v' : BitVec 16) (f : Flags) :
    Flags.step us (ALU.doSub is8Bit a b v).2 f =
      Flags.step us (ALU.doSub is8Bit a b v').2 f := by
  have hno : forall u, u ∉ Microinstruction.arithmeticFlags ->
      us.contains u = false := by
    intro u hu
    rw [<- Bool.not_eq_true]
    intro hin
    have hmem := List.all_eq_true.mp hus u (List.contains_iff_mem.mp hin)
    exact hu (List.contains_iff_mem.mp hmem)
  have hbit := fun k => ALU.doSub_flags is8Bit a b v v' (k := k)
  simp only [Flags.step, hno .TF (by decide), hno .IF (by decide),
    hno .DF (by decide), hbit CF_IDX (by decide), hbit PF_IDX (by decide),
    hbit AF_IDX (by decide), hbit ZF_IDX (by decide), hbit SF_IDX (by decide),
    hbit OF_IDX (by decide)]
  rfl

structure Steady (u : Microinstruction) : Prop where
  alone : u.divide = true -> u.memRead = false ∧ u.memWrite = false
  mdr : u.mdrWrite = false
  segment : u.segmentWrEn = false
  jump : u.jumpType = .UNCONDITIONAL ∨ u.jumpType = .HAS_NO_REP_PREFIX ∨
    u.jumpType = .LOOP_DONE
  writes : u.isSilent = true ∨ u.writesRegister = true ∨ u.writesTmp = true ∨
    u.writesFlags = true
  ip : u.loadIp = true -> u.aSel = .IP ∧ u.bSel = .IMMEDIATE ∧ u.aluOp = .ADD

variable {u m}

theorem steady (hu : u.isSteady = true) (hw : u.waits = true) : Steady u := by
  unfold Microinstruction.isSteady at hu
  simp only [hw, if_true, Bool.and_eq_true, Bool.or_eq_true, Bool.not_eq_true',
    beq_iff_eq] at hu
  rcases hu with ⟨⟨⟨⟨⟨halone, hmdr⟩, hseg⟩, hjump⟩, hwrites⟩, hip⟩
  refine ⟨?_, hmdr, hseg, ?_, ?_, ?_⟩
  · intro hdiv
    simpa [hdiv] using halone
  · rcases hjump with (h | h) | h
    · exact Or.inl h
    · exact Or.inr (Or.inl h)
    · exact Or.inr (Or.inr h)
  · rcases hwrites with ((h | h) | h) | h
    · exact Or.inl h
    · exact Or.inr (Or.inl h)
    · exact Or.inr (Or.inr (Or.inl h))
    · exact Or.inr (Or.inr (Or.inr h))
  · intro hload
    rcases hip with h | h
    · rw [hload] at h
      cases h
    · exact ⟨h.left.left.left, h.left.left.right, h.left.right⟩

theorem Steady.notShift (h : Steady u) : u.isShift = false := by
  rcases h.writes with hs | hs | hs | hs
  · simp only [Microinstruction.isSilent, Bool.and_eq_true,
      Bool.not_eq_true'] at hs
    exact hs.right
  · simp only [Microinstruction.writesRegister, Bool.and_eq_true,
      Bool.or_eq_true, beq_iff_eq] at hs
    rcases hs.right with hop | ⟨hop | hop, _⟩ <;>
      simp [Microinstruction.isShift, hop]
  · simp only [Microinstruction.writesTmp, Bool.and_eq_true, Bool.or_eq_true,
      beq_iff_eq] at hs
    rcases hs.right with hop | hop <;> simp [Microinstruction.isShift, hop]
  · simp only [Microinstruction.writesFlags, Bool.and_eq_true, Bool.or_eq_true,
      beq_iff_eq] at hs
    rcases hs.right with hop | ⟨hop, _⟩ <;> simp [Microinstruction.isShift, hop]

theorem busy_eq_false (h : u.isShift = false) (m : Machine) :
    (m.alu u).busy = false := by
  simp only [Microinstruction.isShift, Bool.or_eq_false_iff, beq_eq_false_iff_ne]
    at h
  unfold Machine.alu ALU.run
  cases hop : u.aluOp with
  | NEXT =>
      dsimp only
      split <;> rfl
  | _ =>
      first
      | rfl
      | simp [hop] at h

/-- In the last cycle of a wait the unit puts out the same, whatever was
written before. -/
theorem Steady.alu (h : Steady u) (c : Scribble) :
    ((m.scribbled u c).alu u).out = ((m.waited u).alu u).out ∧
      Flags.step u.updateFlags ((m.scribbled u c).alu u).flagsOut
          (m.scribbled u c).flags =
        Flags.step u.updateFlags ((m.waited u).alu u).flagsOut
          (m.waited u).flags := by
  rcases h.writes with hs | hs | hs | hs
  · simp only [Microinstruction.isSilent, Bool.and_eq_true, Bool.not_eq_true',
      List.isEmpty_iff] at hs
    have halu : (m.scribbled u c).alu u = (m.waited u).alu u := by
      simp [Machine.alu, aBus, bBus, scribbled, waited, scribbledGprs,
        TempReg.step, hs, Flags.step_nil]
      rfl
    rw [halu]
    simp [hs, Flags.step_nil, scribbled, waited]
  · simp only [Microinstruction.writesRegister, Bool.and_eq_true,
      Bool.or_eq_true, Bool.not_eq_true', List.isEmpty_iff, beq_iff_eq,
      bne_iff_ne] at hs
    rcases hs with ⟨⟨⟨⟨hq, htmp⟩, hflags⟩, ha⟩, hop⟩
    have hbus : (m.scribbled u c).aBus u = (m.waited u).aBus u := by
      unfold aBus
      cases hsel : u.aSel with
      | RA =>
          exact absurd hsel ha
      | IP =>
          rfl
      | MAR =>
          rfl
      | MDR =>
          rfl
    refine ⟨?_, ?_⟩
    · rcases hop with hop | ⟨hop, hb⟩
      · simp only [Machine.alu, hop, ALU.run, hbus]
        rfl
      · have hbus' : (m.scribbled u c).bBus u = (m.waited u).bBus u := by
          simp only [bBus, hb]
          rfl
        have hf : (m.scribbled u c).flags = (m.waited u).flags := by
          simp [scribbled, waited, hflags, Flags.step_nil]
        rcases hop with hop | hop
        · simp only [Machine.alu, hop, ALU.run, hbus, hbus', hf]
          rfl
        · simp only [Machine.alu, hop, ALU.run, hbus, hbus', hf]
          rfl
    · rw [hflags, Flags.step_nil, Flags.step_nil]
      simp [scribbled, waited, hflags, Flags.step_nil]
  · simp only [Microinstruction.writesTmp, Bool.and_eq_true,
      Bool.or_eq_true, Bool.not_eq_true', List.isEmpty_iff, beq_iff_eq] at hs
    rcases hs with ⟨⟨hreg, hflags⟩, hop⟩
    have hbus : (m.scribbled u c).aBus u = (m.waited u).aBus u := by
      simp only [aBus, scribbled, scribbledGprs, hreg]
      rfl
    have hf : (m.scribbled u c).flags = (m.waited u).flags := by
      simp [scribbled, waited, hflags, Flags.step_nil]
    refine ⟨?_, ?_⟩
    · rcases hop with hop | hop
      · simp only [Machine.alu, hop, ALU.run, hbus]
        rfl
      · simp only [Machine.alu, hop, ALU.run, hf]
    · rw [hflags, Flags.step_nil, Flags.step_nil]
      exact hf
  · simp only [Microinstruction.writesFlags, Bool.and_eq_true,
      Bool.or_eq_true, Bool.not_eq_true', beq_iff_eq] at hs
    rcases hs with ⟨⟨hreg, htmp⟩, hop⟩
    have hbus : (m.scribbled u c).aBus u = (m.waited u).aBus u := by
      simp only [aBus, scribbled, scribbledGprs, hreg]
      rfl
    have hbus' : (m.scribbled u c).bBus u = (m.waited u).bBus u := by
      simp only [bBus, scribbled, scribbledGprs, hreg,
        TempReg.step, htmp]
      rfl
    rcases hop with hop | ⟨hop, hall⟩
    · simp only [Machine.alu, hop, ALU.run, hbus]
      exact ⟨trivial, Flags.step_step _ _ _ _⟩
    · simp only [Machine.alu, hop, ALU.run, hbus, hbus']
      refine ⟨rfl, ?_⟩
      show Flags.step _ (ALU.doSub _ _ _ _).2 (Flags.step _ _ _) = _
      rw [Flags.step_step]
      exact step_doSub hall _ _ _ _ _ _

theorem Steady.loadedIp (h : Steady u) :
    (m.waited u).loadedIp u = m.loadedIp u := by
  unfold Machine.loadedIp
  cases hload : u.loadIp with
  | false =>
      rfl
  | true =>
      rcases h.ip hload with ⟨ha, hb, hop⟩
      simp only [aluOut, Machine.alu, aBus, bBus, ha, hb, hop, ALU.run]
      rfl

theorem Steady.nextGprs (h : Steady u) (c : Scribble) :
    (m.scribbled u c).nextGprs u = (m.waited u).nextGprs u := by
  have hval : (m.scribbled u c).regWrVal u = (m.waited u).regWrVal u := by
    unfold regWrVal aluOut
    rw [(h.alu c).left]
    rfl
  unfold Machine.nextGprs
  rw [hval]
  cases hreg : u.regWrEn with
  | false =>
      simp [scribbled, scribbledGprs, hreg, waited]
  | true =>
      have hgprs : (m.scribbled u c).gprs =
          m.gprs.write (m.is8Bit u) (m.regWrSel u) c.reg := by
        simp [scribbled, scribbledGprs, hreg]
      rw [hgprs]
      exact Gprs.write_write _ _ _ _ _

theorem Steady.edge (h : Steady u) (c : Scribble) :
    { (m.scribbled u c).edge u with newIp := none } =
      { (m.waited u).edge u with newIp := none } := by
  have htmp : ((m.scribbled u c).edge u).tmp =
      ((m.waited u).edge u).tmp := by
    simp only [Machine.edge, aluOut, (h.alu c).left]
    cases hw : u.tmpWrEn with
    | false =>
        simp [TempReg.step, scribbled, waited, hw]
    | true =>
        rfl
  have hsplit : forall x : Machine,
      ({ x.edge u with newIp := none } : Machine) =
      { x with
        gprs := x.nextGprs u
        ra := (x.nextGprs u).read (x.is8Bit u) (x.raSel u)
        rb := (x.nextGprs u).read (x.is8Bit u) (x.rbSel u)
        sr := x.segments (x.srSel u)
        flags := Flags.step u.updateFlags (x.alu u).flagsOut x.flags
        tmp := (x.edge u).tmp
        newIp := none } := by
    intro x
    simp only [Machine.edge, nextSegments, h.segment, h.mdr]
    rfl
  rw [hsplit, hsplit, h.nextGprs, htmp, (h.alu c).right]
  rfl

/-- What the MAR holds after the word. -/
def loadedMar (m : Machine) (u : Microinstruction) : BitVec 16 :=
  if u.marWrite then
    match u.marWrSel with
    | .EA => m.modrm.effectiveAddress
    | .Q => m.aluOut u
  else m.mar

theorem Steady.advance (h : Steady u) (c : Scribble) :
    (m.scribbled u c).advance u = (m.waited u).advance u := by
  have hip : (m.scribbled u c).loadedIp u = (m.waited u).loadedIp u := by
    rw [loadedIp_scribbled, h.loadedIp]
  have hout : (m.scribbled u c).aluOut u = (m.waited u).aluOut u := by
    unfold aluOut
    rw [(h.alu c).left]
  have hsplit : forall x : Machine, x.advance u =
      { ({ x.edge u with newIp := none } : Machine) with
        mar := x.loadedMar u
        newIp := x.loadedIp u
        count :=
          LoopCounter.step false (u.jumpType == .LOOP_DONE) 0#5 x.count
        divideError := false } :=
    fun x => rfl
  have hmar : (m.scribbled u c).loadedMar u = (m.waited u).loadedMar u := by
    unfold loadedMar
    rw [hout]
    rfl
  rw [hsplit, hsplit, h.edge, hip, hmar]
  rfl

theorem Steady.retire (h : Steady u) (c : Scribble) :
    (m.scribbled u c).retire u = (m.waited u).retire u := by
  have hip : (m.scribbled u c).loadedIp u = (m.waited u).loadedIp u := by
    rw [loadedIp_scribbled, h.loadedIp]
  have hsplit : forall x : Machine, x.retire u =
      let m' : Machine := { x.edge u with newIp := none }
      { gprs := m'.gprs
        segments := m'.segments
        flags := m'.flags
        ip := (x.loadedIp u).getD x.ip
        mem := m'.mem } :=
    fun x => rfl
  rw [hsplit, hsplit, h.edge, hip]
  rfl

theorem Steady.target (h : Steady u) (c : Scribble) (addr : Nat) :
    (m.scribbled u c).target u addr = (m.waited u).target u addr := by
  unfold Machine.target
  rcases h.jump with hj | hj | hj <;> rw [hj] <;> rfl

/-- The machine before the wait for `m`, or after some of its cycles. -/
def Held (u : Microinstruction) (m x : Machine) : Prop :=
  x = m ∨ exists c, x = m.scribbled u c

theorem Held.edge {x : Machine} (h : Held u m x) (hs : Steady u) :
    { x.edge u with newIp := x.loadedIp u } = m.scribbled u (x.writes u) := by
  rw [edge_eq_scribbled u x hs.segment hs.mdr]
  rcases h with heq | ⟨c, heq⟩
  · rw [heq]
  · rw [heq, scribbled_scribbled]

/-- The results of a transfer or a division do not change what is written
meanwhile. -/
theorem Steady.scribbled_with (h : Steady u) (c : Scribble) (d q : BitVec 16)
    (P : BitVec 64) (e : Bool) (mem : Memory) :
    ({ m with mdr := d, quotient := q, P := P, divideError := e, mem := mem } :
        Machine).scribbled u c =
      { m.scribbled u c with
        mdr := d, quotient := q, P := P, divideError := e, mem := mem } := by
  have hip : ({ m with
      mdr := d, quotient := q, P := P, divideError := e, mem := mem } :
        Machine).loadedIp u = m.loadedIp u := by
    unfold Machine.loadedIp
    cases hload : u.loadIp with
    | false =>
        rfl
    | true =>
        rcases h.ip hload with ⟨ha, hb, hop⟩
        simp only [aluOut, Machine.alu, aBus, bBus, ha, hb, hop, ALU.run]
        rfl
  conv_lhs =>
    rw [scribbled, hip]
  rfl

end Machine
end Rtl
end S80x86
