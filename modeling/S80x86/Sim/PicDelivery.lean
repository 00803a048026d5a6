import S80x86.Sim.Pic
import S80x86.Sim.Keeps
import Mathlib.Order.WellFounded

/-!
# Requests that reach the processor

The controller hands a request to the processor once, when a device raises a
line, and the processor keeps it in a single slot.  The slot follows the
registers of the controller through requests, masks, acknowledgements and
those ends of interrupts that leave nothing waiting; an end that lets a
waiting request through does not hand it over.
-/

open Foundation

namespace S80x86
namespace Sim

open Foundation.Effect

variable {W : Type}

namespace Pic

theorem lines_sorted : lines.Pairwise (· < ·) := by decide

theorem mem_lines (k : Line) : k ∈ lines := List.mem_finRange k

theorem getLsbD_bit (n : Line) (k : Line) :
    (bit n.val).getLsbD k = decide (k = n) := by
  revert n k
  decide

/-- A request with priority over every line in service. -/
def Outranks (p : Pic) (k : Line) : Prop :=
  p.irr.getLsbD k = true ∧ forall j : Line, p.isr.getLsbD j = true -> k < j

/-- The highest request with priority over every line in service. -/
def Highest (p : Pic) (k : Line) : Prop :=
  p.Outranks k ∧ forall j, p.Outranks j -> k ≤ j

instance (p : Pic) (k : Line) : Decidable (p.Outranks k) :=
  inferInstanceAs (Decidable (_ ∧ _))

instance (p : Pic) (k : Line) : Decidable (p.Highest k) :=
  inferInstanceAs (Decidable (_ ∧ _))

theorem deliverable_eq_some_iff {p : Pic} {k : Line} :
    p.deliverable = some k ↔ p.Highest k := by
  unfold deliverable
  rw [Priority.scan_eq_some_iff lines_sorted]
  constructor
  · rintro ⟨_, hready, hfree⟩
    have hrank : p.Outranks k := by
      refine ⟨hready, fun j hj => ?_⟩
      by_contra hle
      have hblocked := (hfree j (mem_lines j) (not_lt.mp hle)).1
      rw [hj] at hblocked
      cases hblocked
    refine ⟨hrank, fun j hj => ?_⟩
    by_contra hlt
    have hidle := (hfree j (mem_lines j) (le_of_lt (not_le.mp hlt))).2
      (not_le.mp hlt)
    rw [hj.1] at hidle
    cases hidle
  · rintro ⟨⟨hready, hservice⟩, hleast⟩
    refine ⟨mem_lines k, hready, fun j _ hjk => ⟨?_, fun hlt => ?_⟩⟩
    · cases hj : p.isr.getLsbD j with
      | false =>
          rfl
      | true =>
          exact absurd (hservice j hj) (not_lt.mpr hjk)
    · cases hj : p.irr.getLsbD j with
      | false =>
          rfl
      | true =>
          have hrank : p.Outranks j :=
            ⟨hj, fun i hi => lt_trans hlt (hservice i hi)⟩
          exact absurd hlt (not_lt.mpr (hleast j hrank))

theorem deliverable_eq_none_iff {p : Pic} :
    p.deliverable = none ↔ forall k, ¬p.Outranks k := by
  constructor
  · intro hnone k hk
    -- the least outranking request would be delivered
    rcases wellFounded_lt.has_min {k | p.Outranks k} ⟨k, hk⟩ with
      ⟨j, hj, hleast⟩
    have hhigh : p.Highest j := ⟨hj, fun i hi => not_lt.mp (hleast i hi)⟩
    rw [deliverable_eq_some_iff.mpr hhigh] at hnone
    cases hnone
  · intro h
    cases hd : p.deliverable with
    | none =>
        rfl
    | some k =>
        exact absurd (deliverable_eq_some_iff.mp hd).1 (h k)

/-!
## Ends of interrupts
-/

/-- The line an operation word retires, if it is an end of interrupt. -/
def ended (v : BitVec 8) (p : Pic) : Option Line :=
  if v >>> 5 = 1#8 then lines.find? fun k : Line => p.isr.getLsbD k
  else if v >>> 5 = 3#8 then
    some ⟨(v &&& 0x7#8).toNat, by
      have h : (v &&& 0x7#8).toNat ≤ 7 := by
        rw [BitVec.toNat_and]
        exact Nat.and_le_right
      omega⟩
  else none

theorem ocw2_eq (v : BitVec 8) (p : Pic) :
    p.ocw2 v =
      match p.ended v with
      | some n => { p with isr := p.isr &&& ~~~bit n.val }
      | none => p := by
  unfold ocw2 ended
  split
  · cases lines.find? fun k : Line => p.isr.getLsbD k <;> rfl
  · split <;> rfl

theorem getLsbD_retire (isr : BitVec 8) (n k : Line) :
    (isr &&& ~~~bit n.val).getLsbD k =
      (isr.getLsbD k && decide (k ≠ n)) := by
  rw [BitVec.getLsbD_and, BitVec.getLsbD_not, getLsbD_bit]
  have hk : (k : Nat) < 8 := k.isLt
  simp [hk]

/-- Nothing can be delivered, and a request waits that only `n` holds back. -/
def OnlyHeldBackBy (p : Pic) (n : Line) : Prop :=
  (forall k, ¬p.Outranks k) ∧ p.isr.getLsbD n = true ∧
    exists k : Line, p.irr.getLsbD k = true ∧
      forall j : Line, p.isr.getLsbD j = true -> j ≠ n -> k < j

instance (p : Pic) (n : Line) : Decidable (p.OnlyHeldBackBy n) :=
  inferInstanceAs (Decidable (_ ∧ _))

/-- An end of interrupt that lets a waiting request through. -/
def Exposes (v : BitVec 8) (p : Pic) : Prop :=
  exists n, p.ended v = some n ∧ p.OnlyHeldBackBy n

instance (v : BitVec 8) (p : Pic) : Decidable (Exposes v p) :=
  inferInstanceAs (Decidable (exists _, _))

/-- An end of interrupt changes what can be delivered exactly if it lets a
waiting request through. -/
theorem ocw2_deliverable_iff (v : BitVec 8) (p : Pic) :
    (p.ocw2 v).deliverable = p.deliverable ↔ ¬Exposes v p := by
  rw [ocw2_eq]
  unfold Exposes
  cases hended : p.ended v with
  | none =>
      simp
  | some n =>
      simp only [Option.some.injEq, exists_eq_left']
      have hrank : forall k, Outranks { p with isr := p.isr &&& ~~~bit n.val } k ↔
          p.irr.getLsbD k = true ∧
            forall j : Line, p.isr.getLsbD j = true -> j ≠ n -> k < j := by
        intro k
        unfold Outranks
        simp only [getLsbD_retire, Bool.and_eq_true, decide_eq_true_eq,
          and_imp]
      cases hd : p.deliverable with
      | some k =>
          have hhigh := deliverable_eq_some_iff.mp hd
          have hkept : Highest { p with isr := p.isr &&& ~~~bit n.val } k := by
            refine ⟨(hrank k).mpr ⟨hhigh.1.1, fun j hj _ => hhigh.1.2 j hj⟩, ?_⟩
            intro j hj
            by_contra hlt
            have hout : p.Outranks j :=
              ⟨hj.1, fun i hi =>
                lt_trans (not_le.mp hlt) (hhigh.1.2 i hi)⟩
            exact hlt (hhigh.2 j hout)
          simp only [deliverable_eq_some_iff.mpr hkept, true_iff]
          rintro ⟨hnone, _⟩
          exact hnone k hhigh.1
      | none =>
          have hnone := deliverable_eq_none_iff.mp hd
          rw [deliverable_eq_none_iff]
          constructor
          · rintro hall ⟨_, _, k, hirr, hfree⟩
            exact hall k ((hrank k).mpr ⟨hirr, hfree⟩)
          · intro hnot k hk
            rcases (hrank k).mp hk with ⟨hirr, hfree⟩
            apply hnot
            refine ⟨hnone, ?_, k, hirr, hfree⟩
            by_contra hidle
            apply hnone k
            refine ⟨hirr, fun j hj => hfree j hj ?_⟩
            rintro rfl
            exact hidle hj

/-!
## Requests, masks and acknowledgements
-/

/-- The controller after it handed line `k` over. -/
def acknowledged (k : Line) (p : Pic) : Pic :=
  { p with isr := p.isr ||| bit k.val, irr := p.irr &&& ~~~bit k.val }

/-- The base a controller was programmed with. -/
structure Based (p : Pic) : Prop where
  idle : p.state = .STATE_IDLE
  aligned : p.vectorAddress &&& 0x7#8 = 0#8
  ne_zero : p.vectorAddress ≠ 0#8

theorem vector_toNat {p : Pic} (h : p.Based) (k : Line) :
    (p.vector k).toNat = p.vectorAddress.toNat + k.val := by
  have hlow : p.vectorAddress.toNat % 8 = 0 := by
    have hand := congrArg BitVec.toNat h.aligned
    rw [BitVec.toNat_and] at hand
    exact (Nat.and_two_pow_sub_one_eq_mod p.vectorAddress.toNat 3).symm.trans
      hand
  have hbase := p.vectorAddress.isLt
  have hk := k.isLt
  unfold vector
  rw [BitVec.toNat_add, BitVec.toNat_ofNat]
  omega

theorem vector_ne_zero {p : Pic} (h : p.Based) (k : Line) :
    p.vector k ≠ 0#8 := by
  intro hzero
  have hnat := vector_toNat h k
  rw [hzero] at hnat
  have hbase : p.vectorAddress.toNat ≠ 0 := by
    intro hb
    exact h.ne_zero (BitVec.eq_of_toNat_eq hb)
  simp at hnat
  omega

theorem intaHandler_vector {p : Pic} (h : p.Based) (k : Line) :
    p.intaHandler (p.vector k) = p.acknowledged k := by
  have hnat := vector_toNat h k
  have hk := k.isLt
  have hle : p.vectorAddress ≤ p.vector k := by
    rw [BitVec.le_def, hnat]
    omega
  have hn : (p.vector k).toNat - p.vectorAddress.toNat = k.val := by omega
  unfold intaHandler acknowledged
  rw [if_pos ⟨hle, by omega⟩, hn]

/-- Nothing can be delivered right after an acknowledgement. -/
theorem deliverable_acknowledged {p : Pic} {k : Line} (h : p.Highest k) :
    (p.acknowledged k).deliverable = none := by
  rw [deliverable_eq_none_iff]
  rintro j ⟨hirr, hisr⟩
  have hk : (p.acknowledged k).isr.getLsbD k = true := by
    unfold acknowledged
    rw [BitVec.getLsbD_or, getLsbD_bit]
    simp
  have hjk : j < k := hisr k hk
  unfold acknowledged at hirr
  rw [getLsbD_retire, Bool.and_eq_true] at hirr
  have hrank : p.Outranks j :=
    ⟨hirr.1, fun i hi => lt_trans hjk (h.1.2 i hi)⟩
  exact absurd hjk (not_lt.mpr (h.2 j hrank))

end Pic

/-- The slot of the processor holds what the controller can deliver. -/
structure Settled (e : Emulator (Board W)) : Prop where
  based : e.world.pic.Based
  pending : e.pendingIrq = e.world.pic.deliverable.elim 0#8 e.world.pic.vector

theorem Settled.pending_eq {e : Emulator (Board W)} (h : Settled e)
    {k : Pic.Line} (hk : e.world.pic.Highest k) :
    e.pendingIrq = e.world.pic.vector k := by
  rw [h.pending, Pic.deliverable_eq_some_iff.mpr hk]
  rfl

/-- What is in the slot is the vector of the highest deliverable request. -/
theorem Settled.highest_of_pending {e : Emulator (Board W)} (h : Settled e)
    (hpending : e.pendingIrq ≠ 0#8) :
    exists k, e.world.pic.Highest k := by
  rw [h.pending] at hpending
  cases hd : e.world.pic.deliverable with
  | none =>
      simp [hd] at hpending
  | some k =>
      exact ⟨k, Pic.deliverable_eq_some_iff.mp hd⟩

theorem Settled.raiseIrq {e : Emulator (Board W)} (h : Settled e)
    (irqNum : Pic.Line) :
    Settled (e.afterDevice (e.world.raiseIrq irqNum)) := by
  unfold Board.raiseIrq Pic.raiseIrq
  dsimp only
  split
  · exact ⟨h.based, h.pending⟩
  · refine ⟨⟨h.based.idle, h.based.aligned, h.based.ne_zero⟩, ?_⟩
    dsimp only [Emulator.afterDevice]
    cases hnew : Pic.deliverable
        { e.world.pic with irr := e.world.pic.irr ||| Pic.bit irqNum.val } with
    | some k =>
        rfl
    | none =>
        -- a new request that is blocked leaves the older ones blocked
        have hold : e.world.pic.deliverable = none := by
          rw [Pic.deliverable_eq_none_iff] at hnew ⊢
          rintro k ⟨hirr, hisr⟩
          refine hnew k ⟨?_, hisr⟩
          rw [BitVec.getLsbD_or, hirr]
          rfl
        have hpending := h.pending
        rw [hold] at hpending
        exact hpending

theorem Settled.congr {e e' : Emulator (Board W)} (h : Settled e)
    (hpic : e'.world.pic = e.world.pic)
    (hpending : e'.pendingIrq = e.pendingIrq) : Settled e' where
  based := by
    rw [hpic]
    exact h.based
  pending := by
    rw [hpic, hpending]
    exact h.pending

theorem Settled.afterCall {e : Emulator (Board W)} (h : Settled e)
    (out : W × Option Pic.Line) :
    Settled (e.afterDevice (e.world.afterCall out)) := by
  unfold Board.afterCall
  cases out.2 with
  | none =>
      exact h.congr rfl rfl
  | some irqNum =>
      have hcalled : Settled
          { e with world := { e.world with devices := out.1 } } :=
        h.congr rfl rfl
      exact hcalled.raiseIrq irqNum

/-!
## The guest's writes
-/

/-- A write that does not reprogram the controller and is not an end of
interrupt that lets a waiting request through. -/
def Pic.Write.Benign (w : Pic.Write) : Prop :=
  w.offs = 0 -> Pic.isIcw1 w.value = false ∧
    (Pic.isOcw2 w.value = true -> ¬Pic.Exposes w.value w.pic)

instance (w : Pic.Write) : Decidable w.Benign :=
  inferInstanceAs (Decidable (_ -> _))

theorem Pic.write8_benign {p : Pic} {offs : Nat} {v : BitVec 8}
    (hp : p.Based)
    (hbenign : Pic.Write.Benign { pic := p, offs := offs, value := v }) :
    (p.write8 offs v).Based ∧
      (p.write8 offs v).vectorAddress = p.vectorAddress ∧
      (p.write8 offs v).deliverable = p.deliverable := by
  unfold Pic.write8
  split
  · next hoffs =>
      rcases hbenign hoffs with ⟨hicw, hexpose⟩
      dsimp only at hicw hexpose
      unfold Pic.writeCommand
      rw [hicw]
      simp only [Bool.false_eq_true, if_false]
      split
      · next hocw =>
          have hsame := (Pic.ocw2_deliverable_iff v p).mpr (hexpose hocw)
          rw [Pic.ocw2_eq] at hsame ⊢
          cases hended : p.ended v with
          | none =>
              exact ⟨hp, rfl, rfl⟩
          | some n =>
              simp only [hended] at hsame
              exact ⟨⟨hp.idle, hp.aligned, hp.ne_zero⟩, rfl, hsame⟩
      · split
        · unfold Pic.ocw3 Pic.assert
          dsimp only
          split
          · exact ⟨⟨hp.idle, hp.aligned, hp.ne_zero⟩, rfl, rfl⟩
          · split
            · exact ⟨⟨hp.idle, hp.aligned, hp.ne_zero⟩, rfl, rfl⟩
            · exact ⟨⟨hp.idle, hp.aligned, hp.ne_zero⟩, rfl, rfl⟩
        · exact ⟨hp, rfl, rfl⟩
  · have hmask : p.writeData v = { p with mask := v } := by
      simp [Pic.writeData, hp.idle]
    rw [hmask]
    exact ⟨⟨hp.idle, hp.aligned, hp.ne_zero⟩, rfl, rfl⟩

/-- Unless a write of the guest was harmful, the slot is settled. -/
def SettledSoFar (e : Emulator (Board W)) : Prop :=
  (forall w, w ∈ e.world.writes -> w.Benign) -> Settled e

theorem SettledSoFar.writePic {e : Emulator (Board W)} (h : SettledSoFar e)
    (offs : Nat) (v : BitVec 8) :
    SettledSoFar { e with world := e.world.writePic offs v } := by
  intro hwrites
  have hbefore : Settled e :=
    h fun w hw => hwrites w (List.mem_cons_of_mem _ hw)
  rcases Pic.write8_benign hbefore.based
    (hwrites _ List.mem_cons_self) with ⟨hbased, hvector, hsame⟩
  refine ⟨hbased, ?_⟩
  show e.pendingIrq = (e.world.pic.write8 offs v).deliverable.elim 0#8
    (e.world.pic.write8 offs v).vector
  rw [hsame, hbefore.pending]
  unfold Pic.vector
  rw [hvector]

theorem writes_afterCall (b : Board W) (out : W × Option Pic.Line) :
    (b.afterCall out).1.writes = b.writes := by
  unfold Board.afterCall
  cases out.2 with
  | none =>
      rfl
  | some irqNum =>
      rfl

theorem SettledSoFar.afterCall {e : Emulator (Board W)} (h : SettledSoFar e)
    (out : W × Option Pic.Line) :
    SettledSoFar (e.afterDevice (e.world.afterCall out)) := by
  intro hwrites
  apply Settled.afterCall
  apply h
  intro w hw
  apply hwrites
  show w ∈ (e.world.afterCall out).1.writes
  rw [writes_afterCall]
  exact hw

/-!
## Emulator steps
-/

instance : OfInterrupts (SettledSoFar (W := W)) where
  congr e e' hworld hpending _ _ h hwrites := by
    rw [hworld] at hwrites
    exact (h hwrites).congr (congrArg Board.pic hworld) hpending

instance : AllowsInhibit (SettledSoFar (W := W)) where
  inhibit _ _ h hwrites := (h hwrites).congr rfl rfl

section Steps

set_option synthInstance.maxSize 1000000

variable (devices : BitVec 16 -> Option (LineDevice W)) (trapEscape : Bool)

theorem board_io {base : BitVec 16} {p : IOPorts (Board W)}
    (h : (Board.environment devices trapEscape).io base = some p) :
    p = Board.picPorts ∨ exists d, p = Board.ports d := by
  unfold Board.environment at h
  dsimp only at h
  split at h
  · exact Or.inl (Option.some.inj h).symm
  · rcases Option.map_eq_some_iff.mp h with ⟨d, _, hd⟩
    exact Or.inr ⟨d, hd.symm⟩

instance : AllowsDevices (Board.environment devices trapEscape)
    (SettledSoFar (W := W)) where
  read8 base p port offs e hio h := by
    rcases board_io devices trapEscape hio with rfl | ⟨d, rfl⟩
    · exact fun hwrites => (h hwrites).congr rfl rfl
    · exact h.afterCall _
  read16 base p port e hio h := by
    rcases board_io devices trapEscape hio with rfl | ⟨d, rfl⟩
    · exact fun hwrites => (h hwrites).congr rfl rfl
    · exact h.afterCall _
  write8 base p port offs v e hio h := by
    rcases board_io devices trapEscape hio with rfl | ⟨d, rfl⟩
    · exact h.writePic offs v
    · exact h.afterCall _
  write16 base p port v e hio h := by
    rcases board_io devices trapEscape hio with rfl | ⟨d, rfl⟩
    · exact (h.writePic 0 _).writePic 1 _
    · exact h.afterCall _

instance : Keeps (SettledSoFar (W := W))
    (Board.environment devices trapEscape) clearNmi :=
  keeps_modify _ _ fun _ h hwrites => (h hwrites).congr rfl rfl

/-- The processor after it acknowledged what is in its slot. -/
def Emulator.acknowledge (e : Emulator (Board W)) : Emulator (Board W) :=
  { e with
    pendingIrq := 0#8
    world := { e.world with pic := e.world.pic.intaHandler e.pendingIrq } }

theorem returns_handleIrq {e e' : Emulator (Board W)} {u : Unit}
    (h : Returns handleIrq (Board.environment devices trapEscape) e u e') :
    e.pendingIrq ≠ 0#8 ∧
      Returns (do
        interruptHere (e.pendingIrq.toNat * 4)
        singleStep) (Board.environment devices trapEscape) e.acknowledge u
        e' := by
  unfold handleIrq at h
  rcases returns_bind.mp h with ⟨irqNum, e₁, hget, h⟩
  rcases returns_gets.mp hget with ⟨hnum, hstate⟩
  subst hnum
  subst hstate
  rcases returns_bind.mp h with ⟨_, e₂, hassert, h⟩
  unfold assert at hassert
  split at hassert
  · next hne =>
      rw [(returns_pure.mp hassert).2] at h
      rcases returns_bind.mp h with ⟨_, e₃, hclear, h⟩
      rw [returns_modify.mp hclear] at h
      rcases returns_bind.mp h with ⟨_, e₄, hack, h⟩
      unfold Effect.Returns ackInt at hack
      simp only [Except.ok.injEq, Prod.mk.injEq, true_and] at hack
      rw [<- hack] at h
      exact ⟨by simpa using hne, h⟩
  · exact absurd hassert not_returns_fault

theorem Settled.acknowledge {e : Emulator (Board W)} (h : Settled e)
    {k : Pic.Line} (hk : e.world.pic.Highest k) :
    e.acknowledge.world.pic = e.world.pic.acknowledged k ∧
      Settled e.acknowledge := by
  have hpic : e.acknowledge.world.pic = e.world.pic.acknowledged k := by
    show e.world.pic.intaHandler e.pendingIrq = _
    rw [h.pending_eq hk, Pic.intaHandler_vector h.based]
  refine ⟨hpic, ?_, ?_⟩
  · rw [hpic]
    exact ⟨h.based.idle, h.based.aligned, h.based.ne_zero⟩
  · rw [hpic, Pic.deliverable_acknowledged hk]
    rfl

instance : Keeps (SettledSoFar (W := W))
    (Board.environment devices trapEscape) handleIrq where
  kept e u e' h hret := by
    rcases returns_handleIrq devices trapEscape hret with ⟨hne, htail⟩
    refine Keeps.kept _ _ _ ?_ htail
    intro hwrites
    have hsettled := h hwrites
    rcases hsettled.highest_of_pending hne with ⟨k, hk⟩
    exact (hsettled.acknowledge hk).2

instance : Keeps (SettledSoFar (W := W))
    (Board.environment devices trapEscape) handleNmi := by
  unfold handleNmi
  infer_instance

instance : Keeps (SettledSoFar (W := W))
    (Board.environment devices trapEscape) afterInsn := by
  unfold afterInsn
  infer_instance

instance keeps_step : Keeps (SettledSoFar (W := W))
    (Board.environment devices trapEscape) step := by
  unfold step
  infer_instance

end Steps

/-!
## Runs
-/

/-- What happens on a simulated board: a device raises a line, or the
processor makes a step. -/
inductive Event where
  | raise (irqNum : Pic.Line)
  | step

def raiseLine (irqNum : Pic.Line) : EmuM (Board W) Unit :=
  fun _ e => ([], .ok ((), e.afterDevice (e.world.raiseIrq irqNum)))

def Event.run : Event -> EmuM (Board W) Unit
  | raise irqNum => raiseLine irqNum
  | step => do
      let _ ← Sim.step

def runEvents : List Event -> EmuM (Board W) Unit
  | [] => pure ()
  | event :: rest => do
      event.run
      runEvents rest

section Runs

set_option synthInstance.maxSize 1000000

variable (devices : BitVec 16 -> Option (LineDevice W)) (trapEscape : Bool)

instance (irqNum : Pic.Line) : Keeps (SettledSoFar (W := W))
    (Board.environment devices trapEscape) (raiseLine irqNum) where
  kept e u e' h hret := by
    unfold Effect.Returns raiseLine at hret
    simp only [Except.ok.injEq, Prod.mk.injEq, true_and] at hret
    rw [<- hret]
    intro hwrites
    exact (h hwrites).raiseIrq irqNum

instance (event : Event) : Keeps (SettledSoFar (W := W))
    (Board.environment devices trapEscape) event.run := by
  cases event <;> unfold Event.run <;> infer_instance

instance keeps_runEvents (events : List Event) : Keeps (SettledSoFar (W := W))
    (Board.environment devices trapEscape) (runEvents events) := by
  induction events with
  | nil =>
      unfold runEvents
      infer_instance
  | cons event rest ih =>
      unfold runEvents
      infer_instance

/-!
## Delivery
-/

/-- The controller is in this state. -/
def HasPic (p : Pic) (e : Emulator (Board W)) : Prop := e.world.pic = p

instance (p : Pic) : OfInterrupts (HasPic (W := W) p) where
  congr _ _ hworld _ _ _ h := (congrArg Board.pic hworld).trans h

theorem Settled.handleIrq {e e' : Emulator (Board W)} {u : Unit}
    (h : Settled e) {k : Pic.Line} (hk : e.world.pic.Highest k)
    (hret : Returns handleIrq (Board.environment devices trapEscape) e u e') :
    HasPic (e.world.pic.acknowledged k) e' := by
  have htail := (returns_handleIrq devices trapEscape hret).2
  have hpic : HasPic (e.world.pic.acknowledged k) e.acknowledge :=
    (h.acknowledge hk).1
  exact Keeps.kept _ _ _ hpic htail

theorem returns_nmiReady {env : Environment W} {e e' : Emulator W} {b : Bool} :
    Returns nmiReady env e b e' ↔
      b = (e.nmiPending && !e.extIntInhibit) ∧ e' = e :=
  returns_gets (r := env)

theorem returns_irqReady {env : Environment W} {e e' : Emulator W} {b : Bool} :
    Returns irqReady env e b e' ↔
      b = (e.pendingIrq != 0#8 && !e.extIntInhibit &&
        e.registers.getFlag Flag.IF) ∧ e' = e :=
  returns_gets (r := env)

/-- With interrupts enabled and nothing else in the way, a step starts by
taking the request in the slot. -/
theorem returns_step_irq {env : Environment W} {e e' : Emulator W} {n : Nat}
    (hne : e.pendingIrq ≠ 0#8) (hnmi : e.nmiPending = false)
    (hinhibit : e.extIntInhibit = false)
    (hif : e.registers.getFlag Flag.IF = true)
    (h : Returns step env e n e') :
    Returns handleIrq env { e with tfWasSet := e.registers.getFlag Flag.TF }
      () e' := by
  unfold step at h
  rcases returns_bind.mp h with ⟨_, e₁, hsample, h⟩
  rw [returns_modify.mp hsample] at h
  rcases returns_bind.mp h with ⟨nmi, e₂, hready, h⟩
  rcases returns_nmiReady.mp hready with ⟨rfl, rfl⟩
  rcases returns_bind.mp h with ⟨irq, e₃, hready, h⟩
  rcases returns_irqReady.mp hready with ⟨rfl, rfl⟩
  have hnot : ¬(e.nmiPending && !e.extIntInhibit) = true := by
    simp [hnmi]
  have htake : (e.pendingIrq != 0#8 && !e.extIntInhibit &&
      e.registers.getFlag Flag.IF) = true := by
    simp [hne, hinhibit, hif]
  rw [if_neg hnot, if_pos htake] at h
  rcases returns_bind.mp h with ⟨_, e₄, hhandle, h⟩
  rw [(returns_pure.mp h).2]
  exact hhandle

/-- In a run in which the guest writes only masks, read selections and ends of
interrupts that let no waiting request through, a request that outranks every
line in service is in the slot, the next boundary with interrupts enabled
takes it, and taking it moves its bit and no other. -/
theorem simulator_pic_delivers {start e : Emulator (Board W)}
    {events : List Event} (hstart : Settled start)
    (hrun : Returns (runEvents events)
      (Board.environment devices trapEscape) start () e)
    (hwrites : forall w, w ∈ e.world.writes -> w.Benign) :
    forall k, e.world.pic.Highest k ->
      e.pendingIrq = e.world.pic.vector k ∧ e.pendingIrq ≠ 0#8 ∧
        (forall u e', Returns handleIrq
          (Board.environment devices trapEscape) e u e' ->
          e'.world.pic = e.world.pic.acknowledged k) ∧
        (e.nmiPending = false -> e.extIntInhibit = false ->
          e.registers.getFlag Flag.IF = true ->
          forall n e', Returns step
            (Board.environment devices trapEscape) e n e' ->
            e'.world.pic = e.world.pic.acknowledged k) := by
  intro k hk
  have hsettled : Settled e := by
    have hkeep : SettledSoFar e :=
      Keeps.kept start () e (fun _ => hstart) hrun
    exact hkeep hwrites
  have hpending := hsettled.pending_eq hk
  have hne : e.pendingIrq ≠ 0#8 := by
    rw [hpending]
    exact Pic.vector_ne_zero hsettled.based k
  refine ⟨hpending, hne, ?_, ?_⟩
  · intro u e' hret
    exact hsettled.handleIrq devices trapEscape hk hret
  · intro hnmi hinhibit hif n e' hret
    have hsampled : Settled
        { e with tfWasSet := e.registers.getFlag Flag.TF } :=
      hsettled.congr rfl rfl
    exact hsampled.handleIrq devices trapEscape hk
      (returns_step_irq hne hnmi hinhibit hif hret)

end Runs

/-- A board whose vectors start at 8, with interrupts enabled; line 1 is
served by `MOV AL, 20` and `OUT 20, AL` at `0000:0100`. -/
def quietBoard : Emulator (Board Unit) :=
  let pic : Pic :=
    { state := .STATE_IDLE, commandReadMode := .STATE_READ_IRR
      vectorAddress := 8#8, mask := 0#8, isr := 0#8, irr := 0#8
      failed := false }
  let e := Emulator.fresh { pic := pic, devices := (), writes := [] } fun a =>
    if a = 0x25#20 then 0x01#8
    else if a = 0x100#20 then 0xb0#8
    else if a = 0x101#20 then 0x20#8
    else if a = 0x102#20 then 0xe6#8
    else if a = 0x103#20 then 0x20#8
    else 0#8
  { e with registers := e.registers.setFlags Flag.IF Flag.IF }

theorem settled_quietBoard : Settled quietBoard := by
  refine ⟨⟨rfl, by decide, by decide⟩, ?_⟩
  decide +kernel

/-- Line 3 is raised after the interrupt of line 1 has ended. -/
theorem simulator_pic_delivers_after_end :
    exists e : Emulator (Board Unit),
      Returns (runEvents [.raise 1, .step, .step, .step, .raise 3])
        (Board.environment (fun _ => none) false) quietBoard () e ∧
      e.pendingIrq = 11#8 := by
  have hrun := exists_returns_of_run
    (m := runEvents [.raise 1, .step, .step, .step, .raise 3])
    (r := Board.environment (fun _ => none) false) (s := quietBoard)
    (Q := fun e => (forall w, w ∈ e.world.writes -> w.Benign) ∧
      e.world.pic.Highest 3 ∧ e.world.pic.vector 3 = 11#8)
    (by decide +kernel)
  rcases hrun with ⟨_, e, hret, hwrites, hhigh, hvector⟩
  have hpending := (simulator_pic_delivers (fun _ => none) false
    settled_quietBoard hret hwrites 3 hhigh).1
  exact ⟨e, hret, hpending.trans hvector⟩

/-- Line 3 is raised while line 1 is in service: the end of that interrupt
leaves the request of line 3 with priority over every line in service and
nothing in the slot. -/
theorem simulator_pic_stuck :
    ¬forall (events : List Event) (e : Emulator (Board Unit)),
      Returns (runEvents events) (Board.environment (fun _ => none) false)
        quietBoard () e ->
      forall k, e.world.pic.Highest k ->
        e.pendingIrq = e.world.pic.vector k := by
  intro h
  have hrun := exists_returns_of_run
    (m := runEvents [.raise 1, .step, .raise 3, .step, .step])
    (r := Board.environment (fun _ => none) false) (s := quietBoard)
    (Q := fun e => e.world.pic.Highest 3 ∧ e.pendingIrq = 0#8 ∧
      e.world.pic.vector 3 ≠ 0#8)
    (by decide +kernel)
  rcases hrun with ⟨_, e, hret, hhigh, hzero, hvector⟩
  have hpending := h _ e hret 3 hhigh
  rw [hzero] at hpending
  exact hvector hpending.symm

end Sim
end S80x86
