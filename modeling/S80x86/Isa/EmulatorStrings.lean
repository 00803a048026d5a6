import S80x86.Isa.EmulatorArithmetic

/-!
# Strings in the emulator

One round of the string instructions without a repetition prefix.
-/

open Foundation Foundation.Effect

namespace S80x86
namespace Isa

open Rtl (SR)
open Rtl.GPR
open scoped Rtl.Machine.Eval

attribute [local simp] index_ne

variable {W : Type} {env : Sim.Environment W} {v : View}

/-!
## Rounds
-/

@[simps] def View.advance (v : View) (is8Bit : Bool) (r : BitVec 3) : View :=
  { v with state := v.state.advance is8Bit r }

@[simps] def View.compare (v : View) (is8Bit : Bool) (x y : BitVec 16) : View :=
  { v with state := v.state.compare is8Bit x y }

/-- What `DF` says is not changed by a comparison. -/
theorem direction_withFlags (x flags : BitVec 16) :
    (withFlags Flag.arithmetic x flags).getLsbD Rtl.Flag.DF_IDX =
      flags.getLsbD Rtl.Flag.DF_IDX := by
  unfold withFlags
  rw [BitVec.getLsbD_or, BitVec.getLsbD_and, BitVec.getLsbD_and,
    BitVec.getLsbD_not]
  simp [Flag.arithmetic, Rtl.Flag.DF_IDX]

theorem element_goto (s : State) (ip : BitVec 16) (is8Bit : Bool) (n : SR)
    (offset : BitVec 16) :
    (s.goto ip).element is8Bit n offset = s.element is8Bit n offset := rfl

attribute [local simp] element_goto State.compare State.advance
  direction_withFlags

/-- A register written back. -/
theorem gprs_set_same (g : Rtl.Gprs) (n : BitVec 3) : g.set n (g n) = g := by
  funext k
  unfold Rtl.Gprs.set
  split
  · next hk => rw [hk]
  · rfl

theorem Handles.once {primitive : Sim.EmuM W Unit}
    {shouldTerminate : Sim.EmuM W Bool} {n : Nat} {op : Operation}
    (hplain : v.plain = true) (h : Handles env primitive v n op) :
    Handles env (Sim.doRep primitive shouldTerminate) v n op := by
  obtain ⟨v', hacts, hleft, hrest⟩ := h
  refine ⟨v', ?_, hleft, hrest⟩
  intro e he
  subst he
  have hrep : e.hasRepPrefix = false := by
    have hnone : (e.defaultSegmentOverriden || e.hasRepPrefix ||
        e.modrmDecoder.isDecoded) = false := by
      simpa [view] using hplain
    simp only [Bool.or_eq_false_iff] at hnone
    exact hnone.1.2
  obtain ⟨e', hreturns, hview⟩ := hacts e rfl
  refine ⟨e', returns_bind.mpr ⟨e.hasRepPrefix, e, rfl, ?_⟩, hview⟩
  rw [hrep]
  exact hreturns

theorem acts_advance (w : Sim.OperandWidth) (r : BitVec 3) :
    Acts view env (Sim.advance w (.word r)) v () (v.advance (isByte w) r) := by
  have hdf : Acts view env (Sim.getFlag Sim.Flag.DF) v
      (v.state.flag Rtl.Flag.DF_IDX) v := acts_getFlag (by decide) rfl rfl
  refine hdf.bind ((acts_getWord r).bind ((acts_setWord r _).congr ?_))
  cases w <;> rfl

theorem acts_compareFlags (w : Sim.OperandWidth) (a : BitVec 16)
    (x : BitVec w.bits) :
    Acts view env (Sim.compareFlags w (a.setWidth w.bits) x) v ()
      (v.compare (isByte w) a (x.setWidth 16)) := by
  intro e he
  subst he
  have hmask : Sim.arithmeticFlags &&& Flag.all = Flag.arithmetic := by decide
  obtain ⟨f, hhelper, hflags⟩ := @helper_acts W env .cmp w (a.setWidth w.bits) x
    _ _ hmask (by decide) id e
  obtain ⟨e', hset, hview⟩ := hflags e rfl
  refine ⟨e', returns_bind.mpr ⟨_, _, hhelper, hset⟩, hview.trans ?_⟩
  unfold View.compare State.compare
  rw [apply_isByte]
  rfl

theorem acts_segSi (hplain : v.plain = true) :
    Acts view env Sim.segSi v
      (Sim.getPhysAddr (v.state.segments .DS) (v.state.gprs SI).toNat) v :=
  (acts_dataSegment hplain).bind ((acts_getSegment .DS).bind
    ((acts_getWord SI).bind (acts_pure _)))

theorem acts_esDi :
    Acts view env Sim.esDi v
      (Sim.getPhysAddr (v.state.segments .ES) (v.state.gprs DI).toNat) v :=
  (acts_getSegment .ES).bind ((acts_getWord DI).bind (acts_pure _))

/-- An element that is a word does not go across the end of memory. -/
theorem wordAt_fits {s : State} {is8Bit : Bool} {n : SR} {offset : BitVec 16}
    (h : forall p, p ∈ s.wordAt is8Bit n offset ->
      Rtl.Bus.linear p.1 p.2 ≠ 0xfffff#20) (hword : is8Bit = false) :
    Rtl.Bus.linear (s.segments n) offset ≠ 0xfffff#20 := by
  have hmem : (s.segments n, offset) ∈ s.wordAt is8Bit n offset := by
    rw [hword]
    exact List.mem_singleton.mpr rfl
  have hfits := h _ hmem
  dsimp only at hfits
  exact hfits

/-!
## Instructions
-/

section Strings

variable (henv : env.addressing = Sim.Addressing.emulator)
  (htaken : v.taken = false)
include henv htaken

theorem handles_stosb :
    Handles env Sim.stosb v 0 (.stos true) := by
  refine ⟨_, (acts_getByte AL).bind (acts_esDi.bind
    ((acts_writeMem henv .OP_WIDTH_8 .ES _
      (fun hword => absurd hword (by decide))).bind
        ((acts_setByte AL _).bind (acts_advance .OP_WIDTH_8 DI)))), ?_, rfl⟩
  ext1 <;> simp [htaken, isByte, gprs_set_same]

theorem handles_stosw (hfits : (Operation.stos false).Fits v.state) :
    Handles env Sim.stosw v 0 (.stos false) := by
  have hword := wordAt_fits hfits rfl
  refine ⟨_, (acts_getWord AX).bind (acts_esDi.bind
    ((acts_write16 henv _ hword).bind (acts_advance .OP_WIDTH_16 DI))), ?_, rfl⟩
  ext1 <;> simp [htaken, isByte]

theorem handles_scas {w : Sim.OperandWidth}
    (hfits : (Operation.scas (isByte w)).Fits v.state) :
    Handles env (Sim.scas w) v 0 (.scas (isByte w)) := by
  refine ⟨_, acts_esDi.bind ((acts_readMem henv w .ES (wordAt_fits hfits)).bind
    ((acts_getAccumulator w).bind ((acts_compareFlags w _ _).bind
      (acts_advance w DI)))), ?_, rfl⟩
  have helement := element_setWidth v.state w .ES (v.state.gprs DI)
  ext1 <;> simp [htaken, helement]

variable (hplain : v.plain = true)
include hplain

theorem handles_lods {w : Sim.OperandWidth}
    (hfits : (Operation.lods (isByte w)).Fits v.state) :
    Handles env (Sim.lods w) v 0 (.lods (isByte w)) := by
  refine ⟨_, (acts_segSi hplain).bind
    ((acts_readMem henv w .DS (wordAt_fits hfits)).bind
      ((acts_setAccumulator w _).bind (acts_advance w SI))), ?_, rfl⟩
  have helement := element_setWidth v.state w .DS (v.state.gprs SI)
  rw [helement]
  cases w with
  | OP_WIDTH_8 =>
      ext1 <;> simp [htaken, isByte]
      exact gprs_set_comm _ _ _ (by decide)
  | OP_WIDTH_16 =>
      ext1 <;> simp [htaken, isByte]
      exact gprs_set_comm _ _ _ (by decide)

theorem handles_movs {w : Sim.OperandWidth}
    (hfits : (Operation.movs (isByte w)).Fits v.state) :
    Handles env (Sim.movs w) v 0 (.movs (isByte w)) := by
  have hsource := wordAt_fits (fun p hp =>
    hfits p (List.mem_append_left _ hp))
  have hdestination := wordAt_fits (fun p hp =>
    hfits p (List.mem_append_right _ hp))
  refine ⟨_, (acts_segSi hplain).bind
    ((acts_readMem henv w .DS hsource).bind
      (acts_esDi.bind ((acts_writeMem henv w .ES _ hdestination).bind
        ((acts_advance w DI).bind (acts_advance w SI))))), ?_, rfl⟩
  ext1 <;> simp [htaken]
  exact gprs_set_comm _ _ _ (by decide)

theorem handles_cmps {w : Sim.OperandWidth}
    (hfits : (Operation.cmps (isByte w)).Fits v.state) :
    Handles env (Sim.cmps w) v 0 (.cmps (isByte w)) := by
  have hsource := wordAt_fits (fun p hp =>
    hfits p (List.mem_append_left _ hp))
  have hdestination := wordAt_fits (fun p hp =>
    hfits p (List.mem_append_right _ hp))
  refine ⟨_, (acts_segSi hplain).bind
    ((acts_readMem henv w .DS hsource).bind
      (acts_esDi.bind ((acts_readMem henv w .ES hdestination).bind
        ((acts_compareFlags w _ _).bind
          ((acts_advance w DI).bind (acts_advance w SI)))))), ?_, rfl⟩
  have helement := element_setWidth v.state w .ES (v.state.gprs DI)
  ext1 <;> simp [htaken, helement]

end Strings

end Isa
end S80x86
