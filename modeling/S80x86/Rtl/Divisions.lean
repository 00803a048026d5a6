import S80x86.Rtl.InterruptEntry
import S80x86.Rtl.MicroRuns

/-!
# Divisions in microprograms

A microinstruction that divides goes on with the quotient and the remainder, or
with the divide error.
-/

namespace S80x86
namespace Rtl
namespace Machine

/-- A microinstruction that divides and then goes to the next one. -/
structure IsDivision (u : Microinstruction) : Prop where
  divide : u.divide = true
  isInternal : u.isInternal = true
  goes : u.nextInstruction = false
  jumps : u.jumpType = .UNCONDITIONAL
  memory : (u.memRead || u.memWrite) = false
  notShift : u.isShift = false

/-- The machine in the last cycle of a division. -/
def afterDivision (u : Microinstruction) (d : Divider)
    (m : Machine) : Machine :=
  { m.waited u with quotient := d.quotient, P := d.P, divideError := d.error }

theorem last_division {u : Microinstruction} (h : IsDivision u) (m : Machine) :
    m.last u = m.afterDivision u
      (divided 20 (m.dividerInputs u) m.idleDivider) := by
  have hmem := h.memory
  rw [Bool.or_eq_false_iff] at hmem
  unfold last
  rw [hmem.1, hmem.2, h.divide]
  rfl

/-- The divider of a microinstruction completes. -/
theorem divided_idle {i : Divider.Inputs} {m : Machine}
    (hreset : i.reset = false) (h : i.Presented) : Divider.Divided i (divided 20 i m.idleDivider) := by
  obtain ⟨n, hn, hdone⟩ :=
    Divider.completes hreset h (s := m.idleDivider) rfl rfl
  rw [Core.divided_eq hn hdone.first hdone.divided.complete]
  exact hdone.divided

theorem steps_division {a : Nat} {u : Microinstruction} {m : Machine}
    (word : Microcode.mem a = u) (h : IsDivision u)
    (hra : m.is8Bit u = false -> m.ra = m.gprs.read false (m.raSel u))
    (hpresented : (m.dividerInputs u).Presented)
    (hplain : plainAddress u.next = true) (hmoves : u.next ≠ a)
    (herror : Core.divideErrorAddress ≠ a) :
    exists d, Divider.Divided (m.dividerInputs u) d ∧
      Steps a m (if d.error then Core.divideErrorAddress else u.next)
        ((m.afterDivision u d).advance u) := by
  have hlast := last_division h m
  have hdone : Divider.Divided _ _ := divided_idle (m := m) rfl hpresented
  generalize divided 20 (m.dividerInputs u) m.idleDivider = d at *
  refine ⟨d, hdone, ?_⟩
  have hstable : m.Stable u := by
    refine ⟨?_, fun _ => hra, fun _ => hpresented, ?_⟩
    · intro hmem
      rw [h.memory] at hmem
      cases hmem
    · intro hbusy
      rw [busy_eq_false h.notShift] at hbusy
      cases hbusy
  have htarget : (m.last u).target u a =
      if d.error then Core.divideErrorAddress else u.next := by
    rw [hlast]
    unfold target
    rw [h.jumps, h.divide]
    rfl
  have hgo : plainAddress ((m.last u).target u a) = true ∧
      (m.last u).target u a ≠ a := by
    rw [htarget]
    cases d.error with
    | true =>
        exact ⟨rfl, herror⟩
    | false =>
        exact ⟨hplain, hmoves⟩
  have hstep := Steps.step u word h.isInternal hstable h.goes hgo.1 hgo.2
    (Steps.refl _ _)
  rw [htarget, hlast] at hstep
  exact hstep

end Machine
end Rtl
end S80x86
