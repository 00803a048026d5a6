import S80x86.Isa.EmulatorRefines
import S80x86.Isa.Reset

/-!
# The core and the emulator

The two implementations of the instructions run the same program in step.
-/

open Foundation Foundation.Clocked Foundation.Effect

namespace S80x86
namespace Isa

open Rtl (Core)

section Agrees

variable {W : Type} {env : Sim.Environment W} {inputs : Nat -> Core.Input}
  {e : Sim.Emulator W} {s' : State} {t : Core} {lengths : List Nat}

/-- From equal states the emulator and the core come to equal states, where the
program ends. -/
theorem core_agrees_with_emulator
    (henv : env.addressing = Sim.Addressing.emulator) (hquiet : Quiet e)
    (h : Between (ofEmulator e) t) (hfeeds : Feeds inputs t)
    (hrun : Run lengths (ofEmulator e) s') :
    exists e', Returns (emulatorRun lengths.length) env e lengths e' ∧
      ofEmulator e' = s' ∧ Quiet e' ∧
      Reaches Core.step (fun _ => True) (Between (ofEmulator e')) inputs t := by
  obtain ⟨e', hreturns, rfl, hquiet'⟩ :=
    emulator_follows henv hrun hquiet rfl
  exact ⟨e', hreturns, rfl, hquiet',
    (core_run_served h hrun hfeeds.serves).imp (fun _ _ => trivial)⟩

end Agrees

theorem copying_same : ofEmulator copyingEmulator = ofArch copyingArch := by
  ext1
  · funext r
    rcases reg_cases r with
      rfl | rfl | rfl | rfl | rfl | rfl | rfl | rfl <;> rfl
  · funext n
    cases n <;> rfl
  · rfl
  · rfl
  · rfl

/-- A word goes over the stack, past a jump, in both. -/
theorem core_agrees_with_emulator_copying :
    exists e' inputs k, Returns (emulatorRun 3) Sim.Environment.bare
      copyingEmulator [1, 2, 1] e' ∧
        (ofEmulator e').gprs Rtl.GPR.BX = 0x1234#16 ∧
        Between (ofEmulator e')
          (trace Core.step inputs (atFetch copyingArch) k) := by
  obtain ⟨s', hrun, -, hbx⟩ := run_copying copyingEmulator_starts
  obtain ⟨inputs, hfeeds, -⟩ :=
    @exists_feeds (atFetch copyingArch) (fun _ => rfl) _ everyThird_recurs
  have hbetween := atFetch_between copyingArch
  rw [<- copying_same] at hbetween
  obtain ⟨e', hreturns, rfl, -, k, -, hk⟩ :=
    @core_agrees_with_emulator Unit Sim.Environment.bare inputs copyingEmulator
      s' _ [1, 2, 1] rfl ⟨rfl, rfl⟩ hbetween hfeeds hrun
  exact ⟨e', inputs, k, hreturns, hbx, hk⟩

end Isa
end S80x86
