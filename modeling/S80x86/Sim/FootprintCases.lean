import S80x86.Sim.StringFootprints

/-!
# The footprint of every handler

The table of footprints row by row, against the handlers of the cases.
-/

namespace S80x86
namespace Sim

open Foundation.Effect

variable {W : Type}

/-- The row is about the opcodes of the case, and the handler touches what the
row says. -/
structure Describes (env : Environment W) (e : Emulator W)
    (r : Footprint.Row W) (c : Case W) : Prop where
  lo : r.lo = c.lo
  hi : r.hi = c.hi
  touches : Touches (r.footprint env e) (c.handler env e)

section Cases

set_option synthInstance.maxSize 1000000

variable {env : Environment W} (henv : env.addressing = Addressing.emulator)
  {e : Emulator W}
  (hseg : e.defaultSegmentOverriden = true ->
    e.overrideSegment.isSegment = true)
include henv hseg

theorem rows_describe :
    List.Forall₂ (Describes env e) Footprint.rows cases := by
  have hstring := isSegment_operandSegment hseg
  have hdecoded : (e.decodedFor .OP_WIDTH_16).operandSegment.isSegment = true :=
    isSegment_operandSegment hseg
  unfold Footprint.rows cases
  repeat' first
    | exact List.Forall₂.nil
    | refine List.Forall₂.cons ⟨rfl, rfl, ?_⟩ ?_
  all_goals try first
    | exact touches_nothing inferInstance e
    | exact touches_operand henv (fun _ _ _ => inferInstance)
        fun _ _ _ _ => inferInstance
  · exact touches_pushsr henv
  · exact touches_pushsr henv
  · exact touches_pushsr henv
  · exact touches_pushsr henv
  · exact touches_interrupt henv _
  · exact touches_popsr henv
  · exact touches_popsr henv
  · exact touches_popsr henv
  · exact touches_push50_57 henv
  · exact touches_pop58_5f henv
  · exact touches_pusha60 henv
  · exact touches_popa61 henv
  · exact touches_bound62 henv
  · exact touches_interrupt henv _
  · exact touches_interrupt henv _
  · exact touches_interrupt henv _
  · exact touches_interrupt henv _
  · exact touches_interrupt henv _
  · exact touches_push68 henv
  · exact touches_push6a henv
  · exact touches_ins henv
  · exact touches_ins henv
  · exact touches_outs henv
  · exact touches_outs henv
  · exact touches_pop8f henv hdecoded
  · exact touches_call9a henv
  · exact touches_pushf9c henv
  · exact touches_popf9d henv
  · exact touches_movAccMem henv
  · exact touches_movAccMem henv
  · exact touches_movMemAcc henv
  · exact touches_movMemAcc henv
  · exact touches_string henv .movs hstring
  · exact touches_string henv .movs hstring
  · exact touches_string henv .cmps hstring
  · exact touches_string henv .cmps hstring
  · exact touches_string henv .stos hstring
  · exact touches_string henv .stos hstring
  · exact touches_string henv .lods hstring
  · exact touches_string henv .lods hstring
  · exact touches_string henv .scas hstring
  · exact touches_string henv .scas hstring
  · exact touches_retc2 henv
  · exact touches_retc3 henv
  · exact touches_loadFar henv _
  · exact touches_loadFar henv _
  · exact touches_movc6 henv
  · exact touches_movc7 henv
  · exact touches_enterc8 henv
  · exact touches_leavec9 henv
  · exact touches_retca henv
  · exact touches_retcb henv
  · exact touches_interrupt henv _
  · exact touches_intcd henv
  · exact touches_intoce henv
  · exact touches_iretcf henv
  · exact touches_aamd4 henv
  · exact touches_xlatd7 henv
  · exact touches_escd8 henv
  · exact touches_calle8 henv
  · exact touches_interrupt henv _
  · exact touches_negMulNotTestDivF6 henv
  · exact touches_negMulNotTestDivF7 henv
  · exact touches_incDecFe henv
  · exact touches_pushIncJmpCallFf henv hdecoded

omit henv hseg in
theorem Describes.covers_eq {r : Footprint.Row W} {c : Case W}
    (h : Describes env e r c) (opcode : BitVec 8) :
    r.covers opcode = c.covers opcode := by
  unfold Footprint.Row.covers Case.covers
  rw [h.lo, h.hi]

omit henv hseg in
/-- What is looked up in the two tables belongs together. -/
theorem touches_found {rs : List (Footprint.Row W)} {cs : List (Case W)}
    (h : List.Forall₂ (Describes env e) rs cs) (opcode : BitVec 8) :
    Touches
      (((rs.find? fun r => r.covers opcode).map
        Footprint.Row.footprint).getD Footprint.nothing env e)
      (((cs.find? fun c => c.covers opcode).map
        Case.handler).getD (pure ()) env e) := by
  induction h with
  | nil =>
      exact touches_quiet rfl
  | cons hfirst _ ih =>
      rw [List.find?_cons, List.find?_cons, hfirst.covers_eq]
      split
      · exact hfirst.touches
      · exact ih

/-- An instruction touches its footprint. -/
theorem touches_execute (opcode : BitVec 8) :
    Touches (Footprint.ofOpcode opcode env e) (execute opcode env e) :=
  touches_found (rows_describe henv hseg) opcode

end Cases

end Sim
end S80x86
