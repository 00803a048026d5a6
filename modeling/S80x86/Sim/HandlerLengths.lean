import S80x86.Sim.Lengths
import S80x86.Rtl.OpcodeTable
import S80x86.Rtl.Parser

/-!
# Handlers and the opcode table

The emulator finds out how long an instruction is by executing it; the decoder
of the RTL reads the length off the generated table.
-/

namespace S80x86
namespace Sim

open Foundation.Effect
open Rtl Rtl.Parser

variable {W : Type}

/-- Whether the table has a ModRM byte for an opcode. -/
def rowHasModrm (opcode : Nat) : Bool :=
  (OpcodeTable.row opcode).any fun e => OpcodeTable.hasModrm e.operands

/-- The bytes of the immediates in the table. -/
def rowImmedBytes (opcode : Nat) (r : BitVec 3) : Nat :=
  OpcodeTable.immedBytes (OpcodeTable.selectReg r (OpcodeTable.row opcode))

theorem insnImmedBytes_eq_row (opcode : BitVec 8) (r : BitVec 3) :
    insnImmedBytes .generated opcode r = rowImmedBytes opcode.toNat r := by
  unfold rowImmedBytes
  rw [<- OpcodeTable.select_eq_row]
  cases hsel : OpcodeTable.select opcode r with
  | none =>
      simp [insnImmedBytes, OpcodeTable.generated, OpcodeTable.immedBytes,
        OpcodeTable.insnImmedCountGen, hsel]
  | some e =>
      simp [insnImmedBytes, OpcodeTable.generated, OpcodeTable.immedBytes,
        OpcodeTable.insnImmedCountGen, OpcodeTable.insnImmedIs8bitGen,
        immediateBytes, hsel]

/-- The handler fetches what the table says for the opcode. -/
inductive Fetches (env : Environment W) (opcode : Nat) (m : EmuM W Unit) :
    Prop where
  | plain (k : Nat)
      (hmodrm : rowHasModrm opcode = false)
      (hbytes : rowImmedBytes opcode 0#3 = k)
      (htakes : forall d, Takes env d 0 k m)
  | modrm (k : BitVec 3 -> Nat)
      (hmodrm : rowHasModrm opcode = true)
      (hbytes : forall r, rowImmedBytes opcode r = k r)
      (htakes : forall b, ModrmTakes env b (k (b.extractLsb' 3 3)) m)

section Fetches

set_option synthInstance.maxSize 1000000

variable {env : Environment W} (henv : env.addressing.LinearBytes)
  {opcode : Nat}

include henv

/-- One number of bytes for all register fields. -/
theorem Fetches.uniform {k : Nat} {m body : EmuM W Unit}
    (hmodrm : rowHasModrm opcode = true)
    (hbytes : forall r, rowImmedBytes opcode r = k)
    [hopens : OpensWithModrm m body]
    (hmem : forall (d : ModRMDecoder) [Fact (d.isDecoded = true)]
      [Fact (d.addrIsCached = true)] [Fact (d.rmType = .OP_MEM)],
      Takes env d 0 k body)
    (hreg : forall (d : ModRMDecoder) [Fact (d.isDecoded = true)]
      [Fact (d.rmType = .OP_REG)], Takes env d 0 k body) :
    Fetches env opcode m :=
  .modrm (fun _ => k) hmodrm hbytes fun b =>
    hopens.takes env b
      (modrmTakes_decode env b henv (fun d _ => hmem d) (fun d _ => hreg d))

/-- A number of bytes that the register field selects. -/
theorem Fetches.group (k : BitVec 3 -> Nat) {m body : EmuM W Unit}
    (hmodrm : rowHasModrm opcode = true)
    (hbytes : forall r, rowImmedBytes opcode r = k r)
    [hopens : OpensWithModrm m body]
    (hmem : forall (d : ModRMDecoder) [Fact (d.isDecoded = true)]
      [Fact (d.addrIsCached = true)] [Fact (d.rmType = .OP_MEM)],
      Takes env d 0 (k d.rawReg) body)
    (hreg : forall (d : ModRMDecoder) [Fact (d.isDecoded = true)]
      [Fact (d.rmType = .OP_REG)], Takes env d 0 (k d.rawReg) body) :
    Fetches env opcode m :=
  .modrm k hmodrm hbytes fun b =>
    hopens.takes env b
      (modrmTakes_decode env b henv
        (fun d hd => by
          intro _ _ _
          subst hd
          exact hmem d)
        (fun d hd => by
          intro _ _
          subst hd
          exact hreg d))

omit henv in
theorem takes_ite {d : ModRMDecoder} {i j : Nat} {c : Prop} [Decidable c]
    {a b : EmuM W Unit} (ha : Takes env d i j a) (hb : Takes env d i j b) :
    Takes env d i j (if c then a else b) :=
  advances_ite _ _ _ _ _ _ c a b

omit henv in
/-- `MOV` to r/m has an immediate for register field 0 only. -/
theorem takes_movRmImmediate {d : ModRMDecoder} {k : Nat}
    [hdec : Fact (d.isDecoded = true)] {a : EmuM W Unit}
    (ha : Takes env d 0 k a) :
    Takes env d 0 (if d.rawReg = 0#3 then k else 0)
      (rawReg >>= fun r => if r = 0#3 then a else pure ()) := by
  by_cases h : d.rawReg = 0#3
  · rw [if_pos h]
    exact takes_decoded env d 0 (takes_pos env d 0 h ha)
  · rw [if_neg h]
    exact takes_decoded env d 0 (takes_neg env d 0 h inferInstance)

omit henv in
/-- The groups F6 and F7 have an immediate for `TEST` only. -/
theorem takes_negMulNotTestDiv {d : ModRMDecoder} {k : Nat}
    [hdec : Fact (d.isDecoded = true)]
    {not neg mul imul test div idiv : EmuM W Unit}
    (hnot : Takes env d 0 0 not) (hneg : Takes env d 0 0 neg)
    (hmul : Takes env d 0 0 mul) (himul : Takes env d 0 0 imul)
    (htest : Takes env d 0 k test) (hdiv : Takes env d 0 0 div)
    (hidiv : Takes env d 0 0 idiv) :
    Takes env d 0 (if d.rawReg = 0#3 ∨ d.rawReg = 1#3 then k else 0)
      (rawReg >>= fun r =>
        if r = 2#3 then not
        else if r = 3#3 then neg
        else if r = 4#3 then mul
        else if r = 5#3 then imul
        else if r = 0#3 ∨ r = 1#3 then test
        else if r = 6#3 then div
        else idiv) := by
  apply takes_decoded env d 0
  by_cases h : d.rawReg = 0#3 ∨ d.rawReg = 1#3
  · rw [if_pos h]
    refine takes_neg env d 0 ?_ (takes_neg env d 0 ?_ (takes_neg env d 0 ?_
      (takes_neg env d 0 ?_ (takes_pos env d 0 h htest))))
    all_goals
      rcases h with h | h <;> rw [h] <;> decide
  · rw [if_neg h]
    exact takes_ite hnot (takes_ite hneg (takes_ite hmul (takes_ite himul
      (takes_neg env d 0 h (takes_ite hdiv hidiv)))))

omit henv in
/-- The operations of group FF; three of them assert their register field. -/
theorem takes_pushIncJmpCall {d : ModRMDecoder}
    [hdec : Fact (d.isDecoded = true)]
    {push inc dec callIntra callInter jmpIntra jmpInter : EmuM W Unit}
    (hpush : [Fact (d.rawReg = 6#3)] -> Takes env d 0 0 push)
    (hinc : [Fact (d.rawReg = 0#3)] -> Takes env d 0 0 inc)
    (hdec' : [Fact (d.rawReg = 1#3)] -> Takes env d 0 0 dec)
    (hcalls : Takes env d 0 0 callIntra) (hcallf : Takes env d 0 0 callInter)
    (hjmps : Takes env d 0 0 jmpIntra) (hjmpf : Takes env d 0 0 jmpInter) :
    Takes env d 0 0
      (rawReg >>= fun r =>
        if r = 6#3 then push
        else if r = 0#3 then inc
        else if r = 1#3 then dec
        else if r = 2#3 then callIntra
        else if r = 3#3 then callInter
        else if r = 4#3 then jmpIntra
        else if r = 5#3 then jmpInter
        else invalidOpcode) := by
  apply takes_decoded env d 0
  exact takes_ite_rawReg env d 0 hpush (takes_ite_rawReg env d 0 hinc
    (takes_ite_rawReg env d 0 hdec' (takes_ite hcalls (takes_ite hcallf
      (takes_ite hjmps (takes_ite hjmpf inferInstance))))))

omit henv in
theorem forall_mem_case {lo hi : Nat} {handler : EmuM W Unit}
    {rest : List (Case W)} (hfirst : Fetches env lo handler)
    (hrest : forall c, c ∈ rest -> Fetches env c.lo c.handler) :
    forall c : Case W, c ∈ ⟨lo, hi, handler⟩ :: rest ->
      Fetches env c.lo c.handler :=
  List.forall_mem_cons.mpr ⟨hfirst, hrest⟩

/-- Every handler fetches what the table says for its first opcode. -/
theorem fetches_cases :
    forall c : Case W, c ∈ cases -> Fetches env c.lo c.handler := by
  unfold cases
  repeat' first
    | exact List.forall_mem_nil _
    | refine forall_mem_case (.plain _ (by decide +kernel)
        (by decide +kernel) fun d => inferInstance) ?_
    | refine forall_mem_case (.uniform henv (by decide +kernel)
        (by decide +kernel) (fun d _ _ _ => inferInstance)
        fun d _ _ => inferInstance) ?_
    | refine forall_mem_case (.group henv
        (fun r => if r = 0#3 then _ else 0) (by decide +kernel)
        (by decide +kernel) (fun d _ _ _ => takes_movRmImmediate inferInstance)
        fun d _ _ => takes_movRmImmediate inferInstance) ?_
    | refine forall_mem_case (.group henv
        (fun r => if r = 0#3 ∨ r = 1#3 then _ else 0) (by decide +kernel)
        (by decide +kernel)
        (fun d _ _ _ => takes_negMulNotTestDiv inferInstance inferInstance
          inferInstance inferInstance inferInstance inferInstance
          inferInstance)
        fun d _ _ => takes_negMulNotTestDiv inferInstance inferInstance
          inferInstance inferInstance inferInstance inferInstance
          inferInstance) ?_
    | refine forall_mem_case (.uniform henv (by decide +kernel)
        (by decide +kernel)
        (fun d _ _ _ => takes_pushIncJmpCall inferInstance inferInstance
          inferInstance inferInstance inferInstance inferInstance
          inferInstance)
        fun d _ _ => takes_pushIncJmpCall inferInstance inferInstance
          inferInstance inferInstance inferInstance inferInstance
          inferInstance) ?_

end Fetches

/-- The opcodes of each case. -/
def ranges : List (Nat × Nat) :=
  (cases : List (Case Unit)).map fun c => (c.lo, c.hi)

/-- The table treats two opcodes alike. -/
def SameRow (a b : Nat) : Prop :=
  rowHasModrm a = rowHasModrm b ∧
    forall r, rowImmedBytes a r = rowImmedBytes b r

instance (a b : Nat) : Decidable (SameRow a b) :=
  inferInstanceAs (Decidable (_ ∧ _))

/-- An opcode is like the first one of its case; without a case it has neither
a ModRM byte nor immediates. -/
def RowOfCase (opcode : Nat) : Option (Nat × Nat) -> Prop
  | some r => r.1 = opcode ∨ SameRow r.1 opcode
  | none => rowHasModrm opcode = false ∧ rowImmedBytes opcode 0#3 = 0

instance (opcode : Nat) : (r : Option (Nat × Nat)) ->
    Decidable (RowOfCase opcode r)
  | some _ => inferInstanceAs (Decidable (_ ∨ _))
  | none => inferInstanceAs (Decidable (_ ∧ _))

theorem rowOfCase_ranges :
    forall opcode, opcode < 256 -> RowOfCase opcode (ranges.find? fun r =>
      r.1 ≤ opcode && opcode ≤ r.2) := by
  decide +kernel

theorem Fetches.of_sameRow {env : Environment W} {m : EmuM W Unit}
    {lo opcode : Nat} (h : SameRow lo opcode)
    (hfetches : Fetches env lo m) : Fetches env opcode m := by
  cases hfetches with
  | plain k hmodrm hbytes htakes =>
      exact .plain k (h.1 ▸ hmodrm) (h.2 _ ▸ hbytes) htakes
  | modrm k hmodrm hbytes htakes =>
      exact .modrm k (h.1 ▸ hmodrm) (fun r => h.2 r ▸ hbytes r) htakes

theorem fetches_execute {env : Environment W}
    (henv : env.addressing.LinearBytes) (opcode : BitVec 8) :
    Fetches env opcode.toNat (execute opcode) := by
  have htable := rowOfCase_ranges opcode.toNat opcode.isLt
  have hranges : ranges = (cases : List (Case W)).map fun c => (c.lo, c.hi) :=
    rfl
  rw [hranges, List.find?_map] at htable
  change RowOfCase opcode.toNat (((cases : List (Case W)).find? fun c =>
    c.covers opcode).map fun c => (c.lo, c.hi)) at htable
  unfold execute
  cases hfind : (cases : List (Case W)).find? fun c => c.covers opcode with
  | none =>
      rw [hfind] at htable
      exact .plain 0 htable.1 htable.2 fun d => advances_pure _ _ _ _ _ _
  | some c =>
      rw [hfind] at htable
      have hcase := fetches_cases henv c (List.mem_of_find?_eq_some hfind)
      rcases htable with heq | hrow
      · exact heq ▸ hcase
      · exact hcase.of_sameRow hrow

end Sim
end S80x86
