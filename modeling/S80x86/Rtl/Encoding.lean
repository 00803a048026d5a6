import S80x86.Rtl.Parser

/-!
# The bytes of a parsed instruction

How many bytes each stage of the parser takes and what it leaves of the record
it was given.
-/

namespace S80x86
namespace Rtl

/-- The length with the bit that marks an overflow. -/
def Instruction.total (i : Instruction) : Nat :=
  (if i.invalid then 16 else 0) + i.length.toNat

theorem Instruction.total_addLength (i : Instruction) (n : Nat) :
    (i.addLength n).total = (i.total + n) % 32 := by
  unfold Instruction.total Instruction.addLength
  simp only [BitVec.toNat_ofNat, decide_eq_true_eq]
  split <;> split <;> omega

theorem Instruction.total_latchOpcode (T : OpcodeTable) (i : Instruction)
    (b : BitVec 8) : (latchOpcode T i b).total = i.total := by
  unfold latchOpcode
  repeat' split
  all_goals rfl

theorem Instruction.length_of_total {i : Instruction} (h : i.total ≤ 15) :
    i.length.toNat = i.total := by
  unfold Instruction.total at h ⊢
  cases hinvalid : i.invalid with
  | false =>
      simp
  | true =>
      simp [hinvalid] at h
      omega

namespace Parser

theorem takeImmediate_length {is8bit : Bool} {bytes rest : List Byte}
    {v : BitVec 16} (h : takeImmediate is8bit bytes = some (v, rest)) :
    bytes.length = rest.length + immediateBytes is8bit := by
  unfold takeImmediate at h
  split at h
  · cases h
    rfl
  · cases h
    rfl
  · cases h

/-- The record grows by `n` bytes and keeps its opcode, ModRM byte and
displacement. -/
structure Reads (acc i : Instruction) (bytes rest : List Byte) (n : Nat) :
    Prop where
  length : bytes.length = rest.length + n
  total : i.total = (acc.total + n) % 32
  opcode : i.opcode = acc.opcode
  modRm : i.modRm = acc.modRm
  displacement : i.displacement = acc.displacement

theorem Reads.trans {acc i j : Instruction} {bytes left rest : List Byte}
    {m n : Nat} (h : Reads acc i bytes left m) (h' : Reads i j left rest n) :
    Reads acc j bytes rest (m + n) where
  length := by
    have hfirst := h.length
    have hsecond := h'.length
    omega
  total := by
    have hfirst := h.total
    have hsecond := h'.total
    omega
  opcode := h'.opcode.trans h.opcode
  modRm := h'.modRm.trans h.modRm
  displacement := h'.displacement.trans h.displacement

variable {T : OpcodeTable} {acc i : Instruction} {bytes rest : List Byte}

theorem parseImmed2_reads (h : parseImmed2 T acc bytes = some (i, rest)) :
    Reads acc i bytes rest
      (immediateBytes (T.insnImmedIs8bit acc.opcode acc.reg true)) := by
  unfold parseImmed2 at h
  cases htake : takeImmediate (T.insnImmedIs8bit acc.opcode acc.reg true)
      bytes with
  | none =>
      simp [htake] at h
  | some taken =>
      rcases taken with ⟨v, left⟩
      simp only [htake] at h
      cases h
      exact ⟨takeImmediate_length htake, acc.total_addLength _, rfl, rfl, rfl⟩

theorem parseImmed1_reads (h : parseImmed1 T acc bytes = some (i, rest)) :
    Reads acc i bytes rest
      (immediateBytes (T.insnImmedIs8bit acc.opcode acc.reg false) +
        if T.insnImmedCount acc.opcode acc.reg = 2#2 then
          immediateBytes (T.insnImmedIs8bit acc.opcode acc.reg true)
        else 0) := by
  unfold parseImmed1 at h
  cases htake : takeImmediate (T.insnImmedIs8bit acc.opcode acc.reg false)
      bytes with
  | none =>
      simp [htake] at h
  | some taken =>
      rcases taken with ⟨v, left⟩
      simp only [htake] at h
      have hfirst : Reads acc
          { acc.addLength (immediateBytes
              (T.insnImmedIs8bit acc.opcode acc.reg false)) with
            immediates0 := v } bytes left
          (immediateBytes (T.insnImmedIs8bit acc.opcode acc.reg false)) :=
        ⟨takeImmediate_length htake, acc.total_addLength _, rfl, rfl, rfl⟩
      split at h
      · next htwo =>
          rw [if_pos htwo]
          exact hfirst.trans (parseImmed2_reads h)
      · next htwo =>
          rw [if_neg htwo]
          cases h
          exact hfirst

theorem parseImmediates_reads
    (h : parseImmediates T acc bytes = some (i, rest)) :
    Reads acc i bytes rest (insnImmedBytes T acc.opcode acc.reg) := by
  unfold parseImmediates at h
  unfold insnImmedBytes
  split at h
  · next hzero =>
      rw [if_pos hzero]
      cases h
      refine ⟨rfl, ?_, rfl, rfl, rfl⟩
      have hlt : acc.total < 32 := by
        unfold Instruction.total
        split <;> omega
      omega
  · next hzero =>
      rw [if_neg hzero]
      exact parseImmed1_reads h

/-- The bytes of the displacement after a ModRM byte. -/
def displacementBytes (mbyte : BitVec 8) : Nat :=
  if hasDisplacement mbyte then immediateBytes (displacementIs8bit mbyte)
  else 0

/-- What a parse from the ModRM byte `b` on makes of the bytes after it. -/
structure ReadsModrm (T : OpcodeTable) (acc i : Instruction) (b : Byte)
    (bytes rest : List Byte) : Prop where
  length : bytes.length = rest.length + displacementBytes b +
    insnImmedBytes T acc.opcode (b.extractLsb' 3 3)
  total : i.total = (acc.total + 1 + displacementBytes b +
    insnImmedBytes T acc.opcode (b.extractLsb' 3 3)) % 32
  opcode : i.opcode = acc.opcode
  modRm : i.modRm = b
  displacement : hasDisplacement b = true ->
    exists left, takeImmediate (displacementIs8bit b) bytes =
      some (i.displacement, left)

theorem parseModrm_reads {b : Byte}
    (h : parseModrm T acc (b :: bytes) = some (i, rest)) :
    ReadsModrm T acc i b bytes rest := by
  simp only [parseModrm] at h
  have htotal := acc.total_addLength 1
  split at h
  · next hdisp =>
      simp only [parseDisplacement] at h
      cases htake : takeImmediate (displacementIs8bit b) bytes with
      | none =>
          simp [htake] at h
      | some taken =>
          rcases taken with ⟨v, left⟩
          simp only [htake] at h
          have hread := parseImmediates_reads h
          have hlength := takeImmediate_length htake
          have hbytes : displacementBytes b =
              immediateBytes (displacementIs8bit b) := if_pos hdisp
          refine ⟨?_, ?_, hread.opcode, hread.modRm, fun _ => ⟨left, ?_⟩⟩
          · have hrest := hread.length
            change left.length = rest.length +
              insnImmedBytes T acc.opcode (b.extractLsb' 3 3) at hrest
            omega
          · have hsum := hread.total
            change i.total = (Instruction.total (Instruction.addLength _ _) +
              insnImmedBytes T acc.opcode (b.extractLsb' 3 3)) % 32 at hsum
            rw [Instruction.total_addLength] at hsum
            change i.total = (((acc.addLength 1).total +
              immediateBytes (displacementIs8bit b)) % 32 + _) % 32 at hsum
            omega
          · rw [htake, hread.displacement]
  · next hdisp =>
      have hread := parseImmediates_reads h
      have hbytes : displacementBytes b = 0 := if_neg hdisp
      refine ⟨?_, ?_, hread.opcode, hread.modRm, fun h => absurd h hdisp⟩
      · rw [hbytes]
        exact hread.length
      · have hsum := hread.total
        change i.total = ((acc.addLength 1).total +
          insnImmedBytes T acc.opcode (b.extractLsb' 3 3)) % 32 at hsum
        omega

/-- The length of a record is the number of its bytes. -/
theorem length_of_parse (hlen : bytes.length ≤ 15)
    (hparse : parseInstruction T .zero bytes = some (i, [])) :
    i.length.toNat = bytes.length := by
  have htotal : forall (bytes : List Byte) (acc : Instruction),
      parseInstruction T acc bytes = some (i, []) ->
      i.total = (acc.total + bytes.length) % 32 := by
    intro bytes
    induction bytes with
    | nil =>
        intro acc h
        cases h
    | cons b rest ih =>
        intro acc h
        have hgrown := Instruction.total_latchOpcode T
          (acc.addLength 1) b
        rw [Instruction.total_addLength] at hgrown
        simp only [parseInstruction] at h
        simp only [List.length_cons]
        split at h
        · have hrest := ih _ h
          omega
        · split at h
          · cases rest with
            | nil =>
                cases h
            | cons m left =>
                have hreads := parseModrm_reads h
                have hsum := hreads.total
                have hcount := hreads.length
                simp only [List.length_nil] at hcount
                simp only [List.length_cons]
                omega
          · have hreads := parseImmediates_reads h
            have hsum := hreads.total
            have hcount := hreads.length
            simp only [List.length_nil] at hcount
            omega
  have hsum := htotal bytes .zero hparse
  rw [show Instruction.total .zero = 0 from rfl] at hsum
  rw [Instruction.length_of_total (by omega), hsum]
  omega

end Parser
end Rtl
end S80x86
