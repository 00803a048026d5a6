import S80x86.Sim.Operations

/-!
# Addressing at the limits

The emulator computes with displacements wider than 16 bits and copies
consecutive bytes; the RTL reduces every offset and every linear address.  The
two agree on an access unless it is at a limit of its segment or of memory.
-/

namespace S80x86
namespace Sim

open Foundation.Effect

/-- An offset beyond `FFFF` before it is reduced, or a byte beyond `FFFFF`. -/
def Place.AtLimit (x : Place) : Prop :=
  2 ^ 16 ≤ (x.addr.displacement + x.addr.plus) % memorySize ∨
    (x.type.sizeof = 4 ∧
      2 ^ 16 ≤ (x.addr.displacement + x.addr.plus + 2) % memorySize) ∨
    memorySize < x.addr.linear + x.type.sizeof

instance (x : Place) : Decidable x.AtLimit := by
  unfold Place.AtLimit
  infer_instance

theorem linear_mod (a : Access) (i : Nat) :
    (a.addr.linear + i) % memorySize =
      (a.addr.segment.toNat * 16 + (a.addr.displacement + a.addr.plus) + i) %
        memorySize := by
  unfold PhysAddr.linear memorySize
  omega

/-- A word whose offset needs no reduction is where the emulator looks. -/
theorem reduced_offset_iff (base offset k : Nat) :
    (base + offset + k) % memorySize =
        (base + offset % 2 ^ 16 + k) % memorySize ↔
      offset % memorySize < 2 ^ 16 := by
  unfold memorySize
  omega

theorem byte_eq_iff (a : Access) (i : Nat) :
    BitVec.ofNat 20 (a.addr.linear + i) = Addressing.rtlByte a i ↔
      (a.addr.displacement + a.addr.plus + i / 2 * 2) % memorySize
        < 2 ^ 16 := by
  have hsplit : i / 2 * 2 + i % 2 = i := Nat.div_add_mod' i 2
  have hlin := linear_mod a i
  rw [<- reduced_offset_iff (a.addr.segment.toNat * 16) _ (i % 2)]
  constructor
  · intro h
    have hnat := congrArg BitVec.toNat h
    simp only [Addressing.rtlByte, BitVec.toNat_ofNat] at hnat
    rw [show (2 : Nat) ^ 20 = memorySize from rfl] at hnat
    rw [<- hnat, hlin]
    congr 1
    omega
  · intro h
    apply BitVec.eq_of_toNat_eq
    simp only [Addressing.rtlByte, BitVec.toNat_ofNat]
    rw [show (2 : Nat) ^ 20 = memorySize from rfl, hlin, <- h]
    congr 1
    omega

theorem emulator_of_within {a : Access}
    (h : a.addr.linear + a.size ≤ memorySize) :
    Addressing.emulator a = Addressing.rtl a ↔
      forall i, i < a.size ->
        (a.addr.displacement + a.addr.plus + i / 2 * 2) % memorySize
          < 2 ^ 16 := by
  unfold Addressing.emulator Addressing.rtl
  rw [if_pos h, Option.some.injEq, List.map_inj_left]
  constructor
  · intro heq i hi
    exact (byte_eq_iff a i).mp (heq i (List.mem_range.mpr hi))
  · intro heq i hi
    exact (byte_eq_iff a i).mpr (heq i (List.mem_range.mp hi))

/-- The two policies agree on an access exactly when it is not at a limit. -/
theorem emulator_eq_rtl_iff (a : Access) :
    Addressing.emulator a = Addressing.rtl a ↔
      ¬Place.AtLimit { addr := a.addr, type := a.type } := by
  by_cases h : a.addr.linear + a.size ≤ memorySize
  · rw [emulator_of_within h]
    unfold Place.AtLimit
    dsimp only
    unfold Access.size at h ⊢
    constructor
    · intro hall
      have h0 := hall 0
      have h2 := hall 2
      cases htype : a.type <;>
        simp only [htype, AccessType.sizeof, memorySize] at h h0 h2 ⊢ <;>
        omega
    · intro hnot i hi
      cases htype : a.type <;>
        simp only [htype, AccessType.sizeof, memorySize, true_and]
          at h hi hnot ⊢
      · obtain rfl : i = 0 := by omega
        omega
      · have hhalf : i / 2 * 2 = 0 := by omega
        omega
      · have hhalf : i / 2 * 2 = 0 ∨ i / 2 * 2 = 2 := by omega
        omega
  · constructor
    · intro heq
      simp only [Addressing.emulator, Addressing.rtl, if_neg h] at heq
      cases heq
    · intro hnot
      exact absurd (Or.inr (Or.inr (Nat.lt_of_not_le h))) hnot

/-- Where the RTL fetches byte `k` of the instruction at `CS:IP`. -/
def RegisterFile.codeAddress (r : RegisterFile) (k : Nat) : BitVec 20 :=
  BitVec.ofNat 20 (r.cs.toNat * 16 + (r.ip.toNat + k) % 2 ^ 16)

theorem emulator_codeAccess (cs ip : BitVec 16) (k : Nat) :
    Addressing.emulator (codeAccess cs ip k) =
      some [BitVec.ofNat 20 (cs.toNat * 16 + (ip.toNat + k))] := by
  rw [codeAccess, Addressing.linearBytes_emulator _ _ _ rfl]
  congr 2
  apply BitVec.eq_of_toNat_eq
  rw [BitVec.toNat_ofNat, BitVec.toNat_ofNat]
  unfold getPhysAddr PhysAddr.linear memorySize
  dsimp only
  omega

/-- A byte is fetched as the RTL does unless it is one segment further. -/
theorem emulator_codeAccess_iff (r : RegisterFile) {k : Nat}
    (hk : r.ip.toNat + k ≤ 2 ^ 16) :
    Addressing.emulator (codeAccess r.cs r.ip k) = some [r.codeAddress k] ↔
      r.ip.toNat + k < 2 ^ 16 := by
  have hcs := r.cs.isLt
  rw [emulator_codeAccess, RegisterFile.codeAddress, Option.some.injEq,
    List.cons.injEq, and_iff_left rfl, <- BitVec.toNat_inj,
    BitVec.toNat_ofNat, BitVec.toNat_ofNat]
  omega

/-!
## What is asked for and when it holds
-/

variable {W : Type}

section Operation

variable (env : Environment W) (op : Operation) (e : Emulator W)

/-- The accesses of an operation in the emulator. -/
def accesses : List Access := (op.run (env.withAddressing .emulator) e).1

/-- The places of an operation in the emulator. -/
def places : Set Place := op.places (env.withAddressing .emulator) e

/-- No access fails the assertion of `Memory`, byte `k` of an instruction comes
from where the RTL fetches it, and data is where the RTL reads and writes. -/
structure Addresses : Prop where
  code : forall k a, ((accesses env op e).filter Access.code)[k]? = some a ->
    Addressing.emulator a = some [e.registers.codeAddress k]
  data : forall a, a ∈ accesses env op e -> a.code = false ->
    Addressing.emulator a =
      some ((List.range a.size).map (Addressing.rtlByte a))

/-- The instruction ends and lies in its segment, and no data of the operation
is at a limit. -/
structure Inside : Prop where
  code : op = .insn -> exists n, e.insnLength = some n ∧
    e.registers.ip.toNat + n ≤ 2 ^ 16
  data : forall x, x ∈ places env op e -> ¬x.AtLimit

/-- The bytes of an instruction are fetched from `CS:IP` on, and data is
accessed at the places of the operation, at all of them unless an access
fails. -/
structure Touched : Prop where
  code : exists n, (accesses env op e).filter Access.code =
    (List.range n).map (codeAccess e.registers.cs e.registers.ip)
  data : Touches (places env op e) (op.run (env.withAddressing .emulator) e)

theorem touched : Touched env op e := by
  constructor
  · by_cases hop : op = .insn
    · rw [hop]
      exact runInsn_inOrder e
    · exact ⟨0, fetches_operation op hop⟩
  · exact touches_operation rfl op e

variable {env op e}

/-- An operation whose accesses are accepted is not stopped by one. -/
theorem not_faults_of_accepted
    (h : forall a, a ∈ accesses env op e -> Addressing.emulator a ≠ none)
    (a : Access) :
    ¬Faults op.run (env.withAddressing .emulator) e (.memoryAssertion a) := by
  intro hfault
  obtain ⟨hmade, hnone⟩ := (explains_operation op).explained e _ hfault
  exact h a hmade hnone

theorem Addresses.not_faults (h : Addresses env op e) (a : Access) :
    ¬Faults op.run (env.withAddressing .emulator) e (.memoryAssertion a) := by
  refine not_faults_of_accepted (fun b hb => ?_) a
  cases hcode : b.code with
  | true =>
      have hfetch : b ∈ (accesses env op e).filter Access.code :=
        List.mem_filter.mpr ⟨hb, hcode⟩
      obtain ⟨k, hk⟩ := List.mem_iff_getElem?.mp hfetch
      rw [h.code k b hk]
      exact Option.some_ne_none _
  | false =>
      rw [h.data b hb hcode]
      exact Option.some_ne_none _

/-- Byte 2^16 - IP would be the first beyond the segment. -/
theorem Addresses.inside_code (h : Addresses env .insn e) :
    exists n, e.insnLength = some n ∧ e.registers.ip.toNat + n ≤ 2 ^ 16 := by
  have hfetches := runInsn_fetches rfl h.not_faults
  have hip := e.registers.ip.isLt
  have hle : e.registers.ip.toNat + e.insnLength.getD memorySize ≤ 2 ^ 16 := by
    by_contra hbeyond
    let k := 2 ^ 16 - e.registers.ip.toNat
    have hk : k < e.insnLength.getD memorySize := by omega
    have hget : ((accesses env .insn e).filter Access.code)[k]? =
        some (codeAccess e.registers.cs e.registers.ip k) := by
      change (fetches (runInsn (env.withAddressing .emulator) e))[k]? = _
      rw [hfetches, List.getElem?_map, List.getElem?_range hk]
      rfl
    have hlast := (emulator_codeAccess_iff e.registers (k := k)
      (by omega)).mp (h.code k _ hget)
    omega
  cases hlength : e.insnLength with
  | none =>
      rw [hlength] at hle
      have hsize : memorySize = 1048576 := rfl
      simp only [Option.getD_none, hsize] at hle
      omega
  | some n =>
      rw [hlength] at hle
      exact ⟨n, rfl, hle⟩

theorem Addresses.inside (h : Addresses env op e) : Inside env op e := by
  constructor
  · rintro rfl
    exact h.inside_code
  · intro x hx
    have hmemory : forall y,
        (op.run (env.withAddressing .emulator) e).2 = .error y ->
          ¬y.OfMemory := by
      intro y hy hbad
      cases y with
      | memoryAssertion a =>
          exact h.not_faults a hy
      | _ =>
          exact hbad
    obtain ⟨a, ha, hplace⟩ := (touched env op e).data.complete hmemory x hx
    unfold Access.place at hplace
    cases hcode : a.code with
    | true =>
        rw [hcode] at hplace
        cases hplace
    | false =>
        rw [hcode] at hplace
        cases hplace
        exact (emulator_eq_rtl_iff a).mp (h.data a ha hcode)

theorem Inside.data_eq (h : Inside env op e) {a : Access}
    (ha : a ∈ accesses env op e) (hcode : a.code = false) :
    Addressing.emulator a = Addressing.rtl a := by
  rw [emulator_eq_rtl_iff]
  apply h.data
  apply (touched env op e).data.sound a ha
  unfold Access.place
  rw [hcode]
  rfl

theorem Inside.not_faults (h : Inside env op e) (a : Access) :
    ¬Faults op.run (env.withAddressing .emulator) e (.memoryAssertion a) := by
  refine not_faults_of_accepted (fun b hb => ?_) a
  cases hcode : b.code with
  | true =>
      obtain ⟨n, hn⟩ := (touched env op e).code
      have hfetch : b ∈ (accesses env op e).filter Access.code :=
        List.mem_filter.mpr ⟨hb, hcode⟩
      rw [hn] at hfetch
      obtain ⟨i, _, rfl⟩ := List.mem_map.mp hfetch
      rw [emulator_codeAccess]
      exact Option.some_ne_none _
  | false =>
      rw [h.data_eq hb hcode]
      exact Option.some_ne_none _

theorem Inside.addresses (h : Inside env op e) : Addresses env op e := by
  refine ⟨?_, fun a ha hcode => h.data_eq ha hcode⟩
  intro k a hk
  have hop : op = .insn := by
    by_contra hother
    rw [show (accesses env op e).filter Access.code = [] from
      fetches_operation op hother] at hk
    cases hk
  subst hop
  obtain ⟨n, hn, hle⟩ := h.code rfl
  have hfetches := runInsn_fetches rfl h.not_faults
  rw [hn] at hfetches
  change (fetches (runInsn (env.withAddressing .emulator) e))[k]? = _ at hk
  rw [hfetches, Option.getD_some, List.getElem?_map] at hk
  obtain ⟨i, hi, rfl⟩ := Option.map_eq_some_iff.mp hk
  obtain ⟨hlt, rfl⟩ := List.getElem?_eq_some_iff.mp hi
  rw [List.length_range] at hlt
  rw [List.getElem_range]
  exact (emulator_codeAccess_iff e.registers (by omega)).mpr (by omega)

end Operation

/-- An operation of the emulator touches the data that the state before it
tells and fetches from `CS:IP` on; these are the accesses of the RTL exactly if
none is at a limit.  The accesses of a step are those of its operations. -/
theorem emulator_addresses_iff (env : Environment W) (e : Emulator W) :
    (forall op, Touched env op e ∧
      (Addresses env op e ↔ Inside env op e)) ∧
      forall a, a ∈ (step (env.withAddressing .emulator) e).1 ->
        exists op s, Within (env.withAddressing .emulator) e op s ∧
          a ∈ accesses env op s :=
  ⟨fun op => ⟨touched env op e, Addresses.inside, Inside.addresses⟩,
    fun _ ha => makes_step ha⟩

/-- `MOV AL, imm8` at `1000:FFFF`, its second byte past the segment's end. -/
def movAtSegmentEnd : Emulator Unit :=
  let e := Emulator.fresh () fun a => if a = 0x1ffff#20 then 0xb0#8 else 0#8
  { e with registers := { e.registers with cs := 0x1000#16, ip := 0xffff#16 } }

theorem mov_fetch_past_segment : ¬Addresses .bare .insn movAtSegmentEnd := by
  intro h
  have hfetch : ((accesses .bare .insn movAtSegmentEnd).filter
      Access.code)[1]? = some (codeAccess 0x1000#16 0xffff#16 1) := by
    decide +kernel
  have hbyte := h.code 1 _ hfetch
  revert hbyte
  decide +kernel

end Sim
end S80x86
