import S80x86.Sim.Emulate
import S80x86.Sim.Decode

/-!
# How many bytes an instruction fetches

Every handler fetches a number of bytes that its opcode and its ModRM byte fix,
and leaves the decoder as decoding set it.
-/

namespace S80x86
namespace Sim

open Foundation.Effect

variable {W : Type}

/-- The faults an instruction can stop with: an access beyond the end of
memory and a host division without a result. -/
def Fault.Expected : Fault -> Prop
  | memoryAssertion _ => True
  | undefinedDivision => True
  | assertion => False
  | endlessPrefixes => False

/-- The code fetches bytes `i` up to `j` of the instruction and leaves the
decoder `d` as it is. -/
abbrev Takes (env : Environment W) (d : ModRMDecoder) (i : Nat)
    (j : outParam Nat) (m : EmuM W α) : Prop :=
  Advances (fun e => e.modrmDecoder = d) Emulator.instrLength Fault.Expected
    env i j m

section Takes

set_option synthInstance.maxSize 1000000

variable (env : Environment W) (d : ModRMDecoder) (i : Nat)

instance (r : GPR) : Takes env d i i (get r) := ⟨fun _ _ h hi => ⟨h, hi⟩⟩

instance (r : GPR) (v : BitVec 16) : Takes env d i i (set r v) :=
  ⟨fun _ _ h hi => ⟨h, hi⟩⟩

instance : Takes env d i i getFlags := ⟨fun _ _ h hi => ⟨h, hi⟩⟩

instance (f : BitVec 16) : Takes env d i i (getFlag f) := ⟨fun _ _ h hi => ⟨h, hi⟩⟩

instance (f : (BitVec 16 -> Bool) -> Bool) : Takes env d i i (flagTest f) :=
  ⟨fun _ _ h hi => ⟨h, hi⟩⟩

instance (v mask : BitVec 16) : Takes env d i i (setFlags v mask) :=
  ⟨fun _ _ h hi => ⟨h, hi⟩⟩

instance (a : Access) : Takes env d i i (resolve a) where
  outcome e base h hi := by
    unfold resolve
    cases env.addressing a with
    | none =>
        exact trivial
    | some f =>
        exact ⟨h, hi⟩

instance (a : BitVec 20) : Takes env d i i (loadByte a) :=
  ⟨fun _ _ h hi => ⟨h, hi⟩⟩

instance (a : BitVec 20) (v : BitVec 8) : Takes env d i i (storeByte a v) :=
  ⟨fun _ _ h hi => ⟨h, hi⟩⟩

instance (addr : BitVec 16) (absent : α)
    (call : IOPorts W -> BitVec 16 -> W -> α × W × Raised) :
    Takes env d i i (device addr absent call) where
  outcome e base h hi := by
    unfold device
    dsimp only
    cases env.io (addr &&& ~~~1#16) with
    | none =>
        exact ⟨h, hi⟩
    | some p =>
        exact ⟨h, hi⟩

instance : Takes env d i i getTrapEscape := ⟨fun _ _ h hi => ⟨h, hi⟩⟩

instance : Takes env d i i getInstrLength := ⟨fun _ _ h hi => ⟨h, hi⟩⟩

instance : Takes env d i i getOpcode := ⟨fun _ _ h hi => ⟨h, hi⟩⟩

instance : Takes env d i i getHasRepPrefix := ⟨fun _ _ h hi => ⟨h, hi⟩⟩

instance : Takes env d i i getRep := ⟨fun _ _ h hi => ⟨h, hi⟩⟩

instance : Takes env d i i takeJump := ⟨fun _ _ h hi => ⟨h, hi⟩⟩

instance : Takes env d i i inhibitExtInt := ⟨fun _ _ h hi => ⟨h, hi⟩⟩

instance : Takes env d i (i + 1) nextByte :=
  ⟨fun _ _ h hi => ⟨h, congrArg (· + 1) hi⟩⟩

instance : Takes env d i i getOverride := ⟨fun _ _ h hi => ⟨h, hi⟩⟩

instance : Takes env d i i usesBpAsBase := ⟨fun _ _ h hi => ⟨h, hi⟩⟩

instance : Takes env d i i (fault .undefinedDivision : EmuM W α) :=
  advances_fault _ _ _ _ _ trivial

instance takes_getSegment (stack : Bool) : Takes env d i i (getSegment stack) := by
  unfold getSegment
  cases stack with
  | true =>
      exact advances_pure _ _ _ _ _ _
  | false =>
      refine Advances.bind inferInstance ?_
      intro override
      cases override with
      | none =>
          dsimp only
          infer_instance
      | some segment =>
          dsimp only
          infer_instance

instance takes_enterLoop (n : Nat) : Takes env d i i (enterLoop n) := by
  induction n with
  | zero =>
      unfold enterLoop
      infer_instance
  | succ n ih =>
      unfold enterLoop
      infer_instance

instance takes_repLoop (primitive : EmuM W Unit)
    (shouldTerminate : EmuM W Bool) [Takes env d i i primitive]
    [Takes env d i i shouldTerminate] (n : Nat) :
    Takes env d i i (repLoop primitive shouldTerminate n) := by
  induction n with
  | zero =>
      unfold repLoop
      infer_instance
  | succ n ih =>
      unfold repLoop
      infer_instance

end Takes

/-!
## After the ModRM byte
-/

section Decoded

variable (env : Environment W) (d : ModRMDecoder) (i : Nat) {j : Nat}

instance [hdec : Fact (d.isDecoded = true)] (f : ModRMDecoder -> α) :
    Takes env d i i (decoded f) where
  outcome e base h hi := by
    unfold decoded
    rw [h, hdec.out]
    exact ⟨h, hi⟩

theorem takes_decoded [hdec : Fact (d.isDecoded = true)]
    {f : ModRMDecoder -> α} {g : α -> EmuM W β}
    (hg : Takes env d i j (g (f d))) :
    Takes env d i j (decoded f >>= g) where
  outcome e base h hi := by
    have hrun : decoded f env e = ([], .ok (f d, e)) := by
      unfold decoded
      rw [h, hdec.out]
      rfl
    rw [bind_run, hrun]
    exact hg.outcome e base h hi

instance (priority := high) [Fact (d.isDecoded = true)]
    (f : ModRMDecoder -> α) (g : α -> EmuM W β)
    [hg : Takes env d i j (g (f d))] : Takes env d i j (decoded f >>= g) :=
  takes_decoded env d i hg

instance [hdec : Fact (d.isDecoded = true)]
    [hcached : Fact (d.addrIsCached = true)] :
    Takes env d i i effectiveAddress where
  outcome e base h hi := by
    have hrun : getCachedAddress env e = ([], .ok (some d.cachedAddress, e)) := by
      simp only [getCachedAddress, decoded, h, hdec.out, hcached.out, if_true]
    unfold effectiveAddress
    rw [bind_run, hrun]
    exact ⟨h, hi⟩

/-- A branch on a condition that is known to hold. -/
theorem takes_pos {c : Prop} [Decidable c] (hc : c) {a b : EmuM W α}
    (ha : Takes env d i j a) : Takes env d i j (if c then a else b) := by
  rw [if_pos hc]
  exact ha

theorem takes_neg {c : Prop} [Decidable c] (hc : ¬c) {a b : EmuM W α}
    (hb : Takes env d i j b) : Takes env d i j (if c then a else b) := by
  rw [if_neg hc]
  exact hb

/-- An operation selected by a register field it asserts itself. -/
theorem takes_ite_rawReg {n : BitVec 3} {a b : EmuM W Unit}
    (ha : [Fact (d.rawReg = n)] -> Takes env d i j a)
    (hb : Takes env d i j b) :
    Takes env d i j (if d.rawReg = n then a else b) := by
  by_cases h : d.rawReg = n
  · have hn : Fact (d.rawReg = n) := ⟨h⟩
    exact takes_pos env d i h ha
  · exact takes_neg env d i h hb

section Memory

variable [hmem : Fact (d.rmType = .OP_MEM)] (a b : EmuM W α)

instance (priority := high) [hb : Takes env d i j b] :
    Takes env d i j (if d.rmType = .OP_REG then a else b) :=
  takes_neg env d i (by rw [hmem.out]; decide) hb

instance (priority := high) [ha : Takes env d i j a] :
    Takes env d i j (if d.rmType = .OP_MEM then a else b) :=
  takes_pos env d i hmem.out ha

instance (priority := high) [ha : Takes env d i j a] :
    Takes env d i j (if d.rmType ≠ .OP_REG then a else b) :=
  takes_pos env d i (by rw [hmem.out]; decide) ha

end Memory

section Register

variable [hreg : Fact (d.rmType = .OP_REG)] (a b : EmuM W α)

instance (priority := high) [ha : Takes env d i j a] :
    Takes env d i j (if d.rmType = .OP_REG then a else b) :=
  takes_pos env d i hreg.out ha

instance (priority := high) [hb : Takes env d i j b] :
    Takes env d i j (if d.rmType = .OP_MEM then a else b) :=
  takes_neg env d i (by rw [hreg.out]; decide) hb

instance (priority := high) [hb : Takes env d i j b] :
    Takes env d i j (if d.rmType ≠ .OP_REG then a else b) :=
  takes_neg env d i (fun h => h hreg.out) hb

instance (priority := high) [ha : Takes env d i j a] :
    Takes env d i j (if (d.rmType == .OP_REG) = true then a else b) :=
  takes_pos env d i (by rw [hreg.out]; decide) ha

end Register

instance (priority := high) (n : BitVec 3) [hn : Fact (d.rawReg = n)]
    (a b : EmuM W α) [ha : Takes env d i j a] :
    Takes env d i j (if (d.rawReg == n) = true then a else b) :=
  takes_pos env d i (beq_iff_eq.mpr hn.out) ha

end Decoded

/-!
## Instructions with a ModRM byte
-/

/-- The decoder holds this ModRM byte and, for a memory form, its address. -/
structure DecodedAs (d : ModRMDecoder) (modrm : BitVec 8)
    (address : BitVec 16) : Prop where
  isDecoded : d.isDecoded = true
  modrm : d.modrm = modrm
  addrIsCached : d.rmType = .OP_MEM -> d.addrIsCached = true
  cachedAddress : d.rmType = .OP_MEM -> d.cachedAddress = address

theorem decodedAs_decoderAfter (e : Emulator W) (n : Nat) (modrm : BitVec 8) :
    DecodedAs (e.decoderAfter n modrm) modrm (e.offset n modrm) := by
  unfold Emulator.decoderAfter
  dsimp only
  split
  · exact ⟨rfl, rfl, fun _ => rfl, fun _ => rfl⟩
  · next hreg =>
      exact ⟨rfl, rfl, fun h => absurd h hreg, fun h => absurd h hreg⟩

/-- The handler decodes the ModRM byte `modrm` and then fetches `k` bytes. -/
class ModrmTakes (env : Environment W) (modrm : BitVec 8) (k : outParam Nat)
    (m : EmuM W Unit) : Prop where
  outcome : forall e, e.codeByte e.instrLength = modrm ->
    match (m env e).2 with
    | .ok (_, e') =>
        DecodedAs e'.modrmDecoder modrm (e.offset (e.instrLength + 1) modrm) ∧
          e'.instrLength = e.instrLength + 1 + displacementBytes modrm + k
    | .error x => x.Expected

section Modrm

set_option synthInstance.maxSize 1000000

variable (env : Environment W) (modrm : BitVec 8) {k : Nat}

theorem modrmTakes_decode (henv : env.addressing.LinearBytes) {body : EmuM W Unit}
    (hmem : forall d : ModRMDecoder, d.modrm = modrm ->
      forall [Fact (d.isDecoded = true)] [Fact (d.addrIsCached = true)]
        [Fact (d.rmType = .OP_MEM)], Takes env d 0 k body)
    (hreg : forall d : ModRMDecoder, d.modrm = modrm ->
      forall [Fact (d.isDecoded = true)] [Fact (d.rmType = .OP_REG)],
        Takes env d 0 k body) :
    ModrmTakes env modrm k (decode >>= fun _ => body) where
  outcome e hbyte := by
    have hrun := decode_returns henv e
    have hdecoded := decodedAs_decoderAfter e (e.instrLength + 1) modrm
    have hstate : e.afterDecode.modrmDecoder =
        e.decoderAfter (e.instrLength + 1) modrm := by
      unfold Emulator.afterDecode
      rw [hbyte]
    have hlength : e.afterDecode.instrLength =
        e.instrLength + 1 + displacementBytes modrm := by
      unfold Emulator.afterDecode
      rw [hbyte]
    have hbody : Takes env (e.decoderAfter (e.instrLength + 1) modrm) 0 k
        body := by
      have hdec : Fact _ := ⟨hdecoded.isDecoded⟩
      rcases rmType_cases (e.decoderAfter (e.instrLength + 1) modrm) with
        h | h
      · have hfact : Fact _ := ⟨h⟩
        exact hreg _ hdecoded.modrm
      · have hfact : Fact _ := ⟨h⟩
        have hcached : Fact _ := ⟨hdecoded.addrIsCached h⟩
        exact hmem _ hdecoded.modrm
    have hout := hbody.outcome e.afterDecode _ hstate hlength
    rw [bind_run]
    unfold Returns at hrun
    simp only [next, hrun]
    cases hlast : (body env e.afterDecode).2 with
    | error x =>
        simp only [hlast] at hout
        exact hout
    | ok last =>
        simp only [hlast] at hout
        refine ⟨?_, hout.2⟩
        rw [hout.1]
        exact hdecoded

theorem modrmTakes_setWidth (w : OperandWidth) {m : EmuM W Unit}
    (hm : ModrmTakes env modrm k m) :
    ModrmTakes env modrm k (setWidth w >>= fun _ => m) where
  outcome e hbyte :=
    hm.outcome
      { e with modrmDecoder := { e.modrmDecoder with width := w } } hbyte

/-- A handler that decodes a ModRM byte, after setting a width or not. -/
class OpensWithModrm (m : EmuM W Unit) (body : outParam (EmuM W Unit)) :
    Prop where
  run : (m = decode >>= fun _ => body) ∨
    exists w, m = setWidth w >>= fun _ => decode >>= fun _ => body

instance (body : EmuM W Unit) :
    OpensWithModrm (decode >>= fun _ => body) body where
  run := Or.inl rfl

instance (w : OperandWidth) (body : EmuM W Unit) :
    OpensWithModrm (setWidth w >>= fun _ => decode >>= fun _ => body) body where
  run := Or.inr ⟨w, rfl⟩

theorem OpensWithModrm.takes {m body : EmuM W Unit}
    (hopens : OpensWithModrm m body)
    (hdecode : ModrmTakes env modrm k (decode >>= fun _ => body)) :
    ModrmTakes env modrm k m := by
  rcases hopens.run with rfl | ⟨w, rfl⟩
  · exact hdecode
  · exact modrmTakes_setWidth env modrm w hdecode

end Modrm

end Sim
end S80x86
