import S80x86.Sim.ModRM

/-!
# What decoding reads

The ModRM byte, the displacement and the effective address as functions of the
state in which decoding starts.
-/

namespace S80x86
namespace Sim

open Foundation.Effect

variable {W : Type}

namespace Emulator

/-- Byte `n` from `CS:IP`, as the emulator addresses it. -/
def codeByte (e : Emulator W) (n : Nat) : BitVec 8 :=
  let ip := (e.registers.get .IP).toNat
  e.mem.mem
    (BitVec.ofNat 20 (getPhysAddr (e.registers.get .CS) (ip + n)).linear)

def codeWord (e : Emulator W) (n : Nat) : BitVec 16 :=
  (e.codeByte n).setWidth 16 ||| (e.codeByte (n + 1)).setWidth 16 <<< 8

/-- The registers an addressing mode adds up. -/
def base (e : Emulator W) (rm : BitVec 3) : BitVec 16 :=
  let r := e.registers
  match rm.toFin with
  | 0 => r.get .BX + r.get .SI
  | 1 => r.get .BX + r.get .DI
  | 2 => r.get .BP + r.get .SI
  | 3 => r.get .BP + r.get .DI
  | 4 => r.get .SI
  | 5 => r.get .DI
  | 6 => r.get .BP
  | 7 => r.get .BX

/-- The offset of a memory operand whose displacement is byte `n` on. -/
def offset (e : Emulator W) (n : Nat) (modrm : BitVec 8) : BitVec 16 :=
  let mod : BitVec 2 := modrm.extractLsb' 6 2
  let rm : BitVec 3 := modrm.extractLsb' 0 3
  if mod = 0#2 then if rm = 6#3 then e.codeWord n else e.base rm
  else if mod = 1#2 then e.base rm + (e.codeByte n).signExtend 16
  else e.base rm + e.codeWord n

end Emulator

/-- The bytes of the displacement that follows a ModRM byte. -/
def displacementBytes (modrm : BitVec 8) : Nat :=
  let mod : BitVec 2 := modrm.extractLsb' 6 2
  if mod = 0#2 then if modrm.extractLsb' 0 3 = 6#3 then 2 else 0
  else if mod = 1#2 then 1
  else if mod = 2#2 then 2
  else 0

theorem rmType_eq_reg_iff (d : ModRMDecoder) :
    d.rmType = .OP_REG ↔ d.mod = 3#2 := by
  have hall : forall b : BitVec 8,
      b &&& 0xc0#8 = 0xc0#8 ↔ b.extractLsb' 6 2 = 3#2 := by decide
  unfold ModRMDecoder.rmType ModRMDecoder.mod
  rw [<- hall]
  by_cases h : d.modrm &&& 0xc0#8 = 0xc0#8 <;> simp [h]

theorem rmType_cases (d : ModRMDecoder) :
    d.rmType = .OP_REG ∨ d.rmType = .OP_MEM := by
  cases d.rmType with
  | OP_REG =>
      exact Or.inl rfl
  | OP_MEM =>
      exact Or.inr rfl

/-- A memory form has one of the first three modes. -/
theorem mod_eq_two {d : ModRMDecoder} (hmem : d.rmType = .OP_MEM)
    (h0 : d.mod ≠ 0#2) (h1 : d.mod ≠ 1#2) : d.mod = 2#2 := by
  have h3 : d.mod ≠ 3#2 := by
    rw [Ne, <- rmType_eq_reg_iff, hmem]
    decide
  have hall : forall m : BitVec 2,
      m ≠ 0#2 -> m ≠ 1#2 -> m ≠ 3#2 -> m = 2#2 := by decide
  exact hall _ h0 h1 h3

section Returns

variable {env : Environment W} (henv : env.addressing.LinearBytes)
include henv

theorem resolve_byte (e : Emulator W) (p : PhysAddr) (hplus : p.plus = 0)
    (write code : Bool) :
    Returns
      (resolve { addr := p, type := .uint8_t, write := write, code := code })
      env e [BitVec.ofNat 20 p.linear] e := by
  unfold Returns resolve
  rw [henv p write code hplus]

theorem fetchByte_returns (e : Emulator W) :
    Returns fetchByte env e (e.codeByte e.instrLength)
      { e with instrLength := e.instrLength + 1 } := by
  refine returns_bind.mpr ⟨_, _, rfl, ?_⟩
  refine returns_bind.mpr ⟨_, _, rfl, ?_⟩
  refine returns_bind.mpr ⟨_, _, rfl, ?_⟩
  refine returns_bind.mpr ⟨_, _, resolve_byte henv _ _ rfl false true, ?_⟩
  rfl

theorem fetch16bit_returns (e : Emulator W) :
    Returns fetch16bit env e (e.codeWord e.instrLength)
      { e with instrLength := e.instrLength + 2 } := by
  refine returns_bind.mpr ⟨_, _, fetchByte_returns henv e, ?_⟩
  refine returns_bind.mpr ⟨_, _, fetchByte_returns henv _, ?_⟩
  rfl

omit henv in
theorem decoded_returns {e : Emulator W} (f : ModRMDecoder -> α)
    (hdec : e.modrmDecoder.isDecoded = true) :
    Returns (decoded f) env e (f e.modrmDecoder) e := by
  unfold Returns decoded
  rw [hdec]
  rfl

omit henv in
theorem baseIndex_returns (e : Emulator W) (rm : BitVec 3) :
    Returns (baseIndex rm) env e (e.base rm) e := rfl

theorem calculateEffectiveAddress_returns (e : Emulator W)
    (hdec : e.modrmDecoder.isDecoded = true)
    (hmem : e.modrmDecoder.rmType = .OP_MEM) :
    Returns calculateEffectiveAddress env e
      (e.offset e.instrLength e.modrmDecoder.modrm)
      { e with
        instrLength :=
          e.instrLength + displacementBytes e.modrmDecoder.modrm } := by
  refine returns_bind.mpr ⟨_, _, decoded_returns _ hdec, ?_⟩
  rw [hmem]
  refine returns_bind.mpr ⟨_, _, rfl, ?_⟩
  refine returns_bind.mpr ⟨_, _, decoded_returns _ hdec, ?_⟩
  unfold Emulator.offset displacementBytes
  change Returns (if e.modrmDecoder.modrm.extractLsb' 6 2 = 0#2 then mod00
    else if e.modrmDecoder.modrm.extractLsb' 6 2 = 1#2 then mod01
    else mod10) env e _ _
  by_cases h0 : e.modrmDecoder.modrm.extractLsb' 6 2 = 0#2
  · simp only [h0, if_true]
    refine returns_bind.mpr ⟨_, _, decoded_returns _ hdec, ?_⟩
    change Returns (if e.modrmDecoder.modrm.extractLsb' 0 3 = 6#3
      then fetch16bit else baseIndex e.modrmDecoder.rm) env e _ _
    split
    · exact fetch16bit_returns henv e
    · exact baseIndex_returns e _
  · simp only [h0, if_false]
    by_cases h1 : e.modrmDecoder.modrm.extractLsb' 6 2 = 1#2
    · simp only [h1, if_true]
      refine returns_bind.mpr ⟨_, _, fetchByte_returns henv e, ?_⟩
      refine returns_bind.mpr ⟨_, _, decoded_returns _ hdec, ?_⟩
      refine returns_bind.mpr ⟨_, _, baseIndex_returns _ _, ?_⟩
      rfl
    · have h2 : e.modrmDecoder.modrm.extractLsb' 6 2 = 2#2 :=
        mod_eq_two hmem h0 h1
      simp only [h2, if_true]
      refine returns_bind.mpr ⟨_, _, fetch16bit_returns henv e, ?_⟩
      refine returns_bind.mpr ⟨_, _, decoded_returns _ hdec, ?_⟩
      refine returns_bind.mpr ⟨_, _, baseIndex_returns _ _, ?_⟩
      rfl

end Returns

/-- The decoder after a ModRM byte whose displacement is byte `n` on. -/
def Emulator.decoderAfter (e : Emulator W) (n : Nat) (modrm : BitVec 8) :
    ModRMDecoder :=
  let d :=
    { e.modrmDecoder with
      isDecoded := true, modrm := modrm, addrIsCached := false }
  if d.rmType = .OP_MEM then
    { d with addrIsCached := true, cachedAddress := e.offset n modrm }
  else d

/-- The state after decoding the ModRM byte at the current position. -/
def Emulator.afterDecode (e : Emulator W) : Emulator W :=
  let modrm := e.codeByte e.instrLength
  { e with
    instrLength := e.instrLength + 1 + displacementBytes modrm
    modrmDecoder := e.decoderAfter (e.instrLength + 1) modrm }

theorem displacementBytes_reg {d : ModRMDecoder} (hreg : d.rmType = .OP_REG) :
    displacementBytes d.modrm = 0 := by
  have hmod : d.modrm.extractLsb' 6 2 = 3#2 := (rmType_eq_reg_iff d).mp hreg
  unfold displacementBytes
  rw [hmod]
  rfl

theorem decode_returns {env : Environment W}
    (henv : env.addressing.LinearBytes) (e : Emulator W) :
    Returns decode env e () e.afterDecode := by
  refine returns_bind.mpr ⟨_, _, fetchByte_returns henv e, ?_⟩
  refine returns_bind.mpr ⟨_, _, rfl, ?_⟩
  refine returns_bind.mpr ⟨_, _, decoded_returns _ rfl, ?_⟩
  unfold Emulator.afterDecode Emulator.decoderAfter
  dsimp only
  split
  · next hmem =>
      refine returns_bind.mpr
        ⟨e.offset (e.instrLength + 1) (e.codeByte e.instrLength), _, ?_, rfl⟩
      refine returns_bind.mpr ⟨none, _, decoded_returns _ rfl, ?_⟩
      refine returns_bind.mpr ⟨_, _,
        calculateEffectiveAddress_returns henv _ rfl hmem, ?_⟩
      rfl
  · next hmem =>
      rcases rmType_cases
        { e.modrmDecoder with
          isDecoded := true, modrm := e.codeByte e.instrLength
          addrIsCached := false } with hreg | hmem'
      · have hbytes := displacementBytes_reg hreg
        dsimp only at hbytes
        rw [hbytes]
        rfl
      · exact absurd hmem' hmem

end Sim
end S80x86
