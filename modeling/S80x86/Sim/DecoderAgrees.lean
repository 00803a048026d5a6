import Mathlib.Tactic.IntervalCases
import S80x86.Sim.Faults
import S80x86.Sim.HandlerLengths
import S80x86.Rtl.DecoderStream
import S80x86.Rtl.Encoding
import S80x86.Rtl.ModRMDecode

/-!
# The emulator and the RTL decoders agree

An instruction as the RTL decodes it, against what the emulator has consumed
and decoded when it has executed the same bytes.
-/

namespace S80x86
namespace Sim

open Foundation.Effect Foundation.Clocked
open Rtl Rtl.Parser

variable {W : Type}

/-!
## ModRM bytes
-/

/-- What the core presents to its ModRM decoder when an instruction starts. -/
def modrmInput (r : RegisterFile) (i : Instruction) (clear : Bool) :
    ModRMDecode.Input :=
  { start := true
    clear := clear
    modrm := i.modRm
    displacement := i.displacement
    si := r.get .SI
    di := r.get .DI
    bp := r.get .BP
    bx := r.get .BX }

/-- Both decoders name the same operands. -/
structure ModrmAgree (d : ModRMDecoder) (out : ModRMDecode.State) : Prop where
  isDecoded : d.isDecoded = true
  regnum : d.rawReg = out.regnum
  form : d.rmType = .OP_REG ↔ out.rmIsReg = true
  rmRegnum : out.rmIsReg = true -> d.rm = out.rmRegnum
  addrIsCached : out.rmIsReg = false -> d.addrIsCached = true
  address : out.rmIsReg = false -> d.cachedAddress = out.effectiveAddress
  bpAsBase : d.usesBpAsBase = out.bpAsBase

theorem displacementBytes_eq :
    forall b : BitVec 8, displacementBytes b = Parser.displacementBytes b := by
  decide

/-- The mode that has a displacement and no base. -/
theorem hasDisplacement_of_direct :
    forall b : BitVec 8, b.extractLsb' 6 2 = 0#2 -> b.extractLsb' 0 3 = 6#3 ->
      hasDisplacement b = true ∧ displacementIs8bit b = false := by
  decide

theorem hasDisplacement_of_mod :
    forall b : BitVec 8,
      (b.extractLsb' 6 2 = 1#2 ->
        hasDisplacement b = true ∧ displacementIs8bit b = true) ∧
      (b.extractLsb' 6 2 = 2#2 ->
        hasDisplacement b = true ∧ displacementIs8bit b = false) := by
  decide

namespace Emulator

/-- The code at byte `n` begins with these bytes. -/
def HoldsCode (e : Emulator W) : Nat -> List Byte -> Prop
  | _, [] => True
  | n, b :: rest => e.codeByte n = b ∧ e.HoldsCode (n + 1) rest

theorem HoldsCode.congr (e e' : Emulator W) (hregs : e'.registers = e.registers)
    (hmem : e'.mem = e.mem) (bytes : List Byte) :
    forall n, e.HoldsCode n bytes -> e'.HoldsCode n bytes := by
  induction bytes with
  | nil =>
      intro n _
      trivial
  | cons b rest ih =>
      intro n h
      refine ⟨?_, ih (n + 1) h.2⟩
      rw [<- h.1]
      unfold codeByte
      rw [hregs, hmem]

theorem HoldsCode.byte {e : Emulator W} {n : Nat} {bytes left : List Byte}
    {v : BitVec 16} (h : e.HoldsCode n bytes)
    (htake : takeImmediate true bytes = some (v, left)) :
    (e.codeByte n).signExtend 16 = v := by
  cases bytes with
  | nil =>
      cases htake
  | cons b rest =>
      cases htake
      rw [h.1]

theorem HoldsCode.word {e : Emulator W} {n : Nat} {bytes left : List Byte}
    {v : BitVec 16} (h : e.HoldsCode n bytes)
    (htake : takeImmediate false bytes = some (v, left)) :
    e.codeWord n = v := by
  cases bytes with
  | nil =>
      cases htake
  | cons low rest =>
      cases rest with
      | nil =>
          cases htake
      | cons high rest =>
          cases htake
          unfold codeWord
          rw [h.1, h.2.1, BitVec.or_comm]

end Emulator

/-- The registers the RTL adds up for a mode with a base. -/
theorem displaced_eq_base (e : Emulator W) (i : Instruction) (clear : Bool) :
    (modrmInput e.registers i clear).displaced =
      e.base (i.modRm.extractLsb' 0 3) + i.displacement := by
  unfold ModRMDecode.Input.displaced Emulator.base ModRMDecode.Input.rm
  simp only [modrmInput]
  generalize (i.modRm.extractLsb' 0 3).toFin = n
  rcases n with ⟨n, hn⟩
  interval_cases n <;> rfl

theorem indexed_eq_base (e : Emulator W) (i : Instruction) (clear : Bool) :
    (modrmInput e.registers i clear).indexed =
      if i.modRm.extractLsb' 0 3 = 6#3 then i.displacement
      else e.base (i.modRm.extractLsb' 0 3) := by
  unfold ModRMDecode.Input.indexed Emulator.base ModRMDecode.Input.rm
  simp only [modrmInput]
  have hall : forall m : BitVec 3, m = 6#3 ↔ m.toFin = 6 := by decide
  rw [if_congr (hall _) rfl rfl]
  generalize (i.modRm.extractLsb' 0 3).toFin = n
  rcases n with ⟨n, hn⟩
  interval_cases n <;> rfl

/-- The emulator's offset is the effective address of the RTL. -/
theorem offset_eq_effectiveAddress {e : Emulator W} {T : OpcodeTable}
    {acc i : Instruction} {b : Byte} {n : Nat} {bytes rest : List Byte}
    (hreads : ReadsModrm T acc i b bytes rest) (hcode : e.HoldsCode n bytes)
    (hmem : b.extractLsb' 6 2 ≠ 3#2) (clear : Bool) :
    e.offset n b = (modrmInput e.registers i clear).effectiveAddress := by
  have hmodes : forall m : BitVec 2, m ≠ 3#2 ->
      m = 0#2 ∨ m = 1#2 ∨ m = 2#2 := by decide
  have hmod : (modrmInput e.registers i clear).mod = b.extractLsb' 6 2 := by
    show i.modRm.extractLsb' 6 2 = _
    rw [hreads.modRm]
  unfold Emulator.offset ModRMDecode.Input.effectiveAddress
  rw [hmod]
  rcases hmodes _ hmem with h | h | h
  · simp only [h, if_true]
    show _ = (modrmInput e.registers i clear).indexed
    rw [indexed_eq_base, hreads.modRm]
    split
    · next hdirect =>
        have hdisp := hasDisplacement_of_direct b h hdirect
        rcases hreads.displacement hdisp.1 with ⟨left, htake⟩
        rw [hdisp.2] at htake
        exact hcode.word htake
    · rfl
  · have hdisp := (hasDisplacement_of_mod b).1 h
    rcases hreads.displacement hdisp.1 with ⟨left, htake⟩
    rw [hdisp.2] at htake
    simp only [h]
    show e.base _ + _ = (modrmInput e.registers i clear).displaced
    rw [displaced_eq_base, hreads.modRm, hcode.byte htake]
  · have hdisp := (hasDisplacement_of_mod b).2 h
    rcases hreads.displacement hdisp.1 with ⟨left, htake⟩
    rw [hdisp.2] at htake
    simp only [h]
    show e.base _ + _ = (modrmInput e.registers i clear).displaced
    rw [displaced_eq_base, hreads.modRm, hcode.word htake]

theorem modrmAgree_of_decodedAs {d : ModRMDecoder} {r : RegisterFile}
    {i : Instruction} {address : BitVec 16} {clear : Bool}
    (hdecoded : DecodedAs d i.modRm address)
    (haddress : i.modRm.extractLsb' 6 2 ≠ 3#2 ->
      address = (modrmInput r i clear).effectiveAddress)
    (s : ModRMDecode.State) :
    ModrmAgree d (ModRMDecode.step (modrmInput r i clear) s) := by
  have hstep : ModRMDecode.step (modrmInput r i clear) s =
      { effectiveAddress := (modrmInput r i clear).effectiveAddress
        regnum := i.modRm.extractLsb' 3 3
        rmIsReg := i.modRm.extractLsb' 6 2 == 0b11#2
        rmRegnum := i.modRm.extractLsb' 0 3
        bpAsBase := (modrmInput r i clear).bpAsBase } := rfl
  have hmod : d.mod = i.modRm.extractLsb' 6 2 := by
    unfold ModRMDecoder.mod
    rw [hdecoded.modrm]
  have hmem : (i.modRm.extractLsb' 6 2 == 0b11#2) = false ->
      d.rmType = .OP_MEM := by
    intro h
    rcases rmType_cases d with hreg | hmem
    · rw [rmType_eq_reg_iff, hmod] at hreg
      simp [hreg] at h
    · exact hmem
  rw [hstep]
  refine
    { isDecoded := hdecoded.isDecoded
      regnum := ?_
      form := ?_
      rmRegnum := fun _ => ?_
      addrIsCached := fun h => hdecoded.addrIsCached (hmem h)
      address := fun h => ?_
      bpAsBase := ?_ }
  · show d.modrm.extractLsb' 3 3 = _
    rw [hdecoded.modrm]
  · rw [rmType_eq_reg_iff, hmod, beq_iff_eq]
  · unfold ModRMDecoder.rm
    rw [hdecoded.modrm]
  · rw [hdecoded.cachedAddress (hmem h)]
    exact haddress (by simpa using h)
  · have hreg : forall b : BitVec 8,
        b &&& 0xc0#8 = 0xc0#8 ↔ b.extractLsb' 6 2 = 3#2 := by decide
    unfold ModRMDecoder.usesBpAsBase ModRMDecoder.rmType ModRMDecoder.mod
      ModRMDecoder.rm ModRMDecode.Input.bpAsBase ModRMDecode.Input.mod
      ModRMDecode.Input.rm
    simp only [hdecoded.isDecoded, hdecoded.modrm, hreg, modrmInput]
    generalize i.modRm.extractLsb' 6 2 = m
    generalize i.modRm.extractLsb' 0 3 = r
    revert m r
    decide

/-!
## Prefixes and the opcode
-/

theorem isPrefix_eq : forall b : BitVec 8, isPrefix b = Rtl.isPrefix b := by
  decide

theorem processPrefix_returns (env : Environment W) (e : Emulator W)
    (b : BitVec 8) :
    exists e', Returns (processPrefix b) env e () e' ∧
      e'.registers = e.registers ∧ e'.mem = e.mem ∧
      e'.instrLength = e.instrLength := by
  unfold processPrefix
  repeat' split
  all_goals exact ⟨_, rfl, rfl, rfl, rfl⟩

theorem latchOpcode_modRm (T : OpcodeTable) (i : Instruction) (b : BitVec 8) :
    (latchOpcode T i b).modRm = i.modRm := by
  unfold latchOpcode
  repeat' split
  all_goals rfl

theorem latchOpcode_opcode_of_not_prefix (T : OpcodeTable) (i : Instruction)
    {b : BitVec 8} (h : Rtl.isPrefix b = false) :
    (latchOpcode T i b).opcode = b := by
  simp only [Rtl.isPrefix, Bool.or_eq_false_iff] at h
  simp [latchOpcode, h]

/-- What the emulator has done after an instruction that the RTL decodes as
`i` from these bytes. -/
structure Executed (i : Instruction) (e e' : Emulator W)
    (bytes rest : List Byte) : Prop where
  length : e'.instrLength + rest.length = e.instrLength + bytes.length
  modrm : OpcodeTable.generated.insnHasModrm i.opcode = true ->
    forall (s : ModRMDecode.State) (clear : Bool),
      ModrmAgree e'.modrmDecoder
        (ModRMDecode.step (modrmInput e.registers i clear) s)

theorem execute_agrees {env : Environment W}
    (henv : env.addressing.LinearBytes) {acc i : Instruction} {b : Byte}
    {bytes rest : List Byte} {e : Emulator W}
    (hplain : Rtl.isPrefix b = false) (hacc : acc.modRm = 0#8)
    (hcode : e.HoldsCode e.instrLength bytes)
    (hparse : parseInstruction .generated acc (b :: bytes) = some (i, rest)) :
    match (execute b env e).2 with
    | .ok (_, e') => Executed i e e' bytes rest
    | .error x => x.Expected := by
  simp only [parseInstruction, hplain, Bool.false_eq_true, if_false] at hparse
  have hopcode := latchOpcode_opcode_of_not_prefix .generated
    (acc.addLength 1) hplain
  have hmodRm := (latchOpcode_modRm .generated (acc.addLength 1) b).trans hacc
  cases fetches_execute henv b with
  | plain k hmodrm hbytes htakes =>
      rw [OpcodeTable.insnHasModrm_eq_row,
        show (OpcodeTable.row b.toNat).any _ = false from hmodrm] at hparse
      simp only [Bool.false_eq_true, if_false] at hparse
      have hreads := parseImmediates_reads hparse
      have hout := (htakes e.modrmDecoder).outcome e e.instrLength rfl rfl
      cases hrun : (execute b env e).2 with
      | error x =>
          simp only [hrun] at hout
          exact hout
      | ok out =>
          simp only [hrun] at hout
          refine ⟨?_, fun hhas => ?_⟩
          · have hlen := hreads.length
            rw [hopcode, Instruction.reg, hmodRm, insnImmedBytes_eq_row] at hlen
            change bytes.length = rest.length + rowImmedBytes b.toNat 0#3
              at hlen
            omega
          · rw [hreads.opcode, hopcode, OpcodeTable.insnHasModrm_eq_row]
              at hhas
            exact absurd (hhas.symm.trans hmodrm) (by decide)
  | modrm k hmodrm hbytes htakes =>
      rw [OpcodeTable.insnHasModrm_eq_row,
        show (OpcodeTable.row b.toNat).any _ = true from hmodrm, if_pos rfl]
        at hparse
      cases bytes with
      | nil =>
          cases hparse
      | cons m left =>
          have hreads := parseModrm_reads hparse
          have hout := (htakes m).outcome e hcode.1
          cases hrun : (execute b env e).2 with
          | error x =>
              simp only [hrun] at hout
              exact hout
          | ok out =>
              simp only [hrun] at hout
              refine ⟨?_, fun _ s clear => ?_⟩
              · have hlen := hreads.length
                rw [hopcode, insnImmedBytes_eq_row, hbytes] at hlen
                have hdisp := displacementBytes_eq m
                simp only [List.length_cons]
                omega
              · have hdecoded := hout.1
                rw [<- hreads.modRm] at hdecoded
                apply modrmAgree_of_decodedAs hdecoded
                intro hmem
                rw [hreads.modRm] at hmem ⊢
                exact offset_eq_effectiveAddress hreads hcode.2 hmem clear

/-- One round of the prefix loop: the byte is fetched and recorded. -/
theorem prefixLoop_round {env : Environment W}
    (henv : env.addressing.LinearBytes) (n : Nat) (e : Emulator W) :
    (prefixLoop (n + 1) env e).2 =
      ((if isPrefix (e.codeByte e.instrLength) then
          processPrefix (e.codeByte e.instrLength) >>= fun _ => prefixLoop n
        else execute (e.codeByte e.instrLength)) env
        { e with
          instrLength := e.instrLength + 1
          opcode := e.codeByte e.instrLength }).2 := by
  have hfetch := fetchByte_returns henv e
  unfold Returns at hfetch
  rw [prefixLoop, bind_run]
  simp only [next, hfetch]
  rfl

theorem prefixLoop_agrees {env : Environment W}
    (henv : env.addressing.LinearBytes) {i : Instruction} {rest : List Byte}
    (bytes : List Byte) :
    forall (acc : Instruction) (n : Nat) (e : Emulator W),
      acc.modRm = 0#8 -> bytes.length ≤ n ->
      e.HoldsCode e.instrLength bytes ->
      parseInstruction .generated acc bytes = some (i, rest) ->
      match (prefixLoop n env e).2 with
      | .ok (_, e') => Executed i e e' bytes rest
      | .error x => x.Expected := by
  induction bytes with
  | nil =>
      intro acc n e _ _ _ hparse
      cases hparse
  | cons b bytes ih =>
      intro acc n e hacc hn hcode hparse
      cases n with
      | zero =>
          simp at hn
      | succ n =>
          rw [prefixLoop_round henv n e, hcode.1, isPrefix_eq]
          cases hplain : Rtl.isPrefix b with
          | false =>
              rw [if_neg (by decide)]
              have hnext : Emulator.HoldsCode
                  { e with instrLength := e.instrLength + 1, opcode := b }
                  (e.instrLength + 1) bytes :=
                Emulator.HoldsCode.congr e
                  { e with instrLength := e.instrLength + 1, opcode := b } rfl
                  rfl bytes _ hcode.2
              have hout := execute_agrees henv hplain hacc hnext hparse
              revert hout
              cases (execute b env
                { e with instrLength := e.instrLength + 1, opcode := b }).2 with
              | error x =>
                  exact id
              | ok out =>
                  intro hout
                  refine ⟨?_, hout.modrm⟩
                  have hlen := hout.length
                  dsimp only at hlen
                  simp only [List.length_cons]
                  omega
          | true =>
              rw [if_pos rfl, bind_run]
              rcases processPrefix_returns env
                { e with instrLength := e.instrLength + 1, opcode := b } b with
                ⟨e₁, hrun, hregs, hmem, hlength⟩
              unfold Returns at hrun
              simp only [next, hrun]
              have hnext : e₁.HoldsCode e₁.instrLength bytes := by
                rw [hlength]
                exact Emulator.HoldsCode.congr e _ hregs hmem bytes _ hcode.2
              simp only [parseInstruction, hplain, if_true] at hparse
              have hmodRm : (latchOpcode .generated (acc.addLength 1) b).modRm =
                  0#8 := (latchOpcode_modRm _ _ _).trans hacc
              have hout := ih _ n e₁ hmodRm (Nat.le_of_succ_le_succ hn) hnext
                hparse
              revert hout
              cases (prefixLoop n env e₁).2 with
              | error x =>
                  exact id
              | ok out =>
                  intro hout
                  refine ⟨?_, ?_⟩
                  · have hlen := hout.length
                    rw [hlength] at hlen
                    dsimp only at hlen
                    simp only [List.length_cons]
                    omega
                  · have hmodrm := hout.modrm
                    rw [hregs] at hmodrm
                    exact hmodrm

/-!
## Whole instructions
-/

/-- Whatever precedes the reset or flush after which the decoder of the RTL
reads these bytes, the first record it finds is this one, and it has written
the record one cycle after the last of the bytes was offered. -/
def DecodesAs (bytes : List Byte) (i : Instruction) : Prop :=
  forall (s : DecoderStream.System) (first : DecoderStream.Cycle)
    (cycles : List DecoderStream.Cycle), first.restarts = true ->
    first.newStream = DecoderStream.padded bytes ->
    (forall c, c ∈ cycles -> c.restarts = false) ->
    let t := run (DecoderStream.System.step .generated) s (first :: cycles)
    (forall j more, t.written ++ t.pending = j :: more -> j = i) ∧
      (bytes.length ≤ DecoderStream.offers cycles ->
        forall c : DecoderStream.Cycle, c.restarts = false ->
          exists more, (t.step .generated c).written = i :: more)

theorem rejectLong_returns (env : Environment W) (e : Emulator W)
    (h : e.instrLength ≤ 15) : Returns rejectLong env e () e := by
  refine returns_bind.mpr ⟨e.instrLength, e, rfl, ?_⟩
  rw [if_neg (by omega)]
  rfl

theorem advanceIp_returns (env : Environment W) (e : Emulator W) :
    exists e', Returns advanceIp env e () e' ∧
      e'.instrLength = e.instrLength ∧ e'.modrmDecoder = e.modrmDecoder := by
  unfold advanceIp
  cases htaken : e.jumpTaken with
  | false =>
      refine ⟨_, returns_bind.mpr ⟨false, e, ?_, rfl⟩, rfl, rfl⟩
      rw [<- htaken]
      rfl
  | true =>
      refine ⟨_, returns_bind.mpr ⟨true, e, ?_, rfl⟩, rfl, rfl⟩
      rw [<- htaken]
      rfl

/-- An instruction of up to 15 bytes has the length the RTL gives it, and the
same operands. -/
theorem emulateInsn_agrees {env : Environment W}
    (henv : env.addressing.LinearBytes) {i : Instruction} {bytes : List Byte}
    {e : Emulator W} (hlen : bytes.length ≤ 15) (hcode : e.HoldsCode 0 bytes)
    (hparse : parseInstruction .generated .zero bytes = some (i, [])) :
    match (emulateInsn env e).2 with
    | .ok (n, e') => n = bytes.length ∧
        (OpcodeTable.generated.insnHasModrm i.opcode = true ->
          forall (s : ModRMDecode.State) (clear : Bool),
            ModrmAgree e'.modrmDecoder
              (ModRMDecode.step (modrmInput e.registers i clear) s))
    | .error x => x.Expected := by
  have hstart : exists e₀, Returns startInsn env e () e₀ ∧
      e₀.instrLength = 0 ∧ e₀.registers = e.registers ∧ e₀.mem = e.mem :=
    ⟨_, rfl, rfl, rfl, rfl⟩
  rcases hstart with ⟨e₀, hstart, hzero, hregs, hmem⟩
  have hsize : bytes.length ≤ memorySize := Nat.le_trans hlen (by decide)
  have hcode₀ : e₀.HoldsCode e₀.instrLength bytes := by
    rw [hzero]
    exact Emulator.HoldsCode.congr e e₀ hregs hmem bytes 0 hcode
  have hloop := prefixLoop_agrees henv bytes .zero memorySize e₀ rfl hsize
    hcode₀ hparse
  unfold Returns at hstart
  rw [emulateInsn, bind_run]
  simp only [next, hstart, bind_run]
  cases hrun : (prefixLoop memorySize env e₀).2 with
  | error x =>
      simp only [hrun] at hloop
      exact hloop
  | ok out =>
      rcases out with ⟨u, e₁⟩
      simp only [hrun] at hloop
      have hlength := hloop.length
      simp only [hzero, List.length_nil] at hlength
      have hreject := rejectLong_returns env e₁ (by omega)
      rcases advanceIp_returns env e₁ with ⟨e₂, hadvance, hlen₂, hdec₂⟩
      unfold Returns at hreject hadvance
      have hmodrm := hloop.modrm
      rw [hregs] at hmodrm
      simp only [hreject, hadvance, getInstrLength, gets]
      refine ⟨by omega, ?_⟩
      rw [hdec₂]
      exact hmodrm

/-- Why the emulator stops in an instruction: an access that it has made runs
past the end of memory, or the host has no quotient. -/
def Emulator.Stops (e : Emulator W) (made : List Access) : Fault -> Prop
  | .memoryAssertion a => a ∈ made ∧ memorySize < a.addr.linear + a.size
  | .undefinedDivision => e.DividesLeast
  | .assertion => False
  | .endlessPrefixes => False

theorem Fault.Expected.stops {env : Environment W} {e : Emulator W}
    (henv : env.addressing = Addressing.emulator) {x : Fault}
    (h : x.Expected) (hfault : Faults emulateInsn env e x) :
    e.Stops (emulateInsn env e).1 x := by
  cases x with
  | memoryAssertion a =>
      exact emulateInsn_memoryAssertion henv hfault
  | undefinedDivision =>
      exact emulateInsn_undefinedDivision henv hfault
  | assertion =>
      exact h
  | endlessPrefixes =>
      exact h

/--
For every byte string that is an instruction of at most 15 bytes at `CS:IP`,
the decoder of the RTL finds and writes one record of it, the emulator consumes
as many bytes as that record's length, and after a ModRM byte its decoder names
the operands that `ModRMDecode` names for the record and the same registers.
The emulator stops instead only at an access past the end of memory or at an
`IDIV` of 80000000h by FFFFh.
-/
theorem emulator_matches_decoder (env : Environment W) (e : Emulator W)
    (bytes : List Byte) (i : Instruction) (hlen : bytes.length ≤ 15)
    (hparse : parseInstruction .generated .zero bytes = some (i, []))
    (hcode : e.HoldsCode 0 bytes) :
    DecodesAs bytes i ∧
      match emulateInsn (env.withAddressing .emulator) e with
      | (_, .ok (n, e')) => n = i.length.toNat ∧
          (OpcodeTable.generated.insnHasModrm i.opcode = true ->
            forall (s : ModRMDecode.State) (clear : Bool),
              ModrmAgree e'.modrmDecoder
                (ModRMDecode.step (modrmInput e.registers i clear) s))
      | (made, .error x) => e.Stops made x := by
  constructor
  · intro s first cycles hfirst hstream hcycles
    exact DecoderStream.first_record hparse hlen s first cycles hfirst hstream
      hcycles
  · have hlinear : (env.withAddressing .emulator).addressing.LinearBytes :=
      Addressing.linearBytes_emulator
    have hagrees := emulateInsn_agrees hlinear hlen hcode hparse
    rw [length_of_parse hlen hparse]
    have hstops := fun x => Fault.Expected.stops (e := e) (x := x)
      (show (env.withAddressing .emulator).addressing = .emulator from rfl)
    unfold Faults at hstops
    cases hrun : emulateInsn (env.withAddressing .emulator) e with
    | mk made out =>
        rw [hrun] at hagrees hstops
        cases out with
        | ok last =>
            exact hagrees
        | error x =>
            exact hstops x hagrees rfl

/-- `MOV AX, ES:[BP-2]`. -/
def movBp : List Byte := [0x26#8, 0x8b#8, 0x46#8, 0xfe#8]

def movBpRecord : Instruction :=
  { Instruction.zero with
    length := 4#4, hasSegmentOverride := true, segment := .ES
    hasModrm := true, displacement := 0xfffe#16, modRm := 0x46#8
    opcode := 0x8b#8 }

/-- A new emulator with these bytes where it starts. -/
def withCode (bytes : List Byte) : Emulator Unit :=
  .fresh () fun a => bytes.getD a.toNat 0#8

/-- A reset before these bytes, and a byte on offer in every other cycle. -/
def resetBefore (bytes : List Byte) : DecoderStream.Cycle :=
  { reset := true, flush := false, newStream := DecoderStream.padded bytes
    fifoEmpty := true, staleData := 0xcc#8, instructionFifoRdEn := false }

def offersSlowly (bytes : List Byte) : List DecoderStream.Cycle :=
  bytes.flatMap fun _ =>
    [{ resetBefore bytes with reset := false },
      { resetBefore bytes with reset := false, fifoEmpty := false }]

theorem emulator_matches_decoder_mov :
    parseInstruction .generated .zero movBp = some (movBpRecord, []) ∧
      (exists more, (DecoderStream.System.step .generated
        { resetBefore movBp with reset := false }
        (run (DecoderStream.System.step .generated) DecoderStream.powerOn
          (resetBefore movBp :: offersSlowly movBp))).written =
            movBpRecord :: more) ∧
      (emulateInsn Environment.bare (withCode movBp)).2.toOption.map
        Prod.fst = some 4 ∧
      match emulateInsn Environment.bare (withCode movBp) with
      | (_, .ok (n, e')) => n = 4 ∧
          ModrmAgree e'.modrmDecoder
            (ModRMDecode.step
              (modrmInput (withCode movBp).registers movBpRecord false) .reset)
      | (made, .error x) => (withCode movBp).Stops made x := by
  have hparse : parseInstruction .generated .zero movBp =
      some (movBpRecord, []) := by
    decide +kernel
  have hcode : (withCode movBp).HoldsCode 0 movBp :=
    ⟨by decide +kernel, by decide +kernel, by decide +kernel,
      by decide +kernel, trivial⟩
  obtain ⟨hdecodes, hrun⟩ := emulator_matches_decoder Environment.bare
    (withCode movBp) movBp movBpRecord (by decide) hparse hcode
  rw [show Environment.bare.withAddressing .emulator = .bare from rfl] at hrun
  have hwritten := (hdecodes DecoderStream.powerOn (resetBefore movBp)
    (offersSlowly movBp) rfl rfl (by decide)).2 (by decide)
    { resetBefore movBp with reset := false } rfl
  refine ⟨hparse, hwritten, by decide +kernel, ?_⟩
  revert hrun
  cases emulateInsn Environment.bare (withCode movBp) with
  | mk made out =>
      cases out with
      | error x =>
          exact id
      | ok last =>
          intro hrun
          exact ⟨hrun.1, hrun.2 (by decide +kernel) .reset false⟩

end Sim
end S80x86
