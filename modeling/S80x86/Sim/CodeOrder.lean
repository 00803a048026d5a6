import S80x86.Foundation.Events
import S80x86.Sim.Faults
import S80x86.Sim.OverLong

/-!
# The order in which instruction bytes are fetched

Byte after byte from `CS:IP` on, before `CS` or `IP` changes.
-/

namespace S80x86
namespace Sim

open Foundation.Effect

variable {W : Type}

/-!
## Code that fetches nothing
-/

/-- The code makes no access with the mark and leaves the length alone. -/
abbrev Idles (mark : Access -> Bool) (env : Environment W) (m : EmuM W α) :
    Prop :=
  Skips mark Emulator.instrLength env m

section Idles

set_option synthInstance.maxSize 1000000

variable (mark : Access -> Bool) (env : Environment W)

instance (r : GPR) : Idles mark env (get r) := skips_gets _ _ _ _

instance (r : GPR) (v : BitVec 16) : Idles mark env (set r v) :=
  skips_modify _ _ _ fun _ => rfl

instance : Idles mark env getFlags := skips_gets _ _ _ _

instance (f : BitVec 16) : Idles mark env (getFlag f) := skips_gets _ _ _ _

instance (f : (BitVec 16 -> Bool) -> Bool) : Idles mark env (flagTest f) :=
  skips_gets _ _ _ _

instance (v mask : BitVec 16) : Idles mark env (setFlags v mask) :=
  skips_modify _ _ _ fun _ => rfl

instance (a : BitVec 20) : Idles mark env (loadByte a) := skips_gets _ _ _ _

instance (a : BitVec 20) (v : BitVec 8) : Idles mark env (storeByte a v) :=
  skips_modify _ _ _ fun _ => rfl

instance : Idles mark env getInstrLength := skips_gets _ _ _ _

instance : Idles mark env getOpcode := skips_gets _ _ _ _

instance : Idles mark env getHasRepPrefix := skips_gets _ _ _ _

instance : Idles mark env getRep := skips_gets _ _ _ _

instance : Idles mark env getOverride := skips_gets _ _ _ _

instance : Idles mark env usesBpAsBase := skips_gets _ _ _ _

instance : Idles mark env takeJump := skips_modify _ _ _ fun _ => rfl

instance : Idles mark env inhibitExtInt := skips_modify _ _ _ fun _ => rfl

instance (w : OperandWidth) : Idles mark env (setWidth w) :=
  skips_modify _ _ _ fun _ => rfl

instance (a : BitVec 16) : Idles mark env (cacheAddress a) :=
  skips_modify _ _ _ fun _ => rfl

instance (b : BitVec 8) : Idles mark env (setModrm b) :=
  skips_modify _ _ _ fun _ => rfl

instance (r : GPR) : Idles mark env (setOverrideSegment r) :=
  skips_modify _ _ _ fun _ => rfl

instance (mode : RepMode) : Idles mark env (setRep mode) :=
  skips_modify _ _ _ fun _ => rfl

instance (b : BitVec 8) : Idles mark env (setOpcode b) :=
  skips_modify _ _ _ fun _ => rfl

instance : Idles mark env getTrapEscape :=
  skips_quiet _ _ _ (fun _ => rfl) fun e b e' h => by
    cases h
    rfl

instance (f : ModRMDecoder -> α) : Idles mark env (decoded f) :=
  skips_quiet _ _ _
    (fun e => by
      unfold decoded
      split <;> rfl)
    fun e b e' h => by
      unfold Returns decoded at h
      split at h
      · cases h
        rfl
      · cases h

instance (addr : BitVec 16) (absent : α)
    (call : IOPorts W -> BitVec 16 -> W -> α × W × Raised) :
    Idles mark env (device addr absent call) :=
  skips_quiet _ _ _
    (fun e => by
      unfold device
      dsimp only
      cases env.io (addr &&& ~~~1#16) with
      | none =>
          rfl
      | some p =>
          rfl)
    fun e b e' h => by
      unfold Returns device at h
      cases hio : env.io (addr &&& ~~~1#16) with
      | none =>
          simp only [hio] at h
          cases h
          rfl
      | some p =>
          simp only [hio] at h
          cases h
          rfl

instance (stack : Bool) : Idles mark env (getSegment stack) := by
  unfold getSegment
  cases stack with
  | true =>
      exact skips_pure _ _ _ _
  | false =>
      refine Skips.bind inferInstance ?_
      intro override
      cases override with
      | none =>
          dsimp only
          infer_instance
      | some segment =>
          dsimp only
          infer_instance

instance (b : BitVec 8) : Idles mark env (processPrefix b) := by
  unfold processPrefix
  infer_instance

/-- Data is no code. -/
instance (p : PhysAddr) (type : AccessType) (write : Bool) :
    Idles Access.code env
      (resolve { addr := p, type := type, write := write }) where
  unmarked e := by
    unfold resolve
    split <;> rfl
  same e b e' h := by
    unfold Returns resolve at h
    split at h
    · cases h
      rfl
    · cases h

instance idles_enterLoop (n : Nat) :
    Idles Access.code env (enterLoop n) := by
  induction n with
  | zero =>
      unfold enterLoop
      infer_instance
  | succ n ih =>
      unfold enterLoop
      infer_instance

instance idles_repLoop (primitive : EmuM W Unit)
    (shouldTerminate : EmuM W Bool) [Idles Access.code env primitive]
    [Idles Access.code env shouldTerminate] (n : Nat) :
    Idles Access.code env (repLoop primitive shouldTerminate n) := by
  induction n with
  | zero =>
      unfold repLoop
      infer_instance
  | succ n ih =>
      unfold repLoop
      infer_instance

end Idles

/-!
## While `CS` and `IP` stay
-/

/-- The instruction is the one at this address. -/
structure CodeAt (cs ip : BitVec 16) (e : Emulator W) : Prop where
  cs : e.registers.cs = cs
  ip : e.registers.ip = ip

/-- The fetch of byte `n` of the instruction at an address. -/
def codeAccess (cs ip : BitVec 16) (n : Nat) : Access :=
  { addr := getPhysAddr cs (ip.toNat + n), type := .uint8_t, write := false
    code := true }

/-- From the instruction at an address, the code fetches byte after byte. -/
abbrev InOrder (env : Environment W) (cs ip : BitVec 16) (m : EmuM W α) :
    Prop :=
  Numbers Access.code (codeAccess cs ip) (CodeAt cs ip) Emulator.instrLength
    env m

section InOrder

set_option synthInstance.maxSize 1000000

variable (env : Environment W) (cs ip : BitVec 16)

theorem keeps_codeAt {m : EmuM W α}
    (h : forall e a e', Returns m env e a e' ->
      e'.registers.cs = e.registers.cs ∧ e'.registers.ip = e.registers.ip) :
    Keeps (CodeAt cs ip) env m where
  kept e a e' he hret := by
    obtain ⟨hcs, hip⟩ := h e a e' hret
    exact ⟨hcs.trans he.cs, hip.trans he.ip⟩

theorem keeps_codeAt_modify {f : Emulator W -> Emulator W}
    (h : forall e, (f e).registers = e.registers) :
    Keeps (CodeAt cs ip) env (modify f : EmuM W Unit) :=
  keeps_modify _ _ fun e he =>
    ⟨(congrArg RegisterFile.cs (h e)).trans he.cs,
      (congrArg RegisterFile.ip (h e)).trans he.ip⟩

instance (r : GPR) : Keeps (CodeAt cs ip) env (get r) := keeps_gets _ _ _

instance : Keeps (CodeAt cs ip) env getFlags := keeps_gets _ _ _

instance (f : BitVec 16) : Keeps (CodeAt cs ip) env (getFlag f) :=
  keeps_gets _ _ _

instance (a : BitVec 20) : Keeps (CodeAt cs ip) env (loadByte a) :=
  keeps_gets _ _ _

instance (a : BitVec 20) (v : BitVec 8) :
    Keeps (CodeAt cs ip) env (storeByte a v) :=
  keeps_codeAt_modify _ _ _ fun _ => rfl

instance (v mask : BitVec 16) : Keeps (CodeAt cs ip) env (setFlags v mask) :=
  keeps_modify _ _ fun _ he => ⟨he.cs, he.ip⟩

instance (v : BitVec 16) : Keeps (CodeAt cs ip) env (set .SP v) :=
  keeps_modify _ _ fun _ he => ⟨he.cs, he.ip⟩

instance : Keeps (CodeAt cs ip) env getOverride := keeps_gets _ _ _

instance : Keeps (CodeAt cs ip) env usesBpAsBase := keeps_gets _ _ _

instance : Keeps (CodeAt cs ip) env getOpcode := keeps_gets _ _ _

instance : Keeps (CodeAt cs ip) env getInstrLength := keeps_gets _ _ _

instance (w : OperandWidth) : Keeps (CodeAt cs ip) env (setWidth w) :=
  keeps_codeAt_modify _ _ _ fun _ => rfl

instance (a : BitVec 16) : Keeps (CodeAt cs ip) env (cacheAddress a) :=
  keeps_codeAt_modify _ _ _ fun _ => rfl

instance (b : BitVec 8) : Keeps (CodeAt cs ip) env (setModrm b) :=
  keeps_codeAt_modify _ _ _ fun _ => rfl

instance (r : GPR) : Keeps (CodeAt cs ip) env (setOverrideSegment r) :=
  keeps_codeAt_modify _ _ _ fun _ => rfl

instance (mode : RepMode) : Keeps (CodeAt cs ip) env (setRep mode) :=
  keeps_codeAt_modify _ _ _ fun _ => rfl

instance (b : BitVec 8) : Keeps (CodeAt cs ip) env (setOpcode b) :=
  keeps_codeAt_modify _ _ _ fun _ => rfl

instance : Keeps (CodeAt cs ip) env nextByte where
  kept e a e' he hret := by
    cases hret
    exact ⟨he.cs, he.ip⟩

instance (a : Access) : Keeps (CodeAt cs ip) env (resolve a) :=
  keeps_codeAt _ _ _ fun e b e' h => by
    unfold Returns resolve at h
    split at h
    · cases h
      exact ⟨rfl, rfl⟩
    · cases h

instance (f : ModRMDecoder -> α) : Keeps (CodeAt cs ip) env (decoded f) :=
  keeps_codeAt _ _ _ fun e b e' h => by
    unfold Returns decoded at h
    split at h
    · cases h
      exact ⟨rfl, rfl⟩
    · cases h

instance (stack : Bool) : Keeps (CodeAt cs ip) env (getSegment stack) := by
  unfold getSegment
  cases stack with
  | true =>
      exact keeps_pure _ _ _
  | false =>
      refine Keeps.bind inferInstance ?_
      intro override
      cases override with
      | none =>
          dsimp only
          infer_instance
      | some segment =>
          dsimp only
          infer_instance

instance : Keeps (CodeAt cs ip) env effectiveAddress := by
  refine Keeps.bind inferInstance ?_
  intro cached
  cases cached with
  | none =>
      dsimp only
      infer_instance
  | some address =>
      dsimp only
      infer_instance

instance (b : BitVec 8) : Keeps (CodeAt cs ip) env (processPrefix b) := by
  unfold processPrefix
  infer_instance

/-- One byte is fetched at the next position. -/
instance (priority := high) inOrder_fetchByte :
    InOrder env cs ip fetchByte where
  numbered e he := by
    have hevent : codeAccess e.registers.cs e.registers.ip e.instrLength =
        codeAccess cs ip e.instrLength := by
      rw [he.cs, he.ip]
    refine ⟨1, ?_, ?_⟩
    · rw [List.range'_one, List.map_singleton, <- hevent]
      change List.filter Access.code
        ((resolve _ >>= fun f => loadByte (f.getD 0 0#20)) env
          { e with instrLength := e.instrLength + 1 }).1 = _
      rw [bind_run]
      unfold resolve
      split <;> rfl
    · intro b e' h
      change Returns
        (resolve _ >>= fun f => loadByte (f.getD 0 0#20)) env
          { e with instrLength := e.instrLength + 1 } b e' at h
      obtain ⟨f, e₁, hresolve, hload⟩ := returns_bind.mp h
      rw [(returns_gets.mp hload).2]
      unfold Returns resolve at hresolve
      split at hresolve
      · cases hresolve
        rfl
      · cases hresolve

instance : InOrder env cs ip effectiveAddress := by
  refine Numbers.bind inferInstance inferInstance ?_
  intro cached
  cases cached with
  | none =>
      dsimp only
      infer_instance
  | some address =>
      dsimp only
      infer_instance

theorem inOrder_cases :
    forall c : Case W, c ∈ cases -> InOrder env cs ip c.handler := by
  unfold cases
  repeat' first
    | exact List.forall_mem_nil _
    | refine List.forall_mem_cons.mpr ⟨inferInstance, ?_⟩

instance inOrder_execute (opcode : BitVec 8) :
    InOrder env cs ip (execute opcode) := by
  unfold execute
  cases hfind : cases.find? fun c : Case W => c.covers opcode with
  | none =>
      change InOrder env cs ip (pure () : EmuM W Unit)
      infer_instance
  | some c =>
      exact inOrder_cases env cs ip c (List.mem_of_find?_eq_some hfind)

instance inOrder_readPrefixes (n : Nat) :
    InOrder env cs ip (readPrefixes n : EmuM W (BitVec 8)) := by
  induction n with
  | zero =>
      unfold readPrefixes
      infer_instance
  | succ n ih =>
      unfold readPrefixes
      infer_instance

instance keeps_readPrefixes (n : Nat) :
    Keeps (CodeAt cs ip) env (readPrefixes n : EmuM W (BitVec 8)) := by
  induction n with
  | zero =>
      exact keeps_fault _ _ _
  | succ n ih =>
      unfold readPrefixes
      infer_instance

end InOrder

/-!
## How many bytes
-/

/-- The reads of `fetch_byte` among the accesses of a run. -/
def fetches (x : List Access × α) : List Access := x.1.filter Access.code

section Length

set_option synthInstance.maxSize 1000000

variable {env : Environment W} {cs ip : BitVec 16} {e : Emulator W}
  {m : EmuM W α} {f : α -> EmuM W β} {a : α} {s : Emulator W}

/-- Code that returns fetches as many bytes as the length grows by. -/
theorem fetches_returns (h : InOrder env cs ip m) (he : CodeAt cs ip e)
    (hret : Returns m env e a s) {n : Nat}
    (hn : s.instrLength = e.instrLength + n) :
    fetches (m env e) =
      (List.range' e.instrLength n).map (codeAccess cs ip) := by
  obtain ⟨k, hnumbered, hmeasure⟩ := h.numbered e he
  have hk : k = n := by
    have hlength := hmeasure a s hret
    omega
  rw [<- hk]
  exact hnumbered

theorem fetches_idles (h : Idles Access.code env m) :
    fetches (m env e) = [] := h.unmarked e

theorem fetches_bind (hret : Returns m env e a s) :
    fetches ((m >>= f) env e) = fetches (m env e) ++ fetches (f a env s) := by
  unfold fetches
  rw [hret.bind_events, List.filter_append]

/-- Fetches that go on where others stopped. -/
theorem fetches_append (i : Nat) {j k : Nat}
    (hfirst : fetches (m env e) =
      (List.range' e.instrLength i).map (codeAccess cs ip))
    (hret : Returns m env e a s) (hs : s.instrLength = e.instrLength + i)
    (hrest : fetches (f a env s) =
      (List.range' s.instrLength j).map (codeAccess cs ip))
    (hk : k = i + j) :
    fetches ((m >>= f) env e) =
      (List.range' e.instrLength k).map (codeAccess cs ip) := by
  rw [fetches_bind hret, hfirst, hrest, hs, <- List.map_append,
    List.range'_append_1, hk]

variable (henv : env.addressing = Addressing.emulator)
include henv

/-- `IDIV` without a quotient fetches nothing more. -/
theorem idivf7_fetches (hdecoded : e.Decoded) (he : CodeAt cs ip e)
    (hfault : Faults idivf7 env e .undefinedDivision) :
    fetches (idivf7 env e) = [] := by
  have hsound : Explains env False
      (readData .OP_WIDTH_16 false : EmuM W (BitVec 16)) := inferInstance
  rcases faults_bind.mp hfault with hread | ⟨v, s, hread, _⟩
  · exact absurd hread hsound.not_undefined
  · obtain ⟨rfl, rfl⟩ := hread.unique (readData_returns henv hdecoded
      (readData_fits henv hdecoded hread))
    have hfirst : fetches (readData .OP_WIDTH_16 false env s) = [] :=
      fetches_returns inferInstance he hread (n := 0) rfl
    rw [idivf7, fetches_bind hread, hfirst, fetches_idles inferInstance]
    rfl

/-- `IDIV` without a quotient has fetched its ModRM byte and displacement. -/
theorem negMulNotTestDivF7_fetches (he : CodeAt cs ip e)
    (hfault : Faults negMulNotTestDivF7 env e .undefinedDivision) :
    fetches (negMulNotTestDivF7 env e) =
      (List.range' e.instrLength
        (tailLength 0xf7#8 (e.codeByte e.instrLength))).map
          (codeAccess cs ip) := by
  have hlinear : env.addressing.LinearBytes := by
    rw [henv]
    exact Addressing.linearBytes_emulator
  obtain ⟨hreg, -, -⟩ := negMulNotTestDivF7_undefined henv hfault
  have hraw : Returns rawReg env (e.decodedFor .OP_WIDTH_16)
      (e.decodedFor .OP_WIDTH_16).modrmDecoder.rawReg
      (e.decodedFor .OP_WIDTH_16) :=
    decoded_returns _ (decodedFor_decoded .OP_WIDTH_16 e).isDecoded
  let s : Emulator W :=
    { e with modrmDecoder := { e.modrmDecoder with width := .OP_WIDTH_16 } }
  let n := displacementBytes (e.codeByte e.instrLength)
  have hdecode : Returns decode env s () (e.decodedFor .OP_WIDTH_16) :=
    decode_returns hlinear s
  have hn : (e.decodedFor .OP_WIDTH_16).instrLength =
      s.instrLength + (1 + n) := Nat.add_assoc _ 1 n
  have htail : tailLength 0xf7#8 (e.codeByte e.instrLength) =
      1 + n + 0 := by
    have himmed : rowImmedBytes 0xf7 7#3 = 0 := by decide
    unfold tailLength
    rw [if_pos (by decide), <- e.decodedFor_rawReg .OP_WIDTH_16, hreg]
    exact congrArg (1 + n + ·) himmed
  have hcode : CodeAt cs ip s := ⟨he.cs, he.ip⟩
  refine fetches_append (m := decode) (e := s) (1 + n) ?_ hdecode hn ?_ htail
  · exact fetches_returns inferInstance hcode hdecode hn
  · rw [fetches_bind hraw, hreg, fetches_idles inferInstance]
    refine idivf7_fetches henv (decodedFor_decoded _ e) ⟨he.cs, he.ip⟩ ?_
    have hwidth : Returns (setWidth .OP_WIDTH_16) env e () s := rfl
    rw [hwidth.faults_iff, hdecode.faults_iff, hraw.faults_iff, hreg] at hfault
    exact hfault

/-- A handler that no access stops fetches what follows its opcode. -/
theorem execute_fetches (b : BitVec 8) (he : CodeAt cs ip e)
    (hok : forall a, ¬Faults (execute b) env e (.memoryAssertion a)) :
    fetches (execute b env e) =
      (List.range' e.instrLength
        (tailLength b (e.codeByte e.instrLength))).map (codeAccess cs ip) := by
  have hlinear : env.addressing.LinearBytes := by
    rw [henv]
    exact Addressing.linearBytes_emulator
  have hlength := execute_length hlinear b e
  rcases returns_or_faults (execute b) env e with ⟨u, s, hret⟩ | ⟨x, hx⟩
  · have hret' := hret
    unfold Returns at hret'
    rw [hret'] at hlength
    exact fetches_returns inferInstance he hret hlength
  · have hx' := hx
    unfold Faults at hx'
    rw [hx'] at hlength
    cases x with
    | memoryAssertion a =>
        exact absurd hx (hok a)
    | undefinedDivision =>
        have hopcode : b = 0xf7#8 :=
          (explains_execute env id).explained _ _ hx
        rw [hopcode] at hx ⊢
        exact negMulNotTestDivF7_fetches henv he hx
    | assertion =>
        exact hlength.elim
    | endlessPrefixes =>
        exact hlength.elim

theorem readPrefixes_fetches (n : Nat) (he : CodeAt cs ip e)
    (h : e.findOpcode n e.instrLength = none) :
    fetches (readPrefixes n env e) =
      (List.range' e.instrLength n).map (codeAccess cs ip) := by
  induction n generalizing e with
  | zero =>
      rfl
  | succ n ih =>
      have hlinear : env.addressing.LinearBytes := by
        rw [henv]
        exact Addressing.linearBytes_emulator
      let b := e.codeByte e.instrLength
      obtain ⟨hregs, hmem, hlength⟩ := e.fetched.prefixed_same b
      unfold Emulator.findOpcode at h
      have hprefix : isPrefix b = true := by
        by_contra hno
        rw [if_neg hno] at h
        cases h
      rw [if_pos hprefix] at h
      have hfind : (e.fetched.prefixed b).findOpcode n
          (e.fetched.prefixed b).instrLength = none := by
        rw [Emulator.findOpcode_congr (e := e) hregs hmem, hlength]
        exact h
      have hcode : CodeAt cs ip (e.fetched.prefixed b) := by
        constructor
        · rw [hregs]
          exact he.cs
        · rw [hregs]
          exact he.ip
      have hrest : fetches ((do
          setOpcode b
          if isPrefix b then
            processPrefix b
            readPrefixes n
          else return b) env { e with instrLength := e.instrLength + 1 }) =
            fetches (readPrefixes n env (e.fetched.prefixed b)) := by
        rw [if_pos hprefix]
        change fetches ((processPrefix b >>= fun _ => readPrefixes n) env
          e.fetched) = _
        rw [fetches_bind (processPrefix_prefixed env b e.fetched),
          fetches_idles inferInstance, List.nil_append]
      refine fetches_append 1 ?_ (fetchByte_returns hlinear e) rfl
        (hrest.trans ?_) (Nat.add_comm n 1)
      · exact fetches_returns inferInstance he (fetchByte_returns hlinear e) rfl
      · rw [ih hcode hfind, hlength]
        rfl

/-- The instruction at `CS:IP` as far as its handler. -/
def runInsn : EmuM W Unit := do
  startInsn
  prefixLoop memorySize

omit henv in
theorem runInsn_eq :
    (runInsn : EmuM W Unit) =
      (do startInsn; readPrefixes memorySize) >>= execute := by
  unfold runInsn
  rw [prefixLoop_eq, bind_assoc]

/-- The bytes of an instruction are fetched in order, and all of them unless
an access fails; prefixes without an end are fetched all around the memory. -/
theorem runInsn_fetches
    (hok : forall a, ¬Faults runInsn env e (.memoryAssertion a)) :
    fetches (runInsn env e) =
      (List.range (e.insnLength.getD memorySize)).map
        (codeAccess e.registers.cs e.registers.ip) := by
  have hlinear : env.addressing.LinearBytes := by
    rw [henv]
    exact Addressing.linearBytes_emulator
  have hcode : CodeAt e.registers.cs e.registers.ip e.started := ⟨rfl, rfl⟩
  rw [List.range_eq_range']
  cases hcount : e.prefixCount with
  | none =>
      have hlength : e.insnLength = none := by
        unfold Emulator.insnLength
        rw [hcount]
        rfl
      have hfind : e.started.findOpcode memorySize e.started.instrLength =
          none := by
        rw [Emulator.findOpcode_congr (e := e) (s := e.started) rfl rfl]
        exact hcount
      have hfault : Faults (do startInsn; readPrefixes memorySize :
          EmuM W (BitVec 8)) env e .endlessPrefixes :=
        startInsn_endless hlinear hcount
      have hread := readPrefixes_fetches henv memorySize hcode hfind
      rw [hlength, runInsn_eq, fetches, Faults.bind_events hfault]
      exact hread
  | some k =>
      let n := tailLength (e.codeByte k) (e.codeByte (k + 1))
      have hlength : e.insnLength = some (k + 1 + n) := by
        unfold Emulator.insnLength
        rw [hcount]
        rfl
      obtain ⟨hregs, hmem, hopcode⟩ := e.atOpcode_same k
      have hcode' : CodeAt e.registers.cs e.registers.ip (e.atOpcode k) := by
        constructor
        · rw [hregs]
        · rw [hregs]
      have hskip := startInsn_skip hlinear e hcount
      have hstart : Returns (startInsn : EmuM W Unit) env e () e.started := rfl
      have hread : Returns (readPrefixes memorySize) env e.started
          (e.codeByte k) (e.atOpcode k) := hstart.bind_iff.mp hskip
      have hok' : forall a,
          ¬Faults (execute (e.codeByte k)) env (e.atOpcode k)
            (.memoryAssertion a) := by
        intro a ha
        refine hok a ?_
        rw [runInsn_eq]
        exact hskip.faults_iff.mpr ha
      have hexecute := execute_fetches henv (e.codeByte k) hcode' hok'
      rw [e.codeByte_atOpcode] at hexecute
      have hfirst : fetches (readPrefixes memorySize env e.started) =
          (List.range' e.started.instrLength (k + 1)).map
            (codeAccess e.registers.cs e.registers.ip) :=
        fetches_returns inferInstance hcode hread
          (hopcode.trans (Nat.zero_add (k + 1)).symm)
      have hall := fetches_append (k + 1) hfirst hread
        (hopcode.trans (Nat.zero_add (k + 1)).symm) hexecute rfl
      rw [hlength, runInsn, prefixLoop_eq]
      exact hall

omit henv in
/-- In any case they are fetched in order. -/
theorem runInsn_inOrder (e : Emulator W) :
    exists n, fetches (runInsn env e) = (List.range n).map
      (codeAccess e.registers.cs e.registers.ip) := by
  have hcode : CodeAt e.registers.cs e.registers.ip e.started := ⟨rfl, rfl⟩
  have hloop : InOrder env e.registers.cs e.registers.ip
      (readPrefixes memorySize >>= execute) := inferInstance
  obtain ⟨n, hnumbered, _⟩ := hloop.numbered e.started hcode
  rw [<- prefixLoop_eq] at hnumbered
  refine ⟨n, ?_⟩
  rw [List.range_eq_range']
  exact hnumbered

end Length
end Sim
end S80x86
