import S80x86.Sim.TwoOperands
import S80x86.Foundation.Limbs

/-!
# Long additions and subtractions

A number of several bytes or words is added with `ADC`, or subtracted with
`SBB`, element by element.  Between two elements a program may do what it
wants as long as it keeps the carry.
-/

open Foundation Foundation.Limbs

namespace S80x86
namespace Sim

open Foundation.Effect

variable {W : Type}

/-- A run of the operation over corresponding elements, least significant
first, that leaves these elements in the destinations.  The last state is the
one right after the last instruction. -/
inductive Chain (op : ArithmeticOp) (w : OperandWidth) (env : Environment W) :
    Emulator W -> List (BitVec w.bits) -> List (BitVec w.bits) ->
      List (BitVec w.bits) -> Emulator W -> Prop where
  | nil (e : Emulator W) : Chain op w env e [] [] [] e
  | cons {e s t next last : Emulator W} {x y r : BitVec w.bits}
      {xs ys rs : List (BitVec w.bits)} (form : Form)
      (operands : Returns (form.operands w) env e (x, y) s)
      (selects : form.Selects op s)
      (run : Returns (execute (form.opcode op w)) env e () t)
      (destination : Returns (form.destination w) env t r t)
      (keeps : next.registers.getFlag Flag.CF = t.registers.getFlag Flag.CF)
      (stops : xs = [] -> next = t)
      (rest : Chain op w env next xs ys rs last) :
      Chain op w env e (x :: xs) (y :: ys) (r :: rs) last

theorem stores_of_ne {op : ArithmeticOp} (h : op ≠ .cmp) : op.stores = true := by
  cases op with
  | cmp =>
      exact absurd rfl h
  | _ =>
      rfl

theorem carryIn_of_ne {op : ArithmeticOp} (h : op ≠ .cmp) (r : RegisterFile) :
    op.carryIn r = r.getFlag Flag.CF := by
  cases op with
  | cmp =>
      exact absurd rfl h
  | _ =>
      rfl

section Run

variable {op : ArithmeticOp} {w : OperandWidth} {env : Environment W}
  (henv : env.addressing = Addressing.emulator)
include henv

/-- What one instruction of a chain leaves behind. -/
theorem chain_step (hstores : op.stores = true) {form : Form}
    {e s t : Emulator W} {x y r : BitVec w.bits}
    (operands : Returns (form.operands w) env e (x, y) s)
    (selects : form.Selects op s)
    (run : Returns (execute (form.opcode op w)) env e () t)
    (destination : Returns (form.destination w) env t r t) :
    r = op.result s.registers x y ∧
      t.registers.arithmetic = op.flags s.registers x y := by
  obtain ⟨t', hrun, hflags, -, hread⟩ :=
    execute_result op w henv operands selects
  obtain ⟨-, rfl⟩ := run.unique hrun
  obtain ⟨rfl, -⟩ := destination.unique (hread hstores)
  refine ⟨rfl, ?_⟩
  rw [arithmetic_congr hflags]
  exact arithmetic_setFlags s.registers _ _

/-- An instruction whose operands can be read returns, with its result in the
destination. -/
theorem chain_continues (hop : op ≠ .cmp) {form : Form} {e s : Emulator W}
    {x y : BitVec w.bits}
    (operands : Returns (form.operands w) env e (x, y) s)
    (selects : form.Selects op s) :
    exists t r, Returns (execute (form.opcode op w)) env e () t ∧
      Returns (form.destination w) env t r t := by
  obtain ⟨t, hrun, -, -, hread⟩ := execute_result op w henv operands selects
  exact ⟨t, _, hrun, hread (stores_of_ne hop)⟩

/-- A chain is the ripple of its elements. -/
theorem chain_ripple (hop : op ≠ .cmp) {e last : Emulator W}
    {xs ys rs : List (BitVec w.bits)} (h : Chain op w env e xs ys rs last) :
    xs.length = ys.length ∧
      ripple (word op.neg) xs ys (e.registers.getFlag Flag.CF) =
        (rs, last.registers.getFlag Flag.CF) ∧
      (xs ≠ [] ->
        lastSign op.neg xs ys (e.registers.getFlag Flag.CF) =
          (last.registers.getFlag Flag.SF, last.registers.getFlag Flag.OF)) := by
  induction h with
  | nil e =>
      exact ⟨rfl, rfl, fun hne => absurd rfl hne⟩
  | cons form operands selects run destination keeps stops rest ih =>
      rename_i e s t next last x y r xs ys rs
      obtain ⟨hlen, hripple, hsign⟩ := ih
      obtain ⟨hr, hflags⟩ := chain_step henv (stores_of_ne hop) operands
        selects run destination
      rw [(operands_ready henv operands).2] at hr hflags
      unfold ArithmeticOp.result at hr
      unfold ArithmeticOp.flags at hflags
      rw [carryIn_of_ne hop] at hr hflags
      have hcf : t.registers.getFlag Flag.CF =
          Carry.carryOut op.neg x y (e.registers.getFlag Flag.CF) :=
        congrArg ArithmeticFlags.cf hflags
      have hsf : t.registers.getFlag Flag.SF = r.msb := by
        rw [hr]
        exact congrArg ArithmeticFlags.sf hflags
      have hof : t.registers.getFlag Flag.OF = _ :=
        congrArg ArithmeticFlags.of hflags
      rw [keeps, hcf] at hripple hsign
      refine ⟨by simp [hlen], ?_, fun _ => ?_⟩
      · simp only [ripple, word, hripple]
        rw [hr]
      · cases xs with
        | nil =>
            cases rest
            rw [stops rfl, hsf, hof, hr]
            rfl
        | cons x' xs =>
            cases ys with
            | nil =>
                simp at hlen
            | cons y' ys =>
                exact hsign (by simp)

/-- Every run of `ADC` or `SBB` over the elements of two numbers goes on as
long as its operands can be read, and leaves the sum or difference modulo the
power of the base, the carry that does not fit, and the sign and overflow of
the numbers as a whole. -/
theorem chain_denotes (hop : op ≠ .cmp) :
    (forall (form : Form) (e s : Emulator W) (x y : BitVec w.bits),
      Returns (form.operands w) env e (x, y) s -> form.Selects op s ->
      exists t r, Returns (execute (form.opcode op w)) env e () t ∧
        Returns (form.destination w) env t r t) ∧
      forall (e last : Emulator W) (xs ys rs : List (BitVec w.bits)),
        Chain op w env e xs ys rs last ->
        let base := 2 ^ w.bits
        let c := e.registers.getFlag Flag.CF
        let A := number BitVec.toNat base xs
        let B := number BitVec.toNat base ys
        rs.length = xs.length ∧
          (number BitVec.toNat base rs : Int) =
            Carry.value op.neg A B c % (base ^ xs.length : Nat) ∧
          (last.registers.getFlag Flag.CF = true ↔
            Exceeds op.neg (base ^ xs.length) A B c) ∧
          (xs ≠ [] ->
            last.registers.getFlag Flag.SF = decide (signed rs < 0) ∧
              last.registers.getFlag Flag.OF =
                Carry.overflows (w.bits * xs.length - 1)
                  (Carry.value op.neg (signed xs) (signed ys) c)) := by
  refine ⟨fun form e s x y => chain_continues henv hop, ?_⟩
  intro e last xs ys rs h
  obtain ⟨hlen, hripple, hsign⟩ := chain_ripple henv hop h
  have hall : forall zs : List (BitVec w.bits),
      forall z, z ∈ zs -> (fun _ : BitVec w.bits => True) z :=
    fun _ _ _ => trivial
  have hvalid := ripple_valid (lawful_word op.neg)
    (e.registers.getFlag Flag.CF) (hall xs) (hall ys) hlen
  have hsplits := ripple_splits (lawful_word op.neg)
    (e.registers.getFlag Flag.CF) (hall xs) (hall ys) hlen
  rw [hripple] at hvalid hsplits
  refine ⟨hvalid.1, hsplits.eq_emod, hsplits.carry_iff, fun hne => ?_⟩
  have hbits : 0 < w.bits := by cases w <;> decide
  have hlast := lastSign_eq op.neg hbits (e.registers.getFlag Flag.CF) hlen hne
  rw [hsign hne, hripple] at hlast
  exact Prod.mk.inj hlast

end Run

/-- A state before `ADC AL, 1`. -/
def beforeAdc (ax flags : BitVec 16) : Emulator Unit :=
  { (Emulator.fresh () fun _ => 1#8 : Emulator Unit) with
    registers := { RegisterFile.reset with ax := ax, flags := flags } }

theorem beforeAdc_operands (ax flags : BitVec 16) :
    Returns (Form.accumulator.operands .OP_WIDTH_8) Environment.bare
      (beforeAdc ax flags) ((ax &&& 0xff#16).setWidth 8, 1#8)
      { beforeAdc ax flags with instrLength := 1 } := by
  refine returns_bind.mpr ⟨_, _, rfl, ?_⟩
  refine returns_bind.mpr
    ⟨_, _, fetchByte_returns Addressing.linearBytes_emulator _, ?_⟩
  rfl

/-- The bytes `ff 12` plus `01 01` are `00 14`. -/
theorem chain_denotes_two :
    exists rs last,
      Chain .adc .OP_WIDTH_8 Environment.bare (beforeAdc 0xff#16 0#16)
          [0xff#8, 0x12#8] [1#8, 1#8] rs last ∧
        number BitVec.toNat 256 rs = 0x1400 ∧
        last.registers.getFlag Flag.CF = false := by
  obtain ⟨hgoes, hdenotes⟩ :=
    @chain_denotes Unit .adc .OP_WIDTH_8 Environment.bare rfl (by decide)
  obtain ⟨t, r, hrun, hdest⟩ := hgoes .accumulator _ _ _ _
    (beforeAdc_operands 0xff#16 0#16) trivial
  obtain ⟨u, r', hrun', hdest'⟩ := hgoes .accumulator _ _ _ _
    (beforeAdc_operands 0x12#16 1#16) trivial
  have hlast := Chain.cons .accumulator (beforeAdc_operands 0x12#16 1#16)
    trivial hrun' hdest' rfl (fun _ => rfl) (Chain.nil u)
  have hfirst := Chain.cons .accumulator (beforeAdc_operands 0xff#16 0#16)
    trivial hrun hdest rfl (fun _ => rfl) (Chain.nil t)
  have hcarry : t.registers.getFlag Flag.CF = true := by
    rw [(hdenotes _ _ _ _ _ hfirst).2.2.1]
    decide
  have hchain := Chain.cons .accumulator (beforeAdc_operands 0xff#16 0#16)
    trivial hrun hdest (by rw [hcarry]; decide) (by simp) hlast
  obtain ⟨-, hvalue, hcf, -⟩ := hdenotes _ _ _ _ _ hchain
  refine ⟨_, _, hchain, ?_, ?_⟩
  · apply Int.ofNat_inj.mp
    change (number BitVec.toNat (2 ^ OperandWidth.OP_WIDTH_8.bits) _ : Int) = _
    rw [hvalue]
    decide
  · rw [← Bool.not_eq_true, hcf]
    decide

end Sim
end S80x86
