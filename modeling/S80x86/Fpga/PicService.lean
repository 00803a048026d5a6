import S80x86.Fpga.Pic
import S80x86.Foundation.Clocked

/-!
# Interrupts in service

The controller together with a processor that samples the vector in a cycle in
which `intr` is high and asserts `inta` in the next one.  The order in which
interrupts were acknowledged and retired is kept beside the registers.
-/

namespace S80x86
namespace Fpga
namespace PicService

open Foundation Pic

/-- A register access, the interrupt lines, and whether the processor takes
the interrupt that the controller requests. -/
structure Cycle where
  cs : Bool
  dataIn : BitVec 16
  bytesel : BitVec 2
  wrEn : Bool
  access : Bool
  intrIn : BitVec 8
  takeIrq : Bool
  deriving DecidableEq, Repr

structure System where
  pic : Pic
  /-- The vector sampled in the cycle before, whose acknowledge is due. -/
  sampled : Option (BitVec 8)
  /-- The acknowledged lines that no end of interrupt has retired, latest
  first. -/
  service : List Line
  deriving DecidableEq, Repr

/-- The line a vector is for. -/
def lineOf (vector : BitVec 8) : Line := (vector.extractLsb' 0 3).toFin

namespace System

def inputs (c : Cycle) (s : System) : Inputs :=
  { reset := false
    cs := c.cs
    dataIn := c.dataIn
    bytesel := c.bytesel
    wrEn := c.wrEn
    access := c.access
    intrIn := c.intrIn
    inta := s.sampled.isSome }

def eoi (c : Cycle) (s : System) : Bool := (s.inputs c).nonSpecificEoi

/-- What is still in service once an end of interrupt has taken effect. -/
def retired (c : Cycle) (s : System) : List Line :=
  if s.eoi c then s.service.tail else s.service

def step (c : Cycle) (s : System) : System :=
  { pic := Pic.step (s.inputs c) s.pic
    sampled :=
      if c.takeIrq && s.pic.intr (s.inputs c) then
        some (s.pic.irq (s.inputs c))
      else none
    service :=
      match s.sampled with
      | some v => lineOf v :: s.retired c
      | none => s.retired c }

end System

/-- The system after a cycle with reset asserted. -/
def afterReset (p : Pic) (i : Inputs) : System :=
  { pic := Pic.step { i with reset := true } p
    sampled := none
    service := [] }

/-!
## The invariant
-/

/-- The lines in service are nested, and a sampled line is pending, outranks
them all and is the one that will be acknowledged. -/
structure Inv (s : System) : Prop where
  nest : Priority.Nest (fun k : Line => s.pic.isr.getLsbD k) s.service
  delivered : forall v, s.sampled = some v ->
    s.pic.delivered.toFin = lineOf v
  pending : forall v, s.sampled = some v ->
    s.pic.irr.getLsbD (lineOf v) = true
  outranks : forall v, s.sampled = some v ->
    forall k : Line, s.pic.isr.getLsbD k = true -> lineOf v < k

theorem inv_afterReset (p : Pic) (i : Inputs) : Inv (afterReset p i) where
  nest := Priority.Nest.empty fun k => by
    show (0#8).getLsbD k = false
    simp
  delivered v h := by cases h
  pending v h := by cases h
  outranks v h := by cases h

section Step

variable {s : System} {c : Cycle}

theorem getLsbD_afterEoi (h : Inv s)
    (hspecific : (s.inputs c).specificEoi = false) (j : Line) :
    (s.pic.afterEoi (s.inputs c)).getLsbD j =
      (s.pic.isr.getLsbD j &&
        !(s.eoi c && decide (s.service.head? = some j))) := by
  unfold Pic.afterEoi System.eoi
  rw [hspecific]
  have hfind : lines.find? (fun k : Line => s.pic.isr.getLsbD k) =
      s.service.head? := h.nest.find_eq_head? lines_sorted mem_lines
  rw [hfind]
  cases (s.inputs c).nonSpecificEoi with
  | false =>
      simp
  | true =>
      cases hhead : s.service.head? with
      | none =>
          simp
      | some k =>
          simp only [if_true, Bool.true_and, Option.some.injEq,
            getLsbD_clearBit]
          congr 1
          rw [<- decide_not]
          exact decide_eq_decide.mpr (not_congr eq_comm)

/-- The nest without the line that an end of interrupt retires. -/
theorem nest_retired (h : Inv s)
    (hspecific : (s.inputs c).specificEoi = false) :
    Priority.Nest
      (fun k : Line => (s.pic.afterEoi (s.inputs c)).getLsbD k)
      (s.retired c) := by
  have hbits := getLsbD_afterEoi h hspecific
  unfold System.retired
  cases heoi : s.eoi c with
  | false =>
      rw [heoi] at hbits
      simp only [Bool.false_and, Bool.not_false, Bool.and_true] at hbits
      simp only [hbits, Bool.false_eq_true, if_false]
      exact h.nest
  | true =>
      rw [heoi] at hbits
      simp only [Bool.true_and] at hbits
      rw [if_pos rfl]
      have hnest := h.nest
      cases hservice : s.service with
      | nil =>
          simp only [hservice, List.head?_nil, reduceCtorEq, decide_false,
            Bool.not_false, Bool.and_true] at hbits
          rw [hservice] at hnest
          simp only [hbits, List.tail_nil]
          exact hnest
      | cons k rest =>
          rw [hservice] at hnest
          apply hnest.tail
          intro j
          rw [hbits, hservice, List.head?_cons, <- decide_not]
          congr 1
          simp only [Option.some.injEq]
          exact decide_eq_decide.mpr (not_congr eq_comm)

theorem afterEoi_le (h : Inv s)
    (hspecific : (s.inputs c).specificEoi = false) {j : Line}
    (hj : (s.pic.afterEoi (s.inputs c)).getLsbD j = true) :
    s.pic.isr.getLsbD j = true := by
  rw [getLsbD_afterEoi h hspecific, Bool.and_eq_true] at hj
  exact hj.1

/-- No interrupt is requested in an acknowledge cycle. -/
theorem intr_of_sampled {v : BitVec 8} (hv : s.sampled = some v) :
    s.pic.intr (s.inputs c) = false := by
  have hinta : (s.inputs c).inta = true := by simp [System.inputs, hv]
  cases hrequest : s.pic.request (s.inputs c) with
  | none =>
      simp [Pic.intr, hrequest]
  | some k =>
      have hidle := ((request_eq_some_iff _ _ _).mp hrequest).1
      rw [hinta] at hidle
      cases hidle

theorem step_isr (hinta : s.sampled = none) :
    (s.step c).pic.isr = s.pic.afterEoi (s.inputs c) := by
  have hlow : (s.inputs c).inta = false := by simp [System.inputs, hinta]
  show s.pic.nextIsr (s.inputs c) = _
  simp [Pic.nextIsr, hlow]

theorem step_isr_acknowledged (h : Inv s) {v : BitVec 8}
    (hv : s.sampled = some v) :
    (s.step c).pic.isr = setBit (s.pic.afterEoi (s.inputs c)) (lineOf v) := by
  have hinta : (s.inputs c).inta = true := by simp [System.inputs, hv]
  show s.pic.nextIsr (s.inputs c) = _
  simp [Pic.nextIsr, hinta, h.delivered v hv]

theorem step_irr_acknowledged (h : Inv s) {v : BitVec 8}
    (hv : s.sampled = some v) :
    (s.step c).pic.irr = clearBit s.pic.irr (lineOf v) := by
  have hinta : (s.inputs c).inta = true := by simp [System.inputs, hv]
  show s.pic.nextIrr (s.inputs c) = _
  simp [Pic.nextIrr, hinta, h.delivered v hv]

/-- A vector that is sampled was requested by its line. -/
theorem requested_of_sampled {v : BitVec 8}
    (hv : (s.step c).sampled = some v) :
    s.sampled = none ∧ s.pic.request (s.inputs c) = some (lineOf v) ∧
      s.pic.irq (s.inputs c) = v := by
  cases hs : s.sampled with
  | some w =>
      simp [System.step, intr_of_sampled hs] at hv
  | none =>
      have hsampled : (if c.takeIrq && s.pic.intr (s.inputs c) then
          some (s.pic.irq (s.inputs c)) else none) = some v := hv
      split at hsampled
      · next htake =>
          cases hsampled
          rw [Bool.and_eq_true] at htake
          refine ⟨rfl, ?_, rfl⟩
          cases hrequest : s.pic.request (s.inputs c) with
          | none =>
              simp [Pic.intr, hrequest] at htake
          | some k =>
              simp only [Pic.irq, hrequest, lineOf, vector_line]
      · cases hsampled

theorem inv_step (h : Inv s) (hspecific : (s.inputs c).specificEoi = false) :
    Inv (s.step c) := by
  have hnest := nest_retired h hspecific
  refine ⟨?_, ?_, ?_, ?_⟩
  · cases hs : s.sampled with
    | none =>
        have hservice : (s.step c).service = s.retired c := by
          simp [System.step, hs]
        rw [hservice, step_isr hs]
        exact hnest
    | some v =>
        have hservice : (s.step c).service = lineOf v :: s.retired c := by
          simp [System.step, hs]
        rw [hservice, step_isr_acknowledged h hs]
        apply hnest.cons
        · intro k hk
          exact h.outranks v hs k (afterEoi_le h hspecific hk)
        · intro j
          exact getLsbD_setBit _ _ _
  · intro v hv
    have hirq := (requested_of_sampled hv).2.2
    show ((s.pic.irq (s.inputs c)).extractLsb' 0 3).toFin = _
    rw [hirq]
    rfl
  · intro v hv
    rcases requested_of_sampled hv with ⟨hs, hrequest, _⟩
    rcases (request_eq_some_iff _ _ _).mp hrequest with ⟨hinta, hirr, _, _⟩
    show (s.pic.nextIrr (s.inputs c)).getLsbD (lineOf v) = true
    simp [Pic.nextIrr, hinta, hirr]
  · intro v hv k hk
    rcases requested_of_sampled hv with ⟨hs, hrequest, _⟩
    rcases (request_eq_some_iff _ _ _).mp hrequest with ⟨_, _, hisr, _⟩
    rw [step_isr hs] at hk
    have hold := afterEoi_le h hspecific hk
    by_contra hnot
    rw [hisr k (not_lt.mp hnot)] at hold
    cases hold

end Step

/-!
## Whole runs
-/

/-- Any register access but a specific end of interrupt. -/
def Ordinary (s : System) (c : Cycle) : Prop :=
  (s.inputs c).specificEoi = false

/--
In every run after a reset the lines in service are nested, latest first, and
`isr` holds just them.  In an acknowledge cycle the line of the sampled vector
is pending, outranks all that is in service, and is the bit that moves from
`irr` to `isr`; a non-specific end of interrupt retires the line that was
acknowledged last.
-/
theorem pic_service_nested (p : Pic) (i : Inputs) (cycles : List Cycle)
    (hrun : Clocked.Admissible System.step Ordinary (afterReset p i) cycles)
    (c : Cycle) :
    let s := Clocked.run System.step (afterReset p i) cycles
    s.service.Pairwise (· < ·) ∧
      (forall k : Line, k ∈ s.service ↔ s.pic.isr.getLsbD k = true) ∧
      (forall v, s.sampled = some v ->
        (s.inputs c).inta = true ∧
        s.pic.irr.getLsbD (lineOf v) = true ∧
        (forall k : Line, s.pic.isr.getLsbD k = true -> lineOf v < k) ∧
        (s.step c).pic.irr = clearBit s.pic.irr (lineOf v) ∧
        (s.step c).pic.isr =
          setBit (s.pic.afterEoi (s.inputs c)) (lineOf v)) ∧
      (Ordinary s c -> s.eoi c = true -> forall k rest, s.service = k :: rest ->
        s.pic.afterEoi (s.inputs c) = clearBit s.pic.isr k) := by
  intro s
  have h : Inv s := Clocked.run_invariant (fun s c h hok => inv_step h hok)
    (inv_afterReset p i) hrun
  refine ⟨h.nest.sorted, h.nest.mem_iff, ?_, ?_⟩
  · intro v hv
    refine ⟨?_, h.pending v hv, h.outranks v hv, step_irr_acknowledged h hv,
      step_isr_acknowledged h hv⟩
    simp [System.inputs, hv]
  · intro hspecific heoi k rest hservice
    have hfind : lines.find? (fun k : Line => s.pic.isr.getLsbD k) =
        s.service.head? := h.nest.find_eq_head? lines_sorted mem_lines
    rw [hservice, List.head?_cons] at hfind
    have hwrite : (s.inputs c).nonSpecificEoi = true := heoi
    simp only [Pic.afterEoi, hwrite, if_true, hfind]

/-- A cycle without register access. -/
def quiet (intrIn : BitVec 8) (takeIrq : Bool) : Cycle :=
  { cs := false, dataIn := 0#16, bytesel := 0#2, wrEn := false
    access := false, intrIn := intrIn, takeIrq := takeIrq }

/-- A cycle that writes a non-specific end of interrupt. -/
def eoiCycle : Cycle :=
  { quiet 0#8 false with
    cs := true, dataIn := 0x20#16, bytesel := 0b01#2, wrEn := true
    access := true }

def blank : Pic :=
  { initState := .INIT_STATE_ICW1, regLatch := .REG_LATCH_NONE
    vectorAddress := 0#5, mask := 0#8, isr := 0#8, irr := 0#8
    delivered := 0#3, intrLast := 0#8, dataOut := 0#16, ack := false }

def blankInputs : Inputs :=
  { reset := false, cs := false, dataIn := 0#16, bytesel := 0#2
    wrEn := false, access := false, intrIn := 0#8, inta := false }

/-- Line 3 is taken, then line 1 inside it. -/
def nested : List Cycle :=
  [quiet 0x08#8 false, quiet 0x08#8 true, quiet 0x0a#8 false,
    quiet 0x00#8 false, quiet 0x02#8 false, quiet 0x02#8 true,
    quiet 0x02#8 false]

theorem pic_service_nested_twice :
    (Clocked.run System.step (afterReset blank blankInputs) nested).service =
        [1, 3] ∧
      (Clocked.run System.step (afterReset blank blankInputs)
        nested).pic.afterEoi ((Clocked.run System.step
          (afterReset blank blankInputs) nested).inputs eoiCycle) =
        clearBit (Clocked.run System.step (afterReset blank blankInputs)
          nested).pic.isr 1 := by
  have hrun : Clocked.Admissible System.step Ordinary
      (afterReset blank blankInputs) nested := by
    simp only [nested, Clocked.admissible_cons, Clocked.admissible_nil,
      and_true, Ordinary]
    decide
  have hservice : (Clocked.run System.step (afterReset blank blankInputs)
      nested).service = [1, 3] := by decide
  have hnested := pic_service_nested blank blankInputs nested hrun eoiCycle
  exact ⟨hservice, hnested.2.2.2 rfl (by decide) 1 [3] hservice⟩

/-!
## Edges
-/

/-- The controller and the lines on which an edge still waits for its
acknowledge. -/
structure Watch where
  pic : Pic
  owed : BitVec 8
  deriving DecidableEq, Repr

namespace Watch

/-- The rising edges on lines that are not masked. -/
def edges (i : Inputs) (s : Watch) : BitVec 8 :=
  ~~~s.pic.mask &&& s.pic.intrEdges i

def step (i : Inputs) (s : Watch) : Watch :=
  { pic := Pic.step i s.pic
    owed :=
      if i.reset then 0#8
      else
        (if i.inta then clearBit s.owed s.pic.delivered.toFin else s.owed) |||
          s.edges i }

end Watch

def watchReset (p : Pic) (i : Inputs) : Watch :=
  { pic := Pic.step { i with reset := true } p, owed := 0#8 }

/-- An edge on the line in an acknowledge cycle finds the line pending, and it
is another line that is acknowledged. -/
def EdgeSeen (k : Line) (s : Watch) (i : Inputs) : Prop :=
  i.inta = true -> (s.edges i).getLsbD k = true ->
    s.pic.irr.getLsbD k = true ∧ s.pic.delivered.toFin ≠ k

/-- An edge that is still owed on the line is pending. -/
def Kept (k : Line) (s : Watch) : Prop :=
  s.owed.getLsbD k = true -> s.pic.irr.getLsbD k = true

theorem kept_step (k : Line) (s : Watch) (i : Inputs) (h : Kept k s)
    (hseen : EdgeSeen k s i) : Kept k (s.step i) := by
  unfold Kept at h ⊢
  cases hreset : i.reset with
  | true =>
      simp [Watch.step, hreset]
  | false =>
      have hirr : (s.step i).pic.irr = s.pic.nextIrr i := by
        simp [Watch.step, Pic.step, Pic.clock, hreset]
      rw [hirr]
      simp only [Watch.step, hreset, Bool.false_eq_true, if_false,
        BitVec.getLsbD_or, Bool.or_eq_true]
      unfold Pic.nextIrr
      cases hinta : i.inta with
      | false =>
          simp only [Bool.false_eq_true, if_false, BitVec.getLsbD_or,
            Bool.or_eq_true]
          rintro (howed | hedge)
          · exact Or.inl (h howed)
          · exact Or.inr hedge
      | true =>
          simp only [if_true, getLsbD_clearBit, Bool.and_eq_true,
            decide_eq_true_eq]
          rintro (⟨howed, hother⟩ | hedge)
          · exact ⟨h howed, hother⟩
          · rcases hseen hinta hedge with ⟨hpending, hother⟩
            exact ⟨hpending, fun heq => hother heq.symm⟩

/-- In every run in which no unmasked edge on the line falls into an
acknowledge cycle, unless the line is pending and not the one acknowledged, an
edge stays pending until the line is acknowledged. -/
theorem pic_keeps_edges (p : Pic) (i : Inputs) (k : Line)
    (cycles : List Inputs)
    (hrun : Clocked.Admissible Watch.step (EdgeSeen k) (watchReset p i)
      cycles) :
    Kept k (Clocked.run Watch.step (watchReset p i) cycles) := by
  have hinit : Kept k (watchReset p i) := by
    simp [Kept, watchReset]
  exact Clocked.run_invariant (fun s c h hok => kept_step k s c h hok) hinit
    hrun

/-- Only the interrupt lines and the acknowledge. -/
def lineInputs (intrIn : BitVec 8) (inta : Bool) : Inputs :=
  { blankInputs with intrIn := intrIn, inta := inta }

/-- Line 3 is requested and acknowledged, and line 5 rises in the cycle of the
acknowledge. -/
theorem pic_edge_lost :
    let s := Clocked.run Watch.step (watchReset blank blankInputs)
      [lineInputs 0x08#8 false, lineInputs 0x08#8 false,
        lineInputs 0x28#8 true]
    s.owed.getLsbD 5 = true ∧ s.pic.irr.getLsbD 5 = false ∧ ¬ Kept 5 s := by
  unfold Kept
  decide

/-- Line 3 is acknowledged while an earlier edge on line 5 waits. -/
theorem pic_keeps_edges_across_acknowledge :
    (Clocked.run Watch.step (watchReset blank blankInputs)
      [lineInputs 0x28#8 false, lineInputs 0x28#8 false,
        lineInputs 0x28#8 true]).pic.irr.getLsbD 5 = true := by
  have hrun : Clocked.Admissible Watch.step (EdgeSeen 5)
      (watchReset blank blankInputs)
      [lineInputs 0x28#8 false, lineInputs 0x28#8 false,
        lineInputs 0x28#8 true] := by
    simp only [Clocked.admissible_cons, Clocked.admissible_nil, and_true,
      EdgeSeen]
    decide
  exact pic_keeps_edges blank blankInputs 5 _ hrun (by decide)

end PicService
end Fpga
end S80x86
