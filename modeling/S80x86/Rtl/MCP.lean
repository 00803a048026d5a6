import S80x86.Foundation.Clocked
import Mathlib.Tactic.IntervalCases

/-!
# Multi-cycle paths between clock domains

A word crosses from the domain of `clk_a` to the domain of `clk_b` by a toggle
that runs through a synchroniser there and back.  The edges of the two clocks
come in any order, also together.  Neither the toggle nor the synchronisers
have a reset of their own: they settle while the reset is held.
-/

open Foundation Clocked

namespace S80x86
namespace Rtl

/-- `BitSync` as two flip-flops, and the register that finds the edges. -/
structure SyncPulse where
  p1 : Bool
  p2 : Bool
  lastVal : Bool
  deriving DecidableEq, Repr

namespace SyncPulse

def p (s : SyncPulse) : Bool := Bool.xor s.p2 s.lastVal

def q (s : SyncPulse) : Bool := s.lastVal

def step (d : Bool) (s : SyncPulse) : SyncPulse :=
  { p1 := d, p2 := s.p1, lastVal := s.p2 }

end SyncPulse

structure MCP (width : Nat) where
  aEn : Bool
  txBusy : Bool
  txSample : BitVec width
  bLoadPulse : SyncPulse
  aAckPulse : SyncPulse
  deriving DecidableEq, Repr

namespace MCP

/-- The clocks that have an edge, and the inputs of the sender. -/
structure Event (width : Nat) where
  clkA : Bool
  clkB : Bool
  aSend : Bool
  aDatain : BitVec width
  deriving DecidableEq, Repr

variable {width : Nat}

def aAck (s : MCP width) : Bool := s.aAckPulse.p

def aReady (s : MCP width) : Bool := s.aAck || !s.txBusy

def bData (s : MCP width) : BitVec width := s.txSample

def bLoad (s : MCP width) : Bool := s.bLoadPulse.p

def bAck (s : MCP width) : Bool := s.bLoadPulse.q

def aLoad (e : Event width) (s : MCP width) : Bool := e.aSend && s.aReady

def step (e : Event width) (s : MCP width) : MCP width :=
  { aEn := if e.clkA then Bool.xor s.aEn (s.aLoad e) else s.aEn
    txBusy :=
      if e.clkA then
        if e.aSend then true else if s.aAck then false else s.txBusy
      else s.txBusy
    txSample := if e.clkA && s.aLoad e then e.aDatain else s.txSample
    bLoadPulse :=
      if e.clkB then s.bLoadPulse.step s.aEn else s.bLoadPulse
    aAckPulse :=
      if e.clkA then s.aAckPulse.step s.bAck else s.aAckPulse }

/-- The same while the reset is held. -/
def held (resetVal : BitVec width) (e : Event width) (s : MCP width) :
    MCP width :=
  { step e { s with txBusy := false } with
    txBusy := false
    txSample := resetVal }

/-!
## Transfers
-/

/-- The data of the transfers that the sender makes. -/
def accepted : List (Event width) -> MCP width -> List (BitVec width)
  | [], _ => []
  | e :: es, s =>
      (if e.clkA && s.aLoad e then [e.aDatain] else []) ++
        accepted es (s.step e)

/-- What the receiver finds at the edges that see the pulse. -/
def loaded : List (Event width) -> MCP width -> List (BitVec width)
  | [], _ => []
  | e :: es, s =>
      (if e.clkB && s.bLoad then [s.bData] else []) ++ loaded es (s.step e)

theorem loaded_append (first second : List (Event width)) (s : MCP width) :
    loaded (first ++ second) s =
      loaded first s ++ loaded second (run step s first) := by
  induction first generalizing s with
  | nil =>
      rfl
  | cons e es ih =>
      simp only [List.cons_append, loaded, ih, run_cons, List.append_assoc]

/-!
## The toggle on its way
-/

/-- The toggle has passed the first `k` of the seven registers. -/
structure Phase (k : Nat) (s : MCP width) : Prop where
  pos : 1 ≤ k
  le : k ≤ 7
  p1 : s.bLoadPulse.p1 = Bool.xor s.aEn (decide (k < 2))
  p2 : s.bLoadPulse.p2 = Bool.xor s.aEn (decide (k < 3))
  lastVal : s.bLoadPulse.lastVal = Bool.xor s.aEn (decide (k < 4))
  ackP1 : s.aAckPulse.p1 = Bool.xor s.aEn (decide (k < 5))
  ackP2 : s.aAckPulse.p2 = Bool.xor s.aEn (decide (k < 6))
  ackLastVal : s.aAckPulse.lastVal = Bool.xor s.aEn (decide (k < 7))
  busy : s.txBusy = decide (k < 7)

def nextPhase (e : Event width) (k : Nat) : Nat :=
  if k ≤ 3 then if e.clkB then k + 1 else k
  else if k ≤ 5 then if e.clkA then k + 1 else k
  else if e.clkA then if e.aSend then 1 else 7
  else k

theorem Phase.bLoad {k : Nat} {s : MCP width} (h : Phase k s) :
    s.bLoad = decide (k = 3) := by
  unfold MCP.bLoad SyncPulse.p
  rw [h.p2, h.lastVal]
  cases s.aEn <;> rcases h with ⟨hpos, hle, -⟩ <;> interval_cases k <;> rfl

theorem Phase.aAck {k : Nat} {s : MCP width} (h : Phase k s) :
    s.aAck = decide (k = 6) := by
  unfold MCP.aAck SyncPulse.p
  rw [h.ackP2, h.ackLastVal]
  cases s.aEn <;> rcases h with ⟨hpos, hle, -⟩ <;> interval_cases k <;> rfl

theorem Phase.aReady {k : Nat} {s : MCP width} (h : Phase k s) :
    s.aReady = decide (6 ≤ k) := by
  unfold MCP.aReady
  rw [h.aAck, h.busy]
  rcases h with ⟨hpos, hle, -⟩
  interval_cases k <;> rfl

theorem Phase.step {k : Nat} {s : MCP width} (h : Phase k s)
    (e : Event width) : Phase (nextPhase e k) (s.step e) := by
  have hready := h.aReady
  have hack := h.aAck
  rcases h with ⟨hpos, hle, hp1, hp2, hlast, hq1, hq2, hqlast, hbusy⟩
  cases ha : e.clkA <;> cases hb : e.clkB <;> cases hsend : e.aSend <;>
    interval_cases k <;>
    (constructor <;>
      simp [MCP.step, nextPhase, SyncPulse.step, aLoad, bAck, SyncPulse.q, ha,
        hb, hsend, hready, hack, hp1, hp2, hlast, hq1, hq2, hqlast, hbusy])

/-- The transfer that is on its way to the receiver. -/
def pending (k : Nat) (s : MCP width) : List (BitVec width) :=
  if k ≤ 3 then [s.txSample] else []

theorem Phase.pending_step {k : Nat} {s : MCP width} (h : Phase k s)
    (e : Event width) :
    pending k s ++ (if e.clkA && s.aLoad e then [e.aDatain] else []) =
      (if e.clkB && s.bLoad then [s.bData] else []) ++
        pending (nextPhase e k) (s.step e) := by
  have hready := h.aReady
  have hload := h.bLoad
  rcases h with ⟨hpos, hle, -⟩
  cases ha : e.clkA <;> cases hb : e.clkB <;> cases hsend : e.aSend <;>
    interval_cases k <;>
    simp [pending, nextPhase, MCP.step, aLoad, bData, ha, hb, hsend, hready,
      hload]

theorem Phase.run {k : Nat} {s : MCP width} (h : Phase k s)
    (es : List (Event width)) :
    exists k', Phase k' (Clocked.run MCP.step s es) ∧
      pending k s ++ accepted es s =
        loaded es s ++ pending k' (Clocked.run MCP.step s es) := by
  induction es generalizing k s with
  | nil =>
      exact ⟨k, h, by simp [accepted, loaded]⟩
  | cons e es ih =>
      rcases ih (h.step e) with ⟨k', hk', hrest⟩
      refine ⟨k', hk', ?_⟩
      simp only [accepted, loaded, run_cons]
      rw [<- List.append_assoc, h.pending_step e, List.append_assoc, hrest,
        <- List.append_assoc]

/-- A transfer on its way arrives with the third edge of the receiver. -/
theorem Phase.arrives {k : Nat} {s : MCP width} (h : Phase k s)
    (es : List (Event width)) (hticks : 4 ≤ k + es.countP Event.clkB) :
    pending k s <+: loaded es s := by
  induction es generalizing k s with
  | nil =>
      simp only [List.countP_nil, Nat.add_zero] at hticks
      have hk : ¬k ≤ 3 := by omega
      simp [pending, hk]
  | cons e es ih =>
      by_cases hk : k ≤ 3
      · have hstep := h.pending_step e
        have hnotReady : s.aLoad e = false := by
          rw [aLoad, h.aReady]
          simp
          omega
        simp only [hnotReady, Bool.and_false, Bool.false_eq_true, if_false,
          List.append_nil] at hstep
        simp only [loaded]
        rw [hstep, List.prefix_append_right_inj]
        apply ih (h.step e)
        cases hb : e.clkB <;>
          simp [nextPhase, hk, hb] at hticks ⊢ <;> omega
      · simp [pending, hk]

/-- Before the acknowledge the data stay as they are. -/
theorem Phase.bData_step {k : Nat} {s : MCP width} (h : Phase k s)
    (hk : k ≤ 5) (e : Event width) : (s.step e).bData = s.bData := by
  have hready : s.aReady = false := by
    rw [h.aReady]
    simp
    omega
  simp [bData, MCP.step, aLoad, hready]

/-!
## The initial reset
-/

/-- The first `n` registers of a synchroniser hold a value. -/
structure Filled (c : Bool) (n : Nat) (s : SyncPulse) : Prop where
  p1 : 1 ≤ n -> s.p1 = c
  p2 : 2 ≤ n -> s.p2 = c
  lastVal : 3 ≤ n -> s.lastVal = c

theorem Filled.zero (c : Bool) (s : SyncPulse) : Filled c 0 s := by
  constructor <;> intro h <;> omega

theorem Filled.step {c : Bool} {n : Nat} {s : SyncPulse} (h : Filled c n s) :
    Filled c (n + 1) (s.step c) where
  p1 _ := rfl
  p2 hn := h.p1 (by omega)
  lastVal hn := h.p2 (by omega)

theorem Filled.mono {c : Bool} {m n : Nat} {s : SyncPulse} (h : Filled c n s)
    (hm : m ≤ n) : Filled c m s where
  p1 h1 := h.p1 (by omega)
  p2 h2 := h.p2 (by omega)
  lastVal h3 := h.lastVal (by omega)

/-- Nothing is sent during the reset, and it lasts for three edges of the
receiver and then three of the sender. -/
structure InitialReset (es : List (Event width)) : Prop where
  quiet : forall e, e ∈ es -> e.aSend = false
  long : exists first second, es = first ++ second ∧
    3 ≤ first.countP Event.clkB ∧ 3 ≤ second.countP Event.clkA

section Reset

variable (resetVal : BitVec width)

theorem held_quiet {e : Event width} (he : e.aSend = false) (s : MCP width) :
    (held resetVal e s).aEn = s.aEn ∧
      (held resetVal e s).bLoadPulse =
        (if e.clkB then s.bLoadPulse.step s.aEn else s.bLoadPulse) ∧
      (held resetVal e s).aAckPulse =
        (if e.clkA then s.aAckPulse.step s.bAck else s.aAckPulse) := by
  refine ⟨?_, rfl, rfl⟩
  simp [held, step, aLoad, he]

theorem held_fills_b {es : List (Event width)} {n : Nat} {s : MCP width}
    (hquiet : forall e, e ∈ es -> e.aSend = false)
    (h : Filled s.aEn n s.bLoadPulse) :
    let t := run (held resetVal) s es
    t.aEn = s.aEn ∧
      Filled s.aEn (n + es.countP Event.clkB) t.bLoadPulse := by
  induction es generalizing n s with
  | nil =>
      exact ⟨rfl, h⟩
  | cons e es ih =>
      have hstep := held_quiet resetVal (hquiet e List.mem_cons_self) s
      have hquiet' : forall e, e ∈ es -> e.aSend = false :=
        fun e' he' => hquiet e' (List.mem_cons_of_mem e he')
      simp only [run_cons]
      cases hb : e.clkB with
      | false =>
          have hnext : Filled (held resetVal e s).aEn n
              (held resetVal e s).bLoadPulse := by
            rw [hstep.left, hstep.right.left, hb]
            exact h
          have hrest := ih hquiet' hnext
          rw [hstep.left] at hrest
          simpa [List.countP_cons, hb] using hrest
      | true =>
          have hnext : Filled (held resetVal e s).aEn (n + 1)
              (held resetVal e s).bLoadPulse := by
            rw [hstep.left, hstep.right.left, hb]
            exact h.step
          have hrest := ih hquiet' hnext
          rw [hstep.left] at hrest
          simpa [List.countP_cons, hb, Nat.add_assoc, Nat.add_comm] using hrest

theorem held_fills_a {es : List (Event width)} {n : Nat} {s : MCP width}
    (hquiet : forall e, e ∈ es -> e.aSend = false)
    (hb : Filled s.aEn 3 s.bLoadPulse) (h : Filled s.aEn n s.aAckPulse) :
    let t := run (held resetVal) s es
    Filled t.aEn 3 t.bLoadPulse ∧
      Filled t.aEn (n + es.countP Event.clkA) t.aAckPulse := by
  induction es generalizing n s with
  | nil =>
      exact ⟨hb, h⟩
  | cons e es ih =>
      have hstep := held_quiet resetVal (hquiet e List.mem_cons_self) s
      have hquiet' : forall e, e ∈ es -> e.aSend = false :=
        fun e' he' => hquiet e' (List.mem_cons_of_mem e he')
      have hb' : Filled (held resetVal e s).aEn 3
          (held resetVal e s).bLoadPulse := by
        rw [hstep.left, hstep.right.left]
        cases e.clkB with
        | false =>
            exact hb
        | true =>
            exact hb.step.mono (by omega)
      have hack : s.bAck = s.aEn := hb.lastVal (by omega)
      simp only [run_cons]
      cases ha : e.clkA with
      | false =>
          have hnext : Filled (held resetVal e s).aEn n
              (held resetVal e s).aAckPulse := by
            rw [hstep.left, hstep.right.right, ha]
            exact h
          simpa [List.countP_cons, ha] using ih hquiet' hb' hnext
      | true =>
          have hnext : Filled (held resetVal e s).aEn (n + 1)
              (held resetVal e s).aAckPulse := by
            rw [hstep.left, hstep.right.right, ha, hack]
            exact h.step
          simpa [List.countP_cons, ha, Nat.add_assoc, Nat.add_comm] using
            ih hquiet' hb' hnext

/-- The reset brings every register to the value of the toggle. -/
theorem phase_of_reset {es : List (Event width)} (h : InitialReset es)
    (s : MCP width) : Phase 7 (run (held resetVal) s es) := by
  rcases h with ⟨hquiet, first, second, rfl, hfirst, hsecond⟩
  have hquiet₁ : forall e, e ∈ first -> e.aSend = false :=
    fun e he => hquiet e (List.mem_append_left second he)
  have hquiet₂ : forall e, e ∈ second -> e.aSend = false :=
    fun e he => hquiet e (List.mem_append_right first he)
  have hb := held_fills_b resetVal hquiet₁ (Filled.zero s.aEn s.bLoadPulse)
  rw [run_append]
  have hb' : Filled (run (held resetVal) s first).aEn 3
      (run (held resetVal) s first).bLoadPulse := by
    rw [hb.left]
    exact hb.right.mono (by omega)
  have ha := held_fills_a resetVal hquiet₂ hb' (Filled.zero _ _)
  have hfilled := ha.right.mono (show 3 ≤ _ by omega)
  have hidle : (run (held resetVal) (run (held resetVal) s first)
      second).txBusy = false := by
    cases hlast : second.reverse with
    | nil =>
        rw [List.reverse_eq_nil_iff] at hlast
        rw [hlast] at hsecond
        simp at hsecond
    | cons e es =>
        rw [List.reverse_eq_cons_iff] at hlast
        rw [hlast, run_append]
        rfl
  constructor
  · decide
  · decide
  · simpa using ha.left.p1 (by decide)
  · simpa using ha.left.p2 (by decide)
  · simpa using ha.left.lastVal (by decide)
  · simpa using hfilled.p1 (by decide)
  · simpa using hfilled.p2 (by decide)
  · simpa using hfilled.lastVal (by decide)
  · simpa using hidle

end Reset

/-- After the initial reset, whatever the registers held before it and however
the edges of the clocks follow each other, the receiver is pulsed once for
every transfer, in order and with its data, at the latest at its third edge;
the pulse ends with the edge that sees it, and the data do not change with the
event that raises it, while it lasts and with the event that ends it. -/
theorem mcp_transfers_once (resetVal : BitVec width) (powerUp : MCP width)
    (resets es : List (Event width)) (hreset : InitialReset resets) :
    let s := run (held resetVal) powerUp resets
    let t := run step s es
    (accepted es s = loaded es s ∨
        accepted es s = loaded es s ++ [t.bData]) ∧
      (forall more : List (Event width), 3 ≤ more.countP Event.clkB ->
        accepted es s <+: loaded (es ++ more) s) ∧
      (t.bLoad = true -> forall e, (t.step e).bLoad = !e.clkB ∧
        (t.step e).bData = t.bData) ∧
      forall e, (t.step e).bLoad = true -> (t.step e).bData = t.bData := by
  intro s t
  rcases (phase_of_reset resetVal hreset powerUp).run es with ⟨k, hk, hall⟩
  change accepted es s = loaded es s ++ pending k t at hall
  change Phase k t at hk
  have hpos := hk.pos
  refine ⟨?_, ?_, ?_, ?_⟩
  · unfold pending at hall
    split at hall
    · exact Or.inr hall
    · exact Or.inl (by simpa using hall)
  · intro more hticks
    rw [hall, loaded_append]
    apply (List.prefix_append_right_inj _).mpr
    exact hk.arrives more (by omega)
  · intro hload e
    rw [hk.bLoad, decide_eq_true_eq] at hload
    subst hload
    refine ⟨?_, hk.bData_step (by decide) e⟩
    rw [(hk.step e).bLoad]
    cases hb : e.clkB <;> simp [nextPhase, hb]
  · intro e hload
    rw [(hk.step e).bLoad, decide_eq_true_eq] at hload
    apply hk.bData_step
    unfold nextPhase at hload
    split at hload
    · omega
    · split at hload
      · omega
      · split at hload
        · split at hload <;> omega
        · omega

/-- Both clocks tick together. -/
def tick (send : Bool) (data : BitVec 8) : Event 8 := ⟨true, true, send, data⟩

theorem mcp_transfers_once_two :
    InitialReset (List.replicate 6 (tick false 0#8)) ∧
      accepted (List.replicate 9 (tick true 0x5a#8))
          (run (held 0#8) ⟨true, true, 1#8, ⟨false, true, false⟩,
            ⟨true, false, true⟩⟩ (List.replicate 6 (tick false 0#8))) <+:
        loaded (List.replicate 9 (tick true 0x5a#8) ++
            List.replicate 3 (tick false 0#8))
          (run (held 0#8) ⟨true, true, 1#8, ⟨false, true, false⟩,
            ⟨true, false, true⟩⟩ (List.replicate 6 (tick false 0#8))) := by
  have hreset : InitialReset (List.replicate 6 (tick false 0#8)) := by
    constructor
    · intro e he
      rw [List.eq_of_mem_replicate he]
      rfl
    · exact ⟨List.replicate 3 (tick false 0#8),
        List.replicate 3 (tick false 0#8), rfl, by decide, by decide⟩
  exact ⟨hreset, (mcp_transfers_once 0#8 _ _ _ hreset).right.left _
    (by decide)⟩

end MCP
end Rtl
end S80x86
