import S80x86.Isa.Decoding

/-!
# What comes to the core

While a program runs, the core relies on the decoder for what the memory holds
at `CS:IP`, and on an environment without interrupts.
-/

open Foundation Foundation.Clocked

namespace S80x86
namespace Isa

open Rtl Rtl.Parser

/-- The core takes the instruction that is offered in this cycle. -/
def Asks (s : Core) : Prop :=
  (s.doNextInstruction = true ∧ s.loadNewIp = false) ∨
    s.addr = Core.nextInstructionAddress

/-- What comes to the core in one cycle: no interrupt, nothing that was fetched
before a jump, and the instruction at the address of the next one. -/
structure Supplies (i : Core.Input) (s : Core) : Prop where
  nmi : i.nmi = false
  intr : i.intr = false
  flushed : s.abortCur = true -> i.instructionEmpty = true
  decoded : Asks s -> i.instructionEmpty = false ->
    forall bytes v, (ofArch (s.step i).arch).Reads 0 bytes ->
      parseInstruction .generated .zero bytes = some (v, []) ->
        i.nextInstructionValue = v

/-- The memory accepts accesses and the decoder offers instructions again and
again. -/
structure Feeds (inputs : Nat -> Core.Input) (s : Core) : Prop where
  supplies : forall n, Supplies (inputs n) (trace Core.step inputs s n)
  ready : Recurs (fun i => i.ready = true) inputs
  offers : Recurs (fun i => i.instructionEmpty = false) inputs

theorem Feeds.after {inputs : Nat -> Core.Input} {s : Core}
    (h : Feeds inputs s) (n : Nat) :
    Feeds (after inputs n) (trace Core.step inputs s n) := by
  refine ⟨fun k => ?_, h.ready.after n, h.offers.after n⟩
  rw [<- trace_add]
  exact h.supplies (n + k)

/-- The core waits for an instruction, and no interrupt is on its way. -/
def Waiting (s : Core) : Prop := (exists x, Core.Waits x s) ∧ Core.Calm s

/-- What comes to the core as long as it has been orderly: what it asks for,
and an instruction whenever it waits. -/
structure Serves (inputs : Nat -> Core.Input) (s : Core) : Prop where
  nmi : forall n, (inputs n).nmi = false
  intr : forall n, (inputs n).intr = false
  supplies : forall n,
    (forall k, k < n -> Core.Orderly (trace Core.step inputs s k)) ->
      Supplies (inputs n) (trace Core.step inputs s n)
  ready : Recurs (fun i => i.ready = true) inputs
  offers : forall n,
    (forall k, k < n -> Core.Orderly (trace Core.step inputs s k)) ->
      exists k, (inputs (n + k)).instructionEmpty = false ∨
        ¬ Waiting (trace Core.step inputs s (n + k))

theorem Feeds.serves {inputs : Nat -> Core.Input} {s : Core}
    (h : Feeds inputs s) : Serves inputs s := by
  refine ⟨fun n => (h.supplies n).nmi, fun n => (h.supplies n).intr,
    fun n _ => h.supplies n, h.ready, fun n _ => ?_⟩
  obtain ⟨k, hk⟩ := h.offers n
  exact ⟨k, Or.inl hk⟩

theorem Serves.after {inputs : Nat -> Core.Input} {s : Core}
    (h : Serves inputs s) (n : Nat)
    (horderly : forall k, k < n ->
      Core.Orderly (trace Core.step inputs s k)) :
    Serves (after inputs n) (trace Core.step inputs s n) := by
  have hbefore (m : Nat) (hafter : forall k, k < m -> Core.Orderly
      (trace Core.step (Clocked.after inputs n)
        (trace Core.step inputs s n) k)) (k : Nat) (hk : k < n + m) :
      Core.Orderly (trace Core.step inputs s k) := by
    by_cases hlt : k < n
    · exact horderly k hlt
    · have hsplit : k = n + (k - n) := by omega
      rw [hsplit, trace_add]
      exact hafter (k - n) (by omega)
  refine ⟨fun k => h.nmi (n + k), fun k => h.intr (n + k), fun m hafter => ?_,
    h.ready.after n, fun m hafter => ?_⟩
  · rw [<- trace_add]
    exact h.supplies (n + m) (hbefore m hafter)
  · obtain ⟨k, hk⟩ := h.offers (n + m) (hbefore m hafter)
    rw [Nat.add_assoc] at hk
    refine ⟨k, ?_⟩
    rw [<- trace_add]
    exact hk

/-!
## The instruction at an address
-/

/-- Of two pieces of the same code the longer continues the other. -/
theorem State.Reads.continues {s : State} {first second : List (BitVec 8)}
    {n : Nat} (hfirst : s.Reads n first) (hsecond : s.Reads n second)
    (hlen : first.length <= second.length) :
    exists rest, second = first ++ rest := by
  induction first generalizing n second with
  | nil =>
      exact ⟨second, rfl⟩
  | cons b first ih =>
      cases second with
      | nil =>
          simp at hlen
      | cons c second =>
          obtain ⟨rest, rfl⟩ := ih hfirst.2 hsecond.2 (by simpa using hlen)
          refine ⟨rest, ?_⟩
          rw [<- hfirst.1, hsecond.1, List.cons_append]

/-- The code stands for one instruction at most. -/
theorem State.Reads.parses_once {s : State} {T : OpcodeTable}
    {first second : List (BitVec 8)} {v w : Instruction}
    (hfirst : s.Reads 0 first) (hsecond : s.Reads 0 second)
    (hv : parseInstruction T .zero first = some (v, []))
    (hw : parseInstruction T .zero second = some (w, [])) : v = w := by
  rcases Nat.le_total first.length second.length with hlen | hlen
  · obtain ⟨rest, rfl⟩ := hfirst.continues hsecond hlen
    rw [parseInstruction_append T hv rest] at hw
    cases hw
    rfl
  · obtain ⟨rest, rfl⟩ := hsecond.continues hfirst hlen
    rw [parseInstruction_append T hw rest] at hv
    cases hv
    rfl

/-!
## Inputs for a run
-/

/-- A cycle without an interrupt, in which the prefetch unit has the bus. -/
def offer (ready empty : Bool) (v : Instruction) : Core.Input :=
  { Core.undisturbed with
    ready := ready
    instructionEmpty := empty
    nextInstructionValue := v
    prefetchAccess := true
    prefetchAck := true }

/-- What is offered has no part in the state in which it is asked for. -/
theorem arch_offer {s : Core} (haligned : Core.Aligned s) (hasks : Asks s)
    (ready empty : Bool) (v w : Instruction) :
    (s.step (offer ready empty v)).arch =
      (s.step (offer ready empty w)).arch := by
  have hip (v : Instruction) :
      (s.step (offer ready empty v)).ip.instructionStartAddr =
        if s.loadNewIp then s.newIp else s.ip.curVal := by
    change (IP.step (s.ipInput (offer ready empty v)) s.ip).instructionStartAddr
      = _
    unfold IP.step Core.ipInput
    dsimp only
    rcases hasks with ⟨hdone, -⟩ | haddr
    · rw [hdone, Bool.or_true, if_pos rfl]
    · have hload : s.loadNewIp = false := by
        have hdone : s.doNextInstruction = false := by
          unfold Core.doNextInstruction Core.current
          rw [haddr]
          rfl
        unfold Core.loadNewIp CSIPSync.updateOut Core.csipInput
        simp [hdone]
      rw [hload, haligned haddr]
      exact ite_self _
  have hsame : (s.step (offer ready empty v)).arch =
      { (s.step (offer ready empty w)).arch with
        ip := (s.step (offer ready empty v)).ip.instructionStartAddr } := rfl
  rw [hsame, hip v, <- hip w]
  rfl

/-- Some instruction is the one that the core asks for. -/
theorem exists_supplies {s : Core} (haligned : Core.Aligned s)
    (ready : Bool) :
    exists v, Supplies (offer ready s.abortCur v) s := by
  classical
  by_cases hv : exists v bytes,
      (ofArch (s.step (offer ready s.abortCur .zero)).arch).Reads 0 bytes ∧
        parseInstruction .generated .zero bytes = some (v, [])
  · obtain ⟨v, bytes, hreads, hparse⟩ := hv
    refine ⟨v, rfl, rfl, id, fun hasks _ bytes' w hreads' hparse' => ?_⟩
    rw [arch_offer haligned hasks ready _ v .zero] at hreads'
    exact hreads.parses_once hreads' hparse hparse'
  · refine ⟨.zero, rfl, rfl, id, fun _ _ bytes v hreads hparse => ?_⟩
    exact absurd ⟨v, bytes, hreads, hparse⟩ hv

/-- Every core whose instruction pointer is in step can be fed, whenever the
memory accepts accesses. -/
theorem exists_feeds {t : Core} (haligned : Core.Aligned t) {ready : Nat -> Bool}
    (hready : Recurs (fun r => r = true) ready) :
    exists inputs, Feeds inputs t ∧ forall n, (inputs n).ready = ready n := by
  let ok (n : Nat) (i : Core.Input) (s : Core) : Prop :=
    exists v, i = offer (ready n) s.abortCur v ∧ Supplies i s
  have hanswer (n : Nat) (s : Core) (hs : Core.Aligned s) :
      exists i, ok n i s ∧ Core.Aligned (s.step i) := by
    obtain ⟨v, hv⟩ := exists_supplies hs (ready n)
    exact ⟨_, ⟨v, rfl, hv⟩, hs.step rfl⟩
  obtain ⟨inputs, hinputs⟩ := exists_inputs hanswer haligned
  have hoffer (n : Nat) : exists v,
      inputs n = offer (ready n) (trace Core.step inputs t n).abortCur v :=
    let ⟨v, hv, _⟩ := (hinputs n).1
    ⟨v, hv⟩
  have hsame (n : Nat) : (inputs n).ready = ready n := by
    obtain ⟨v, hv⟩ := hoffer n
    rw [hv]
    rfl
  refine ⟨inputs, ⟨fun n => ?_, fun n => ?_, fun n => ?_⟩, hsame⟩
  · obtain ⟨-, -, hsupplies⟩ := (hinputs n).1
    exact hsupplies
  · obtain ⟨k, hk⟩ := hready n
    exact ⟨k, (hsame _).trans hk⟩
  · -- An access that was under way at a jump has come to its end.
    cases habort : (trace Core.step inputs t n).abortCur with
    | false =>
        obtain ⟨v, hv⟩ := hoffer n
        refine ⟨0, ?_⟩
        rw [Nat.add_zero, hv]
        exact habort
    | true =>
        obtain ⟨v, hv⟩ := hoffer n
        obtain ⟨w, hw⟩ := hoffer (n + 1)
        refine ⟨1, ?_⟩
        rw [hw]
        change (if (trace Core.step inputs t n).abortCur &&
          (inputs n).prefetchAck then false else _) = false
        rw [habort, hv]
        rfl

end Isa
end S80x86
