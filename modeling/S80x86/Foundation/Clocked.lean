import Mathlib.Logic.Function.Iterate
import Mathlib.Data.List.Basic

/-!
# Clocked machines

A synchronous design is a step function from the inputs of one clock cycle and
the registers to the registers after the edge.  This module collects the run of
such a machine over a list of cycles, the runs an environment can produce, and
the invariant rules that turn facts about one cycle into facts about a run.
For what a machine does in the end there are endless runs, with rules that
chain one stretch of cycles to the next.
-/

namespace Foundation
namespace Clocked

variable {State Input : Type}

/-- The registers after the cycles of the list, first cycle first. -/
def run (step : Input -> State -> State) : State -> List Input -> State
  | s, [] => s
  | s, i :: rest => run step (step i s) rest

@[simp] theorem run_nil (step : Input -> State -> State) (s : State) :
    run step s [] = s := rfl

@[simp] theorem run_cons (step : Input -> State -> State) (s : State)
    (i : Input) (rest : List Input) :
    run step s (i :: rest) = run step (step i s) rest := rfl

theorem run_append (step : Input -> State -> State) (s : State)
    (first second : List Input) :
    run step s (first ++ second) = run step (run step s first) second := by
  induction first generalizing s with
  | nil =>
      rfl
  | cons i rest ih =>
      exact ih (step i s)

/--
The environment may restrict the inputs of a cycle by what the registers show
in it; a run is admissible when every cycle meets the restriction.
-/
def Admissible (step : Input -> State -> State) (ok : State -> Input -> Prop) :
    State -> List Input -> Prop
  | _, [] => True
  | s, i :: rest => ok s i ∧ Admissible step ok (step i s) rest

@[simp] theorem admissible_nil (step : Input -> State -> State)
    (ok : State -> Input -> Prop) (s : State) :
    Admissible step ok s [] := trivial

@[simp] theorem admissible_cons (step : Input -> State -> State)
    (ok : State -> Input -> Prop) (s : State) (i : Input)
    (rest : List Input) :
    Admissible step ok s (i :: rest) ↔
      ok s i ∧ Admissible step ok (step i s) rest := Iff.rfl

theorem admissible_append (step : Input -> State -> State)
    (ok : State -> Input -> Prop) (s : State) (first second : List Input) :
    Admissible step ok s (first ++ second) ↔
      Admissible step ok s first ∧
        Admissible step ok (run step s first) second := by
  induction first generalizing s with
  | nil =>
      simp
  | cons i rest ih =>
      simp [ih, and_assoc]

/-- What one admissible cycle preserves, every admissible run preserves. -/
theorem run_invariant {step : Input -> State -> State}
    {ok : State -> Input -> Prop} {Inv : State -> Prop}
    (hstep : forall s i, Inv s -> ok s i -> Inv (step i s))
    {s : State} {inputs : List Input}
    (hs : Inv s) (hrun : Admissible step ok s inputs) :
    Inv (run step s inputs) := by
  induction inputs generalizing s with
  | nil =>
      exact hs
  | cons i rest ih =>
      exact ih (hstep s i hs hrun.left) hrun.right

theorem run_preserves {step : Input -> State -> State} {Inv : State -> Prop}
    (hstep : forall s i, Inv s -> Inv (step i s)) {s : State} (hs : Inv s)
    (inputs : List Input) : Inv (run step s inputs) := by
  induction inputs generalizing s with
  | nil =>
      exact hs
  | cons i rest ih =>
      exact ih (hstep s i hs)

/-- The property holds before every cycle of the run and after the last. -/
def Always (step : Input -> State -> State) (p : State -> Prop) :
    State -> List Input -> Prop
  | s, [] => p s
  | s, i :: rest => p s ∧ Always step p (step i s) rest

/-- Where a cycle keeps a property just when it meets a restriction, a run
keeps it throughout just when all of its cycles meet the restriction. -/
theorem always_iff_admissible {step : Input -> State -> State}
    {p Inv : State -> Prop} {ok : State -> Input -> Prop}
    (hinv : forall s i, Inv s -> Inv (step i s))
    (hiff : forall s i, Inv s -> p s -> (p (step i s) ↔ ok s i))
    {s : State} (hs : Inv s) (hp : p s) (inputs : List Input) :
    Always step p s inputs ↔ Admissible step ok s inputs := by
  induction inputs generalizing s with
  | nil =>
      exact ⟨fun _ => trivial, fun _ => hp⟩
  | cons i rest ih =>
      constructor
      · rintro ⟨_, hrest⟩
        have hnext : p (step i s) := by
          cases rest with
          | nil =>
              exact hrest
          | cons j rest =>
              exact hrest.left
        exact ⟨(hiff s i hs hp).mp hnext,
          (ih (hinv s i hs) hnext).mp hrest⟩
      · rintro ⟨hok, hrest⟩
        have hnext := (hiff s i hs hp).mpr hok
        exact ⟨hp, (ih (hinv s i hs) hnext).mpr hrest⟩

/-!
## Outputs
-/

/-- What the registers put out in each cycle of the run, in order. -/
def outputs {Output : Type} (step : Input -> State -> State)
    (out : State -> List Output) : State -> List Input -> List Output
  | _, [] => []
  | s, i :: rest => out s ++ outputs step out (step i s) rest

theorem outputs_append {Output : Type} (step : Input -> State -> State)
    (out : State -> List Output) (s : State) (first second : List Input) :
    outputs step out s (first ++ second) =
      outputs step out s first ++
        outputs step out (run step s first) second := by
  induction first generalizing s with
  | nil =>
      rfl
  | cons i rest ih =>
      change out s ++ outputs step out (step i s) (rest ++ second) =
        out s ++ outputs step out (step i s) rest ++ _
      rw [ih, List.append_assoc]
      rfl

/-- What holds of the outputs of one cycle holds of those of a run. -/
theorem outputs_forall {Output : Type} {step : Input -> State -> State}
    {out : State -> List Output} {ok : Input -> Prop} {Inv : State -> Prop}
    {p : Output -> Prop}
    (hstep : forall s i, Inv s -> ok i -> Inv (step i s))
    (hout : forall s, Inv s -> forall x, x ∈ out s -> p x)
    {inputs : List Input} (hok : forall i, i ∈ inputs -> ok i) {s : State}
    (hs : Inv s) : forall x, x ∈ outputs step out s inputs -> p x := by
  induction inputs generalizing s with
  | nil =>
      intro x hx
      cases hx
  | cons i rest ih =>
      intro x hx
      rcases List.mem_append.mp hx with hx | hx
      · exact hout s hs x hx
      · exact ih (fun j hj => hok j (List.mem_cons_of_mem i hj))
          (hstep s i hs (hok i List.mem_cons_self)) x hx

/-!
## Items in transit
-/

/-- What happens in each cycle of the run, in order. -/
def events {Event : Type} (step : Input -> State -> State)
    (event : Input -> State -> List Event) : State -> List Input -> List Event
  | _, [] => []
  | s, i :: rest => event i s ++ events step event (step i s) rest

theorem events_append {Event : Type} (step : Input -> State -> State)
    (event : Input -> State -> List Event) (s : State)
    (first second : List Input) :
    events step event s (first ++ second) =
      events step event s first ++
        events step event (run step s first) second := by
  induction first generalizing s with
  | nil =>
      rfl
  | cons i rest ih =>
      change event i s ++ events step event (step i s) (rest ++ second) =
        event i s ++ events step event (step i s) rest ++ _
      rw [ih, List.append_assoc]
      rfl

/--
What enters a machine leaves it in order.  `Transit` relates the registers to
the items on the way and to a number of cycles that falls as long as nothing
enters.
-/
def Carries {Item : Type} (step : Input -> State -> State)
    (ok : State -> Input -> Prop) (enter leave : Input -> State -> List Item)
    (Transit : List Item -> Nat -> State -> Prop) : Prop :=
  forall q m s i, Transit q m s -> ok s i ->
    exists q' m', Transit q' m' (step i s) ∧
      q ++ enter i s = leave i s ++ q' ∧
      (enter i s = [] -> q' ≠ [] -> m' < m)

namespace Carries

variable {Item : Type} {step : Input -> State -> State}
variable {ok : State -> Input -> Prop}
variable {enter leave : Input -> State -> List Item}
variable {Transit : List Item -> Nat -> State -> Prop}

theorem run (h : Carries step ok enter leave Transit) {inputs : List Input}
    {q : List Item} {m : Nat} {s : State} (hs : Transit q m s)
    (hrun : Admissible step ok s inputs) :
    exists q' m', Transit q' m' (Clocked.run step s inputs) ∧
      q ++ events step enter s inputs = events step leave s inputs ++ q' := by
  induction inputs generalizing q m s with
  | nil =>
      exact ⟨q, m, hs, List.append_nil q⟩
  | cons i rest ih =>
      obtain ⟨q', m', hs', heq, _⟩ := h q m s i hs hrun.left
      obtain ⟨q'', m'', hs'', heq'⟩ := ih hs' hrun.right
      refine ⟨q'', m'', hs'', ?_⟩
      calc
        q ++ (enter i s ++ events step enter (step i s) rest) =
            leave i s ++ (q' ++ events step enter (step i s) rest) := by
          rw [<- List.append_assoc, heq, List.append_assoc]
        _ = leave i s ++ events step leave (step i s) rest ++ q'' := by
          rw [heq', List.append_assoc]

theorem leaves_nothing (h : Carries step ok enter leave Transit)
    {inputs : List Input} {m : Nat} {s : State} (hs : Transit [] m s)
    (hrun : Admissible step ok s inputs)
    (hnone : events step enter s inputs = []) :
    events step leave s inputs = [] := by
  obtain ⟨q', _, _, heq⟩ := h.run hs hrun
  rw [hnone] at heq
  exact (List.append_eq_nil_iff.mp heq.symm).left

/-- When nothing enters for long enough, all that was on the way leaves. -/
theorem drains (h : Carries step ok enter leave Transit) {inputs : List Input}
    {q : List Item} {m : Nat} {s : State} (hs : Transit q m s)
    (hrun : Admissible step ok s inputs)
    (hnone : events step enter s inputs = []) (hlong : m < inputs.length) :
    events step leave s inputs = q := by
  induction inputs generalizing q m s with
  | nil =>
      exact absurd hlong (Nat.not_lt_zero m)
  | cons i rest ih =>
      obtain ⟨hfirst, hrest⟩ := List.append_eq_nil_iff.mp hnone
      obtain ⟨q', m', hs', heq, hless⟩ := h q m s i hs hrun.left
      rw [hfirst, List.append_nil] at heq
      have hleft : events step leave (step i s) rest = q' := by
        by_cases hq : q' = []
        · rw [hq] at hs' ⊢
          exact h.leaves_nothing hs' hrun.right hrest
        · have hfall := hless hfirst hq
          rw [List.length_cons] at hlong
          exact ih hs' hrun.right hrest (by omega)
      change leave i s ++ events step leave (step i s) rest = q
      rw [hleft, heq]

end Carries

/-!
## Endless runs
-/

/-- The registers before each cycle. -/
def trace (step : Input -> State -> State) (inputs : Nat -> Input)
    (s : State) : Nat -> State
  | 0 => s
  | n + 1 => step (inputs n) (trace step inputs s n)

/-- The inputs that are left after some cycles. -/
def after (inputs : Nat -> Input) (n : Nat) : Nat -> Input :=
  fun k => inputs (n + k)

theorem trace_add (step : Input -> State -> State) (inputs : Nat -> Input)
    (s : State) (n k : Nat) :
    trace step inputs s (n + k) =
      trace step (after inputs n) (trace step inputs s n) k := by
  induction k with
  | zero =>
      rfl
  | succ k ih =>
      show step (inputs (n + k)) (trace step inputs s (n + k)) = _
      rw [ih]
      rfl

/-- The cycles up to the first that shows `goal` all show `stay`. -/
def Reaches (step : Input -> State -> State) (stay goal : State -> Prop)
    (inputs : Nat -> Input) (s : State) : Prop :=
  exists n, (forall k, k < n -> stay (trace step inputs s k)) ∧
    goal (trace step inputs s n)

section Reaches

variable {step : Input -> State -> State} {stay goal mid : State -> Prop}
variable {inputs : Nat -> Input} {s : State}

theorem Reaches.now (h : goal s) : Reaches step stay goal inputs s :=
  ⟨0, fun k hk => absurd hk (Nat.not_lt_zero k), h⟩

/-- What follows the first stretch may rely on what held during it. -/
theorem Reaches.extend (first : Reaches step stay mid inputs s)
    (second : forall n,
      (forall k, k < n -> stay (trace step inputs s k)) ->
      mid (trace step inputs s n) ->
        Reaches step stay goal (after inputs n) (trace step inputs s n)) :
    Reaches step stay goal inputs s := by
  rcases first with ⟨n, hstay, hmid⟩
  rcases second n hstay hmid with ⟨k, hstay', hgoal⟩
  refine ⟨n + k, ?_, ?_⟩
  · intro j hj
    by_cases hjn : j < n
    · exact hstay j hjn
    · have hsplit : j = n + (j - n) := by omega
      rw [hsplit, trace_add]
      exact hstay' (j - n) (by omega)
  · rw [trace_add]
    exact hgoal

theorem Reaches.trans (first : Reaches step stay mid inputs s)
    (second : forall n, mid (trace step inputs s n) ->
      Reaches step stay goal (after inputs n) (trace step inputs s n)) :
    Reaches step stay goal inputs s :=
  first.extend fun n _ hmid => second n hmid

theorem Reaches.later (hstay : stay s)
    (rest : Reaches step stay goal (after inputs 1) (step (inputs 0) s)) :
    Reaches step stay goal inputs s := by
  rcases rest with ⟨n, hrest, hgoal⟩
  have hshift : forall k, trace step inputs s (1 + k) =
      trace step (after inputs 1) (step (inputs 0) s) k :=
    trace_add step inputs s 1
  refine ⟨1 + n, ?_, ?_⟩
  · intro k hk
    cases k with
    | zero =>
        exact hstay
    | succ k =>
        rw [Nat.add_comm k 1, hshift]
        exact hrest k (by omega)
  · rw [hshift]
    exact hgoal

theorem Reaches.imp {stay' : State -> Prop}
    (h : Reaches step stay goal inputs s)
    (himp : forall s, stay s -> stay' s) :
    Reaches step stay' goal inputs s := by
  rcases h with ⟨n, hstay, hgoal⟩
  exact ⟨n, fun k hk => himp _ (hstay k hk), hgoal⟩

end Reaches

/-- An environment that can answer every state that it may meet has inputs for
an endless run. -/
theorem exists_inputs {step : Input -> State -> State} {Inv : State -> Prop}
    {ok : Nat -> Input -> State -> Prop}
    (h : forall n s, Inv s -> exists i, ok n i s ∧ Inv (step i s)) {s : State}
    (hs : Inv s) :
    exists inputs, forall n, ok n (inputs n) (trace step inputs s n) ∧
      Inv (trace step inputs s n) := by
  classical
  choose answer hok hinv using h
  let states : Nat -> { s // Inv s } := fun n =>
    Nat.rec ⟨s, hs⟩ (fun n s => ⟨step (answer n s.1 s.2) s.1,
      hinv n s.1 s.2⟩) n
  let inputs : Nat -> Input := fun n => answer n (states n).1 (states n).2
  have htrace (n : Nat) : trace step inputs s n = (states n).1 := by
    induction n with
    | zero =>
        rfl
    | succ n ih =>
        change step (inputs n) (trace step inputs s n) = _
        rw [ih]
  refine ⟨inputs, fun n => ?_⟩
  rw [htrace]
  exact ⟨hok n _ _, (states n).2⟩

/-- The environment comes back to such an input again and again. -/
def Recurs (p : Input -> Prop) (inputs : Nat -> Input) : Prop :=
  forall n, exists k, p (inputs (n + k))

theorem Recurs.after {p : Input -> Prop} {inputs : Nat -> Input}
    (h : Recurs p inputs) (n : Nat) : Recurs p (after inputs n) := by
  intro m
  rcases h (n + m) with ⟨k, hk⟩
  refine ⟨k, ?_⟩
  rw [Nat.add_assoc] at hk
  exact hk

/-- A wait that every cycle prolongs or ends, and a recurring input ends. -/
theorem Recurs.reaches {p : Input -> Prop} {step : Input -> State -> State}
    {stay goal wait : State -> Prop}
    (ends : forall i s, wait s -> p i -> stay s ∧ goal (step i s))
    (goes : forall i s, wait s -> ¬ p i -> stay s ∧ wait (step i s))
    {inputs : Nat -> Input} (h : Recurs p inputs) {s : State} (hs : wait s) :
    Reaches step stay goal inputs s := by
  rcases h 0 with ⟨k, hk⟩
  rw [Nat.zero_add] at hk
  -- The number of cycles to the recurring input falls in every other cycle.
  induction k generalizing inputs s with
  | zero =>
      have hend := ends (inputs 0) s hs hk
      exact Reaches.later hend.left (Reaches.now hend.right)
  | succ k ih =>
      by_cases hnow : p (inputs 0)
      · have hend := ends (inputs 0) s hs hnow
        exact Reaches.later hend.left (Reaches.now hend.right)
      · have hgo := goes (inputs 0) s hs hnow
        apply Reaches.later hgo.left
        apply ih (h.after 1) hgo.right
        show p (inputs (1 + k))
        rw [Nat.add_comm]
        exact hk

end Clocked
end Foundation
