import S80x86.Foundation.Effect

/-!
# Complete runs

The events of a run that returns, together with what it returns.  Where the
environment holds the fuel of the loops, a run ends when every environment with
enough of it gives the same result.
-/

namespace Foundation
namespace Effect

variable {ρ ε φ σ α β : Type}

/-- The run causes these events and returns this value in this state. -/
def Runs (m : Effect ρ ε φ σ α) (r : ρ) (s : σ) (log : List ε) (a : α)
    (s' : σ) : Prop :=
  m r s = (log, .ok (a, s'))

section Runs

variable {m : Effect ρ ε φ σ α} {f : α -> Effect ρ ε φ σ β} {r : ρ} {s s' : σ}
variable {log : List ε}

theorem Runs.returns {a : α} (h : Runs m r s log a s') : Returns m r s a s' :=
  congrArg Prod.snd h

theorem runs_pure (a : α) :
    Runs (pure a : Effect ρ ε φ σ α) r s [] a s := rfl

theorem Runs.bind {a : α} {b : β} {s₁ : σ} {log' : List ε}
    (first : Runs m r s log a s₁) (rest : Runs (f a) r s₁ log' b s') :
    Runs (m >>= f) r s (log ++ log') b s' := by
  unfold Runs at first rest ⊢
  rw [bind_run, first]
  simp only [next, rest]

theorem Runs.bind_eq {a : α} {s₁ : σ} (h : Runs m r s log a s₁)
    (f : α -> Effect ρ ε φ σ β) :
    (m >>= f) r s = (log ++ (f a r s₁).1, (f a r s₁).2) := by
  unfold Runs at h
  rw [bind_run, h]
  rfl

theorem Runs.unique {a b : α} {s₁ : σ} {log' : List ε}
    (h : Runs m r s log a s₁) (h' : Runs m r s log' b s') :
    log = log' ∧ a = b ∧ s₁ = s' := by
  unfold Runs at h h'
  rw [h] at h'
  simpa using h'

end Runs

/-- Where `m` returns, `m'` does the same. -/
def Extends (m m' : Effect ρ ε φ σ α) : Prop :=
  forall r s a s', Returns m r s a s' -> m' r s = m r s

theorem Extends.refl (m : Effect ρ ε φ σ α) : Extends m m :=
  fun _ _ _ _ _ => rfl

theorem extends_fault (x : φ) (m : Effect ρ ε φ σ α) : Extends (fault x) m :=
  fun _ _ _ _ h => absurd h not_returns_fault

theorem Extends.bind {f g : α -> Effect ρ ε φ σ β}
    (h : forall a, Extends (f a) (g a)) (m : Effect ρ ε φ σ α) :
    Extends (m >>= f) (m >>= g) := by
  intro r s b s' hret
  obtain ⟨a, s₁, hm, hf⟩ := returns_bind.mp hret
  have hsame := h a r s₁ b s' hf
  unfold Returns at hm
  rw [bind_run, bind_run]
  unfold next
  simp only [hm, hsame]

/-!
## Fuel
-/

/-- With enough fuel the run returns this, and all its events are `ok`. -/
def Ends (env : Nat -> ρ) (ok : ε -> Prop) (m : Effect ρ ε φ σ α) (s : σ)
    (a : α) (s' : σ) : Prop :=
  exists bound, forall n, bound ≤ n -> exists log,
    Runs m (env n) s log a s' ∧ forall e, e ∈ log -> ok e

section Ends

variable {env : Nat -> ρ} {ok : ε -> Prop} {m : Effect ρ ε φ σ α}
variable {f : α -> Effect ρ ε φ σ β} {s s' : σ}

theorem Ends.of_runs {a : α} {log : List ε}
    (h : forall n, Runs m (env n) s log a s')
    (hok : forall e, e ∈ log -> ok e) : Ends env ok m s a s' :=
  ⟨0, fun n _ => ⟨log, h n, hok⟩⟩

theorem ends_pure (a : α) :
    Ends env ok (pure a : Effect ρ ε φ σ α) s a s :=
  Ends.of_runs (fun _ => runs_pure a) fun _ he => nomatch he

theorem ends_gets (f : σ -> α) :
    Ends env ok (gets f : Effect ρ ε φ σ α) s (f s) s :=
  Ends.of_runs (fun _ => rfl) fun _ he => nomatch he

theorem Ends.bind {a : α} {b : β} {s₁ : σ} (first : Ends env ok m s a s₁)
    (rest : Ends env ok (f a) s₁ b s') : Ends env ok (m >>= f) s b s' := by
  obtain ⟨i, hi⟩ := first
  obtain ⟨j, hj⟩ := rest
  refine ⟨max i j, ?_⟩
  intro n hn
  obtain ⟨log, hrun, hok⟩ := hi n (Nat.le_trans (Nat.le_max_left i j) hn)
  obtain ⟨log', hrun', hok'⟩ := hj n (Nat.le_trans (Nat.le_max_right i j) hn)
  refine ⟨log ++ log', hrun.bind hrun', ?_⟩
  intro e he
  rcases List.mem_append.mp he with he | he
  · exact hok e he
  · exact hok' e he

theorem Ends.exists_runs {a : α} (h : Ends env ok m s a s') :
    exists n log, Runs m (env n) s log a s' ∧ forall e, e ∈ log -> ok e := by
  obtain ⟨n, hn⟩ := h
  exact ⟨n, hn n (Nat.le_refl n)⟩

end Ends

end Effect
end Foundation
