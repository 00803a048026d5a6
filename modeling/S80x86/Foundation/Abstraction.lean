import S80x86.Foundation.Effect

/-!
# Code behind an abstraction

What stateful code does to a view of its state: from every state with one view
it returns the same value, and ends in a state with the same other view.  The
rules follow the structure of the code.
-/

namespace Foundation
namespace Effect

variable {ρ ε φ σ τ α β : Type}

/-- The code returns a value and takes one view to another. -/
def Acts (view : σ -> τ) (r : ρ) (m : Effect ρ ε φ σ α) (t : τ) (a : α)
    (t' : τ) : Prop :=
  forall s, view s = t -> exists s', Returns m r s a s' ∧ view s' = t'

section Acts

variable {view : σ -> τ} {r : ρ} {t t' t'' : τ}

theorem acts_pure (a : α) :
    Acts view r (pure a : Effect ρ ε φ σ α) t a t :=
  fun s hs => ⟨s, rfl, hs⟩

/-- What the code reads is in the view. -/
theorem acts_gets (f : σ -> α) (g : τ -> α)
    (h : forall s, f s = g (view s)) :
    Acts view r (gets f : Effect ρ ε φ σ α) t (g t) t := by
  intro s hs
  refine ⟨s, ?_, hs⟩
  rw [<- hs, <- h]
  rfl

/-- What the code changes is in the view, or the view does not show it. -/
theorem acts_modify (f : σ -> σ) (g : τ -> τ)
    (h : forall s, view (f s) = g (view s)) :
    Acts view r (modify f : Effect ρ ε φ σ Unit) t () (g t) := by
  intro s hs
  refine ⟨f s, rfl, ?_⟩
  rw [h, hs]

theorem Acts.bind {m : Effect ρ ε φ σ α} {f : α -> Effect ρ ε φ σ β} {a : α}
    {b : β} (hm : Acts view r m t a t') (hf : Acts view r (f a) t' b t'') :
    Acts view r (m >>= f) t b t'' := by
  intro s hs
  obtain ⟨s₁, hfirst, hs₁⟩ := hm s hs
  obtain ⟨s₂, hrest, hs₂⟩ := hf s₁ hs₁
  exact ⟨s₂, returns_bind.mpr ⟨a, s₁, hfirst, hrest⟩, hs₂⟩

theorem Acts.ite {c : Prop} [Decidable c] {m n : Effect ρ ε φ σ α} {a : α}
    (hm : c -> Acts view r m t a t') (hn : ¬c -> Acts view r n t a t') :
    Acts view r (if c then m else n) t a t' := by
  split
  · next hc => exact hm hc
  · next hc => exact hn hc

/-- The code does the same to a view that is computed otherwise. -/
theorem Acts.congr {m : Effect ρ ε φ σ α} {a : α}
    (h : Acts view r m t a t') (heq : t' = t'') :
    Acts view r m t a t'' := by
  rw [<- heq]
  exact h

end Acts
end Effect
end Foundation
