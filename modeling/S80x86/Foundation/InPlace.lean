import Mathlib.Data.List.Basic

/-!
# Assignments in place

A list of entries is set one after the other, each from the entries as they
are by then.  When nothing is read after it was set, all of them are set from
the state at the start.
-/

namespace Foundation
namespace InPlace

variable {σ ι α : Type}

/-- A step sets one of the entries in `keys` and leaves the others. -/
structure Sets (keys : ι -> Prop) (entry : σ -> ι -> α) (i : ι)
    (value : σ -> α) (step : σ -> σ) : Prop where
  same : forall s, entry (step s) i = value s
  other : forall s j, keys j -> j ≠ i -> entry (step s) j = entry s j

/-- The value of an entry reads nothing that comes before it in an order. -/
def ReadsAhead (keys : ι -> Prop) (entry : σ -> ι -> α) (before : ι -> ι -> Prop)
    (i : ι) (value : σ -> α) : Prop :=
  forall s t, (forall j, keys j -> ¬ before j i -> entry s j = entry t j) ->
    value s = value t

section Fold

variable {keys : ι -> Prop} {entry : σ -> ι -> α} {value : ι -> σ -> α}
  {step : ι -> σ -> σ}

/-- The entries that are not in the list keep what they had. -/
theorem foldl_entry_of_not_mem {order : List ι}
    (hsets : forall i, i ∈ order -> Sets keys entry i (value i) (step i))
    (s : σ) {j : ι} (hj : keys j) (hmem : j ∉ order) :
    entry (order.foldl (fun s i => step i s) s) j = entry s j := by
  induction order generalizing s with
  | nil =>
      rfl
  | cons i rest ih =>
      have hne : j ≠ i := fun h => hmem (h ▸ List.mem_cons_self)
      have hrest := ih
        (fun k hk => hsets k (List.mem_cons_of_mem i hk)) (step i s)
        fun h => hmem (List.mem_cons_of_mem i h)
      exact hrest.trans ((hsets i List.mem_cons_self).other s j hj hne)

/-- The entries of the list get what the first state says, when none of them
is read after it was set. -/
theorem foldl_entry_of_mem {order : List ι} {before : ι -> ι -> Prop}
    (hirrefl : forall i, ¬ before i i) (hsorted : order.Pairwise before)
    (hkeys : forall i, i ∈ order -> keys i)
    (hsets : forall i, i ∈ order -> Sets keys entry i (value i) (step i))
    (hreads : forall i, i ∈ order ->
      ReadsAhead keys entry before i (value i)) (s : σ) {j : ι}
    (hmem : j ∈ order) :
    entry (order.foldl (fun s i => step i s) s) j = value j s := by
  have hahead := hreads j hmem
  obtain ⟨done, rest, horder⟩ := List.append_of_mem hmem
  subst horder
  have hsplit := List.pairwise_append.mp hsorted
  have hlater : j ∉ rest := by
    intro h
    exact hirrefl j ((List.pairwise_cons.mp hsplit.2.1).1 j h)
  rw [List.foldl_append, List.foldl_cons,
    foldl_entry_of_not_mem
      (fun i hi => hsets i (List.mem_append_right _ (List.mem_cons_of_mem j hi)))
      _ (hkeys j hmem) hlater,
    (hsets j hmem).same]
  apply hahead
  intro k hk hbefore
  have hdone : k ∉ done := fun h =>
    hbefore (hsplit.2.2 k h j List.mem_cons_self)
  exact foldl_entry_of_not_mem
    (fun i hi => hsets i (List.mem_append_left _ hi)) s hk hdone

end Fold

end InPlace
end Foundation
