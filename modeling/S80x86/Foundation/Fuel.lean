import Mathlib.Data.List.Basic

/-!
# Computations with fuel

A loop that is given fuel has no result when the fuel runs out. The rules here
speak about all results of such a computation at once.
-/

namespace Foundation

universe u v

variable {α : Type u} {β : Type v}

/-- With fuel `n` there is a result, and with any fuel every result is in
`P`. -/
structure Returns (n : Nat) (f : Nat -> Option α) (P : α -> Prop) : Prop where
  ends : forall fuel, n <= fuel -> (f fuel).isSome = true
  gives : forall fuel r, f fuel = some r -> P r

/-- More fuel gives the same result. -/
def Settles (f : Nat -> Option α) : Prop :=
  forall fuel r, f fuel = some r -> f (fuel + 1) = some r

theorem Settles.add {f : Nat -> Option α} (h : Settles f) {fuel : Nat} {r : α}
    (hr : f fuel = some r) (n : Nat) : f (fuel + n) = some r := by
  induction n with
  | zero =>
      exact hr
  | succ n ih =>
      exact h _ _ ih

namespace Returns

variable {n : Nat} {f : Nat -> Option α} {P Q : α -> Prop}

theorem some_of_le (h : Returns n f P) {fuel : Nat} (hFuel : n <= fuel) :
    exists r, f fuel = some r ∧ P r := by
  obtain ⟨r, hr⟩ := Option.isSome_iff_exists.mp (h.ends fuel hFuel)
  exact ⟨r, hr, h.gives fuel r hr⟩

theorem imp (h : Returns n f P) (hImp : forall r, P r -> Q r) :
    Returns n f Q :=
  ⟨h.ends, fun fuel r hr => hImp r (h.gives fuel r hr)⟩

theorem mono {m : Nat} (h : Returns n f P) (hLe : n <= m) : Returns m f P :=
  ⟨fun fuel hFuel => h.ends fuel (Nat.le_trans hLe hFuel), h.gives⟩

/-- One result that settles is the only result. -/
theorem of_settles (h : Settles f) {r : α} (hr : f n = some r) (hP : P r) :
    Returns n f P := by
  have hsome : forall fuel, n <= fuel -> f fuel = some r := by
    intro fuel hFuel
    obtain ⟨k, rfl⟩ := Nat.exists_eq_add_of_le hFuel
    exact h.add hr k
  refine ⟨fun fuel hFuel => by rw [hsome fuel hFuel]; rfl, ?_⟩
  intro fuel r' hr'
  have hBig := h.add hr' n
  rw [hsome (fuel + n) (by omega)] at hBig
  cases hBig
  exact hP

theorem pure {r : α} (h : P r) : Returns n (fun _ => some r) P :=
  ⟨fun _ _ => rfl, fun _ _ hr => by cases hr; exact h⟩

theorem bind {g : α -> Nat -> Option β} {R : β -> Prop} (h : Returns n f P)
    (hNext : forall r, P r -> Returns n (g r) R) :
    Returns n (fun fuel => (f fuel).bind fun r => g r fuel) R := by
  constructor
  · intro fuel hFuel
    obtain ⟨r, hr, hP⟩ := h.some_of_le hFuel
    rw [hr]
    exact (hNext r hP).ends fuel hFuel
  · intro fuel r' hr'
    obtain ⟨r, hr, hg⟩ := Option.bind_eq_some_iff.mp hr'
    exact (hNext r (h.gives fuel r hr)).gives fuel r' hg

/-- A loop whose body gives its result. -/
theorem of_succ {g : Nat -> Option α} (h : Returns n g P) (hPos : 0 < n)
    (hZero : f 0 = none) (hSucc : forall fuel, f (fuel + 1) = g (fuel + 1)) :
    Returns n f P := by
  constructor
  · intro fuel hFuel
    obtain ⟨k, rfl⟩ := Nat.exists_eq_add_of_lt (Nat.lt_of_lt_of_le hPos hFuel)
    rw [Nat.zero_add, hSucc]
    exact h.ends _ (by omega)
  · intro fuel r hr
    cases fuel with
    | zero =>
        rw [hZero] at hr
        cases hr
    | succ fuel =>
        rw [hSucc] at hr
        exact h.gives _ r hr

end Returns
end Foundation
