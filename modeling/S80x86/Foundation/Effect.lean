import Mathlib.Logic.Basic

/-!
# Stateful code with events

Code that reads an environment, changes a state, records the events it causes
and may stop with a fault, and the rules by which a property of its parts
becomes a property of the whole.
-/

namespace Foundation

/-- From an environment and a state to the events and the outcome. -/
def Effect (ρ ε φ σ α : Type) : Type :=
  ρ -> σ -> List ε × Except φ (α × σ)

namespace Effect

variable {ρ ε φ σ α β : Type}

/-- Go on with `f` after a first part, or keep its fault. -/
def next (first : List ε × Except φ (α × σ))
    (f : α -> σ -> List ε × Except φ (β × σ)) :
    List ε × Except φ (β × σ) :=
  match first.2 with
  | .error x => (first.1, .error x)
  | .ok (a, s) => (first.1 ++ (f a s).1, (f a s).2)

instance : Monad (Effect ρ ε φ σ) where
  pure a := fun _ s => ([], .ok (a, s))
  bind m f := fun r s => next (m r s) fun a s' => f a r s'

def ask : Effect ρ ε φ σ ρ := fun r s => ([], .ok (r, s))

def gets (f : σ -> α) : Effect ρ ε φ σ α := fun _ s => ([], .ok (f s, s))

def modify (f : σ -> σ) : Effect ρ ε φ σ Unit := fun _ s => ([], .ok ((), f s))

def fault (x : φ) : Effect ρ ε φ σ α := fun _ _ => ([], .error x)

def emit (e : ε) : Effect ρ ε φ σ Unit := fun _ s => ([e], .ok ((), s))

theorem pure_run (a : α) (r : ρ) (s : σ) :
    (pure a : Effect ρ ε φ σ α) r s = ([], .ok (a, s)) := rfl

theorem bind_run (m : Effect ρ ε φ σ α) (f : α -> Effect ρ ε φ σ β)
    (r : ρ) (s : σ) :
    (m >>= f) r s = next (m r s) fun a s' => f a r s' := rfl

theorem next_next {γ : Type} (x : List ε × Except φ (α × σ))
    (f : α -> σ -> List ε × Except φ (β × σ))
    (g : β -> σ -> List ε × Except φ (γ × σ)) :
    next (next x f) g = next x fun a s => next (f a s) g := by
  rcases x with ⟨t, out⟩
  cases out with
  | error e =>
      rfl
  | ok r =>
      rcases r with ⟨a, s⟩
      simp only [next]
      cases (f a s).2 with
      | error e =>
          rfl
      | ok r' =>
          simp only [List.append_assoc]

theorem next_pure (x : List ε × Except φ (α × σ)) :
    next x (fun a s => ([], .ok (a, s))) = x := by
  rcases x with ⟨t, out⟩
  cases out with
  | error e =>
      rfl
  | ok r =>
      simp only [next, List.append_nil]

instance : LawfulMonad (Effect ρ ε φ σ) :=
  LawfulMonad.mk' _
    (fun m => by
      funext r s
      exact next_pure (m r s))
    (fun a f => by
      funext r s
      exact Prod.ext (List.nil_append _) rfl)
    (fun m f g => by
      funext r s
      exact next_next _ _ _)

theorem ite_bind (c : Prop) [Decidable c] (m n : Effect ρ ε φ σ α)
    (f : α -> Effect ρ ε φ σ β) :
    (if c then m else n) >>= f = if c then m >>= f else n >>= f := by
  split <;> rfl

/-- Reading the same part of the state twice in a row reads one value. -/
theorem gets_gets (f : σ -> α) (k : α -> α -> Effect ρ ε φ σ β) :
    (do
      let a ← gets f
      let b ← gets f
      k a b) = (do
      let a ← gets f
      k a a) :=
  rfl

/-!
## Runs that return
-/

/-- The run ends without a fault, with this value and in this state. -/
def Returns (m : Effect ρ ε φ σ α) (r : ρ) (s : σ) (a : α) (s' : σ) : Prop :=
  (m r s).2 = .ok (a, s')

section Returns

variable {m : Effect ρ ε φ σ α} {r : ρ} {s s' : σ}

theorem returns_bind {f : α -> Effect ρ ε φ σ β} {b : β} :
    Returns (m >>= f) r s b s' ↔
      exists a s₁, Returns m r s a s₁ ∧ Returns (f a) r s₁ b s' := by
  unfold Returns
  rw [bind_run]
  cases hm : (m r s).2 with
  | error e =>
      simp [next, hm]
  | ok out =>
      rcases out with ⟨a, s₁⟩
      simp only [next, hm, Except.ok.injEq, Prod.mk.injEq]
      constructor
      · intro h
        exact ⟨a, s₁, ⟨rfl, rfl⟩, h⟩
      · rintro ⟨a', s₂, ⟨ha, hs⟩, h⟩
        rw [ha, hs]
        exact h

theorem returns_pure {a b : α} :
    Returns (pure a : Effect ρ ε φ σ α) r s b s' ↔ b = a ∧ s' = s := by
  unfold Returns
  rw [pure_run]
  simp only [Except.ok.injEq, Prod.mk.injEq]
  constructor
  · rintro ⟨ha, hs⟩
    exact ⟨ha.symm, hs.symm⟩
  · rintro ⟨ha, hs⟩
    exact ⟨ha.symm, hs.symm⟩

theorem returns_gets {f : σ -> α} {b : α} :
    Returns (gets f : Effect ρ ε φ σ α) r s b s' ↔ b = f s ∧ s' = s :=
  returns_pure (r := r)

theorem returns_modify {f : σ -> σ} {u : Unit} :
    Returns (modify f : Effect ρ ε φ σ Unit) r s u s' ↔ s' = f s := by
  unfold Returns modify
  simp only [Except.ok.injEq, Prod.mk.injEq, true_and]
  exact eq_comm

theorem not_returns_fault {x : φ} {b : α} :
    ¬Returns (fault x : Effect ρ ε φ σ α) r s b s' := by
  intro h
  cases h

/-- A run returns one value and one state. -/
theorem Returns.unique {a b : α} {t t' : σ} (h : Returns m r s a t)
    (h' : Returns m r s b t') : a = b ∧ t = t' := by
  unfold Returns at h h'
  rw [h] at h'
  simpa using h'

/-- What returns can be taken off a run. -/
theorem Returns.bind_iff {a : α} {f : α -> Effect ρ ε φ σ β} {b : β} {t : σ}
    (h : Returns m r s a t) :
    Returns (m >>= f) r s b s' ↔ Returns (f a) r t b s' := by
  rw [returns_bind]
  constructor
  · rintro ⟨a', t', h', hf⟩
    obtain ⟨rfl, rfl⟩ := h.unique h'
    exact hf
  · intro hf
    exact ⟨a, t, h, hf⟩

/-- A run that can be evaluated: it returns, and the state it returns in
passes the test. -/
theorem exists_returns_of_run {Q : σ -> Prop} [DecidablePred Q]
    (h : (match (m r s).2 with
      | .ok (_, t) => decide (Q t)
      | .error _ => false) = true) :
    exists a t, Returns m r s a t ∧ Q t := by
  unfold Returns
  cases hout : (m r s).2 with
  | error x =>
      simp [hout] at h
  | ok out =>
      simp only [hout, decide_eq_true_eq] at h
      exact ⟨out.1, out.2, rfl, h⟩

end Returns

/-!
## Runs that stop
-/

/-- The run stops with this fault. -/
def Faults (m : Effect ρ ε φ σ α) (r : ρ) (s : σ) (x : φ) : Prop :=
  (m r s).2 = .error x

/-- An explanation of a fault by the events before it, which more events
before those leave valid. -/
class Accrues (why : List ε -> φ -> Prop) : Prop where
  append : forall t t' x, why t' x -> why (t ++ t') x

/-- The events of a run that stops explain its fault. -/
class Blames (why : List ε -> φ -> Prop) (r : ρ) (m : Effect ρ ε φ σ α) :
    Prop where
  explained : forall s x, Faults m r s x -> why (m r s).1 x

section Faults

variable {m : Effect ρ ε φ σ α} {f : α -> Effect ρ ε φ σ β} {r : ρ} {s : σ}

theorem faults_bind {x : φ} :
    Faults (m >>= f) r s x ↔
      Faults m r s x ∨
        exists a s', Returns m r s a s' ∧ Faults (f a) r s' x := by
  unfold Faults Returns
  rw [bind_run]
  cases hm : (m r s).2 with
  | error e =>
      simp [next, hm]
  | ok out =>
      rcases out with ⟨a, s'⟩
      simp only [next, hm, reduceCtorEq, false_or]
      constructor
      · intro h
        exact ⟨a, s', rfl, h⟩
      · rintro ⟨a', s'', hret, h⟩
        cases hret
        exact h

theorem Returns.not_faults {a : α} {s' : σ} {x : φ} (h : Returns m r s a s') :
    ¬Faults m r s x := by
  intro hx
  unfold Returns at h
  unfold Faults at hx
  rw [h] at hx
  cases hx

/-- What returns can be taken off a run that stops. -/
theorem Returns.faults_iff {a : α} {s' : σ} {x : φ} (h : Returns m r s a s') :
    Faults (m >>= f) r s x ↔ Faults (f a) r s' x := by
  rw [faults_bind]
  constructor
  · rintro (hx | ⟨a', s'', h', hx⟩)
    · exact absurd hx h.not_faults
    · obtain ⟨rfl, rfl⟩ := h.unique h'
      exact hx
  · intro hx
    exact Or.inr ⟨a, s', h, hx⟩

theorem Returns.bind_events {a : α} {s' : σ} (h : Returns m r s a s') :
    ((m >>= f) r s).1 = (m r s).1 ++ (f a r s').1 := by
  unfold Returns at h
  rw [bind_run]
  simp only [next, h]

end Faults

section Blames

variable (why : List ε -> φ -> Prop) (r : ρ)

/-- Code that never stops. -/
theorem blames_total {m : Effect ρ ε φ σ α}
    (h : forall s, exists a s', Returns m r s a s') : Blames why r m where
  explained s x hx := by
    obtain ⟨a, s', hret⟩ := h s
    exact absurd hx hret.not_faults

instance blames_pure (a : α) : Blames why r (pure a : Effect ρ ε φ σ α) :=
  blames_total why r fun s => ⟨a, s, rfl⟩

instance blames_gets (f : σ -> α) :
    Blames why r (gets f : Effect ρ ε φ σ α) :=
  blames_total why r fun s => ⟨f s, s, rfl⟩

instance blames_modify (f : σ -> σ) :
    Blames why r (modify f : Effect ρ ε φ σ Unit) :=
  blames_total why r fun s => ⟨(), f s, rfl⟩

theorem blames_fault {x : φ} (hx : why [] x) :
    Blames why r (fault x : Effect ρ ε φ σ α) where
  explained s y hy := by
    cases hy
    exact hx

theorem Blames.bind {why : List ε -> φ -> Prop} [happ : Accrues why] {r : ρ}
    {m : Effect ρ ε φ σ α} {f : α -> Effect ρ ε φ σ β}
    (hm : Blames why r m) (hf : forall a, Blames why r (f a)) :
    Blames why r (m >>= f) where
  explained s x hx := by
    rcases faults_bind.mp hx with hfirst | ⟨a, s', hret, hrest⟩
    · have hevents : ((m >>= f) r s).1 = (m r s).1 := by
        unfold Faults at hfirst
        rw [bind_run]
        simp only [next, hfirst]
      rw [hevents]
      exact hm.explained s x hfirst
    · rw [hret.bind_events]
      exact happ.append _ _ x ((hf a).explained s' x hrest)

instance blames_bind [Accrues why] (m : Effect ρ ε φ σ α)
    (f : α -> Effect ρ ε φ σ β) [hm : Blames why r m]
    [hf : forall a, Blames why r (f a)] : Blames why r (m >>= f) := hm.bind hf

theorem Blames.ite {why : List ε -> φ -> Prop} {r : ρ} {c : Prop}
    [Decidable c] {a b : Effect ρ ε φ σ α} (ha : c -> Blames why r a)
    (hb : ¬c -> Blames why r b) : Blames why r (if c then a else b) := by
  by_cases hc : c
  · rw [if_pos hc]
    exact ha hc
  · rw [if_neg hc]
    exact hb hc

instance blames_ite (c : Prop) [Decidable c] (a b : Effect ρ ε φ σ α)
    [ha : Blames why r a] [hb : Blames why r b] :
    Blames why r (if c then a else b) := Blames.ite (fun _ => ha) fun _ => hb

end Blames

/-!
## Two states
-/

/-- The same events and the same fault, or the same value and related states. -/
def Agree (S : σ -> σ -> Prop) (x y : List ε × Except φ (α × σ)) : Prop :=
  x.1 = y.1 ∧
    match x.2, y.2 with
    | .ok (a, s), .ok (b, t) => a = b ∧ S s t
    | .error e, .error f => e = f
    | _, _ => False

theorem Agree.mono {S T : σ -> σ -> Prop} {x y : List ε × Except φ (α × σ)}
    (hST : forall s t, S s t -> T s t) (h : Agree S x y) : Agree T x y := by
  rcases x with ⟨tx, ox⟩
  rcases y with ⟨ty, oy⟩
  refine ⟨h.1, ?_⟩
  have hout := h.2
  cases ox with
  | error e =>
      cases oy with
      | error f =>
          exact hout
      | ok r =>
          exact hout
  | ok r =>
      cases oy with
      | error f =>
          exact hout
      | ok q =>
          exact ⟨hout.1, hST _ _ hout.2⟩

/-- Go on after two agreeing runs, knowing what the first one returned. -/
theorem Agree.bind {S T : σ -> σ -> Prop} {m n : Effect ρ ε φ σ α}
    {f g : α -> Effect ρ ε φ σ β} {r : ρ} {s t : σ}
    (h : Agree S (m r s) (n r t))
    (hfg : forall a s' t', Returns m r s a s' -> S s' t' ->
      Agree T (f a r s') (g a r t')) :
    Agree T ((m >>= f) r s) ((n >>= g) r t) := by
  unfold Returns at hfg
  rw [bind_run, bind_run]
  generalize m r s = x at h hfg ⊢
  generalize n r t = y at h ⊢
  rcases x with ⟨tx, ox⟩
  rcases y with ⟨ty, oy⟩
  rcases h with ⟨hev, hout⟩
  dsimp only at hev
  subst hev
  cases ox with
  | error e =>
      cases oy with
      | error f =>
          exact ⟨rfl, hout⟩
      | ok q =>
          exact hout.elim
  | ok p =>
      cases oy with
      | error f =>
          exact hout.elim
      | ok q =>
          rcases p with ⟨a, s'⟩
          rcases q with ⟨b, t'⟩
          rcases hout with ⟨hab, hst⟩
          subst hab
          have hrest := hfg a s' t' rfl hst
          exact ⟨congrArg (tx ++ ·) hrest.1, hrest.2⟩

/-- Runs from states related by `R i` agree and end related by `R j`. -/
class Respects {ι : Type} (R : ι -> σ -> σ -> Prop) (i : ι) (j : outParam ι)
    (m : Effect ρ ε φ σ α) : Prop where
  agree : forall r s t, R i s t -> Agree (R j) (m r s) (m r t)

section Respects

variable {ι : Type} (R : ι -> σ -> σ -> Prop) (i j k : ι)

instance respects_pure (a : α) :
    Respects R i i (pure a : Effect ρ ε φ σ α) where
  agree _ _ _ h := ⟨rfl, rfl, h⟩

instance respects_fault (x : φ) :
    Respects R i i (fault x : Effect ρ ε φ σ α) where
  agree _ _ _ _ := ⟨rfl, rfl⟩

theorem respects_gets (f : σ -> α) (hf : forall s t, R i s t -> f s = f t) :
    Respects R i i (gets f : Effect ρ ε φ σ α) where
  agree _ s t h := ⟨rfl, hf s t h, h⟩

theorem respects_modify (f : σ -> σ)
    (hf : forall s t, R i s t -> R j (f s) (f t)) :
    Respects R i j (modify f : Effect ρ ε φ σ Unit) where
  agree _ s t h := ⟨rfl, rfl, hf s t h⟩

theorem Respects.bind {R : ι -> σ -> σ -> Prop} {i j k : ι}
    {m : Effect ρ ε φ σ α} {f : α -> Effect ρ ε φ σ β}
    (hm : Respects R i j m) (hf : forall a, Respects R j k (f a)) :
    Respects R i k (m >>= f) where
  agree r s t h := (hm.agree r s t h).bind fun a s' t' _ => (hf a).agree r s' t'

instance respects_bind (m : Effect ρ ε φ σ α) (f : α -> Effect ρ ε φ σ β)
    [hm : Respects R i j m] [hf : forall a, Respects R j k (f a)] :
    Respects R i k (m >>= f) := hm.bind hf

instance respects_ite (c : Prop) [Decidable c] (a b : Effect ρ ε φ σ α)
    [ha : Respects R i j a] [hb : Respects R i j b] :
    Respects R i j (if c then a else b) where
  agree r s t h := by
    split
    · exact ha.agree r s t h
    · exact hb.agree r s t h

end Respects

/-!
## One state
-/

/-- From states with `P` the measure grows from `i` to `j` over any base and
`P` is kept, unless the code stops with one of the `benign` faults. -/
class Advances (P : σ -> Prop) (measure : σ -> Nat) (benign : φ -> Prop)
    (r : ρ) (i : Nat) (j : outParam Nat) (m : Effect ρ ε φ σ α) : Prop where
  outcome : forall s base, P s -> measure s = base + i ->
    match (m r s).2 with
    | .ok (_, s') => P s' ∧ measure s' = base + j
    | .error x => benign x

section Advances

variable (P : σ -> Prop) (measure : σ -> Nat) (benign : φ -> Prop) (r : ρ)
  (i j k : Nat)

instance advances_pure (a : α) :
    Advances P measure benign r i i (pure a : Effect ρ ε φ σ α) where
  outcome _ _ h hi := ⟨h, hi⟩

instance advances_gets (f : σ -> α) :
    Advances P measure benign r i i (gets f : Effect ρ ε φ σ α) where
  outcome _ _ h hi := ⟨h, hi⟩

theorem advances_fault {x : φ} (hx : benign x) :
    Advances P measure benign r i i (fault x : Effect ρ ε φ σ α) where
  outcome _ _ _ _ := hx

theorem Advances.bind {P : σ -> Prop} {measure : σ -> Nat}
    {benign : φ -> Prop} {r : ρ} {i j k : Nat} {m : Effect ρ ε φ σ α}
    {f : α -> Effect ρ ε φ σ β} (hm : Advances P measure benign r i j m)
    (hf : forall a, Advances P measure benign r j k (f a)) :
    Advances P measure benign r i k (m >>= f) where
  outcome s base h hi := by
    have hfirst := hm.outcome s base h hi
    rw [bind_run]
    cases hout : (m r s).2 with
    | error x =>
        simp only [hout] at hfirst
        simp only [next, hout]
        exact hfirst
    | ok out =>
        rcases out with ⟨a, s'⟩
        simp only [hout] at hfirst
        have hrest := (hf a).outcome s' base hfirst.1 hfirst.2
        simp only [next, hout]
        exact hrest

instance advances_bind (m : Effect ρ ε φ σ α)
    (f : α -> Effect ρ ε φ σ β) [hm : Advances P measure benign r i j m]
    [hf : forall a, Advances P measure benign r j k (f a)] :
    Advances P measure benign r i k (m >>= f) := hm.bind hf

instance advances_ite (c : Prop) [Decidable c]
    (a b : Effect ρ ε φ σ α) [ha : Advances P measure benign r i j a]
    [hb : Advances P measure benign r i j b] :
    Advances P measure benign r i j (if c then a else b) where
  outcome s base h hi := by
    by_cases hc : c
    · rw [if_pos hc]
      exact ha.outcome s base h hi
    · rw [if_neg hc]
      exact hb.outcome s base h hi

end Advances

/-!
## Invariants
-/

/-- From a state with `P` the code returns, if it does, in one with `P`. -/
class Keeps (P : σ -> Prop) (r : ρ) (m : Effect ρ ε φ σ α) : Prop where
  kept : forall s a s', P s -> Returns m r s a s' -> P s'

section Keeps

variable (P : σ -> Prop) (r : ρ)

instance keeps_pure (a : α) : Keeps P r (pure a : Effect ρ ε φ σ α) where
  kept s b s' h hret := by
    rw [(returns_pure.mp hret).2]
    exact h

instance keeps_gets (f : σ -> α) :
    Keeps P r (gets f : Effect ρ ε φ σ α) where
  kept s b s' h hret := by
    rw [(returns_gets.mp hret).2]
    exact h

instance keeps_fault (x : φ) : Keeps P r (fault x : Effect ρ ε φ σ α) where
  kept _ _ _ _ hret := absurd hret not_returns_fault

theorem keeps_modify {f : σ -> σ} (hf : forall s, P s -> P (f s)) :
    Keeps P r (modify f : Effect ρ ε φ σ Unit) where
  kept s b s' h hret := by
    rw [returns_modify.mp hret]
    exact hf s h

theorem Keeps.bind {P : σ -> Prop} {r : ρ} {m : Effect ρ ε φ σ α}
    {f : α -> Effect ρ ε φ σ β} (hm : Keeps P r m)
    (hf : forall a, Keeps P r (f a)) : Keeps P r (m >>= f) where
  kept s b s' h hret := by
    rcases returns_bind.mp hret with ⟨a, s₁, hfirst, hrest⟩
    exact (hf a).kept s₁ b s' (hm.kept s a s₁ h hfirst) hrest

instance keeps_bind (m : Effect ρ ε φ σ α) (f : α -> Effect ρ ε φ σ β)
    [hm : Keeps P r m] [hf : forall a, Keeps P r (f a)] :
    Keeps P r (m >>= f) := hm.bind hf

instance keeps_ite (c : Prop) [Decidable c] (a b : Effect ρ ε φ σ α)
    [ha : Keeps P r a] [hb : Keeps P r b] :
    Keeps P r (if c then a else b) := by
  by_cases hc : c
  · rw [if_pos hc]
    exact ha
  · rw [if_neg hc]
    exact hb

end Keeps

end Effect
end Foundation
