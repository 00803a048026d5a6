import Mathlib.Data.Set.Insert
import S80x86.Foundation.Effect

/-!
# Events of stateful code

Which events code causes, in what order, and whether it causes all it may.
-/

namespace Foundation
namespace Effect

variable {ρ ε φ σ α β κ : Type}

/-!
## Events
-/

section Events

variable {m : Effect ρ ε φ σ α} {f : α -> Effect ρ ε φ σ β} {r : ρ} {s : σ}

theorem mem_bind {e : ε} :
    e ∈ ((m >>= f) r s).1 ↔
      e ∈ (m r s).1 ∨ exists a s', Returns m r s a s' ∧ e ∈ (f a r s').1 := by
  unfold Returns
  rw [bind_run]
  unfold next
  cases hout : (m r s).2 with
  | error x =>
      simp
  | ok out =>
      rcases out with ⟨a, s'⟩
      simp only [List.mem_append, Except.ok.injEq, Prod.mk.injEq]
      constructor
      · rintro (h | h)
        · exact Or.inl h
        · exact Or.inr ⟨a, s', ⟨rfl, rfl⟩, h⟩
      · rintro (h | ⟨a', s'', ⟨rfl, rfl⟩, h⟩)
        · exact Or.inl h
        · exact Or.inr h

/-- A run either returns or stops. -/
theorem returns_or_faults (m : Effect ρ ε φ σ α) (r : ρ) (s : σ) :
    (exists a s', Returns m r s a s') ∨ exists x, Faults m r s x := by
  unfold Returns Faults
  cases hout : (m r s).2 with
  | error x =>
      exact Or.inr ⟨x, rfl⟩
  | ok out =>
      exact Or.inl ⟨out.1, out.2, rfl⟩

theorem Faults.bind_events {x : φ} (h : Faults m r s x) :
    ((m >>= f) r s).1 = (m r s).1 := by
  unfold Faults at h
  rw [bind_run]
  simp only [next, h]

end Events

/-- From states with `P` the code causes only `ok` events. -/
class Emits (P : σ -> Prop) (ok : ε -> Prop) (r : ρ) (m : Effect ρ ε φ σ α) :
    Prop where
  events : forall s, P s -> forall e, e ∈ (m r s).1 -> ok e

/-- From states with `P` the code causes a certain event. -/
class Causes (P : σ -> Prop) (hit : ε -> Prop) (r : ρ)
    (m : Effect ρ ε φ σ α) : Prop where
  event : forall s, P s -> exists e, e ∈ (m r s).1 ∧ hit e

/-- From states with `P` the code returns, in such a state. -/
class Passes (P : σ -> Prop) (r : ρ) (m : Effect ρ ε φ σ α) : Prop where
  returns : forall s, P s -> exists a s', Returns m r s a s' ∧ P s'

section Emits

variable (P : σ -> Prop) (ok : ε -> Prop) (r : ρ)

theorem emits_quiet {m : Effect ρ ε φ σ α} (h : forall s, (m r s).1 = []) :
    Emits P ok r m where
  events s _ e he := by
    rw [h] at he
    cases he

theorem Emits.bind {P : σ -> Prop} {ok : ε -> Prop} {r : ρ}
    {m : Effect ρ ε φ σ α} {f : α -> Effect ρ ε φ σ β}
    (hm : Emits P ok r m) (hkeeps : Keeps P r m)
    (hf : forall a, Emits P ok r (f a)) : Emits P ok r (m >>= f) where
  events s h e he := by
    rcases mem_bind.mp he with he | ⟨a, s', hret, he⟩
    · exact hm.events s h e he
    · exact (hf a).events s' (hkeeps.kept s a s' h hret) e he

instance emits_bind (m : Effect ρ ε φ σ α) (f : α -> Effect ρ ε φ σ β)
    [hm : Emits P ok r m] [hkeeps : Keeps P r m]
    [hf : forall a, Emits P ok r (f a)] : Emits P ok r (m >>= f) :=
  hm.bind hkeeps hf

/-- Where the rest causes only `ok` events from any state. -/
instance (priority := low) emits_bind_any (m : Effect ρ ε φ σ α)
    (f : α -> Effect ρ ε φ σ β) [hm : Emits P ok r m]
    [hf : forall a, Emits (fun _ => True) ok r (f a)] :
    Emits P ok r (m >>= f) where
  events s h e he := by
    rcases mem_bind.mp he with he | ⟨a, s', _, he⟩
    · exact hm.events s h e he
    · exact (hf a).events s' trivial e he

instance emits_ite (c : Prop) [Decidable c] (a b : Effect ρ ε φ σ α)
    [ha : Emits P ok r a] [hb : Emits P ok r b] :
    Emits P ok r (if c then a else b) := by
  by_cases hc : c
  · rw [if_pos hc]
    exact ha
  · rw [if_neg hc]
    exact hb

end Emits

section Passes

variable (P : σ -> Prop) (hit : ε -> Prop) (r : ρ)

instance passes_pure (a : α) : Passes P r (pure a : Effect ρ ε φ σ α) where
  returns s h := ⟨a, s, rfl, h⟩

theorem passes_gets (f : σ -> α) :
    Passes P r (gets f : Effect ρ ε φ σ α) where
  returns s h := ⟨f s, s, rfl, h⟩

instance passes_bind (m : Effect ρ ε φ σ α) (f : α -> Effect ρ ε φ σ β)
    [hm : Passes P r m] [hf : forall a, Passes P r (f a)] :
    Passes P r (m >>= f) where
  returns s h := by
    obtain ⟨a, s', hret, h'⟩ := hm.returns s h
    obtain ⟨b, t, hret', ht⟩ := (hf a).returns s' h'
    exact ⟨b, t, returns_bind.mpr ⟨a, s', hret, hret'⟩, ht⟩

instance causes_first (m : Effect ρ ε φ σ α) (f : α -> Effect ρ ε φ σ β)
    [hm : Causes P hit r m] : Causes P hit r (m >>= f) where
  event s h := by
    obtain ⟨e, he, hhit⟩ := hm.event s h
    exact ⟨e, mem_bind.mpr (Or.inl he), hhit⟩

instance causes_rest (m : Effect ρ ε φ σ α) (f : α -> Effect ρ ε φ σ β)
    [hm : Passes P r m] [hf : forall a, Causes P hit r (f a)] :
    Causes P hit r (m >>= f) where
  event s h := by
    obtain ⟨a, s', hret, h'⟩ := hm.returns s h
    obtain ⟨e, he, hhit⟩ := (hf a).event s' h'
    exact ⟨e, mem_bind.mpr (Or.inr ⟨a, s', hret, he⟩), hhit⟩

instance causes_ite (c : Prop) [Decidable c] (a b : Effect ρ ε φ σ α)
    [ha : Causes P hit r a] [hb : Causes P hit r b] :
    Causes P hit r (if c then a else b) := by
  by_cases hc : c
  · rw [if_pos hc]
    exact ha
  · rw [if_neg hc]
    exact hb

end Passes

/-!
## Numbered events
-/

/-- No event is picked by `mark`, and the measure of the state stays. -/
class Skips (mark : ε -> Bool) (measure : σ -> Nat) (r : ρ)
    (m : Effect ρ ε φ σ α) : Prop where
  unmarked : forall s, (m r s).1.filter mark = []
  same : forall s a s', Returns m r s a s' -> measure s' = measure s

/-- From states with `P` the events that `mark` picks are numbered on from the
measure, which counts them. -/
class Numbers (mark : ε -> Bool) (event : Nat -> ε) (P : σ -> Prop)
    (measure : σ -> Nat) (r : ρ) (m : Effect ρ ε φ σ α) : Prop where
  numbered : forall s, P s -> exists n,
    (m r s).1.filter mark = (List.range' (measure s) n).map event ∧
      forall a s', Returns m r s a s' -> measure s' = measure s + n

section Skips

variable (mark : ε -> Bool) (measure : σ -> Nat) (r : ρ)

theorem skips_quiet {m : Effect ρ ε φ σ α} (h : forall s, (m r s).1 = [])
    (hsame : forall s a s', Returns m r s a s' -> measure s' = measure s) :
    Skips mark measure r m where
  unmarked s := by
    rw [h]
    rfl
  same := hsame

instance skips_pure (a : α) :
    Skips mark measure r (pure a : Effect ρ ε φ σ α) :=
  skips_quiet mark measure r (fun _ => rfl) fun s b s' hret => by
    rw [(returns_pure.mp hret).2]

instance skips_gets (f : σ -> α) :
    Skips mark measure r (gets f : Effect ρ ε φ σ α) :=
  skips_quiet mark measure r (fun _ => rfl) fun s b s' hret => by
    rw [(returns_gets.mp hret).2]

instance skips_fault (x : φ) :
    Skips mark measure r (fault x : Effect ρ ε φ σ α) :=
  skips_quiet mark measure r (fun _ => rfl) fun _ _ _ hret =>
    absurd hret not_returns_fault

theorem skips_modify {f : σ -> σ} (hf : forall s, measure (f s) = measure s) :
    Skips mark measure r (modify f : Effect ρ ε φ σ Unit) :=
  skips_quiet mark measure r (fun _ => rfl) fun s b s' hret => by
    rw [returns_modify.mp hret]
    exact hf s

theorem Skips.bind {mark : ε -> Bool} {measure : σ -> Nat} {r : ρ}
    {m : Effect ρ ε φ σ α} {f : α -> Effect ρ ε φ σ β}
    (hm : Skips mark measure r m) (hf : forall a, Skips mark measure r (f a)) :
    Skips mark measure r (m >>= f) where
  unmarked s := by
    rcases returns_or_faults m r s with ⟨a, s', hret⟩ | ⟨x, hx⟩
    · rw [hret.bind_events, List.filter_append, hm.unmarked,
        (hf a).unmarked]
      rfl
    · rw [Faults.bind_events hx, hm.unmarked]
  same s b s' hret := by
    rcases returns_bind.mp hret with ⟨a, s₁, hfirst, hrest⟩
    rw [(hf a).same s₁ b s' hrest, hm.same s a s₁ hfirst]

instance skips_bind (m : Effect ρ ε φ σ α) (f : α -> Effect ρ ε φ σ β)
    [hm : Skips mark measure r m] [hf : forall a, Skips mark measure r (f a)] :
    Skips mark measure r (m >>= f) := hm.bind hf

instance skips_ite (c : Prop) [Decidable c] (a b : Effect ρ ε φ σ α)
    [ha : Skips mark measure r a] [hb : Skips mark measure r b] :
    Skips mark measure r (if c then a else b) := by
  by_cases hc : c
  · rw [if_pos hc]
    exact ha
  · rw [if_neg hc]
    exact hb

end Skips

section Numbers

variable (mark : ε -> Bool) (event : Nat -> ε) (P : σ -> Prop)
  (measure : σ -> Nat) (r : ρ)

instance (priority := low) numbers_of_skips (m : Effect ρ ε φ σ α)
    [hm : Skips mark measure r m] : Numbers mark event P measure r m where
  numbered s _ := ⟨0, hm.unmarked s, hm.same s⟩

theorem Numbers.bind {mark : ε -> Bool} {event : Nat -> ε} {P : σ -> Prop}
    {measure : σ -> Nat} {r : ρ} {m : Effect ρ ε φ σ α}
    {f : α -> Effect ρ ε φ σ β} (hm : Numbers mark event P measure r m)
    (hkeeps : Keeps P r m) (hf : forall a, Numbers mark event P measure r (f a)) :
    Numbers mark event P measure r (m >>= f) where
  numbered s h := by
    obtain ⟨i, hfirst, hmeasure⟩ := hm.numbered s h
    rcases returns_or_faults m r s with ⟨a, s', hret⟩ | ⟨x, hx⟩
    · obtain ⟨j, hrest, hmeasure'⟩ :=
        (hf a).numbered s' (hkeeps.kept s a s' h hret)
      have hlength := hmeasure a s' hret
      refine ⟨i + j, ?_, ?_⟩
      · rw [hret.bind_events, List.filter_append, hfirst, hrest, hlength,
          <- List.map_append, List.range'_append_1]
      · intro b t ht
        rw [hret.bind_iff] at ht
        rw [hmeasure' b t ht, hlength, Nat.add_assoc]
    · refine ⟨i, ?_, ?_⟩
      · rw [Faults.bind_events hx, hfirst]
      · intro b t ht
        obtain ⟨a, s₁, hret, _⟩ := returns_bind.mp ht
        exact absurd hx hret.not_faults

instance numbers_bind (m : Effect ρ ε φ σ α) (f : α -> Effect ρ ε φ σ β)
    [hm : Numbers mark event P measure r m] [hkeeps : Keeps P r m]
    [hf : forall a, Numbers mark event P measure r (f a)] :
    Numbers mark event P measure r (m >>= f) := hm.bind hkeeps hf

/-- Once nothing is picked any more, the states need not have `P`. -/
instance numbers_bind_skips (m : Effect ρ ε φ σ α)
    (f : α -> Effect ρ ε φ σ β) [hm : Numbers mark event P measure r m]
    [hf : forall a, Skips mark measure r (f a)] :
    Numbers mark event P measure r (m >>= f) where
  numbered s h := by
    obtain ⟨n, hfirst, hmeasure⟩ := hm.numbered s h
    refine ⟨n, ?_, ?_⟩
    · rcases returns_or_faults m r s with ⟨a, s', hret⟩ | ⟨x, hx⟩
      · rw [hret.bind_events, List.filter_append, hfirst, (hf a).unmarked,
          List.append_nil]
      · rw [Faults.bind_events hx, hfirst]
    · intro b t ht
      obtain ⟨a, s', hret, hrest⟩ := returns_bind.mp ht
      rw [(hf a).same s' b t hrest, hmeasure a s' hret]

instance numbers_ite (c : Prop) [Decidable c] (a b : Effect ρ ε φ σ α)
    [ha : Numbers mark event P measure r a]
    [hb : Numbers mark event P measure r b] :
    Numbers mark event P measure r (if c then a else b) := by
  by_cases hc : c
  · rw [if_pos hc]
    exact ha
  · rw [if_neg hc]
    exact hb

end Numbers

/-!
## Covered events
-/

/-- The events of an outcome, as far as `view` sees them, are those of a set:
all are in it, and unless a `bad` fault stopped the code there are all of it. -/
structure Covers (view : ε -> Option κ) (bad : φ -> Prop) (S : Set κ)
    (x : List ε × Except φ (α × σ)) : Prop where
  sound : forall e, e ∈ x.1 -> forall k, view e = some k -> k ∈ S
  complete : (forall y, x.2 = .error y -> ¬bad y) ->
    forall k, k ∈ S -> exists e, e ∈ x.1 ∧ view e = some k

section Covers

variable {view : ε -> Option κ} {bad : φ -> Prop} {m : Effect ρ ε φ σ α}
  {f : α -> Effect ρ ε φ σ β} {r : ρ} {s s' : σ} {a : α} {S T : Set κ}

theorem covers_unseen {x : List ε × Except φ (α × σ)}
    (h : forall e, e ∈ x.1 -> view e = none) : Covers view bad ∅ x where
  sound e he k hk := by
    rw [h e he] at hk
    cases hk
  complete _ k hk := absurd hk (Set.notMem_empty k)

theorem Covers.congr {x : List ε × Except φ (α × σ)} (h : Covers view bad S x)
    (hST : S = T) : Covers view bad T x := hST ▸ h

theorem Covers.bind (hm : Covers view bad S (m r s))
    (hbad : forall y, Faults m r s y -> bad y)
    (hf : forall a s', Returns m r s a s' -> Covers view bad T (f a r s')) :
    Covers view bad (S ∪ T) ((m >>= f) r s) := by
  rcases returns_or_faults m r s with ⟨a, s', hret⟩ | ⟨x, hx⟩
  · have hrest := hf a s' hret
    have hfirst : forall y, (m r s).2 = .error y -> ¬bad y := fun y hy =>
      absurd hy hret.not_faults
    constructor
    · intro e he k hk
      rw [hret.bind_events, List.mem_append] at he
      rcases he with he | he
      · exact Or.inl (hm.sound e he k hk)
      · exact Or.inr (hrest.sound e he k hk)
    · intro hy k hk
      have hlast : forall y, (f a r s').2 = .error y -> ¬bad y := fun y hy' =>
        hy y (hret.faults_iff.mpr hy')
      rw [hret.bind_events]
      rcases hk with hk | hk
      · obtain ⟨e, he, hview⟩ := hm.complete hfirst k hk
        exact ⟨e, List.mem_append_left _ he, hview⟩
      · obtain ⟨e, he, hview⟩ := hrest.complete hlast k hk
        exact ⟨e, List.mem_append_right _ he, hview⟩
  · constructor
    · intro e he k hk
      rw [Faults.bind_events hx] at he
      exact Or.inl (hm.sound e he k hk)
    · intro hy
      exact absurd (hbad x hx) (hy x (faults_bind.mpr (Or.inl hx)))

/-- Take off a first part that returns without events that are seen. -/
theorem Covers.after (hret : Returns m r s a s')
    (hm : forall e, e ∈ (m r s).1 -> view e = none)
    (hf : Covers view bad S (f a r s')) :
    Covers view bad S ((m >>= f) r s) := by
  have hbind := (covers_unseen hm : Covers view bad ∅ (m r s)).bind
    (fun y hy => absurd hy hret.not_faults) (f := f) (T := S)
    (fun b t ht => by
      obtain ⟨rfl, rfl⟩ := ht.unique hret
      exact hf)
  exact hbind.congr (Set.empty_union S)

end Covers
end Effect
end Foundation
