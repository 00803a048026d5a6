import Mathlib.Order.Basic
import Mathlib.Order.Defs.LinearOrder
import Mathlib.Data.List.Basic
import Mathlib.Tactic.Ring

/-!
# Priority scans and nests

Requests are scanned from the highest priority on, until one is found or a
blocked line is met.  Lines in service form a nest: the latest one comes first
and has priority over all below it.
-/

namespace Foundation
namespace Priority

variable {α : Type}

/-- The first ready line, unless a blocked one comes at or before it. -/
def scan (blocked ready : α -> Bool) : List α -> Option α
  | [] => none
  | a :: rest =>
      if blocked a then none
      else if ready a then some a
      else scan blocked ready rest

section Order

variable [LinearOrder α] {blocked ready : α -> Bool} {lines : List α}

/-- A scan in the order of priority finds the first ready line before which
and at which nothing is blocked. -/
theorem scan_eq_some_iff (hsorted : lines.Pairwise (· < ·)) {a : α} :
    scan blocked ready lines = some a ↔
      a ∈ lines ∧ ready a = true ∧
        forall b, b ∈ lines -> b ≤ a ->
          blocked b = false ∧ (b < a -> ready b = false) := by
  induction lines with
  | nil =>
      simp [scan]
  | cons c rest ih =>
      rcases List.pairwise_cons.mp hsorted with ⟨hfirst, hrest⟩
      have htail := ih hrest
      simp only [scan, List.mem_cons]
      cases hblocked : blocked c with
      | true =>
          simp only [if_true]
          constructor
          · intro h
            cases h
          · rintro ⟨ha, _, hall⟩
            have hle : c ≤ a := by
              rcases ha with rfl | ha
              · exact le_refl a
              · exact le_of_lt (hfirst a ha)
            have hfree := (hall c (Or.inl rfl) hle).1
            rw [hblocked] at hfree
            cases hfree
      | false =>
          cases hready : ready c with
          | true =>
              simp only [Bool.false_eq_true, if_false, if_true,
                Option.some.injEq]
              constructor
              · rintro rfl
                refine ⟨Or.inl rfl, hready, ?_⟩
                intro b hb hle
                rcases hb with rfl | hb
                · exact ⟨hblocked, fun h => absurd h (lt_irrefl _)⟩
                · exact absurd (hfirst b hb) (not_lt.mpr hle)
              · rintro ⟨ha, _, hall⟩
                rcases ha with rfl | ha
                · rfl
                · have hlt := hfirst a ha
                  have hidle := (hall c (Or.inl rfl) (le_of_lt hlt)).2 hlt
                  rw [hready] at hidle
                  cases hidle
          | false =>
              simp only [Bool.false_eq_true, if_false, htail]
              constructor
              · rintro ⟨ha, hra, hall⟩
                refine ⟨Or.inr ha, hra, ?_⟩
                intro b hb hle
                rcases hb with rfl | hb
                · exact ⟨hblocked, fun _ => hready⟩
                · exact hall b hb hle
              · rintro ⟨ha, hra, hall⟩
                have hmem : a ∈ rest := by
                  rcases ha with rfl | ha
                  · rw [hready] at hra
                    cases hra
                  · exact ha
                exact ⟨hmem, hra, fun b hb => hall b (Or.inr hb)⟩

/-- The lines that are set, latest first, each with priority over the rest. -/
structure Nest (set : α -> Bool) (stack : List α) : Prop where
  sorted : stack.Pairwise (· < ·)
  mem_iff : forall a, a ∈ stack ↔ set a = true

theorem Nest.empty {set : α -> Bool} (h : forall a, set a = false) :
    Nest set [] where
  sorted := List.Pairwise.nil
  mem_iff a := by simp [h a]

/-- The first set line in the order of priority is the latest of the nest. -/
theorem Nest.find_eq_head? {set : α -> Bool} {stack : List α}
    (h : Nest set stack) (hsorted : lines.Pairwise (· < ·))
    (hall : forall a, a ∈ lines) : lines.find? set = stack.head? := by
  cases stack with
  | nil =>
      rw [List.head?_nil, List.find?_eq_none]
      intro a _ hset
      have hmem := (h.mem_iff a).mpr hset
      cases hmem
  | cons k rest =>
      have hk : set k = true := (h.mem_iff k).mp List.mem_cons_self
      rw [List.head?_cons]
      cases hfind : lines.find? set with
      | none =>
          exact absurd hk (List.find?_eq_none.mp hfind k (hall k))
      | some a =>
          have hset : set a = true := List.find?_some hfind
          have hle : k ≤ a := by
            rcases List.mem_cons.mp ((h.mem_iff a).mpr hset) with rfl | hmem
            · exact le_refl a
            · exact le_of_lt ((List.pairwise_cons.mp h.sorted).1 a hmem)
          rcases List.find?_eq_some_iff_append.mp hfind with
            ⟨_, before, after, hlines, hbefore⟩
          have hnot : ¬ k < a := by
            intro hlt
            have hmem := hall k
            rw [hlines, List.mem_append, List.mem_cons] at hmem
            rw [hlines] at hsorted
            rcases hmem with hmem | rfl | hmem
            · have hunset := hbefore k hmem
              simp [hk] at hunset
            · exact lt_irrefl _ hlt
            · have hlater := (List.pairwise_cons.mp
                (List.pairwise_append.mp hsorted).2.1).1 k hmem
              exact absurd hlt (not_lt.mpr (le_of_lt hlater))
          rw [le_antisymm (not_lt.mp hnot) hle]

/-- Retiring the latest line leaves the rest of the nest. -/
theorem Nest.tail {set set' : α -> Bool} {k : α} {rest : List α}
    (h : Nest set (k :: rest))
    (hset : forall a, set' a = (set a && decide (a ≠ k))) :
    Nest set' rest where
  sorted := (List.pairwise_cons.mp h.sorted).2
  mem_iff a := by
    rw [hset, Bool.and_eq_true, decide_eq_true_eq, <- h.mem_iff,
      List.mem_cons]
    constructor
    · intro hmem
      refine ⟨Or.inr hmem, ?_⟩
      rintro rfl
      exact lt_irrefl _ ((List.pairwise_cons.mp h.sorted).1 _ hmem)
    · rintro ⟨rfl | hmem, hne⟩
      · exact absurd rfl hne
      · exact hmem

/-- A line with priority over all in service joins the nest at its front. -/
theorem Nest.cons {set set' : α -> Bool} {k : α} {stack : List α}
    (h : Nest set stack) (hk : forall a, set a = true -> k < a)
    (hset : forall a, set' a = (set a || decide (a = k))) :
    Nest set' (k :: stack) where
  sorted := List.pairwise_cons.mpr
    ⟨fun a ha => hk a ((h.mem_iff a).mp ha), h.sorted⟩
  mem_iff a := by
    rw [hset, Bool.or_eq_true, decide_eq_true_eq, <- h.mem_iff, List.mem_cons]
    exact Or.comm

end Order

end Priority
end Foundation
