import Mathlib.Data.List.Induction
import S80x86.Microassembler.Sources

/-!
# Addresses of microinstructions

Explicit addresses are kept, the others follow the largest explicit one in the
order of the files, and a label stands for the address of its
microinstruction.
-/

namespace S80x86
namespace Microassembler

open Foundation

/-!
## Numbering
-/

/-- The address of a microinstruction: its own, or the next free one. -/
def addressOf (l : List (Option Nat)) (n : Nat) : Nat :=
  (l[n]?.join).getD (maxAddress l + (l.take n).count none + 1)

/-- The last address that is used. -/
def lastAddress (l : List (Option Nat)) : Nat :=
  maxAddress l + l.count none

theorem maxAddress_append_singleton (l : List (Option Nat)) (a : Option Nat) :
    maxAddress (l ++ [a]) = max (maxAddress l) (a.getD 0) := by
  unfold maxAddress
  rw [List.map_append, List.foldl_append]
  rfl

theorem le_maxAddress {l : List (Option Nat)} {a : Nat} (h : some a ∈ l) :
    a <= maxAddress l := by
  induction l using List.reverseRecOn with
  | nil =>
      cases h
  | append_singleton l b ih =>
      rw [maxAddress_append_singleton]
      rw [List.mem_append, List.mem_singleton] at h
      obtain h | rfl := h
      · exact Nat.le_trans (ih h) (Nat.le_max_left _ _)
      · exact Nat.le_max_right _ _

/-- With explicit addresses only, the largest one is used. -/
theorem maxAddress_mem {l : List (Option Nat)} (hne : l ≠ [])
    (hNone : none ∉ l) : some (maxAddress l) ∈ l := by
  induction l using List.reverseRecOn with
  | nil =>
      exact absurd rfl hne
  | append_singleton l b ih =>
      rw [maxAddress_append_singleton]
      rw [List.mem_append, not_or, List.mem_singleton] at hNone
      cases b with
      | none =>
          exact absurd rfl hNone.2
      | some a =>
          rw [List.mem_append, List.mem_singleton, Option.getD_some]
          by_cases hl : l = []
          · right
            rw [hl]
            simp [maxAddress]
          · obtain hle | hle := Nat.le_total (maxAddress l) a
            · right
              rw [Nat.max_eq_right hle]
            · left
              rw [Nat.max_eq_left hle]
              exact ih hl hNone.1

theorem exists_last_none {l : List (Option Nat)} (h : none ∈ l) :
    exists n, l[n]? = some none ∧ (l.take n).count none + 1 = l.count none := by
  induction l using List.reverseRecOn with
  | nil =>
      cases h
  | append_singleton l b ih =>
      cases b with
      | none =>
          refine ⟨l.length, List.getElem?_concat_length, ?_⟩
          rw [List.take_left, List.count_append, List.count_singleton_self]
      | some a =>
          rw [List.mem_append, List.mem_singleton] at h
          obtain ⟨n, hn, hcount⟩ := ih (h.resolve_right (by simp))
          have hlt : n < l.length := (List.getElem?_eq_some_iff.mp hn).1
          refine ⟨n, ?_, ?_⟩
          · rw [List.getElem?_append_left hlt]
            exact hn
          · rw [List.take_append_of_le_length (by omega), hcount,
              List.count_append]
            simp

/-- The last address belongs to a microinstruction. -/
theorem exists_addressOf {l : List (Option Nat)} (hne : l ≠ []) :
    exists n, n < l.length ∧ addressOf l n = lastAddress l := by
  by_cases hNone : none ∈ l
  · obtain ⟨n, hn, hcount⟩ := exists_last_none hNone
    refine ⟨n, (List.getElem?_eq_some_iff.mp hn).1, ?_⟩
    unfold addressOf lastAddress
    rw [hn, Option.join_some, Option.getD_none, ← hcount, Nat.add_assoc]
  · obtain ⟨n, hn⟩ := List.mem_iff_getElem?.mp (maxAddress_mem hne hNone)
    refine ⟨n, (List.getElem?_eq_some_iff.mp hn).1, ?_⟩
    unfold addressOf lastAddress
    rw [hn, Option.join_some, Option.getD_some,
      List.count_eq_zero_of_not_mem hNone, Nat.add_zero]

theorem addressOf_le {l : List (Option Nat)} {n : Nat} (h : n < l.length) :
    addressOf l n <= lastAddress l := by
  unfold addressOf lastAddress
  rw [List.getElem?_eq_getElem h, Option.join_some]
  cases hn : l[n] with
  | some a =>
      rw [Option.getD_some]
      have ha : some a ∈ l := hn ▸ List.getElem_mem h
      exact Nat.le_trans (le_maxAddress ha) (Nat.le_add_right _ _)
  | none =>
      rw [Option.getD_none]
      have hcount : (l.take (n + 1)).count none <= l.count none :=
        List.Sublist.count_le none (List.take_sublist _ _)
      rw [List.take_succ_eq_append_getElem h, List.count_append, hn,
        List.count_singleton_self] at hcount
      omega

theorem assignFrom_ok {l : List (Option Nat)} {lastAddr : Nat}
    {assigned addrs : List Nat}
    (h : assignFrom lastAddr assigned l = .ok addrs) :
    (forall n : Nat, addrs[n]? =
        l[n]?.map fun a => a.getD (lastAddr + (l.take n).count none + 1)) ∧
      addrs.Nodup ∧ forall a, a ∈ addrs -> a ∉ assigned := by
  induction l generalizing lastAddr assigned addrs with
  | nil =>
      cases h
      simp
  | cons a rest ih =>
      simp only [assignFrom] at h
      split at h
      next =>
        cases h
      next hNew =>
        obtain ⟨others, hothers, h⟩ := bind_ok h
        cases h
        obtain ⟨haddrs, hNodup, hAssigned⟩ := ih hothers
        refine ⟨?_, ?_, ?_⟩
        · intro n
          cases n with
          | zero =>
              simp
          | succ n =>
              rw [List.getElem?_cons_succ, List.getElem?_cons_succ, haddrs n]
              congr 1
              funext b
              rw [List.take_succ_cons, List.count_cons]
              cases a with
              | none =>
                  simp only [if_true, beq_self_eq_true]
                  congr 1
                  omega
              | some a =>
                  simp
        · rw [List.nodup_cons]
          refine ⟨?_, hNodup⟩
          intro hmem
          exact hAssigned _ hmem List.mem_cons_self
        · intro b hb
          rw [List.mem_cons] at hb
          obtain rfl | hb := hb
          · exact hNew
          · intro hmem
            exact hAssigned b hb (List.mem_cons_of_mem _ hmem)

theorem assignAddresses_ok {l : List (Option Nat)} {addrs : List Nat}
    (h : assignAddresses l = .ok addrs) :
    l ≠ [] ∧ addrs.length = l.length ∧ addrs.Nodup ∧
      forall n, n < l.length -> addrs[n]? = some (addressOf l n) := by
  unfold assignAddresses at h
  split at h
  next =>
    cases h
  next hne =>
    obtain ⟨haddrs, hNodup, _⟩ := assignFrom_ok h
    have hget (n : Nat) (hn : n < l.length) :
        addrs[n]? = some (addressOf l n) := by
      rw [haddrs n, addressOf, List.getElem?_eq_getElem hn, Option.join_some,
        Option.map_some]
    refine ⟨hne, ?_, hNodup, hget⟩
    apply Nat.le_antisymm
    · have hnone := haddrs l.length
      rw [List.getElem?_eq_none (Nat.le_refl _), Option.map_none] at hnone
      exact List.getElem?_eq_none_iff.mp hnone
    · have hnone := haddrs addrs.length
      rw [List.getElem?_eq_none (Nat.le_refl _)] at hnone
      have hl := Option.map_eq_none_iff.mp hnone.symm
      exact List.getElem?_eq_none_iff.mp hl

/-!
## Placing
-/

theorem mapM_ok {α β : Type} {f : α -> Except Error β} {l : List α}
    {out : List β} (h : l.mapM f = .ok out) :
    List.Forall₂ (fun a b => f a = .ok b) l out := by
  induction l generalizing out with
  | nil =>
      rw [List.mapM_nil] at h
      cases h
      exact .nil
  | cons a rest ih =>
      rw [List.mapM_cons] at h
      obtain ⟨b, hb, h⟩ := bind_ok h
      obtain ⟨others, hothers, h⟩ := bind_ok h
      cases h
      exact .cons hb (ih hothers)

def Source.addresses (l : List Source) : List (Option Nat) :=
  l.map (·.address)

/-- Where the assembler puts the microinstruction `n`, and what follows it:
the one its jump names, or the next address. -/
structure PlacedAs (l : List Source) (n : Nat) (s : Source) (i : Placed) :
    Prop where
  built : Built s i.instr
  address : i.address = addressOf (Source.addresses l) n
  next :
    match s.target with
    | none => i.next = i.address + 1
    | some arg =>
        exists label m t, arg = .ID label ∧ l[m]? = some t ∧
          t.label = some label ∧ i.next = addressOf (Source.addresses l) m

theorem forall₂_getElem? {α β : Type} {R : α -> β -> Prop} {l : List α}
    {out : List β} (h : List.Forall₂ R l out) {n : Nat} {a : α} {b : β}
    (ha : l[n]? = some a) (hb : out[n]? = some b) : R a b := by
  induction h generalizing n with
  | nil =>
      cases ha
  | cons hfirst _ ih =>
      cases n with
      | zero =>
          cases ha
          cases hb
          exact hfirst
      | succ n =>
          exact ih ha hb

theorem forall₂_mem_right {α β : Type} {R : α -> β -> Prop} {l : List α}
    {out : List β} (h : List.Forall₂ R l out) {b : β} (hb : b ∈ out) :
    exists a, a ∈ l ∧ R a b := by
  obtain ⟨n, hn⟩ := List.mem_iff_getElem?.mp hb
  have hlt : n < l.length := by
    rw [h.length_eq]
    exact (List.getElem?_eq_some_iff.mp hn).1
  have ha := List.getElem?_eq_getElem hlt
  exact ⟨_, List.mem_of_getElem? ha, forall₂_getElem? h ha hn⟩

theorem addresses_of_built {l : List Source} {is : List MicroInstruction}
    (h : List.Forall₂ Built l is) :
    is.map (·.address) = Source.addresses l := by
  induction h with
  | nil =>
      rfl
  | cons hfirst _ ih =>
      rw [List.map_cons, hfirst.address, ih]
      rfl

theorem buildMicrocode_ok {files : List (List Line)} {m : Microcode}
    (h : buildMicrocode files = .ok m) :
    sources files ≠ [] ∧ m.placed.length = (sources files).length ∧
      (m.placed.map (·.address)).Nodup ∧
      (forall n s i, (sources files)[n]? = some s -> m.placed[n]? = some i ->
        PlacedAs (sources files) n s i) ∧
      m.immediatePool = poolOf .immediate (sources files) ∧
      m.updateFlagsPool = poolOf .updateFlags (sources files) := by
  unfold buildMicrocode at h
  obtain ⟨r, hread, h⟩ := bind_ok h
  obtain ⟨addrs, hassign, h⟩ := bind_ok h
  obtain ⟨placed, hresolve, h⟩ := bind_ok h
  cases h
  have hreads := readFiles_reads hread
  generalize sources files = l at *
  rw [addresses_of_built hreads.built] at hassign
  obtain ⟨hne, hlength, hNodup, haddrs⟩ := assignAddresses_ok hassign
  have hll : (Source.addresses l).length = l.length := List.length_map _
  have hplaced := mapM_ok hresolve
  have hInstrs : r.instructions.length = l.length :=
    hreads.built.length_eq.symm
  have hplacedLength : placed.length = l.length := by
    rw [← hplaced.length_eq, List.length_zip, hInstrs, hlength, hll,
      Nat.min_self]
  have hpart (n : Nat) (s : Source) (i : Placed) (hs : l[n]? = some s)
      (hi : placed[n]? = some i) :
      exists instr, r.instructions[n]? = some instr ∧ i.instr = instr ∧
        i.address = addressOf (Source.addresses l) n ∧
        resolveNext r.labelMap addrs instr i.address = .ok i.next := by
    have hn : n < l.length := (List.getElem?_eq_some_iff.mp hs).1
    have hinstr : r.instructions[n]? = some (r.instructions[n]) :=
      List.getElem?_eq_getElem (by omega)
    have hzip : (r.instructions.zip addrs)[n]? =
        some (r.instructions[n], addressOf (Source.addresses l) n) :=
      List.getElem?_zip_eq_some.mpr ⟨hinstr, haddrs n (by omega)⟩
    obtain ⟨next, hnext, hp⟩ := bind_ok (forall₂_getElem? hplaced hzip hi)
    cases hp
    exact ⟨_, hinstr, rfl, rfl, hnext⟩
  refine ⟨?_, hplacedLength, ?_, ?_, hreads.immediatePool,
    hreads.updateFlagsPool⟩
  · rintro rfl
    exact hne rfl
  · have hmap : placed.map (·.address) = addrs := by
      apply List.ext_getElem?
      intro n
      by_cases hn : n < l.length
      · have hi := List.getElem?_eq_getElem (l := placed) (i := n) (by omega)
        have hs := List.getElem?_eq_getElem (l := l) (i := n) hn
        obtain ⟨_, _, _, haddress, _⟩ := hpart n _ _ hs hi
        rw [List.getElem?_map, hi, haddrs n (by omega), Option.map_some,
          haddress]
      · rw [List.getElem?_eq_none (by rw [List.length_map]; omega),
          List.getElem?_eq_none (by omega)]
    rw [hmap]
    exact hNodup
  · intro n s i hs hi
    obtain ⟨instr, hinstr, rfl, haddress, hnext⟩ := hpart n s i hs hi
    have hbuilt := forall₂_getElem? hreads.built hs hinstr
    refine ⟨hbuilt, haddress, ?_⟩
    unfold resolveNext at hnext
    rw [hbuilt.nextLabel] at hnext
    cases htarget : s.target with
    | none =>
        simp only [htarget] at hnext
        exact (Except.ok.inj hnext).symm
    | some arg =>
        simp only [htarget] at hnext
        cases arg with
        | ID label =>
            simp only at hnext
            split at hnext
            next =>
              cases hnext
            next m hm =>
              have hnext := Except.ok.inj hnext
              obtain ⟨t, ht, htLabel⟩ := hreads.labels label m hm
              have hmLt : m < l.length := (List.getElem?_eq_some_iff.mp ht).1
              refine ⟨label, m, t, rfl, ht, htLabel, ?_⟩
              rw [← hnext, List.getD_eq_getElem?_getD, haddrs m (by omega),
                Option.getD_some]
        | Integer v =>
            cases hnext

end Microassembler
end S80x86
