import Mathlib.Data.Nat.Log
import S80x86.Microassembler.Addresses

/-!
# What the words of a microprogram hold

A word holds the next address, the fields and, through the dictionaries, the
immediate and the flags of its microinstruction, unless the address after the
last one needs one bit more than all the others.
-/

namespace S80x86
namespace Microassembler

open Foundation

/-!
## Dictionaries
-/

/-- The value that the decoder of the store finds for an index. -/
def decodeIndex (d : List (Nat × Nat)) (idx : Nat) : Nat :=
  ((d.find? fun e => e.2 == idx).map Prod.fst).getD 0

theorem nodup_addToPool {pool : List Nat} {v : Nat} (h : pool.Nodup) :
    (addToPool pool v).Nodup := by
  unfold addToPool
  split
  next =>
    exact h
  next hv =>
    rw [List.nodup_append]
    refine ⟨h, List.nodup_singleton v, ?_⟩
    rintro a ha b hb rfl
    exact hv (List.mem_singleton.mp hb ▸ ha)

theorem mem_addToPool {pool : List Nat} {v w : Nat} :
    w ∈ addToPool pool v ↔ w ∈ pool ∨ w = v := by
  unfold addToPool
  split
  next hv =>
    constructor
    · exact Or.inl
    · rintro (h | rfl)
      · exact h
      · exact hv
  next =>
    rw [List.mem_append, List.mem_singleton]

theorem nodup_foldl_addToPool {vs pool : List Nat} (h : pool.Nodup) :
    (vs.foldl addToPool pool).Nodup := by
  induction vs generalizing pool with
  | nil =>
      exact h
  | cons v rest ih =>
      exact ih (nodup_addToPool h)

theorem mem_foldl_addToPool {vs pool : List Nat} {w : Nat} :
    w ∈ vs.foldl addToPool pool ↔ w ∈ pool ∨ w ∈ vs := by
  induction vs generalizing pool with
  | nil =>
      simp
  | cons v rest ih =>
      rw [List.foldl_cons, ih, mem_addToPool, List.mem_cons, or_assoc]

theorem nodup_poolOf (k : Keyword) (l : List Source) : (poolOf k l).Nodup :=
  nodup_foldl_addToPool List.nodup_nil

theorem mem_poolOf {k : Keyword} {l : List Source} {s : Source} {v : Nat}
    (hs : s ∈ l) (hv : s.value k = some v) : v ∈ poolOf k l := by
  rw [poolOf, mem_foldl_addToPool, List.mem_flatMap]
  right
  exact ⟨s, hs, List.mem_of_getLast? hv⟩

theorem isSome_lookup_iff {d : List (Nat × Nat)} {key : Nat} :
    (d.lookup key).isSome = true ↔ key ∈ d.map Prod.fst := by
  rw [List.lookup_isSome_iff, List.mem_map]
  constructor
  · rintro ⟨e, he, heq⟩
    exact ⟨e, he, (eq_of_beq heq).symm⟩
  · rintro ⟨e, he, rfl⟩
    exact ⟨e, he, beq_self_eq_true _⟩

theorem mem_setEntry {d : List (Nat × Nat)} {key value : Nat}
    {e : Nat × Nat} :
    e ∈ setEntry d key value ↔ e = (key, value) ∨ e ∈ d ∧ e.1 ≠ key := by
  unfold setEntry
  split
  next hkey =>
    rw [isSome_lookup_iff, List.mem_map] at hkey
    rw [List.mem_map]
    constructor
    · rintro ⟨f, hf, rfl⟩
      by_cases hfk : f.1 = key
      · left
        rw [if_pos hfk]
      · right
        rw [if_neg hfk]
        exact ⟨hf, hfk⟩
    · rintro (rfl | ⟨he, hek⟩)
      · obtain ⟨f, hf, hfk⟩ := hkey
        exact ⟨f, hf, if_pos hfk⟩
      · exact ⟨e, he, if_neg hek⟩
  next hkey =>
    rw [isSome_lookup_iff] at hkey
    rw [List.mem_append, List.mem_singleton]
    constructor
    · rintro (he | he)
      · right
        refine ⟨he, ?_⟩
        rintro rfl
        exact hkey (List.mem_map_of_mem he)
      · exact Or.inl he
    · rintro (he | ⟨he, _⟩)
      · exact Or.inr he
      · exact Or.inl he

theorem keys_setEntry (d : List (Nat × Nat)) (key value : Nat) :
    (setEntry d key value).map Prod.fst =
      if key ∈ d.map Prod.fst then d.map Prod.fst
      else d.map Prod.fst ++ [key] := by
  unfold setEntry
  simp only [isSome_lookup_iff]
  split
  next =>
    rw [List.map_map]
    apply List.map_congr_left
    intro e _
    by_cases he : e.1 = key
    · simp [he]
    · simp [he]
  next =>
    rw [List.map_append]
    rfl

theorem poolDict_append_singleton (pool : List Nat) (v : Nat) :
    poolDict (pool ++ [v]) = setEntry (poolDict pool) v (pool.length + 1) := by
  unfold poolDict
  rw [List.zipIdx_append, List.foldl_append]
  simp

theorem mem_keys_poolDict {pool : List Nat} {key : Nat} :
    key ∈ (poolDict pool).map Prod.fst ↔ key = 0 ∨ key ∈ pool := by
  induction pool using List.reverseRecOn with
  | nil =>
      simp [poolDict]
  | append_singleton pool v ih =>
      rw [poolDict_append_singleton, keys_setEntry, List.mem_append,
        List.mem_singleton, ← or_assoc, ← ih]
      split
      next hv =>
        constructor
        · exact Or.inl
        · rintro (h | rfl)
          · exact h
          · exact hv
      next =>
        rw [List.mem_append, List.mem_singleton]

theorem nodup_keys_poolDict (pool : List Nat) :
    ((poolDict pool).map Prod.fst).Nodup := by
  induction pool using List.reverseRecOn with
  | nil =>
      simp [poolDict]
  | append_singleton pool v ih =>
      rw [poolDict_append_singleton, keys_setEntry]
      split
      next =>
        exact ih
      next hv =>
        rw [List.nodup_append]
        refine ⟨ih, List.nodup_singleton v, ?_⟩
        rintro a ha b hb rfl
        exact hv (List.mem_singleton.mp hb ▸ ha)

theorem length_le_poolDict {pool : List Nat} (h : pool.Nodup) :
    pool.length <= (poolDict pool).length := by
  have hsubset : pool ⊆ (poolDict pool).map Prod.fst := by
    intro v hv
    exact mem_keys_poolDict.mpr (.inr hv)
  have hle := (List.subperm_of_subset h hsubset).length_le
  rwa [List.length_map] at hle

/-- The entries are the pool by its positions and, if it is not there,
zero. -/
theorem mem_poolDict {pool : List Nat} (h : pool.Nodup) {e : Nat × Nat} :
    e ∈ poolDict pool ↔
      (exists j, pool[j]? = some e.1 ∧ e.2 = j + 1) ∨
        e = (0, 0) ∧ 0 ∉ pool := by
  induction pool using List.reverseRecOn with
  | nil =>
      simp [poolDict]
  | append_singleton pool v ih =>
      rw [List.nodup_append] at h
      obtain ⟨hPool, _, hNew⟩ := h
      have hv : v ∉ pool := by
        intro hv
        exact hNew v hv v (List.mem_singleton_self v) rfl
      rw [poolDict_append_singleton, mem_setEntry, ih hPool]
      constructor
      · rintro (rfl | ⟨⟨j, hj, hidx⟩ | ⟨rfl, hzero⟩, hne⟩)
        · exact .inl ⟨pool.length, List.getElem?_concat_length, rfl⟩
        · refine .inl ⟨j, ?_, hidx⟩
          rw [List.getElem?_append_left (List.getElem?_eq_some_iff.mp hj).1]
          exact hj
        · refine .inr ⟨rfl, ?_⟩
          rw [List.mem_append, List.mem_singleton, not_or]
          exact ⟨hzero, hne⟩
      · rintro (⟨j, hj, hidx⟩ | ⟨rfl, hzero⟩)
        · by_cases hlt : j < pool.length
          · rw [List.getElem?_append_left hlt] at hj
            refine .inr ⟨.inl ⟨j, hj, hidx⟩, ?_⟩
            rintro rfl
            exact hv (List.mem_of_getElem? hj)
          · have hlength := (List.getElem?_eq_some_iff.mp hj).1
            rw [List.length_append, List.length_singleton] at hlength
            obtain rfl : j = pool.length := by omega
            rw [List.getElem?_concat_length] at hj
            exact .inl (Prod.ext (Option.some.inj hj).symm hidx)
        · rw [List.mem_append, List.mem_singleton, not_or] at hzero
          exact .inr ⟨.inr ⟨rfl, hzero.1⟩, hzero.2⟩

theorem lookup_of_mem {α β : Type} [BEq α] [LawfulBEq α] {d : List (α × β)}
    (h : (d.map Prod.fst).Nodup) {e : α × β} (he : e ∈ d) :
    d.lookup e.1 = some e.2 := by
  induction d with
  | nil =>
      cases he
  | cons f rest ih =>
      rw [List.map_cons, List.nodup_cons] at h
      rw [List.mem_cons] at he
      rw [List.lookup_cons]
      obtain rfl | he := he
      · rw [beq_self_eq_true]
      · have hne : (e.1 == f.1) = false := by
          rw [beq_eq_false_iff_ne]
          intro heq
          exact h.1 (heq ▸ List.mem_map_of_mem he)
        rw [hne]
        exact ih h.2 he

/-- A value of the pool has an index other than zero, which fits and which
decodes to it. -/
theorem poolDict_index {pool : List Nat} (h : pool.Nodup) {v : Nat}
    (hv : v ∈ pool) :
    exists idx, (poolDict pool).lookup v = some idx ∧ idx ≠ 0 ∧
      idx <= (poolDict pool).length ∧
      decodeIndex (poolDict pool) idx = v := by
  obtain ⟨j, hj⟩ := List.mem_iff_getElem?.mp hv
  have hmem : (v, j + 1) ∈ poolDict pool :=
    (mem_poolDict h).mpr (.inl ⟨j, hj, rfl⟩)
  have hlt := (List.getElem?_eq_some_iff.mp hj).1
  refine ⟨j + 1, lookup_of_mem (nodup_keys_poolDict pool) hmem, by omega,
    Nat.le_trans hlt (length_le_poolDict h), ?_⟩
  unfold decodeIndex
  cases hfind : (poolDict pool).find? fun e => e.2 == j + 1 with
  | none =>
      have hnone := List.find?_eq_none.mp hfind _ hmem
      simp at hnone
  | some e =>
      have hfound := List.find?_some hfind
      have hidx := eq_of_beq hfound
      obtain ⟨i, hi, hi'⟩ | ⟨rfl, _⟩ :=
        (mem_poolDict h).mp (List.mem_of_find?_eq_some hfind)
      · obtain rfl : i = j := by omega
        rw [hj] at hi
        exact (Option.some.inj hi).symm
      · cases hidx

/-- The index of no value decodes to zero. -/
theorem decodeIndex_zero {pool : List Nat} (h : pool.Nodup) :
    decodeIndex (poolDict pool) 0 = 0 := by
  unfold decodeIndex
  cases hfind : (poolDict pool).find? fun e => e.2 == 0 with
  | none =>
      rfl
  | some e =>
      have hfound := List.find?_some hfind
      have hidx := eq_of_beq hfound
      obtain ⟨i, _, hi⟩ | ⟨rfl, _⟩ :=
        (mem_poolDict h).mp (List.mem_of_find?_eq_some hfind)
      · omega
      · rfl

/-!
## Sizes
-/

/-- The logarithm of the host is right up to a number. -/
def Exact (ceilLog2 : Nat -> Nat) (n : Nat) : Prop :=
  forall m, 0 < m -> m <= n -> ceilLog2 m = Nat.clog 2 m

/-- The largest number whose bits the assembler asks for. -/
def largestSize (l : List Source) : Nat :=
  max 36 (max (lastAddress (Source.addresses l) + 1)
    (max ((poolDict (poolOf .immediate l)).length + 1)
      ((poolDict (poolOf .updateFlags l)).length + 1)))

theorem numBits_exact {ceilLog2 : Nat -> Nat} {n m : Nat}
    (hlog : Exact ceilLog2 n) (hpos : 0 < m) (hle : m <= n) :
    numBits ceilLog2 m = Nat.clog 2 m := by
  unfold numBits
  rw [if_neg (by omega)]
  exact hlog m hpos hle

theorem lt_two_pow_numBits {ceilLog2 : Nat -> Nat} {n m v : Nat}
    (hlog : Exact ceilLog2 n) (hle : m <= n) (hv : v < m) :
    v < 2 ^ numBits ceilLog2 m := by
  rw [numBits_exact hlog (by omega) hle]
  exact Nat.lt_of_lt_of_le hv (Nat.le_pow_clog (by omega) m)

/-- The members are counted from zero on. -/
def Members.Counted (m : Members) : Prop :=
  2 <= m.len ∧ m.len <= 36 ∧ forall e, e ∈ m -> e.2 < m.len

instance (m : Members) : Decidable m.Counted :=
  inferInstanceAs (Decidable (_ ∧ _ ∧ _))

theorem counted_of_handler {k : Keyword} {enumClass : Members}
    (h : k.handler = .enumeratedField enumClass) : enumClass.Counted := by
  cases k <;> cases h <;> decide

theorem fieldBits_enumeratedField (ceilLog2 : Nat -> Nat) (m : Microcode)
    {k : Keyword} {enumClass : Members}
    (h : k.handler = .enumeratedField enumClass) :
    m.fieldBits ceilLog2 k = numBits ceilLog2 enumClass.len := by
  cases k <;> cases h <;> rfl

theorem fieldBits_boolean (ceilLog2 : Nat -> Nat) (m : Microcode)
    {k : Keyword} (h : k.handler = .boolean) : m.fieldBits ceilLog2 k = 1 := by
  cases k <;> cases h <;> rfl

theorem jumpType_lt (t : JumpType) : t.value < Members.JumpType.len := by
  cases t <;> decide

theorem valueOf_mem {m : Members} {arg : Argument} {v : Nat}
    (h : m.valueOf arg = .ok v) : exists name, (name, v) ∈ m := by
  cases arg with
  | ID name =>
      simp only [Members.valueOf] at h
      split at h
      next =>
        cases h
      next w hw =>
        cases h
        obtain ⟨l₁, l₂, heq, _⟩ := List.lookup_eq_some_iff.mp hw
        exact ⟨name, by simp [heq]⟩
  | Integer value =>
      cases h

theorem numBits_pos {ceilLog2 : Nat -> Nat} {n m : Nat}
    (hlog : Exact ceilLog2 n) (hm : 2 <= m) (hle : m <= n) :
    0 < numBits ceilLog2 m := by
  rw [numBits_exact hlog (by omega) hle]
  exact Nat.clog_pos (by omega) hm

/-- A value fits its field, unless it is replaced by an index. -/
theorem value_fits {ceilLog2 : Nat -> Nat} {n : Nat} (hlog : Exact ceilLog2 n)
    (hn : 36 <= n) (m : Microcode) {f : Field} {k : Keyword} {v : Nat}
    (hImm : k ≠ .immediate) (hFlags : k ≠ .updateFlags)
    (h : f.value k = some v) : FitsWidth (m.fieldBits ceilLog2 k) v := by
  unfold Field.value at h
  cases hName : Keyword.ofName f.name with
  | none =>
      rw [hName] at h
      cases h
  | some j =>
      rw [hName] at h
      cases hHandler : j.handler with
      | enumeratedField enumClass =>
          simp only [hHandler, Option.ite_none_right_eq_some] at h
          obtain ⟨rfl, h⟩ := h
          obtain ⟨hLow, hHigh, hMembers⟩ := counted_of_handler hHandler
          have hok : f.firstArgument >>= enumClass.valueOf = .ok v := by
            cases hrun : f.firstArgument >>= enumClass.valueOf with
            | error e =>
                rw [hrun] at h
                cases h
            | ok w =>
                rw [hrun] at h
                rw [Option.some.inj h]
          obtain ⟨arg, _, hv⟩ := bind_ok hok
          obtain ⟨name, hmem⟩ := valueOf_mem hv
          rw [fieldBits_enumeratedField ceilLog2 m hHandler]
          exact ⟨numBits_pos hlog hLow (by omega),
            lt_two_pow_numBits hlog (by omega) (hMembers _ hmem)⟩
      | boolean =>
          simp only [hHandler, Option.ite_none_right_eq_some] at h
          obtain ⟨rfl, h⟩ := h
          cases h
          rw [fieldBits_boolean ceilLog2 m hHandler]
          decide
      | updateFlags =>
          simp only [hHandler, if_neg hFlags] at h
          cases h
      | immediate =>
          simp only [hHandler, if_neg hImm] at h
          cases h
      | jump t =>
          simp only [hHandler, Option.ite_none_right_eq_some] at h
          obtain ⟨rfl, h⟩ := h
          cases h
          have hlen : Members.JumpType.len = 10 := by decide
          exact ⟨numBits_pos hlog (by omega) (by omega),
            lt_two_pow_numBits hlog (by omega) (jumpType_lt t)⟩
      | reserved =>
          simp only [hHandler] at h
          cases h

theorem source_value_fits {ceilLog2 : Nat -> Nat} {n : Nat}
    (hlog : Exact ceilLog2 n) (hn : 36 <= n) (m : Microcode) {s : Source}
    {k : Keyword} {v : Nat} (hImm : k ≠ .immediate) (hFlags : k ≠ .updateFlags)
    (h : s.value k = some v) : FitsWidth (m.fieldBits ceilLog2 k) v := by
  obtain ⟨f, _, hf⟩ := List.mem_filterMap.mp (List.mem_of_getLast? h)
  exact value_fits hlog hn m hImm hFlags hf

/-!
## Words
-/

namespace Microcode

variable (ceilLog2 : Nat -> Nat) (m : Microcode)

/-- The keywords that have a place in the words. -/
def fieldKeys : List Keyword :=
  Keyword.sortedFieldKeys.filter fun k => m.fieldBits ceilLog2 k != 0

/-- What a word holds in a field. -/
def readField (addressBits : Nat) (word : List Char) (k : Option Keyword) :
    Option Nat :=
  (((m.bitfields ceilLog2 addressBits).map Prod.fst).zip
    (slices ((m.bitfields ceilLog2 addressBits).map Prod.snd) word)).lookup k

/-- The fields of a word, with the size and the value of each. -/
def contents (addressBits next : Nat) (fields : Keyword -> Option Nat) :
    List (Nat × Nat) :=
  (addressBits, next) ::
    (m.fieldKeys ceilLog2).map fun k =>
      (m.fieldBits ceilLog2 k, (fields k).getD 0)

theorem mem_fieldKeys {k : Keyword} {v : Nat}
    (h : FitsWidth (m.fieldBits ceilLog2 k) v) : k ∈ m.fieldKeys ceilLog2 := by
  have hpos := h.1
  unfold fieldKeys
  rw [List.mem_filter, bne_iff_ne]
  refine ⟨?_, by omega⟩
  cases k <;> decide

theorem sum_filter_ne_zero (f : Keyword -> Nat) (l : List Keyword) :
    ((l.filter fun k => f k != 0).map f).sum = (l.map f).sum := by
  induction l with
  | nil =>
      rfl
  | cons k rest ih =>
      rw [List.filter_cons]
      split
      next =>
        rw [List.map_cons, List.sum_cons, List.map_cons, List.sum_cons, ih]
      next hk =>
        have hzero : f k = 0 := by simpa using hk
        rw [List.map_cons, List.sum_cons, ih, hzero, Nat.zero_add]

theorem foldl_add_eq (f : Keyword -> Nat) (l : List Keyword) (n : Nat) :
    l.foldl (fun w k => w + f k) n = n + (l.map f).sum := by
  induction l generalizing n with
  | nil =>
      rfl
  | cons k rest ih =>
      rw [List.foldl_cons, ih, List.map_cons, List.sum_cons, Nat.add_assoc]

theorem width_eq_sum (addressBits next : Nat)
    (fields : Keyword -> Option Nat) :
    m.width ceilLog2 addressBits =
      ((m.contents ceilLog2 addressBits next fields).map Prod.fst).sum := by
  unfold width contents fieldKeys
  rw [foldl_add_eq, List.map_cons, List.sum_cons, List.map_map,
    ← sum_filter_ne_zero (m.fieldBits ceilLog2)]
  rfl

/-- A word of contents that fit is read back. -/
theorem readField_pack {addressBits next : Nat}
    {fields : Keyword -> Option Nat}
    (h : forall f, f ∈ m.contents ceilLog2 addressBits next fields ->
      FitsWidth f.1 f.2) :
    m.readField ceilLog2 addressBits
        (pack (m.contents ceilLog2 addressBits next fields)) none =
          some next ∧
      forall k, k ∈ m.fieldKeys ceilLog2 ->
        m.readField ceilLog2 addressBits
          (pack (m.contents ceilLog2 addressBits next fields)) (some k) =
            some ((fields k).getD 0) := by
  have hsizes :
      (m.bitfields ceilLog2 addressBits).map Prod.snd =
        (m.contents ceilLog2 addressBits next fields).map Prod.fst := by
    unfold bitfields contents fieldKeys
    rw [List.map_cons, List.map_cons, List.map_map, List.map_map]
    rfl
  have hkeys :
      (m.bitfields ceilLog2 addressBits).map Prod.fst =
        none :: (m.fieldKeys ceilLog2).map some := by
    unfold bitfields fieldKeys
    rw [List.map_cons, List.map_map]
    rfl
  have hvalues :
      (m.contents ceilLog2 addressBits next fields).map Prod.snd =
        next :: (m.fieldKeys ceilLog2).map fun k => (fields k).getD 0 := by
    unfold contents
    rw [List.map_cons, List.map_map]
    rfl
  have hzip :
      (none :: (m.fieldKeys ceilLog2).map some).zip
          (next :: (m.fieldKeys ceilLog2).map fun k => (fields k).getD 0) =
        (none, next) ::
          (m.fieldKeys ceilLog2).map fun k => (some k, (fields k).getD 0) := by
    rw [List.zip_cons_cons, List.zip_map']
  have hNodup :
      (((none, next) :: (m.fieldKeys ceilLog2).map fun k =>
        (some k, (fields k).getD 0)).map Prod.fst).Nodup := by
    rw [List.map_cons, List.map_map, List.nodup_cons]
    constructor
    · simp
    · have hsorted : Keyword.sortedFieldKeys.Nodup := by decide
      have hfilter : (m.fieldKeys ceilLog2).Nodup := hsorted.filter _
      exact hfilter.map (fun _ _ h => Option.some.inj h)
  unfold readField
  rw [hsizes, slices_pack h, hkeys, hvalues, hzip]
  constructor
  · exact lookup_of_mem hNodup List.mem_cons_self
  · intro k hk
    exact lookup_of_mem hNodup
      (List.mem_cons_of_mem _ (List.mem_map_of_mem hk))

/-- What `encode` puts into a word. -/
theorem encode_ok {i : Placed} {addressBits : Nat} {word : List Char}
    (h : m.encode ceilLog2 i addressBits = .ok word) :
    exists fields,
      word = pack (m.contents ceilLog2 addressBits i.next fields) ∧
      toIndex m.immediateDict (i.instr.presentFields .immediate) =
        .ok (fields .immediate) ∧
      toIndex m.updateFlagsDict (i.instr.presentFields .updateFlags) =
        .ok (fields .updateFlags) ∧
      forall k, k ≠ .immediate -> k ≠ .updateFlags -> k ≠ .jumpTarget ->
        fields k = i.instr.presentFields k := by
  unfold encode at h
  obtain ⟨imm, himm, h⟩ := bind_ok h
  obtain ⟨flags, hflags, h⟩ := bind_ok h
  dsimp only at h
  split at h
  next =>
    cases h
    refine ⟨withJumpTarget i (Function.update
      (Function.update i.instr.presentFields .immediate imm) .updateFlags
        flags), ?_, ?_, ?_, ?_⟩
    · unfold pack contents fieldKeys
      rw [List.flatMap_cons, List.flatMap_map]
    · rw [himm]
      unfold withJumpTarget
      split <;> rfl
    · rw [hflags]
      unfold withJumpTarget
      split <;> rfl
    · intro k hImm hFlags hTarget
      unfold withJumpTarget
      split
      next =>
        rw [Function.update_of_ne hTarget, Function.update_of_ne hFlags,
          Function.update_of_ne hImm]
      next =>
        rw [Function.update_of_ne hFlags, Function.update_of_ne hImm]
  next =>
    cases h

end Microcode

/-- A word tells its microinstruction. -/
structure WordHolds (ceilLog2 : Nat -> Nat) (m : Microcode)
    (addressBits : Nat) (s : Source) (i : Placed) (word : List Char) :
    Prop where
  length : word.length = m.width ceilLog2 addressBits
  next : m.readField ceilLog2 addressBits word none = some i.next
  present : forall k v, k ≠ .immediate -> k ≠ .updateFlags ->
    s.value k = some v ->
      m.readField ceilLog2 addressBits word (some k) = some v
  absent : forall k, k ≠ .immediate -> k ≠ .updateFlags ->
    s.value k = none -> k ∈ m.fieldKeys ceilLog2 ->
      m.readField ceilLog2 addressBits word (some k) = some 0
  immediate : exists idx,
    m.readField ceilLog2 addressBits word (some .immediate) = some idx ∧
      decodeIndex m.immediateDict idx = (s.value .immediate).getD 0 ∧
      (idx = 0 ↔ s.value .immediate = none)
  updateFlags : exists idx,
    m.readField ceilLog2 addressBits word (some .updateFlags) = some idx ∧
      decodeIndex m.updateFlagsDict idx = (s.value .updateFlags).getD 0 ∧
      (idx = 0 ↔ s.value .updateFlags = none)

/-!
## Round trip
-/

section Words

variable {ceilLog2 : Nat -> Nat} {l : List Source} {m : Microcode}
  (hlog : Exact ceilLog2 (largestSize l))
  (hImmPool : m.immediatePool = poolOf .immediate l)
  (hFlagsPool : m.updateFlagsPool = poolOf .updateFlags l)

omit hlog hImmPool hFlagsPool in
/-- The index that stands for a value of the pool, or for none. -/
theorem toIndex_pool {k : Keyword} {s : Source} (hs : s ∈ l)
    {idx : Option Nat}
    (h : Microcode.toIndex (poolDict (poolOf k l)) (s.value k) = .ok idx) :
    idx.getD 0 <= (poolDict (poolOf k l)).length ∧
      decodeIndex (poolDict (poolOf k l)) (idx.getD 0) =
        (s.value k).getD 0 ∧
      (idx.getD 0 = 0 ↔ s.value k = none) := by
  have hNodup := nodup_poolOf k l
  cases hv : s.value k with
  | none =>
      rw [hv] at h
      cases h
      refine ⟨Nat.zero_le _, decodeIndex_zero hNodup, by simp⟩
  | some v =>
      rw [hv] at h
      obtain ⟨j, hlookup, hne, hle, hdecode⟩ :=
        poolDict_index hNodup (mem_poolOf hs hv)
      simp only [Microcode.toIndex, hlookup] at h
      cases h
      exact ⟨hle, hdecode, by simp [hne]⟩

include hlog hImmPool hFlagsPool

theorem pool_fits {k : Keyword} (hk : k = .immediate ∨ k = .updateFlags)
    {v : Nat} (hv : v <= (poolDict (poolOf k l)).length) :
    FitsWidth (m.fieldBits ceilLog2 k) v := by
  have hbits :
      m.fieldBits ceilLog2 k =
        numBits ceilLog2 ((poolDict (poolOf k l)).length + 1) := by
    obtain rfl | rfl := hk
    · rw [← hImmPool]
      rfl
    · rw [← hFlagsPool]
      rfl
  have hlarge : (poolDict (poolOf k l)).length + 1 <= largestSize l := by
    unfold largestSize
    obtain rfl | rfl := hk
    · omega
    · omega
  have hzero : 0 < (poolDict (poolOf k l)).length := by
    have hmem : 0 ∈ (poolDict (poolOf k l)).map Prod.fst :=
      mem_keys_poolDict.mpr (.inl rfl)
    have hpos := List.length_pos_of_mem hmem
    rwa [List.length_map] at hpos
  rw [hbits]
  exact ⟨numBits_pos hlog (by omega) hlarge,
    lt_two_pow_numBits hlog hlarge (by omega)⟩

/-- A word has its length when the next address fits, and then holds
everything. -/
theorem encode_holds {s : Source} {i : Placed} {addressBits : Nat}
    {word : List Char} (hs : s ∈ l) (hbuilt : Built s i.instr)
    (h : m.encode ceilLog2 i addressBits = .ok word) :
    (FitsWidth addressBits i.next ->
        WordHolds ceilLog2 m addressBits s i word) ∧
      (word.length = m.width ceilLog2 addressBits ->
        FitsWidth addressBits i.next) := by
  obtain ⟨fields, rfl, himm, hflags, hrest⟩ := m.encode_ok ceilLog2 h
  rw [hbuilt.present, Microcode.immediateDict, hImmPool] at himm
  rw [hbuilt.present, Microcode.updateFlagsDict, hFlagsPool] at hflags
  obtain ⟨himmLe, himmDecode, himmZero⟩ := toIndex_pool hs himm
  obtain ⟨hflagsLe, hflagsDecode, hflagsZero⟩ := toIndex_pool hs hflags
  have hTarget : Keyword.jumpTarget ∉ m.fieldKeys ceilLog2 := by
    unfold Microcode.fieldKeys
    rw [List.mem_filter]
    rintro ⟨_, hbits⟩
    cases hbits
  have hother (k : Keyword) (hImm : k ≠ .immediate)
      (hFlags : k ≠ .updateFlags) (hk : k ∈ m.fieldKeys ceilLog2) :
      fields k = s.value k := by
    rw [hrest k hImm hFlags (fun heq => hTarget (heq ▸ hk)), hbuilt.present]
  have hlarge : 36 <= largestSize l := by
    unfold largestSize
    omega
  have hfits (k : Keyword) (hk : k ∈ m.fieldKeys ceilLog2) :
      FitsWidth (m.fieldBits ceilLog2 k) ((fields k).getD 0) := by
    by_cases hImm : k = .immediate
    · subst hImm
      exact pool_fits hlog hImmPool hFlagsPool (.inl rfl) himmLe
    · by_cases hFlags : k = .updateFlags
      · subst hFlags
        exact pool_fits hlog hImmPool hFlagsPool (.inr rfl) hflagsLe
      · rw [hother k hImm hFlags hk]
        cases hv : s.value k with
        | none =>
            have hbits : m.fieldBits ceilLog2 k ≠ 0 := by
              simpa [Microcode.fieldKeys] using (List.mem_filter.mp hk).2
            exact ⟨Nat.pos_of_ne_zero hbits, Nat.two_pow_pos _⟩
        | some v =>
            exact source_value_fits hlog hlarge m hImm hFlags hv
  have hall : (forall f, f ∈ m.contents ceilLog2 addressBits i.next fields ->
      FitsWidth f.1 f.2) ↔ FitsWidth addressBits i.next := by
    unfold Microcode.contents
    rw [List.forall_mem_cons]
    constructor
    · exact fun h => h.1
    · intro hnext
      refine ⟨hnext, ?_⟩
      intro f hf
      obtain ⟨k, hk, rfl⟩ := List.mem_map.mp hf
      exact hfits k hk
  have hlength :
      (pack (m.contents ceilLog2 addressBits i.next fields)).length =
          m.width ceilLog2 addressBits ↔ FitsWidth addressBits i.next := by
    rw [m.width_eq_sum ceilLog2 addressBits i.next fields, length_pack_iff,
      hall]
  refine ⟨?_, hlength.mp⟩
  intro hnext
  obtain ⟨hreadNext, hread⟩ := m.readField_pack ceilLog2 (hall.mpr hnext)
  refine ⟨hlength.mpr hnext, hreadNext, ?_, ?_, ?_, ?_⟩
  · intro k v hImm hFlags hv
    have hk := m.mem_fieldKeys ceilLog2
      (source_value_fits hlog hlarge m hImm hFlags hv)
    rw [hread k hk, hother k hImm hFlags hk, hv, Option.getD_some]
  · intro k hImm hFlags hv hk
    rw [hread k hk, hother k hImm hFlags hk, hv, Option.getD_none]
  · have hk := m.mem_fieldKeys ceilLog2
      (pool_fits hlog hImmPool hFlagsPool (.inl rfl) himmLe)
    rw [Microcode.immediateDict, hImmPool]
    exact ⟨_, hread _ hk, himmDecode, himmZero⟩
  · have hk := m.mem_fieldKeys ceilLog2
      (pool_fits hlog hImmPool hFlagsPool (.inr rfl) hflagsLe)
    rw [Microcode.updateFlagsDict, hFlagsPool]
    exact ⟨_, hread _ hk, hflagsDecode, hflagsZero⟩

end Words

/-- The program and its words say the same. -/
structure Lossless (ceilLog2 : Nat -> Nat) (files : List (List Line))
    (image : Image) : Prop where
  count : image.microcode.placed.length = (sources files).length
  distinct : (image.microcode.placed.map (·.address)).Nodup
  placed : forall (n : Nat) s i, (sources files)[n]? = some s ->
    image.microcode.placed[n]? = some i -> PlacedAs (sources files) n s i
  words : (image.words.map Prod.fst).Perm
    (image.microcode.placed.map (·.address))
  holds : forall (n : Nat) s i word, (sources files)[n]? = some s ->
    image.microcode.placed[n]? = some i -> (i.address, word) ∈ image.words ->
      WordHolds ceilLog2 image.microcode
        (image.microcode.addressBits ceilLog2) s i word

/-- The address after the last microinstruction is not needed or is no power
of two. -/
def LastFits (l : List Source) : Prop :=
  0 < lastAddress (Source.addresses l) ∧
    ((exists k, lastAddress (Source.addresses l) + 1 = 2 ^ k) ->
      forall (n : Nat) s, l[n]? = some s ->
        addressOf (Source.addresses l) n = lastAddress (Source.addresses l) ->
          s.target ≠ none)

section Image

variable {ceilLog2 : Nat -> Nat} {files : List (List Line)} {m : Microcode}

theorem exists_placed (h : buildMicrocode files = .ok m) {n : Nat} {s : Source}
    (hs : (sources files)[n]? = some s) :
    exists i, m.placed[n]? = some i ∧ PlacedAs (sources files) n s i := by
  obtain ⟨_, hlength, _, hplaced, _, _⟩ := buildMicrocode_ok h
  have hn : n < m.placed.length := by
    rw [hlength]
    exact (List.getElem?_eq_some_iff.mp hs).1
  have hi := List.getElem?_eq_getElem hn
  exact ⟨_, hi, hplaced n s _ hs hi⟩

theorem exists_source (h : buildMicrocode files = .ok m) {i : Placed}
    (hi : i ∈ m.placed) :
    exists n s, (sources files)[n]? = some s ∧ m.placed[n]? = some i ∧
      PlacedAs (sources files) n s i := by
  obtain ⟨_, hlength, _, hplaced, _, _⟩ := buildMicrocode_ok h
  obtain ⟨n, hn⟩ := List.mem_iff_getElem?.mp hi
  have hlt : n < (sources files).length := by
    rw [← hlength]
    exact (List.getElem?_eq_some_iff.mp hn).1
  have hs := List.getElem?_eq_getElem hlt
  exact ⟨n, _, hs, hn, hplaced n _ i hs hn⟩

theorem length_addresses (l : List Source) :
    (Source.addresses l).length = l.length := List.length_map _

theorem address_le (h : buildMicrocode files = .ok m) {i : Placed}
    (hi : i ∈ m.placed) :
    i.address <= lastAddress (Source.addresses (sources files)) := by
  obtain ⟨n, s, hs, _, hplaced⟩ := exists_source h hi
  rw [hplaced.address]
  apply addressOf_le
  rw [length_addresses]
  exact (List.getElem?_eq_some_iff.mp hs).1

theorem exists_last (h : buildMicrocode files = .ok m) :
    exists i, i ∈ m.placed ∧
      i.address = lastAddress (Source.addresses (sources files)) := by
  obtain ⟨hne, _⟩ := buildMicrocode_ok h
  have hne' : Source.addresses (sources files) ≠ [] := by
    unfold Source.addresses
    rw [ne_eq, List.map_eq_nil_iff]
    exact hne
  obtain ⟨n, hn, haddress⟩ := exists_addressOf hne'
  rw [length_addresses] at hn
  obtain ⟨i, hi, hplaced⟩ :=
    exists_placed h (List.getElem?_eq_getElem hn)
  exact ⟨i, List.mem_of_getElem? hi, hplaced.address.trans haddress⟩

instance : IsTrans Placed fun i j => i.address <= j.address :=
  ⟨fun _ _ _ => Nat.le_trans⟩

instance : Std.Total fun i j : Placed => i.address <= j.address :=
  ⟨fun i j => Nat.le_total i.address j.address⟩

/-- The size of an address is that of the last one. -/
theorem addressBits_eq (h : buildMicrocode files = .ok m) :
    m.addressBits ceilLog2 =
      numBits ceilLog2
        (lastAddress (Source.addresses (sources files)) + 1) := by
  obtain ⟨i, hi, haddress⟩ := exists_last h
  have hmem : i ∈ m.instructions := (List.mem_insertionSort _).mpr hi
  obtain ⟨others, top, htop⟩ :
      exists others top, m.instructions = others ++ [top] :=
    ⟨_, _, (List.dropLast_append_getLast (List.ne_nil_of_mem hmem)).symm⟩
  have hsorted := List.pairwise_insertionSort
    (fun i j : Placed => i.address <= j.address) m.placed
  change m.instructions.Pairwise _ at hsorted
  have htopMem : top ∈ m.placed := by
    have htopMem : top ∈ m.instructions := by
      rw [htop]
      exact List.mem_append_right _ (List.mem_singleton_self top)
    exact (List.mem_insertionSort _).mp htopMem
  have hle : i.address <= top.address := by
    rw [htop, List.mem_append, List.mem_singleton] at hmem
    rw [htop, List.pairwise_append] at hsorted
    obtain hmem | rfl := hmem
    · exact hsorted.2.2 i hmem top (List.mem_singleton_self top)
    · exact Nat.le_refl _
  have htopEq :
      top.address = lastAddress (Source.addresses (sources files)) := by
    apply Nat.le_antisymm (address_le h htopMem)
    rw [← haddress]
    exact hle
  unfold Microcode.addressBits
  rw [htop, List.getLast?_concat, Option.map_some, Option.getD_some, htopEq]

theorem next_le {n : Nat} {s : Source} {i : Placed}
    (hplaced : PlacedAs (sources files) n s i) {arg : Argument}
    (htarget : s.target = some arg) :
    i.next <= lastAddress (Source.addresses (sources files)) := by
  have hnext := hplaced.next
  rw [htarget] at hnext
  obtain ⟨_, k, t, _, ht, _, hnext⟩ := hnext
  rw [hnext]
  apply addressOf_le
  rw [length_addresses]
  exact (List.getElem?_eq_some_iff.mp ht).1

theorem lt_two_pow_clog_iff {n : Nat} :
    n < 2 ^ Nat.clog 2 n ↔ ¬ exists k, n = 2 ^ k := by
  constructor
  · rintro h ⟨k, rfl⟩
    rw [Nat.clog_pow 2 k (by omega)] at h
    exact Nat.lt_irrefl _ h
  · intro h
    apply Nat.lt_of_le_of_ne (Nat.le_pow_clog (by omega) n)
    intro heq
    exact h ⟨_, heq⟩

/-- Every next address fits exactly when the one after the last does, or is
not needed. -/
theorem next_fits_iff
    (hlog : Exact ceilLog2 (largestSize (sources files)))
    (h : buildMicrocode files = .ok m) :
    (forall i, i ∈ m.placed ->
      FitsWidth (m.addressBits ceilLog2) i.next) ↔
        LastFits (sources files) := by
  have hlarge :
      lastAddress (Source.addresses (sources files)) + 1 <=
        largestSize (sources files) := by
    unfold largestSize
    omega
  have hpositive :
      0 < lastAddress (Source.addresses (sources files)) + 1 :=
    Nat.succ_pos _
  rw [addressBits_eq h, numBits_exact hlog hpositive hlarge]
  unfold LastFits
  generalize hlast : lastAddress (Source.addresses (sources files)) = last
  constructor
  · intro hfits
    obtain ⟨top, htop, _⟩ := exists_last h
    constructor
    · have hpos := (hfits top htop).1
      apply Nat.pos_of_ne_zero
      rintro rfl
      rw [Nat.zero_add, Nat.clog_one_right] at hpos
      exact Nat.lt_irrefl 0 hpos
    · intro hpow n s hs haddress hnone
      obtain ⟨i, hi, hplaced⟩ := exists_placed h hs
      have hnext := hplaced.next
      rw [hnone] at hnext
      have hfit := (hfits i (List.mem_of_getElem? hi)).2
      rw [hnext, hplaced.address, haddress] at hfit
      exact lt_two_pow_clog_iff.mp hfit hpow
  · rintro ⟨hpos, hpow⟩ i hi
    obtain ⟨n, s, hs, _, hplaced⟩ := exists_source h hi
    refine ⟨Nat.clog_pos (by omega) (by omega), ?_⟩
    have hle : last + 1 <= 2 ^ Nat.clog 2 (last + 1) :=
      Nat.le_pow_clog (by omega) _
    cases htarget : s.target with
    | some arg =>
        have hnext := next_le hplaced htarget
        omega
    | none =>
        have hnext := hplaced.next
        rw [htarget] at hnext
        have haddress := address_le h hi
        by_cases heq : i.address = last
        · rw [hnext, heq]
          apply lt_two_pow_clog_iff.mpr
          intro hexists
          refine hpow hexists n s hs ?_ htarget
          rw [← hplaced.address]
          exact heq
        · omega

end Image

section Assemble

variable {ceilLog2 : Nat -> Nat} {files : List (List Line)} {image : Image}

theorem assemble_ok (h : assemble ceilLog2 files = .ok image) :
    buildMicrocode files = .ok image.microcode ∧
      List.Forall₂ (fun i w => w.1 = i.address ∧
        image.microcode.encode ceilLog2 i
          (image.microcode.addressBits ceilLog2) = .ok w.2)
        image.microcode.instructions image.words := by
  obtain ⟨m, hbuild, h⟩ := bind_ok h
  obtain ⟨words, hwords, h⟩ := bind_ok h
  cases h
  refine ⟨hbuild, (mapM_ok hwords).imp ?_⟩
  intro i w hw
  obtain ⟨word, hword, hw⟩ := bind_ok hw
  cases hw
  exact ⟨rfl, hword⟩

theorem fst_words {P : Placed -> Nat × List Char -> Prop} {is : List Placed}
    {words : List (Nat × List Char)}
    (h : List.Forall₂ (fun i w => w.1 = i.address ∧ P i w) is words) :
    words.map Prod.fst = is.map (·.address) := by
  induction h with
  | nil =>
      rfl
  | cons hfirst _ ih =>
      rw [List.map_cons, List.map_cons, hfirst.1, ih]

/-- Assembling loses nothing exactly when the address after the last
microinstruction fits or is not needed. -/
theorem assemble_lossless_iff
    (hlog : Exact ceilLog2 (largestSize (sources files)))
    (h : assemble ceilLog2 files = .ok image) :
    Lossless ceilLog2 files image ↔ LastFits (sources files) := by
  obtain ⟨hbuild, hwords⟩ := assemble_ok h
  obtain ⟨_, hcount, hdistinct, hplaced, hImm, hFlags⟩ :=
    buildMicrocode_ok hbuild
  have hperm :
      (image.words.map Prod.fst).Perm
        (image.microcode.placed.map (·.address)) := by
    rw [fst_words hwords]
    exact (List.perm_insertionSort _ _).map _
  have hencode (i : Placed) (hi : i ∈ image.microcode.placed)
      (word : List Char) (hword : (i.address, word) ∈ image.words) :
      image.microcode.encode ceilLog2 i
        (image.microcode.addressBits ceilLog2) = .ok word := by
    obtain ⟨j, hj, haddress, hencode⟩ := forall₂_mem_right hwords hword
    have hj' : j ∈ image.microcode.placed := (List.mem_insertionSort _).mp hj
    obtain rfl := List.inj_on_of_nodup_map hdistinct hi hj' haddress
    exact hencode
  rw [← next_fits_iff hlog hbuild]
  constructor
  · intro hlossless i hi
    obtain ⟨n, s, hs, hn, hplacedAs⟩ := exists_source hbuild hi
    have hmem : i.address ∈ image.words.map Prod.fst :=
      hperm.mem_iff.mpr (List.mem_map_of_mem hi)
    obtain ⟨⟨a, word⟩, hword, haddress⟩ := List.mem_map.mp hmem
    cases haddress
    have hholds := hlossless.holds n s i word hs hn hword
    exact (encode_holds hlog hImm hFlags (List.mem_of_getElem? hs)
      hplacedAs.built (hencode i hi word hword)).2 hholds.length
  · intro hfits
    refine ⟨hcount, hdistinct, hplaced, hperm, ?_⟩
    intro n s i word hs hn hword
    have hi := List.mem_of_getElem? hn
    exact (encode_holds hlog hImm hFlags (List.mem_of_getElem? hs)
      (hplaced n s i hs hn).built (hencode i hi word hword)).1 (hfits i hi)

end Assemble

theorem exists_ok_of_run {α : Type} {x : Except Error α} {P : α -> Prop}
    [DecidablePred P]
    (h : (match x with
      | .ok a => decide (P a)
      | .error _ => false) = true) : exists a, x = .ok a ∧ P a := by
  cases x with
  | error e =>
      cases h
  | ok a =>
      exact ⟨a, rfl, of_decide_eq_true h⟩

/-- An immediate zero at address zero, and a jump back to it. -/
def loopProgram : List (List Line) :=
  [[.Directive "at" [.Integer (some 0)], .LabelAnchor "loop",
    .MicroInstruction
      [{ name := "b_sel", arguments := [.ID "IMMEDIATE"] },
        { name := "immediate", arguments := [.Integer (some 0)] },
        { name := "update_flags", arguments := [.ID "CF", .ID "OF"] }],
    .MicroInstruction
      [{ name := "io" }, { name := "jmp", arguments := [.ID "loop"] }]]]

theorem loopProgram_lossless :
    exists image, assemble (Nat.clog 2) loopProgram = .ok image ∧
      Lossless (Nat.clog 2) loopProgram image := by
  have hexact :
      Exact (Nat.clog 2) (largestSize (sources loopProgram)) :=
    fun _ _ _ => rfl
  obtain ⟨image, himage, _⟩ :
      exists image, assemble (Nat.clog 2) loopProgram = .ok image ∧
        image.words.length = 2 :=
    exists_ok_of_run (by decide +kernel)
  refine ⟨image, himage, (assemble_lossless_iff hexact himage).mpr ?_⟩
  have htargets :
      (sources loopProgram).map Source.target = [none, some (.ID "loop")] := by
    decide +kernel
  have haddresses :
      Source.addresses (sources loopProgram) = [some 0, none] := by
    decide +kernel
  refine ⟨by rw [haddresses]; decide, ?_⟩
  intro _ n s hs haddress htarget
  rw [haddresses] at haddress
  have hn : ((sources loopProgram).map Source.target)[n]? = some none := by
    rw [List.getElem?_map, hs, Option.map_some, htarget]
  rw [htargets] at hn
  cases n with
  | zero =>
      cases haddress
  | succ n =>
      cases n with
      | zero =>
          cases hn
      | succ n =>
          cases hn

/-- One microinstruction gets address one, and the next address is two. -/
theorem single_not_lossless :
    exists image,
      assemble (Nat.clog 2) [[.MicroInstruction [{ name := "io" }]]] =
        .ok image ∧
      ¬ Lossless (Nat.clog 2) [[.MicroInstruction [{ name := "io" }]]]
        image := by
  obtain ⟨image, himage, hplaced, hwords, hwidth⟩ :
      exists image,
        assemble (Nat.clog 2) [[.MicroInstruction [{ name := "io" }]]] =
          .ok image ∧
        image.microcode.placed.map (·.address) = [1] ∧
        image.words.map (fun w => (w.1, w.2.length)) = [(1, 49)] ∧
        image.microcode.width (Nat.clog 2)
          (image.microcode.addressBits (Nat.clog 2)) = 48 :=
    exists_ok_of_run (by decide +kernel)
  refine ⟨image, himage, ?_⟩
  intro h
  obtain ⟨i, hi, haddress⟩ := List.map_eq_singleton_iff.mp hplaced
  obtain ⟨w, hw, hpair⟩ := List.map_eq_singleton_iff.mp hwords
  obtain ⟨haddr, hlength⟩ := Prod.mk.inj hpair
  have hplaced' : image.microcode.placed[0]? = some i := by
    rw [hi]
    rfl
  have hword : (i.address, w.2) ∈ image.words := by
    rw [hw, haddress, ← haddr]
    exact List.mem_singleton_self w
  have hholds := (h.holds 0 _ i w.2 rfl hplaced' hword).length
  rw [hwidth, hlength] at hholds
  cases hholds

end Microassembler
end S80x86
