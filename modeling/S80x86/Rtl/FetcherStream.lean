import Mathlib.Data.List.Induction
import S80x86.Rtl.Encoding
import S80x86.Rtl.Fetcher

/-!
# The stream of instructions

What comes out of the fetch unit is the parse of what the memory holds from the
address of the last jump on, as long as no byte is changed between its fetch and
its execution.
-/

open Foundation

namespace S80x86
namespace Rtl

open S80x86.Rtl.Parser

namespace Fetcher

/-!
## The invariant
-/

/-- The bytes of the records that were taken. -/
def position (s : Fetcher) : Nat :=
  (s.taken.map fun v => v.length.toNat).sum

/-- Every instruction in the bytes fetched has fifteen bytes at most. -/
def Brief (s : Fetcher) : Prop :=
  forall n, n <= s.fetched.length ->
    (parseStream .generated (s.fetched.take n)).2.length < 15

instance (s : Fetcher) : Decidable s.Brief :=
  decidable_of_iff (forall n, n < s.fetched.length + 1 ->
    (parseStream .generated (s.fetched.take n)).2.length < 15)
    (forall_congr' fun _ => by rw [Nat.lt_succ_iff])

/-- The bytes that were fetched and not yet taken, and the ones on their way,
are the same in both memories. -/
def Spares (s : Fetcher) (mem mem' : Memory) : Prop :=
  forall k, s.position <= k -> k <= s.fetched.length + 1 ->
    mem' (s.address k) = mem (s.address k)

instance (s : Fetcher) (mem mem' : Memory) : Decidable (s.Spares mem mem') :=
  decidable_of_iff (forall k, k < s.fetched.length + 2 -> s.position <= k ->
    mem' (s.address k) = mem (s.address k))
    ⟨fun h k hle hk => h k (Nat.lt_succ_of_le hk) hle,
      fun h k hk hle => h k hle (Nat.le_of_lt_succ hk)⟩

/-- The memory acknowledges what is outstanding, and the core does not jump
while an access is being aborted. -/
structure Admits (c : Cycle) (s : Fetcher) : Prop where
  reset : c.reset = false
  ack : c.memAck = true ->
    s.pending.isSome = true ∨ s.prefetch.memAccess2 = true
  jump : c.loadNewIp = true -> s.prefetch.abortCur = false

structure Inv (mem : Memory) (s : Fetcher) : Prop where
  placed : s.Placed
  room : PrefetchFifo.Room s.queue (s.fetched.drop s.consumed)
  requested : s.pending.isSome = true -> s.prefetch.memAccess2 = true
  aborted : s.prefetch.abortCur = true -> s.pending.isSome = true
  consumed : s.consumed <= s.fetched.length
  parses : exists done part,
    DecoderStream.Inv .generated (s.parser s.fetched) done part
  records : exists q, Fifo.Represents DecoderStream.instructionFifo
    s.instructionFifo q ∧ s.decoded = s.taken ++ q
  holds : forall k, s.position <= k -> (hk : k < s.fetched.length) ->
    s.fetched[k] = mem (s.address k)
  second : s.prefetch.writeSecond = true ->
    s.prefetch.fetchedHighByte = mem (s.address s.fetched.length)

section Step

variable {mem mem' : Memory} {c : Cycle} {s : Fetcher}

/-- The prefetch FIFO shows the next byte of the stream. -/
theorem Inv.rdData (h : Inv mem s) (hempty : s.prefetchFifo.empty = false) :
    s.consumed < s.fetched.length ∧
      s.prefetchFifo.rdData = s.fetched.getD s.consumed 0#8 := by
  have hholds := h.room.holds
  have hne : s.fetched.drop s.consumed ≠ [] := by
    intro hnil
    have hnone := hholds.empty.mpr hnil
    change s.prefetchFifo.empty = true at hnone
    rw [hempty] at hnone
    cases hnone
  have hlt : s.consumed < s.fetched.length := by
    rw [ne_eq, List.drop_eq_nil_iff] at hne
    omega
  refine ⟨hlt, ?_⟩
  have hhead := hholds.rdData hne
  rw [List.head?_drop, List.getElem?_eq_getElem hlt] at hhead
  rw [List.getD_eq_getElem?_getD, List.getElem?_eq_getElem hlt,
    Option.getD_some]
  exact (Option.some.inj hhead).symm

theorem parser_consumedBytes (h : s.consumed <= s.fetched.length) :
    (s.parser s.fetched).consumedBytes = s.fetched.take s.consumed := by
  change (List.range s.consumed).map (fun k => s.fetched.getD k 0#8) = _
  refine List.ext_getElem (by simpa using h) (fun k hk _ => ?_)
  have hlt : k < s.fetched.length := by
    simp only [List.length_map, List.length_range] at hk
    omega
  rw [List.getElem_map, List.getElem_range, List.getElem_take,
    List.getD_eq_getElem?_getD, List.getElem?_eq_getElem hlt,
    Option.getD_some]

/-- The part of an instruction that the decoder holds is short. -/
theorem Inv.part_lt (h : Inv mem s) (hbrief : s.Brief)
    {done part : List (BitVec 8)}
    (hinv : DecoderStream.Inv .generated (s.parser s.fetched) done part) :
    part.length < 15 := by
  have hparsed : (parseStream .generated
      (s.parser s.fetched).consumedBytes).2 = part :=
    congrArg Prod.snd (hinv.parsed .generated)
  rw [<- hparsed, parser_consumedBytes h.consumed]
  exact hbrief s.consumed h.consumed

theorem Inv.requested_step (h : Inv mem s) (hc : Admits c s)
    (hpending : (s.step mem c).pending.isSome = true) :
    (s.step mem c).prefetch.memAccess2 = true := by
  have hack : c.memAck = false := by
    rw [<- Bool.not_eq_true]
    intro hack
    change (if c.memAck then none else _ : Option _).isSome = true at hpending
    rw [hack] at hpending
    cases hpending
  have haccess : s.prefetch.memAccess2 = true := by
    rw [<- Bool.not_eq_false]
    intro hnone
    change (if c.memAck then none else if s.prefetch.memAccess2 then _
      else s.pending).isSome = true at hpending
    rw [hack, hnone] at hpending
    have hsome := h.requested hpending
    rw [hnone] at hsome
    cases hsome
  obtain ⟨hlength, hsecond⟩ := h.room.outstanding (Or.inr haccess)
  have hfull : s.prefetchFifo.nearlyFull = false := by
    rw [<- Bool.not_eq_true]
    intro hfull
    have hfill := (h.room.holds.nearlyFull.mp hfull).2
    change 6 <= _ + 2 at hfill
    omega
  change (!c.reset && !s.prefetchFifo.nearlyFull && !c.memAck &&
    !s.prefetch.writeSecond && !(!(s.prefetch.memAccess2 && !c.memAck) &&
      c.loadNewIp)) = true
  rw [hc.reset, hfull, hack, haccess]
  change s.prefetch.writeSecond = false at hsecond
  rw [hsecond]
  rfl

/-- Only an access in flight is aborted. -/
theorem Inv.aborted_step (h : Inv mem s) (hc : Admits c s)
    (habort : (s.step mem c).prefetch.abortCur = true) :
    (s.step mem c).pending.isSome = true := by
  change (if c.reset then false
    else if s.prefetch.abortCur && c.memAck then false
    else if (s.prefetch.memAccess2 && !c.memAck) && c.loadNewIp then true
    else s.prefetch.abortCur) = true at habort
  change (if c.memAck then none else if s.prefetch.memAccess2 then
    some (s.pending.getD s.prefetch.memAddress) else s.pending).isSome = true
  rw [hc.reset] at habort
  cases hack : c.memAck with
  | true =>
      rw [hack] at habort
      simp at habort
  | false =>
      cases haccess : s.prefetch.memAccess2 with
      | true =>
          rfl
      | false =>
          rw [hack, haccess] at habort
          simp only [Bool.and_false, Bool.false_and, Bool.false_eq_true,
            if_false] at habort
          exact h.aborted habort

theorem Inv.placed_step (h : Inv mem s) (hc : Admits c s) :
    (s.step mem c).Placed := by
  unfold Placed
  rw [step_stream mem c s hc.reset, blank_cycle]
  refine PrefetchStream.inv_cycle _ _ h.placed ⟨hc.ack, fun hload => ?_⟩
  have habort := hc.jump hload
  refine ⟨fun htrue => ?_, fun _ hnone _ => ?_⟩
  · change s.prefetch.abortCur = true at htrue
    rw [habort] at htrue
    cases htrue
  · change s.pending = none
    change s.prefetch.memAccess2 = false at hnone
    cases hpending : s.pending with
    | none =>
        rfl
    | some a =>
        have haccess := h.requested (by rw [hpending]; rfl)
        rw [hnone] at haccess
        cases haccess

theorem Inv.room_step (h : Inv mem s) (hc : Admits c s) :
    PrefetchFifo.Room (s.step mem c).queue
      (Fifo.queueNext PrefetchFifo.generics.toParams
        (s.prefetchFifoInputs mem c) (s.fetched.drop s.consumed)) := by
  rw [step_queue]
  exact h.room.cycle hc.ack

section Restart

variable (hrestart : s.restarts mem c = true)
include hrestart

theorem fetched_restart : (s.step mem c).fetched = [] := if_pos hrestart

theorem parses_restart : DecoderStream.Inv .generated
    ((s.step mem c).parser (s.step mem c).fetched) [] [] := by
  -- Any bytes will do of which the read port shows the next.
  have hsame := s.parser_step mem c
    (List.replicate (s.consumed + 1) s.prefetchFifo.rdData) (fun _ => by
      rw [List.getD_eq_getElem?_getD, List.getElem?_replicate,
        if_pos (Nat.lt_succ_self _), Option.getD_some])
  have hstream := congrArg (fun t : DecoderStream.System =>
    { t with stream := fun k => (s.step mem c).fetched.getD k 0#8 }) hsame
  refine Eq.subst (motive := fun t => DecoderStream.Inv .generated t [] [])
    hstream.symm ?_
  refine (DecoderStream.inv_restart .generated (c := s.parserCycle mem c)
    hrestart _).restream .generated (fun k hk => ?_)
  have hzero : ((s.parser (List.replicate (s.consumed + 1)
      s.prefetchFifo.rdData)).step .generated (s.parserCycle mem c)).consumed =
        0 := if_pos hrestart
  rw [hzero] at hk
  exact absurd hk (Nat.not_lt_zero k)

theorem records_restart : exists q,
    Fifo.Represents DecoderStream.instructionFifo
      (s.step mem c).instructionFifo q ∧
        (s.step mem c).decoded = (s.step mem c).taken ++ q := by
  have hdecoded : (s.step mem c).decoded = [] := if_pos hrestart
  have htaken : (s.step mem c).taken = [] := if_pos hrestart
  have hclear : (s.step mem c).instructionFifo =
      { mem := s.instructionFifo.mem, rdPtr := 0, wrPtr := 0, count := 0 } := by
    have hcases := hrestart
    unfold restarts at hcases
    change Fifo.step DecoderStream.instructionFifo
      (s.instructionFifoInputs mem c) s.instructionFifo = _
    cases hreset : c.reset with
    | true =>
        simp [Fifo.step, Fifo.nextCount, instructionFifoInputs, hreset]
    | false =>
        rw [hreset, Bool.false_or] at hcases
        simp [Fifo.step, Fifo.nextCount, instructionFifoInputs, hreset, hcases]
  refine ⟨[], ?_, ?_⟩
  · rw [hclear]
    exact Fifo.represents_nil _ (by decide)
  · rw [hdecoded, htaken]
    rfl

theorem second_restart : (s.step mem c).prefetch.writeSecond = false := by
  have hcases := hrestart
  unfold restarts at hcases
  change (if c.reset then false else c.memAck && !s.prefetch.abortCur &&
    !s.prefetch.fetchAddress.getLsbD 0 && !s.fifoReset mem c) = false
  cases hreset : c.reset with
  | true =>
      rfl
  | false =>
      rw [hreset, Bool.false_or] at hcases
      rw [hcases]
      simp

/-- Nothing is left of the old stream. -/
theorem inv_restart (hplaced : (s.step mem c).Placed)
    (hroom : PrefetchFifo.Room (s.step mem c).queue [])
    (hrequested : (s.step mem c).pending.isSome = true ->
      (s.step mem c).prefetch.memAccess2 = true)
    (haborted : (s.step mem c).prefetch.abortCur = true ->
      (s.step mem c).pending.isSome = true) :
    Inv mem' (s.step mem c) := by
  have hfetched := fetched_restart hrestart
  have hconsumed : (s.step mem c).consumed = 0 := if_pos hrestart
  refine ⟨hplaced, ?_, hrequested, haborted, ?_,
    ⟨[], [], parses_restart hrestart⟩,
    records_restart hrestart, ?_, ?_⟩
  · rw [hfetched, List.drop_nil]
    exact hroom
  · rw [hconsumed]
    exact Nat.zero_le _
  · intro k _ hk
    rw [hfetched] at hk
    exact absurd hk (Nat.not_lt_zero k)
  · intro hsecond
    rw [second_restart hrestart] at hsecond
    cases hsecond

end Restart

theorem Inv.step_restart (h : Inv mem s) (hc : Admits c s)
    (hrestart : s.restarts mem c = true) : Inv mem' (s.step mem c) := by
  have hroom := h.room_step hc
  have hnone : Fifo.queueNext PrefetchFifo.generics.toParams
      (s.prefetchFifoInputs mem c) (s.fetched.drop s.consumed) = [] :=
    if_pos hrestart
  rw [hnone] at hroom
  exact inv_restart hrestart (h.placed_step hc) hroom (h.requested_step hc)
    (h.aborted_step hc)

/-- A reset starts the stream at the address of the first instruction, unless
an access is in flight. -/
theorem inv_afterReset (hreset : c.reset = true)
    (hidle : (s.step mem c).pending = none) : Inv mem' (s.step mem c) := by
  have hrestart : s.restarts mem c = true := by
    rw [restarts, hreset, Bool.true_or]
  refine inv_restart hrestart ?_ ?_ ?_ ?_
  · have hstart := PrefetchStream.inv_afterReset zeros
      { s.prefetch with fetchedHighByte := 0#8 }
      { s.prefetchInputs mem c with memData := 0#16 }
    refine Eq.subst (motive := PrefetchStream.Inv zeros) ?_ hstart
    refine (blank_eq ?_ ?_ ?_).symm
    · change (if c.memAck then (0#16).extractLsb' 8 8 else 0#8) = 0#8
      cases c.memAck <;> rfl
    · change [] = List.replicate (s.step mem c).fetched.length 0#8
      rw [fetched_restart hrestart]
      rfl
    · unfold stream
      rw [hidle, fetched_restart hrestart]
      unfold step PrefetchStream.afterReset prefetchInputs
      rw [hreset]
      rfl
  · have hroom := PrefetchFifo.room_afterReset s.queue (s.queueCycle mem c)
    have hsame : { s.queueCycle mem c with reset := true } =
        s.queueCycle mem c := by
      unfold queueCycle
      rw [hreset]
    rw [PrefetchFifo.afterReset, hsame] at hroom
    rw [step_queue]
    exact hroom
  · intro hpending
    rw [hidle] at hpending
    cases hpending
  · intro habort
    rw [show (s.step mem c).prefetch.abortCur = false from if_pos hreset]
      at habort
    cases habort

/-- What the prefetcher writes is the byte that it stands at. -/
theorem Inv.writes (h : Inv mem s) (hc : Admits c s)
    (hwrite : Prefetch.fifoWrEn (s.prefetchInputs mem c) s.prefetch = true) :
    Prefetch.fifoWrData (s.prefetchInputs mem c) s.prefetch =
      mem (s.address s.fetched.length) := by
  unfold Prefetch.fifoWrEn at hwrite
  simp only [Bool.and_eq_true, Bool.or_eq_true, Bool.not_eq_true'] at hwrite
  obtain ⟨⟨habort, -⟩, hwrite⟩ := hwrite
  change c.memAck = true ∨ s.prefetch.writeSecond = true at hwrite
  rw [<- h.placed.linear habort]
  cases hack : c.memAck with
  | true =>
      refine PrefetchStream.fifoWrData_of_ack hack ?_
      rw [<- h.placed.served habort (hc.ack hack)]
      rfl
  | false =>
      rw [hack] at hwrite
      have hsecond := hwrite.resolve_left Bool.false_ne_true
      rw [h.placed.linear habort, <- h.second hsecond]
      change (if c.memAck then _ else s.prefetch.fetchedHighByte) = _
      rw [hack]
      rfl

/-!
## A cycle without a jump
-/

section Running

variable (hrun : s.restarts mem c = false)
include hrun

theorem step_fetched : (s.step mem c).fetched = s.fetched ++
    (if Prefetch.fifoWrEn (s.prefetchInputs mem c) s.prefetch then
      [Prefetch.fifoWrData (s.prefetchInputs mem c) s.prefetch] else []) := by
  change (if s.restarts mem c then [] else _) = _
  rw [hrun]
  cases Prefetch.fifoWrEn (s.prefetchInputs mem c) s.prefetch with
  | true =>
      rfl
  | false =>
      exact (List.append_nil s.fetched).symm

theorem step_decoded : (s.step mem c).decoded = s.decoded ++
    (if s.decoder.complete &&
        !s.instructionFifo.full DecoderStream.instructionFifo then
      [s.decoder.instruction] else []) := by
  change (if s.restarts mem c then [] else _) = _
  rw [hrun]
  cases s.decoder.complete &&
      !s.instructionFifo.full DecoderStream.instructionFifo with
  | true =>
      rfl
  | false =>
      exact (List.append_nil s.decoded).symm

theorem step_taken : (s.step mem c).taken = s.taken ++
    (if c.instructionFifoRdEn && !s.instructionFifo.empty then
      [s.instructionFifo.rdData] else []) := by
  change (if s.restarts mem c then [] else _) = _
  rw [hrun]
  cases c.instructionFifoRdEn && !s.instructionFifo.empty with
  | true =>
      rfl
  | false =>
      exact (List.append_nil s.taken).symm

theorem position_le_step : s.position <= (s.step mem c).position := by
  unfold position
  rw [step_taken hrun, List.map_append, List.sum_append]
  exact Nat.le_add_right _ _

theorem flush_of_running : s.fifoReset mem c = false :=
  (Bool.or_eq_false_iff.mp hrun).2

theorem load_of_running : c.loadNewIp = false :=
  (Bool.or_eq_false_iff.mp (flush_of_running hrun)).1

theorem step_address (hc : Admits c s) (k : Nat) :
    (s.step mem c).address k = s.address k := by
  have hcs : (s.step mem c).loadedCs = s.loadedCs := by
    change (if c.reset then 0xffff#16
      else if c.loadNewIp then c.newCs else s.loadedCs) = _
    rw [hc.reset, load_of_running hrun]
    rfl
  have hip : (s.step mem c).loadedIp = s.loadedIp := by
    change (if c.reset then 0#16
      else if c.loadNewIp then c.newIp else s.loadedIp) = _
    rw [hc.reset, load_of_running hrun]
    rfl
  rw [address, hcs, hip]
  rfl

theorem Inv.room_running (h : Inv mem s) (hc : Admits c s) :
    PrefetchFifo.Room (s.step mem c).queue
      ((s.step mem c).fetched.drop (s.step mem c).consumed) ∧
        (s.step mem c).consumed <= s.fetched.length := by
  have hroom := h.room_step hc
  have hfull : s.prefetchFifo.full = false :=
    PrefetchFifo.HasRoom.not_full ⟨_, h.room⟩
  have hnext := h.room.holds.queueNext_eq
    (i := s.prefetchFifoInputs mem c) hc.reset (flush_of_running hrun)
  change Fifo.queueNext PrefetchFifo.generics.toParams
    (s.prefetchFifoInputs mem c) (s.fetched.drop s.consumed) =
      (if s.fifoRdEn mem c && !s.prefetchFifo.empty then _ else _) ++
        (if Prefetch.fifoWrEn (s.prefetchInputs mem c) s.prefetch &&
          !s.prefetchFifo.full then _ else _) at hnext
  rw [hfull, Bool.not_false, Bool.and_true] at hnext
  have hconsumed : (s.step mem c).consumed =
      if s.fifoRdEn mem c && !s.prefetchFifo.empty then s.consumed + 1
      else s.consumed := by
    change (if s.restarts mem c then 0 else _) = _
    rw [hrun]
    rfl
  rw [hnext] at hroom
  rw [step_fetched hrun, hconsumed]
  cases hread : s.fifoRdEn mem c && !s.prefetchFifo.empty with
  | false =>
      rw [hread] at hroom
      refine ⟨?_, h.consumed⟩
      rw [if_neg Bool.false_ne_true,
        List.drop_append_of_le_length h.consumed]
      exact hroom
  | true =>
      rw [hread] at hroom
      have hempty : s.prefetchFifo.empty = false := by
        simpa using (Bool.and_eq_true_iff.mp hread).2
      have hlt := (h.rdData hempty).1
      refine ⟨?_, hlt⟩
      rw [if_pos rfl, List.drop_append_of_le_length hlt, <- List.tail_drop]
      exact hroom

theorem Inv.records_running (h : Inv mem s) (hc : Admits c s) :
    exists q, Fifo.Represents DecoderStream.instructionFifo
      (s.step mem c).instructionFifo q ∧
        (s.step mem c).decoded = (s.step mem c).taken ++ q := by
  obtain ⟨q, hq, hdecoded⟩ := h.records
  have hsplit : q =
      (if c.instructionFifoRdEn && !s.instructionFifo.empty then
        [s.instructionFifo.rdData] else []) ++
      (if c.instructionFifoRdEn && !s.instructionFifo.empty then q.tail
        else q) := by
    cases hread : c.instructionFifoRdEn && !s.instructionFifo.empty with
    | false =>
        rfl
    | true =>
        have hne : q ≠ [] := by
          intro hnil
          rw [hq.empty.mpr hnil, Bool.not_true, Bool.and_false] at hread
          cases hread
        exact List.eq_cons_of_mem_head? (hq.holds.head hq.rdPtr hne)
  refine ⟨_, hq.step (s.instructionFifoInputs mem c), ?_⟩
  rw [hq.queueNext_eq hc.reset (flush_of_running hrun), step_decoded hrun,
    step_taken hrun, hdecoded]
  conv_lhs => rw [hsplit]
  simp only [List.append_assoc]
  rfl

theorem Inv.parses_running (h : Inv mem s) (hc : Admits c s)
    (hbrief : s.Brief) :
    exists done part, DecoderStream.Inv .generated
      ((s.step mem c).parser (s.step mem c).fetched) done part := by
  obtain ⟨done, part, hinv⟩ := h.parses
  obtain ⟨done', part', hinv'⟩ := hinv.cycle .generated
    (c := s.parserCycle mem c) hrun (h.part_lt hbrief hinv)
    OpcodeTable.generated_immedCount_le
  refine ⟨done', part', ?_⟩
  have hsame := s.parser_step mem c s.fetched (fun hempty =>
    (h.rdData hempty).2)
  have hstream : (s.step mem c).parser (s.step mem c).fetched =
      { (s.parser s.fetched).step .generated (s.parserCycle mem c) with
        stream := fun k => (s.step mem c).fetched.getD k 0#8 } :=
    congrArg (fun t : DecoderStream.System =>
      { t with stream := fun k => (s.step mem c).fetched.getD k 0#8 }) hsame
  have hold : ((s.parser s.fetched).step .generated
      (s.parserCycle mem c)).stream = fun k => s.fetched.getD k 0#8 :=
    if_neg (by
      change ¬ s.restarts mem c = true
      rw [hrun]
      exact Bool.false_ne_true)
  have hbefore := (h.room_running hrun hc).2
  rw [hstream]
  refine hinv'.restream .generated (fun k hk => ?_)
  have hlt : k < s.fetched.length := by
    have hcount : ((s.parser s.fetched).step .generated
        (s.parserCycle mem c)).consumed = (s.step mem c).consumed :=
      (congrArg DecoderStream.System.consumed hsame).symm
    omega
  rw [hold, step_fetched hrun, List.getD_eq_getElem?_getD,
    List.getElem?_append_left hlt]
  exact List.getD_eq_getElem?_getD.symm

theorem Inv.holds_running (h : Inv mem s) (hc : Admits c s)
    (hspares : s.Spares mem mem') (k : Nat) (hle : s.position <= k)
    (hk : k < (s.step mem c).fetched.length) :
    (s.step mem c).fetched[k] = mem' (s.address k) := by
  have hgrow : s.fetched.length <= (s.step mem c).fetched.length ∧
      (s.step mem c).fetched.length <= s.fetched.length + 1 := by
    rw [step_fetched hrun, List.length_append]
    split <;> simp
  rw [hspares k hle (by omega)]
  by_cases hlt : k < s.fetched.length
  · rw [<- h.holds k hle hlt]
    simp only [step_fetched hrun]
    exact List.getElem_append_left hlt
  · obtain rfl : k = s.fetched.length := by omega
    have hwrite : Prefetch.fifoWrEn (s.prefetchInputs mem c) s.prefetch =
        true := by
      rw [<- Bool.not_eq_false]
      intro hfalse
      rw [step_fetched hrun, hfalse] at hk
      simp at hk
    rw [<- h.writes hc hwrite]
    simp [step_fetched hrun, hwrite]

theorem Inv.second_running (h : Inv mem s) (hc : Admits c s)
    (hposition : s.position <= s.fetched.length)
    (hspares : s.Spares mem mem')
    (hsecond : (s.step mem c).prefetch.writeSecond = true) :
    (s.step mem c).prefetch.fetchedHighByte =
      mem' (s.address (s.step mem c).fetched.length) := by
  have hkept := hsecond
  change (if c.reset then false else c.memAck && !s.prefetch.abortCur &&
    !s.prefetch.fetchAddress.getLsbD 0 && !s.fifoReset mem c) = true
    at hkept
  rw [hc.reset] at hkept
  simp only [Bool.false_eq_true, if_false, Bool.and_eq_true,
    Bool.not_eq_true'] at hkept
  obtain ⟨⟨⟨hack, habort⟩, -⟩, hflush⟩ := hkept
  have hwrite : Prefetch.fifoWrEn (s.prefetchInputs mem c) s.prefetch =
      true := by
    have hload := load_of_running hrun
    change (!s.prefetch.abortCur && !c.loadNewIp &&
      (c.memAck || s.prefetch.writeSecond)) = true
    rw [habort, hload, hack]
    rfl
  have hlength : (s.step mem c).fetched.length = s.fetched.length + 1 := by
    rw [step_fetched hrun, hwrite, List.length_append]
    rfl
  have hdata : (s.prefetchInputs mem c).memData =
      Bus.readWord mem
        (Bus.wordAddress s.prefetch.cs s.prefetch.fetchAddress) := by
    rw [<- h.placed.served habort (hc.ack hack)]
    rfl
  have hbyte := PrefetchStream.fetchedHighByte_of_second hc.reset hsecond hdata
  rw [hlength, hspares _ (by omega) (Nat.le_refl _)]
  refine hbyte.trans ?_
  rw [h.placed.cs habort, h.placed.fetchAddress habort, BitVec.add_assoc,
    address, BitVec.ofNat_add]

end Running

end Step

/-!
## What comes out
-/

/-- The lengths of records add up to the number of their bytes. -/
theorem length_of_decodes {bytes : List (BitVec 8)} {is : List Instruction}
    (h : Decodes .generated bytes is)
    (hbrief : forall n, n <= bytes.length ->
      (parseStream .generated (bytes.take n)).2.length < 15) :
    (is.map fun v => v.length.toNat).sum = bytes.length := by
  induction is using List.reverseRecOn generalizing bytes with
  | nil =>
      cases h
      rfl
  | append_singleton is v ih =>
      obtain ⟨left, right, rfl, hleft, hright⟩ := h.split
      cases hright with
      | @cons chunk rest _ _ hchunk hrest =>
          cases hrest
          rw [List.append_nil] at hbrief ⊢
          have hshort : chunk.length <= 15 := by
            by_contra hlong
            have hpart := parseStream_of_decodes hleft
              (DecoderStream.parse_take_none hchunk (n := 15) (by omega))
            have hlt := hbrief (left.length + 15) (by
              rw [List.length_append]
              omega)
            rw [List.take_length_add_append, hpart, List.length_take] at hlt
            omega
          have hsum := ih hleft (fun n hn => by
            have hlt := hbrief n (by
              rw [List.length_append]
              omega)
            rw [List.take_append_of_le_length hn] at hlt
            exact hlt)
          rw [List.map_append, List.sum_append, hsum, List.length_append,
            List.map_singleton, List.sum_singleton,
            length_of_parse hshort hchunk]

section Output

variable {mem mem' : Memory} {c : Cycle} {s : Fetcher}

/-- The bytes fetched are those of the records taken, of the records that wait,
and more. -/
theorem Inv.layout (h : Inv mem s) (hbrief : s.Brief) :
    exists left right later q, s.fetched = left ++ (right ++ later) ∧
      left.length = s.position ∧
      s.consumed < s.position + right.length + 15 ∧
      Fifo.Represents DecoderStream.instructionFifo s.instructionFifo q ∧
      Decodes .generated right (q ++ (s.parser s.fetched).pending) := by
  obtain ⟨done, part, hinv⟩ := h.parses
  obtain ⟨q, hq, hdecoded⟩ := h.records
  have hdecodes := hinv.decodes
  change Decodes .generated done (s.decoded ++ _) at hdecodes
  rw [hdecoded, List.append_assoc] at hdecodes
  obtain ⟨left, right, rfl, hleft, hright⟩ := hdecodes.split
  have hbytes := hinv.bytes
  rw [parser_consumedBytes h.consumed] at hbytes
  have hfetched : s.fetched =
      left ++ (right ++ (part ++ s.fetched.drop s.consumed)) := by
    conv_lhs => rw [<- List.take_append_drop s.consumed s.fetched, hbytes]
    simp only [List.append_assoc]
  have hlength : left.length = s.position := by
    refine (length_of_decodes hleft (fun n hn => ?_)).symm
    have hshort := hbrief n (by
      rw [hfetched, List.length_append]
      omega)
    rw [hfetched, List.take_append_of_le_length hn] at hshort
    exact hshort
  have hconsumed : s.consumed < s.position + right.length + 15 := by
    have hpart := h.part_lt hbrief hinv
    have hcount := congrArg List.length hbytes
    simp only [List.length_take, List.length_append,
      Nat.min_eq_left h.consumed] at hcount
    omega
  exact ⟨left, right, _, q, hfetched, hlength, hconsumed, hq, hright⟩

theorem Inv.position_le (h : Inv mem s) (hbrief : s.Brief) :
    s.position <= s.fetched.length := by
  obtain ⟨left, right, later, q, hfetched, hlength, -⟩ := h.layout hbrief
  rw [<- hlength, hfetched, List.length_append]
  exact Nat.le_add_right _ _

/-- What one cycle of the fetch unit keeps. -/
theorem Inv.step (h : Inv mem s) (hc : Admits c s) (hbrief : s.Brief)
    (hspares : s.Spares mem mem') : Inv mem' (s.step mem c) := by
  cases hrun : s.restarts mem c with
  | true =>
      exact h.step_restart hc hrun
  | false =>
      obtain ⟨hroom, hconsumed⟩ := h.room_running hrun hc
      refine ⟨h.placed_step hc, hroom, h.requested_step hc,
        h.aborted_step hc, ?_, h.parses_running hrun hc hbrief,
        h.records_running hrun hc, ?_, ?_⟩
      · rw [step_fetched hrun, List.length_append]
        omega
      · intro k hle hk
        rw [step_address hrun hc]
        exact h.holds_running hrun hc hspares k
          ((position_le_step hrun).trans hle) hk
      · intro hsecond
        rw [step_address hrun hc]
        exact h.second_running hrun hc (h.position_le hbrief) hspares hsecond

/-- The record that comes out is the parse of the memory behind the ones that
were taken. -/
theorem Inv.offers (h : Inv mem s) (hbrief : s.Brief)
    (hempty : s.instructionFifo.empty = false) :
    exists chunk,
      parseInstruction .generated .zero chunk =
        some (s.instructionFifo.rdData, []) ∧
      s.position + chunk.length <= s.fetched.length ∧
      forall j, (hj : j < chunk.length) ->
        chunk[j] = mem (s.address (s.position + j)) := by
  obtain ⟨left, right, later, q, hfetched, hlength, -, hq, hright⟩ :=
    h.layout hbrief
  have hne : q ≠ [] := by
    intro hnil
    rw [hq.empty.mpr hnil] at hempty
    cases hempty
  rw [List.eq_cons_of_mem_head? (hq.holds.head hq.rdPtr hne)] at hright
  cases hright with
  | @cons chunk bytes _ _ hchunk hrest =>
      have hle : s.position + chunk.length <= s.fetched.length := by
        rw [hfetched, <- hlength]
        simp only [List.length_append]
        omega
      refine ⟨chunk, hchunk, hle, fun j hj => ?_⟩
      have hlt : s.position + j < s.fetched.length := by omega
      rw [<- h.holds _ (Nat.le_add_right _ _) hlt]
      simp only [hfetched, <- hlength, List.append_assoc]
      rw [List.getElem_append_right (Nat.le_add_right _ _),
        List.getElem_append_left (by omega)]
      simp only [Nat.add_sub_cancel_left]

/-- While an access is being aborted nothing comes out. -/
theorem Inv.empty_of_abort (h : Inv mem s) (hbrief : s.Brief)
    (habort : s.prefetch.abortCur = true) :
    s.instructionFifo.empty = true := by
  obtain ⟨left, right, later, q, hfetched, -, -, hq, hright⟩ := h.layout hbrief
  rw [h.placed.nothing habort] at hfetched
  obtain ⟨-, hnone⟩ := List.append_eq_nil_iff.mp hfetched.symm
  obtain ⟨rfl, -⟩ := List.append_eq_nil_iff.mp hnone
  refine hq.empty.mpr ?_
  cases q with
  | nil =>
      rfl
  | cons v q =>
      exact absurd hright Decodes.not_nil

end Output

end Fetcher
end Rtl
end S80x86
