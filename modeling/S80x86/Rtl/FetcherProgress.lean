import S80x86.Rtl.FetcherStream

/-!
# The next instruction comes

A fetch unit that is not made to jump offers an instruction in the end, if no
access is outstanding for ever.
-/

open Foundation

namespace S80x86
namespace Rtl

open S80x86.Rtl.Parser

namespace Fetcher

/-- An access that the memory has accepted, or is asked for. -/
def Outstanding (s : Fetcher) : Prop :=
  s.pending.isSome = true ∨ s.prefetch.memAccess2 = true

/-!
## One cycle
-/

section Step

variable {mem : Memory} {c : Cycle} {s : Fetcher}

/-- An access stays outstanding until it is acknowledged. -/
theorem outstanding_step (hack : c.memAck = false) (hout : s.Outstanding) :
    (s.step mem c).Outstanding := by
  refine Or.inl ?_
  change (if c.memAck then none else if s.prefetch.memAccess2 then
    some (s.pending.getD s.prefetch.memAddress) else s.pending).isSome = true
  rw [hack]
  cases haccess : s.prefetch.memAccess2 with
  | true =>
      rfl
  | false =>
      unfold Outstanding at hout
      rw [haccess] at hout
      exact hout.resolve_right Bool.false_ne_true

theorem abort_step (hc : Admits c s) (hload : c.loadNewIp = false) :
    (s.step mem c).prefetch.abortCur =
      (s.prefetch.abortCur && !c.memAck) := by
  change (if c.reset then false
    else if s.prefetch.abortCur && c.memAck then false
    else if (s.prefetch.memAccess2 && !c.memAck) && c.loadNewIp then true
    else s.prefetch.abortCur) = _
  rw [hc.reset, hload, Bool.and_false]
  cases s.prefetch.abortCur <;> cases c.memAck <;> rfl

theorem not_restarts (hc : Admits c s) (hload : c.loadNewIp = false)
    (habort : s.prefetch.abortCur = false) : s.restarts mem c = false := by
  change (c.reset || (c.loadNewIp || (s.prefetch.abortCur && c.memAck))) = false
  rw [hc.reset, hload, habort]
  rfl

/-- An idle prefetcher with an empty FIFO asks for a word. -/
theorem Inv.asks (h : Inv mem s) (hc : Admits c s)
    (hload : c.loadNewIp = false) (hidle : ¬ s.Outstanding)
    (hempty : s.prefetchFifo.empty = true)
    (hsecond : s.prefetch.writeSecond = false) :
    (s.step mem c).Outstanding := by
  have hack : c.memAck = false := by
    rw [<- Bool.not_eq_true]
    exact fun hack => hidle (hc.ack hack)
  have hfull : s.prefetchFifo.nearlyFull = false := by
    rw [<- Bool.not_eq_true]
    intro hfull
    have hfill := (h.room.holds.nearlyFull.mp hfull).2
    rw [h.room.holds.empty.mp hempty] at hfill
    exact absurd hfill (by decide)
  refine Or.inr ?_
  change (!c.reset && !s.prefetchFifo.nearlyFull && !c.memAck &&
    !s.prefetch.writeSecond && !(!(s.prefetch.memAccess2 && !c.memAck) &&
      c.loadNewIp)) = true
  rw [hc.reset, hfull, hack, hsecond, hload, Bool.and_false]
  rfl

/-- A byte that is written is there in the next cycle. -/
theorem Inv.fills (h : Inv mem s) (hc : Admits c s)
    (hrun : s.restarts mem c = false)
    (hwrite : Prefetch.fifoWrEn (s.prefetchInputs mem c) s.prefetch = true) :
    (s.step mem c).prefetchFifo.empty = false := by
  obtain ⟨hroom, hle⟩ := h.room_running hrun hc
  rw [<- Bool.not_eq_true]
  intro hempty
  have hnone := hroom.holds.empty.mp hempty
  rw [List.drop_eq_nil_iff, step_fetched hrun, hwrite, List.length_append]
    at hnone
  exact absurd (Nat.le_trans hnone hle) (Nat.not_succ_le_self _)

/-- A byte that is there is taken, unless the decoder waits for space. -/
theorem Inv.takes (h : Inv mem s) (hrun : s.restarts mem c = false)
    (hempty : s.prefetchFifo.empty = false)
    (hspace : s.decoder.state ≠ .STATE_WAIT_SPACE) :
    (s.step mem c).consumed = s.consumed + 1 := by
  have hsame := s.parser_step mem c s.fetched (fun hne => (h.rdData hne).2)
  have hcount := congrArg DecoderStream.System.consumed hsame
  exact hcount.trans (DecoderStream.consumed_of_offered .generated
    (s.parser s.fetched) (c := s.parserCycle mem c) hrun hempty hspace)

theorem consumed_le_step (hrun : s.restarts mem c = false) :
    s.consumed <= (s.step mem c).consumed := by
  change _ <= if s.restarts mem c then 0 else _
  rw [hrun]
  change _ <= if s.fifoRdEn mem c && !s.prefetchFifo.empty then s.consumed + 1
    else s.consumed
  split
  · exact Nat.le_succ _
  · exact Nat.le_refl _

/-- A finished record is in the queue in the next cycle. -/
theorem Inv.announces (h : Inv mem s) (hc : Admits c s)
    (hrun : s.restarts mem c = false)
    (hempty : s.instructionFifo.empty = true)
    (hcomplete : s.decoder.complete = true) :
    (s.step mem c).instructionFifo.empty = false := by
  obtain ⟨q, hq, -⟩ := h.records
  have hnext := hq.step (s.instructionFifoInputs mem c)
  rw [<- Bool.not_eq_true]
  intro hnone
  have hnil := hnext.empty.mp hnone
  have hfull : s.instructionFifo.full DecoderStream.instructionFifo =
      false := by
    rw [<- Bool.not_eq_true]
    intro hfull
    have hlength := hq.full.mp hfull
    rw [hq.empty.mp hempty] at hlength
    cases hlength
  rw [hq.queueNext_eq hc.reset (flush_of_running hrun),
    List.append_eq_nil_iff] at hnil
  have hwrite := hnil.2
  rw [hfull] at hwrite
  change (if s.decoder.complete && !false then [s.decoder.instruction] else []) =
    [] at hwrite
  rw [hcomplete] at hwrite
  cases hwrite

/-- What has been taken without an instruction in the queue is a part of one. -/
theorem Inv.consumed_lt (h : Inv mem s) (hbrief : s.Brief)
    (hempty : s.instructionFifo.empty = true)
    (hcomplete : s.decoder.complete = false) :
    s.consumed < s.position + 15 := by
  obtain ⟨left, right, later, q, -, -, hlt, hq, hright⟩ := h.layout hbrief
  rw [hq.empty.mp hempty, DecoderStream.pending_of_unfinished hcomplete]
    at hright
  cases hright
  exact hlt

end Step

/-!
## Endless runs
-/

section Runs

variable {mem : Nat -> Memory} {c : Nat -> Cycle} {s : Nat -> Fetcher}

/-- A run without a jump in which no access is outstanding for ever. -/
structure Unbroken (mem : Nat -> Memory) (c : Nat -> Cycle)
    (s : Nat -> Fetcher) : Prop where
  step : forall n, s (n + 1) = (s n).step (mem n) (c n)
  inv : forall n, Inv (mem n) (s n)
  admits : forall n, Admits (c n) (s n)
  brief : forall n, (s n).Brief
  load : forall n, (c n).loadNewIp = false
  answers : forall n, exists k, (c (n + k)).memAck = true ∨
    ¬ (s (n + k)).Outstanding

variable (h : Unbroken mem c s)
include h

/-- An access that is being aborted comes to its end. -/
theorem Unbroken.abort_ends : exists n, (s n).prefetch.abortCur = false := by
  by_contra hnever
  have habort (n : Nat) : (s n).prefetch.abortCur = true := by
    rw [<- Bool.not_eq_false]
    exact fun hend => hnever ⟨n, hend⟩
  obtain ⟨k, hk⟩ := h.answers 0
  rcases hk with hack | hidle
  · have hnext := @abort_step (mem (0 + k)) _ _ (h.admits (0 + k))
      (h.load (0 + k))
    rw [<- h.step, habort, habort, hack] at hnext
    cases hnext
  · exact hidle (Or.inl ((h.inv _).aborted (habort _)))

theorem Unbroken.abort_stays {n : Nat}
    (habort : (s n).prefetch.abortCur = false) (k : Nat) :
    (s (n + k)).prefetch.abortCur = false := by
  induction k with
  | zero =>
      exact habort
  | succ k ih =>
      change (s (n + k + 1)).prefetch.abortCur = false
      rw [h.step, abort_step (h.admits _) (h.load _), ih]
      rfl

theorem Unbroken.runs {n : Nat} (habort : (s n).prefetch.abortCur = false)
    (k : Nat) : (s (n + k)).restarts (mem (n + k)) (c (n + k)) = false :=
  not_restarts (h.admits _) (h.load _) (h.abort_stays habort k)

/-- The next byte comes. -/
theorem Unbroken.byte_comes {n : Nat}
    (habort : (s n).prefetch.abortCur = false) :
    exists k, (s (n + k)).prefetchFifo.empty = false := by
  by_contra hnever
  have hempty (k : Nat) : (s (n + k)).prefetchFifo.empty = true := by
    rw [<- Bool.not_eq_false]
    exact fun hsome => hnever ⟨k, hsome⟩
  have hwrite (k : Nat) : (c (n + k)).memAck = false ∧
      (s (n + k)).prefetch.writeSecond = false := by
    have hnone : Prefetch.fifoWrEn
        ((s (n + k)).prefetchInputs (mem (n + k)) (c (n + k)))
        (s (n + k)).prefetch = false := by
      rw [<- Bool.not_eq_true]
      intro hwrite
      have hsome := (h.inv _).fills (h.admits _) (h.runs habort k) hwrite
      rw [<- h.step] at hsome
      exact hnever ⟨k + 1, hsome⟩
    change (!(s (n + k)).prefetch.abortCur && !(c (n + k)).loadNewIp &&
      ((c (n + k)).memAck || (s (n + k)).prefetch.writeSecond)) = false at hnone
    rw [h.abort_stays habort, h.load] at hnone
    exact Bool.or_eq_false_iff.mp hnone
  have hout : (s (n + 1)).Outstanding := by
    rw [h.step]
    by_cases hout : (s n).Outstanding
    · exact outstanding_step (hwrite 0).1 hout
    · exact (h.inv n).asks (h.admits n) (h.load n) hout (hempty 0) (hwrite 0).2
  have hstays (k : Nat) : (s (n + 1 + k)).Outstanding := by
    induction k with
    | zero =>
        exact hout
    | succ k ih =>
        change (s (n + 1 + k + 1)).Outstanding
        rw [h.step]
        refine outstanding_step ?_ ih
        rw [Nat.add_assoc]
        exact (hwrite (1 + k)).1
  obtain ⟨k, hk⟩ := h.answers (n + 1)
  rcases hk with hack | hidle
  · rw [Nat.add_assoc, (hwrite (1 + k)).1] at hack
    cases hack
  · exact hidle (hstays k)

/-- The fetch unit offers an instruction in the end. -/
theorem Unbroken.offers :
    exists n, (s n).instructionFifo.empty = false := by
  by_contra hnever
  have hempty (n : Nat) : (s n).instructionFifo.empty = true := by
    rw [<- Bool.not_eq_false]
    exact fun hsome => hnever ⟨n, hsome⟩
  obtain ⟨n, habort⟩ := h.abort_ends
  have hcomplete (k : Nat) : (s (n + k)).decoder.complete = false := by
    rw [<- Bool.not_eq_true]
    intro hcomplete
    have hsome := (h.inv _).announces (h.admits _) (h.runs habort k)
      (hempty _) hcomplete
    rw [<- h.step] at hsome
    exact hnever ⟨_, hsome⟩
  have hspace (k : Nat) : (s (n + k)).decoder.state ≠ .STATE_WAIT_SPACE := by
    intro hspace
    obtain ⟨done, part, hinv⟩ := (h.inv (n + k)).parses
    have hwaiting := hinv.decoder.waiting hspace
    change (s (n + k)).decoder.complete = true at hwaiting
    rw [hcomplete] at hwaiting
    cases hwaiting
  have hposition (k : Nat) : (s (n + k)).position = (s n).position := by
    induction k with
    | zero =>
        rfl
    | succ k ih =>
        change (s (n + k + 1)).position = _
        rw [<- ih, h.step]
        unfold position
        rw [step_taken (h.runs habort k), hempty]
        simp
  have hgrows (k : Nat) :
      (s (n + k)).consumed <= (s (n + k + 1)).consumed := by
    rw [h.step]
    exact consumed_le_step (h.runs habort k)
  have hmono (k j : Nat) :
      (s (n + k)).consumed <= (s (n + (k + j))).consumed := by
    induction j with
    | zero =>
        exact Nat.le_refl _
    | succ j ih =>
        exact ih.trans (hgrows (k + j))
  -- Every byte that comes is taken.
  have hmany (m : Nat) : exists k, m <= (s (n + k)).consumed := by
    induction m with
    | zero =>
        exact ⟨0, Nat.zero_le _⟩
    | succ m ih =>
        obtain ⟨k, hk⟩ := ih
        obtain ⟨j, hj⟩ := h.byte_comes (h.abort_stays habort k)
        rw [Nat.add_assoc] at hj
        refine ⟨k + j + 1, ?_⟩
        have htakes := (h.inv _).takes (c := c (n + (k + j)))
          (h.runs habort (k + j)) hj (hspace (k + j))
        have hle := hk.trans (hmono k j)
        change m + 1 <= (s (n + (k + j) + 1)).consumed
        rw [h.step, htakes]
        omega
  obtain ⟨k, hk⟩ := hmany ((s n).position + 15)
  have hlt := (h.inv (n + k)).consumed_lt (h.brief _) (hempty _) (hcomplete k)
  rw [hposition] at hlt
  omega

end Runs

end Fetcher
end Rtl
end S80x86
