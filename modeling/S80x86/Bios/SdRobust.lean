import S80x86.Bios.SdAnswersRuns

/-!
# When the SD driver is robust

The driver ends just when the card answers whatever the driver waits for.  A
read stays inside the transfer buffer and delivers only what the card has sent
just when the data start token comes within 530 bytes after the response.
-/

open Foundation

namespace S80x86
namespace Bios
namespace SdAnswers

open Effect

def lines (answers : Nat -> BitVec 8) (n : Nat) : Line := ⟨n, answers⟩

/-- The condition on the place in the sequence of bytes under which the code
ends, and then it has stayed inside the buffer and copied nothing out of it. -/
structure Decides {α : Type} (answers : Nat -> BitVec 8) (m : Code α)
    (C : Nat -> Prop) : Prop where
  enough : forall s, C s.exchanged ->
    exists a s', Ends (lines answers) Act.Internal m s a s'
  needed : forall n s a s', Returns m (lines answers n) s a s' ->
    C s.exchanged

section Decides

variable {α β : Type} {answers : Nat -> BitVec 8} {C : Nat -> Prop}

theorem decides_pure (a : α) :
    Decides answers (pure a) fun _ => True where
  enough := fun s _ => ⟨a, s, ends_pure a⟩
  needed := fun _ _ _ _ _ => trivial

theorem Decides.gets {f : β -> Code α} (h : forall b, Decides answers (f b) C)
    (g : Driver -> β) : Decides answers (Effect.gets g >>= f) C where
  enough := by
    intro s hs
    obtain ⟨a, s', hends⟩ := (h (g s)).enough s hs
    exact ⟨a, s', (ends_gets g).bind hends⟩
  needed := by
    intro n s a s' hret
    obtain ⟨b, s₁, hg, hf⟩ := returns_bind.mp hret
    have hsame := (returns_gets.mp hg).right
    rw [hsame] at hf
    exact (h b).needed n s a s' hf

theorem Decides.orElse {m : Code α} (h : Decides answers m C) (c : Prop)
    [Decidable c] (a : α) :
    Decides answers (if c then pure a else m) fun p => c ∨ C p where
  enough := by
    intro s hs
    by_cases hc : c
    · rw [if_pos hc]
      exact ⟨a, s, ends_pure a⟩
    · rw [if_neg hc]
      exact h.enough s (hs.resolve_left hc)
  needed := by
    intro n s b s' hret
    by_cases hc : c
    · exact Or.inl hc
    · rw [if_neg hc] at hret
      exact Or.inr (h.needed n s b s' hret)

/-- A transfer, and what follows from the first byte of its response. -/
theorem Decides.transfer {m : Code Unit} (hm : Prepares m) (len : Nat)
    (hpos : 0 < len) (hlen : len ≤ bufSize) {f : BitVec 8 -> Code α}
    {C : BitVec 8 -> Nat -> Prop} (h : forall v, Decides answers (f v) (C v)) :
    Decides answers
      ((m >>= fun _ => spiXfer len true) >>= fun _ => spiXferBufGet 0 >>= f)
      fun p => exists k, Answers answers p k ∧ C (answers k) (k + len) where
  enough := by
    rintro s ⟨k, hk, hC⟩
    obtain ⟨s₁, hruns⟩ := prepared_runs hm hpos hlen hk
    have hfirst : Ends (lines answers) Act.Internal
        (m >>= fun _ => spiXfer len true) s () s₁ := by
      refine ⟨k - s.exchanged + len, ?_⟩
      intro n hn
      obtain ⟨log, hrun, hanswered⟩ := hruns n hn
      exact ⟨log, hrun, hanswered.bounds⟩
    obtain ⟨log, _, hanswered⟩ := hruns _ (Nat.le_refl _)
    have hget : Ends (lines answers) Act.Internal (spiXferBufGet 0) s₁
        (answers k) s₁ := by
      rw [show answers k = s₁.spiXferBuf 0 from (hanswered.buf 0 hpos).symm]
      refine Ends.of_runs (fun n => runs_get (lines answers n) s₁ 0) ?_
      intro e he
      rw [List.mem_singleton.mp he]
      exact internal_get (Nat.lt_of_lt_of_le hpos hlen)
    rw [<- hanswered.exchanged] at hC
    obtain ⟨a, s', hrest⟩ := (h (answers k)).enough s₁ hC
    exact ⟨a, s', hfirst.bind (hget.bind hrest)⟩
  needed := by
    intro n s a s' hret
    obtain ⟨_, s₁, hfirst, hrest⟩ := returns_bind.mp hret
    obtain ⟨k, log, hk, _, _, hanswered⟩ :=
      prepared_returns hm hpos hlen hfirst
    obtain ⟨v, s₂, hget, hf⟩ := returns_bind.mp hrest
    obtain ⟨hv, hs⟩ := (runs_get (lines answers n) s₁ 0).returns.unique hget
    rw [hanswered.buf 0 hpos, Nat.add_zero] at hv
    rw [<- hv, <- hs] at hf
    have hC := (h (answers k)).needed n s₁ a s' hf
    rw [hanswered.exchanged] at hC
    exact ⟨k, hk, hC⟩

/-- A transfer without a response. -/
theorem Decides.sends {m : Code Unit} (hm : Prepares m) {len : Nat}
    (hpos : 0 < len) (hlen : len ≤ bufSize) {rest : Code α}
    (h : Decides answers rest C) :
    Decides answers ((m >>= fun _ => spiXfer len false) >>= fun _ => rest)
      fun p => C (p + len) where
  enough := by
    intro s hC
    obtain ⟨before, s₀, hbefore, hquiet, hcount⟩ := hm s
    obtain ⟨s₁, hafter, hruns⟩ := spiXfer_sends hpos hlen answers s₀
    rw [<- hcount, <- hafter] at hC
    obtain ⟨a, s', hrest⟩ := h.enough s₁ hC
    have hprepared : Ends (lines answers) Act.Internal m s () s₀ :=
      Ends.of_runs (fun n => hbefore (lines answers n))
        fun e he => (hquiet e he).left
    have hsent : Ends (lines answers) Act.Internal (spiXfer len false) s₀ ()
        s₁ := ⟨len, hruns⟩
    exact ⟨a, s', (hprepared.bind hsent).bind hrest⟩
  needed := by
    intro n s a s' hret
    obtain ⟨before, s₀, hbefore, _, hcount⟩ := hm s
    obtain ⟨_, s₁, hfirst, hrest⟩ := returns_bind.mp hret
    obtain ⟨_, s₂, hprepared, hsent⟩ := returns_bind.mp hfirst
    rw [(hprepared.unique (hbefore (lines answers n)).returns).right] at hsent
    have hafter := spiXfer_returns_sent hpos hlen hsent
    have hC := h.needed n s₁ a s' hrest
    rw [hafter, hcount] at hC
    exact hC

end Decides

/-!
## Commands
-/

/-- The card answers and reports an error, or goes on with `C` after the
`len` bytes of the response. -/
def Responds (answers : Nat -> BitVec 8) (len : Nat) (C : Nat -> Prop)
    (p : Nat) : Prop :=
  exists k, Answers answers p k ∧
    (errorBits (answers k) ≠ 0 ∨ C (k + len))

/-- Commands that return zero just when the caller may go on with `C`. -/
structure Checks (answers : Nat -> BitVec 8) (m : Code Int)
    (W : (Nat -> Prop) -> Nat -> Prop) : Prop where
  enough : forall C s, W C s.exchanged -> exists rc s',
    Ends (lines answers) Act.Internal m s rc s' ∧
      (rc = 0 -> C s'.exchanged)
  needed : forall C n s rc s', Returns m (lines answers n) s rc s' ->
    (rc = 0 -> C s'.exchanged) -> W C s.exchanged

section Checks

variable {α : Type} {answers : Nat -> BitVec 8} {C : Nat -> Prop}

theorem Checks.orElse {m : Code Int} {W : (Nat -> Prop) -> Nat -> Prop}
    (hm : Checks answers m W) {rest : Code α} (h : Decides answers rest C)
    (a : α) :
    Decides answers (m >>= fun rc => if rc ≠ 0 then pure a else rest)
      (W C) where
  enough := by
    intro s hs
    obtain ⟨rc, s₁, hends, hgo⟩ := hm.enough C s hs
    by_cases hrc : rc ≠ 0
    · refine ⟨a, s₁, hends.bind ?_⟩
      rw [if_pos hrc]
      exact ends_pure a
    · obtain ⟨b, s', hrest⟩ := h.enough s₁ (hgo (not_not.mp hrc))
      refine ⟨b, s', hends.bind ?_⟩
      rw [if_neg hrc]
      exact hrest
  needed := by
    intro n s b s' hret
    obtain ⟨rc, s₁, hfirst, hrest⟩ := returns_bind.mp hret
    apply hm.needed C n s rc s₁ hfirst
    intro hrc
    rw [if_neg (not_not.mpr hrc)] at hrest
    exact h.needed n s₁ b s' hrest

theorem runs_findR1Response (line : Line) {s : Driver} {v : BitVec 8}
    (hbuf : s.spiXferBuf 0 = v) (h : v ≠ 0xff#8) :
    Runs findR1Response line s [.get 0, .get 0] (some (0, v)) s := by
  rw [<- hbuf] at h ⊢
  have hstep : findR1Response = findR1ResponseFrom (1279 + 1) 0 := rfl
  rw [hstep, findR1ResponseFrom]
  apply Runs.bind (runs_get line s 0)
  rw [if_pos (by simpa using h)]
  change Runs _ line s ([Act.get 0] ++ []) _ s
  exact (runs_get line s 0).bind (runs_pure _)

theorem spiDoCommand_eq (cmd : SpiCmd) :
    spiDoCommand cmd =
      (putCommand cmd >>= fun _ => emit (.outw SPI_CONTROL_PORT 0x1#16)) >>=
        fun _ => spiXfer (Sd.spiCommandLen cmd) true := by
  rw [spiDoCommand, bind_assoc]

theorem spiCommandLen_pos (cmd : SpiCmd) : 0 < Sd.spiCommandLen cmd := by
  unfold Sd.spiCommandLen
  omega

theorem prepares_command {cmd : SpiCmd}
    (hfit : Sd.spiCommandLen cmd ≤ bufSize) :
    Prepares (putCommand cmd >>= fun _ =>
      emit (.outw SPI_CONTROL_PORT 0x1#16)) :=
  (prepares_putCommand hfit).bind (prepares_outw _ _)

/-- A command and the search for its response. -/
theorem command_ends {cmd : SpiCmd} (hfit : Sd.spiCommandLen cmd ≤ bufSize)
    {s : Driver} {k : Nat} (hk : Answers answers s.exchanged k) :
    exists s', Ends (lines answers) Act.Internal
        (spiDoCommand cmd >>= fun _ => findR1Response) s
        (some (0, answers k)) s' ∧
      s'.exchanged = k + Sd.spiCommandLen cmd := by
  have hpos := spiCommandLen_pos cmd
  obtain ⟨s', hruns⟩ := prepared_runs (prepares_command hfit) hpos hfit hk
  obtain ⟨log, _, hanswered⟩ := hruns _ (Nat.le_refl _)
  have hbuf := hanswered.buf 0 hpos
  rw [Nat.add_zero] at hbuf
  have hcommand : Ends (lines answers) Act.Internal (spiDoCommand cmd) s ()
      s' := by
    rw [spiDoCommand_eq]
    refine ⟨k - s.exchanged + Sd.spiCommandLen cmd, ?_⟩
    intro n hn
    obtain ⟨log', hrun, hdone⟩ := hruns n hn
    exact ⟨log', hrun, hdone.bounds⟩
  have hfind : Ends (lines answers) Act.Internal findR1Response s'
      (some (0, answers k)) s' := by
    refine Ends.of_runs (fun n =>
      runs_findR1Response (lines answers n) hbuf hk.answer) ?_
    intro e he
    rcases List.mem_pair.mp he with he | he
    · rw [he]
      exact internal_get (by decide)
    · rw [he]
      exact internal_get (by decide)
  exact ⟨s', hcommand.bind hfind, hanswered.exchanged⟩

theorem command_returns {cmd : SpiCmd} (hfit : Sd.spiCommandLen cmd ≤ bufSize)
    {n : Nat} {s s' : Driver} {r : Option (Nat × BitVec 8)}
    (h : Returns (spiDoCommand cmd >>= fun _ => findR1Response)
      (lines answers n) s r s') :
    exists k, Answers answers s.exchanged k ∧ r = some (0, answers k) ∧
      s'.exchanged = k + Sd.spiCommandLen cmd := by
  have hpos := spiCommandLen_pos cmd
  obtain ⟨_, s₁, hfirst, hfind⟩ := returns_bind.mp h
  rw [spiDoCommand_eq] at hfirst
  obtain ⟨k, log, hk, _, _, hanswered⟩ :=
    prepared_returns (prepares_command hfit) hpos hfit hfirst
  have hbuf := hanswered.buf 0 hpos
  rw [Nat.add_zero] at hbuf
  have hresponse := runs_findR1Response (lines answers n) hbuf hk.answer
  obtain ⟨hr, hs⟩ := hresponse.returns.unique hfind
  exact ⟨k, hk, hr.symm, hs ▸ hanswered.exchanged⟩

/-- Commands that look at their response and take no more bytes. -/
theorem checks_command {cmd : SpiCmd} (hfit : Sd.spiCommandLen cmd ≤ bufSize)
    {f : Option (Nat × BitVec 8) -> Code Int}
    (hf : forall v s, exists log s',
      (forall line, Runs (f (some (0, v))) line s log (errorBits v) s') ∧
      (forall e, e ∈ log -> e.Internal) ∧ s'.exchanged = s.exchanged) :
    Checks answers (spiDoCommand cmd >>= fun _ => findR1Response >>= f)
      (Responds answers (Sd.spiCommandLen cmd)) := by
  rw [<- bind_assoc]
  constructor
  · rintro C s ⟨k, hk, hgo⟩
    obtain ⟨s₁, hends, hcount⟩ := command_ends hfit hk
    obtain ⟨log, s', hruns, hbounds, hsame⟩ := hf (answers k) s₁
    refine ⟨errorBits (answers k), s', hends.bind
      (Ends.of_runs (fun n => hruns (lines answers n)) hbounds), ?_⟩
    intro hrc
    rw [hsame, hcount]
    exact hgo.resolve_left (not_not.mpr hrc)
  · intro C n s rc s' hret hgo
    obtain ⟨r, s₁, hfirst, hrest⟩ := returns_bind.mp hret
    obtain ⟨k, hk, hr, hcount⟩ := command_returns hfit hfirst
    obtain ⟨log, s₂, hruns, _, hsame⟩ := hf (answers k) s₁
    rw [hr] at hrest
    obtain ⟨hrc, hs⟩ := hrest.unique (hruns (lines answers n)).returns
    refine ⟨k, hk, ?_⟩
    by_cases herror : errorBits (answers k) = 0
    · have hC := hgo (hrc.trans herror)
      rw [hs, hsame, hcount] at hC
      exact Or.inr hC
    · exact Or.inl herror

theorem checks_sendCommand (answers : Nat -> BitVec 8) (cmd : SpiCmd)
    (hfit : Sd.spiCommandLen cmd ≤ bufSize) :
    Checks answers (sendCommand cmd)
      (Responds answers (Sd.spiCommandLen cmd)) := by
  unfold sendCommand
  apply checks_command hfit
  intro v s
  exact ⟨[], s, fun _ => runs_pure _, fun _ he => (nomatch he), rfl⟩

theorem checks_sdSendReadOcr :
    Checks answers sdSendReadOcr (Responds answers 20) := by
  unfold sdSendReadOcr
  apply checks_command (by decide)
  intro v s
  refine ⟨[.get 4, .get 3, .get 2, .get 1], _, fun _ => rfl, ?_, rfl⟩
  intro e he
  simp only [List.mem_cons, List.not_mem_nil, or_false] at he
  rcases he with he | he | he | he
  all_goals
    rw [he]
    exact internal_get (by decide)

/-!
## Waiting for the card
-/

/-- Within `n` rounds the card reports an error or that it is ready. -/
def ReadyWithin (answers : Nat -> BitVec 8) :
    Nat -> (Nat -> Prop) -> Nat -> Prop
  | 0, _, _ => False
  | n + 1, C, p =>
      Responds answers 16 (fun p => exists k, Answers answers p k ∧
        (errorBits (answers k) ≠ 0 ∨
          if (answers k).getLsbD 0 then ReadyWithin answers n C (k + 16)
          else C (k + 16))) p

def Ready (answers : Nat -> BitVec 8) (C : Nat -> Prop) (p : Nat) : Prop :=
  exists n, ReadyWithin answers n C p

/-- The command that starts the initialisation of the card. -/
def readyCommand : SpiCmd := ⟨0x69#8, 0x40#8, 0x00#8, 0x00#8, 0x00#8, 0#8, 1⟩

/-- What the driver does with the response of one round. -/
def readyRound (again : Code Int) : Option (Nat × BitVec 8) -> Code Int
  | none => pure (-1)
  | some (_, v) =>
      if errorBits v ≠ 0 then pure (errorBits v)
      else if v.getLsbD 0 then again
      else pure 0

theorem sdWaitReadyLoop_succ (fuel : Nat) :
    sdWaitReadyLoop (fuel + 1) =
      sendAcmd >>= fun rc =>
        if rc ≠ 0 then pure rc
        else (spiDoCommand readyCommand >>= fun _ => findR1Response) >>=
          readyRound (sdWaitReadyLoop fuel) := by
  rw [sdWaitReadyLoop, readyCommand]
  congr 1
  funext rc
  rw [bind_assoc]
  rfl

theorem sdWaitReadyLoop_extends (n m : Nat) (h : n ≤ m) :
    Extends (sdWaitReadyLoop n) (sdWaitReadyLoop m) := by
  induction n generalizing m with
  | zero =>
      exact extends_fault _ _
  | succ n ih =>
      obtain ⟨m, rfl⟩ : exists k, m = k + 1 := ⟨m - 1, by omega⟩
      rw [sdWaitReadyLoop_succ, sdWaitReadyLoop_succ]
      refine Extends.bind ?_ _
      intro rc
      split
      · exact Extends.refl _
      · refine Extends.bind ?_ _
        intro r
        cases r with
        | none =>
            exact Extends.refl _
        | some r =>
            unfold readyRound
            dsimp only
            split
            · exact Extends.refl _
            · split
              · exact ih m (by omega)
              · exact Extends.refl _

theorem checks_sendAcmd : Checks answers sendAcmd (Responds answers 16) :=
  checks_sendCommand answers _ (by decide)

theorem sdWaitReadyLoop_ends (n : Nat) (C : Nat -> Prop) (s : Driver)
    (h : ReadyWithin answers n C s.exchanged) :
    exists rc s', Ends (lines answers) Act.Internal (sdWaitReadyLoop n) s rc
        s' ∧ (rc = 0 -> C s'.exchanged) := by
  induction n generalizing s with
  | zero =>
      exact h.elim
  | succ n ih =>
      rw [sdWaitReadyLoop_succ]
      obtain ⟨rc, s₁, hacmd, hgo⟩ := checks_sendAcmd.enough _ s h
      by_cases hrc : rc ≠ 0
      · refine ⟨rc, s₁, hacmd.bind ?_, fun h => absurd h hrc⟩
        rw [if_pos hrc]
        exact ends_pure rc
      · obtain ⟨k, hk, hround⟩ := hgo (not_not.mp hrc)
        obtain ⟨s₂, hcommand, hcount⟩ :=
          command_ends (by decide : Sd.spiCommandLen readyCommand ≤ bufSize) hk
        have hlen : s₂.exchanged = k + 16 := hcount
        have hrest : exists rc s', Ends (lines answers) Act.Internal
            (readyRound (sdWaitReadyLoop n) (some (0, answers k))) s₂ rc s' ∧
              (rc = 0 -> C s'.exchanged) := by
          unfold readyRound
          dsimp only
          by_cases herror : errorBits (answers k) ≠ 0
          · rw [if_pos herror]
            exact ⟨_, s₂, ends_pure _, fun h => absurd h herror⟩
          · rw [if_neg herror]
            have hround := hround.resolve_left herror
            by_cases hbusy : (answers k).getLsbD 0 = true
            · rw [if_pos hbusy] at hround ⊢
              exact ih s₂ (hlen ▸ hround)
            · rw [if_neg hbusy] at hround ⊢
              exact ⟨0, s₂, ends_pure 0, fun _ => hlen ▸ hround⟩
        obtain ⟨rc', s', hends, hC⟩ := hrest
        refine ⟨rc', s', hacmd.bind ?_, hC⟩
        rw [if_neg hrc]
        exact hcommand.bind hends

theorem sdWaitReadyLoop_returns (fuel : Nat) (C : Nat -> Prop) {n : Nat}
    {s s' : Driver} {rc : Int}
    (h : Returns (sdWaitReadyLoop fuel) (lines answers n) s rc s')
    (hgo : rc = 0 -> C s'.exchanged) :
    ReadyWithin answers fuel C s.exchanged := by
  induction fuel generalizing s with
  | zero =>
      exact absurd h not_returns_fault
  | succ fuel ih =>
      rw [sdWaitReadyLoop_succ] at h
      obtain ⟨rc₁, s₁, hacmd, hrest⟩ := returns_bind.mp h
      apply checks_sendAcmd.needed _ n s rc₁ s₁ hacmd
      intro hrc
      rw [if_neg (not_not.mpr hrc)] at hrest
      obtain ⟨r, s₂, hcommand, hround⟩ := returns_bind.mp hrest
      obtain ⟨k, hk, hr, hcount⟩ := command_returns
        (by decide : Sd.spiCommandLen readyCommand ≤ bufSize) hcommand
      have hlen : s₂.exchanged = k + 16 := hcount
      refine ⟨k, hk, ?_⟩
      rw [hr] at hround
      unfold readyRound at hround
      dsimp only at hround
      by_cases herror : errorBits (answers k) ≠ 0
      · exact Or.inl herror
      · rw [if_neg herror] at hround
        refine Or.inr ?_
        by_cases hbusy : (answers k).getLsbD 0 = true
        · rw [if_pos hbusy] at hround ⊢
          rw [<- hlen]
          exact ih hround
        · rw [if_neg hbusy] at hround ⊢
          obtain ⟨hzero, hs⟩ := returns_pure.mp hround
          have hC := hgo hzero
          rw [hs, hlen] at hC
          exact hC

theorem checks_sdWaitReady :
    Checks answers sdWaitReady (Ready answers) where
  enough := by
    rintro C s ⟨m, hm⟩
    obtain ⟨rc, s', ⟨bound, hends⟩, hC⟩ := sdWaitReadyLoop_ends m C s hm
    refine ⟨rc, s', ⟨max bound m, ?_⟩, hC⟩
    intro n hn
    obtain ⟨log, hruns, hbounds⟩ :=
      hends n (Nat.le_trans (Nat.le_max_left bound m) hn)
    refine ⟨log, ?_, hbounds⟩
    have hmore := sdWaitReadyLoop_extends m n
      (Nat.le_trans (Nat.le_max_right bound m) hn) _ _ _ _ hruns.returns
    exact hmore.trans hruns
  needed := by
    intro C n s rc s' hret hgo
    exact ⟨n, sdWaitReadyLoop_returns n C hret hgo⟩

end Checks

/-!
## Initialisation and writes
-/

section Decided

variable {answers : Nat -> BitVec 8}

/-- The card answers every command of the initialisation, and the first that
it refuses ends it. -/
def InitAnswered (answers : Nat -> BitVec 8) (p : Nat) : Prop :=
  Responds answers 16
    (Responds answers 16
      (Responds answers 20
        (Ready answers
          (Responds answers 20
            (Responds answers 16 fun _ => True))))) (p + 16)

theorem decides_sdInit : Decides answers sdInit (InitAnswered answers) := by
  have hclock : sdSendInitialClock =
      (fill 0 8 0xff#8 >>= fun _ => emit (.outw SPI_CONTROL_PORT
        (SPI_CS_DEACTIVATE ||| 0x1ff#16))) >>= fun _ => spiXfer 8 false := by
    rw [sdSendInitialClock, bind_assoc]
  have hflush : sdFlushFifo =
      (fill 0 128 0xff#8 >>= fun _ => emit (.outw SPI_CONTROL_PORT
        0x1ff#16)) >>= fun _ => spiXfer 8 false := by
    rw [sdFlushFifo, bind_assoc]
  have hready := checks_sdSendReadOcr.orElse
    ((checks_sendCommand answers
      ⟨0x50#8, 0x00#8, 0x00#8, 0x02#8, 0x00#8, 0#8, 1⟩ (by decide)).orElse (decides_pure (Except.ok ()))
        (Except.error "Failed to wait for SD card init"))
    (Except.error "Failed to re-read OCR for SD card")
  have hcommands := (checks_sendCommand answers
      ⟨0x40#8, 0#8, 0#8, 0#8, 0#8, 0x95#8, 1⟩ (by decide)).orElse
    ((checks_sendCommand answers
        ⟨0x48#8, 0x00#8, 0x00#8, 0x01#8, 0xaa#8, 0x87#8, 1⟩
        (by decide)).orElse
      (checks_sdSendReadOcr.orElse
        (checks_sdWaitReady.orElse hready
          (Except.error "Failed to wait for SD card init"))
        (Except.error "Failed to read OCR for SD card"))
      (Except.error "Failed to send interface conditions to SD card"))
    (Except.error "Failed to reset SD card")
  unfold sdInit
  rw [hclock, hflush]
  exact Decides.sends
    ((prepares_store 8 0 _ (by decide)).bind (prepares_outw _ _))
    (by decide) (by decide)
    (Decides.sends
      ((prepares_store 128 0 _ (by decide)).bind (prepares_outw _ _))
      (by decide) (by decide) hcommands)

/-- The card lets go of its busy state within `n` answers. -/
def CompletesWithin (answers : Nat -> BitVec 8) : Nat -> Nat -> Prop
  | 0, _ => True
  | n + 1, p => exists k, Answers answers p k ∧
      (answers k ≠ 0#8 ∨ CompletesWithin answers n (k + 1))

theorem decides_waitForWriteCompletion (n : Nat) :
    Decides answers (waitForWriteCompletion n) (CompletesWithin answers n) := by
  induction n with
  | zero =>
      exact decides_pure (-1)
  | succ n ih =>
      have hassoc : waitForWriteCompletion (n + 1) =
          (spiXferBufSet 0 0xff#8 >>= fun _ => spiXfer 1 true) >>= fun _ =>
            spiXferBufGet 0 >>= fun b =>
              if b ≠ 0#8 then pure 0 else waitForWriteCompletion n := by
        rw [waitForWriteCompletion, bind_assoc]
      rw [hassoc]
      exact Decides.transfer (prepares_set (by decide) _) 1 (by decide)
        (by decide) fun b => ih.orElse (b ≠ 0#8) 0

/-- The card answers the request and, unless it refuses it, the block and,
unless it refuses that, as long as it is busy. -/
def WriteAnswered (answers : Nat -> BitVec 8) : Nat -> Prop :=
  Responds answers 16 fun p => exists k, Answers answers p k ∧
    (¬ Sd.writeReceived (answers k) ∨
      CompletesWithin answers 32768 (k + 517))

theorem prepares_putBlock (src : Nat -> BitVec 8) : Prepares (putBlock src) :=
  (prepares_set (by decide) _).bind
    ((prepares_set (by decide) _).bind
      ((prepares_store 512 2 src (by decide)).bind
        ((prepares_set (by decide) _).bind
          ((prepares_set (by decide) _).bind (prepares_set (by decide) _)))))

theorem decides_writeSector (sector : BitVec 32) (src : Nat -> BitVec 8) :
    Decides answers (writeSector sector src) (WriteAnswered answers) := by
  have hwait : Decides answers (waitForWriteCompletion 32768)
      (CompletesWithin answers 32768) := decides_waitForWriteCompletion 32768
  have hblock := Decides.transfer (prepares_putBlock src) (5 + 512) (by decide)
    (by decide) fun packetResponse =>
      hwait.orElse (¬ Sd.writeReceived packetResponse) (-1)
  unfold writeSector
  apply Decides.gets
  intro address
  have hrequest : Checks answers (sdMakeWriteRequest address)
      (Responds answers 16) :=
    checks_sendCommand answers (Sd.addressed 0x58#8 address 1)
      (show 16 ≤ 1280 by decide)
  exact hrequest.orElse hblock (-1)

end Decided

end SdAnswers
end Bios
end S80x86
