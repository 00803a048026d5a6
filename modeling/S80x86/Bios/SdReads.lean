import S80x86.Bios.SdRobust

/-!
# Reads from any card

The search for the data start token runs over the whole transfer buffer, of
which a read has received 1043 bytes, and reads one byte more before it gives
up.
-/

open Foundation

namespace S80x86
namespace Bios
namespace SdAnswers

open Effect

/-!
## The search
-/

/-- The search stops at the first token, or behind the end of the buffer. -/
structure TokenAt (s : Driver) (offs t : Nat) : Prop where
  first : offs ≤ t
  last : t ≤ bufSize
  token : t < bufSize -> s.spiXferBuf t = DATA_START_TOKEN
  before : forall i, offs ≤ i -> i < t -> s.spiXferBuf i ≠ DATA_START_TOKEN

theorem findDataStartFrom_runs (s : Driver) (n offs : Nat)
    (hn : offs + n = bufSize) :
    exists t log, TokenAt s offs t ∧
      (forall line, Runs (findDataStartFrom offs) line s log t s) ∧
      (forall e, e ∈ log -> exists i, e = .get i ∧ i ≤ t) ∧ .get t ∈ log := by
  induction n generalizing offs with
  | zero =>
      refine ⟨offs, [.get offs], ⟨Nat.le_refl _, by omega, by omega, by omega⟩,
        ?_, ?_, List.mem_singleton.mpr rfl⟩
      · intro line
        rw [findDataStartFrom]
        change Runs _ line s ([Act.get offs] ++ []) offs s
        refine (runs_get line s offs).bind ?_
        rw [dif_neg (fun h => absurd h.right (by omega))]
        exact runs_pure offs
      · intro e he
        exact ⟨offs, List.mem_singleton.mp he, Nat.le_refl offs⟩
  | succ n ih =>
      by_cases htoken : s.spiXferBuf offs = DATA_START_TOKEN
      · refine ⟨offs, [.get offs],
          ⟨Nat.le_refl _, by omega, fun _ => htoken, by omega⟩,
          ?_, ?_, List.mem_singleton.mpr rfl⟩
        · intro line
          rw [findDataStartFrom]
          change Runs _ line s ([Act.get offs] ++ []) offs s
          refine (runs_get line s offs).bind ?_
          rw [dif_neg (fun h => h.left htoken)]
          exact runs_pure offs
        · intro e he
          exact ⟨offs, List.mem_singleton.mp he, Nat.le_refl offs⟩
      · obtain ⟨t, log, hat, hruns, hgets, hlast⟩ := ih (offs + 1) (by omega)
        have hfirst := hat.first
        refine ⟨t, .get offs :: log,
          ⟨by omega, hat.last, hat.token, ?_⟩, ?_, ?_,
          List.mem_cons_of_mem _ hlast⟩
        · intro i hi hlt
          by_cases heq : i = offs
          · rw [heq]
            exact htoken
          · exact hat.before i (by omega) hlt
        · intro line
          rw [findDataStartFrom]
          refine (runs_get line s offs).bind ?_
          rw [dif_pos ⟨htoken, by omega⟩]
          exact hruns line
        · intro e he
          rcases List.mem_cons.mp he with he | he
          · exact ⟨offs, he, by omega⟩
          · exact hgets e he

/-!
## The copy
-/

/-- The data came from the card in this run, behind a data start token. -/
def FromCard (answers : Nat -> BitVec 8) (log : List Act)
    (dst : Nat -> BitVec 8) : Prop :=
  exists t n, Kept log t n ∧ answers n = DATA_START_TOKEN ∧
    (forall i, .copy i ∈ log -> t < i ∧ Kept log i (n + (i - t))) ∧
    forall j, j < BLOCK_SIZE -> dst j = answers (n + 1 + j)

theorem kept_append {log rest : List Act}
    (h : forall e, e ∈ rest -> forall i, e.storesAt i = false) (i n : Nat) :
    Kept (log ++ rest) i n ↔ Kept log i n := by
  have hnone : rest.filter (Act.storesAt i) = [] := by
    apply List.filter_eq_nil_iff.mpr
    intro e he
    rw [h e he i]
    exact Bool.false_ne_true
  rw [Kept, Kept, List.filter_append, hnone, List.append_nil]

/-- What a read does behind a response without an error. -/
structure Delivers (t : Nat) (dst : Nat -> BitVec 8) (s : Driver)
    (log : List Act) (r : Int × (Nat -> BitVec 8)) : Prop where
  token : TokenAt s 1 t
  loads : forall e, e ∈ log -> forall i, e.storesAt i = false
  missing : t = bufSize -> .get bufSize ∈ log
  accesses : t < bufSize -> forall e, e ∈ log ->
    (exists i, e = .get i ∧ i < bufSize) ∨
      exists j, j < BLOCK_SIZE ∧ e = .copy (t + 1 + j)
  copies : t < bufSize -> forall j, j < BLOCK_SIZE ->
    .copy (t + 1 + j) ∈ log
  result : t < bufSize -> r =
    (0, fun j => if j < BLOCK_SIZE then s.spiXferBuf (t + 1 + j) else dst j)

theorem delivers_runs (s : Driver) (dst : Nat -> BitVec 8) :
    exists t log r, Delivers t dst s log r ∧
      forall line, Runs (findDataStart 0 >>= copyFound dst) line s log r s := by
  obtain ⟨t, log, hat, hruns, hgets, hlast⟩ :=
    findDataStartFrom_runs s 1279 1 rfl
  have hloads : forall e, e ∈ log -> forall i, e.storesAt i = false := by
    intro e he i
    obtain ⟨j, hj, _⟩ := hgets e he
    rw [hj]
    rfl
  by_cases hmissing : t = bufSize
  · have hfind : forall line, Runs (findDataStart 0) line s (log ++ []) none
        s := by
      intro line
      refine (hruns line).bind ?_
      rw [if_pos hmissing]
      exact runs_pure none
    rw [List.append_nil] at hfind
    refine ⟨t, log ++ [], (-1, dst), ?_, fun line =>
      (hfind line).bind (runs_pure _)⟩
    rw [List.append_nil]
    exact ⟨hat, hloads, fun _ => hmissing ▸ hlast, by omega, by omega,
      by omega⟩
  · have hfind : forall line, Runs (findDataStart 0) line s (log ++ [])
        (some (t + 1)) s := by
      intro line
      refine (hruns line).bind ?_
      rw [if_neg hmissing]
      exact runs_pure (some (t + 1))
    rw [List.append_nil] at hfind
    have hcopy : forall line, Runs (copyFound dst (some (t + 1))) line s
        ((List.range BLOCK_SIZE).map fun j => Act.copy (t + 1 + j))
        (0, fun j => if j < BLOCK_SIZE then s.spiXferBuf (t + 1 + j)
          else dst j) s := by
      intro line
      change (copySector (t + 1) dst >>= fun dst => pure (0, dst)) line s = _
      rw [bind_run]
      simp [copySector, next, pure_run]
    refine ⟨t, _, _, ?_, fun line => (hfind line).bind (hcopy line)⟩
    refine ⟨hat, ?_, fun h => absurd h hmissing, ?_, ?_, fun _ => rfl⟩
    · intro e he i
      rcases List.mem_append.mp he with he | he
      · exact hloads e he i
      · obtain ⟨j, _, hj⟩ := List.mem_map.mp he
        rw [<- hj]
        rfl
    · intro hless e he
      rcases List.mem_append.mp he with he | he
      · obtain ⟨i, hi, hle⟩ := hgets e he
        exact Or.inl ⟨i, hi, Nat.lt_of_le_of_lt hle hless⟩
      · obtain ⟨j, hj, hej⟩ := List.mem_map.mp he
        exact Or.inr ⟨j, List.mem_range.mp hj, hej.symm⟩
    · intro _ j hj
      exact List.mem_append_right _
        (List.mem_map.mpr ⟨j, List.mem_range.mpr hj, rfl⟩)

/-!
## Reads
-/

section Reads

variable {answers : Nat -> BitVec 8} {k n : Nat} {s : Driver}
variable {sector : BitVec 32} {dst : Nat -> BitVec 8}

theorem readSector_eq :
    readSector sector dst = sectorAddress sector >>= fun address =>
      (spiDoCommand (readCommand address) >>= fun _ => findR1Response) >>=
        readResponse dst := by
  change (sectorAddress sector >>= fun address =>
    spiDoCommand (readCommand address) >>= fun _ =>
      findR1Response >>= readResponse dst) = _
  simp only [bind_assoc]

theorem readResponse_some (dst : Nat -> BitVec 8) (v : BitVec 8) :
    readResponse dst (some (0, v)) =
      if errorBits v ≠ 0 then pure (-1, dst)
      else findDataStart 0 >>= copyFound dst := rfl

theorem readCommand_len (address : BitVec 32) :
    Sd.spiCommandLen (readCommand address) = 1043 := by
  simp only [Sd.spiCommandLen, readCommand, Sd.addressed, BLOCK_SIZE,
    MAX_DATA_START_OFFS, SD_NCR]

theorem readCommand_fits (address : BitVec 32) :
    Sd.spiCommandLen (readCommand address) ≤ bufSize := by
  rw [readCommand_len]
  decide

/-- A read gets as far as its response, and then it depends on the card. -/
theorem readSector_responds (sector : BitVec 32) (dst : Nat -> BitVec 8)
    (hk : Answers answers s.exchanged k) (hn : k - s.exchanged + 1043 ≤ n) :
    exists log s', Answered answers k 1043 log s' ∧
      forall log' r s'',
        Runs (readResponse dst (some (0, answers k))) (lines answers n) s'
          log' r s'' ->
        Runs (readSector sector dst) (lines answers n) s
          (log ++ [.get 0, .get 0] ++ log') r s'' := by
  have haddress : exists address,
      Runs (sectorAddress sector) (lines answers n) s [] address s :=
    ⟨_, rfl⟩
  obtain ⟨address, haddress⟩ := haddress
  have hfit := readCommand_fits address
  obtain ⟨s', hruns⟩ := prepared_runs (prepares_command hfit)
    (spiCommandLen_pos _) hfit hk
  obtain ⟨log, hrun, hanswered⟩ := hruns n hn
  rw [<- spiDoCommand_eq] at hrun
  have hbuf := hanswered.buf 0 (spiCommandLen_pos _)
  rw [Nat.add_zero] at hbuf
  have hfind := runs_findR1Response (lines answers n) hbuf hk.answer
  refine ⟨log, s', hanswered, ?_⟩
  intro log' r s'' hrest
  rw [readSector_eq]
  exact haddress.bind ((hrun.bind hfind).bind hrest)

theorem readSector_answers {r : Int × (Nat -> BitVec 8)} {s' : Driver}
    (h : Returns (readSector sector dst) (lines answers n) s r s') :
    exists k, Answers answers s.exchanged k ∧
      k - s.exchanged + 1043 ≤ n := by
  rw [readSector_eq] at h
  obtain ⟨address, s₁, haddress, hrest⟩ := returns_bind.mp h
  obtain ⟨_, s₂, hcommand, _⟩ := returns_bind.mp hrest
  obtain ⟨_, s₃, hdone, _⟩ := returns_bind.mp hcommand
  have hfit := readCommand_fits address
  rw [spiDoCommand_eq] at hdone
  obtain ⟨k, log, hk, hfuel, _⟩ := prepared_returns (prepares_command hfit)
    (spiCommandLen_pos _) hfit hdone
  rw [(returns_gets.mp haddress).right] at hk hfuel
  exact ⟨k, hk, hfuel⟩

/-- The card answers a read with an error or sends the data start token soon
enough for the whole sector to fit into the transfer. -/
def ReadAnswered (answers : Nat -> BitVec 8) (p : Nat) : Prop :=
  exists k, Answers answers p k ∧ (errorBits (answers k) ≠ 0 ∨
    exists t, 1 ≤ t ∧ t ≤ 530 ∧ answers (k + t) = DATA_START_TOKEN)

/-- The read returns, stays inside the buffer and delivers, if it returns zero,
what the card has sent. -/
def ReadRobust (answers : Nat -> BitVec 8) (s : Driver) (sector : BitVec 32)
    (dst : Nat -> BitVec 8) : Prop :=
  exists n log rc dst' s',
    Runs (readSector sector dst) (lines answers n) s log (rc, dst') s' ∧
      (forall e, e ∈ log -> e.InBounds) ∧
      (rc = 0 -> FromCard answers log dst')

/-- What is at an offset is not changed by what follows the transfer. -/
theorem kept_read_iff {log log' : List Act}
    (hloads : forall e, e ∈ log' -> forall i, e.storesAt i = false)
    (i n : Nat) :
    Kept (log ++ [.get 0, .get 0] ++ log') i n ↔ Kept log i n := by
  rw [kept_append hloads]
  apply kept_append
  intro e he j
  rcases List.mem_pair.mp he with he | he
  · rw [he]
    rfl
  · rw [he]
    rfl

/-- All copies of a read are those behind the token. -/
theorem copies_of_read {t i : Nat} {s' : Driver} {log log' : List Act}
    {r : Int × (Nat -> BitVec 8)} (hanswered : Answered answers k 1043 log s')
    (h : Delivers t dst s' log' r) (ht : t < bufSize)
    (hi : .copy i ∈ log ++ [.get 0, .get 0] ++ log') :
    exists j, j < BLOCK_SIZE ∧ i = t + 1 + j := by
  rcases List.mem_append.mp hi with hi | hi
  · rcases List.mem_append.mp hi with hi | hi
    · exact absurd rfl ((hanswered.bounds _ hi).right i)
    · rcases List.mem_pair.mp hi with hi | hi
      · exact Act.noConfusion hi
      · exact Act.noConfusion hi
  · rcases h.accesses ht _ hi with ⟨j, hj, _⟩ | ⟨j, hj, hcopy⟩
    · exact Act.noConfusion hj
    · exact ⟨j, hj, Act.copy.inj hcopy⟩

theorem delivers_fromCard {t : Nat} {s' : Driver} {log log' : List Act}
    {dst' : Nat -> BitVec 8} {rc : Int}
    (hanswered : Answered answers k 1043 log s')
    (h : Delivers t dst s' log' (rc, dst')) (ht : t ≤ 530) :
    (forall e, e ∈ log ++ [.get 0, .get 0] ++ log' -> e.InBounds) ∧
      FromCard answers (log ++ [.get 0, .get 0] ++ log') dst' := by
  have hsize : BLOCK_SIZE = 512 := rfl
  have hbuf : bufSize = 1280 := rfl
  have hless : t < bufSize := by omega
  have hfirst := h.token.first
  constructor
  · intro e he
    rcases List.mem_append.mp he with he | he
    · rcases List.mem_append.mp he with he | he
      · exact (hanswered.bounds e he).left
      · rcases List.mem_pair.mp he with he | he
        · rw [he]
          exact (by decide : 0 < bufSize)
        · rw [he]
          exact (by decide : 0 < bufSize)
    · rcases h.accesses hless e he with ⟨i, hi, hin⟩ | ⟨j, hj, hcopy⟩
      · rw [hi]
        exact hin
      · rw [hcopy]
        show t + 1 + j < bufSize
        omega
  · refine ⟨t, k + t, ?_, ?_, ?_, ?_⟩
    · exact (kept_read_iff h.loads t _).mpr (hanswered.kept t (by omega))
    · rw [<- hanswered.buf t (by omega)]
      exact h.token.token hless
    · intro i hi
      obtain ⟨j, hj, hij⟩ := copies_of_read hanswered h hless hi
      have hn : k + t + (i - t) = k + i := by omega
      refine ⟨by omega, ?_⟩
      rw [hn]
      exact (kept_read_iff h.loads i _).mpr (hanswered.kept i (by omega))
    · intro j hj
      have hdst := congrArg Prod.snd (h.result hless)
      dsimp only at hdst
      have hn : k + (t + 1 + j) = k + t + 1 + j := by omega
      rw [hdst]
      dsimp only
      rw [if_pos hj, hanswered.buf _ (by omega), hn]

/-- A token that comes too late leads out of the buffer or to old bytes. -/
theorem delivers_late {t : Nat} {s' : Driver} {log log' : List Act}
    {dst' : Nat -> BitVec 8} {rc : Int}
    (hanswered : Answered answers k 1043 log s')
    (h : Delivers t dst s' log' (rc, dst'))
    (hbounds : forall e, e ∈ log ++ [.get 0, .get 0] ++ log' -> e.InBounds)
    (hfrom : rc = 0 ->
      FromCard answers (log ++ [.get 0, .get 0] ++ log') dst') :
    t ≤ 530 := by
  have hsize : BLOCK_SIZE = 512 := rfl
  have hless : t < bufSize := by
    have hle := h.token.last
    by_cases hmissing : t = bufSize
    · have hout := hbounds _ (List.mem_append_right _ (h.missing hmissing))
      exact absurd hout (Nat.lt_irrefl bufSize)
    · omega
  have hzero : rc = 0 := congrArg Prod.fst (h.result hless)
  obtain ⟨t', n, _, _, hcopies, _⟩ := hfrom hzero
  have hlast := (hcopies (t + 1 + 511) (List.mem_append_right _
    (h.copies hless 511 (by omega)))).right
  rw [kept_read_iff h.loads] at hlast
  by_contra hlate
  exact hanswered.stale _ _ (by omega) hlast

theorem readRobust_iff (s : Driver) (sector : BitVec 32)
    (dst : Nat -> BitVec 8) :
    ReadRobust answers s sector dst ↔ ReadAnswered answers s.exchanged := by
  constructor
  · rintro ⟨n, log, rc, dst', s', hruns, hbounds, hfrom⟩
    obtain ⟨k, hk, hfuel⟩ := readSector_answers hruns.returns
    refine ⟨k, hk, ?_⟩
    by_cases herror : errorBits (answers k) ≠ 0
    · exact Or.inl herror
    · obtain ⟨first, s₁, hanswered, hrest⟩ :=
        readSector_responds sector dst hk hfuel
      obtain ⟨t, log', r, hdelivers, hdone⟩ := delivers_runs s₁ dst
      have hresponse : Runs (readResponse dst (some (0, answers k)))
          (lines answers n) s₁ log' r s₁ := by
        rw [readResponse_some]
        rw [if_neg herror]
        exact hdone (lines answers n)
      obtain ⟨hlog, hr, _⟩ := (hrest log' r s₁ hresponse).unique hruns
      rw [<- hlog] at hbounds hfrom
      rw [hr] at hdelivers
      have ht := delivers_late hanswered hdelivers hbounds hfrom
      refine Or.inr ⟨t, hdelivers.token.first, ht, ?_⟩
      rw [<- hanswered.buf t (by omega)]
      exact hdelivers.token.token (Nat.lt_of_le_of_lt ht (by decide))
  · rintro ⟨k, hk, hcard⟩
    obtain ⟨first, s₁, hanswered, hrest⟩ :=
      readSector_responds sector dst hk (Nat.le_refl _)
    by_cases herror : errorBits (answers k) ≠ 0
    · have hresponse : Runs (readResponse dst (some (0, answers k)))
          (lines answers (k - s.exchanged + 1043)) s₁ [] (-1, dst) s₁ := by
        rw [readResponse_some]
        rw [if_pos herror]
        exact runs_pure _
      refine ⟨_, _, -1, dst, s₁, hrest _ _ _ hresponse, ?_,
        fun h => absurd h (by decide)⟩
      intro e he
      rw [List.append_nil] at he
      rcases List.mem_append.mp he with he | he
      · exact (hanswered.bounds e he).left
      · rcases List.mem_pair.mp he with he | he
        · rw [he]
          exact (by decide : 0 < bufSize)
        · rw [he]
          exact (by decide : 0 < bufSize)
    · obtain ⟨t, log', ⟨rc, dst'⟩, hdelivers, hdone⟩ := delivers_runs s₁ dst
      have hresponse : Runs (readResponse dst (some (0, answers k)))
          (lines answers (k - s.exchanged + 1043)) s₁ log' (rc, dst') s₁ := by
        rw [readResponse_some]
        rw [if_neg herror]
        exact hdone _
      obtain ⟨t', hfirst, hsoon, htoken⟩ := hcard.resolve_left herror
      -- The first token is no later than the one that is promised.
      have ht : t ≤ 530 := by
        by_contra hlate
        apply hdelivers.token.before t' hfirst (by omega)
        rw [hanswered.buf t' (by omega)]
        exact htoken
      obtain ⟨hbounds, hfrom⟩ := delivers_fromCard hanswered hdelivers ht
      exact ⟨_, _, rc, dst', s₁, hrest _ _ _ hresponse, hbounds,
        fun _ => hfrom⟩

end Reads

/-!
## The driver
-/

inductive Call where
  | readSector (sector : BitVec 32) (dst : Nat -> BitVec 8)
  | writeSector (sector : BitVec 32) (src : Nat -> BitVec 8)
  | sdInit

/-- With enough fuel the code returns, and all its accesses are in bounds. -/
def Returned {α : Type} (answers : Nat -> BitVec 8) (s : Driver)
    (m : Code α) : Prop :=
  exists n log a s', Runs m (lines answers n) s log a s' ∧
    forall e, e ∈ log -> e.InBounds

/-- The call returns and stays inside the buffer; a read that returns zero
has delivered what the card has sent. -/
def Robust (answers : Nat -> BitVec 8) (s : Driver) : Call -> Prop
  | .readSector sector dst => ReadRobust answers s sector dst
  | .writeSector sector src => Returned answers s (writeSector sector src)
  | .sdInit => Returned answers s sdInit

/-- The card answers whatever the call waits for. -/
def AnsweredBy (answers : Nat -> BitVec 8) (p : Nat) : Call -> Prop
  | .readSector _ _ => ReadAnswered answers p
  | .writeSector _ _ => WriteAnswered answers p
  | .sdInit => InitAnswered answers p

theorem Decides.returned_iff {α : Type} {answers : Nat -> BitVec 8}
    {m : Code α} {C : Nat -> Prop} (h : Decides answers m C) (s : Driver) :
    Returned answers s m ↔ C s.exchanged := by
  constructor
  · rintro ⟨n, log, a, s', hruns, _⟩
    exact h.needed n s a s' hruns.returns
  · intro hC
    obtain ⟨a, s', hends⟩ := h.enough s hC
    obtain ⟨n, log, hruns, hinternal⟩ := hends.exists_runs
    exact ⟨n, log, a, s', hruns, fun e he => (hinternal e he).left⟩

/-- The driver is robust just against the cards that answer in time. -/
theorem robust_iff_answered (answers : Nat -> BitVec 8) (s : Driver)
    (call : Call) :
    Robust answers s call ↔ AnsweredBy answers s.exchanged call := by
  cases call with
  | readSector sector dst =>
      exact readRobust_iff s sector dst
  | writeSector sector src =>
      exact (decides_writeSector sector src).returned_iff s
  | sdInit =>
      exact decides_sdInit.returned_iff s

/-- Before anything has gone over the line. -/
def boot : Driver where
  spiXferBuf := fun _ => 0#8
  sdIsSdhc := false
  exchanged := 0

/-- Nothing ends without a card, and a card that sends only zeros is read out
of the buffer. -/
theorem not_robust_silent_or_zero :
    (¬ Robust (fun _ => 0xff#8) boot (.readSector 0#32 fun _ => 0#8)) ∧
      (¬ Robust (fun _ => 0xff#8) boot (.writeSector 0#32 fun _ => 0#8)) ∧
      (¬ Robust (fun _ => 0xff#8) boot .sdInit) ∧
      ¬ Robust (fun _ => 0#8) boot (.readSector 0#32 fun _ => 0#8) := by
  refine ⟨?_, ?_, ?_, ?_⟩
  · intro h
    obtain ⟨k, hk, _⟩ := (readRobust_iff boot _ _).mp h
    exact hk.answer rfl
  · intro h
    obtain ⟨k, hk, _⟩ := ((decides_writeSector _ _).returned_iff boot).mp h
    exact hk.answer rfl
  · intro h
    obtain ⟨k, hk, _⟩ := (decides_sdInit.returned_iff boot).mp h
    exact hk.answer rfl
  · intro h
    obtain ⟨k, _, herror | ⟨t, _, _, htoken⟩⟩ :=
      (readRobust_iff boot _ _).mp h
    · have hzero : errorBits 0#8 = 0 := by decide
      exact herror hzero
    · have hne : 0#8 ≠ DATA_START_TOKEN := by decide
      exact hne htoken

end SdAnswers
end Bios
end S80x86
