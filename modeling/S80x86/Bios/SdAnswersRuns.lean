import S80x86.Bios.SdAnswers
import Mathlib.Tactic.Ring

/-!
# Transfers with any card

A transfer with a response ends just when the card sends a byte that is not
high, and then the buffer begins with the bytes of the card from that one on.
-/

open Foundation

namespace S80x86
namespace Bios
namespace SdAnswers

open Effect

/-!
## Accesses
-/

def Act.InBounds : Act -> Prop
  | .get i => i < bufSize
  | .set i => i < bufSize
  | .keep i _ => i < bufSize
  | .copy i => i < bufSize
  | .outw _ _ => True

/-- The access is inside the buffer and copies nothing out of it. -/
def Act.Internal (e : Act) : Prop :=
  e.InBounds ∧ forall i, e ≠ .copy i

theorem internal_get {i : Nat} (h : i < bufSize) : (Act.get i).Internal :=
  ⟨h, fun _ heq => Act.noConfusion heq⟩

theorem internal_set {i : Nat} (h : i < bufSize) : (Act.set i).Internal :=
  ⟨h, fun _ heq => Act.noConfusion heq⟩

theorem internal_keep {i : Nat} (h : i < bufSize) (n : Nat) :
    (Act.keep i n).Internal :=
  ⟨h, fun _ heq => Act.noConfusion heq⟩

theorem internal_outw (port v : BitVec 16) : (Act.outw port v).Internal :=
  ⟨trivial, fun _ heq => Act.noConfusion heq⟩

/-- The access stores at this offset. -/
def Act.storesAt (i : Nat) : Act -> Bool
  | .set j => decide (j = i)
  | .keep j _ => decide (j = i)
  | _ => false

/-- What is at this offset is the byte `n` of the card. -/
def Kept (log : List Act) (i n : Nat) : Prop :=
  (log.filter (Act.storesAt i)).getLast? = some (.keep i n)

/-- No access stores, and all are inside the buffer. -/
def Quiet (log : List Act) : Prop :=
  forall e, e ∈ log -> e.Internal ∧ forall i, e.storesAt i = false

theorem Quiet.filter {log : List Act} (h : Quiet log) (i : Nat) :
    log.filter (Act.storesAt i) = [] := by
  apply List.filter_eq_nil_iff.mpr
  intro e he
  rw [(h e he).right i]
  exact Bool.false_ne_true

theorem Quiet.nil : Quiet [] := fun _ he => nomatch he

/-!
## Transfers
-/

def Driver.shifted (s : Driver) : Driver :=
  { s with exchanged := s.exchanged + 1 }

def Driver.kept (s : Driver) (offs : Nat) (b : BitVec 8) : Driver :=
  { s with spiXferBuf := Function.update s.spiXferBuf offs b }

theorem runs_get (line : Line) (s : Driver) (offs : Nat) :
    Runs (spiXferBufGet offs) line s [.get offs] (s.spiXferBuf offs) s := rfl

theorem runs_set (line : Line) (s : Driver) (offs : Nat) (v : BitVec 8) :
    Runs (spiXferBufSet offs v) line s [.set offs] () (s.kept offs v) := rfl

theorem runs_shift (line : Line) (s : Driver) (v : BitVec 16) :
    Runs (shift v) line s [.outw SPI_TRANSFER_PORT v] s.exchanged s.shifted :=
  rfl

theorem runs_inb (line : Line) (s : Driver) (n : Nat) :
    Runs (inb n) line s [] (line.answers n) s := rfl

theorem runs_keep (line : Line) (s : Driver) (offs n : Nat) (b : BitVec 8) :
    Runs (keep offs n b) line s [.keep offs n] () (s.kept offs b) := rfl

theorem runs_nextByte (s : Driver) {len : Nat} (hlen : len ≤ bufSize)
    (src : Nat) :
    exists log v, (forall line, Runs (nextByte len src) line s log v s) ∧
      Quiet log := by
  unfold nextByte
  by_cases hsrc : src < len
  · rw [if_pos hsrc]
    refine ⟨[.get src], _, fun _ => rfl, ?_⟩
    intro e he
    rw [List.mem_singleton.mp he]
    exact ⟨internal_get (Nat.lt_of_lt_of_le hsrc hlen), fun _ => rfl⟩
  · rw [if_neg hsrc]
    exact ⟨[], _, fun _ => rfl, Quiet.nil⟩

theorem spiXferLoop_done {len dst : Nat} (h : ¬ dst < len) (wait : Bool)
    (fuel src : Nat) (nonFf : Bool) :
    spiXferLoop len wait fuel src dst nonFf = pure () := by
  unfold spiXferLoop
  rw [if_neg h]

/-- A byte goes out, and what is left to do depends on the one that comes. -/
theorem spiXferLoop_next {len dst : Nat} (hlen : len ≤ bufSize)
    (h : dst < len) (wait : Bool) (src : Nat) (nonFf : Bool)
    (answers : Nat -> BitVec 8) (s : Driver) :
    exists log, Quiet log ∧ forall fuel line, line.answers = answers ->
      spiXferLoop len wait (fuel + 1) src dst nonFf line s =
        next (log, .ok ((), s.shifted)) fun _ s' =>
          (if !wait && nextSrc len src == len then pure ()
          else if !nonFf && answers s.exchanged == 0xff#8 then
            spiXferLoop len wait fuel (nextSrc len src) dst nonFf
          else do
            keep dst s.exchanged (answers s.exchanged)
            spiXferLoop len wait fuel (nextSrc len src) (dst + 1) true)
              line s' := by
  obtain ⟨log, v, hbyte, hquiet⟩ := runs_nextByte s hlen src
  refine ⟨log ++ [.outw SPI_TRANSFER_PORT v], ?_, ?_⟩
  · intro e he
    rcases List.mem_append.mp he with he | he
    · exact hquiet e he
    · rw [List.mem_singleton.mp he]
      exact ⟨internal_outw _ v, fun _ => rfl⟩
  · intro fuel line hline
    rw [spiXferLoop.eq_def]
    simp only [if_pos h]
    rw [(hbyte line).bind_eq, (runs_shift line s v).bind_eq]
    dsimp only
    rw [<- List.append_assoc]
    by_cases hlast : (!wait && nextSrc len src == len) = true
    · simp only [if_pos hlast]
      rfl
    · simp only [if_neg hlast]
      rw [(runs_inb line s.shifted s.exchanged).bind_eq, hline]
      rfl

/-- The first byte from the number `p` on that is not high is number `k`. -/
structure Answers (answers : Nat -> BitVec 8) (p k : Nat) : Prop where
  later : p ≤ k
  answer : answers k ≠ 0xff#8
  silent : forall i, p ≤ i -> i < k -> answers i = 0xff#8

theorem Answers.now {answers : Nat -> BitVec 8} {p : Nat}
    (h : answers p ≠ 0xff#8) : Answers answers p p where
  later := Nat.le_refl p
  answer := h
  silent := fun _ hi hlt => absurd hlt (Nat.not_lt_of_le hi)

theorem Answers.skip {answers : Nat -> BitVec 8} {p k : Nat}
    (hp : answers p = 0xff#8) (h : Answers answers (p + 1) k) :
    Answers answers p k where
  later := Nat.le_of_succ_le h.later
  answer := h.answer
  silent := by
    intro i hi hlt
    by_cases hip : i = p
    · rw [hip]
      exact hp
    · exact h.silent i (by omega) hlt

theorem Answers.tail {answers : Nat -> BitVec 8} {p k : Nat}
    (h : Answers answers p k) (hp : answers p = 0xff#8) :
    Answers answers (p + 1) k where
  later := by
    have hne : p ≠ k := fun heq => h.answer (heq ▸ hp)
    have hle := h.later
    omega
  answer := h.answer
  silent := fun i hi hlt => h.silent i (Nat.le_of_succ_le hi) hlt

theorem Answers.unique {answers : Nat -> BitVec 8} {p k k' : Nat}
    (h : Answers answers p k) (h' : Answers answers p k') : k = k' := by
  rcases Nat.lt_trichotomy k k' with hlt | heq | hgt
  · exact absurd (h'.silent k h.later hlt) h.answer
  · exact heq
  · exact absurd (h.silent k' h'.later hgt) h'.answer

/-- The driver after it has kept the bytes from number `first` on at the
offsets from `d` up to `len`. -/
def Driver.filled (s : Driver) (answers : Nat -> BitVec 8)
    (first d len : Nat) : Driver :=
  { s with
    spiXferBuf := fun i =>
      if d ≤ i ∧ i < len then answers (first + (i - d)) else s.spiXferBuf i
    exchanged := first + (len - d) }

/-- The accesses of such a transfer. -/
structure Receives (log : List Act) (first d len : Nat) : Prop where
  bounds : forall e, e ∈ log -> e.Internal
  stores : forall i, log.filter (Act.storesAt i) =
    if d ≤ i ∧ i < len then [.keep i (first + (i - d))] else []

theorem Receives.quiet_append {log log' : List Act} {first d len : Nat}
    (hquiet : Quiet log) (h : Receives log' first d len) :
    Receives (log ++ log') first d len where
  bounds := by
    intro e he
    rcases List.mem_append.mp he with he | he
    · exact (hquiet e he).left
    · exact h.bounds e he
  stores := by
    intro i
    rw [List.filter_append, hquiet.filter, List.nil_append, h.stores]

theorem Receives.keep_cons {log : List Act} {first d len : Nat}
    (hlen : len ≤ bufSize) (hd : d < len)
    (h : Receives log (first + 1) (d + 1) len) :
    Receives (.keep d first :: log) first d len where
  bounds := by
    intro e he
    rcases List.mem_cons.mp he with he | he
    · rw [he]
      exact internal_keep (Nat.lt_of_lt_of_le hd hlen) first
    · exact h.bounds e he
  stores := by
    intro i
    rw [List.filter_cons, h.stores]
    by_cases hdi : d = i
    · rw [if_pos (by simp [Act.storesAt, hdi]), if_neg (by omega),
        if_pos (by omega)]
      simp [hdi]
    · rw [if_neg (by simp [Act.storesAt, hdi])]
      by_cases hin : d + 1 ≤ i ∧ i < len
      · have hn : first + 1 + (i - (d + 1)) = first + (i - d) := by omega
        rw [if_pos hin, if_pos (by omega), hn]
      · rw [if_neg hin, if_neg (by omega)]

theorem filled_kept {answers : Nat -> BitVec 8} {s : Driver} {d len : Nat}
    (hd : d < len) :
    ((s.shifted.kept d (answers s.exchanged)).filled answers
        (s.exchanged + 1) (d + 1) len) =
      s.filled answers s.exchanged d len := by
  have hbuf : forall i,
      (if d + 1 ≤ i ∧ i < len then
          answers (s.exchanged + 1 + (i - (d + 1)))
        else Function.update s.spiXferBuf d (answers s.exchanged) i) =
      if d ≤ i ∧ i < len then answers (s.exchanged + (i - d))
        else s.spiXferBuf i := by
    intro i
    by_cases hdi : i = d
    · rw [if_neg (by omega), if_pos (by omega), hdi, Function.update_self,
        Nat.sub_self]
      rfl
    · rw [Function.update_of_ne hdi]
      by_cases hin : d + 1 ≤ i ∧ i < len
      · have hn : s.exchanged + 1 + (i - (d + 1)) = s.exchanged + (i - d) := by
          omega
        rw [if_pos hin, if_pos (by omega), hn]
      · rw [if_neg hin, if_neg (by omega)]
  have hcount : s.exchanged + 1 + (len - (d + 1)) =
      s.exchanged + (len - d) := by
    omega
  simp only [Driver.filled, Driver.kept, Driver.shifted, hcount]
  congr 1
  funext i
  exact hbuf i

/-- Once a byte has come that is not high, every byte is kept. -/
theorem spiXferLoop_receives {len : Nat} (hlen : len ≤ bufSize) (line : Line)
    (n fuel src d : Nat) (hn : d + n = len) (hfuel : n ≤ fuel) (s : Driver) :
    exists log, Runs (spiXferLoop len true fuel src d true) line s log ()
        (s.filled line.answers s.exchanged d len) ∧
      Receives log s.exchanged d len := by
  induction n generalizing fuel src d s with
  | zero =>
      rw [spiXferLoop_done (by omega)]
      refine ⟨[], ?_, ?_⟩
      · have hsame : s.filled line.answers s.exchanged d len = s := by
          have hnone : forall i, ¬ (d ≤ i ∧ i < len) := by
            intro i
            omega
          have hcount : s.exchanged + (len - d) = s.exchanged := by omega
          simp only [Driver.filled, if_neg (hnone _), hcount]
        rw [hsame]
        exact runs_pure ()
      · refine ⟨fun _ he => (nomatch he), ?_⟩
        intro i
        rw [if_neg (by omega)]
        rfl
  | succ n ih =>
      obtain ⟨fuel, rfl⟩ : exists f, fuel = f + 1 := ⟨fuel - 1, by omega⟩
      have hd : d < len := by omega
      obtain ⟨log, hquiet, hnext⟩ :=
        spiXferLoop_next hlen hd true src true line.answers s
      obtain ⟨log', hruns, hkeeps⟩ :=
        ih fuel (nextSrc len src) (d + 1) (by omega) (by omega)
          (s.shifted.kept d (line.answers s.exchanged))
      have hkept := hkeeps.keep_cons hlen hd
      refine ⟨log ++ .keep d s.exchanged :: log', ?_,
        Receives.quiet_append hquiet hkept⟩
      have hboth := (runs_keep line s.shifted d s.exchanged
        (line.answers s.exchanged)).bind
          (f := fun _ => spiXferLoop len true fuel (nextSrc len src) (d + 1)
            true) hruns
      unfold Runs at hboth ⊢
      rw [hnext fuel line rfl]
      simp only [Bool.not_true, Bool.false_and, Bool.false_eq_true, if_false]
      unfold next
      dsimp only
      rw [hboth]
      simp only [List.singleton_append]
      rw [show (s.shifted.kept d (line.answers s.exchanged)).exchanged =
        s.exchanged + 1 from rfl, filled_kept hd]

/-- High bytes are dropped until another one comes. -/
theorem spiXferLoop_answered {len : Nat} (hpos : 0 < len)
    (hlen : len ≤ bufSize) (line : Line) (fuel src k : Nat) (s : Driver)
    (hk : Answers line.answers s.exchanged k)
    (hfuel : k - s.exchanged + len ≤ fuel) :
    exists log, Runs (spiXferLoop len true fuel src 0 false) line s log ()
        (s.filled line.answers k 0 len) ∧ Receives log k 0 len := by
  induction fuel generalizing src s with
  | zero =>
      omega
  | succ fuel ih =>
      obtain ⟨log, hquiet, hnext⟩ :=
        spiXferLoop_next hlen hpos true src false line.answers s
      replace hnext := hnext fuel line rfl
      simp only [Bool.not_true, Bool.false_and, Bool.false_eq_true, if_false,
        Bool.not_false, Bool.true_and, beq_iff_eq] at hnext
      by_cases hff : line.answers s.exchanged = 0xff#8
      · have hrest := hk.tail hff
        have hless := hrest.later
        obtain ⟨log', hruns, hkeeps⟩ :=
          ih (nextSrc len src) s.shifted hrest (by
            change k - (s.exchanged + 1) + len ≤ fuel
            omega)
        refine ⟨log ++ log', ?_, hkeeps.quiet_append hquiet⟩
        unfold Runs at hruns ⊢
        rw [hnext]
        simp only [next, if_pos hff, hruns]
        rfl
      · have hnow : k = s.exchanged := hk.unique (Answers.now hff)
        obtain ⟨log', hruns, hkeeps⟩ :=
          spiXferLoop_receives hlen line (len - 1) fuel (nextSrc len src) 1
            (by omega) (by omega)
            (s.shifted.kept 0 (line.answers s.exchanged))
        have hkept := hkeeps.keep_cons hlen hpos
        have hboth := (runs_keep line s.shifted 0 s.exchanged
          (line.answers s.exchanged)).bind
            (f := fun _ => spiXferLoop len true fuel (nextSrc len src) 1 true)
            hruns
        refine ⟨log ++ .keep 0 s.exchanged :: log', ?_, ?_⟩
        · unfold Runs at hboth ⊢
          rw [hnext]
          simp only [next, if_neg hff]
          rw [hboth, hnow]
          simp only [List.singleton_append]
          rw [show (s.shifted.kept 0 (line.answers s.exchanged)).exchanged =
            s.exchanged + 1 from rfl, filled_kept hpos]
        · rw [hnow]
          exact hkept.quiet_append hquiet

theorem spiXferLoop_returns_kept {len : Nat} (hlen : len ≤ bufSize)
    (line : Line) (fuel src d : Nat) (s s' : Driver)
    (h : Returns (spiXferLoop len true fuel src d true) line s () s') :
    len - d ≤ fuel := by
  induction fuel generalizing src d s with
  | zero =>
      by_cases hd : d < len
      · unfold spiXferLoop at h
        rw [if_pos hd] at h
        exact absurd h not_returns_fault
      · omega
  | succ fuel ih =>
      by_cases hd : d < len
      · obtain ⟨log, _, hnext⟩ :=
          spiXferLoop_next hlen hd true src true line.answers s
        unfold Effect.Returns at h
        rw [hnext fuel line rfl] at h
        simp only [Bool.not_true, Bool.false_and, Bool.false_eq_true, if_false,
          next] at h
        obtain ⟨_, s₁, _, hrest⟩ := returns_bind.mp h
        have hless := ih (nextSrc len src) (d + 1) s₁ hrest
        omega
      · omega

/-- A transfer with a response ends only when the card answers. -/
theorem spiXferLoop_returns {len : Nat} (hpos : 0 < len)
    (hlen : len ≤ bufSize) (line : Line) (fuel src : Nat) (s s' : Driver)
    (h : Returns (spiXferLoop len true fuel src 0 false) line s () s') :
    exists k, Answers line.answers s.exchanged k ∧
      k - s.exchanged + len ≤ fuel := by
  induction fuel generalizing src s with
  | zero =>
      unfold spiXferLoop at h
      rw [if_pos hpos] at h
      exact absurd h not_returns_fault
  | succ fuel ih =>
      obtain ⟨log, _, hnext⟩ :=
        spiXferLoop_next hlen hpos true src false line.answers s
      replace hnext := hnext fuel line rfl
      simp only [Bool.not_true, Bool.false_and, Bool.false_eq_true, if_false,
        Bool.not_false, Bool.true_and, beq_iff_eq, next] at hnext
      unfold Effect.Returns at h
      rw [hnext] at h
      by_cases hff : line.answers s.exchanged = 0xff#8
      · simp only [if_pos hff] at h
        obtain ⟨k, hk, hfuel⟩ := ih (nextSrc len src) s.shifted h
        have hlater := hk.later
        refine ⟨k, Answers.skip hff hk, ?_⟩
        change k - (s.exchanged + 1) + len ≤ fuel at hfuel
        omega
      · simp only [if_neg hff] at h
        obtain ⟨_, s₁, _, hrest⟩ := returns_bind.mp h
        have hless := spiXferLoop_returns_kept hlen line fuel _ _ s₁ s' hrest
        exact ⟨s.exchanged, Answers.now hff, by omega⟩

theorem spiXfer_runs {len : Nat} (hpos : 0 < len) (hlen : len ≤ bufSize)
    {line : Line} {s : Driver} {k : Nat}
    (hk : Answers line.answers s.exchanged k)
    (hfuel : k - s.exchanged + len ≤ line.fuel) :
    exists log, Runs (spiXfer len true) line s log ()
        (s.filled line.answers k 0 len) ∧ Receives log k 0 len :=
  spiXferLoop_answered hpos hlen line line.fuel 0 k s hk hfuel

/-- What a transfer with a response leaves, whatever its fuel was. -/
theorem spiXfer_returns {len : Nat} (hpos : 0 < len) (hlen : len ≤ bufSize)
    {line : Line} {s s' : Driver}
    (h : Returns (spiXfer len true) line s () s') :
    exists k, Answers line.answers s.exchanged k ∧
      k - s.exchanged + len ≤ line.fuel ∧
      s' = s.filled line.answers k 0 len := by
  obtain ⟨k, hk, hfuel⟩ :=
    spiXferLoop_returns hpos hlen line line.fuel 0 s s' h
  obtain ⟨log, hruns, _⟩ := spiXfer_runs hpos hlen hk hfuel
  exact ⟨k, hk, hfuel, (h.unique hruns.returns).right⟩

/-- A transfer without a response ends with the last byte that it sends. -/
theorem spiXferLoop_sends {len : Nat} (hlen : len ≤ bufSize)
    (answers : Nat -> BitVec 8) (n src dst : Nat) (nonFf : Bool)
    (hn : src + (n + 1) = len) (hdst : dst ≤ src) (s : Driver) :
    exists s', s'.exchanged = s.exchanged + (n + 1) ∧
      forall fuel line, line.answers = answers -> n + 1 ≤ fuel ->
        exists log,
          Runs (spiXferLoop len false fuel src dst nonFf) line s log () s' ∧
            forall e, e ∈ log -> e.Internal := by
  induction n generalizing src dst nonFf s with
  | zero =>
      obtain ⟨log, hquiet, hnext⟩ :=
        spiXferLoop_next hlen (by omega : dst < len) false src nonFf answers s
      have hsrc : nextSrc len src = len := by
        rw [nextSrc, if_pos (by omega)]
        omega
      refine ⟨s.shifted, rfl, ?_⟩
      intro fuel line hline hfuel
      obtain ⟨fuel, rfl⟩ : exists f, fuel = f + 1 := ⟨fuel - 1, by omega⟩
      refine ⟨log ++ [], ?_, ?_⟩
      · unfold Runs
        rw [hnext fuel line hline, hsrc, if_pos (by simp)]
        rfl
      · intro e he
        rw [List.append_nil] at he
        exact (hquiet e he).left
  | succ n ih =>
      obtain ⟨log, hquiet, hnext⟩ :=
        spiXferLoop_next hlen (by omega : dst < len) false src nonFf answers s
      have hsrc : nextSrc len src = src + 1 := by
        rw [nextSrc, if_pos (by omega)]
      have hmore : ¬ (!false && src + 1 == len) = true := by
        simp
        omega
      by_cases hskip : (!nonFf && answers s.exchanged == 0xff#8) = true
      · obtain ⟨s', hcount, hrest⟩ :=
          ih (src + 1) dst nonFf (by omega) (by omega) s.shifted
        refine ⟨s', ?_, ?_⟩
        · rw [hcount]
          change s.exchanged + 1 + (n + 1) = _
          omega
        · intro fuel line hline hfuel
          obtain ⟨fuel, rfl⟩ : exists f, fuel = f + 1 := ⟨fuel - 1, by omega⟩
          obtain ⟨log', hruns, hbounds⟩ := hrest fuel line hline (by omega)
          refine ⟨log ++ log', ?_, ?_⟩
          · unfold Runs at hruns ⊢
            rw [hnext fuel line hline, hsrc, if_neg hmore]
            simp only [next, if_pos hskip, hruns]
          · intro e he
            rcases List.mem_append.mp he with he | he
            · exact (hquiet e he).left
            · exact hbounds e he
      · obtain ⟨s', hcount, hrest⟩ :=
          ih (src + 1) (dst + 1) true (by omega) (by omega)
            (s.shifted.kept dst (answers s.exchanged))
        refine ⟨s', ?_, ?_⟩
        · rw [hcount]
          change s.exchanged + 1 + (n + 1) = _
          omega
        · intro fuel line hline hfuel
          obtain ⟨fuel, rfl⟩ : exists f, fuel = f + 1 := ⟨fuel - 1, by omega⟩
          obtain ⟨log', hruns, hbounds⟩ := hrest fuel line hline (by omega)
          have hboth := (runs_keep line s.shifted dst s.exchanged
            (answers s.exchanged)).bind
              (f := fun _ =>
                spiXferLoop len false fuel (src + 1) (dst + 1) true) hruns
          refine ⟨log ++ .keep dst s.exchanged :: log', ?_, ?_⟩
          · unfold Runs at hboth ⊢
            rw [hnext fuel line hline, hsrc, if_neg hmore]
            simp only [next, if_neg hskip]
            rw [hboth]
            rfl
          · intro e he
            rcases List.mem_append.mp he with he | he
            · exact (hquiet e he).left
            · rcases List.mem_cons.mp he with he | he
              · rw [he]
                exact internal_keep
                  (Nat.lt_of_lt_of_le (by omega : dst < len) hlen) _
              · exact hbounds e he

theorem spiXferLoop_returns_sent {len : Nat} (hlen : len ≤ bufSize)
    (line : Line) (fuel src dst : Nat) (nonFf : Bool) (s s' : Driver)
    (hdst : dst ≤ src) (hsrc : src < len)
    (h : Returns (spiXferLoop len false fuel src dst nonFf) line s () s') :
    len - src ≤ fuel := by
  have hlt : dst < len := Nat.lt_of_le_of_lt hdst hsrc
  induction fuel generalizing src dst nonFf s with
  | zero =>
      unfold spiXferLoop at h
      rw [if_pos hlt] at h
      exact absurd h not_returns_fault
  | succ fuel ih =>
      by_cases hlast : src + 1 = len
      · omega
      · obtain ⟨log, _, hnext⟩ :=
          spiXferLoop_next hlen hlt false src nonFf line.answers s
        have hmore : ¬ (!false && src + 1 == len) = true := by
          simp
          omega
        unfold Effect.Returns at h
        rw [hnext fuel line rfl, nextSrc, if_pos hsrc, if_neg hmore] at h
        by_cases hskip : (!nonFf && line.answers s.exchanged == 0xff#8) = true
        · simp only [next, if_pos hskip] at h
          have hless := ih (src + 1) dst nonFf s.shifted (by omega) (by omega)
            h (by omega)
          omega
        · simp only [next, if_neg hskip] at h
          obtain ⟨_, s₁, _, hrest⟩ := returns_bind.mp h
          have hless := ih (src + 1) (dst + 1) true s₁ (by omega) (by omega)
            hrest (by omega)
          omega

theorem spiXfer_sends {len : Nat} (hpos : 0 < len) (hlen : len ≤ bufSize)
    (answers : Nat -> BitVec 8) (s : Driver) :
    exists s', s'.exchanged = s.exchanged + len ∧
      forall n, len ≤ n -> exists log,
        Runs (spiXfer len false) ⟨n, answers⟩ s log () s' ∧
          forall e, e ∈ log -> e.Internal := by
  obtain ⟨k, rfl⟩ : exists k, len = k + 1 := ⟨len - 1, by omega⟩
  obtain ⟨s', hcount, hruns⟩ := spiXferLoop_sends hlen answers k 0 0 false
    (by omega) (Nat.le_refl 0) s
  exact ⟨s', hcount, fun n hn => hruns n ⟨n, answers⟩ rfl hn⟩

theorem spiXfer_returns_sent {len : Nat} (hpos : 0 < len)
    (hlen : len ≤ bufSize) {n : Nat} {answers : Nat -> BitVec 8}
    {s s' : Driver} (h : Returns (spiXfer len false) ⟨n, answers⟩ s () s') :
    s'.exchanged = s.exchanged + len := by
  have hfuel := spiXferLoop_returns_sent hlen ⟨n, answers⟩ n 0 0 false s s'
    (Nat.le_refl 0) hpos h
  obtain ⟨s₁, hcount, hruns⟩ := spiXfer_sends hpos hlen answers s
  obtain ⟨log, hrun, _⟩ := hruns n hfuel
  rw [(h.unique hrun.returns).right]
  exact hcount

/-!
## Filling the buffer
-/

/-- The code stores into the buffer and takes nothing from the card. -/
def Prepares (m : Code Unit) : Prop :=
  forall s, exists log s', (forall line, Runs m line s log () s') ∧
    (forall e, e ∈ log -> e.Internal ∧ forall i n, e ≠ .keep i n) ∧
    s'.exchanged = s.exchanged

theorem Prepares.pure : Prepares (pure ()) :=
  fun s => ⟨[], s, fun _ => runs_pure (), fun _ he => (nomatch he), rfl⟩

theorem Prepares.bind {m n : Code Unit} (hm : Prepares m) (hn : Prepares n) :
    Prepares (m >>= fun _ => n) := by
  intro s
  obtain ⟨log, s₁, hruns, hlog, hcount⟩ := hm s
  obtain ⟨log', s₂, hruns', hlog', hcount'⟩ := hn s₁
  refine ⟨log ++ log', s₂, fun line => (hruns line).bind (hruns' line), ?_,
    hcount'.trans hcount⟩
  intro e he
  rcases List.mem_append.mp he with he | he
  · exact hlog e he
  · exact hlog' e he

theorem prepares_set {offs : Nat} (h : offs < bufSize) (v : BitVec 8) :
    Prepares (spiXferBufSet offs v) := by
  intro s
  refine ⟨[.set offs], s.kept offs v, fun line => runs_set line s offs v, ?_,
    rfl⟩
  intro e he
  rw [List.mem_singleton.mp he]
  exact ⟨internal_set h, fun _ _ heq => Act.noConfusion heq⟩

theorem prepares_outw (port v : BitVec 16) :
    Prepares (emit (.outw port v)) := by
  intro s
  refine ⟨[.outw port v], s, fun _ => rfl, ?_, rfl⟩
  intro e he
  rw [List.mem_singleton.mp he]
  exact ⟨internal_outw port v, fun _ _ heq => Act.noConfusion heq⟩

theorem prepares_store (n offs : Nat) (src : Nat -> BitVec 8)
    (h : offs + n ≤ bufSize) : Prepares (store offs n src) := by
  induction n generalizing offs src with
  | zero =>
      exact Prepares.pure
  | succ n ih =>
      exact (prepares_set (by omega) (src 0)).bind
        (ih (offs + 1) (fun i => src (i + 1)) (by omega))

theorem prepares_putCommand {cmd : SpiCmd}
    (h : Sd.spiCommandLen cmd ≤ bufSize) : Prepares (putCommand cmd) := by
  have hlow : forall i, i < 7 -> i < bufSize := by
    intro i hi
    exact Nat.lt_trans hi (by decide)
  have hfill : Prepares (fill 7 (Sd.spiCommandLen cmd - 7) 0xff#8) := by
    apply prepares_store
    have hseven : 7 ≤ Sd.spiCommandLen cmd := by
      unfold Sd.spiCommandLen
      omega
    omega
  unfold putCommand
  exact (prepares_set (hlow 0 (by decide)) _).bind
    ((prepares_set (hlow 1 (by decide)) _).bind
      ((prepares_set (hlow 2 (by decide)) _).bind
        ((prepares_set (hlow 3 (by decide)) _).bind
          ((prepares_set (hlow 4 (by decide)) _).bind
            ((prepares_set (hlow 5 (by decide)) _).bind
              ((prepares_set (hlow 6 (by decide)) _).bind hfill))))))

/-!
## Commands
-/

/-- What is known after a transfer that the card answered with byte `k`. -/
structure Answered (answers : Nat -> BitVec 8) (k len : Nat) (log : List Act)
    (s : Driver) : Prop where
  bounds : forall e, e ∈ log -> e.Internal
  exchanged : s.exchanged = k + len
  buf : forall i, i < len -> s.spiXferBuf i = answers (k + i)
  kept : forall i, i < len -> Kept log i (k + i)
  stale : forall i n, len ≤ i -> ¬ Kept log i n

theorem answered_of_receives {answers : Nat -> BitVec 8} {k len : Nat}
    {before log : List Act} {s : Driver}
    (hbefore : forall e, e ∈ before -> e.Internal ∧ forall i n, e ≠ .keep i n)
    (h : Receives log k 0 len) :
    Answered answers k len (before ++ log) (s.filled answers k 0 len) where
  bounds := by
    intro e he
    rcases List.mem_append.mp he with he | he
    · exact (hbefore e he).left
    · exact h.bounds e he
  exchanged := rfl
  buf := by
    intro i hi
    exact if_pos ⟨Nat.zero_le i, hi⟩
  kept := by
    intro i hi
    rw [Kept, List.filter_append, h.stores, if_pos ⟨Nat.zero_le i, hi⟩]
    exact List.getLast?_concat
  stale := by
    intro i n hi hkept
    have hlast := List.mem_of_getLast? hkept
    rw [List.filter_append, h.stores, if_neg (by omega), List.append_nil]
      at hlast
    exact (hbefore _ (List.mem_filter.mp hlast).left).right i n rfl

section Prepared

variable {m : Code Unit} {len : Nat} {answers : Nat -> BitVec 8} {s : Driver}

theorem prepared_runs (hm : Prepares m) (hpos : 0 < len)
    (hlen : len ≤ bufSize) {k : Nat} (hk : Answers answers s.exchanged k) :
    exists s', forall n, k - s.exchanged + len ≤ n -> exists log,
      Runs (m >>= fun _ => spiXfer len true) ⟨n, answers⟩ s log () s' ∧
        Answered answers k len log s' := by
  obtain ⟨before, s₁, hbefore, hquiet, hcount⟩ := hm s
  rw [<- hcount] at hk
  refine ⟨s₁.filled answers k 0 len, ?_⟩
  intro n hn
  rw [<- hcount] at hn
  have htransfer : exists log, Runs (spiXfer len true) ⟨n, answers⟩ s₁ log ()
      (s₁.filled answers k 0 len) ∧ Receives log k 0 len :=
    spiXfer_runs hpos hlen hk hn
  obtain ⟨log, hruns, hreceives⟩ := htransfer
  exact ⟨before ++ log, (hbefore ⟨n, answers⟩).bind hruns,
    answered_of_receives hquiet hreceives⟩

theorem prepared_returns (hm : Prepares m) (hpos : 0 < len)
    (hlen : len ≤ bufSize) {n : Nat} {s' : Driver}
    (h : Returns (m >>= fun _ => spiXfer len true) ⟨n, answers⟩ s () s') :
    exists k log, Answers answers s.exchanged k ∧
      k - s.exchanged + len ≤ n ∧
      Runs (m >>= fun _ => spiXfer len true) ⟨n, answers⟩ s log () s' ∧
      Answered answers k len log s' := by
  obtain ⟨before, s₁, hbefore, _, hcount⟩ := hm s
  obtain ⟨_, s₂, hfirst, hrest⟩ := returns_bind.mp h
  rw [(hfirst.unique (hbefore ⟨n, answers⟩).returns).right] at hrest
  obtain ⟨k, hk, hfuel, _⟩ := spiXfer_returns hpos hlen hrest
  rw [hcount] at hk hfuel
  obtain ⟨s₃, hruns⟩ := prepared_runs hm hpos hlen hk
  obtain ⟨log, hrun, hanswered⟩ := hruns n hfuel
  have hsame := (h.unique hrun.returns).right
  rw [<- hsame] at hrun hanswered
  exact ⟨k, log, hk, hfuel, hrun, hanswered⟩

end Prepared

end SdAnswers
end Bios
end S80x86
