import Mathlib.Data.List.Basic
import S80x86.Foundation.Fuel
import S80x86.Sim.SpiProtocol
import S80x86.Bios.SdDriver

/-!
# Transfers of the SD driver

A transfer with a response skips the high answers and then keeps as many as it
has sent. What it sends is never disturbed by what it keeps.
-/

namespace S80x86
namespace Bios
namespace Sd

open Sim
open Foundation

/-- The byte of a transfer at a position; high bytes follow the buffer. -/
def sentByte (len : Nat) (buf : Nat -> BitVec 8) (i : Nat) : BitVec 8 :=
  if i < len then buf i else 0xff#8

/-- The bytes of a transfer from a position on. -/
def sent (len : Nat) (buf : Nat -> BitVec 8) (i n : Nat) : List (BitVec 8) :=
  (List.range' i n).map (sentByte len buf)

theorem sent_succ (len : Nat) (buf : Nat -> BitVec 8) (i n : Nat) :
    sent len buf i (n + 1) = sentByte len buf i :: sent len buf (i + 1) n := by
  simp [sent, List.range'_succ]

theorem sent_congr {len : Nat} {buf buf' : Nat -> BitVec 8} {i : Nat}
    (h : forall j, i <= j -> buf j = buf' j) (n : Nat) :
    sent len buf i n = sent len buf' i n := by
  apply List.map_congr_left
  intro j hj
  rw [List.mem_range'_1] at hj
  simp only [sentByte, h j hj.1]

theorem spiXferLoop_done {len fuel src dst : Nat} {wait nonFf : Bool} {s : Sd}
    (h : len <= dst) : spiXferLoop len wait fuel src dst nonFf s = some s := by
  unfold spiXferLoop
  rw [if_neg (by omega)]

/-- One byte sent and one received. -/
theorem spiXferLoop_next (len fuel i : Nat) {dst : Nat} (wait nonFf : Bool)
    (s : Sd) (h : dst < len) :
    spiXferLoop len wait (fuel + 1) (min len i) dst nonFf s =
      let c := s.card.transfer (sentByte len s.spiXferBuf i)
      if !wait && min len (i + 1) == len then some { s with card := c }
      else if !nonFf && c.rxVal == 0xff#8 then
        spiXferLoop len wait fuel (min len (i + 1)) dst nonFf
          { s with card := c }
      else
        spiXferLoop len wait fuel (min len (i + 1)) (dst + 1) true
          (spiXferBufSet dst c.rxVal { s with card := c }) := by
  have hsrc :
      (if min len i < len then min len i + 1 else min len i) =
        min len (i + 1) := by
    split <;> omega
  have hbyte :
      (if min len i < len then (s.spiXferBufGet (min len i)).signExtend 16
        else 0x00ff#16).setWidth 8 = sentByte len s.spiXferBuf i := by
    by_cases hi : i < len
    · rw [Nat.min_eq_right (by omega), if_pos hi, sentByte, if_pos hi]
      ext j hj
      have hj' : j < 16 := by omega
      simp [spiXferBufGet, BitVec.getElem_signExtend, hj, hj']
    · rw [Nat.min_eq_left (by omega), if_neg (by omega), sentByte, if_neg hi]
      rfl
  rw [spiXferLoop.eq_def]
  simp only [if_pos h, hsrc, outw, inw, SPI_TRANSFER_PORT, SPI.write16_transfer,
    SPI.read16_transfer, hbyte]
  rw [if_neg (by simp)]
  simp only [BitVec.setWidth_setWidth_of_le, BitVec.setWidth_eq, Nat.reduceLeDiff]

/-- More fuel gives the same transfer. -/
theorem spiXferLoop_settles (len : Nat) (wait : Bool) (fuel i dst : Nat)
    (nonFf : Bool) (s r : Sd)
    (h : spiXferLoop len wait fuel (min len i) dst nonFf s = some r) :
    spiXferLoop len wait (fuel + 1) (min len i) dst nonFf s = some r := by
  induction fuel generalizing i dst nonFf s with
  | zero =>
      by_cases hDst : dst < len
      · unfold spiXferLoop at h
        simp [hDst] at h
      · rw [spiXferLoop_done (by omega)] at h ⊢
        exact h
  | succ fuel ih =>
      by_cases hDst : dst < len
      · rw [spiXferLoop_next _ _ _ _ _ _ hDst] at h ⊢
        simp only at h ⊢
        split
        next hLast =>
          rwa [if_pos hLast] at h
        next hLast =>
          rw [if_neg hLast] at h
          split
          next hSkip =>
            rw [if_pos hSkip] at h
            exact ih _ _ _ _ h
          next hSkip =>
            rw [if_neg hSkip] at h
            exact ih _ _ _ _ h
      · rw [spiXferLoop_done (by omega)] at h ⊢
        exact h

theorem spiXfer_settles (len : Nat) (wait : Bool) (s : Sd) :
    Settles fun fuel => spiXfer fuel len wait s := by
  intro fuel r h
  have hmin : 0 = min len 0 := by omega
  unfold spiXfer at h ⊢
  rw [hmin] at h ⊢
  exact spiXferLoop_settles len wait fuel 0 _ false s r h

/-- High answers are skipped. -/
theorem spiXferLoop_skips (len fuel n i : Nat) (s : Sd) (hLen : 0 < len)
    (h : ((s.card.exchange (sent len s.spiXferBuf i n))).1 =
      List.replicate n 0xff#8) :
    spiXferLoop len true (fuel + n) (min len i) 0 false s =
      spiXferLoop len true fuel (min len (i + n)) 0 false
        { s with card := (s.card.exchange (sent len s.spiXferBuf i n)).2 } := by
  induction n generalizing i s with
  | zero =>
      rfl
  | succ n ih =>
      rw [sent_succ, SPI.exchange_cons, List.replicate_succ] at h
      simp only [List.cons.injEq] at h
      rw [← Nat.add_assoc, spiXferLoop_next _ _ _ _ _ _ hLen]
      simp only [Bool.not_true, Bool.false_and, Bool.false_eq_true, if_false,
        h.1, Bool.not_false, Bool.true_and, beq_self_eq_true, if_true]
      rw [ih (i + 1) { s with card := _ } h.2, sent_succ, SPI.exchange_cons]
      simp only [Nat.add_assoc, Nat.add_comm 1 n]

/-- Every answer is kept to the end of the transfer. -/
theorem spiXferLoop_keeps (len fuel n i dst : Nat) (s : Sd)
    (hEnd : dst + n = len) (hBehind : dst <= i) :
    spiXferLoop len true (fuel + n) (min len i) dst true s =
      some
        { s with
          card := (s.card.exchange (sent len s.spiXferBuf i n)).2
          spiXferBuf := fun j =>
            if dst <= j ∧ j < len then
              (s.card.exchange (sent len s.spiXferBuf i n)).1.getD (j - dst) 0#8
            else s.spiXferBuf j } := by
  induction n generalizing i dst s with
  | zero =>
      rw [spiXferLoop_done (by omega)]
      have hnone (j : Nat) : ¬ (dst <= j ∧ j < len) := by omega
      simp only [hnone, if_false]
      rfl
  | succ n ih =>
      rw [← Nat.add_assoc, spiXferLoop_next _ _ _ _ _ _ (by omega)]
      simp only [Bool.not_true, Bool.false_and, Bool.false_eq_true, if_false]
      rw [ih (i + 1) (dst + 1) _ (by omega) (by omega), sent_succ, SPI.exchange_cons]
      have hsent (c : SPI) (v : BitVec 8) :
          sent len (spiXferBufSet dst v { s with card := c }).spiXferBuf
              (i + 1) n =
            sent len s.spiXferBuf (i + 1) n := by
        apply sent_congr
        intro j hj
        simp only [spiXferBufSet]
        rw [if_neg (by omega)]
      simp only [hsent]
      simp only [spiXferBufSet]
      congr
      funext j
      by_cases hj : j = dst
      · subst hj
        simp
        omega
      · by_cases hMore : dst + 1 <= j ∧ j < len
        · have hSub : j - dst = j - (dst + 1) + 1 := by omega
          rw [if_pos hMore, if_pos (by omega), hSub, List.getD_cons_succ]
        · rw [if_neg hMore, if_neg hj, if_neg (by omega)]

theorem sent_add (len : Nat) (buf : Nat -> BitVec 8) (i n m : Nat) :
    sent len buf i (n + m) = sent len buf i n ++ sent len buf (i + n) m := by
  simp only [sent, ← List.map_append, List.range'_append_1]

/-- The first answer that is not high, and all after it. -/
theorem spiXferLoop_first (n i : Nat) {first : BitVec 8}
    {answers : List (BitVec 8)} (s : Sd)
    (hAnswers :
      (s.card.exchange (sent (n + 1) s.spiXferBuf i (n + 1))).1 =
        first :: answers)
    (hFirst : first ≠ 0xff#8) :
    spiXferLoop (n + 1) true (n + 1) (min (n + 1) i) 0 false s =
      some
        { s with
          card := (s.card.exchange (sent (n + 1) s.spiXferBuf i (n + 1))).2
          spiXferBuf := fun j =>
            if j < n + 1 then (first :: answers).getD j 0#8
            else s.spiXferBuf j } := by
  rw [sent_succ, SPI.exchange_cons] at hAnswers ⊢
  simp only [List.cons.injEq] at hAnswers
  rw [spiXferLoop_next _ _ _ _ _ _ (by omega)]
  have hne : (first == 0xff#8) = false := by simpa using hFirst
  simp only [Bool.not_true, Bool.false_and, Bool.false_eq_true, if_false,
    hAnswers.1, hne, Bool.and_false]
  have hkeep :=
    spiXferLoop_keeps (n + 1) 0 n (i + 1) 1
      (spiXferBufSet 0 first
        { s with
          card := s.card.transfer (sentByte (n + 1) s.spiXferBuf i) })
      (by omega) (by omega)
  have hsent :
      sent (n + 1)
          (spiXferBufSet 0 first
            { s with
              card :=
                s.card.transfer (sentByte (n + 1) s.spiXferBuf i) }).spiXferBuf
          (i + 1) n =
        sent (n + 1) s.spiXferBuf (i + 1) n := by
    apply sent_congr
    intro j hj
    simp only [spiXferBufSet]
    rw [if_neg (by omega)]
  rw [Nat.zero_add, hsent] at hkeep
  rw [hkeep]
  simp only [spiXferBufSet, hAnswers.2]
  congr
  funext j
  cases j with
  | zero =>
      simp
  | succ j =>
      simp

/-- The result of a transfer that keeps some answers. -/
structure Keeps (s : Sd) (answers : List (BitVec 8)) (Q : SPI -> Prop)
    (s' : Sd) : Prop where
  card : Q s'.card
  sdhc : s'.sdIsSdhc = s.sdIsSdhc
  buf : forall i, i < answers.length -> s'.spiXferBuf i = answers.getD i 0#8
  rest : forall i, answers.length <= i -> s'.spiXferBuf i = s.spiXferBuf i

theorem spiXfer_keeps {P Q : SPI -> Prop} {len : Nat} (skip : Nat)
    (first : BitVec 8) (answers : List (BitVec 8)) {bytes : List (BitVec 8)}
    {s : Sd} (hCard : P s.card)
    (hBytes : sent len s.spiXferBuf 0 (skip + len) = bytes)
    (hAnswers :
      SPI.Answers P bytes
        (List.replicate skip 0xff#8 ++ (first :: answers)) Q)
    (hFirst : first ≠ 0xff#8) (hLength : answers.length + 1 = len) :
    Returns (skip + len) (fun fuel => spiXfer fuel len true s)
      (Keeps s (first :: answers) Q) := by
  subst hLength
  obtain ⟨hAll, hQ⟩ := hAnswers s.card hCard
  rw [← hBytes, sent_add, SPI.exchange_append] at hAll hQ
  obtain ⟨hHigh, hTaken⟩ :=
    List.append_inj hAll (by simp [SPI.exchange_length, sent])
  rw [Nat.zero_add] at hTaken hQ
  refine Returns.of_settles (spiXfer_settles _ true s)
    (r := {
      spiXferBuf := fun j =>
        if j < answers.length + 1 then (first :: answers).getD j 0#8
        else s.spiXferBuf j
      sdIsSdhc := s.sdIsSdhc, card := _ }) ?_ ⟨hQ, rfl, ?_, ?_⟩
  · have hskip :=
      spiXferLoop_skips _ (answers.length + 1) skip 0 s (by omega) hHigh
    rw [Nat.min_zero, Nat.zero_add] at hskip
    rw [spiXfer, Nat.add_comm skip, hskip]
    exact spiXferLoop_first answers.length skip
      { s with
        card :=
          (s.card.exchange
            (sent (answers.length + 1) s.spiXferBuf 0 skip)).2 }
      hTaken hFirst
  · intro i hi
    simp only [List.length_cons] at hi
    simp only [if_pos hi]
  · intro i hi
    simp only [List.length_cons] at hi
    simp only [if_neg (Nat.not_lt.mpr hi)]

/-!
## Commands
-/

theorem sent_high {len : Nat} {buf : Nat -> BitVec 8} {i : Nat}
    (h : forall j, i <= j -> j < len -> buf j = 0xff#8) (n : Nat) :
    sent len buf i n = List.replicate n 0xff#8 := by
  rw [List.eq_replicate_iff]
  refine ⟨by simp [sent], ?_⟩
  intro b hb
  simp only [sent, List.mem_map, List.mem_range'_1] at hb
  obtain ⟨j, hj, rfl⟩ := hb
  unfold sentByte
  split
  next hLen =>
    exact h j hj.1 hLen
  next hLen =>
    rfl

/-- The bytes that send a command. -/
def SpiCmd.bytes (cmd : SpiCmd) : List (BitVec 8) :=
  [0xff#8, cmd.cmd, cmd.arg0, cmd.arg1, cmd.arg2, cmd.arg3, cmd.crc, 0xff#8]

theorem sent_command (cmd : SpiCmd) (s : Sd) (n : Nat) :
    sent (spiCommandLen cmd) (s.putCommand cmd).spiXferBuf 0 (8 + n) =
      SpiCmd.bytes cmd ++ List.replicate n 0xff#8 := by
  have hlen : spiCommandLen cmd = cmd.rxDatalen + 15 := by
    unfold spiCommandLen SD_NCR
    omega
  have hhigh :
      forall j, 7 <= j -> j < spiCommandLen cmd ->
        (s.putCommand cmd).spiXferBuf j = 0xff#8 := by
    intro j hj hLen
    simp only [putCommand, fill]
    rw [if_pos (by omega)]
  have hhead :
      sent (spiCommandLen cmd) (s.putCommand cmd).spiXferBuf 0 7 =
        [0xff#8, cmd.cmd, cmd.arg0, cmd.arg1, cmd.arg2, cmd.arg3, cmd.crc] := by
    rw [hlen]
    simp [sent, List.range', sentByte, putCommand, fill, spiXferBufSet]
  have hsplit : 8 + n = 7 + (1 + n) := by omega
  rw [hsplit, sent_add, hhead, sent_high (by simpa using hhigh), Nat.add_comm 1,
    List.replicate_succ]
  rfl

/-- A command that the card answers. -/
theorem spiDoCommand_keeps {image : DiskImage} {Q : SPI -> Prop}
    (cmd : SpiCmd) {s : Sd} (n skip : Nat) (first : BitVec 8)
    (answers : List (BitVec 8)) (hCard : SPI.Quiet image s.card)
    (hAnswers :
      SPI.Answers (SPI.Idle image)
        (SpiCmd.bytes cmd ++ List.replicate n 0xff#8)
        (List.replicate skip 0xff#8 ++ (first :: answers)) Q)
    (hFirst : first ≠ 0xff#8)
    (hLength : answers.length + 1 = spiCommandLen cmd)
    (hCount : 8 + n = skip + spiCommandLen cmd) :
    Returns (skip + spiCommandLen cmd) (fun fuel => spiDoCommand fuel cmd s)
      (Keeps (s.putCommand cmd) (first :: answers) Q) := by
  have hsent := sent_command cmd s n
  rw [hCount] at hsent
  refine (spiXfer_keeps (P := SPI.Idle image) skip first answers
    (s := (s.putCommand cmd).outw SPI_CONTROL_PORT 0x1#16) hCard.select hsent
    hAnswers hFirst hLength).imp ?_
  intro s' h
  exact ⟨h.card, h.sdhc, h.buf, h.rest⟩

theorem Keeps.first {s s' : Sd} {first : BitVec 8}
    {answers : List (BitVec 8)} {Q : SPI -> Prop}
    (h : Keeps s (first :: answers) Q s') : s'.spiXferBuf 0 = first :=
  h.buf 0 (by simp)

/-- The response to a command, when an answer was kept. -/
theorem Keeps.findR1Response {s s' : Sd} {first : BitVec 8}
    {answers : List (BitVec 8)} {Q : SPI -> Prop}
    (h : Keeps s (first :: answers) Q s') (hFirst : first ≠ 0xff#8) :
    s'.findR1Response = some (0, first) := by
  have hbuf := h.first
  have hfind :
      (List.range bufSize).find? (fun i => s'.spiXferBufGet i != 0xff#8) =
        some 0 := by
    rw [List.find?_range_eq_some]
    simp [spiXferBufGet, hbuf, hFirst, bufSize]
  unfold Sd.findR1Response
  rw [hfind]
  simp [spiXferBufGet, hbuf]

end Sd
end Bios
end S80x86
