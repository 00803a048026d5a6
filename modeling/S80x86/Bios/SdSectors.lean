import Mathlib.Tactic.IntervalCases
import S80x86.Bios.SdTransfers

/-!
# Sectors through the SD driver

After the initialisation every sector can be read, and every block that is
written reaches the image; but the byte that the driver takes for the packet
response is the answer to the checksum.
-/

namespace S80x86
namespace Bios
namespace Sd

open Sim
open Foundation

/-- Enough bytes for the longest transfer. -/
def enough : Nat := 1053

/-- The driver between two commands. -/
structure Ready (image : DiskImage) (sdhc : Bool) (s : Sd) : Prop where
  card : SPI.Quiet image s.card
  sdhc : s.sdIsSdhc = sdhc

theorem plainAnswer_cons {cmd : BitVec 8} (h : cmd ∈ SPI.plainCommands) :
    exists first rest, SPI.plainAnswer cmd = first :: rest ∧
      first ≠ 0xff#8 ∧ first &&& R1_ERROR_MASK = 0#8 ∧ rest.length <= 4 := by
  simp only [SPI.plainCommands, List.mem_cons, List.not_mem_nil,
    or_false] at h
  rcases h with h | h | h | h | h | h <;> subst h <;>
    exact ⟨_, _, rfl, by decide, by decide, by decide⟩

/-- A plain command is answered and leaves the card idle. -/
theorem spiDoCommand_plain {image : DiskImage} {cmd : SpiCmd} {s : Sd}
    (first : BitVec 8) (rest : List (BitVec 8))
    (hCard : SPI.Quiet image s.card) (hCmd : cmd.cmd ∈ SPI.plainCommands)
    (hAnswer : SPI.plainAnswer cmd.cmd = first :: rest)
    (hFirst : first ≠ 0xff#8) (hRest : rest.length <= 4)
    (hLen : cmd.rxDatalen <= 5) :
    Returns enough (fun fuel => spiDoCommand fuel cmd s)
      (Keeps (s.putCommand cmd)
        (first :: (rest ++ List.replicate (14 + cmd.rxDatalen - rest.length)
          0xff#8))
        (SPI.Idle image)) := by
  have hlen : spiCommandLen cmd = cmd.rxDatalen + 15 := by
    unfold spiCommandLen SD_NCR
    omega
  have htalk :=
    SPI.answers_plain_padded cmd.arg0 cmd.arg1 cmd.arg2 cmd.arg3 cmd.crc
      (13 + cmd.rxDatalen - rest.length) image hCmd
  refine (spiDoCommand_keeps cmd (cmd.rxDatalen + 15) 8 first _ hCard
    ?_ hFirst ?_ ?_).mono ?_
  · rw [hAnswer] at htalk
    have hbytes :
        List.replicate (first :: rest).length 0xff#8 ++
            (0xff#8 :: List.replicate (13 + cmd.rxDatalen - rest.length)
              0xff#8) =
          List.replicate (cmd.rxDatalen + 15) 0xff#8 := by
      rw [← List.replicate_succ, List.replicate_append_replicate]
      congr 1
      simp only [List.length_cons]
      omega
    have hpad :
        14 + cmd.rxDatalen - rest.length =
          13 + cmd.rxDatalen - rest.length + 1 := by
      omega
    rw [hbytes] at htalk
    rw [hpad, List.replicate_succ]
    exact htalk
  · simp only [List.length_append, List.length_replicate]
    omega
  · omega
  · unfold enough
    omega

theorem sendCommand_plain {image : DiskImage} {sdhc : Bool} {cmd : SpiCmd}
    {s : Sd} (hReady : Ready image sdhc s)
    (hCmd : cmd.cmd ∈ SPI.plainCommands) (hLen : cmd.rxDatalen <= 5) :
    Returns enough (fun fuel => sendCommand fuel cmd s)
      (fun r => r.1 = 0 ∧ Ready image sdhc r.2) := by
  obtain ⟨first, rest, hAnswer, hFirst, hMask, hRest⟩ := plainAnswer_cons hCmd
  refine Returns.bind
    (spiDoCommand_plain first rest hReady.card hCmd hAnswer hFirst hRest
      hLen) ?_
  intro s' h
  rw [h.findR1Response hFirst]
  refine Returns.pure ⟨?_, h.card.quiet, h.sdhc.trans hReady.sdhc⟩
  simp [hMask]

theorem sdSendReadOcr_ready {image : DiskImage} {sdhc : Bool} {s : Sd}
    (hReady : Ready image sdhc s) :
    Returns enough (fun fuel => sdSendReadOcr fuel s)
      (fun r => r.1 = 0 ∧ Ready image false r.2) := by
  refine Returns.bind
    (spiDoCommand_plain 0x01#8 [0x00#8, 0x00#8, 0x00#8, 0x00#8] hReady.card
      (by simp [SPI.plainCommands]) (by decide) (by decide) (by decide)
      (by decide)) ?_
  intro s' h
  rw [h.findR1Response (by decide)]
  refine Returns.pure ⟨rfl, h.card.quiet, ?_⟩
  have h1 := h.buf 1 (by simp)
  have h2 := h.buf 2 (by simp)
  have h3 := h.buf 3 (by simp)
  have h4 := h.buf 4 (by simp)
  simp only [spiXferBufGet, h1, h2, h3, h4]
  rfl

theorem sdWaitReady_ready {image : DiskImage} {sdhc : Bool} {s : Sd}
    (hReady : Ready image sdhc s) :
    Returns enough (fun fuel => sdWaitReady fuel s)
      (fun r => r.1 = 0 ∧ Ready image sdhc r.2) := by
  refine Returns.of_succ
    (g := fun fuel => sdWaitRound fuel (sdWaitReady (fuel - 1)) s) ?_
    (by decide) rfl (fun fuel => rfl)
  refine Returns.bind
    (sendCommand_plain hReady (by simp [SPI.plainCommands]) (by decide)) ?_
  rintro ⟨rc, s1⟩ ⟨hrc, hs1⟩
  simp only at hrc hs1
  subst hrc
  refine Returns.bind
    (spiDoCommand_plain 0x00#8 [] hs1.card
      (by simp [SPI.plainCommands]) (by decide) (by decide) (by decide)
      (by decide)) ?_
  intro s2 h
  rw [h.findR1Response (by decide)]
  exact Returns.pure ⟨rfl, h.card.quiet, h.sdhc.trans hs1.sdhc⟩

/-!
## Initialisation
-/

/-- High bytes leave an idle card alone. -/
theorem spiXferLoop_clock {image : DiskImage} (n i : Nat) (s : Sd)
    (hEnd : i + n + 1 = 8) (hCard : SPI.Quiet image s.card)
    (hHigh : forall j, j < 8 -> s.spiXferBuf j = 0xff#8) :
    exists r, spiXferLoop 8 false (n + 1) (min 8 i) 0 false s = some r ∧
      Ready image s.sdIsSdhc r := by
  have hbyte : sentByte 8 s.spiXferBuf i = 0xff#8 := by
    rw [sentByte, if_pos (by omega), hHigh i (by omega)]
  obtain ⟨hVal, hNext⟩ := hCard.high
  induction n generalizing i s with
  | zero =>
      have hlast : min 8 (i + 1) = 8 := by omega
      refine ⟨{ s with card := s.card.transfer 0xff#8 }, ?_, hNext, rfl⟩
      rw [spiXferLoop_next _ _ _ _ _ _ (by omega), hbyte, hlast]
      rfl
  | succ n ih =>
      have hmore : (min 8 (i + 1) == 8) = false := by
        rw [beq_eq_false_iff_ne]
        omega
      obtain ⟨r, hr, hReady⟩ :=
        ih (i + 1) { s with card := s.card.transfer 0xff#8 } (by omega) hNext
          hHigh (by rw [sentByte, if_pos (by omega), hHigh _ (by omega)])
          hNext.high.1 hNext.high.2
      refine ⟨r, ?_, hReady⟩
      rw [spiXferLoop_next _ _ _ _ _ _ (by omega), hbyte]
      simp only [hmore, hVal, Bool.and_false, Bool.false_eq_true, if_false,
        Bool.not_false, Bool.true_and, beq_self_eq_true, if_true]
      exact hr

theorem spiXfer_clock {image : DiskImage} {sdhc : Bool} {s : Sd}
    (hReady : Ready image sdhc s)
    (hHigh : forall j, j < 8 -> s.spiXferBuf j = 0xff#8) :
    Returns enough (fun fuel => spiXfer fuel 8 false s)
      (Ready image sdhc) := by
  obtain ⟨r, hr, hNext⟩ := spiXferLoop_clock 7 0 s rfl hReady.card hHigh
  have hn : 8 <= enough := by decide
  rw [hReady.sdhc] at hNext
  exact (Returns.of_settles (spiXfer_settles 8 false s) hr hNext).mono hn

theorem Ready.control {image : DiskImage} {sdhc : Bool} {s : Sd}
    (h : Ready image sdhc s) (buf : Nat -> BitVec 8) (v : BitVec 16) :
    Ready image sdhc
      (outw SPI_CONTROL_PORT v { s with spiXferBuf := buf }) :=
  ⟨h.card.control v, h.sdhc⟩

theorem Returns.orPanic {image : DiskImage} {sdhc : Bool}
    {f : Nat -> Option (Int × Sd)} {message : String}
    (h : Returns enough f (fun r => r.1 = 0 ∧ Ready image sdhc r.2)) :
    Returns enough (fun fuel => Sd.orPanic message (f fuel))
      (fun r => exists s, r = .ok s ∧ Ready image sdhc s) := by
  constructor
  · intro fuel hFuel
    simpa [Sd.orPanic] using h.ends fuel hFuel
  · intro fuel r hr
    simp only [Sd.orPanic, Option.map_eq_some_iff] at hr
    obtain ⟨⟨rc, s⟩, hf, hr⟩ := hr
    obtain ⟨hrc, hReady⟩ := h.gives fuel _ hf
    simp only at hrc hReady
    subst hrc
    exact ⟨s, hr.symm, hReady⟩

theorem Returns.andThen {image : DiskImage} {sdhc : Bool}
    {f : Nat -> Option (Except String Sd)}
    {g : Sd -> Nat -> Option (Except String Sd)} {P : Except String Sd -> Prop}
    (h : Returns enough f (fun r => exists s, r = .ok s ∧ Ready image sdhc s))
    (hNext : forall s, Ready image sdhc s -> Returns enough (g s) P) :
    Returns enough
      (fun fuel => Sd.andThen (f fuel) fun s => g s fuel) P := by
  constructor
  · intro fuel hFuel
    obtain ⟨r, hr, s, rfl, hReady⟩ := h.some_of_le hFuel
    simp only [hr, Sd.andThen]
    exact (hNext s hReady).ends fuel hFuel
  · intro fuel r hr
    cases hf : f fuel with
    | none =>
        simp [hf, Sd.andThen] at hr
    | some r' =>
        obtain ⟨s, rfl, hReady⟩ := h.gives fuel r' hf
        simp only [hf, Sd.andThen] at hr
        exact (hNext s hReady).gives fuel r hr

/-- The initialisation succeeds and leaves a card that is addressed by
bytes. -/
theorem sdInit_ready {image : DiskImage} {s : Sd}
    (hCard : SPI.Quiet image s.card) :
    Returns enough (fun fuel => sdInit fuel s)
      (fun r => exists s', r = .ok s' ∧ Ready image false s') := by
  have hReady : Ready image s.sdIsSdhc s := ⟨hCard, rfl⟩
  refine Returns.bind
    (spiXfer_clock (hReady.control (s.fill 0 8 0xff#8).spiXferBuf _) ?_) ?_
  · intro j hj
    simp [fill, outw, hj]
  intro s1 h1
  refine Returns.bind
    (spiXfer_clock (h1.control (s1.fill 0 128 0xff#8).spiXferBuf _) ?_) ?_
  · intro j hj
    have hj' : j < 128 := by omega
    simp [fill, outw, hj']
  intro s2 h2
  refine Returns.andThen (Returns.orPanic (sendCommand_plain h2
    (by simp [SPI.plainCommands]) (by decide))) ?_
  intro s3 h3
  refine Returns.andThen (Returns.orPanic (sendCommand_plain h3
    (by simp [SPI.plainCommands]) (by decide))) ?_
  intro s4 h4
  refine Returns.andThen (Returns.orPanic (sdSendReadOcr_ready h4)) ?_
  intro s5 h5
  refine Returns.andThen (Returns.orPanic (sdWaitReady_ready h5)) ?_
  intro s6 h6
  refine Returns.andThen (Returns.orPanic (sdSendReadOcr_ready h6)) ?_
  intro s7 h7
  exact Returns.orPanic (sendCommand_plain h7
    (by simp [SPI.plainCommands]) (by decide))

/-!
## Sectors
-/

theorem address_addressed (cmd : BitVec 8) (address : BitVec 32) (n : Nat) :
    SPI.address (addressed cmd address n).arg0 (addressed cmd address n).arg1
      (addressed cmd address n).arg2 (addressed cmd address n).arg3 =
      address.toNat := by
  unfold SPI.address addressed
  congr 1
  ext i hi
  simp only [BitVec.getElem_append]
  interval_cases i <;> simp

/-- The bytes of a block. -/
def blockOf (d : Nat -> BitVec 8) : List (BitVec 8) :=
  (List.range 512).map d

theorem blockOf_length (d : Nat -> BitVec 8) : (blockOf d).length = 512 := by
  simp [blockOf]

/-- The answers kept from a request to write. -/
def writeKept : List (BitVec 8) :=
  [0xff#8, 0xff#8, 0x05#8] ++ List.replicate 12 0xff#8

/-- A request to write leaves a card that waits for the block. -/
theorem sdMakeWriteRequest_ready {image : DiskImage} {s : Sd}
    (hReady : Ready image false s) (hFail : image.fail = false)
    (address : BitVec 32) :
    Returns enough (fun fuel => sdMakeWriteRequest fuel address s)
      (fun r => r.1 = 0 ∧ SPI.Awaits { image with pos := address.toNat } r.2.card ∧
        r.2.sdIsSdhc = false) := by
  have htalk :=
    SPI.answers_write_padded (addressed 0x58#8 address 1).arg0
      (addressed 0x58#8 address 1).arg1 (addressed 0x58#8 address 1).arg2
      (addressed 0x58#8 address 1).arg3 0#8 11 hFail
  rw [address_addressed] at htalk
  refine Returns.bind
    ((spiDoCommand_keeps (addressed 0x58#8 address 1) 17 9 0x00#8 writeKept
      hReady.card htalk (by decide) rfl rfl).mono (by change 25 <= 1053; omega)) ?_
  intro s' h
  rw [h.findR1Response (by decide)]
  exact Returns.pure ⟨rfl, h.card, h.sdhc.trans hReady.sdhc⟩

theorem sent_block (d : Nat -> BitVec 8) (s : Sd) (n : Nat) :
    sent 517 (s.putBlock d).spiXferBuf 0 (517 + n) =
      0xff#8 :: 0xfe#8 :: (blockOf d ++
        (0#8 :: 0#8 :: 0xff#8 :: List.replicate n 0xff#8)) := by
  have hgap : sent 517 (s.putBlock d).spiXferBuf 0 2 = [0xff#8, 0xfe#8] := by
    simp [sent, List.range', sentByte, putBlock, memcpy, spiXferBufSet]
  have hdata : sent 517 (s.putBlock d).spiXferBuf 2 512 = blockOf d := by
    unfold sent blockOf
    rw [List.range'_eq_map_range, List.map_map]
    apply List.map_congr_left
    intro i hi
    rw [List.mem_range] at hi
    simp only [Function.comp_apply, sentByte, putBlock, memcpy, spiXferBufSet]
    rw [if_pos (by omega), if_neg (by omega), if_neg (by omega),
      if_neg (by omega), if_pos (by omega), Nat.add_sub_cancel_left]
  have hcrc :
      sent 517 (s.putBlock d).spiXferBuf 514 3 = [0#8, 0#8, 0xff#8] := by
    simp [sent, List.range', sentByte, putBlock, spiXferBufSet]
  have hrest :
      sent 517 (s.putBlock d).spiXferBuf 517 n = List.replicate n 0xff#8 :=
    sent_high (by omega) n
  have hsplit : 517 + n = 2 + (512 + (3 + n)) := by omega
  rw [hsplit, sent_add, sent_add, sent_add, hgap, hdata, hcrc, hrest]
  simp only [List.cons_append, List.nil_append]

/-- A block is stored, and the byte in the place of the packet response answers
the checksum. -/
theorem sdWriteBlock_stores {image : DiskImage} {s : Sd} (d : Nat -> BitVec 8)
    (hCard : SPI.Awaits image s.card) :
    Returns enough (fun fuel => sdWriteBlock fuel d s)
      (fun s' => s'.spiXferBuf 0 = 0xaa#8 ∧
        Ready (image.putAll (blockOf d)) s.sdIsSdhc s') := by
  have htalk :=
    SPI.answers_block (blockOf d) 0#8 0#8 0xff#8 514 image (blockOf_length d)
  rw [← sent_block d s 514] at htalk
  refine ((spiXfer_keeps (P := SPI.Awaits image) 514 0xaa#8
    (0xaa#8 :: 0x05#8 :: List.replicate 514 0xff#8)
    (s := s.putBlock d) hCard rfl htalk (by decide) ?_).mono (by decide)).imp
    ?_
  · simp only [List.length_cons, List.length_replicate]
  · intro s' h
    exact ⟨h.first, h.card.quiet, h.sdhc⟩

/-- Every block that is written reaches the image, and the driver reports a
failure. -/
theorem writeSector_returns {image : DiskImage} {s : Sd}
    (hReady : Ready image false s) (hFail : image.fail = false)
    (sector : BitVec 32) (d : Nat -> BitVec 8) :
    Returns enough (fun fuel => writeSector fuel sector d s)
      (fun r => r.1 = -1 ∧
        Ready
          (DiskImage.putAll { image with pos := (sector * 512#32).toNat }
            (blockOf d)) false r.2) := by
  have haddress : s.sectorAddress sector = sector * 512#32 := by
    simp [sectorAddress, hReady.sdhc]
  unfold writeSector
  rw [haddress]
  refine Returns.bind
    (sdMakeWriteRequest_ready hReady hFail (sector * 512#32)) ?_
  rintro ⟨rc, s1⟩ ⟨hrc, hCard, hSdhc⟩
  simp only at hrc hCard hSdhc
  subst hrc
  refine Returns.bind (sdWriteBlock_stores d hCard) ?_
  intro s2 ⟨hBuf, hNext⟩
  simp only [spiXferBufGet, hBuf]
  rw [hSdhc] at hNext
  exact Returns.pure ⟨rfl, hNext⟩

/-- The answers kept from a request to read, before a rest. -/
def readKept (block rest : List (BitVec 8)) : List (BitVec 8) :=
  0xff#8 :: 0xfe#8 :: (block ++ (0x77#8 :: 0x77#8 :: rest))

theorem readAnswer_kept (block rest : List (BitVec 8)) :
    0xff#8 :: List.replicate 7 0xff#8 ++ (SPI.readAnswer block ++ rest) =
      List.replicate 10 0xff#8 ++ (0x00#8 :: readKept block rest) := by
  simp [SPI.readAnswer, readKept, List.replicate]

/-- The data of a block begin behind the start token. -/
theorem Keeps.findDataStart {s s' : Sd} {block rest : List (BitVec 8)}
    {Q : SPI -> Prop}
    (h : Keeps s (0x00#8 :: readKept block rest) Q s') :
    s'.findDataStart 0 = some 3 := by
  have hgap : s'.spiXferBuf 1 = 0xff#8 := h.buf 1 (by simp [readKept])
  have htoken : s'.spiXferBuf 2 = 0xfe#8 := h.buf 2 (by simp [readKept])
  have hfind :
      (List.range' 1 (bufSize - 1)).find?
        (fun i => s'.spiXferBufGet i == DATA_START_TOKEN) = some 2 := by
    rw [List.find?_range'_eq_some]
    refine ⟨by simp [spiXferBufGet, htoken, DATA_START_TOKEN],
      by simp [bufSize], ?_⟩
    intro j hj hlt
    have hone : j = 1 := by omega
    simp [hone, spiXferBufGet, hgap, DATA_START_TOKEN]
  unfold Sd.findDataStart
  rw [hfind]
  rfl

theorem Keeps.block {s s' : Sd} {block rest : List (BitVec 8)}
    {Q : SPI -> Prop}
    (h : Keeps s (0x00#8 :: readKept block rest) Q s') {i : Nat}
    (hi : i < block.length) :
    s'.spiXferBuf (3 + i) = block.getD i 0#8 := by
  rw [h.buf (3 + i) (by simp [readKept]; omega), Nat.add_comm 3]
  simp [readKept, List.getElem?_append_left hi]

/-- A read delivers the bytes of the image. -/
theorem readSector_returns {image : DiskImage} {s : Sd}
    (hReady : Ready image false s) (hFail : image.fail = false)
    (sector : BitVec 32) (dst : Nat -> BitVec 8)
    (hInside : (sector * 512#32).toNat + 512 <= image.size) :
    Returns enough (fun fuel => readSector fuel sector dst s)
      (fun r => r.1 = 0 ∧ (forall i, i < 512 ->
          r.2.1 i = image.bytes ((sector * 512#32).toNat + i)) ∧
        Ready { image with pos := (sector * 512#32).toNat + 512 } false
          r.2.2) := by
  have haddress : s.sectorAddress sector = sector * 512#32 := by
    simp [sectorAddress, hReady.sdhc]
  have hpad :
      List.replicate 519 0xff#8 ++ (0xff#8 :: List.replicate 525 0xff#8) =
        List.replicate 1045 (0xff#8 : BitVec 8) := by
    rw [← List.replicate_succ, List.replicate_append_replicate]
  have htalk :=
    SPI.answers_read_padded
      (addressed 0x51#8 (sector * 512#32) 1028).arg0
      (addressed 0x51#8 (sector * 512#32) 1028).arg1
      (addressed 0x51#8 (sector * 512#32) 1028).arg2
      (addressed 0x51#8 (sector * 512#32) 1028).arg3 0#8 525 hFail
      (by rw [address_addressed]; exact hInside)
  rw [address_addressed, hpad, readAnswer_kept] at htalk
  unfold readSector
  rw [haddress]
  refine Returns.bind
    ((spiDoCommand_keeps (addressed 0x51#8 (sector * 512#32) 1028) 1045 10
      0x00#8 _ hReady.card htalk (by decide) ?_ rfl).mono
      (by change 1053 <= 1053; omega)) ?_
  · simp only [readKept, List.length_cons, List.length_append,
      DiskImage.slice_length, List.length_replicate]
    rfl
  intro s' h
  simp only [h.findR1Response (by decide : 0x00#8 ≠ 0xff#8), h.findDataStart]
  refine Returns.pure ⟨rfl, ?_, h.card.quiet, h.sdhc.trans hReady.sdhc⟩
  intro i hi
  simp only [if_pos hi, spiXferBufGet]
  rw [h.block (by rw [DiskImage.slice_length]; exact hi),
    DiskImage.slice_getD _ _ hi]

/-!
## The block protocol
-/

/-- The states that an initialisation can leave, whatever the memory before
it. -/
def AfterInit (image : DiskImage) (s : Sd) : Prop :=
  exists fuel buf sdhc, sdInit fuel ⟨buf, sdhc, SPI.new image⟩ = some (.ok s)

theorem AfterInit.ready {image : DiskImage} {s : Sd} (h : AfterInit image s) :
    Ready image false s := by
  obtain ⟨fuel, buf, sdhc, h⟩ := h
  obtain ⟨s', hs', hReady⟩ :=
    (sdInit_ready (s := ⟨buf, sdhc, SPI.new image⟩)
      (SPI.Quiet.new image)).gives fuel _ h
  cases hs'
  exact hReady

theorem exists_afterInit (image : DiskImage) : exists s, AfterInit image s := by
  obtain ⟨r, hr, s, rfl, _⟩ :=
    (sdInit_ready (s := ⟨fun _ => 0#8, false, SPI.new image⟩)
      (SPI.Quiet.new image)).some_of_le (Nat.le_refl enough)
  exact ⟨s, enough, _, _, hr⟩

/-- The image with a block at a sector and every other byte as it was. -/
def HoldsBlock (sector : BitVec 32) (d : Nat -> BitVec 8)
    (before after : DiskImage) : Prop :=
  forall n, after.bytes n =
    if sector.toNat * 512 <= n ∧ n < sector.toNat * 512 + 512 then
      d (n - sector.toNat * 512)
    else before.bytes n

/-- A read of a sector that succeeds and delivers a block. -/
def Delivers (sector : BitVec 32) (d : Nat -> BitVec 8) (s : Sd) : Prop :=
  forall dst, exists fuel dst' s', s.readSector fuel sector dst =
    some (0, dst', s') ∧ forall i, i < 512 -> dst' i = d i

/-- A write of a sector that succeeds, reaches the image and is read back. -/
def WritesThenReads (sector : BitVec 32) (d : Nat -> BitVec 8) (s : Sd) :
    Prop :=
  exists fuel s', s.writeSector fuel sector d = some (0, s') ∧
    HoldsBlock sector d s.card.diskImage s'.card.diskImage ∧
    Delivers sector d s'

theorem sectorAddress_toNat {sector : BitVec 32}
    (h : sector.toNat * 512 < 2 ^ 32) :
    (sector * 512#32).toNat = sector.toNat * 512 := by
  rw [BitVec.toNat_mul]
  exact Nat.mod_eq_of_lt h

theorem holdsBlock_putAll {image : DiskImage} {sector : BitVec 32}
    (d : Nat -> BitVec 8) (hFail : image.fail = false)
    (hInside : sector.toNat * 512 + 512 <= image.size) :
    HoldsBlock sector d image
      (DiskImage.putAll { image with pos := sector.toNat * 512 }
        (blockOf d)) := by
  intro n
  obtain ⟨_, _, hBytes⟩ :=
    DiskImage.putAll_spec (f := { image with pos := sector.toNat * 512 })
      (blockOf d) (sector.toNat * 512) ⟨hFail, rfl⟩
      (by rw [blockOf_length]; exact hInside)
  rw [hBytes, blockOf_length]
  split
  next hAt =>
    have hn : n - sector.toNat * 512 < 512 := by omega
    simp [blockOf, hn]
  next hAt =>
    rfl

/-- No write succeeds: the driver takes the answer to the checksum for the
packet response, although the block is stored and can be read. -/
theorem sd_write_sector_fails {image : DiskImage} {s : Sd}
    (hFail : image.fail = false) (hInit : AfterInit image s)
    (sector : BitVec 32) (d : Nat -> BitVec 8)
    (hInside : sector.toNat * 512 + 512 <= image.size) :
    ¬ WritesThenReads sector d s ∧
      (sector.toNat * 512 < 2 ^ 32 ->
        Returns enough (fun fuel => s.writeSector fuel sector d) fun r =>
          r.1 = -1 ∧ HoldsBlock sector d s.card.diskImage r.2.card.diskImage ∧
            Delivers sector d r.2) := by
  have hReady := hInit.ready
  have hwrite := writeSector_returns hReady hFail sector d
  constructor
  · rintro ⟨fuel, s', hWrite, _⟩
    have hrc := (hwrite.gives fuel _ hWrite).1
    simp at hrc
  · intro hFits
    rw [sectorAddress_toNat hFits] at hwrite
    refine hwrite.imp ?_
    rintro ⟨rc, s'⟩ ⟨hrc, hNext⟩
    have hHolds := holdsBlock_putAll d hFail hInside
    obtain ⟨hFail', hSize, _⟩ :=
      DiskImage.putAll_spec (f := { image with pos := sector.toNat * 512 })
        (blockOf d) (sector.toNat * 512) ⟨hFail, rfl⟩
        (by rw [blockOf_length]; exact hInside)
    refine ⟨hrc, ?_, ?_⟩
    · rw [hReady.card.image, hNext.card.image]
      exact hHolds
    · intro dst
      obtain ⟨⟨rc', dst', s2⟩, hRead, hrc', hData, _⟩ :=
        (readSector_returns hNext hFail' sector dst
          (by rw [sectorAddress_toNat hFits, hSize]; exact hInside)).some_of_le
          (Nat.le_refl enough)
      simp only at hrc' hData
      subst hrc'
      refine ⟨enough, dst', s2, hRead, ?_⟩
      intro i hi
      rw [hData i hi, sectorAddress_toNat hFits, hHolds, if_pos (by omega),
        Nat.add_sub_cancel_left]

/-- An image of two empty sectors. -/
def emptyImage : DiskImage :=
  { bytes := fun _ => 0#8, size := 1024, pos := 0, fail := false }

/-- A write to the second of two sectors. -/
theorem sd_write_sector_fails_second :
    exists s, AfterInit emptyImage s ∧
      ¬ WritesThenReads 1#32 (fun _ => 0x55#8) s := by
  obtain ⟨s, hs⟩ := exists_afterInit emptyImage
  exact ⟨s, hs,
    (sd_write_sector_fails rfl hs 1#32 (fun _ => 0x55#8) (by decide)).1⟩

theorem sd_write_sector_zero_returns_error :
    exists s s', AfterInit emptyImage s ∧
      s.writeSector enough 0#32 (fun _ => 0#8) = some (-1, s') ∧
      ¬ WritesThenReads 0#32 (fun _ => 0#8) s := by
  obtain ⟨s, hs⟩ := exists_afterInit emptyImage
  have hwrite := writeSector_returns hs.ready rfl 0#32 (fun _ => 0#8)
  obtain ⟨⟨rc, s'⟩, hr, hrc, _⟩ := hwrite.some_of_le (Nat.le_refl enough)
  simp only at hrc
  subst hrc
  refine ⟨s, s', hs, hr, ?_⟩
  rintro ⟨fuel, s'', hWrite, _⟩
  have hzero := (hwrite.gives fuel _ hWrite).1
  simp at hzero

end Sd
end Bios
end S80x86
