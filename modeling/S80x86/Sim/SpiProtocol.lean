import Mathlib.Data.List.Basic
import Mathlib.Tactic.IntervalCases
import S80x86.Sim.Spi

/-!
# Conversations with the SPI card

What the card answers, phase by phase: idle, a command, its reply, the gap
before a block, the block with its checksum and the packet response.
-/

namespace S80x86
namespace Sim
namespace DiskImage

/-- The image at a position, with the stream in order. -/
def At (f : DiskImage) (pos : Nat) : Prop :=
  f.fail = false ∧ f.pos = pos

/-- Consecutive bytes written from the position on. -/
def putAll (f : DiskImage) (block : List (BitVec 8)) : DiskImage :=
  block.foldl put f

theorem putAll_spec (block : List (BitVec 8)) {f : DiskImage} (pos : Nat)
    (h : f.At pos) (hInside : pos + block.length <= f.size) :
    (f.putAll block).fail = false ∧ (f.putAll block).size = f.size ∧
      forall n, (f.putAll block).bytes n =
        if pos <= n ∧ n < pos + block.length then block.getD (n - pos) 0#8
        else f.bytes n := by
  induction block generalizing f pos with
  | nil =>
      refine ⟨h.1, rfl, fun n => ?_⟩
      rw [if_neg (by simp)]
      rfl
  | cons v rest ih =>
      simp only [List.length_cons] at hInside
      have hput :
          f.put v =
            { f with
              bytes := fun n => if n = pos then v else f.bytes n
              size := f.size, pos := pos + 1 } := by
        simp only [put, h.1, h.2, Bool.false_eq_true, if_false]
        congr 1
        omega
      obtain ⟨hFail, hSize, hBytes⟩ :=
        ih (f := f.put v) (pos + 1) (by simp [hput, At, h.1])
          (by rw [hput]; simp only; omega)
      refine ⟨hFail, by simp only [putAll, List.foldl_cons] at hSize ⊢
                        rw [hSize, hput], fun n => ?_⟩
      have hn := hBytes n
      simp only [putAll, List.foldl_cons, List.length_cons] at hn ⊢
      rw [hn, hput]
      by_cases hAt : n = pos
      · subst hAt
        rw [if_neg (by omega), if_pos (by omega)]
        simp
      · by_cases hMore : pos + 1 <= n ∧ n < pos + 1 + rest.length
        · have hSub : n - pos = n - (pos + 1) + 1 := by omega
          rw [if_pos hMore, if_pos (by omega), hSub, List.getD_cons_succ]
        · rw [if_neg hMore, if_neg (by omega)]
          simp [hAt]

/-- Consecutive bytes from a position on. -/
def slice (f : DiskImage) (pos n : Nat) : List (BitVec 8) :=
  (List.range n).map (fun i => f.bytes (pos + i))

theorem slice_length (f : DiskImage) (pos n : Nat) :
    (f.slice pos n).length = n := by
  simp [slice]

theorem slice_getD (f : DiskImage) (pos : Nat) {n i : Nat} (h : i < n)
    (v : BitVec 8) : (f.slice pos n).getD i v = f.bytes (pos + i) := by
  simp [slice, List.getD, h]

theorem slice_succ (f : DiskImage) (pos n : Nat) :
    f.slice pos (n + 1) = f.bytes pos :: f.slice (pos + 1) n := by
  simp only [slice, List.range_succ_eq_map, List.map_cons, List.map_map]
  congr 1
  apply List.map_congr_left
  intro i _
  simp only [Function.comp_apply]
  congr 1
  omega

end DiskImage

namespace SPI

theorem pushData_eq (n : Nat) {s : SPI} (pos : Nat) (h : s.diskImage.At pos)
    (hInside : pos + n <= s.diskImage.size) :
    pushData n s =
      { s with
        misoBuf := s.misoBuf ++ s.diskImage.slice pos n
        diskImage := { s.diskImage with pos := pos + n } } := by
  induction n generalizing s pos with
  | zero =>
      cases s with
      | mk _ _ _ _ _ image =>
          cases image
          simp_all [pushData, DiskImage.slice, DiskImage.At]
  | succ n ih =>
      have hget :
          s.diskImage.get =
            (s.diskImage.bytes pos, { s.diskImage with pos := pos + 1 }) := by
        simp [DiskImage.get, h.1, h.2]
        omega
      simp only [pushData, hget]
      refine Eq.trans (ih (pos + 1) ?_ ?_) ?_
      · exact ⟨h.1, rfl⟩
      · simp only
        omega
      · rw [DiskImage.slice_succ]
        simp [DiskImage.slice, Nat.add_assoc, Nat.add_comm 1 n]

/-!
## Phases
-/

/-- From every card in `P` the bytes have these answers and lead to `Q`. -/
def Answers (P : SPI -> Prop) (bytes answers : List (BitVec 8))
    (Q : SPI -> Prop) : Prop :=
  forall c, P c -> (exchange bytes c).1 = answers ∧ Q (exchange bytes c).2

namespace Answers

variable {P Q R : SPI -> Prop} {first second a b : List (BitVec 8)}

theorem nil : Answers P [] [] P :=
  fun _ h => ⟨rfl, h⟩

theorem single {v w : BitVec 8}
    (h : forall c, P c -> (c.transfer v).rxVal = w ∧ Q (c.transfer v)) :
    Answers P [v] [w] Q := by
  intro c hc
  obtain ⟨hVal, hNext⟩ := h c hc
  exact ⟨by simp [exchange, hVal], hNext⟩

theorem append (h : Answers P first a Q) (h' : Answers Q second b R) :
    Answers P (first ++ second) (a ++ b) R := by
  intro c hc
  obtain ⟨hFirst, hMid⟩ := h c hc
  obtain ⟨hSecond, hLast⟩ := h' _ hMid
  rw [exchange_append]
  exact ⟨by rw [hFirst, hSecond], hLast⟩

theorem cons {v w : BitVec 8}
    (h : forall c, P c -> (c.transfer v).rxVal = w ∧ Q (c.transfer v))
    (h' : Answers Q second b R) : Answers P (v :: second) (w :: b) R :=
  (single h).append h'

theorem replicate {v w : BitVec 8}
    (h : forall c, P c -> (c.transfer v).rxVal = w ∧ P (c.transfer v))
    (n : Nat) : Answers P (List.replicate n v) (List.replicate n w) P := by
  induction n with
  | zero =>
      exact nil
  | succ n ih =>
      exact cons h ih

end Answers

/-- A selected card in a state, with its buffers and its image. -/
structure Shows (state : SPIState) (mosi miso : List (BitVec 8))
    (image : DiskImage) (c : SPI) : Prop where
  state : c.state = state
  mosi : c.mosiBuf = mosi
  miso : c.misoBuf = miso
  image : c.diskImage = image
  selected : c.controlReg.getLsbD 9 = false

def Idle (image : DiskImage) : SPI -> Prop :=
  Shows .STATE_IDLE [] [] image

/-- A card in the middle of a command. -/
def Receives (mosi : List (BitVec 8)) (image : DiskImage) (c : SPI) : Prop :=
  Shows .STATE_RECEIVING mosi [] image c ∧ c.doWrite = false

/-- A card with answers left, before a block or not. -/
def Replies (write : Bool) (miso : List (BitVec 8)) (image : DiskImage)
    (c : SPI) : Prop :=
  Shows .STATE_TRANSMITTING c.mosiBuf miso image c ∧ c.doWrite = write ∧
    (write = true -> c.writeCount = 0)

def Awaits (image : DiskImage) (c : SPI) : Prop :=
  Shows .STATE_WAIT_FOR_DATA [] [] image c ∧ c.writeCount = 0

/-- A card that has received some bytes of a block. -/
def Stores (n : Nat) (image : DiskImage) (c : SPI) : Prop :=
  Shows .STATE_DO_WRITE_BLOCK [] [] image c ∧ c.writeCount = n

/-- An idle card, selected or not. -/
structure Quiet (image : DiskImage) (c : SPI) : Prop where
  state : c.state = .STATE_IDLE
  mosi : c.mosiBuf = []
  miso : c.misoBuf = []
  image : c.diskImage = image

theorem Quiet.new (image : DiskImage) : Quiet image (SPI.new image) :=
  ⟨rfl, rfl, rfl, rfl⟩

theorem Quiet.high {image : DiskImage} {c : SPI} (h : Quiet image c) :
    (c.transfer 0xff#8).rxVal = 0xff#8 ∧ Quiet image (c.transfer 0xff#8) := by
  have hnext :
      c.transfer 0xff#8 = { c with doWrite := false, rxVal := 0xff#8 } := by
    simp [transfer, h.state]
  rw [hnext]
  exact ⟨rfl, ⟨h.state, h.mosi, h.miso, h.image⟩⟩

theorem write16_control (v : BitVec 16) (c : SPI) :
    c.write16 0#16 v = { c with controlReg := v } := by
  simp only [write16, write8, if_true]
  congr 1
  ext i hi
  by_cases h : i < 8 <;> simp [h] <;> interval_cases i <;> simp

theorem Quiet.control {image : DiskImage} {c : SPI} (h : Quiet image c)
    (v : BitVec 16) : Quiet image (c.write16 0#16 v) := by
  rw [write16_control]
  exact ⟨h.state, h.mosi, h.miso, h.image⟩

theorem Quiet.select {image : DiskImage} {c : SPI} (h : Quiet image c) :
    Idle image (c.write16 0#16 1#16) := by
  rw [write16_control]
  exact ⟨h.state, h.mosi, h.miso, h.image, by simp⟩

theorem Idle.quiet {image : DiskImage} {c : SPI} (h : Idle image c) :
    Quiet image c :=
  ⟨h.state, h.mosi, h.miso, h.image⟩

theorem Idle.high {image : DiskImage} (c : SPI) (h : Idle image c) :
    (c.transfer 0xff#8).rxVal = 0xff#8 ∧ Idle image (c.transfer 0xff#8) := by
  have hnext :
      c.transfer 0xff#8 = { c with doWrite := false, rxVal := 0xff#8 } := by
    simp [transfer, h.state]
  rw [hnext]
  exact ⟨rfl, ⟨h.state, h.mosi, h.miso, h.image, h.selected⟩⟩

theorem answers_idle (n : Nat) (image : DiskImage) :
    Answers (Idle image) (List.replicate n 0xff#8) (List.replicate n 0xff#8)
      (Idle image) :=
  Answers.replicate Idle.high n

theorem write16_transfer (v : BitVec 16) (c : SPI) :
    c.write16 2#16 v = c.transfer (v.setWidth 8) := by
  simp [write16, write8]

theorem read16_transfer (c : SPI) :
    c.read16 2#16 = c.rxVal.setWidth 16 := by
  simp [read16, read8]

/-!
## Commands
-/

/-- The commands that the card knows. -/
def commands : List (BitVec 8) :=
  [0x77#8, 0x40#8, 0x48#8, 0x50#8, 0x69#8, 0x51#8, 0x58#8, 0x7a#8]

theorem transmitReady_short {c : SPI}
    (hCmd : c.mosiBuf.getD 0 0#8 ∈ commands)
    (hShort : c.mosiBuf.length < 7) : c.transmitReady = (false, c) := by
  simp only [commands, List.mem_cons, List.not_mem_nil, or_false] at hCmd
  have hlen : ¬ 7 <= c.mosiBuf.length := by omega
  rcases hCmd with h | h | h | h | h | h | h | h <;>
    simp only [transmitReady, h, hlen] <;> simp

theorem transfer_receiving {c : SPI} {v : BitVec 8} {ready : Bool} {next : SPI}
    (h : c.state = .STATE_RECEIVING)
    (hReady :
      ({ c with mosiBuf := c.mosiBuf ++ [v] } : SPI).transmitReady =
        (ready, next)) :
    c.transfer v =
      { (if ready then { next with state := .STATE_TRANSMITTING } else next)
        with rxVal := 0xff#8 } := by
  rw [h] at hReady
  unfold transfer
  rw [h]
  simp only [hReady]

theorem receives_next {cmd v : BitVec 8} (args : List (BitVec 8))
    {image : DiskImage} (hCmd : cmd ∈ commands) (hShort : args.length < 5)
    (c : SPI) (hCard : Receives (cmd :: args) image c) :
    (c.transfer v).rxVal = 0xff#8 ∧
      Receives (cmd :: (args ++ [v])) image (c.transfer v) := by
  obtain ⟨h, hWrite⟩ := hCard
  have hready :
      ({ c with mosiBuf := c.mosiBuf ++ [v] } : SPI).transmitReady =
        (false, { c with mosiBuf := c.mosiBuf ++ [v] }) := by
    apply transmitReady_short
    · simpa [h.mosi] using hCmd
    · simp [h.mosi]
      omega
  rw [transfer_receiving h.state hready]
  exact ⟨rfl,
    ⟨h.state, by simp [h.mosi], h.miso, h.image, h.selected⟩, hWrite⟩

theorem receives_first {cmd : BitVec 8} {image : DiskImage}
    (hCmd : cmd ∈ commands) (c : SPI) (h : Idle image c) :
    (c.transfer cmd).rxVal = 0xff#8 ∧
      Receives [cmd] image (c.transfer cmd) := by
  have hne : (cmd != 0xff#8) = true := by
    simp only [commands, List.mem_cons, List.not_mem_nil, or_false] at hCmd
    rcases hCmd with h | h | h | h | h | h | h | h <;> subst h <;> rfl
  have hnext :
      c.transfer cmd =
        { c with
          doWrite := false, state := .STATE_RECEIVING
          mosiBuf := c.mosiBuf ++ [cmd], rxVal := 0xff#8 } := by
    simp only [transfer, h.state, hne, h.selected, Bool.not_false,
      Bool.and_self, if_true]
  rw [hnext]
  exact ⟨rfl, ⟨rfl, by simp [h.mosi], h.miso, h.image, h.selected⟩, rfl⟩

/-- A command and its arguments are taken in silence. -/
theorem answers_command {cmd : BitVec 8} (a0 a1 a2 a3 crc : BitVec 8)
    (image : DiskImage) (hCmd : cmd ∈ commands) :
    Answers (Idle image) [cmd, a0, a1, a2, a3, crc] (List.replicate 6 0xff#8)
      (Receives [cmd, a0, a1, a2, a3, crc] image) := by
  refine Answers.cons (receives_first hCmd) ?_
  refine Answers.cons (receives_next [] hCmd (by simp)) ?_
  refine Answers.cons (receives_next [a0] hCmd (by simp)) ?_
  refine Answers.cons (receives_next [a0, a1] hCmd (by simp)) ?_
  refine Answers.cons (receives_next [a0, a1, a2] hCmd (by simp)) ?_
  exact Answers.single
    (receives_next [a0, a1, a2, a3] hCmd (by simp))

/-- The plain answers. -/
def plainAnswer (cmd : BitVec 8) : List (BitVec 8) :=
  if cmd = 0x69#8 then [0x00#8]
  else if cmd = 0x7a#8 then [0x01#8, 0x00#8, 0x00#8, 0x00#8, 0x00#8]
  else [0x01#8]

def plainCommands : List (BitVec 8) :=
  [0x77#8, 0x40#8, 0x48#8, 0x50#8, 0x69#8, 0x7a#8]

theorem mem_commands_of_plain {cmd : BitVec 8} (h : cmd ∈ plainCommands) :
    cmd ∈ commands := by
  simp only [plainCommands, commands, List.mem_cons, List.not_mem_nil,
    or_false] at h ⊢
  tauto

theorem transmitReady_plain {c : SPI} {cmd : BitVec 8}
    (hCmd : cmd ∈ plainCommands) (hMosi : c.mosiBuf.getD 0 0#8 = cmd)
    (hFull : 7 <= c.mosiBuf.length) :
    c.transmitReady = (true, { c with misoBuf := plainAnswer cmd }) := by
  simp only [plainCommands, List.mem_cons, List.not_mem_nil, or_false] at hCmd
  rcases hCmd with h | h | h | h | h | h <;> subst h <;>
    simp only [transmitReady, hMosi, hFull] <;> simp [plainAnswer]

theorem transmitReady_read {c : SPI} (hMosi : c.mosiBuf.getD 0 0#8 = 0x51#8)
    (hFull : 7 <= c.mosiBuf.length) :
    c.transmitReady = (true, c.readBlock) := by
  simp only [transmitReady, hMosi, hFull]
  simp

theorem transmitReady_write {c : SPI} (hMosi : c.mosiBuf.getD 0 0#8 = 0x58#8)
    (hFull : 7 <= c.mosiBuf.length) :
    c.transmitReady = (true, c.writeBlock) := by
  simp only [transmitReady, hMosi, hFull]
  simp

/-- A command whose last byte makes its answer ready. -/
theorem answers_full {cmd : BitVec 8} (a0 a1 a2 a3 crc v : BitVec 8)
    {image : DiskImage} {P : SPI -> Prop} (hCmd : cmd ∈ commands)
    (hReady : forall c,
      Receives [cmd, a0, a1, a2, a3, crc, v] image c ->
        exists next, c.transmitReady = (true, next) ∧
          P { next with state := .STATE_TRANSMITTING, rxVal := 0xff#8 }) :
    Answers (Idle image) [cmd, a0, a1, a2, a3, crc, v]
      (List.replicate 7 0xff#8) P := by
  refine @Answers.append _ _ _ [cmd, a0, a1, a2, a3, crc] [v]
    (List.replicate 6 0xff#8) [0xff#8]
    (answers_command a0 a1 a2 a3 crc image hCmd) ?_
  apply Answers.single
  intro c hCard
  obtain ⟨h, hWrite⟩ := hCard
  obtain ⟨next, hNext, hP⟩ := hReady { c with mosiBuf := c.mosiBuf ++ [v] }
    ⟨⟨h.state, by simp [h.mosi], h.miso, h.image, h.selected⟩, hWrite⟩
  rw [transfer_receiving h.state hNext]
  exact ⟨rfl, hP⟩

theorem answers_plain {cmd : BitVec 8} (a0 a1 a2 a3 crc v : BitVec 8)
    (image : DiskImage) (hCmd : cmd ∈ plainCommands) :
    Answers (Idle image) [cmd, a0, a1, a2, a3, crc, v]
      (List.replicate 7 0xff#8) (Replies false (plainAnswer cmd) image) := by
  apply answers_full a0 a1 a2 a3 crc v (mem_commands_of_plain hCmd)
  intro c hCard
  obtain ⟨h, hWrite⟩ := hCard
  refine ⟨_, transmitReady_plain hCmd (by simp [h.mosi]) (by simp [h.mosi]),
    ⟨rfl, rfl, rfl, h.image, h.selected⟩, hWrite, by simp⟩

/-- The address in the arguments of a command. -/
def address (a0 a1 a2 a3 : BitVec 8) : Nat :=
  (a0 ++ a1 ++ a2 ++ a3 : BitVec 32).toNat

/-- The answer to a command that reads a block. -/
def readAnswer (block : List (BitVec 8)) : List (BitVec 8) :=
  [0xff#8, 0xff#8, 0x00#8, 0xff#8, 0xfe#8] ++ block ++ [0x77#8, 0x77#8]

theorem answers_read (a0 a1 a2 a3 crc v : BitVec 8) {image : DiskImage}
    (hFail : image.fail = false)
    (hInside : address a0 a1 a2 a3 + 512 <= image.size) :
    Answers (Idle image) [0x51#8, a0, a1, a2, a3, crc, v]
      (List.replicate 7 0xff#8)
      (Replies false (readAnswer (image.slice (address a0 a1 a2 a3) 512))
        { image with pos := address a0 a1 a2 a3 + 512 }) := by
  apply answers_full a0 a1 a2 a3 crc v (by simp [commands])
  intro c hCard
  obtain ⟨h, hWrite⟩ := hCard
  have hblock :
      c.readBlock =
        { c with
          misoBuf := readAnswer (image.slice (address a0 a1 a2 a3) 512)
          diskImage := { image with pos := address a0 a1 a2 a3 + 512 } } := by
    have harg : (argument c.mosiBuf).toNat = address a0 a1 a2 a3 := by
      simp [argument, address, h.mosi]
    have hseek :
        c.diskImage.seekg (address a0 a1 a2 a3) =
          { image with pos := address a0 a1 a2 a3 } := by
      simp [DiskImage.seekg, h.image, hFail]
    unfold readBlock
    simp only [harg, hseek]
    rw [pushData_eq 512 (address a0 a1 a2 a3) ⟨hFail, rfl⟩ hInside]
    simp [readAnswer, DiskImage.slice]
  refine ⟨_, transmitReady_read (by simp [h.mosi]) (by simp [h.mosi]), ?_⟩
  rw [hblock]
  exact ⟨⟨rfl, rfl, rfl, rfl, h.selected⟩, hWrite, by simp⟩

/-- The answer to a command that writes a block. -/
def writeAnswer : List (BitVec 8) :=
  [0xff#8, 0x00#8, 0xff#8, 0xff#8, 0x05#8]

theorem answers_write (a0 a1 a2 a3 crc v : BitVec 8) {image : DiskImage}
    (hFail : image.fail = false) :
    Answers (Idle image) [0x58#8, a0, a1, a2, a3, crc, v]
      (List.replicate 7 0xff#8)
      (Replies true writeAnswer
        { image with pos := address a0 a1 a2 a3 }) := by
  apply answers_full a0 a1 a2 a3 crc v (by simp [commands])
  intro c hCard
  obtain ⟨h, hWrite⟩ := hCard
  have harg : (argument c.mosiBuf).toNat = address a0 a1 a2 a3 := by
    simp [argument, address, h.mosi]
  have hseek :
      c.diskImage.seekg (address a0 a1 a2 a3) =
        { image with pos := address a0 a1 a2 a3 } := by
    simp [DiskImage.seekg, h.image, hFail]
  refine ⟨_, transmitReady_write (by simp [h.mosi]) (by simp [h.mosi]), ?_⟩
  simp only [writeBlock, harg, hseek]
  exact ⟨⟨rfl, rfl, rfl, rfl, h.selected⟩, rfl, fun _ => rfl⟩

/-!
## Replies and blocks
-/

/-- The card sends its reply whatever it is sent. -/
theorem answers_reply (write : Bool) (miso bytes : List (BitVec 8))
    (image : DiskImage) (hLength : bytes.length = miso.length) :
    Answers (Replies write miso image) bytes miso (Replies write [] image) := by
  induction miso generalizing bytes with
  | nil =>
      rw [List.length_nil, List.length_eq_zero_iff] at hLength
      rw [hLength]
      exact Answers.nil
  | cons b rest ih =>
      cases bytes with
      | nil =>
          simp at hLength
      | cons v bytes =>
          refine Answers.cons ?_ (ih bytes (by simpa using hLength))
          intro c hCard
          obtain ⟨h, hWrite, hCount⟩ := hCard
          have hnext :
              c.transfer v = { c with rxVal := b, misoBuf := rest } := by
            simp [transfer, h.state, h.miso]
          rw [hnext]
          exact ⟨rfl, ⟨h.state, rfl, rfl, h.image, h.selected⟩, hWrite, hCount⟩

/-- The byte after a reply ends it. -/
theorem Replies.ends {image : DiskImage} {v : BitVec 8} (c : SPI)
    (hCard : Replies false [] image c) :
    (c.transfer v).rxVal = 0xff#8 ∧ Idle image (c.transfer v) := by
  obtain ⟨h, hWrite, _⟩ := hCard
  have hnext :
      c.transfer v =
        { c with rxVal := 0xff#8, state := .STATE_IDLE, mosiBuf := [] } := by
    simp [transfer, h.state, h.miso, hWrite]
  rw [hnext]
  exact ⟨rfl, ⟨rfl, rfl, h.miso, h.image, h.selected⟩⟩

theorem Replies.waits {image : DiskImage} {v : BitVec 8} (c : SPI)
    (hCard : Replies true [] image c) :
    (c.transfer v).rxVal = 0xff#8 ∧ Awaits image (c.transfer v) := by
  obtain ⟨h, hWrite, hCount⟩ := hCard
  have hnext :
      c.transfer v =
        { c with
          rxVal := 0xff#8, state := .STATE_WAIT_FOR_DATA, mosiBuf := [] } := by
    simp [transfer, h.state, h.miso, hWrite]
  rw [hnext]
  exact ⟨rfl, ⟨rfl, rfl, h.miso, h.image, h.selected⟩, hCount rfl⟩

theorem Awaits.high {image : DiskImage} (c : SPI) (hCard : Awaits image c) :
    (c.transfer 0xff#8).rxVal = 0xff#8 ∧
      Awaits image (c.transfer 0xff#8) := by
  obtain ⟨h, hCount⟩ := hCard
  have hnext : c.transfer 0xff#8 = { c with rxVal := 0xff#8 } := by
    simp [transfer, h.state]
  rw [hnext]
  exact ⟨rfl, ⟨h.state, h.mosi, h.miso, h.image, h.selected⟩, hCount⟩

theorem Awaits.token {image : DiskImage} (c : SPI) (hCard : Awaits image c) :
    (c.transfer 0xfe#8).rxVal = 0xff#8 ∧
      Stores 0 image (c.transfer 0xfe#8) := by
  obtain ⟨h, hCount⟩ := hCard
  have hnext :
      c.transfer 0xfe#8 =
        { c with rxVal := 0xff#8, state := .STATE_DO_WRITE_BLOCK } := by
    simp [transfer, h.state]
  rw [hnext]
  exact ⟨rfl, ⟨rfl, h.mosi, h.miso, h.image, h.selected⟩, hCount⟩

theorem Stores.data {n : Nat} {image : DiskImage} {v : BitVec 8}
    (hn : n < 512) (c : SPI) (hCard : Stores n image c) :
    (c.transfer v).rxVal = 0xff#8 ∧
      Stores (n + 1) (image.put v) (c.transfer v) := by
  obtain ⟨h, hCount⟩ := hCard
  have hnext :
      c.transfer v =
        { c with
          writeCount := n + 1, diskImage := image.put v, rxVal := 0xff#8 } := by
    simp [transfer, h.state, hCount, hn, h.image]
  rw [hnext]
  exact ⟨rfl, ⟨h.state, h.mosi, h.miso, rfl, h.selected⟩, rfl⟩

/-- The bytes of a block are stored in silence. -/
theorem answers_data (block : List (BitVec 8)) {n : Nat} (image : DiskImage)
    (h : n + block.length <= 512) :
    Answers (Stores n image) block (List.replicate block.length 0xff#8)
      (Stores (n + block.length) (image.putAll block)) := by
  induction block generalizing n image with
  | nil =>
      exact Answers.nil
  | cons v rest ih =>
      simp only [List.length_cons] at h
      have hrest := ih (n := n + 1) (image.put v) (by omega)
      rw [Nat.add_assoc, Nat.add_comm 1] at hrest
      exact Answers.cons (Stores.data (by omega)) hrest

theorem Stores.crc {n : Nat} {image : DiskImage} {v : BitVec 8}
    (hLow : 512 <= n) (hHigh : n < 514) (c : SPI) (hCard : Stores n image c) :
    (c.transfer v).rxVal = 0xaa#8 ∧
      Stores (n + 1) image (c.transfer v) := by
  obtain ⟨h, hCount⟩ := hCard
  have hnot : ¬ n < 512 := by omega
  have hnext :
      c.transfer v = { c with writeCount := n + 1, rxVal := 0xaa#8 } := by
    simp [transfer, h.state, hCount, hnot, hHigh]
  rw [hnext]
  exact ⟨rfl, ⟨h.state, h.mosi, h.miso, h.image, h.selected⟩, rfl⟩

theorem Stores.accepts {n : Nat} {image : DiskImage} {v : BitVec 8}
    (hn : 514 <= n) (c : SPI) (hCard : Stores n image c) :
    (c.transfer v).rxVal = 0x05#8 ∧ Idle image (c.transfer v) := by
  obtain ⟨h, hCount⟩ := hCard
  have hData : ¬ n < 512 := by omega
  have hCrc : ¬ n < 514 := by omega
  have hnext :
      c.transfer v =
        { c with
          writeCount := n + 1, rxVal := 0x05#8, state := .STATE_IDLE } := by
    simp [transfer, h.state, hCount, hData, hCrc]
  rw [hnext]
  exact ⟨rfl, ⟨rfl, h.mosi, h.miso, h.image, h.selected⟩⟩

/-!
## Whole conversations
-/

/-- A plain command between high bytes. -/
theorem answers_plain_padded {cmd : BitVec 8} (a0 a1 a2 a3 crc : BitVec 8)
    (n : Nat) (image : DiskImage) (hCmd : cmd ∈ plainCommands) :
    Answers (Idle image)
      (0xff#8 :: [cmd, a0, a1, a2, a3, crc, 0xff#8] ++
        (List.replicate (plainAnswer cmd).length 0xff#8 ++
          (0xff#8 :: List.replicate n 0xff#8)))
      (0xff#8 :: List.replicate 7 0xff#8 ++
        (plainAnswer cmd ++ (0xff#8 :: List.replicate n 0xff#8)))
      (Idle image) := by
  refine Answers.cons Idle.high ?_
  refine Answers.append (answers_plain a0 a1 a2 a3 crc 0xff#8 image hCmd) ?_
  refine Answers.append
    (answers_reply false _ _ image (List.length_replicate ..)) ?_
  exact Answers.cons Replies.ends (answers_idle n image)

/-- A command that reads a block, between high bytes. -/
theorem answers_read_padded (a0 a1 a2 a3 crc : BitVec 8) (n : Nat)
    {image : DiskImage} (hFail : image.fail = false)
    (hInside : address a0 a1 a2 a3 + 512 <= image.size) :
    Answers (Idle image)
      (0xff#8 :: [0x51#8, a0, a1, a2, a3, crc, 0xff#8] ++
        (List.replicate 519 0xff#8 ++ (0xff#8 :: List.replicate n 0xff#8)))
      (0xff#8 :: List.replicate 7 0xff#8 ++
        (readAnswer (image.slice (address a0 a1 a2 a3) 512) ++
          (0xff#8 :: List.replicate n 0xff#8)))
      (Idle { image with pos := address a0 a1 a2 a3 + 512 }) := by
  refine Answers.cons Idle.high ?_
  refine Answers.append (answers_read a0 a1 a2 a3 crc 0xff#8 hFail hInside) ?_
  refine Answers.append (answers_reply false _ _ _ ?_) ?_
  · simp only [readAnswer, List.length_replicate, List.length_append,
      DiskImage.slice_length, List.length_cons, List.length_nil]
  · exact Answers.cons Replies.ends (answers_idle n _)

/-- A command that writes a block, between high bytes. -/
theorem answers_write_padded (a0 a1 a2 a3 crc : BitVec 8) (n : Nat)
    {image : DiskImage} (hFail : image.fail = false) :
    Answers (Idle image)
      (0xff#8 :: [0x58#8, a0, a1, a2, a3, crc, 0xff#8] ++
        (List.replicate 5 0xff#8 ++ (0xff#8 :: List.replicate n 0xff#8)))
      (0xff#8 :: List.replicate 7 0xff#8 ++
        (writeAnswer ++ (0xff#8 :: List.replicate n 0xff#8)))
      (Awaits { image with pos := address a0 a1 a2 a3 }) := by
  refine Answers.cons Idle.high ?_
  refine Answers.append (answers_write a0 a1 a2 a3 crc 0xff#8 hFail) ?_
  refine Answers.append (answers_reply true _ _ _ rfl) ?_
  exact Answers.cons Replies.waits (Answers.replicate Awaits.high n)

/-- A block after its command: the first answer that is not high stands for
the checksum, and the packet response is the third. -/
theorem answers_block (block : List (BitVec 8)) (crc1 crc2 v : BitVec 8)
    (n : Nat) (image : DiskImage) (hBlock : block.length = 512) :
    Answers (Awaits image)
      (0xff#8 :: 0xfe#8 :: (block ++
        (crc1 :: crc2 :: v :: List.replicate n 0xff#8)))
      (0xff#8 :: 0xff#8 :: (List.replicate 512 0xff#8 ++
        (0xaa#8 :: 0xaa#8 :: 0x05#8 :: List.replicate n 0xff#8)))
      (Idle (image.putAll block)) := by
  refine Answers.cons Awaits.high ?_
  refine Answers.cons Awaits.token ?_
  have hdata := answers_data (n := 0) block image (by omega)
  rw [hBlock] at hdata
  refine Answers.append hdata ?_
  refine Answers.cons (Stores.crc (by omega) (by omega)) ?_
  refine Answers.cons (Stores.crc (by omega) (by omega)) ?_
  exact Answers.cons (Stores.accepts (by omega)) (answers_idle n _)

end SPI
end Sim
end S80x86
