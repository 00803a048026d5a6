import S80x86.Bios.Machine
import Mathlib.Data.List.TakeWhile
import Mathlib.Tactic.Ring

/-!
# The disk services of the BIOS

A transfer of several sectors goes to the card sector by sector.  The write
loop stops at the first sector that fails, the read loop does not look at what
a sector returned.
-/

namespace S80x86
namespace Bios
namespace Disk

variable {σ : Type}

/-!
## Sectors
-/

/-- The card, and the memory that sectors are read to and written from. -/
structure World (σ : Type) where
  card : σ
  mem : FarMemory

/-- The arguments of `read_sector` and `write_sector`. -/
structure SectorCall where
  sector : BitVec 32
  segment : BitVec 16
  address : BitVec 16

/-- What a call returns, zero for success, and what it leaves. -/
abbrev SectorAccess (σ : Type) :=
  SectorCall -> World σ -> BitVec 16 × World σ

/-!
## The services
-/

def SECTORS_PER_TRACK : BitVec 32 := 63#32
def NUM_HEADS : BitVec 32 := 32#32
def SECTOR_SIZE : BitVec 16 := 512#16
def FLOPPY_TIMEOUT : BitVec 8 := 0x80#8

def setDiskStatus (err : BitVec 8) (p : CallRegs × World σ) :
    CallRegs × World σ :=
  let (regs, w) := p
  let flags := if err ≠ 0#8 then regs.flags ||| CF else regs.flags &&& ~~~CF
  ({ regs with flags := flags, ax := Reg.withH regs.ax err },
    { w with mem := w.mem.writeb Bda.segment Bda.disketteStatus err })

/-- The linear address of the first sector. -/
def lba (regs : CallRegs) : BitVec 32 :=
  let cylinder : BitVec 32 :=
    (Reg.h regs.cx).setWidth 32 |||
      (((Reg.l regs.cx).setWidth 16 &&& 0xc0#16) <<< 2).setWidth 32
  let head : BitVec 32 := (Reg.h regs.dx).setWidth 32
  let sector : BitVec 32 := (Reg.l regs.cx &&& 0x3f#8).setWidth 32
  (cylinder * NUM_HEADS + head) * SECTORS_PER_TRACK + (sector - 1#32)

/-- `++regs->ax.l`. -/
def countSector (regs : CallRegs) : CallRegs :=
  { regs with ax := Reg.withL regs.ax (Reg.l regs.ax + 1#8) }

/-- `for (i = 0; i < count; ++i)`, with the rounds left. -/
def readLoop (readSector : SectorAccess σ) :
    Nat -> BitVec 32 -> BitVec 16 -> CallRegs × World σ -> CallRegs × World σ
  | 0, _, _, p => p
  | i + 1, lba, dst, (regs, w) =>
      let (_, w) := readSector ⟨lba, regs.es, dst⟩ w
      readLoop readSector i (lba + 1#32) (dst + SECTOR_SIZE)
        (countSector regs, w)

def writeLoop (writeSector : SectorAccess σ) :
    Nat -> BitVec 32 -> BitVec 16 -> CallRegs × World σ -> CallRegs × World σ
  | 0, _, _, p => p
  | i + 1, lba, dst, (regs, w) =>
      let (rc, w) := writeSector ⟨lba, regs.es, dst⟩ w
      if rc ≠ 0#16 then ({ regs with flags := regs.flags ||| CF }, w)
      else
        writeLoop writeSector i (lba + 1#32) (dst + SECTOR_SIZE)
          (countSector regs, w)

/-- The registers when a loop starts. -/
def cleared (regs : CallRegs) : CallRegs :=
  { regs with ax := Reg.withL regs.ax 0#8, flags := regs.flags &&& ~~~CF }

/-- `set_disk_status(regs, regs->ax.l != count ? 0xff : 0x00)`. -/
def setTransferStatus (count : BitVec 8) (p : CallRegs × World σ) :
    CallRegs × World σ :=
  setDiskStatus (if Reg.l p.1.ax ≠ count then 0xff#8 else 0x00#8) p

def diskRead (readSector : SectorAccess σ) (regs : CallRegs) (w : World σ) :
    CallRegs × World σ :=
  if Reg.l regs.dx ≠ 0x80#8 then setDiskStatus FLOPPY_TIMEOUT (regs, w)
  else
    let count := Reg.l regs.ax
    setTransferStatus count
      (readLoop readSector count.toNat (lba regs) regs.bx (cleared regs, w))

def diskWrite (writeSector : SectorAccess σ) (regs : CallRegs)
    (w : World σ) : CallRegs × World σ :=
  if Reg.l regs.dx ≠ 0x80#8 then setDiskStatus FLOPPY_TIMEOUT (regs, w)
  else
    let count := Reg.l regs.ax
    setTransferStatus count
      (writeLoop writeSector count.toNat (lba regs) regs.bx (cleared regs, w))

/-!
## Calls in a row
-/

/-- All of the calls, with what they return. -/
def perform (access : SectorAccess σ) :
    List SectorCall -> World σ -> List (BitVec 16) × World σ
  | [], w => ([], w)
  | call :: calls, w =>
      let (rc, w) := access call w
      let (rcs, w) := perform access calls w
      (rc :: rcs, w)

/-- Consecutive sectors, and blocks of memory. -/
def blocks (lba : BitVec 32) (segment dst : BitVec 16) (count : Nat) :
    List SectorCall :=
  (List.range count).map fun i =>
    { sector := lba + BitVec.ofNat 32 i
      segment := segment
      address := dst + SECTOR_SIZE * BitVec.ofNat 16 i }

/-- The calls before the first one that fails. -/
def succeeded (rcs : List (BitVec 16)) : Nat :=
  (rcs.takeWhile fun rc => rc = 0#16).length

theorem length_perform (access : SectorAccess σ) (calls : List SectorCall)
    (w : World σ) : (perform access calls w).1.length = calls.length := by
  induction calls generalizing w with
  | nil => rfl
  | cons call calls ih =>
      change (perform access calls _).1.length + 1 = calls.length + 1
      rw [ih]

theorem length_blocks (lba : BitVec 32) (segment dst : BitVec 16)
    (count : Nat) : (blocks lba segment dst count).length = count := by
  rw [blocks, List.length_map, List.length_range]

theorem blocks_succ (lba : BitVec 32) (segment dst : BitVec 16)
    (count : Nat) :
    blocks lba segment dst (count + 1) =
      ⟨lba, segment, dst⟩ ::
        blocks (lba + 1#32) segment (dst + SECTOR_SIZE) count := by
  have hfirst : (⟨lba + BitVec.ofNat 32 0, segment,
      dst + SECTOR_SIZE * BitVec.ofNat 16 0⟩ : SectorCall) =
        ⟨lba, segment, dst⟩ := by
    simp
  unfold blocks
  rw [List.range_succ_eq_map, List.map_cons, List.map_map, hfirst]
  congr 1
  apply List.map_congr_left
  intro i _
  have hsector : lba + BitVec.ofNat 32 (i + 1) =
      lba + 1#32 + BitVec.ofNat 32 i := by
    rw [BitVec.ofNat_add, BitVec.add_assoc, BitVec.add_comm 1#32]
  have haddress : dst + SECTOR_SIZE * BitVec.ofNat 16 (i + 1) =
      dst + SECTOR_SIZE + SECTOR_SIZE * BitVec.ofNat 16 i := by
    rw [BitVec.ofNat_add, BitVec.mul_add, BitVec.mul_one, BitVec.add_assoc,
      BitVec.add_comm SECTOR_SIZE]
  exact congrArg₂ (fun sector address => SectorCall.mk sector segment address)
    hsector haddress

theorem succeeded_le (rcs : List (BitVec 16)) :
    succeeded rcs ≤ rcs.length :=
  (List.takeWhile_sublist _).length_le

theorem succeeded_eq_length {rcs : List (BitVec 16)} :
    succeeded rcs = rcs.length ↔ forall rc, rc ∈ rcs -> rc = 0#16 := by
  constructor
  · intro h rc hrc
    have hall := (List.takeWhile_sublist _).eq_of_length h
    rw [List.takeWhile_eq_self_iff] at hall
    simpa using hall rc hrc
  · intro h
    unfold succeeded
    rw [List.takeWhile_eq_self_iff.mpr]
    intro rc hrc
    simpa using h rc hrc

/-!
## Loops
-/

section Loops

variable (access : SectorAccess σ)

theorem readLoop_ax (i : Nat) (lba : BitVec 32) (dst : BitVec 16)
    (regs : CallRegs) (w : World σ) :
    Reg.l (readLoop access i lba dst (regs, w)).1.ax =
      Reg.l regs.ax + BitVec.ofNat 8 i := by
  induction i generalizing lba dst regs w with
  | zero => exact (BitVec.add_zero _).symm
  | succ i ih =>
      change Reg.l (readLoop access i _ _ (countSector regs, _)).1.ax = _
      rw [ih, countSector, Reg.l_withL, BitVec.ofNat_add, BitVec.add_assoc,
        BitVec.add_comm 1#8]

theorem readLoop_world (i : Nat) (lba : BitVec 32) (dst : BitVec 16)
    (regs : CallRegs) (w : World σ) :
    (readLoop access i lba dst (regs, w)).2 =
      (perform access (blocks lba regs.es dst i) w).2 := by
  induction i generalizing lba dst regs w with
  | zero => rfl
  | succ i ih =>
      rw [blocks_succ]
      exact ih _ _ (countSector regs) _

/-- The calls that the write loop counts are the ones that succeeded. -/
theorem writeLoop_ax (i : Nat) (lba : BitVec 32) (dst : BitVec 16)
    (regs : CallRegs) (w : World σ) :
    Reg.l (writeLoop access i lba dst (regs, w)).1.ax =
      Reg.l regs.ax + BitVec.ofNat 8
        (succeeded (perform access (blocks lba regs.es dst i) w).1) := by
  induction i generalizing lba dst regs w with
  | zero => exact (BitVec.add_zero _).symm
  | succ i ih =>
      rw [blocks_succ]
      by_cases hrc : (access ⟨lba, regs.es, dst⟩ w).1 = 0#16
      · have hloop : writeLoop access (i + 1) lba dst (regs, w) =
            writeLoop access i (lba + 1#32) (dst + SECTOR_SIZE)
              (countSector regs, (access ⟨lba, regs.es, dst⟩ w).2) := by
          simp [writeLoop, hrc]
        rw [hloop, ih, perform, succeeded, succeeded,
          List.takeWhile_cons_of_pos (by simpa using hrc), List.length_cons,
          BitVec.ofNat_add, countSector, Reg.l_withL, BitVec.add_assoc,
          BitVec.add_comm 1#8]
      · have hloop : writeLoop access (i + 1) lba dst (regs, w) =
            ({ regs with flags := regs.flags ||| CF },
              (access ⟨lba, regs.es, dst⟩ w).2) := by
          simp [writeLoop, hrc]
        rw [hloop, perform, succeeded,
          List.takeWhile_cons_of_neg (by simpa using hrc)]
        exact (BitVec.add_zero _).symm

/-- The write loop ends with the first call that fails. -/
theorem writeLoop_world (i : Nat) (lba : BitVec 32) (dst : BitVec 16)
    (regs : CallRegs) (w : World σ) :
    (writeLoop access i lba dst (regs, w)).2 =
      (perform access ((blocks lba regs.es dst i).take
        (succeeded (perform access (blocks lba regs.es dst i) w).1 + 1)) w).2 := by
  induction i generalizing lba dst regs w with
  | zero => rfl
  | succ i ih =>
      rw [blocks_succ]
      by_cases hrc : (access ⟨lba, regs.es, dst⟩ w).1 = 0#16
      · have hloop : writeLoop access (i + 1) lba dst (regs, w) =
            writeLoop access i (lba + 1#32) (dst + SECTOR_SIZE)
              (countSector regs, (access ⟨lba, regs.es, dst⟩ w).2) := by
          simp [writeLoop, hrc]
        rw [hloop, ih, perform, succeeded, succeeded,
          List.takeWhile_cons_of_pos (by simpa using hrc), List.length_cons,
          List.take_succ_cons]
        rfl
      · have hloop : writeLoop access (i + 1) lba dst (regs, w) =
            ({ regs with flags := regs.flags ||| CF },
              (access ⟨lba, regs.es, dst⟩ w).2) := by
          simp [writeLoop, hrc]
        rw [hloop, perform, succeeded,
          List.takeWhile_cons_of_neg (by simpa using hrc)]
        rfl

end Loops

/-!
## Reports
-/

/-- The calls of a request. -/
def requested (regs : CallRegs) : List SectorCall :=
  blocks (lba regs) regs.es regs.bx (Reg.l regs.ax).toNat

/-- The sectors are transferred up to the first failure.  Those before it are
counted, and the three marks of an error say whether there was one. -/
structure Reports (access : SectorAccess σ) (regs : CallRegs) (w : World σ)
    (p : CallRegs × World σ) : Prop where
  count : (Reg.l p.1.ax).toNat =
    succeeded (perform access (requested regs) w).1
  world : exists err,
    let w' := (perform access ((requested regs).take
      (succeeded (perform access (requested regs) w).1 + 1)) w).2
    p.2 = { w' with
      mem := w'.mem.writeb Bda.segment Bda.disketteStatus err }
  carry : p.1.flags &&& CF ≠ 0#16 ↔
    (Reg.l p.1.ax).toNat < (Reg.l regs.ax).toNat
  ah : Reg.h p.1.ax ≠ 0#8 ↔
    (Reg.l p.1.ax).toNat < (Reg.l regs.ax).toNat
  status : p.2.mem.readb Bda.segment Bda.disketteStatus ≠ 0#8 ↔
    (Reg.l p.1.ax).toNat < (Reg.l regs.ax).toNat

theorem setDiskStatus_carry (err : BitVec 8) (p : CallRegs × World σ) :
    (setDiskStatus err p).1.flags &&& CF ≠ 0#16 ↔ err ≠ 0#8 := by
  by_cases herr : err = 0#8
  · have hflags : (setDiskStatus err p).1.flags = p.1.flags &&& ~~~CF := by
      simp [setDiskStatus, herr]
    rw [hflags, CF, and_not_bit_and_bit]
    simp [herr]
  · have hflags : (setDiskStatus err p).1.flags = p.1.flags ||| CF := by
      simp [setDiskStatus, herr]
    rw [hflags, CF, or_bit_and_bit]
    simp [herr]

theorem setDiskStatus_status (err : BitVec 8) (p : CallRegs × World σ) :
    (setDiskStatus err p).2.mem.readb Bda.segment Bda.disketteStatus = err := by
  unfold setDiskStatus
  rw [FarMemory.readb_writeb, if_pos rfl]

/-- The marks of an error follow from the count. -/
theorem reports_setTransferStatus {access : SectorAccess σ} {regs : CallRegs}
    {w : World σ} {p : CallRegs × World σ}
    (hcount : Reg.l p.1.ax = BitVec.ofNat 8
      (succeeded (perform access (requested regs) w).1))
    (hworld : p.2 = (perform access ((requested regs).take
      (succeeded (perform access (requested regs) w).1 + 1)) w).2) :
    Reports access regs w (setTransferStatus (Reg.l regs.ax) p) := by
  have hle : succeeded (perform access (requested regs) w).1 ≤
      (Reg.l regs.ax).toNat := by
    have h := succeeded_le (perform access (requested regs) w).1
    rwa [length_perform, requested, length_blocks] at h
  have hal : Reg.l (setTransferStatus (Reg.l regs.ax) p).1.ax =
      Reg.l p.1.ax :=
    Reg.l_withH _ _
  have hnat : (Reg.l p.1.ax).toNat =
      succeeded (perform access (requested regs) w).1 := by
    rw [hcount, BitVec.toNat_ofNat]
    omega
  have herr :
      (if Reg.l p.1.ax ≠ Reg.l regs.ax then 0xff#8 else 0x00#8) ≠ 0#8 ↔
        (Reg.l p.1.ax).toNat < (Reg.l regs.ax).toNat := by
    by_cases heq : Reg.l p.1.ax = Reg.l regs.ax
    · simp [heq]
    · have hne : (Reg.l p.1.ax).toNat ≠ (Reg.l regs.ax).toNat :=
        fun h => heq (BitVec.eq_of_toNat_eq h)
      rw [if_pos heq]
      constructor
      · intro _
        omega
      · intro _
        decide
  constructor
  · rw [hal, hnat]
  · refine ⟨if Reg.l p.1.ax ≠ Reg.l regs.ax then 0xff#8 else 0x00#8, ?_⟩
    dsimp only
    rw [<- hworld]
    rfl
  · rw [hal, <- herr]
    exact setDiskStatus_carry _ p
  · rw [hal, <- herr, setTransferStatus, setDiskStatus, Reg.h_withH]
  · rw [hal, <- herr, setTransferStatus, setDiskStatus_status]

section Transfers

variable (readSector writeSector : SectorAccess σ) (regs : CallRegs)
variable (w : World σ)

theorem diskWrite_reports (h : Reg.l regs.dx = 0x80#8) :
    Reports writeSector regs w (diskWrite writeSector regs w) := by
  unfold diskWrite
  rw [if_neg (not_not.mpr h)]
  apply reports_setTransferStatus
  · rw [writeLoop_ax, cleared, Reg.l_withL, BitVec.zero_add]
    rfl
  · rw [writeLoop_world]
    rfl

theorem diskRead_count (h : Reg.l regs.dx = 0x80#8) :
    Reg.l (diskRead readSector regs w).1.ax = Reg.l regs.ax := by
  unfold diskRead
  rw [if_neg (not_not.mpr h)]
  change Reg.l (Reg.withH _ _) = _
  rw [Reg.l_withH, readLoop_ax, cleared, Reg.l_withL, BitVec.zero_add,
    BitVec.ofNat_toNat, BitVec.setWidth_eq]

/-- A read that meets no failing sector reports what it did, and no other read
does. -/
theorem diskRead_reports_iff (h : Reg.l regs.dx = 0x80#8) :
    Reports readSector regs w (diskRead readSector regs w) ↔
      forall rc, rc ∈ (perform readSector (requested regs) w).1 ->
        rc = 0#16 := by
  have hlength : (perform readSector (requested regs) w).1.length =
      (Reg.l regs.ax).toNat := by
    rw [length_perform, requested, length_blocks]
  rw [<- succeeded_eq_length]
  constructor
  · intro hreports
    rw [<- hreports.count, diskRead_count readSector regs w h, hlength]
  · intro hall
    unfold diskRead
    rw [if_neg (not_not.mpr h)]
    apply reports_setTransferStatus
    · rw [readLoop_ax, cleared, Reg.l_withL, BitVec.zero_add, hall, hlength]
    · rw [readLoop_world, List.take_of_length_le]
      · rfl
      · rw [hall, hlength, requested, length_blocks]
        omega

theorem disk_reports_iff (h : Reg.l regs.dx = 0x80#8) :
    Reports writeSector regs w (diskWrite writeSector regs w) ∧
      (Reports readSector regs w (diskRead readSector regs w) ↔
        forall rc, rc ∈ (perform readSector (requested regs) w).1 ->
          rc = 0#16) :=
  ⟨diskWrite_reports writeSector regs w h,
    diskRead_reports_iff readSector regs w h⟩

end Transfers

/-- One sector of drive 0x80. -/
def oneSector : CallRegs where
  bx := 0x7c00#16
  dx := 0x0080#16
  cx := 0x0001#16
  ax := 0x0201#16
  es := 0#16
  flags := 0#16

/-- A card that refuses all sectors. -/
def refuses : SectorAccess Unit := fun _ w => (0xffff#16, w)

def refused : World Unit where
  card := ()
  mem := { bytes := fun _ => 0#8, written := [] }

theorem disk_reports_iff_oneSector :
    Reports refuses oneSector refused (diskWrite refuses oneSector refused) ∧
      (Reports refuses oneSector refused
        (diskRead refuses oneSector refused) ↔
        forall rc, rc ∈ (perform refuses (requested oneSector) refused).1 ->
          rc = 0#16) :=
  disk_reports_iff refuses refuses oneSector refused (by decide)

/-- A read of one sector that the card refuses counts the sector. -/
theorem diskRead_counts_refused :
    ¬ forall (readSector writeSector : SectorAccess Unit) (regs : CallRegs)
        (w : World Unit), Reg.l regs.dx = 0x80#8 ->
      Reports readSector regs w (diskRead readSector regs w) ∧
        Reports writeSector regs w (diskWrite writeSector regs w) := by
  intro h
  have hcount :=
    (h refuses refuses oneSector refused (by decide)).1.count
  revert hcount
  decide

end Disk
end Bios
end S80x86
