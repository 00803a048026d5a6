import S80x86.Bios.Display
import S80x86.Foundation.InPlace

/-!
# Scrolling a window

A window is scrolled in place, row by row.  The order of the rows makes the
result the same as if all rows were moved at once.
-/

open Foundation

namespace S80x86
namespace Bios
namespace Display

open FarMemory

/-!
## Cells
-/

def OnPage (k : Nat × Nat) : Prop := k.1 < 25 ∧ k.2 < 80

/-- The address of a cell of the text page. -/
def address (r c : Nat) : BitVec 16 :=
  cellAddress ((BitVec.ofNat 8 r).setWidth 16) ((BitVec.ofNat 8 c).setWidth 16)

def cell (r c : Nat) (m : FarMemory) : BitVec 16 :=
  m.readw frameBufferSegment (address r c)

def pageCell (m : FarMemory) (k : Nat × Nat) : BitVec 16 := cell k.1 k.2 m

def setCell (r c : Nat) (v : BitVec 16) (m : FarMemory) : FarMemory :=
  m.writew frameBufferSegment (address r c) v

theorem toNat_address {r c : Nat} (h : OnPage (r, c)) :
    (address r c).toNat = 0x8000 + (r * 80 + c) * 2 := by
  obtain ⟨hr, hc⟩ := h
  dsimp only at hr hc
  have hrow : r % 2 ^ 8 % 2 ^ 16 = r := by omega
  have hcol : c % 2 ^ 8 % 2 ^ 16 = c := by omega
  simp only [address, cellAddress, frameBufferOffset, BitVec.toNat_add,
    BitVec.toNat_mul, BitVec.toNat_setWidth, BitVec.toNat_ofNat, hrow, hcol]
  omega

theorem apart_address {k k' : Nat × Nat} (h : OnPage k) (h' : OnPage k')
    (hne : k' ≠ k) : Apart (address k.1 k.2) (address k'.1 k'.2) := by
  have hnat := toNat_address h
  have hnat' := toNat_address h'
  obtain ⟨hr, hc⟩ := h
  obtain ⟨hr', hc'⟩ := h'
  have hindex : k'.1 * 80 + k'.2 ≠ k.1 * 80 + k.2 := by
    intro heq
    apply hne
    apply Prod.ext <;> omega
  refine ⟨?_, ?_, ?_⟩ <;> intro heq
  all_goals
    have htoNat := congrArg BitVec.toNat heq
    simp only [BitVec.toNat_add, BitVec.toNat_ofNat, hnat, hnat'] at htoNat
    omega

theorem cell_setCell {r c : Nat} (v : BitVec 16) (m : FarMemory) :
    cell r c (setCell r c v m) = v :=
  readw_writew_same _ _ _ _

theorem cell_setCell_other {k k' : Nat × Nat} (h : OnPage k) (h' : OnPage k')
    (hne : k' ≠ k) (v : BitVec 16) (m : FarMemory) :
    cell k'.1 k'.2 (setCell k.1 k.2 v m) = cell k'.1 k'.2 m :=
  readw_writew_apart (apart_address h h' hne) _ _ _

/-!
## Rows in some order
-/

/-- The columns of a window as numbers. -/
def cols (left right : Nat) : List Nat := List.range' left (right + 1 - left)

/-- What a cell of a row gets: the cell of another row, or a blank. -/
def moved (source : Nat -> Option Nat) (blank : BitVec 16) (k : Nat × Nat)
    (m : FarMemory) : BitVec 16 :=
  match source k.1 with
  | some r => cell r k.2 m
  | none => blank

def moveCell (source : Nat -> Option Nat) (blank : BitVec 16) (k : Nat × Nat)
    (m : FarMemory) : FarMemory :=
  setCell k.1 k.2 (moved source blank k m) m

def moveRow (source : Nat -> Option Nat) (blank : BitVec 16) (left right : Nat)
    (r : Nat) (m : FarMemory) : FarMemory :=
  (cols left right).foldl (fun m c => moveCell source blank (r, c) m) m

/-- The order of the cells when the rows come in the order of `before`. -/
def Before (before : Nat -> Nat -> Prop) (k k' : Nat × Nat) : Prop :=
  before k.1 k'.1 ∨ k.1 = k'.1 ∧ k.2 < k'.2

def cells (order : List Nat) (left right : Nat) : List (Nat × Nat) :=
  order.flatMap fun r => (cols left right).map fun c => (r, c)

theorem mem_cells {order : List Nat} {left right : Nat} {k : Nat × Nat} :
    k ∈ cells order left right ↔
      k.1 ∈ order ∧ left ≤ k.2 ∧ k.2 ≤ right := by
  simp only [cells, cols, List.mem_flatMap, List.mem_map, List.mem_range'_1]
  constructor
  · rintro ⟨r, hr, c, hc, rfl⟩
    exact ⟨hr, hc.1, by omega⟩
  · rintro ⟨hr, hleft, hright⟩
    exact ⟨k.1, hr, k.2, ⟨hleft, by omega⟩, rfl⟩

theorem pairwise_cells {before : Nat -> Nat -> Prop} {order : List Nat}
    (h : order.Pairwise before) (left right : Nat) :
    (cells order left right).Pairwise (Before before) := by
  rw [cells, List.pairwise_flatMap]
  constructor
  · intro r _
    rw [List.pairwise_map]
    exact (List.pairwise_lt_range' 1).imp fun hlt => Or.inr ⟨rfl, hlt⟩
  · refine h.imp ?_
    intro r r' hlt k hk k' hk'
    obtain ⟨c, _, rfl⟩ := List.mem_map.mp hk
    obtain ⟨c', _, rfl⟩ := List.mem_map.mp hk'
    exact Or.inl hlt

theorem before_irrefl {before : Nat -> Nat -> Prop}
    (hirrefl : forall r, ¬ before r r) (k : Nat × Nat) :
    ¬ Before before k k := by
  rintro (h | ⟨-, h⟩)
  · exact hirrefl _ h
  · exact Nat.lt_irrefl _ h

theorem readsAhead_moved {before : Nat -> Nat -> Prop}
    {source : Nat -> Option Nat} {k : Nat × Nat} (hcol : k.2 < 80)
    (hsource : forall r', source k.1 = some r' -> r' < 25 ∧ ¬ before r' k.1)
    (blank : BitVec 16) :
    InPlace.ReadsAhead OnPage pageCell (Before before) k
      (moved source blank k) := by
  intro s t hst
  unfold moved
  cases hsrc : source k.1 with
  | none =>
      rfl
  | some r' =>
      have hrow := hsource r' hsrc
      apply hst (r', k.2) ⟨hrow.1, hcol⟩
      rintro (h | ⟨-, h⟩)
      · exact hrow.2 h
      · exact Nat.lt_irrefl _ h

theorem foldl_moveRow (source : Nat -> Option Nat) (blank : BitVec 16)
    (left right : Nat) (order : List Nat) (m : FarMemory) :
    order.foldl (fun m r => moveRow source blank left right r m) m =
      (cells order left right).foldl (fun m k => moveCell source blank k m)
        m := by
  simp only [cells, moveRow, List.foldl_flatMap, List.foldl_map]

/-- Rows whose sources do not come before them are moved all at once. -/
theorem cell_moveRows {before : Nat -> Nat -> Prop}
    (hirrefl : forall r, ¬ before r r) {order : List Nat}
    (hsorted : order.Pairwise before) (horder : forall r, r ∈ order -> r < 25)
    {left right : Nat} (hright : right < 80) {source : Nat -> Option Nat}
    (hsource : forall r r', r ∈ order -> source r = some r' ->
      r' < 25 ∧ ¬ before r' r)
    (blank : BitVec 16) (m : FarMemory) {r c : Nat} (hr : r < 25)
    (hc : c < 80) :
    cell r c (order.foldl (fun m r => moveRow source blank left right r m) m) =
      if r ∈ order ∧ left ≤ c ∧ c ≤ right then moved source blank (r, c) m
      else cell r c m := by
  rw [foldl_moveRow]
  show pageCell _ (r, c) = _
  have hpage : forall k, k ∈ cells order left right -> OnPage k := by
    intro k hk
    obtain ⟨hrow, -, hcol⟩ := mem_cells.mp hk
    exact ⟨horder _ hrow, by omega⟩
  have hsets : forall k, k ∈ cells order left right ->
      InPlace.Sets OnPage pageCell k
        (moved source blank k)
        (moveCell source blank k) := by
    intro k hk
    refine ⟨fun m => cell_setCell _ m, ?_⟩
    intro m k' hk' hne
    exact cell_setCell_other (hpage k hk) hk' hne _ m
  by_cases hmem : (r, c) ∈ cells order left right
  · rw [if_pos (mem_cells.mp hmem)]
    exact InPlace.foldl_entry_of_mem (before_irrefl hirrefl)
      (pairwise_cells hsorted left right) hpage hsets
      (fun k hk => readsAhead_moved (hpage k hk).2
        (hsource k.1 · (mem_cells.mp hk).1) blank) m hmem
  · rw [if_neg fun h => hmem (mem_cells.mpr h)]
    exact InPlace.foldl_entry_of_not_mem hsets m ⟨hr, hc⟩ hmem

/-!
## The loops over the rows
-/

/-- A space with an attribute. -/
def blank (attr : BitVec 8) : BitVec 16 := attr ++ 0x20#8

theorem blank_eq (attr : BitVec 8) :
    attr.setWidth 16 <<< 8 ||| 0x20#16 = blank attr := by
  revert attr
  decide

theorem columns_eq (left right : BitVec 8) :
    columns left right =
      (cols left.toNat right.toNat).map (BitVec.ofNat 8) := rfl

theorem clearRow_eq {source : Nat -> Option Nat} {row : Nat}
    (hsource : source row = none) (left right attr : BitVec 8)
    (m : FarMemory) :
    clearRow (BitVec.ofNat 8 row) left right attr m =
      moveRow source (blank attr) left.toNat right.toNat row m := by
  simp only [clearRow, columns_eq, List.foldl_map, blank_eq, moveRow,
    moveCell, moved, hsource]
  rfl

theorem copyRow_eq {source : Nat -> Option Nat} {row srcRow : Nat}
    (hsource : source row = some srcRow) (left right attr : BitVec 8)
    (m : FarMemory) :
    copyRow (BitVec.ofNat 8 row) (BitVec.ofNat 8 srcRow) left right attr m =
      moveRow source (blank attr) left.toNat right.toNat row m := by
  simp only [copyRow, columns_eq, List.foldl_map, moveRow, moveCell, moved,
    hsource]
  rfl

theorem toInt_eq_toNat {x : BitVec 8} (h : x.toNat < 128) :
    x.toInt = x.toNat :=
  BitVec.toInt_eq_toNat_of_lt (by omega)

/-- The rows of a window as numbers. -/
def lines (top bottom : Nat) : List Nat := List.range' top (bottom + 1 - top)

theorem mem_lines {top bottom r : Nat} :
    r ∈ lines top bottom ↔ top ≤ r ∧ r ≤ bottom := by
  rw [lines, List.mem_range'_1]
  omega

theorem rows_eq {top bottom : BitVec 8} (htop : top.toNat ≤ bottom.toNat)
    (hbottom : bottom.toNat ≤ 24) :
    rows top bottom = (lines top.toNat bottom.toNat).map Int.ofNat := by
  have hlength : ((bottom.toNat : Int) + 1 - top.toNat).toNat =
      bottom.toNat + 1 - top.toNat := by omega
  rw [rows, toInt_eq_toNat (by omega), toInt_eq_toNat (by omega), hlength,
    lines, List.range'_eq_map_range, List.map_map]
  rfl

/-- Where a row of the window comes from when `n` rows are scrolled up. -/
def lineBelow (bottom n r : Nat) : Option Nat :=
  if r + n ≤ bottom then some (r + n) else none

/-- Where the code takes a row from when `n` rows are scrolled down. -/
def lineAbove (n r : Nat) : Option Nat :=
  if n ≤ r then some (r - n) else none

section Loops

variable {top bottom : BitVec 8} (htop : top.toNat ≤ bottom.toNat)
  (hbottom : bottom.toNat ≤ 24)
include htop hbottom

theorem scrollUpBy_eq (left right attr : BitVec 8) {count : BitVec 8}
    (hcount : count.toNat < 128) (m : FarMemory) :
    scrollUpBy top bottom left right attr count m =
      (lines top.toNat bottom.toNat).foldl
        (fun m r =>
          moveRow (lineBelow bottom.toNat count.toNat) (blank attr)
            left.toNat right.toNat r m) m := by
  unfold scrollUpBy
  rw [rows_eq htop hbottom, List.foldl_map]
  apply List.foldl_ext
  intro m r hr
  rw [mem_lines] at hr
  rw [toInt_eq_toNat hcount, toInt_eq_toNat (by omega)]
  by_cases hinside : r + count.toNat ≤ bottom.toNat
  · have hsource : lineBelow bottom.toNat count.toNat r =
        some (r + count.toNat) := if_pos hinside
    have hnot : ¬ Int.ofNat r + (count.toNat : Int) > bottom.toNat := by
      rw [Int.ofNat_eq_natCast]
      omega
    rw [if_neg hnot, <- copyRow_eq hsource]
    rfl
  · have hsource : lineBelow bottom.toNat count.toNat r = none :=
      if_neg hinside
    have hpast : Int.ofNat r + (count.toNat : Int) > bottom.toNat := by
      rw [Int.ofNat_eq_natCast]
      omega
    rw [if_pos hpast, <- clearRow_eq hsource]
    rfl

theorem scrollDownBy_eq (left right attr : BitVec 8) {count : BitVec 8}
    (hcount : count.toNat < 128) (m : FarMemory) :
    scrollDownBy top bottom left right attr count m =
      (lines top.toNat bottom.toNat).reverse.foldl
        (fun m r =>
          moveRow (lineAbove count.toNat) (blank attr) left.toNat right.toNat
            r m) m := by
  unfold scrollDownBy
  rw [rows_eq htop hbottom, <- List.map_reverse, List.foldl_map]
  apply List.foldl_ext
  intro m r hr
  rw [toInt_eq_toNat hcount]
  by_cases hinside : count.toNat ≤ r
  · have hsource : lineAbove count.toNat r = some (r - count.toNat) :=
      if_pos hinside
    have hdiff : Int.ofNat r - (count.toNat : Int) = (r - count.toNat : Nat) := by
      rw [Int.ofNat_eq_natCast]
      omega
    rw [hdiff, if_neg (by omega), <- copyRow_eq hsource]
    rfl
  · have hsource : lineAbove count.toNat r = none := if_neg hinside
    have hpast : Int.ofNat r - (count.toNat : Int) < 0 := by
      rw [Int.ofNat_eq_natCast]
      omega
    rw [if_pos hpast, <- clearRow_eq hsource]
    rfl

end Loops

/-!
## Counts that are negative as signed characters
-/

def IsZero (m : FarMemory) : Prop := forall a, m.bytes a = 0#8

theorem IsZero.readw {m : FarMemory} (h : IsZero m) (segment a : BitVec 16) :
    m.readw segment a = 0#16 := by
  unfold FarMemory.readw readb
  rw [h, h]
  rfl

theorem IsZero.writew {m : FarMemory} (h : IsZero m) (segment a : BitVec 16) :
    IsZero (m.writew segment a 0#16) := by
  intro b
  simp only [FarMemory.writew, writeb, h b]
  split
  · rfl
  · split <;> rfl

theorem IsZero.copyRow {m : FarMemory} (h : IsZero m)
    (dstRow srcRow left right attr : BitVec 8) :
    IsZero (copyRow dstRow srcRow left right attr m) := by
  unfold Display.copyRow
  apply List.foldlRecOn _ _ h
  intro m hm col _
  dsimp only
  rw [hm.readw]
  exact hm.writew _ _

theorem toInt_neg {x : BitVec 8} (h : 128 ≤ x.toNat) : x.toInt < 0 := by
  rw [BitVec.toInt_eq_toNat_cond]
  have hlt := x.isLt
  omega

section Loops

variable {top bottom count : BitVec 8} (hcount : 128 ≤ count.toNat)
include hcount

theorem IsZero.scrollUpBy {m : FarMemory} (h : IsZero m)
    (left right attr : BitVec 8) :
    IsZero (scrollUpBy top bottom left right attr count m) := by
  have hneg := toInt_neg hcount
  unfold Display.scrollUpBy
  apply List.foldlRecOn _ _ h
  intro m hm row hrow
  obtain ⟨k, hk, rfl⟩ := List.mem_map.mp hrow
  rw [List.mem_range] at hk
  rw [if_neg (by omega)]
  exact hm.copyRow _ _ _ _ _

theorem IsZero.scrollDownBy (htop : top.toNat < 128) {m : FarMemory}
    (h : IsZero m) (left right attr : BitVec 8) :
    IsZero (scrollDownBy top bottom left right attr count m) := by
  have hneg := toInt_neg hcount
  have hpos := toInt_eq_toNat htop
  unfold Display.scrollDownBy
  apply List.foldlRecOn _ _ h
  intro m hm row hrow
  obtain ⟨k, hk, rfl⟩ := List.mem_map.mp (List.mem_reverse.mp hrow)
  rw [if_neg (by omega)]
  exact hm.copyRow _ _ _ _ _

end Loops

/-!
## What is asked for
-/

/-- The window of a call lies on the page. -/
structure Window (regs : CallRegs) : Prop where
  top_le : (Reg.h regs.cx).toNat ≤ (Reg.h regs.dx).toNat
  bottom_le : (Reg.h regs.dx).toNat ≤ 24
  left_le : (Reg.l regs.cx).toNat ≤ (Reg.l regs.dx).toNat
  right_le : (Reg.l regs.dx).toNat ≤ 79

def InWindow (regs : CallRegs) (r c : Nat) : Prop :=
  ((Reg.h regs.cx).toNat ≤ r ∧ r ≤ (Reg.h regs.dx).toNat) ∧
    (Reg.l regs.cx).toNat ≤ c ∧ c ≤ (Reg.l regs.dx).toNat

instance (regs : CallRegs) (r c : Nat) : Decidable (InWindow regs r c) :=
  inferInstanceAs (Decidable (_ ∧ _))

/-- Each row of the window holds the row it comes from, or blanks, and no other
cell of the page has changed. -/
def Scrolled (regs : CallRegs) (source : Nat -> Option Nat)
    (before after : FarMemory) : Prop :=
  forall r c, r < 25 -> c < 80 ->
    cell r c after =
      if InWindow regs r c then
        moved source (blank (Reg.h regs.bx)) (r, c) before
      else cell r c before

/-- The row that scrolling up moves to a row; all rows are cleared when `AL`
is zero. -/
def rowFromBelow (regs : CallRegs) (r : Nat) : Option Nat :=
  let n := (Reg.l regs.ax).toNat
  if n ≠ 0 ∧ r + n ≤ (Reg.h regs.dx).toNat then some (r + n) else none

/-- The row that scrolling down moves to a row. -/
def rowFromAbove (regs : CallRegs) (r : Nat) : Option Nat :=
  let n := (Reg.l regs.ax).toNat
  if n ≠ 0 ∧ (Reg.h regs.cx).toNat + n ≤ r then some (r - n) else none

section Regs

variable {regs : CallRegs} (hwindow : Window regs)
include hwindow

theorem scrolled_up {count : BitVec 8} (hcount : count.toNat < 128)
    (m : FarMemory) :
    Scrolled regs (lineBelow (Reg.h regs.dx).toNat count.toNat) m
      (scrollUpBy (Reg.h regs.cx) (Reg.h regs.dx) (Reg.l regs.cx)
        (Reg.l regs.dx) (Reg.h regs.bx) count m) := by
  have htop := hwindow.top_le
  have hbottom := hwindow.bottom_le
  have hright := hwindow.right_le
  intro r c hr hc
  have hsorted : (lines (Reg.h regs.cx).toNat
      (Reg.h regs.dx).toNat).Pairwise (fun r r' => r < r') :=
    List.pairwise_lt_range' 1
  have hrow : forall r, r ∈ lines (Reg.h regs.cx).toNat
      (Reg.h regs.dx).toNat -> r < 25 := by
    intro r hr
    rw [mem_lines] at hr
    omega
  have hsource : forall r r', r ∈ lines (Reg.h regs.cx).toNat
      (Reg.h regs.dx).toNat ->
      lineBelow (Reg.h regs.dx).toNat count.toNat r = some r' ->
        r' < 25 ∧ ¬ r' < r := by
    intro r r' hr hr'
    unfold lineBelow at hr'
    split at hr'
    · cases hr'
      omega
    · cases hr'
  rw [scrollUpBy_eq htop hbottom _ _ _ hcount,
    cell_moveRows Nat.lt_irrefl hsorted hrow (by omega) hsource _ m hr hc]
  exact if_congr (by rw [mem_lines]; exact Iff.rfl) rfl rfl

theorem scrolled_down {count : BitVec 8} (hcount : count.toNat < 128)
    (m : FarMemory) :
    Scrolled regs (lineAbove count.toNat) m
      (scrollDownBy (Reg.h regs.cx) (Reg.h regs.dx) (Reg.l regs.cx)
        (Reg.l regs.dx) (Reg.h regs.bx) count m) := by
  have htop := hwindow.top_le
  have hbottom := hwindow.bottom_le
  have hright := hwindow.right_le
  intro r c hr hc
  have hsorted : (lines (Reg.h regs.cx).toNat
      (Reg.h regs.dx).toNat).reverse.Pairwise (fun r r' => r' < r) :=
    List.pairwise_reverse.mpr (List.pairwise_lt_range' 1)
  have hrow : forall r, r ∈ (lines (Reg.h regs.cx).toNat
      (Reg.h regs.dx).toNat).reverse -> r < 25 := by
    intro r hr
    rw [List.mem_reverse, mem_lines] at hr
    omega
  have hsource : forall r r', r ∈ (lines (Reg.h regs.cx).toNat
      (Reg.h regs.dx).toNat).reverse ->
      lineAbove count.toNat r = some r' -> r' < 25 ∧ ¬ r < r' := by
    intro r r' hr hr'
    have hbound := hrow r hr
    unfold lineAbove at hr'
    split at hr'
    · cases hr'
      omega
    · cases hr'
  rw [scrollDownBy_eq htop hbottom _ _ _ hcount,
    @cell_moveRows (fun r r' => r' < r) Nat.lt_irrefl _ hsorted hrow _ _
      (by omega) _ hsource _ m r c hr hc]
  exact if_congr (by rw [List.mem_reverse, mem_lines]; exact Iff.rfl) rfl rfl

omit hwindow in
/-- Two ways to say where the rows of a window come from. -/
theorem Scrolled.congr {source source' : Nat -> Option Nat}
    {m m' : FarMemory} (h : Scrolled regs source m m')
    (hsource : forall r, (Reg.h regs.cx).toNat ≤ r ->
      r ≤ (Reg.h regs.dx).toNat -> source r = source' r) :
    Scrolled regs source' m m' := by
  intro r c hr hc
  rw [h r c hr hc]
  by_cases hin : InWindow regs r c
  · rw [if_pos hin, if_pos hin]
    unfold moved
    rw [hsource r hin.1.1 hin.1.2]
  · rw [if_neg hin, if_neg hin]

end Regs

theorem blank_ne_zero (attr : BitVec 8) : blank attr ≠ 0#16 := by
  rw [<- blank_eq]
  revert attr
  decide

def zeroMemory : FarMemory := { bytes := fun _ => 0#8, written := [] }

theorem isZero_zeroMemory : IsZero zeroMemory := fun _ => rfl

/-- On memory that stays zero no row of the window may have been cleared. -/
theorem not_scrolled_of_isZero {regs : CallRegs} (hwindow : Window regs)
    {source : Nat -> Option Nat} {m : FarMemory} (hzero : IsZero m) {r : Nat}
    (htop : (Reg.h regs.cx).toNat ≤ r) (hbottom : r ≤ (Reg.h regs.dx).toNat)
    (hsource : source r = none) : ¬ Scrolled regs source zeroMemory m := by
  intro h
  have hb := hwindow.bottom_le
  have hl := hwindow.left_le
  have hright := hwindow.right_le
  have hcell := h r (Reg.l regs.cx).toNat (by omega) (by omega)
  rw [if_pos ⟨⟨htop, hbottom⟩, Nat.le_refl _, hl⟩] at hcell
  unfold cell moved at hcell
  simp only [hsource] at hcell
  rw [hzero.readw] at hcell
  exact blank_ne_zero _ hcell.symm

section Iff

variable {regs : CallRegs} (hwindow : Window regs)
include hwindow

theorem scrollUp_iff :
    (forall m, Scrolled regs (rowFromBelow regs) m (scrollUp regs m)) ↔
      (Reg.l regs.ax).toNat < 128 := by
  have htop := hwindow.top_le
  have hbottom := hwindow.bottom_le
  constructor
  · intro h
    by_contra hlarge
    have hne : Reg.l regs.ax ≠ 0#8 := by
      intro h0
      rw [h0] at hlarge
      exact hlarge (by decide)
    have hscroll := h zeroMemory
    unfold scrollUp at hscroll
    dsimp only at hscroll
    rw [if_neg hne] at hscroll
    refine not_scrolled_of_isZero hwindow
      (IsZero.scrollUpBy (by omega) isZero_zeroMemory _ _ _) (Nat.le_refl _)
      htop ?_ hscroll
    exact if_neg (by omega)
  · intro hsmall m
    unfold scrollUp
    dsimp only
    split
    next hzero =>
      refine (scrolled_up hwindow (by decide) m).congr ?_
      intro r _ _
      have hnone : rowFromBelow regs r = none := by
        unfold rowFromBelow
        rw [hzero]
        rfl
      rw [hnone]
      exact if_neg (by rw [BitVec.toNat_ofNat]; omega)
    next hne =>
      refine (scrolled_up hwindow hsmall m).congr ?_
      intro r _ _
      have hpos : (Reg.l regs.ax).toNat ≠ 0 := fun h0 =>
        hne (BitVec.eq_of_toNat_eq h0)
      unfold rowFromBelow lineBelow
      simp only [hpos, ne_eq, not_false_eq_true, true_and]

/-- The rows where the code looks at the first row of the screen instead of
the first row of the window. -/
theorem scrollDown_iff :
    (forall m, Scrolled regs (rowFromAbove regs) m (scrollDown regs m)) ↔
      Reg.l regs.ax = 0#8 ∨ (Reg.l regs.ax).toNat < 128 ∧
        (Reg.h regs.cx = 0#8 ∨
          (Reg.h regs.dx).toNat < (Reg.l regs.ax).toNat) := by
  have htop := hwindow.top_le
  have hbottom := hwindow.bottom_le
  have hleft := hwindow.left_le
  have hright := hwindow.right_le
  by_cases hzero : Reg.l regs.ax = 0#8
  · refine iff_of_true ?_ (Or.inl hzero)
    intro m
    unfold scrollDown
    dsimp only
    rw [if_pos hzero]
    refine (scrolled_down hwindow (by decide) m).congr ?_
    intro r _ _
    have hnone : rowFromAbove regs r = none := by
      unfold rowFromAbove
      rw [hzero]
      rfl
    rw [hnone]
    exact if_neg (by rw [BitVec.toNat_ofNat]; omega)
  · have hpos : (Reg.l regs.ax).toNat ≠ 0 := fun h0 =>
      hzero (BitVec.eq_of_toNat_eq h0)
    have hcode : forall m, scrollDown regs m =
        scrollDownBy (Reg.h regs.cx) (Reg.h regs.dx) (Reg.l regs.cx)
          (Reg.l regs.dx) (Reg.h regs.bx) (Reg.l regs.ax) m := by
      intro m
      unfold scrollDown
      dsimp only
      rw [if_neg hzero]
    simp only [hcode, hzero, false_or]
    constructor
    · intro h
      by_contra hwrong
      have hscroll := h zeroMemory
      by_cases hsmall : (Reg.l regs.ax).toNat < 128
      · -- The first row that the code still copies lies below the edge.
        have hedge : (Reg.h regs.cx).toNat ≠ 0 ∧
            (Reg.l regs.ax).toNat ≤ (Reg.h regs.dx).toNat := by
          constructor
          · intro h0
            exact hwrong ⟨hsmall, Or.inl (BitVec.eq_of_toNat_eq h0)⟩
          · by_contra hlarge
            exact hwrong ⟨hsmall, Or.inr (by omega)⟩
        have hin : InWindow regs
            (max (Reg.h regs.cx).toNat (Reg.l regs.ax).toNat)
            (Reg.l regs.cx).toNat :=
          ⟨⟨by omega, by omega⟩, Nat.le_refl _, hleft⟩
        have hasked := hscroll
          (max (Reg.h regs.cx).toNat (Reg.l regs.ax).toNat)
          (Reg.l regs.cx).toNat (by omega) (by omega)
        have hdone := scrolled_down hwindow hsmall zeroMemory
          (max (Reg.h regs.cx).toNat (Reg.l regs.ax).toNat)
          (Reg.l regs.cx).toNat (by omega) (by omega)
        rw [if_pos hin] at hasked hdone
        rw [hdone] at hasked
        have hcopied : lineAbove (Reg.l regs.ax).toNat
            (max (Reg.h regs.cx).toNat (Reg.l regs.ax).toNat) =
            some (max (Reg.h regs.cx).toNat (Reg.l regs.ax).toNat -
              (Reg.l regs.ax).toNat) := if_pos (by omega)
        have hcleared : rowFromAbove regs
            (max (Reg.h regs.cx).toNat (Reg.l regs.ax).toNat) = none :=
          if_neg (by omega)
        simp only [moved, hcopied, hcleared] at hasked
        unfold cell at hasked
        rw [isZero_zeroMemory.readw] at hasked
        exact blank_ne_zero _ hasked.symm
      · refine not_scrolled_of_isZero hwindow
          (IsZero.scrollDownBy (by omega) (by omega) isZero_zeroMemory _ _ _)
          (Nat.le_refl _) htop ?_ hscroll
        exact if_neg (by omega)
    · rintro ⟨hsmall, hedge⟩ m
      refine (scrolled_down hwindow hsmall m).congr ?_
      intro r hr hr'
      unfold rowFromAbove lineAbove
      rcases hedge with hedge | hedge
      · rw [hedge]
        simp [hpos]
      · rw [if_neg (by omega), if_neg (by omega)]

/-- Scrolling up does what it should for counts below 128, and scrolling down
when, besides, the window starts at the first row or is cleared as a whole. -/
theorem scroll_iff :
    ((forall m, Scrolled regs (rowFromBelow regs) m (scrollUp regs m)) ↔
      (Reg.l regs.ax).toNat < 128) ∧
    ((forall m, Scrolled regs (rowFromAbove regs) m (scrollDown regs m)) ↔
      Reg.l regs.ax = 0#8 ∨ (Reg.l regs.ax).toNat < 128 ∧
        (Reg.h regs.cx = 0#8 ∨
          (Reg.h regs.dx).toNat < (Reg.l regs.ax).toNat)) :=
  ⟨scrollUp_iff hwindow, scrollDown_iff hwindow⟩

end Iff

/-- A window of one cell in row 1, scrolled by one. -/
def secondRow : CallRegs :=
  { bx := 0x0700#16, dx := 0x0100#16, cx := 0x0100#16, ax := 0x0701#16
    es := 0#16, flags := 0#16 }

theorem window_secondRow : Window secondRow :=
  ⟨by decide, by decide, by decide, by decide⟩

theorem scroll_iff_secondRow :
    ((forall m, Scrolled secondRow (rowFromBelow secondRow) m
        (scrollUp secondRow m)) ↔ (Reg.l secondRow.ax).toNat < 128) ∧
    ((forall m, Scrolled secondRow (rowFromAbove secondRow) m
        (scrollDown secondRow m)) ↔
      Reg.l secondRow.ax = 0#8 ∨ (Reg.l secondRow.ax).toNat < 128 ∧
        (Reg.h secondRow.cx = 0#8 ∨
          (Reg.h secondRow.dx).toNat < (Reg.l secondRow.ax).toNat)) :=
  scroll_iff window_secondRow

/-- The row above the window is scrolled into it. -/
theorem scrollDown_copies_row_above :
    ¬ forall regs, Window regs -> forall m,
      Scrolled regs (rowFromBelow regs) m (scrollUp regs m) ∧
        Scrolled regs (rowFromAbove regs) m (scrollDown regs m) := by
  intro h
  have hdown := (h secondRow window_secondRow zeroMemory).2 1 0
    (by omega) (by omega)
  have hcopied : cell 1 0 (scrollDown secondRow zeroMemory) = 0#16 := by
    decide
  have hblank : (if InWindow secondRow 1 0 then
      moved (rowFromAbove secondRow) (blank (Reg.h secondRow.bx)) (1, 0)
        zeroMemory
      else cell 1 0 zeroMemory) = 0x0720#16 := by
    decide
  rw [hcopied, hblank] at hdown
  exact absurd hdown (by decide)

end Display
end Bios
end S80x86
