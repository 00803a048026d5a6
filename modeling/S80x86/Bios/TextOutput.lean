import S80x86.Bios.Scroll

/-!
# Text on the screen

Wherever the cursor is, a character leaves it on the text page.  From there on
nothing but the page is written.
-/

namespace S80x86
namespace Bios
namespace Display

open FarMemory

/-!
## Writes
-/

/-- The bytes of the text page. -/
def OnTextPage (a : BitVec 20) : Prop :=
  0xb8000 ≤ a.toNat ∧ a.toNat < 0xb8000 + 25 * 80 * 2

/-- All that was written since lies on the text page. -/
def DrawsOn (m m' : FarMemory) : Prop :=
  exists new, m'.written = new ++ m.written ∧ forall a, a ∈ new -> OnTextPage a

theorem DrawsOn.refl (m : FarMemory) : DrawsOn m m :=
  ⟨[], rfl, fun _ h => absurd h List.not_mem_nil⟩

theorem DrawsOn.trans {m m' m'' : FarMemory} (h : DrawsOn m m')
    (h' : DrawsOn m' m'') : DrawsOn m m'' := by
  obtain ⟨new, hnew, hpage⟩ := h
  obtain ⟨new', hnew', hpage'⟩ := h'
  refine ⟨new' ++ new, by rw [hnew', hnew, List.append_assoc], ?_⟩
  intro a ha
  rcases List.mem_append.mp ha with ha | ha
  · exact hpage' a ha
  · exact hpage a ha

theorem DrawsOn.foldl {α : Type} {f : FarMemory -> α -> FarMemory}
    {xs : List α} (h : forall m x, x ∈ xs -> DrawsOn m (f m x))
    (m : FarMemory) : DrawsOn m (xs.foldl f m) := by
  apply List.foldlRecOn xs f (motive := fun m' => DrawsOn m m') (DrawsOn.refl m)
  intro m' hm' x hx
  exact hm'.trans (h m' x hx)

theorem onTextPage_phys {a : BitVec 16} (h : 0x8000 ≤ a.toNat)
    (h' : a.toNat < 0x8000 + 25 * 80 * 2) :
    OnTextPage (phys frameBufferSegment a) := by
  unfold OnTextPage phys frameBufferSegment
  simp only [BitVec.toNat_add, BitVec.toNat_shiftLeft, BitVec.toNat_setWidth,
    BitVec.toNat_ofNat]
  omega

theorem DrawsOn.writeb {a : BitVec 16} (h : 0x8000 ≤ a.toNat)
    (h' : a.toNat < 0x8000 + 25 * 80 * 2) (v : BitVec 8) (m : FarMemory) :
    DrawsOn m (m.writeb frameBufferSegment a v) := by
  refine ⟨[phys frameBufferSegment a], rfl, ?_⟩
  intro b hb
  rw [List.mem_singleton] at hb
  rw [hb]
  exact onTextPage_phys h h'

/-- An address on the page that a word can start at. -/
theorem DrawsOn.writew {a : BitVec 16} (h : 0x8000 ≤ a.toNat)
    (h' : a.toNat + 1 < 0x8000 + 25 * 80 * 2) (v : BitVec 16)
    (m : FarMemory) : DrawsOn m (m.writew frameBufferSegment a v) := by
  have hnext : (a + 1#16).toNat = a.toNat + 1 := by
    rw [BitVec.toNat_add, BitVec.toNat_ofNat]
    omega
  exact (DrawsOn.writeb h (by omega) _ m).trans
    (DrawsOn.writeb (by omega) (by omega) _ _)

/-- The address of a cell, from the cursor's row and a column. -/
theorem toNat_cellAddress {row col : BitVec 16} (hrow : row.toNat < 25)
    (hcol : col.toNat < 80) :
    (cellAddress row col).toNat = 0x8000 + (row.toNat * 80 + col.toNat) * 2 := by
  simp only [cellAddress, frameBufferOffset, BitVec.toNat_add,
    BitVec.toNat_mul, BitVec.toNat_ofNat]
  omega

theorem drawsOn_moveRow {source : Nat -> Option Nat} {blank : BitVec 16}
    {left right r : Nat} (hr : r < 25) (hright : right < 80) (m : FarMemory) :
    DrawsOn m (moveRow source blank left right r m) := by
  apply DrawsOn.foldl
  intro m c hc
  have hc' : c < 80 := by
    rw [cols, List.mem_range'_1] at hc
    omega
  have haddress : (address r c).toNat = 0x8000 + (r * 80 + c) * 2 :=
    toNat_address ⟨hr, hc'⟩
  apply DrawsOn.writew
  · dsimp only
    omega
  · dsimp only
    omega

theorem drawsOn_scrollUpOne (m : FarMemory) : DrawsOn m (scrollUpOne m) := by
  unfold scrollUpOne
  rw [scrollUpBy_eq (by decide) (by decide) _ _ _ (by decide)]
  apply DrawsOn.foldl
  intro m r hr
  rw [mem_lines] at hr
  exact drawsOn_moveRow (Nat.lt_of_le_of_lt hr.2 (by decide)) (by decide) m

/-!
## The stages of a character
-/

namespace Screen

/-- The position in the CRT controller. -/
def cursorPos (s : Screen) : BitVec 16 := s.idxRegs 0xe#8 ++ s.idxRegs 0xf#8

def OnScreen (s : Screen) : Prop := s.cursorPos.toNat < 25 * 80

theorem toNat_cursorPos (s : Screen) :
    s.cursorPos.toNat =
      (s.idxRegs 0xe#8).toNat * 256 + (s.idxRegs 0xf#8).toNat := by
  unfold cursorPos
  rw [BitVec.toNat_append, Nat.shiftLeft_eq,
    Nat.mul_comm, <- Nat.two_pow_add_eq_or_of_lt (BitVec.isLt _)]

theorem readCursor_fst (s : Screen) :
    s.readCursor.1 =
      { row := (s.cursorPos / 80#16).setWidth 8
        col := (s.cursorPos % 80#16).setWidth 8 } := by
  have hpos (h l : BitVec 8) :
      h.setWidth 16 <<< 8 ||| l.setWidth 16 = h ++ l := by
    apply BitVec.eq_of_getLsbD_eq
    intro i hi
    rw [BitVec.getLsbD_append]
    by_cases hlt : i < 8
    · simp [hlt, hi]
    · simp [hlt, hi, BitVec.getLsbD_of_ge l i (by omega)]
  unfold readCursor crtcRegRead cursorPos
  simp only [hpos]

theorem readCursor_row {s : Screen} (h : s.OnScreen) :
    s.readCursor.1.row.toNat < 25 := by
  unfold OnScreen at h
  rw [readCursor_fst]
  simp only [BitVec.toNat_setWidth, BitVec.toNat_udiv, BitVec.toNat_ofNat,
    Nat.reducePow, Nat.reduceMod]
  omega

theorem readCursor_col (s : Screen) : s.readCursor.1.col.toNat < 80 := by
  rw [readCursor_fst]
  simp only [BitVec.toNat_setWidth, BitVec.toNat_umod, BitVec.toNat_ofNat,
    Nat.reducePow, Nat.reduceMod]
  omega

/-- A cursor of the row it came from, and what was drawn for it. -/
structure Stage (row : BitVec 8) (mem : FarMemory) (p : Cursor × Screen) :
    Prop where
  row_eq : p.1.row = row
  col_le : p.1.col.toNat ≤ 80
  draws : row.toNat < 25 -> DrawsOn mem p.2.mem

theorem drawsOn_putByte {c : Cursor} (hrow : c.row.toNat < 25)
    (hcol : c.col.toNat < 80) (v : BitVec 8) (s : Screen) :
    DrawsOn s.mem (s.putByte c v).mem := by
  have haddress := @toNat_cellAddress (c.row.setWidth 16) (c.col.setWidth 16)
    (by rw [BitVec.toNat_setWidth]; omega)
    (by rw [BitVec.toNat_setWidth]; omega)
  simp only [BitVec.toNat_setWidth] at haddress
  apply DrawsOn.writeb
  · omega
  · omega

theorem drawsOn_clearLine {c : Cursor} (hrow : c.row.toNat < 25)
    (s : Screen) : DrawsOn s.mem (s.clearLine c).mem := by
  apply DrawsOn.foldl
  intro mem m hm
  have hm' : m < 80 := by
    rw [List.mem_range'_1] at hm
    omega
  have haddress := @toNat_cellAddress (c.row.setWidth 16) (BitVec.ofNat 16 m)
    (by rw [BitVec.toNat_setWidth]; omega)
    (by rw [BitVec.toNat_ofNat]; omega)
  simp only [BitVec.toNat_setWidth, BitVec.toNat_ofNat] at haddress
  apply DrawsOn.writew
  · omega
  · omega

/-- One character is drawn, and the column is moved behind it. -/
theorem stage_putByte {c : Cursor} (hcol : c.col.toNat < 80) (v : BitVec 8)
    (s : Screen) :
    Stage c.row s.mem ({ c with col := c.col + 1 }, s.putByte c v) where
  row_eq := rfl
  col_le := by
    dsimp only
    bv_omega
  draws hrow := drawsOn_putByte hrow hcol v s

theorem Stage.doBackspace {row : BitVec 8} {mem : FarMemory} (i : Nat)
    {p : Cursor × Screen} (h : Stage row mem p) :
    Stage row mem (doBackspace i p) := by
  induction i generalizing p with
  | zero => exact h
  | succ i ih =>
      obtain ⟨c, s⟩ := p
      have hrow : c.row = row := h.row_eq
      have hcol : c.col.toNat ≤ 80 := h.col_le
      unfold Screen.doBackspace
      split
      next hpos =>
        have hsub : (c.col - 1).toNat = c.col.toNat - 1 := by bv_omega
        apply ih
        refine ⟨hrow, ?_, ?_⟩
        · dsimp only
          omega
        · intro hlt
          refine (h.draws hlt).trans (drawsOn_putByte ?_ ?_ _ s)
          · rw [hrow]
            exact hlt
          · dsimp only
            omega
      next => exact h

theorem Stage.clearLine {row : BitVec 8} {mem : FarMemory} {c : Cursor}
    {s : Screen} (h : Stage row mem (c, s)) (hcol : 0 < c.col.toNat) :
    Stage row mem
      ({ c with col := c.col - 1 }, s.clearLine { c with col := c.col - 1 }) where
  row_eq := h.row_eq
  col_le := by
    have hle : c.col.toNat ≤ 80 := h.col_le
    dsimp only
    bv_omega
  draws hlt := by
    refine (h.draws hlt).trans (drawsOn_clearLine ?_ s)
    rw [show c.row = row from h.row_eq]
    exact hlt

/-- The cursor and the page before the cursor goes to the next row. -/
def edited (ch : BitVec 8) (s : Screen) : Cursor × Screen :=
  let cursor := s.readCursor.1
  let p := ({ cursor with col := cursor.col + 1 },
    s.readCursor.2.putByte cursor ch)
  if ch = 0x08#8 then doBackspace 2 p
  else if ch = 0x0d#8 || ch = 0x0a#8 then
    let cursor := { p.1 with col := p.1.col - 1 }
    (cursor, p.2.clearLine cursor)
  else p

/-- A cursor behind the last column, or after a line feed. -/
def nextRow (ch : BitVec 8) (cursor : Cursor) : Cursor :=
  if cursor.col = 80#8 || ch = 0x0a#8 then
    { col := 0#8, row := cursor.row + 1 }
  else cursor

/-- Below the last row the page is scrolled. -/
def keptOnPage (cursor : Cursor) (s : Screen) : Cursor × Screen :=
  if cursor.row.toNat >= 25 then
    ({ cursor with row := 24#8 }, { s with mem := scrollUpOne s.mem })
  else (cursor, s)

def landed (ch : BitVec 8) (p : Cursor × Screen) : Cursor × Screen :=
  keptOnPage (nextRow ch p.1) p.2

theorem emitChar_eq (ch : BitVec 8) (s : Screen) :
    s.emitChar ch =
      (landed ch (edited ch s)).2.writeCursor (landed ch (edited ch s)).1 := by
  unfold emitChar edited landed nextRow keptOnPage
  by_cases hbackspace : ch = 0x08#8
  · subst hbackspace
    rfl
  · simp only [if_neg hbackspace]

theorem stage_edited (ch : BitVec 8) (s : Screen) :
    Stage s.readCursor.1.row s.mem (edited ch s) := by
  have hcol := s.readCursor_col
  have htyped := stage_putByte hcol ch s.readCursor.2
  unfold edited
  dsimp only
  split
  next => exact htyped.doBackspace 2
  next =>
    split
    next =>
      apply htyped.clearLine
      dsimp only
      bv_omega
    next => exact htyped

theorem nextRow_col (ch : BitVec 8) {c : Cursor} (h : c.col.toNat ≤ 80) :
    (nextRow ch c).col.toNat < 80 := by
  unfold nextRow
  split
  next => exact Nat.zero_lt_succ 79
  next hne =>
    have hcol : c.col ≠ 80#8 := by
      intro heq
      apply hne
      simp [heq]
    bv_omega

theorem landed_row (ch : BitVec 8) (p : Cursor × Screen) :
    (landed ch p).1.row.toNat < 25 := by
  unfold landed keptOnPage
  split
  next => exact Nat.lt_succ_self 24
  next h => exact Nat.lt_of_not_ge h

theorem landed_col (ch : BitVec 8) {p : Cursor × Screen}
    (h : p.1.col.toNat ≤ 80) : (landed ch p).1.col.toNat < 80 := by
  unfold landed keptOnPage
  split
  next => exact nextRow_col ch h
  next => exact nextRow_col ch h

theorem drawsOn_landed (ch : BitVec 8) (p : Cursor × Screen) :
    DrawsOn p.2.mem (landed ch p).2.mem := by
  unfold landed keptOnPage
  split
  next => exact drawsOn_scrollUpOne p.2.mem
  next => exact DrawsOn.refl _

/-- The position in the controller and the word in the data area are those of
a cell of the page. -/
def ShowsCursor (s : Screen) : Prop :=
  exists c : Cursor, c.row.toNat < 25 ∧ c.col.toNat < 80 ∧
    s.cursorPos.toNat = c.row.toNat * 80 + c.col.toNat ∧
    s.mem.readw Bda.segment Bda.cursorOffsets = c.v

theorem showsCursor_writeCursor {c : Cursor} (hrow : c.row.toNat < 25)
    (hcol : c.col.toNat < 80) (s : Screen) :
    (s.writeCursor c).ShowsCursor := by
  refine ⟨c, hrow, hcol, ?_, ?_⟩
  · have hpos :
        (c.row.setWidth 16 * 80#16 + c.col.setWidth 16).toNat =
          c.row.toNat * 80 + c.col.toNat := by
      simp only [BitVec.toNat_add, BitVec.toNat_mul, BitVec.toNat_setWidth,
        BitVec.toNat_ofNat]
      omega
    rw [toNat_cursorPos, <- hpos]
    change
      (((c.row.setWidth 16 * 80#16 + c.col.setWidth 16) >>> 8).setWidth 8 :
          BitVec 8).toNat * 256 +
        ((c.row.setWidth 16 * 80#16 + c.col.setWidth 16).setWidth 8 :
          BitVec 8).toNat = _
    simp only [BitVec.toNat_setWidth, BitVec.toNat_ushiftRight,
      Nat.shiftRight_eq_div_pow]
    omega
  · exact readw_writew_same _ _ _ _

/-!
## A text
-/

/-- What a character draws, before the cursor's word is written. -/
def DrawsOnPage (s s' : Screen) : Prop :=
  exists mem word, DrawsOn s.mem mem ∧
    s'.mem = mem.writew Bda.segment Bda.cursorOffsets word

theorem showsCursor_emitChar (ch : BitVec 8) (s : Screen) :
    (s.emitChar ch).ShowsCursor := by
  rw [emitChar_eq]
  exact showsCursor_writeCursor (landed_row ch _)
    (landed_col ch (stage_edited ch s).col_le) _

theorem drawsOnPage_emitChar (ch : BitVec 8) {s : Screen} (h : s.OnScreen) :
    s.DrawsOnPage (s.emitChar ch) := by
  rw [emitChar_eq]
  refine ⟨(landed ch (edited ch s)).2.mem, (landed ch (edited ch s)).1.v, ?_,
    rfl⟩
  exact ((stage_edited ch s).draws (readCursor_row h)).trans
    (drawsOn_landed ch _)

theorem ShowsCursor.onScreen {s : Screen} (h : s.ShowsCursor) :
    s.OnScreen := by
  obtain ⟨c, hrow, hcol, hpos, _⟩ := h
  unfold OnScreen
  omega

def emitText (text : List (BitVec 8)) (s : Screen) : Screen :=
  text.foldl (fun s ch => s.emitChar ch) s

/-- Whatever the cursor was before a text, each character leaves it on the
page.  All but the first character, and the first one too when the cursor was
on the page, draw on the page only. -/
theorem emitText_keeps_cursor_on_page (s : Screen) (text : List (BitVec 8))
    (ch : BitVec 8) :
    (emitText (text ++ [ch]) s).ShowsCursor ∧
      (s.OnScreen ∨ text ≠ [] ->
        (emitText text s).DrawsOnPage (emitText (text ++ [ch]) s)) := by
  have hlast :
      emitText (text ++ [ch]) s = (emitText text s).emitChar ch := by
    unfold emitText
    rw [List.foldl_append]
    rfl
  rw [hlast]
  refine ⟨showsCursor_emitChar ch _, ?_⟩
  intro h
  apply drawsOnPage_emitChar
  rcases text.eq_nil_or_concat with rfl | ⟨before, last, rfl⟩
  · rcases h with h | h
    · exact h
    · exact absurd rfl h
  · unfold emitText
    rw [List.concat_eq_append, List.foldl_append]
    exact (showsCursor_emitChar last _).onScreen

/-- A cursor past the page. -/
def lostCursor : Screen where
  mem := { bytes := fun _ => 0#8, written := [] }
  regIdx := 0#8
  idxRegs := fun _ => 0xff#8

theorem emitText_keeps_cursor_on_page_second :
    (emitText ([0x41#8] ++ [0x0a#8]) lostCursor).ShowsCursor ∧
      (emitText [0x41#8] lostCursor).DrawsOnPage
        (emitText ([0x41#8] ++ [0x0a#8]) lostCursor) :=
  have h := emitText_keeps_cursor_on_page lostCursor [0x41#8] 0x0a#8
  ⟨h.1, h.2 (Or.inr (List.cons_ne_nil _ _))⟩

end Screen
end Display
end Bios
end S80x86
