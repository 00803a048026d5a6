import S80x86.Bios.Machine

/-!
# The display of the BIOS

The text page is 25 rows of 80 cells in the frame buffer.  The position of the
cursor is kept by the CRT controller, and a copy of it in the BIOS data area.
-/

namespace S80x86
namespace Bios
namespace Display

def frameBufferSegment : BitVec 16 := 0xb000#16
def frameBufferOffset : BitVec 16 := 0x8000#16

/-- `frame_buffer_offset + (row * 80 + col) * 2`. -/
def cellAddress (row col : BitVec 16) : BitVec 16 :=
  frameBufferOffset + (row * 80#16 + col) * 2#16

/-!
## Scrolling
-/

/-- `for (col = col_left; col <= col_right; ++col)`, with a right end below
255. -/
def columns (colLeft colRight : BitVec 8) : List (BitVec 8) :=
  (List.range' colLeft.toNat (colRight.toNat + 1 - colLeft.toNat)).map
    (BitVec.ofNat 8)

def clearRow (row colLeft colRight attr : BitVec 8) (m : FarMemory) :
    FarMemory :=
  let blank := attr.setWidth 16 <<< 8 ||| 0x20#16
  (columns colLeft colRight).foldl
    (fun m col =>
      m.writew frameBufferSegment
        (cellAddress (row.setWidth 16) (col.setWidth 16)) blank) m

def copyRow (dstRow srcRow colLeft colRight _attr : BitVec 8)
    (m : FarMemory) : FarMemory :=
  (columns colLeft colRight).foldl
    (fun m col =>
      let b := m.readw frameBufferSegment
        (cellAddress (srcRow.setWidth 16) (col.setWidth 16))
      m.writew frameBufferSegment
        (cellAddress (dstRow.setWidth 16) (col.setWidth 16)) b) m

/-- `for (row = row_top; row <= row_bottom; ++row)` on signed characters. -/
def rows (rowTop rowBottom : BitVec 8) : List Int :=
  (List.range (rowBottom.toInt + 1 - rowTop.toInt).toNat).map
    fun k : Nat => rowTop.toInt + (k : Int)

/-- `__scroll_up`. -/
def scrollUpBy (rowTop rowBottom colLeft colRight blankAttr
    scrollCount : BitVec 8) (m : FarMemory) : FarMemory :=
  (rows rowTop rowBottom).foldl
    (fun m row =>
      if row + scrollCount.toInt > rowBottom.toInt then
        clearRow (BitVec.ofInt 8 row) colLeft colRight blankAttr m
      else
        copyRow (BitVec.ofInt 8 row)
          (BitVec.ofInt 8 (row + scrollCount.toInt)) colLeft colRight
          blankAttr m) m

def scrollUp (regs : CallRegs) (m : FarMemory) : FarMemory :=
  let scrollCount := if Reg.l regs.ax = 0#8 then 25#8 else Reg.l regs.ax
  scrollUpBy (Reg.h regs.cx) (Reg.h regs.dx) (Reg.l regs.cx) (Reg.l regs.dx)
    (Reg.h regs.bx) scrollCount m

/-- `__scroll_down`. -/
def scrollDownBy (rowTop rowBottom colLeft colRight blankAttr
    scrollCount : BitVec 8) (m : FarMemory) : FarMemory :=
  (rows rowTop rowBottom).reverse.foldl
    (fun m row =>
      if row - scrollCount.toInt < 0 then
        clearRow (BitVec.ofInt 8 row) colLeft colRight blankAttr m
      else
        copyRow (BitVec.ofInt 8 row)
          (BitVec.ofInt 8 (row - scrollCount.toInt)) colLeft colRight
          blankAttr m) m

def scrollDown (regs : CallRegs) (m : FarMemory) : FarMemory :=
  let scrollCount := if Reg.l regs.ax = 0#8 then 25#8 else Reg.l regs.ax
  scrollDownBy (Reg.h regs.cx) (Reg.h regs.dx) (Reg.l regs.cx) (Reg.l regs.dx)
    (Reg.h regs.bx) scrollCount m

def scrollUpOne (m : FarMemory) : FarMemory :=
  scrollUpBy 0#8 24#8 0#8 79#8 0x07#8 1#8 m

/-!
## The cursor
-/

/-- The memory, and the registers of the CRT controller behind their index. -/
structure Screen where
  mem : FarMemory
  regIdx : BitVec 8
  idxRegs : BitVec 8 -> BitVec 8

structure Cursor where
  col : BitVec 8
  row : BitVec 8

/-- The word of the union. -/
def Cursor.v (c : Cursor) : BitVec 16 := c.row ++ c.col

namespace Screen

/-- The index goes to port 3d4 and the value to port 3d5. -/
def crtcRegWrite (reg val : BitVec 8) (s : Screen) : Screen :=
  { s with
    regIdx := reg
    idxRegs := fun r => if r = reg then val else s.idxRegs r }

def crtcRegRead (reg : BitVec 8) (s : Screen) : BitVec 8 × Screen :=
  (s.idxRegs reg, { s with regIdx := reg })

def readCursor (s : Screen) : Cursor × Screen :=
  let (high, s) := s.crtcRegRead 0xe#8
  let (low, s) := s.crtcRegRead 0xf#8
  let pos := high.setWidth 16 <<< 8 ||| low.setWidth 16
  ({ row := (pos / 80#16).setWidth 8, col := (pos % 80#16).setWidth 8 }, s)

def writeCursor (c : Cursor) (s : Screen) : Screen :=
  let pos := c.row.setWidth 16 * 80#16 + c.col.setWidth 16
  let s := s.crtcRegWrite 0xe#8 ((pos >>> 8).setWidth 8)
  let s := s.crtcRegWrite 0xf#8 (pos.setWidth 8)
  { s with mem := s.mem.writew Bda.segment Bda.cursorOffsets c.v }

/-!
## Characters
-/

def putByte (c : Cursor) (v : BitVec 8) (s : Screen) : Screen :=
  { s with
    mem := s.mem.writeb frameBufferSegment
      (cellAddress (c.row.setWidth 16) (c.col.setWidth 16)) v }

/-- `for (i = 0; i < 2 && cursor->c.col > 0; ++i)`, with the rounds left. -/
def doBackspace : Nat -> Cursor × Screen -> Cursor × Screen
  | 0, (c, s) => (c, s)
  | i + 1, (c, s) =>
      if c.col.toNat > 0 then
        let c := { c with col := c.col - 1 }
        doBackspace i (c, s.putByte c 0x20#8)
      else (c, s)

/-- `for (m = cursor.c.col; m < 80; ++m)`. -/
def clearLine (c : Cursor) (s : Screen) : Screen :=
  { s with
    mem := (List.range' c.col.toNat (80 - c.col.toNat)).foldl
      (fun mem m =>
        mem.writew frameBufferSegment
          (cellAddress (c.row.setWidth 16) (BitVec.ofNat 16 m)) 0x0720#16)
      s.mem }

def emitChar (ch : BitVec 8) (s : Screen) : Screen :=
  let (cursor, s) := s.readCursor
  let s := s.putByte cursor ch
  let cursor := { cursor with col := cursor.col + 1 }
  let (cursor, s) :=
    -- '\b'
    if ch = 0x08#8 then doBackspace 2 (cursor, s) else (cursor, s)
  let (cursor, s) :=
    -- '\r' and '\n'
    if ch = 0x0d#8 || ch = 0x0a#8 then
      let cursor := { cursor with col := cursor.col - 1 }
      (cursor, s.clearLine cursor)
    else (cursor, s)
  let cursor :=
    if cursor.col = 80#8 || ch = 0x0a#8 then
      { col := 0#8, row := cursor.row + 1 }
    else cursor
  let (cursor, s) :=
    if cursor.row.toNat >= 25 then
      ({ cursor with row := 24#8 }, { s with mem := scrollUpOne s.mem })
    else (cursor, s)
  s.writeCursor cursor

end Screen
end Display
end Bios
end S80x86
