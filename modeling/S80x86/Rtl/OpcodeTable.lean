import S80x86.Rtl.Instruction

/-!
# The opcode table

The encodings of the instruction documentation and the functions generated
from them.  Mnemonics are listed in the order the generator sorts them into,
which is also the order of the cases it emits.
-/

namespace S80x86
namespace Rtl
namespace OpcodeTable

/-- The operand names of the documentation. -/
inductive Operand where
  | AH | AL | AX | BH | BL | BP | BX | CH | CL | CS | CX | DH | DI | DL | DS
  | DX | ES | Eb | Ew | Gb | Gw | Ib | Iw | Jp | Mp | Mw | Ob | Ow | SI | SP
  | SS
  deriving DecidableEq, Repr

/-- The two letters of an operand's name, which the generator inspects. -/
def Operand.letters : Operand -> Char × Char
  | AH => ('A', 'H') | AL => ('A', 'L') | AX => ('A', 'X')
  | BH => ('B', 'H') | BL => ('B', 'L') | BP => ('B', 'P')
  | BX => ('B', 'X') | CH => ('C', 'H') | CL => ('C', 'L')
  | CS => ('C', 'S') | CX => ('C', 'X') | DH => ('D', 'H')
  | DI => ('D', 'I') | DL => ('D', 'L') | DS => ('D', 'S')
  | DX => ('D', 'X') | ES => ('E', 'S') | Eb => ('E', 'b')
  | Ew => ('E', 'w') | Gb => ('G', 'b') | Gw => ('G', 'w')
  | Ib => ('I', 'b') | Iw => ('I', 'w') | Jp => ('J', 'p')
  | Mp => ('M', 'p') | Mw => ('M', 'w') | Ob => ('O', 'b')
  | Ow => ('O', 'w') | SI => ('S', 'I') | SP => ('S', 'P')
  | SS => ('S', 'S')

structure Encoding where
  opcode : Nat
  reg : Option Nat
  operands : List Operand
  deriving DecidableEq, Repr

/-!
## The generator
-/

def hasModrm (operands : List Operand) : Bool :=
  operands.any fun o =>
    (o != .ES && o.letters.fst == 'E') || o.letters.fst == 'M'

/-- One entry for each immediate: `false` for a byte, `true` for a word. -/
def getImmediates (operands : List Operand) : List Bool :=
  operands.flatMap fun o =>
    let (kind, size) := o.letters
    if !(kind == 'I' || kind == 'J' || kind == 'O') then []
    else
      (if size == 'b' && kind != 'O' then [false] else []) ++
        (if size == 'w' || kind == 'O' then [true] else []) ++
        (if size == 'p' then [true, true] else [])

/-- The bit mask of the immediates that are words. -/
def immediateSizes : List Bool -> Nat
  | [] => 0
  | v :: rest => (if v then 1 else 0) + 2 * immediateSizes rest

def encodings : List Encoding :=
  [
    -- aaa
    ⟨0x37, none, [.AX]⟩,
    -- aad
    ⟨0xd5, none, [.AX, .Ib]⟩,
    -- aam
    ⟨0xd4, none, [.Ib]⟩,
    -- aas
    ⟨0x3f, none, [.AX]⟩,
    -- adc
    ⟨0x10, none, [.Eb, .Gb]⟩, ⟨0x11, none, [.Ew, .Gw]⟩,
    ⟨0x12, none, [.Gb, .Eb]⟩, ⟨0x13, none, [.Gw, .Ew]⟩,
    ⟨0x14, none, [.AL, .Ib]⟩, ⟨0x15, none, [.AX, .Iw]⟩,
    ⟨0x80, some 2, [.Eb, .Ib]⟩, ⟨0x81, some 2, [.Ew, .Iw]⟩,
    ⟨0x82, some 2, [.Eb, .Ib]⟩, ⟨0x83, some 2, [.Ew, .Ib]⟩,
    -- add
    ⟨0x00, none, [.Eb, .Gb]⟩, ⟨0x01, none, [.Ew, .Gw]⟩,
    ⟨0x02, none, [.Gb, .Eb]⟩, ⟨0x03, none, [.Gw, .Ew]⟩,
    ⟨0x04, none, [.AL, .Ib]⟩, ⟨0x05, none, [.AX, .Iw]⟩,
    ⟨0x80, some 0, [.Eb, .Ib]⟩, ⟨0x81, some 0, [.Ew, .Iw]⟩,
    ⟨0x82, some 0, [.Eb, .Ib]⟩, ⟨0x83, some 0, [.Ew, .Ib]⟩,
    -- and
    ⟨0x20, none, [.Eb, .Gb]⟩, ⟨0x21, none, [.Ew, .Gw]⟩,
    ⟨0x22, none, [.Gb, .Eb]⟩, ⟨0x23, none, [.Gw, .Ew]⟩,
    ⟨0x24, none, [.AL, .Ib]⟩, ⟨0x25, none, [.AX, .Iw]⟩,
    ⟨0x80, some 4, [.Eb, .Ib]⟩, ⟨0x81, some 4, [.Ew, .Iw]⟩,
    ⟨0x82, some 4, [.Eb, .Ib]⟩, ⟨0x83, some 4, [.Ew, .Ib]⟩,
    -- bound
    ⟨0x62, none, [.Mp]⟩,
    -- call
    ⟨0xe8, none, [.Iw]⟩, ⟨0x9a, none, [.Jp]⟩, ⟨0xff, some 2, [.Ew]⟩,
    ⟨0xff, some 3, [.Mp]⟩,
    -- cbw
    ⟨0x98, none, [.AL]⟩,
    -- clc
    ⟨0xf8, none, []⟩,
    -- cld
    ⟨0xfc, none, []⟩,
    -- cli
    ⟨0xfa, none, []⟩,
    -- cmc
    ⟨0xf5, none, []⟩,
    -- cmp
    ⟨0x38, none, [.Eb, .Gb]⟩, ⟨0x39, none, [.Ew, .Gw]⟩,
    ⟨0x3a, none, [.Gb, .Eb]⟩, ⟨0x3b, none, [.Gw, .Ew]⟩,
    ⟨0x3c, none, [.AL, .Ib]⟩, ⟨0x3d, none, [.AX, .Iw]⟩,
    ⟨0x80, some 7, [.Eb, .Ib]⟩, ⟨0x81, some 7, [.Ew, .Iw]⟩,
    ⟨0x82, some 7, [.Eb, .Ib]⟩, ⟨0x83, some 7, [.Ew, .Ib]⟩,
    -- cmps
    ⟨0xa6, none, []⟩, ⟨0xa7, none, []⟩,
    -- cwd
    ⟨0x99, none, [.AX]⟩,
    -- daa
    ⟨0x27, none, [.AL]⟩,
    -- das
    ⟨0x2f, none, [.AX]⟩,
    -- dec
    ⟨0xfe, some 1, [.Eb]⟩, ⟨0xff, some 1, [.Ew]⟩, ⟨0x48, none, [.AX]⟩,
    ⟨0x49, none, [.CX]⟩, ⟨0x4a, none, [.DX]⟩, ⟨0x4b, none, [.BX]⟩,
    ⟨0x4c, none, [.SP]⟩, ⟨0x4d, none, [.BP]⟩, ⟨0x4e, none, [.SI]⟩,
    ⟨0x4f, none, [.DI]⟩,
    -- div
    ⟨0xf6, some 6, [.Eb]⟩, ⟨0xf7, some 6, [.Ew]⟩,
    -- enter
    ⟨0xc8, none, [.Iw, .Ib]⟩,
    -- esc
    ⟨0xd8, none, [.Eb]⟩, ⟨0xd9, none, [.Ew]⟩, ⟨0xda, none, [.Eb]⟩,
    ⟨0xdb, none, [.Ew]⟩, ⟨0xdc, none, [.Eb]⟩, ⟨0xdd, none, [.Ew]⟩,
    ⟨0xde, none, [.Eb]⟩, ⟨0xdf, none, [.Ew]⟩,
    -- hlt
    ⟨0xf4, none, []⟩,
    -- idiv
    ⟨0xf6, some 7, [.Eb]⟩, ⟨0xf7, some 7, [.Ew]⟩,
    -- imul
    ⟨0xf6, some 5, [.Eb]⟩, ⟨0xf7, some 5, [.Ew]⟩, ⟨0x69, none, [.Ew, .Iw]⟩,
    ⟨0x6b, none, [.Ew, .Ib]⟩,
    -- inb
    ⟨0xe4, none, [.Ib]⟩, ⟨0xec, none, [.DX]⟩,
    -- inc
    ⟨0xfe, some 0, [.Eb]⟩, ⟨0xff, some 0, [.Ew]⟩, ⟨0x40, none, [.AX]⟩,
    ⟨0x41, none, [.CX]⟩, ⟨0x42, none, [.DX]⟩, ⟨0x43, none, [.BX]⟩,
    ⟨0x44, none, [.SP]⟩, ⟨0x45, none, [.BP]⟩, ⟨0x46, none, [.SI]⟩,
    ⟨0x47, none, [.DI]⟩,
    -- ins
    ⟨0x6c, none, []⟩, ⟨0x6d, none, []⟩,
    -- int
    ⟨0xcd, none, [.Ib]⟩,
    -- int3
    ⟨0xcc, none, []⟩,
    -- into
    ⟨0xce, none, []⟩,
    -- inw
    ⟨0xe5, none, [.Ib]⟩, ⟨0xed, none, [.DX]⟩,
    -- iret
    ⟨0xcf, none, []⟩,
    -- jb
    ⟨0x72, none, [.Ib]⟩,
    -- jbe
    ⟨0x76, none, [.Ib]⟩,
    -- jcxz
    ⟨0xe3, none, [.Ib]⟩,
    -- je
    ⟨0x74, none, [.Ib]⟩,
    -- jl
    ⟨0x7c, none, [.Ib]⟩,
    -- jle
    ⟨0x7e, none, [.Ib]⟩,
    -- jmp
    ⟨0xe9, none, [.Iw]⟩, ⟨0xea, none, [.Iw, .Iw]⟩, ⟨0xeb, none, [.Ib]⟩,
    ⟨0xff, some 4, [.Ew]⟩, ⟨0xff, some 5, [.Mp]⟩,
    -- jnb
    ⟨0x73, none, [.Ib]⟩,
    -- jnbe
    ⟨0x77, none, [.Ib]⟩,
    -- jne
    ⟨0x75, none, [.Ib]⟩,
    -- jnl
    ⟨0x7d, none, [.Ib]⟩,
    -- jnle
    ⟨0x7f, none, [.Ib]⟩,
    -- jno
    ⟨0x71, none, [.Ib]⟩,
    -- jnp
    ⟨0x7b, none, [.Ib]⟩,
    -- jns
    ⟨0x79, none, [.Ib]⟩,
    -- jo
    ⟨0x70, none, [.Ib]⟩,
    -- jp
    ⟨0x7a, none, [.Ib]⟩,
    -- js
    ⟨0x78, none, [.Ib]⟩,
    -- lahf
    ⟨0x9f, none, [.AH]⟩,
    -- lds
    ⟨0xc5, none, [.Ew, .Mp]⟩,
    -- lea
    ⟨0x8d, none, [.Ew, .Mw]⟩,
    -- leave
    ⟨0xc9, none, []⟩,
    -- les
    ⟨0xc4, none, [.Ew, .Mp]⟩,
    -- lods
    ⟨0xac, none, []⟩, ⟨0xad, none, []⟩,
    -- loop
    ⟨0xe2, none, [.Ib]⟩,
    -- loope
    ⟨0xe1, none, [.Ib]⟩,
    -- loopne
    ⟨0xe0, none, [.Ib]⟩,
    -- mov
    ⟨0x88, none, [.Eb, .Gb]⟩, ⟨0x89, none, [.Ew, .Gw]⟩,
    ⟨0x8a, none, [.Gb, .Eb]⟩, ⟨0x8b, none, [.Gw, .Ew]⟩,
    ⟨0xc6, some 0, [.Eb, .Ib]⟩, ⟨0xc7, some 0, [.Ew, .Iw]⟩,
    ⟨0xb0, none, [.AL, .Ib]⟩, ⟨0xb1, none, [.CL, .Ib]⟩,
    ⟨0xb2, none, [.DL, .Ib]⟩, ⟨0xb3, none, [.BL, .Ib]⟩,
    ⟨0xb4, none, [.AH, .Ib]⟩, ⟨0xb5, none, [.CH, .Ib]⟩,
    ⟨0xb6, none, [.DH, .Ib]⟩, ⟨0xb7, none, [.BH, .Ib]⟩,
    ⟨0xb8, none, [.AX, .Iw]⟩, ⟨0xb9, none, [.CX, .Iw]⟩,
    ⟨0xba, none, [.DX, .Iw]⟩, ⟨0xbb, none, [.BX, .Iw]⟩,
    ⟨0xbc, none, [.SP, .Iw]⟩, ⟨0xbd, none, [.BP, .Iw]⟩,
    ⟨0xbe, none, [.SI, .Iw]⟩, ⟨0xbf, none, [.DI, .Iw]⟩,
    ⟨0x8e, some 0, [.ES, .Ew]⟩, ⟨0x8e, some 1, [.CS, .Ew]⟩,
    ⟨0x8e, some 2, [.SS, .Ew]⟩, ⟨0x8e, some 3, [.DS, .Ew]⟩,
    ⟨0x8e, some 4, [.ES, .Ew]⟩, ⟨0x8e, some 5, [.CS, .Ew]⟩,
    ⟨0x8e, some 6, [.SS, .Ew]⟩, ⟨0x8e, some 7, [.DS, .Ew]⟩,
    ⟨0x8c, some 0, [.Ew, .ES]⟩, ⟨0x8c, some 1, [.Ew, .CS]⟩,
    ⟨0x8c, some 2, [.Ew, .SS]⟩, ⟨0x8c, some 3, [.Ew, .DS]⟩,
    ⟨0x8c, some 4, [.Ew, .ES]⟩, ⟨0x8c, some 5, [.Ew, .CS]⟩,
    ⟨0x8c, some 6, [.Ew, .SS]⟩, ⟨0x8c, some 7, [.Ew, .DS]⟩,
    ⟨0xa0, none, [.AL, .Ob]⟩, ⟨0xa1, none, [.AX, .Ow]⟩,
    ⟨0xa2, none, [.Ow, .AL]⟩, ⟨0xa3, none, [.Ow, .AX]⟩,
    -- movs
    ⟨0xa4, none, []⟩, ⟨0xa5, none, []⟩,
    -- mul
    ⟨0xf6, some 4, [.Eb]⟩, ⟨0xf7, some 4, [.Ew]⟩,
    -- neg
    ⟨0xf6, some 3, [.Eb]⟩, ⟨0xf7, some 3, [.Ew]⟩,
    -- nop
    ⟨0x90, none, []⟩,
    -- not
    ⟨0xf6, some 2, [.Eb]⟩, ⟨0xf7, some 2, [.Ew]⟩,
    -- or
    ⟨0x08, none, [.Eb, .Gb]⟩, ⟨0x09, none, [.Ew, .Gw]⟩,
    ⟨0x0a, none, [.Gb, .Eb]⟩, ⟨0x0b, none, [.Gw, .Ew]⟩,
    ⟨0x0c, none, [.AL, .Ib]⟩, ⟨0x0d, none, [.AX, .Iw]⟩,
    ⟨0x80, some 1, [.Eb, .Ib]⟩, ⟨0x81, some 1, [.Ew, .Iw]⟩,
    ⟨0x82, some 1, [.Eb, .Ib]⟩, ⟨0x83, some 1, [.Ew, .Ib]⟩,
    -- outb
    ⟨0xe6, none, [.Ib]⟩, ⟨0xee, none, [.DX]⟩,
    -- outs
    ⟨0x6e, none, []⟩, ⟨0x6f, none, []⟩,
    -- outw
    ⟨0xe7, none, [.Ib]⟩, ⟨0xef, none, [.DX]⟩,
    -- pop
    ⟨0x58, none, [.AX]⟩, ⟨0x59, none, [.CX]⟩, ⟨0x5a, none, [.DX]⟩,
    ⟨0x5b, none, [.BX]⟩, ⟨0x5c, none, [.SP]⟩, ⟨0x5d, none, [.BP]⟩,
    ⟨0x5e, none, [.SI]⟩, ⟨0x5f, none, [.DI]⟩, ⟨0x07, none, [.ES]⟩,
    ⟨0x17, none, [.SS]⟩, ⟨0x1f, none, [.DS]⟩, ⟨0x8f, none, [.Ew]⟩,
    -- popa
    ⟨0x61, none, []⟩,
    -- popf
    ⟨0x9d, none, []⟩,
    -- push
    ⟨0xff, some 6, [.Ew]⟩, ⟨0x06, none, [.ES]⟩, ⟨0x0e, none, [.CS]⟩,
    ⟨0x16, none, [.SS]⟩, ⟨0x1e, none, [.DS]⟩, ⟨0x50, none, [.AX]⟩,
    ⟨0x51, none, [.CX]⟩, ⟨0x52, none, [.DX]⟩, ⟨0x53, none, [.BX]⟩,
    ⟨0x54, none, [.SP]⟩, ⟨0x55, none, [.BP]⟩, ⟨0x56, none, [.SI]⟩,
    ⟨0x57, none, [.DI]⟩, ⟨0x68, none, [.Iw]⟩, ⟨0x6a, none, [.Ib]⟩,
    -- pusha
    ⟨0x60, none, []⟩,
    -- pushf
    ⟨0x9c, none, []⟩,
    -- rcl
    ⟨0xd0, some 2, [.Eb]⟩, ⟨0xd1, some 2, [.Ew]⟩, ⟨0xc0, some 2, [.Eb, .Ib]⟩,
    ⟨0xc1, some 2, [.Ew, .Ib]⟩, ⟨0xd2, some 2, [.Eb, .CL]⟩,
    ⟨0xd3, some 2, [.Ew, .CL]⟩,
    -- rcr
    ⟨0xd0, some 3, [.Eb]⟩, ⟨0xd1, some 3, [.Ew]⟩, ⟨0xc0, some 3, [.Eb, .Ib]⟩,
    ⟨0xc1, some 3, [.Ew, .Ib]⟩, ⟨0xd2, some 3, [.Eb, .CL]⟩,
    ⟨0xd3, some 3, [.Ew, .CL]⟩,
    -- ret
    ⟨0xc3, none, []⟩, ⟨0xc2, none, [.Iw]⟩, ⟨0xcb, none, []⟩,
    ⟨0xca, none, [.Iw]⟩,
    -- rol
    ⟨0xd0, some 0, [.Eb]⟩, ⟨0xd1, some 0, [.Ew]⟩, ⟨0xc0, some 0, [.Eb, .Ib]⟩,
    ⟨0xc1, some 0, [.Ew, .Ib]⟩, ⟨0xd2, some 0, [.Eb, .CL]⟩,
    ⟨0xd3, some 0, [.Ew, .CL]⟩,
    -- ror
    ⟨0xd0, some 1, [.Eb]⟩, ⟨0xd1, some 1, [.Ew]⟩, ⟨0xc0, some 1, [.Eb, .Ib]⟩,
    ⟨0xc1, some 1, [.Ew, .Ib]⟩, ⟨0xd2, some 1, [.Eb, .CL]⟩,
    ⟨0xd3, some 1, [.Ew, .CL]⟩,
    -- sahf
    ⟨0x9e, none, [.AH]⟩,
    -- sal
    ⟨0xd0, some 6, [.Eb]⟩, ⟨0xd1, some 6, [.Ew]⟩, ⟨0xc0, some 6, [.Eb, .Ib]⟩,
    ⟨0xc1, some 6, [.Ew, .Ib]⟩, ⟨0xd2, some 6, [.Eb, .CL]⟩,
    ⟨0xd3, some 6, [.Ew, .CL]⟩,
    -- sar
    ⟨0xd0, some 7, [.Eb]⟩, ⟨0xd1, some 7, [.Ew]⟩, ⟨0xc0, some 7, [.Eb, .Ib]⟩,
    ⟨0xc1, some 7, [.Ew, .Ib]⟩, ⟨0xd2, some 7, [.Eb, .CL]⟩,
    ⟨0xd3, some 7, [.Ew, .CL]⟩,
    -- sbb
    ⟨0x18, none, [.Eb, .Gb]⟩, ⟨0x19, none, [.Ew, .Gw]⟩,
    ⟨0x1a, none, [.Gb, .Eb]⟩, ⟨0x1b, none, [.Gw, .Ew]⟩,
    ⟨0x1c, none, [.AL, .Ib]⟩, ⟨0x1d, none, [.AX, .Iw]⟩,
    ⟨0x80, some 3, [.Eb, .Ib]⟩, ⟨0x81, some 3, [.Ew, .Iw]⟩,
    ⟨0x82, some 3, [.Eb, .Ib]⟩, ⟨0x83, some 3, [.Ew, .Ib]⟩,
    -- scas
    ⟨0xae, none, []⟩, ⟨0xaf, none, []⟩,
    -- setalc
    ⟨0xd6, none, [.AL]⟩,
    -- shl
    ⟨0xd0, some 4, [.Eb]⟩, ⟨0xd1, some 4, [.Ew]⟩, ⟨0xc0, some 4, [.Eb, .Ib]⟩,
    ⟨0xc1, some 4, [.Ew, .Ib]⟩, ⟨0xd2, some 4, [.Eb, .CL]⟩,
    ⟨0xd3, some 4, [.Ew, .CL]⟩,
    -- shr
    ⟨0xd0, some 5, [.Eb]⟩, ⟨0xd1, some 5, [.Ew]⟩, ⟨0xc0, some 5, [.Eb, .Ib]⟩,
    ⟨0xc1, some 5, [.Ew, .Ib]⟩, ⟨0xd2, some 5, [.Eb, .CL]⟩,
    ⟨0xd3, some 5, [.Ew, .CL]⟩,
    -- stc
    ⟨0xf9, none, []⟩,
    -- std
    ⟨0xfd, none, []⟩,
    -- sti
    ⟨0xfb, none, []⟩,
    -- stos
    ⟨0xaa, none, [.AL]⟩, ⟨0xab, none, [.AX]⟩,
    -- sub
    ⟨0x28, none, [.Eb, .Gb]⟩, ⟨0x29, none, [.Ew, .Gw]⟩,
    ⟨0x2a, none, [.Gb, .Eb]⟩, ⟨0x2b, none, [.Gw, .Ew]⟩,
    ⟨0x2c, none, [.AL, .Ib]⟩, ⟨0x2d, none, [.AX, .Iw]⟩,
    ⟨0x80, some 5, [.Eb, .Ib]⟩, ⟨0x81, some 5, [.Ew, .Iw]⟩,
    ⟨0x82, some 5, [.Eb, .Ib]⟩, ⟨0x83, some 5, [.Ew, .Ib]⟩,
    -- test
    ⟨0x84, none, [.Gb, .Eb]⟩, ⟨0x85, none, [.Gw, .Ew]⟩,
    ⟨0xa8, none, [.AL, .Ib]⟩, ⟨0xa9, none, [.AX, .Iw]⟩,
    ⟨0xf6, some 0, [.Eb, .Ib]⟩, ⟨0xf6, some 1, [.Eb, .Ib]⟩,
    ⟨0xf7, some 0, [.Ew, .Iw]⟩, ⟨0xf7, some 1, [.Ew, .Iw]⟩,
    -- wait
    ⟨0x9b, none, []⟩,
    -- xchg
    ⟨0x86, none, [.Gb, .Eb]⟩, ⟨0x87, none, [.Gw, .Ew]⟩,
    ⟨0x91, none, [.CX, .AX]⟩, ⟨0x92, none, [.DX, .AX]⟩,
    ⟨0x93, none, [.BX, .AX]⟩, ⟨0x94, none, [.SP, .AX]⟩,
    ⟨0x95, none, [.BP, .AX]⟩, ⟨0x96, none, [.SI, .AX]⟩,
    ⟨0x97, none, [.DI, .AX]⟩,
    -- xlat
    ⟨0xd7, none, [.AL, .BX]⟩,
    -- xor
    ⟨0x30, none, [.Eb, .Gb]⟩, ⟨0x31, none, [.Ew, .Gw]⟩,
    ⟨0x32, none, [.Gb, .Eb]⟩, ⟨0x33, none, [.Gw, .Ew]⟩,
    ⟨0x34, none, [.AL, .Ib]⟩, ⟨0x35, none, [.AX, .Iw]⟩,
    ⟨0x80, some 6, [.Eb, .Ib]⟩, ⟨0x81, some 6, [.Ew, .Iw]⟩,
    ⟨0x82, some 6, [.Eb, .Ib]⟩, ⟨0x83, some 6, [.Ew, .Ib]⟩
  ]

/-!
## The generated functions
-/

/-- The case that is selected for an opcode and a register field. -/
def select (opcode : BitVec 8) (modrmReg : BitVec 3) : Option Encoding :=
  encodings.find? fun e =>
    e.opcode == opcode.toNat &&
      (match e.reg with
      | none => true
      | some r => r == modrmReg.toNat)

def insnHasModrmGen (opcode : BitVec 8) : Bool :=
  encodings.any fun e => e.opcode == opcode.toNat && hasModrm e.operands

def insnImmedCountGen (opcode : BitVec 8) (modrmReg : BitVec 3) : BitVec 2 :=
  match select opcode modrmReg with
  | some e => BitVec.ofNat 2 (getImmediates e.operands).length
  | none => 0#2

def insnImmedIs8bitGen (opcode : BitVec 8) (modrmReg : BitVec 3)
    (immedNum : Bool) : Bool :=
  match select opcode modrmReg with
  | some e =>
      !(immediateSizes (getImmediates e.operands)).testBit
        (if immedNum then 1 else 0)
  | none => false

/-- The table the core is built with. -/
def generated : OpcodeTable :=
  { insnHasModrm := insnHasModrmGen
    insnImmedCount := insnImmedCountGen
    insnImmedIs8bit := insnImmedIs8bitGen }

/-!
## Rows
-/

/-- The encodings of one opcode. -/
def row (opcode : Nat) : List Encoding :=
  encodings.filter fun e => e.opcode == opcode

/-- The encoding that a register field selects from a row. -/
def selectReg (modrmReg : BitVec 3) (row : List Encoding) : Option Encoding :=
  row.find? fun e =>
    match e.reg with
    | none => true
    | some r => r == modrmReg.toNat

theorem select_eq_row (opcode : BitVec 8) (modrmReg : BitVec 3) :
    select opcode modrmReg = selectReg modrmReg (row opcode.toNat) := by
  unfold select selectReg row
  rw [List.find?_filter]
  congr 1
  funext e
  rw [Bool.decide_and, Bool.decide_eq_true, Bool.decide_eq_true]

theorem insnHasModrm_eq_row (opcode : BitVec 8) :
    generated.insnHasModrm opcode =
      (row opcode.toNat).any fun e => hasModrm e.operands := by
  show insnHasModrmGen opcode = _
  unfold insnHasModrmGen row
  rw [List.any_filter]

/-- The bytes that the immediates of a selected encoding take. -/
def immedBytes : Option Encoding -> Nat
  | none => 0
  | some e =>
      let sizes := getImmediates e.operands
      if BitVec.ofNat 2 sizes.length = 0#2 then 0
      else
        (if !(immediateSizes sizes).testBit 0 then 1 else 2) +
          if BitVec.ofNat 2 sizes.length = 2#2 then
            if !(immediateSizes sizes).testBit 1 then 1 else 2
          else 0

theorem encodings_immediates_le :
    forall e, e ∈ encodings -> (getImmediates e.operands).length ≤ 2 := by
  decide +kernel

/-- No instruction has more than two immediates. -/
theorem generated_immedCount_le (opcode : BitVec 8) (modrmReg : BitVec 3) :
    generated.insnImmedCount opcode modrmReg ≠ 3#2 := by
  show insnImmedCountGen opcode modrmReg ≠ 3#2
  unfold insnImmedCountGen
  cases hsel : select opcode modrmReg with
  | none =>
      show 0#2 ≠ 3#2
      decide
  | some e =>
      have hle := encodings_immediates_le e (List.mem_of_find?_eq_some hsel)
      intro h
      have hnat := congrArg BitVec.toNat h
      simp at hnat
      omega

end OpcodeTable
end Rtl
end S80x86
