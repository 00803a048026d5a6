import S80x86.Foundation.Fuel
import Mathlib.Tactic.Ring

/-!
# Formatted text

`string_format` fills a buffer from a format and the arguments after it.  The
format and the strings are read up to their `NUL` by pointers that nothing else
bounds.
-/

namespace S80x86
namespace Bios

/-- A word, or what a pointer to characters points to. -/
inductive Argument where
  | word (value : BitVec 16)
  | string (bytes : List (BitVec 8))
  deriving DecidableEq

/-- Accesses outside of what the code may use. -/
inductive FormatFault where
  | pastFormat
  | pastString
  | pastReversalBuf
  | pastHexVal
  /-- No argument is left, or the next one has another type. -/
  | argument
  deriving DecidableEq

def char (c : Char) : BitVec 8 := BitVec.ofNat 8 c.toNat

def isDigit (c : BitVec 8) : Bool :=
  (char '0').sle c && c.sle (char '9')

structure StringSpecifier where
  precision : BitVec 16
  zeroPad : Bool
  deriving DecidableEq

structure StringFormatter where
  /-- The characters before the pointer. -/
  buf : List (BitVec 8)
  len : BitVec 16
  maxlen : BitVec 16
  /-- The characters from the pointer on. -/
  fmt : List (BitVec 8)
  specifier : StringSpecifier
  deriving DecidableEq

namespace StringFormatter

def outputChar (formatter : StringFormatter) (c : BitVec 16) :
    StringFormatter :=
  if formatter.len < formatter.maxlen - 1#16 then
    { formatter with
      buf := formatter.buf ++ [c.setWidth 8]
      len := formatter.len + 1#16 }
  else
    formatter

/-!
## Numbers
-/

def hexVal : List (BitVec 8) :=
  ['0', '1', '2', '3', '4', '5', '6', '7', '8', '9',
    'a', 'b', 'c', 'd', 'e', 'f'].map char

def outputBufReversed (formatter : StringFormatter) (buf : List (BitVec 8)) :
    Nat -> Except FormatFault StringFormatter
  | 0 => .ok formatter
  | nchars + 1 =>
      match buf[nchars]? with
      | none => .error .pastReversalBuf
      | some digit =>
          match hexVal[(digit.signExtend 16).toNat]? with
          | none => .error .pastHexVal
          | some c =>
              (formatter.outputChar (c.signExtend 16)).outputBufReversed buf
                nchars

def outputZeroes (formatter : StringFormatter) : Nat -> StringFormatter
  | 0 => formatter
  | n + 1 =>
      (formatter.outputChar ((char '0').signExtend 16)).outputZeroes n

def outputZeroPadding (formatter : StringFormatter) (numZeroes : BitVec 16) :
    StringFormatter :=
  if formatter.specifier.zeroPad && (0#16).slt numZeroes then
    formatter.outputZeroes numZeroes.toNat
  else
    formatter

/-- The digits that the loop of `output_unsigned` stores, where `reversal_buf`
has room for `room` more. -/
def storeReversed (base : BitVec 16) :
    Nat -> BitVec 16 -> Except FormatFault (List (BitVec 8))
  | 0, _ => .error .pastReversalBuf
  | room + 1, val =>
      let digit := (val % base).setWidth 8
      let val := val / base
      if val = 0#16 then
        .ok [digit]
      else
        match storeReversed base room val with
        | .error x => .error x
        | .ok digits => .ok (digit :: digits)

def outputUnsigned (formatter : StringFormatter) (val base : BitVec 16) :
    Except FormatFault StringFormatter :=
  match storeReversed base 32 val with
  | .error x => .error x
  | .ok reversalBuf =>
      let nchars := reversalBuf.length
      let numZeroes :=
        formatter.specifier.precision - BitVec.ofNat 16 nchars
      (formatter.outputZeroPadding numZeroes).outputBufReversed reversalBuf
        nchars

/-!
## Items
-/

def outputString (formatter : StringFormatter) :
    List (BitVec 8) -> Except FormatFault StringFormatter
  | [] => .error .pastString
  | c :: str =>
      if c = 0#8 then
        .ok formatter
      else
        (formatter.outputChar (c.signExtend 16)).outputString str

def nullText : List (BitVec 8) :=
  ['(', 'n', 'u', 'l', 'l', ')'].map char ++ [0#8]

def pointerPrefix : List (BitVec 8) := ['0', 'x'].map char ++ [0#8]

def outputPointer (formatter : StringFormatter) (val : BitVec 16) :
    Except FormatFault StringFormatter :=
  let formatter :=
    { formatter with specifier := { precision := 4#16, zeroPad := true } }
  if val = 0#16 then
    formatter.outputString nullText
  else
    match formatter.outputString pointerPrefix with
    | .error x => .error x
    | .ok formatter => formatter.outputUnsigned val 16#16

/-- The branch of `output_item` for the character `c`, with the argument that
it takes. -/
def outputArgument (formatter : StringFormatter) (c : BitVec 8) :
    Argument -> Except FormatFault StringFormatter
  | .string str =>
      if c = char 's' then formatter.outputString str else .error .argument
  | .word v =>
      if c = char 's' then .error .argument
      else if c = char 'u' then formatter.outputUnsigned v 10#16
      else if c = char 'x' then formatter.outputUnsigned v 16#16
      else if c = char 'p' then formatter.outputPointer v
      else .ok (formatter.outputChar v)

def outputItem (formatter : StringFormatter) (ap : List Argument) :
    Except FormatFault (StringFormatter × List Argument) :=
  match formatter.fmt, ap with
  | [], _ => .error .pastFormat
  | _ :: _, [] => .error .argument
  | c :: _, arg :: ap =>
      match formatter.outputArgument c arg with
      | .error x => .error x
      | .ok formatter =>
          .ok ({ formatter with fmt := formatter.fmt.tail }, ap)

/-!
## Specifiers
-/

def precisionLoop (precision : BitVec 16) :
    List (BitVec 8) -> Except FormatFault (BitVec 16 × List (BitVec 8))
  | [] => .error .pastFormat
  | c :: fmt =>
      if isDigit c then
        precisionLoop
          (precision * 10#16 +
            (c.signExtend 16 - (char '0').signExtend 16)) fmt
      else
        .ok (precision, c :: fmt)

def readPrecision (formatter : StringFormatter) :
    Except FormatFault StringFormatter :=
  match precisionLoop 0#16 formatter.fmt with
  | .error x => .error x
  | .ok (precision, fmt) =>
      .ok { formatter with
        fmt := fmt
        specifier := { formatter.specifier with precision := precision } }

def readZeroPad (formatter : StringFormatter) :
    Except FormatFault StringFormatter :=
  match formatter.fmt with
  | [] => .error .pastFormat
  | c :: fmt =>
      if c = char '0' then
        .ok { formatter with
          fmt := fmt
          specifier := { formatter.specifier with zeroPad := true } }
      else
        .ok { formatter with
          specifier := { formatter.specifier with zeroPad := false } }

def parseSpecifier (formatter : StringFormatter) :
    Except FormatFault StringFormatter :=
  match { formatter with fmt := formatter.fmt.tail }.readZeroPad with
  | .error x => .error x
  | .ok formatter => formatter.readPrecision

/-!
## The loop
-/

/-- One turn of the loop of `string_format`, for the character `c`. -/
def turn (formatter : StringFormatter) (ap : List Argument) (c : BitVec 8) :
    Except FormatFault (StringFormatter × List Argument) :=
  if c = char '%' then
    match formatter.parseSpecifier with
    | .error x => .error x
    | .ok formatter => formatter.outputItem ap
  else
    .ok ({ formatter with fmt := formatter.fmt.tail }.outputChar
      (c.signExtend 16), ap)

def formatLoop :
    Nat -> StringFormatter -> List Argument ->
      Option (Except FormatFault StringFormatter)
  | 0, _, _ => none
  | fuel + 1, formatter, ap =>
      if formatter.len < formatter.maxlen - 1#16 then
        match formatter.fmt with
        | [] => some (.error .pastFormat)
        | c :: _ =>
            if c = 0#8 then
              some (.ok formatter)
            else
              match formatter.turn ap c with
              | .error x => some (.error x)
              | .ok (formatter, ap) => formatLoop fuel formatter ap
      else
        some (.ok formatter)

/-- What is stored in the buffer, and the number that is returned. -/
def finish : Except FormatFault StringFormatter ->
    Except FormatFault (List (BitVec 8) × BitVec 16)
  | .error x => .error x
  | .ok formatter => .ok (formatter.buf ++ [0#8], formatter.len)

end StringFormatter

def stringFormat (fuel : Nat) (maxlen : BitVec 16) (fmt : List (BitVec 8))
    (ap : List Argument) :
    Option (Except FormatFault (List (BitVec 8) × BitVec 16)) :=
  let formatter : StringFormatter :=
    { buf := []
      len := 0#16
      maxlen := maxlen
      fmt := fmt
      specifier := { precision := 0#16, zeroPad := false } }
  (formatter.formatLoop fuel ap).map StringFormatter.finish

end Bios
end S80x86
