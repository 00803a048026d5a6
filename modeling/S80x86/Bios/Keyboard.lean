import S80x86.Bios.Machine

/-!
# The keyboard buffer of the BIOS

Keys come from the keyboard and from the serial port.  Nothing waits for them
in the background: both are polled while a program asks for a key.
-/

namespace S80x86
namespace Bios

/-- A row of the keycode map. -/
structure Keydef where
  normal : BitVec 16
  shifted : BitVec 16
  ctrl : BitVec 16
  alt : BitVec 16

/-- What happens to keys. -/
inductive KeyEvent where
  | added (key : BitVec 16)
  | dropped (key : BitVec 16)
  /-- A call of `kbd_buffer_peek` starts. -/
  | peeked
  /-- `keyboard_wait` has returned, with this `ax`. -/
  | waited (ax : BitVec 16)
  /-- `keyboard_status` has returned, with this `ZF` and this `ax`. -/
  | status (zf : Bool) (ax : BitVec 16)
  deriving DecidableEq

/-- The memory and the devices.  The trace is not in the program, it keeps the
last event first. -/
structure Keyboard where
  mem : FarMemory
  leds : BitVec 16
  /-- What the reads of the PS/2 data port will give. -/
  scancodes : Nat -> BitVec 8
  /-- What the polls of the serial port will find. -/
  uart : Nat -> Option (BitVec 8)
  trace : List KeyEvent

namespace Keyboard

/-!
## Ports
-/

def LED_KBD_BUFFER_NON_EMPTY : BitVec 16 := 1#16 <<< 1
def LED_KBD_BUFFER_FULL : BitVec 16 := 1#16 <<< 2

def ledSet (led : BitVec 16) (s : Keyboard) : Keyboard :=
  { s with leds := s.leds ||| led }

def ledClear (led : BitVec 16) (s : Keyboard) : Keyboard :=
  { s with leds := s.leds &&& ~~~led }

def inScancode (s : Keyboard) : BitVec 8 × Keyboard :=
  (s.scancodes 0, { s with scancodes := fun n => s.scancodes (n + 1) })

def inUart (s : Keyboard) : Option (BitVec 8) × Keyboard :=
  (s.uart 0, { s with uart := fun n => s.uart (n + 1) })

def log (e : KeyEvent) (s : Keyboard) : Keyboard :=
  { s with trace := e :: s.trace }

/-!
## The buffer
-/

def head (m : FarMemory) : BitVec 16 := m.readw Bda.segment Bda.kbdBufferHead
def tail (m : FarMemory) : BitVec 16 := m.readw Bda.segment Bda.kbdBufferTail

/-- The address of `kbd_buffer[circ_offset / sizeof(unsigned short)]`. -/
def entry (circOffset : BitVec 16) : BitVec 16 :=
  Bda.kbdBuffer + circOffset / 2#16 * 2#16

def advanced (offset : BitVec 16) : BitVec 16 :=
  let offset := offset + 2#16
  if offset.toNat >= Bda.driveRecalibrationStatus.toNat then Bda.kbdBuffer
  else offset

def kbdBufferFull (m : FarMemory) : Bool :=
  tail m = head m - 2#16 ||
    (head m = Bda.kbdBuffer && tail m = Bda.driveRecalibrationStatus - 2#16)

def kbdBufferAdd (key : BitVec 16) (s : Keyboard) : Keyboard :=
  if kbdBufferFull s.mem then
    (s.ledSet LED_KBD_BUFFER_FULL).log (.dropped key)
  else
    let s := s.ledClear LED_KBD_BUFFER_FULL
    let s := s.ledSet LED_KBD_BUFFER_NON_EMPTY
    let tail := tail s.mem
    let mem := s.mem.writew Bda.segment (entry (tail - Bda.kbdBuffer)) key
    let mem := mem.writew Bda.segment Bda.kbdBufferTail (advanced tail)
    { s with mem := mem }.log (.added key)

def kbdBufferPop (s : Keyboard) : Keyboard :=
  let head := advanced (head s.mem)
  let s :=
    { s with mem := s.mem.writew Bda.segment Bda.kbdBufferHead head }
  if head = tail s.mem then s.ledClear LED_KBD_BUFFER_NON_EMPTY else s

/-!
## Polling
-/

def SCANCODE_LSHIFT : BitVec 8 := 0x2a#8
def SCANCODE_LCTRL : BitVec 8 := 0x1d#8
def SCANCODE_LALT : BitVec 8 := 0x38#8

def KBD_FLAG_LSHIFT : BitVec 8 := 1#8 <<< 1
def KBD_FLAG_LCTRL : BitVec 8 := 1#8 <<< 2
def KBD_FLAG_LALT : BitVec 8 := 1#8 <<< 3

def isModifier (b : BitVec 8) : Bool :=
  let b := b &&& ~~~0x80#8
  b = SCANCODE_LALT || b = SCANCODE_LCTRL || b = SCANCODE_LSHIFT

def modifierKey (b : BitVec 8) (keyup : Bool) (s : Keyboard) : Keyboard :=
  let flags := s.mem.readb Bda.segment Bda.keyboardFlags
  let b := b &&& ~~~0x80#8
  let mask :=
    if b = SCANCODE_LALT then KBD_FLAG_LALT
    else if b = SCANCODE_LSHIFT then KBD_FLAG_LSHIFT
    else if b = SCANCODE_LCTRL then KBD_FLAG_LCTRL
    else 0#8
  let flags := if keyup then flags &&& ~~~mask else flags ||| mask
  { s with mem := s.mem.writeb Bda.segment Bda.keyboardFlags flags }

def keypress (row : Keydef) (s : Keyboard) : Keyboard :=
  let flags := s.mem.readb Bda.segment Bda.keyboardFlags
  if flags &&& KBD_FLAG_LSHIFT ≠ 0#8 ∧ row.shifted ≠ 0#16 then
    s.kbdBufferAdd row.shifted
  else if flags &&& KBD_FLAG_LCTRL ≠ 0#8 ∧ row.ctrl ≠ 0#16 then
    s.kbdBufferAdd row.ctrl
  else if flags &&& KBD_FLAG_LALT ≠ 0#8 ∧ row.alt ≠ 0#16 then
    s.kbdBufferAdd row.alt
  else if row.normal ≠ 0#16 then s.kbdBufferAdd row.normal
  else s

def serialPoll (s : Keyboard) : Keyboard :=
  let (received, s) := s.inUart
  received.elim s fun b => s.kbdBufferAdd (b.setWidth 16)

/-!
## The services
-/

/-- The keycode map, and whether the serial port is a console. -/
structure Config where
  keycodeMap : List Keydef
  serialStdio : Bool

variable (config : Config)

def keyboardPoll (s : Keyboard) : Bool × Keyboard :=
  let (b, s) := s.inScancode
  if b = 0#8 then (false, s)
  else
    let keyup := decide (b &&& 0x80#8 ≠ 0#8)
    if isModifier b then (true, s.modifierKey b keyup)
    else if keyup then (true, s)
    else
      (true, (config.keycodeMap[b.toNat]?).elim s fun row => s.keypress row)

/-- `while (keyboard_poll())`. -/
def pollAll : Nat -> Keyboard -> Option Keyboard
  | 0, _ => none
  | fuel + 1, s =>
      let (more, s) := keyboardPoll config s
      if more then pollAll fuel s else some s

/-- The head and the tail are read once, before the keyboard is polled. -/
def kbdBufferPeek (fuel : Nat) (s : Keyboard) :
    Option (BitVec 16 × Keyboard) :=
  let head := head s.mem
  let tail := tail s.mem
  let s := s.log .peeked
  if head = tail then
    (pollAll config fuel s).map fun s => (0#16, s)
  else
    some (s.mem.readw Bda.segment (entry (head - Bda.kbdBuffer)), s)

def serialPollIf (s : Keyboard) : Keyboard :=
  if config.serialStdio then s.serialPoll else s

/-- The loop of `keyboard_wait`. -/
def waitLoop : Nat -> Keyboard -> Option (BitVec 16 × Keyboard)
  | 0, _ => none
  | fuel + 1, s =>
      (kbdBufferPeek config fuel s).bind fun (c, s) =>
        if c = 0#16 then
          (pollAll config fuel (serialPollIf config s)).bind fun s =>
            waitLoop fuel s
        else some (c, s)

def keyboardWait (fuel : Nat) (regs : CallRegs) (s : Keyboard) :
    Option (CallRegs × Keyboard) :=
  let regs := { regs with flags := regs.flags &&& ~~~CF }
  (waitLoop config fuel s).map fun (c, s) =>
    ({ regs with ax := c }, s.kbdBufferPop)

/-- `keyboard_status` up to its last peek. -/
def statusPolls (fuel : Nat) (s : Keyboard) : Option Keyboard :=
  (kbdBufferPeek config fuel s).map fun (c, s) =>
    if c = 0#16 then serialPollIf config (keyboardPoll config s).2 else s

def keyboardStatus (fuel : Nat) (regs : CallRegs) (s : Keyboard) :
    Option (CallRegs × Keyboard) :=
  let regs := { regs with flags := regs.flags &&& ~~~CF }
  (statusPolls config fuel s).bind fun s =>
    (kbdBufferPeek config fuel s).map fun (c, s) =>
      let flags :=
        if c ≠ 0#16 then regs.flags &&& ~~~ZF else regs.flags ||| ZF
      ({ regs with ax := c, flags := flags }, s)

/-- `keyboard_init`, from which on events are kept. -/
def keyboardInit (s : Keyboard) : Keyboard :=
  let mem := s.mem.writeb Bda.segment Bda.keyboardFlags 0#8
  let mem := mem.writeb Bda.segment (Bda.keyboardFlags + 1#16) 0#8
  let mem := mem.writew Bda.segment Bda.kbdBufferTail Bda.kbdBuffer
  let mem := mem.writew Bda.segment Bda.kbdBufferHead Bda.kbdBuffer
  { s with mem := mem, trace := [] }

/-!
## Runs
-/

inductive Call where
  | add (key : BitVec 16)
  | wait (regs : CallRegs)
  | status (regs : CallRegs)

def call (fuel : Nat) : Call -> Keyboard -> Option Keyboard
  | .add key, s => some (s.kbdBufferAdd key)
  | .wait regs, s =>
      (keyboardWait config fuel regs s).map fun (regs, s) =>
        s.log (.waited regs.ax)
  | .status regs, s =>
      (keyboardStatus config fuel regs s).map fun (regs, s) =>
        s.log (.status (regs.flags &&& ZF ≠ 0#16) regs.ax)

/-- The calls one after the other, as long as they return. -/
def run (fuel : Nat) : List Call -> Keyboard -> Option Keyboard
  | [], s => some s
  | c :: calls, s => (call config fuel c s).bind (run fuel calls)

end Keyboard
end Bios
end S80x86
