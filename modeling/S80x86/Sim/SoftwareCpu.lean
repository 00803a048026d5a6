import S80x86.Sim.Emulate

/-!
# Port accesses from the host

The host reads and writes ports through the simulated processor, beside the
`IN` and `OUT` of the guest.  Both look the device up in one table; the calls
they make on it are compared.
-/

namespace S80x86
namespace Sim

open Foundation.Effect

variable {W : Type}

/-!
## The table of devices
-/

/-- A device with the number of its word ports. -/
structure IORange (W : Type) where
  device : IOPorts W
  numPorts : Nat

/-- The device has a register at the address. -/
def IORange.covers (r : IORange W) (addr : BitVec 16) : Bool :=
  (List.range r.numPorts).any fun m =>
    r.device.base + BitVec.ofNat 16 (m * 2) == addr

def addIoport (io : BitVec 16 -> Option (IOPorts W)) (r : IORange W) :
    BitVec 16 -> Option (IOPorts W) :=
  fun addr => if r.covers addr then some r.device else io addr

/-- The table after all devices are registered, in this order. -/
def ioTable (ranges : List (IORange W)) : BitVec 16 -> Option (IOPorts W) :=
  ranges.foldl addIoport fun _ => none

theorem foldl_addIoport_eq_none (ranges : List (IORange W))
    (io : BitVec 16 -> Option (IOPorts W)) (addr : BitVec 16) :
    ranges.foldl addIoport io addr = none ↔
      io addr = none ∧ forall r, r ∈ ranges -> r.covers addr = false := by
  induction ranges generalizing io with
  | nil =>
      simp
  | cons r rest ih =>
      rw [List.foldl_cons, ih]
      unfold addIoport
      cases hcovers : r.covers addr with
      | false =>
          simp [hcovers]
      | true =>
          simp [hcovers]

theorem ioTable_eq_none (ranges : List (IORange W)) (addr : BitVec 16) :
    ioTable ranges addr = none ↔
      forall r, r ∈ ranges -> r.covers addr = false := by
  unfold ioTable
  rw [foldl_addIoport_eq_none]
  simp

/-!
## Calls on a device
-/

inductive PortAccess where
  | read8
  | read16
  | write8 (val : BitVec 8)
  | write16 (val : BitVec 16)
  deriving DecidableEq, Repr

/-- A call on a device: the number of the register, the byte lane of the
address and what is transferred. -/
structure DeviceCall (W : Type) where
  device : IOPorts W
  portNum : BitVec 16
  offs : Nat
  access : PortAccess

/-- The byte lane only goes with byte accesses. -/
def DeviceCall.perform (c : DeviceCall W) (world : W) :
    BitVec 16 × W × Raised :=
  match c.access with
  | .read8 =>
      let out := c.device.read8 c.portNum c.offs world
      (out.1.setWidth 16, out.2)
  | .read16 => c.device.read16 c.portNum world
  | .write8 val => (0#16, c.device.write8 c.portNum c.offs val world)
  | .write16 val => (0#16, c.device.write16 c.portNum val world)

/-- Make a call, if there is a device for it. -/
def performCall (route : (BitVec 16 -> Option (IOPorts W)) ->
    Option (DeviceCall W)) : EmuM W (BitVec 16) :=
  fun env e =>
    match route env.io with
    | none => ([], .ok (0#16, e))
    | some c =>
        let out := c.perform e.world
        ([], .ok (out.1, e.afterDevice out.2))

/-- The device at the even address, with a register counted from its base. -/
def callAt (addr register : BitVec 16) (access : PortAccess)
    (io : BitVec 16 -> Option (IOPorts W)) : Option (DeviceCall W) :=
  (io (addr &&& ~~~1#16)).map fun p =>
    { device := p
      portNum := register - p.base
      offs := lane addr
      access := access }

/-- The call of the guest. -/
def guestCall (addr : BitVec 16) (access : PortAccess)
    (io : BitVec 16 -> Option (IOPorts W)) : Option (DeviceCall W) :=
  callAt addr (addr &&& ~~~1#16) access io

/-- What the port instructions do at an address. -/
def guestAccess (addr : BitVec 16) : PortAccess -> EmuM W (BitVec 16)
  | .read8 => do
      let v ← readIo8 addr
      return v.setWidth 16
  | .read16 => readIo16 addr
  | .write8 val => do
      writeIo8 addr val
      return 0#16
  | .write16 val => do
      writeIo16 addr val
      return 0#16

/-!
## The port instructions
-/

def PortAccess.input : OperandWidth -> PortAccess
  | .OP_WIDTH_8 => .read8
  | .OP_WIDTH_16 => .read16

def PortAccess.output (v : BitVec 16) : OperandWidth -> PortAccess
  | .OP_WIDTH_8 => .write8 (v.setWidth 8)
  | .OP_WIDTH_16 => .write16 v

/-- Where a port instruction has its port number. -/
inductive PortNumber where
  | immediate
  | dx

def PortNumber.read : PortNumber -> EmuM W (BitVec 16)
  | immediate => immediatePort
  | dx => get .DX

def PortNumber.inOpcode : PortNumber -> OperandWidth -> BitVec 8
  | immediate, .OP_WIDTH_8 => 0xe4#8
  | immediate, .OP_WIDTH_16 => 0xe5#8
  | dx, .OP_WIDTH_8 => 0xec#8
  | dx, .OP_WIDTH_16 => 0xed#8

def PortNumber.outOpcode : PortNumber -> OperandWidth -> BitVec 8
  | immediate, .OP_WIDTH_8 => 0xe6#8
  | immediate, .OP_WIDTH_16 => 0xe7#8
  | dx, .OP_WIDTH_8 => 0xee#8
  | dx, .OP_WIDTH_16 => 0xef#8

theorem inPort_eq (w : OperandWidth) (port : EmuM W (BitVec 16)) :
    inPort w port = (do
      let portNum ← port
      let val ← guestAccess portNum (.input w)
      set (accumulator w) val) := by
  cases w with
  | OP_WIDTH_8 =>
      simp only [PortAccess.input, guestAccess, bind_assoc, pure_bind]
  | OP_WIDTH_16 =>
      simp only [PortAccess.input, guestAccess, inPort, readIo,
        BitVec.setWidth_eq]

theorem outPort_eq (w : OperandWidth) (port : EmuM W (BitVec 16)) :
    outPort w port = (do
      let portNum ← port
      let val ← get (accumulator w)
      let _ ← guestAccess portNum (.output val w)) := by
  cases w with
  | OP_WIDTH_8 =>
      simp only [PortAccess.output, guestAccess, bind_assoc, pure_bind,
        bind_pure_unit]
  | OP_WIDTH_16 =>
      simp only [PortAccess.output, guestAccess, outPort, writeIo,
        BitVec.setWidth_eq, bind_assoc, pure_bind, bind_pure_unit]

/-- `IN` and `OUT` are accesses of the guest at their port, with the
accumulator. -/
theorem port_instructions_access (n : PortNumber) (w : OperandWidth) :
    (execute (n.inOpcode w) : EmuM W Unit) = (do
        let portNum ← n.read
        let val ← guestAccess portNum (.input w)
        set (accumulator w) val) ∧
      (execute (n.outOpcode w) : EmuM W Unit) = (do
        let portNum ← n.read
        let val ← get (accumulator w)
        let _ ← guestAccess portNum (.output val w)) := by
  rw [← inPort_eq, ← outPort_eq]
  cases n <;> cases w <;> exact ⟨rfl, rfl⟩

/-!
## The host
-/

namespace SoftwareCPU

/-- The mask on the register number keeps every bit of the address. -/
def device (addr : BitVec 16) (absent : α)
    (call : IOPorts W -> BitVec 16 -> W -> α × W × Raised) : EmuM W α :=
  fun r e =>
    match r.io (addr &&& ~~~1#16) with
    | none => ([], .ok (absent, e))
    | some p =>
        let out := call p ((addr &&& -1#16) - p.base) e.world
        ([], .ok (out.1, e.afterDevice out.2))

def writeIo8 (addr : BitVec 16) (val : BitVec 8) : EmuM W Unit :=
  device addr () fun p port w => ((), p.write8 port (lane addr) val w)

def writeIo16 (addr : BitVec 16) (val : BitVec 16) : EmuM W Unit :=
  device addr () fun p port w => ((), p.write16 port val w)

def readIo8 (addr : BitVec 16) : EmuM W (BitVec 8) :=
  device addr 0#8 fun p port w => p.read8 port (lane addr) w

def readIo16 (addr : BitVec 16) : EmuM W (BitVec 16) :=
  device addr 0#16 fun p port w => p.read16 port w

/-- The call of the host. -/
def call (addr : BitVec 16) (access : PortAccess)
    (io : BitVec 16 -> Option (IOPorts W)) : Option (DeviceCall W) :=
  callAt addr (addr &&& -1#16) access io

/-- What the host's functions do at an address. -/
def access (addr : BitVec 16) : PortAccess -> EmuM W (BitVec 16)
  | .read8 => do
      let v ← readIo8 addr
      return v.setWidth 16
  | .read16 => readIo16 addr
  | .write8 val => do
      writeIo8 addr val
      return 0#16
  | .write16 val => do
      writeIo16 addr val
      return 0#16

end SoftwareCPU

/-!
## The two sides
-/

section Sides

variable {env : Environment W} {e : Emulator W} {addr register : BitVec 16}
  {p : IOPorts W} {α : Type} {absent : α}
  {code : IOPorts W -> BitVec 16 -> W -> α × W × Raised}

theorem device_none (h : env.io (addr &&& ~~~1#16) = none) :
    device addr absent code env e = ([], .ok (absent, e)) ∧
      SoftwareCPU.device addr absent code env e = ([], .ok (absent, e)) := by
  simp only [device, SoftwareCPU.device, h, and_self]

theorem device_some (h : env.io (addr &&& ~~~1#16) = some p) :
    device addr absent code env e =
        (let out := code p ((addr &&& ~~~1#16) - p.base) e.world
        ([], .ok (out.1, e.afterDevice out.2))) ∧
      SoftwareCPU.device addr absent code env e =
        (let out := code p ((addr &&& -1#16) - p.base) e.world
        ([], .ok (out.1, e.afterDevice out.2))) := by
  simp only [device, SoftwareCPU.device, h, and_self]

theorem performCall_none (access : PortAccess)
    (h : env.io (addr &&& ~~~1#16) = none) :
    performCall (callAt addr register access) env e = ([], .ok (0#16, e)) := by
  unfold performCall callAt
  rw [h]
  rfl

theorem performCall_some (access : PortAccess)
    (h : env.io (addr &&& ~~~1#16) = some p) :
    performCall (callAt addr register access) env e =
      let c : DeviceCall W :=
        { device := p, portNum := register - p.base, offs := lane addr
          access := access }
      ([], .ok ((c.perform e.world).1,
        e.afterDevice (c.perform e.world).2)) := by
  unfold performCall callAt
  rw [h]
  rfl

end Sides

theorem guestAccess_eq (addr : BitVec 16) (access : PortAccess) :
    (guestAccess addr access : EmuM W (BitVec 16)) =
      performCall (guestCall addr access) := by
  funext env e
  show _ = performCall (callAt addr (addr &&& ~~~1#16) access) env e
  cases hio : env.io (addr &&& ~~~1#16) with
  | none =>
      rw [performCall_none access hio]
      cases access <;>
        simp only [guestAccess, bind_run, (device_none hio).1, next] <;> rfl
  | some p =>
      rw [performCall_some access hio]
      cases access <;>
        simp only [guestAccess, bind_run, (device_some hio).1, next] <;> rfl

theorem SoftwareCPU.access_eq (addr : BitVec 16) (a : PortAccess) :
    (access addr a : EmuM W (BitVec 16)) = performCall (call addr a) := by
  funext env e
  show _ = performCall (callAt addr (addr &&& -1#16) a) env e
  cases hio : env.io (addr &&& ~~~1#16) with
  | none =>
      rw [performCall_none a hio]
      cases a <;>
        simp only [access, readIo8, readIo16, writeIo8, writeIo16, bind_run,
          (device_none hio).2, next] <;> rfl
  | some p =>
      rw [performCall_some a hio]
      cases a <;>
        simp only [access, readIo8, readIo16, writeIo8, writeIo16, bind_run,
          (device_some hio).2, next] <;> rfl

/-- Masking with all ones keeps an address, and an even one is its own. -/
theorem and_mask_eq_iff (addr : BitVec 16) :
    addr &&& -1#16 = addr &&& ~~~1#16 ↔ addr.getLsbD 0 = false := by
  have hones : addr &&& -1#16 = addr := by
    rw [show -1#16 = BitVec.allOnes 16 by decide]
    exact BitVec.and_allOnes
  rw [hones]
  constructor
  · intro h
    rw [h]
    simp
  · intro h
    ext i hi
    cases i with
    | zero =>
        simpa [BitVec.getLsbD_eq_getElem] using h
    | succ i =>
        have hbit : (1#16)[i + 1] = false := by simp
        rw [BitVec.getElem_and, BitVec.getElem_not, hbit]
        simp

theorem sub_right_cancel_iff (x y base : BitVec 16) :
    x - base = y - base ↔ x = y := by
  constructor
  · intro h
    rw [← BitVec.sub_add_cancel x base, h, BitVec.sub_add_cancel]
  · intro h
    rw [h]

/--
An access of the host and the same access of the guest are the same call on the
same device, for exactly the even addresses and those without a device.
-/
theorem host_access_iff_guest_access (ranges : List (IORange W))
    (addr : BitVec 16) (access : PortAccess) :
    (guestAccess addr access : EmuM W (BitVec 16)) =
        performCall (guestCall addr access) ∧
      (SoftwareCPU.access addr access : EmuM W (BitVec 16)) =
        performCall (SoftwareCPU.call addr access) ∧
      (SoftwareCPU.call addr access (ioTable ranges) =
          guestCall addr access (ioTable ranges) ↔
        addr.getLsbD 0 = false ∨
          forall r, r ∈ ranges -> r.covers (addr &&& ~~~1#16) = false) := by
  refine ⟨guestAccess_eq addr access, SoftwareCPU.access_eq addr access, ?_⟩
  rw [← ioTable_eq_none]
  unfold SoftwareCPU.call guestCall callAt
  cases hio : ioTable ranges (addr &&& ~~~1#16) with
  | none =>
      simp
  | some p =>
      simp only [Option.map_some, Option.some.injEq, DeviceCall.mk.injEq,
        true_and, and_true, reduceCtorEq, or_false, sub_right_cancel_iff]
      exact and_mask_eq_iff addr

/-- A device whose one word register is at port 20, as the interrupt controller
has it. -/
def portTwenty : IORange Unit :=
  { device :=
      { base := 0x20#16
        read8 := fun port offs _ =>
          (port.setWidth 8 + BitVec.ofNat 8 offs, (), none)
        read16 := fun port _ => (port, (), none)
        write8 := fun _ _ _ _ => ((), none)
        write16 := fun _ _ _ => ((), none) }
    numPorts := 1 }

/-- A read of the odd port 21 is register 1 for the host and register 0 for the
guest. -/
theorem host_access_differs :
    SoftwareCPU.call 0x21#16 .read8 (ioTable [portTwenty]) ≠
        guestCall 0x21#16 .read8 (ioTable [portTwenty]) ∧
      (SoftwareCPU.call 0x21#16 .read8 (ioTable [portTwenty])).map
        DeviceCall.portNum = some 1#16 ∧
      (guestCall 0x21#16 .read8 (ioTable [portTwenty])).map
        DeviceCall.portNum = some 0#16 := by
  have hhost : (SoftwareCPU.call 0x21#16 .read8 (ioTable [portTwenty])).map
      DeviceCall.portNum = some 1#16 := by decide
  have hguest : (guestCall 0x21#16 .read8 (ioTable [portTwenty])).map
      DeviceCall.portNum = some 0#16 := by decide
  refine ⟨?_, hhost, hguest⟩
  intro h
  rw [h, hguest] at hhost
  exact absurd hhost (by decide)

end Sim
end S80x86
