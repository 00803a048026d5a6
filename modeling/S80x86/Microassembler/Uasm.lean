import Mathlib.Data.List.Sort
import Mathlib.Data.List.Dedup
import S80x86.Foundation.Packing

/-!
# The microassembler

`uasm` reads the files of a microprogram, gives every microinstruction an
address and writes one word for each.  The lines are those that the parser
makes of the preprocessed files.
-/

namespace S80x86
namespace Microassembler

open Foundation

/-- The exceptions that end an assembly; a failed lookup has no message. -/
inductive Error where
  | ValueError (message : String)
  | KeyError (message : Option String)
  | IndexError
  | AttributeError
  | AssertionError
  deriving DecidableEq, Repr

/-!
## The parsed program
-/

/-- An integer has no value when `int` does not accept its text. -/
inductive Argument where
  | ID (name : String)
  | Integer (value : Option Nat)
  deriving DecidableEq, Repr

structure Field where
  name : String
  arguments : List Argument := []
  deriving DecidableEq, Repr

inductive Line where
  | LabelAnchor (label : String)
  | Directive (directive : String) (arguments : List Argument)
  | MicroInstruction (fields : List Field)
  | PreprocessorDirective
  deriving DecidableEq, Repr

/-!
## Enumerations
-/

/-- The members of an enumeration, with their values. -/
abbrev Members := List (String × Nat)

namespace Members

/-- The number of members that are no aliases. -/
def len (m : Members) : Nat := (m.map Prod.snd).dedup.length

def GPR : Members :=
  [("AX", 0), ("CX", 1), ("DX", 2), ("BX", 3), ("SP", 4), ("BP", 5),
    ("SI", 6), ("DI", 7), ("AL", 0), ("CL", 1), ("DL", 2), ("BL", 3),
    ("AH", 4), ("CH", 5), ("DH", 6), ("BH", 7)]

def SR : Members := [("ES", 0), ("CS", 1), ("SS", 2), ("DS", 3)]

def ADriver : Members := [("RA", 0), ("IP", 1), ("MAR", 2), ("MDR", 3)]

def BDriver : Members :=
  [("RB", 0), ("IMMEDIATE", 1), ("SR", 2), ("TEMP", 3), ("IMMEDIATE2", 4)]

def ALUOp : Members :=
  [("SELA", 0), ("SELB", 1), ("ADD", 2), ("ADC", 3), ("AND", 4), ("XOR", 5),
    ("OR", 6), ("SUB", 7), ("SUBREV", 8), ("SBB", 9), ("SBBREV", 10),
    ("GETFLAGS", 11), ("SETFLAGSB", 12), ("SETFLAGSA", 13), ("CMC", 14),
    ("SHR", 15), ("SHL", 16), ("SAR", 17), ("ROR", 18), ("ROL", 19),
    ("RCL", 20), ("RCR", 21), ("NOT", 22), ("NEXT", 23), ("AAA", 24),
    ("AAS", 25), ("DAA", 26), ("DAS", 27), ("MUL", 28), ("IMUL", 29),
    ("DIV", 30), ("IDIV", 31), ("EXTEND", 32), ("BOUNDL", 33),
    ("BOUNDH", 34), ("ENTER_FRAME_TEMP_ADDR", 35)]

def UpdateFlags : Members :=
  [("CF", 0), ("PF", 1), ("AF", 2), ("ZF", 3), ("SF", 4), ("TF", 5),
    ("IF", 6), ("DF", 7), ("OF", 8)]

def RDSelSource : Members :=
  [("NONE", 0), ("MODRM_REG", 1), ("MODRM_RM_REG", 2),
    ("MICROCODE_RD_SEL", 3)]

def JumpType : Members :=
  [("UNCONDITIONAL", 0), ("RM_REG_MEM", 1), ("OPCODE", 2),
    ("DISPATCH_REG", 3), ("HAS_NO_REP_PREFIX", 4), ("ZERO", 5),
    ("REP_NOT_COMPLETE", 6), ("JUMP_TAKEN", 7), ("RB_ZERO", 8),
    ("LOOP_DONE", 9)]

def MARWrSel : Members := [("EA", 0), ("Q", 1)]

def RegWrSource : Members := [("Q", 0), ("QUOTIENT", 1), ("REMAINDER", 2)]

def TEMPWrSel : Members := [("Q_LOW", 0), ("Q_HIGH", 1)]

def WidthType : Members := [("W16", 0), ("W8", 1), ("WAUTO", 2)]

end Members

inductive JumpType where
  | UNCONDITIONAL
  | RM_REG_MEM
  | OPCODE
  | DISPATCH_REG
  | HAS_NO_REP_PREFIX
  | ZERO
  | REP_NOT_COMPLETE
  | JUMP_TAKEN
  | RB_ZERO
  | LOOP_DONE
  deriving DecidableEq, Repr

def JumpType.value : JumpType -> Nat
  | UNCONDITIONAL => 0
  | RM_REG_MEM => 1
  | OPCODE => 2
  | DISPATCH_REG => 3
  | HAS_NO_REP_PREFIX => 4
  | ZERO => 5
  | REP_NOT_COMPLETE => 6
  | JUMP_TAKEN => 7
  | RB_ZERO => 8
  | LOOP_DONE => 9

/-!
## Microcode fields
-/

/-- The keys of `microcode_fields`. -/
inductive Keyword where
  | aSel
  | aluOp
  | bSel
  | extIntInhibit
  | extIntYield
  | immediate
  | io
  | jmp
  | jmpDispatchReg
  | jmpIfNotRep
  | jmpIfRepNotComplete
  | jmpIfTaken
  | jmpIfZero
  | jmpLoopDone
  | jmpOpcode
  | jmpRbZero
  | jmpRmRegMem
  | jumpTarget
  | jumpType
  | loadIp
  | marWrSel
  | marWrite
  | mdrWrite
  | memRead
  | memWrite
  | nextInstruction
  | raModrmRmReg
  | raSel
  | rbCl
  | rdSel
  | rdSelSource
  | regWrSource
  | segment
  | segmentForce
  | segmentWrEn
  | tmpWrEn
  | tmpWrSel
  | updateFlags
  | width
  deriving DecidableEq, Repr

namespace Keyword

def name : Keyword -> String
  | aSel => "a_sel"
  | aluOp => "alu_op"
  | bSel => "b_sel"
  | extIntInhibit => "ext_int_inhibit"
  | extIntYield => "ext_int_yield"
  | immediate => "immediate"
  | io => "io"
  | jmp => "jmp"
  | jmpDispatchReg => "jmp_dispatch_reg"
  | jmpIfNotRep => "jmp_if_not_rep"
  | jmpIfRepNotComplete => "jmp_if_rep_not_complete"
  | jmpIfTaken => "jmp_if_taken"
  | jmpIfZero => "jmp_if_zero"
  | jmpLoopDone => "jmp_loop_done"
  | jmpOpcode => "jmp_opcode"
  | jmpRbZero => "jmp_rb_zero"
  | jmpRmRegMem => "jmp_rm_reg_mem"
  | jumpTarget => "jump_target"
  | jumpType => "jump_type"
  | loadIp => "load_ip"
  | marWrSel => "mar_wr_sel"
  | marWrite => "mar_write"
  | mdrWrite => "mdr_write"
  | memRead => "mem_read"
  | memWrite => "mem_write"
  | nextInstruction => "next_instruction"
  | raModrmRmReg => "ra_modrm_rm_reg"
  | raSel => "ra_sel"
  | rbCl => "rb_cl"
  | rdSel => "rd_sel"
  | rdSelSource => "rd_sel_source"
  | regWrSource => "reg_wr_source"
  | segment => "segment"
  | segmentForce => "segment_force"
  | segmentWrEn => "segment_wr_en"
  | tmpWrEn => "tmp_wr_en"
  | tmpWrSel => "tmp_wr_sel"
  | updateFlags => "update_flags"
  | width => "width"

/-- `sorted_field_keys`. -/
def sortedFieldKeys : List Keyword :=
  [aSel, aluOp, bSel, extIntInhibit, extIntYield, immediate, io, jmp,
    jmpDispatchReg, jmpIfNotRep, jmpIfRepNotComplete, jmpIfTaken, jmpIfZero,
    jmpLoopDone, jmpOpcode, jmpRbZero, jmpRmRegMem, jumpTarget, jumpType,
    loadIp, marWrSel, marWrite, mdrWrite, memRead, memWrite,
    nextInstruction, raModrmRmReg, raSel, rbCl, rdSel, rdSelSource,
    regWrSource, segment, segmentForce, segmentWrEn, tmpWrEn, tmpWrSel,
    updateFlags, width]

example : (sortedFieldKeys.map name).Pairwise (· < ·) := by
  decide

def ofName (s : String) : Option Keyword :=
  sortedFieldKeys.find? fun k => k.name == s

end Keyword

/-- What a keyword does to the microinstruction it stands in. -/
inductive Handler where
  | enumeratedField (enumClass : Members)
  | boolean
  | updateFlags
  | immediate
  | jump (jumpType : JumpType)
  | reserved
  deriving DecidableEq, Repr

def Keyword.handler : Keyword -> Handler
  | raSel | rdSel => .enumeratedField .GPR
  | marWrSel => .enumeratedField .MARWrSel
  | segment => .enumeratedField .SR
  | aSel => .enumeratedField .ADriver
  | bSel => .enumeratedField .BDriver
  | aluOp => .enumeratedField .ALUOp
  | rdSelSource => .enumeratedField .RDSelSource
  | regWrSource => .enumeratedField .RegWrSource
  | tmpWrSel => .enumeratedField .TEMPWrSel
  | width => .enumeratedField .WidthType
  | rbCl | nextInstruction | marWrite | mdrWrite | memRead | memWrite
  | segmentWrEn | segmentForce | raModrmRmReg | tmpWrEn | loadIp
  | io | extIntYield | extIntInhibit => .boolean
  | updateFlags => .updateFlags
  | immediate => .immediate
  | jumpType | jumpTarget => .reserved
  | jmpOpcode => .jump .OPCODE
  | jmpRmRegMem => .jump .RM_REG_MEM
  | jmpDispatchReg => .jump .DISPATCH_REG
  | jmpIfNotRep => .jump .HAS_NO_REP_PREFIX
  | jmpIfZero => .jump .ZERO
  | jmpIfRepNotComplete => .jump .REP_NOT_COMPLETE
  | jmpIfTaken => .jump .JUMP_TAKEN
  | jmpRbZero => .jump .RB_ZERO
  | jmpLoopDone => .jump .LOOP_DONE
  | jmp => .jump .UNCONDITIONAL

/-!
## Reading a microprogram
-/

structure MicroInstruction where
  address : Option Nat
  nextLabel : Option Argument := none
  hasJump : Bool := false
  presentFields : Keyword -> Option Nat := fun _ => none

/-- The assembler while it parses the fields of one microinstruction. -/
structure Assembler where
  immediatePool : List Nat
  updateFlagsPool : List Nat
  currentInstr : MicroInstruction

def addToPool (pool : List Nat) (v : Nat) : List Nat :=
  if v ∈ pool then pool else pool ++ [v]

namespace Assembler

def setField (a : Assembler) (k : Keyword) (v : Nat) : Assembler :=
  { a with
    currentInstr :=
      { a.currentInstr with
        presentFields := Function.update a.currentInstr.presentFields k (some v) } }

end Assembler

def Field.firstArgument (f : Field) : Except Error Argument :=
  match f.arguments with
  | [] => .error .IndexError
  | arg :: _ => .ok arg

/-- `enum_class[arg].value`. -/
def Members.valueOf (m : Members) : Argument -> Except Error Nat
  | .ID name =>
      match m.lookup name with
      | none => .error (.KeyError none)
      | some v => .ok v
  | .Integer _ => .error (.KeyError none)

/-- `int(arg.value, base)`. -/
def Argument.int (message : String) : Argument -> Except Error Nat
  | .ID _ => .error .AttributeError
  | .Integer none => .error (.ValueError message)
  | .Integer (some n) => .ok n

def enumeratedField (enumClass : Members) (k : Keyword) (f : Field)
    (a : Assembler) : Except Error Assembler := do
  let arg ← f.firstArgument
  let val ← enumClass.valueOf arg
  return a.setField k val

def boolean (k : Keyword) (a : Assembler) : Except Error Assembler :=
  return a.setField k 1

def flagMask (arguments : List Argument) : Except Error Nat :=
  arguments.foldlM (fun flags arg => do
    let bit ← Members.UpdateFlags.valueOf arg
    return flags ||| 1 <<< bit) 0

def updateFlags (f : Field) (a : Assembler) : Except Error Assembler := do
  let flags ← flagMask f.arguments
  return { a.setField .updateFlags flags with
    updateFlagsPool := addToPool a.updateFlagsPool flags }

def immediate (f : Field) (a : Assembler) : Except Error Assembler :=
  match f.arguments with
  | [arg] => do
      let val ← arg.int "invalid literal for int() with base 16"
      return { a.setField .immediate val with
        immediatePool := addToPool a.immediatePool val }
  | _ => .error (.ValueError "Only one immediate value supported")

/-- The label after a jump; a jump to the opcode has none. -/
def Field.jumpLabel (f : Field) (jumpType : JumpType)
    (nextLabel : Option Argument) : Except Error (Option Argument) :=
  if jumpType = .OPCODE then .ok nextLabel
  else f.firstArgument.map some

def jump (jumpType : JumpType) (f : Field) (a : Assembler) :
    Except Error Assembler := do
  let nextLabel ← f.jumpLabel jumpType a.currentInstr.nextLabel
  return Assembler.setField
    { a with
      currentInstr :=
        { a.currentInstr with nextLabel := nextLabel, hasJump := true } }
    .jumpType jumpType.value

def reserved (f : Field) : Except Error Assembler :=
  .error (.ValueError ("Reserved keyword " ++ f.name))

def parseField (a : Assembler) (f : Field) : Except Error Assembler :=
  match Keyword.ofName f.name with
  | none => .error (.KeyError none)
  | some k =>
      match k.handler with
      | .enumeratedField enumClass => enumeratedField enumClass k f a
      | .boolean => boolean k a
      | .updateFlags => updateFlags f a
      | .immediate => immediate f a
      | .jump jumpType => jump jumpType f a
      | .reserved => reserved f

def parse (fields : List Field) (a : Assembler) : Except Error Assembler :=
  fields.foldlM parseField a

/-- The state of the loop over the lines of a file; a label names the index of
its microinstruction. -/
structure Reader where
  instructions : List MicroInstruction := []
  labelMap : List (String × Nat) := []
  immediatePool : List Nat := []
  updateFlagsPool : List Nat := []
  currentLabel : Option String := none
  currentAddress : Option Nat := none

def readLine (r : Reader) : Line -> Except Error Reader
  | .LabelAnchor label =>
      if (r.labelMap.lookup label).isSome then
        .error (.KeyError (some ("Duplicate label \"" ++ label ++ "\"")))
      else .ok { r with currentLabel := some label }
  | .Directive directive arguments =>
      if directive = "at" then do
        let arg ← Field.firstArgument { name := directive, arguments }
        let addr ← arg.int "invalid literal for int() with base 0"
        return { r with currentAddress := some addr }
      else if directive = "auto_address" then
        .ok { r with currentAddress := none }
      else .error (.ValueError ("Invalid directive \"" ++ directive ++ "\""))
  | .MicroInstruction fields => do
      let a ← parse fields
        { immediatePool := r.immediatePool
          updateFlagsPool := r.updateFlagsPool
          currentInstr := { address := r.currentAddress } }
      return {
        instructions := r.instructions ++ [a.currentInstr]
        labelMap :=
          match r.currentLabel with
          | none => r.labelMap
          | some label => (label, r.instructions.length) :: r.labelMap
        immediatePool := a.immediatePool
        updateFlagsPool := a.updateFlagsPool }
  | .PreprocessorDirective => .ok r

def readFile (r : Reader) (lines : List Line) : Except Error Reader :=
  lines.foldlM readLine { r with currentLabel := none, currentAddress := none }

def readFiles (files : List (List Line)) : Except Error Reader :=
  files.foldlM readFile {}

/-!
## Addresses
-/

/-- A microinstruction with its address and the address of the next one. -/
structure Placed where
  instr : MicroInstruction
  address : Nat
  next : Nat

/-- The largest explicit address. -/
def maxAddress (l : List (Option Nat)) : Nat :=
  (l.map fun a => a.getD 0).foldl max 0

def assignFrom (lastAddr : Nat) (assigned : List Nat) :
    List (Option Nat) -> Except Error (List Nat)
  | [] => .ok []
  | a :: rest => do
      let addr := a.getD (lastAddr + 1)
      let lastAddr := if a = none then lastAddr + 1 else lastAddr
      if addr ∈ assigned then
        .error (.ValueError ("Duplicate instruction at address " ++
          String.ofList (Nat.toDigits 16 addr)))
      else
        let addrs ← assignFrom lastAddr (addr :: assigned) rest
        return addr :: addrs

def assignAddresses (l : List (Option Nat)) : Except Error (List Nat) :=
  if l = [] then .error (.ValueError "max() arg is an empty sequence")
  else assignFrom (maxAddress l) [] l

/-- `instr.next` of the microinstruction at an address. -/
def resolveNext (labelMap : List (String × Nat)) (addrs : List Nat)
    (i : MicroInstruction) (address : Nat) : Except Error Nat :=
  match i.nextLabel with
  | none => .ok (address + 1)
  | some (.ID label) =>
      match labelMap.lookup label with
      | none => .error (.KeyError none)
      | some n => .ok (addrs.getD n 0)
  | some (.Integer _) => .error (.KeyError none)

def resolveLabels (labelMap : List (String × Nat)) (addrs : List Nat)
    (l : List (MicroInstruction × Nat)) : Except Error (List Placed) :=
  l.mapM fun p => do
    let next ← resolveNext labelMap addrs p.1 p.2
    return { instr := p.1, address := p.2, next := next }

/-!
## Encoding
-/

/-- An entry of a dictionary, new or in the place of an old one. -/
def setEntry (d : List (Nat × Nat)) (key value : Nat) : List (Nat × Nat) :=
  if (d.lookup key).isSome then
    d.map fun e => if e.1 = key then (key, value) else e
  else d ++ [(key, value)]

/-- The indices of the values of a pool: the pool in order from one on, and
zero unless it is in the pool. -/
def poolDict (pool : List Nat) : List (Nat × Nat) :=
  pool.zipIdx.foldl (fun d e => setEntry d e.1 (e.2 + 1)) [(0, 0)]

/-- The microinstructions in the order of the files, with the pools. -/
structure Microcode where
  placed : List Placed
  immediatePool : List Nat
  updateFlagsPool : List Nat

def buildMicrocode (files : List (List Line)) : Except Error Microcode := do
  let r ← readFiles files
  let addrs ← assignAddresses (r.instructions.map (·.address))
  let placed ← resolveLabels r.labelMap addrs (r.instructions.zip addrs)
  return {
    placed := placed
    immediatePool := r.immediatePool
    updateFlagsPool := r.updateFlagsPool }

section Sizes

variable (ceilLog2 : Nat -> Nat)

/-- The host's `int(math.ceil(math.log(max_val, 2)))` is a parameter. -/
def numBits (maxVal : Nat) : Nat :=
  if maxVal = 0 then 1 else ceilLog2 maxVal

namespace Microcode

variable (m : Microcode)

def immediateDict : List (Nat × Nat) := poolDict m.immediatePool

def updateFlagsDict : List (Nat × Nat) := poolDict m.updateFlagsPool

/-- The number of bits of a field, once the pools are known. -/
def fieldBits (k : Keyword) : Nat :=
  match k with
  | .immediate => numBits ceilLog2 (m.immediateDict.length + 1)
  | .updateFlags => numBits ceilLog2 (m.updateFlagsDict.length + 1)
  | .jumpType => numBits ceilLog2 Members.JumpType.len
  | k =>
      match k.handler with
      | .enumeratedField enumClass => numBits ceilLog2 enumClass.len
      | .boolean => 1
      | _ => 0

def width (addressBits : Nat) : Nat :=
  Keyword.sortedFieldKeys.foldl (fun w k => w + m.fieldBits ceilLog2 k)
    addressBits

/-- The fields of a word from its most significant bit on, with their sizes;
the first one is the next address. -/
def bitfields (addressBits : Nat) : List (Option Keyword × Nat) :=
  (none, addressBits) ::
    (Keyword.sortedFieldKeys.filter fun k => m.fieldBits ceilLog2 k != 0).map
      fun k => (some k, m.fieldBits ceilLog2 k)

/-- `sorted(instructions, key=lambda i: i.address)`. -/
def instructions : List Placed :=
  m.placed.insertionSort fun i j => i.address <= j.address

def addressBits : Nat :=
  numBits ceilLog2 (((m.instructions.getLast?.map (·.address)).getD 0) + 1)

/-- A value of `present_fields` replaced by its index in a dictionary. -/
def toIndex (d : List (Nat × Nat)) (v : Option Nat) :
    Except Error (Option Nat) :=
  match v with
  | none => .ok none
  | some v =>
      match d.lookup v with
      | none => .error (.KeyError none)
      | some idx => .ok (some idx)

/-- `present_fields` once the target of a jump is known. -/
def withJumpTarget (i : Placed) (fields : Keyword -> Option Nat) :
    Keyword -> Option Nat :=
  if i.instr.hasJump then Function.update fields .jumpTarget (some i.next)
  else fields

def encode (i : Placed) (addressBits : Nat) : Except Error (List Char) := do
  let fields := i.instr.presentFields
  let imm ← toIndex m.immediateDict (fields .immediate)
  let flags ← toIndex m.updateFlagsDict (fields .updateFlags)
  let fields :=
    Function.update (Function.update fields .immediate imm) .updateFlags flags
  if Keyword.sortedFieldKeys.all (fun k =>
      (fields k).all fun v => numBits ceilLog2 v <= m.fieldBits ceilLog2 k) then
    let fields := withJumpTarget i fields
    return formatBinary addressBits i.next ++
      (Keyword.sortedFieldKeys.filter fun k =>
        m.fieldBits ceilLog2 k != 0).flatMap fun k =>
          formatBinary (m.fieldBits ceilLog2 k) ((fields k).getD 0)
  else .error .AssertionError

end Microcode

/-- The microcode and, in the order of the addresses, its words. -/
structure Image where
  microcode : Microcode
  words : List (Nat × List Char)

def assemble (files : List (List Line)) : Except Error Image := do
  let m ← buildMicrocode files
  let words ← m.instructions.mapM fun i => do
    let word ← m.encode ceilLog2 i (m.addressBits ceilLog2)
    return (i.address, word)
  return { microcode := m, words := words }

end Sizes
end Microassembler
end S80x86
