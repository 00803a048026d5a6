import S80x86.Isa.Feeding

/-!
# Programs in the core

The core runs a program one instruction after another, if the decoder offers
what the memory holds at `CS:IP` and no interrupt comes.
-/

open Foundation Foundation.Clocked

namespace S80x86
namespace Isa

open Rtl Rtl.Parser

/-- The core is between two instructions of a program. -/
structure Between (s : State) (t : Core) : Prop where
  here : exists x, ofArch x = s ∧ (Core.Retiring x t ∨ Core.Waits x t)
  calm : Core.Calm t

/-!
## The start of an instruction
-/

section Start

variable {x : Arch} {inputs : Nat -> Core.Input} {t : Core}

/-- What the decoder has to offer. -/
structure Next (x : Arch) (v : Instruction) : Prop where
  reads : exists bytes, (ofArch x).Reads 0 bytes ∧
    parseInstruction .generated .zero bytes = some (v, [])
  simple : Core.Simple v
  untraced : x.flags.T = false

variable {v : Instruction} (hnext : Next x v)
include hnext

theorem Supplies.value {i : Core.Input} (h : Supplies i t) (hasks : Asks t)
    (hempty : i.instructionEmpty = false) (harch : (t.step i).arch = x) :
    i.nextInstructionValue = v := by
  obtain ⟨bytes, hreads, hparse⟩ := hnext.reads
  refine h.decoded hasks hempty bytes v ?_ hparse
  rw [harch]
  exact hreads

theorem waits_takes {i : Core.Input} (h : Core.Waits x t)
    (hcalm : Core.Calm t) (hsupplies : Supplies i t)
    (hempty : i.instructionEmpty = false) :
    Core.Begins x v (t.step i) ∧ Core.Calm (t.step i) := by
  have hvalue := hsupplies.value hnext (Or.inr h.addr) hempty (h.arch i)
  have hsimple : Core.Simple i.nextInstructionValue := by
    rw [hvalue]
    exact hnext.simple
  have habort : t.abortCur = false := by
    rw [<- Bool.not_eq_true]
    intro habort
    rw [hsupplies.flushed habort] at hempty
    cases hempty
  have hbegins := h.begins hcalm hsupplies.intr hempty hsimple habort
  rw [hvalue] at hbegins
  refine ⟨hbegins, hcalm.step hsupplies.nmi (fun _ => ?_)⟩
  have hflags := congrArg (fun y => y.flags.T) h.holds.arch
  exact hflags.trans hnext.untraced

/-- A core that waits takes the next instruction when it comes. -/
theorem waits_begins (h : Core.Waits x t) (hcalm : Core.Calm t)
    (hserves : Serves inputs t) :
    Reaches Core.step Core.Orderly
      (fun s => Core.Begins x v s ∧ Core.Calm s) inputs t := by
  obtain ⟨k, hk⟩ := hserves.offers 0 (fun k hk => absurd hk (Nat.not_lt_zero k))
  rw [Nat.zero_add] at hk
  -- The number of cycles until the decoder offers something falls.
  induction k generalizing t inputs with
  | zero =>
      have hsupplies : Supplies (inputs 0) t :=
        hserves.supplies 0 (fun k hk => absurd hk (Nat.not_lt_zero k))
      have hempty : (inputs 0).instructionEmpty = false := by
        rcases hk with hempty | hnot
        · exact hempty
        · exact absurd ⟨⟨x, h⟩, hcalm⟩ hnot
      exact Reaches.later (h.orderly hcalm)
        (Reaches.now (waits_takes hnext h hcalm hsupplies hempty))
  | succ k ih =>
      have hsupplies : Supplies (inputs 0) t :=
        hserves.supplies 0 (fun k hk => absurd hk (Nat.not_lt_zero k))
      refine Reaches.later (h.orderly hcalm) ?_
      cases hempty : (inputs 0).instructionEmpty with
      | false =>
          exact Reaches.now (waits_takes hnext h hcalm hsupplies hempty)
      | true =>
          have hstart := h.starting hcalm hsupplies.intr (fun hfalse => by
            rw [hempty] at hfalse
            cases hfalse)
          rw [hempty] at hstart
          have hcalm' : Core.Calm (t.step (inputs 0)) := by
            refine hcalm.step hsupplies.nmi (fun htrue => ?_)
            rw [hstart] at htrue
            cases htrue
          refine ih (h.waits hcalm hsupplies.intr hempty) hcalm'
            (hserves.after 1 (fun j hj => ?_)) ?_
          · obtain rfl : j = 0 := by omega
            exact h.orderly hcalm
          · change (inputs (1 + k)).instructionEmpty = false ∨
              ¬ Waiting (trace Core.step (after inputs 1)
                (trace Core.step inputs t 1) k)
            rw [<- trace_add, Nat.add_comm]
            exact hk

/-- A core that ends an instruction takes the next one at once, or waits for
it. -/
theorem retiring_begins (h : Core.Retiring x t) (hcalm : Core.Calm t)
    (hserves : Serves inputs t) :
    Reaches Core.step Core.Orderly
      (fun s => Core.Begins x v s ∧ Core.Calm s) inputs t := by
  have hsupplies : Supplies (inputs 0) t :=
    hserves.supplies 0 (fun k hk => absurd hk (Nat.not_lt_zero k))
  have hcalm' : Core.Calm (t.step (inputs 0)) :=
    hcalm.step hsupplies.nmi (fun _ => h.trap hnext.untraced)
  refine Reaches.later (h.orderly hcalm) ?_
  cases hoffered : t.offered (inputs 0) with
  | false =>
      refine waits_begins hnext (h.waits hcalm hsupplies.intr hoffered) hcalm'
        (hserves.after 1 (fun j hj => ?_))
      obtain rfl : j = 0 := by omega
      exact h.orderly hcalm
  | true =>
      have hoffer := hoffered
      simp only [Core.offered, Core.fifoReset, Bool.and_eq_true,
        Bool.not_eq_true', Bool.or_eq_false_iff] at hoffer
      obtain ⟨hempty, hload, -⟩ := hoffer
      have hvalue := hsupplies.value hnext
        (Or.inl ⟨h.doNextInstruction, hload⟩) hempty (h.arch _)
      have hsimple : Core.Simple (inputs 0).nextInstructionValue := by
        rw [hvalue]
        exact hnext.simple
      have hbegins := h.begins hcalm hsupplies.intr hoffered hsimple
      rw [hvalue] at hbegins
      exact Reaches.now ⟨hbegins, hcalm'⟩

end Start

/-!
## Instructions and programs
-/

section Programs

variable {inputs : Nat -> Core.Input} {s s' : State} {t : Core}

theorem ofMachine_begins {x : Arch} {v : Instruction} (h : Core.Begins x v t) :
    ofMachine t.machine =
      (ofArch x).goto (x.ip + v.length.setWidth 16) := by
  have hx := h.holds.arch
  subst hx
  ext1
  · rfl
  · rfl
  · rfl
  · exact h.ip
  · rfl

theorem unprefixed_begins {x : Arch} {v : Instruction}
    (h : Core.Begins x v t) (hrep : v.rep = .NONE) : Unprefixed t.machine := by
  refine ⟨?_, h.holds.bpAsBase, ?_⟩
  · change (if t.override.overrideActive then some t.override.override
      else none) = none
    rw [h.holds.override]
    rfl
  · change t.curInstruction.rep = .NONE
    rw [h.curInstruction]
    exact hrep

theorem flag_trap (x : Arch) : (ofArch x).flag Rtl.Flag.TF_IDX = x.flags.T := by
  change x.flags.flagsOut.getLsbD Rtl.Flag.TF_IDX = x.flags.T
  unfold Flags.flagsOut
  simp only [BitVec.getLsbD_append]
  simp [Rtl.Flag.TF_IDX]

/-- The core executes one instruction. -/
theorem core_step {length : Nat} (h : Between s t) (hstep : Step s length s')
    (hserves : Serves inputs t) :
    Reaches Core.step Core.Orderly (Between s') inputs t := by
  obtain ⟨x, rfl, hat⟩ := h.here
  obtain @⟨opcode, immediate, op, hfetches, -, huntraced⟩ := hstep
  obtain ⟨v, hparse, hrecords⟩ := Immediate.parses hfetches.encodes.announced
  rw [flag_trap] at huntraced
  have hnext : Next x v :=
    ⟨⟨_, hfetches.reads, hparse⟩, hrecords.simple hfetches.encodes, huntraced⟩
  have hbegins : Reaches Core.step Core.Orderly
      (fun s => Core.Begins x v s ∧ Core.Calm s) inputs t := by
    rcases hat with hretiring | hwaits
    · exact retiring_begins hnext hretiring h.calm hserves
    · exact waits_begins hnext hwaits h.calm hserves
  refine hbegins.extend ?_
  rintro n horderly ⟨hbegun, hcalm⟩
  have hserves' := hserves.after n horderly
  generalize trace Core.step inputs t n = b at hbegun hcalm hserves'
  have hstarts := hbegun.starts
  rw [hrecords.opcode] at hstarts
  have hdecoded : immediate.Decoded b.machine.insn := by
    change immediate.Decoded b.curInstruction
    rw [hbegun.curInstruction]
    exact hrecords.decoded
  obtain ⟨x', hretires, hx'⟩ := performs_encoded hfetches.encodes hstarts.newIp
    hstarts.opcode hdecoded (unprefixed_begins hbegun hrecords.rep)
  have hlength : v.length.setWidth 16 =
      BitVec.ofNat 16 (1 + immediate.bytes.length) := by
    have hshort := immediate.length_bytes
    have htotal := length_of_parse (by
      rw [List.length_cons]
      omega) hparse
    rw [<- BitVec.ofNat_toNat, htotal, List.length_cons, Nat.add_comm]
  have hstate : ofMachine b.machine = (ofArch x).goto
      ((ofArch x).ip + BitVec.ofNat 16 (1 + immediate.bytes.length)) := by
    rw [ofMachine_begins hbegun, hlength]
    rfl
  rw [hstate] at hx'
  have huntrapped : Core.Untrapped opcode.toNat b := by
    intro _
    have hflags := congrArg (fun y => y.flags.T) hbegun.holds.arch
    exact hflags.trans huntraced
  have hholds : Core.holdsAddress opcode.toNat = true := by
    have hlt := opcode.isLt
    simp only [Core.holdsAddress, Core.nextInstructionAddress,
      Core.modrmWaitAddress, Core.nmiAddress, Core.irqAddress,
      Bool.and_eq_true, bne_iff_ne]
    omega
  have hplain : Core.plainOpcode b.machine.insn.opcode = true := by
    change Core.plainOpcode b.opcode = true
    rw [hstarts.opcode]
    exact hfetches.encodes.plain
  have hreach := hcalm.reaches hserves'.nmi
    (Core.reaches_retiring hretires hstarts.idle hstarts.addr rfl hholds hplain
      huntrapped hserves'.ready)
  refine (hreach.imp (fun _ hcontinues => hcontinues.orderly)).trans ?_
  rintro k ⟨hretiring, hcalm'⟩
  exact Reaches.now ⟨⟨x', hx', Or.inl hretiring⟩, hcalm'⟩

/-- A core that is served as long as it is orderly stays so, and runs every
program as it is meant. -/
theorem core_run_served {lengths : List Nat} (h : Between s t)
    (hrun : Run lengths s s') (hserves : Serves inputs t) :
    Reaches Core.step Core.Orderly (Between s') inputs t := by
  induction hrun generalizing t inputs with
  | done s =>
      exact Reaches.now h
  | next first rest ih =>
      exact (core_step h first hserves).extend
        (fun n horderly hbetween => ih hbetween (hserves.after n horderly))

/-- The core runs every program as it is meant. -/
theorem core_run {lengths : List Nat} (h : Between s t)
    (hrun : Run lengths s s')
    (hfeeds : Feeds inputs t) :
    Reaches Core.step (fun _ => True) (Between s') inputs t :=
  (core_run_served h hrun hfeeds.serves).imp (fun _ _ => trivial)

end Programs

/-!
## A program
-/

/-- A core that waits for the first instruction. -/
def atFetch (x : Arch) : Core :=
  { Core.atStart .zero x with
    addr := Core.nextInstructionAddress
    ip := { curVal := x.ip, instructionStartAddr := x.ip } }

theorem atFetch_between (x : Arch) : Between (ofArch x) (atFetch x) := by
  refine ⟨⟨x, rfl, Or.inr ⟨⟨⟨rfl, rfl, rfl, rfl, ⟨rfl, rfl, rfl⟩⟩, rfl, rfl,
    rfl, rfl⟩, rfl, rfl⟩⟩, ⟨rfl, rfl, rfl⟩⟩

/-- The memory accepts an access in every third cycle. -/
def everyThird (n : Nat) : Bool := n % 3 == 2

theorem everyThird_recurs : Recurs (fun r => r = true) everyThird := by
  intro n
  refine ⟨2 - n % 3, ?_⟩
  change ((n + (2 - n % 3)) % 3 == 2) = true
  rw [beq_iff_eq]
  omega

/-- The registers at the start of the program that copies one of them. -/
def copyingArch : Arch :=
  { gprs := Gprs.set (fun _ => 0#16) GPR.AX 0x1234#16
    segments := SegmentRegisterFile.set (fun _ => 0#16) .CS 0xffff#16
    flags := ⟨false, false, false, false, false, false, false, false, false⟩
    ip := 0#16, mem := copying }

theorem copyingArch_starts : Copying (ofArch copyingArch) :=
  ⟨rfl, rfl, rfl, rfl, rfl, rfl⟩

/-- A word goes over the stack, past a jump, through a slow memory. -/
theorem core_run_copying :
    exists inputs n s', (forall k, (inputs k).ready = everyThird k) ∧
      Between s' (trace Core.step inputs (atFetch copyingArch) n) ∧
        s'.ip = 5#16 ∧ s'.gprs GPR.BX = 0x1234#16 := by
  obtain ⟨s', hrun, hip, hbx⟩ := run_copying copyingArch_starts
  obtain ⟨inputs, hfeeds, hready⟩ :=
    @exists_feeds (atFetch copyingArch) (fun _ => rfl) _ everyThird_recurs
  obtain ⟨n, -, hbetween⟩ :=
    core_run (atFetch_between copyingArch) hrun hfeeds
  exact ⟨inputs, n, s', hready, hbetween, hip, hbx⟩

end Isa
end S80x86
