import S80x86.Rtl.MicroWaits

/-!
# Straight-line microprograms

Most microprograms branch only on what the instruction fixes.  Their words can
be collected before anything is executed, and a run of the microprogram is then
the fold of its words over the machine.
-/

namespace S80x86
namespace Rtl

open Machine

/-- Some microinstructions lead from one address and machine to another. -/
inductive Steps : Nat -> Machine -> Nat -> Machine -> Prop where
  | refl (addr : Nat) (m : Machine) : Steps addr m addr m
  | step {addr addr' : Nat} {m m' : Machine} (u : Microinstruction)
      (word : Microcode.mem addr = u) (isInternal : u.isInternal = true)
      (stable : m.Stable u) (goes : u.nextInstruction = false)
      (plain : plainAddress ((m.last u).target u addr) = true)
      (moves : (m.last u).target u addr ≠ addr)
      (rest : Steps ((m.last u).target u addr) ((m.last u).advance u)
        addr' m') :
      Steps addr m addr' m'

theorem Steps.retires {addr addr' : Nat} {m m' : Machine} {x : Arch}
    (h : Steps addr m addr' m') (hx : Retires addr' m' x) :
    Retires addr m x := by
  induction h with
  | refl _ _ =>
      exact hx
  | step u word isInternal stable goes plain moves rest ih =>
      exact Retires.step u word isInternal stable goes plain moves (ih hx)

theorem Steps.trans {addr₁ addr₂ addr₃ : Nat} {m₁ m₂ m₃ : Machine}
    (h : Steps addr₁ m₁ addr₂ m₂) (h' : Steps addr₂ m₂ addr₃ m₃) :
    Steps addr₁ m₁ addr₃ m₃ := by
  induction h with
  | refl _ _ =>
      exact h'
  | step u word isInternal stable goes plain moves rest ih =>
      exact Steps.step u word isInternal stable goes plain moves (ih h')

/-!
## What the instruction fixes
-/

/-- What branches of a microprogram ask of the instruction. -/
structure Control where
  rmIsReg : Bool
  regnum : BitVec 3
  noRep : Bool

def Machine.control (m : Machine) : Control :=
  { rmIsReg := m.modrm.rmIsReg
    regnum := m.modrm.regnum
    noRep := m.insn.rep == .NONE }

/-- The next address, when the instruction alone decides it. -/
def Control.target (c : Control) (u : Microinstruction) (addr : Nat) :
    Option Nat :=
  match u.jumpType with
  | .UNCONDITIONAL => if u.divide then none else some u.next
  | .RM_REG_MEM => some (u.next + if c.rmIsReg then 0 else 1)
  | .DISPATCH_REG => some (u.next + c.regnum.toNat)
  | .HAS_NO_REP_PREFIX => some (if c.noRep then u.next else addr + 1)
  | _ => none

theorem control_target {m : Machine} {u : Microinstruction} {addr addr' : Nat}
    (h : m.control.target u addr = some addr') : m.target u addr = addr' := by
  unfold Control.target at h
  unfold Machine.target
  cases hjump : u.jumpType with
  | UNCONDITIONAL =>
      simp only [hjump] at h
      cases hdiv : u.divide with
      | true =>
          simp [hdiv] at h
      | false =>
          simpa [hdiv] using h
  | RM_REG_MEM =>
      simp only [hjump] at h
      exact Option.some.inj h
  | DISPATCH_REG =>
      simp only [hjump] at h
      exact Option.some.inj h
  | HAS_NO_REP_PREFIX =>
      simp only [hjump] at h
      exact Option.some.inj h
  | _ =>
      simp [hjump] at h

/-- The two words select the same segment register. -/
def sameSegment (u v : Microinstruction) : Bool :=
  u.segment == v.segment && u.segmentForce == v.segmentForce

/-- What the word before must have selected for this one. -/
def selects (before : Option Microinstruction) (u : Microinstruction) : Bool :=
  !u.divide && !u.isShift &&
    (!(u.memRead || u.memWrite) ||
      match before with
      | some v => sameSegment v u
      | none => false)

/-- What the read ports show was selected by the word before. -/
def Machine.Selected (m : Machine) : Option Microinstruction -> Prop
  | some v => m.sr = m.segments (m.srSel v)
  | none => True

theorem stable_of_selects {m : Machine} {before : Option Microinstruction}
    {u : Microinstruction} (h : selects before u = true)
    (hm : m.Selected before) : m.Stable u := by
  simp only [selects, Bool.and_eq_true, Bool.not_eq_true'] at h
  rcases h with ⟨⟨hdiv, hshift⟩, hmem⟩
  refine ⟨?_, ?_, ?_, ?_⟩
  · intro hwaits
    simp only [hwaits, Bool.not_true, Bool.false_or] at hmem
    cases before with
    | none =>
        cases hmem
    | some v =>
        simp only [sameSegment, Bool.and_eq_true, beq_iff_eq] at hmem
        have hsel : m.srSel v = m.srSel u := by
          unfold srSel
          rw [hmem.left, hmem.right]
        rw [<- hsel]
        exact hm
  · intro hd
    rw [hdiv] at hd
    cases hd
  · intro hd
    rw [hdiv] at hd
    cases hd
  · intro hbusy
    rw [busy_eq_false hshift] at hbusy
    cases hbusy

/-- The last cycle of a word that neither shifts nor divides. -/
def Machine.ready (u : Microinstruction) (m : Machine) : Machine :=
  if u.memWrite then m.stored u
  else if u.memRead then m.loaded u
  else m

theorem last_eq_ready {m : Machine} {u : Microinstruction}
    (hdiv : u.divide = false) (hshift : u.isShift = false) :
    m.last u = m.ready u := by
  have hbusy := busy_eq_false hshift m
  simp [last, ready, hdiv, shifted, hbusy]

theorem ready_control (m : Machine) (u : Microinstruction) :
    (m.ready u).control = m.control := by
  unfold ready
  cases u.memWrite <;> cases u.memRead <;> rfl

/-!
## Collecting the words
-/

/-- The words of a path that only the instruction decides, and where it goes. -/
def Control.path (c : Control) :
    Nat -> Option Microinstruction -> Nat ->
      Option (List Microinstruction × Nat)
  | 0, _, addr => some ([], addr)
  | n + 1, before, addr =>
      let u := Microcode.mem addr
      if u.isInternal && selects before u && !u.nextInstruction then
        match c.target u addr with
        | none => none
        | some addr' =>
            if plainAddress addr' && addr' != addr then
              match c.path n (some u) addr' with
              | none => none
              | some (us, last) => some (u :: us, last)
            else none
      else none

/-- The first word of a path. -/
structure Control.Goes (c : Control) (before : Option Microinstruction)
    (addr addr' : Nat) : Prop where
  isInternal : (Microcode.mem addr).isInternal = true
  selects : selects before (Microcode.mem addr) = true
  goes : (Microcode.mem addr).nextInstruction = false
  target : c.target (Microcode.mem addr) addr = some addr'
  plain : plainAddress addr' = true
  moves : addr' ≠ addr

theorem Control.path_succ {c : Control} {n : Nat}
    {before : Option Microinstruction} {addr last : Nat}
    {us : List Microinstruction}
    (h : c.path (n + 1) before addr = some (us, last)) :
    exists addr' us', c.Goes before addr addr' ∧
      us = Microcode.mem addr :: us' ∧
      c.path n (some (Microcode.mem addr)) addr' = some (us', last) := by
  simp only [Control.path] at h
  split at h
  · next hok =>
      simp only [Bool.and_eq_true, Bool.not_eq_true'] at hok
      rcases hok with ⟨⟨hint, hsel⟩, hgoes⟩
      split at h
      · cases h
      · next addr' htarget =>
          split at h
          · next hplain =>
              simp only [Bool.and_eq_true, bne_iff_ne] at hplain
              split at h
              · cases h
              · next us' last' hrest =>
                  simp only [Option.some.injEq, Prod.mk.injEq] at h
                  rcases h with ⟨rfl, rfl⟩
                  exact ⟨addr', us', ⟨hint, hsel, hgoes, htarget, hplain.1,
                    hplain.2⟩, rfl, hrest⟩
          · cases h
  · cases h

/-- The machine after the words of a path. -/
def Machine.follow : List Microinstruction -> Machine -> Machine
  | [], m => m
  | u :: us, m => follow us ((m.ready u).advance u)

/-- One word of a path, and the rest of it. -/
theorem step_of_path {before : Option Microinstruction} {addr addr' addr'' : Nat}
    {m m' : Machine} {c : Control} (h : c.Goes before addr addr')
    (hc : m.control = c) (hm : m.Selected before)
    (rest : ((m.ready (Microcode.mem addr)).advance
        (Microcode.mem addr)).control = c ->
      ((m.ready (Microcode.mem addr)).advance (Microcode.mem addr)).Selected
        (some (Microcode.mem addr)) ->
      Steps addr' ((m.ready (Microcode.mem addr)).advance (Microcode.mem addr))
        addr'' m') :
    Steps addr m addr'' m' := by
  have hparts := h.selects
  simp only [selects, Bool.and_eq_true, Bool.not_eq_true'] at hparts
  have hlast := last_eq_ready (m := m) hparts.left.left hparts.left.right
  have hcontrol : (m.ready (Microcode.mem addr)).control = c :=
    (ready_control m _).trans hc
  have hgo : (m.last (Microcode.mem addr)).target (Microcode.mem addr) addr =
      addr' := by
    rw [hlast]
    apply control_target
    rw [hcontrol]
    exact h.target
  refine Steps.step (Microcode.mem addr) rfl h.isInternal
    (stable_of_selects h.selects hm) h.goes ?_ ?_ ?_
  · rw [hgo]
    exact h.plain
  · rw [hgo]
    exact h.moves
  · rw [hgo, hlast]
    exact rest hcontrol rfl

theorem steps_of_path {n : Nat} {before : Option Microinstruction}
    {addr addr' : Nat} {us : List Microinstruction} {m : Machine}
    {c : Control} (h : c.path n before addr = some (us, addr'))
    (hc : m.control = c) (hm : m.Selected before) :
    Steps addr m addr' (m.follow us) := by
  induction n generalizing before addr us m with
  | zero =>
      cases h
      exact Steps.refl _ m
  | succ n ih =>
      obtain ⟨next, us', hgoes, rfl, hrest⟩ := Control.path_succ h
      exact step_of_path hgoes hc hm fun hc' hm' => ih hrest hc' hm'

/-- The words of a microprogram that only the instruction decides, the last one
apart. -/
def Control.program (c : Control) (n addr : Nat) :
    Option (List Microinstruction × Microinstruction) :=
  match c.path n none addr with
  | none => none
  | some (us, addr') =>
      let u := Microcode.mem addr'
      if u.isInternal && selects us.getLast? u && u.nextInstruction then
        some (us, u)
      else none

theorem follow_selected {us : List Microinstruction} {m : Machine} :
    (m.follow us).Selected us.getLast? := by
  induction us generalizing m with
  | nil =>
      trivial
  | cons u us ih =>
      cases us with
      | nil =>
          rfl
      | cons v us =>
          rw [List.getLast?_cons_cons]
          exact ih

/-- A microprogram that only the instruction decides is its words in turn. -/
theorem retires_of_program {n addr : Nat} {us : List Microinstruction}
    {u : Microinstruction} {m : Machine}
    (h : m.control.program n addr = some (us, u)) :
    Retires addr m (((m.follow us).ready u).retire u) := by
  unfold Control.program at h
  split at h
  · cases h
  · next us' addr' hpath =>
      dsimp only at h
      split at h
      · next hok =>
          simp only [Option.some.injEq, Prod.mk.injEq] at h
          rcases h with ⟨rfl, rfl⟩
          simp only [Bool.and_eq_true] at hok
          rcases hok with ⟨⟨hint, hsel⟩, hends⟩
          have hparts := hsel
          simp only [selects, Bool.and_eq_true, Bool.not_eq_true'] at hparts
          have hlast := last_eq_ready (m := m.follow us') hparts.left.left
            hparts.left.right
          apply (steps_of_path hpath rfl trivial).retires
          rw [<- hlast]
          exact Retires.last _ rfl hint
            (stable_of_selects hsel follow_selected) hends
      · cases h

end Rtl
end S80x86
