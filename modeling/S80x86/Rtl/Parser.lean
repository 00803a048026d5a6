import S80x86.Rtl.Instruction
import Mathlib.Data.List.Basic

/-!
# The instruction parser

What a decoder is for, without clocks: prefixes, an opcode, a ModRM byte when
the table says so, a displacement and the immediates, read from a byte list.
Every stage extends the record parsed so far and hands on the remaining bytes;
`none` means that the bytes end inside the instruction.
-/

namespace S80x86
namespace Rtl
namespace Parser

abbrev Byte := BitVec 8

/-- A sign-extended byte or a little-endian word. -/
def takeImmediate (is8bit : Bool) (bytes : List Byte) :
    Option (BitVec 16 × List Byte) :=
  match is8bit, bytes with
  | true, b :: rest => some (b.signExtend 16, rest)
  | false, low :: high :: rest =>
      some (high.setWidth 16 <<< 8 ||| low.setWidth 16, rest)
  | _, _ => none

/-- The bytes an immediate takes. -/
def immediateBytes (is8bit : Bool) : Nat := if is8bit then 1 else 2

variable (T : OpcodeTable)

/-- The bytes all immediates of an opcode take. -/
def insnImmedBytes (opcode : BitVec 8) (reg : BitVec 3) : Nat :=
  if T.insnImmedCount opcode reg = 0#2 then 0
  else
    immediateBytes (T.insnImmedIs8bit opcode reg false) +
      if T.insnImmedCount opcode reg = 2#2 then
        immediateBytes (T.insnImmedIs8bit opcode reg true)
      else 0

def parseImmed2 (acc : Instruction) (bytes : List Byte) :
    Option (Instruction × List Byte) :=
  let is8bit := T.insnImmedIs8bit acc.opcode acc.reg true
  match takeImmediate is8bit bytes with
  | none => none
  | some (v, rest) =>
      some ({ acc.addLength (immediateBytes is8bit) with immediates1 := v },
        rest)

def parseImmed1 (acc : Instruction) (bytes : List Byte) :
    Option (Instruction × List Byte) :=
  let is8bit := T.insnImmedIs8bit acc.opcode acc.reg false
  match takeImmediate is8bit bytes with
  | none => none
  | some (v, rest) =>
      let acc' :=
        { acc.addLength (immediateBytes is8bit) with immediates0 := v }
      if T.insnImmedCount acc.opcode acc.reg = 2#2 then
        parseImmed2 T acc' rest
      else some (acc', rest)

def parseImmediates (acc : Instruction) (bytes : List Byte) :
    Option (Instruction × List Byte) :=
  if T.insnImmedCount acc.opcode acc.reg = 0#2 then some (acc, bytes)
  else parseImmed1 T acc bytes

/-- An 8-bit displacement when the mode is 01, a 16-bit one otherwise. -/
def displacementIs8bit (mbyte : BitVec 8) : Bool :=
  mbyte.extractLsb' 6 2 == 0b01#2

def parseDisplacement (acc : Instruction) (bytes : List Byte) :
    Option (Instruction × List Byte) :=
  let is8bit := displacementIs8bit acc.modRm
  match takeImmediate is8bit bytes with
  | none => none
  | some (v, rest) =>
      parseImmediates T
        { acc.addLength (immediateBytes is8bit) with displacement := v } rest

def parseModrm (acc : Instruction) :
    List Byte -> Option (Instruction × List Byte)
  | [] => none
  | b :: rest =>
      let acc' := { acc.addLength 1 with modRm := b }
      if hasDisplacement b then parseDisplacement T acc' rest
      else parseImmediates T acc' rest

/-- Prefixes in any number and order, then the opcode. -/
def parseInstruction (acc : Instruction) :
    List Byte -> Option (Instruction × List Byte)
  | [] => none
  | b :: rest =>
      let acc' := latchOpcode T (acc.addLength 1) b
      if isPrefix b then parseInstruction acc' rest
      else if T.insnHasModrm b then parseModrm T acc' rest
      else parseImmediates T acc' rest

/-- All instructions at the front of the bytes and what is left after them. -/
def parseMany : Nat -> List Byte -> List Instruction × List Byte
  | 0, bytes => ([], bytes)
  | fuel + 1, bytes =>
      match parseInstruction T .zero bytes with
      | none => ([], bytes)
      | some (i, rest) =>
          let (more, left) := parseMany fuel rest
          (i :: more, left)

/-- Every instruction takes a byte, so the length is fuel enough. -/
def parseStream (bytes : List Byte) : List Instruction × List Byte :=
  parseMany T bytes.length bytes

/-!
## More input
-/

theorem takeImmediate_append {is8bit : Bool} {bytes : List Byte}
    {v : BitVec 16} {rest : List Byte}
    (h : takeImmediate is8bit bytes = some (v, rest)) (extra : List Byte) :
    takeImmediate is8bit (bytes ++ extra) = some (v, rest ++ extra) := by
  unfold takeImmediate at h
  split at h
  · cases h
    rfl
  · cases h
    rfl
  · cases h

theorem parseImmed2_append {acc i : Instruction} {bytes rest : List Byte}
    (h : parseImmed2 T acc bytes = some (i, rest)) (extra : List Byte) :
    parseImmed2 T acc (bytes ++ extra) = some (i, rest ++ extra) := by
  unfold parseImmed2 at h ⊢
  cases htake : takeImmediate (T.insnImmedIs8bit acc.opcode acc.reg true)
      bytes with
  | none =>
      simp [htake] at h
  | some taken =>
      rcases taken with ⟨v, left⟩
      simp only [htake] at h
      cases h
      simp [takeImmediate_append htake extra]

theorem parseImmed1_append {acc i : Instruction} {bytes rest : List Byte}
    (h : parseImmed1 T acc bytes = some (i, rest)) (extra : List Byte) :
    parseImmed1 T acc (bytes ++ extra) = some (i, rest ++ extra) := by
  unfold parseImmed1 at h ⊢
  cases htake : takeImmediate (T.insnImmedIs8bit acc.opcode acc.reg false)
      bytes with
  | none =>
      simp [htake] at h
  | some taken =>
      rcases taken with ⟨v, left⟩
      simp only [htake, takeImmediate_append htake extra] at h ⊢
      split at h
      · next htwo =>
          rw [if_pos htwo]
          exact parseImmed2_append T h extra
      · next htwo =>
          rw [if_neg htwo]
          cases h
          rfl

theorem parseImmediates_append {acc i : Instruction} {bytes rest : List Byte}
    (h : parseImmediates T acc bytes = some (i, rest)) (extra : List Byte) :
    parseImmediates T acc (bytes ++ extra) = some (i, rest ++ extra) := by
  unfold parseImmediates at h ⊢
  split at h
  · next hzero =>
      rw [if_pos hzero]
      cases h
      rfl
  · next hzero =>
      rw [if_neg hzero]
      exact parseImmed1_append T h extra

theorem parseDisplacement_append {acc i : Instruction}
    {bytes rest : List Byte}
    (h : parseDisplacement T acc bytes = some (i, rest))
    (extra : List Byte) :
    parseDisplacement T acc (bytes ++ extra) = some (i, rest ++ extra) := by
  unfold parseDisplacement at h ⊢
  cases htake : takeImmediate (displacementIs8bit acc.modRm) bytes with
  | none =>
      simp [htake] at h
  | some taken =>
      rcases taken with ⟨v, left⟩
      simp only [htake, takeImmediate_append htake extra] at h ⊢
      exact parseImmediates_append T h extra

theorem parseModrm_append {acc i : Instruction} {bytes rest : List Byte}
    (h : parseModrm T acc bytes = some (i, rest)) (extra : List Byte) :
    parseModrm T acc (bytes ++ extra) = some (i, rest ++ extra) := by
  cases bytes with
  | nil =>
      cases h
  | cons b left =>
      simp only [parseModrm, List.cons_append] at h ⊢
      split at h
      · next hdisp =>
          rw [if_pos hdisp]
          exact parseDisplacement_append T h extra
      · next hdisp =>
          rw [if_neg hdisp]
          exact parseImmediates_append T h extra

theorem parseInstruction_append {acc i : Instruction} {bytes rest : List Byte}
    (h : parseInstruction T acc bytes = some (i, rest)) (extra : List Byte) :
    parseInstruction T acc (bytes ++ extra) = some (i, rest ++ extra) := by
  induction bytes generalizing acc with
  | nil =>
      cases h
  | cons b left ih =>
      simp only [parseInstruction, List.cons_append] at h ⊢
      split at h
      · next hpre =>
          rw [if_pos hpre]
          exact ih h
      · next hpre =>
          rw [if_neg hpre]
          split at h
          · next hmod =>
              rw [if_pos hmod]
              exact parseModrm_append T h extra
          · next hmod =>
              rw [if_neg hmod]
              exact parseImmediates_append T h extra

/-!
## Sequences of instructions
-/

/-- The bytes are exactly the encodings of the instructions, in order. -/
inductive Decodes : List Byte -> List Instruction -> Prop where
  | nil : Decodes [] []
  | cons {chunk bytes : List Byte} {i : Instruction} {rest : List Instruction} :
      parseInstruction T .zero chunk = some (i, []) ->
      Decodes bytes rest ->
      Decodes (chunk ++ bytes) (i :: rest)

variable {T}

theorem Decodes.snoc {bytes chunk : List Byte} {is : List Instruction}
    {i : Instruction} (h : Decodes T bytes is)
    (hchunk : parseInstruction T .zero chunk = some (i, [])) :
    Decodes T (bytes ++ chunk) (is ++ [i]) := by
  induction h with
  | nil =>
      simpa using Decodes.cons hchunk Decodes.nil
  | cons hfirst _ ih =>
      rw [List.append_assoc]
      exact Decodes.cons hfirst ih

theorem Decodes.split {bytes : List Byte} {first second : List Instruction}
    (h : Decodes T bytes (first ++ second)) :
    exists left right, bytes = left ++ right ∧ Decodes T left first ∧
      Decodes T right second := by
  induction first generalizing bytes with
  | nil =>
      exact ⟨[], bytes, rfl, Decodes.nil, h⟩
  | cons i first ih =>
      cases h with
      | @cons chunk bytes _ _ hchunk hrest =>
          obtain ⟨left, right, rfl, hleft, hright⟩ := ih hrest
          exact ⟨chunk ++ left, right, (List.append_assoc _ _ _).symm,
            Decodes.cons hchunk hleft, hright⟩

/-- No bytes are no instruction. -/
theorem Decodes.not_nil {i : Instruction} {is : List Instruction} :
    ¬ Decodes T [] (i :: is) := by
  intro h
  generalize hbytes : ([] : List Byte) = bytes at h
  cases h with
  | @cons chunk bytes _ _ hchunk hrest =>
      obtain ⟨rfl, -⟩ := List.append_eq_nil_iff.mp hbytes.symm
      cases hchunk

theorem parseMany_of_decodes {bytes left : List Byte}
    {is : List Instruction} (h : Decodes T bytes is)
    (hleft : parseInstruction T .zero left = none) :
    forall fuel, bytes.length ≤ fuel ->
      parseMany T fuel (bytes ++ left) = (is, left) := by
  induction h with
  | nil =>
      intro fuel _
      cases fuel with
      | zero =>
          rfl
      | succ fuel =>
          simp [parseMany, hleft]
  | @cons chunk bytes i rest hfirst _ ih =>
      intro fuel hfuel
      cases chunk with
      | nil =>
          cases hfirst
      | cons b chunk =>
          cases fuel with
          | zero =>
              simp at hfuel
          | succ fuel =>
              have hparse := parseInstruction_append T hfirst (bytes ++ left)
              simp only [List.length_append, List.length_cons] at hfuel
              rw [List.append_assoc, parseMany, hparse]
              simp [ih fuel (by omega)]

theorem parseStream_of_decodes {bytes left : List Byte}
    {is : List Instruction} (h : Decodes T bytes is)
    (hleft : parseInstruction T .zero left = none) :
    parseStream T (bytes ++ left) = (is, left) :=
  parseMany_of_decodes h hleft _ (by simp)

/-- More bytes never change the instructions already found. -/
theorem parseMany_extends {bytes : List Byte} {is : List Instruction}
    (h : Decodes T bytes is) (left : List Byte) :
    forall fuel, bytes.length ≤ fuel ->
      is <+: (parseMany T fuel (bytes ++ left)).1 := by
  induction h with
  | nil =>
      intro fuel _
      exact List.nil_prefix
  | @cons chunk bytes i rest hfirst _ ih =>
      intro fuel hfuel
      cases chunk with
      | nil =>
          cases hfirst
      | cons b chunk =>
          cases fuel with
          | zero =>
              simp at hfuel
          | succ fuel =>
              have hparse := parseInstruction_append T hfirst (bytes ++ left)
              simp only [List.length_append, List.length_cons] at hfuel
              rw [List.append_assoc, parseMany, hparse]
              simpa using ih fuel (by omega)

theorem parseStream_extends {bytes : List Byte} {is : List Instruction}
    (h : Decodes T bytes is) (left : List Byte) :
    is <+: (parseStream T (bytes ++ left)).1 :=
  parseMany_extends h left _ (by simp)

/-!
## What a record says
-/

def repOf (b : Byte) : Option RepPrefix :=
  if b = 0xf2#8 then some .NE else if b = 0xf3#8 then some .E else none

def segmentOf (b : Byte) : Option SR :=
  if b = 0x26#8 then some .ES
  else if b = 0x2e#8 then some .CS
  else if b = 0x36#8 then some .SS
  else if b = 0x3e#8 then some .DS
  else none

/-- The meaning of the last of the bytes that has one. -/
def lastOf (f : Byte -> Option α) (bytes : List Byte) : Option α :=
  (bytes.filterMap f).getLast?

theorem lastOf_cons (f : Byte -> Option α) (b : Byte) (bytes : List Byte) :
    lastOf f (b :: bytes) = (lastOf f bytes).or (f b) := by
  unfold lastOf
  rw [List.filterMap_cons]
  cases f b with
  | none =>
      exact Option.or_none.symm
  | some a =>
      rw [List.getLast?_cons]
      cases (bytes.filterMap f).getLast? <;> rfl

/-- What no immediate changes is the same after all of them. -/
theorem parseImmediates_keeps {T : OpcodeTable} {P : Instruction -> Prop}
    (hfirst : forall (i : Instruction) (n : Nat) (v : BitVec 16), P i ->
      P { i.addLength n with immediates0 := v })
    (hsecond : forall (i : Instruction) (n : Nat) (v : BitVec 16), P i ->
      P { i.addLength n with immediates1 := v })
    {acc i : Instruction} {bytes left : List Byte} (h : P acc)
    (hparse : parseImmediates T acc bytes = some (i, left)) : P i := by
  unfold parseImmediates at hparse
  split at hparse
  · cases hparse
    exact h
  · unfold parseImmed1 at hparse
    cases htake : takeImmediate (T.insnImmedIs8bit acc.opcode acc.reg false)
        bytes with
    | none =>
        simp [htake] at hparse
    | some taken =>
        rcases taken with ⟨v, rest⟩
        simp only [htake] at hparse
        split at hparse
        · unfold parseImmed2 at hparse
          dsimp only at hparse
          split at hparse
          · cases hparse
          · cases hparse
            exact hsecond _ _ _ (hfirst _ _ _ h)
        · cases hparse
          exact hfirst _ _ _ h

theorem parseDisplacement_cases {T : OpcodeTable} {acc i : Instruction}
    {bytes left : List Byte}
    (hparse : parseDisplacement T acc bytes = some (i, left)) :
    exists v rest,
      takeImmediate (displacementIs8bit acc.modRm) bytes = some (v, rest) ∧
        parseImmediates T
          { acc.addLength (immediateBytes (displacementIs8bit acc.modRm)) with
            displacement := v } rest = some (i, left) := by
  unfold parseDisplacement at hparse
  cases htake : takeImmediate (displacementIs8bit acc.modRm) bytes with
  | none =>
      simp [htake] at hparse
  | some taken =>
      rcases taken with ⟨v, rest⟩
      simp only [htake] at hparse
      exact ⟨v, rest, rfl, hparse⟩

/-- The record holds what the prefixes and the opcode of an instruction say,
beside what `acc` held. -/
structure Announced (T : OpcodeTable) (acc : Instruction)
    (prefixes : List Byte) (b : Byte) (i : Instruction) : Prop where
  lock : i.lock = (acc.lock || prefixes.contains 0xf0#8)
  rep : i.rep = (lastOf repOf prefixes).getD acc.rep
  hasSegmentOverride : i.hasSegmentOverride =
    (acc.hasSegmentOverride || (lastOf segmentOf prefixes).isSome)
  segment : i.segment = (lastOf segmentOf prefixes).getD acc.segment
  opcode : i.opcode = b
  hasModrm : i.hasModrm = T.insnHasModrm b

theorem Announced.imp {acc i i' : Instruction} {prefixes : List Byte}
    {b : Byte} (h : Announced T acc prefixes b i)
    (hlock : i'.lock = i.lock) (hrep : i'.rep = i.rep)
    (hoverride : i'.hasSegmentOverride = i.hasSegmentOverride)
    (hsegment : i'.segment = i.segment) (hopcode : i'.opcode = i.opcode)
    (hmodrm : i'.hasModrm = i.hasModrm) :
    Announced T acc prefixes b i' :=
  ⟨hlock.trans h.lock, hrep.trans h.rep, hoverride.trans h.hasSegmentOverride,
    hsegment.trans h.segment, hopcode.trans h.opcode,
    hmodrm.trans h.hasModrm⟩

section Announced

variable {acc i : Instruction} {ps bytes left : List Byte} {b : Byte}

theorem parseImmediates_announced (h : Announced T acc ps b i)
    {i' : Instruction} (hparse : parseImmediates T i bytes = some (i', left)) :
    Announced T acc ps b i' :=
  parseImmediates_keeps (fun _ _ _ hi => hi.imp rfl rfl rfl rfl rfl rfl)
    (fun _ _ _ hi => hi.imp rfl rfl rfl rfl rfl rfl) h hparse

theorem parseDisplacement_announced (h : Announced T acc ps b i)
    {i' : Instruction} (hparse : parseDisplacement T i bytes = some (i', left)) :
    Announced T acc ps b i' := by
  obtain ⟨v, rest, -, hparse⟩ := parseDisplacement_cases hparse
  have hdisplaced : Announced T acc ps b
      { i.addLength (immediateBytes (displacementIs8bit i.modRm)) with
        displacement := v } :=
    h.imp rfl rfl rfl rfl rfl rfl
  exact parseImmediates_announced hdisplaced hparse

theorem parseModrm_announced (h : Announced T acc ps b i)
    {i' : Instruction} (hparse : parseModrm T i bytes = some (i', left)) :
    Announced T acc ps b i' := by
  cases bytes with
  | nil =>
      cases hparse
  | cons m rest =>
      have hmodrm : Announced T acc ps b { i.addLength 1 with modRm := m } :=
        h.imp rfl rfl rfl rfl rfl rfl
      change (if hasDisplacement m then
          parseDisplacement T { i.addLength 1 with modRm := m } rest
        else parseImmediates T { i.addLength 1 with modRm := m } rest) =
          some (i', left) at hparse
      generalize { i.addLength 1 with modRm := m } = j at hmodrm hparse
      split at hparse
      · exact parseDisplacement_announced hmodrm hparse
      · exact parseImmediates_announced hmodrm hparse

theorem latchOpcode_lock (i : Instruction) (b : Byte) :
    (latchOpcode T i b).lock = (i.lock || b == 0xf0#8) := by
  unfold latchOpcode
  split
  · simp [*]
  · repeat' split
    all_goals simp [*]

theorem latchOpcode_rep (i : Instruction) (b : Byte) :
    (latchOpcode T i b).rep = (repOf b).getD i.rep := by
  unfold latchOpcode repOf
  repeat' split
  all_goals simp_all

theorem latchOpcode_segment (i : Instruction) (b : Byte) :
    (latchOpcode T i b).hasSegmentOverride =
        (i.hasSegmentOverride || (segmentOf b).isSome) ∧
      (latchOpcode T i b).segment = (segmentOf b).getD i.segment := by
  unfold latchOpcode segmentOf
  repeat' split
  all_goals simp_all

theorem or_getD (x y : Option α) (a : α) :
    x.getD (y.getD a) = (x.or y).getD a := by
  cases x <;> rfl

/-- The last repetition prefix and the last segment prefix are recorded, in
whatever order prefixes come. -/
theorem parseInstruction_announced
    (hps : forall p, p ∈ ps -> isPrefix p = true) (hb : isPrefix b = false)
    (hparse : parseInstruction T acc (ps ++ b :: bytes) = some (i, left)) :
    Announced T acc ps b i := by
  induction ps generalizing acc with
  | nil =>
      have hb' := hb
      simp only [isPrefix, Bool.or_eq_false_iff, beq_eq_false_iff_ne] at hb'
      have hlatched : Announced T acc [] b
          (latchOpcode T (acc.addLength 1) b) := by
        simp only [latchOpcode, hb', beq_iff_eq, if_false]
        exact ⟨(Bool.or_false _).symm, rfl, (Bool.or_false _).symm, rfl, rfl,
          rfl⟩
      rw [List.nil_append, parseInstruction, hb] at hparse
      simp only [Bool.false_eq_true, if_false] at hparse
      split at hparse
      · exact parseModrm_announced hlatched hparse
      · exact parseImmediates_announced hlatched hparse
  | cons p ps ih =>
      have hp := hps p List.mem_cons_self
      rw [List.cons_append, parseInstruction, if_pos hp] at hparse
      have hrest := ih (fun q hq => hps q (List.mem_cons_of_mem p hq)) hparse
      obtain ⟨hoverride, hsegment⟩ :=
        latchOpcode_segment (T := T) (acc.addLength 1) p
      refine ⟨?_, ?_, ?_, ?_, hrest.opcode, hrest.hasModrm⟩
      · rw [hrest.lock, latchOpcode_lock, List.contains_cons, Bool.or_assoc,
          BEq.comm]
        rfl
      · rw [hrest.rep, latchOpcode_rep, lastOf_cons, or_getD]
        rfl
      · rw [hrest.hasSegmentOverride, hoverride, lastOf_cons, Option.isSome_or,
          Bool.or_comm (lastOf segmentOf ps).isSome, Bool.or_assoc]
        rfl
      · rw [hrest.segment, hsegment, lastOf_cons, or_getD]
        rfl

end Announced

/-- A displacement follows the modes 01 and 10, and mode 00 with r/m 110. -/
theorem hasDisplacement_iff (b : Byte) :
    hasDisplacement b = true ↔
      b.extractLsb' 6 2 = 1#2 ∨ b.extractLsb' 6 2 = 2#2 ∨
        b.extractLsb' 6 2 = 0#2 ∧ b.extractLsb' 0 3 = 6#3 := by
  revert b
  decide

theorem parseImmediates_displacement {acc i : Instruction}
    {bytes left : List Byte}
    (hparse : parseImmediates T acc bytes = some (i, left)) :
    i.displacement = acc.displacement :=
  parseImmediates_keeps (P := fun i => i.displacement = acc.displacement)
    (fun _ _ _ hi => hi) (fun _ _ _ hi => hi) rfl hparse

/-- The displacement is a sign-extended byte after mode 01, a word after mode
10 and after mode 00 with r/m 110, and absent otherwise. -/
theorem parseModrm_displacement {acc i : Instruction} {b : Byte}
    {bytes left : List Byte}
    (hparse : parseModrm T acc (b :: bytes) = some (i, left)) :
    (b.extractLsb' 6 2 = 1#2 ->
        exists d rest, bytes = d :: rest ∧
          i.displacement = d.signExtend 16) ∧
      (b.extractLsb' 6 2 = 2#2 ∨
          b.extractLsb' 6 2 = 0#2 ∧ b.extractLsb' 0 3 = 6#3 ->
        exists low high rest, bytes = low :: high :: rest ∧
          i.displacement = high.setWidth 16 <<< 8 ||| low.setWidth 16) ∧
      (hasDisplacement b = false -> i.displacement = acc.displacement) := by
  simp only [parseModrm] at hparse
  by_cases hdisp : hasDisplacement b = true
  · rw [if_pos hdisp] at hparse
    obtain ⟨v, rest, htake, hparse⟩ := parseDisplacement_cases hparse
    have hvalue : i.displacement = v := parseImmediates_displacement hparse
    refine ⟨?_, ?_, fun h => absurd (hdisp.symm.trans h) (by decide)⟩
    · intro hmode
      have hbyte : displacementIs8bit b = true := beq_iff_eq.mpr hmode
      change takeImmediate (displacementIs8bit b) bytes = _ at htake
      rw [hbyte] at htake
      cases bytes with
      | nil =>
          cases htake
      | cons d rest =>
          cases htake
          exact ⟨d, _, rfl, hvalue⟩
    · intro hmode
      have hword : displacementIs8bit b = false := by
        rw [displacementIs8bit, beq_eq_false_iff_ne]
        rintro hone
        rcases hmode with htwo | ⟨hzero, _⟩
        · exact absurd (hone.symm.trans htwo) (by decide)
        · exact absurd (hone.symm.trans hzero) (by decide)
      change takeImmediate (displacementIs8bit b) bytes = _ at htake
      rw [hword] at htake
      rcases bytes with _ | ⟨low, _ | ⟨high, rest⟩⟩
      · cases htake
      · cases htake
      · cases htake
        exact ⟨low, high, _, rfl, hvalue⟩
  · rw [if_neg hdisp] at hparse
    have hvalue : i.displacement = acc.displacement :=
      (parseImmediates_displacement hparse).trans rfl
    rw [hasDisplacement_iff] at hdisp
    exact ⟨fun h => absurd (Or.inl h) hdisp, fun h => absurd (Or.inr h) hdisp,
      fun _ => hvalue⟩

end Parser
end Rtl
end S80x86
