import S80x86.Microassembler.Uasm

/-!
# What a microprogram says

The microinstructions of a program with their labels, their explicit
addresses and the values of their fields, and that the assembler reads these.
-/

namespace S80x86
namespace Microassembler

open Foundation

/-!
## Fields
-/

namespace Field

/-- The value that a field gives to a keyword. -/
def value (k : Keyword) (f : Field) : Option Nat :=
  match Keyword.ofName f.name with
  | none => none
  | some j =>
      match j.handler with
      | .enumeratedField enumClass =>
          if k = j then (f.firstArgument >>= enumClass.valueOf).toOption
          else none
      | .boolean => if k = j then some 1 else none
      | .updateFlags =>
          if k = .updateFlags then (flagMask f.arguments).toOption else none
      | .immediate =>
          if k = .immediate then
            (f.firstArgument >>= Argument.int "").toOption
          else none
      | .jump jumpType => if k = .jumpType then some jumpType.value else none
      | .reserved => none

/-- The label that a field jumps to. -/
def target (f : Field) : Option Argument :=
  match (Keyword.ofName f.name).map Keyword.handler with
  | some (.jump jumpType) =>
      if jumpType = .OPCODE then none else f.arguments.head?
  | _ => none

end Field

/-- One microinstruction as it stands in a file. -/
structure Source where
  label : Option String
  address : Option Nat
  fields : List Field
  deriving DecidableEq, Repr

namespace Source

/-- The values that the fields give to a keyword. -/
def values (k : Keyword) (s : Source) : List Nat :=
  s.fields.filterMap (Field.value k)

/-- The last field that names a keyword counts. -/
def value (s : Source) (k : Keyword) : Option Nat := (s.values k).getLast?

def target (s : Source) : Option Argument :=
  (s.fields.filterMap Field.target).getLast?

end Source

/-- The microinstructions of the rest of a file, after a label and an
address. -/
def listing (label : Option String) (address : Option Nat) :
    List Line -> List Source
  | [] => []
  | .LabelAnchor label :: rest => listing (some label) address rest
  | .Directive directive arguments :: rest =>
      if directive = "at" then
        listing label
          (arguments.head?.bind fun arg => (arg.int "").toOption) rest
      else listing label none rest
  | .MicroInstruction fields :: rest =>
      { label, address, fields } :: listing none none rest
  | .PreprocessorDirective :: rest => listing label address rest

/-- The microinstructions of a program. -/
def sources (files : List (List Line)) : List Source :=
  files.flatMap (listing none none)

/-!
## Parsing
-/

theorem int_ok {arg : Argument} {message : String} {n : Nat}
    (h : arg.int message = .ok n) : arg = .Integer (some n) := by
  cases arg with
  | ID name =>
      cases h
  | Integer value =>
      cases value with
      | none =>
          cases h
      | some m =>
          cases h
          rfl

theorem bind_ok {α β : Type} {x : Except Error α} {f : α -> Except Error β}
    {b : β} (h : x >>= f = .ok b) : exists a, x = .ok a ∧ f a = .ok b := by
  cases x with
  | error e =>
      cases h
  | ok a =>
      exact ⟨a, rfl, h⟩

/-- The pool after a value, if there is one. -/
def addToPool? (pool : List Nat) (v : Option Nat) : List Nat :=
  v.elim pool (addToPool pool)

/-- What a parsed field does. -/
structure Parsed (f : Field) (a a' : Assembler) : Prop where
  present : forall k, a'.currentInstr.presentFields k =
    (f.value k).or (a.currentInstr.presentFields k)
  nextLabel : a'.currentInstr.nextLabel =
    f.target.or a.currentInstr.nextLabel
  address : a'.currentInstr.address = a.currentInstr.address
  immediatePool : a'.immediatePool =
    addToPool? a.immediatePool (f.value .immediate)
  updateFlagsPool : a'.updateFlagsPool =
    addToPool? a.updateFlagsPool (f.value .updateFlags)

namespace Parsed

/-- A field that sets one keyword and does nothing else. -/
theorem of_setField {f : Field} {a : Assembler} {k : Keyword} {v : Nat}
    {immediates flags : List Nat}
    (hValue : forall j, f.value j = if j = k then some v else none)
    (hTarget : f.target = none)
    (hImmediates : immediates =
      addToPool? a.immediatePool (f.value .immediate))
    (hFlags : flags = addToPool? a.updateFlagsPool (f.value .updateFlags)) :
    Parsed f a
      { a.setField k v with
        immediatePool := immediates
        updateFlagsPool := flags } := by
  refine ⟨?_, ?_, rfl, hImmediates, hFlags⟩
  · intro j
    rw [hValue j]
    simp only [Assembler.setField, Function.update_apply]
    by_cases hj : j = k
    · rw [if_pos hj, if_pos hj, Option.some_or]
    · rw [if_neg hj, if_neg hj, Option.none_or]
  · rw [hTarget, Option.none_or]
    rfl

/-- A field of a keyword without a pool. -/
theorem of_plain {f : Field} {a : Assembler} {k : Keyword} {v : Nat}
    (hValue : forall j, f.value j = if j = k then some v else none)
    (hTarget : f.target = none) (hImmediate : Keyword.immediate ≠ k)
    (hFlags : Keyword.updateFlags ≠ k) : Parsed f a (a.setField k v) := by
  refine of_setField hValue hTarget ?_ ?_
  · rw [hValue, if_neg hImmediate]
    rfl
  · rw [hValue, if_neg hFlags]
    rfl

end Parsed

theorem target_of_handler {f : Field} {k : Keyword}
    (hName : Keyword.ofName f.name = some k)
    (h : forall t, k.handler ≠ .jump t) : f.target = none := by
  unfold Field.target
  rw [hName, Option.map_some]
  cases hHandler : k.handler with
  | jump t =>
      exact absurd hHandler (h t)
  | _ =>
      rfl

theorem parseField_parsed {f : Field} {a a' : Assembler}
    (h : parseField a f = .ok a') : Parsed f a a' := by
  unfold parseField at h
  cases hName : Keyword.ofName f.name with
  | none =>
      rw [hName] at h
      cases h
  | some k =>
      rw [hName] at h
      cases hHandler : k.handler with
      | enumeratedField enumClass =>
          simp only [hHandler] at h
          obtain ⟨arg, harg, h⟩ := bind_ok h
          obtain ⟨v, hv, h⟩ := bind_ok h
          cases h
          have hImmediate : Keyword.immediate ≠ k := by
            rintro rfl
            cases hHandler
          have hFlags : Keyword.updateFlags ≠ k := by
            rintro rfl
            cases hHandler
          have hValue (j : Keyword) :
              f.value j = if j = k then some v else none := by
            simp only [Field.value, hName, hHandler, harg]
            rw [show (Except.ok arg >>= enumClass.valueOf) = .ok v from hv]
            rfl
          exact Parsed.of_plain hValue
            (target_of_handler hName (by simp [hHandler])) hImmediate hFlags
      | boolean =>
          simp only [hHandler] at h
          cases h
          have hImmediate : Keyword.immediate ≠ k := by
            rintro rfl
            cases hHandler
          have hFlags : Keyword.updateFlags ≠ k := by
            rintro rfl
            cases hHandler
          have hValue (j : Keyword) :
              f.value j = if j = k then some 1 else none := by
            simp only [Field.value, hName, hHandler]
          exact Parsed.of_plain hValue
            (target_of_handler hName (by simp [hHandler])) hImmediate hFlags
      | updateFlags =>
          simp only [hHandler] at h
          obtain ⟨flags, hflags, h⟩ := bind_ok h
          cases h
          have hValue (j : Keyword) :
              f.value j = if j = .updateFlags then some flags else none := by
            simp only [Field.value, hName, hHandler, hflags]
            rfl
          refine Parsed.of_setField hValue
            (target_of_handler hName (by simp [hHandler])) ?_ ?_
          · rw [hValue]
            rfl
          · rw [hValue]
            rfl
      | immediate =>
          simp only [hHandler] at h
          unfold immediate at h
          split at h
          next arg hargs =>
            obtain ⟨v, hv, h⟩ := bind_ok h
            cases h
            have hValue (j : Keyword) :
                f.value j = if j = .immediate then some v else none := by
              simp only [Field.value, hName, hHandler, Field.firstArgument,
                hargs, int_ok hv]
              rfl
            refine Parsed.of_setField hValue
              (target_of_handler hName (by simp [hHandler])) ?_ ?_
            · rw [hValue]
              rfl
            · rw [hValue]
              rfl
          next =>
            cases h
      | jump t =>
          simp only [hHandler] at h
          unfold jump at h
          obtain ⟨label, hlabel, h⟩ := bind_ok h
          cases h
          have hValue (j : Keyword) :
              f.value j = if j = .jumpType then some t.value else none := by
            simp only [Field.value, hName, hHandler]
          unfold Field.jumpLabel at hlabel
          have hTarget : label = f.target.or a.currentInstr.nextLabel := by
            simp only [Field.target, hName, Option.map_some, hHandler]
            by_cases hOpcode : t = .OPCODE
            · rw [if_pos hOpcode] at hlabel ⊢
              cases hlabel
              rfl
            · rw [if_neg hOpcode] at hlabel ⊢
              unfold Field.firstArgument at hlabel
              cases hargs : f.arguments with
              | nil =>
                  rw [hargs] at hlabel
                  cases hlabel
              | cons arg rest =>
                  rw [hargs] at hlabel
                  cases hlabel
                  rfl
          refine ⟨?_, hTarget, rfl, ?_, ?_⟩
          · intro j
            rw [hValue j]
            simp only [Assembler.setField, Function.update_apply]
            by_cases hj : j = .jumpType
            · rw [if_pos hj, if_pos hj, Option.some_or]
            · rw [if_neg hj, if_neg hj, Option.none_or]
          · rw [hValue]
            rfl
          · rw [hValue]
            rfl
      | reserved =>
          simp only [hHandler] at h
          cases h

theorem getLast?_filterMap_cons {α β : Type} (g : α -> Option β) (a : α)
    (l : List α) (b : Option β) :
    ((List.filterMap g (a :: l)).getLast?).or b =
      ((l.filterMap g).getLast?).or ((g a).or b) := by
  rw [List.filterMap_cons]
  cases hg : g a with
  | none =>
      rfl
  | some x =>
      rw [List.getLast?_cons]
      cases (l.filterMap g).getLast? with
      | none =>
          rfl
      | some y =>
          rfl

theorem foldl_addToPool?_cons {α : Type} (g : α -> Option Nat) (a : α)
    (l : List α) (pool : List Nat) :
    ((a :: l).filterMap g).foldl addToPool pool =
      (l.filterMap g).foldl addToPool (addToPool? pool (g a)) := by
  rw [List.filterMap_cons]
  cases hg : g a with
  | none =>
      rfl
  | some x =>
      rfl

/-- What the fields of a microinstruction do, one after the other. -/
structure ParsedAll (fields : List Field) (a a' : Assembler) : Prop where
  present : forall k, a'.currentInstr.presentFields k =
    ((fields.filterMap (Field.value k)).getLast?).or
      (a.currentInstr.presentFields k)
  nextLabel : a'.currentInstr.nextLabel =
    ((fields.filterMap Field.target).getLast?).or a.currentInstr.nextLabel
  address : a'.currentInstr.address = a.currentInstr.address
  immediatePool : a'.immediatePool =
    (fields.filterMap (Field.value .immediate)).foldl addToPool a.immediatePool
  updateFlagsPool : a'.updateFlagsPool =
    (fields.filterMap (Field.value .updateFlags)).foldl addToPool
      a.updateFlagsPool

theorem parse_parsedAll {fields : List Field} {a a' : Assembler}
    (h : parse fields a = .ok a') : ParsedAll fields a a' := by
  induction fields generalizing a with
  | nil =>
      cases h
      exact ⟨fun _ => rfl, rfl, rfl, rfl, rfl⟩
  | cons f rest ih =>
      unfold parse at h
      rw [List.foldlM_cons] at h
      obtain ⟨b, hfirst, hrest⟩ := bind_ok h
      have hf := parseField_parsed hfirst
      have hall := ih hrest
      refine ⟨?_, ?_, hall.address.trans hf.address, ?_, ?_⟩
      · intro k
        rw [getLast?_filterMap_cons, ← hf.present k]
        exact hall.present k
      · rw [getLast?_filterMap_cons, ← hf.nextLabel]
        exact hall.nextLabel
      · rw [foldl_addToPool?_cons, ← hf.immediatePool]
        exact hall.immediatePool
      · rw [foldl_addToPool?_cons, ← hf.updateFlagsPool]
        exact hall.updateFlagsPool

/-!
## Reading
-/

/-- The assembler's view of a microinstruction. -/
structure Built (s : Source) (i : MicroInstruction) : Prop where
  address : i.address = s.address
  nextLabel : i.nextLabel = s.target
  present : forall k, i.presentFields k = s.value k

/-- The values of a keyword in a program, each once. -/
def poolOf (k : Keyword) (l : List Source) : List Nat :=
  (l.flatMap (Source.values k)).foldl addToPool []

theorem poolOf_append_singleton (k : Keyword) (l : List Source) (s : Source) :
    poolOf k (l ++ [s]) = (s.values k).foldl addToPool (poolOf k l) := by
  unfold poolOf
  rw [List.flatMap_append, List.foldl_append, List.flatMap_singleton]

/-- The reader has seen these microinstructions. -/
structure Reads (l : List Source) (r : Reader) : Prop where
  built : List.Forall₂ Built l r.instructions
  labels : forall label n, r.labelMap.lookup label = some n ->
    exists s, l[n]? = some s ∧ s.label = some label
  immediatePool : r.immediatePool = poolOf .immediate l
  updateFlagsPool : r.updateFlagsPool = poolOf .updateFlags l

namespace Reads

variable {l : List Source} {r : Reader}

theorem congr {r' : Reader} (h : Reads l r)
    (hInstr : r'.instructions = r.instructions)
    (hLabels : r'.labelMap = r.labelMap)
    (hImm : r'.immediatePool = r.immediatePool)
    (hFlags : r'.updateFlagsPool = r.updateFlagsPool) : Reads l r' :=
  ⟨hInstr ▸ h.built, hLabels ▸ h.labels, hImm.trans h.immediatePool,
    hFlags.trans h.updateFlagsPool⟩

/-- One more microinstruction. -/
theorem instruction {fields : List Field} {r' : Reader} {s : Source}
    (h : Reads l r) (hs : s = ⟨r.currentLabel, r.currentAddress, fields⟩)
    (hline : readLine r (.MicroInstruction fields) = .ok r') :
    Reads (l ++ [s]) r' ∧ r'.currentLabel = none ∧
      r'.currentAddress = none := by
  obtain ⟨a, hparse, hline⟩ := bind_ok hline
  cases hline
  have hall := parse_parsedAll hparse
  have hlength := h.built.length_eq
  have hold (m : Nat) (t : Source) (hm : l[m]? = some t) :
      (l ++ [s])[m]? = some t := by
    rw [List.getElem?_append_left (List.getElem?_eq_some_iff.mp hm).1]
    exact hm
  refine ⟨⟨?_, ?_, ?_, ?_⟩, rfl, rfl⟩
  · refine List.rel_append h.built (List.Forall₂.cons ⟨?_, ?_, ?_⟩ .nil)
    · rw [hall.address, hs]
    · rw [hall.nextLabel, Option.or_none, hs]
      rfl
    · intro k
      rw [hall.present k, Option.or_none, hs]
      rfl
  · intro label n hlookup
    cases hlabel : r.currentLabel with
    | none =>
        simp only [hlabel] at hlookup
        obtain ⟨t, ht, htLabel⟩ := h.labels label n hlookup
        exact ⟨t, hold n t ht, htLabel⟩
    | some current =>
        simp only [hlabel, List.lookup_cons] at hlookup
        split at hlookup
        next heq =>
          cases hlookup
          refine ⟨s, ?_, ?_⟩
          · rw [← hlength]
            exact List.getElem?_concat_length
          · rw [hs, hlabel, eq_of_beq heq]
        next =>
          obtain ⟨t, ht, htLabel⟩ := h.labels label n hlookup
          exact ⟨t, hold n t ht, htLabel⟩
  · rw [hall.immediatePool, poolOf_append_singleton, h.immediatePool, hs]
    rfl
  · rw [hall.updateFlagsPool, poolOf_append_singleton, h.updateFlagsPool, hs]
    rfl

/-- The lines of a file add its listing. -/
theorem lines {lines : List Line} {r' : Reader} (h : Reads l r)
    (hlines : lines.foldlM readLine r = .ok r') :
    Reads (l ++ listing r.currentLabel r.currentAddress lines) r' := by
  induction lines generalizing l r with
  | nil =>
      cases hlines
      rw [listing, List.append_nil]
      exact h
  | cons line rest ih =>
      rw [List.foldlM_cons] at hlines
      obtain ⟨r₁, hline, hrest⟩ := bind_ok hlines
      cases line with
      | LabelAnchor label =>
          rw [readLine] at hline
          split at hline
          next =>
            cases hline
          next =>
            cases hline
            refine ih ?_ hrest
            exact h.congr rfl rfl rfl rfl
      | Directive directive arguments =>
          rw [readLine] at hline
          rw [listing]
          split at hline
          next hAt =>
            obtain ⟨arg, harg, hline⟩ := bind_ok hline
            obtain ⟨addr, haddr, hline⟩ := bind_ok hline
            cases hline
            rw [if_pos hAt]
            have haddress :
                (arguments.head?.bind fun arg => (arg.int "").toOption) =
                  some addr := by
              cases arguments with
              | nil =>
                  cases harg
              | cons first others =>
                  cases harg
                  rw [List.head?_cons, Option.bind_some, int_ok haddr]
                  rfl
            rw [haddress]
            refine ih ?_ hrest
            exact h.congr rfl rfl rfl rfl
          next hAt =>
            rw [if_neg hAt]
            split at hline
            next =>
              cases hline
              refine ih ?_ hrest
              exact h.congr rfl rfl rfl rfl
            next =>
              cases hline
      | MicroInstruction fields =>
          obtain ⟨hreads, hlabel, haddress⟩ := h.instruction rfl hline
          have hall := ih hreads hrest
          rw [hlabel, haddress] at hall
          rw [listing, List.append_cons]
          exact hall
      | PreprocessorDirective =>
          cases hline
          exact ih h hrest

theorem file {lines : List Line} {r' : Reader} (h : Reads l r)
    (hfile : readFile r lines = .ok r') :
    Reads (l ++ listing none none lines) r' := by
  have hstart :
      Reads l { r with currentLabel := none, currentAddress := none } :=
    h.congr rfl rfl rfl rfl
  exact hstart.lines hfile

theorem files {files : List (List Line)} {r' : Reader} (h : Reads l r)
    (hfiles : files.foldlM readFile r = .ok r') :
    Reads (l ++ sources files) r' := by
  induction files generalizing l r with
  | nil =>
      cases hfiles
      rw [sources, List.flatMap_nil, List.append_nil]
      exact h
  | cons lines rest ih =>
      rw [List.foldlM_cons] at hfiles
      obtain ⟨r₁, hfile, hrest⟩ := bind_ok hfiles
      have hall := ih (h.file hfile) hrest
      rw [List.append_assoc] at hall
      rw [sources, List.flatMap_cons]
      exact hall

end Reads

/-- The assembler reads what the program says. -/
theorem readFiles_reads {files : List (List Line)} {r : Reader}
    (h : readFiles files = .ok r) : Reads (sources files) r := by
  have hempty : Reads [] {} := by
    refine ⟨.nil, ?_, rfl, rfl⟩
    intro label n hlookup
    cases hlookup
  exact hempty.files h

end Microassembler
end S80x86
