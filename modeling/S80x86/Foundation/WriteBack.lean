import Mathlib.Logic.Function.Basic

/-!
# Write-back stores

A direct-mapped store of lines in front of a slower one.  A slot keeps one
resident line; a line is brought in and written back one word at a time, and
meanwhile the resident lines stay in use.  The coherence invariant relates the
slots and the slower store to the memory that both together implement.
-/

namespace Foundation
namespace WriteBack

variable {Line Word Value Index : Type}

/-- The transfer in progress, with the words that have been transferred. -/
inductive Phase (Line Word : Type) where
  | idle
  | filling (line : Line) (present : Word -> Bool)
  | flushing (line : Line) (written : Word -> Bool)

@[ext] structure Store (Line Word Value Index : Type) where
  resident : Index -> Option Line
  dirty : Index -> Bool
  data : Index -> Word -> Value
  backend : Line -> Word -> Value
  phase : Phase Line Word

/-- Replace one word. -/
def setWord [DecidableEq Line] [DecidableEq Word]
    (memory : Line -> Word -> Value) (l : Line) (w : Word) (v : Value) :
    Line -> Word -> Value :=
  fun l' w' => if l' = l ∧ w' = w then v else memory l' w'

@[simp] theorem setWord_same [DecidableEq Line] [DecidableEq Word]
    (memory : Line -> Word -> Value) (l : Line) (w : Word) (v : Value) :
    setWord memory l w v l w = v := by
  simp [setWord]

theorem setWord_other [DecidableEq Line] [DecidableEq Word]
    (memory : Line -> Word -> Value) {l l' : Line} {w w' : Word} (v : Value)
    (h : ¬ (l' = l ∧ w' = w)) :
    setWord memory l w v l' w' = memory l' w' := by
  simp [setWord, h]

section Coherence

variable (index : Line -> Index)

/-- The word can be read from its slot. -/
def Holds (s : Store Line Word Value Index) (l : Line) (w : Word) : Prop :=
  s.resident (index l) = some l ∨
    exists present, s.phase = .filling l present ∧ present w = true

/-- The word belongs to the line being written back and is not yet written. -/
def Unwritten (s : Store Line Word Value Index) (l : Line) (w : Word) : Prop :=
  exists written, s.phase = .flushing l written ∧ written w = false

structure Coherent (s : Store Line Word Value Index)
    (memory : Line -> Word -> Value) : Prop where
  held : forall l w, Holds index s l w -> s.data (index l) w = memory l w
  clean : forall l w, Holds index s l w -> s.dirty (index l) = false ->
    s.backend l w = memory l w
  missing : forall l w, ¬ Holds index s l w -> ¬ Unwritten s l w ->
    s.backend l w = memory l w
  unwritten : forall l w, Unwritten s l w -> s.data (index l) w = memory l w
  resident_index : forall i l, s.resident i = some l -> index l = i
  dirty_slot : forall i, s.dirty i = true ->
    (exists l, s.resident i = some l) ∨
      exists l present, s.phase = .filling l present ∧ index l = i
  filling_slot : forall l present, s.phase = .filling l present ->
    s.resident (index l) = none
  flushing_slot : forall l written, s.phase = .flushing l written ->
    s.resident (index l) = none ∧ s.dirty (index l) = false

open Classical in
/--
The slower store, overlaid with the dirty words of the slots and with the words
still to be written back.
-/
noncomputable def overlay (s : Store Line Word Value Index) :
    Line -> Word -> Value :=
  fun l w =>
    if (Holds index s l w ∧ s.dirty (index l) = true) ∨ Unwritten s l w then
      s.data (index l) w
    else s.backend l w

theorem Coherent.overlay {s : Store Line Word Value Index}
    {memory : Line -> Word -> Value} (h : Coherent index s memory) :
    overlay index s = memory := by
  funext l w
  unfold WriteBack.overlay
  split
  · next hover =>
      rcases hover with ⟨hholds, _⟩ | hunwritten
      · exact h.held l w hholds
      · exact h.unwritten l w hunwritten
  · next hover =>
      by_cases hholds : Holds index s l w
      · have hclean : s.dirty (index l) = false := by
          cases hdirty : s.dirty (index l) with
          | true =>
              exact absurd (Or.inl ⟨hholds, hdirty⟩) hover
          | false =>
              rfl
        exact h.clean l w hholds hclean
      · have hwritten : ¬ Unwritten s l w := by
          intro hunwritten
          exact hover (Or.inr hunwritten)
        exact h.missing l w hholds hwritten

/-- Two words of one slot that are both held belong to the same line. -/
theorem Coherent.holds_unique {s : Store Line Word Value Index}
    {memory : Line -> Word -> Value} (h : Coherent index s memory)
    {l l' : Line} {w w' : Word} (hl : Holds index s l w)
    (hl' : Holds index s l' w') (hindex : index l' = index l) : l' = l := by
  rcases hl with hres | ⟨present, hphase, _⟩
  · rcases hl' with hres' | ⟨present', hphase', _⟩
    · rw [hindex, hres] at hres'
      exact (Option.some.inj hres').symm
    · have hnone := h.filling_slot l' present' hphase'
      rw [hindex, hres] at hnone
      cases hnone
  · rcases hl' with hres' | ⟨present', hphase', _⟩
    · have hnone := h.filling_slot l present hphase
      rw [← hindex, hres'] at hnone
      cases hnone
    · rw [hphase] at hphase'
      cases hphase'
      rfl

end Coherence

/-!
## The operations
-/

section Operations

variable [DecidableEq Line] [DecidableEq Word] [DecidableEq Index]
  (index : Line -> Index) {s : Store Line Word Value Index}
  {memory : Line -> Word -> Value}

/-- Write a word that the slot holds. -/
def write (s : Store Line Word Value Index) (l : Line) (w : Word)
    (v : Value) : Store Line Word Value Index :=
  { s with
    data := setWord s.data (index l) w v
    dirty := Function.update s.dirty (index l) true }

/-- Give the slot of a line up and begin to bring the line in. -/
def startFill (s : Store Line Word Value Index) (l : Line) :
    Store Line Word Value Index :=
  { s with
    resident := Function.update s.resident (index l) none
    phase := .filling l fun _ => false }

/-- Bring one word in. -/
def fillWord (s : Store Line Word Value Index) (l : Line)
    (present : Word -> Bool) (w : Word) : Store Line Word Value Index :=
  { s with
    data := setWord s.data (index l) w (s.backend l w)
    phase := .filling l (Function.update present w true) }

/-- All words are in: the line becomes resident. -/
def finishFill (s : Store Line Word Value Index) (l : Line) :
    Store Line Word Value Index :=
  { s with
    resident := Function.update s.resident (index l) (some l)
    phase := .idle }

/-- Take a resident line out of use and begin to write it back. -/
def startFlush (s : Store Line Word Value Index) (l : Line) :
    Store Line Word Value Index :=
  { s with
    resident := Function.update s.resident (index l) none
    dirty := Function.update s.dirty (index l) false
    phase := .flushing l fun _ => false }

/-- Write one word back. -/
def flushWord (s : Store Line Word Value Index) (l : Line)
    (written : Word -> Bool) (w : Word) : Store Line Word Value Index :=
  { s with
    backend := setWord s.backend l w (s.data (index l) w)
    phase := .flushing l (Function.update written w true) }

/-- All words are written back. -/
def finishFlush (s : Store Line Word Value Index) :
    Store Line Word Value Index :=
  { s with phase := .idle }

theorem Coherent.write (h : Coherent index s memory) {l : Line} {w : Word}
    (hholds : Holds index s l w) (v : Value) :
    Coherent index (write index s l w v) (setWord memory l w v) := by
  have hsame : forall l' w', Holds index (WriteBack.write index s l w v) l' w'
      -> Holds index s l' w' := by
    intro l' w' h'
    exact h'
  refine ⟨?_, ?_, ?_, ?_, h.resident_index, ?_, h.filling_slot, ?_⟩
  · intro l' w' h'
    by_cases hline : l' = l
    · subst hline
      by_cases hword : w' = w
      · subst hword
        simp [WriteBack.write]
      · rw [setWord_other memory v (by simp [hword])]
        have hdata : (WriteBack.write index s l' w v).data (index l') w' =
            s.data (index l') w' := by
          simp [WriteBack.write, setWord, hword]
        rw [hdata]
        exact h.held l' w' (hsame l' w' h')
    · have hindex : index l' ≠ index l := by
        intro heq
        exact hline (h.holds_unique index hholds (hsame l' w' h') heq)
      rw [setWord_other memory v (by simp [hline])]
      have hdata : (WriteBack.write index s l w v).data (index l') w' =
          s.data (index l') w' := by
        simp [WriteBack.write, setWord, hindex]
      rw [hdata]
      exact h.held l' w' (hsame l' w' h')
  · intro l' w' h' hclean
    have hindex : index l' ≠ index l := by
      intro heq
      simp [WriteBack.write, heq] at hclean
    have hline : l' ≠ l := by
      intro heq
      exact hindex (congrArg index heq)
    rw [setWord_other memory v (by simp [hline])]
    have hdirty : s.dirty (index l') = false := by
      simpa [WriteBack.write, hindex] using hclean
    exact h.clean l' w' (hsame l' w' h') hdirty
  · intro l' w' h' hwritten
    have hother : ¬ (l' = l ∧ w' = w) := by
      rintro ⟨rfl, rfl⟩
      exact h' hholds
    rw [setWord_other memory v hother]
    exact h.missing l' w' h' hwritten
  · rintro l' w' ⟨written, hphase, hword⟩
    have hslot := h.flushing_slot l' written hphase
    have hindex : index l' ≠ index l := by
      intro heq
      rcases hholds with hres | ⟨present, hfill, _⟩
      · rw [← heq, hslot.left] at hres
        cases hres
      · rw [show s.phase = _ from hphase] at hfill
        cases hfill
    have hline : l' ≠ l := by
      intro heq
      exact hindex (congrArg index heq)
    rw [setWord_other memory v (by simp [hline])]
    have hdata : (WriteBack.write index s l w v).data (index l') w' =
        s.data (index l') w' := by
      simp [WriteBack.write, setWord, hindex]
    rw [hdata]
    exact h.unwritten l' w' ⟨written, hphase, hword⟩
  · intro i hdirty
    by_cases hindex : i = index l
    · rcases hholds with hres | ⟨present, hfill, _⟩
      · exact Or.inl ⟨l, by rw [hindex]; exact hres⟩
      · exact Or.inr ⟨l, present, hfill, hindex.symm⟩
    · apply h.dirty_slot i
      simpa [WriteBack.write, hindex] using hdirty
  · intro l' written hphase
    have hslot := h.flushing_slot l' written hphase
    refine ⟨hslot.left, ?_⟩
    have hindex : index l' ≠ index l := by
      intro heq
      rcases hholds with hres | ⟨present, hfill, _⟩
      · rw [← heq, hslot.left] at hres
        cases hres
      · rw [show s.phase = _ from hphase] at hfill
        cases hfill
    simpa [WriteBack.write, hindex] using hslot.right

omit [DecidableEq Line] [DecidableEq Word] in
theorem Coherent.startFill (h : Coherent index s memory)
    (hidle : s.phase = .idle) {l : Line}
    (hclean : s.dirty (index l) = false) :
    Coherent index (startFill index s l) memory := by
  have hholds : forall l' w', Holds index (WriteBack.startFill index s l) l' w'
      -> Holds index s l' w' := by
    rintro l' w' (hres | ⟨present, hphase, hword⟩)
    · by_cases hindex : index l' = index l
      · simp [WriteBack.startFill, hindex] at hres
      · refine Or.inl ?_
        simpa [WriteBack.startFill, hindex] using hres
    · simp only [WriteBack.startFill] at hphase
      cases hphase
      cases hword
  have hbackend : forall l' w', s.backend l' w' = memory l' w' ∨
      s.dirty (index l') = true := by
    intro l' w'
    by_cases hheld : Holds index s l' w'
    · cases hdirty : s.dirty (index l') with
      | true =>
          exact Or.inr rfl
      | false =>
          exact Or.inl (h.clean l' w' hheld hdirty)
    · refine Or.inl (h.missing l' w' hheld ?_)
      rintro ⟨written, hphase, _⟩
      rw [hidle] at hphase
      cases hphase
  refine ⟨?_, ?_, ?_, ?_, ?_, ?_, ?_, ?_⟩
  · intro l' w' h'
    exact h.held l' w' (hholds l' w' h')
  · intro l' w' h'
    exact h.clean l' w' (hholds l' w' h')
  · intro l' w' h' _
    by_cases hindex : index l' = index l
    · rcases hbackend l' w' with heq | hdirty
      · exact heq
      · rw [hindex, hclean] at hdirty
        cases hdirty
    · have hsame : ¬ Holds index s l' w' := by
        rintro (hres | ⟨present, hphase, _⟩)
        · apply h'
          refine Or.inl ?_
          simpa [WriteBack.startFill, hindex] using hres
        · rw [hidle] at hphase
          cases hphase
      apply h.missing l' w' hsame
      rintro ⟨written, hphase, _⟩
      rw [hidle] at hphase
      cases hphase
  · rintro l' w' ⟨written, hphase, _⟩
    cases hphase
  · intro i l' hres
    by_cases hindex : i = index l
    · simp [WriteBack.startFill, hindex] at hres
    · apply h.resident_index i l'
      simpa [WriteBack.startFill, hindex] using hres
  · intro i hdirty
    have hold : s.dirty i = true := hdirty
    have hindex : i ≠ index l := by
      intro heq
      rw [heq, hclean] at hold
      cases hold
    rcases h.dirty_slot i hold with ⟨l', hres⟩ | ⟨l', present, hphase, _⟩
    · refine Or.inl ⟨l', ?_⟩
      simpa [WriteBack.startFill, hindex] using hres
    · rw [hidle] at hphase
      cases hphase
  · intro l' present hphase
    simp only [WriteBack.startFill] at hphase
    cases hphase
    simp [WriteBack.startFill]
  · intro l' written hphase
    cases hphase

omit [DecidableEq Line] in
theorem Coherent.fillWord (h : Coherent index s memory) {l : Line}
    {present : Word -> Bool} (hphase : s.phase = .filling l present)
    {w : Word} (hword : present w = false) :
    Coherent index (fillWord index s l present w) memory := by
  have hnone := h.filling_slot l present hphase
  have hmissing : s.backend l w = memory l w := by
    apply h.missing l w
    · rintro (hres | ⟨present', hphase', hword'⟩)
      · rw [hnone] at hres
        cases hres
      · rw [hphase] at hphase'
        cases hphase'
        rw [hword] at hword'
        cases hword'
    · rintro ⟨written, hphase', _⟩
      rw [hphase] at hphase'
      cases hphase'
  have hnew : forall l' w',
      Holds index (WriteBack.fillWord index s l present w) l' w' ->
        (l' = l ∧ w' = w) ∨
          (Holds index s l' w' ∧
            (WriteBack.fillWord index s l present w).data (index l') w' =
              s.data (index l') w') := by
    rintro l' w' (hres | ⟨present', hphase', hword'⟩)
    · have hindex : index l' ≠ index l := by
        intro heq
        have hres' : s.resident (index l') = some l' := hres
        rw [heq, hnone] at hres'
        cases hres'
      refine Or.inr ⟨Or.inl hres, ?_⟩
      simp [WriteBack.fillWord, setWord, hindex]
    · simp only [WriteBack.fillWord] at hphase'
      cases hphase'
      by_cases heq : w' = w
      · exact Or.inl ⟨rfl, heq⟩
      · refine Or.inr ⟨Or.inr ⟨present, hphase, ?_⟩, ?_⟩
        · simpa [heq] using hword'
        · simp [WriteBack.fillWord, setWord, heq]
  refine ⟨?_, ?_, ?_, ?_, h.resident_index, ?_, ?_, ?_⟩
  · intro l' w' h'
    rcases hnew l' w' h' with ⟨rfl, rfl⟩ | ⟨hold, hdata⟩
    · simp [WriteBack.fillWord, hmissing]
    · rw [hdata]
      exact h.held l' w' hold
  · intro l' w' h' hclean
    rcases hnew l' w' h' with ⟨rfl, rfl⟩ | ⟨hold, _⟩
    · exact hmissing
    · exact h.clean l' w' hold hclean
  · intro l' w' h' _
    apply h.missing l' w'
    · rintro (hres | ⟨present', hphase', hword'⟩)
      · exact h' (Or.inl hres)
      · rw [hphase] at hphase'
        cases hphase'
        refine h' (Or.inr ⟨_, rfl, ?_⟩)
        by_cases heq : w' = w
        · simp [heq]
        · simpa [heq] using hword'
    · rintro ⟨written, hphase', _⟩
      rw [hphase] at hphase'
      cases hphase'
  · rintro l' w' ⟨written, hphase', _⟩
    cases hphase'
  · intro i hdirty
    rcases h.dirty_slot i hdirty with hres | ⟨l', present', hphase', hindex⟩
    · exact Or.inl hres
    · rw [hphase] at hphase'
      cases hphase'
      exact Or.inr ⟨l, _, rfl, hindex⟩
  · intro l' present' hphase'
    simp only [WriteBack.fillWord] at hphase'
    cases hphase'
    exact hnone
  · intro l' written hphase'
    cases hphase'

omit [DecidableEq Line] [DecidableEq Word] in
theorem Coherent.finishFill (h : Coherent index s memory) {l : Line}
    {present : Word -> Bool} (hphase : s.phase = .filling l present)
    (hall : forall w, present w = true) :
    Coherent index (finishFill index s l) memory := by
  have hholds : forall l' w',
      Holds index (WriteBack.finishFill index s l) l' w' ↔
        Holds index s l' w' := by
    intro l' w'
    constructor
    · rintro (hres | ⟨present', hphase', _⟩)
      · by_cases hindex : index l' = index l
        · simp only [WriteBack.finishFill, hindex, Function.update_self]
            at hres
          cases hres
          exact Or.inr ⟨present, hphase, hall w'⟩
        · refine Or.inl ?_
          simpa [WriteBack.finishFill, hindex] using hres
      · cases hphase'
    · rintro (hres | ⟨present', hphase', _⟩)
      · refine Or.inl ?_
        have hindex : index l' ≠ index l := by
          intro heq
          rw [heq, h.filling_slot l present hphase] at hres
          cases hres
        simpa [WriteBack.finishFill, hindex] using hres
      · rw [hphase] at hphase'
        cases hphase'
        refine Or.inl ?_
        simp [WriteBack.finishFill]
  refine ⟨?_, ?_, ?_, ?_, ?_, ?_, ?_, ?_⟩
  · intro l' w' h'
    exact h.held l' w' ((hholds l' w').mp h')
  · intro l' w' h'
    exact h.clean l' w' ((hholds l' w').mp h')
  · intro l' w' h' _
    apply h.missing l' w'
    · intro hold
      exact h' ((hholds l' w').mpr hold)
    · rintro ⟨written, hphase', _⟩
      rw [hphase] at hphase'
      cases hphase'
  · rintro l' w' ⟨written, hphase', _⟩
    cases hphase'
  · intro i l' hres
    by_cases hindex : i = index l
    · simp only [WriteBack.finishFill, hindex, Function.update_self] at hres
      cases hres
      exact hindex.symm
    · apply h.resident_index i l'
      simpa [WriteBack.finishFill, hindex] using hres
  · intro i hdirty
    by_cases hindex : i = index l
    · exact Or.inl ⟨l, by simp [WriteBack.finishFill, hindex]⟩
    · rcases h.dirty_slot i hdirty with ⟨l', hres⟩ | ⟨l', p, hphase', hl⟩
      · refine Or.inl ⟨l', ?_⟩
        simpa [WriteBack.finishFill, hindex] using hres
      · rw [hphase] at hphase'
        cases hphase'
        exact absurd hl.symm hindex
  · intro l' present' hphase'
    cases hphase'
  · intro l' written hphase'
    cases hphase'

omit [DecidableEq Line] [DecidableEq Word] in
theorem Coherent.startFlush (h : Coherent index s memory)
    (hidle : s.phase = .idle) {l : Line}
    (hresident : s.resident (index l) = some l) :
    Coherent index (startFlush index s l) memory := by
  have hold : forall l' w', Holds index (WriteBack.startFlush index s l) l' w'
      -> index l' ≠ index l ∧ Holds index s l' w' := by
    rintro l' w' (hres | ⟨present, hphase, _⟩)
    · by_cases hindex : index l' = index l
      · simp [WriteBack.startFlush, hindex] at hres
      · refine ⟨hindex, Or.inl ?_⟩
        simpa [WriteBack.startFlush, hindex] using hres
    · cases hphase
  have hunwritten : forall l' w',
      Unwritten (WriteBack.startFlush index s l) l' w' -> l' = l := by
    rintro l' w' ⟨written, hphase, _⟩
    simp only [WriteBack.startFlush] at hphase
    cases hphase
    rfl
  refine ⟨?_, ?_, ?_, ?_, ?_, ?_, ?_, ?_⟩
  · intro l' w' h'
    exact h.held l' w' (hold l' w' h').right
  · intro l' w' h' hclean
    have hindex := (hold l' w' h').left
    apply h.clean l' w' (hold l' w' h').right
    simpa [WriteBack.startFlush, hindex] using hclean
  · intro l' w' h' hwritten
    have hline : l' ≠ l := by
      intro heq
      exact hwritten ⟨_, by rw [heq]; rfl, rfl⟩
    apply h.missing l' w'
    · rintro (hres | ⟨present, hphase, _⟩)
      · by_cases hindex : index l' = index l
        · rw [hindex, hresident] at hres
          exact hline (Option.some.inj hres).symm
        · apply h'
          refine Or.inl ?_
          simpa [WriteBack.startFlush, hindex] using hres
      · rw [hidle] at hphase
        cases hphase
    · rintro ⟨written, hphase, _⟩
      rw [hidle] at hphase
      cases hphase
  · intro l' w' h'
    have hline := hunwritten l' w' h'
    apply h.held l' w'
    rw [hline]
    exact Or.inl hresident
  · intro i l' hres
    by_cases hindex : i = index l
    · simp [WriteBack.startFlush, hindex] at hres
    · apply h.resident_index i l'
      simpa [WriteBack.startFlush, hindex] using hres
  · intro i hdirty
    have hindex : i ≠ index l := by
      intro heq
      simp [WriteBack.startFlush, heq] at hdirty
    have hbefore : s.dirty i = true := by
      simpa [WriteBack.startFlush, hindex] using hdirty
    rcases h.dirty_slot i hbefore with ⟨l', hres⟩ | ⟨l', present, hphase, _⟩
    · refine Or.inl ⟨l', ?_⟩
      simpa [WriteBack.startFlush, hindex] using hres
    · rw [hidle] at hphase
      cases hphase
  · intro l' present hphase
    cases hphase
  · intro l' written hphase
    simp only [WriteBack.startFlush] at hphase
    cases hphase
    simp [WriteBack.startFlush]

omit [DecidableEq Index] in
theorem Coherent.flushWord (h : Coherent index s memory) {l : Line}
    {written : Word -> Bool} (hphase : s.phase = .flushing l written)
    {w : Word} (hword : written w = false) :
    Coherent index (flushWord index s l written w) memory := by
  have hslot := h.flushing_slot l written hphase
  have hvalue : s.data (index l) w = memory l w :=
    h.unwritten l w ⟨written, hphase, hword⟩
  have hholds : forall l' w',
      Holds index (WriteBack.flushWord index s l written w) l' w' ->
        l' ≠ l ∧ Holds index s l' w' := by
    rintro l' w' (hres | ⟨present, hphase', _⟩)
    · refine ⟨?_, Or.inl hres⟩
      intro heq
      have hres' : s.resident (index l') = some l' := hres
      rw [heq, hslot.left] at hres'
      cases hres'
    · cases hphase'
  have hback : forall l' w', l' ≠ l ->
      (WriteBack.flushWord index s l written w).backend l' w' =
        s.backend l' w' := by
    intro l' w' hline
    simp [WriteBack.flushWord, setWord, hline]
  refine ⟨?_, ?_, ?_, ?_, h.resident_index, ?_, ?_, ?_⟩
  · intro l' w' h'
    exact h.held l' w' (hholds l' w' h').right
  · intro l' w' h' hclean
    rw [hback l' w' (hholds l' w' h').left]
    exact h.clean l' w' (hholds l' w' h').right hclean
  · intro l' w' h' hwritten
    by_cases hnow : l' = l ∧ w' = w
    · rcases hnow with ⟨rfl, rfl⟩
      simp [WriteBack.flushWord, hvalue]
    · have hbackend : (WriteBack.flushWord index s l written w).backend l' w' =
          s.backend l' w' := by
        simp [WriteBack.flushWord, setWord, hnow]
      rw [hbackend]
      apply h.missing l' w'
      · rintro (hres | ⟨present, hphase', _⟩)
        · exact h' (Or.inl hres)
        · rw [hphase] at hphase'
          cases hphase'
      · rintro ⟨written', hphase', hword'⟩
        rw [hphase] at hphase'
        cases hphase'
        refine hwritten ⟨_, rfl, ?_⟩
        have hother : w' ≠ w := by
          intro heq
          exact hnow ⟨rfl, heq⟩
        simpa [hother] using hword'
  · rintro l' w' ⟨written', hphase', hword'⟩
    simp only [WriteBack.flushWord] at hphase'
    cases hphase'
    apply h.unwritten l w'
    refine ⟨written, hphase, ?_⟩
    by_cases heq : w' = w
    · rw [heq]
      exact hword
    · simpa [heq] using hword'
  · intro i hdirty
    rcases h.dirty_slot i hdirty with hres | ⟨l', present, hphase', _⟩
    · exact Or.inl hres
    · rw [hphase] at hphase'
      cases hphase'
  · intro l' present hphase'
    cases hphase'
  · intro l' written' hphase'
    simp only [WriteBack.flushWord] at hphase'
    cases hphase'
    exact hslot

omit [DecidableEq Line] [DecidableEq Word] [DecidableEq Index] in
theorem Coherent.finishFlush (h : Coherent index s memory) {l : Line}
    {written : Word -> Bool} (hphase : s.phase = .flushing l written)
    (hall : forall w, written w = true) :
    Coherent index (finishFlush s) memory := by
  have hholds : forall l' w', Holds index (WriteBack.finishFlush s) l' w' ->
      Holds index s l' w' := by
    rintro l' w' (hres | ⟨present, hphase', _⟩)
    · exact Or.inl hres
    · cases hphase'
  refine ⟨?_, ?_, ?_, ?_, h.resident_index, ?_, ?_, ?_⟩
  · intro l' w' h'
    exact h.held l' w' (hholds l' w' h')
  · intro l' w' h'
    exact h.clean l' w' (hholds l' w' h')
  · intro l' w' h' _
    apply h.missing l' w'
    · rintro (hres | ⟨present, hphase', _⟩)
      · exact h' (Or.inl hres)
      · rw [hphase] at hphase'
        cases hphase'
    · rintro ⟨written', hphase', hword'⟩
      rw [hphase] at hphase'
      cases hphase'
      rw [hall w'] at hword'
      cases hword'
  · rintro l' w' ⟨written', hphase', _⟩
    cases hphase'
  · intro i hdirty
    rcases h.dirty_slot i hdirty with hres | ⟨l', present, hphase', _⟩
    · exact Or.inl hres
    · rw [hphase] at hphase'
      cases hphase'
  · intro l' present hphase'
    cases hphase'
  · intro l' written' hphase'
    cases hphase'

end Operations

end WriteBack
end Foundation
