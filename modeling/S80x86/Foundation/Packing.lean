import Mathlib.Data.List.Basic
import Mathlib.Tactic.Ring

/-!
# Numbers packed as binary text

Numbers written with a fixed number of binary digits each, one after the
other, and read back by cutting the text at the same widths.
-/

namespace Foundation

/-- A number in binary, filled up with zeros from the left. -/
def formatBinary (width value : Nat) : List Char :=
  let digits := Nat.toDigits 2 value
  List.replicate (width - digits.length) '0' ++ digits

/-- The number written with exactly so many digits. -/
def FitsWidth (width value : Nat) : Prop := 0 < width ∧ value < 2 ^ width

instance (width value : Nat) : Decidable (FitsWidth width value) :=
  inferInstanceAs (Decidable (_ ∧ _))

theorem le_length_formatBinary (width value : Nat) :
    width <= (formatBinary width value).length := by
  unfold formatBinary
  rw [List.length_append, List.length_replicate]
  omega

theorem length_formatBinary_iff {width value : Nat} :
    (formatBinary width value).length = width ↔ FitsWidth width value := by
  have hpos : 0 < (Nat.toDigits 2 value).length := Nat.length_toDigits_pos
  have hlength :
      (formatBinary width value).length = width ↔
        (Nat.toDigits 2 value).length <= width := by
    unfold formatBinary
    rw [List.length_append, List.length_replicate]
    omega
  rw [hlength]
  unfold FitsWidth
  constructor
  · intro h
    have hwidth : 0 < width := Nat.lt_of_lt_of_le hpos h
    exact ⟨hwidth, (Nat.length_toDigits_le_iff (by omega) hwidth).mp h⟩
  · rintro ⟨hwidth, h⟩
    exact (Nat.length_toDigits_le_iff (by omega) hwidth).mpr h

theorem ofDigitChars_formatBinary (width value : Nat) :
    Nat.ofDigitChars 2 (formatBinary width value) 0 = value := by
  unfold formatBinary
  rw [Nat.ofDigitChars_append, Nat.ofDigitChars_replicate_zero, Nat.mul_zero,
    Nat.ofDigitChars_toDigits (by omega) (by omega)]

/-- The text of some numbers, each with its width. -/
def pack (fields : List (Nat × Nat)) : List Char :=
  fields.flatMap fun f => formatBinary f.1 f.2

/-- The numbers of a text that is cut at the widths. -/
def slices : List Nat -> List Char -> List Nat
  | [], _ => []
  | width :: rest, text =>
      Nat.ofDigitChars 2 (text.take width) 0 :: slices rest (text.drop width)

theorem le_length_pack (fields : List (Nat × Nat)) :
    (fields.map Prod.fst).sum <= (pack fields).length := by
  induction fields with
  | nil =>
      exact Nat.le_refl 0
  | cons f rest ih =>
      have hfirst := le_length_formatBinary f.1 f.2
      simp only [pack, List.map_cons, List.sum_cons, List.flatMap_cons,
        List.length_append] at *
      omega

/-- The text has the length of its widths when every number fits. -/
theorem length_pack_iff {fields : List (Nat × Nat)} :
    (pack fields).length = (fields.map Prod.fst).sum ↔
      forall f, f ∈ fields -> FitsWidth f.1 f.2 := by
  induction fields with
  | nil =>
      simp [pack]
  | cons f rest ih =>
      have hfirst := le_length_formatBinary f.1 f.2
      have hrest := le_length_pack rest
      rw [List.forall_mem_cons, ← ih, ← length_formatBinary_iff]
      simp only [pack, List.map_cons, List.sum_cons, List.flatMap_cons,
        List.length_append] at *
      omega

/-- Cutting undoes packing. -/
theorem slices_pack {fields : List (Nat × Nat)}
    (h : forall f, f ∈ fields -> FitsWidth f.1 f.2) :
    slices (fields.map Prod.fst) (pack fields) = fields.map Prod.snd := by
  induction fields with
  | nil =>
      rfl
  | cons f rest ih =>
      rw [List.forall_mem_cons] at h
      have hlength := length_formatBinary_iff.mpr h.1
      have hpack : pack (f :: rest) = formatBinary f.1 f.2 ++ pack rest := rfl
      have htake :
          (formatBinary f.1 f.2 ++ pack rest).take f.1 =
            formatBinary f.1 f.2 := List.take_left' hlength
      have hdrop :
          (formatBinary f.1 f.2 ++ pack rest).drop f.1 = pack rest :=
        List.drop_left' hlength
      rw [List.map_cons, List.map_cons, slices, hpack, htake, hdrop,
        ofDigitChars_formatBinary, ih h.2]

end Foundation
