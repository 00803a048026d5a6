import S80x86.Bios.Printk
import Mathlib.Data.List.TakeWhile

/-!
# The expansion of a format

A format consists of plain characters and of items.  Its end may cut the last
specifier off before a conversion.  Each item puts out its text, of which the
buffer takes what it has room for.
-/

namespace S80x86
namespace Bios

/-!
## Formats
-/

/-- What stands between `%` and the conversion. -/
structure Width where
  zeroPad : Bool
  digits : List (BitVec 8)
  isDigit_of_mem : forall d, d ∈ digits -> isDigit d = true
  head_ne : zeroPad = false -> digits.head? ≠ some (char '0')

inductive Field where
  | literal (c : BitVec 8) (plain : c ≠ 0#8 ∧ c ≠ char '%')
  | item (width : Width) (conversion : BitVec 8)
      (ends : conversion ≠ 0#8 ∧ isDigit conversion = false)

/-- A format, with the specifier that its end cuts off. -/
structure Format where
  fields : List Field
  cut : Option Width

def Width.text (width : Width) : List (BitVec 8) :=
  char '%' :: ((if width.zeroPad then [char '0'] else []) ++ width.digits)

def Field.text : Field -> List (BitVec 8)
  | .literal c _ => [c]
  | .item width conversion _ => width.text ++ [conversion]

def cutText : Option Width -> List (BitVec 8)
  | none => []
  | some width => width.text

def Format.text (format : Format) : List (BitVec 8) :=
  format.fields.flatMap Field.text ++ cutText format.cut

/-!
## Expansions
-/

def Width.value (width : Width) : Nat :=
  width.digits.foldl (fun w d => 10 * w + (d.toNat - (char '0').toNat)) 0

/-- The zeroes before a number.  A width that is no `int` wraps. -/
def Width.zeroes (width : Width) (nchars : Nat) : Nat :=
  if width.zeroPad = false then 0
  else if width.value < 2 ^ 15 then width.value - nchars
  else
    (BitVec.ofNat 16 width.value - BitVec.ofNat 16 nchars).toInt.toNat

def number (base : Nat) (v : BitVec 16) : List (BitVec 8) :=
  (Nat.toDigits base v.toNat).map char

def Width.padded (width : Width) (base : Nat) (v : BitVec 16) :
    List (BitVec 8) :=
  List.replicate (width.zeroes (number base v).length) (char '0') ++
    number base v

def pointer (v : BitVec 16) : List (BitVec 8) :=
  if v = 0#16 then ['(', 'n', 'u', 'l', 'l', ')'].map char
  else
    ['0', 'x'].map char ++
      List.replicate (4 - (number 16 v).length) (char '0') ++ number 16 v

/-- The text of an item, where the argument is of its type. -/
def expandItem (width : Width) (conversion : BitVec 8) :
    Argument -> Option (List (BitVec 8))
  | .string bytes =>
      if conversion = char 's' ∧ 0#8 ∈ bytes then
        some (bytes.takeWhile fun c => c ≠ 0#8)
      else none
  | .word v =>
      if conversion = char 's' then none
      else if conversion = char 'u' then some (width.padded 10 v)
      else if conversion = char 'x' then some (width.padded 16 v)
      else if conversion = char 'p' then some (pointer v)
      else some [v.setWidth 8]

/-- The text of the fields, where the arguments match them. -/
def expandFields : List Field -> List Argument -> Option (List (BitVec 8))
  | [], _ => some []
  | .literal c _ :: fields, ap =>
      (expandFields fields ap).map fun out => c :: out
  | .item _ _ _ :: _, [] => none
  | .item width conversion _ :: fields, arg :: ap =>
      (expandItem width conversion arg).bind fun text =>
        (expandFields fields ap).map fun out => text ++ out

def Format.expand (format : Format) (ap : List Argument) :
    Option (List (BitVec 8)) :=
  expandFields format.fields ap

/-!
## Truncated output
-/

namespace StringFormatter

/-- The buffer is where its pointer says, and has room for the `NUL`. -/
structure Fits (f : StringFormatter) : Prop where
  maxlen : f.maxlen ≠ 0#16
  len : f.len.toNat = f.buf.length
  room : f.buf.length <= f.maxlen.toNat - 1

/-- From `f` to `f'` the text `cs` is put out and `fmt` is left to read. -/
structure Appends (f : StringFormatter) (cs fmt : List (BitVec 8))
    (f' : StringFormatter) : Prop where
  fits : f'.Fits
  maxlen : f'.maxlen = f.maxlen
  buf : f'.buf = (f.buf ++ cs).take (f.maxlen.toNat - 1)
  fmt : f'.fmt = fmt

theorem Fits.toNat_sub {f : StringFormatter} (h : f.Fits) :
    (f.maxlen - 1#16).toNat = f.maxlen.toNat - 1 := by
  have hpos : 0 < f.maxlen.toNat := by
    rw [Nat.pos_iff_ne_zero]
    exact fun hzero => h.maxlen (BitVec.eq_of_toNat_eq hzero)
  have hlt := f.maxlen.isLt
  rw [BitVec.toNat_sub]
  simp only [BitVec.toNat_ofNat]
  omega

theorem Fits.lt_iff {f : StringFormatter} (h : f.Fits) :
    f.len < f.maxlen - 1#16 ↔ f.buf.length < f.maxlen.toNat - 1 := by
  rw [BitVec.lt_def, h.toNat_sub, h.len]

theorem take_append_take (as bs : List (BitVec 8)) (n : Nat) :
    (as.take n ++ bs).take n = (as ++ bs).take n := by
  rw [List.take_append, List.take_append, List.take_take, Nat.min_self,
    List.length_take]
  by_cases hle : as.length <= n
  · rw [Nat.min_eq_right hle]
  · rw [Nat.min_eq_left (by omega), Nat.sub_self, List.take_zero,
      Nat.sub_eq_zero_of_le (by omega), List.take_zero]

theorem Appends.refl {f : StringFormatter} (h : f.Fits) :
    f.Appends [] f.fmt f := by
  refine ⟨h, rfl, ?_, rfl⟩
  rw [List.append_nil, List.take_of_length_le h.room]

theorem Appends.trans {f g k : StringFormatter} {cs ds fmt fmt' : List (BitVec 8)}
    (first : f.Appends cs fmt g) (rest : g.Appends ds fmt' k) :
    f.Appends (cs ++ ds) fmt' k := by
  refine ⟨rest.fits, rest.maxlen.trans first.maxlen, ?_, rest.fmt⟩
  rw [rest.buf, first.buf, first.maxlen, take_append_take, List.append_assoc]

/-- Only the text put out and what is left to read count. -/
theorem Appends.congr {f g k : StringFormatter} {cs fmt : List (BitVec 8)}
    (h : f.Appends cs fmt g) (hbuf : k.buf = f.buf)
    (hmaxlen : k.maxlen = f.maxlen) : k.Appends cs fmt g := by
  refine ⟨h.fits, ?_, ?_, h.fmt⟩
  · rw [hmaxlen, h.maxlen]
  · rw [hbuf, hmaxlen, h.buf]

theorem Fits.congr {f g : StringFormatter} (h : f.Fits) (hbuf : g.buf = f.buf)
    (hlen : g.len = f.len) (hmaxlen : g.maxlen = f.maxlen) : g.Fits := by
  refine ⟨?_, ?_, ?_⟩
  · rw [hmaxlen]
    exact h.maxlen
  · rw [hbuf, hlen]
    exact h.len
  · rw [hbuf, hmaxlen]
    exact h.room

theorem Fits.outputChar {f : StringFormatter} (h : f.Fits) (c : BitVec 16) :
    f.Appends [c.setWidth 8] f.fmt (f.outputChar c) := by
  have hlt := h.lt_iff
  unfold StringFormatter.outputChar
  split
  · next hroom =>
      have hless := hlt.mp hroom
      refine ⟨⟨h.maxlen, ?_, ?_⟩, rfl, ?_, rfl⟩
      · have hmax := f.maxlen.isLt
        have hlen := h.len
        rw [BitVec.toNat_add, List.length_append, List.length_singleton]
        simp only [BitVec.toNat_ofNat]
        omega
      · rw [List.length_append, List.length_singleton]
        exact hless
      · rw [List.take_of_length_le]
        rw [List.length_append, List.length_singleton]
        exact hless
  · next hfull =>
      have hroom := h.room
      have hfull := hlt.not.mp hfull
      refine ⟨h, rfl, ?_, rfl⟩
      have heq : f.maxlen.toNat - 1 = f.buf.length := by omega
      rw [heq, List.take_left]

theorem setWidth_signExtend (c : BitVec 8) :
    (c.signExtend 16).setWidth 8 = c := by
  apply BitVec.eq_of_getLsbD_eq
  intro i hi
  rw [BitVec.getLsbD_setWidth, BitVec.getLsbD_signExtend]
  simp only [hi, Nat.lt_trans hi (by decide : 8 < 16), decide_true,
    Bool.true_and, if_true]

/-- A sequence of characters. -/
def puts (f : StringFormatter) (cs : List (BitVec 8)) : StringFormatter :=
  cs.foldl (fun f c => f.outputChar (c.signExtend 16)) f

theorem Fits.puts {f : StringFormatter} (h : f.Fits) (cs : List (BitVec 8)) :
    f.Appends cs f.fmt (f.puts cs) := by
  induction cs generalizing f with
  | nil =>
      exact Appends.refl h
  | cons c cs ih =>
      have hfirst := h.outputChar (c.signExtend 16)
      rw [setWidth_signExtend] at hfirst
      have hrest := ih hfirst.fits
      rw [hfirst.fmt] at hrest
      exact hfirst.trans hrest

theorem puts_append (f : StringFormatter) (cs ds : List (BitVec 8)) :
    f.puts (cs ++ ds) = (f.puts cs).puts ds := List.foldl_append

theorem outputZeroes_eq (f : StringFormatter) (n : Nat) :
    f.outputZeroes n = f.puts (List.replicate n (char '0')) := by
  induction n generalizing f with
  | zero =>
      rfl
  | succ n ih =>
      rw [List.replicate_succ]
      exact ih _

theorem outputString_eq (f : StringFormatter) (str : List (BitVec 8))
    (h : 0#8 ∈ str) :
    f.outputString str = .ok (f.puts (str.takeWhile fun c => c ≠ 0#8)) := by
  induction str generalizing f with
  | nil =>
      cases h
  | cons c str ih =>
      by_cases hc : c = 0#8
      · simp [outputString, hc, puts]
      · have hmem : 0#8 ∈ str := by
          rcases List.mem_cons.mp h with hz | hmem
          · exact absurd hz.symm hc
          · exact hmem
        rw [outputString, if_neg hc, ih _ hmem]
        simp [hc, puts]

/-!
## Numbers
-/

/-- What `hex_val` holds for a digit. -/
def digitText (digit : BitVec 8) : BitVec 8 := char (Nat.digitChar digit.toNat)

theorem hexVal_digit (digit : BitVec 8) (h : digit.toNat < 16) :
    hexVal[(digit.signExtend 16).toNat]? = some (digitText digit) := by
  have hall : forall k : Fin 16,
      hexVal[((BitVec.ofNat 8 k.val).signExtend 16).toNat]? =
        some (digitText (BitVec.ofNat 8 k.val)) := by
    decide
  have hdigit := hall ⟨digit.toNat, h⟩
  rw [BitVec.ofNat_toNat, BitVec.setWidth_eq] at hdigit
  exact hdigit

theorem outputBufReversed_eq (f : StringFormatter) (buf : List (BitVec 8))
    (hbuf : forall d, d ∈ buf -> d.toNat < 16) (nchars : Nat)
    (hle : nchars <= buf.length) :
    f.outputBufReversed buf nchars =
      .ok (f.puts ((buf.take nchars).reverse.map digitText)) := by
  induction nchars generalizing f with
  | zero =>
      rfl
  | succ nchars ih =>
      have hlt : nchars < buf.length := hle
      have hdigit := hexVal_digit buf[nchars]
        (hbuf _ (List.getElem_mem hlt))
      rw [outputBufReversed, List.getElem?_eq_getElem hlt]
      simp only [hdigit]
      rw [ih _ (Nat.le_of_lt hlt), List.take_succ_eq_append_getElem hlt,
        List.reverse_append, List.map_append]
      rfl

/-- The digit that one turn of the loop stores. -/
theorem toNat_digit (base val : BitVec 16) (hlow : 1 < base.toNat)
    (hhigh : base.toNat <= 16) :
    ((val % base).setWidth 8).toNat = val.toNat % base.toNat := by
  have hlt := Nat.mod_lt val.toNat (Nat.zero_lt_of_lt hlow)
  rw [BitVec.toNat_setWidth, BitVec.toNat_umod]
  exact Nat.mod_eq_of_lt (by omega)

theorem toNat_digit_lt (base val : BitVec 16) (hlow : 1 < base.toNat)
    (hhigh : base.toNat <= 16) : ((val % base).setWidth 8).toNat < 16 := by
  have hlt := Nat.mod_lt val.toNat (Nat.zero_lt_of_lt hlow)
  rw [toNat_digit base val hlow hhigh]
  omega

theorem div_eq_zero_iff (base val : BitVec 16) (hlow : 1 < base.toNat) :
    val / base = 0#16 ↔ val.toNat < base.toNat := by
  rw [<- BitVec.toNat_inj, BitVec.toNat_udiv, BitVec.toNat_ofNat]
  constructor
  · intro h
    rcases Nat.div_eq_zero_iff.mp h with hzero | hlt
    · omega
    · exact hlt
  · intro h
    exact Nat.div_eq_of_lt h

theorem storeReversed_last (base : BitVec 16) (hlow : 1 < base.toNat)
    (hhigh : base.toNat <= 16) (room : Nat) (val : BitVec 16)
    (hlast : val.toNat < base.toNat) :
    exists digits, storeReversed base (room + 1) val = .ok digits ∧
      (forall d, d ∈ digits -> d.toNat < 16) ∧
      digits.reverse.map digitText = number base.toNat val := by
  refine ⟨[(val % base).setWidth 8], ?_, ?_, ?_⟩
  · rw [storeReversed, if_pos ((div_eq_zero_iff base val hlow).mpr hlast)]
  · intro d hd
    rw [List.mem_singleton.mp hd]
    exact toNat_digit_lt base val hlow hhigh
  · rw [number, Nat.toDigits_of_lt_base hlast]
    simp [digitText, toNat_digit base val hlow hhigh, Nat.mod_eq_of_lt hlast]

/-- The loop ends within the buffer, and backwards it holds the number. -/
theorem storeReversed_eq (base : BitVec 16) (hlow : 1 < base.toNat)
    (hhigh : base.toNat <= 16) (room : Nat) (val : BitVec 16)
    (hroom : val.toNat < base.toNat ^ (room + 1)) :
    exists digits, storeReversed base (room + 1) val = .ok digits ∧
      (forall d, d ∈ digits -> d.toNat < 16) ∧
      digits.reverse.map digitText = number base.toNat val := by
  induction room generalizing val with
  | zero =>
      rw [Nat.zero_add, Nat.pow_one] at hroom
      exact storeReversed_last base hlow hhigh 0 val hroom
  | succ room ih =>
      by_cases hlast : val.toNat < base.toNat
      · exact storeReversed_last base hlow hhigh (room + 1) val hlast
      · have hnext : (val / base).toNat < base.toNat ^ (room + 1) := by
          rw [BitVec.toNat_udiv]
          apply Nat.div_lt_of_lt_mul
          rw [<- Nat.pow_succ']
          exact hroom
        obtain ⟨digits, hstore, hsmall, htext⟩ := ih (val / base) hnext
        refine ⟨(val % base).setWidth 8 :: digits, ?_, ?_, ?_⟩
        · have hmore := (div_eq_zero_iff base val hlow).not.mpr hlast
          rw [storeReversed]
          simp only [if_neg hmore, hstore]
        · intro d hd
          rcases List.mem_cons.mp hd with hfirst | hrest
          · rw [hfirst]
            exact toNat_digit_lt base val hlow hhigh
          · exact hsmall d hrest
        · rw [number, Nat.toDigits_of_base_le hlow (by omega), List.map_append,
            List.reverse_cons, List.map_append, htext, number,
            BitVec.toNat_udiv]
          simp [digitText, toNat_digit base val hlow hhigh]

theorem length_number_le (base : Nat) (hlow : 1 < base) (val : BitVec 16) :
    (number base val).length <= 16 := by
  rw [number, List.length_map, Nat.length_toDigits_le_iff hlow (by decide)]
  exact Nat.lt_of_lt_of_le val.isLt (Nat.pow_le_pow_left hlow 16)

/-- The zeroes that `output_zero_padding` puts out. -/
def paddingOf (specifier : StringSpecifier) (nchars : Nat) : Nat :=
  if specifier.zeroPad then
    (specifier.precision - BitVec.ofNat 16 nchars).toInt.toNat
  else 0

theorem outputZeroPadding_eq (f : StringFormatter) (nchars : Nat) :
    f.outputZeroPadding (f.specifier.precision - BitVec.ofNat 16 nchars) =
      f.puts (List.replicate (paddingOf f.specifier nchars) (char '0')) := by
  unfold outputZeroPadding paddingOf
  cases f.specifier.zeroPad with
  | false =>
      rfl
  | true =>
      generalize f.specifier.precision - BitVec.ofNat 16 nchars = numZeroes
      have hsigned := BitVec.toInt_eq_toNat_cond numZeroes
      by_cases hpos : (0#16).slt numZeroes
      · have hcount : numZeroes.toInt.toNat = numZeroes.toNat := by
          simp only [BitVec.slt, BitVec.toInt_zero, decide_eq_true_eq] at hpos
          omega
        simp [hpos, hcount, outputZeroes_eq]
      · have hcount : numZeroes.toInt.toNat = 0 := by
          simp only [BitVec.slt, BitVec.toInt_zero, decide_eq_true_eq] at hpos
          omega
        simp [hpos, hcount, puts]

theorem outputUnsigned_eq (f : StringFormatter) (val base : BitVec 16)
    (hlow : 1 < base.toNat) (hhigh : base.toNat <= 16) :
    f.outputUnsigned val base =
      .ok (f.puts
        (List.replicate
            (paddingOf f.specifier (number base.toNat val).length) (char '0') ++
          number base.toNat val)) := by
  have hroom : val.toNat < base.toNat ^ (31 + 1) := by
    have hpow : 2 ^ 16 <= base.toNat ^ (31 + 1) :=
      Nat.le_trans (Nat.pow_le_pow_left hlow 16)
        (Nat.pow_le_pow_right (Nat.zero_lt_of_lt hlow) (by decide))
    exact Nat.lt_of_lt_of_le val.isLt hpow
  obtain ⟨digits, hstore, hsmall, htext⟩ :=
    storeReversed_eq base hlow hhigh 31 val hroom
  have hlength : digits.length = (number base.toNat val).length := by
    rw [<- htext, List.length_map, List.length_reverse]
  simp only [outputUnsigned, hstore]
  rw [outputBufReversed_eq _ _ hsmall _ (Nat.le_refl _), List.take_length,
    htext, outputZeroPadding_eq, puts_append, hlength]

/-- A width that an `int` holds is padded to. -/
theorem toInt_sub_ofNat (width nchars : Nat) (hwidth : width < 2 ^ 15)
    (hnchars : nchars <= 16) :
    (BitVec.ofNat 16 width - BitVec.ofNat 16 nchars).toInt.toNat =
      width - nchars := by
  have hsigned := BitVec.toInt_eq_toNat_cond
    (BitVec.ofNat 16 width - BitVec.ofNat 16 nchars)
  rw [BitVec.toNat_sub, BitVec.toNat_ofNat, BitVec.toNat_ofNat] at hsigned
  omega

end StringFormatter

/-- What the specifier of a width is. -/
def Width.specifier (width : Width) : StringSpecifier where
  precision := BitVec.ofNat 16 width.value
  zeroPad := width.zeroPad

theorem Width.paddingOf_specifier (width : Width) (nchars : Nat)
    (h : nchars <= 16) :
    StringFormatter.paddingOf width.specifier nchars = width.zeroes nchars := by
  unfold StringFormatter.paddingOf Width.zeroes Width.specifier
  cases width.zeroPad with
  | false =>
      rfl
  | true =>
      simp only [if_true, Bool.true_eq_false, if_false]
      split
      · next hvalue =>
          exact StringFormatter.toInt_sub_ofNat width.value nchars hvalue h
      · rfl

/-!
## Items
-/

namespace StringFormatter

theorem Fits.outputString {f : StringFormatter} (h : f.Fits)
    (str : List (BitVec 8)) (hstr : 0#8 ∈ str) :
    exists g, f.outputString str = .ok g ∧
      f.Appends (str.takeWhile fun c => c ≠ 0#8) f.fmt g :=
  ⟨_, outputString_eq f str hstr, h.puts _⟩

theorem Fits.outputUnsigned {f : StringFormatter} (h : f.Fits) (width : Width)
    (hspecifier : f.specifier = width.specifier) (base v : BitVec 16)
    (hlow : 1 < base.toNat) (hhigh : base.toNat <= 16) :
    exists g, f.outputUnsigned v base = .ok g ∧
      f.Appends (width.padded base.toNat v) f.fmt g := by
  refine ⟨_, outputUnsigned_eq f v base hlow hhigh, ?_⟩
  rw [hspecifier,
    width.paddingOf_specifier _ (length_number_le base.toNat hlow v)]
  exact h.puts _

theorem puts_specifier (f : StringFormatter) (cs : List (BitVec 8)) :
    (f.puts cs).specifier = f.specifier := by
  induction cs generalizing f with
  | nil =>
      rfl
  | cons c cs ih =>
      have hfirst : (f.outputChar (c.signExtend 16)).specifier =
          f.specifier := by
        unfold StringFormatter.outputChar
        split <;> rfl
      exact (ih _).trans hfirst

/-- The specifier that `output_pointer` sets. -/
def setPointer (f : StringFormatter) : StringFormatter :=
  { f with specifier := { precision := 4#16, zeroPad := true } }

theorem outputPointer_null (f : StringFormatter) :
    f.outputPointer 0#16 = f.setPointer.outputString nullText := by
  unfold outputPointer setPointer
  simp only [if_true]

theorem outputPointer_number (f g : StringFormatter) (v : BitVec 16)
    (hv : v ≠ 0#16)
    (h : f.setPointer.outputString pointerPrefix = .ok g) :
    f.outputPointer v = g.outputUnsigned v 16#16 := by
  unfold setPointer at h
  unfold outputPointer
  simp only [if_neg hv, h]

theorem outputPointer_eq (f : StringFormatter) (v : BitVec 16) :
    f.outputPointer v = .ok (f.setPointer.puts (pointer v)) := by
  unfold pointer
  by_cases hnull : v = 0#16
  · rw [hnull, outputPointer_null, if_pos rfl, outputString_eq _ _ (by decide)]
    rfl
  · have hprefix := outputString_eq f.setPointer pointerPrefix (by decide)
    have hpadding (g : StringFormatter)
        (hg : g.specifier = f.setPointer.specifier) :
        paddingOf g.specifier (number 16 v).length =
          4 - (number 16 v).length := by
      rw [hg]
      exact toInt_sub_ofNat 4 _ (by decide) (length_number_le 16 (by decide) v)
    rw [if_neg hnull, outputPointer_number f _ v hnull hprefix,
      outputUnsigned_eq _ _ _ (by decide) (by decide), List.append_assoc,
      puts_append _ (['0', 'x'].map char)]
    change Except.ok (puts _ (List.replicate (paddingOf _
      (number 16 v).length) _ ++ number 16 v)) = _
    rw [hpadding _ (puts_specifier _ _)]
    rfl

theorem Fits.outputPointer {f : StringFormatter} (h : f.Fits)
    (v : BitVec 16) :
    exists g, f.outputPointer v = .ok g ∧ f.Appends (pointer v) f.fmt g := by
  have hset : f.setPointer.Fits := h.congr rfl rfl rfl
  exact ⟨_, outputPointer_eq f v, (hset.puts (pointer v)).congr rfl rfl⟩

/-- Where the argument matches, its text is put out. -/
theorem Fits.outputArgument {f : StringFormatter} (h : f.Fits) (width : Width)
    (hspecifier : f.specifier = width.specifier) (c : BitVec 8)
    (arg : Argument) (text : List (BitVec 8))
    (htext : expandItem width c arg = some text) :
    exists g, f.outputArgument c arg = .ok g ∧ f.Appends text f.fmt g := by
  cases arg with
  | string str =>
      by_cases hmatches : c = char 's' ∧ 0#8 ∈ str
      · rw [expandItem, if_pos hmatches] at htext
        cases htext
        rw [StringFormatter.outputArgument, if_pos hmatches.left]
        exact h.outputString str hmatches.right
      · rw [expandItem, if_neg hmatches] at htext
        cases htext
  | word v =>
      rw [expandItem] at htext
      rw [StringFormatter.outputArgument]
      by_cases hs : c = char 's'
      · rw [if_pos hs] at htext
        cases htext
      rw [if_neg hs] at htext
      simp only [if_neg hs]
      by_cases hu : c = char 'u'
      · rw [if_pos hu] at htext
        cases htext
        simp only [if_pos hu]
        exact h.outputUnsigned width hspecifier 10#16 v (by decide) (by decide)
      rw [if_neg hu] at htext
      simp only [if_neg hu]
      by_cases hx : c = char 'x'
      · rw [if_pos hx] at htext
        cases htext
        simp only [if_pos hx]
        exact h.outputUnsigned width hspecifier 16#16 v (by decide) (by decide)
      rw [if_neg hx] at htext
      simp only [if_neg hx]
      by_cases hp : c = char 'p'
      · rw [if_pos hp] at htext
        cases htext
        simp only [if_pos hp]
        exact h.outputPointer v
      rw [if_neg hp] at htext
      simp only [if_neg hp]
      cases htext
      exact ⟨_, rfl, h.outputChar v⟩

/-!
## Specifiers
-/

theorem digit_value (d : BitVec 8) (h : isDigit d = true) :
    d.signExtend 16 - (char '0').signExtend 16 =
      BitVec.ofNat 16 (d.toNat - (char '0').toNat) := by
  have hall : forall k : Fin 256, isDigit (BitVec.ofNat 8 k.val) = true ->
      (BitVec.ofNat 8 k.val).signExtend 16 - (char '0').signExtend 16 =
        BitVec.ofNat 16 ((BitVec.ofNat 8 k.val).toNat - (char '0').toNat) := by
    decide +kernel
  have hd := hall ⟨d.toNat, d.isLt⟩
  simp only [BitVec.ofNat_toNat, BitVec.setWidth_eq] at hd
  exact hd h

theorem precisionLoop_eq (digits : List (BitVec 8))
    (hdigits : forall d, d ∈ digits -> isDigit d = true) (c : BitVec 8)
    (hc : isDigit c = false) (rest : List (BitVec 8)) (w : Nat) :
    precisionLoop (BitVec.ofNat 16 w) (digits ++ c :: rest) =
      .ok (BitVec.ofNat 16 (digits.foldl
        (fun w d => 10 * w + (d.toNat - (char '0').toNat)) w), c :: rest) := by
  induction digits generalizing w with
  | nil =>
      simp [precisionLoop, hc]
  | cons d digits ih =>
      have hd := hdigits d List.mem_cons_self
      have hrest : forall x, x ∈ digits -> isDigit x = true :=
        fun x hx => hdigits x (List.mem_cons_of_mem d hx)
      have hnext : BitVec.ofNat 16 w * 10#16 +
          (d.signExtend 16 - (char '0').signExtend 16) =
            BitVec.ofNat 16 (10 * w + (d.toNat - (char '0').toNat)) := by
        rw [digit_value d hd, Nat.mul_comm, BitVec.ofNat_add, BitVec.ofNat_mul]
      rw [List.cons_append, precisionLoop, if_pos hd, hnext, ih hrest]
      rfl

theorem readZeroPad_eq (f : StringFormatter) (width : Width) (c : BitVec 8)
    (hc : isDigit c = false) (rest : List (BitVec 8))
    (hfmt : f.fmt = (if width.zeroPad then [char '0'] else []) ++
      width.digits ++ c :: rest) :
    f.readZeroPad = .ok { f with
      fmt := width.digits ++ c :: rest
      specifier := { f.specifier with zeroPad := width.zeroPad } } := by
  cases hpad : width.zeroPad with
  | true =>
      rw [hpad] at hfmt
      simp [readZeroPad, hfmt]
  | false =>
      have hfmt : f.fmt = width.digits ++ c :: rest := by
        rw [hpad] at hfmt
        exact hfmt
      cases hdigits : width.digits with
      | nil =>
          have hne : c ≠ char '0' := by
            rintro rfl
            cases hc
          rw [hdigits] at hfmt
          simp [readZeroPad, hfmt, hne]
      | cons d digits =>
          have hne : d ≠ char '0' := by
            rintro rfl
            exact width.head_ne hpad (by rw [hdigits]; rfl)
          rw [hdigits] at hfmt
          simp [readZeroPad, hfmt, hne]

theorem parseSpecifier_eq (f : StringFormatter) (width : Width) (c : BitVec 8)
    (hc : isDigit c = false) (rest : List (BitVec 8))
    (hfmt : f.fmt = width.text ++ c :: rest) :
    f.parseSpecifier =
      .ok { f with fmt := c :: rest, specifier := width.specifier } := by
  have hpad := readZeroPad_eq { f with fmt := f.fmt.tail } width c hc rest
    (by rw [hfmt]; rfl)
  have hprecision := precisionLoop_eq width.digits width.isDigit_of_mem c hc
    rest 0
  unfold parseSpecifier
  rw [hpad]
  simp only [readPrecision, hprecision]
  rfl

end StringFormatter

end Bios
end S80x86
