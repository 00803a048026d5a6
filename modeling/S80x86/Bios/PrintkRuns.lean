import S80x86.Bios.PrintkExpansion

/-!
# Runs of the formatter

The buffer receives as much of the expansion as it takes, unless the loop comes
to a specifier that the end of the format cuts off.  The `NUL` is then taken
for a conversion, and the loop goes on behind it.
-/

namespace S80x86
namespace Bios

namespace StringFormatter

/-!
## The loop
-/

theorem turn_literal {f : StringFormatter} (h : f.Fits) (ap : List Argument)
    (c : BitVec 8) (hc : c ≠ char '%') (rest : List (BitVec 8))
    (hfmt : f.fmt = c :: rest) :
    exists g, f.turn ap c = .ok (g, ap) ∧ f.Appends [c] rest g := by
  have hnext : Fits { f with fmt := f.fmt.tail } := h.congr rfl rfl rfl
  have hout := hnext.outputChar (c.signExtend 16)
  rw [setWidth_signExtend] at hout
  refine ⟨_, if_neg hc, hout.fits, hout.maxlen, hout.buf, ?_⟩
  rw [hout.fmt, hfmt]
  rfl

theorem turn_item {f : StringFormatter} (h : f.Fits) (arg : Argument)
    (ap : List Argument) (width : Width) (c : BitVec 8)
    (hc : isDigit c = false) (rest text : List (BitVec 8))
    (hfmt : f.fmt = width.text ++ c :: rest)
    (htext : expandItem width c arg = some text) :
    exists g, f.turn (arg :: ap) (char '%') = .ok (g, ap) ∧
      f.Appends text rest g := by
  let parsed : StringFormatter :=
    { f with fmt := c :: rest, specifier := width.specifier }
  have hparsed : parsed.Fits := h.congr rfl rfl rfl
  obtain ⟨g, hg, happends⟩ :=
    hparsed.outputArgument width rfl c arg text htext
  refine ⟨{ g with fmt := g.fmt.tail }, ?_, ?_⟩
  · rw [turn, if_pos rfl, parseSpecifier_eq f width c hc rest hfmt]
    simp only [outputItem]
    rw [show outputArgument _ c arg = .ok g from hg]
  · refine ⟨happends.fits.congr rfl rfl rfl, happends.maxlen, happends.buf, ?_⟩
    change g.fmt.tail = rest
    rw [happends.fmt]
    rfl

theorem formatLoop_turn {f g : StringFormatter} (h : f.Fits)
    (hroom : f.buf.length < f.maxlen.toNat - 1) (c : BitVec 8) (hc : c ≠ 0#8)
    (rest : List (BitVec 8)) (hfmt : f.fmt = c :: rest)
    (ap ap' : List Argument) (hturn : f.turn ap c = .ok (g, ap'))
    (fuel : Nat) : f.formatLoop (fuel + 1) ap = g.formatLoop fuel ap' := by
  rw [formatLoop, if_pos (h.lt_iff.mpr hroom), hfmt]
  simp only [if_neg hc, hturn]

theorem formatLoop_error {f : StringFormatter} (h : f.Fits)
    (hroom : f.buf.length < f.maxlen.toNat - 1) (c : BitVec 8) (hc : c ≠ 0#8)
    (rest : List (BitVec 8)) (hfmt : f.fmt = c :: rest) (ap : List Argument)
    (x : FormatFault) (hturn : f.turn ap c = .error x) (fuel : Nat) :
    f.formatLoop (fuel + 1) ap = some (.error x) := by
  rw [formatLoop, if_pos (h.lt_iff.mpr hroom), hfmt]
  simp only [if_neg hc, hturn]

theorem formatLoop_full {f : StringFormatter} (h : f.Fits)
    (hfull : f.maxlen.toNat - 1 <= f.buf.length) (ap : List Argument)
    (fuel : Nat) : f.formatLoop (fuel + 1) ap = some (.ok f) := by
  have hnot : ¬ f.len < f.maxlen - 1#16 := h.lt_iff.not.mpr (by omega)
  rw [formatLoop, if_neg hnot]

/-- One turn per field, while there is room. -/
theorem formatLoop_field {f : StringFormatter} (h : f.Fits)
    (hroom : f.buf.length < f.maxlen.toNat - 1) (field : Field)
    (fields : List Field) (ap : List Argument) (rest out : List (BitVec 8))
    (hfmt : f.fmt = field.text ++ rest)
    (hout : expandFields (field :: fields) ap = some out) :
    exists g ap' text out',
      (forall fuel, f.formatLoop (fuel + 1) ap = g.formatLoop fuel ap') ∧
        f.Appends text rest g ∧ expandFields fields ap' = some out' ∧
        out = text ++ out' := by
  cases field with
  | literal c plain =>
      obtain ⟨out', hrest, rfl⟩ := Option.map_eq_some_iff.mp hout
      obtain ⟨g, hturn, happends⟩ :=
        turn_literal h ap c plain.right rest hfmt
      exact ⟨g, ap, [c], out', formatLoop_turn h hroom c plain.left rest hfmt
        ap ap hturn, happends, hrest, rfl⟩
  | item width c ends =>
      cases ap with
      | nil =>
          cases hout
      | cons arg ap =>
          obtain ⟨text, htext, hmore⟩ := Option.bind_eq_some_iff.mp hout
          obtain ⟨out', hrest, rfl⟩ := Option.map_eq_some_iff.mp hmore
          have hfmt : f.fmt = width.text ++ c :: rest := by
            rw [hfmt]
            exact List.append_assoc _ _ _
          obtain ⟨g, hturn, happends⟩ :=
            turn_item h arg ap width c ends.right rest text hfmt htext
          exact ⟨g, ap, text, out', formatLoop_turn h hroom (char '%')
            (by decide) _ hfmt _ _ hturn, happends, hrest, rfl⟩

/-- A full buffer takes nothing more. -/
theorem Fits.appends_full {f : StringFormatter} (h : f.Fits)
    (hfull : f.maxlen.toNat - 1 <= f.buf.length) (cs : List (BitVec 8)) :
    f.Appends cs f.fmt f := by
  refine ⟨h, rfl, ?_, rfl⟩
  have hroom := h.room
  have heq : f.maxlen.toNat - 1 = f.buf.length := by omega
  rw [heq, List.take_left]

/-- The loop stops where the expansion fills the buffer. -/
theorem formatLoop_fills (fields : List Field) {f : StringFormatter}
    (h : f.Fits) (ap : List Argument) (rest out : List (BitVec 8))
    (hfmt : f.fmt = fields.flatMap Field.text ++ rest)
    (hout : expandFields fields ap = some out)
    (hfull : f.maxlen.toNat - 1 <= (f.buf ++ out).length) :
    exists g fmt, f.formatLoop (fields.length + 1) ap = some (.ok g) ∧
      f.Appends out fmt g := by
  induction fields generalizing f ap out with
  | nil =>
      cases hout
      rw [List.append_nil] at hfull
      exact ⟨f, f.fmt, formatLoop_full h hfull ap 0, h.appends_full hfull []⟩
  | cons field fields ih =>
      by_cases hroom : f.buf.length < f.maxlen.toNat - 1
      · rw [List.flatMap_cons, List.append_assoc] at hfmt
        obtain ⟨g, ap', text, out', hloop, happends, hrest, rfl⟩ :=
          formatLoop_field h hroom field fields ap _ out hfmt hout
        have hleft : g.maxlen.toNat - 1 <= (g.buf ++ out').length := by
          rw [happends.maxlen, happends.buf, List.length_append,
            List.length_take, List.length_append]
          rw [List.length_append, List.length_append] at hfull
          omega
        obtain ⟨k, fmt, hk, hks⟩ :=
          ih happends.fits ap' out' happends.fmt hrest hleft
        refine ⟨k, fmt, ?_, happends.trans hks⟩
        rw [List.length_cons, hloop]
        exact hk
      · have hfull : f.maxlen.toNat - 1 <= f.buf.length := by omega
        exact ⟨f, f.fmt, formatLoop_full h hfull ap _,
          h.appends_full hfull out⟩

/-- The loop reads all fields where the expansion leaves room. -/
theorem formatLoop_reads (fields : List Field) {f : StringFormatter}
    (h : f.Fits) (ap : List Argument) (rest out : List (BitVec 8))
    (hfmt : f.fmt = fields.flatMap Field.text ++ rest)
    (hout : expandFields fields ap = some out)
    (hroom : (f.buf ++ out).length < f.maxlen.toNat - 1) :
    exists g ap',
      (forall fuel, f.formatLoop (fuel + fields.length) ap =
        g.formatLoop fuel ap') ∧ f.Appends out rest g := by
  induction fields generalizing f ap out with
  | nil =>
      cases hout
      refine ⟨f, ap, fun _ => rfl, ?_⟩
      have hrefl := Appends.refl h
      rw [hfmt] at hrefl
      exact hrefl
  | cons field fields ih =>
      rw [List.length_append] at hroom
      rw [List.flatMap_cons, List.append_assoc] at hfmt
      obtain ⟨g, ap', text, out', hloop, happends, hrest, rfl⟩ :=
        formatLoop_field h (by omega) field fields ap _ out hfmt hout
      have hleft : (g.buf ++ out').length < g.maxlen.toNat - 1 := by
        rw [happends.maxlen, happends.buf, List.length_append,
          List.length_take, List.length_append]
        rw [List.length_append] at hroom
        omega
      obtain ⟨k, ap'', hk, hks⟩ :=
        ih happends.fits ap' out' happends.fmt hrest hleft
      refine ⟨k, ap'', ?_, happends.trans hks⟩
      intro fuel
      rw [List.length_cons, <- Nat.add_assoc, hloop]
      exact hk fuel

theorem settles_formatLoop (f : StringFormatter) (ap : List Argument) :
    Foundation.Settles fun fuel => f.formatLoop fuel ap := by
  intro fuel r h
  induction fuel generalizing f ap with
  | zero =>
      cases h
  | succ fuel ih =>
      change f.formatLoop (fuel + 1) ap = some r at h
      change f.formatLoop (fuel + 1 + 1) ap = some r
      rw [formatLoop] at h ⊢
      by_cases hroom : f.len < f.maxlen - 1#16
      · rw [if_pos hroom] at h ⊢
        cases hfmt : f.fmt with
        | nil =>
            rw [hfmt] at h
            exact h
        | cons c rest =>
            simp only [hfmt] at h ⊢
            by_cases hc : c = 0#8
            · rw [if_pos hc] at h ⊢
              exact h
            · rw [if_neg hc] at h ⊢
              cases hturn : f.turn ap c with
              | error x =>
                  rw [hturn] at h
                  exact h
              | ok next =>
                  simp only [hturn] at h ⊢
                  exact ih next.1 next.2 h
      · rw [if_neg hroom] at h ⊢
        exact h

end StringFormatter

/-!
## Format strings
-/

/-- After `%` the characters of a width are read as far as they go. -/
theorem exists_width (rest : List (BitVec 8)) :
    exists (width : Width) (after : List (BitVec 8)),
      char '%' :: rest = width.text ++ after ∧
        forall c more, after = c :: more -> isDigit c = false := by
  have hstop (l : List (BitVec 8)) (c : BitVec 8) (more : List (BitVec 8))
      (h : l.dropWhile isDigit = c :: more) : isDigit c = false := by
    have hhead := List.head_dropWhile_not isDigit (l := l) (by rw [h]; simp)
    simpa [h] using hhead
  have hdigits (l : List (BitVec 8)) (d : BitVec 8)
      (hd : d ∈ l.takeWhile isDigit) : isDigit d = true :=
    List.mem_takeWhile_imp hd
  by_cases hzero : rest.head? = some (char '0')
  · cases rest with
    | nil =>
        cases hzero
    | cons z rest =>
        have hz : z = char '0' := Option.some.inj hzero
        refine ⟨⟨true, rest.takeWhile isDigit, hdigits rest, nofun⟩,
          rest.dropWhile isDigit, ?_, hstop rest⟩
        simp [Width.text, hz, List.takeWhile_append_dropWhile]
  · refine ⟨⟨false, rest.takeWhile isDigit, hdigits rest, fun _ => ?_⟩,
      rest.dropWhile isDigit, ?_, hstop rest⟩
    · cases rest with
      | nil =>
          exact hzero
      | cons d rest =>
          by_cases hd : isDigit d = true
          · simpa [hd] using hzero
          · simp [hd]
    · simp [Width.text, List.takeWhile_append_dropWhile]

/-- Every format string is the text of a format. -/
theorem exists_format (fmt : List (BitVec 8)) (h : 0#8 ∉ fmt) :
    exists format : Format, format.text = fmt := by
  induction hlength : fmt.length using Nat.strongRecOn generalizing fmt with
  | ind n ih =>
      cases fmt with
      | nil =>
          exact ⟨⟨[], none⟩, rfl⟩
      | cons c rest =>
          have hc : c ≠ 0#8 := fun hz => h (hz ▸ List.mem_cons_self)
          by_cases hpercent : c = char '%'
          · obtain ⟨width, after, htext, hends⟩ := exists_width rest
            rw [<- hpercent] at htext
            cases after with
            | nil =>
                refine ⟨⟨[], some width⟩, ?_⟩
                rw [htext, List.append_nil]
                rfl
            | cons conversion after =>
                have hconversion : conversion ≠ 0#8 := by
                  intro hz
                  apply h
                  rw [htext, hz]
                  exact List.mem_append_right _ List.mem_cons_self
                have hend := hends conversion after rfl
                have hafter : 0#8 ∉ after := by
                  intro hmem
                  apply h
                  rw [htext]
                  exact List.mem_append_right _ (List.mem_cons_of_mem _ hmem)
                have hshort : after.length < n := by
                  rw [<- hlength, htext, List.length_append, List.length_cons]
                  omega
                obtain ⟨⟨fields, cut⟩, hformat⟩ :=
                  ih after.length hshort after hafter rfl
                refine ⟨⟨.item width conversion
                  ⟨hconversion, hend⟩ :: fields, cut⟩, ?_⟩
                rw [htext, <- hformat]
                simp [Format.text, Field.text]
          · have hrest : 0#8 ∉ rest := fun hmem =>
              h (List.mem_cons_of_mem c hmem)
            have hshort : rest.length < n := by
              rw [<- hlength]
              exact Nat.lt_succ_self _
            obtain ⟨⟨fields, cut⟩, hformat⟩ :=
              ih rest.length hshort rest hrest rfl
            refine ⟨⟨.literal c ⟨hc, hpercent⟩ :: fields, cut⟩, ?_⟩
            rw [<- hformat]
            simp [Format.text, Field.text]

/-!
## What the buffer holds
-/

/-- No access outside, the first characters of `out` in the buffer, one `NUL`
after them, and their number returned. -/
def Formatted (maxlen : BitVec 16) (out : List (BitVec 8))
    (r : Except FormatFault (List (BitVec 8) × BitVec 16)) : Prop :=
  exists chars n, r = .ok (chars ++ [0#8], n) ∧
    chars = out.take (maxlen.toNat - 1) ∧ n.toNat = chars.length ∧
    (chars ++ [0#8]).length <= maxlen.toNat

def FormatsTo (maxlen : BitVec 16) (fmt : List (BitVec 8)) (ap : List Argument)
    (out : List (BitVec 8)) : Prop :=
  exists fuel, Foundation.Returns fuel
    (fun fuel => stringFormat fuel maxlen fmt ap) (Formatted maxlen out)

namespace StringFormatter

/-- The formatter before the first turn. -/
def start (maxlen : BitVec 16) (fmt : List (BitVec 8)) : StringFormatter where
  buf := []
  len := 0#16
  maxlen := maxlen
  fmt := fmt
  specifier := { precision := 0#16, zeroPad := false }

theorem fits_start (maxlen : BitVec 16) (h : maxlen ≠ 0#16)
    (fmt : List (BitVec 8)) : (start maxlen fmt).Fits :=
  ⟨h, rfl, Nat.zero_le _⟩

theorem settles_stringFormat (maxlen : BitVec 16) (fmt : List (BitVec 8))
    (ap : List Argument) :
    Foundation.Settles fun fuel => stringFormat fuel maxlen fmt ap := by
  intro fuel r h
  obtain ⟨r', hr', rfl⟩ := Option.map_eq_some_iff.mp h
  exact congrArg (Option.map finish)
    (settles_formatLoop (start maxlen fmt) ap fuel r' hr')

theorem Appends.formatted {maxlen : BitVec 16} {fmt fmt' : List (BitVec 8)}
    {f : StringFormatter} {out : List (BitVec 8)} (hmaxlen : maxlen ≠ 0#16)
    (h : (start maxlen fmt).Appends out fmt' f) :
    Formatted maxlen out (finish (.ok f)) := by
  refine ⟨f.buf, f.len, rfl, h.buf, h.fits.len, ?_⟩
  have hroom := h.fits.room
  have hpos : 0 < maxlen.toNat := by
    rw [Nat.pos_iff_ne_zero]
    exact fun hzero => hmaxlen (BitVec.eq_of_toNat_eq hzero)
  rw [h.maxlen] at hroom
  change f.buf.length <= maxlen.toNat - 1 at hroom
  rw [List.length_append, List.length_singleton]
  omega

/-- A run of the loop that ends well. -/
theorem formatsTo_of_loop {maxlen : BitVec 16} {fmt fmt' : List (BitVec 8)}
    {ap : List Argument} {f : StringFormatter} {out : List (BitVec 8)}
    (hmaxlen : maxlen ≠ 0#16) (fuel : Nat)
    (hloop : (start maxlen fmt).formatLoop fuel ap = some (.ok f))
    (h : (start maxlen fmt).Appends out fmt' f) :
    FormatsTo maxlen fmt ap out :=
  ⟨fuel, .of_settles (settles_stringFormat maxlen fmt ap)
    (congrArg (Option.map finish) hloop) (h.formatted hmaxlen)⟩

end StringFormatter

open StringFormatter

theorem formatsTo_of_fills (format : Format) (maxlen : BitVec 16)
    (ap : List Argument) (out : List (BitVec 8)) (hmaxlen : maxlen ≠ 0#16)
    (hout : format.expand ap = some out)
    (hfull : maxlen.toNat - 1 <= out.length) :
    FormatsTo maxlen (format.text ++ [0#8]) ap out := by
  obtain ⟨g, fmt, hloop, happends⟩ :=
    formatLoop_fills format.fields (fits_start maxlen hmaxlen _) ap
      (cutText format.cut ++ [0#8]) out (List.append_assoc _ _ _) hout hfull
  exact formatsTo_of_loop hmaxlen _ hloop happends

theorem formatsTo_of_whole (format : Format) (maxlen : BitVec 16)
    (ap : List Argument) (out : List (BitVec 8)) (hmaxlen : maxlen ≠ 0#16)
    (hout : format.expand ap = some out) (hcut : format.cut = none)
    (hroom : out.length < maxlen.toNat - 1) :
    FormatsTo maxlen (format.text ++ [0#8]) ap out := by
  obtain ⟨g, ap', hloop, happends⟩ :=
    formatLoop_reads format.fields (fits_start maxlen hmaxlen _) ap
      (cutText format.cut ++ [0#8]) out (List.append_assoc _ _ _) hout hroom
  have hfmt : g.fmt = [0#8] := by
    rw [happends.fmt, hcut]
    rfl
  have hend : g.formatLoop 1 ap' = some (.ok g) := by
    rw [formatLoop]
    split
    · simp [hfmt]
    · rfl
  exact formatsTo_of_loop hmaxlen _ ((hloop 1).trans hend) happends

/-- The `NUL` after a specifier that is cut off is taken for a conversion. -/
theorem turn_cut {f : StringFormatter} (h : f.Fits) (ap : List Argument)
    (width : Width) (hfmt : f.fmt = width.text ++ [0#8]) :
    f.turn ap (char '%') = .error .argument ∨
      exists g ap' c, f.turn ap (char '%') = .ok (g, ap') ∧
        f.Appends [c] [] g := by
  let parsed : StringFormatter :=
    { f with fmt := [0#8], specifier := width.specifier }
  have hparsed : parsed.Fits := h.congr rfl rfl rfl
  have hturn : f.turn ap (char '%') = parsed.outputItem ap := by
    rw [turn, if_pos rfl, parseSpecifier_eq f width 0#8 (by decide) [] hfmt]
  rw [hturn]
  cases ap with
  | nil =>
      exact Or.inl rfl
  | cons arg ap =>
      cases arg with
      | string str =>
          exact Or.inl rfl
      | word v =>
          have hout := hparsed.outputChar v
          refine Or.inr ⟨_, ap, v.setWidth 8, rfl, hout.fits.congr rfl rfl rfl,
            hout.maxlen, hout.buf, ?_⟩
          change (parsed.outputChar v).fmt.tail = []
          rw [hout.fmt]
          rfl

/-- From there the loop reads behind the `NUL` or has put out too much. -/
theorem formatLoop_cut {f : StringFormatter} (h : f.Fits) (ap : List Argument)
    (width : Width) (hfmt : f.fmt = width.text ++ [0#8])
    (hroom : f.buf.length < f.maxlen.toNat - 1) :
    exists r, f.formatLoop 2 ap = some r ∧
      forall g, r = .ok g -> g.buf.length = f.buf.length + 1 := by
  have hpercent : char '%' ≠ 0#8 := by
    decide
  rcases turn_cut h ap width hfmt with hnone | ⟨g, ap', c, hturn, happends⟩
  · exact ⟨.error .argument, formatLoop_error h hroom _ hpercent _ hfmt ap _
      hnone 1, nofun⟩
  · have hlength : g.buf.length = f.buf.length + 1 := by
      rw [happends.buf, List.length_take, List.length_append,
        List.length_singleton]
      omega
    have hfirst : f.formatLoop 2 ap = g.formatLoop 1 ap' :=
      formatLoop_turn h hroom _ hpercent _ hfmt ap ap' hturn 1
    by_cases hmore : g.len < g.maxlen - 1#16
    · refine ⟨.error .pastFormat, ?_, nofun⟩
      rw [hfirst, formatLoop, if_pos hmore, happends.fmt]
    · refine ⟨.ok g, ?_, ?_⟩
      · rw [hfirst, formatLoop, if_neg hmore]
      · intro k hk
        cases hk
        exact hlength

theorem not_formatsTo_of_cut (format : Format) (maxlen : BitVec 16)
    (ap : List Argument) (out : List (BitVec 8)) (hmaxlen : maxlen ≠ 0#16)
    (hout : format.expand ap = some out) (width : Width)
    (hcut : format.cut = some width) (hroom : out.length < maxlen.toNat - 1) :
    ¬ FormatsTo maxlen (format.text ++ [0#8]) ap out := by
  rintro ⟨fuel, hreturns⟩
  obtain ⟨g, ap', hloop, happends⟩ :=
    formatLoop_reads format.fields (fits_start maxlen hmaxlen _) ap
      (cutText format.cut ++ [0#8]) out (List.append_assoc _ _ _) hout hroom
  have hbuf : g.buf.length = out.length := by
    rw [happends.buf, List.length_take]
    change min (maxlen.toNat - 1) out.length = out.length
    omega
  have hfmt : g.fmt = width.text ++ [0#8] := by
    rw [happends.fmt, hcut]
    rfl
  have hleft : g.buf.length < g.maxlen.toNat - 1 := by
    rw [hbuf, happends.maxlen]
    exact hroom
  obtain ⟨r, hr, hlength⟩ :=
    formatLoop_cut happends.fits ap' width hfmt hleft
  obtain ⟨chars, n, hok, hchars, _⟩ :=
    hreturns.gives (2 + format.fields.length) (finish r)
      (congrArg (Option.map finish) ((hloop 2).trans hr))
  cases r with
  | error x =>
      cases hok
  | ok k =>
      have hsame : k.buf = chars :=
        (List.append_inj' (congrArg Prod.fst (Except.ok.inj hok)) rfl).left
      have htoo := hlength k rfl
      rw [hsame, hchars, List.length_take, hbuf] at htoo
      omega

/-- Formatting keeps to the format and fills the buffer with the first
characters of the expansion, just when no specifier is cut off by the end or
the expansion is at least as long as the buffer takes. -/
theorem formatsTo_iff_not_cut (fmt : List (BitVec 8)) (hfmt : 0#8 ∉ fmt) :
    (exists format : Format, format.text = fmt) ∧
    forall (format : Format) (maxlen : BitVec 16) (ap : List Argument)
      (out : List (BitVec 8)), format.text = fmt -> maxlen ≠ 0#16 ->
      format.expand ap = some out ->
      (FormatsTo maxlen (fmt ++ [0#8]) ap out ↔
        format.cut = none ∨ maxlen.toNat - 1 <= out.length) := by
  refine ⟨exists_format fmt hfmt, ?_⟩
  rintro format maxlen ap out rfl hmaxlen hout
  by_cases hfull : maxlen.toNat - 1 <= out.length
  · have hfills := formatsTo_of_fills format maxlen ap out hmaxlen hout hfull
    exact iff_of_true hfills (Or.inr hfull)
  · have hroom : out.length < maxlen.toNat - 1 := by omega
    cases hcut : format.cut with
    | none =>
        exact iff_of_true
          (formatsTo_of_whole format maxlen ap out hmaxlen hout hcut hroom)
          (Or.inl rfl)
    | some width =>
        have hbad := not_formatsTo_of_cut format maxlen ap out hmaxlen hout
          width hcut hroom
        refine iff_of_false hbad ?_
        rintro (hnone | hlong)
        · cases hnone
        · exact hfull hlong

/-- `%03u`. -/
def paddedNumber : Format where
  fields :=
    [.item ⟨true, [char '3'], by decide, nofun⟩ (char 'u') (by decide)]
  cut := none

/-- `007`. -/
theorem formatsTo_iff_not_cut_padded :
    (exists format : Format, format.text = ['%', '0', '3', 'u'].map char) ∧
    FormatsTo 16#16 (['%', '0', '3', 'u'].map char ++ [0#8]) [.word 7#16]
      (['0', '0', '7'].map char) :=
  have h := formatsTo_iff_not_cut (['%', '0', '3', 'u'].map char) (by decide)
  ⟨h.left, (h.right paddedNumber 16#16 [.word 7#16] (['0', '0', '7'].map char)
    rfl (by decide) (by decide)).mpr (Or.inl rfl)⟩

/-- `%`, with the letter `A` for an argument. -/
theorem not_formatsTo_percent :
    (¬ forall (format : Format) (maxlen : BitVec 16) (ap : List Argument)
      (out : List (BitVec 8)), maxlen ≠ 0#16 -> format.expand ap = some out ->
      FormatsTo maxlen (format.text ++ [0#8]) ap out) ∧
    stringFormat 2 128#16 [char '%', 0#8] [.word 0x41#16] =
      some (.error .pastFormat) := by
  have hrun : stringFormat 2 128#16 [char '%', 0#8] [.word 0x41#16] =
      some (.error .pastFormat) := by
    decide
  refine ⟨?_, hrun⟩
  intro h
  obtain ⟨fuel, hreturns⟩ :=
    h ⟨[], some ⟨false, [], nofun, nofun⟩⟩ 128#16 [.word 0x41#16] []
      (by decide) rfl
  obtain ⟨_, _, hok, _⟩ := hreturns.gives 2 _ hrun
  cases hok

end Bios
end S80x86
