import SpendCraft.Lib.Calendar
import SpendCraft.Lib.KotlinNumber
import Mathlib.Data.List.Forall2

/-!
# Date Patterns of `java.time`

`DateTimeFormatter.ofPattern` for the patterns made of `yyyy`, `MM`, `dd` and literal
characters: printing a date, and parsing a text into a date as `LocalDate.parse` does.

The letter `y` is the year of the era: it is printed with at least four digits, with a
plus sign when it needs more, and it is always positive, so the year `0` prints as `0001`.
Parsing follows the strict parser and the `SMART` resolver: `yyyy` reads exactly four
digits, or a plus sign and at least five; `MM` and `dd` read two digits; the month must
lie in `[1, 12]` and the day in `[1, 31]`; a day past the end of its month is taken for
the last day of the month.

## Conventions

A pattern is a list of items, and so is what is printed and parsed: there is no text of a pattern.
The other letters of the pattern language are left out, and so are the locale and the options that
change the resolver. The year is a `yyyy` of the era, never the proleptic `uuuu`; a date of the
year `0` or before is printed as a year of the era before, and its text is read back as a date
of the common era. The digits are those of ASCII. `utcDate` and `atStartOfDay` connect instants in
milliseconds with the dates of UTC.

A `DatePattern` is a pattern that reads back what it prints: it has each of the three fields once,
and no digits follow the year, whose width would otherwise be unknown.

## Proof

Parsing goes item by item and never backtracks, so the lemmas about it are about one item and the
rest of the text (`parseItems_format`). A text that was printed is read back field by field, and
the resolver then returns the date itself. For the converse, `parseItems_eq_some` takes a parsed
text apart into the pieces that the items have consumed.

## Main results

* `parse_format`: a date of the common era is parsed back from its text.
* `parse_eq_some`: a text that is parsed follows the pattern, and its numbers are those of
  the date, except for a day past the end of its month.
-/

namespace JavaTime

open Kotlin Calendar

/-- A piece of a date pattern. -/
inductive PatternItem
  | yyyy
  | MM
  | dd
  | literal (c : Char)
  deriving DecidableEq, Repr

/-! ### Printing -/

/-- The year of the era: the year `0` is the year 1 before the common era. -/
def yearOfEra (year : ℤ) : ℤ :=
  if 1 ≤ year then year else 1 - year

/-- The year of a pattern: four digits, or more with a sign. -/
def printYear (year : ℤ) : Text :=
  let yoe := (yearOfEra year).toNat
  if 10000 ≤ yoe then '+' :: Nat.toDigits 10 yoe else padStart (Nat.toDigits 10 yoe) 4 '0'

/-- A number printed with two digits. -/
def printTwo (n : ℤ) : Text :=
  padStart (Nat.toDigits 10 n.toNat) 2 '0'

/-- A formatted field of a date. -/
def printItem (d : LocalDate) : PatternItem → Text
  | .yyyy => printYear d.year
  | .MM => printTwo d.month
  | .dd => printTwo d.day
  | .literal c => [c]

/-- `DateTimeFormatter.format`. -/
def format (pattern : List PatternItem) (d : LocalDate) : Text :=
  pattern.flatMap (printItem d)

/-! ### Parsing -/

/-- The fields read so far. -/
structure Fields where
  yearOfEra : Option ℤ
  monthOfYear : Option ℤ
  dayOfMonth : Option ℤ

/-- The leading digits of a text, at most `n` of them. -/
def leadingDigits (n : ℕ) (s : Text) : Text :=
  (s.takeWhile Char.isDigit).take n

/-- The field `yyyy`: its width decides about the sign. -/
def parseYear : Text → Option (ℤ × Text)
  | '+' :: s =>
      let ds := leadingDigits 19 s
      if 4 < ds.length then some (Nat.ofDigitChars 10 ds 0, s.drop ds.length) else none
  | '-' :: s =>
      let ds := leadingDigits 19 s
      if 4 ≤ ds.length ∧ Nat.ofDigitChars 10 ds 0 ≠ 0 then
        some (-Nat.ofDigitChars 10 ds 0, s.drop ds.length)
      else none
  | s =>
      let ds := leadingDigits 19 s
      if ds.length = 4 then some (Nat.ofDigitChars 10 ds 0, s.drop ds.length) else none

/-- The fields `MM` and `dd`. -/
def parseTwo (s : Text) : Option (ℤ × Text) :=
  let ds := leadingDigits 2 s
  if ds.length = 2 then some (Nat.ofDigitChars 10 ds 0, s.drop 2) else none

/-- The fields of a pattern, read one after the other; a literal has to be there. -/
def parseItems : List PatternItem → Text → Fields → Option (Fields × Text)
  | [], s, fields => some (fields, s)
  | .yyyy :: items, s, fields =>
      (parseYear s).bind fun vt => parseItems items vt.2 { fields with yearOfEra := some vt.1 }
  | .MM :: items, s, fields =>
      (parseTwo s).bind fun vt => parseItems items vt.2 { fields with monthOfYear := some vt.1 }
  | .dd :: items, s, fields =>
      (parseTwo s).bind fun vt => parseItems items vt.2 { fields with dayOfMonth := some vt.1 }
  | .literal c :: items, s, fields =>
      match s with
      | [] => none
      | e :: s => if e = c then parseItems items s fields else none

/-- The `SMART` resolution of a year, a month and a day. -/
def resolveSmart (year month day : ℤ) : Option LocalDate :=
  if h : 1 ≤ year ∧ year ≤ 999999999 ∧ 1 ≤ month ∧ month ≤ 12 ∧ 1 ≤ day ∧ day ≤ 31 then
    some
      { year := year
        month := month
        day := min day (daysInMonth year month)
        one_le_month := h.2.2.1
        month_le := h.2.2.2.1
        one_le_day := le_min h.2.2.2.2.1 (by have := daysInMonth_bounds year month; omega)
        day_le := min_le_right _ _ }
  else none

/-- `LocalDate.parse`: the pattern has to consume the whole text. -/
def parse (pattern : List PatternItem) (s : Text) : Option LocalDate :=
  match parseItems pattern s ⟨none, none, none⟩ with
  | some (⟨some year, some month, some day⟩, []) => resolveSmart year month day
  | _ => none

/-! ### Parsing what was printed -/

/-- The digits at the head of a text, up to the first other character. -/
theorem leadingDigits_append {ds s : Text} {n : ℕ} (hn : ds.length ≤ n)
    (hds : ∀ c ∈ ds, c.isDigit = true) (hs : ∀ c ∈ s.head?, c.isDigit = false) :
    leadingDigits n (ds ++ s) = ds := by
  have htake : s.takeWhile Char.isDigit = [] := by
    cases s with
    | nil => rfl
    | cons c s => rw [List.takeWhile_cons, hs c rfl]; rfl
  rw [leadingDigits, List.takeWhile_append_of_pos hds, htake, List.append_nil,
    List.take_of_length_le hn]

/-- At most two digits are read, whatever follows. -/
theorem leadingDigits_two_append {ds : Text} (hlen : ds.length = 2)
    (hds : ∀ c ∈ ds, c.isDigit = true) (s : Text) : leadingDigits 2 (ds ++ s) = ds := by
  rw [leadingDigits, List.takeWhile_append_of_pos hds, ← hlen, List.take_left]

/-- The year of an era starts at 1. -/
theorem one_le_yearOfEra (year : ℤ) : 1 ≤ yearOfEra year := by
  rw [yearOfEra]
  split_ifs <;> omega

/-- A year of five digits or more is read behind its sign. -/
theorem parseYear_plus {n : ℕ} (h : 10000 ≤ n) (h' : n ≤ 999999999) {s : Text}
    (hs : ∀ c ∈ s.head?, c.isDigit = false) :
    parseYear ('+' :: (Nat.toDigits 10 n ++ s)) = some ((n : ℤ), s) := by
  have hlen : (Nat.toDigits 10 n).length ≤ 9 :=
    (Nat.length_toDigits_le_iff (by decide) (by decide)).mpr (by omega)
  have hlen' : 4 < (Nat.toDigits 10 n).length := by
    by_contra hle
    have hlt := (Nat.length_toDigits_le_iff (by decide) (by decide)).mp (not_lt.mp hle)
    omega
  have hlead := @leadingDigits_append (Nat.toDigits 10 n) s 19 (by omega)
    (fun _ => isDigit_of_mem_toDigits) hs
  rw [parseYear, hlead, if_pos hlen', Nat.ofDigitChars_ten_toDigits, List.drop_left]

/-- A year of four digits. -/
theorem parseYear_padStart {n : ℕ} (h : n < 10 ^ 4) {s : Text}
    (hs : ∀ c ∈ s.head?, c.isDigit = false) :
    parseYear (padStart (Nat.toDigits 10 n) 4 '0' ++ s) = some ((n : ℤ), s) := by
  have hlen := length_padStart_toDigits (by decide) h
  have hdigit : ∀ c ∈ padStart (Nat.toDigits 10 n) 4 '0', c.isDigit = true :=
    fun _ => isDigit_of_mem_padStart
  have hval := ofDigitChars_padStart n 4
  generalize padStart (Nat.toDigits 10 n) 4 '0' = ds at hlen hdigit hval
  have hlead := @leadingDigits_append ds s 19 (by omega) hdigit hs
  have hdrop : (ds ++ s).drop ds.length = s := List.drop_left
  -- the first character is a digit, so the sign cases of the parser do not apply
  have hne : ds ≠ [] := by
    rintro rfl
    cases hlen
  obtain ⟨c, ds', rfl⟩ := List.exists_cons_of_ne_nil hne
  have hc := hdigit c List.mem_cons_self
  rw [List.cons_append] at hlead hdrop ⊢
  unfold parseYear
  split
  next heq =>
    rw [(List.cons.inj heq).1] at hc
    exact absurd hc (by decide)
  next heq =>
    rw [(List.cons.inj heq).1] at hc
    exact absurd hc (by decide)
  · rw [hlead, if_pos hlen, hval, hdrop]

/-- The year that is read is the year of the era. -/
theorem parseYear_printYear {year : ℤ} (h : yearOfEra year ≤ 999999999) {s : Text}
    (hs : ∀ c ∈ s.head?, c.isDigit = false) :
    parseYear (printYear year ++ s) = some (yearOfEra year, s) := by
  have hone := one_le_yearOfEra year
  have hcast : ((yearOfEra year).toNat : ℤ) = yearOfEra year := Int.toNat_of_nonneg (by omega)
  rw [printYear]
  split
  next hlarge => rw [List.cons_append, parseYear_plus hlarge (by omega) hs, hcast]
  next hsmall => rw [parseYear_padStart (by omega) hs, hcast]

/-- Two digits are read back. -/
theorem parseTwo_printTwo {n : ℤ} (h0 : 0 ≤ n) (h1 : n ≤ 99) (s : Text) :
    parseTwo (printTwo n ++ s) = some (n, s) := by
  have hlt : n.toNat < 10 ^ 2 := by omega
  have hlen := length_padStart_toDigits (by decide) hlt
  have hdrop : (padStart (Nat.toDigits 10 n.toNat) 2 '0' ++ s).drop 2 = s :=
    List.drop_left' hlen
  rw [printTwo, parseTwo, leadingDigits_two_append hlen (fun _ => isDigit_of_mem_padStart),
    if_pos hlen, ofDigitChars_padStart, Int.toNat_of_nonneg h0, hdrop]

/-- A date of the common era resolves to itself. -/
theorem resolveSmart_localDate (d : LocalDate) (h1 : 1 ≤ d.year) (h2 : d.year ≤ 999999999) :
    resolveSmart d.year d.month d.day = some d := by
  have hday := d.day_le
  have hbound := daysInMonth_bounds d.year d.month
  rw [resolveSmart, dif_pos ⟨h1, h2, d.one_le_month, d.month_le, d.one_le_day, by omega⟩]
  congr 1
  ext
  · rfl
  · rfl
  · exact min_eq_left hday

/-- Whether the text of an item can start with a digit. -/
def PatternItem.startsNumber : PatternItem → Bool
  | .literal c => c.isDigit
  | _ => true

/-- No digits follow a year, and every field of a date occurs once. -/
structure DatePattern (pattern : List PatternItem) : Prop where
  separated : pattern.IsChain fun a b => a = .yyyy → b.startsNumber = false
  count_field : ∀ field ∈ [PatternItem.yyyy, .MM, .dd], pattern.count field = 1

/-- Whether a pattern is that of a date is decided by its fields. -/
instance (pattern : List PatternItem) : Decidable (DatePattern pattern) :=
  decidable_of_iff
    ((pattern.IsChain fun a b => a = .yyyy → b.startsNumber = false) ∧
      ∀ field ∈ [PatternItem.yyyy, .MM, .dd], pattern.count field = 1)
    ⟨fun h => ⟨h.1, h.2⟩, fun h => ⟨h.1, h.2⟩⟩

/-- The pattern of a date has each of the three fields. -/
theorem DatePattern.mem {pattern : List PatternItem} (h : DatePattern pattern)
    {field : PatternItem} (hfield : field ∈ [PatternItem.yyyy, .MM, .dd]) : field ∈ pattern := by
  rw [← List.count_pos_iff, h.count_field field hfield]
  exact one_pos

/-- What an item sets when the text of a date is read. -/
def Fields.read (d : LocalDate) (fields : Fields) : PatternItem → Fields
  | .yyyy => { fields with yearOfEra := some (JavaTime.yearOfEra d.year) }
  | .MM => { fields with monthOfYear := some d.month }
  | .dd => { fields with dayOfMonth := some d.day }
  | .literal _ => fields

/-- Reading the fields of a date in the order of the pattern. -/
theorem foldl_read (d : LocalDate) (pattern : List PatternItem) (fields : Fields) :
    pattern.foldl (Fields.read d) fields =
      { yearOfEra :=
          if .yyyy ∈ pattern then some (yearOfEra d.year) else fields.yearOfEra
        monthOfYear := if .MM ∈ pattern then some d.month else fields.monthOfYear
        dayOfMonth := if .dd ∈ pattern then some d.day else fields.dayOfMonth } := by
  induction pattern generalizing fields with
  | nil => simp
  | cons item pattern ih =>
      rw [List.foldl_cons, ih]
      cases item <;> simp [Fields.read]

/-- The text of a pattern is read item by item. -/
theorem parseItems_format {d : LocalDate} (h : yearOfEra d.year ≤ 999999999)
    {items : List PatternItem}
    (hsep : items.IsChain fun a b => a = .yyyy → b.startsNumber = false) (fields : Fields) :
    parseItems items (format items d) fields = some (items.foldl (Fields.read d) fields, []) := by
  have hm1 := d.one_le_month
  have hm2 := d.month_le
  have hd1 := d.one_le_day
  have hd2 := d.day_le
  have hbound := daysInMonth_bounds d.year d.month
  induction items generalizing fields with
  | nil => rfl
  | cons item items ih =>
      have hcons : format (item :: items) d = printItem d item ++ format items d :=
        List.flatMap_cons
      rw [hcons, List.foldl_cons, ← ih hsep.of_cons]
      cases item with
      | yyyy =>
          have hhead : ∀ c ∈ (format items d).head?, c.isDigit = false := by
            cases items with
            | nil => exact fun c hc => absurd hc (Option.not_mem_none c)
            | cons next items =>
                have hnext := (List.isChain_cons_cons.mp hsep).1 rfl
                cases next with
                | literal e =>
                    intro c hc
                    rw [← Option.some.inj hc]
                    exact hnext
                | yyyy => cases hnext
                | MM => cases hnext
                | dd => cases hnext
          rw [printItem, parseItems, parseYear_printYear h hhead, Option.bind_some]
          rfl
      | MM =>
          rw [printItem, parseItems, parseTwo_printTwo (by omega) (by omega), Option.bind_some]
          rfl
      | dd =>
          rw [printItem, parseItems, parseTwo_printTwo (by omega) (by omega), Option.bind_some]
          rfl
      | literal c =>
          rw [printItem, List.singleton_append, parseItems, if_pos rfl]
          rfl

/-- A date is parsed back from its text up to the era of its year. -/
theorem parse_format_eq {pattern : List PatternItem} (hpattern : DatePattern pattern)
    (d : LocalDate) (h : yearOfEra d.year ≤ 999999999) :
    parse pattern (format pattern d) = resolveSmart (yearOfEra d.year) d.month d.day := by
  rw [parse, parseItems_format h hpattern.separated, foldl_read, if_pos (hpattern.mem (by simp)),
    if_pos (hpattern.mem (by simp)), if_pos (hpattern.mem (by simp))]

/-- **A date of the common era is parsed back from its text.** -/
theorem parse_format {pattern : List PatternItem} (hpattern : DatePattern pattern)
    (d : LocalDate) (h1 : 1 ≤ d.year) (h2 : d.year ≤ 999999999) :
    parse pattern (format pattern d) = some d := by
  have hyoe : yearOfEra d.year = d.year := if_pos h1
  rw [parse_format_eq hpattern d (by omega), hyoe]
  exact resolveSmart_localDate d h1 h2

/-- The pattern `yyyy-MM-dd`. -/
def isoPattern : List PatternItem :=
  [.yyyy, .literal '-', .MM, .literal '-', .dd]

/-- The ISO pattern is one of a date. -/
theorem datePattern_isoPattern : DatePattern isoPattern := by
  decide

/-- The characters of a printed year. -/
theorem digitsAnd_printYear {marks : Text} (hplus : '+' ∈ marks) (year : ℤ) :
    DigitsAnd marks (printYear year) := by
  rw [printYear]
  split
  next =>
    rw [DigitsAnd, List.forall_mem_cons]
    exact ⟨Or.inr hplus, digitsAnd_toDigits marks _⟩
  next => exact digitsAnd_padStart marks _ _

/-- The characters of a date: digits, the sign of a far year, and those of the pattern. -/
theorem digitsAnd_format {marks : Text} {pattern : List PatternItem} (hplus : '+' ∈ marks)
    (hliteral : ∀ c, .literal c ∈ pattern → c ∈ marks) (d : LocalDate) :
    DigitsAnd marks (format pattern d) := by
  intro c h
  obtain ⟨item, hitem, hc⟩ := List.mem_flatMap.mp h
  cases item with
  | yyyy => exact digitsAnd_printYear hplus d.year c hc
  | MM => exact digitsAnd_padStart marks _ _ c hc
  | dd => exact digitsAnd_padStart marks _ _ c hc
  | literal e =>
      rw [printItem, List.mem_singleton] at hc
      rw [hc]
      exact Or.inr (hliteral e hitem)

/-! ### The texts that are parsed -/

/-- The text is made of digits and names the number. -/
def Numeral (n : ℤ) (s : Text) : Prop :=
  (∀ c ∈ s, c.isDigit = true) ∧ n = Nat.ofDigitChars 10 s 0

/-- The texts of a year: four digits, or a sign and more of them. -/
def YearText (year : ℤ) (s : Text) : Prop :=
  (s.length = 4 ∧ Numeral year s) ∨
    (∃ ds, s = '+' :: ds ∧ 4 < ds.length ∧ Numeral year ds) ∨
      ∃ ds, s = '-' :: ds ∧ 4 ≤ ds.length ∧ Numeral (-year) ds

/-- The texts of an item, when these are the numbers of the date. -/
def ItemText (year month day : ℤ) : PatternItem → Text → Prop
  | .yyyy, s => YearText year s
  | .MM, s => s.length = 2 ∧ Numeral month s
  | .dd, s => s.length = 2 ∧ Numeral day s
  | .literal c, s => s = [c]

/-- The text follows the pattern, with these numbers for the date. -/
def DateText (pattern : List PatternItem) (year month day : ℤ) (s : Text) : Prop :=
  ∃ pieces, List.Forall₂ (ItemText year month day) pattern pieces ∧ s = pieces.flatten

/-- The digits at the head of a text denote their number. -/
theorem leadingDigits_numeral (n : ℕ) (s : Text) :
    Numeral (Nat.ofDigitChars 10 (leadingDigits n s) 0) (leadingDigits n s) := by
  refine ⟨?_, rfl⟩
  intro c hc
  exact List.mem_takeWhile_imp (List.mem_of_mem_take hc)

/-- Behind the digits comes the rest of the text. -/
theorem leadingDigits_append_drop (n : ℕ) (s : Text) :
    leadingDigits n s ++ s.drop (leadingDigits n s).length = s :=
  List.prefix_iff_eq_append.mp ((List.take_prefix _ _).trans (List.takeWhile_prefix _))

/-- What was read as two digits. -/
theorem parseTwo_eq_some {s rest : Text} {n : ℤ} (h : parseTwo s = some (n, rest)) :
    ∃ piece, (piece.length = 2 ∧ Numeral n piece) ∧ s = piece ++ rest := by
  rw [parseTwo] at h
  split at h
  next hlen =>
    obtain ⟨rfl, rfl⟩ := Prod.mk.inj (Option.some.inj h)
    have happend := leadingDigits_append_drop 2 s
    rw [hlen] at happend
    exact ⟨leadingDigits 2 s, ⟨hlen, leadingDigits_numeral 2 s⟩, happend.symm⟩
  next => cases h

/-- What was read as a year. -/
theorem parseYear_eq_some {s rest : Text} {year : ℤ} (h : parseYear s = some (year, rest)) :
    ∃ piece, YearText year piece ∧ s = piece ++ rest := by
  unfold parseYear at h
  split at h
  next s =>
    dsimp only at h
    split at h
    next hlen =>
      obtain ⟨rfl, rfl⟩ := Prod.mk.inj (Option.some.inj h)
      refine ⟨'+' :: leadingDigits 19 s, Or.inr (Or.inl ⟨_, rfl, hlen, leadingDigits_numeral 19 s⟩),
        ?_⟩
      rw [List.cons_append, leadingDigits_append_drop]
    next => cases h
  next s =>
    dsimp only at h
    split at h
    next hlen =>
      obtain ⟨rfl, rfl⟩ := Prod.mk.inj (Option.some.inj h)
      have hnumeral := leadingDigits_numeral 19 s
      refine ⟨'-' :: leadingDigits 19 s, Or.inr (Or.inr ⟨_, rfl, hlen.1, ?_⟩), ?_⟩
      · rw [neg_neg]
        exact hnumeral
      · rw [List.cons_append, leadingDigits_append_drop]
    next => cases h
  next =>
    dsimp only at h
    split at h
    next hlen =>
      obtain ⟨rfl, rfl⟩ := Prod.mk.inj (Option.some.inj h)
      exact ⟨leadingDigits 19 s, Or.inl ⟨hlen, leadingDigits_numeral 19 s⟩,
        (leadingDigits_append_drop 19 s).symm⟩
    next => cases h

/-- What was read with a literal at its head. -/
theorem parseItems_literal_eq_some {c : Char} {items : List PatternItem} {s : Text}
    {fields : Fields} {result : Fields × Text}
    (h : parseItems (.literal c :: items) s fields = some result) :
    ∃ s', s = c :: s' ∧ parseItems items s' fields = some result := by
  unfold parseItems at h
  split at h
  next => cases h
  next e s' =>
    split at h
    next hec =>
      subst hec
      exact ⟨s', rfl, h⟩
    next => cases h

/-- An item whose field is read later again would be overwritten; otherwise the fields
that were read stay. -/
theorem parseItems_frame {items : List PatternItem} {s rest : Text} {fields fields' : Fields}
    (h : parseItems items s fields = some (fields', rest)) :
    (.yyyy ∉ items → fields'.yearOfEra = fields.yearOfEra) ∧
      (.MM ∉ items → fields'.monthOfYear = fields.monthOfYear) ∧
        (.dd ∉ items → fields'.dayOfMonth = fields.dayOfMonth) := by
  induction items generalizing s fields with
  | nil =>
      obtain ⟨rfl, rfl⟩ := Prod.mk.inj (Option.some.inj h)
      exact ⟨fun _ => rfl, fun _ => rfl, fun _ => rfl⟩
  | cons item items ih =>
      simp only [List.mem_cons, not_or]
      cases item with
      | yyyy =>
          rw [parseItems, Option.bind_eq_some_iff] at h
          obtain ⟨_, _, h⟩ := h
          exact ⟨fun hne => absurd rfl hne.1, fun hne => (ih h).2.1 hne.2,
            fun hne => (ih h).2.2 hne.2⟩
      | MM =>
          rw [parseItems, Option.bind_eq_some_iff] at h
          obtain ⟨_, _, h⟩ := h
          exact ⟨fun hne => (ih h).1 hne.2, fun hne => absurd rfl hne.1,
            fun hne => (ih h).2.2 hne.2⟩
      | dd =>
          rw [parseItems, Option.bind_eq_some_iff] at h
          obtain ⟨_, _, h⟩ := h
          exact ⟨fun hne => (ih h).1 hne.2, fun hne => (ih h).2.1 hne.2,
            fun hne => absurd rfl hne.1⟩
      | literal c =>
          obtain ⟨s', -, h⟩ := parseItems_literal_eq_some h
          exact ⟨fun hne => (ih h).1 hne.2, fun hne => (ih h).2.1 hne.2,
            fun hne => (ih h).2.2 hne.2⟩

/-- One more item in front. -/
theorem exists_pieces_cons {year month day : ℤ} {item : PatternItem} {items : List PatternItem}
    {piece s rest : Text} (hpiece : ItemText year month day item piece)
    (h : ∃ pieces, List.Forall₂ (ItemText year month day) items pieces ∧
      s = pieces.flatten ++ rest) :
    ∃ pieces, List.Forall₂ (ItemText year month day) (item :: items) pieces ∧
      piece ++ s = pieces.flatten ++ rest := by
  obtain ⟨pieces, hpieces, rfl⟩ := h
  refine ⟨piece :: pieces, List.Forall₂.cons hpiece hpieces, ?_⟩
  rw [List.flatten_cons, List.append_assoc]

/-- **What is parsed follows the pattern**, as far as no field is read twice. -/
theorem parseItems_eq_some {items : List PatternItem} {s rest : Text} {fields : Fields}
    {year month day : ℤ}
    (hcount : ∀ field ∈ [PatternItem.yyyy, .MM, .dd], items.count field ≤ 1)
    (h : parseItems items s fields = some (⟨some year, some month, some day⟩, rest)) :
    ∃ pieces, List.Forall₂ (ItemText year month day) items pieces ∧
      s = pieces.flatten ++ rest := by
  induction items generalizing s fields with
  | nil =>
      obtain ⟨-, rfl⟩ := Prod.mk.inj (Option.some.inj h)
      exact ⟨[], List.Forall₂.nil, rfl⟩
  | cons item items ih =>
      have hcount' : ∀ field ∈ [PatternItem.yyyy, .MM, .dd], items.count field ≤ 1 :=
        fun field hfield => (List.count_le_count_cons).trans (hcount field hfield)
      have hnotMem : ∀ field ∈ [PatternItem.yyyy, .MM, .dd], item = field → field ∉ items := by
        rintro field hfield rfl
        have hle := hcount item hfield
        rw [List.count_cons_self] at hle
        exact List.count_eq_zero.mp (by omega)
      cases item with
      | yyyy =>
          rw [parseItems, Option.bind_eq_some_iff] at h
          obtain ⟨⟨n, s'⟩, hyear, h⟩ := h
          obtain ⟨piece, hpiece, rfl⟩ := parseYear_eq_some hyear
          have hn := (parseItems_frame h).1 (hnotMem .yyyy (by simp) rfl)
          obtain rfl : year = n := Option.some.inj hn
          exact exists_pieces_cons hpiece (ih hcount' h)
      | MM =>
          rw [parseItems, Option.bind_eq_some_iff] at h
          obtain ⟨⟨n, s'⟩, hmonth, h⟩ := h
          obtain ⟨piece, hpiece, rfl⟩ := parseTwo_eq_some hmonth
          have hn := (parseItems_frame h).2.1 (hnotMem .MM (by simp) rfl)
          obtain rfl : month = n := Option.some.inj hn
          exact exists_pieces_cons hpiece (ih hcount' h)
      | dd =>
          rw [parseItems, Option.bind_eq_some_iff] at h
          obtain ⟨⟨n, s'⟩, hday, h⟩ := h
          obtain ⟨piece, hpiece, rfl⟩ := parseTwo_eq_some hday
          have hn := (parseItems_frame h).2.2 (hnotMem .dd (by simp) rfl)
          obtain rfl : day = n := Option.some.inj hn
          exact exists_pieces_cons hpiece (ih hcount' h)
      | literal c =>
          obtain ⟨s', rfl, hitems⟩ := parseItems_literal_eq_some h
          have hpiece : ItemText year month day (.literal c) [c] := rfl
          exact exists_pieces_cons hpiece (ih hcount' hitems)

/-- **The texts of a date** that are parsed: the day may exceed the end of its month, and
is the last one then. -/
theorem parse_eq_some {pattern : List PatternItem} (hpattern : DatePattern pattern) {s : Text}
    {d : LocalDate} (h : parse pattern s = some d) :
    1 ≤ d.year ∧ d.year ≤ 999999999 ∧
      ∃ day, 1 ≤ day ∧ day ≤ 31 ∧ d.day = min day (daysInMonth d.year d.month) ∧
        DateText pattern d.year d.month day s := by
  rw [parse] at h
  split at h
  next year month day hitems =>
    obtain ⟨pieces, hpieces, hs⟩ :=
      parseItems_eq_some (fun field hfield => (hpattern.count_field field hfield).le) hitems
    rw [resolveSmart] at h
    split at h
    next hrange =>
      obtain rfl := Option.some.inj h
      refine ⟨hrange.1, hrange.2.1, day, hrange.2.2.2.2.1, hrange.2.2.2.2.2, rfl, pieces,
        hpieces, ?_⟩
      rw [hs, List.append_nil]
    next => cases h
  next => cases h

/-! ### Instants -/

/-- The UTC date of an instant, given in milliseconds since 1970. -/
def utcDate (epochMilli : ℤ) : LocalDate :=
  LocalDate.ofEpochDay (epochMilli / 86400000)

/-- The first instant of a UTC date. -/
def atStartOfDay (d : LocalDate) : ℤ :=
  d.toEpochDay * 86400000

/-- An instant lies in the day that starts with its date. -/
theorem atStartOfDay_utcDate (epochMilli : ℤ) :
    atStartOfDay (utcDate epochMilli) = epochMilli - epochMilli % 86400000 := by
  rw [atStartOfDay, utcDate, LocalDate.toEpochDay_ofEpochDay]
  omega

end JavaTime
