import Mathlib.Data.List.Basic

/-!
# Reading CSV Texts

A reader of comma separated values after RFC 4180: fields are separated by commas and
records by line breaks, a field may be enclosed in quotes, and inside quotes two quotes
stand for one and everything else for itself. A line break is a line feed, with or without
a carriage return before it. Quotes anywhere else are an error.

Outside quotes the format has no other carriage return. Readers differ in what they make of
one: `LoneReturn`.

## Conventions

The reader is a recursion on the text with three accumulators: the place where it stands, the
characters of the field, and the fields of the record. It returns the records of the whole text,
or `none` for a text that is not well formed, since what the program makes of a broken line is not
a question of the format. A text that ends without a line break ends its last record all the same,
and an empty text has no records. `LoneReturn` is a parameter, because the format has nothing to
say about a carriage return outside quotes that no line feed follows.

## Proof

The characters of an unquoted field are read one by one, and a field in quotes is its characters
with each quote doubled (`parse_quoted_flatMap`). Both are inductions on the field with the rest of
the text left open, so that a record is read field by field and a text record by record.

## Main results

* `parse_append_of_isData`, `parse_enclosed`: how the two kinds of fields are read.
* `Encodes.parse_comma`, `Encodes.parse_end`: a record, field by field.
* `head?_of_parse_loneReturn`: a carriage return outside quotes is never read as one.
-/

namespace Rfc4180

/-- What becomes of a carriage return outside quotes that no line feed follows. -/
inductive LoneReturn
  | endsRecord
  | refused
  | kept
  deriving DecidableEq, Repr

/-- Where the reader stands: in a field without quotes (or before any field), between
quotes, or after the closing quote of a field. -/
inductive Place
  | unquoted
  | quoted
  | closed
  deriving DecidableEq, Repr

/-- The records of a text, given the characters of the field and the fields of the record
that are already read. -/
def parse (lone : LoneReturn) :
    Place → List Char → List (List Char) → List Char → Option (List (List (List Char)))
  | .quoted, _, _, [] => none
  -- a line break before the end of the text begins no record
  | .unquoted, [], [], [] => some []
  | _, field, record, [] => some [record ++ [field]]
  | .quoted, field, record, c :: rest =>
      if c = '"' then parse lone .closed field record rest
      else parse lone .quoted (field ++ [c]) record rest
  | place, field, record, c :: rest =>
      if c = ',' then parse lone .unquoted [] (record ++ [field]) rest
      else if c = '\n' then (parse lone .unquoted [] [] rest).map ((record ++ [field]) :: ·)
      else if c = '\r' ∧ rest.head? = some '\n' then parse lone place field record rest
      else if c = '\r' ∧ lone = .endsRecord then
        (parse lone .unquoted [] [] rest).map ((record ++ [field]) :: ·)
      else if c = '\r' ∧ lone = .refused then none
      else if c = '"' then
        if place = .closed then parse lone .quoted (field ++ ['"']) record rest
        else if field = [] then parse lone .quoted [] record rest
        else none
      else if place = .closed then none
      else parse lone .unquoted (field ++ [c]) record rest

/-- The records of a text, if it is well formed. -/
def read (lone : LoneReturn) (text : List Char) : Option (List (List (List Char))) :=
  parse lone .unquoted [] [] text

variable {lone : LoneReturn} {c : Char} {field written rest : List Char}
  {record : List (List Char)}

/-! ### Characters -/

/-- A field is over. -/
theorem parse_comma {place : Place} (hplace : place ≠ .quoted) :
    parse lone place field record (',' :: rest) =
      parse lone .unquoted [] (record ++ [field]) rest := by
  cases place <;> simp_all [parse]

/-- A record is over. -/
theorem parse_lineFeed {place : Place} (hplace : place ≠ .quoted) :
    parse lone place field record ('\n' :: rest) =
      (parse lone .unquoted [] [] rest).map ((record ++ [field]) :: ·) := by
  cases place <;> simp_all [parse]

/-- The text is over, unless after a line break. -/
theorem parse_nil {place : Place} (hplace : place ≠ .quoted)
    (h : record ++ [field] ≠ [[]]) :
    parse lone place field record [] = some [record ++ [field]] := by
  cases place with
  | quoted => exact absurd rfl hplace
  | closed => simp [parse]
  | unquoted =>
      cases record with
      | cons first record => simp [parse]
      | nil =>
          cases field with
          | nil => exact absurd rfl h
          | cons c field => simp [parse]

/-- A character that stands for itself outside quotes. -/
def IsData (lone : LoneReturn) (c : Char) : Prop :=
  c ≠ ',' ∧ c ≠ '"' ∧ c ≠ '\n' ∧ (c = '\r' → lone = .kept)

/-- A character of the data makes an unquoted field longer. -/
theorem parse_data (hc : IsData lone c) (hrest : c = '\r' → rest.head? ≠ some '\n') :
    parse lone .unquoted field record (c :: rest) =
      parse lone .unquoted (field ++ [c]) record rest := by
  obtain ⟨hcomma, hquote, hline, hreturn⟩ := hc
  by_cases hcr : c = '\r'
  · have hkept := hreturn hcr
    simp [parse, hcomma, hquote, hline, hkept, hrest hcr]
  · simp [parse, hcomma, hquote, hline, hcr]

/-- **Characters outside quotes** go to the field. -/
theorem parse_append_of_isData {start : List Char} (h : ∀ c ∈ field, IsData lone c)
    (hrest : field.getLast? = some '\r' → rest.head? ≠ some '\n') :
    parse lone .unquoted start record (field ++ rest) =
      parse lone .unquoted (start ++ field) record rest := by
  induction field generalizing start with
  | nil => simp
  | cons c field ih =>
      have htail : field.getLast? = some '\r' → rest.head? ≠ some '\n' := by
        intro hlast
        apply hrest
        rw [List.getLast?_cons, hlast, Option.getD_some]
      have hnext : c = '\r' → (field ++ rest).head? ≠ some '\n' := by
        intro hc
        cases field with
        | nil => exact hrest (by rw [hc]; rfl)
        | cons d field =>
            have hline := (h d (by simp)).2.2.1
            simpa using hline
      rw [List.cons_append, parse_data (h c List.mem_cons_self) hnext,
        ih (fun d hd => h d (List.mem_cons_of_mem c hd)) htail, List.append_assoc,
        List.singleton_append]

/-! ### Enclosed fields -/

/-- A field between quotes. -/
def enclosed (field : List Char) : List Char :=
  '"' :: ((field.flatMap fun c => if c = '"' then ['"', '"'] else [c]) ++ ['"'])

/-- A field with its quotes doubled is read back inside quotes. -/
theorem parse_quoted_flatMap (start : List Char) :
    parse lone .quoted start record
        ((field.flatMap fun c => if c = '"' then ['"', '"'] else [c]) ++ rest) =
      parse lone .quoted (start ++ field) record rest := by
  induction field generalizing start with
  | nil => simp
  | cons c field ih =>
      rw [List.flatMap_cons, List.append_assoc]
      have hchar : ∀ rest, parse lone .quoted start record
          ((if c = '"' then ['"', '"'] else [c]) ++ rest) =
            parse lone .quoted (start ++ [c]) record rest := by
        intro rest
        by_cases hc : c = '"'
        · simp [parse, hc]
        · simp [parse, hc]
      rw [hchar, ih, List.append_assoc, List.singleton_append]

/-- **An enclosed field** is read as the field, whatever it contains. -/
theorem parse_enclosed :
    parse lone .unquoted [] record (enclosed field ++ rest) =
      parse lone .closed field record rest := by
  have hopen : ∀ rest, parse lone .unquoted [] record ('"' :: rest) =
      parse lone .quoted [] record rest := by
    intro rest
    simp [parse]
  rw [enclosed, List.cons_append, hopen, List.append_assoc, parse_quoted_flatMap]
  simp [parse]

/-! ### Records -/

/-- The two ways to write a field. -/
inductive Encodes (lone : LoneReturn) : List Char → List Char → Prop
  | data {field : List Char} (h : ∀ c ∈ field, IsData lone c) : Encodes lone field field
  | enclosed (field : List Char) : Encodes lone (enclosed field) field

/-- A field is read as what it encodes, up to the character after it. -/
theorem Encodes.exists_parse (h : Encodes lone written field)
    (hrest : written.getLast? = some '\r' → rest.head? ≠ some '\n') :
    ∃ place, place ≠ .quoted ∧ parse lone .unquoted [] record (written ++ rest) =
      parse lone place field record rest := by
  cases h with
  | data h => exact ⟨.unquoted, by simp, parse_append_of_isData h hrest⟩
  | enclosed => exact ⟨.closed, by simp, parse_enclosed⟩

/-- An encoded field is read back, up to the comma behind it. -/
theorem Encodes.parse_comma (h : Encodes lone written field) :
    parse lone .unquoted [] record (written ++ ',' :: rest) =
      parse lone .unquoted [] (record ++ [field]) rest := by
  obtain ⟨place, hplace, hread⟩ : ∃ place, place ≠ .quoted ∧
      parse lone .unquoted [] record (written ++ ',' :: rest) =
        parse lone place field record (',' :: rest) :=
    h.exists_parse (by simp)
  rw [hread, Rfc4180.parse_comma hplace]

/-- The last field of a record, before a line feed or at the end of the text. -/
theorem Encodes.parse_end (h : Encodes lone written field)
    (hlast : written.getLast? ≠ some '\r') (hrest : rest = [] ∨ rest.head? = some '\n')
    (hne : record ++ [field] ≠ [[]]) :
    parse lone .unquoted [] record (written ++ rest) =
      (parse lone .unquoted [] [] rest.tail).map ((record ++ [field]) :: ·) := by
  obtain ⟨place, hplace, hread⟩ : ∃ place, place ≠ .quoted ∧
      parse lone .unquoted [] record (written ++ rest) = parse lone place field record rest :=
    h.exists_parse (fun hreturn => absurd hreturn hlast)
  rw [hread]
  cases rest with
  | nil =>
      rw [parse_nil hplace hne]
      simp [parse]
  | cons c rest =>
      have hc : c = '\n' := by simpa using hrest
      rw [hc, parse_lineFeed hplace, List.tail_cons]

/-- **A carriage return outside quotes** is not read: the reader stops, or the record ends
before it. -/
theorem head?_of_parse_loneReturn {records : List (List (List Char))} (hlone : lone ≠ .kept)
    (hrest : rest.head? ≠ some '\n')
    (h : parse lone .unquoted field record ('\r' :: rest) = some records) :
    records.head? = some (record ++ [field]) := by
  cases lone with
  | kept => exact absurd rfl hlone
  | refused => simp [parse, hrest] at h
  | endsRecord =>
      simp only [parse, hrest] at h
      obtain ⟨following, -, hrecords⟩ := Option.map_eq_some_iff.mp (by simpa using h)
      rw [← hrecords, List.head?_cons]

end Rfc4180
