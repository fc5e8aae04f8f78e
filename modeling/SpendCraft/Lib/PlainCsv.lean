import SpendCraft.Lib.Rfc4180
import Mathlib.Algebra.GroupWithZero.Nat
import Mathlib.Data.List.Induction
import Mathlib.Tactic.SplitIfs

/-!
# CSV Texts without Quotes

Many writers of comma separated values write every field as it is, with a comma after each but
the last of a record and a line feed after that. Their texts have as many characters as their
records have, with one more for each field. A reader makes no more of a text than there is in it,
and less where it takes a quote or a carriage return for more than itself: so the text reads back
just when none of its fields needs quotes.

## Conventions

The writer is `plainText`: commas between the fields of a record and a line feed after each
record, with no quotes anywhere, whatever is in the fields. The reader is that of the format, for
any way to treat a carriage return by itself. `Plain` says of a record that the reader takes every
character of it for itself: no quotes, no commas, no line breaks, and no carriage return where the
line feed follows.

## Proof

The proof is by weight and not by cases. A record weighs its characters and one for each of its
fields, and the text of plain records is as long as they weigh (`length_plainText`). The reader
never makes records that weigh more than the text is long, and makes less of it as soon as it takes
quotes off or a line break together (`weight_of_parse`, by induction on the text). So if a text
reads back, nothing was lost, and every field was plain. The places of the reader between quotes
and after them have a loss of their own, which the induction carries.

## Main results

* `weight_of_parse`: how much a reader makes of a text.
* `read_plainText_iff`: the texts that read back.
-/

namespace Rfc4180

variable {lone : LoneReturn} {place : Place} {field text : List Char} {record : List (List Char)}
  {records : List (List (List Char))}

/-- The characters of the fields, and one for the end of each. -/
def recordWeight (record : List (List Char)) : ℕ :=
  (record.map fun field => field.length + 1).sum

/-- The characters that plain records take in a text, each with a separator or a line break behind
it. -/
def weight (records : List (List (List Char))) : ℕ :=
  (records.map recordWeight).sum

/-- The text without quotes. -/
def plainText (records : List (List (List Char))) : List Char :=
  records.flatMap fun record => [','].intercalate record ++ ['\n']

/-- Nothing in the record needs quotes: all characters stand for themselves, and the line feed
after it is not taken together with what is before. -/
structure Plain (lone : LoneReturn) (record : List (List Char)) : Prop where
  data : ∀ field ∈ record, ∀ c ∈ field, IsData lone c
  last : ∀ field ∈ record.getLast?, field.getLast? ≠ some '\r'

/-- An empty record takes none. -/
@[simp] theorem recordWeight_nil : recordWeight [] = 0 := rfl

/-- A field takes its characters and the separator after it. -/
theorem recordWeight_append_singleton (record : List (List Char)) (field : List Char) :
    recordWeight (record ++ [field]) = recordWeight record + field.length + 1 := by
  simp [recordWeight, Nat.add_assoc]

/-- Records add up. -/
@[simp] theorem weight_cons (record : List (List Char)) (records : List (List (List Char))) :
    weight (record :: records) = recordWeight record + weight records := by
  simp [weight]

/-- The text of a record takes its weight, less the line break behind it. -/
theorem length_intercalate_comma (record : List (List Char)) (h : record ≠ []) :
    ([','].intercalate record).length + 1 = recordWeight record := by
  induction record with
  | nil => exact absurd rfl h
  | cons field record ih =>
      cases record with
      | nil => simp [recordWeight, List.intercalate]
      | cons next record =>
          have hrest := ih (by simp)
          simp only [recordWeight, List.map_cons, List.sum_cons, List.intercalate,
            List.intersperse] at hrest ⊢
          simp only [List.flatten_cons, List.length_append, List.length_singleton] at hrest ⊢
          omega

/-- The text of plain records takes their weight. -/
theorem length_plainText (h : ∀ record ∈ records, record ≠ []) :
    (plainText records).length = weight records := by
  induction records with
  | nil => rfl
  | cons record records ih =>
      have hrecord := length_intercalate_comma record (h record List.mem_cons_self)
      have hrest := ih fun r hr => h r (List.mem_cons_of_mem record hr)
      simp only [plainText] at hrest
      simp only [plainText, List.flatMap_cons, List.length_append, List.length_singleton,
        weight_cons, hrest]
      omega

/-! ### What a reader makes of a text -/

/-- A text that the reader is in the middle of: it ends with a line feed, or is over after one. -/
def Terminated (place : Place) (field : List Char) (record : List (List Char)) (text : List Char) :
    Prop :=
  text.getLast? = some '\n' ∨ text = [] ∧ place = .unquoted ∧ field = [] ∧ record = []

/-- A character that ends no line leaves the text terminated. -/
theorem Terminated.tail {c : Char} {place' : Place} {field' : List Char}
    {record' : List (List Char)} (h : Terminated place field record (c :: text))
    (hc : c ≠ '\n') : Terminated place' field' record' text := by
  obtain hlast | ⟨hnil, -⟩ := h
  · cases text with
    | nil => exact absurd (by simpa using hlast) hc
    | cons d text => exact Or.inl (by simpa [List.getLast?_cons_cons] using hlast)
  · simp at hnil

/-- Behind a character of a terminated text, a record can start. -/
theorem terminated_of_cons {c : Char} (h : Terminated place field record (c :: text)) :
    Terminated .unquoted [] [] text := by
  obtain hlast | ⟨hnil, -⟩ := h
  · cases text with
    | nil => exact Or.inr ⟨rfl, rfl, rfl, rfl⟩
    | cons d text => exact Or.inl (by simpa [List.getLast?_cons_cons] using hlast)
  · simp at hnil

/-- What is read so far needs no quotes. -/
structure PlainSoFar (lone : LoneReturn) (field : List Char) (record : List (List Char))
    (text : List Char) : Prop where
  data : ∀ f ∈ record ++ [field], ∀ c ∈ f, IsData lone c
  last : field.getLast? = some '\r' → text.head? ≠ some '\n'

/-- The loss of a place: the closing quote is still to come. -/
def Place.loss : Place → ℕ
  | .quoted => 1
  | _ => 0

namespace PlainSoFar

variable {c : Char}

/-- Nothing read so far is plain. -/
theorem empty (lone : LoneReturn) (text : List Char) : PlainSoFar lone [] [] text where
  data := by simp
  last := by simp

/-- A comma ends a plain field. -/
theorem comma (h : PlainSoFar lone field record (',' :: text)) :
    PlainSoFar lone [] (record ++ [field]) text where
  data f hf := by
    obtain hf | rfl := List.mem_append.mp hf |>.imp_right List.mem_singleton.mp
    · exact h.data f hf
    · simp
  last := by simp

/-- The record is over. -/
theorem plain (h : PlainSoFar lone field record text) (hlast : field.getLast? ≠ some '\r') :
    Plain lone (record ++ [field]) where
  data := h.data
  last := by simpa using hlast

/-- A character of the data makes a plain field longer. -/
theorem append (h : PlainSoFar lone field record (c :: text)) (hc : IsData lone c)
    (hreturn : c = '\r' → text.head? ≠ some '\n') :
    PlainSoFar lone (field ++ [c]) record text where
  data f hf d hd := by
    obtain hf | rfl := List.mem_append.mp hf |>.imp_right List.mem_singleton.mp
    · exact h.data f (List.mem_append_left _ hf) d hd
    · obtain hd | rfl := List.mem_append.mp hd |>.imp_right List.mem_singleton.mp
      · exact h.data field (by simp) d hd
      · exact hc
  last := by simpa using hreturn

end PlainSoFar

/-- A reader makes no more of a text than there is. Where it makes as much of it, none of the
records needs quotes. -/
theorem weight_of_parse (hend : Terminated place field record text)
    (h : parse lone place field record text = some records) :
    weight records + place.loss ≤ recordWeight record + field.length + text.length ∧
      (place = .unquoted → PlainSoFar lone field record text →
        recordWeight record + field.length + text.length ≤ weight records →
        ∀ r ∈ records, Plain lone r) := by
  induction text generalizing place field record records with
  | nil =>
      obtain hlast | ⟨-, rfl, rfl, rfl⟩ := hend
      · simp at hlast
      · obtain rfl : [] = records := by simpa [parse] using h
        simp [weight, Place.loss]
  | cons c text ih =>
      by_cases hquoted : place = .quoted
      · subst hquoted
        refine ⟨?_, by simp⟩
        rw [parse] at h
        split_ifs at h with hc
        · have hrest := (ih (hend.tail (by rw [hc]; decide)) h).1
          simp only [Place.loss, List.length_cons] at hrest ⊢
          omega
        · have hlast : Terminated .quoted (field ++ [c]) record text := by
            cases text with
            | nil => simp [parse] at h
            | cons d text =>
                obtain hlast | ⟨hnil, -⟩ := hend
                · exact Or.inl (by simpa [List.getLast?_cons_cons] using hlast)
                · simp at hnil
          have hrest := (ih hlast h).1
          simp only [Place.loss, List.length_cons, List.length_append, List.length_nil] at hrest ⊢
          omega
      · have hloss : place.loss = 0 := by cases place <;> simp_all [Place.loss]
        rw [parse] at h
        on_goal 2 => exact hquoted
        simp only [List.length_cons]
        split_ifs at h with hcomma hline hbreak hends hrefused hquote hclosed hfield hclosed
        · -- a comma ends the field
          subst hcomma
          obtain ⟨hle, hplain⟩ := ih (hend.tail (by decide)) h
          simp only [recordWeight_append_singleton, List.length_nil] at hle hplain
          refine ⟨by simp only [Place.loss] at hle; omega, ?_⟩
          rintro - hsofar hge
          exact hplain trivial hsofar.comma (by omega)
        · -- a line feed ends the record
          subst hline
          obtain ⟨rest, hrest, rfl⟩ := Option.map_eq_some_iff.mp h
          obtain ⟨hle, hplain⟩ := ih (terminated_of_cons hend) hrest
          simp only [recordWeight_nil, List.length_nil] at hle hplain
          rw [weight_cons, recordWeight_append_singleton]
          refine ⟨by simp only [Place.loss] at hle; omega, ?_⟩
          rintro - hsofar hge r hr
          obtain rfl | hr := List.mem_cons.mp hr
          · exact hsofar.plain fun hlast => hsofar.last hlast rfl
          · exact hplain trivial (.empty lone text) (by omega) r hr
        · -- a carriage return is taken together with the line feed after it
          obtain ⟨rfl, -⟩ := hbreak
          obtain ⟨hle, -⟩ := ih (hend.tail (by decide)) h
          exact ⟨by omega, fun _ _ hge => by omega⟩
        · -- a carriage return ends the record
          obtain ⟨rfl, rfl⟩ := hends
          obtain ⟨rest, hrest, rfl⟩ := Option.map_eq_some_iff.mp h
          obtain ⟨hle, hplain⟩ := ih (terminated_of_cons hend) hrest
          simp only [recordWeight_nil, List.length_nil] at hle hplain
          rw [weight_cons, recordWeight_append_singleton]
          refine ⟨by simp only [Place.loss] at hle; omega, ?_⟩
          rintro - hsofar hge r hr
          obtain rfl | hr := List.mem_cons.mp hr
          · refine hsofar.plain fun hlast => ?_
            have hdata := hsofar.data field (by simp) '\r' (List.mem_of_getLast? hlast)
            exact absurd (hdata.2.2.2 rfl) (by decide)
          · exact hplain trivial (.empty _ text) (by omega) r hr
        · -- a quote after a closing one
          obtain ⟨hle, -⟩ := ih (hend.tail (by rw [hquote]; decide)) h
          simp only [Place.loss, List.length_append, List.length_singleton] at hle
          exact ⟨by omega, fun _ _ hge => by omega⟩
        · -- an opening quote
          subst hfield
          obtain ⟨hle, -⟩ := ih (hend.tail (by rw [hquote]; decide)) h
          simp only [Place.loss, List.length_nil] at hle ⊢
          exact ⟨by omega, fun _ _ hge => by omega⟩
        · -- a character stands for itself
          have hreturn : c = '\r' → text.head? ≠ some '\n' := fun hc hnext => hbreak ⟨hc, hnext⟩
          have hkept : c = '\r' → lone = .kept := by
            intro hc
            cases lone <;> simp_all
          obtain ⟨hle, hplain⟩ := ih (hend.tail hline) h
          simp only [List.length_append, List.length_singleton] at hle hplain
          refine ⟨by simp only [Place.loss] at hle; omega, ?_⟩
          rintro - hsofar hge
          exact hplain trivial (hsofar.append ⟨hcomma, hquote, hline, hkept⟩ hreturn) (by omega)

/-! ### Texts that read back -/

/-- A plain record is read back, and the rest of the text after it. -/
theorem parse_intercalate (hplain : Plain lone record) (hne : record ≠ [])
    (start : List (List Char)) (rest : List Char) :
    parse lone .unquoted [] start ([','].intercalate record ++ '\n' :: rest) =
      (parse lone .unquoted [] [] rest).map ((start ++ record) :: ·) := by
  induction record generalizing start with
  | nil => exact absurd rfl hne
  | cons field record ih =>
      cases record with
      | nil =>
          have hlast : field.getLast? ≠ some '\r' := hplain.last field rfl
          have hdata := hplain.data field List.mem_cons_self
          simp only [List.intercalate, List.intersperse, List.flatten_cons, List.flatten_nil,
            List.append_nil]
          rw [parse_append_of_isData hdata (fun h => absurd h hlast), List.nil_append,
            parse_lineFeed (by decide)]
      | cons next record =>
          have hdata := hplain.data field List.mem_cons_self
          have hrest := ih ⟨fun f hf => hplain.data f (List.mem_cons_of_mem field hf),
            by simpa [List.getLast?_cons_cons] using hplain.last⟩ (by simp) (start ++ [field])
          rw [show [','].intercalate (field :: next :: record) =
            field ++ ',' :: [','].intercalate (next :: record) by simp [List.intercalate],
            List.append_assoc, List.cons_append, (Encodes.data hdata).parse_comma, hrest,
            List.append_assoc, List.singleton_append]

/-- **Reading back.** A text that is written without quotes is read as the records it was written
from, just when none of them needs quotes. -/
theorem read_plainText_iff (hne : ∀ record ∈ records, record ≠ []) :
    read lone (plainText records) = some records ↔ ∀ record ∈ records, Plain lone record := by
  constructor
  · intro h
    have hend : Terminated .unquoted [] [] (plainText records) := by
      cases records using List.reverseRecOn with
      | nil => exact Or.inr ⟨rfl, rfl, rfl, rfl⟩
      | append_singleton records record => exact Or.inl (by simp [plainText])
    refine (weight_of_parse hend h).2 rfl (.empty lone _) ?_
    simp [length_plainText hne]
  · intro h
    induction records with
    | nil => simp [read, plainText, parse]
    | cons record records ih =>
        have hrest := ih (fun r hr => hne r (List.mem_cons_of_mem record hr))
          fun r hr => h r (List.mem_cons_of_mem record hr)
        rw [read] at hrest
        rw [read, plainText, List.flatMap_cons, List.append_assoc, List.singleton_append,
          parse_intercalate (h record List.mem_cons_self) (hne record List.mem_cons_self)]
        exact hrest ▸ rfl

end Rfc4180
