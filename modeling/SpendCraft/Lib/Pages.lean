import Mathlib.Data.List.Basic
import Mathlib.Algebra.Order.Monoid.Unbundled.Basic

/-!
# Rows on Pages

Rows of one height are drawn one below the other. Where the next row would start beyond the limit,
either a new page is begun (`layout`) or the row is left out (`fill`).

## Conventions

Offsets and heights are numbers from the top of a page downwards, and every row has the same
height, which is positive by a field of the structure. A row is placed where the last one ended if
that is not beyond the limit: the limit is for the start of a row, and the row may end below it.
`layout` never leaves a row out, and `fill` never begins a page.

## Proof

A page has room for a number of rows that is known from the offset alone (`room`, `lt_room_iff`),
so the row `i` is on a page and at an offset that are a quotient and a remainder of `i`: this is
`nth`, and `layout_eq` and `fill_eq` compare it with the loop. The induction is on the rows, from
the front, with the offset of the next row as its accumulator.

## Main results

* `Column.fill_eq`: what one page shows.
* `Paper.layout_eq`: the place of each row on pages.
-/

namespace Pages

variable {α : Type*}

/-- A place on a page, from the top. -/
structure Place where
  page : ℕ
  offset : ℕ
  deriving DecidableEq, Repr

/-- The limit for the start of a row, and the height of the rows. -/
structure Column where
  limit : ℕ
  rowHeight : ℕ
  rowHeight_pos : 0 < rowHeight

/-- A column that is continued on the next page, where it begins at `top`. -/
structure Paper extends Column where
  top : ℕ
  top_le : top ≤ limit

namespace Column

variable (column : Column)

/-- The rows of one page with their offsets, from an offset on. -/
def fill : ℕ → List α → List (α × ℕ)
  | _, [] => []
  | offset, row :: rows =>
      if column.limit < offset then fill offset rows
      else (row, offset) :: fill (offset + column.rowHeight) rows

/-- How many rows a page has room for, from an offset on. -/
def room (offset : ℕ) : ℕ :=
  if column.limit < offset then 0 else (column.limit - offset) / column.rowHeight + 1

/-- A row fits if it starts above the limit. -/
theorem lt_room_iff {offset i : ℕ} :
    i < column.room offset ↔ offset + column.rowHeight * i ≤ column.limit := by
  rw [room]
  split
  · next h => omega
  · next h =>
    rw [Nat.lt_succ_iff, Nat.le_div_iff_mul_le column.rowHeight_pos, Nat.mul_comm]
    omega

/-- Below the limit nothing is placed. -/
theorem fill_of_lt {offset : ℕ} (h : column.limit < offset) (rows : List α) :
    column.fill offset rows = [] := by
  induction rows with
  | nil => rfl
  | cons row rows ih => rw [fill, if_pos h, ih]

/-- The rows of a column from the `i`-th place on. -/
theorem fill_eq_of_add (offset i : ℕ) (rows : List α) :
    column.fill (offset + column.rowHeight * i) rows =
      ((rows.take (column.room offset - i)).zipIdx i).map fun entry =>
        (entry.1, offset + column.rowHeight * entry.2) := by
  induction rows generalizing i with
  | nil => rw [List.take_nil]; rfl
  | cons row rows ih =>
      by_cases hi : i < column.room offset
      · have hleft : column.room offset - i = (column.room offset - (i + 1)) + 1 := by omega
        rw [fill, if_neg (not_lt.mpr (column.lt_room_iff.mp hi)), hleft, List.take_succ_cons,
          List.zipIdx_cons, List.map_cons, Nat.add_assoc, ← Nat.mul_succ, ih]
      · have hbeyond : column.limit < offset + column.rowHeight * i :=
          not_le.mp fun hle => hi (column.lt_room_iff.mpr hle)
        rw [column.fill_of_lt hbeyond, Nat.sub_eq_zero_of_le (not_lt.mp hi), List.take_zero]
        rfl

/-- **What one page shows**: the first rows, as many as there is room for. -/
theorem fill_eq (offset : ℕ) (rows : List α) :
    column.fill offset rows = (rows.take (column.room offset)).zipIdx.map fun entry =>
      (entry.1, offset + column.rowHeight * entry.2) :=
  column.fill_eq_of_add offset 0 rows

end Column

namespace Paper

variable (paper : Paper) {place : Place}

/-- A new page where the place is beyond the limit. -/
def turn (place : Place) : Place :=
  if paper.limit < place.offset then { page := place.page + 1, offset := paper.top } else place

/-- The place below a row. -/
def below (place : Place) : Place :=
  { place with offset := place.offset + paper.rowHeight }

/-- The rows with their places, from a place on. -/
def layout : Place → List α → List (α × Place)
  | _, [] => []
  | place, row :: rows => (row, paper.turn place) :: layout (paper.below (paper.turn place)) rows

/-- The place of row `i` after a place from which there is room. -/
def nth (place : Place) (i : ℕ) : Place :=
  if i < paper.room place.offset then
    { page := place.page, offset := place.offset + paper.rowHeight * i }
  else
    { page := place.page + 1 + (i - paper.room place.offset) / paper.room paper.top
      offset := paper.top +
        paper.rowHeight * ((i - paper.room place.offset) % paper.room paper.top) }

/-- An empty page takes at least one row. -/
theorem room_top_pos : 0 < paper.room paper.top :=
  paper.lt_room_iff.mpr (by simpa using paper.top_le)

/-- The place after row `i` is that of row `i + 1`. -/
theorem turn_below_nth (place : Place) (i : ℕ) :
    paper.turn (paper.below (paper.nth place i)) = paper.nth place (i + 1) := by
  have hfits {offset j : ℕ} : j + 1 < paper.room offset ↔
      ¬ paper.limit < offset + paper.rowHeight * j + paper.rowHeight := by
    rw [paper.lt_room_iff, Nat.mul_succ, ← Nat.add_assoc, not_lt]
  have hroom := paper.room_top_pos
  by_cases hi : i < paper.room place.offset
  · rw [nth, if_pos hi]
    by_cases hnext : i + 1 < paper.room place.offset
    · rw [turn, below, if_neg (hfits.mp hnext), nth, if_pos hnext, Nat.mul_succ, Nat.add_assoc]
    · have hlast : i + 1 = paper.room place.offset := by omega
      rw [turn, below, if_pos (by_contra fun hlt => hnext (hfits.mpr hlt)), nth, if_neg hnext,
        hlast]
      simp only [Nat.sub_self, Nat.zero_div, Nat.zero_mod, Nat.mul_zero, Nat.add_zero]
  · obtain ⟨j, rfl⟩ := Nat.exists_eq_add_of_le (not_lt.mp hi)
    have hnext : ¬ paper.room place.offset + j + 1 < paper.room place.offset := by omega
    have hsub : paper.room place.offset + j + 1 - paper.room place.offset = j + 1 := by omega
    rw [nth, if_neg hi, nth, if_neg hnext, hsub, Nat.add_sub_cancel_left, turn, below]
    have hlt := Nat.mod_lt j hroom
    have hsplit := Nat.div_add_mod j (paper.room paper.top)
    by_cases hsame : j % paper.room paper.top + 1 < paper.room paper.top
    · obtain ⟨hdiv, hmod⟩ := (Nat.div_mod_unique hroom).mpr
        ⟨show j % paper.room paper.top + 1 + paper.room paper.top * (j / paper.room paper.top) =
          j + 1 by omega, hsame⟩
      rw [if_neg (hfits.mp hsame), hdiv, hmod, Nat.mul_succ, Nat.add_assoc paper.top]
    · obtain ⟨hdiv, hmod⟩ := (Nat.div_mod_unique hroom).mpr
        ⟨show 0 + paper.room paper.top * (j / paper.room paper.top + 1) = j + 1
          by rw [Nat.mul_succ]; omega, hroom⟩
      rw [if_pos (by_contra fun hlt => hsame (hfits.mpr hlt)), hdiv, hmod, Nat.mul_zero]
      simp only [Nat.add_zero, Nat.add_assoc]

/-- A turn of the page is a step of no rows. -/
theorem turn_eq_nth_zero (place : Place) : paper.turn place = paper.nth place 0 := by
  have hroom : 0 < paper.room place.offset ↔ ¬ paper.limit < place.offset := by
    rw [paper.lt_room_iff, Nat.mul_zero, Nat.add_zero, not_lt]
  rw [turn, nth]
  by_cases h : paper.limit < place.offset
  · have hnone : paper.room place.offset = 0 := if_pos h
    rw [if_pos h, if_neg (by omega), hnone]
    simp only [Nat.zero_sub, Nat.zero_div, Nat.zero_mod, Nat.mul_zero, Nat.add_zero]
  · rw [if_neg h, if_pos (hroom.mpr h), Nat.mul_zero, Nat.add_zero]

/-- The layout from a place on, in closed form. -/
theorem layout_eq_of_turn {start : Place} {i : ℕ} (hstart : paper.turn start = paper.nth place i)
    (rows : List α) : paper.layout start rows =
      (rows.zipIdx i).map fun entry => (entry.1, paper.nth place entry.2) := by
  induction rows generalizing start i with
  | nil => rfl
  | cons row rows ih =>
      rw [layout, hstart, ih (paper.turn_below_nth place i), List.zipIdx_cons, List.map_cons]

/-- **The place of each row**: as many rows as there is room for are on the first page, and all
others follow on pages that are full but for the last one. -/
theorem layout_eq (place : Place) (rows : List α) :
    paper.layout place rows = rows.zipIdx.map fun entry => (entry.1, paper.nth place entry.2) :=
  paper.layout_eq_of_turn (paper.turn_eq_nth_zero place) rows

end Paper

end Pages
