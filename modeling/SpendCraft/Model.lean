import SpendCraft.Lib.KotlinText
import Mathlib.Data.Int.Notation

/-!
# The Domain Model

The values that the use cases and the repositories exchange. Amounts are Kotlin `Long`s
in minor currency units and wrap around as such; row ids and timestamps are integers.

## Conventions

A structure has the fields of its data class, in its order. An id is optional, as it is in the
source, where a value that has not been stored has none. Texts are the texts of `Lib.KotlinText`,
without lone surrogates. Times are milliseconds since 1970, without an upper bound, except where a
conversion of the source bounds them.

The entities of the database are structures of their own (`Database`), and the mappers between the
two are in `Repositories`: several results turn on what a mapper leaves out, so the two are kept
apart.

## Main definitions

* `Transaction`, `Category`, `Account`, `Budget`: the values.
* `Money`, `TransactionType`: their parts.
-/

namespace SpendCraft

open Kotlin

/-- The two types of a transaction. -/
inductive TransactionType
  | income
  | expense
  deriving DecidableEq, Repr

/-- An amount of money in minor units. -/
structure Money where
  minorUnits : Int64
  deriving DecidableEq, Repr

/-- A transaction; `id` is `none` until it is stored. -/
structure Transaction where
  id : Option ℤ
  amount : Money
  timestampUtcMillis : ℤ
  note : Option Text
  categoryId : Option ℤ
  accountId : Option ℤ
  type : TransactionType
  deriving DecidableEq, Repr

/-- A category; `id` is `none` until it is stored. -/
structure Category where
  id : Option ℤ
  name : Text
  color : Text
  icon : Option Text
  isIncome : Bool
  deriving DecidableEq, Repr

/-- An account; `id` is `none` until it is stored. -/
structure Account where
  id : Option ℤ
  name : Text
  deriving DecidableEq, Repr

/-- A monthly limit; `categoryId` is the name of the category. -/
structure Budget where
  categoryId : Text
  monthlyLimitMinor : Int64
  deriving DecidableEq, Repr

end SpendCraft
