import Mathlib.Data.Int.Order.Basic

/-!
# The Premium Preferences

`PremiumStateDataStore` keeps the premium state of the app in two preference keys: the
permanent flag `IS_PREMIUM` and the end of a time-limited grant,
`PREMIUM_EXPIRY_EPOCH`, in epoch milliseconds. The app reads them only through the
derived value `isPremium`.

Clock readings are integers. `grantPremiumForDays` takes a 32-bit day count, so its
product stays below `2 ^ 58` and no clock reading before the year 280 000 000 overflows
the sum.

## Conventions

An absent key is `none`, and the functions that read it have the default of the source.
`isPremium` is the value of the flow at the moment it is read: a flow does not emit again when the
clock passes the expiry, which a reader that keeps an old value does not see. A grant counts from
the clock and overwrites an expiry that is still to come.

## Relation to other modules

The modules `BillingRepository`, `AIRepository` and `AchievementReward` are about readers and
writers of these keys, each with the interleaving it needs; what is here are the functions, and
the lemmas that decide `isPremium` from the flag and the expiry.

## Main definitions

* `Preferences`: the two keys.
* `PremiumStateDataStore.isPremium`: the derived value.
* `PremiumStateDataStore.setPremium`, `PremiumStateDataStore.grantPremiumForDays`: the writes.
-/

namespace SpendCraft

/-- The content of the `premium_state` DataStore. An absent key is `none`. -/
structure Preferences where
  isPremium : Option Bool
  premiumExpiryEpoch : Option ℤ
  deriving DecidableEq, Repr

namespace Preferences

/-- The content of a fresh installation. -/
def empty : Preferences := ⟨none, none⟩

/-- `preferences[IS_PREMIUM] ?: false`. -/
def isFlagPremium (preferences : Preferences) : Bool :=
  preferences.isPremium.getD false

/-- `preferences[PREMIUM_EXPIRY_EPOCH] ?: 0L`. -/
def expiry (preferences : Preferences) : ℤ :=
  preferences.premiumExpiryEpoch.getD 0

end Preferences

namespace PremiumStateDataStore

/-- The value of the `isPremium` flow when it is read at time `now`. -/
def isPremium (preferences : Preferences) (now : ℤ) : Bool :=
  preferences.isFlagPremium || decide (preferences.expiry > now)

/-- `setPremium`: the flag is stored, the expiry stays. -/
def setPremium (enabled : Bool) (preferences : Preferences) : Preferences :=
  { preferences with isPremium := some enabled }

/-- `grantPremiumForDays`: the expiry is counted from now, whatever it was. -/
def grantPremiumForDays (days : ℤ) (now : ℤ) (preferences : Preferences) : Preferences :=
  let millis := days * 24 * 60 * 60 * 1000
  let expiry := now + millis
  { preferences with premiumExpiryEpoch := some expiry }

/-- The flag after `setPremium`. -/
@[simp] theorem isFlagPremium_setPremium (b : Bool) (p : Preferences) :
    (setPremium b p).isFlagPremium = b := rfl

/-- The expiry after a grant. -/
@[simp] theorem expiry_grantPremiumForDays (d now : ℤ) (p : Preferences) :
    (grantPremiumForDays d now p).expiry = now + d * 86400000 := by
  simp only [grantPremiumForDays, Preferences.expiry, Option.getD_some]
  omega

/-- The flag alone decides once no time-limited grant is running. -/
theorem isPremium_eq_flag {p : Preferences} {now : ℤ} (h : p.expiry ≤ now) :
    isPremium p now = p.isFlagPremium := by
  simp [isPremium, not_lt.mpr h]

/-- The flag alone gives premium. -/
theorem isPremium_of_flag {p : Preferences} (now : ℤ) (h : p.isFlagPremium = true) :
    isPremium p now = true := by
  simp [isPremium, h]

/-- An expiry that is still to come gives premium. -/
theorem isPremium_of_lt_expiry {p : Preferences} {now : ℤ} (h : now < p.expiry) :
    isPremium p now = true := by
  simp [isPremium, h]

end PremiumStateDataStore

end SpendCraft
