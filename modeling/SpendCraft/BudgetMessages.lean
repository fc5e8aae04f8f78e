import SpendCraft.BudgetBreaches

/-!
# Decoding Breach Messages

`checkBudgetBreaches` hands its breaches over as English sentences, and the two view
models take the category name, the percentage and the amounts out of the sentences again
with `contains`, `substringAfter` and `substringBefore`. The category name is chosen by
the user and stands in the sentence unescaped, so it may contain the delimiters of the
decoder.

## Conventions

The sentences are those of the source with the name, the percentage, and the amounts put in; a
text is a list of characters, and `contains`, `substringAfter`, `substringBefore` and
`toIntOrNull` are the functions of the standard library (`Lib.KotlinText`, `Lib.KotlinNumber`).
The names are arbitrary texts, empty ones and ones with line feeds included, and so are the
numbers in the sentences. Both view models decode in the same way, and differ in what they raise.

## Proof

A sentence is assembled from pieces, and each field is what the decoder finds between two
delimiters. The delimiters are first looked for in the fixed text and then in the name: an
occurrence cannot straddle the ends of the name, by the lemmas of `Lib.KotlinText`. For the whole
sentence the fields are put together, with the case that the name makes a warning look like an
exceeded budget. The condition `Decodable` is a conjunction of such facts about the name.

## Main results

* `percentageOf_text_warning`, `spentOf_text_warning`, `limitOf_text_warning`: when a field
  of a warning is read back.
* `decodes_iff_decodable`: when a whole sentence is.
* `decodes_of_breach`: names without the delimiters are safe.
-/

namespace SpendCraft

open Kotlin BudgetRepositoryImpl

/-- What the view models ask the notification manager for. -/
inductive BudgetNotification
  | budgetAlert (percentage : Text) (categoryName : Text)
  | budgetWarning (percentage : ℤ) (categoryName spentAmount limitAmount : Text)
  deriving DecidableEq, Repr

/-! ### The decoder -/

namespace BreachDecoder

/-- The name in a sentence about an exceeded budget: what stands between the opening and the first
`!` after it. -/
def exceededName (breach : Text) : Text :=
  substringBefore (substringAfter breach "Budget exceeded for ".toList) "!".toList

/-- The name in a warning, cut out the same way. -/
def warningName (breach : Text) : Text :=
  substringBefore (substringAfter breach "Budget warning for ".toList) "!".toList

/-- The percentage of a warning, 80 where the text between the brackets is no number. -/
def percentageOf (breach : Text) : ℤ :=
  (toIntOrNull (substringBefore (substringAfter breach "(".toList) "%)".toList)).getD 80

/-- The spent amount of a warning. -/
def spentOf (breach : Text) : Text :=
  substringBefore (substringAfter breach "Spent: ".toList) ",".toList

/-- The limit of a warning. -/
def limitOf (breach : Text) : Text :=
  substringBefore (substringAfter breach "Budget: ".toList) " (".toList

/-- The loop body over the breaches, the same in both view models. -/
def notificationFor (breach : Text) : Option BudgetNotification :=
  if contains breach "Budget exceeded".toList then
    some (.budgetAlert "100%".toList (exceededName breach))
  else if contains breach "Budget warning".toList then
    some (.budgetWarning (percentageOf breach) (warningName breach) (spentOf breach)
      (limitOf breach))
  else none

end BreachDecoder

open BreachDecoder

/-- `BudgetViewModel.checkBudgetBreaches`, given the returned list. -/
def BudgetViewModel.checkBudgetBreaches (breaches : List Text) : List BudgetNotification :=
  breaches.filterMap notificationFor

/-- An in-app notification, which `TransactionsViewModel` adds to each budget
notification. -/
structure NotificationEvent where
  title : Text
  message : Text
  deriving DecidableEq, Repr

namespace TransactionsViewModel

/-- The in-app notification for a budget notification, without the amounts. -/
def notificationEvent : BudgetNotification → NotificationEvent
  | .budgetAlert _ categoryName =>
      { title := "⚠️ Bütçe Uyarısı".toList
        message := categoryName ++ " bütçenizi 100% aştınız!".toList }
  | .budgetWarning percentage categoryName _ _ =>
      { title := "⚠️ Bütçe Uyarısı".toList
        message := categoryName ++ " bütçenizin %".toList ++ intText percentage ++
          "'ini kullandınız!".toList }

/-- `TransactionsViewModel.checkBudgetBreaches`, given the returned list. -/
def checkBudgetBreaches (breaches : List Text) : List (BudgetNotification × NotificationEvent) :=
  (breaches.filterMap notificationFor).map fun notification =>
    (notification, notificationEvent notification)

end TransactionsViewModel

namespace BreachMessage

/-- The notification that a breach is meant to produce. -/
def notification : BreachMessage → BudgetNotification
  | .exceeded categoryName _ _ => .budgetAlert "100%".toList categoryName
  | .warning categoryName spentAmount limit percentage =>
      .budgetWarning percentage.toInt categoryName (formatAmount spentAmount) (formatAmount limit)

/-- The sentence of a breach is read back as the breach by both view models. -/
def Decodes (m : BreachMessage) : Prop :=
  BudgetViewModel.checkBudgetBreaches [m.text] = [m.notification] ∧
    TransactionsViewModel.checkBudgetBreaches [m.text] =
      [(m.notification, TransactionsViewModel.notificationEvent m.notification)]

/-- Both view models run the same loop body, so one sentence decodes for both or for neither. -/
theorem decodes_iff_notificationFor (m : BreachMessage) :
    m.Decodes ↔ notificationFor m.text = some m.notification := by
  rw [Decodes, BudgetViewModel.checkBudgetBreaches, TransactionsViewModel.checkBudgetBreaches]
  cases h : notificationFor m.text with
  | none => simp [h]
  | some notification =>
      rw [List.filterMap_cons_some h]
      simp only [List.filterMap_nil, List.map_cons, List.map_nil, List.cons.injEq, and_true,
        Prod.mk.injEq, Option.some.injEq, and_iff_left_iff_imp]
      rintro rfl
      exact ⟨rfl, rfl⟩

end BreachMessage

/-! ### The pieces of a sentence -/

/-- Amounts consist of digits and of `-`, `.` and the currency sign. -/
theorem digitsAnd_formatAmount (a : Int64) : DigitsAnd "-.₺".toList (formatAmount a) := by
  simp only [formatAmount, digitsAnd_append_iff]
  refine ⟨⟨⟨digitsAnd_of_subset (by simp), digitsAnd_intText (by simp) _⟩,
    digitsAnd_of_subset (by simp)⟩, ?_⟩
  intro c hc
  rcases mem_padStart hc with hc | rfl
  · exact digitsAnd_intText (by simp) _ c hc
  · exact Or.inl rfl

/-- A sentence opening that hides no occurrence of a delimiter. -/
structure Skips (opening d : Text) : Prop where
  contains_eq : ∀ u, contains (opening ++ u) d = contains u d
  after_eq : ∀ u, contains u d = true → substringAfter (opening ++ u) d = substringAfter u d

/-- A delimiter is not found in an opening without its first letter. -/
theorem skips_of_head_not_mem {opening d : Text} {c : Char} (hd : d.head? = some c)
    (h : c ∉ opening) : Skips opening d where
  contains_eq u := contains_append_of_head_not_mem hd h u
  after_eq _ hu := substringAfter_append_of_head_not_mem hd h hu

/-- One more letter in front of an opening, unless the delimiter starts there. -/
theorem Skips.cons {opening d : Text} {c : Char} (h : Skips opening d)
    (hne : ∀ u, ¬ d <+: c :: (opening ++ u)) : Skips (c :: opening) d where
  contains_eq u := by
    rw [List.cons_append, contains_cons_of_not_prefix (hne u), h.contains_eq]
  after_eq u hu := by
    rw [List.cons_append, substringAfter_cons_of_not_prefix (hne u), h.after_eq u hu]
    rw [h.contains_eq, hu]

section Sentence

variable {opening name rest d d₁ d₂ x : Text}

/-- The first field delimiter of a sentence is the one in the name, if there is one. -/
theorem substringAfter_sentence (hskip : Skips opening d) (hd : d ≠ []) (hbang : '!' ∉ d)
    (hrest : contains rest d = true) :
    substringAfter (opening ++ (name ++ '!' :: rest)) d =
      if contains name d then substringAfter name d ++ '!' :: rest else substringAfter rest d := by
  have hcontains : contains (name ++ '!' :: rest) d = true := by
    rw [contains_append_cons hd hbang, hrest, Bool.or_true]
  rw [hskip.after_eq _ hcontains]
  split
  next hname => rw [substringAfter_append_cons_of_contains hd hbang hname]
  next hname =>
    rw [Bool.not_eq_true] at hname
    rw [substringAfter_append_cons_of_not_contains hd hbang hname hrest]

/-- **A field between two delimiters** is read back exactly when the name does not have
the first one, or has both with the field's very text between them. -/
theorem field_eq_iff (hskip : Skips opening d₁) (hd₁ : d₁ ≠ []) (hbang₁ : '!' ∉ d₁)
    (hd₂ : d₂ ≠ []) (hbang₂ : '!' ∉ d₂) (hx : '!' ∉ x) (hrest : contains rest d₁ = true)
    (hfield : substringBefore (substringAfter rest d₁) d₂ = x) :
    substringBefore (substringAfter (opening ++ (name ++ '!' :: rest)) d₁) d₂ = x ↔
      (contains name d₁ = true → contains (substringAfter name d₁) d₂ = true ∧
        substringBefore (substringAfter name d₁) d₂ = x) := by
  rw [substringAfter_sentence hskip hd₁ hbang₁ hrest]
  cases hname : contains name d₁ with
  | false =>
      rw [if_neg Bool.false_ne_true, hfield]
      exact iff_of_true rfl (fun h => absurd h Bool.false_ne_true)
  | true =>
      rw [if_pos rfl]
      cases hafter : contains (substringAfter name d₁) d₂ with
      | true =>
          rw [substringBefore_append_cons_of_contains hd₂ hbang₂ hafter]
          exact ⟨fun h _ => ⟨rfl, h⟩, fun h => (h rfl).2⟩
      | false =>
          rw [substringBefore_append_cons_of_not_contains hd₂ hbang₂ hafter]
          refine iff_of_false ?_ (fun h => absurd (h rfl).1 Bool.false_ne_true)
          rintro rfl
          exact hx (by simp)

end Sentence

/-! ### The two sentences -/

/-- What follows the exclamation mark. -/
def amounts (spentAmount limit : Int64) (closing : Text) : Text :=
  " ".toList ++ ("Spent: ".toList ++ (formatAmount spentAmount ++
    (",".toList ++ (" ".toList ++ ("Budget: ".toList ++ (formatAmount limit ++ closing))))))

/-- The end of a warning. -/
def percentSuffix (percentage : Int64) : Text :=
  " (".toList ++ (intText percentage.toInt ++ "%)".toList)

/-- The label of the spent amount, with the `!` that ends the name split off. -/
theorem spentLabel_eq : "! Spent: ".toList = '!' :: (" ".toList ++ "Spent: ".toList) := by
  decide

/-- The label of the limit, split where the decoder looks for it. -/
theorem limitLabel_eq : ", Budget: ".toList = ",".toList ++ (" ".toList ++ "Budget: ".toList) := by
  decide

/-- The bracket of the percentage, split where the decoder looks for it. -/
theorem parenLabel_eq : " (".toList = " ".toList ++ "(".toList := by
  decide

/-- The sentence about an exceeded budget, split after the name. -/
theorem text_exceeded (name : Text) (spent limit : Int64) :
    (BreachMessage.exceeded name spent limit).text =
      "Budget exceeded for ".toList ++ (name ++ '!' :: amounts spent limit []) := by
  dsimp only [BreachMessage.text, amounts]
  simp only [spentLabel_eq, limitLabel_eq, List.append_assoc, List.cons_append, List.append_nil]

/-- The warning, split after the name. -/
theorem text_warning (name : Text) (spent limit percentage : Int64) :
    (BreachMessage.warning name spent limit percentage).text =
      "Budget warning for ".toList ++
        (name ++ '!' :: amounts spent limit (percentSuffix percentage)) := by
  dsimp only [BreachMessage.text, amounts, percentSuffix]
  simp only [spentLabel_eq, limitLabel_eq, List.append_assoc, List.cons_append]

/-- The opening of a warning hides no label of the spent amount. -/
theorem skips_spent : Skips "Budget warning for ".toList "Spent: ".toList :=
  skips_of_head_not_mem (c := 'S') (by decide) (by decide)

/-- The opening of a warning hides no bracket. -/
theorem skips_paren : Skips "Budget warning for ".toList "(".toList :=
  skips_of_head_not_mem (c := '(') (by decide) (by decide)

/-- The opening of a warning has the first letter of `"Budget"` only at its head. -/
theorem skips_budget {d : Text} (h : ∀ u, ¬ d <+: " warning for ".toList ++ u) :
    Skips "Budget warning for ".toList ("Budget".toList ++ d) := by
  have hopening : "Budget warning for ".toList = 'B' :: "udget warning for ".toList := by decide
  have hd : "Budget".toList ++ d = 'B' :: ("udget".toList ++ d) := rfl
  rw [hopening, hd]
  refine Skips.cons (skips_of_head_not_mem (c := 'B') rfl (by decide)) ?_
  intro u hpre
  have hsplit : "udget warning for ".toList ++ u =
      "udget".toList ++ (" warning for ".toList ++ u) := rfl
  rw [hsplit, List.cons_prefix_cons, List.prefix_append_right_inj] at hpre
  exact h u hpre.2

/-- The opening of a warning hides no label of the limit. -/
theorem skips_limit : Skips "Budget warning for ".toList "Budget: ".toList :=
  skips_budget (d := ": ".toList) (by simp)

/-- A warning is not taken for an exceeded budget on account of its opening. -/
theorem skips_exceeded : Skips "Budget warning for ".toList "Budget exceeded".toList :=
  skips_budget (d := " exceeded".toList) (by simp)

section Amounts

variable (spent limit percentage : Int64) (closing : Text)

/-- The amounts have the label of the spent amount. -/
theorem contains_amounts_spent : contains (amounts spent limit closing) "Spent: ".toList = true :=
  contains_append_delimiter (c := 'S') (by decide) (by decide) _

/-- The spent amount is read back from the amounts. -/
theorem spentOf_amounts : spentOf (amounts spent limit closing) = formatAmount spent := by
  have hcomma : ',' ∉ formatAmount spent := (digitsAnd_formatAmount spent).not_mem (by decide)
  have hafter := substringAfter_append_delimiter (c := 'S') (d := "Spent: ".toList)
    (u := " ".toList) (by decide) (by decide) (formatAmount spent ++
      (",".toList ++ (" ".toList ++ ("Budget: ".toList ++ (formatAmount limit ++ closing)))))
  rw [spentOf, amounts, hafter]
  exact substringBefore_append_delimiter (by decide) hcomma _

/-- What is in front of the second label. -/
def spentPart : Text :=
  " ".toList ++ ("Spent: ".toList ++ (formatAmount spent ++ (",".toList ++ " ".toList)))

/-- The amounts, split before the label of the limit. -/
theorem amounts_eq_append : amounts spent limit closing =
    spentPart spent ++ ("Budget: ".toList ++ (formatAmount limit ++ closing)) := by
  dsimp only [amounts, spentPart]
  simp only [List.append_assoc]

/-- The characters before the label of the limit. -/
theorem digitsAnd_spentPart : DigitsAnd " Spent:,-.₺".toList (spentPart spent) := by
  simp only [spentPart, digitsAnd_append_iff]
  refine ⟨digitsAnd_of_subset (by simp), digitsAnd_of_subset (by simp), ?_,
    digitsAnd_of_subset (by simp), digitsAnd_of_subset (by simp)⟩
  exact (digitsAnd_formatAmount spent).mono (by simp)

/-- The amounts have the label of the limit. -/
theorem contains_amounts_limit :
    contains (amounts spent limit closing) "Budget: ".toList = true := by
  rw [amounts_eq_append]
  exact contains_append_delimiter (c := 'B') (by decide)
    ((digitsAnd_spentPart spent).not_mem (by decide)) _

/-- The limit is read back from the amounts. -/
theorem limitOf_amounts :
    limitOf (amounts spent limit (percentSuffix percentage)) = formatAmount limit := by
  have hblank : ' ' ∉ formatAmount limit := (digitsAnd_formatAmount limit).not_mem (by decide)
  have hB : 'B' ∉ spentPart spent :=
    (digitsAnd_spentPart spent).not_mem (by decide)
  rw [limitOf, amounts_eq_append, substringAfter_append_delimiter (by decide) hB, percentSuffix]
  exact substringBefore_append_delimiter (by decide) hblank _

/-- The amounts are not taken for an exceeded budget. -/
theorem contains_amounts_exceeded :
    contains (amounts spent limit (percentSuffix percentage)) "Budget exceeded".toList = false := by
  apply contains_eq_false_of_not_mem (c := 'x') (by decide)
  rw [amounts_eq_append]
  simp only [percentSuffix, List.mem_append, not_or]
  exact ⟨(digitsAnd_spentPart spent).not_mem (by decide), by decide,
    (digitsAnd_formatAmount limit).not_mem (by decide), by decide,
    (@digitsAnd_intText ['-'] (by simp) _).not_mem (by decide), by decide⟩

/-- The parenthesis of a sentence opens behind the amounts. -/
theorem amounts_percentSuffix_eq :
    amounts spent limit (percentSuffix percentage) =
      amounts spent limit " ".toList ++
        ("(".toList ++ (intText percentage.toInt ++ "%)".toList)) := by
  dsimp only [amounts, percentSuffix]
  simp only [parenLabel_eq, List.append_assoc]

/-- The amounts have no bracket of their own. -/
theorem paren_not_mem_amounts : '(' ∉ amounts spent limit " ".toList := by
  rw [amounts_eq_append]
  simp only [List.mem_append, not_or]
  exact ⟨(digitsAnd_spentPart spent).not_mem (by decide), by decide,
    (digitsAnd_formatAmount limit).not_mem (by decide), by decide⟩

/-- With the percentage after them, they have one. -/
theorem contains_amounts_paren :
    contains (amounts spent limit (percentSuffix percentage)) "(".toList = true := by
  rw [amounts_percentSuffix_eq]
  exact contains_append_delimiter (by decide) (paren_not_mem_amounts spent limit) _

/-- The percentage is read back from the amounts. -/
theorem percentText_amounts :
    substringBefore (substringAfter (amounts spent limit (percentSuffix percentage)) "(".toList)
      "%)".toList = intText percentage.toInt := by
  have hpercent : '%' ∉ intText percentage.toInt :=
    (@digitsAnd_intText ['-'] (by simp) _).not_mem (by decide)
  have hbefore := substringBefore_append_delimiter (d := "%)".toList) (by decide) hpercent []
  rw [List.append_nil] at hbefore
  rw [amounts_percentSuffix_eq,
    substringAfter_append_delimiter (by decide) (paren_not_mem_amounts spent limit), hbefore]

end Amounts

/-! ### When a sentence is read back -/

/-- The percentage survives the parentheses of the name: either there are none and the
percentage is a 32-bit integer, or the decoder finds the percentage in the name, or falls
back to it. -/
def PercentageKept (name : Text) (percentage : ℤ) : Prop :=
  if contains name "(".toList = true then
    if contains (substringAfter name "(".toList) "%)".toList = true then
      percentageOf name = percentage
    else percentage = 80
  else -2 ^ 31 ≤ percentage ∧ percentage < 2 ^ 31

/-- The name has no label of the amount spent, or has it together with the amount and the
comma behind it. -/
def SpentKept (name : Text) (spentAmount : Int64) : Prop :=
  contains name "Spent: ".toList = true →
    contains (substringAfter name "Spent: ".toList) ",".toList = true ∧
      spentOf name = formatAmount spentAmount

/-- The same for the label of the limit and the parenthesis behind it. -/
def LimitKept (name : Text) (limit : Int64) : Prop :=
  contains name "Budget: ".toList = true →
    contains (substringAfter name "Budget: ".toList) " (".toList = true ∧
      limitOf name = formatAmount limit

/-- The breaches whose sentence is read back: the name has no exclamation mark, and in a
warning it does not look like an exceeded budget and has none of the labels, or has them
with the right values. -/
def BreachMessage.Decodable : BreachMessage → Prop
  | .exceeded name _ _ => '!' ∉ name
  | .warning name spentAmount limit percentage =>
      '!' ∉ name ∧ contains name "Budget exceeded".toList = false ∧
        PercentageKept name percentage.toInt ∧ SpentKept name spentAmount ∧ LimitKept name limit

/-- The delimiter after the name is one character. -/
theorem exclamation_eq : "!".toList = ['!'] := by
  decide

/-- The name of an exceeded budget is read back exactly if it has no `!`. -/
theorem exceededName_text (name : Text) (spent limit : Int64) :
    exceededName (BreachMessage.exceeded name spent limit).text = name ↔ '!' ∉ name := by
  rw [exceededName, text_exceeded, substringAfter_append_self, exclamation_eq]
  exact substringBefore_append_singleton_eq_iff

/-- The sentence about an exceeded budget is recognised, whatever the name. -/
theorem contains_text_exceeded (name : Text) (spent limit : Int64) :
    contains (BreachMessage.exceeded name spent limit).text "Budget exceeded".toList = true := by
  have hopening : "Budget exceeded for ".toList = "Budget exceeded".toList ++ " for ".toList := by
    decide
  rw [text_exceeded, hopening, List.append_assoc]
  exact contains_append_self _ _

section Warning

variable (name : Text) (spent limit percentage : Int64)

/-- The name of a warning is read back exactly if it has no `!`. -/
theorem warningName_text :
    warningName (BreachMessage.warning name spent limit percentage).text = name ↔ '!' ∉ name := by
  rw [warningName, text_warning, substringAfter_append_self, exclamation_eq]
  exact substringBefore_append_singleton_eq_iff

/-- A warning is taken for an exceeded budget only on account of the name. -/
theorem contains_text_warning_exceeded :
    contains (BreachMessage.warning name spent limit percentage).text "Budget exceeded".toList =
      contains name "Budget exceeded".toList := by
  rw [text_warning, skips_exceeded.contains_eq, contains_append_cons (by decide) (by decide),
    contains_amounts_exceeded, Bool.or_false]

/-- A warning has the words it is recognised by. -/
theorem contains_text_warning :
    contains (BreachMessage.warning name spent limit percentage).text "Budget warning".toList =
      true := by
  have hopening : "Budget warning for ".toList = "Budget warning".toList ++ " for ".toList := by
    decide
  rw [text_warning, hopening, List.append_assoc]
  exact contains_append_self _ _

/-- The spent amount of a warning is read back exactly if the name hides no earlier label. -/
theorem spentOf_text_warning :
    spentOf (BreachMessage.warning name spent limit percentage).text = formatAmount spent ↔
      SpentKept name spent := by
  rw [text_warning]
  exact field_eq_iff skips_spent (by decide) (by decide) (by decide) (by decide)
    ((digitsAnd_formatAmount spent).not_mem (by decide)) (contains_amounts_spent spent limit _)
    (spentOf_amounts spent limit _)

/-- The same for the limit. -/
theorem limitOf_text_warning :
    limitOf (BreachMessage.warning name spent limit percentage).text = formatAmount limit ↔
      LimitKept name limit := by
  rw [text_warning]
  exact field_eq_iff skips_limit (by decide) (by decide) (by decide) (by decide)
    ((digitsAnd_formatAmount limit).not_mem (by decide)) (contains_amounts_limit spent limit _)
    (limitOf_amounts spent limit percentage)

/-- The same for the percentage. -/
theorem percentageOf_text_warning :
    percentageOf (BreachMessage.warning name spent limit percentage).text = percentage.toInt ↔
      PercentageKept name percentage.toInt := by
  rw [text_warning, percentageOf, PercentageKept, substringAfter_sentence skips_paren (by decide)
    (by decide) (contains_amounts_paren spent limit percentage)]
  cases hname : contains name "(".toList with
  | false =>
      rw [if_neg Bool.false_ne_true, if_neg Bool.false_ne_true, percentText_amounts,
        toIntOrNull_intText]
      split_ifs with hrange
      · exact iff_of_true rfl hrange
      · refine iff_of_false ?_ hrange
        rw [Option.getD_none]
        intro h80
        rw [← h80] at hrange
        exact hrange (by decide)
  | true =>
      rw [if_pos rfl, if_pos rfl]
      cases hafter : contains (substringAfter name "(".toList) "%)".toList with
      | true =>
          rw [if_pos rfl, substringBefore_append_cons_of_contains (by decide) (by decide) hafter,
            percentageOf]
      | false =>
          have hnone : toIntOrNull (substringAfter name "(".toList ++ '!' ::
              substringBefore (amounts spent limit (percentSuffix percentage)) "%)".toList) =
                none :=
            toIntOrNull_eq_none (c := '!') (by simp) (by decide) (by decide) (by decide)
          rw [if_neg Bool.false_ne_true,
            substringBefore_append_cons_of_not_contains (by decide) (by decide) hafter, hnone,
            Option.getD_none]
          exact eq_comm

end Warning

/-- A sentence is read back exactly if the name and the amounts make it decodable. -/
theorem notificationFor_text_iff (m : BreachMessage) :
    notificationFor m.text = some m.notification ↔ m.Decodable := by
  cases m with
  | exceeded name spent limit =>
      rw [notificationFor, contains_text_exceeded, if_pos rfl, BreachMessage.notification,
        Option.some.injEq, BudgetNotification.budgetAlert.injEq, exceededName_text]
      exact ⟨fun h => h.2, fun h => ⟨rfl, h⟩⟩
  | warning name spent limit percentage =>
      rw [notificationFor, contains_text_warning_exceeded, contains_text_warning,
        BreachMessage.notification, BreachMessage.Decodable]
      cases hname : contains name "Budget exceeded".toList with
      | true =>
          rw [if_pos rfl]
          refine iff_of_false ?_ (fun h => absurd h.2.1.symm Bool.false_ne_true)
          rw [Option.some.injEq]
          intro h
          cases h
      | false =>
          rw [if_neg Bool.false_ne_true, if_pos rfl, Option.some.injEq,
            BudgetNotification.budgetWarning.injEq, warningName_text, spentOf_text_warning,
            limitOf_text_warning, percentageOf_text_warning]
          constructor
          · rintro ⟨hpercentage, hbang, hspent, hlimit⟩
            exact ⟨hbang, rfl, hpercentage, hspent, hlimit⟩
          · rintro ⟨hbang, -, hpercentage, hspent, hlimit⟩
            exact ⟨hpercentage, hbang, hspent, hlimit⟩

/-- **The decoders invert the encoder exactly on the decodable breaches.** -/
theorem decodes_iff_decodable (m : BreachMessage) : m.Decodes ↔ m.Decodable := by
  rw [m.decodes_iff_notificationFor, notificationFor_text_iff]

/-- A category called `Rent (50%)` turns a warning at 85 percent into one at 50. -/
theorem not_decodes_parenthesis :
    ¬ (BreachMessage.warning "Rent (50%)".toList 850 1000 85).Decodes := by
  rw [BreachMessage.decodes_iff_notificationFor]
  decide

/-- A breach of a category whose name has none of the delimiters reaches the user as it
is. -/
theorem decodes_of_breach {snapshot : Snapshot} {budget : BudgetEntity} {m : BreachMessage}
    (h : breach snapshot budget = some m) (hbang : '!' ∉ budget.categoryId)
    (hparen : '(' ∉ budget.categoryId) (hcolon : ':' ∉ budget.categoryId)
    (hexceeded : contains budget.categoryId "Budget exceeded".toList = false) : m.Decodes := by
  rw [m.decodes_iff_notificationFor, notificationFor_text_iff]
  rw [← categoryName_of_breach h] at hbang hparen hcolon hexceeded
  cases m with
  | exceeded name spent limit => exact hbang
  | warning name spent limit percentage =>
      have hnone : ∀ {d : Text} {c : Char}, c ∈ d → c ∉ name → contains name d ≠ true := by
        intro d c hd hc
        rw [contains_eq_false_of_not_mem hd hc]
        exact Bool.false_ne_true
      obtain ⟨h80, h100⟩ := percentage_of_breach_warning h
      rw [Int64.le_iff_toInt_le] at h80 h100
      have hlo : (80 : Int64).toInt = 80 := by decide
      have hhi : (100 : Int64).toInt = 100 := by decide
      refine ⟨hbang, hexceeded, ?_, ?_, ?_⟩
      · rw [PercentageKept, if_neg (hnone (by decide) hparen)]
        omega
      · exact fun hspent => absurd hspent (hnone (by decide) hcolon)
      · exact fun hlimit => absurd hlimit (hnone (by decide) hcolon)

end SpendCraft
