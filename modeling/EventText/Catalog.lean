import EventText.Food
import EventText.Meal
import EventText.Preset

/-! Catalogs: presets in the order in which they are offered, found by label or by plain name. -/

namespace EventText

/-- Presets whose labels differ. -/
structure Catalog where
  presets : List Preset

namespace Catalog

/-- Checks the presets in order, where the labels in `taken` came before: each keeps the rules of
presets, and its label is new. -/
def check (taken : List Text) : List Preset → Except InvalidPreset Unit
  | [] => .ok ()
  | p :: rest => do
    let p ← p.validate
    if taken.contains p.label then
      throw ⟨p.label, .labelTaken⟩
    check (p.label :: taken) rest

def ofList (presets : List Preset) : Except InvalidPreset Catalog := do
  check [] presets
  return ⟨presets⟩

/-- A label without the emoji, punctuation and blanks at its front and the blanks at its back. -/
def plainName (label : Text) : Text :=
  Text.trim (label.dropWhile fun c => !isAlphanumeric c)

/-- The preset with exactly the trimmed query as its label; else the first whose plain name is that
of the query in any case. A query without a plain name finds labels only. -/
def find? (catalog : Catalog) (query : Text) : Option Preset :=
  match catalog.presets.find? (·.label == query.trim) with
  | some p => some p
  | none =>
    let wanted := (plainName query.trim).lower
    if wanted.isEmpty then none
    else catalog.presets.find? fun p => (plainName p.label).lower == wanted

def labels (catalog : Catalog) : List Text :=
  catalog.presets.map (·.label)

def builtin : Catalog where
  presets := [
    { label := "🍴 Dinner".toList
      title := "🍴 Dinner Date".toList
      description := "What to eat: [FOOD: Sushi, Pizza, Burgers]\n\nWho pays: [WHO_PAYS]".toList
      choiceKeys := ["FOOD".toList]
      personKeys := ["WHO_PAYS".toList]
      personSuffixes := [("WHO_PAYS".toList, " is treating tonight! 💸".toList)]
      annotate := some annotateFood
      titleRule := some mealTitle },
    { label := "🍿 Movie".toList
      title := "🍿 Movie Night".toList
      description := "We'll watch: [MOVIES: Movie 1, Movie 2, ...]".toList
      choiceKeys := ["MOVIES".toList] },
    { label := "🛒 Shopping".toList
      title := "🛒 Shopping".toList
      description := "\nWho will be pushing the cart: [RNG_SHOPPING]".toList
      personKeys := ["RNG_SHOPPING".toList]
      personSuffixes := [("RNG_SHOPPING".toList, " has to push the cart today!".toList)] },
    { label := "🏋️ Gym".toList
      title := "🏋️ Gym Session".toList },
    { label := "🎂 Birthday".toList
      title := "🎂 [PERSON]'s Birthday".toList
      description := "Happy birthday [PERSON: Name]! 🎉".toList
      fieldKeys := ["PERSON".toList] },
    { label := "☕ Coffee".toList
      title := "☕ Coffee Break".toList
      description := "[A] is paying today!\n[B] picks the place.".toList }]

end Catalog

end EventText
