import EventText.Time.TimeOfDay
import EventText.WordReplacement

/-! Meals by the time of day, and the rule that names the meal in a title. -/

namespace EventText

inductive Meal where
  | breakfast
  | lunch
  | snack
  | dinner
deriving DecidableEq

namespace Meal

/-- The meal at a time of day: breakfast from 5:00, lunch from 10:30, a snack from 15:00, dinner
from 18:30 and through the night. -/
def ofTime (time : TimeOfDay) : Meal :=
  if time.minutes < 300 then dinner
  else if time.minutes < 630 then breakfast
  else if time.minutes < 900 then lunch
  else if time.minutes < 1110 then snack
  else dinner

def name : Meal → Text
  | breakfast => "Breakfast".toList
  | lunch => "Lunch".toList
  | snack => "Snack".toList
  | dinner => "Dinner".toList

end Meal

/-- The title with its first whole word "Dinner" replaced by the meal at the time of day. -/
def mealTitle (title : Text) (time : TimeOfDay) : Text :=
  replaceWord Meal.dinner.name (Meal.ofTime time).name title

end EventText
