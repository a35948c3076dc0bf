import TripWatch.Text.Case

/-!
# Languages of riders

Texts for riders are in English or Spanish, told by a language tag. A tag of any other language
means English.

## Main definitions

* `Locale.ofTag`, `Locale.tag` — reading and writing language tags
* `minutesPhrase?` — `1 minute`, `2 minutes`
* `humanize` — the words of a planner's constant, as in `Slightly left`
* `relativeDirection`, `absoluteDirection` — turns and headings in words
-/

namespace TripWatch

/-- A language for texts that riders see. -/
inductive Locale where
  | english
  | spanish
  deriving DecidableEq, Repr, Inhabited

namespace Locale

/-- The language of a tag, told by the part before the first hyphen or underscore, in any case. -/
def ofTag (tag : String) : Locale :=
  let language := tag.toList.takeWhile fun c => c != '-' && c != '_'
  if language.map Char.toLower = ['e', 's'] then spanish else english

/-- The tag of a language. -/
def tag : Locale → String
  | english => "en"
  | spanish => "es"

theorem ofTag_tag (l : Locale) : ofTag l.tag = l := by cases l <;> decide +kernel

end Locale

/-- A count of minutes in words; there is no phrase for a count below one. -/
def minutesPhrase? (minutes : Int) (locale : Locale) : Option String :=
  let (singular, plural) := match locale with
    | .english => ("minute", "minutes")
    | .spanish => ("minuto", "minutos")
  if minutes ≤ 0 then none
  else if minutes = 1 then some ("1 " ++ singular)
  else some (toString minutes ++ " " ++ plural)

/-- The words of a planner's constant: in lower case, with the first letter raised. -/
def humanize (constant : String) : String :=
  Text.upperFirst (Text.lower (constant.map fun c => if c = '_' then ' ' else c))

/-- A turn in English. -/
def englishTurn : String → String
  | "UTURN_LEFT" | "UTURN_RIGHT" => "Make a U-turn"
  | "CIRCLE_CLOCKWISE" | "CIRCLE_COUNTERCLOCKWISE" => "Take the roundabout"
  | other => humanize other

/-- A turn in Spanish. -/
def spanishTurn : String → String
  | "HARD_LEFT" => "Gire fuertemente a la izquierda"
  | "LEFT" => "Gire a la izquierda"
  | "SLIGHTLY_LEFT" => "Gire ligeramente a la izquierda"
  | "CONTINUE" => "Continúe"
  | "SLIGHTLY_RIGHT" => "Gire ligeramente a la derecha"
  | "RIGHT" => "Gire a la derecha"
  | "HARD_RIGHT" => "Gire fuertemente a la derecha"
  | "UTURN_LEFT" | "UTURN_RIGHT" => "Dé la vuelta"
  | "CIRCLE_CLOCKWISE" | "CIRCLE_COUNTERCLOCKWISE" => "Tome la rotonda"
  | "ELEVATOR" => "Tome el ascensor"
  | "ENTER_STATION" => "Entre a la estación"
  | "EXIT_STATION" => "Salga de la estación"
  | "FOLLOW_SIGNS" => "Siga las señales"
  | other => humanize other

/-- A heading in Spanish. -/
def spanishHeading : String → String
  | "NORTH" => "norte"
  | "NORTHEAST" => "noreste"
  | "EAST" => "este"
  | "SOUTHEAST" => "sureste"
  | "SOUTH" => "sur"
  | "SOUTHWEST" => "suroeste"
  | "WEST" => "oeste"
  | "NORTHWEST" => "noroeste"
  | other => Text.lower other

/-- A turn in words. -/
def relativeDirection (direction : String) : Locale → String
  | .english => englishTurn direction
  | .spanish => spanishTurn direction

/-- A heading in words. -/
def absoluteDirection (direction : String) : Locale → String
  | .english => humanize direction
  | .spanish => spanishHeading direction

end TripWatch
