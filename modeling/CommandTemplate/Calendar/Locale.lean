import CommandTemplate.Text.Blank
import CommandTemplate.Text.Casing
import CommandTemplate.Text.Pieces

/-!
How dates are written in different languages.

A `Locale` has the words and the patterns of a language in a region.  `Locale.candidates` are the
names of locales that a language tag such as `de-DE` or `de` may mean.
-/

namespace CommandTemplate.Calendar

/-- The words and the patterns of a locale. -/
structure Locale where
  /-- The names of the days, from Sunday on. -/
  days : List String
  shortDays : List String
  months : List String
  shortMonths : List String
  /-- The names of the two halves of the day. -/
  beforeNoon : String
  afterNoon : String
  decimalPoint : String
  dateTime : String
  date : String
  time : String
  /-- The time with the half of the day, or no text where it is not in use. -/
  time12 : String

namespace Locale

/-- Without a language. -/
def posix : Locale where
  days :=
    ["Sunday", "Monday", "Tuesday", "Wednesday", "Thursday", "Friday", "Saturday"]
  shortDays :=
    ["Sun", "Mon", "Tue", "Wed", "Thu", "Fri", "Sat"]
  months :=
    ["January", "February", "March", "April", "May", "June", "July", "August", "September",
     "October", "November", "December"]
  shortMonths :=
    ["Jan", "Feb", "Mar", "Apr", "May", "Jun", "Jul", "Aug", "Sep", "Oct", "Nov", "Dec"]
  beforeNoon := "AM"
  afterNoon := "PM"
  decimalPoint := "."
  dateTime := "%a %b %e %H:%M:%S %Y"
  date := "%m/%d/%y"
  time := "%H:%M:%S"
  time12 := "%I:%M:%S %p"

/-- English in the United States. -/
def enUS : Locale where
  days := posix.days
  shortDays := posix.shortDays
  months := posix.months
  shortMonths := posix.shortMonths
  beforeNoon := "AM"
  afterNoon := "PM"
  decimalPoint := "."
  dateTime := "%a %d %b %Y %I:%M:%S %p %Z"
  date := "%m/%d/%Y"
  time := "%I:%M:%S %p"
  time12 := "%I:%M:%S %p"

/-- English in the United Kingdom. -/
def enGB : Locale where
  days := posix.days
  shortDays := posix.shortDays
  months := posix.months
  shortMonths := posix.shortMonths
  beforeNoon := "am"
  afterNoon := "pm"
  decimalPoint := "."
  dateTime := "%a %d %b %Y %T %Z"
  date := "%d/%m/%y"
  time := "%T"
  time12 := "%l:%M:%S %P %Z"

/-- German in Germany. -/
def deDE : Locale where
  days :=
    ["Sonntag", "Montag", "Dienstag", "Mittwoch", "Donnerstag", "Freitag", "Samstag"]
  shortDays :=
    ["So", "Mo", "Di", "Mi", "Do", "Fr", "Sa"]
  months :=
    ["Januar", "Februar", "März", "April", "Mai", "Juni", "Juli", "August", "September",
     "Oktober", "November", "Dezember"]
  shortMonths :=
    ["Jan", "Feb", "Mär", "Apr", "Mai", "Jun", "Jul", "Aug", "Sep", "Okt", "Nov", "Dez"]
  beforeNoon := ""
  afterNoon := ""
  decimalPoint := ","
  dateTime := "%a %d %b %Y %T %Z"
  date := "%d.%m.%Y"
  time := "%T"
  time12 := ""

/-- German in Austria. -/
def deAT : Locale where
  days := deDE.days
  shortDays := deDE.shortDays
  months :=
    ["Jänner", "Februar", "März", "April", "Mai", "Juni", "Juli", "August", "September",
     "Oktober", "November", "Dezember"]
  shortMonths :=
    ["Jän", "Feb", "Mär", "Apr", "Mai", "Jun", "Jul", "Aug", "Sep", "Okt", "Nov", "Dez"]
  beforeNoon := ""
  afterNoon := ""
  decimalPoint := ","
  dateTime := "%a %d %b %Y %T %Z"
  date := "%Y-%m-%d"
  time := "%T"
  time12 := ""

/-- French in France. -/
def frFR : Locale where
  days :=
    ["dimanche", "lundi", "mardi", "mercredi", "jeudi", "vendredi", "samedi"]
  shortDays :=
    ["dim.", "lun.", "mar.", "mer.", "jeu.", "ven.", "sam."]
  months :=
    ["janvier", "février", "mars", "avril", "mai", "juin", "juillet", "août", "septembre",
     "octobre", "novembre", "décembre"]
  shortMonths :=
    ["janv.", "févr.", "mars", "avril", "mai", "juin", "juil.", "août", "sept.", "oct.", "nov.",
     "déc."]
  beforeNoon := ""
  afterNoon := ""
  decimalPoint := ","
  dateTime := "%a %d %b %Y %T %Z"
  date := "%d/%m/%Y"
  time := "%T"
  time12 := ""

/-- Spanish in Spain. -/
def esES : Locale where
  days :=
    ["domingo", "lunes", "martes", "miércoles", "jueves", "viernes", "sábado"]
  shortDays :=
    ["dom", "lun", "mar", "mié", "jue", "vie", "sáb"]
  months :=
    ["enero", "febrero", "marzo", "abril", "mayo", "junio", "julio", "agosto", "septiembre",
     "octubre", "noviembre", "diciembre"]
  shortMonths :=
    ["ene", "feb", "mar", "abr", "may", "jun", "jul", "ago", "sep", "oct", "nov", "dic"]
  beforeNoon := ""
  afterNoon := ""
  decimalPoint := ","
  dateTime := "%a %d %b %Y %T %Z"
  date := "%d/%m/%y"
  time := "%T"
  time12 := ""

/-- Portuguese in Brazil. -/
def ptBR : Locale where
  days :=
    ["domingo", "segunda", "terça", "quarta", "quinta", "sexta", "sábado"]
  shortDays :=
    ["dom", "seg", "ter", "qua", "qui", "sex", "sáb"]
  months :=
    ["janeiro", "fevereiro", "março", "abril", "maio", "junho", "julho", "agosto", "setembro",
     "outubro", "novembro", "dezembro"]
  shortMonths :=
    ["jan", "fev", "mar", "abr", "mai", "jun", "jul", "ago", "set", "out", "nov", "dez"]
  beforeNoon := ""
  afterNoon := ""
  decimalPoint := ","
  dateTime := "%a %d %b %Y %T %Z"
  date := "%d/%m/%Y"
  time := "%T"
  time12 := ""

/-- Japanese in Japan. -/
def jaJP : Locale where
  days :=
    ["日曜日", "月曜日", "火曜日", "水曜日", "木曜日", "金曜日", "土曜日"]
  shortDays :=
    ["日", "月", "火", "水", "木", "金", "土"]
  months :=
    ["1月", "2月", "3月", "4月", "5月", "6月", "7月", "8月", "9月", "10月", "11月", "12月"]
  shortMonths :=
    [" 1月", " 2月", " 3月", " 4月", " 5月", " 6月", " 7月", " 8月", " 9月", "10月", "11月", "12月"]
  beforeNoon := "午前"
  afterNoon := "午後"
  decimalPoint := "."
  dateTime := "%Y年%m月%d日 %H時%M分%S秒"
  date := "%Y年%m月%d日"
  time := "%H時%M分%S秒"
  time12 := "%p%I時%M分%S秒"

/-- The locales that come with the application, by their names: a language and a region. -/
def named : List (String × Locale) := [
  ("en_US", enUS),
  ("en_GB", enGB),
  ("de_DE", deDE),
  ("de_AT", deAT),
  ("fr_FR", frFR),
  ("es_ES", esES),
  ("pt_BR", ptBR),
  ("ja_JP", jaJP)]

/-- The locales that a language tag may mean.  A language alone also means the region of the
same name. -/
def candidates (tag : String) : List String :=
  match Text.splitOn "_" (Text.substitute "-" "_" (Text.trim tag)) with
  | [] => []
  | [language] =>
    let language := Text.lower language
    [language, language ++ "_" ++ Text.upper language]
  | language :: region :: _ => [Text.lower language ++ "_" ++ Text.upper region]

end Locale

end CommandTemplate.Calendar
