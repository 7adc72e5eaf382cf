import Courier.Binary64.Reading

/-!
Written dates and times of day: which texts stand for a day of the calendar, for a time with or
without seconds, and for both together.
-/

namespace Courier.Document.Calendar

def isLeap (year : Nat) : Bool := year % 4 = 0 && (year % 100 ≠ 0 || year % 400 = 0)

def daysIn (year month : Nat) : Nat :=
  if month = 2 then (if isLeap year then 29 else 28)
  else if [4, 6, 9, 11].contains month then 30
  else 31

/-- The shape of a text: a nine stands for any digit. -/
def hasShape (shape : String) (cs : List Char) : Bool :=
  cs.map (fun c => if c.isDigit then '9' else c) = shape.toList

/-- The number whose digits stand at a place of the text. -/
def digitsAt (start count : Nat) (cs : List Char) : Nat :=
  Binary64.valueOf ((cs.drop start).take count)

/-- A year of four digits, a month and a day of two. -/
def isDate (cs : List Char) : Bool :=
  let month := digitsAt 5 2 cs
  let day := digitsAt 8 2 cs
  hasShape "9999-99-99" cs && 1 ≤ month && month ≤ 12 && 1 ≤ day &&
    day ≤ daysIn (digitsAt 0 4 cs) month

def isClock (cs : List Char) : Bool := digitsAt 0 2 cs ≤ 23 && digitsAt 3 2 cs ≤ 59

/-- A minute can have a sixtieth second. Only whole seconds can have a fraction. -/
def isTime (cs : List Char) : Bool :=
  let minutes := cs.take 5
  match cs.drop 5 with
  | [] => hasShape "99:99" minutes && isClock minutes
  | rest =>
    let seconds := rest.take 3
    let fraction := match rest.drop 3 with
      | [] => true
      | '.' :: ds => !ds.isEmpty && ds.all Char.isDigit
      | _ => false
    hasShape "99:99" minutes && isClock minutes && hasShape ":99" seconds &&
      digitsAt 1 2 seconds ≤ 60 && fraction

def isOffset (cs : List Char) : Bool :=
  match cs with
  | ['Z'] => true
  | ['z'] => true
  | '+' :: r => hasShape "99:99" r && isClock r
  | '-' :: r => hasShape "99:99" r && isClock r
  | _ => false

/-- A day and a time, and how far the time is from the universal one if that is told. -/
def isMoment (cs : List Char) : Bool :=
  let clock := cs.drop 11
  let time := clock.takeWhile fun c => c.isDigit || c = ':' || c = '.'
  let offset := clock.drop time.length
  isDate (cs.take 10) && (cs.drop 10).head?.any (fun c => c = 'T' || c = 't' || c = ' ') &&
    isTime time && (offset.isEmpty || isOffset offset)

end Courier.Document.Calendar
