import Chronicle.Toml.Lexeme

/-!
Dates and times.  Only their form is checked, and that the day exists: nothing in a configuration
asks for one.
-/

namespace Chronicle.Toml

/-- The number that exactly `count` digits write. -/
def fixed? (count : Nat) (cs : List Char) : Option (Nat × List Char) :=
  let digits := cs.take count
  if digits.length = count && digits.all isDigit then some (ofDigits 10 digits, cs.drop count)
  else none

/-- The same, for a number between two bounds. -/
def bounded? (least most : Nat) (cs : List Char) : Option (Nat × List Char) :=
  (fixed? 2 cs).filter fun (n, _) => least ≤ n && n ≤ most

/-- The rest after one character. -/
def after? (c : Char) : List Char → Option (List Char)
  | d :: rest => if d = c then some rest else none
  | [] => none

def isLeapYear (year : Nat) : Bool := year % 4 = 0 && (year % 100 ≠ 0 || year % 400 = 0)

def daysIn (year month : Nat) : Nat :=
  if month = 2 then (if isLeapYear year then 29 else 28)
  else if month = 4 || month = 6 || month = 9 || month = 11 then 30
  else 31

/-- Year, month and day. -/
def date? (cs : List Char) : Option (List Char) := do
  let (year, cs) ← fixed? 4 cs
  let (month, cs) ← bounded? 1 12 (← after? '-' cs)
  let (_, cs) ← bounded? 1 (daysIn year month) (← after? '-' cs)
  return cs

/-- The fraction of a second, if there is one. -/
def skipFraction (cs : List Char) : List Char :=
  match cs with
  | '.' :: c :: rest => if isDigit c then rest.dropWhile isDigit else cs
  | _ => cs

/-- Hour, minute and second; the second may be a leap second. -/
def time? (cs : List Char) : Option (List Char) := do
  let (_, cs) ← bounded? 0 23 cs
  let (_, cs) ← bounded? 0 59 (← after? ':' cs)
  let (_, cs) ← bounded? 0 60 (← after? ':' cs)
  return skipFraction cs

/-- The hours and minutes of an offset, after its sign. -/
def offsetTime? (cs : List Char) : Option (List Char) := do
  let (_, cs) ← bounded? 0 23 cs
  let (_, cs) ← bounded? 0 59 (← after? ':' cs)
  return cs

/-- The offset from universal time, if there is one. -/
def skipOffset (cs : List Char) : List Char :=
  match cs with
  | 'Z' :: rest => rest
  | 'z' :: rest => rest
  | '+' :: rest => (offsetTime? rest).getD cs
  | '-' :: rest => (offsetTime? rest).getD cs
  | _ => cs

/-- The time after a date, if there is one. -/
def skipTime (cs : List Char) : List Char :=
  match cs with
  | c :: rest =>
    if c = 'T' || c = 't' || c = ' ' then (time? rest).elim cs skipOffset else cs
  | [] => []

/-- A date, a time or both. -/
def moment? (cs : List Char) : Option (List Char) :=
  match date? cs with
  | some rest => some (skipTime rest)
  | none => time? cs

end Chronicle.Toml
