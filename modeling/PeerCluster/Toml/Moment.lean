import PeerCluster.Toml.Key

/-! Dates and times of TOML, which have to exist in the calendar and on the clock. -/

namespace PeerCluster.Toml

open Reader

/-- A number of a given count of digits within bounds. -/
def boundedNumber (digits least greatest : Nat) : Reader Nat := do
  let value := Text.numberOf 10 (← exactly Char.isDigit digits)
  require (least ≤ value && value ≤ greatest)
  return value

/-- How many days a month has. -/
def daysIn (year month : Nat) : Nat :=
  let isLeap := year % 4 = 0 && (year % 100 ≠ 0 || year % 400 = 0)
  if month = 2 then (if isLeap then 29 else 28)
  else if month = 4 || month = 6 || month = 9 || month = 11 then 30
  else 31

/-- A day of the calendar. -/
def date : Reader Unit := do
  let year ← boundedNumber 4 0 9999
  character '-'
  let month ← boundedNumber 2 1 12
  character '-'
  let _ ← boundedNumber 2 1 (daysIn year month)

/-- A time of the clock to the second, where a minute may have one second more, or finer. -/
def time : Reader Unit := do
  let _ ← boundedNumber 2 0 23
  character ':'
  let _ ← boundedNumber 2 0 59
  character ':'
  let _ ← boundedNumber 2 0 60
  let _ ← optional? (character '.' *> run1 Char.isDigit)

/-- The distance of a clock from universal time. -/
def offset : Reader Unit :=
  (do let _ ← satisfying fun c => c == 'Z' || c == 'z') <|> do
    let _ ← satisfying fun c => c == '+' || c == '-'
    let _ ← boundedNumber 2 0 23
    character ':'
    let _ ← boundedNumber 2 0 59

/-- A day, a time, or both with an offset or without one. -/
def moment : Reader Unit :=
  (do
    date
    let _ ← optional? do
      let _ ← satisfying fun c => c == 'T' || c == 't' || c == ' '
      time
      optional? offset) <|> time

end PeerCluster.Toml
