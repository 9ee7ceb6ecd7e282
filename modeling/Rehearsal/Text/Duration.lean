import Rehearsal.Text.Decimal

/-!
# Durations

A duration in milliseconds is written with the largest unit that it reaches, and with as many
decimals as it needs.
-/

namespace Rehearsal

namespace Text

/-- The decimals of a number of thousandths, without zeros at the end. -/
def thousandths (n : Nat) : String :=
  if n = 0 then ""
  else if n % 100 = 0 then s!".{n / 100}"
  else if n % 10 = 0 then s!".{n / 100}{n / 10 % 10}"
  else s!".{n / 100}{n / 10 % 10}{n % 10}"

/-- The text of a duration. -/
def duration (milliseconds : Nat) : String :=
  if milliseconds = 0 then "0ns"
  else if milliseconds < 1000 then s!"{milliseconds}ms"
  else s!"{milliseconds / 1000}{thousandths (milliseconds % 1000)}s"

end Text

end Rehearsal
