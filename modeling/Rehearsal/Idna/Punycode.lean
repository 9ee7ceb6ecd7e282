/-!
# Labels as ASCII

Punycode writes a label in letters, digits and hyphens: first the ASCII characters of the label,
then, after a hyphen, the others in the order of their code points, each as the number of steps that
lead from the place of one to the next. The numbers are written in digits of a base that varies with
what has been written, so that they need no separators.
-/

namespace Rehearsal

namespace Punycode

/-- The smallest threshold. -/
def tMin : Nat := 1

/-- The largest threshold. -/
def tMax : Nat := 26

/-- The base of the digits. -/
def base : Nat := 36

/-- The value of a digit. -/
def digit? (c : Char) : Option Nat :=
  if 'a' ≤ c ∧ c ≤ 'z' then some (c.toNat - 'a'.toNat)
  else if 'A' ≤ c ∧ c ≤ 'Z' then some (c.toNat - 'A'.toNat)
  else if c.isDigit then some (c.toNat - '0'.toNat + 26)
  else none

/-- The digit of a value. -/
def digitChar (n : Nat) : Char :=
  if n < 26 then Char.ofNat ('a'.toNat + n) else Char.ofNat ('0'.toNat + (n - 26))

/-- The threshold of a place under a bias. -/
def threshold (bias place : Nat) : Nat := max tMin (min tMax (place - bias))

/-- Divides until the rest is small, counting the places. -/
def settle (delta places : Nat) : Nat :=
  if 455 < delta then settle (delta / 35) (places + 36) else places + 36 * delta / (delta + 38)
termination_by delta

/-- The bias after a number was written as one of `count`. -/
def adapt (delta count : Nat) (first : Bool) : Nat :=
  let delta := if first then delta / 700 else delta / 2
  settle (delta + delta / count) 0

/-! ### Reading -/

/-- Reads a number whose digits begin at a place; the rest is what follows it. -/
def readNumber (bias : Nat) (value weight place : Nat) : List Char → Option (Nat × List Char)
  | [] => none
  | c :: cs => do
    let d ← digit? c
    let t := threshold bias place
    if d < t then some (value + d * weight, cs)
    else readNumber bias (value + d * weight) (weight * (base - t)) (place + base) cs

/-- Puts a character into a text. -/
def insertAt (i : Nat) (c : Char) (cs : List Char) : List Char := cs.take i ++ c :: cs.drop i

/-- Reads at most `fuel` characters into a text; `code` and `i` are the code point and the place
after the last one, and `first` tells that none was read yet. -/
def readChars : Nat → Nat → Nat → Nat → Bool → List Char → List Char → Option (List Char)
  | _, _, _, _, _, done, [] => some done
  | 0, _, _, _, _, _, _ => none
  | fuel + 1, code, i, bias, first, done, cs => do
    let (delta, rest) ← readNumber bias 0 1 base cs
    let count := done.length + 1
    let code := code + (i + delta) / count
    let i := (i + delta) % count
    if code.isValidChar then
      readChars fuel code (i + 1) (adapt delta count first) false
        (insertAt i (Char.ofNat code) done) rest
    else none

/-- What stands before the last hyphen, and what after it; everything stands after it if there is
none. -/
def splitLastHyphen (cs : List Char) : List Char × List Char :=
  let after := (cs.reverse.takeWhile (· != '-')).reverse
  (cs.take (cs.length - after.length - 1), after)

/-- The label that Punycode spells. -/
def decode? (cs : List Char) : Option (List Char) :=
  let (plain, rest) := splitLastHyphen cs
  if plain.all fun c => c.toNat < 128 then readChars rest.length 128 0 72 true plain rest else none

/-! ### Writing -/

theorem threshold_pos (bias place : Nat) : 1 ≤ threshold bias place := by
  simp only [threshold, tMin, tMax]; omega

/-- The digits of a number from a place on. -/
def writeNumber (bias place n : Nat) : List Char :=
  let t := threshold bias place
  if n < t then [digitChar n]
  else
    digitChar (t + (n - t) % (base - t)) :: writeNumber bias (place + base) ((n - t) / (base - t))
termination_by n
decreasing_by
  have pos := threshold_pos bias place
  have quotient := Nat.div_le_self (n - threshold bias place) (base - threshold bias place)
  omega

/-- How far writing has come. -/
structure Progress where
  /-- The steps since the last character that was written. -/
  delta : Nat
  /-- The bias of the next number. -/
  bias : Nat
  /-- How many characters have been written. -/
  count : Nat
  /-- Was none but ASCII written yet? -/
  first : Bool
  /-- What has been written. -/
  written : List Char

/-- Passes one character of the label while those of one code point are written. -/
def Progress.pass (code : Nat) (p : Progress) (c : Char) : Progress :=
  if c.toNat < code then { p with delta := p.delta + 1 }
  else if c.toNat = code then
    { delta := 0
      bias := adapt p.delta (p.count + 1) p.first
      count := p.count + 1
      first := false
      written := p.written ++ writeNumber p.bias base p.delta }
  else p

/-- Writes the characters of a label with the given code points, which stand in ascending order;
`code` is the one after the last that was written. -/
def writeCodes (label : List Char) (code : Nat) (p : Progress) : List Nat → List Char
  | [] => p.written
  | next :: rest =>
    let p := { p with delta := p.delta + (next - code) * (p.count + 1) }
    let p := label.foldl (Progress.pass next) p
    writeCodes label (next + 1) { p with delta := p.delta + 1 } rest

/-- The spelling of a label in Punycode. -/
def encode (label : List Char) : List Char :=
  let plain := label.filter fun c => c.toNat < 128
  let codes := (((label.map Char.toNat).filter fun n => 128 ≤ n).eraseDups).mergeSort
  let front := if plain.isEmpty then [] else plain ++ ['-']
  writeCodes label 128 ⟨0, 72, plain.length, true, front⟩ codes

end Punycode

end Rehearsal
