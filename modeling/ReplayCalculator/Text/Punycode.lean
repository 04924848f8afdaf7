/-!
# Punycode

A text is written in ASCII by its ASCII characters, a hyphen, and digits that say where the others
belong. The others come in increasing order. The way from one to the next, counted over all places
at which the characters so far could take one more, is a number; numbers are written in base
thirty-six with thresholds that follow the size of the numbers before.
-/

namespace ReplayCalculator.Punycode

/-- The digit with a value below thirty-six: letters first, then the ten decimal digits. -/
def digit (value : Nat) : Char :=
  if value < 26 then Char.ofNat (0x61 + value) else Char.ofNat (0x30 + (value - 26))

/-- The digits at which a number may end lie below the threshold, which grows with the position. -/
def threshold (bias position : Nat) : Nat := max 1 (min 26 (position - bias))

/-- The digits of a number from a position on. -/
def digits (bias position number : Nat) : List Char :=
  let t := threshold bias position
  if number < t then [digit number]
  else
    digit (t + (number - t) % (36 - t)) ::
      digits bias (position + 36) ((number - t) / (36 - t))
termination_by number
decreasing_by
  have ht : 1 ≤ threshold bias position := Nat.le_max_left _ _
  exact Nat.lt_of_le_of_lt (Nat.div_le_self _ _) (by omega)

/-- The bias for a number of a given size, `steps` steps of thirty-five below it. -/
def biasOf (size steps : Nat) : Nat :=
  if 455 < size then biasOf (size / 35) (steps + 1) else 36 * steps + 36 * size / (size + 38)
termination_by size
decreasing_by omega

/-- The bias after a number, when so many characters are in place. The first number counts less. -/
def adapt (number places : Nat) (first : Bool) : Nat :=
  let size := if first then number / 700 else number / 2
  biasOf (size + size / places) 0

/-- How far a text is written: the characters in place, the number so far, the bias, and whether no
number is written yet. -/
structure Progress where
  placed : Nat
  number : Nat := 0
  bias : Nat := 72
  first : Bool := true
  output : List Char := []

/-- Passes a character of the text while the characters with the number `code` are placed. -/
def Progress.pass (code : Nat) (p : Progress) (c : Char) : Progress :=
  if c.toNat < code then { p with number := p.number + 1 }
  else if c.toNat = code then {
    placed := p.placed + 1
    bias := adapt p.number (p.placed + 1) p.first
    first := false
    output := p.output ++ digits p.bias 36 p.number }
  else p

/-- Places the characters of a text with each of the numbers in turn, starting at `code`. -/
def Progress.run (cs : List Char) (code : Nat) (p : Progress) : List Nat → Progress
  | [] => p
  | next :: rest =>
    let p := { p with number := p.number + (next - code) * (p.placed + 1) }
    let p := cs.foldl (pass next) p
    run cs (next + 1) { p with number := p.number + 1 } rest

/-- The text in ASCII. -/
def encode (cs : List Char) : List Char :=
  let (basic, others) := cs.partition (·.toNat < 0x80)
  let codes := ((others.map Char.toNat).mergeSort (· ≤ ·)).eraseReps
  let p := Progress.run cs 0x80 { placed := basic.length } codes
  basic ++ (if basic.isEmpty then [] else ['-']) ++ p.output

end ReplayCalculator.Punycode
