/-!
# The shortest decimal of a double

A double stands for all reals that round to it. `shortest` finds, among the decimals in that
interval, one with the fewest digits, and of those the one nearest to the double; `doubleText` writes
it out.

## Architecture

- `Double` is a positive double as `mantissa * 2 ^ exponent`, read off its bits;
- `onGrid?` looks for a multiple of a power of ten in the interval;
- `shortest` tries the powers of ten from the largest down;
- `doubleText` lays the digits out, positionally where the point is near them.
-/

namespace MapLint

/-- A positive double: its value is `mantissa * 2 ^ exponent`. -/
structure Double where
  mantissa : Nat
  exponent : Int
  /-- The double below is only half as far away as the one above. -/
  narrowBelow : Bool
deriving DecidableEq, Inhabited

namespace Double

/-- The absolute value of a finite double, from its bits. -/
def ofBits (bits : Nat) : Double :=
  let fraction : Nat := bits % Nat.pow 2 52
  let field : Nat := bits / Nat.pow 2 52 % Nat.pow 2 11
  if field = 0 then ⟨fraction, -1074, false⟩
  else ⟨Nat.pow 2 52 + fraction, (field : Int) - 1075, fraction = 0 && 1 < field⟩

/-- A multiple `d * 10 ^ k` in the interval that rounds to the double, if there is one: the nearest
of the two neighbours. The ends of the interval belong to it when the mantissa is even. -/
def onGrid? (x : Double) (k : Int) : Option Nat :=
  let scale := Nat.pow 2 (x.exponent - 2).toNat * Nat.pow 10 (-k).toNat
  let unit := Nat.pow 2 (2 - x.exponent).toNat * Nat.pow 10 k.toNat
  let value := 4 * x.mantissa * scale
  let low := (4 * x.mantissa - (if x.narrowBelow then 1 else 2)) * scale
  let high := (4 * x.mantissa + 2) * scale
  let inside (d : Nat) : Bool :=
    if x.mantissa % 2 = 0 then low ≤ d * unit && d * unit ≤ high
    else low < d * unit && d * unit < high
  let below := value / unit
  let above := below + 1
  let belowNearer := value - below * unit ≤ above * unit - value
  if inside below && (belowNearer || !inside above) then some below
  else if inside above then some above
  else none

/-- The first hit among `n` powers of ten from `10 ^ k` down. -/
def shortestFrom (x : Double) : (n : Nat) → (k : Int) → Nat × Int
  | 0, k => (0, k)
  | n + 1, k =>
    match x.onGrid? k with
    | some d => (d, k)
    | none => shortestFrom x n (k - 1)

/-- The digits and the power of ten of the shortest decimal. -/
def shortest (x : Double) : Nat × Int := shortestFrom x 660 310

end Double

/-- Lays out `digits * 10 ^ power`: positionally from five zeros behind the point up to sixteen
digits before it, else with an exponent that shows its sign. -/
def layOutDigits (digits : List Char) (power : Int) : List Char :=
  let point := (digits.length : Int) + power
  if 0 ≤ power && point ≤ 16 then digits ++ List.replicate power.toNat '0' ++ ['.', '0']
  else if 0 < point && point ≤ 16 then
    digits.take point.toNat ++ '.' :: digits.drop point.toNat
  else if -5 < point && point ≤ 0 then
    '0' :: '.' :: List.replicate (-point).toNat '0' ++ digits
  else
    let exponent := point - 1
    let mark := if 0 ≤ exponent then ['e', '+'] else ['e', '-']
    let fraction := if digits.length ≤ 1 then [] else '.' :: digits.drop 1
    digits.take 1 ++ fraction ++ mark ++ Nat.toDigits 10 exponent.natAbs

/-- The text of a finite double. -/
def doubleText (f : Float) : String :=
  let bits := f.toBits.toNat
  let sign := if bits / Nat.pow 2 63 = 1 then ['-'] else []
  if bits % Nat.pow 2 63 = 0 then String.ofList (sign ++ ['0', '.', '0'])
  else
    let (digits, power) := (Double.ofBits bits).shortest
    String.ofList (sign ++ layOutDigits (Nat.toDigits 10 digits) power)

end MapLint
