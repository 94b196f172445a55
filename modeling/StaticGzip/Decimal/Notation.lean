import StaticGzip.Decimal.Binary64
import StaticGzip.Text.Basic

/-! # Decimal notation of binary numbers

Three ways between binary numbers and decimal text.

* **`Decimal.shortest`** — the fewest digits that round back to the number, and of those the
  nearest to it.
* **`Decimal.display`** — these digits with a point and never an exponent.
* **`Decimal.fixed`** — a given number of places, the exact value rounded half to even.
* **`Decimal.ofText?`** — the number nearest to a decimal numeral. -/

namespace StaticGzip.Decimal

open Binary64 (scale divEven)

/-! ## Powers of ten -/

/-- A number times a power of ten, as a fraction. -/
def scaleTen (n : Nat) (exponent : Int) : Nat × Nat :=
  match exponent with
  | .ofNat k => (n * Nat.pow 10 k, 1)
  | .negSucc k => (n, Nat.pow 10 (k + 1))

/-- How many times a fraction is multiplied by ten to reach one, at most `fuel` times. -/
def shortfall (n d : Nat) : Nat → Nat
  | 0 => 0
  | fuel + 1 => if d ≤ n then 0 else shortfall (10 * n) d fuel + 1

/-- The power of ten of the first digit of a positive fraction; no binary number is below
`10 ^ (-324)`. -/
def firstPower (n d : Nat) : Int :=
  if d ≤ n then ((Nat.toDigits 10 (n / d)).length : Int) - 1 else -(shortfall n d 330 : Int)

/-! ## Shortest digits -/

/-- The values that round to a finite number: all between the two ends, over one denominator, and
the ends too if the significand is even. -/
structure Interval where
  low : Nat
  value : Nat
  high : Nat
  denominator : Nat
  closed : Bool
deriving DecidableEq, Repr

/-- The interval of a finite number. Below a power of two the numbers lie twice as dense. -/
def Interval.ofNumber (m : Nat) (e : Int) : Interval :=
  let (n, d) := scale m e
  let unit := (scale 1 e).1
  let below := if m = Binary64.leastSignificand ∧ Binary64.minExponent < e then unit else 2 * unit
  ⟨4 * n - below, 4 * n, 4 * n + 2 * unit, 4 * d, m % 2 = 0⟩

/-- Whether the fraction `n / d` rounds to the number of the interval. -/
def Interval.contains (i : Interval) (n d : Nat) : Bool :=
  if i.closed then i.low * d ≤ n * i.denominator && n * i.denominator ≤ i.high * d
  else i.low * d < n * i.denominator && n * i.denominator < i.high * d

/-- Of the two multiples of `10 ^ k` next to a number, the nearer one that rounds to it; of two
that are equally near, the upper one. -/
def Interval.onGrid? (i : Interval) (k : Int) : Option Nat :=
  let (p, q) := scaleTen 1 k
  let down := i.value * q / (p * i.denominator)
  let up := down + 1
  let fits c := 0 < c && i.contains (c * p) q
  if fits down then
    let below := i.value * q - down * p * i.denominator
    let above := up * p * i.denominator - i.value * q
    if fits up && above ≤ below then some up else some down
  else if fits up then some up
  else none

/-- A significand and a power of ten without zeros at the end of the significand. -/
def stripZeros : Nat → Nat → Int → Nat × Int
  | 0, n, k => (n, k)
  | fuel + 1, n, k => if n % 10 = 0 then stripZeros fuel (n / 10) (k + 1) else (n, k)

/-- The **shortest digits** of a positive number, and the power of ten of the last one. Seventeen
digits always suffice. -/
def shortest (m : Nat) (e : Int) : Nat × Int :=
  let (n, d) := scale m e
  let first := firstPower n d
  let i := Interval.ofNumber m e
  let hit := (List.range 17).findSome? fun (more : Nat) =>
    let k := first - more
    (i.onGrid? k).map fun c => (c, k)
  let (digits, k) := hit.getD (0, 0)
  stripZeros 17 digits k

/-! ## Positional text -/

/-- Digits with a point before the last `places` of them and a zero before a leading point. -/
def withPoint (digits : Text) (places : Nat) : Text :=
  if places = 0 then digits
  else
    let digits := digits.leftpad (places + 1) '0'
    digits.take (digits.length - places) ++ '.' :: digits.drop (digits.length - places)

/-- Digits times a power of ten, **without an exponent**. -/
def positional (digits : Nat) (power : Int) : Text :=
  match power with
  | .ofNat k => Text.ofNat digits ++ List.replicate k '0'
  | .negSucc k => withPoint (Text.ofNat digits) (k + 1)

/-- The text of a number: its shortest digits without an exponent, a sign if it is negative, and
words for what is not finite. -/
def display : Binary64 → Text
  | .nan => "NaN".toList
  | .infinite negative => (if negative then "-inf" else "inf").toList
  | .finite negative m e =>
    let sign : Text := if negative then ['-'] else []
    if m = 0 then sign ++ ['0']
    else
      let (digits, power) := shortest m e
      sign ++ positional digits power

/-- The text of a number with a **fixed number of places**: its exact value, rounded half to
even. -/
def fixed (places : Nat) : Binary64 → Text
  | .finite negative m e =>
    let (n, d) := scale m e
    let sign : Text := if negative then ['-'] else []
    sign ++ withPoint (Text.ofNat (divEven (n * Nat.pow 10 places) d)) places
  | x => display x

/-! ## Reading -/

/-- The number nearest to `n` times a power of ten. What lies beyond all numbers is infinite, and
what lies below them is zero. -/
def ofScientific (negative : Bool) (n : Nat) (power : Int) : Binary64 :=
  let size := power + (Text.ofNat n).length
  if n = 0 ∨ size < -400 then .finite negative 0 Binary64.minExponent
  else if 400 < size then .infinite negative
  else
    let (p, q) := scaleTen n power
    Binary64.ofRatio negative p q

/-- An optional sign, whether it is a minus, and what follows. -/
def splitSign : Text → Bool × Text
  | '+' :: rest => (false, rest)
  | '-' :: rest => (true, rest)
  | t => (false, t)

/-- The digits at the start of a text and what follows them. -/
def splitDigits (t : Text) : Text × Text :=
  (t.takeWhile Char.isDigit, t.dropWhile Char.isDigit)

/-- The value of some digits. -/
def digitsValue (digits : Text) : Nat :=
  digits.foldl (fun n c => 10 * n + (c.toNat - '0'.toNat)) 0

/-- The exponent after an `e`, with an optional sign; the whole text must be one. -/
def exponent? : Text → Option Int
  | [] => some 0
  | c :: rest =>
    if c = 'e' ∨ c = 'E' then
      let (negative, digits) := splitSign rest
      if digits.isEmpty || !digits.all Char.isDigit then none
      else
        let n : Int := digitsValue digits
        some (if negative then -n else n)
    else none

/-- The words for what is not finite, in any case. -/
def special? (negative : Bool) (t : Text) : Option Binary64 :=
  let word := String.ofList (Text.lowerAscii t)
  if word = "nan" then some .nan
  else if word = "inf" ∨ word = "infinity" then some (.infinite negative)
  else none

/-- The number **nearest to a decimal numeral**: an optional sign, digits with an optional point
among or around them, and an optional exponent. -/
def ofText? (t : Text) : Option Binary64 :=
  let (negative, t) := splitSign t
  match special? negative t with
  | some x => some x
  | none =>
    let (whole, rest) := splitDigits t
    let (places, rest) := match rest with
      | '.' :: more => splitDigits more
      | _ => ([], rest)
    if whole.isEmpty && places.isEmpty then none
    else
      (exponent? rest).map fun power =>
        ofScientific negative (digitsValue (whole ++ places)) (power - places.length)

end StaticGzip.Decimal
