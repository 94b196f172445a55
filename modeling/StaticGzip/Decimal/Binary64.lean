/-! # Binary floating-point numbers of 64 bits

A number of the binary format with 53 bits of precision is nothing, an infinity, or a signed
significand times a power of two. All arithmetic is exact on natural numbers and rounds once, to
the nearest number, a half to the even one.

* **`Binary64.ofRatio`** — the number nearest to a quotient.
* **`Binary64.ofNat`, `Binary64.add`, `Binary64.mul`, `Binary64.div`** — whole numbers, and
  arithmetic on numbers that are not negative.
* **`Binary64.roundedToNat`** — the nearest whole number, a half away from zero. -/

namespace StaticGzip

/-- A **binary floating-point number**. -/
inductive Binary64 where
  | nan
  | infinite (negative : Bool)
  | finite (negative : Bool) (significand : Nat) (exponent : Int)
deriving DecidableEq, Repr

namespace Binary64

/-- A quotient rounded to the nearest whole number, a half to the even one. -/
def divEven (num den : Nat) : Nat :=
  let q := num / den
  let r := num % den
  if 2 * r < den then q
  else if den < 2 * r then q + 1
  else if q % 2 = 0 then q else q + 1

/-- An exact quotient stays as it is. -/
theorem divEven_mul (q : Nat) {den : Nat} (h : 0 < den) : divEven (q * den) den = q := by
  simp [divEven, Nat.mul_div_cancel _ h, h]

/-- The least significand of 53 bits. -/
def leastSignificand : Nat := 0x10000000000000

/-- The least exponent. -/
def minExponent : Int := -1074

/-- The greatest exponent. -/
def maxExponent : Int := 971

/-- A number times a power of two, as a fraction. -/
def scale (n : Nat) (exponent : Int) : Nat × Nat :=
  match exponent with
  | .ofNat k => (n <<< k, 1)
  | .negSucc k => (n, 1 <<< (k + 1))

/-- The exponent at which a quotient has a significand of 53 bits, or the least one. -/
def exponentOf (num den : Nat) : Int :=
  let guess : Int := (Nat.log2 num : Int) - Nat.log2 den - 52
  let fits (e : Int) : Bool :=
    let (n, k) := scale num (-e)
    decide (leastSignificand ≤ n / (den * k))
  let e := if fits guess then guess else guess - 1
  if e < minExponent then minExponent else e

/-- The number **nearest to a quotient** with the given sign. -/
def ofRatio (negative : Bool) (num den : Nat) : Binary64 :=
  if num = 0 then finite negative 0 minExponent
  else
    let e := exponentOf num den
    let (n, k) := scale num (-e)
    let m := divEven n (den * k)
    let (m, e) := if m = 2 * leastSignificand then (leastSignificand, e + 1) else (m, e)
    if maxExponent < e then infinite negative else finite negative m e

/-- The number nearest to a whole number. -/
def ofNat (n : Nat) : Binary64 := ofRatio false n 1

/-- The magnitude of a finite number as a fraction. -/
def magnitude (significand : Nat) (exponent : Int) : Nat × Nat := scale significand exponent

/-- The sum of two numbers, as far as both are finite and not negative, rounded once. -/
def add : Binary64 → Binary64 → Binary64
  | finite false m e, finite false m' e' =>
    let (a, b) := magnitude m e
    let (c, d) := magnitude m' e'
    ofRatio false (a * d + c * b) (b * d)
  | _, _ => nan

/-- The product of two numbers, as far as both are finite and not negative, rounded once. -/
def mul : Binary64 → Binary64 → Binary64
  | finite false m e, finite false m' e' =>
    let (a, b) := magnitude m e
    let (c, d) := magnitude m' e'
    ofRatio false (a * c) (b * d)
  | _, _ => nan

/-- The quotient of two numbers, as far as both are finite and not negative and the second is not
zero, rounded once. -/
def div : Binary64 → Binary64 → Binary64
  | finite false m e, finite false m' e' =>
    let (a, b) := magnitude m e
    let (c, d) := magnitude m' e'
    if c = 0 then nan else ofRatio false (a * d) (b * c)
  | _, _ => nan

/-- The number with the opposite sign. -/
def neg : Binary64 → Binary64
  | nan => nan
  | infinite negative => infinite !negative
  | finite negative m e => finite (!negative) m e

@[simp] theorem neg_neg (x : Binary64) : x.neg.neg = x := by
  cases x <;> simp [neg]

/-- Whether a number differs from zero; what is no number does. -/
def isNonzero : Binary64 → Bool
  | finite _ 0 _ => false
  | _ => true

/-- The nearest whole number between zero and a limit, a half away from zero; what is no number
counts as zero. -/
def roundedToNat (limit : Nat) : Binary64 → Nat
  | nan => 0
  | infinite negative => if negative then 0 else limit
  | finite true _ _ => 0
  | finite false m e =>
    let (n, d) := magnitude m e
    min limit ((2 * n + d) / (2 * d))

/-- Rounding never passes the limit. -/
theorem roundedToNat_le (limit : Nat) (x : Binary64) : x.roundedToNat limit ≤ limit := by
  unfold roundedToNat
  split
  · omega
  · split <;> omega
  · omega
  · exact Nat.min_le_left _ _

end Binary64

end StaticGzip
