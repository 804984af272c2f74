/-!
# Double-precision numbers

Numbers of the binary64 floating-point format, held exactly as integers: a finite number is a
sign, an integer significand below 2^53 and a power of two from -1074 to 971; besides there are
the two infinities and NaN. No machine floating-point operation is involved.

Decimal texts are read with correct rounding, to nearest and ties to even: the result is the
number nearest to the exact value of the text, however many digits it has. Numbers are written
back in the fewest significant digits that read back to them, the closest such to the number
(ties upwards), positionally with no exponent: `0.1`, `100`, `0.000…005`.

The text grammar is that of floating-point literals: an optional sign, then `inf`, `infinity`
or `nan` in any case, or digits with an optional point and an optional exponent (`e` or `E`, an
optional sign and digits), with at least one digit before or after the point.
-/

namespace CredentialCache

structure Decimal where
  negative : Bool
  digits : Nat
  exp : Int
deriving DecidableEq, Repr

/-- A binary64 number. -/
inductive Binary64
  | finite (negative : Bool) (significand : Nat) (exponent : Int)
  | infinite (negative : Bool)
  | nan
deriving DecidableEq, Repr

def decimalLength (n : Nat) : Nat := (Nat.toDigits 10 n).length

def powTwo (k : Int) : Nat × Nat :=
  if 0 ≤ k then (Nat.pow 2 k.toNat, 1) else (1, Nat.pow 2 (-k).toNat)

def powTen (k : Int) : Nat × Nat :=
  if 0 ≤ k then (Nat.pow 10 k.toNat, 1) else (1, Nat.pow 10 (-k).toNat)

namespace Binary64

/-- The exponent of the smallest numbers. Significands below 2^52 are met only here: they are
the subnormal numbers. -/
def minExponent : Int := -1074

def maxExponent : Int := 971

def hidden : Nat := Nat.pow 2 52

def zero (negative : Bool) : Binary64 := .finite negative 0 minExponent

/-- The number nearest to the positive fraction `num / den`, ties to the even significand,
with a sign; infinity beyond the largest number.

With `2 ^ k ≤ num / den < 2 ^ (k + 1)`, the significand is counted in units of
`2 ^ max (k - 52) minExponent`, which gives 53 bits for normal numbers and fewer below. -/
def roundFraction (negative : Bool) (num den : Nat) : Binary64 :=
  let k₀ : Int := (num.log2 : Int) - den.log2
  let (a, b) := powTwo k₀
  let k := if den * a ≤ num * b then k₀ else k₀ - 1
  let e := max (k - 52) minExponent
  let (a, b) := powTwo e
  let n := num * b
  let d := den * a
  let q := n / d
  let r := n % d
  let q := if d < 2 * r || (2 * r == d && q % 2 == 1) then q + 1 else q
  let (q, e) := if q == Nat.pow 2 53 then (hidden, e + 1) else (q, e)
  if maxExponent < e then .infinite negative else .finite negative q e

/-- The number nearest to a decimal. Decimals of 310 or more integer digits are infinite and
those below `10 ^ -324` are zero, which spares the powers of ten of absurd exponents. -/
def ofDecimal (x : Decimal) : Binary64 :=
  if x.digits = 0 then zero x.negative
  else
    let len : Int := decimalLength x.digits
    if 309 ≤ len - 1 + x.exp then .infinite x.negative
    else if len + x.exp ≤ -324 then zero x.negative
    else
      let (a, b) := powTen x.exp
      roundFraction x.negative (x.digits * a) b

/-- The decimal exponent of a positive number `m × 2 ^ e`: the `K` with
`10 ^ K ≤ m × 2 ^ e < 10 ^ (K + 1)`. Below one it is minus the least `j` with
`m × 2 ^ e × 10 ^ j ≥ 1`, which is the number of digits of `⌈2 ^ -e / m⌉ - 1`. -/
def decimalExponent (m : Nat) (e : Int) : Int :=
  let (a, b) := powTwo e
  let n := m * a
  if b ≤ n then (decimalLength (n / b) : Int) - 1
  else -(decimalLength ((b + n - 1) / n - 1) : Int)

/-- The decimal with `p` significant digits (more only when rounding carries) closest to
`m × 2 ^ e` inside its rounding interval, if there is one, as digits and exponent. The interval
reaches halfway to the neighbours, and a quarter of a unit downwards from a power of two; its
ends count when the significand is even, and always for subnormal numbers. -/
def digitsAt (m : Nat) (e : Int) (p : Nat) : Option (Nat × Int) :=
  let v := 4 * m
  let hi := 4 * m + 2
  let lo := if m == hidden then 4 * m - 1 else 4 * m - 2
  let inclusive := m % 2 == 0 || m < hidden
  let (sn, sd) := powTwo (e - 2)
  let k := decimalExponent m e + 1 - p
  let (tn, td) := powTen k
  let a := sn * td
  let b := tn * sd
  let dmin := if inclusive then (lo * a + b - 1) / b else lo * a / b + 1
  let dmax := if inclusive then hi * a / b else (hi * a + b - 1) / b - 1
  if dmin ≤ dmax then
    let q := v * a / b
    let nearest := if b ≤ 2 * (v * a % b) then q + 1 else q
    some (min (max nearest dmin) dmax, k)
  else none

def shortestFrom (m : Nat) (e : Int) : Nat → Nat → Nat × Int
  | 0, p =>
    let k := decimalExponent m e + 1 - p
    let (sn, sd) := powTwo e
    let (tn, td) := powTen k
    (m * sn * td / (tn * sd), k)
  | fuel + 1, p =>
    match digitsAt m e p with
    | some r => r
    | none => shortestFrom m e fuel (p + 1)

def trimZeros : Nat → Nat → Int → Nat × Int
  | 0, d, k => (d, k)
  | fuel + 1, d, k => if d ≠ 0 && d % 10 == 0 then trimZeros fuel (d / 10) (k + 1) else (d, k)

/-- The shortest decimal of a positive number `m × 2 ^ e`, with no trailing zeros. Seventeen
significant digits always suffice. -/
def shortest (m : Nat) (e : Int) : Nat × Int :=
  let (d, k) := shortestFrom m e 17 1
  trimZeros (decimalLength d) d k

def positional (ds : String) (point : Int) : String :=
  let len : Int := ds.length
  if point ≤ 0 then "0." ++ "".pushn '0' (-point).toNat ++ ds
  else if point < len then
    String.ofList (ds.toList.take point.toNat) ++ "." ++ String.ofList (ds.toList.drop point.toNat)
  else ds.pushn '0' (point - len).toNat

/-- The number written in the shortest decimal that reads back to it, with no exponent:
`inf`, `-inf` and `NaN` for the special values, and `-0` for negative zero. -/
def toText : Binary64 → String
  | .nan => "NaN"
  | .infinite negative => (if negative then "-" else "") ++ "inf"
  | .finite negative m e =>
    let sign := if negative then "-" else ""
    if m = 0 then sign ++ "0"
    else
      let (d, k) := shortest m e
      let ds := toString d
      sign ++ positional ds (k + ds.length)

end Binary64

namespace Decimal

def digitValue (cs : List Char) : Nat := cs.foldl (fun acc c => 10 * acc + (c.toNat - '0'.toNat)) 0

def ofText? (s : String) : Option Decimal :=
  let (negative, cs) := match s.toList with
    | '-' :: r => (true, r)
    | '+' :: r => (false, r)
    | r => (false, r)
  let intPart := cs.takeWhile Char.isDigit
  let rest := cs.dropWhile Char.isDigit
  let (fracPart, rest) := match rest with
    | '.' :: r => (r.takeWhile Char.isDigit, r.dropWhile Char.isDigit)
    | r => ([], r)
  if intPart.isEmpty && fracPart.isEmpty then none else
  let expValue : Option Int := match rest with
    | [] => some 0
    | c :: r =>
      if c == 'e' || c == 'E' then
        let (expNeg, ds) := match r with
          | '-' :: t => (true, t)
          | '+' :: t => (false, t)
          | t => (false, t)
        if !ds.isEmpty && ds.all Char.isDigit then
          some (if expNeg then -(digitValue ds : Int) else digitValue ds)
        else none
      else none
  expValue.map fun e => ⟨negative, digitValue (intPart ++ fracPart), e - fracPart.length⟩

end Decimal

namespace Binary64

/-- Read a floating-point literal: a signed `inf`, `infinity` or `nan` in any case, or a decimal
rounded to the nearest number. -/
def ofText? (s : String) : Option Binary64 :=
  let (negative, body) := match s.toList with
    | '-' :: r => (true, String.ofList r)
    | '+' :: r => (false, String.ofList r)
    | r => (false, String.ofList r)
  match body.toLower with
  | "inf" | "infinity" => some (.infinite negative)
  | "nan" => some .nan
  | _ => (Decimal.ofText? s).map ofDecimal

end Binary64

end CredentialCache
