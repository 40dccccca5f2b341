/-!
# Decimal numbers in 64-bit floating point

A decimal number is rounded to the nearest binary number with a significand of 53 bits, ties to
the even one, and shown with the fewest digits that round to the same binary number.  All of it
is exact arithmetic on natural numbers.
-/

namespace StyleAudit.Binary64

/-- The binary number `significand * 2 ^ exponent`. -/
structure Binary where
  /-- The significand, below `2 ^ 53`. -/
  significand : Nat
  /-- The exponent. -/
  exponent : Int

/-- The fraction `num / den`. -/
structure Fraction where
  /-- The numerator. -/
  num : Nat
  /-- The denominator, which is positive. -/
  den : Nat

/-- A fraction times a power of a base. -/
def Fraction.scale (f : Fraction) (base : Nat) (e : Int) : Fraction :=
  if 0 ≤ e then ⟨f.num * Nat.pow base e.toNat, f.den⟩
  else ⟨f.num, f.den * Nat.pow base (-e).toNat⟩

/-- The order of fractions. -/
def Fraction.le (f g : Fraction) : Bool := f.num * g.den ≤ g.num * f.den

/-- The strict order of fractions. -/
def Fraction.lt (f g : Fraction) : Bool := f.num * g.den < g.num * f.den

/-- The nearest natural number; a half goes to the even neighbour. -/
def Fraction.round (f : Fraction) : Nat :=
  let q := f.num / f.den
  let r := f.num % f.den
  if f.den < 2 * r || (f.den == 2 * r && q % 2 == 1) then q + 1 else q

/-- The least significand of 53 bits. -/
def fullSignificand : Nat := 0x10000000000000

/-- The least exponent of a binary number. -/
def minExponent : Int := -1074

/-- The binary number nearest to a fraction. -/
def ofFraction (f : Fraction) : Binary :=
  if f.num == 0 then ⟨0, minExponent⟩
  else
    let guess : Int := (Nat.log2 f.num : Int) - Nat.log2 f.den - 52
    let e := if (f.scale 2 (-guess)).num < fullSignificand * (f.scale 2 (-guess)).den then guess - 1
      else guess
    let e := max e minExponent
    let m := (f.scale 2 (-e)).round
    if m == 2 * fullSignificand then ⟨fullSignificand, e + 1⟩ else ⟨m, e⟩

/-- The value of a binary number. -/
def Binary.value (b : Binary) : Fraction := (Fraction.mk b.significand 1).scale 2 b.exponent

/-- The number lies where every number rounds to `b`. -/
def Binary.covers (b : Binary) (f : Fraction) : Bool :=
  let quarter (k : Int) : Fraction :=
    (Fraction.mk (4 * (b.significand : Int) + k).toNat 1).scale 2 (b.exponent - 2)
  let low := if b.significand == fullSignificand && minExponent < b.exponent then quarter (-1)
    else quarter (-2)
  let high := quarter 2
  if b.significand % 2 == 0 then low.le f && f.le high else low.lt f && f.lt high

/-- The decimal number `digits * 10 ^ exponent`. -/
structure Decimal where
  /-- The digits as a number. -/
  digits : Nat
  /-- The exponent. -/
  exponent : Int

/-- The value of a decimal number. -/
def Decimal.value (d : Decimal) : Fraction := (Fraction.mk d.digits 1).scale 10 d.exponent

/-- The decimal exponent of a positive fraction: the greatest `p` with `10 ^ p` not above it,
searched for downwards from `p`. -/
def decimalExponent (fuel : Nat) (f : Fraction) (p : Int) : Int :=
  match fuel with
  | 0 => p
  | fuel + 1 => if ((Fraction.mk 1 1).scale 10 p).le f then p else decimalExponent fuel f (p - 1)

/-- The neighbour of the value among the decimals with `count` digits that rounds to it, the
nearer one if both do, and the upper one if they are equally near. -/
def withDigits? (b : Binary) (p : Int) (count : Nat) : Option Decimal :=
  let e := p + 1 - count
  let scaled := b.value.scale 10 (-e)
  let below : Decimal := ⟨scaled.num / scaled.den, e⟩
  let above : Decimal := ⟨scaled.num / scaled.den + 1, e⟩
  let nearer := if 2 * (scaled.num % scaled.den) < scaled.den then [below, above]
    else [above, below]
  nearer.find? fun d => b.covers d.value

/-- The decimal with the fewest digits that rounds to a binary number. -/
def shortest (b : Binary) : Decimal :=
  if b.significand == 0 then ⟨0, 0⟩
  else
    let p := decimalExponent 700 b.value 309
    ((List.range 17).findSome? fun k => withDigits? b p (k + 1)).getD ⟨0, 0⟩

/-- A decimal number written without exponent, and with at least one digit behind the point. -/
def Decimal.render (d : Decimal) : String :=
  let digits := toString d.digits
  if 0 ≤ d.exponent then
    digits ++ String.ofList (List.replicate d.exponent.toNat '0') ++ ".0"
  else
    let places := (-d.exponent).toNat
    let padded := List.replicate (places + 1 - digits.length) '0' ++ digits.toList
    let cut := padded.length - places
    String.ofList (padded.take cut ++ '.' :: padded.drop cut)

/-- Digits without zeros at the end, which move into the exponent. -/
def Decimal.trim (fuel : Nat) (d : Decimal) : Decimal :=
  match fuel with
  | 0 => d
  | fuel + 1 =>
    if d.digits != 0 && d.digits % 10 == 0 then Decimal.trim fuel ⟨d.digits / 10, d.exponent + 1⟩
    else d

/-- The decimal number rounds to zero, as its exponent alone shows: it is below `10 ^ (-400)`. -/
def Decimal.vanishes (d : Decimal) : Bool :=
  d.digits == 0 || ((toString d.digits).length : Int) + d.exponent < -400

/-- The shortest text of the binary number nearest to a decimal number. -/
def render (d : Decimal) : String :=
  let nearest := if d.vanishes then ⟨0, minExponent⟩ else ofFraction d.value
  ((shortest nearest).trim 20).render

/-- The decimal number rounds to infinity. -/
def overflows (d : Decimal) : Bool :=
  let digits := (toString d.digits).length
  if d.digits == 0 then false
  else if (digits : Int) + d.exponent < 300 then false
  else if 400 < (digits : Int) + d.exponent then true
  else !d.value.lt ⟨Nat.pow 2 1024 - Nat.pow 2 970, 1⟩

end StyleAudit.Binary64
