/-!
# Doubles

Arithmetic on numbers with 53 significant bits: each operation gives the exact result rounded to the
nearest such number, ties to the one with an even last bit. The numbers here are shares and
percentages of 64-bit counts, far from the ends of the range of exponents, so only the number of
bits limits them.
-/

namespace NodeWatch.Double

/-- The nearest integer, ties to the even one. -/
def roundEven (q : Rat) : Int :=
  let n := q.floor
  let part := q - n
  if part < 1 / 2 then n
  else if 1 / 2 < part then n + 1
  else if n % 2 == 0 then n else n + 1

/-- The exponent `e` with `2 ^ e ≤ q < 2 ^ (e + 1)`, for positive `q`. -/
def binade (q : Rat) : Int :=
  let e : Int := (q.num.toNat.log2 : Int) - q.den.log2
  if (2 : Rat) ^ e ≤ q then e else e - 1

/-- The double nearest to `q`, for `q` not negative. -/
def nearest (q : Rat) : Rat :=
  if q ≤ 0 then 0
  else
    let unit : Rat := 2 ^ (binade q - 52)
    roundEven (q / unit) * unit

/-- The quotient of two doubles. -/
def div (x y : Rat) : Rat :=
  nearest (x / y)

/-- The product of two doubles. -/
def mul (x y : Rat) : Rat :=
  nearest (x * y)

/-- The digits of `q` with one decimal place, ties to the even digit. -/
def oneDecimal (q : Rat) : String :=
  let tenths := (roundEven (q * 10)).toNat
  s!"{tenths / 10}.{tenths % 10}"

end NodeWatch.Double
