import Mathlib

/-! # Decimal addition under a bounded context

Finite decimals are a sign, a coefficient and a power of ten; several triples
denote one number. Addition is exact first and rounded once, to the precision of
the context and half to even. `none` is the overflow signal of the context.
-/

namespace DotmacCloud.Foundation

structure Decimal where
  negative : Bool
  coefficient : Nat
  exponent : Int
  deriving DecidableEq, Repr

namespace Decimal

structure Context where
  precision : Nat
  emin : Int
  emax : Int
  deriving DecidableEq, Repr

/-- The context every thread starts with. -/
def defaultContext : Context := ⟨28, -999999, 999999⟩

def Context.etiny (context : Context) : Int := context.emin - context.precision + 1

def Context.etop (context : Context) : Int := context.emax - context.precision + 1

/-- Both zeroes, of any exponent, compare equal to zero. -/
def isZero (d : Decimal) : Bool := d.coefficient == 0

def digitCount (n : Nat) : Nat := (Nat.toDigits 10 n).length

def roundHalfEven (n divisor : Nat) : Nat :=
  let quotient := n / divisor
  let twice := 2 * (n % divisor)
  if twice < divisor then quotient
  else if divisor < twice then quotient + 1
  else if quotient % 2 = 0 then quotient
  else quotient + 1

/-- Round a value into the context. Rounding up to a power of ten moves one
    digit into the exponent, which can itself overflow. -/
def fix (context : Context) (d : Decimal) : Option Decimal :=
  if d.coefficient = 0 then
    some { d with exponent := min (max d.exponent context.etiny) context.emax }
  else
    let least := digitCount d.coefficient + d.exponent - context.precision
    if context.etop < least then none
    else
      let exponent := max least context.etiny
      if d.exponent < exponent then
        let rounded := roundHalfEven d.coefficient (10 ^ (exponent - d.exponent).toNat)
        if rounded = 10 ^ context.precision then
          if context.etop < exponent + 1 then none
          else some ⟨d.negative, 10 ^ (context.precision - 1), exponent + 1⟩
        else some ⟨d.negative, rounded, exponent⟩
      else some d

/-- The coefficient with its sign, at a smaller or equal exponent. -/
def scaled (d : Decimal) (exponent : Int) : Int :=
  let magnitude : Int := d.coefficient * 10 ^ (d.exponent - exponent).toNat
  if d.negative then -magnitude else magnitude

def exactSum (a b : Decimal) : Decimal :=
  let exponent := min a.exponent b.exponent
  let total := a.scaled exponent + b.scaled exponent
  -- A zero sum is negative only when both operands are negative zeroes.
  ⟨if total = 0 then a.negative && b.negative else decide (total < 0), total.natAbs, exponent⟩

def add (context : Context) (a b : Decimal) : Option Decimal := fix context (exactSum a b)

end Decimal

end DotmacCloud.Foundation
