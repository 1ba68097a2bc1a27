/-!
# Jittered periods

A ticker ticks once per period. Each period is its base, longer by a random share of less than a
fifth, so that many nodes with the same base drift apart.
-/

namespace NodeWatch.Ticker

/-- The base of a ticker was zero. -/
structure ZeroBase where
  deriving DecidableEq, Repr

def ZeroBase.message (_ : ZeroBase) : String :=
  "tick base duration must be positive"

/-- The period for a random share of the jitter, from 0 up to 1. -/
def period (base : Nat) (share : Rat) : Rat :=
  base + base * share / 5

/-- A base that a ticker can have. -/
def checkBase (base : Nat) : Except ZeroBase Nat :=
  if base = 0 then .error ⟨⟩ else .ok base

/-- How many ticks there have been for certain after some time, whatever the shares. -/
def certainTicks (base : Nat) (elapsed : Rat) : Nat :=
  (elapsed / period base 1).floor.toNat

end NodeWatch.Ticker
