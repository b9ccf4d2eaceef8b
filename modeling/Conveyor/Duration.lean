/-!
# Durations

A length of time in whole nanoseconds, with at most `2 ^ 64 - 1` whole seconds.
-/

namespace Conveyor

/-- A length of time. -/
structure Duration where
  nanoseconds : Nat
deriving DecidableEq, Inhabited

namespace Duration

def perSecond : Nat := 1000000000

def secondsBound : Nat := UInt64.size

def zero : Duration := ⟨0⟩

def of (seconds nanoseconds : Nat) : Duration := ⟨seconds * perSecond + nanoseconds⟩

def seconds (d : Duration) : Nat := d.nanoseconds / perSecond

def subsecond (d : Duration) : Nat := d.nanoseconds % perSecond

def Fits (d : Duration) : Prop := d.seconds < secondsBound

instance (d : Duration) : Decidable d.Fits := inferInstanceAs (Decidable (_ < _))

def add? (a b : Duration) : Option Duration :=
  let sum : Duration := ⟨a.nanoseconds + b.nanoseconds⟩
  if sum.Fits then some sum else none

def max (a b : Duration) : Duration := ⟨Nat.max a.nanoseconds b.nanoseconds⟩

/-- The duration in milliseconds. The seconds and the part below a second are turned into binary
fractions one by one, then added and scaled, so that three roundings take place. -/
def milliseconds (d : Duration) : Float :=
  (d.seconds.toUInt64.toFloat + d.subsecond.toUInt64.toFloat / 1000000000) * 1000

end Duration

end Conveyor
