namespace BeaconGossip.Identity

def fieldPrime : Nat := Nat.pow 2 255 - 19

instance : @NeZero Nat Zero.ofOfNat0 fieldPrime := ⟨by decide⟩

abbrev FieldElement := Fin fieldPrime

namespace FieldElement

/-- Powers by squaring; the fuel is at least the number of binary digits. -/
def power : (fuel : Nat) → FieldElement → Nat → FieldElement
  | 0, _, _ => 1
  | fuel + 1, x, n =>
    let half := power fuel (x * x) (n / 2)
    if n % 2 = 1 then x * half else half

/-- The inverse of a nonzero element. -/
def inverse (x : FieldElement) : FieldElement := power 255 x (fieldPrime - 2)

end FieldElement

/-- The point with `x = X / Z`, `y = Y / Z` and `x * y = T / Z`. -/
structure CurvePoint where
  X : FieldElement
  Y : FieldElement
  Z : FieldElement
  T : FieldElement

namespace CurvePoint

def d : FieldElement :=
  Fin.ofNat fieldPrime
    37095705934669439343138083508754565189542113879843219016388785533085940283555

def ofAffine (x y : FieldElement) : CurvePoint := ⟨x, y, 1, x * y⟩

def neutral : CurvePoint := ofAffine 0 1

/-- The point of prime order from which public keys are made. -/
def base : CurvePoint :=
  ofAffine
    (Fin.ofNat fieldPrime
      15112221349535400772501151409588531511454012693041857206046113283949847762202)
    (Fin.ofNat fieldPrime
      46316835694926478169428394003475163141307993866256225615783033603165251855960)

/-- The addition law, which holds for all pairs of points. -/
def add (p q : CurvePoint) : CurvePoint :=
  let a := (p.Y - p.X) * (q.Y - q.X)
  let b := (p.Y + p.X) * (q.Y + q.X)
  let c := 2 * d * p.T * q.T
  let e := 2 * p.Z * q.Z
  ⟨(b - a) * (e - c), (e + c) * (b + a), (e - c) * (e + c), (b - a) * (b + a)⟩

/-- The `n`-fold of a point by doubling; the fuel is at least the number of binary digits. -/
def multiple : (fuel : Nat) → CurvePoint → Nat → CurvePoint
  | 0, _, _ => neutral
  | fuel + 1, p, n =>
    let half := multiple fuel (p.add p) (n / 2)
    if n % 2 = 1 then p.add half else half

def x (p : CurvePoint) : FieldElement := p.X * p.Z.inverse

def y (p : CurvePoint) : FieldElement := p.Y * p.Z.inverse

/-- The second coordinate, with the parity of the first in the topmost bit. -/
def compressed (p : CurvePoint) : Nat := p.y.val + Nat.pow 2 255 * (p.x.val % 2)

end CurvePoint

end BeaconGossip.Identity
