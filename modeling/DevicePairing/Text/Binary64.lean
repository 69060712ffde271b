set_option autoImplicit false
set_option relaxedAutoImplicit false

namespace DevicePairing.Text

/-- A floating-point number. -/
inductive Binary64 where
  | nan
  | infinite (negative : Bool)
  | finite (negative : Bool) (m : Nat) (e : Int)
  deriving DecidableEq

namespace Binary64

def ofBits (exponentBits fractionBits : Nat) (n : Nat) : Binary64 :=
  let fraction := n % (1 <<< fractionBits)
  let exponent := (n >>> fractionBits) % (1 <<< exponentBits)
  let negative := (n >>> (exponentBits + fractionBits)) % 2 = 1
  let bias : Int := (1 <<< (exponentBits - 1) : Nat) - 1
  if exponent = (1 <<< exponentBits) - 1 then
    if fraction = 0 then .infinite negative else .nan
  else if exponent = 0 then .finite negative fraction (1 - bias - fractionBits)
  else .finite negative ((1 <<< fractionBits) + fraction) (exponent - bias - fractionBits)

def ofHalf (n : Nat) : Binary64 := ofBits 5 10 n

/-- The number of the thirty-two bits `n`. -/
def ofSingle (n : Nat) : Binary64 := ofBits 8 23 n

/-- The number of the sixty-four bits `n`. -/
def ofDouble (n : Nat) : Binary64 := ofBits 11 52 n

/-- A positive ratio of naturals. -/
structure Ratio where
  num : Nat
  den : Nat

def Ratio.scaled (m b : Nat) (e : Int) : Ratio :=
  if 0 ≤ e then ⟨m * Nat.pow b e.toNat, 1⟩ else ⟨m, Nat.pow b (-e).toNat⟩

def Ratio.le (x y : Ratio) : Bool := x.num * y.den ≤ y.num * x.den

def Ratio.lt (x y : Ratio) : Bool := x.num * y.den < y.num * x.den

def Ratio.distance (x y : Ratio) : Ratio :=
  let a := x.num * y.den
  let b := y.num * x.den
  ⟨(a - b) + (b - a), x.den * y.den⟩

/-- The exponent and significand of a positive number when the significand fills fifty-three bits
or the exponent is the least one. -/
def normalize (m : Nat) (e : Int) : Nat × Int :=
  let low : Int := -1074
  let shift : Int := 52 - (Nat.log2 m : Int)
  let target := if e - shift < low then low else e - shift
  if target ≤ e then (m <<< (e - target).toNat, target)
  else (m >>> (target - e).toNat, target)

/-- Whether a ratio lies among those whose nearest number of sixty-four bits is `m * 2 ^ e`. A
ratio halfway between two numbers belongs to the one with the even significand. -/
def roundsTo (m : Nat) (e : Int) (x : Ratio) : Bool :=
  let low :=
    if m = 1 <<< 52 ∧ -1074 < e then Ratio.scaled (4 * m - 1) 2 (e - 2)
    else Ratio.scaled (2 * m - 1) 2 (e - 1)
  let high := Ratio.scaled (2 * m + 1) 2 (e - 1)
  if m % 2 = 0 then low.le x && x.le high else low.lt x && x.lt high

def decade (x : Ratio) : Int :=
  let exponents := (List.range 640).map fun (i : Nat) => (309 : Int) - i
  (exponents.find? fun k => (Ratio.scaled 1 10 k).le x).getD (-331)

/-- The decimal of `count` digits that rounds to `m * 2 ^ e` and is nearest to it, as digits and
the exponent of the last one. Of two that are equally near the greater one counts. -/
def ofDigits? (m : Nat) (e : Int) (count : Nat) : Option (Nat × Int) :=
  let x := Ratio.scaled m 2 e
  let k := decade x - count + 1
  let step := Ratio.scaled 1 10 k
  let below := x.num * step.den / (x.den * step.num)
  let candidates := [below, below + 1].filter fun d => roundsTo m e (Ratio.scaled d 10 k)
  match candidates with
  | [] => none
  | [d] => some (d, k)
  | a :: b :: _ =>
    let near := ((Ratio.scaled a 10 k).distance x).lt ((Ratio.scaled b 10 k).distance x)
    some (if near then a else b, k)

/-- The fewest digits that name the positive number `m * 2 ^ e`. -/
def shortest (m : Nat) (e : Int) : Nat × Int :=
  let (m, e) := normalize m e
  ((List.range 17).findSome? fun i => ofDigits? m e (i + 1)).getD (m, 0)

/-- The digits with a point among or after them, zeros filling the places between. -/
def positional (digits : List Char) (exponent : Int) : String :=
  if 0 ≤ exponent then
    String.ofList (digits ++ List.replicate exponent.toNat '0' ++ ['.', '0'])
  else
    let places := (-exponent).toNat
    if places < digits.length then
      let whole := digits.length - places
      String.ofList (digits.take whole ++ ['.'] ++ digits.drop whole)
    else
      String.ofList (['0', '.'] ++ List.replicate (places - digits.length) '0' ++ digits)

/-- The digits without the zeros at their end, and the exponent that makes up for them. -/
def dropZeros : (fuel : Nat) → (digits : Nat) → (exponent : Int) → Nat × Int
  | 0, d, k => (d, k)
  | fuel + 1, d, k => if d % 10 = 0 then dropZeros fuel (d / 10) (k + 1) else (d, k)

def text : Binary64 → String
  | .nan => "NaN"
  | .infinite negative => if negative then "-inf" else "inf"
  | .finite negative m e =>
    let sign := if negative then "-" else ""
    if m = 0 then sign ++ "0.0"
    else
      let (d, k) := shortest m e
      let (d, k) := dropZeros 17 d k
      sign ++ positional (Nat.toDigits 10 d) k

end Binary64

end DevicePairing.Text
