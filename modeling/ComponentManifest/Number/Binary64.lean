import ComponentManifest.Text.Basic

/-!
# Double-precision numbers

A number of the binary64 format, as an exact value: zero, or a mantissa below `2 ^ 53` times a power
of two. Numerals are rounded to the nearest such number, a half to the even mantissa.

1. The type and rounding.
2. `shortest`, the fewest decimal digits that read back as the number.
3. `toText`, its decimal notation.
-/

namespace ComponentManifest

/-- A binary64 number; `finite s m q` is `m * 2 ^ q`, negated when `s` holds. -/
inductive Binary64 where
  | nan
  | infinite (negative : Bool)
  | finite (negative : Bool) (mantissa : Nat) (exponent : Int)
  deriving DecidableEq, Repr, Inhabited

namespace Binary64

/-! ## Rounding -/

/-- The least exponent of a finite number. -/
def minExponent : Int := -1074

/-- The greatest exponent of a finite number. -/
def maxExponent : Int := 971

/-- The integer nearest to `num / den`; a half goes to the even one. -/
def roundHalfEven (num den : Nat) : Nat :=
  let k := num / den
  let r := num % den
  if 2 * r < den ∨ (2 * r = den ∧ k % 2 = 0) then k else k + 1

/-- The fraction `num / den` divided by `base ^ e`. -/
def divPow (base : Nat) (num den : Nat) (e : Int) : Nat × Nat :=
  if 0 ≤ e then (num, den * base.pow e.toNat) else (num * base.pow (-e).toNat, den)

/-- The number nearest to `num / den`. -/
def ofRatio (negative : Bool) (num den : Nat) : Binary64 :=
  if num = 0 then .finite negative 0 minExponent
  else
    let guess := (Nat.log2 num : Int) - Nat.log2 den - 52
    let trial := divPow 2 num den guess
    let fitting := if trial.1 / trial.2 < Nat.pow 2 52 then guess - 1 else guess
    let exponent := max fitting minExponent
    let scaled := divPow 2 num den exponent
    let mantissa := roundHalfEven scaled.1 scaled.2
    let carried := mantissa = Nat.pow 2 53
    let exponent := if carried then exponent + 1 else exponent
    if maxExponent < exponent then .infinite negative
    else .finite negative (if carried then Nat.pow 2 52 else mantissa) exponent

/-- The number nearest to `digits * 10 ^ e`. Far outside the range of the format the result does not
depend on the digits. -/
def ofDecimal (negative : Bool) (digits : Nat) (e : Int) : Binary64 :=
  let size := e + (Nat.toDigits 10 digits).length
  if digits = 0 ∨ size < -400 then .finite negative 0 minExponent
  else if 400 < size then .infinite negative
  else
    let ratio := divPow 10 digits 1 (-e)
    ofRatio negative ratio.1 ratio.2

/-- Is the number zero? -/
def isZero : Binary64 → Bool
  | .finite _ m _ => m == 0
  | _ => false

/-! ## Shortest digits -/

/-- Is the fraction `a / b` less than `c / d`? -/
def ratioLt (a b c d : Nat) : Bool := a * d < c * b

/-- The point of the decimal grid `10 ^ p` that reads back as `m * 2 ^ q`, if there is one; of two
such points the nearer, of two equally near the even one. -/
def gridPoint? (m : Nat) (q p : Int) : Option Nat :=
  let value := divPow 2 (4 * m) 1 (2 - q)
  let lowGap := if m = Nat.pow 2 52 ∧ minExponent < q then 1 else 2
  let low := divPow 2 (4 * m - lowGap) 1 (2 - q)
  let high := divPow 2 (4 * m + 2) 1 (2 - q)
  let cell := divPow 10 value.1 value.2 p
  let c := cell.1 / cell.2
  let point (k : Nat) : Nat × Nat := divPow 10 k 1 (-p)
  let reads (k : Nat) : Bool :=
    let x := point k
    if m % 2 = 0 then !ratioLt x.1 x.2 low.1 low.2 && !ratioLt high.1 high.2 x.1 x.2
    else ratioLt low.1 low.2 x.1 x.2 && ratioLt x.1 x.2 high.1 high.2
  if reads c then
    if reads (c + 1) then some (roundHalfEven cell.1 cell.2) else some c
  else if reads (c + 1) then some (c + 1) else none

/-- The fewest decimal digits that read back as `m * 2 ^ q`, as an integer and a power of ten. -/
def shortest (m : Nat) (q : Int) : Nat × Int :=
  let size := (Nat.log2 m : Int) + q
  let top := if 0 ≤ size then size / 3 + 1 else size / 4 + 1
  ((List.range 400).findSome? fun (i : Nat) =>
    (gridPoint? m q (top - (i : Int))).map fun d => (d, top - (i : Int))).getD (m, 0)

/-! ## Notation -/

/-- Digits whose point stands after the first `point` of them: positional from `0.0001` up to
seventeen digits before the point, with an exponent of at least two digits otherwise. -/
def place (digits : Text) (point : Int) : Text :=
  if -4 < point ∧ point ≤ 16 then
    if point ≤ 0 then '0' :: '.' :: (List.replicate (-point).toNat '0' ++ digits)
    else
      let whole := digits.take point.toNat
      let zeros := List.replicate (point.toNat - digits.length) '0'
      let fraction := digits.drop point.toNat
      whole ++ zeros ++ '.' :: (if fraction.isEmpty then ['0'] else fraction)
  else
    let e := point - 1
    let size := Text.ofNat e.natAbs
    digits.take 1 ++ (if digits.length ≤ 1 then [] else '.' :: digits.drop 1) ++
      'e' :: (if e < 0 then '-' else '+') :: ((if size.length < 2 then ['0'] else []) ++ size)

/-- The decimal notation of a number; `infinity` and `nan` name the others. -/
def toText (infinity nan : Text) : Binary64 → Text
  | .nan => nan
  | .infinite negative => (if negative then ['-'] else []) ++ infinity
  | .finite negative m q =>
    (if negative then ['-'] else []) ++
      if m = 0 then ['0', '.', '0']
      else
        let s := shortest m q
        let digits := Text.ofNat s.1
        place digits (digits.length + s.2)

end Binary64

end ComponentManifest
