/-
This file writes a double with the fewest decimal digits that read back as the
same double. A positive finite double is a whole number times a power of two, and
the reals that round to it form an interval around it. On the grids of one, two
and more decimal digits the two neighbours of the double are tried in exact
arithmetic; the first grid with a neighbour inside the interval gives the digits,
and the nearer neighbour wins. How digits become text is a matter of `Layout`.
-/

namespace PredicateWire.Decimal

/-! ### Doubles as whole numbers times powers of two -/

/-- A positive finite double: `significand * 2 ^ exponent`. It is a `boundary` when the gap below
it is half the gap above it. -/
structure Binary where
  significand : Nat
  exponent : Int
  boundary : Bool
deriving DecidableEq

/-- What a double is, apart from its sign. -/
inductive Magnitude
  | zero
  | finite (value : Binary)
  | infinite
  | notANumber
deriving DecidableEq

/-- The sign bit is set. -/
def isNegative (number : Float) : Bool :=
  0x8000000000000000 ≤ number.toBits.toNat

/-- Takes a double apart. -/
def magnitude (number : Float) : Magnitude :=
  let bits : Nat := number.toBits.toNat % 0x8000000000000000
  let fraction : Nat := bits % 0x10000000000000
  let biased : Nat := bits / 0x10000000000000
  if biased = 2047 then
    if fraction = 0 then .infinite else .notANumber
  else if biased = 0 then
    if fraction = 0 then .zero else .finite ⟨fraction, -1074, false⟩
  else .finite ⟨0x10000000000000 + fraction, (biased : Int) - 1075, fraction = 0 && 1 < biased⟩

/-- A double that is neither infinite nor no number. -/
def isFinite (number : Float) : Bool :=
  match magnitude number with
  | .zero | .finite _ => true
  | _ => false

/-! ### The decimal grid -/

/-- The number of decimal digits of a positive number. -/
def digitCount (number : Nat) : Nat :=
  (Nat.toDigits 10 number).length

/-- The `exponent` for which a positive fraction lies between `10 ^ exponent` and the next power
of ten. -/
def decimalExponent (numerator denominator : Nat) : Int :=
  if denominator ≤ numerator then (digitCount (numerator / denominator) : Int) - 1
  else -(digitCount ((denominator - 1) / numerator) : Int)

/-- A number as `digits * 10 ^ power`. -/
structure Digits where
  digits : Nat
  power : Int
deriving DecidableEq

/-- The interval of reals that round to a double, scaled by four and a power of two: the ends and
the double itself over a common denominator. -/
structure Interval where
  low : Nat
  middle : Nat
  high : Nat
  denominator : Nat
  closed : Bool

/-- The interval of a double. Its ends belong to it when the significand is even. -/
def Binary.interval (value : Binary) : Interval :=
  let scale := (value.exponent - 2).toNat
  let denominator := Nat.pow 2 (2 - value.exponent).toNat
  let unit := Nat.pow 2 scale
  { low := (4 * value.significand - if value.boundary then 1 else 2) * unit
    middle := 4 * value.significand * unit
    high := (4 * value.significand + 2) * unit
    denominator := denominator
    closed := value.significand % 2 = 0 }

/-- A grid point lies in the interval. -/
def Interval.contains (interval : Interval) (point : Digits) : Bool :=
  let scaled := point.digits * Nat.pow 10 point.power.toNat * interval.denominator
  let shift := Nat.pow 10 (-point.power).toNat
  if interval.closed then interval.low * shift ≤ scaled && scaled ≤ interval.high * shift
  else interval.low * shift < scaled && scaled < interval.high * shift

/-- The grid point at or below the double, on the grid of a power of ten, and twice the remainder
over the size of a grid step. -/
def Interval.floor (interval : Interval) (power : Int) : Digits × Nat × Nat :=
  let numerator := interval.middle * Nat.pow 10 (-power).toNat
  let step := interval.denominator * Nat.pow 10 power.toNat
  (⟨numerator / step, power⟩, 2 * (numerator % step), step)

/-- The point of a grid that stands for the double: the nearer of its two neighbours that lies in
the interval. Of two equally near ones the even one is taken. -/
def Interval.pick (interval : Interval) (power : Int) : Option Digits :=
  let (below, twice, step) := interval.floor power
  let above : Digits := ⟨below.digits + 1, power⟩
  let nearer :=
    if twice < step then below
    else if step < twice then above
    else if below.digits % 2 = 0 then below else above
  let other := if nearer = below then above else below
  if interval.contains nearer then some nearer
  else if interval.contains other then some other
  else none

/-- Tries finer and finer grids. -/
def Interval.search (interval : Interval) : Nat → Int → Digits
  | 0, power => (interval.floor power).1
  | tries + 1, power =>
    match interval.pick power with
    | some digits => digits
    | none => interval.search tries (power - 1)

/-- Moves zeros at the end of the digits into the power. -/
def Digits.trim : Nat → Digits → Digits
  | 0, value => value
  | steps + 1, value =>
    if value.digits ≠ 0 ∧ value.digits % 10 = 0 then
      trim steps ⟨value.digits / 10, value.power + 1⟩
    else value

/-- The shortest digits of a double. Seventeen digits always suffice. -/
def Binary.shortest (value : Binary) : Digits :=
  let interval := value.interval
  let exponent := decimalExponent interval.middle interval.denominator
  (interval.search 17 exponent).trim 20

/-! ### Layouts -/

/-- How the digits of a double are laid out: positionally when the decimal exponent lies between
two bounds, and otherwise with an exponent. -/
structure Layout where
  leastPositional : Int
  greatestPositional : Int
  signsPositiveExponents : Bool

/-- Digits around a decimal point, at least one on either side. -/
def positional (digits : List Char) (exponent : Int) : String :=
  if exponent < 0 then
    "0." ++ String.ofList (List.replicate (-exponent - 1).toNat '0' ++ digits)
  else
    let whole := exponent.toNat + 1
    let padded := digits ++ List.replicate (whole - digits.length) '0'
    let fraction := padded.drop whole
    String.ofList (padded.take whole) ++ "." ++
      if fraction.isEmpty then "0" else String.ofList fraction

/-- One digit, the others after a point, and an exponent. -/
def Layout.scientific (layout : Layout) (digits : List Char) (exponent : Int) : String :=
  let sign := if 0 ≤ exponent && layout.signsPositiveExponents then "+" else ""
  let fraction := digits.drop 1
  String.ofList (digits.take 1) ++
    (if fraction.isEmpty then "" else "." ++ String.ofList fraction) ++
    "e" ++ sign ++ toString exponent

/-- The text of a positive finite double. -/
def Layout.binaryText (layout : Layout) (value : Binary) : String :=
  let shortest := value.shortest
  let digits := Nat.toDigits 10 shortest.digits
  let exponent := shortest.power + digits.length - 1
  if layout.leastPositional ≤ exponent && exponent ≤ layout.greatestPositional then
    positional digits exponent
  else layout.scientific digits exponent

/-- The text of a double. -/
def Layout.text (layout : Layout) (number : Float) : String :=
  let sign := if isNegative number then "-" else ""
  match magnitude number with
  | .zero => sign ++ "0.0"
  | .finite value => sign ++ layout.binaryText value
  | .infinite => sign ++ "inf"
  | .notANumber => "NaN"

/-- Doubles in documents: positional from `1e-5` up to below `1e16`, and a signed exponent
beyond. -/
def document : Layout := ⟨-5, 15, true⟩

/-- Doubles in messages: positional from `1e-4` up to below `1e16`, and only negative exponents
carry a sign. -/
def message : Layout := ⟨-4, 15, false⟩

end PredicateWire.Decimal
