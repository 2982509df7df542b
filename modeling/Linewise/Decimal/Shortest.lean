/-!
The shortest decimal numeral that reads back as a given floating-point number, in exact arithmetic.
A number is read back when it lies in the interval of the reals that round to it. For one digit,
two digits and so on, the neighbours of the number on that decimal grid are tried, and the nearer of
those in the interval is taken.
-/
namespace Linewise.Decimal

/-- The digits of a numeral as one number, and the power of ten they are multiplied by. -/
structure Numeral where
  digits : Nat
  exponent : Int
deriving DecidableEq, Repr

/-- A positive binary number `mantissa * 2 ^ exponent`, and whether the next one below it is half
as far away as the next one above. -/
structure Binary where
  mantissa : Nat
  exponent : Int
  narrowBelow : Bool

/-- The parts of a positive finite number. -/
def Binary.ofBits (bits : Nat) : Binary :=
  let fraction := bits % Nat.pow 2 52
  let biased : Nat := bits / Nat.pow 2 52 % Nat.pow 2 11
  if biased = 0 then ⟨fraction, -1074, false⟩
  else ⟨fraction + Nat.pow 2 52, (biased : Int) - 1075, fraction = 0 ∧ biased ≠ 1⟩

/-- The whole part of `n * 10 ^ (-k) / d`. -/
private def scaled (n d : Nat) (k : Int) : Nat :=
  if 0 ≤ k then n / (d * Nat.pow 10 k.toNat) else n * Nat.pow 10 (-k).toNat / d

/-- Compares `digits * 10 ^ k` with `n / d`. -/
private def compareTo (digits : Nat) (k : Int) (n d : Nat) : Ordering :=
  if 0 ≤ k then compare (digits * Nat.pow 10 k.toNat * d) n
  else compare (digits * d) (n * Nat.pow 10 (-k).toNat)

private def decimalLength (n : Nat) : Nat := (Nat.toDigits 10 n).length

/-- A numeral on the grid of one digit may be the next power of ten. -/
private def Numeral.normal (x : Numeral) : Numeral :=
  if x.digits = 10 then ⟨1, x.exponent + 1⟩ else x

/-- The shortest numeral that reads back as a binary number. -/
def Binary.shortest (b : Binary) : Numeral :=
  -- The number and the ends of its interval, over the common denominator `d`.
  let up := (max b.exponent 0).toNat
  let down := (max (-b.exponent) 0).toNat
  let d := 4 * Nat.pow 2 down
  let n := 4 * b.mantissa * Nat.pow 2 up
  let high := n + 2 * Nat.pow 2 up
  let low := n - (if b.narrowBelow then 1 else 2) * Nat.pow 2 up
  let closed := b.mantissa % 2 = 0
  let inside (digits : Nat) (k : Int) : Bool :=
    (match compareTo digits k low d with | .gt => true | .eq => closed | .lt => false) &&
      (match compareTo digits k high d with | .lt => true | .eq => closed | .gt => false)
  -- The place of the first digit, found from the whole part or from the reciprocal.
  let lead : Int :=
    if d ≤ n then decimalLength (n / d)
    else
      let guess := -(decimalLength (d / n) : Int)
      if scaled n d guess = 0 then guess else guess + 1
  let rec go : Nat → Nat → Numeral
    | 0, _ => ⟨b.mantissa, 0⟩
    | rounds + 1, count =>
        let k := lead - count
        let below := scaled n d k
        let above := below + 1
        match inside below k, inside above k with
        | true, false => ⟨below, k⟩
        | false, true => ⟨above, k⟩
        | true, true =>
            -- Nearer of the two: compare twice the number with their sum.
            match compareTo (below + above) k (2 * n) d with
            | .gt => ⟨below, k⟩
            | .lt => ⟨above, k⟩
            | .eq => if below % 2 = 0 then ⟨below, k⟩ else ⟨above, k⟩
        | false, false => go rounds (count + 1)
  (go 18 1).normal

/-- Zeros. -/
private def zeros (n : Nat) : String := String.ofList (List.replicate n '0')

/-- A numeral as text. It is positional when its point falls within 16 digits or at most five places
before them, and always has a fraction then; otherwise it has an exponent with its sign. -/
def Numeral.text (x : Numeral) : String :=
  let digits := toString x.digits
  let length := digits.length
  let point : Int := length + x.exponent
  if 0 ≤ x.exponent ∧ point ≤ 16 then digits ++ zeros x.exponent.toNat ++ ".0"
  else if 0 < point ∧ point ≤ 16 then
    String.ofList (digits.toList.take point.toNat) ++ "." ++
      String.ofList (digits.toList.drop point.toNat)
  else if -5 < point ∧ point ≤ 0 then "0." ++ zeros (-point).toNat ++ digits
  else
    let fraction := if length = 1 then "" else "." ++ String.ofList (digits.toList.drop 1)
    let power := point - 1
    String.ofList (digits.toList.take 1) ++ fraction ++ (if 0 ≤ power then "e+" else "e") ++
      toString power

/-- A finite floating-point number as text. -/
def ofFloat (x : Float) : String :=
  let bits := x.toBits.toNat
  let magnitude := bits % Nat.pow 2 63
  let sign := if bits = magnitude then "" else "-"
  if magnitude = 0 then sign ++ "0.0"
  else sign ++ (Binary.ofBits magnitude).shortest.text

end Linewise.Decimal
