/-! # The shortest decimal of a binary number

A finite double is `m · 2 ^ q`. The reals that round to it form an interval around it, whose ends
belong to it when `m` is even. Among the grids of the multiples of a power of ten the coarsest one
with a point in that interval gives the fewest digits (`Binary.shortest`); of two points on it the
nearer one is taken, and of two equally near the even one. All is exact arithmetic on naturals. -/

namespace ArtifactFetch.Decimal

/-- The magnitude `mantissa · 2 ^ exponent` of a finite double. `narrowBelow` says that the next
double below is half as far away as the next one above. -/
structure Binary where
  mantissa : Nat
  exponent : Int
  narrowBelow : Bool
  deriving DecidableEq, Repr

/-- The decimal `digits · 10 ^ exponent`. -/
structure Scaled where
  digits : Nat
  exponent : Int
  deriving DecidableEq, Repr

namespace Binary

/-- The magnitude that the low 63 bits of a double's word stand for. -/
def ofBits (bits : Nat) : Binary :=
  let field : Nat := bits >>> 52 % 0x800
  let fraction : Nat := bits % 0x10000000000000
  if field = 0 then ⟨fraction, -1074, false⟩
  else ⟨fraction + 0x10000000000000, (field : Int) - 1075, fraction == 0 && 1 < field⟩

/-- `q · 2 ^ e · 10 ^ (-k)` as a fraction. -/
def ratio (e k : Int) (q : Nat) : Nat × Nat :=
  ((q <<< e.toNat) * Nat.pow 10 (-k).toNat, (1 <<< (-e).toNat) * Nat.pow 10 k.toNat)

/-- The points of the grid of multiples of `10 ^ k` that round to the number, nearest first. The
interval is measured in quarters of the last binary place, so that both halves are whole. -/
def hit (b : Binary) (k : Int) : Option Nat :=
  let (value, den) := ratio (b.exponent - 2) k (4 * b.mantissa)
  let (low, _) := ratio (b.exponent - 2) k (4 * b.mantissa - if b.narrowBelow then 1 else 2)
  let (high, _) := ratio (b.exponent - 2) k (4 * b.mantissa + 2)
  let inside := fun d : Nat =>
    if b.mantissa % 2 = 0 then low ≤ d * den && d * den ≤ high
    else low < d * den && d * den < high
  let down := value / den
  let up := down + 1
  let below := value - down * den
  let above := up * den - value
  let downFirst := below < above || (below == above && down % 2 == 0)
  match inside down, inside up with
  | true, true => some (if downFirst then down else up)
  | true, false => some down
  | false, true => some up
  | false, false => none

/-- The shortest decimal that reads back as the number. Exponents are tried from the coarsest grid
that a double can need to the finest. -/
def shortest (b : Binary) : Scaled :=
  let grids := (List.range 660).map fun i : Nat => (310 : Int) - (i : Int)
  match grids.findSome? fun k => (b.hit k).map fun d => (⟨d, k⟩ : Scaled) with
  | some s => s
  | none => ⟨b.mantissa, 0⟩

end Binary

/-- How a decimal is laid out: which decimal exponents are written without an exponent part. -/
structure Layout where
  leastPlain : Int
  greatestPlain : Int

namespace Layout

/-- The exponent part: its sign is always written. -/
def exponentPart (e : Int) : List Char :=
  'e' :: (if e < 0 then '-' else '+') :: Nat.toDigits 10 e.natAbs

/-- `d` written out. A plain number always has a fraction, `.0` if it is whole. -/
def write (l : Layout) (d : Scaled) : List Char :=
  if d.digits = 0 then ['0', '.', '0'] else
  let ds := Nat.toDigits 10 d.digits
  let point : Int := ds.length + d.exponent
  let e := point - 1
  if l.leastPlain ≤ e ∧ e ≤ l.greatestPlain then
    if 0 ≤ d.exponent then ds ++ List.replicate d.exponent.toNat '0' ++ ['.', '0']
    else if 0 < point then ds.take point.toNat ++ '.' :: ds.drop point.toNat
    else '0' :: '.' :: List.replicate (-point).toNat '0' ++ ds
  else match ds with
    | [] => []
    | [c] => c :: exponentPart e
    | c :: cs => c :: '.' :: cs ++ exponentPart e

end Layout

end ArtifactFetch.Decimal
