import Inspector.Kind

/-!
Floating-point numbers of both precisions: conversions, and the remainder of a division.
A number is taken apart into sign, mantissa and exponent, and put together again by rounding
to the nearest number of the format, ties to even.
-/

namespace Inspector

open Float.Model (Format UnpackedFloat)

namespace FloatKind

abbrev Carrier : FloatKind → Type
  | single => Float32
  | double => Float

abbrev format : FloatKind → Format
  | single => .binary32
  | double => .binary64

def unpack : (k : FloatKind) → k.Carrier → UnpackedFloat
  | single, x => .unpack .binary32 (Float32.toBits x).toBitVec
  | double, x => .unpack .binary64 (Float.toBits x).toBitVec

def pack : (k : FloatKind) → UnpackedFloat → k.Carrier
  | single, u => Float32.ofBits (.ofBitVec (u.pack .binary32))
  | double, u => Float.ofBits (.ofBitVec (u.pack .binary64))

def ofInt (k : FloatKind) (v : Int) : k.Carrier :=
  k.pack (.ofInt k.format v)

def round (k : FloatKind) : UnpackedFloat → UnpackedFloat
  | .finite s m e _ => .round k.format s m e
  | u => u

def convert (k : FloatKind) (j : FloatKind) (x : k.Carrier) : j.Carrier :=
  j.pack (j.round (k.unpack x))

/-- Drop the fraction, then move into the range `lo` to `hi`; NaN becomes zero. -/
def truncate (k : FloatKind) (lo hi : Int) (x : k.Carrier) : Int :=
  max lo (min hi ((k.unpack x).toInt lo hi))

/--
The remainder of the division that drops the fraction of the quotient. It is exact and has the
sign of the dividend, a zero remainder too.
-/
def remainder (k : FloatKind) : UnpackedFloat → UnpackedFloat → UnpackedFloat
  | .notANumber, _ | _, .notANumber | .infinity _, _ | _, .zero _ => .notANumber
  | .zero s, _ => .zero s
  | x, .infinity _ => x
  | .finite s m e _, .finite _ n f _ =>
    let low := min e f
    match (m <<< (e - low).toNat) % (n <<< (f - low).toNat) with
    | 0 => .zero s
    | r + 1 => .round k.format s (r + 1) low

def rem (k : FloatKind) (x y : k.Carrier) : k.Carrier :=
  k.pack (k.remainder (k.unpack x) (k.unpack y))

def add : (k : FloatKind) → k.Carrier → k.Carrier → k.Carrier
  | single, x, y => Float32.add x y
  | double, x, y => Float.add x y

def sub : (k : FloatKind) → k.Carrier → k.Carrier → k.Carrier
  | single, x, y => Float32.sub x y
  | double, x, y => Float.sub x y

def mul : (k : FloatKind) → k.Carrier → k.Carrier → k.Carrier
  | single, x, y => Float32.mul x y
  | double, x, y => Float.mul x y

def div : (k : FloatKind) → k.Carrier → k.Carrier → k.Carrier
  | single, x, y => Float32.div x y
  | double, x, y => Float.div x y

def beq : (k : FloatKind) → k.Carrier → k.Carrier → Bool
  | single, x, y => Float32.beq x y
  | double, x, y => Float.beq x y

def lt : (k : FloatKind) → k.Carrier → k.Carrier → Bool
  | single, x, y => Float32.lt x y
  | double, x, y => Float.lt x y

def le : (k : FloatKind) → k.Carrier → k.Carrier → Bool
  | single, x, y => Float32.le x y
  | double, x, y => Float.le x y

end FloatKind

end Inspector
