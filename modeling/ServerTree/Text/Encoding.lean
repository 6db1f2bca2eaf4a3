import ServerTree.Text.Points

/-!
# Text as bytes

UTF-8 is written code point by code point. `utf8Units` reads bytes as a row of code points and gaps: every
maximal ill-formed part gives one gap, so a strict reader refuses a row with a gap and a lenient one puts
the replacement character there. Latin-1 is the first 256 code points, one byte each.
-/

namespace ServerTree

/-- A row of octets. -/
abbrev Bytes : Type := List UInt8

namespace Text

/-! ## UTF-8 -/

/-- The bytes of one code point. -/
def utf8Point (n : Nat) : Bytes :=
  if n < 0x80 then [UInt8.ofNat n]
  else if n < 0x800 then [UInt8.ofNat (0xC0 + n / 0x40), UInt8.ofNat (0x80 + n % 0x40)]
  else if n < 0x10000 then
    [UInt8.ofNat (0xE0 + n / 0x1000), UInt8.ofNat (0x80 + n / 0x40 % 0x40), UInt8.ofNat (0x80 + n % 0x40)]
  else
    [UInt8.ofNat (0xF0 + n / 0x40000), UInt8.ofNat (0x80 + n / 0x1000 % 0x40),
      UInt8.ofNat (0x80 + n / 0x40 % 0x40), UInt8.ofNat (0x80 + n % 0x40)]

/-- The bytes of a text, unless it has a surrogate. -/
def utf8? (s : String) : Option Bytes :=
  if (points s).any isSurrogate then none else some ((points s).flatMap utf8Point)

/-- A continuation byte. -/
def isContinuation (b : UInt8) : Bool :=
  0x80 ≤ b.toNat && b.toNat ≤ 0xBF

/-- Whether `c` may follow the first byte `b` of a sequence of three bytes. Surrogates are only written
where they are accepted. -/
def mayFollowThree (surrogates : Bool) (b c : UInt8) : Bool :=
  isContinuation c && !(b == 0xE0 && c.toNat < 0xA0) && !(!surrogates && b == 0xED && c.toNat > 0x9F)

/-- Whether `c` may follow the first byte `b` of a sequence of four bytes. -/
def mayFollowFour (b c : UInt8) : Bool :=
  isContinuation c && !(b == 0xF0 && c.toNat < 0x90) && !(b == 0xF4 && c.toNat > 0x8F)

/-- The six payload bits of a continuation byte. -/
def payload (b : UInt8) : Nat := b.toNat % 0x40

/-- The code points that the bytes stand for. Each maximal ill-formed part becomes one `none`. -/
def utf8Units (surrogates : Bool) : Bytes → List (Option Nat)
  | [] => []
  | b :: r =>
    if b.toNat < 0x80 then some b.toNat :: utf8Units surrogates r
    else if 0xC2 ≤ b.toNat ∧ b.toNat ≤ 0xDF then
      match r with
      | [] => [none]
      | c :: r₁ =>
        if isContinuation c then
          some ((b.toNat - 0xC0) * 0x40 + payload c) :: utf8Units surrogates r₁
        else none :: utf8Units surrogates (c :: r₁)
    else if 0xE0 ≤ b.toNat ∧ b.toNat ≤ 0xEF then
      match r with
      | [] => [none]
      | [c] => if mayFollowThree surrogates b c then [none] else none :: utf8Units surrogates [c]
      | c :: d :: r₂ =>
        if !mayFollowThree surrogates b c then none :: utf8Units surrogates (c :: d :: r₂)
        else if isContinuation d then
          some ((b.toNat - 0xE0) * 0x1000 + payload c * 0x40 + payload d) :: utf8Units surrogates r₂
        else none :: utf8Units surrogates (d :: r₂)
    else if 0xF0 ≤ b.toNat ∧ b.toNat ≤ 0xF4 then
      match r with
      | [] => [none]
      | [c] => if mayFollowFour b c then [none] else none :: utf8Units surrogates [c]
      | [c, d] =>
        if !mayFollowFour b c then none :: utf8Units surrogates [c, d]
        else if isContinuation d then [none] else none :: utf8Units surrogates [d]
      | c :: d :: e :: r₃ =>
        if !mayFollowFour b c then none :: utf8Units surrogates (c :: d :: e :: r₃)
        else if !isContinuation d then none :: utf8Units surrogates (d :: e :: r₃)
        else if isContinuation e then
          some ((b.toNat - 0xF0) * 0x40000 + payload c * 0x1000 + payload d * 0x40 + payload e)
            :: utf8Units surrogates r₃
        else none :: utf8Units surrogates (e :: r₃)
    else none :: utf8Units surrogates r
termination_by bs => bs.length

/-- The code point that stands for an ill-formed part. -/
def replacementPoint : Nat := 0xFFFD

/-- Reads UTF-8, refusing ill-formed bytes. -/
def utf8Decode? (bs : Bytes) : Option String :=
  ((utf8Units false bs).mapM id).map ofPoints

/-- Reads UTF-8 in which surrogates may be written like characters. -/
def utf8DecodeWide? (bs : Bytes) : Option String :=
  ((utf8Units true bs).mapM id).map ofPoints

/-- Reads UTF-8, putting the replacement character for each ill-formed part. -/
def utf8DecodeLossy (bs : Bytes) : String :=
  ofPoints ((utf8Units false bs).map (·.getD replacementPoint))

/-! ## Latin-1 -/

/-- The text of Latin-1 bytes. -/
def latin1Decode (bs : Bytes) : String :=
  String.ofList (bs.map fun b => Char.ofNat b.toNat)

/-- The Latin-1 bytes of a list of characters, when every one has a byte. -/
def latin1Chars? : List Char → Option Bytes
  | [] => some []
  | c :: cs => if c.toNat < 256 then (latin1Chars? cs).map (UInt8.ofNat c.toNat :: ·) else none

/-- The Latin-1 bytes of a text, when every character has one. -/
def latin1? (s : String) : Option Bytes :=
  latin1Chars? s.toList

/-! ## UTF-16 and UTF-32 -/

/-- The sixteen-bit units of the bytes; `none` when a byte is left over. -/
def units16 (bigEndian : Bool) : Bytes → Option (List Nat)
  | [] => some []
  | [_] => none
  | a :: b :: r =>
    let u := if bigEndian then a.toNat * 256 + b.toNat else b.toNat * 256 + a.toNat
    (units16 bigEndian r).map (u :: ·)

/-- The code point of a pair of surrogates. -/
def pairPoint (high low : Nat) : Nat := 0x10000 + (high - 0xD800) * 0x400 + (low - 0xDC00)

/-- Whether two sixteen-bit units are a pair of surrogates. -/
def isPair (high low : Nat) : Bool :=
  decide (0xD800 ≤ high ∧ high ≤ 0xDBFF ∧ 0xDC00 ≤ low ∧ low ≤ 0xDFFF)

/-- The code points of sixteen-bit units. A high surrogate joins with a low one right after it; a surrogate
on its own stays one. -/
def utf16Points : List Nat → List Nat
  | [] => []
  | [u] => [u]
  | u :: v :: r =>
    if isPair u v then pairPoint u v :: utf16Points r else u :: utf16Points (v :: r)

/-- The code points of groups of four bytes; a value beyond the last code point is refused. -/
def utf32Points (bigEndian : Bool) : Bytes → Option (List Nat)
  | [] => some []
  | a :: b :: c :: d :: r =>
    let n :=
      if bigEndian then ((a.toNat * 256 + b.toNat) * 256 + c.toNat) * 256 + d.toNat
      else ((d.toNat * 256 + c.toNat) * 256 + b.toNat) * 256 + a.toNat
    if n < 0x110000 then (utf32Points bigEndian r).map (n :: ·) else none
  | _ => none

end Text

end ServerTree
