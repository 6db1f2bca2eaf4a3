/-!
# Code points

A text is a row of code points. All of them are characters but the surrogates, which are halves of pairs of
sixteen-bit units. A string holds a code point that is no character as two characters: a mark, and a private
character that tells which surrogate it is. The mark is the last code point of all and is held in the same
way, so that every row of code points has one form.

Whatever counts, cuts, compares or encodes single code points goes through this module; joining texts and
looking for characters of ASCII needs nothing of it.

## Main definitions
- `points`, `ofPoints`: the code points of a text, and back
- `glyphs`: the texts of the single code points
- `size`, `takeFirst`, `precedes`: counting, cutting and comparing

## Main statements
- `pointsOf_flatMap_held`: the code points that were written are read back
- `flatten_glyphsOf`: nothing is lost when a text is cut
-/

namespace ServerTree.Text

/-- The character that announces a code point held as the character after it. -/
def mark : Char := Char.ofNat 0x10FFFF

/-- Whether a code point is half of a pair. -/
def isSurrogate (n : Nat) : Bool := decide (0xD800 ≤ n) && decide (n ≤ 0xDFFF)

/-- The characters that hold a code point. -/
def held (n : Nat) : List Char :=
  if isSurrogate n then [mark, Char.ofNat (n + 0x800)]
  else if n = 0x10FFFF then [mark, Char.ofNat 0xE800]
  else [Char.ofNat n]

/-- The code point that the character after a mark tells. -/
def marked (c : Char) : Nat :=
  if c.toNat = 0xE800 then 0x10FFFF else c.toNat - 0x800

/-- The code points that characters hold. -/
def pointsOf : List Char → List Nat
  | [] => []
  | [c] => [c.toNat]
  | c :: d :: r => if c = mark then marked d :: pointsOf r else c.toNat :: pointsOf (d :: r)

/-- The characters of each single code point. -/
def glyphsOf : List Char → List (List Char)
  | [] => []
  | [c] => [[c]]
  | c :: d :: r => if c = mark then [c, d] :: glyphsOf r else [c] :: glyphsOf (d :: r)

/-- The code points of a text. -/
def points (s : String) : List Nat := pointsOf s.toList

/-- The text of code points. -/
def ofPoints (ns : List Nat) : String := String.ofList (ns.flatMap held)

/-- The texts of the single code points of a text. -/
def glyphs (s : String) : List String := (glyphsOf s.toList).map String.ofList

/-- How many code points a text has. -/
def size (s : String) : Nat := (glyphsOf s.toList).length

/-- The first code points of a list of characters. -/
def takeFirst (n : Nat) (cs : List Char) : List Char := ((glyphsOf cs).take n).flatten

/-- Whether a text does not come after another in the order of code points. -/
def precedes (a b : String) : Bool := !(points b).lex (points a) Nat.blt

/-- Texts in the order of their code points. -/
def sorted (xs : List String) : List String := xs.mergeSort precedes

theorem flatten_glyphsOf (cs : List Char) : (glyphsOf cs).flatten = cs := by
  fun_induction glyphsOf cs <;> simp_all

theorem toNat_ofNat {n : Nat} (h : n.isValidChar) : (Char.ofNat n).toNat = n := by
  rw [Char.ofNat, dif_pos h]
  rfl

theorem pointsOf_held_append {n : Nat} (h : n ≤ 0x10FFFF) (cs : List Char) :
    pointsOf (held n ++ cs) = n :: pointsOf cs := by
  unfold held
  by_cases hs : isSurrogate n = true
  · have hv : (n + 0x800).isValidChar := by
      simp [isSurrogate, Nat.isValidChar] at *; omega
    have := toNat_ofNat hv
    simp only [isSurrogate, Bool.and_eq_true, decide_eq_true_eq] at hs
    simp [isSurrogate, hs, pointsOf, marked, this]
    omega
  · by_cases hm : n = 0x10FFFF
    · subst hm
      simp [isSurrogate, pointsOf, marked, toNat_ofNat (n := 0xE800) (by decide)]
    · have hv : n.isValidChar := by
        simp [isSurrogate, Nat.isValidChar] at *; omega
      have hn := toNat_ofNat hv
      have hne : Char.ofNat n ≠ mark := by
        intro he
        have := congrArg Char.toNat he
        rw [hn, mark, toNat_ofNat (by decide)] at this
        exact hm this
      cases cs <;> simp [hs, hm, pointsOf, hn, hne]

/-- The code points that were written are read back. -/
theorem pointsOf_flatMap_held (ns : List Nat) (h : ∀ n ∈ ns, n ≤ 0x10FFFF) :
    pointsOf (ns.flatMap held) = ns := by
  induction ns with
  | nil => rfl
  | cons n ns ih =>
    rw [List.flatMap_cons, pointsOf_held_append (h n (by simp)), ih fun m hm => h m (by simp [hm])]

end ServerTree.Text
