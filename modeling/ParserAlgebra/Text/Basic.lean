namespace ParserAlgebra

/-- A code point is a Unicode scalar value, or a surrogate that stands alone. -/
inductive CodePoint where
  | scalar (character : Char)
  | surrogate (offset : Fin 0x800)
  deriving DecidableEq

namespace CodePoint

instance : Coe Char CodePoint := ⟨scalar⟩

/-- This function gives the number of a code point. -/
def toNat : CodePoint → Nat
  | scalar character => character.toNat
  | surrogate offset => 0xD800 + offset.val

/-- This function gives the code point with a number, or the zero character past the last one. -/
def ofNat (number : Nat) : CodePoint :=
  if inRange : 0xD800 ≤ number ∧ number < 0xE000 then
    surrogate ⟨number - 0xD800, by omega⟩
  else
    scalar (Char.ofNat number)

theorem toNat_ofNat {number : Nat} (small : number < 0x10000) : (ofNat number).toNat = number := by
  unfold ofNat
  split
  · simp only [toNat]
    omega
  · have valid : number.isValidChar := by
      unfold Nat.isValidChar
      omega
    rw [toNat, Char.ofNat, dif_pos valid]
    rfl

theorem ofNat_toNat (point : CodePoint) : ofNat point.toNat = point := by
  cases point with
  | scalar character =>
      have outside : ¬ (0xD800 ≤ character.toNat ∧ character.toNat < 0xE000) := by
        rintro ⟨above, below⟩
        have valid : character.toNat < 0xD800 ∨ 0xDFFF < character.toNat ∧ character.toNat < 0x110000 :=
          character.valid
        omega
      simp [toNat, ofNat, outside]
  | surrogate offset =>
      have inside : 0xD800 ≤ 0xD800 + offset.val ∧ 0xD800 + offset.val < 0xE000 := by omega
      simp [toNat, ofNat, inside]

/-- This test recognizes the surrogates. -/
def isSurrogate : CodePoint → Bool
  | scalar _ => false
  | surrogate _ => true

end CodePoint

/-- A text is a sequence of code points, which lengths and positions count. -/
abbrev Text := List CodePoint

namespace Text

/-- This function reads a text off a string literal. -/
def ofString (characters : String) : Text :=
  characters.toList.map CodePoint.scalar

instance : Coe String Text := ⟨ofString⟩

/-- This function writes texts one after the other. -/
def concat (parts : List Text) : Text :=
  parts.flatten

/-- This function drops the longest end whose code points all pass a test. -/
def dropEndWhile (test : CodePoint → Bool) (text : Text) : Text :=
  (text.reverse.dropWhile test).reverse

/-- This function drops an ending if the text has it. -/
def dropEnding (ending text : Text) : Text :=
  if ending.isSuffixOf text then text.take (text.length - ending.length) else text

theorem dropEnding_append (text ending : Text) : dropEnding ending (text ++ ending) = text := by
  have found : ending.isSuffixOf (text ++ ending) = true :=
    List.isSuffixOf_iff_suffix.2 (List.suffix_append text ending)
  rw [dropEnding, if_pos found, List.length_append, Nat.add_sub_cancel, List.take_left]

theorem dropEnding_of_not {ending text : Text} (other : ¬ ending <:+ text) : dropEnding ending text = text := by
  rw [dropEnding, if_neg fun found => other (List.isSuffixOf_iff_suffix.1 found)]

end Text

end ParserAlgebra
