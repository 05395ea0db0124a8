import Mathlib.Tactic.IntervalCases
import SpendRules.Json.Value
import SpendRules.Proofs.Text.Digits

namespace SpendRules
namespace Json

/-!
# Tokens are found again

The characters of a token are scanned as this token, whatever follows.  Only a number
goes on as long as there are characters that numbers consist of, so that what follows
it has to begin with another one.

In a string, every character is written in a form that is read as this character.
-/

/-- No number goes on here. -/
def EndsNumber (chars : List Char) : Prop :=
  chars.takeWhile isNumberChar = []

theorem endsNumber_cons {char : Char} (other : isNumberChar char = false) (rest : List Char) :
    EndsNumber (char :: rest) :=
  List.takeWhile_cons_of_neg (Bool.eq_false_iff.mp other)

/-- Characters of one kind are cut off where another kind begins. -/
private theorem cut_append {kind : Char -> Bool} {front rest : List Char}
    (all : front.all kind = true) (ends : rest.takeWhile kind = []) :
    (front ++ rest).takeWhile kind = front ∧ (front ++ rest).dropWhile kind = rest := by
  have cut := List.takeWhile_append_dropWhile (p := kind) (l := rest)
  rw [ends, List.nil_append] at cut
  rw [List.all_eq_true] at all
  rw [List.takeWhile_append_of_pos all, List.dropWhile_append_of_pos all, ends, cut,
    List.append_nil]
  exact ⟨rfl, rfl⟩

/-! ## Numbers -/

section

variable {chars : List Char}

private theorem all_of_isDigit (digits : chars.all Char.isDigit = true) :
    chars.all isNumberChar = true := by
  rw [List.all_eq_true] at digits ⊢
  intro char member
  rw [isNumberChar, digits char member]
  rfl

private theorem all_of_isExponent (exponent : isExponent chars = true) :
    chars.all isNumberChar = true := by
  unfold isExponent at exponent
  split at exponent
  all_goals
    have digits := all_of_isDigit (Bool.and_eq_true_iff.mp exponent).2
    simpa [isNumberChar] using digits

/-- Behind the whole part stand only a fraction and an exponent. -/
private theorem all_of_isNumberTail (tail : isNumberTail chars = true) :
    chars.all isNumberChar = true := by
  have ended {after : List Char} (valid : forall mark rest, after = mark :: rest ->
      ((mark == 'e' || mark == 'E') && isExponent rest) = true) :
        after.all isNumberChar = true := by
    cases after with
    | nil => rfl
    | cons mark rest =>
        rcases Bool.and_eq_true_iff.mp (valid mark rest rfl) with ⟨isMark, exponent⟩
        rw [List.all_cons, all_of_isExponent exponent, isNumberChar, Bool.or_assoc _ (mark == 'e'),
          isMark, Bool.or_true]
        rfl
  unfold isNumberTail at tail
  split at tail
  · next fraction =>
      dsimp only at tail
      by_cases missing : (fraction.takeWhile Char.isDigit).isEmpty = true
      · rw [if_pos missing] at tail
        cases tail
      · rw [if_neg missing] at tail
        have behind : (fraction.dropWhile Char.isDigit).all isNumberChar = true := by
          refine ended fun mark rest same => ?_
          rw [same] at tail
          exact tail
        rw [List.all_cons, ← List.takeWhile_append_dropWhile (p := Char.isDigit) (l := fraction),
          List.all_append, all_of_isDigit List.all_takeWhile, behind]
        rfl
  · refine ended fun mark rest same => ?_
    subst same
    exact tail

/-- A number consists of the characters of numbers. -/
private theorem all_of_isNumber (number : isNumber chars = true) :
    chars.all isNumberChar = true := by
  have unsigned {chars : List Char} (valid : (isWholePart (chars.takeWhile Char.isDigit) &&
      isNumberTail (chars.dropWhile Char.isDigit)) = true) : chars.all isNumberChar = true := by
    rw [← List.takeWhile_append_dropWhile (p := Char.isDigit) (l := chars), List.all_append,
      all_of_isDigit List.all_takeWhile, all_of_isNumberTail (Bool.and_eq_true_iff.mp valid).2]
    rfl
  unfold isNumber at number
  dsimp only at number
  split at number
  · rw [List.all_cons, unsigned number]
    rfl
  · exact unsigned number

end

/-! ## Integers -/

private theorem isWholePart_decimal (value : Nat) : isWholePart (Text.decimal value) = true := by
  rcases Text.exists_digitsOnto (by decide : 1 < 10) value [] with
    ⟨first, more, same, digit, leading⟩
  rw [Text.decimal, same]
  cases first with
  | zero =>
      rw [(leading rfl).2]
      rfl
  | succ first =>
      have small : first < 9 := Nat.lt_of_succ_lt_succ digit
      interval_cases first <;> rfl

private theorem decimal_ne_minus (value : Nat) (rest : List Char) :
    Text.decimal value ≠ '-' :: rest := by
  intro same
  have digits := Text.all_isDigit_decimal value
  rw [same] at digits
  cases digits

theorem isNumber_integerLiteral (value : Int) : isNumber (integerLiteral value) = true := by
  have unsigned (magnitude : Nat) :
      (isWholePart ((Text.decimal magnitude).takeWhile Char.isDigit) &&
      isNumberTail ((Text.decimal magnitude).dropWhile Char.isDigit)) = true := by
    have cut := cut_append (Text.all_isDigit_decimal magnitude)
      (List.takeWhile_nil (p := Char.isDigit))
    rw [List.append_nil] at cut
    rw [cut.1, cut.2, isWholePart_decimal]
    rfl
  unfold isNumber integerLiteral
  by_cases negative : value < 0
  · rw [if_pos negative]
    exact unsigned _
  · rw [if_neg negative]
    dsimp only
    split
    · next rest same => exact absurd same (decimal_ne_minus _ rest)
    · exact unsigned _

/-- The characters of an integer denote it. -/
theorem integer_integerLiteral (value : Int) : integer? (integerLiteral value) = some value := by
  unfold integer? integerLiteral
  by_cases negative : value < 0
  · rcases Nat.exists_eq_succ_of_ne_zero (Int.natAbs_ne_zero.mpr (Int.ne_of_lt negative)) with
      ⟨magnitude, same⟩
    rw [if_pos negative, same]
    simp only [Text.numeral_decimal, Option.some.injEq]
    omega
  · rw [if_neg negative]
    split
    · next rest same => exact absurd same (decimal_ne_minus _ rest)
    · rw [Text.numeral_decimal, Option.map_some, Option.some.injEq]
      exact Int.natAbs_of_nonneg (Int.not_lt.mp negative)

/-! ## Strings -/

section

variable {char letter : Char} (rest : List Char) (text : Option (List Char))

private theorem scanString_escape (named : escaped? letter = some char) :
    scanString ('\\' :: letter :: rest) text = scanString rest (extend char text) := by
  rw [scanString]
  · rw [named]
  · rintro a b c d tail rfl
    cases named

private theorem scanString_unicode (control : char < ' ') :
    scanString ('\\' :: 'u' :: '0' :: '0' :: Text.digitChar (char.toNat / 16) ::
      Text.digitChar (char.toNat % 16) :: rest)
        text = scanString rest (extend char text) := by
  have numbered : forall unit, unit < 32 ->
      Text.numeral? 16 ['0', '0', Text.digitChar (unit / 16), Text.digitChar (unit % 16)] =
          some unit ∧
        isHighSurrogate unit = false ∧ isLowSurrogate unit = false := by decide
  rcases numbered char.toNat control with ⟨denoted, high, low⟩
  rw [scanString, denoted]
  dsimp only
  rw [high, low, Char.ofNat_toNat]
  rfl

private theorem scanString_plain (noQuote : char ≠ '"') (noEscape : char ≠ '\\')
    (noControl : ¬ char < ' ') :
    scanString (char :: rest) text = scanString rest (extend char text) := by
  rw [scanString, if_neg noControl]
  · exact noQuote
  · exact fun _ _ _ _ _ same => absurd same noEscape
  · exact fun _ _ same => absurd same noEscape

/-- A character is read from the form in which it is written. -/
theorem scanString_quotedChar (char : Char) :
    scanString (quotedChar char ++ rest) text = scanString rest (extend char text) := by
  unfold quotedChar
  -- Seven characters have an escape of one letter.
  iterate 7
    split
    · next same =>
        subst same
        exact scanString_escape rest text rfl
  split
  · next control => exact scanString_unicode rest text control
  · next noQuote noEscape _ _ _ _ _ noControl =>
      exact scanString_plain rest text noQuote noEscape noControl

/-- Half of a surrogate pair in front of the closing quote leaves a string that
denotes nothing. -/
private theorem scanString_unpaired :
    scanString ('\\' :: 'u' :: 'd' :: '8' :: '0' :: '0' :: '"' :: rest) text =
      some (none, rest) := by
  have half : Text.numeral? 16 ['d', '8', '0', '0'] = some 0xd800 := by decide
  have high : isHighSurrogate 0xd800 = true := by decide
  rw [scanString, half]
  dsimp only
  rw [if_pos high, scanString]
  rfl

end

/-- The text of a string is read up to its closing quote. -/
theorem scanString_quoted (chars rest text : List Char) :
    scanString (chars.flatMap quotedChar ++ '"' :: rest) (some text) =
      some (some (text.reverse ++ chars), rest) := by
  induction chars generalizing text with
  | nil =>
      rw [List.flatMap_nil, List.nil_append, List.append_nil, scanString]
      rfl
  | cons char chars inductionHypothesis =>
      rw [List.flatMap_cons, List.append_assoc, scanString_quotedChar]
      exact (inductionHypothesis (char :: text)).trans (by simp)

/-! ## Tokens -/

/-- Where a character of a number stands, a number is read as far as it goes. -/
private theorem scanOnto_numberChar {char : Char} (isPart : isNumberChar char = true)
    (rest : List Char) (found : List Token) :
    scanOnto (char :: rest) found =
      if isNumber (char :: rest.takeWhile isNumberChar) then
        scanOnto (rest.dropWhile isNumberChar)
          (.number (char :: rest.takeWhile isNumberChar) :: found)
      else none := by
  have noBlank : ¬ isBlank char = true := by
    intro blank
    simp only [isBlank, Bool.or_eq_true, beq_iff_eq] at blank
    rcases blank with ((rfl | rfl) | rfl) | rfl <;> cases isPart
  rw [scanOnto]
  · rw [if_neg noBlank, if_pos isPart]
  -- No other token begins with a character of numbers.
  all_goals
    intros
    subst_vars
    cases isPart

private theorem scanOnto_number {literal rest : List Char} (number : isNumber literal = true)
    (ends : EndsNumber rest) (found : List Token) :
    scanOnto (literal ++ rest) found = scanOnto rest (.number literal :: found) := by
  have all := all_of_isNumber number
  cases literal with
  | nil => cases number
  | cons char more =>
      rw [List.all_cons, Bool.and_eq_true] at all
      rcases cut_append all.2 ends with ⟨taken, left⟩
      rw [List.cons_append, scanOnto_numberChar all.1, taken, left, if_pos number]

private theorem scanOnto_string {chars rest : List Char} {text : Option (List Char)}
    (scanned : scanString chars (some []) = some (text, rest)) (found : List Token) :
    scanOnto ('"' :: chars) found = scanOnto rest (.string (text.map String.ofList) :: found) := by
  rw [scanOnto]
  split
  · next same =>
      rw [scanned] at same
      cases same
      rfl
  · next same =>
      rw [scanned] at same
      cases same

/-- A token is scanned from its characters. -/
theorem scanOnto_chars (token : Token) {rest : List Char}
    (separated : forall literal, token = .number literal -> isNumber literal = true ∧
      EndsNumber rest)
    (found : List Token) :
    scanOnto (token.chars ++ rest) found = scanOnto rest (token :: found) := by
  cases token with
  | openArray | closeArray | openObject | closeObject | comma | colon | null =>
      rw [Token.chars]
      exact scanOnto.eq_def _ _
  | boolean value => cases value <;> exact scanOnto.eq_def _ _
  | number literal =>
      exact scanOnto_number (separated literal rfl).1 (separated literal rfl).2 found
  | string text =>
      cases text with
      | none =>
          exact scanOnto_string (scanString_unpaired rest (some [])) found
      | some text =>
          have scanned := scanString_quoted text.toList rest []
          rw [List.reverse_nil, List.nil_append] at scanned
          rw [Token.chars, List.cons_append, List.append_assoc, List.singleton_append,
            scanOnto_string scanned, Option.map_some, String.ofList_toList]

end Json
end SpendRules
