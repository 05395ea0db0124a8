import SpendRules.Text.Digits

namespace SpendRules
namespace Json

/-!
# Tokens of JSON

A JSON text is a sequence of tokens with white space between them.  Scanning finds the
tokens; whether they form a value is not its question.

A string token holds the text that it denotes.  An escape can name half of a surrogate pair,
which no text holds; a string with an unpaired half is a token all the same, but denotes
nothing.  A number token keeps its characters, because the same number can be written as an
integer or not.
-/

inductive Token where
  | openArray
  | closeArray
  | openObject
  | closeObject
  | comma
  | colon
  | null
  | boolean (value : Bool)
  | number (literal : List Char)
  /-- A string with the text that it denotes, if it denotes one. -/
  | string (text : Option String)
  deriving DecidableEq, Repr

def isBlank (char : Char) : Bool :=
  char == ' ' || char == '\n' || char == '\t' || char == '\r'

def isNumberChar (char : Char) : Bool :=
  char.isDigit || char == '-' || char == '+' || char == '.' || char == 'e' || char == 'E'

def isDigits (chars : List Char) : Bool :=
  !chars.isEmpty && chars.all Char.isDigit

/-- What may follow the whole part of a number after an exponent mark. -/
def isExponent : List Char -> Bool
  | '+' :: digits => isDigits digits
  | '-' :: digits => isDigits digits
  | digits => isDigits digits

/-- What may follow the whole part of a number: a fraction, an exponent, both in this order,
or nothing. -/
def isNumberTail (chars : List Char) : Bool :=
  let afterFraction? :=
    match chars with
    | '.' :: rest =>
      if (rest.takeWhile Char.isDigit).isEmpty then none else some (rest.dropWhile Char.isDigit)
    | rest => some rest
  match afterFraction? with
  | none => false
  | some [] => true
  | some (mark :: rest) => (mark == 'e' || mark == 'E') && isExponent rest

/-- The digits of the whole part of a number: no superfluous zero in front. -/
def isWholePart : List Char -> Bool
  | [] => false
  | ['0'] => true
  | '0' :: _ => false
  | _ => true

def isNumber (chars : List Char) : Bool :=
  let unsigned :=
    match chars with
    | '-' :: rest => rest
    | rest => rest
  isWholePart (unsigned.takeWhile Char.isDigit) && isNumberTail (unsigned.dropWhile Char.isDigit)

/-- The integer that the characters of a number denote.  A zero with a sign, a fraction or
an exponent makes it none. -/
def integer? (literal : List Char) : Option Int :=
  match literal with
  | '-' :: digits =>
    match Text.numeral? 10 digits with
    | some 0 => none
    | some magnitude => some (-(magnitude : Int))
    | none => none
  | digits => (Text.numeral? 10 digits).map Int.ofNat

def integerLiteral (value : Int) : List Char :=
  if value < 0 then '-' :: Text.decimal value.natAbs else Text.decimal value.natAbs

/-- The character that an escape of one letter denotes. -/
def escaped? (letter : Char) : Option Char :=
  if letter = '"' ∨ letter = '\\' ∨ letter = '/' then some letter
  else if letter = 'b' then some '\x08'
  else if letter = 'f' then some '\x0c'
  else if letter = 'n' then some '\n'
  else if letter = 'r' then some '\r'
  else if letter = 't' then some '\t'
  else none

/-- The first half of a surrogate pair. -/
def isHighSurrogate (unit : Nat) : Bool :=
  decide (0xd800 ≤ unit) && decide (unit ≤ 0xdbff)

/-- The second half of a surrogate pair. -/
def isLowSurrogate (unit : Nat) : Bool :=
  decide (0xdc00 ≤ unit) && decide (unit ≤ 0xdfff)

/-- The second half of a surrogate pair written at the front of the characters, and what follows. -/
def lowSurrogate? : List Char -> Option (Nat × List Char)
  | '\\' :: 'u' :: a :: b :: c :: d :: rest =>
    match Text.numeral? 16 [a, b, c, d] with
    | some unit => if isLowSurrogate unit then some (unit, rest) else none
    | none => none
  | _ => none

/-- A character after the text before it, which is kept in reverse order. -/
def extend (char : Char) (text : Option (List Char)) : Option (List Char) :=
  text.map (char :: ·)

theorem length_lowSurrogate {chars rest : List Char} {unit : Nat}
    (found : lowSurrogate? chars = some (unit, rest)) : rest.length < chars.length := by
  unfold lowSurrogate? at found
  split at found
  · split at found
    · split at found
      · simp only [Option.some.injEq, Prod.mk.injEq] at found
        obtain ⟨_, rfl⟩ := found
        simp only [List.length_cons]
        omega
      · contradiction
    · contradiction
  · contradiction

/-- The rest of a string after its opening quote: the text it denotes, and what follows its
closing quote. -/
def scanString (chars : List Char) (text : Option (List Char)) :
    Option (Option (List Char) × List Char) :=
  match chars with
  | [] => none
  | '"' :: rest => some (text.map List.reverse, rest)
  | '\\' :: 'u' :: a :: b :: c :: d :: rest =>
    match Text.numeral? 16 [a, b, c, d] with
    | none => none
    | some unit =>
      if isHighSurrogate unit then
        match _found : lowSurrogate? rest with
        | some (low, rest) =>
          scanString rest (extend
            (Char.ofNat (0x10000 + (unit - 0xd800) * 0x400 + (low - 0xdc00))) text)
        | none => scanString rest none
      else if isLowSurrogate unit then scanString rest none
      else scanString rest (extend (Char.ofNat unit) text)
  | '\\' :: letter :: rest =>
    match escaped? letter with
    | some char => scanString rest (extend char text)
    | none => none
  | char :: rest => if char < ' ' then none else scanString rest (extend char text)
termination_by chars.length
decreasing_by
  all_goals simp only [List.length_cons]
  · have shorter := length_lowSurrogate _found
    omega
  all_goals omega

theorem length_scanString {chars rest : List Char} {text result : Option (List Char)}
    (found : scanString chars text = some (result, rest)) : rest.length < chars.length := by
  fun_induction scanString chars text <;> simp_all <;> try omega
  next lowFound _ => have := length_lowSurrogate lowFound; omega

/-- The tokens of a text, behind those already found, which are kept in reverse order; none
when the text holds anything else. -/
def scanOnto (chars : List Char) (found : List Token) : Option (List Token) :=
  match chars with
  | [] => some found.reverse
  | '[' :: rest => scanOnto rest (.openArray :: found)
  | ']' :: rest => scanOnto rest (.closeArray :: found)
  | '\x7b' :: rest => scanOnto rest (.openObject :: found)
  | '\x7d' :: rest => scanOnto rest (.closeObject :: found)
  | ',' :: rest => scanOnto rest (.comma :: found)
  | ':' :: rest => scanOnto rest (.colon :: found)
  | '"' :: rest =>
    match _scanned : scanString rest (some []) with
    | some (text, rest) => scanOnto rest (.string (text.map String.ofList) :: found)
    | none => none
  | 'n' :: 'u' :: 'l' :: 'l' :: rest => scanOnto rest (.null :: found)
  | 't' :: 'r' :: 'u' :: 'e' :: rest => scanOnto rest (.boolean true :: found)
  | 'f' :: 'a' :: 'l' :: 's' :: 'e' :: rest => scanOnto rest (.boolean false :: found)
  | char :: rest =>
    if isBlank char then scanOnto rest found
    else if isNumberChar char then
      let literal := char :: rest.takeWhile isNumberChar
      if isNumber literal then
        scanOnto (rest.dropWhile isNumberChar) (.number literal :: found)
      else none
    else none
termination_by chars.length
decreasing_by
  all_goals simp only [List.length_cons]
  any_goals omega
  · have shorter := length_scanString _scanned
    omega
  · have shorter := (List.dropWhile_sublist (l := rest) isNumberChar).length_le
    omega

def scan (text : String) : Option (List Token) :=
  scanOnto text.toList []

/-- The form of a character inside a string. -/
def quotedChar (char : Char) : List Char :=
  if char = '"' then ['\\', '"']
  else if char = '\\' then ['\\', '\\']
  else if char = '\x08' then ['\\', 'b']
  else if char = '\x0c' then ['\\', 'f']
  else if char = '\n' then ['\\', 'n']
  else if char = '\r' then ['\\', 'r']
  else if char = '\t' then ['\\', 't']
  else if char < ' ' then
    ['\\', 'u', '0', '0', Text.digitChar (char.toNat / 16), Text.digitChar (char.toNat % 16)]
  else [char]

/-- The characters of a token; a string that denotes no text is written as an escape of half
a surrogate pair. -/
def Token.chars : Token -> List Char
  | .openArray => ['[']
  | .closeArray => [']']
  | .openObject => ['\x7b']
  | .closeObject => ['\x7d']
  | .comma => [',']
  | .colon => [':']
  | .null => ['n', 'u', 'l', 'l']
  | .boolean true => ['t', 'r', 'u', 'e']
  | .boolean false => ['f', 'a', 'l', 's', 'e']
  | .number literal => literal
  | .string (some text) => '"' :: (text.toList.flatMap quotedChar ++ ['"'])
  | .string none => ['"', '\\', 'u', 'd', '8', '0', '0', '"']

end Json
end SpendRules
