import SpendRules.Json.Token

namespace SpendRules
namespace Json

/-!
# JSON values

A value and its tokens.  The tokens of a value follow by recursion on it.  The other way,
tokens are fed one after another to a state that holds the arrays and objects still open, so
that no nesting is too deep.
-/

/-- A JSON value.  Members of an object keep their order, and keys may repeat. -/
inductive Value where
  | null
  | boolean (value : Bool)
  | number (literal : List Char)
  | string (text : Option String)
  | array (items : List Value)
  | object (members : List (Option String × Value))

/-- An array or object that is still open, with what it holds so far in reverse order. -/
inductive Frame where
  | array (done : List Value)
  /-- An object that waits for the value of a key. -/
  | object (done : List (Option String × Value)) (key : Option String)

/-- What has been read, and what may come next. -/
inductive State where
  /-- A value must follow. -/
  | expectValue (frames : List Frame)
  /-- The first item of an array must follow, or its end. -/
  | arrayStart (frames : List Frame)
  /-- The first key of an object must follow, or its end. -/
  | objectStart (frames : List Frame)
  /-- A further key must follow. -/
  | expectKey (done : List (Option String × Value)) (frames : List Frame)
  /-- A colon must follow. -/
  | expectColon (done : List (Option String × Value)) (key : Option String) (frames : List Frame)
  /-- A value is complete; its array or object goes on or ends. -/
  | complete (value : Value) (frames : List Frame)

namespace State

/-- The state after the first token of a value. -/
def beginValue (frames : List Frame) : Token -> Option State
  | .null => some (.complete .null frames)
  | .boolean value => some (.complete (.boolean value) frames)
  | .number literal => some (.complete (.number literal) frames)
  | .string text => some (.complete (.string text) frames)
  | .openArray => some (.arrayStart frames)
  | .openObject => some (.objectStart frames)
  | _ => none

/-- The state after one more token; none when the token may not stand there. -/
def feed (state : State) (token : Token) : Option State :=
  match state, token with
  | .expectValue frames, token => beginValue frames token
  | .arrayStart frames, .closeArray => some (.complete (.array []) frames)
  | .arrayStart frames, token => beginValue (.array [] :: frames) token
  | .objectStart frames, .closeObject => some (.complete (.object []) frames)
  | .objectStart frames, .string key => some (.expectColon [] key frames)
  | .expectKey done frames, .string key => some (.expectColon done key frames)
  | .expectColon done key frames, .colon => some (.expectValue (.object done key :: frames))
  | .complete value (.array done :: frames), .comma =>
      some (.expectValue (.array (value :: done) :: frames))
  | .complete value (.array done :: frames), .closeArray =>
    some (.complete (.array (value :: done).reverse) frames)
  | .complete value (.object done key :: frames), .comma =>
      some (.expectKey ((key, value) :: done) frames)
  | .complete value (.object done key :: frames), .closeObject =>
    some (.complete (.object ((key, value) :: done).reverse) frames)
  | _, _ => none

/-- The value that has been read, when nothing is open. -/
def result? : State -> Option Value
  | .complete value [] => some value
  | _ => none

end State

def Value.ofTokens? (tokens : List Token) : Option Value := do
  let final <- tokens.foldlM State.feed (.expectValue [])
  final.result?

def Value.parse? (text : String) : Option Value := do
  let tokens <- scan text
  Value.ofTokens? tokens

mutual

def Value.tokens : Value -> List Token
  | .null => [.null]
  | .boolean value => [.boolean value]
  | .number literal => [.number literal]
  | .string text => [.string text]
  | .array items => .openArray :: (itemTokens items ++ [.closeArray])
  | .object members => .openObject :: (memberTokens members ++ [.closeObject])

def itemTokens : List Value -> List Token
  | [] => []
  | [item] => item.tokens
  | item :: items => item.tokens ++ .comma :: itemTokens items

def memberTokens : List (Option String × Value) -> List Token
  | [] => []
  | [(key, value)] => .string key :: .colon :: value.tokens
  | (key, value) :: members =>
      .string key :: .colon :: (value.tokens ++ .comma :: memberTokens members)

end

/-- The text of a value, without white space. -/
def Value.render (value : Value) : String :=
  String.ofList (value.tokens.flatMap Token.chars)

end Json
end SpendRules
