import SpendRules.Proofs.Json.Token

namespace SpendRules
namespace Json

/-!
# Values are read back from their text

The tokens of a value, fed one after another, end in a state in which this value is
complete, whatever is open around it.  This is shown along the value.

That the tokens are found in the text need not be shown along the value again.  A
number completes a value, and what may stand behind a complete value never begins like
a number.  So any tokens that can be fed at all are found in their text.
-/

namespace State

/-- Only the end of an array distinguishes the state before its first item from the
state before a further one. -/
private theorem feed_arrayStart {token : Token} (other : token ≠ .closeArray)
    (frames : List Frame) :
    (arrayStart frames).feed token = (expectValue (.array [] :: frames)).feed token := by
  cases token with
  | closeArray => exact absurd rfl other
  | _ => rfl

/-- A number completes a value. -/
private theorem eq_complete_of_feed_number {state next : State} {literal : List Char}
    (accepted : state.feed (.number literal) = some next) :
    ∃ frames, next = complete (.number literal) frames := by
  cases state with
  | expectValue frames =>
      cases accepted
      exact ⟨_, rfl⟩
  | arrayStart frames =>
      cases accepted
      exact ⟨_, rfl⟩
  | objectStart frames | expectKey done frames | expectColon done key frames => cases accepted
  | complete value frames =>
      rcases frames with _ | ⟨frame, frames⟩
      · cases accepted
      · cases frame <;> cases accepted

/-- What may stand behind a complete value is not a number. -/
private theorem endsNumber_of_feed_complete {value : Value} {frames : List Frame} {token : Token}
    {next : State} (accepted : (complete value frames).feed token = some next) (rest : List Char) :
    EndsNumber (token.chars ++ rest) := by
  cases token with
  | comma | closeArray | closeObject => exact endsNumber_cons (by decide) rest
  | _ =>
      rcases frames with _ | ⟨frame, frames⟩
      · cases accepted
      · cases frame <;> cases accepted

end State

/-- Tokens that can be fed are found again in their text, if their numbers are
numbers. -/
theorem scanOnto_of_feed {tokens : List Token} {state final : State}
    (fed : tokens.foldlM State.feed state = some final)
    (numbers : forall literal, .number literal ∈ tokens -> isNumber literal = true)
    (found : List Token) :
    scanOnto (tokens.flatMap Token.chars) found = some (found.reverse ++ tokens) := by
  induction tokens generalizing state found with
  | nil => rw [List.flatMap_nil, List.append_nil, scanOnto]
  | cons token tokens inductionHypothesis =>
      rw [List.foldlM_cons] at fed
      rcases Option.bind_eq_some_iff.mp fed with ⟨next, accepted, fed⟩
      have separated : forall literal, token = .number literal ->
          isNumber literal = true ∧ EndsNumber (tokens.flatMap Token.chars) := by
        rintro literal rfl
        refine ⟨numbers literal List.mem_cons_self, ?_⟩
        -- The number has completed a value, which decides what may follow.
        rcases State.eq_complete_of_feed_number accepted with ⟨frames, rfl⟩
        cases tokens with
        | nil => rfl
        | cons following tokens =>
            rw [List.foldlM_cons] at fed
            rcases Option.bind_eq_some_iff.mp fed with ⟨_, accepted, _⟩
            exact State.endsNumber_of_feed_complete accepted _
      rw [List.flatMap_cons, scanOnto_chars token separated,
        inductionHypothesis fed fun literal member =>
          numbers literal (List.mem_cons_of_mem _ member),
        List.reverse_cons, List.append_assoc, List.singleton_append]

/-! ## Feeding the tokens of a value -/

private theorem exists_tokens (value : Value) :
    ∃ first rest, value.tokens = first :: rest ∧ first ≠ .closeArray := by
  cases value <;> exact ⟨_, _, rfl, nofun⟩

private theorem itemTokens_cons_cons (item following : Value) (items : List Value) :
    itemTokens (item :: following :: items) =
      item.tokens ++ .comma :: itemTokens (following :: items) := rfl

private theorem memberTokens_cons_cons (key : Option String) (value : Value)
    (following : Option String × Value) (members : List (Option String × Value)) :
    memberTokens ((key, value) :: following :: members) =
      .string key :: .colon ::
        (value.tokens ++ .comma :: memberTokens (following :: members)) := rfl

/-- Items that follow the opening of an array are fed as further items are. -/
private theorem feed_firstItem (item : Value) (items : List Value) (frames : List Frame) :
    (itemTokens (item :: items) ++ [Token.closeArray]).foldlM State.feed (.arrayStart frames) =
      (itemTokens (item :: items) ++ [Token.closeArray]).foldlM State.feed
        (.expectValue (.array [] :: frames)) := by
  rcases exists_tokens item with ⟨first, rest, same, other⟩
  have starts : ∃ rest, itemTokens (item :: items) = first :: rest := by
    cases items with
    | nil => exact ⟨rest, same⟩
    | cons following items =>
        rw [itemTokens_cons_cons, same]
        exact ⟨_, rfl⟩
  rcases starts with ⟨rest, starts⟩
  rw [starts, List.cons_append, List.foldlM_cons, List.foldlM_cons, State.feed_arrayStart other]

/-- Members that follow the opening of an object are fed as further members are. -/
private theorem feed_firstMember (member : Option String × Value)
    (members : List (Option String × Value)) (frames : List Frame) :
    (memberTokens (member :: members) ++ [Token.closeObject]).foldlM State.feed
      (.objectStart frames) =
      (memberTokens (member :: members) ++ [Token.closeObject]).foldlM State.feed
        (.expectKey [] frames) := by
  cases members <;> rfl

mutual

/-- The tokens of a value complete it. -/
theorem feed_tokens (value : Value) (frames : List Frame) :
    value.tokens.foldlM State.feed (.expectValue frames) = some (.complete value frames) :=
  match value with
  | .null | .boolean _ | .number _ | .string _ => rfl
  | .array [] => rfl
  | .array (item :: items) =>
      (feed_firstItem item items frames).trans (feed_itemTokens (item :: items) nofun [] frames)
  | .object [] => rfl
  | .object (member :: members) =>
    (feed_firstMember member members frames).trans
      (feed_memberTokens (member :: members) nofun [] frames)

/-- The items that remain complete their array. -/
private theorem feed_itemTokens (items : List Value) (nonempty : items ≠ []) (done : List Value)
    (frames : List Frame) :
    (itemTokens items ++ [Token.closeArray]).foldlM State.feed
      (.expectValue (.array done :: frames)) =
      some (.complete (.array (done.reverse ++ items)) frames) :=
  match items, nonempty with
  | [item], _ => by
    rw [itemTokens, List.foldlM_append, feed_tokens item, ← List.reverse_cons]
    rfl
  | item :: following :: items, _ => by
    have completed := feed_itemTokens (following :: items) nofun (item :: done) frames
    rw [List.reverse_cons, List.append_assoc] at completed
    rw [itemTokens_cons_cons, List.append_assoc, List.foldlM_append, feed_tokens item]
    exact completed

/-- The members that remain complete their object. -/
private theorem feed_memberTokens (members : List (Option String × Value)) (nonempty : members ≠ [])
    (done : List (Option String × Value)) (frames : List Frame) :
    (memberTokens members ++ [Token.closeObject]).foldlM State.feed (.expectKey done frames) =
      some (.complete (.object (done.reverse ++ members)) frames) :=
  match members, nonempty with
  | [(key, value)], _ => by
    change (value.tokens ++ [Token.closeObject]).foldlM State.feed
      (.expectValue (.object done key :: frames)) = _
    rw [List.foldlM_append, feed_tokens value, ← List.reverse_cons]
    rfl
  | (key, value) :: following :: members, _ => by
    have completed := feed_memberTokens (following :: members) nofun ((key, value) :: done) frames
    rw [List.reverse_cons, List.append_assoc] at completed
    rw [memberTokens_cons_cons]
    change (value.tokens ++ .comma :: memberTokens (following :: members) ++
      [Token.closeObject]).foldlM State.feed
      (.expectValue (.object done key :: frames)) = _
    rw [List.append_assoc, List.foldlM_append, feed_tokens value]
    exact completed

end

/-! ## Reading a rendered value -/

private theorem number_mem_itemTokens {literal : List Char} {items : List Value} :
    .number literal ∈ itemTokens items ↔ ∃ item, item ∈ items ∧ .number literal ∈ item.tokens := by
  induction items with
  | nil => simp [itemTokens]
  | cons item items inductionHypothesis =>
      cases items with
      | nil => simp [itemTokens]
      | cons following items =>
          rw [itemTokens_cons_cons, List.mem_append, List.mem_cons, inductionHypothesis]
          simp

private theorem number_mem_memberTokens {literal : List Char}
    {members : List (Option String × Value)} :
    .number literal ∈ memberTokens members ↔ ∃ member, member ∈ members ∧
      .number literal ∈ member.2.tokens := by
  induction members with
  | nil => simp [memberTokens]
  | cons member members inductionHypothesis =>
      cases members with
      | nil => simp [memberTokens]
      | cons following members =>
          rw [memberTokens_cons_cons, List.mem_cons, List.mem_cons, List.mem_append, List.mem_cons,
            inductionHypothesis]
          simp

namespace Value

/-- The numbers in the value are written as numbers. -/
def IsWellFormed (value : Value) : Prop :=
  forall literal, .number literal ∈ value.tokens -> isNumber literal = true

/-- A value is well formed when the parts are that hold all its numbers. -/
private theorem isWellFormed_iff_of_parts {α : Type} {value : Value} {listed : List α}
    {part : α -> Value}
    (inside : forall literal, .number literal ∈ value.tokens ↔ ∃ each, each ∈ listed ∧
      .number literal ∈ (part each).tokens) :
    value.IsWellFormed ↔ forall each, each ∈ listed -> (part each).IsWellFormed := by
  constructor
  · intro wellFormed each member literal found
    exact wellFormed literal ((inside literal).mpr ⟨each, member, found⟩)
  · intro wellFormed literal found
    rcases (inside literal).mp found with ⟨each, member, found⟩
    exact wellFormed each member literal found

theorem isWellFormed_array_iff {items : List Value} :
    (array items).IsWellFormed ↔ forall item, item ∈ items -> item.IsWellFormed := by
  refine isWellFormed_iff_of_parts fun literal => ?_
  rw [tokens, List.mem_cons, List.mem_append, number_mem_itemTokens]
  simp

theorem isWellFormed_object_iff {members : List (Option String × Value)} :
    (object members).IsWellFormed ↔ forall member, member ∈ members -> member.2.IsWellFormed := by
  refine isWellFormed_iff_of_parts fun literal => ?_
  rw [tokens, List.mem_cons, List.mem_append, number_mem_memberTokens]
  simp

/-- A well-formed value is read back from its text. -/
theorem parse_render {value : Value} (wellFormed : value.IsWellFormed) :
    parse? value.render = some value := by
  have fed := feed_tokens value []
  have scanned : scan value.render = some value.tokens := by
    rw [scan, render, String.toList_ofList]
    exact scanOnto_of_feed fed wellFormed []
  rw [parse?, scanned, Option.bind_eq_bind, Option.bind_some, ofTokens?, fed]
  rfl

end Value
end Json
end SpendRules
