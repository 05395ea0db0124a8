import SpendRules.Proofs.Progress
import SpendRules.Proofs.Script.Layout

namespace SpendRules

open Sequencing

/-!
# Instructions where they stand

A walk along a script looks for an instruction at an offset and goes on where it
ends.  What follows an opcode is read through a cursor of its own, so each offset
is the sum of the one before, the opcode, and what that cursor took.  A walk is
over at the end of the script, or behind the first failure.

The instructions of a script and its tail are what a walk comes by.  They lie side
by side and fill the script.  The same holds of what is left of the script behind
any of its instructions, and there the walk comes by the same items.
-/

namespace Instruction

theorem size_pos (instruction : Instruction) : 0 < instruction.size := by
  unfold size
  omega

/-- The bytes that announce the length of the data of an opcode, and this data. -/
def readOperand (opcode : UInt8) : Read (Bytes × Option Bytes) :=
  if opcode ≤ Opcode.pushBytesMax then do
    let data <- Read.bytes opcode.toNat
    return ([], some data)
  else
    match lengthWidth? opcode with
    | none => pure ([], none)
    | some width => do
      let lengthField <- Read.bytes width
      let data <- Read.bytes lengthField.toNatLE
      return (lengthField, some data)

/-- The instruction that starts at an offset, and the offset at which it ends. -/
def decodeAt? (bytes : Bytes) (start : Nat) : Option (Instruction × Nat) :=
  match bytes[start]? with
  | none => none
  | some opcode =>
    match readOperand opcode (Cursor.ofBytes (bytes.drop (start + 1))) with
    | .ok (lengthField, data) cursor =>
      some ({ opcode := opcode, lengthField := lengthField, data := data },
        start + 1 + cursor.position)
    | .error _ _ => none

variable {count : Nat} {cursor : Cursor}

private theorem take_eq {front rest : Bytes} (valid : cursor.valid = true)
    (split : Bytes.splitExactly? count cursor.rest = some (front, rest)) :
    Read.bytes count cursor =
      .ok front { cursor with position := cursor.position + count, rest := rest } := by
  rw [Read.bytes, if_pos valid, split]

private theorem take_eq_error (valid : cursor.valid = true)
    (short : Bytes.splitExactly? count cursor.rest = none) :
    Read.bytes count cursor = .error .exhausted { cursor with valid := false } := by
  rw [Read.bytes, if_pos valid, short]
  rfl

/-- What is split off behind an opcode is what a cursor takes there, and the cursor
counts its bytes. -/
private theorem split_cons (opcode : UInt8) (rest : Bytes) :
    (split? (opcode :: rest)).map (fun found => (found.1, found.1.size)) =
      match readOperand opcode (Cursor.ofBytes rest) with
      | .ok (lengthField, data) cursor =>
        some ({ opcode := opcode, lengthField := lengthField, data := data }, 1 + cursor.position)
      | .error _ _ => none := by
  by_cases direct : opcode ≤ Opcode.pushBytesMax
  · rw [split?, readOperand, if_pos direct, if_pos direct]
    cases split : Bytes.splitExactly? opcode.toNat rest with
    | none =>
        rw [bind_of_error (take_eq_error rfl split)]
        rfl
    | some parts =>
        rw [bind_of_ok (take_eq rfl split), ← (Bytes.splitExactly_eq_some_iff.mp split).2]
        refine congrArg some (Prod.ext rfl ?_)
        simp [size, Cursor.ofBytes]
  · rw [split?, readOperand, if_neg direct, if_neg direct]
    cases lengthWidth? opcode with
    | none => rfl
    | some width =>
        dsimp only
        cases split : Bytes.splitExactly? width rest with
        | none =>
            rw [bind_of_error (take_eq_error rfl split)]
            rfl
        | some parts =>
            rcases parts with ⟨lengthField, behind⟩
            rw [bind_of_ok (take_eq rfl split), ← (Bytes.splitExactly_eq_some_iff.mp split).2]
            dsimp only
            cases splitData : Bytes.splitExactly? lengthField.toNatLE behind with
            | none =>
                rw [bind_of_error (take_eq_error rfl splitData)]
                rfl
            | some dataParts =>
                rw [bind_of_ok (take_eq rfl splitData),
                  ← (Bytes.splitExactly_eq_some_iff.mp splitData).2]
                refine congrArg some (Prod.ext rfl ?_)
                simp [size, Cursor.ofBytes]
                omega

/-- Looking for an instruction at an offset is splitting it off what is left there. -/
theorem decodeAt_eq (bytes : Bytes) (start : Nat) :
    decodeAt? bytes start = (split? (bytes.drop start)).map fun found =>
      (found.1, start + found.1.size) := by
  unfold decodeAt?
  cases found : bytes[start]? with
  | none =>
      rw [List.drop_eq_nil_of_le (List.getElem?_eq_none_iff.mp found)]
      rfl
  | some opcode =>
      rcases List.getElem?_eq_some_iff.mp found with ⟨within, rfl⟩
      have split := congrArg (Option.map fun placed => (placed.1, start + placed.2))
        (split_cons bytes[start] (bytes.drop (start + 1)))
      rw [Option.map_map, ← List.drop_eq_getElem_cons within] at split
      refine Eq.trans ?_ split.symm
      dsimp only
      cases readOperand bytes[start] (Cursor.ofBytes (bytes.drop (start + 1))) with
      | ok operand cursor =>
          exact congrArg some (Prod.ext rfl (Nat.add_assoc start 1 cursor.position))
      | error failure cursor => rfl

end Instruction

namespace Script

/-- What a walk finds at an offset: an instruction, or the failure to find one. -/
structure Item where
  start : Nat
  content : Except ScriptError Instruction

/-- The item as it stands when the bytes up to an offset are left out. -/
def Item.backBy (offset : Nat) (item : Item) : Item :=
  { item with start := item.start - offset }

/-- A walk along a byte string, in front of the offset at which it looks for the
next instruction. -/
structure Walk where
  bytes : Bytes
  position : Nat := 0
  /-- The walk has failed. -/
  failed : Bool := false

namespace Walk

def next? (walk : Walk) : Option (Item × Walk) :=
  if walk.failed || decide (walk.bytes.length ≤ walk.position) then none
  else
    match Instruction.decodeAt? walk.bytes walk.position with
    | some (instruction, stop) =>
      some ({ start := walk.position, content := .ok instruction }, { walk with position := stop })
    | none => some ({ start := walk.position, content := .error .badOpcode },
      { walk with failed := true })

/-- The walk comes by the items in their order, and then it is over. -/
inductive Yields : Walk -> List Item -> Prop where
  | over {walk : Walk} (none : walk.next? = none) : Yields walk []
  | next {walk rest : Walk} {item : Item} {items : List Item}
    (found : walk.next? = some (item, rest))
      (yields : Yields rest items) : Yields walk (item :: items)

end Walk

/-- The items of a layout that starts at an offset. -/
def Layout.itemsFrom (start : Nat) (layout : Layout) : List Item :=
  (placedFrom start layout.instructions).map
    (fun placed => { start := placed.1, content := .ok placed.2 }) ++
    if layout.tail.isEmpty then []
    else
      [{ start := start + (layout.instructions.flatMap Instruction.bytes).length
         content := .error .badOpcode }]

/-- The instructions of a script where they stand, and behind them the failure at
its tail, if it has one. -/
def items (script : Script) : List Item :=
  script.layout.itemsFrom 0

/-! ## Layouts that start at an offset -/

namespace Layout

variable {start : Nat} {front : List Instruction}

theorem itemsFrom_cons (start : Nat) (first : Instruction) (rest : List Instruction)
    (tail : Bytes) :
    itemsFrom start { instructions := first :: rest, tail := tail } =
      { start := start, content := .ok first } ::
        itemsFrom (start + first.size) { instructions := rest, tail := tail } := by
  simp only [itemsFrom, placedFrom, List.map_cons, List.cons_append, List.flatMap_cons,
    List.length_append, Instruction.length_bytes, Nat.add_assoc]

theorem itemsFrom_append (start : Nat) (front rest : List Instruction) (tail : Bytes) :
    itemsFrom start { instructions := front ++ rest, tail := tail } =
      itemsFrom start { instructions := front, tail := [] } ++
        itemsFrom (start + (front.flatMap Instruction.bytes).length)
          { instructions := rest, tail := tail } := by
  induction front generalizing start with
  | nil => rfl
  | cons first front inductionHypothesis =>
      rw [List.cons_append, itemsFrom_cons, itemsFrom_cons, inductionHypothesis, List.flatMap_cons,
        List.length_append, Instruction.length_bytes, Nat.add_assoc]
      rfl

/-- The items of a layout are its instructions, each of which stands behind those
before it, and the failure at its tail. -/
theorem getElem?_itemsFrom {start index : Nat} {layout : Layout} {item : Item} :
    (layout.itemsFrom start)[index]? = some item ↔
      item.start = start + ((layout.instructions.take index).flatMap Instruction.bytes).length ∧
        ((∃ instruction, layout.instructions[index]? = some instruction ∧
            item.content = .ok instruction) ∨
          index = layout.instructions.length ∧
            layout.tail ≠ [] ∧ item.content = .error .badOpcode) := by
  rcases layout with ⟨instructions, tail⟩
  rcases item with ⟨itemStart, content⟩
  induction instructions generalizing start index with
  | nil =>
      cases tail with
      | nil => simp [itemsFrom, placedFrom]
      | cons byte tail =>
          cases index with
          | zero => simp [itemsFrom, placedFrom, eq_comm]
          | succ index => simp [itemsFrom, placedFrom]
  | cons first rest inductionHypothesis =>
      rw [itemsFrom_cons]
      cases index with
      | zero => simp [eq_comm]
      | succ index =>
          rw [List.getElem?_cons_succ, inductionHypothesis]
          simp [Instruction.length_bytes, Nat.add_assoc]

theorem le_start_of_mem {layout : Layout} {item : Item} (member : item ∈ layout.itemsFrom start) :
    start ≤ item.start := by
  rcases List.mem_iff_getElem?.mp member with ⟨index, found⟩
  rw [(getElem?_itemsFrom.mp found).1]
  exact Nat.le_add_right _ _

/-- Instructions start before the end of the last one. -/
theorem start_lt_of_mem
    {item : Item} (member : item ∈ itemsFrom start { instructions := front, tail := [] }) :
    item.start < start + (front.flatMap Instruction.bytes).length := by
  induction front generalizing start with
  | nil => cases member
  | cons first front inductionHypothesis =>
      rw [List.flatMap_cons, List.length_append, Instruction.length_bytes]
      rw [itemsFrom_cons] at member
      rcases List.mem_cons.mp member with rfl | member
      · exact Nat.lt_add_of_pos_right (Nat.add_pos_left first.size_pos _)
      · rw [← Nat.add_assoc]
        exact inductionHypothesis member

/-- The items of a layout stand where it starts. -/
theorem map_backBy_itemsFrom (offset start : Nat) (layout : Layout) :
    (layout.itemsFrom (offset + start)).map (Item.backBy offset) = layout.itemsFrom start := by
  rcases layout with ⟨instructions, tail⟩
  induction instructions generalizing start with
  | nil =>
      cases tail with
      | nil => rfl
      | cons byte tail => simp [itemsFrom, placedFrom, Item.backBy]
  | cons first rest inductionHypothesis =>
      rw [itemsFrom_cons, itemsFrom_cons, List.map_cons, Nat.add_assoc, inductionHypothesis]
      simp [Item.backBy]

/-- What is read off the instructions among the items, where it is what the
instructions say. -/
theorem flatMap_itemsFrom {layout : Layout} {read : Item -> Bytes}
    (spelled : forall item instruction, item ∈ layout.itemsFrom start ->
      item.content = .ok instruction -> read item = instruction.bytes) :
    ((layout.itemsFrom start).filter fun item => item.content.isOk).flatMap read =
      layout.instructions.flatMap Instruction.bytes := by
  rcases layout with ⟨instructions, tail⟩
  induction instructions generalizing start with
  | nil =>
      cases tail with
      | nil => rfl
      | cons byte tail => rfl
  | cons first rest inductionHypothesis =>
      rw [itemsFrom_cons] at spelled ⊢
      have behind := inductionHypothesis fun item instruction member =>
        spelled item instruction (List.mem_cons_of_mem _ member)
      rw [List.filter_cons_of_pos rfl, List.flatMap_cons, List.flatMap_cons, behind,
        spelled _ first List.mem_cons_self rfl]

end Layout

/-! ## Walking along a layout -/

namespace Walk

variable {walk : Walk}

private theorem next_of_split {instruction : Instruction} {rest : Bytes}
    (going : walk.failed = false)
    (split : Instruction.split? (walk.bytes.drop walk.position) = some (instruction, rest)) :
    walk.next? = some ({ start := walk.position, content := .ok instruction },
      { walk with position := walk.position + instruction.size }) := by
  have within : ¬ walk.bytes.length ≤ walk.position := by
    intro passed
    rw [List.drop_eq_nil_of_le passed] at split
    cases split
  rw [next?, Instruction.decodeAt_eq, split, going]
  simp [within]

private theorem next_of_stuck (going : walk.failed = false)
    (within : walk.position < walk.bytes.length)
    (stuck : Instruction.split? (walk.bytes.drop walk.position) = none) :
    walk.next? =
      some ({ start := walk.position, content := .error .badOpcode },
        { walk with failed := true }) := by
  rw [next?, Instruction.decodeAt_eq, stuck, going]
  simp [within]

/-- From an offset on, the walk comes by the layout of the bytes that are left. -/
theorem yields_itemsFrom (front bytes : Bytes) :
    Yields { bytes := front ++ bytes, position := front.length }
      (Layout.itemsFrom front.length (Script.layout { bytes := bytes })) := by
  induction bytes using split_induction generalizing front with
  | stuck bytes stuck =>
      rw [layout_of_stuck stuck]
      cases bytes with
      | nil => exact .over (by simp [next?])
      | cons byte bytes =>
          refine .next (next_of_stuck rfl ?_ ?_) (.over rfl)
          · simp
          · rw [List.drop_left]
            exact stuck
  | step bytes first rest split inductionHypothesis =>
      -- The bytes that the walk has passed grow by the instruction that it comes by.
      have whole := Instruction.split_append split
      have behind := inductionHypothesis (front ++ first.bytes)
      rw [List.length_append, Instruction.length_bytes, List.append_assoc, ← whole] at behind
      have found : Instruction.split? ((front ++ bytes).drop front.length) =
          some (first, rest) := by
        rw [List.drop_left]
        exact split
      rw [layout_of_split split, Layout.itemsFrom_cons]
      exact .next (next_of_split rfl found) behind

end Walk

/-! ## Tilings -/

/-- Where an item of the script ends.  A failure takes everything that is left. -/
def stop (script : Script) (item : Item) : Nat :=
  match item.content with
  | .ok instruction => item.start + instruction.size
  | .error _ => script.bytes.length

/-- The bytes of the script that an item covers. -/
def range (script : Script) (item : Item) : Bytes :=
  (script.bytes.drop item.start).take (script.stop item - item.start)

/-- A walk along the script comes by its items, which lie side by side and fill
it.  All of them are instructions, but for a failure at the tail. -/
structure Tiling (script : Script) : Prop where
  walked : Walk.Yields { bytes := script.bytes } script.items
  first : forall item, script.items[0]? = some item -> item.start = 0
  next : forall index item following, script.items[index]? = some item ->
    script.items[index + 1]? = some following -> following.start = script.stop item
  nonempty : forall item, item ∈ script.items -> item.start < script.stop item
  within : forall item, item ∈ script.items -> script.stop item ≤ script.bytes.length
  failure : forall index item failure, script.items[index]? = some item ->
    item.content = .error failure ->
    failure = .badOpcode ∧ index + 1 = script.items.length ∧ script.range item = script.layout.tail
  spelled : forall item instruction, item ∈ script.items -> item.content = .ok instruction ->
    script.range item = instruction.opcode :: (instruction.lengthField ++ instruction.data.getD [])
  whole : script.bytes =
    (script.items.filter fun item => item.content.isOk).flatMap script.range ++ script.layout.tail
  tail : script.layout.tail ≠ [] ↔ ∃ item, item ∈ script.items ∧ item.content = .error .badOpcode

/-- The offset at which the instruction with the given number starts.  Behind the
last instruction, the tail does. -/
def offset (script : Script) (index : Nat) : Nat :=
  ((script.instructions.take index).flatMap Instruction.bytes).length

section

variable {script : Script} {index : Nat} {instruction : Instruction} {item : Item}

theorem getElem?_items : script.items[index]? = some item ↔ item.start = script.offset index ∧
    ((∃ instruction, script.instructions[index]? = some instruction ∧
        item.content = .ok instruction) ∨
      index = script.instructions.length ∧ script.layout.tail ≠ [] ∧
        item.content = .error .badOpcode) := by
  rw [items, Layout.getElem?_itemsFrom, Nat.zero_add]
  rfl

theorem offset_succ (found : script.instructions[index]? = some instruction) :
    script.offset (index + 1) = script.offset index + instruction.size := by
  rw [offset, List.take_add_one, found, List.flatMap_append, List.length_append, Option.toList_some,
    List.flatMap_singleton, Instruction.length_bytes, offset]

/-- A script can be cut behind some of its instructions. -/
theorem bytes_eq_append (script : Script) (index : Nat) :
    script.bytes = (script.instructions.take index).flatMap Instruction.bytes ++
      ((script.instructions.drop index).flatMap Instruction.bytes ++ script.layout.tail) := by
  rw [← List.append_assoc, ← List.flatMap_append, List.take_append_drop]
  exact script.layout_spec.1

/-- Behind some of the instructions, the others and the tail are left. -/
theorem drop_offset (script : Script) (index : Nat) : script.bytes.drop (script.offset index) =
    (script.instructions.drop index).flatMap Instruction.bytes ++ script.layout.tail := by
  rw [script.bytes_eq_append index, offset, List.drop_left]

theorem offset_le_length (script : Script) (index : Nat) :
    script.offset index ≤ script.bytes.length := by
  rw [script.bytes_eq_append index, List.length_append, offset]
  exact Nat.le_add_right _ _

theorem drop_offset_of_getElem? (found : script.instructions[index]? = some instruction) :
    script.bytes.drop (script.offset index) = instruction.bytes ++
      script.bytes.drop (script.offset (index + 1)) := by
  rw [drop_offset, drop_offset, List.drop_eq_getElem?_toList_append, found, List.flatMap_append,
    List.append_assoc]
  simp

theorem range_of_getElem? (found : script.instructions[index]? = some instruction) :
    script.range { start := script.offset index, content := .ok instruction } =
      instruction.bytes := by
  rw [range, drop_offset_of_getElem? found, stop, Nat.add_sub_cancel_left,
    ← Instruction.length_bytes, List.take_left]

theorem drop_offset_length (script : Script) :
    script.bytes.drop (script.offset script.instructions.length) = script.layout.tail := by
  rw [drop_offset, List.drop_length, List.flatMap_nil, List.nil_append]

/-- There is no item behind the one at the tail. -/
theorem getElem?_items_eq_none (beyond : script.instructions.length < index) :
    script.items[index]? = none := by
  apply Option.eq_none_iff_forall_ne_some.mpr
  intro item found
  rcases (getElem?_items.mp found).2 with ⟨instruction, placed, _⟩ | ⟨rfl, _⟩
  · rw [List.getElem?_eq_none (Nat.le_of_lt beyond)] at placed
    cases placed
  · exact Nat.lt_irrefl _ beyond

theorem start_lt_stop (member : item ∈ script.items) : item.start < script.stop item := by
  rcases item with ⟨start, content⟩
  rcases List.mem_iff_getElem?.mp member with ⟨index, found⟩
  rcases getElem?_items.mp found with ⟨rfl, ⟨instruction, _, rfl⟩ | ⟨rfl, broken, rfl⟩⟩
  · exact Nat.lt_add_of_pos_right instruction.size_pos
  · apply Nat.lt_of_not_le
    intro passed
    rw [← drop_offset_length, List.drop_eq_nil_of_le passed] at broken
    exact broken rfl

theorem stop_le_length (member : item ∈ script.items) : script.stop item ≤ script.bytes.length := by
  rcases item with ⟨start, content⟩
  rcases List.mem_iff_getElem?.mp member with ⟨index, found⟩
  rcases getElem?_items.mp found with ⟨rfl, ⟨instruction, placed, rfl⟩ | ⟨rfl, _, rfl⟩⟩
  · change script.offset index + instruction.size ≤ script.bytes.length
    rw [← offset_succ placed]
    exact script.offset_le_length (index + 1)
  · exact Nat.le_refl _

/-- An item ends where the next one starts. -/
theorem start_eq_stop {following : Item} (found : script.items[index]? = some item)
    (foundNext : script.items[index + 1]? = some following) :
    following.start = script.stop item := by
  rcases item with ⟨start, content⟩
  rw [(getElem?_items.mp foundNext).1]
  rcases getElem?_items.mp found with ⟨rfl, ⟨instruction, placed, rfl⟩ | ⟨rfl, _, rfl⟩⟩
  · exact offset_succ placed
  · rw [getElem?_items_eq_none (Nat.lt_succ_self _)] at foundNext
    cases foundNext

/-- A failure takes the tail, and no item is behind it. -/
theorem eq_of_failure {failure : ScriptError} (found : script.items[index]? = some item)
    (failed : item.content = .error failure) :
    failure = .badOpcode ∧ index + 1 = script.items.length ∧
      script.range item = script.layout.tail := by
  rcases item with ⟨start, content⟩
  rcases getElem?_items.mp found with ⟨rfl, ⟨_, _, rfl⟩ | ⟨rfl, _, rfl⟩⟩
  · cases failed
  · cases failed
    have among := (List.getElem?_eq_some_iff.mp found).1
    have beyond := List.getElem?_eq_none_iff.mp (script.getElem?_items_eq_none (Nat.lt_succ_self _))
    refine ⟨rfl, Nat.le_antisymm among beyond, ?_⟩
    rw [range, stop, drop_offset_length, ← List.length_drop, drop_offset_length, List.take_length]

theorem range_eq_bytes (member : item ∈ script.items)
    (isInstruction : item.content = .ok instruction) :
    script.range item = instruction.bytes := by
  rcases item with ⟨start, content⟩
  rcases List.mem_iff_getElem?.mp member with ⟨index, found⟩
  rcases getElem?_items.mp found with ⟨rfl, ⟨_, placed, rfl⟩ | ⟨_, _, rfl⟩⟩
  · cases isInstruction
    exact range_of_getElem? placed
  · cases isInstruction

theorem tail_ne_nil_iff :
    script.layout.tail ≠ [] ↔ ∃ item, item ∈ script.items ∧ item.content = .error .badOpcode := by
  constructor
  · intro broken
    refine ⟨{ start := script.offset script.instructions.length, content := .error .badOpcode }, ?_,
      rfl⟩
    exact List.mem_of_getElem? (getElem?_items.mpr ⟨rfl, Or.inr ⟨rfl, broken, rfl⟩⟩)
  · rintro ⟨⟨start, content⟩, member, rfl⟩
    rcases List.mem_iff_getElem?.mp member with ⟨index, found⟩
    rcases (getElem?_items.mp found).2 with ⟨_, _, impossible⟩ | ⟨_, broken, _⟩
    · cases impossible
    · exact broken

end

/-- Every script falls into its items. -/
theorem tiling (script : Script) : script.Tiling where
  walked := Walk.yields_itemsFrom [] script.bytes
  first _ found := (getElem?_items.mp found).1
  next _ _ _ := start_eq_stop
  nonempty _ := start_lt_stop
  within _ := stop_le_length
  failure _ _ _ := eq_of_failure
  spelled _ _ := range_eq_bytes
  whole := by
    unfold items
    rw [Layout.flatMap_itemsFrom fun _ _ => range_eq_bytes]
    exact script.layout_spec.1
  tail := tail_ne_nil_iff

/-- Behind some of its instructions, the script has the items that start there or
later. -/
theorem items_drop (script : Script) (index : Nat) :
    items { bytes := script.bytes.drop (script.offset index) } =
      (script.items.filter fun item => decide (script.offset index ≤ item.start)).map
        (Item.backBy (script.offset index)) := by
  rcases script.layout_spec with ⟨_, complete, stuck⟩
  have layout : layout { bytes := script.bytes.drop (script.offset index) } =
      { instructions := script.instructions.drop index, tail := script.layout.tail } :=
    layout_eq_iff.mpr ⟨script.drop_offset index,
      fun instruction member => complete instruction (List.mem_of_mem_drop member), stuck⟩
  have cut : script.items =
      Layout.itemsFrom 0 { instructions := script.instructions.take index, tail := [] } ++
      Layout.itemsFrom (script.offset index + 0)
        { instructions := script.instructions.drop index, tail := script.layout.tail } := by
    rw [Nat.add_comm, offset, ← Layout.itemsFrom_append, List.take_append_drop]
    rfl
  rw [items, layout, cut, List.filter_append, List.filter_eq_nil_iff.mpr, List.filter_eq_self.mpr,
    List.nil_append, Layout.map_backBy_itemsFrom]
  · intro item member
    exact decide_eq_true (Layout.le_start_of_mem member)
  -- Everything in front of the offset starts before it, so that nothing of it is kept.
  · intro item member passed
    have before := Layout.start_lt_of_mem member
    rw [Nat.zero_add] at before
    exact Nat.not_le_of_lt before (of_decide_eq_true passed)

end Script
end SpendRules
