import BoolQuery.Proofs.Keyword
import BoolQuery.Proofs.Postfix.Defects
import BoolQuery.Proofs.Postfix.Renaming
import BoolQuery.Proofs.Text.LowerCase
import BoolQuery.Stemmer

/-!
# Nothing is lost, duplicated or invented

`Accounts` relates a token list to the slots it is converted to: every term and every operator has
exactly one slot, every group left open leaves one, and terms keep their order. The step lemmas
count what one token adds to the result and to the stack together, and `lenient_accounts` concludes
for every token list, malformed or not.
-/

namespace BoolQuery

open Parentheses

/-- The slot that a token fills; a parenthesis fills none. -/
def Token.slot? : Token → Option Slot
  | .term text => some (.term text)
  | .operator op => some (.operator op)
  | .openParen | .closeParen => none

/-- The text of a token that is a term. -/
def Token.term? : Token → Option Text
  | .term text => some text
  | .operator _ | .openParen | .closeParen => none

/-- The text of a slot that holds a term. -/
def Slot.term? : Slot → Option Text
  | .term text => some text
  | .operator _ | .unclosed => none

/-- Slots that account for a token list. -/
structure Accounts (tokens : List PlacedToken) (slots : List Slot) : Prop where
  /-- Terms, operators and groups left open have one slot each, and there is no other slot. -/
  complete : slots.Perm (tokens.filterMap (·.token.slot?) ++
    List.replicate ((unmatched tokens).countP (·.token = .openParen)) .unclosed)
  /-- Terms stand in the order of the tokens. -/
  ordered : slots.filterMap Slot.term? = tokens.filterMap (·.token.term?)

namespace Progress

/-- The operators that wait on a stack, topmost first, as the slots they will fill. -/
def waiting (stack : List Pending) : List Slot :=
  stack.filterMap fun entry => match entry with
    | .operator op => some (.operator op)
    | .group _ => none

@[simp] theorem waiting_nil : waiting [] = [] := rfl

@[simp] theorem waiting_operator (op : Operator) (stack : List Pending) :
    waiting (.operator op :: stack) = .operator op :: waiting stack := rfl

@[simp] theorem waiting_group (offset : Nat) (stack : List Pending) :
    waiting (.group offset :: stack) = waiting stack := rfl

/-- Operators on top of a stack wait before those below. -/
@[simp] theorem waiting_operators_append (operators : List Operator) (stack : List Pending) :
    waiting (operators.map .operator ++ stack) = operators.map .operator ++ waiting stack := by
  induction operators with
  | nil => rfl
  | cons op operators inductionHypothesis => simpa using inductionHypothesis

/-- On a stack of operators only, all of them wait. -/
@[simp] theorem waiting_operators (operators : List Operator) :
    waiting (operators.map .operator) = operators.map .operator := by
  simpa using waiting_operators_append operators []

/-- A stack holds its waiting operators and its open groups. -/
theorem slots_perm (stack : List Pending) :
    (stack.map Pending.slot).Perm
      (waiting stack ++ List.replicate (openOffsets stack).length .unclosed) := by
  induction stack with
  | nil => exact .nil
  | cons entry stack inductionHypothesis =>
      cases entry with
      | operator op => exact inductionHypothesis.cons _
      | group offset => exact (inductionHypothesis.cons _).trans List.perm_middle.symm

variable {stack : List Pending} {placed : PlacedToken} {progress : Progress}

/-- Reading a token moves operators from the stack to the result and adds the slot of the token to
either of them. -/
theorem Reads.perm (reads : Reads stack placed progress) :
    (progress.output ++ waiting progress.stack).Perm
      (waiting stack ++ placed.token.slot?.toList) := by
  cases reads with
  | term kind =>
      rw [kind]
      exact List.perm_append_comm
  | opens kind => simp [kind, Token.slot?]
  | closes kind operators offset below => simp [kind, Token.slot?]
  | stray kind operators => simp [kind, Token.slot?]
  | unary kind unary =>
      rw [kind]
      exact (List.perm_append_singleton _ _).symm
  | binary kind binary popped remaining tighter stops =>
      rw [kind, waiting_operators_append, List.append_assoc]
      exact (List.perm_append_singleton _ _).symm.append_left _

/-- What is selected from a list is what is selected from its first element and from the others. -/
theorem filterMap_cons_toList {α β : Type} (select : α → Option β) (first : α) (rest : List α) :
    (first :: rest).filterMap select = (select first).toList ++ rest.filterMap select := by
  cases found : select first <;> simp [found]

/-- A run moves operators from the stack to the result and adds the slots of its tokens to either of
them. -/
theorem run_perm (stack : List Pending) (tokens : List PlacedToken) :
    ((run stack tokens).output ++ waiting (run stack tokens).stack).Perm
      (waiting stack ++ tokens.filterMap (·.token.slot?)) := by
  induction tokens generalizing stack with
  | nil => simp [run_nil]
  | cons placed tokens inductionHypothesis =>
      obtain ⟨first, reads⟩ := exists_reads stack placed
      rw [reads.run_cons, filterMap_cons_toList, ← List.append_assoc]
      simp only [followedBy, List.append_assoc first.output]
      calc
        List.Perm _ (first.output ++ (waiting first.stack ++ _)) :=
          (inductionHypothesis first.stack).append_left first.output
        List.Perm _ (first.output ++ waiting first.stack ++ _) :=
          .of_eq (List.append_assoc ..).symm
        List.Perm _ (waiting stack ++ placed.token.slot?.toList ++ _) :=
          reads.perm.append_right _

/-- A token writes its term at once and no other term. -/
theorem Reads.terms (reads : Reads stack placed progress) :
    progress.output.filterMap Slot.term? = placed.token.term?.toList := by
  cases reads <;> simp [*, Token.term?, Slot.term?, List.filterMap_map, Function.comp_def]

/-- A run writes its terms in order. -/
theorem run_terms (stack : List Pending) (tokens : List PlacedToken) :
    (run stack tokens).output.filterMap Slot.term? = tokens.filterMap (·.token.term?) := by
  induction tokens generalizing stack with
  | nil => rfl
  | cons placed tokens inductionHypothesis =>
      obtain ⟨first, reads⟩ := exists_reads stack placed
      rw [reads.run_cons, filterMap_cons_toList, ← reads.terms, ← inductionHypothesis first.stack]
      exact List.filterMap_append

/-- No term waits on the stack. -/
theorem terms_stack (stack : List Pending) :
    (stack.map Pending.slot).filterMap Slot.term? = [] := by
  rw [List.filterMap_map, List.filterMap_eq_nil_iff]
  intro entry _
  cases entry <;> rfl

end Progress

/-- The slots of a conversion account for its tokens. -/
theorem Conversion.accounts (tokens : List PlacedToken) :
    Accounts tokens (Conversion.ofTokens tokens).slots where
  complete := by
    have held := Progress.slots_perm (Progress.run [] tokens).stack
    have moved := Progress.run_perm [] tokens
    rw [← (Progress.countP_unmatched tokens).2] at held
    rw [slots_ofTokens, Progress.drained]
    refine (held.append_left _).trans ?_
    rw [← List.append_assoc]
    exact moved.append_right _
  ordered := by
    rw [slots_ofTokens, Progress.drained, List.filterMap_append, Progress.terms_stack,
      List.append_nil, Progress.run_terms]

namespace Text

/-- A text between angle brackets. -/
def tag (text : Text) : Text :=
  '<' :: (text ++ ['>'])

/-- The text between the angle brackets of a tagged text. -/
def untag? : Text → Option Text
  | '<' :: rest => if rest.getLast? = some '>' then some rest.dropLast else none
  | _ => none

/-- Replace a tagged element by the normal form of what was tagged. -/
def retag (normalize : Text → Text) (element : Text) : Text :=
  match untag? element with
  | some text => normalize text
  | none => element

/-- Brackets can be taken off again. -/
theorem untag?_tag (text : Text) : untag? (tag text) = some text := by
  simp [tag, untag?]

/-- Replacing a tagged element of the result gives the element for the other normal form. -/
theorem retag_write (normalize prepare : Text → Text) (slot : Slot) :
    retag normalize (slot.write fun text => tag (prepare text)) =
      slot.write fun text => normalize (prepare text) := by
  cases slot with
  | term text => simp [Slot.write, retag, untag?_tag]
  | operator op => cases op <;> rfl
  | unclosed => rfl

end Text

namespace Operator

/-- No lower-cased text is the symbol of an operator. -/
theorem lower_ne_symbol (op : Operator) (text : Text) : Text.lower text ≠ op.symbol := by
  intro same
  obtain ⟨c, member⟩ := List.exists_mem_of_ne_nil _ op.symbol_ne_nil
  have upper := isUpper_of_mem_symbol member
  rw [← same] at member
  rw [Text.not_isUpper_of_mem_lower member] at upper
  cases upper

end Operator

/-- If no term is written like an operator, only operators are. -/
theorem Slot.write_eq_symbol_iff {normalize : Text → Text} {slot : Slot} {op : Operator}
    (distinct : ∀ text, normalize text ≠ op.symbol) :
    slot.write normalize = op.symbol ↔ slot = .operator op := by
  constructor
  · intro same
    cases slot with
    | term text => exact absurd same (distinct text)
    | operator other => rw [Operator.symbol_injective same]
    | unclosed => cases op <;> simp [write, Operator.symbol] at same
  · rintro rfl
    rfl

namespace Accounts

variable {tokens : List PlacedToken} {slots : List Slot}

/-- An operator has as many slots as tokens. -/
theorem count_operator (accounts : Accounts tokens slots) (op : Operator) :
    slots.count (.operator op) = tokens.countP (·.token = .operator op) := by
  have noGroup : ∀ number, (List.replicate number Slot.unclosed).count (.operator op) = 0 := by
    intro number
    simp [List.count_replicate]
  rw [accounts.complete.count_eq, List.count_append, noGroup, Nat.add_zero, List.count,
    List.countP_filterMap]
  apply List.countP_congr
  intro placed _
  cases kind : placed.token <;> simp [Token.slot?]

/-- An operator is written as often as it has tokens if no term is written like it. -/
theorem count_symbol (accounts : Accounts tokens slots) {normalize : Text → Text} {op : Operator}
    (distinct : ∀ text, normalize text ≠ op.symbol) :
    (slots.map (Slot.write normalize)).count op.symbol =
      tokens.countP (·.token = .operator op) := by
  rw [← accounts.count_operator, List.count, List.countP_map, List.count]
  apply List.countP_congr
  intro slot _
  simpa using Slot.write_eq_symbol_iff distinct

end Accounts

/-- Every element is an operator, an opening parenthesis or a term of the query. -/
theorem Converter.exists_of_mem_toPostfix {converter : Converter} {query element : Text}
    (member : element ∈ converter.toPostfix query) :
    (∃ op : Operator, element = op.symbol) ∨ element = ['('] ∨
      ∃ placed ∈ converter.tokens query, ∃ text, placed.token = .term text ∧
        element = converter.writeTerm text := by
  obtain ⟨slot, listed, rfl⟩ := List.mem_map.mp member
  cases slot with
  | operator op => exact .inl ⟨op, rfl⟩
  | unclosed => exact .inr (.inl rfl)
  | term text =>
      have inOrder := (Conversion.accounts (converter.tokens query)).ordered
      have named : text ∈ (converter.tokens query).filterMap (·.token.term?) := by
        rw [← inOrder]
        exact List.mem_filterMap.mpr ⟨.term text, listed, rfl⟩
      obtain ⟨placed, inTokens, same⟩ := List.mem_filterMap.mp named
      refine .inr (.inr ⟨placed, inTokens, text, ?_, rfl⟩)
      cases kind : placed.token with
      | term other =>
          rw [kind] at same
          exact congrArg Token.term (Option.some.inj same)
      | operator _ | openParen | closeParen => rw [kind] at same; cases same

/-- Lenient conversion writes slots that account for all tokens, in an order that the shapes of the
tokens determine, whatever becomes of the terms. Replacing tagged terms by their normal forms
therefore yields the result for these forms. If terms are only lower-cased, no term is written like
an operator, so each operator is written as often as it has tokens. -/
theorem lenient_accounts [SuppliedStems] (tokens : List PlacedToken) :
    Accounts tokens (Conversion.ofTokens tokens).slots ∧
    (∀ converter : Converter, converter.convertTokens false tokens =
      .ok ((Conversion.ofTokens tokens).slots.map
        (Slot.write fun text => converter.normalize (Text.lower (Text.trim text))))) ∧
    (∀ other : List PlacedToken, other.map (·.token.shape) = tokens.map (·.token.shape) →
      (Conversion.ofTokens other).slots.map Slot.shape =
        (Conversion.ofTokens tokens).slots.map Slot.shape) ∧
    (∀ converter : Converter, ∃ tagged,
      ({ converter with normalize := Text.tag } : Converter).convertTokens false tokens =
        .ok tagged ∧
      converter.convertTokens false tokens = .ok (tagged.map (Text.retag converter.normalize))) ∧
    ∀ (options : ConvertOptions) (op : Operator), ∃ output,
      (⟨Stemmer.none.normalize, options⟩ : Converter).convertTokens false tokens = .ok output ∧
        output.count op.symbol = tokens.countP (·.token = .operator op) := by
  have accounts := Conversion.accounts tokens
  refine ⟨accounts, fun converter => converter.convertTokens_lenient tokens,
    fun _ same => Conversion.slots_shape same, fun converter => ?_, fun options op => ?_⟩
  · refine ⟨_, Converter.convertTokens_lenient _ tokens, ?_⟩
    rw [converter.convertTokens_lenient, Converter.write, Converter.write, Conversion.write,
      Conversion.write, List.map_map]
    congr 1
    exact List.map_congr_left fun slot _ =>
      (Text.retag_write converter.normalize (fun text => Text.lower (Text.trim text)) slot).symm
  · refine ⟨_, Converter.convertTokens_lenient _ tokens, ?_⟩
    exact accounts.count_symbol fun text => op.lower_ne_symbol _

/-- Two lists of the same shapes with a stray and an open parenthesis, `) ab NOT ( c OR` and
`)x NOT(< OR`, have their slots in the same order. -/
theorem slots_shape_of_stray_and_open :
    ([⟨.closeParen, 0⟩, ⟨.term ['x'], 1⟩, ⟨.operator .not, 3⟩, ⟨.openParen, 6⟩, ⟨.term ['<'], 7⟩,
        ⟨.operator .or, 9⟩] : List PlacedToken).map (·.token.shape) =
      ([⟨.closeParen, 0⟩, ⟨.term ['a', 'b'], 2⟩, ⟨.operator .not, 5⟩, ⟨.openParen, 9⟩,
        ⟨.term ['c'], 11⟩, ⟨.operator .or, 13⟩] : List PlacedToken).map (·.token.shape) ∧
    (Conversion.ofTokens [⟨.closeParen, 0⟩, ⟨.term ['x'], 1⟩, ⟨.operator .not, 3⟩, ⟨.openParen, 6⟩,
        ⟨.term ['<'], 7⟩, ⟨.operator .or, 9⟩]).slots.map Slot.shape =
      (Conversion.ofTokens [⟨.closeParen, 0⟩, ⟨.term ['a', 'b'], 2⟩, ⟨.operator .not, 5⟩,
        ⟨.openParen, 9⟩, ⟨.term ['c'], 11⟩, ⟨.operator .or, 13⟩]).slots.map Slot.shape :=
  ⟨rfl, (@lenient_accounts .unchanged _).2.2.1 _ rfl⟩

end BoolQuery
