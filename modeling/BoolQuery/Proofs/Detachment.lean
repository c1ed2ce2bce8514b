import BoolQuery.Proofs.Keyword
import BoolQuery.Proofs.Segments
import BoolQuery.Proofs.Text.Split

/-!
# Segments as pieces of a respaced text

Segments are read in one pass. They can be described without any position: put a space behind every
opening and before every closing parenthesis, and cut at every space (`pieces`). The two agree
because a parenthesis ends or starts a segment exactly where its space would (`map_text_cut`), and
tokens are the pieces that are not empty, keywords in capital letters (`ofQuery_eq_pieces`).
-/

namespace BoolQuery

namespace Text

/-- A text with every occurrence of a character replaced. -/
def replaceEach (old : Char) (new : Text) (text : Text) : Text :=
  text.flatMap fun c => if c = old then new else [c]

/-- An occurrence at the front is replaced. -/
theorem replaceEach_cons_self (old : Char) (new rest : Text) :
    replaceEach old new (old :: rest) = new ++ replaceEach old new rest := by
  simp [replaceEach]

/-- Any other character at the front stays. -/
theorem replaceEach_cons {c old : Char} (other : c ≠ old) (new rest : Text) :
    replaceEach old new (c :: rest) = c :: replaceEach old new rest := by
  simp [replaceEach, other]

end Text

namespace Segment

/-- A text in which a space follows every opening parenthesis, and then one precedes every closing
parenthesis. -/
def respace (text : Text) : Text :=
  Text.replaceEach ')' [' ', ')'] (Text.replaceEach '(' ['(', ' '] text)

/-- What stands between single spaces once the parentheses of the trimmed query have theirs. -/
def pieces (query : Text) : List Text :=
  Text.splitAtEach ' ' (respace (Text.trim query))

variable {c : Char}

/-- An opening parenthesis gets a space behind it. -/
theorem respace_open (rest : Text) : respace ('(' :: rest) = '(' :: ' ' :: respace rest := by
  have opened : ∀ later : Text, ['(', ' '] ++ later = '(' :: ' ' :: later := fun _ => rfl
  rw [respace, Text.replaceEach_cons_self, opened, Text.replaceEach_cons (by decide),
    Text.replaceEach_cons (by decide), respace]

/-- A closing parenthesis gets a space in front of it. -/
theorem respace_close (rest : Text) : respace (')' :: rest) = ' ' :: ')' :: respace rest := by
  rw [respace, Text.replaceEach_cons (by decide), Text.replaceEach_cons_self]
  rfl

/-- Any other character gets no space. -/
theorem respace_cons (notOpen : c ≠ '(') (notClose : c ≠ ')') (rest : Text) :
    respace (c :: rest) = c :: respace rest := by
  rw [respace, Text.replaceEach_cons notOpen, Text.replaceEach_cons notClose, respace]

/-- A character is put in front of the first piece. -/
theorem map_text_extendFirst (offset : Nat) {segments : List Segment} {body : Text}
    (agree : segments.map text = Text.splitAtEach ' ' body) (notSpace : c ≠ ' ') :
    (extendFirst offset c segments).map text = Text.splitAtEach ' ' (c :: body) := by
  rw [Text.splitAtEach_cons notSpace, ← agree]
  obtain ⟨piece, pieces, found⟩ := Text.exists_splitAtEach ' ' body
  rw [found] at agree
  obtain ⟨first, later, rfl, rfl, rfl⟩ := List.map_eq_cons_iff.mp agree
  rfl

/-- Cutting a text in one pass yields the pieces of the respaced text. -/
theorem map_text_cut (offset : Nat) (body : Text) :
    (cut offset body).map text = Text.splitAtEach ' ' (respace body) := by
  induction body generalizing offset with
  | nil => rfl
  | cons c rest inductionHypothesis =>
      have following := inductionHypothesis (offset + c.utf8Size)
      by_cases space : c = ' '
      · subst space
        rw [respace_cons (by decide) (by decide), Text.splitAtEach_self, ← following]
        rfl
      by_cases opens : c = '('
      · subst opens
        -- The space behind the parenthesis ends its piece.
        have alone : Text.splitAtEach ' ' ['('] = [['(']] :=
          Text.splitAtEach_of_not_mem (by decide)
        have ended := Text.splitAtEach_append ' ' ['('] (respace rest)
        rw [alone, ← following] at ended
        rw [respace_open]
        exact ended.symm
      by_cases closes : c = ')'
      · subst closes
        -- The space before the parenthesis ends the piece in front of it.
        have extended := map_text_extendFirst offset following (c := ')') (by decide)
        rw [respace_close, Text.splitAtEach_self, ← extended]
        rfl
      · rw [respace_cons opens closes, cut_plain ⟨space, opens, closes⟩]
        exact map_text_extendFirst offset following space

end Segment

namespace Operator

/-- A word with the letters of a keyword made capital if their case does not matter. Other words
stay as they are. -/
def canonical (anyCase : Bool) (word : Text) : Text :=
  if anyCase && all.any (fun op => Text.equalIgnoringCase word op.symbol) then
    word.map Char.toUpper
  else word

variable {anyCase : Bool} {op : Operator} {word : Text}

/-- A word that spells an operator is made its symbol. -/
theorem canonical_of_spells (spells : op.Spells anyCase word) :
    canonical anyCase word = op.symbol := by
  cases anyCase with
  | false => exact spells
  | true =>
      have listed : all.any (fun op => Text.equalIgnoringCase word op.symbol) = true :=
        List.any_eq_true.mpr ⟨op, op.mem_all, equalIgnoringCase_symbol_iff.mpr spells⟩
      rw [canonical, listed]
      exact spells

/-- A word that spells no operator stays as it is. -/
theorem canonical_of_not_spells (noKeyword : ∀ op : Operator, ¬ op.Spells anyCase word) :
    canonical anyCase word = word := by
  cases anyCase with
  | false => rfl
  | true =>
      refine if_neg fun listed => ?_
      obtain ⟨op, _, same⟩ := List.any_eq_true.mp listed
      exact noKeyword op (equalIgnoringCase_symbol_iff.mp same)

end Operator

/-- A token shows its segment, a keyword in its canonical form. -/
theorem Token.text_ofSegment (anyCase : Bool) (segment : Text) :
    (ofSegment anyCase segment).text = Operator.canonical anyCase segment := by
  by_cases opens : segment = ['(']
  · subst opens
    cases anyCase <;> decide
  by_cases closes : segment = [')']
  · subst closes
    cases anyCase <;> decide
  rw [ofSegment, if_neg opens, if_neg closes]
  cases found : Operator.ofKeyword? anyCase segment with
  | some op =>
      exact (Operator.canonical_of_spells (Operator.ofKeyword?_eq_some_iff.mp found)).symm
  | none =>
      have noKeyword : ∀ op : Operator, ¬ op.Spells anyCase segment := by
        intro op spells
        rw [Operator.ofKeyword?_eq_some_iff.mpr spells] at found
        cases found
      exact (Operator.canonical_of_not_spells noKeyword).symm

/-- The segments of a query are the pieces between the single spaces of the trimmed query once every
opening parenthesis has a space behind it and every closing one a space before it. The tokens show
the pieces that are not empty, in order, keywords in their canonical form. -/
theorem Segment.ofQuery_eq_pieces (query : Text) :
    (ofQuery query).map text = pieces query ∧
    ∀ anyCase, (Token.ofQuery anyCase query).map (·.token.text) =
      ((pieces query).filter (!·.isEmpty)).map (Operator.canonical anyCase) := by
  have same : (ofQuery query).map text = pieces query := map_text_cut _ _
  refine ⟨same, fun anyCase => ?_⟩
  rw [← same, List.filter_map, List.map_map, Token.ofQuery, List.map_map]
  exact List.map_congr_left fun segment _ => Token.text_ofSegment anyCase segment.text

example : Segment.pieces " NOT(a  b)c".toList = ["NOT(", "a", "", "b", ")c"].map String.toList := by
  decide +kernel

end BoolQuery
