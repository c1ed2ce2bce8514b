import BoolQuery.Proofs.Text.Split
import BoolQuery.Proofs.Writing

/-!
# Joining the texts of tokens

Parentheses are detached from a term on one side only, so a term may end with an opening parenthesis
and start with a closing one. `Canonical` describes the token lists that queries are read as, and
`ofQuery_join` says that these are exactly the lists that are read back, token by token and at the
same offsets, from their texts with single spaces between them.
-/

namespace BoolQuery

namespace Segment

/-- A text that may be a segment: it holds no space, an opening parenthesis at most at its end and a
closing one at most at its start. -/
structure Whole (text : Text) : Prop where
  noSpace : ' ' ∉ text
  openLast : '(' ∉ text.dropLast
  closeFirst : ')' ∉ text.tail

variable {offset : Nat} {c : Char} {text rest : Text}

/-- What may be a segment still may without its first character. -/
theorem Whole.of_cons (whole : Whole (c :: text)) : Whole text where
  noSpace := fun member => whole.noSpace (List.mem_cons_of_mem c member)
  openLast := by
    intro member
    apply whole.openLast
    cases text with
    | nil => simp at member
    | cons _ _ => exact List.mem_cons_of_mem c member
  closeFirst := fun member => whole.closeFirst (List.mem_of_mem_tail member)

/-- A character that is no space and opens no group may stand before a segment without a closing
parenthesis. -/
theorem Whole.cons (whole : Whole text) (noClose : ')' ∉ text) (notSpace : c ≠ ' ')
    (notOpen : c ≠ '(') : Whole (c :: text) where
  noSpace := List.not_mem_cons_of_ne_of_not_mem notSpace.symm whole.noSpace
  openLast := by
    cases text with
    | nil => simp
    | cons _ _ => exact List.not_mem_cons_of_ne_of_not_mem notOpen.symm whole.openLast
  closeFirst := noClose

/-- A segment that has started goes on until something breaks it. -/
theorem cut_append_whole (whole : Whole text) (noClose : ')' ∉ text) (breaks : Breaks rest)
    (offset : Nat) :
    ∃ later, cut offset (text ++ rest) = ⟨offset, text⟩ :: later ∧
      (later.filter fun segment => !segment.text.isEmpty) =
        solid (offset + Text.byteLength text) rest := by
  induction text generalizing offset with
  | nil =>
      obtain ⟨later, following⟩ := cut_of_breaks offset breaks
      exact ⟨later, following, by simp [solid, following]⟩
  | cons c text inductionHypothesis =>
      have notClose := List.ne_of_not_mem_cons noClose
      have restNoClose := List.not_mem_of_not_mem_cons noClose
      have notSpace := List.ne_of_not_mem_cons whole.noSpace
      by_cases opens : c = '('
      · subst opens
        -- An opening parenthesis ends its segment, and a whole text holds one at its end only.
        have atEnd : text = [] := by
          cases text with
          | nil => rfl
          | cons _ _ => exact absurd List.mem_cons_self whole.openLast
        subst atEnd
        exact ⟨cut (offset + 1) rest, rfl, rfl⟩
      · obtain ⟨later, goesOn, solidLater⟩ :=
          inductionHypothesis whole.of_cons restNoClose (offset + c.utf8Size)
        refine ⟨later, ?_, ?_⟩
        · rw [List.cons_append, cut_plain ⟨Ne.symm notSpace, opens, Ne.symm notClose⟩, goesOn]
          rfl
        · rw [solidLater, Text.byteLength_cons, Nat.add_assoc]

/-- A whole text is a segment of its own before anything that breaks it. -/
theorem solid_whole (whole : Whole text) (filled : text ≠ []) (breaks : Breaks rest) :
    solid offset (text ++ rest) =
      ⟨offset, text⟩ :: solid (offset + Text.byteLength text) rest := by
  cases text with
  | nil => exact absurd rfl filled
  | cons c text =>
      by_cases closes : c = ')'
      · subst closes
        obtain ⟨later, goesOn, solidLater⟩ :=
          cut_append_whole whole.of_cons whole.closeFirst breaks (offset + 1)
        have size : (')').utf8Size = 1 := by decide
        have started : cut offset (')' :: (text ++ rest)) =
            ⟨offset, []⟩ :: ⟨offset, ')' :: text⟩ :: later := by
          simp [cut, size, goesOn, extendFirst]
        rw [List.cons_append, solid, started, Text.byteLength_cons, size, ← Nat.add_assoc,
          ← solidLater]
        rfl
      · have noClose : ')' ∉ c :: text :=
          List.not_mem_cons_of_ne_of_not_mem (Ne.symm closes) whole.closeFirst
        obtain ⟨later, started, solidLater⟩ := cut_append_whole whole noClose breaks offset
        rw [solid, started, ← solidLater]
        rfl

/-- All segments are whole, and the first one has no closing parenthesis. -/
theorem whole_cut (offset : Nat) (text : Text) :
    ∃ first later, cut offset text = ⟨offset, first⟩ :: later ∧ Whole first ∧ ')' ∉ first ∧
      ∀ segment ∈ later, Whole segment.text := by
  have empty : Whole [] := ⟨by simp, by simp, by simp⟩
  induction text generalizing offset with
  | nil => exact ⟨[], [], rfl, empty, by simp, by simp⟩
  | cons c rest inductionHypothesis =>
      obtain ⟨first, later, following, whole, noClose, laterWhole⟩ :=
        inductionHypothesis (offset + c.utf8Size)
      have allWhole : ∀ segment ∈ cut (offset + c.utf8Size) rest, Whole segment.text := by
        rw [following]
        exact List.forall_mem_cons.mpr ⟨whole, laterWhole⟩
      by_cases space : c = ' '
      · subst space
        exact ⟨[], _, rfl, empty, by simp, allWhole⟩
      by_cases opens : c = '('
      · subst opens
        exact ⟨['('], _, rfl, ⟨by decide, by decide, by decide⟩, by decide, allWhole⟩
      by_cases closes : c = ')'
      · subst closes
        -- A closing parenthesis joins the segment behind it, and an empty one is left in front.
        refine ⟨[], extendFirst offset ')' (cut (offset + (')').utf8Size) rest), rfl, empty,
          by simp, ?_⟩
        rw [following]
        exact List.forall_mem_cons.mpr ⟨whole.cons noClose space opens, laterWhole⟩
      · refine ⟨c :: first, later, ?_, whole.cons noClose space opens,
          List.not_mem_cons_of_ne_of_not_mem (Ne.symm closes) noClose, laterWhole⟩
        rw [cut_plain ⟨space, opens, closes⟩, following]
        rfl

/-- All segments of a text that are not empty may be segments again. -/
theorem whole_of_mem_solid {segment : Segment} (member : segment ∈ solid offset text) :
    Whole segment.text ∧ segment.text ≠ [] := by
  obtain ⟨first, later, parts, whole, _, laterWhole⟩ := whole_cut offset text
  obtain ⟨occurs, filled⟩ := List.mem_filter.mp member
  rw [parts] at occurs
  refine ⟨?_, by simpa using filled⟩
  rcases List.mem_cons.mp occurs with rfl | later
  · exact whole
  · exact laterWhole segment later

/-- Segments hold everything but the spaces, in order. -/
theorem flatMap_cut (offset : Nat) (text : Text) :
    (cut offset text).flatMap Segment.text = text.filter (· ≠ ' ') := by
  have extended : ∀ (offset : Nat) (c : Char) (segments : List Segment),
      (extendFirst offset c segments).flatMap Segment.text =
        c :: segments.flatMap Segment.text := by
    intro offset c segments
    cases segments <;> rfl
  induction text generalizing offset with
  | nil => rfl
  | cons c rest inductionHypothesis =>
      have following := inductionHypothesis (offset + c.utf8Size)
      by_cases space : c = ' '
      · subst space
        simpa [cut] using following
      by_cases opens : c = '('
      · subst opens
        simpa [cut] using following
      by_cases closes : c = ')'
      · subst closes
        simpa [cut, extended] using following
      · simpa [cut_plain ⟨space, opens, closes⟩, extended, space] using following

/-- The segments of a text hold all its characters but the spaces, in order. -/
theorem flatMap_solid (offset : Nat) (text : Text) :
    (solid offset text).flatMap Segment.text = text.filter (· ≠ ' ') := by
  have dropped : ∀ segments : List Segment,
      (segments.filter fun segment => !segment.text.isEmpty).flatMap Segment.text =
        segments.flatMap Segment.text := by
    intro segments
    induction segments with
    | nil => rfl
    | cons segment segments inductionHypothesis =>
        cases contents : segment.text <;> simp [contents, inductionHypothesis]
  rw [solid, dropped, flatMap_cut]

/-- If a text does not start with a blank, neither does its first segment. -/
theorem not_isBlank_of_head?_solid {segment : Segment} (tight : Text.Tight text)
    (first : (solid offset text).head? = some segment) (start : segment.text.head? = some c) :
    Text.isBlank c = false := by
  obtain ⟨later, parts⟩ := List.head?_eq_some_iff.mp first
  have joined := flatMap_solid offset text
  rw [parts, List.flatMap_cons] at joined
  have leads : (text.filter (· ≠ ' ')).head? = some c := by
    rw [← joined, List.head?_append, start]
    rfl
  cases text with
  | nil => simp at leads
  | cons d rest =>
      have notBlank := tight.start d rfl
      have notSpace : d ≠ ' ' := by
        rintro rfl
        exact absurd notBlank (by decide)
      have same : d = c := by simpa [notSpace] using leads
      rwa [← same]

/-- If a text does not end with a blank, neither does its last segment. -/
theorem not_isBlank_of_getLast?_solid {segment : Segment} (tight : Text.Tight text)
    (last : (solid offset text).getLast? = some segment) (stop : segment.text.getLast? = some c) :
    Text.isBlank c = false := by
  obtain ⟨front, parts⟩ := List.getLast?_eq_some_iff.mp last
  have joined := flatMap_solid offset text
  rw [parts, List.flatMap_append, List.flatMap_singleton] at joined
  have trails : (text.filter (· ≠ ' ')).getLast? = some c := by
    rw [← joined, List.getLast?_append, stop]
    rfl
  rcases List.eq_nil_or_concat text with rfl | ⟨rest, d, rfl⟩
  · simp at trails
  · have notBlank := tight.stop d (by simp)
    have notSpace : d ≠ ' ' := by
      rintro rfl
      exact absurd notBlank (by decide)
    have same : d = c := by simpa [List.filter_append, notSpace] using trails
    rwa [← same]

end Segment

/-- A text that is read as a term. -/
structure IsTerm (anyCase : Bool) (text : Text) : Prop where
  filled : text ≠ []
  whole : Segment.Whole text
  notOpen : text ≠ ['(']
  notClose : text ≠ [')']
  notKeyword : ∀ op : Operator, ¬ op.Spells anyCase text

/-- Token lists that are read from queries: all terms are legible, and there is no blank character
at either end of the list. -/
structure Canonical (anyCase : Bool) (tokens : List Token) : Prop where
  terms : ∀ text, .term text ∈ tokens → IsTerm anyCase text
  start : ∀ token, tokens.head? = some token →
    ∀ c, token.text.head? = some c → Text.isBlank c = false
  stop : ∀ token, tokens.getLast? = some token →
    ∀ c, token.text.getLast? = some c → Text.isBlank c = false

namespace Token

/-- The texts of tokens with a space between neighbours. -/
def join (tokens : List Token) : Text :=
  Text.joinWith [' '] (tokens.map text)

/-- Tokens that are written from a byte offset on with a space between neighbours. -/
def layOut (offset : Nat) : List Token → List PlacedToken
  | [] => []
  | token :: tokens => ⟨token, offset⟩ :: layOut (offset + Text.byteLength token.text + 1) tokens

variable {anyCase : Bool} {token : Token} {tokens : List Token} {segment : Text}

/-- Laying out tokens keeps them and their order. -/
@[simp] theorem map_token_layOut (offset : Nat) (tokens : List Token) :
    (layOut offset tokens).map (·.token) = tokens := by
  induction tokens generalizing offset with
  | nil => rfl
  | cons token tokens inductionHypothesis => simp [layOut, inductionHypothesis]

/-- The text of a token is one way to write it. -/
theorem spells_text (anyCase : Bool) (token : Token) : token.Spells anyCase token.text := by
  cases token with
  | operator op =>
      cases anyCase with
      | true => exact op.map_toUpper_symbol
      | false => rfl
  | openParen | closeParen | term _ => rfl

/-- A token that is no term has no blank character. -/
theorem not_isBlank_of_mem_text (noTerm : ∀ text, token ≠ .term text) :
    ∀ c ∈ token.text, Text.isBlank c = false := by
  apply (spells_text false token).notBlank
  cases token with
  | term text => exact absurd rfl (noTerm text)
  | operator _ | openParen | closeParen => trivial

/-- The text of a token may be a segment, and it is not empty. -/
theorem whole_text (legible : ∀ text, token = .term text → IsTerm anyCase text) :
    Segment.Whole token.text ∧ token.text ≠ [] := by
  cases token with
  | term text => exact ⟨(legible text rfl).whole, (legible text rfl).filled⟩
  | operator op =>
      cases op <;> exact ⟨⟨by decide, by decide, by decide⟩, by decide⟩
  | openParen | closeParen => exact ⟨⟨by decide, by decide, by decide⟩, by decide⟩

/-- A token is recognized by its text. -/
theorem ofSegment_text (legible : ∀ text, token = .term text → IsTerm anyCase text) :
    ofSegment anyCase token.text = token := by
  cases token with
  | operator op => exact (spells_text anyCase (.operator op)).ofSegment_eq trivial
  | openParen | closeParen => rfl
  | term text =>
      have isTerm := legible text rfl
      have noKeyword : Operator.ofKeyword? anyCase text = none := by
        rw [Option.eq_none_iff_forall_ne_some]
        intro op found
        exact isTerm.notKeyword op (Operator.ofKeyword?_eq_some_iff.mp found)
      simp [ofSegment, Token.text, isTerm.notOpen, isTerm.notClose, noKeyword]

/-- A segment that is read as a term is the text of that term. -/
theorem isTerm_of_ofSegment {text : Text} (whole : Segment.Whole segment) (filled : segment ≠ [])
    (read : ofSegment anyCase segment = .term text) : text = segment ∧ IsTerm anyCase text := by
  unfold ofSegment at read
  split at read
  · cases read
  · next notOpen =>
      split at read
      · cases read
      · next notClose =>
          split at read
          · cases read
          · next noKeyword =>
              cases read
              refine ⟨rfl, filled, whole, notOpen, notClose, fun op spells => ?_⟩
              rw [Operator.ofKeyword?_eq_some_iff.mpr spells] at noKeyword
              cases noKeyword

/-- An end of a token is blank only if the same end of its segment is. -/
theorem not_isBlank_end (whole : Segment.Whole segment) (filled : segment ≠ [])
    {atEnd : Text → Option Char} (occurs : ∀ {text c}, atEnd text = some c → c ∈ text)
    (clear : ∀ c, atEnd segment = some c → Text.isBlank c = false) :
    ∀ c, atEnd (ofSegment anyCase segment).text = some c → Text.isBlank c = false := by
  intro c isEnd
  by_cases term : ∃ text, ofSegment anyCase segment = .term text
  · obtain ⟨text, read⟩ := term
    obtain ⟨rfl, _⟩ := isTerm_of_ofSegment whole filled read
    rw [read] at isEnd
    exact clear c isEnd
  · exact not_isBlank_of_mem_text (fun text read => term ⟨text, read⟩) c (occurs isEnd)

/-- Every query is read as a canonical list. -/
theorem canonical_ofQuery (anyCase : Bool) (query : Text) :
    Canonical anyCase ((ofQuery anyCase query).map (·.token)) := by
  have tight := Text.tight_trim query
  rw [ofQuery_eq, List.map_map]
  generalize Text.byteLength (query.takeWhile Text.isBlank) = offset
  generalize Text.trim query = body at tight
  constructor
  · intro text member
    obtain ⟨segment, occurs, read⟩ := List.mem_map.mp member
    obtain ⟨whole, filled⟩ := Segment.whole_of_mem_solid occurs
    exact (isTerm_of_ofSegment whole filled read).2
  · intro token first
    rw [List.head?_map, Option.map_eq_some_iff] at first
    obtain ⟨segment, first, rfl⟩ := first
    obtain ⟨whole, filled⟩ := Segment.whole_of_mem_solid (List.mem_of_head? first)
    exact not_isBlank_end whole filled List.mem_of_head?
      fun c => Segment.not_isBlank_of_head?_solid tight first
  · intro token last
    rw [List.getLast?_map, Option.map_eq_some_iff] at last
    obtain ⟨segment, last, rfl⟩ := last
    obtain ⟨whole, filled⟩ := Segment.whole_of_mem_solid (List.mem_of_getLast? last)
    exact not_isBlank_end whole filled List.mem_of_getLast?
      fun c => Segment.not_isBlank_of_getLast?_solid tight last

/-- Every term of a query is read as a term again. -/
theorem isTerm_of_mem_ofQuery {query text : Text} {placed : PlacedToken}
    (member : placed ∈ ofQuery anyCase query) (kind : placed.token = .term text) :
    IsTerm anyCase text :=
  (canonical_ofQuery anyCase query).terms text (List.mem_map.mpr ⟨placed, member, kind⟩)

/-- Each of the joined texts is a segment of its own. -/
theorem map_solid_join (legible : ∀ text, .term text ∈ tokens → IsTerm anyCase text)
    (offset : Nat) :
    (Segment.solid offset (join tokens)).map
        (fun segment => ⟨ofSegment anyCase segment.text, segment.offset⟩) =
      layOut offset tokens := by
  induction tokens generalizing offset with
  | nil => rfl
  | cons token tokens inductionHypothesis =>
      have headLegible : ∀ text, token = .term text → IsTerm anyCase text := by
        rintro text rfl
        exact legible text List.mem_cons_self
      obtain ⟨whole, filled⟩ := whole_text headLegible
      cases tokens with
      | nil =>
          have ends : Segment.Breaks [] := trivial
          have single : Segment.solid offset (token.text ++ []) = _ :=
            Segment.solid_whole whole filled ends
          rw [List.append_nil, Segment.solid_nil] at single
          change (Segment.solid offset token.text).map _ = _
          rw [single]
          simp [layOut, ofSegment_text headLegible]
      | cons next tokens =>
          have joined : join (token :: next :: tokens) =
              token.text ++ ' ' :: join (next :: tokens) := by
            simp [join, Text.joinWith]
          have breaks : Segment.Breaks (' ' :: join (next :: tokens)) := .inl rfl
          rw [joined, Segment.solid_whole whole filled breaks, Segment.solid_space,
            List.map_cons, ofSegment_text headLegible,
            inductionHypothesis fun text member => legible text (List.mem_cons_of_mem _ member)]
          rfl

end Token

namespace Canonical

variable {anyCase : Bool} {tokens : List Token}

/-- Tokens that are read from queries have a text. -/
theorem filled (canonical : Canonical anyCase tokens) {token : Token} (member : token ∈ tokens) :
    token.text ≠ [] := by
  refine (Token.whole_text fun text same => canonical.terms text ?_).2
  rwa [← same]

/-- There is no blank character at either end of the joined texts. -/
theorem tight_join (canonical : Canonical anyCase tokens) : Text.Tight (Token.join tokens) where
  start := by
    cases tokens with
    | nil => simp [Token.join, Text.joinWith]
    | cons token tokens =>
        have filled := canonical.filled List.mem_cons_self
        obtain ⟨after, joined⟩ :=
          Text.exists_joinWith_cons [' '] token.text (tokens.map Token.text)
        intro c first
        rw [Token.join, List.map_cons, joined, List.head?_append_of_ne_nil _ filled] at first
        exact canonical.start token rfl c first
  stop := by
    rcases List.eq_nil_or_concat tokens with rfl | ⟨tokens, token, rfl⟩
    · simp [Token.join, Text.joinWith]
    · have filled : token.text ≠ [] := canonical.filled (by simp)
      obtain ⟨before, joined⟩ :=
        Text.exists_joinWith_concat [' '] token.text (tokens.map Token.text)
      intro c last
      rw [Token.join, List.concat_eq_append, List.map_append, List.map_singleton, joined,
        List.getLast?_append_of_ne_nil _ filled] at last
      exact canonical.stop token (by simp) c last

/-- A canonical list is read back from its joined texts. -/
theorem ofQuery_join_eq (canonical : Canonical anyCase tokens) :
    Token.ofQuery anyCase (Token.join tokens) = Token.layOut 0 tokens := by
  have tight := canonical.tight_join
  have noBlank : (Token.join tokens).takeWhile Text.isBlank = [] := by
    cases contents : Token.join tokens with
    | nil => rfl
    | cons c rest =>
        have notBlank := tight.start c (by rw [contents]; rfl)
        simp [notBlank]
  rw [Token.ofQuery_eq, Text.trim_eq_self tight, noBlank]
  exact Token.map_solid_join canonical.terms 0

end Canonical

/-- Every query is read as a canonical list, and the canonical lists are exactly those that are read
back from their joined texts, each token where its text was put. Hence joining the texts of the
tokens of a query leaves the tokens as they are. -/
theorem Token.ofQuery_join (anyCase : Bool) :
    (∀ query, Canonical anyCase ((ofQuery anyCase query).map (·.token))) ∧
    (∀ tokens, Canonical anyCase tokens ↔ ofQuery anyCase (join tokens) = layOut 0 tokens) ∧
    ∀ query, (ofQuery anyCase (join ((ofQuery anyCase query).map (·.token)))).map (·.token) =
      (ofQuery anyCase query).map (·.token) := by
  refine ⟨canonical_ofQuery anyCase, fun tokens => ⟨Canonical.ofQuery_join_eq, fun same => ?_⟩,
    fun query => ?_⟩
  · have canonical := canonical_ofQuery anyCase (join tokens)
    rwa [same, map_token_layOut] at canonical
  · rw [(canonical_ofQuery anyCase query).ofQuery_join_eq, map_token_layOut]

example : Token.ofQuery true "é( )( AND )b".toList =
    Token.layOut 0 [.term ['é', '('], .term [')', '('], .operator .and, .term [')', 'b']] := by
  decide +kernel

end BoolQuery
