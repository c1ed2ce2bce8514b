import BoolQuery.Proofs.Command.Record
import BoolQuery.Proofs.Keyword
import BoolQuery.Proofs.Postfix.Defects
import BoolQuery.Proofs.Table
import BoolQuery.Proofs.Text.Quoted

/-!
# Listings of tokens are read back

A listing has one row for every token. A reader that knows nothing but the drawing of tables,
decimal numbers and quoted texts finds offset, kind and text of the token in its row
(`ListedToken.ofRow?_barred`), and these make up the token (`PlacedToken.listed_injective`). No text
of a token disturbs the rows: only the last cell of a row holds it, and there it is quoted. The
tokens listed are those that a request to convert queries with the same settings works on
(`Command.output_listing`).
-/

namespace BoolQuery

/-- What the listing of tokens says about one of them. -/
structure ListedToken where
  offset : Nat
  kind : Text
  text : Text
deriving DecidableEq, Repr

/-- What is to be listed about a token. -/
def PlacedToken.listed (placed : PlacedToken) : ListedToken :=
  ⟨placed.offset, placed.token.kind, placed.token.text⟩

/-- What a row of a listing says. -/
def ListedToken.ofRow? (row : Text) : Option ListedToken :=
  match Table.readCells? 3 row with
  | some [offset, kind, quoted] =>
    match Json.readNumber? offset, Text.Quoted.unquote? quoted with
    | some (offset, []), some text => some ⟨offset, kind, text⟩
    | _, _ => none
  | _ => none

/-! ### Cells -/

namespace Text

/-- Letters and digits are neither blank nor drawn by tables, and they can be shown. -/
theorem plain_of_isAlphanum {c : Char} (plain : c.isAlphanum = true) :
    isBlank c = false ∧ c ≠ '┆' ∧ isPrintable c = true := by
  have code : 0x30 ≤ c.toNat ∧ c.toNat ≤ 0x7A := by
    rcases Bool.or_eq_true_iff.mp plain with letter | digit
    · have code := toNat_of_isAlpha letter
      omega
    · simp only [Char.isDigit, Bool.and_eq_true, decide_eq_true_eq, ge_iff_le,
        UInt32.le_iff_toNat_le, Char.toNat_val] at digit
      exact ⟨digit.1, Nat.le_trans digit.2 (by decide)⟩
  have notBlank : ∀ range ∈ blanks, range.last < 0x30 ∨ 0x7A < range.first := by decide
  have printable : ∀ range ∈ unprintableChars, range.last < 0x30 ∨ 0x7A < range.first := by
    decide +kernel
  refine ⟨CharSet.holds_eq_false notBlank code.1 code.2, ?_, ?_⟩
  · rintro rfl
    cases plain
  · rw [isPrintable, CharSet.holds_eq_false printable code.1 code.2]
    rfl

/-- A text between quotes has no blanks at its ends. -/
theorem tight_quote (text : Text) : Tight (Quoted.quote text) where
  start := by
    intro c first
    cases first
    decide
  stop := by
    intro c last
    rw [Quoted.quote, List.getLast?_concat] at last
    cases last
    decide

end Text

namespace Token

/-- A token is known by its kind and its text. -/
theorem eq_of_kind_of_text {token other : Token} (sameKind : token.kind = other.kind)
    (sameText : token.text = other.text) : token = other := by
  cases token with
  | operator op =>
      cases other with
      | operator other => exact congrArg operator (Operator.symbol_injective sameText)
      | openParen | closeParen | term _ => cases sameKind
  | term text =>
      cases other with
      | term other => exact congrArg term sameText
      | openParen | closeParen | operator _ => cases sameKind
  | openParen =>
      cases other with
      | openParen => rfl
      | closeParen => cases sameText
      | operator _ | term _ => cases sameKind
  | closeParen =>
      cases other with
      | closeParen => rfl
      | openParen => cases sameText
      | operator _ | term _ => cases sameKind

/-- The names of the kinds are words. -/
theorem isAlphanum_of_mem_kind {token : Token} {c : Char} (member : c ∈ token.kind) :
    c.isAlphanum = true := by
  have all : token.kind.all Char.isAlphanum = true := by
    cases token <;> rfl
  exact List.all_eq_true.mp all c member

end Token

namespace PlacedToken

/-- Nothing about a token is left out when it is listed. -/
theorem listed_injective {placed other : PlacedToken} (same : placed.listed = other.listed) :
    placed = other := by
  obtain ⟨sameOffset, sameKind, sameText⟩ := ListedToken.mk.inj same
  have sameToken := Token.eq_of_kind_of_text sameKind sameText
  cases placed
  cases other
  congr

/-- The cells of a token in front of its text. -/
def labels (placed : PlacedToken) : List Text :=
  [Text.ofNat placed.offset, placed.token.kind]

/-- The text of a token is its last cell, in quotes. -/
theorem cells_eq (placed : PlacedToken) :
    placed.cells = placed.labels ++ [Text.Quoted.quote placed.token.text] :=
  rfl

/-- Offset and kind are written in letters and digits. -/
theorem isAlphanum_of_mem_label {placed : PlacedToken} {cell : Text} {c : Char}
    (isLabel : cell ∈ placed.labels) (member : c ∈ cell) : c.isAlphanum = true := by
  simp only [labels, List.mem_cons, List.not_mem_nil, or_false] at isLabel
  rcases isLabel with rfl | rfl
  · rw [Char.isAlphanum, Json.isDigit_of_mem_ofNat member, Bool.or_true]
  · exact Token.isAlphanum_of_mem_kind member

/-- All cells are printable, since the quotes around a text escape what is not. -/
theorem isPrintable_of_mem_cells {placed : PlacedToken} {cell : Text} {c : Char}
    (isCell : cell ∈ placed.cells) (member : c ∈ cell) : Text.isPrintable c = true := by
  rw [cells_eq] at isCell
  rcases List.mem_append.mp isCell with label | last
  · exact (Text.plain_of_isAlphanum (isAlphanum_of_mem_label label member)).2.2
  · rw [List.mem_singleton.mp last] at member
    exact Text.Quoted.isPrintable_of_mem_quote member

/-- No cell has a blank character at either end, so padding can be told from it. -/
theorem tight_of_mem_cells {placed : PlacedToken} {cell : Text} (isCell : cell ∈ placed.cells) :
    Text.Tight cell := by
  rw [cells_eq] at isCell
  rcases List.mem_append.mp isCell with label | last
  · have noBlank : ∀ c ∈ cell, Text.isBlank c = false := fun c member =>
      (Text.plain_of_isAlphanum (isAlphanum_of_mem_label label member)).1
    exact ⟨fun c first => noBlank c (List.mem_of_mem_head? first),
      fun c last => noBlank c (List.mem_of_mem_getLast? last)⟩
  · rw [List.mem_singleton.mp last]
    exact Text.tight_quote _

/-- The cells that show a token are found in its row. -/
theorem readCells?_cells (placed : PlacedToken) {widths : List Nat} (enough : 3 ≤ widths.length) :
    Table.readCells? 3 (Table.barred widths placed.cells) = some placed.cells := by
  have noStroke : ∀ cell ∈ placed.labels, '┆' ∉ cell := fun cell isLabel stroke =>
    (Text.plain_of_isAlphanum (isAlphanum_of_mem_label isLabel stroke)).2.1 rfl
  exact @Table.readCells?_barred widths placed.labels _ enough noStroke fun _ isCell =>
    tight_of_mem_cells isCell

end PlacedToken

/-! ### Rows -/

/-- A row says what is to be listed about its token. -/
theorem ListedToken.ofRow?_barred (placed : PlacedToken) {widths : List Nat}
    (enough : 3 ≤ widths.length) :
    ofRow? (Table.barred widths placed.cells) = some placed.listed := by
  have number : Json.readNumber? (Text.ofNat placed.offset) = some (placed.offset, []) := by
    have isRead := @Json.readNumber?_ofNat placed.offset [] nofun
    rwa [List.append_nil] at isRead
  rw [ofRow?, placed.readCells?_cells enough, PlacedToken.cells]
  simp only [number, Text.Quoted.unquote?_quote]
  rfl

/-- A table of tokens is cut into its lines at its line feeds. There is one row for every token,
which says what is to be listed about it, and nothing in the rows fails to be shown. -/
theorem PlacedToken.exists_rows (tokens : List PlacedToken) :
    ∃ rows, Text.splitAtEach '\n' (table tokens).render =
        (table tokens).top ++ rows ++ [(table tokens).bottom, []] ∧
      rows.map ListedToken.ofRow? = tokens.map (some ∘ listed) ∧
      ∀ row ∈ rows, ∀ c ∈ row, Text.isPrintable c = true := by
  have ofCell : ∀ cells ∈ (table tokens).heading :: (table tokens).rows, ∀ cell ∈ cells,
      ∀ c ∈ cell, Text.isPrintable c = true := by
    refine List.forall_mem_cons.mpr ⟨?_, fun cells isRow cell isCell c member => ?_⟩
    · have letters : ((table tokens).heading.all (·.all Char.isAlphanum)) = true := rfl
      intro cell isCell c member
      have plain := List.all_eq_true.mp (List.all_eq_true.mp letters cell isCell) c member
      exact (Text.plain_of_isAlphanum plain).2.2
    · obtain ⟨placed, _, rfl⟩ := List.mem_map.mp isRow
      exact isPrintable_of_mem_cells isCell member
  have ofStroke : ∀ c ∈ Table.strokes, Text.isPrintable c = true :=
    List.all_eq_true.mp (by decide +kernel)
  refine ⟨(table tokens).rows.map (Table.barred (table tokens).widths), ?_, ?_, ?_⟩
  · rw [Table.splitAtEach_render, Table.lines, List.append_assoc]
    · rfl
    · intro cells isRow cell isCell feed
      have shown := ofCell cells isRow cell isCell '\n' feed
      rw [Text.not_isPrintable_lineFeed] at shown
      cases shown
  · have rows : (table tokens).rows = tokens.map cells := rfl
    rw [rows, List.map_map, List.map_map]
    refine List.map_congr_left fun placed isToken => ?_
    have isRow : placed.cells ∈ (table tokens).heading :: (table tokens).rows :=
      List.mem_cons_of_mem _ (List.mem_map_of_mem isToken)
    exact ListedToken.ofRow?_barred placed (Table.length_le_length_widths isRow)
  · intro row isRow c member
    obtain ⟨cells, isCells, rfl⟩ := List.mem_map.mp isRow
    rcases Table.mem_of_mem_barred member with drawn | ⟨cell, isCell, within⟩
    · exact ofStroke c drawn
    · exact ofCell cells (List.mem_cons_of_mem _ isCells) cell isCell c within

/-! ### Commands -/

namespace Command

variable {environment : Environment} {settings : Settings} {query : Text} {anyCase : Bool}

/-- What is written and how the program ends when the tokens of a query are listed. -/
theorem run_tokens [SuppliedStems] (filter : Log.Filter)
    (loaded : environment.load environment.directory.path = .ok settings)
    (filled : Token.ofQuery (anyCase || settings.query.anyCase) query ≠ []) :
    let outcome := run environment filter (.tokens query anyCase)
    outcome.output =
        (PlacedToken.table (Token.ofQuery (anyCase || settings.query.anyCase) query)).render ∧
      outcome.code = 0 := by
  intro outcome
  have ran := withSettings_of_load filter loaded fun settings =>
    runTokens environment.files settings query anyCase
  obtain ⟨first, rest, tokens⟩ := List.exists_cons_of_ne_nil filled
  have acted : runTokens environment.files settings query anyCase =
      ⟨0, (PlacedToken.table (first :: rest)).render, [], environment.files⟩ := by
    rw [runTokens, tokens]
  rw [acted] at ran
  rw [tokens]
  exact ⟨congrArg Outcome.output ran, congrArg Outcome.code ran⟩

/-- The tokens of a query that has some are listed by a table, with settings that can be loaded. Cut
at its line feeds the output is the lines of the table, and reading its rows gives offset, kind and
text of the tokens, in order, and of no other tokens. These are the tokens that the same query is
converted by, with the same settings and the same wish for the case of keywords, by any request
whose stemmer exists. -/
theorem output_listing [SuppliedStems] {environment : Environment} {listing arguments : List Text}
    {query : Text} {anyCase : Bool} {request : ConvertRequest} {settings : Settings}
    {stemmer : Stemmer} (filter : Log.Filter)
    (listed : ofArguments listing = .ok (.tokens query anyCase))
    (asked : ofArguments arguments = .ok (.convert request)) (same : request.anyCase = anyCase)
    (loaded : environment.load environment.directory.path = .ok settings)
    (known : Stemmer.ofName (request.stemmer.getD settings.query.stemmer) = .ok stemmer)
    (filled : Token.ofQuery (anyCase || settings.query.anyCase) query ≠ []) :
    ∃ converter, request.converter settings = .ok converter ∧
      (∃ outcome rows, runArguments environment filter listing = .ok outcome ∧
        outcome.code = 0 ∧
        Text.splitAtEach '\n' outcome.output =
          (PlacedToken.table (converter.tokens query)).top ++ rows ++
            [(PlacedToken.table (converter.tokens query)).bottom, []] ∧
        (∀ tokens, rows.map ListedToken.ofRow? = tokens.map (some ∘ PlacedToken.listed) ↔
          tokens = converter.tokens query) ∧
        ∀ row ∈ rows, ∀ c ∈ row, Text.isPrintable c = true) ∧
      ∃ outcome answers, runArguments environment filter arguments = .ok outcome ∧
        outcome.output =
          (if request.json then Answer.document answers else answers.flatMap Answer.line) ∧
        answers = request.queries.map (fun query => ⟨query, converter.convert query⟩) ∧
        converter.convert query =
          (converter.convertTokens converter.options.strict (converter.tokens query)).mapError
            (·.withQuery query) := by
  subst same
  let options : ConvertOptions :=
    ⟨!request.lenient && (request.strict || settings.query.strict),
      request.anyCase || settings.query.anyCase⟩
  let converter : Converter := ⟨stemmer.normalize, options⟩
  have made : request.converter settings = .ok converter := by
    rw [ConvertRequest.converter, known]
    rfl
  obtain ⟨table, code⟩ := run_tokens filter loaded filled
  obtain ⟨rows, lines, read, shown⟩ := PlacedToken.exists_rows (converter.tokens query)
  refine ⟨converter, made, ⟨_, rows, runArguments_of_ofArguments filter listed, code, ?_, ?_,
    shown⟩, _, _, runArguments_of_ofArguments filter asked, (run_convert filter loaded made).1, rfl,
    converter.convert_eq_convertTokens query⟩
  · rw [table]
    exact lines
  · intro tokens
    rw [read]
    constructor
    · intro readAlike
      refine (List.map_injective_iff.mpr ?_ readAlike).symm
      intro placed other same
      exact PlacedToken.listed_injective (Option.some.inj same)
    · rintro rfl
      rfl

/-- A term with a line feed, a quote, a backslash and the strokes of a table has a row of its own,
and so has the operator behind it. -/
theorem output_listing_of_strokes :
    let _ := SuppliedStems.unchanged
    let environment := Environment.holding [] ⟨"/".toList⟩
    let query := "a\n│┆\"\\ and".toList
    let request : ConvertRequest := ⟨[query], false, false, true, none, false⟩
    Token.ofQuery true query ≠ [] ∧
      ofArguments (listingWords query true) = .ok (.tokens query true) ∧
      ofArguments request.words = .ok (.convert request) ∧
      ∃ outcome rows, runArguments environment [] (listingWords query true) = .ok outcome ∧
        (∃ above below, Text.splitAtEach '\n' outcome.output = above ++ rows ++ below ∧
          above.length = 3 ∧ below.length = 2) ∧
        rows.map ListedToken.ofRow? =
          [some ⟨0, "term", "a\n│┆\"\\"⟩, some ⟨11, "operator", "AND"⟩] := by
  intro _ environment query request
  have filled : Token.ofQuery true query ≠ [] := by decide +kernel
  have listed := ofArguments_listingWords query true
  have asked : ofArguments request.words = .ok (.convert request) :=
    ConvertRequest.ofArguments_words (by simp [request]) (by simp [request])
  have loaded : environment.load environment.directory.path = .ok Settings.default := rfl
  have known : Stemmer.ofName (request.stemmer.getD Settings.default.query.stemmer) =
      .ok (.language .english) := rfl
  obtain ⟨converter, made, ⟨outcome, rows, ran, _, lines, read, _⟩, _⟩ :=
    output_listing [] listed asked rfl loaded known filled
  have anyCase : converter.options.anyCase = true := by
    cases made
    rfl
  refine ⟨filled, listed, asked, outcome, rows, ran, ⟨_, _, lines, rfl, rfl⟩,
    ((read _).mpr rfl).trans ?_⟩
  rw [Converter.tokens, anyCase]
  decide +kernel

end Command
end BoolQuery
