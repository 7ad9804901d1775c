import SqlTree.Proofs.Grammar.Primaries
import SqlTree.Proofs.Grammar.Tables

/-!
# Reading queries

Each clause of a query ends where a later one starts, or where the query does: the places of the
tokens that start the clauses grow.
-/

namespace SqlTree

open SqlTree.Parser SqlTree.Grammar

/-- A returned column is read from its tokens, before a comma and before the next clause. -/
structure ReadsColumn (levels : Nat) (column : OutputColumn) (kinds : List TokenKind) : Prop where
  opens : kindAt kinds 0 = .symbol .star ∨ opensExpression kinds = true
  read : ∀ rest, kindAt rest 0 = .symbol .comma ∨ 0 < clausePlace (kindAt rest 0) →
    Reads (outputColumn (rules levels)) kinds column rest

/-- A comma ends a table as it ends an expression. -/
theorem EndsTable.of_separator {kinds : List TokenKind}
    (ends : kindAt kinds 0 = .symbol .comma ∨ 0 < clausePlace (kindAt kinds 0)) :
    EndsTable (kindAt kinds 0) := by
  rcases ends with comma | later
  · rw [comma]
    exact ⟨⟨rfl, fun _ => rfl⟩, nofun⟩
  · exact .of_clausePlace later

/-- An optional clause starts with its keyword, or is left out before a later clause. -/
theorem clausePlace_optional {α : Type} {place : Nat} {word : Keyword} (piece : Option (Piece α))
    {rest : List TokenKind} (here : place ≤ clausePlace (.keyword word))
    (behind : place ≤ clausePlace (kindAt rest 0)) :
    place ≤ clausePlace (kindAt (Piece.optional word piece ++ rest) 0) := by
  cases piece with
  | none => exact behind
  | some => exact here

theorem clausePlace_listBehind {α : Type} {place : Nat} {word : Keyword} {words : List TokenKind}
    (pieces : List (Piece α)) {rest : List TokenKind} (here : place ≤ clausePlace (.keyword word))
    (behind : place ≤ clausePlace (kindAt rest 0)) :
    place ≤ clausePlace (kindAt (Piece.listBehind (.keyword word :: words) pieces ++ rest) 0) := by
  cases pieces with
  | nil => exact behind
  | cons => exact here

namespace Parser.Reads

variable {α : Type} {item : Parser α} {levels : Nat} {kinds rest : List TokenKind}

/-- A list behind a keyword and `BY` is read where the keyword stands. -/
theorem listBy {word : Keyword} {pieces : List (Piece α)} (Ends : List TokenKind → Prop)
    (each : ∀ piece ∈ pieces, ∀ after, Ends after → Reads item piece.kinds piece.value after)
    (between : ∀ after, Ends (.symbol .comma :: after)) (behind : Ends rest)
    (stops : kindAt rest 0 ≠ .symbol .comma) (absent : kindAt rest 0 ≠ .keyword word) :
    Reads (listBy word item) (Piece.listBehind [.keyword word, .keyword .BY] pieces)
      (pieces.map Piece.value) rest := by
  cases pieces with
  | nil => exact bind_none (eat_false absent) (pure _ _)
  | cons first others =>
      exact bind_one (eatKeyword _ _) (bind_one (expectKeyword _ _)
        (separated Ends (List.cons_ne_nil _ _) each between behind stops))

/-- An expression behind a keyword is read up to a later clause. -/
theorem optionalExpression {word : Keyword} {piece : Option (Piece Expr)}
    (each : ∀ part ∈ piece, ReadsOperand levels 0 part.value part.kinds)
    (later : clausePlace (.keyword word) < clausePlace (kindAt rest 0)) :
    Reads (Parser.optionalAfter word ((rules levels).expression 0)) (Piece.optional word piece)
      (piece.map Piece.value) rest :=
  have ends := EndsTable.of_clausePlace (Nat.zero_lt_of_lt later)
  optionalAfter
    (fun part present => (each part present).expression (Nat.le_refl _)
      (ends.toEndsExpression.follows 0))
    fun _ => ne_of_clausePlace later

/-- Returned columns are read up to the next clause. -/
theorem outputColumns {pieces : List (Piece OutputColumn)} (nonempty : pieces ≠ [])
    (each : ∀ piece ∈ pieces, ReadsColumn levels piece.value piece.kinds)
    (later : 0 < clausePlace (kindAt rest 0)) :
    Reads (outputColumns (rules levels)) (Piece.separated pieces) (pieces.map Piece.value) rest :=
  separated
    (fun kinds => kindAt kinds 0 = .symbol .comma ∨ 0 < clausePlace (kindAt kinds 0)) nonempty
    (fun piece among => (each piece among).read) (fun _ => .inl rfl) (.inr later)
    (ne_of_clausePlace later)

/-- Tables with their joins are read as the one entry of a list, up to the next clause. -/
theorem tableList {tables : TableRef} (read : ReadsTables levels tables kinds)
    (later : 0 < clausePlace (kindAt rest 0)) :
    Reads (tableList (rules levels)) kinds tables rest := by
  have joined := read.read (.none (nextJoin_none later)) (EndsTable.of_clausePlace later)
  rw [List.append_nil] at joined
  have noComma : kindAt rest 0 ≠ .symbol .comma := ne_of_clausePlace later
  have noMore : Reads (Parser.manyAfter (Parser.eatSymbol .comma) (joinedTables (rules levels)))
      [] [] rest :=
    (ReadsEach.none (bind_none (eat_false noComma) (pure _ _))).collect
  exact bind_last joined (bind_none noMore (pure _ _))

theorem optionalTables {word : Keyword} {piece : Option (Piece TableRef)}
    (each : ∀ part ∈ piece, ReadsTables levels part.value part.kinds)
    (later : clausePlace (.keyword word) < clausePlace (kindAt rest 0)) :
    Reads (Parser.optionalAfter word (Grammar.tableList (rules levels)))
      (Piece.optional word piece) (piece.map Piece.value) rest :=
  optionalAfter
    (fun part present => tableList (each part present) (Nat.zero_lt_of_lt later))
    fun _ => ne_of_clausePlace later

theorem nullPlacement (placement : NullPlacement) (rest : List TokenKind) :
    Reads nullPlacement placement.kinds placement rest := by
  cases placement with
  | first => exact bind_one (eatKeyword _ _) (pure _ _)
  | last => exact bind_none (eat_false nofun) (bind_one (expectKeyword _ _) (pure _ _))

theorem direction {order : Direction} {words : List TokenKind} (spelled : words ∈ order.words)
    (plain : kindAt rest 0 ≠ .keyword .DESC ∧ kindAt rest 0 ≠ .keyword .ASC) :
    Reads direction words order rest := by
  cases order with
  | ascending =>
      rcases spelled with _ | ⟨_, _ | ⟨_, spelled⟩⟩
      · exact bind_none (eat_false plain.1) (bind_none (eat_false plain.2) (pure _ _))
      · exact bind_none (eat_false nofun) (bind_one (eatKeyword _ _) (pure _ _))
      · cases spelled
  | descending =>
      rcases spelled with _ | ⟨_, spelled⟩
      · exact bind_one (eatKeyword _ _) (pure _ _)
      · cases spelled

/-- A sort key is read before a comma and before the next clause. -/
theorem sortKey {sort : SortPiece} (spelled : sort.words ∈ sort.direction.words)
    (key : ReadsOperand levels 0 sort.key.value sort.key.kinds)
    (ends : kindAt rest 0 = .symbol .comma ∨ 0 < clausePlace (kindAt rest 0)) :
    Reads (sortKey (rules levels)) sort.piece.kinds sort.piece.value rest := by
  obtain ⟨⟨body, kinds⟩, order, words, nulls⟩ := sort
  let nullsPiece : Option (Piece NullPlacement) :=
    nulls.map fun placement => ⟨placement, placement.kinds⟩
  have other (word : Keyword) (noPlace : clausePlace (.keyword word) = 0) :
      kindAt rest 0 ≠ .keyword word := by
    rcases ends with comma | later
    · rw [comma]
      exact nofun
    · exact ne_of_clausePlace (noPlace ▸ later)
  have plain : kindAt (Piece.optional .NULLS nullsPiece ++ rest) 0 ≠ .keyword .DESC
      ∧ kindAt (Piece.optional .NULLS nullsPiece ++ rest) 0 ≠ .keyword .ASC := by
    cases nulls with
    | none => exact ⟨other .DESC rfl, other .ASC rfl⟩
    | some => exact ⟨nofun, nofun⟩
  have endsKey : EndsExpression (kindAt (words ++ Piece.optional .NULLS nullsPiece ++ rest) 0) := by
    have onNulls : EndsExpression (kindAt (Piece.optional .NULLS nullsPiece ++ rest) 0) := by
      cases nulls with
      | none => exact (EndsTable.of_separator ends).toEndsExpression
      | some => exact ⟨rfl, fun _ => rfl⟩
    cases order with
    | ascending =>
        rcases spelled with _ | ⟨_, _ | ⟨_, spelled⟩⟩
        · exact onNulls
        · exact ⟨rfl, fun _ => rfl⟩
        · cases spelled
    | descending =>
        rcases spelled with _ | ⟨_, spelled⟩
        · exact ⟨rfl, fun _ => rfl⟩
        · cases spelled
  have placed : Reads (Parser.optionalAfter .NULLS Grammar.nullPlacement)
      (Piece.optional .NULLS nullsPiece) nulls rest := by
    have read : Reads (Parser.optionalAfter .NULLS Grammar.nullPlacement)
        (Piece.optional .NULLS nullsPiece) (nullsPiece.map Piece.value) rest := by
      refine optionalAfter (fun part present => ?_) fun _ => other .NULLS rfl
      obtain ⟨placement, _, rfl⟩ := Option.map_eq_some_iff.mp present
      exact nullPlacement placement rest
    simpa [nullsPiece, Function.comp_def] using read
  exact bind (key.expression (Nat.le_refl _) (endsKey.follows 0))
    (bind (direction spelled plain) (bind_last placed (pure _ _)))

theorem noSetOperation (later : 8 ≤ clausePlace (kindAt rest 0)) :
    Reads noSetOperation [] () rest := by
  refine current_bind fun token same => ?_
  have closing : 8 ≤ clausePlace token.kind := by
    rw [same]
    exact later
  have other (word : Keyword) (noPlace : clausePlace (.keyword word) = 0) :
      token.kind ≠ .keyword word := ne_of_clausePlace (by omega)
  split
  · rename_i found
    exact absurd found (other .UNION rfl)
  · rename_i found
    exact absurd found (other .INTERSECT rfl)
  · rename_i found
    exact absurd found (other .EXCEPT rfl)
  · exact pure _ _

theorem distinctness {distinct : Bool} {words : List TokenKind}
    (spelled : words ∈ distinctWords distinct)
    (plain : kindAt rest 0 ≠ .keyword .DISTINCT ∧ kindAt rest 0 ≠ .keyword .ALL) :
    Reads distinctness words distinct rest := by
  cases distinct with
  | true =>
      rcases spelled with _ | ⟨_, spelled⟩
      · exact bind_one (eatKeyword _ _) (pure _ _)
      · cases spelled
  | false =>
      rcases spelled with _ | ⟨_, _ | ⟨_, spelled⟩⟩
      · exact bind_none (eat_false plain.1) (bind_none (eat_false plain.2) (pure _ _))
      · exact bind_none (eat_false nofun) (bind_one (eatKeyword _ _) (pure _ _))
      · cases spelled

end Parser.Reads

namespace ReadsColumn

variable {levels : Nat} {kinds : List TokenKind}

/-- An expression and its alias make a column. -/
private theorem of_expression {value : Expr} (aliasName : Option String)
    (opens : kindAt (kinds ++ aliasKinds aliasName) 0 = .symbol .star
      ∨ opensExpression (kinds ++ aliasKinds aliasName) = true)
    (read : ∀ rest, EndsExpression (kindAt rest 0) →
      Reads ((rules levels).expression 0) kinds value rest) :
    ReadsColumn levels ⟨value, aliasName⟩ (kinds ++ aliasKinds aliasName) where
  opens := opens
  read rest ends := by
    have endsTable := EndsTable.of_separator ends
    have endsValue : EndsExpression (kindAt (aliasKinds aliasName ++ rest) 0) := by
      cases aliasName with
      | none => exact endsTable.toEndsExpression
      | some => exact ⟨rfl, fun _ => rfl⟩
    exact Reads.bind (read _ endsValue)
      (Reads.bind_last (Reads.optionalAlias aliasName endsTable.plain endsTable.ends)
        (Reads.pure _ _))

theorem value {value : Expr} (aliasName : Option String)
    (read : ReadsOperand levels 0 value kinds) :
    ReadsColumn levels ⟨value, aliasName⟩ (kinds ++ aliasKinds aliasName) :=
  of_expression aliasName (.inr (opensExpression_append read.opens _)) fun _ ends =>
    read.expression (Nat.le_refl _) (ends.follows 0)

/-- A star is read as an expression of its own. -/
private theorem star_expression {rest : List TokenKind} (ends : EndsExpression (kindAt rest 0)) :
    Reads ((rules (levels + 1)).expression 0) [.symbol .star] .star rest := by
  have stops : Reads (nextSuffix (rules levels) 0) [] none rest :=
    Reads.nextSuffix_none (ends.follows 0)
  exact Reads.bind_last (Reads.operand_of_star rest)
    (Reads.bind_none (ReadsEach.none stops).collect (Reads.pure _ _))

theorem all (aliasName : Option String) :
    ReadsColumn (levels + 1) ⟨.star, aliasName⟩ (.symbol .star :: aliasKinds aliasName) :=
  of_expression aliasName (.inl rfl) fun _ ends => star_expression ends

theorem allInParens (aliasName : Option String) :
    ReadsColumn (levels + 2) ⟨.star, aliasName⟩
      (inParens [.symbol .star] ++ aliasKinds aliasName) := by
  refine of_expression aliasName (.inr rfl) fun rest ends => ?_
  have stops : Reads (nextSuffix (rules (levels + 1)) 0) [] none rest :=
    Reads.nextSuffix_none (ends.follows 0)
  have inside : Reads ((rules (levels + 1)).expression 0) [.symbol .star] .star
      (.symbol .rightParen :: rest) := star_expression ⟨rfl, fun _ => rfl⟩
  have noQuery : kindAt ([.symbol .star] ++ .symbol .rightParen :: rest) 0 ≠ .keyword .SELECT :=
    nofun
  exact Reads.bind_last
    (Reads.operand_of_parens (Reads.bind_none (Reads.atKeyword_false noQuery) inside))
    (Reads.bind_none (ReadsEach.none stops).collect (Reads.pure _ _))

/-- Returned columns open with no word that tells whether the query is distinct. -/
theorem opens_separated {pieces : List (Piece OutputColumn)} (nonempty : pieces ≠ [])
    (each : ∀ piece ∈ pieces, ReadsColumn levels piece.value piece.kinds) (rest : List TokenKind) :
    kindAt (Piece.separated pieces ++ rest) 0 ≠ .keyword .DISTINCT
      ∧ kindAt (Piece.separated pieces ++ rest) 0 ≠ .keyword .ALL := by
  cases pieces with
  | nil => exact absurd rfl nonempty
  | cons first others =>
      obtain ⟨value, kinds⟩ := first
      rw [Piece.separated, List.append_assoc]
      rcases (each _ List.mem_cons_self).opens with star | opens
      · cases kinds with
        | nil => cases star
        | cons kind kinds =>
            obtain rfl : kind = .symbol .star := star
            exact ⟨nofun, nofun⟩
      · exact ⟨kindAt_ne_of_opens opens rfl, kindAt_ne_of_opens opens rfl⟩

end ReadsColumn

section Tails

variable (parts : QueryPieces) {rest : List TokenKind}

/-- The kinds of a query from its limit on. -/
private def fromLimit : List TokenKind :=
  Piece.optional .LIMIT parts.limit ++ Piece.optional .OFFSET parts.offset

/-- The kinds of a query from its sort order on. -/
private def fromOrder : List TokenKind :=
  Piece.listBehind [.keyword .ORDER, .keyword .BY] (parts.orderBy.map SortPiece.piece)
    ++ fromLimit parts

/-- The kinds of a query from the condition on its groups on. -/
private def fromHaving : List TokenKind :=
  Piece.optional .HAVING parts.having ++ fromOrder parts

/-- The kinds of a query from its groups on. -/
private def fromGroup : List TokenKind :=
  Piece.listBehind [.keyword .GROUP, .keyword .BY] parts.groupBy ++ fromHaving parts

/-- The kinds of a query from the condition on its rows on. -/
private def fromWhere : List TokenKind :=
  Piece.optional .WHERE parts.filter ++ fromGroup parts

/-- The kinds of a query from its tables on. -/
private def fromSource : List TokenKind :=
  Piece.optional .FROM parts.source ++ fromWhere parts

-- What follows each clause is a later clause or the end of the query.

private theorem place_offset (later : 8 ≤ clausePlace (kindAt rest 0)) :
    7 ≤ clausePlace (kindAt (Piece.optional .OFFSET parts.offset ++ rest) 0) :=
  clausePlace_optional _ (by decide) (by omega)

private theorem place_fromLimit (later : 8 ≤ clausePlace (kindAt rest 0)) :
    6 ≤ clausePlace (kindAt (fromLimit parts ++ rest) 0) := by
  have behind := place_offset parts later
  rw [fromLimit, List.append_assoc]
  exact clausePlace_optional _ (by decide) (by omega)

private theorem place_fromOrder (later : 8 ≤ clausePlace (kindAt rest 0)) :
    5 ≤ clausePlace (kindAt (fromOrder parts ++ rest) 0) := by
  have behind := place_fromLimit parts later
  rw [fromOrder, List.append_assoc]
  exact clausePlace_listBehind _ (by decide) (by omega)

private theorem place_fromHaving (later : 8 ≤ clausePlace (kindAt rest 0)) :
    4 ≤ clausePlace (kindAt (fromHaving parts ++ rest) 0) := by
  have behind := place_fromOrder parts later
  rw [fromHaving, List.append_assoc]
  exact clausePlace_optional _ (by decide) (by omega)

private theorem place_fromGroup (later : 8 ≤ clausePlace (kindAt rest 0)) :
    3 ≤ clausePlace (kindAt (fromGroup parts ++ rest) 0) := by
  have behind := place_fromHaving parts later
  rw [fromGroup, List.append_assoc]
  exact clausePlace_listBehind _ (by decide) (by omega)

private theorem place_fromWhere (later : 8 ≤ clausePlace (kindAt rest 0)) :
    2 ≤ clausePlace (kindAt (fromWhere parts ++ rest) 0) := by
  have behind := place_fromGroup parts later
  rw [fromWhere, List.append_assoc]
  exact clausePlace_optional _ (by decide) (by omega)

private theorem place_fromSource (later : 8 ≤ clausePlace (kindAt rest 0)) :
    1 ≤ clausePlace (kindAt (fromSource parts ++ rest) 0) := by
  have behind := place_fromWhere parts later
  rw [fromSource, List.append_assoc]
  exact clausePlace_optional _ (by decide) (by omega)

end Tails

/-- A query is read from its clauses. -/
theorem ReadsQuery.query {levels : Nat} {parts : QueryPieces}
    (words : parts.words ∈ distinctWords parts.distinct) (nonempty : parts.columns ≠ [])
    (columns : ∀ piece ∈ parts.columns, ReadsColumn levels piece.value piece.kinds)
    (source : ∀ piece ∈ parts.source, ReadsTables levels piece.value piece.kinds)
    (filter : ∀ piece ∈ parts.filter, ReadsOperand levels 0 piece.value piece.kinds)
    (groupBy : ∀ piece ∈ parts.groupBy, ReadsOperand levels 0 piece.value piece.kinds)
    (having : ∀ piece ∈ parts.having, ReadsOperand levels 0 piece.value piece.kinds)
    (directions : ∀ sort ∈ parts.orderBy, sort.words ∈ sort.direction.words)
    (orderBy : ∀ sort ∈ parts.orderBy, ReadsOperand levels 0 sort.key.value sort.key.kinds)
    (limit : ∀ piece ∈ parts.limit, ReadsOperand levels 0 piece.value piece.kinds)
    (offset : ∀ piece ∈ parts.offset, ReadsOperand levels 0 piece.value piece.kinds) :
    ReadsQuery (levels + 1) parts.select parts.kinds where
  opens := ⟨_, rfl⟩
  read rest later := by
    have atLimit := place_fromLimit parts later
    have atHaving := place_fromHaving parts later
    have endsList {kinds : List TokenKind} {place : Nat} (positive : 0 < place)
        (later : place ≤ clausePlace (kindAt kinds 0)) : Follows 0 kinds :=
      (EndsTable.of_clausePlace (Nat.lt_of_lt_of_le positive later)).toEndsExpression.follows 0
    have sortKeys : ∀ piece ∈ parts.orderBy.map SortPiece.piece, ∀ after,
        kindAt after 0 = .symbol .comma ∨ 0 < clausePlace (kindAt after 0) →
        Reads (sortKey (rules levels)) piece.kinds piece.value after := by
      intro piece among after ends
      obtain ⟨sort, present, rfl⟩ := List.mem_map.mp among
      exact Reads.sortKey (directions sort present) (orderBy sort present) ends
    have onColumns := ReadsColumn.opens_separated nonempty columns
    exact Reads.bind_one (Reads.expectKeyword _ _)
      (Reads.bind (Reads.distinctness words (by rw [List.append_assoc]; exact onColumns _))
      (Reads.bind (Reads.outputColumns nonempty columns (place_fromSource parts later))
      (Reads.bind (Reads.optionalTables source (place_fromWhere parts later))
      (Reads.bind (Reads.optionalExpression filter (place_fromGroup parts later))
      (Reads.bind (Reads.listBy (Follows 0)
        (fun piece among after => (groupBy piece among).expression (Nat.le_refl _))
        (fun _ => EndsExpression.follows ⟨rfl, fun _ => rfl⟩ 0) (endsList (by decide) atHaving)
        (ne_of_clausePlace (Nat.lt_of_lt_of_le (by decide) atHaving))
        (ne_of_clausePlace (Nat.lt_of_lt_of_le (by decide) atHaving)))
      (Reads.bind (Reads.optionalExpression having (place_fromOrder parts later))
      (Reads.bind (Reads.listBy
        (fun kinds => kindAt kinds 0 = .symbol .comma ∨ 0 < clausePlace (kindAt kinds 0))
        sortKeys (fun _ => .inl rfl) (.inr (Nat.lt_of_lt_of_le (by decide) atLimit))
        (ne_of_clausePlace (Nat.lt_of_lt_of_le (by decide) atLimit))
        (ne_of_clausePlace (Nat.lt_of_lt_of_le (by decide) atLimit)))
      (Reads.bind (Reads.optionalExpression limit (place_offset parts later))
      (Reads.bind_last (Reads.optionalExpression offset (Nat.lt_of_lt_of_le (by decide) later))
      (Reads.bind_none (Reads.noSetOperation later) (Reads.pure _ _)))))))))))

end SqlTree
