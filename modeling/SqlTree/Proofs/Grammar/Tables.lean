import SqlTree.Proofs.Grammar.Operators

/-!
# Reading tables and joins

A table is read with the joins behind it, which group to the left. A table or a join on the right
side stands alone or in parentheses, so that the joins behind it are left to the side before it.
-/

namespace SqlTree

open SqlTree.Parser SqlTree.Grammar

/-- A token that neither an expression nor a table with its alias goes on with. -/
structure EndsTable (kind : TokenKind) : Prop extends EndsExpression kind where
  plain : kind ≠ .keyword .AS

/-- The place of a token among those that the clauses of a statement and what follows them start
with, from the first clause on; other tokens have none. -/
def clausePlace : TokenKind → Nat
  | .keyword .FROM => 1
  | .keyword .WHERE => 2
  | .keyword .GROUP => 3
  | .keyword .HAVING => 4
  | .keyword .ORDER => 5
  | .keyword .LIMIT => 6
  | .keyword .OFFSET => 7
  | .keyword .RETURNING => 8
  | .symbol .rightParen | .symbol .semicolon | .finish => 9
  | _ => 0

/-- A token with a later place is another one. -/
theorem ne_of_clausePlace {kind other : TokenKind} (later : clausePlace other < clausePlace kind) :
    kind ≠ other := by
  rintro rfl
  exact Nat.lt_irrefl _ later

/-- What starts a clause, or stands behind the last, ends an expression and a table before it. -/
theorem EndsTable.of_clausePlace {kind : TokenKind} (later : 0 < clausePlace kind) :
    EndsTable kind := by
  unfold clausePlace at later
  split at later
  case h_12 => cases later
  all_goals exact ⟨⟨rfl, fun _ => rfl⟩, nofun⟩

/-- A query is read from its tokens, where what follows starts none of its clauses. -/
structure ReadsQuery (levels : Nat) (query : Select) (kinds : List TokenKind) : Prop where
  opens : ∃ others, kinds = .keyword .SELECT :: others
  read : ∀ rest, 8 ≤ clausePlace (kindAt rest 0) → Reads (rules levels).query kinds query rest

/-- A table that stands alone or in parentheses is read from its tokens. -/
structure ReadsFactor (levels : Nat) (table : TableRef) (kinds : List TokenKind) : Prop where
  opens : opensExpression kinds = true
  read : ∀ rest, EndsTable (kindAt rest 0) → Reads (tableFactor (rules levels)) kinds table rest

/-- A table is read from its tokens as the left side of the joins behind it. -/
structure ReadsTables (levels : Nat) (tables : TableRef) (kinds : List TokenKind) : Prop where
  opens : opensExpression kinds = true
  read : ∀ {more : List TokenKind} {joins : List JoinClause} {rest : List TokenKind},
    ReadsEach (nextJoin (rules levels)) more joins rest → EndsTable (kindAt (more ++ rest) 0) →
    Reads (joinedTables (rules levels)) (kinds ++ more) (joins.foldl .join tables) rest

namespace Parser.Reads

variable {inner : Rules} {kind : JoinKind} {words rest : List TokenKind}

/-- The first word of a join tells its kind, and the others are read behind it. -/
theorem joinWords (spelled : words ∈ kind.words) (rest : List TokenKind) :
    ∃ first others, words = first :: others ∧ joinStart? first = some kind ∧
      EndsTable first ∧ Reads (joinWords first kind) others () rest := by
  have join := expectKeyword .JOIN rest
  have plain {kinds : List TokenKind} (read : Reads (Parser.expectKeyword .JOIN) [.keyword .JOIN] ()
      kinds) : Reads (do let _ ← Parser.eatKeyword .OUTER; Parser.expectKeyword .JOIN)
      [.keyword .JOIN] () kinds := bind_none (eat_false nofun) read
  have outer {kinds : List TokenKind} (read : Reads (Parser.expectKeyword .JOIN) [.keyword .JOIN] ()
      kinds) : Reads (do let _ ← Parser.eatKeyword .OUTER; Parser.expectKeyword .JOIN)
      [.keyword .OUTER, .keyword .JOIN] () kinds := bind_one (eatKeyword _ _) read
  cases kind with
  | inner =>
      rcases spelled with _ | ⟨_, _ | ⟨_, spelled⟩⟩
      · exact ⟨_, _, rfl, rfl, ⟨⟨rfl, fun _ => rfl⟩, nofun⟩, pure () rest⟩
      · exact ⟨_, _, rfl, rfl, ⟨⟨rfl, fun _ => rfl⟩, nofun⟩, join⟩
      · cases spelled
  | left | right | full =>
      rcases spelled with _ | ⟨_, _ | ⟨_, spelled⟩⟩
      · exact ⟨_, _, rfl, rfl, ⟨⟨rfl, fun _ => rfl⟩, nofun⟩, plain join⟩
      · exact ⟨_, _, rfl, rfl, ⟨⟨rfl, fun _ => rfl⟩, nofun⟩, outer join⟩
      · cases spelled
  | cross =>
      rcases spelled with _ | ⟨_, spelled⟩
      · exact ⟨_, _, rfl, rfl, ⟨⟨rfl, fun _ => rfl⟩, nofun⟩, join⟩
      · cases spelled

/-- A join is read with what it is matched by. -/
theorem nextJoin {table : TableRef} {condition : Option Expr} {columns : List String}
    {tableKinds kinds : List TokenKind} (spelled : words ∈ kind.words)
    (first : Reads (tableFactor inner) tableKinds table (kinds ++ rest))
    (second : Reads (joinCondition inner kind) kinds (condition, columns) rest) :
    Reads (nextJoin inner) (words ++ (tableKinds ++ kinds))
      (some ⟨kind, table, condition, columns⟩) rest := by
  obtain ⟨start, others, rfl, found, ends, read⟩ :=
    joinWords spelled (tableKinds ++ kinds ++ rest)
  have going : start ≠ .finish := by
    rintro rfl
    cases found
  apply bind_none (look _ 0)
  rw [List.cons_append, List.cons_append, kindAt_cons_zero, found]
  refine advance_bind going fun token same => ?_
  rw [same]
  exact bind read (bind first (bind_last second (pure _ _)))

/-- No join is read where none starts. -/
theorem nextJoin_none (later : 0 < clausePlace (kindAt rest 0)) :
    Reads (Grammar.nextJoin inner) [] none rest := by
  apply bind_none (look rest 0)
  have noJoin : joinStart? (kindAt rest 0) = none := by
    unfold clausePlace at later
    split at later
    case h_12 => cases later
    all_goals rename_i found; rw [found]; rfl
  rw [noJoin]
  exact pure _ _

end Parser.Reads

namespace ReadsFactor

variable {levels : Nat} {kinds : List TokenKind}

theorem table (name : ObjectName) (aliasName : Option String) :
    ReadsFactor levels (.table name aliasName) (name.kinds ++ aliasKinds aliasName) where
  opens := by obtain ⟨name, _ | schema⟩ := name <;> rfl
  read rest ends := by
    have noParen : kindAt (name.kinds ++ aliasKinds aliasName ++ rest) 0 ≠ .symbol .leftParen := by
      obtain ⟨name, _ | schema⟩ := name <;> exact nofun
    have noDot : kindAt (aliasKinds aliasName ++ rest) 0 ≠ .symbol .dot := by
      cases aliasName with
      | none => exact ne_of_extendsName ends.ends rfl
      | some => exact nofun
    exact Reads.bind_none (Reads.eat_false noParen) (Reads.bind (Reads.objectName name noDot)
      (Reads.bind_last (Reads.optionalAlias aliasName ends.plain ends.ends) (Reads.pure _ _)))

theorem subquery {query : Select} (aliasName : String) (inner : ReadsQuery levels query kinds) :
    ReadsFactor levels (.subquery query aliasName)
      (inParens kinds ++ aliasKinds (some aliasName)) where
  opens := rfl
  read rest ends := by
    obtain ⟨others, rfl⟩ := inner.opens
    have behind : Reads optionalAlias (aliasKinds (some aliasName)) (some aliasName) rest :=
      Reads.optionalAlias (some aliasName) ends.plain ends.ends
    have shape : inParens (.keyword .SELECT :: others) ++ aliasKinds (some aliasName)
        = .symbol .leftParen :: ((.keyword .SELECT :: others) ++
          .symbol .rightParen :: aliasKinds (some aliasName)) := by
      simp [inParens]
    rw [shape]
    exact Reads.bind_one (Reads.eatSymbol _ _) (Reads.bind_none (Reads.atKeyword_true rfl)
      (Reads.bind (inner.read _ (Nat.le_succ 8)) (Reads.bind_one (Reads.expectSymbol _ _)
        (Reads.bind_last behind (Reads.pure _ _)))))

theorem parens {tables : TableRef} (inner : ReadsTables levels tables kinds) :
    ReadsFactor (levels + 1) tables (inParens kinds) where
  opens := rfl
  read rest ends := by
    have closed : 0 < clausePlace (kindAt (.symbol .rightParen :: rest) 0) := Nat.zero_lt_succ 8
    have read := inner.read (.none (Reads.nextJoin_none closed)) (EndsTable.of_clausePlace closed)
    rw [List.append_nil] at read
    exact Reads.bind_one (Reads.eatSymbol _ _)
      (Reads.bind_none (Reads.atKeyword_false (by
          rw [List.append_assoc]
          exact kindAt_ne_of_opens inner.opens rfl))
        (Reads.bind read (Reads.bind_one (Reads.expectSymbol _ _) (Reads.pure _ _))))

end ReadsFactor

namespace ReadsTables

variable {levels : Nat} {kinds : List TokenKind}

theorem factor {table : TableRef} (read : ReadsFactor levels table kinds) :
    ReadsTables levels table kinds where
  opens := read.opens
  read each ends := Reads.bind (read.read _ ends) (Reads.bind_last each.collect (Reads.pure _ _))

/-- A table with a join behind it is read as the left side of the joins behind that. -/
theorem join {left right : TableRef} {kind : JoinKind} {condition : Option Expr}
    {columns : List String} {words rightKinds conditionKinds : List TokenKind}
    (spelled : words ∈ kind.words) (first : ReadsTables levels left kinds)
    (second : ReadsFactor levels right rightKinds)
    (starts : ∀ rest, EndsTable (kindAt rest 0) → EndsTable (kindAt (conditionKinds ++ rest) 0))
    (third : ∀ rest, EndsTable (kindAt rest 0) →
      Reads (joinCondition (rules levels) kind) conditionKinds (condition, columns) rest) :
    ReadsTables levels (.join left ⟨kind, right, condition, columns⟩)
      (kinds ++ (words ++ (rightKinds ++ conditionKinds))) where
  opens := opensExpression_append first.opens _
  read each ends := by
    have taken := Reads.nextJoin spelled (second.read _ (starts _ ends)) (third _ ends)
    obtain ⟨start, others, rfl, _, endsBefore, _⟩ := Reads.joinWords spelled []
    rw [List.append_assoc]
    exact first.read (.some (List.cons_ne_nil _ _) taken each) endsBefore

theorem cross {left right : TableRef} {words rightKinds : List TokenKind}
    (spelled : words ∈ JoinKind.cross.words) (first : ReadsTables levels left kinds)
    (second : ReadsFactor levels right rightKinds) :
    ReadsTables levels (.join left ⟨.cross, right, none, []⟩) (kinds ++ (words ++ rightKinds)) := by
  have read : ReadsTables levels _ (kinds ++ (words ++ (rightKinds ++ []))) :=
    join spelled first second (fun _ ends => ends) fun _ _ => Reads.pure _ _
  rwa [List.append_nil] at read

theorem onCondition {left right : TableRef} {kind : JoinKind} {condition : Expr}
    {words rightKinds conditionKinds : List TokenKind} (matching : kind ≠ .cross)
    (spelled : words ∈ kind.words) (first : ReadsTables levels left kinds)
    (second : ReadsFactor levels right rightKinds)
    (third : ReadsOperand levels 0 condition conditionKinds) :
    ReadsTables levels (.join left ⟨kind, right, some condition, []⟩)
      (kinds ++ (words ++ (rightKinds ++ .keyword .ON :: conditionKinds))) := by
  refine join spelled first second (fun _ _ => ⟨⟨rfl, fun _ => rfl⟩, nofun⟩) fun rest ends => ?_
  unfold joinCondition
  rw [if_neg matching]
  exact Reads.bind_one (Reads.eatKeyword _ _)
    (Reads.bind_last (third.expression (Nat.le_refl _) (ends.toEndsExpression.follows 0))
      (Reads.pure _ _))

theorem onColumns {left right : TableRef} {kind : JoinKind} {columns : List String}
    {words rightKinds : List TokenKind} (matching : kind ≠ .cross)
    (spelled : words ∈ kind.words) (nonempty : columns ≠ [])
    (first : ReadsTables levels left kinds) (second : ReadsFactor levels right rightKinds) :
    ReadsTables levels (.join left ⟨kind, right, none, columns⟩)
      (kinds ++ (words ++ (rightKinds ++
        .keyword .USING :: inParens (Piece.separated (columns.map namePiece))))) := by
  refine join spelled first second (fun _ _ => ⟨⟨rfl, fun _ => rfl⟩, nofun⟩) fun rest _ => ?_
  unfold joinCondition
  rw [if_neg matching]
  exact Reads.bind_none (Reads.eat_false nofun) (Reads.bind_one (Reads.eatKeyword _ _)
    (Reads.bind_last (Reads.parenthesized (Reads.nameList nonempty nofun)) (Reads.pure _ _)))

end ReadsTables

end SqlTree
