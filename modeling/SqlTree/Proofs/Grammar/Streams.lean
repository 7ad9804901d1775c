import SqlTree.Proofs.Grammar.Written

/-!
# Streams of written tokens

No writing holds an end of input, so that the stream of its tokens closes behind the last of them,
whether or not an end of input is given there.
-/

namespace SqlTree

/-- No token of some kinds is an end of input. -/
def Going (kinds : List TokenKind) : Prop := .finish ∉ kinds

namespace Going

variable {kind : TokenKind} {front back kinds : List TokenKind}

@[simp] theorem nil : Going [] := nofun

@[simp] theorem cons : Going (kind :: kinds) ↔ kind ≠ .finish ∧ Going kinds := by
  simp [Going, eq_comm]

@[simp] theorem append : Going (front ++ back) ↔ Going front ∧ Going back := by
  simp [Going]

@[simp] theorem inParens : Going (inParens kinds) ↔ Going kinds := by
  simp [SqlTree.inParens]

theorem marked {α : Type} {mark : TokenKind} {pieces : List (Piece α)} (going : mark ≠ .finish)
    (each : ∀ piece ∈ pieces, Going piece.kinds) : Going (Piece.marked mark pieces) := by
  induction pieces with
  | nil => exact nil
  | cons piece pieces inductionHypothesis =>
      obtain ⟨first, others⟩ := List.forall_mem_cons.mp each
      rw [Piece.marked_cons, cons, append]
      exact ⟨going, first, inductionHypothesis others⟩

theorem separated {α : Type} {pieces : List (Piece α)}
    (each : ∀ piece ∈ pieces, Going piece.kinds) : Going (Piece.separated pieces) := by
  cases pieces with
  | nil => exact nil
  | cons piece pieces =>
      obtain ⟨first, others⟩ := List.forall_mem_cons.mp each
      exact append.mpr ⟨first, marked nofun others⟩

theorem optional {α : Type} {word : Keyword} {piece : Option (Piece α)}
    (each : ∀ part ∈ piece, Going part.kinds) : Going (Piece.optional word piece) := by
  cases piece with
  | none => exact nil
  | some part => exact cons.mpr ⟨nofun, each part rfl⟩

theorem listBehind {α : Type} {words : List TokenKind} {pieces : List (Piece α)}
    (going : Going words) (each : ∀ piece ∈ pieces, Going piece.kinds) :
    Going (Piece.listBehind words pieces) := by
  unfold Piece.listBehind
  split
  · exact nil
  · exact append.mpr ⟨going, separated each⟩

@[simp] theorem objectName (object : ObjectName) : Going object.kinds := by
  obtain ⟨name, _ | schema⟩ := object <;> simp [ObjectName.kinds]

@[simp] theorem optionalAlias (aliasName : Option String) : Going (aliasKinds aliasName) := by
  cases aliasName <;> simp [aliasKinds, Piece.optional, namePiece]

theorem names (columns : List String) : Going (Piece.separated (columns.map namePiece)) :=
  separated (List.forall_mem_map.mpr fun _ _ => by simp [namePiece])

@[simp] theorem dataType (target : DataType) : Going target.kinds := by
  obtain ⟨name, modifiers⟩ := target
  refine cons.mpr ⟨nofun, ?_⟩
  cases modifiers with
  | nil => exact nil
  | cons first others => exact inParens.mpr (separated (List.forall_mem_map.mpr fun _ _ => by simp))

theorem joinWords (kind : JoinKind) : ∀ words ∈ kind.words, Going words := by
  cases kind <;> simp [JoinKind.words]

theorem direction (order : Direction) : ∀ words ∈ order.words, Going words := by
  cases order <;> simp [Direction.words]

theorem distinctness (distinct : Bool) : ∀ words ∈ distinctWords distinct, Going words := by
  cases distinct <;> simp [distinctWords]

@[simp] theorem literal (value : Literal) : value.kind ≠ .finish := by
  cases value with
  | boolean value => cases value <;> exact nofun
  | _ => exact nofun

@[simp] theorem unaryOperator (operator : UnaryOperator) : Going operator.kinds := by
  cases operator <;> simp [UnaryOperator.kinds]

@[simp] theorem binaryOperator (operator : BinaryOperator) : Going operator.kinds := by
  cases operator <;> simp [BinaryOperator.kinds]

@[simp] theorem ternaryOperator (operator : TernaryOperator) : Going operator.kinds := by
  cases operator <;> simp [TernaryOperator.kinds]

@[simp] theorem membership (negated : Bool) : Going (inKinds negated) := by
  cases negated <;> simp [inKinds]

@[simp] theorem reference (table : Option ObjectName) (column : String) :
    Going (referenceKinds table column) := by
  cases table <;> simp [referenceKinds]

theorem call {distinct : Bool} (going : Going kinds) : Going (callKinds distinct kinds) := by
  cases distinct <;> simpa [callKinds] using going

theorem case {subject : Option (Piece Expr)} {arms : List (Piece Expr × Piece Expr)}
    {otherwise : Option (Piece Expr)} (onSubject : ∀ piece ∈ subject, Going piece.kinds)
    (conditions : ∀ arm ∈ arms, Going arm.1.kinds) (results : ∀ arm ∈ arms, Going arm.2.kinds)
    (last : ∀ piece ∈ otherwise, Going piece.kinds) : Going (caseKinds subject arms otherwise) := by
  have first : Going (subject.elim [] Piece.kinds) := by
    cases subject with
    | none => exact nil
    | some piece => exact onSubject piece rfl
  have each : ∀ piece ∈ arms.map armPiece, Going piece.kinds :=
    List.forall_mem_map.mpr fun arm among => by
      simp [armPiece, conditions arm among, results arm among]
  have behindWhen : Going (Piece.marked (.keyword .WHEN) (arms.map armPiece)) := marked nofun each
  simp [caseKinds, first, behindWhen, optional last]

theorem sortKey {sort : SortPiece} (words : sort.words ∈ sort.direction.words)
    (key : Going sort.key.kinds) : Going sort.piece.kinds := by
  have placement : ∀ piece ∈ sort.nulls.map fun placement =>
      (⟨placement, placement.kinds⟩ : Piece NullPlacement), Going piece.kinds := by
    intro piece present
    obtain ⟨placement, _, rfl⟩ := Option.map_eq_some_iff.mp present
    cases placement <;> simp [NullPlacement.kinds]
  exact append.mpr ⟨key, append.mpr ⟨direction _ _ words, optional placement⟩⟩

theorem query {parts : QueryPieces} (words : parts.words ∈ distinctWords parts.distinct)
    (columns : ∀ piece ∈ parts.columns, Going piece.kinds)
    (source : ∀ piece ∈ parts.source, Going piece.kinds)
    (filter : ∀ piece ∈ parts.filter, Going piece.kinds)
    (groupBy : ∀ piece ∈ parts.groupBy, Going piece.kinds)
    (having : ∀ piece ∈ parts.having, Going piece.kinds)
    (directions : ∀ sort ∈ parts.orderBy, sort.words ∈ sort.direction.words)
    (orderBy : ∀ sort ∈ parts.orderBy, Going sort.key.kinds)
    (limit : ∀ piece ∈ parts.limit, Going piece.kinds)
    (offset : ∀ piece ∈ parts.offset, Going piece.kinds) : Going parts.kinds := by
  have sorts : ∀ piece ∈ parts.orderBy.map SortPiece.piece, Going piece.kinds :=
    List.forall_mem_map.mpr fun sort among => sortKey (directions sort among) (orderBy sort among)
  have groups : Going (Piece.listBehind [.keyword .GROUP, .keyword .BY] parts.groupBy) :=
    listBehind (by simp) groupBy
  have order : Going (Piece.listBehind [.keyword .ORDER, .keyword .BY]
      (parts.orderBy.map SortPiece.piece)) := listBehind (by simp) sorts
  simp [QueryPieces.kinds, distinctness _ _ words, separated columns, optional source,
    optional filter, groups, optional having, order, optional limit, optional offset]

end Going

mutual

/-- No writing of an expression, a query or a table holds an end of input. -/
theorem Expr.Written.going {levels power : Nat} {body : Expr} {kinds : List TokenKind} :
    Expr.Written levels power body kinds → Going kinds
  | .parens inner => Going.inParens.mpr inner.going
  | .reference table column => Going.reference table column
  | .allColumns table => by simp
  | .literal value => by simp
  | .parameter number => by simp
  | .leading _ _ operand => by simp [operand.going]
  | .test _ _ operand => by simp [operand.going]
  | .binary _ first second => by simp [first.going, second.going]
  | .ternary _ first second third => by simp [first.going, second.going, third.going]
  | .inList negated _ operand _ each => by
      simp [operand.going, Going.separated fun piece among => (each piece among).going]
  | .call function distinct each => by
      simp [Going.call (Going.separated fun piece among => (each piece among).going)]
  | .callOfAll function => by simp [Going.call]
  | .castCall target operand => by simp [operand.going]
  | .castBehind target _ operand => by simp [operand.going]
  | .case onSubject _ conditions results last =>
      .case (fun piece present => (onSubject piece present).going)
        (fun arm among => (conditions arm among).going)
        (fun arm among => (results arm among).going)
        fun piece present => (last piece present).going
  | .select inner => Going.inParens.mpr inner.going

theorem OutputColumn.Written.going {levels : Nat} {column : OutputColumn}
    {kinds : List TokenKind} : OutputColumn.Written levels column kinds → Going kinds
  | .all aliasName => by simp
  | .allInParens aliasName => by simp
  | .value aliasName written => by simp [written.going]

theorem Select.Written.going {levels : Nat} {query : Select} {kinds : List TokenKind} :
    Select.Written levels query kinds → Going kinds
  | .query words _ columns source filter groupBy having directions orderBy limit offset =>
      .query words (fun piece among => (columns piece among).going)
        (fun piece present => (source piece present).going)
        (fun piece present => (filter piece present).going)
        (fun piece among => (groupBy piece among).going)
        (fun piece present => (having piece present).going) directions
        (fun sort among => (orderBy sort among).going)
        (fun piece present => (limit piece present).going)
        fun piece present => (offset piece present).going

theorem TableRef.WrittenFactor.going {levels : Nat} {table : TableRef} {kinds : List TokenKind} :
    TableRef.WrittenFactor levels table kinds → Going kinds
  | .table name aliasName => by simp
  | .subquery aliasName inner => by simp [inner.going]
  | .parens inner => Going.inParens.mpr inner.going

theorem TableRef.Written.going {levels : Nat} {tables : TableRef} {kinds : List TokenKind} :
    TableRef.Written levels tables kinds → Going kinds
  | .factor written => written.going
  | .cross spelled first second => by
      simp [first.going, Going.joinWords _ _ spelled, second.going]
  | .onCondition _ spelled first second third => by
      simp [first.going, Going.joinWords _ _ spelled, second.going, third.going]
  | .onColumns _ spelled _ first second => by
      simp [first.going, Going.joinWords _ _ spelled, second.going, Going.names]

end

/-- A stream of tokens spells some kinds, with or without an end of input behind them. -/
def Spells (tokens : List Token) (kinds : List TokenKind) : Prop :=
  tokens.map Token.kind = kinds ∨ tokens.map Token.kind = kinds ++ [.finish]

/-- A stream that spells kinds without an end of input is faced from its start. -/
theorem Cursor.faces_ofTokens {tokens : List Token} {kinds : List TokenKind} (going : Going kinds)
    (spells : Spells tokens kinds) : (Cursor.ofTokens tokens).Faces kinds := by
  unfold Cursor.ofTokens
  rcases spells with bare | closed
  · split
    · next empty =>
        obtain rfl := List.getLast?_eq_none_iff.mp empty
        exact ⟨rfl, bare⟩
    · next last found =>
        have among : last.kind ∈ kinds :=
          bare ▸ List.mem_map_of_mem (List.mem_of_getLast? found)
        have inside : last.kind ≠ .finish := fun finish => going (finish ▸ among)
        rw [if_neg inside]
        exact ⟨rfl, bare⟩
  · have ends : (tokens.map Token.kind).getLast? = some .finish := by
      rw [closed, List.getLast?_concat]
    rw [List.getLast?_map] at ends
    obtain ⟨last, found, finish⟩ := Option.map_eq_some_iff.mp ends
    simp only [found, finish, if_true]
    exact ⟨finish, by rw [List.map_dropLast, closed, List.dropLast_concat]⟩

/-- What is read from its tokens is read from a stream that spells them, up to its end. -/
theorem Parser.Reads.ofTokens {α : Type} {parser : Parser α} {kinds : List TokenKind} {value : α}
    (read : Parser.Reads parser kinds value []) (going : Going kinds) {tokens : List Token}
    (spells : Spells tokens kinds) :
    ∃ cursor, parser (.ofTokens tokens) = .ok value cursor ∧ cursor.current.kind = .finish
      ∧ cursor.consumed = kinds.length := by
  have faces : (Cursor.ofTokens tokens).Faces (kinds ++ []) := by
    rw [List.append_nil]
    exact Cursor.faces_ofTokens going spells
  refine ⟨_, read _ faces, faces.past.current_kind, ?_⟩
  have start : (Cursor.ofTokens tokens).consumed = 0 := by
    unfold Cursor.ofTokens
    split
    · rfl
    · split <;> rfl
  rw [Cursor.past, start, Nat.zero_add]

end SqlTree
