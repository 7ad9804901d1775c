import SqlTree.Proofs.Grammar.EntryPoints
import SqlTree.Proofs.Grammar.IndifferentStatements

/-!
# Streams without their noise words

A stream that is accepted is accepted with the same statements where any of its noise words are
missing. The noise words are dropped one by one: what is listed with one of them is listed without
it, since no statement and no end of input is read behind a place to which a statement strays.
-/

namespace SqlTree

open SqlTree.Parser SqlTree.Grammar

/-- The second stream is the first one without some of its noise words. -/
inductive Thinned : List Token → List Token → Prop where
  | nil : Thinned [] []
  | keep (token : Token) {tokens bare : List Token} (thinned : Thinned tokens bare) :
    Thinned (token :: tokens) (token :: bare)
  | drop {token : Token} (noise : token.kind.isNoise = true) {tokens bare : List Token}
    (thinned : Thinned tokens bare) : Thinned (token :: tokens) bare

/-- A stream may be rid of all its noise words. -/
theorem thinned_filter (tokens : List Token) :
    Thinned tokens (tokens.filter fun token => !token.kind.isNoise) := by
  induction tokens with
  | nil => exact .nil
  | cons token tokens inductionHypothesis =>
      by_cases noise : token.kind.isNoise = true
      · rw [List.filter_cons_of_neg (by simp [noise])]
        exact .drop noise inductionHypothesis
      · rw [List.filter_cons_of_pos (by simp [noise])]
        exact .keep token inductionHypothesis

namespace Cursor

variable {cursor full bare : Cursor} {statements : List Statement}

section Lists

theorem lists_nil_iff_finish : cursor.Lists [] ↔ ∃ stopped, finish cursor = .ok () stopped := by
  rw [lists_nil, Step.run]
  cases read : finish cursor with
  | ok done stopped =>
      have answered : Step.finish.parser cursor = .ok .nothing stopped := bind_of_ok read
      rw [answered]
      exact iff_of_true rfl ⟨stopped, rfl⟩
  | error failure stopped =>
      have refused : Step.finish.parser cursor = .error failure stopped := bind_of_error read
      rw [refused]
      refine iff_of_false (fun answered => by cases answered) ?_
      rintro ⟨_, read⟩
      cases read

theorem lists_cons_iff_statement {first : Statement} :
    cursor.Lists (first :: statements) ↔
      ∃ stopped, statement cursor = .ok first stopped ∧ stopped.Lists statements := by
  rw [lists_cons, Step.run]
  cases read : statement cursor with
  | ok value stopped =>
      have answered : Step.statement.parser cursor = .ok (.statement value) stopped :=
        bind_of_ok read
      rw [answered]
      constructor
      · rintro ⟨⟨⟩, listed⟩
        exact ⟨stopped, rfl, listed⟩
      · rintro ⟨_, ⟨⟩, listed⟩
        exact ⟨rfl, listed⟩
  | error failure stopped =>
      have refused : Step.statement.parser cursor = .error failure stopped := bind_of_error read
      rw [refused]
      refine iff_of_false (fun both => by cases both.1) ?_
      rintro ⟨_, read, _⟩
      cases read

/-- Nothing is listed from a noise word on. -/
theorem OnNoise.not_lists (noise : cursor.OnNoise) : ¬ cursor.Lists statements := by
  intro listed
  cases statements with
  | nil =>
      obtain ⟨stopped, finished⟩ := lists_nil_iff_finish.mp listed
      exact finish_sealed.confined noise () stopped finished
  | cons first statements =>
      obtain ⟨stopped, read, _⟩ := lists_cons_iff_statement.mp listed
      exact statement_noise noise first stopped read

/-- What is listed with a noise word is listed without it. -/
theorem Drops.lists (drops : full.Drops bare) (listed : full.Lists statements) :
    bare.Lists statements := by
  induction statements generalizing full bare with
  | nil =>
      obtain ⟨stopped, finished⟩ := lists_nil_iff_finish.mp listed
      rcases finish_sealed.indifferent drops () stopped finished with ⟨_, finishedToo, _⟩ | ⟨⟨⟩⟩
      exact lists_nil_iff_finish.mpr ⟨_, finishedToo⟩
  | cons first statements inductionHypothesis =>
      obtain ⟨stopped, read, listed⟩ := lists_cons_iff_statement.mp listed
      rcases statement_indifferent drops first stopped read with
        ⟨stoppedToo, readToo, drops⟩ | noise
      · exact lists_cons_iff_statement.mpr
          ⟨stoppedToo, readToo, inductionHypothesis drops listed⟩
      · exact absurd listed noise.not_lists

end Lists

section Streams

variable {source : List Char} {noise : Token}

/-- What is ahead at the start of a stream, which may end with an end of input or not. -/
theorem atStart_ahead_concat (source : List Char) (tokens : List Token) (last : Token) :
    (atStart source (tokens ++ [last])).ahead =
      if last.kind = .finish then tokens else tokens ++ [last] := by
  rw [atStart, ofTokens_concat]
  split <;> rfl

/-- A stream without one of its noise words starts as the stream does. -/
theorem atStart_drops (known : noise.kind.isNoise = true) (source : List Char)
    (front back : List Token) :
    (atStart source (front ++ noise :: back)).Drops (atStart source (front ++ back)) := by
  refine ⟨rfl, atStart_closed _ _, atStart_closed _ _, ?_⟩
  have going : noise.kind ≠ .finish := TokenKind.ne_of_isNoise known rfl
  rcases List.eq_nil_or_concat back with rfl | ⟨back, last, rfl⟩
  · rw [atStart_ahead_concat, if_neg going, List.append_nil]
    -- Behind the last noise word, the stream may end with an end of input that stood before it.
    rcases List.eq_nil_or_concat front with rfl | ⟨front, last, rfl⟩
    · exact .here known []
    · rw [List.concat_eq_append, atStart_ahead_concat]
      split
      · next ends => simpa using (DropsNoise.ended ends [noise]).append front
      · simpa using (DropsNoise.here known []).append (front ++ [last])
  · rw [List.concat_eq_append, ← List.cons_append, ← List.append_assoc, ← List.append_assoc,
      atStart_ahead_concat, atStart_ahead_concat]
    split
    · exact (DropsNoise.here known back).append front
    · simpa using (DropsNoise.here known (back ++ [last])).append front

/-- What a stream lists, it lists without any of its noise words. -/
theorem lists_of_thinned {tokens bare : List Token} (thinned : Thinned tokens bare)
    (front : List Token) (listed : (atStart source (front ++ tokens)).Lists statements) :
    (atStart source (front ++ bare)).Lists statements := by
  induction thinned generalizing front with
  | nil => exact listed
  | keep token _ inductionHypothesis =>
      rw [List.append_cons] at listed ⊢
      exact inductionHypothesis (front ++ [token]) listed
  | drop noise _ inductionHypothesis =>
      exact inductionHypothesis front ((atStart_drops noise source front _).lists listed)

end Streams

end Cursor

/-- Noise words carry no meaning: a stream of tokens that is accepted is accepted with the same
statements without its noise words, be it all of them or only some. -/
theorem statements_of_thinned {source : List Char} {tokens bare : List Token}
    {statements : List Statement} (thinned : Thinned tokens bare)
    (accepted : Grammar.statements.outcome (.atStart source tokens) = .ok statements) :
    Grammar.statements.outcome (.atStart source bare) = .ok statements := by
  rw [Cursor.outcome_statements_eq_ok_iff_lists (Cursor.atStart_closed _ _)] at accepted ⊢
  exact Cursor.lists_of_thinned thinned [] accepted

/-- A query with every noise word, and the same query without any of them. -/
theorem statements_of_thinned_query :
    let text := "SELECT ALL a FROM t LEFT OUTER JOIN u ON a INNER JOIN v ON a ORDER BY a ASC"
    let bare := (tokenize text).filter fun token => !token.kind.isNoise
    let statements := [Statement.select
      { distinct := false, columns := [⟨.reference none "a", none⟩],
        source := some (.join
          (.join (.table ⟨"t", none⟩ none)
            ⟨.left, .table ⟨"u", none⟩ none, some (.reference none "a"), []⟩)
          ⟨.inner, .table ⟨"v", none⟩ none, some (.reference none "a"), []⟩),
        filter := none, groupBy := [], having := none,
        orderBy := [⟨.reference none "a", .ascending, none⟩], limit := none, offset := none }]
    Thinned (tokenize text) bare ∧ (tokenize text).length = bare.length + 4 ∧
      Grammar.statements.outcome (.atStart text.toList (tokenize text)) = .ok statements ∧
      Grammar.statements.outcome (.atStart text.toList bare) = .ok statements := by
  refine ⟨thinned_filter _, ?dropped, ?accepted,
    statements_of_thinned (thinned_filter _) ?accepted⟩
  case dropped => rfl
  case accepted => rfl

end SqlTree
