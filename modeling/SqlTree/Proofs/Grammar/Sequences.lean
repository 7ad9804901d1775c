import Mathlib.Data.List.Induction
import SqlTree.Proofs.Grammar.Groups
import SqlTree.Proofs.Grammar.Naming
import SqlTree.Proofs.Grammar.Sessions

/-!
# Options of sequences

What a statement that makes a sequence or changes its options comes to, for any groups of clauses
behind its name.
-/

namespace SqlTree

open SqlTree.Parser SqlTree.Grammar

/-- What a statement with options does to a sequence. -/
inductive SequenceVerb where
  | create
  | alter
deriving DecidableEq, Repr

namespace SequenceVerb

/-- The keyword that the statement starts with. -/
def keyword : SequenceVerb → Keyword
  | .create => .CREATE
  | .alter => .ALTER

/-- The parser of one clause of the statement. -/
def clause : SequenceVerb → Parser (Option SequenceClause)
  | .create => sequenceClause
  | .alter => changeClause

/-- The fewest clauses that the statement may have. -/
def least : SequenceVerb → Nat
  | .create => 0
  | .alter => 1

/-- The statement about a sequence. -/
def statement (name : ObjectName) (options : SequenceOptions) (restart : Option Restart) :
    SequenceVerb → Statement
  | .create => .createSequence { name, options }
  | .alter => .alterSequence ⟨name, false, .options options restart⟩

end SequenceVerb

/-- The kinds that a name can be spelled with: identifiers, and keywords that are not reserved. -/
inductive ObjectName.Spelled : ObjectName → List TokenKind → Prop
  | plain {kind : TokenKind} {name : String} (named : kind.name? = some name) :
      Spelled ⟨name, none⟩ [kind]
  | qualified {first second : TokenKind} {schema name : String}
      (schemaNamed : first.name? = some schema) (named : second.name? = some name) :
      Spelled ⟨name, some schema⟩ [first, .symbol .dot, second]

/-- A statement on a sequence stands ahead of a cursor: its words, its groups, and its end. -/
structure Cursor.FacesSequence (cursor : Cursor) (verb : SequenceVerb) (name : ObjectName)
    (source : List Char) (groups : List ClauseGroup) : Prop where
  source : cursor.source = source
  closed : cursor.close.kind = .finish
  ahead : ∃ words spelled tail, cursor.ahead = words ++ (groupTokens groups ++ tail) ∧
    words.map Token.kind = .keyword verb.keyword :: .keyword .SEQUENCE :: spelled ∧
    name.Spelled spelled ∧ (tail.head?.getD cursor.close).kind.isTerminator = true

section Words

variable {name : ObjectName} {spelled kinds : List TokenKind} {cursor : Cursor}

/-- A spelled name is read where what ends a clause follows. -/
theorem ObjectName.Spelled.reads (spelling : name.Spelled spelled)
    (ends : endsClause (kindAt kinds 0) = true) : Reads objectName spelled name kinds := by
  have plain : kindAt kinds 0 ≠ .symbol .dot := ne_of_endsClause ends rfl
  cases spelling with
  | plain named =>
      exact Reads.bind_one (Reads.expectName_of_name named _)
        (Reads.bind_none (Reads.eat_false plain) (Reads.pure _ _))
  | qualified schemaNamed named =>
      exact Reads.bind_one (Reads.expectName_of_name schemaNamed _)
        (Reads.bind_one (Reads.eatSymbol _ _)
          (Reads.bind_last (Reads.expectName_of_name named _) (Reads.pure _ _)))

/-- Behind the first token of a name stands a point, or what ends a clause. -/
theorem ObjectName.Spelled.second_ne (spelling : name.Spelled spelled)
    (ends : endsClause (kindAt kinds 0) = true) {word : Keyword}
    (plain : endsClause (.keyword word) = false) :
    kindAt (spelled ++ kinds) 1 ≠ .keyword word := by
  cases spelling with
  | plain => exact ne_of_endsClause ends plain
  | qualified => exact nofun

theorem createSequence_of_words (spelling : name.Spelled spelled)
    (ends : endsClause (kindAt kinds 0) = true)
    (faces : cursor.Faces (.keyword .CREATE :: .keyword .SEQUENCE :: (spelled ++ kinds))) :
    createSequence cursor = (do
      let clauses ← clauses sequenceClause
      return ({ name, options := optionsOf clauses } : CreateSequence) : Parser _)
        (cursor.past (1 + (1 + spelled.length))) := by
  have behindVerb : (cursor.past 1).Faces (.keyword .SEQUENCE :: (spelled ++ kinds)) := faces.tail
  have behindWords : ((cursor.past 1).past 1).Faces (spelled ++ kinds) := behindVerb.tail
  have permanent : Reads persistence [] (false, false)
      (.keyword .SEQUENCE :: (spelled ++ kinds)) :=
    Reads.bind_none (Reads.eat_false nofun) (Reads.bind_none (Reads.eat_false nofun)
      (Reads.bind_none (Reads.eat_false nofun) (Reads.pure _ _)))
  have unconditional : Reads ifNotExists [] false (spelled ++ kinds) := by
    refine Reads.bind_none (Reads.look _ 0) (Reads.bind_none (Reads.look _ 1) ?_)
    rw [List.nil_append, if_neg fun both => spelling.second_ne ends rfl both.2]
    exact Reads.pure _ _
  refine ((Reads.expectKeyword .CREATE _).step faces).trans ?_
  refine (permanent.step_none behindVerb).trans ?_
  refine ((Reads.expectKeyword .SEQUENCE _).step behindVerb).trans ?_
  refine (unconditional.step_none behindWords).trans ?_
  refine ((spelling.reads ends).step behindWords).trans ?_
  rw [Cursor.past_past, Cursor.past_past]

/-- The options of a change are read where its first clause starts. -/
theorem sequenceChange_of_clause (starts : startsClause cursor.current.kind = true) :
    sequenceChange cursor = (do
      let clauses ← clauses changeClause
      return SequenceChange.options (optionsOf clauses) (restartOf clauses) : Parser _) cursor := by
  refine (run_get _ cursor).trans ?_
  dsimp only
  generalize cursor.current.kind = kind at starts
  cases kind with
  | keyword word => cases word <;> first | rfl | cases starts
  | _ => cases starts

theorem alterSequence_of_words (spelling : name.Spelled spelled)
    (starts : startsClause (kindAt kinds 0) = true)
    (faces : cursor.Faces (.keyword .ALTER :: .keyword .SEQUENCE :: (spelled ++ kinds))) :
    alterSequence cursor = (do
      let clauses ← clauses changeClause
      return (⟨name, false, .options (optionsOf clauses) (restartOf clauses)⟩ : AlterSequence)
        : Parser _) (cursor.past (1 + (1 + spelled.length))) := by
  have behindVerb : (cursor.past 1).Faces (.keyword .SEQUENCE :: (spelled ++ kinds)) := faces.tail
  have behindWords : ((cursor.past 1).past 1).Faces (spelled ++ kinds) := behindVerb.tail
  have ends : endsClause (kindAt kinds 0) = true := by rw [endsClause, starts, Bool.true_or]
  have unconditional : Reads ifExists [] false (spelled ++ kinds) := by
    refine Reads.bind_none (Reads.look _ 0) (Reads.bind_none (Reads.look _ 1) ?_)
    rw [List.nil_append, if_neg fun both => spelling.second_ne ends rfl both.2]
    exact Reads.pure _ _
  have behindName := behindWords.past
  rw [← behindName.current_kind] at starts
  refine ((Reads.expectKeyword .ALTER _).step faces).trans ?_
  refine ((Reads.expectKeyword .SEQUENCE _).step behindVerb).trans ?_
  refine (unconditional.step_none behindWords).trans ?_
  refine ((spelling.reads ends).step behindWords).trans ?_
  refine (bind_congr (sequenceChange_of_clause starts)).trans ?_
  rw [Cursor.past_past, Cursor.past_past, bind_assoc]
  rfl

/-- Behind its words, a statement on a sequence is its clauses. -/
theorem statementBody_of_words (verb : SequenceVerb) (spelling : name.Spelled spelled)
    (ends : endsClause (kindAt kinds 0) = true)
    (starts : verb = .alter → startsClause (kindAt kinds 0) = true)
    (faces : cursor.Faces
      (.keyword verb.keyword :: .keyword .SEQUENCE :: (spelled ++ kinds))) :
    statementBody cursor = (do
      let clauses ← clauses verb.clause
      return verb.statement name (optionsOf clauses) (restartOf clauses) : Parser _)
        (cursor.past (1 + (1 + spelled.length))) := by
  cases verb with
  | create =>
      refine ((Reads.look _ 0).step_none faces).trans ?_
      refine ((Reads.look _ 1).step_none faces).trans ?_
      refine ((Reads.look _ 2).step_none faces).trans ?_
      refine (bind_congr (createSequence_of_words spelling ends faces)).trans ?_
      rw [bind_assoc]
      rfl
  | alter =>
      refine ((Reads.look _ 0).step_none faces).trans ?_
      refine ((Reads.look _ 1).step_none faces).trans ?_
      refine (bind_congr (alterSequence_of_words spelling (starts rfl) faces)).trans ?_
      rw [bind_assoc]
      rfl

end Words

/-- A list with a repeated name has a first entry whose name was seen before. -/
theorem exists_repeated {α β : Type} {name : α → β} {list : List α}
    (repeated : ¬ (list.map name).Nodup) :
    ∃ before entry after, list = before ++ entry :: after ∧ (before.map name).Nodup ∧
      name entry ∈ before.map name := by
  induction list using List.reverseRecOn with
  | nil => exact absurd List.nodup_nil repeated
  | append_singleton list last inductionHypothesis =>
      by_cases distinct : (list.map name).Nodup
      · refine ⟨list, last, [], rfl, distinct, ?_⟩
        by_contra fresh
        apply repeated
        rw [List.map_append, List.map_singleton, List.nodup_append]
        refine ⟨distinct, List.pairwise_singleton _ _, ?_⟩
        rintro _ among _ single rfl
        exact fresh (List.mem_singleton.mp single ▸ among)
      · obtain ⟨before, entry, after, rfl, others⟩ := inductionHypothesis distinct
        exact ⟨before, entry, after ++ [last], by simp, others⟩

section Sequence

variable {verb : SequenceVerb} {name : ObjectName} {source : List Char}
  {groups : List ClauseGroup} {cursor : Cursor}

/-- Both statements on sequences go by the keywords of their clauses. -/
theorem SequenceVerb.clauseParser (verb : SequenceVerb) :
    ∃ body?, ClauseParser verb.clause body? := by
  cases verb with
  | create => exact ⟨_, clauseParser_sequenceClause⟩
  | alter => exact ⟨_, clauseParser_changeClause⟩

/-- Behind the words of a statement stand the tokens of its groups, and the rest of the statement is
read from there, if a clause may stand there. -/
theorem Cursor.FacesSequence.start (faces : cursor.FacesSequence verb name source groups) :
    ∃ kinds start tail, cursor.Faces (.keyword verb.keyword :: kinds) ∧ start.source = source ∧
      start.ahead = groupTokens groups ++ tail ∧ start.close.kind = .finish ∧
      (tail.head?.getD start.close).kind.isTerminator = true ∧
      (endsClause start.current.kind = true →
        (verb = .alter → startsClause start.current.kind = true) →
        statementBody cursor = (do
          let clauses ← clauses verb.clause
          return verb.statement name (optionsOf clauses) (restartOf clauses) : Parser _) start) := by
  obtain ⟨words, spelled, tail, ahead, wordKinds, spelling, ends⟩ := faces.ahead
  have size : words.length = 1 + (1 + spelled.length) := by
    rw [← List.length_map Token.kind, wordKinds, List.length_cons, List.length_cons]
    omega
  have facesKinds : cursor.Faces (.keyword verb.keyword :: .keyword .SEQUENCE ::
      (spelled ++ (groupTokens groups ++ tail).map Token.kind)) :=
    ⟨faces.closed, by rw [ahead, List.map_append, wordKinds]; rfl⟩
  have behindWords : (cursor.past words.length).ahead = groupTokens groups ++ tail := by
    rw [Cursor.past, ahead, List.drop_left]
  have facesBehind : (cursor.past words.length).Faces
      ((groupTokens groups ++ tail).map Token.kind) :=
    ⟨faces.closed, by rw [behindWords]⟩
  refine ⟨_, cursor.past words.length, tail, facesKinds, faces.source, behindWords, faces.closed,
    ends, ?_⟩
  intro closes starts
  rw [facesBehind.current_kind] at closes starts
  rw [statementBody_of_words verb spelling closes starts facesKinds, size]

/-- Groups that stand alone are read from behind the words of a statement. -/
theorem Cursor.FacesSequence.body (faces : cursor.FacesSequence verb name source groups)
    (alone : ∀ group ∈ groups, group.StandsAlone verb.clause source)
    (enough : verb.least ≤ groups.length) :
    ∃ kinds start tail, cursor.Faces (.keyword verb.keyword :: kinds) ∧
      start.FacesGroups source groups tail ∧
      (tail.head?.getD start.close).kind.isTerminator = true ∧
      statementBody cursor = (do
        let clauses ← clauses verb.clause
        return verb.statement name (optionsOf clauses) (restartOf clauses) : Parser _) start := by
  obtain ⟨kinds, start, tail, opens, sourceStart, ahead, _, ends, body⟩ := faces.start
  obtain ⟨body?, parser⟩ := verb.clauseParser
  have facesGroups : start.FacesGroups source groups tail :=
    ⟨sourceStart, ahead, endsClause_of_isTerminator ends⟩
  have starts : verb = .alter → startsClause start.current.kind = true := by
    rintro rfl
    cases groups with
    | nil => cases enough
    | cons group groups => exact (facesGroups.read parser alone).2
  exact ⟨kinds, start, tail, opens, facesGroups, ends,
    body (facesGroups.ends_before parser alone) starts⟩

/-- Groups of different names are accepted, and the options hold what the groups say. -/
theorem Cursor.FacesSequence.accepted (faces : cursor.FacesSequence verb name source groups)
    (alone : ∀ group ∈ groups, group.StandsAlone verb.clause source)
    (enough : verb.least ≤ groups.length)
    (distinct : (groups.map ClauseGroup.name).Nodup) :
    ∃ behind, Grammar.statement cursor = .ok (verb.statement name
      (optionsOf (groups.map ClauseGroup.clause)) (restartOf (groups.map ClauseGroup.clause)))
      behind := by
  obtain ⟨kinds, start, tail, opens, facesGroups, last, body⟩ := faces.body alone enough
  obtain ⟨body?, parser⟩ := verb.clauseParser
  have listed := clauses_distinct parser facesGroups last alone distinct
  refine statement_of_body opens ?_ (body.trans (bind_of_ok listed)) ?_
  · cases verb <;> exact nofun
  · rw [groupTokens, facesGroups.past_all.current_nil]
    exact last

/-- Where a clause fails behind groups of different names, the statement is refused. -/
theorem Cursor.FacesSequence.fails {before after : List ClauseGroup} {group : ClauseGroup}
    {first : Token} {others : List Token}
    (faces : cursor.FacesSequence verb name source (before ++ group :: after))
    (alone : ∀ other ∈ before, other.StandsAlone verb.clause source)
    (distinct : (before.map ClauseGroup.name).Nodup)
    (tokens : group.tokens = first :: others) (starts : startsClause first.kind = true)
    {failure : Failure}
    (fails : ∀ place : Cursor, place.source = source → place.close.kind = .finish →
      (∃ tail, place.ahead = group.tokens ++ tail) →
        ∃ stopped, verb.clause place = .error failure stopped) :
    ∃ stopped, Grammar.statement cursor = .error failure stopped := by
  obtain ⟨kinds, start, tail, opens, sourceStart, ahead, closed, _, body⟩ := faces.start
  obtain ⟨body?, parser⟩ := verb.clauseParser
  have aheadBefore : start.ahead = groupTokens before ++
      (group.tokens ++ (groupTokens after ++ tail)) := by
    rw [ahead, groupTokens, List.flatMap_append, List.flatMap_cons]
    simp only [List.append_assoc, groupTokens]
  have current : ((group.tokens ++ (groupTokens after ++ tail)).head?.getD start.close) = first := by
    rw [tokens]
    rfl
  have facesGroups : start.FacesGroups source before
      (group.tokens ++ (groupTokens after ++ tail)) := by
    refine ⟨sourceStart, aheadBefore, ?_⟩
    rw [current, endsClause, starts, Bool.true_or]
  have startsHere : startsClause start.current.kind = true := by
    cases before with
    | nil => rwa [facesGroups.current_nil, current]
    | cons other before => exact (facesGroups.read parser alone).2
  have going : ((group.tokens ++ (groupTokens after ++ tail)).head?.getD
      start.close).kind.isTerminator = false := by
    rw [current]
    exact going_of_startsClause starts
  have place : (start.past (groupTokens before).length).ahead =
      group.tokens ++ (groupTokens after ++ tail) := by
    rw [Cursor.past, aheadBefore, List.drop_left]
  obtain ⟨stopped, failed⟩ := fails (start.past (groupTokens before).length) sourceStart closed
    ⟨_, place⟩
  have listed := clauses_failing parser facesGroups alone distinct going failed
  have closes : endsClause start.current.kind = true := by
    rw [endsClause, startsHere, Bool.true_or]
  refine ⟨stopped, statement_of_failure opens ?_ ?_⟩
  · exact TokenKind.noConfusion
  · rw [body closes fun _ => startsHere]
    exact bind_of_error listed

/-- The first group whose name was seen before is refused. -/
theorem Cursor.FacesSequence.refused {before after : List ClauseGroup} {group : ClauseGroup}
    (faces : cursor.FacesSequence verb name source (before ++ group :: after))
    (alone : ∀ other ∈ before ++ group :: after, other.StandsAlone verb.clause source)
    (enough : verb.least ≤ (before ++ group :: after).length)
    (distinct : (before.map ClauseGroup.name).Nodup)
    (repeated : group.name ∈ before.map ClauseGroup.name) :
    ∃ behind, Grammar.statement cursor
      = .error ⟨.duplicateClause group.name, group.span⟩ behind := by
  obtain ⟨kinds, start, tail, opens, facesGroups, _, body⟩ := faces.body alone enough
  obtain ⟨body?, parser⟩ := verb.clauseParser
  obtain ⟨stopped, failed⟩ := clauses_repeated parser facesGroups alone distinct repeated
  refine ⟨stopped, statement_of_failure opens ?_ (body.trans (bind_of_error failed))⟩
  cases verb <;> exact nofun

/-- Options made from groups of different names hold exactly the clauses of the groups. -/
theorem heldBy_groups (distinct : (groups.map ClauseGroup.name).Nodup) (clause : SequenceClause) :
    clause.HeldBy (optionsOf (groups.map ClauseGroup.clause))
      (restartOf (groups.map ClauseGroup.clause)) ↔ ∃ group ∈ groups, group.clause = clause := by
  have names : ((groups.map ClauseGroup.clause).map SequenceClause.name).Nodup := by
    rw [List.map_map]
    exact distinct
  rw [SequenceClause.heldBy_optionsOf names, List.mem_map]

/-- Options do not depend on the order of groups of different names. -/
theorem options_of_perm {others : List ClauseGroup} (same : groups.Perm others)
    (distinct : (groups.map ClauseGroup.name).Nodup) :
    optionsOf (groups.map ClauseGroup.clause) = optionsOf (others.map ClauseGroup.clause) ∧
      restartOf (groups.map ClauseGroup.clause) = restartOf (others.map ClauseGroup.clause) := by
  refine eq_of_heldBy fun clause => ?_
  rw [heldBy_groups distinct, heldBy_groups ((same.map _).nodup distinct)]
  simp only [same.mem_iff]

/-- A statement on a sequence is accepted if and only if no two of its groups share a name. Then its
options hold what the groups say and nothing else, in whatever order the groups stand; otherwise the
first group whose name was seen before is what the failure is about. -/
theorem Grammar.statement_of_groups (verb : SequenceVerb) (name : ObjectName)
    {source : List Char} {groups : List ClauseGroup}
    (alone : ∀ group ∈ groups, group.StandsAlone verb.clause source)
    (enough : verb.least ≤ groups.length) {cursor : Cursor}
    (faces : cursor.FacesSequence verb name source groups) :
    ((∃ body behind, Grammar.statement cursor = .ok body behind) ↔
        (groups.map ClauseGroup.name).Nodup) ∧
      ((groups.map ClauseGroup.name).Nodup → ∃ options restart,
        (∀ clause : SequenceClause,
          clause.HeldBy options restart ↔ ∃ group ∈ groups, group.clause = clause) ∧
        ∀ others other, groups.Perm others → Cursor.FacesSequence other verb name source others →
          ∃ behind, Grammar.statement other = .ok (verb.statement name options restart) behind) ∧
      (¬ (groups.map ClauseGroup.name).Nodup → ∃ before group after failure behind,
        groups = before ++ group :: after ∧ (before.map ClauseGroup.name).Nodup ∧
        group.name ∈ before.map ClauseGroup.name ∧
        Grammar.statement cursor = .error failure behind ∧
        failure.cause.message = "Duplicate " ++ group.name ++ " clause" ∧
        failure.span = group.span) := by
  have repeated (again : ¬ (groups.map ClauseGroup.name).Nodup) :
      ∃ before group after behind, groups = before ++ group :: after ∧
        (before.map ClauseGroup.name).Nodup ∧ group.name ∈ before.map ClauseGroup.name ∧
        Grammar.statement cursor = .error ⟨.duplicateClause group.name, group.span⟩ behind := by
    obtain ⟨before, group, after, rfl, distinct, seen⟩ := exists_repeated again
    obtain ⟨behind, failed⟩ := faces.refused alone enough distinct seen
    exact ⟨before, group, after, behind, rfl, distinct, seen, failed⟩
  refine ⟨⟨?_, ?_⟩, ?_, ?_⟩
  · rintro ⟨body, behind, parsed⟩
    by_contra again
    obtain ⟨_, _, _, _, _, _, _, failed⟩ := repeated again
    rw [failed] at parsed
    cases parsed
  · intro distinct
    obtain ⟨behind, parsed⟩ := faces.accepted alone enough distinct
    exact ⟨_, behind, parsed⟩
  · intro distinct
    refine ⟨_, _, heldBy_groups distinct, ?_⟩
    intro others other same facesOthers
    obtain ⟨options, restart⟩ := options_of_perm same distinct
    rw [options, restart]
    exact facesOthers.accepted (fun group among => alone group (same.mem_iff.mpr among))
      (same.length_eq ▸ enough) ((same.map _).nodup distinct)
  · intro again
    obtain ⟨before, group, after, behind, split, distinct, seen, failed⟩ := repeated again
    exact ⟨before, group, after, _, behind, split, distinct, seen, failed, rfl, rfl⟩

end Sequence

/-- The tokens `CACHE 5`. -/
def cacheGroup : ClauseGroup :=
  ⟨[⟨.keyword .CACHE, ⟨18, 23⟩⟩, ⟨.integer 5, ⟨24, 25⟩⟩], .cache 5⟩

/-- The token `CYCLE`. -/
def cycleGroup : ClauseGroup := ⟨[⟨.keyword .CYCLE, ⟨26, 31⟩⟩], .cycling .cycle⟩

/-- `CREATE SEQUENCE s CACHE 5 CYCLE` is accepted. -/
theorem Grammar.statement_of_groups_create : ∃ body behind,
    Grammar.statement (.ofTokens ([⟨.keyword .CREATE, ⟨0, 6⟩⟩, ⟨.keyword .SEQUENCE, ⟨7, 15⟩⟩,
      ⟨.identifier "s", ⟨16, 17⟩⟩] ++ groupTokens [cacheGroup, cycleGroup]))
      = .ok body behind := by
  have alone : ∀ group ∈ [cacheGroup, cycleGroup],
      group.StandsAlone SequenceVerb.create.clause [] := by
    simp only [List.forall_mem_cons]
    refine ⟨?_, ?_, nofun⟩
    · exact ⟨.ofTokens cacheGroup.tokens, [], rfl, rfl, rfl, rfl⟩
    · exact ⟨.ofTokens cycleGroup.tokens, [], rfl, rfl, rfl, rfl⟩
  have faces : Cursor.FacesSequence (.ofTokens ([⟨.keyword .CREATE, ⟨0, 6⟩⟩,
      ⟨.keyword .SEQUENCE, ⟨7, 15⟩⟩, ⟨.identifier "s", ⟨16, 17⟩⟩]
        ++ groupTokens [cacheGroup, cycleGroup])) .create ⟨"s", none⟩ []
          [cacheGroup, cycleGroup] :=
    ⟨rfl, rfl, _, _, [], rfl, rfl, .plain rfl, rfl⟩
  exact (statement_of_groups .create ⟨"s", none⟩ alone (Nat.zero_le _) faces).1.mpr (by decide)

end SqlTree
