import SqlTree.Proofs.Grammar.OptionBag

/-!
# Groups of clauses

A statement on a sequence is a list of groups of tokens, each of them one clause. The loop over the
clauses reads group after group and stops at the first whose name it has seen before.
-/

namespace SqlTree

open SqlTree.Parser SqlTree.Grammar

/-- A group of tokens and the clause that it is. -/
structure ClauseGroup where
  tokens : List Token
  clause : SequenceClause

namespace ClauseGroup

/-- The name of the clause that a group is. -/
def name (group : ClauseGroup) : String := group.clause.name

/-- The span from the first token of a group to its last. -/
def span (group : ClauseGroup) : Span :=
  match group.tokens.head?, group.tokens.getLast? with
  | some first, some last => first.span.merge last.span
  | _, _ => .point 0

/-- On its own, in front of the end of a statement, a group is consumed entirely by one call of a
parser of clauses. -/
def StandsAlone (callback : Parser (Option SequenceClause)) (source : List Char)
    (group : ClauseGroup) : Prop :=
  ∃ (cursor : Cursor) (tail : List Token), cursor.source = source ∧
    cursor.ahead = group.tokens ++ tail ∧
    (tail.head?.getD cursor.close).kind.isTerminator = true ∧
    callback cursor = .ok (some group.clause) (cursor.past group.tokens.length)

end ClauseGroup

/-- The tokens of some groups stand ahead of a cursor, and what ends a clause behind them. -/
structure Cursor.FacesGroups (cursor : Cursor) (source : List Char) (groups : List ClauseGroup)
    (tail : List Token) : Prop where
  source : cursor.source = source
  ahead : cursor.ahead = groups.flatMap ClauseGroup.tokens ++ tail
  ends : endsClause (tail.head?.getD cursor.close).kind = true

/-- Behind the first tokens ahead stands the first of the others. -/
theorem Cursor.peek_length {cursor : Cursor} {front back : List Token}
    (ahead : cursor.ahead = front ++ back) :
    cursor.peek front.length = back.head?.getD cursor.close := by
  rw [Cursor.peek, ahead, List.getElem?_append_right (Nat.le_refl _), Nat.sub_self,
    List.head?_eq_getElem?]

theorem Cursor.current_of_ahead {cursor : Cursor} {tokens : List Token}
    (ahead : cursor.ahead = tokens) : cursor.current = tokens.head?.getD cursor.close :=
  Cursor.peek_length (show cursor.ahead = [] ++ tokens from ahead)

variable {clause : Parser (Option SequenceClause)}
  {body? : TokenKind → Option (Parser (Option SequenceClause))} {source : List Char}
  {group : ClauseGroup} {groups before : List ClauseGroup} {tail : List Token} {cursor : Cursor}

/-- A group that stands alone starts a clause. -/
theorem ClauseGroup.StandsAlone.opens (parser : ClauseParser clause body?)
    (alone : group.StandsAlone clause source) :
    ∃ first others, group.tokens = first :: others ∧ startsClause first.kind = true := by
  obtain ⟨lone, tail, _, ahead, ends, parsed⟩ := alone
  rw [← Cursor.peek_length ahead] at ends
  have front : lone.ahead.take group.tokens.length = group.tokens := by
    rw [ahead, List.take_left]
  have aligned : Aligned group.tokens lone lone :=
    ⟨rfl, front, front, ends, endsClause_of_isTerminator ends⟩
  have starts := (parser.within aligned parsed).2
  cases tokens : group.tokens with
  | nil =>
      have going := going_of_startsClause starts
      rw [tokens] at ends
      rw [Cursor.current, ← List.length_nil, ends] at going
      cases going
  | cons first others =>
      rw [tokens] at front
      have same : lone.current = first :=
        Cursor.peek_of_take front (Nat.zero_lt_succ _)
      exact ⟨first, others, rfl, same ▸ starts⟩

namespace Cursor.FacesGroups

/-- Behind the first group the others stand ahead. -/
theorem past (faces : cursor.FacesGroups source (group :: groups) tail) :
    (cursor.past group.tokens.length).FacesGroups source groups tail where
  source := faces.source
  ahead := by
    rw [Cursor.past, faces.ahead, List.flatMap_cons, List.append_assoc, List.drop_left]
  ends := faces.ends

/-- Behind the last group stands the first token of what follows. -/
theorem current_nil (faces : cursor.FacesGroups source [] tail) :
    cursor.current = tail.head?.getD cursor.close :=
  Cursor.current_of_ahead faces.ahead

/-- Behind all groups none is left. -/
theorem past_all (faces : cursor.FacesGroups source groups tail) :
    (cursor.past (groups.flatMap ClauseGroup.tokens).length).FacesGroups source [] tail where
  source := faces.source
  ahead := by
    rw [Cursor.past, faces.ahead, List.drop_left]
    rfl
  ends := faces.ends

/-- What stands behind the first group ends its clause. -/
theorem ends_first (parser : ClauseParser clause body?)
    (faces : cursor.FacesGroups source (group :: groups) tail)
    (alone : ∀ other ∈ groups, other.StandsAlone clause source) :
    endsClause (cursor.peek group.tokens.length).kind = true := by
  have ahead := faces.ahead
  rw [List.flatMap_cons, List.append_assoc] at ahead
  rw [Cursor.peek_length ahead]
  cases groups with
  | nil => exact faces.ends
  | cons next groups =>
      obtain ⟨first, others, tokens, starts⟩ := (alone next List.mem_cons_self).opens parser
      rw [List.flatMap_cons, tokens, List.cons_append, List.cons_append, List.head?_cons,
        Option.getD_some, endsClause, starts, Bool.true_or]

/-- The first group is read as its clause, from a token that does not end the statement. -/
theorem read (parser : ClauseParser clause body?)
    (faces : cursor.FacesGroups source (group :: groups) tail)
    (alone : ∀ other ∈ group :: groups, other.StandsAlone clause source) :
    clause cursor = .ok (some group.clause) (cursor.past group.tokens.length)
      ∧ startsClause cursor.current.kind = true := by
  obtain ⟨first, others⟩ := List.forall_mem_cons.mp alone
  obtain ⟨lone, behind, sourceLone, aheadLone, endsLone, parsed⟩ := first
  have front : cursor.ahead.take group.tokens.length = group.tokens := by
    rw [faces.ahead, List.flatMap_cons, List.append_assoc, List.take_left]
  have frontLone : lone.ahead.take group.tokens.length = group.tokens := by
    rw [aheadLone, List.take_left]
  rw [← Cursor.peek_length aheadLone] at endsLone
  have aligned : Aligned group.tokens lone cursor :=
    ⟨sourceLone.trans faces.source.symm, frontLone, front, endsLone,
      faces.ends_first parser others⟩
  exact parser.within aligned parsed

/-- What ends a clause stands in front of the groups and behind them. -/
theorem ends_before (parser : ClauseParser clause body?)
    (faces : cursor.FacesGroups source groups tail)
    (alone : ∀ group ∈ groups, group.StandsAlone clause source) :
    endsClause cursor.current.kind = true := by
  cases groups with
  | nil =>
      rw [faces.current_nil]
      exact faces.ends
  | cons group groups => rw [endsClause, (faces.read parser alone).2, Bool.true_or]

/-- From the first token of the first group to the last token taken is the span of the group. -/
theorem span (parser : ClauseParser clause body?)
    (faces : cursor.FacesGroups source (group :: groups) tail)
    (alone : group.StandsAlone clause source) :
    cursor.current.span.merge (cursor.past group.tokens.length).previousSpan = group.span := by
  obtain ⟨first, others, tokens, _⟩ := alone.opens parser
  have front : cursor.ahead.take group.tokens.length = group.tokens := by
    rw [faces.ahead, List.flatMap_cons, List.append_assoc, List.take_left]
  have inside : 0 < group.tokens.length := by
    rw [tokens]
    exact Nat.zero_lt_succ _
  have start : cursor.current = first := by
    rw [Cursor.current, Cursor.peek_of_take front inside]
    simp only [tokens, List.getElem_cons_zero]
  have last : (cursor.past group.tokens.length).previous
      = group.tokens.getLast?.map Token.span := by
    rw [Cursor.past, front, tokens, List.getLast?_cons]
    rfl
  rw [start, Cursor.previousSpan, last, ClauseGroup.span, tokens, List.getLast?_cons]
  rfl

end Cursor.FacesGroups

/-- The tokens of some groups. -/
def groupTokens (groups : List ClauseGroup) : List Token := groups.flatMap ClauseGroup.tokens

/-- One turn of the loop reads a group, or fails where its name was seen before. -/
theorem clausesWithin_group (parser : ClauseParser clause body?) {fuel : Nat}
    {behind : List SequenceClause}
    (faces : cursor.FacesGroups source (group :: groups) tail)
    (alone : ∀ other ∈ group :: groups, other.StandsAlone clause source) :
    clausesWithin clause (fuel + 1) behind cursor =
      if group.name ∈ behind.map SequenceClause.name then
        .error ⟨.duplicateClause group.name, group.span⟩ (cursor.past group.tokens.length)
      else clausesWithin clause fuel (group.clause :: behind)
        (cursor.past group.tokens.length) := by
  obtain ⟨parsed, starts⟩ := faces.read parser alone
  have going : ¬ cursor.current.kind.isTerminator = true := by
    rw [going_of_startsClause starts]
    exact nofun
  have seen : (behind.any fun other => other.name == group.clause.name) = true
      ↔ group.name ∈ behind.map SequenceClause.name := by
    simp [ClauseGroup.name]
  change (if cursor.current.kind.isTerminator then _ else clause >>= _ : Parser _) cursor = _
  refine (run_ite _ _ cursor).trans ((if_neg going).trans ((bind_of_ok parsed).trans ?_))
  refine (run_ite _ _ _).trans ?_
  split
  · next duplicate =>
      rw [if_pos (seen.mp duplicate), ← faces.span parser (alone _ List.mem_cons_self)]
      rfl
  · next fresh =>
      rw [if_neg (mt seen.mpr fresh)]

/-- Groups whose names are new are read one after another. -/
theorem clausesWithin_groups (parser : ClauseParser clause body?) (fuel : Nat)
    (behind : List SequenceClause) (faces : cursor.FacesGroups source (before ++ groups) tail)
    (alone : ∀ other ∈ before ++ groups, other.StandsAlone clause source)
    (distinct : (before.map ClauseGroup.name).Nodup)
    (fresh : ∀ other ∈ before, other.name ∉ behind.map SequenceClause.name) :
    (cursor.past (groupTokens before).length).FacesGroups source groups tail ∧
      clausesWithin clause (before.length + fuel) behind cursor =
        clausesWithin clause fuel ((before.map ClauseGroup.clause).reverse ++ behind)
          (cursor.past (groupTokens before).length) := by
  induction before generalizing cursor behind with
  | nil =>
      have start : cursor.past (groupTokens []).length = cursor := Cursor.past_zero cursor
      rw [start, List.length_nil, Nat.zero_add]
      exact ⟨faces, rfl⟩
  | cons first before inductionHypothesis =>
      rw [List.map_cons, List.nodup_cons] at distinct
      obtain ⟨freshFirst, freshOthers⟩ := List.forall_mem_cons.mp fresh
      have turn : clausesWithin clause (before.length + fuel + 1) behind cursor
          = clausesWithin clause (before.length + fuel) (first.clause :: behind)
            (cursor.past first.tokens.length) := by
        rw [clausesWithin_group parser faces alone, if_neg freshFirst]
      have freshBehind : ∀ other ∈ before,
          other.name ∉ (first.clause :: behind).map SequenceClause.name := by
        intro other among
        rw [List.map_cons, List.mem_cons, not_or]
        refine ⟨fun same => distinct.1 ?_, freshOthers other among⟩
        have seen : other.name ∈ before.map ClauseGroup.name := List.mem_map_of_mem among
        rwa [same] at seen
      have others := inductionHypothesis (first.clause :: behind) faces.past
        (fun other among => alone other (List.mem_cons_of_mem _ among)) distinct.2 freshBehind
      have size : (groupTokens (first :: before)).length
          = first.tokens.length + (groupTokens before).length := by
        rw [groupTokens, List.flatMap_cons, List.length_append, groupTokens]
      rw [Cursor.past_past, ← size] at others
      refine ⟨others.1, ?_⟩
      rw [List.length_cons, Nat.add_right_comm, turn, others.2, List.map_cons,
        List.reverse_cons, List.append_assoc, List.singleton_append]

/-- There are no more groups than tokens. -/
theorem length_le_groupTokens (parser : ClauseParser clause body?)
    (alone : ∀ other ∈ groups, other.StandsAlone clause source) :
    groups.length ≤ (groupTokens groups).length := by
  induction groups with
  | nil => exact Nat.le_refl 0
  | cons first groups inductionHypothesis =>
      obtain ⟨aloneFirst, aloneOthers⟩ := List.forall_mem_cons.mp alone
      obtain ⟨token, others, tokens, _⟩ := aloneFirst.opens parser
      have bound := inductionHypothesis aloneOthers
      rw [groupTokens] at bound ⊢
      rw [List.flatMap_cons, List.length_append, tokens, List.length_cons, List.length_cons]
      omega

/-- The tokens ahead are enough turns for the groups, and one more. -/
theorem exists_fuel (parser : ClauseParser clause body?)
    (faces : cursor.FacesGroups source groups tail)
    (alone : ∀ other ∈ groups, other.StandsAlone clause source) :
    ∃ more, cursor.ahead.length + 1 = groups.length + (more + 1) := by
  have bound := length_le_groupTokens parser alone
  have size := congrArg List.length faces.ahead
  rw [List.length_append] at size
  rw [groupTokens] at bound
  exact ⟨cursor.ahead.length - groups.length, by omega⟩

/-- Groups of different names are read up to the end of the statement. -/
theorem clauses_distinct (parser : ClauseParser clause body?)
    (faces : cursor.FacesGroups source groups tail)
    (last : (tail.head?.getD cursor.close).kind.isTerminator = true)
    (alone : ∀ other ∈ groups, other.StandsAlone clause source)
    (distinct : (groups.map ClauseGroup.name).Nodup) :
    clauses clause cursor
      = .ok (groups.map ClauseGroup.clause) (cursor.past (groupTokens groups).length) := by
  obtain ⟨more, enough⟩ := exists_fuel parser faces alone
  have facesAll : cursor.FacesGroups source (groups ++ []) tail := by rwa [List.append_nil]
  obtain ⟨behind, read⟩ := clausesWithin_groups parser (more + 1) [] facesAll
    (by rwa [List.append_nil]) distinct fun _ _ => nofun
  have ends : (cursor.past (groupTokens groups).length).current.kind.isTerminator = true := by
    rw [behind.current_nil]
    exact last
  change clausesWithin clause (cursor.ahead.length + 1) [] cursor = _
  rw [enough, read, List.append_nil]
  refine (run_ite _ _ _).trans ((if_pos ends).trans ?_)
  rw [List.reverse_reverse]
  rfl

/-- A clause that fails behind groups of different names makes the list of clauses fail. -/
theorem clauses_failing (parser : ClauseParser clause body?)
    (faces : cursor.FacesGroups source before tail)
    (alone : ∀ other ∈ before, other.StandsAlone clause source)
    (distinct : (before.map ClauseGroup.name).Nodup)
    (going : (tail.head?.getD cursor.close).kind.isTerminator = false)
    {failure : Failure} {stopped : Cursor}
    (fails : clause (cursor.past (groupTokens before).length) = .error failure stopped) :
    clauses clause cursor = .error failure stopped := by
  obtain ⟨more, enough⟩ := exists_fuel parser faces alone
  have facesAll : cursor.FacesGroups source (before ++ []) tail := by rwa [List.append_nil]
  obtain ⟨behind, read⟩ := clausesWithin_groups parser (more + 1) [] facesAll
    (by rwa [List.append_nil]) distinct fun _ _ => nofun
  have goes : ¬ (cursor.past (groupTokens before).length).current.kind.isTerminator = true := by
    rw [behind.current_nil]
    exact Bool.eq_false_iff.mp going
  change clausesWithin clause (cursor.ahead.length + 1) [] cursor = _
  rw [enough, read]
  exact (run_ite _ _ _).trans ((if_neg goes).trans (bind_of_error fails))

/-- The first group whose name was seen before is refused, with its name and its span. -/
theorem clauses_repeated (parser : ClauseParser clause body?)
    (faces : cursor.FacesGroups source (before ++ group :: groups) tail)
    (alone : ∀ other ∈ before ++ group :: groups, other.StandsAlone clause source)
    (distinct : (before.map ClauseGroup.name).Nodup)
    (repeated : group.name ∈ before.map ClauseGroup.name) :
    ∃ stopped, clauses clause cursor
      = .error ⟨.duplicateClause group.name, group.span⟩ stopped := by
  obtain ⟨more, enough⟩ := exists_fuel parser faces alone
  rw [List.length_append, Nat.add_assoc, ← Nat.add_assoc (group :: groups).length] at enough
  obtain ⟨behind, read⟩ := clausesWithin_groups parser ((group :: groups).length + more + 1) []
    faces alone distinct fun _ _ => nofun
  have seen : group.name
      ∈ ((before.map ClauseGroup.clause).reverse ++ []).map SequenceClause.name := by
    rw [List.append_nil, List.map_reverse, List.mem_reverse, List.map_map]
    exact repeated
  have others : ∀ other ∈ group :: groups, other.StandsAlone clause source :=
    fun other among => alone other (List.mem_append_right _ among)
  refine ⟨(cursor.past (groupTokens before).length).past group.tokens.length, ?_⟩
  change clausesWithin clause (cursor.ahead.length + 1) [] cursor = _
  rw [enough, read, clausesWithin_group parser behind others, if_pos seen]

end SqlTree
