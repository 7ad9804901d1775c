import SqlTree.Proofs.Form.Parts

/-!
# Forms of statements on sequences

The options of a sequence are members among others. An option that is left out is written as no
member, and is read as left out.
-/

namespace SqlTree

open Json

namespace Decoder

/-- The names of the members that options are written as. -/
def optionNames : List String :=
  ["as", "startWith", "incrementBy", "minValue", "maxValue", "cache", "cycle", "ownedBy"]

/-- The options of a sequence are read back from any object that has their members. -/
theorem sequenceOptions_of_find? {options : SequenceOptions} {object : Json}
    (same : ∀ name ∈ optionNames,
      object.find? name = (Json.object options.members).find? name) :
    sequenceOptions object = some options := by
  have typeThere : object.find? "as" = options.dataType.map DataType.form := by
    simp [same "as" (by simp [optionNames]), SequenceOptions.members]
  have readType : nullable "as" dataType object = some (options.dataType.map id) :=
    nullable_of_find? typeThere (fun _ => nofun) fun type _ _ => dataType_form type
  have readStart : nullable "startWith" bigint object = some options.start :=
    nullable_bigint_of_find? (by
      simp [same "startWith" (by simp [optionNames]), SequenceOptions.members])
  have readIncrement : nullable "incrementBy" bigint object = some options.increment :=
    nullable_bigint_of_find? (by
      simp [same "incrementBy" (by simp [optionNames]), SequenceOptions.members])
  have minimumThere : object.find? "minValue"
      = options.minimum.map (SequenceBound.form "no minvalue") := by
    simp [same "minValue" (by simp [optionNames]), SequenceOptions.members]
  have readMinimum : present "minValue" (sequenceBound "no minvalue") object
      = some (options.minimum.map id) :=
    present_of_find? minimumThere (sequenceBound_form _)
  have maximumThere : object.find? "maxValue"
      = options.maximum.map (SequenceBound.form "no maxvalue") := by
    simp [same "maxValue" (by simp [optionNames]), SequenceOptions.members]
  have readMaximum : present "maxValue" (sequenceBound "no maxvalue") object
      = some (options.maximum.map id) :=
    present_of_find? maximumThere (sequenceBound_form _)
  have readCache : nullable "cache" bigint object = some options.cache :=
    nullable_bigint_of_find? (by
      simp [same "cache" (by simp [optionNames]), SequenceOptions.members])
  have cyclingThere : object.find? "cycle"
      = options.cycling.map fun mode => .string mode.spelling := by
    simp [same "cycle" (by simp [optionNames]), SequenceOptions.members]
  have readCycling : present "cycle" (spelled [.cycle, .noCycle] Cycling.spelling) object
      = some (options.cycling.map id) :=
    present_of_find? cyclingThere cycling_spelling
  have ownershipThere : object.find? "ownedBy" = options.ownership.map Ownership.form := by
    simp [same "ownedBy" (by simp [optionNames]), SequenceOptions.members]
  have readOwnership : present "ownedBy" ownership object = some (options.ownership.map id) :=
    present_of_find? ownershipThere ownership_form
  rw [Option.map_id_apply] at readType readMinimum readMaximum readCycling readOwnership
  simp only [sequenceOptions, readType, readStart, readIncrement, readMinimum, readMaximum,
    readCache, readCycling, readOwnership, Option.bind_eq_bind, Option.bind_some, Option.pure_def]

/-- The name of a sequence is read back from any object that has its members. -/
theorem sequenceName_of_find? {name : ObjectName} {object : Json}
    (nameThere : object.find? "name" = some (.string name.name))
    (schemaThere : object.find? "schema" = name.schema.map stringForm) :
    sequenceName object = some name := by
  simp only [sequenceName, required_string_of_find? nameThere,
    nullable_string_of_find? schemaThere, Option.bind_eq_bind, Option.bind_some, Option.pure_def]

/-- A statement that makes a sequence is read back. -/
theorem createSequence_members (kind : String) (create : CreateSequence) :
    createSequence (nodeForm kind create.members) = some create := by
  generalize shape : nodeForm kind create.members = object
  have readName : sequenceName object = some create.name :=
    sequenceName_of_find?
      (by simp [find?_of_nodeForm shape, CreateSequence.members, sequenceNameMembers])
      (by simp [find?_of_nodeForm shape, CreateSequence.members, sequenceNameMembers,
          SequenceOptions.members])
  have readTemporary : defaulted "temp" false bool object = some create.temporary :=
    defaulted_bool_of_find? (by
      simp [find?_of_nodeForm shape, CreateSequence.members, sequenceNameMembers,
        SequenceOptions.members])
  have readUnlogged : defaulted "unlogged" false bool object = some create.unlogged :=
    defaulted_bool_of_find? (by
      simp [find?_of_nodeForm shape, CreateSequence.members, sequenceNameMembers,
        SequenceOptions.members])
  have readCondition : defaulted "ifNotExists" false bool object = some create.ifNotExists :=
    defaulted_bool_of_find? (by
      simp [find?_of_nodeForm shape, CreateSequence.members, sequenceNameMembers,
        SequenceOptions.members])
  have readOptions : sequenceOptions object = some create.options := by
    refine sequenceOptions_of_find? (List.forall_iff_forall_mem.mp ?_)
    simp [optionNames, find?_of_nodeForm shape, CreateSequence.members, sequenceNameMembers]
  simp only [createSequence, readName, readTemporary, readUnlogged, readCondition, readOptions,
    Option.bind_eq_bind, Option.bind_some, Option.pure_def]

/-- A change of a sequence is read back. -/
theorem sequenceChange_form (change : SequenceChange) :
    sequenceChange change.form = some change := by
  have node : members change.form = some change.form := by cases change <;> rfl
  cases change with
  | options chosen restarted =>
      have kind : required "type" string (SequenceChange.options chosen restarted).form
          = some "set options" := rfl
      have readOptions : sequenceOptions (SequenceChange.options chosen restarted).form
          = some chosen := by
        refine sequenceOptions_of_find? (List.forall_iff_forall_mem.mp ?_)
        simp [optionNames, SequenceChange.form, nodeForm]
      have there : (SequenceChange.options chosen restarted).form.find? "restart"
          = restarted.map Restart.form := by
        simp [SequenceChange.form, nodeForm, SequenceOptions.members]
      have readRestart : nullable "restart" restart
          (SequenceChange.options chosen restarted).form = some (restarted.map id) :=
        nullable_of_find? there Restart.form_ne_null fun target _ _ => restart_form target
      rw [Option.map_id_apply] at readRestart
      simp only [sequenceChange, node, kind, readOptions, readRestart, Option.bind_eq_bind,
        Option.bind_some, Option.pure_def]
  | rename name => rfl
  | owner role => rfl
  | schema target => rfl

/-- A statement that changes a sequence is read back. -/
theorem alterSequence_members (kind : String) (alter : AlterSequence) :
    alterSequence (nodeForm kind alter.members) = some alter := by
  generalize shape : nodeForm kind alter.members = object
  have readName : sequenceName object = some alter.name :=
    sequenceName_of_find?
      (by simp [find?_of_nodeForm shape, AlterSequence.members, sequenceNameMembers])
      (by simp [find?_of_nodeForm shape, AlterSequence.members, sequenceNameMembers])
  have readCondition : defaulted "ifExists" false bool object = some alter.ifExists :=
    defaulted_bool_of_find? (by simp [find?_of_nodeForm shape, AlterSequence.members,
        sequenceNameMembers])
  have changeThere : object.find? "change" = some alter.change.form := by
    simp [find?_of_nodeForm shape, AlterSequence.members, sequenceNameMembers]
  have readChange : required "change" sequenceChange object = some alter.change :=
    required_of_find? changeThere fun _ => sequenceChange_form alter.change
  simp only [alterSequence, readName, readCondition, readChange, Option.bind_eq_bind,
    Option.bind_some, Option.pure_def]

/-- A statement that drops sequences is read back. -/
theorem dropSequence_members (kind : String) (drop : DropSequence) :
    dropSequence (nodeForm kind drop.members) = some drop := by
  generalize shape : nodeForm kind drop.members = object
  have namesThere : object.find? "names" = some (.array (drop.names.map ObjectName.form)) := by
    simp [find?_of_nodeForm shape, DropSequence.members]
  have readNames : required "names" (list objectName) object = some (drop.names.map id) :=
    required_list_of_find? namesThere fun name _ _ => objectName_form name
  have readCondition : defaulted "ifExists" false bool object = some drop.ifExists :=
    defaulted_bool_of_find? (by simp [find?_of_nodeForm shape, DropSequence.members])
  have behaviorThere : object.find? "cascade"
      = drop.behavior.map fun behavior => .string behavior.spelling := by
    simp [find?_of_nodeForm shape, DropSequence.members]
  have readBehavior : nullable "cascade" (spelled [.cascade, .restrict] DropBehavior.spelling)
      object = some (drop.behavior.map id) :=
    nullable_of_find? behaviorThere (fun _ => nofun) fun behavior _ _ =>
      spelled_of_nodup (by decide) (by cases behavior <;> simp)
  rw [List.map_id] at readNames
  rw [Option.map_id_apply] at readBehavior
  simp only [dropSequence, readNames, readCondition, readBehavior, Option.bind_eq_bind,
    Option.bind_some, Option.pure_def]

end Decoder

end SqlTree
