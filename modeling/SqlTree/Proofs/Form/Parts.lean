import SqlTree.Proofs.Form.Members

/-!
# Forms of the parts of trees

Names, data types, constants, and what is said about a sequence are read back from their forms. Only
numbers that are not finite are lost, which are written as null.
-/

namespace SqlTree

open Json

namespace Decoder

section Strings

variable {name : String} {object : Json}

theorem required_string_of_find? {value : String}
    (there : object.find? name = some (.string value)) :
    required name string object = some value :=
  required_of_find? there fun _ => rfl

theorem nullable_string_of_find? {value? : Option String}
    (there : object.find? name = value?.map stringForm) :
    nullable name string object = some value? := by
  have read : nullable name string object = some (value?.map id) :=
    nullable_of_find? there (fun _ => nofun) fun _ _ _ => rfl
  rwa [Option.map_id_apply] at read

/-- A list of strings is read as it is. -/
theorem defaulted_strings_of_find? {values : List String}
    (there : object.find? name =
      if (values.map stringForm).isEmpty then none else some (.array (values.map stringForm))) :
    defaulted name [] (list string) object = some values := by
  have read : defaulted name [] (list string) object = some (values.map id) :=
    defaulted_list_of_find? there fun _ _ _ => rfl
  rwa [List.map_id] at read

theorem nullable_bigint_of_find? {value? : Option Int64}
    (there : object.find? name = value?.map bigintForm) :
    nullable name bigint object = some value? := by
  have read : nullable name bigint object = some (value?.map id) :=
    nullable_of_find? there (fun _ => nofun) fun value _ _ => bigint_bigintForm value
  rwa [Option.map_id_apply] at read

/-- A member that holds one of a closed set of spellings is read. -/
theorem required_spelled_of_find? {α : Type} {values : List α} {spelling : α → String} {value : α}
    (there : object.find? name = some (.string (spelling value)))
    (distinct : (values.map spelling).Nodup) (among : value ∈ values) :
    required name (spelled values spelling) object = some value :=
  required_of_find? there fun _ => spelled_of_nodup distinct among

end Strings

/-- A name is read back. -/
@[simp] theorem objectName_form (object : ObjectName) : objectName object.form = some object := by
  have name : required "name" string object.form = some object.name :=
    required_string_of_find? (by simp [ObjectName.form])
  have schema : nullable "schema" string object.form = some object.schema :=
    nullable_string_of_find? (by simp [ObjectName.form])
  have node : members object.form = some object.form := rfl
  simp only [objectName, node, name, schema, Option.bind_eq_bind, Option.bind_some,
    Option.pure_def]

/-- A data type is read back. -/
@[simp] theorem dataType_form (type : DataType) : dataType type.form = some type := by
  have name : required "type" string type.form = some type.name :=
    required_string_of_find? (by simp [DataType.form])
  have modifiers : defaulted "config" [] (list bigint) type.form
      = some (type.modifiers.map id) :=
    defaulted_list_of_find? (by simp [DataType.form]) fun value _ _ => bigint_bigintForm value
  rw [List.map_id] at modifiers
  have node : members type.form = some type.form := rfl
  simp only [dataType, node, name, modifiers, Option.bind_eq_bind, Option.bind_some,
    Option.pure_def]

end Decoder

/-- A constant, with null in the place of a number that is not finite. -/
def Literal.nullified : Literal → Literal
  | .numeric value => if value.isFinite then .numeric value else .null
  | constant => constant

/-- The form of where a sequence is set back to is no null. -/
theorem Restart.form_ne_null (target : Restart) : target.form ≠ .null := by
  intro same
  cases target <;> cases same

namespace Decoder

/-- A constant is read back, up to numbers that are not finite. -/
theorem literal_form (constant : Literal) : literal constant.form = some constant.nullified := by
  cases constant with
  | integer value =>
      have read := bigint_bigintForm value
      rw [bigintForm] at read
      rw [Literal.form, bigintForm, literal, read]
      rfl
  | numeric value =>
      rw [Literal.form, Literal.nullified]
      split <;> rfl
  | string | boolean | null => rfl

/-- A bound of a sequence is read back. -/
theorem sequenceBound_form (openWord : String) (bound : SequenceBound) :
    sequenceBound openWord (bound.form openWord) = some bound := by
  cases bound with
  | unbounded => exact if_pos rfl
  | value bound =>
      have plain : string (bigintForm bound) ≠ some openWord := nofun
      rw [SequenceBound.form, sequenceBound, if_neg plain, bigint_bigintForm]
      rfl

theorem cycling_spelling (mode : Cycling) :
    spelled [.cycle, .noCycle] Cycling.spelling (.string mode.spelling) = some mode :=
  spelled_of_nodup (by decide) (by cases mode <;> simp)

/-- What a sequence belongs to is read back. -/
theorem ownership_form (owner : Ownership) : ownership owner.form = some owner := by
  cases owner with
  | nothing => rfl
  | column owner =>
      have schema : nullable "schema" string (Ownership.column owner).form = some owner.schema :=
        nullable_string_of_find? (by simp [Ownership.form])
      have table : required "table" string (Ownership.column owner).form = some owner.table :=
        required_string_of_find? (by simp [Ownership.form])
      have column : required "column" string (Ownership.column owner).form = some owner.column :=
        required_string_of_find? (by simp [Ownership.form])
      rw [Ownership.form] at schema table column ⊢
      simp only [ownership, schema, table, column, Option.bind_eq_bind, Option.bind_some,
        Option.pure_def]

/-- Where a sequence is set back to is read back. -/
theorem restart_form (target : Restart) : restart target.form = some target := by
  cases target with
  | atStart => rfl
  | value position =>
      change (bigint (bigintForm position)).map Restart.value = _
      rw [bigint_bigintForm]
      rfl

end Decoder

end SqlTree
