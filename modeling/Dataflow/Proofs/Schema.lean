/-
Registries of schemas hold what was registered last: of all schemas of a type
that were registered one after the other, the last one counts.
-/
import Dataflow.Schema
import Mathlib.Data.List.Induction

namespace Dataflow.SchemaRegistry

theorem ofSchemas_append (schemas : List Schema) (s : Schema) :
    ofSchemas (schemas ++ [s]) = (ofSchemas schemas).register s := by
  rw [ofSchemas, List.foldl_append]
  rfl

/-- **The schema of a type is the last one registered for it.** -/
theorem get?_ofSchemas (schemas : List Schema) (opType : String) :
    (ofSchemas schemas).get? opType = schemas.reverse.find? (·.opType == opType) := by
  induction schemas using List.reverseRecOn with
  | nil => rfl
  | append_singleton schemas s ih =>
    rw [ofSchemas_append, register, NameMap.get?_insert, List.reverse_append, List.reverse_singleton,
      List.singleton_append, ih]
    by_cases h : s.opType = opType
    · rw [if_pos h.symm, List.find?_cons_of_pos (by simpa using h)]
    · rw [if_neg (Ne.symm h), List.find?_cons_of_neg (by simpa using h)]

theorem costFunction?_ofSchemas (schemas : List Schema) (opType : String) :
    (ofSchemas schemas).costFunction? opType =
      (schemas.reverse.find? (·.opType == opType)).bind Schema.cost := by
  rw [costFunction?, get?_ofSchemas]

end Dataflow.SchemaRegistry
