/-
Schemas of operator types. A schema may hold a function that estimates costs;
an operator whose type has no schema, or one without such a function, is not
costed.
-/
import Dataflow.Cost

namespace Dataflow

structure Schema where
  opType : String
  cost : Option CostFunction := none

namespace Schema

def isCosted (s : Schema) : Bool := s.cost.isSome

end Schema

abbrev SchemaRegistry := NameMap Schema

namespace SchemaRegistry

def register (r : SchemaRegistry) (s : Schema) : SchemaRegistry := r.insert s.opType s

/-- The registry of some schemas, where the last one of a type counts. -/
def ofSchemas (schemas : List Schema) : SchemaRegistry := schemas.foldl register .empty

def costFunction? (r : SchemaRegistry) (opType : String) : Option CostFunction :=
  (r.get? opType).bind Schema.cost

def inferCost (r : SchemaRegistry) (spec : OperatorSpec) (shapes : List Shape) : Option Cost :=
  (r.costFunction? spec.opType).map fun f => f spec shapes

end SchemaRegistry

end Dataflow
