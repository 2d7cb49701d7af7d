/-
Workspaces: the tensors that the operators of a net share, by name.
-/
import Dataflow.Tensor.Basic
import Dataflow.NameMap

namespace Dataflow

abbrev Workspace := NameMap Tensor

namespace Workspace

/-- Stores a tensor under a name, in place of any earlier one. -/
def feed (ws : Workspace) (name : String) (t : Tensor) : Workspace := ws.insert name t

def fetch (ws : Workspace) (name : String) : Except Failure Tensor :=
  match ws.get? name with
  | some t => .ok t
  | none => .error (.noTensor name)

def shape? (ws : Workspace) (name : String) : Option Shape := (ws.get? name).map Tensor.shape

/-- The shapes under some names, none at all when one of the names holds no tensor. -/
def shapes? (ws : Workspace) (names : List String) : Option (List Shape) := names.mapM ws.shape?

end Workspace

end Dataflow
