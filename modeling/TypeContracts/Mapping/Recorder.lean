import TypeContracts.Mapping.Rules

/-!
# Recording a mapping

A state for the mapping rules that writes down what they ask for and does nothing else:
the types they would queue and the declarations they would register, in order.
-/

set_option autoImplicit false

namespace TypeContracts

/-- What a mapping has asked for. -/
structure Recorder where
  required : List Identity := []
  registered : List Declaration := []
deriving Inhabited

namespace Recorder

variable {Loader : Type}

/-- Writes down a type that would be queued. -/
def require (host : Host Loader) (recorder : Recorder) : Recorder :=
  { recorder with required := recorder.required ++ [host.identity] }

/-- Writes down a declaration that would be registered. -/
def register (declaration : Declaration) (recorder : Recorder) : Recorder :=
  { recorder with registered := recorder.registered ++ [declaration] }

/-- What a recorded mapping offers to the rules. Events are dropped. -/
def services : Services Loader Recorder := ⟨require, register, fun _ recorder => recorder⟩

end Recorder

end TypeContracts
