import TypeContracts.Text.Pieces

/-!
# Type identities

The key under which a type is declared once: its full name with the identities of its
type arguments. Only an argument's identity carries `nullable`, so that a page of
optional users and a page of users are two instantiations, while a nullable reference
to a user resolves to the one declaration of the user.
-/

set_option autoImplicit false

namespace TypeContracts

/-- A full name with resolved type arguments. -/
structure Identity where
  fullName : String
  arguments : List Identity := []
  nullable : Bool := false
deriving Repr, Inhabited

namespace Identity

/-! ## Equality -/

mutual
/-- Equality of identities is decided part by part. -/
def decideEq : (a b : Identity) → Decidable (a = b)
  | ⟨f, as, n⟩, ⟨g, bs, m⟩ =>
    if names : f = g then
      if flags : n = m then
        match decideAll as bs with
        | .isTrue same => .isTrue (by rw [names, flags, same])
        | .isFalse differ => .isFalse (by intro e; cases e; exact differ rfl)
      else .isFalse (by intro e; cases e; exact flags rfl)
    else .isFalse (by intro e; cases e; exact names rfl)

def decideAll : (as bs : List Identity) → Decidable (as = bs)
  | [], [] => .isTrue rfl
  | [], _ :: _ => .isFalse (by intro e; cases e)
  | _ :: _, [] => .isFalse (by intro e; cases e)
  | a :: as, b :: bs =>
    match decideEq a b, decideAll as bs with
    | .isTrue first, .isTrue rest => .isTrue (by rw [first, rest])
    | .isFalse differ, _ => .isFalse (by intro e; cases e; exact differ rfl)
    | _, .isFalse differ => .isFalse (by intro e; cases e; exact differ rfl)
end

instance : DecidableEq Identity := decideEq

/-! ## Text and namespace -/

mutual
/-- The text of an identity in messages: arguments in brackets, optional ones marked. -/
def text : Identity → String
  | ⟨name, arguments, nullable⟩ =>
    let applied :=
      if arguments.isEmpty then name else name ++ "[" ++ Text.join ", " (texts arguments) ++ "]"
    if nullable then "Optional[" ++ applied ++ "]" else applied

def texts : List Identity → List String
  | [] => []
  | identity :: rest => text identity :: texts rest
end

/-- What stands before the last dot of a full name. -/
def namespaceOf (fullName : String) : String :=
  match Text.cutLast? '.' fullName.toList with
  | some (front, _) => String.ofList front
  | none => ""

/-- What stands after the last dot of a full name. -/
def lastName (fullName : String) : String :=
  match Text.cutLast? '.' fullName.toList with
  | some (_, behind) => String.ofList behind
  | none => fullName

/-- The namespace of an identity. -/
def space (identity : Identity) : String := namespaceOf identity.fullName

end Identity

end TypeContracts
