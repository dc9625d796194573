/-!
# Access

A report or component is open to everyone, to its owner, or to administrators only.
-/

namespace TabularReport

/-- Whether someone is an administrator. -/
def isAdmin (admins : List String) (user : String) : Bool := admins.contains user

/-- Whether someone may use what an owner has declared public or not. -/
def canAccess (admins : List String) (owner : String) (isPublic : Bool) (user : String) : Bool :=
  isPublic || owner == user || isAdmin admins user

end TabularReport
