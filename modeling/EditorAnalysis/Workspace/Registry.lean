/-!
# Registries

A registry holds values under session ids, in the ascending order of the ids, at most one value
under an id.
-/

namespace EditorAnalysis

/-- The number under which a workspace knows a session; a 64-bit word. -/
structure SessionId where
  number : UInt64
  deriving DecidableEq, Repr, Inhabited

namespace SessionId

/-- An id as it is shown. -/
def shown (id : SessionId) : String :=
  s!"#{id.number.toNat}"

end SessionId

/-- Values under session ids. -/
abbrev Registry (α : Type) := List (SessionId × α)

namespace Registry

variable {α : Type}

def find? (registry : Registry α) (id : SessionId) : Option α :=
  (List.find? (fun entry => entry.1 == id) registry).map (·.2)

/-- Puts a value under an id, in the place of another value if there is one. -/
def put (id : SessionId) (a : α) : Registry α → Registry α
  | [] => [(id, a)]
  | (other, b) :: rest =>
    if id.number < other.number then (id, a) :: (other, b) :: rest
    else if id = other then (id, a) :: rest
    else (other, b) :: put id a rest

def set (registry : Registry α) (id : SessionId) (a : α) : Registry α :=
  registry.map fun entry => if entry.1 = id then (id, a) else entry

def remove (registry : Registry α) (id : SessionId) : Registry α :=
  registry.filter fun entry => entry.1 != id

def ids (registry : Registry α) : List SessionId :=
  registry.map (·.1)

end Registry
end EditorAnalysis
