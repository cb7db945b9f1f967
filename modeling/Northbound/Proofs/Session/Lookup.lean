import Northbound.Session.Deployment

/-!
# What lookups answer

A lookup asks a cache for its entries and answers from them alone.
-/

namespace Northbound.Session

/-- The answer to a lookup of the one ID of a name. -/
def idIn (kind : EntityKind) (name : String) (entries : Dictionary String) :
    Except SessionError String :=
  match entries.find? name with
  | some id => .ok id
  | none => .error (.notFound kind name)

/-- The answer to a lookup of the instance of a name, which may have any number of IDs. -/
def instanceIn (name : String) (entries : Dictionary (List String)) : Except SessionError String :=
  match (entries.find? name).getD [] with
  | [] => .error (.notFound .nsInstance name)
  | [id] => .ok id
  | ids => .error (.ambiguous name ids)

theorem find_eq (kind : EntityKind) (name : String) (entries : Dictionary String) :
    find kind name entries = Action.ofExcept (idIn kind name entries) := by
  simp only [find, idIn]
  cases entries.find? name <;> rfl

theorem lookupDescriptor_eq (env : Surroundings) (name : String) :
    lookupDescriptor env name =
      descriptorIds env >>= fun entries => Action.ofExcept (idIn .nsDescriptor name entries) := by
  simp only [lookupDescriptor, find_eq]

theorem lookupAccount_eq (env : Surroundings) (name : String) :
    lookupAccount env name =
      accountIds env >>= fun entries => Action.ofExcept (idIn .vimAccount name entries) := by
  simp only [lookupAccount, find_eq]

theorem lookupInstance_eq (env : Surroundings) (name : String) :
    lookupInstance env name =
      instanceIds env >>= fun entries => Action.ofExcept (instanceIn name entries) := by
  simp only [lookupInstance, instanceIn]
  congr
  funext entries
  rcases (entries.find? name).getD [] with _ | ⟨id, _ | ⟨id', ids⟩⟩ <;> rfl

end Northbound.Session
