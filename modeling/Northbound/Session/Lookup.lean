import Northbound.Session.Basic

/-!
# Looking up IDs

Names are looked up in collections, each of which is fetched when it is first needed and not again.
-/

namespace Northbound

namespace EntityView

/-- The ID of each name. Of two items of one name, the last counts. -/
def idByName (views : List EntityView) : Dictionary String :=
  Dictionary.ofList (views.map fun v => (v.name, v.id))

/-- The IDs of each name, in order. -/
def idsByName (views : List EntityView) : Dictionary (List String) :=
  views.foldl (fun d v => d.insert v.name ((d.find? v.name).getD [] ++ [v.id])) []

end EntityView

namespace Session

/-- The entries of a cache of the session, populated if need be. -/
def cached {α : Type} (get : Session → LookupCache α) (set : Session → LookupCache α → Session)
    (populate : SessionAction (Dictionary α)) : SessionAction (Dictionary α) := fun (s, t) =>
  match LookupCache.getOrPopulate populate (get s, s, t) with
  | (r, cache, s, t) => (r, set s cache, t)

/-- The IDs of the descriptors. -/
def descriptorIds (env : Surroundings) : SessionAction (Dictionary String) :=
  cached nsDescriptors (fun s cache => { s with nsDescriptors := cache }) do
    return EntityView.idByName (← fetch env .nsDescriptor .nsDescriptors)

/-- The IDs of the accounts. -/
def accountIds (env : Surroundings) : SessionAction (Dictionary String) :=
  cached vimAccounts (fun s cache => { s with vimAccounts := cache }) do
    return EntityView.idByName (← fetch env .vimAccount .vimAccounts)

/-- The IDs of the instances. -/
def instanceIds (env : Surroundings) : SessionAction (Dictionary (List String)) :=
  cached nsInstances (fun s cache => { s with nsInstances := cache }) do
    return EntityView.idsByName (← fetch env .nsInstance .nsInstancesContent)

/-- The ID that a name has among entries. -/
def find (kind : EntityKind) (name : String) (entries : Dictionary String) : SessionAction String :=
  match entries.find? name with
  | some id => return id
  | none => throw (.notFound kind name)

/-- The ID of the descriptor of a name. -/
def lookupDescriptor (env : Surroundings) (name : String) : SessionAction String := do
  find .nsDescriptor name (← descriptorIds env)

/-- The ID of the account of a name. -/
def lookupAccount (env : Surroundings) (name : String) : SessionAction String := do
  find .vimAccount name (← accountIds env)

/-- The ID of the one instance of a name. -/
def lookupInstance (env : Surroundings) (name : String) : SessionAction String := do
  match ((← instanceIds env).find? name).getD [] with
  | [] => throw (.notFound .nsInstance name)
  | [id] => return id
  | ids => throw (.ambiguous name ids)

end Session

end Northbound
