import Northbound.Action
import Northbound.Dictionary
import Northbound.Text.Quoted

/-!
# Lookup caches

A cache is filled by the first population that succeeds and keeps what that one yielded.
-/

namespace Northbound

/-- A dictionary that is fetched when it is first needed. -/
inductive LookupCache (α : Type) where
  | unpopulated
  | populated (entries : Dictionary α)
deriving DecidableEq, Repr

namespace LookupCache

variable {α ε σ : Type}

instance : Inhabited (LookupCache α) := ⟨.unpopulated⟩

/-- Whether a population has succeeded. -/
def isPopulated : LookupCache α → Bool
  | .unpopulated => false
  | .populated _ => true

/-- One round of asking a cache: a populated one answers, an unpopulated one is populated and gives
no answer yet. -/
def round (populate : Action ε σ (Dictionary α)) :
    Action ε (LookupCache α × σ) (Option (Dictionary α)) := fun (cache, s) =>
  match cache with
  | .populated entries => (.ok (some entries), cache, s)
  | .unpopulated =>
    match populate s with
    | (.ok entries, s) => (.ok none, .populated entries, s)
    | (.error e, s) => (.error e, .unpopulated, s)

/-- The entries of a cache, which is populated first if it has to be. A second round always answers,
so the last line is never reached. -/
def getOrPopulate (populate : Action ε σ (Dictionary α)) :
    Action ε (LookupCache α × σ) (Dictionary α) := do
  match ← round populate with
  | some entries => return entries
  | none =>
    match ← round populate with
    | some entries => return entries
    | none => return []

/-- The debugging text of a cache whose values have the debugging texts that `value` gives. -/
def debug (value : α → String) : LookupCache α → String
  | .unpopulated => "Unpopulated"
  | .populated entries =>
    "Populated(\x7b" ++
      String.intercalate ", " (entries.map fun e => Text.quoted e.1 ++ ": " ++ value e.2) ++ "\x7d)"

/-- A populated cache answers without being populated again. -/
theorem getOrPopulate_populated (populate : Action ε σ (Dictionary α)) (entries : Dictionary α)
    (s : σ) :
    getOrPopulate populate (.populated entries, s) = (.ok entries, .populated entries, s) :=
  rfl

/-- An unpopulated cache is populated once, and stays as it is if that fails. -/
theorem getOrPopulate_unpopulated (populate : Action ε σ (Dictionary α)) (s : σ) :
    getOrPopulate populate (.unpopulated, s) =
      match populate s with
      | (.ok entries, s) => (.ok entries, .populated entries, s)
      | (.error e, s) => (.error e, .unpopulated, s) := by
  simp only [getOrPopulate, Action.bind_apply, round]
  rcases populate s with ⟨e | entries, s'⟩ <;> rfl

end LookupCache

end Northbound
