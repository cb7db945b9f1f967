import Northbound.Action
import Northbound.Tar.Archive

/-!
# How much of the source a reader uses up

No step of reading puts anything back: what is left of the source never grows. A member that is
found has used up the block of its header at least, so that only so many members can follow each
other.
-/

namespace Northbound.Tar

/-- How many bytes of the source are still to come. -/
def Archive.left (a : Archive) : Nat := a.source.bytes.length

theorem Archive.left_supply (n : Nat) (a : Archive) :
    (a.supply n).2.left + (a.supply n).1.1.length = a.left := by
  simp only [Archive.supply, ByteSource.supply, Archive.left, List.length_take, List.length_drop]
  omega

namespace Reader

variable {α β : Type}

/-- Whenever a step yields a value, it has used up as many bytes as that value tells, or more. -/
def Uses (cost : α → Nat) (r : Reader α) : Prop :=
  ∀ ⦃a a' : Archive⦄ ⦃x : α⦄, r a = (.ok x, a') → a'.left + cost x ≤ a.left

/-- A step that puts nothing back. -/
abbrev Forward (r : Reader α) : Prop := Uses (fun _ => 0) r

variable {r : Reader α} {f : α → Reader β} {cost : α → Nat} {total : β → Nat}

theorem Uses.forward (h : Uses cost r) : Forward r := fun _ _ _ ran => by
  have := h ran
  simp only
  omega

theorem Forward.uses (h : Forward r) (free : ∀ x, cost x = 0) : Uses cost r := by
  intro a a' x ran
  rw [free x]
  exact h ran

/-- What the first step uses up need not be used up by the next one. -/
theorem Uses.bind (first : Uses cost r) (next : ∀ x, Uses (fun y => total y - cost x) (f x)) :
    Uses total (r >>= f) := by
  intro a a' y ran
  obtain ⟨x, a₁, one, two⟩ := Action.bind_eq_ok ran
  have := first one
  have := next x two
  simp only at this
  omega

theorem Forward.bind (first : Forward r) (next : ∀ x, Uses total (f x)) : Uses total (r >>= f) :=
  Uses.bind first next

theorem uses_pure {x : α} (free : cost x = 0) : Uses cost (pure x : Reader α) := by
  intro a a' y ran
  cases ran
  rw [free]
  exact Nat.le_refl _

theorem uses_throw (fault : Fault) : Uses cost (throw fault : Reader α) := by
  intro a a' x ran
  cases ran

theorem uses_ite {c : Prop} [Decidable c] {r₁ r₂ : Reader α} (h₁ : Uses cost r₁)
    (h₂ : Uses cost r₂) : Uses cost (if c then r₁ else r₂) := by
  split
  · exact h₁
  · exact h₂

/-- A step that goes on only if a check is passed. -/
theorem uses_check {c : Prop} [Decidable c] {fault : Fault} {go : PUnit → Reader β}
    (h : Uses total (go ⟨⟩)) : Uses total (if c then throw fault >>= go else go ⟨⟩) :=
  uses_ite (fun _ _ _ ran => by cases ran) h

theorem forward_get : Forward (get : Reader Archive) := by
  intro a a' x ran
  cases ran
  exact Nat.le_refl _

/-- Moving the place of the next header uses nothing. -/
theorem forward_modify_next (g : Archive → Nat) :
    Forward (modify fun a => { a with next := g a } : Reader PUnit) := by
  intro a a' x ran
  cases ran
  exact Nat.le_refl _

theorem uses_upTo (n : Nat) : Uses List.length (upTo n) := by
  intro a a' bs ran
  have whole := a.left_supply n
  unfold upTo at ran
  split at ran
  next supplied =>
    rw [supplied] at whole
    cases ran
    exact Nat.le_of_eq whole
  next => cases ran

/-- What finding something costs: a block. -/
def blockIfSome : Option α → Nat
  | none => 0
  | some _ => blockSize

theorem blockIfSome_sub (x? : Option α) : blockIfSome x? - blockSize = 0 := by
  cases x? with
  | none => exact Nat.zero_sub _
  | some x => exact Nat.sub_self _

/-- A block that is read has its size. -/
theorem uses_block? : Uses blockIfSome block? := by
  refine (uses_upTo blockSize).bind fun bs => ?_
  split
  · exact uses_pure (Nat.zero_sub _)
  · split
    · exact uses_throw _
    next whole => exact uses_pure (Nat.sub_eq_zero_of_le (Nat.not_lt.1 whole))

theorem forward_skipToNext : Forward skipToNext := by
  refine forward_get.bind fun a => (uses_upTo _).forward.bind fun bs => ?_
  split
  · exact uses_throw _
  · exact uses_pure rfl

theorem forward_number (read : Bytes → Except NumberFault Nat) (header : Block) (field : Bytes)
    (name : String) : Forward (number read header field name) := by
  unfold number
  split
  · exact uses_pure rfl
  · exact uses_throw _

/-- A header that is read has used up its block. -/
theorem uses_header? (d : Description) :
    Uses blockIfSome (header? d) := by
  refine forward_skipToNext.bind fun _ => uses_block?.bind fun b? => ?_
  cases b? with
  | none => exact uses_pure rfl
  | some b =>
    refine Forward.uses (uses_ite (uses_pure rfl) ?_) blockIfSome_sub
    exact (forward_modify_next _).bind fun _ => (forward_number _ _ _ _).bind fun sum =>
      uses_check <| (forward_number _ _ _ _).bind fun own =>
        uses_check <| forward_get.bind fun a =>
          uses_check <| (forward_modify_next _).bind fun _ => uses_pure rfl

theorem forward_sparseField (read : Except NumberFault Nat) (name : String) :
    Forward (match read with
      | .ok n => return n
      | .error f => throw (.number f name " from sparse header")) := by
  cases read with
  | ok n => exact uses_pure rfl
  | error f => exact uses_throw _

/-- Checking pieces looks at no more of the source. -/
theorem forward_sparsePiece (size : Nat) (s : SparseState) (piece : Bytes) :
    Forward (sparsePiece size s piece) := by
  refine uses_ite (uses_pure rfl) ?_
  exact (forward_sparseField _ _).bind fun offset => (forward_sparseField _ _).bind fun length =>
    uses_ite (uses_throw _) <| uses_ite (uses_throw _) <| uses_ite (uses_throw _) <|
      uses_ite (uses_throw _) (uses_pure rfl)

theorem forward_checkPieces (size : Nat) (s : SparseState) (pieces : List Bytes) :
    Forward (checkPieces size s pieces) := by
  induction pieces generalizing s with
  | nil => exact uses_pure rfl
  | cons piece pieces ih =>
    rw [checkPieces, List.foldlM_cons]
    exact (forward_sparsePiece size s piece).bind ih

theorem forward_sparseExtensions (size fuel : Nat) (s : SparseState) :
    Forward (sparseExtensions size fuel s) := by
  induction fuel generalizing s with
  | zero => exact uses_throw _
  | succ fuel ih =>
    refine uses_block?.forward.bind fun b? => ?_
    cases b? with
    | none => exact uses_throw _
    | some b =>
      refine (forward_modify_next _).bind fun _ => (forward_checkPieces _ _ _).bind fun s => ?_
      split
      · exact ih s
      · exact uses_pure rfl

theorem forward_checkSparse (b : Block) (size : Nat) : Forward (checkSparse b size) := by
  have extended (s : SparseState) {next : SparseState → Reader Unit} (h : ∀ s, Forward (next s)) :
      Forward (if (b.field 482 1).headD 0 = 1 then do
          let s ← sparseExtensions size ((← get).source.bytes.length / blockSize + 2) s
          next s
        else pure s >>= next) :=
    uses_ite (forward_get.bind fun a => (forward_sparseExtensions _ _ _).bind h)
      (Forward.bind (uses_pure rfl) h)
  unfold checkSparse
  refine uses_ite (uses_pure rfl) <| uses_ite (uses_throw _) <|
    (forward_checkPieces _ _ _).bind fun s => extended s fun s => ?_
  cases readOctal (b.field 483 12) with
  | error f => exact uses_throw _
  | ok total => exact uses_ite (uses_throw _) <| uses_ite (uses_throw _) (uses_pure rfl)

/-- A member that is found has used up the block of its header. -/
theorem uses_memberAfter (fuel : Nat) (d : Description) :
    Uses blockIfSome (memberAfter fuel d) := by
  induction fuel generalizing d with
  | zero => exact uses_pure rfl
  | succ fuel ih =>
    have going (size : Nat) (described : Bytes → Description) :
        Forward (upTo size >>= fun bs => memberAfter fuel (described bs)) :=
      (uses_upTo size).forward.bind fun bs => (ih (described bs)).forward
    refine (uses_header? d).bind fun found? => ?_
    cases found? with
    | none => exact uses_ite (uses_pure rfl) (uses_throw _)
    | some found =>
      obtain ⟨b, size⟩ := found
      refine Forward.uses ?_ blockIfSome_sub
      exact uses_ite (uses_ite (uses_throw _) (going size _)) <|
        uses_ite (uses_ite (uses_throw _) (going size _)) <|
        uses_ite (uses_ite (uses_throw _) (going size _)) <|
        (forward_checkSparse b size).bind fun _ => uses_pure rfl

theorem uses_member? :
    Uses blockIfSome member? :=
  forward_get.bind fun _ => uses_memberAfter _ _

end Reader

end Northbound.Tar
