import Northbound.Action
import Northbound.Json.Record

/-!
# Readers go forward

A reader that succeeds leaves no more of the document than it was given. The bytes that are left are
what the fuel of a loop is compared with, so this is said of every reader that a value is read with.
-/

namespace Northbound.Json

namespace Cursor

theorem rest_advance (c : Cursor) : c.advance.rest = c.rest.tail := by
  rw [advance]
  split
  next hrest => rw [hrest, List.tail_nil]
  next b rest hrest =>
    rw [hrest, List.tail_cons]
    split <;> rfl

theorem rest_advanceBy (n : Nat) (c : Cursor) : (c.advanceBy n).rest = c.rest.drop n := by
  induction n generalizing c with
  | zero => rfl
  | succ n ih => rw [advanceBy, ih, rest_advance, List.drop_tail]

theorem rest_skipWhile (p : UInt8 → Bool) (c : Cursor) :
    (c.skipWhile p).rest = c.rest.dropWhile p := by
  rw [skipWhile, rest_advanceBy]
  induction c.rest with
  | nil => rfl
  | cons b rest ih => cases hb : p b <;> simp [hb, ih]

/-- How many bytes are left. -/
def left (c : Cursor) : Nat := c.rest.length

theorem left_advance (c : Cursor) : c.advance.left = c.left - 1 := by
  rw [left, rest_advance, List.length_tail, left]

theorem left_advanceBy_le (n : Nat) (c : Cursor) : (c.advanceBy n).left ≤ c.left := by
  rw [left, rest_advanceBy, List.length_drop]
  exact Nat.sub_le _ _

theorem left_skipWhile_le (p : UInt8 → Bool) (c : Cursor) : (c.skipWhile p).left ≤ c.left :=
  c.left_advanceBy_le _

/-- There is a byte left to be read. -/
theorem left_pos {c : Cursor} {b : UInt8} (next : c.rest.head? = some b) : 0 < c.left := by
  rw [left, List.length_pos_iff]
  rintro hnil
  rw [hnil] at next
  cases next

/-- Where a byte is next, a step uses up one. -/
theorem left_advance_add_one {c : Cursor} {b : UInt8} (next : c.rest.head? = some b) :
    c.advance.left + 1 = c.left := by
  have := left_pos next
  rw [left_advance]
  omega

end Cursor

namespace Reader

variable {α β : Type}

/-- A reader that leaves no more than it was given when it succeeds. -/
def Forward (r : Reader α) : Prop := ∀ ⦃c c' : Cursor⦄ ⦃a : α⦄, r c = (.ok a, c') → c'.left ≤ c.left

variable {r : Reader α} {f : α → Reader β}

theorem Forward.bind (first : Forward r) (next : ∀ a, Forward (f a)) : Forward (r >>= f) := by
  intro c c' b ran
  obtain ⟨a, c₁, one, two⟩ := Action.bind_eq_ok ran
  exact Nat.le_trans (next a two) (first one)

theorem forward_pure (a : α) : Forward (pure a : Reader α) := by
  intro c c' b ran
  cases ran
  exact Nat.le_refl _

theorem forward_get : Forward (get : Reader Cursor) := by
  intro c c' b ran
  cases ran
  exact Nat.le_refl _

theorem forward_modify {g : Cursor → Cursor} (h : ∀ c, (g c).left ≤ c.left) :
    Forward (modify g : Reader PUnit) := by
  intro c c' b ran
  cases ran
  exact h c

theorem forward_throw (e : Error) : Forward (throw e : Reader α) := fun _ _ _ ran => by cases ran

theorem forward_fail (fault : Fault) : Forward (fail fault : Reader α) :=
  forward_get.bind fun _ => forward_throw _

theorem forward_failNext (fault : Fault) : Forward (failNext fault : Reader α) :=
  forward_get.bind fun _ => forward_throw _

theorem forward_ite {p : Prop} [Decidable p] {r₁ r₂ : Reader α} (h₁ : Forward r₁)
    (h₂ : Forward r₂) : Forward (if p then r₁ else r₂) := by
  split
  · exact h₁
  · exact h₂

theorem forward_peek : Forward peek := forward_get.bind fun _ => forward_pure _

theorem forward_eat : Forward eat :=
  forward_modify fun c => c.left_advance ▸ Nat.sub_le _ _

theorem forward_next : Forward next :=
  forward_peek.bind fun _ => forward_eat.bind fun _ => forward_pure _

theorem forward_advanceBy (n : Nat) : Forward (modify (Cursor.advanceBy n) : Reader PUnit) :=
  forward_modify (Cursor.left_advanceBy_le n)

theorem forward_skipWhile (p : UInt8 → Bool) :
    Forward (modify (Cursor.skipWhile p) : Reader PUnit) :=
  forward_modify (Cursor.left_skipWhile_le p)

theorem forward_peekPastBlanks : Forward peekPastBlanks :=
  (forward_skipWhile _).bind fun _ => forward_peek

theorem forward_digits : Forward digits :=
  forward_get.bind fun _ => (forward_advanceBy _).bind fun _ => forward_pure _

/-! ## Words and texts -/

theorem forward_wordTail (bytes : List UInt8) : Forward (wordTail bytes) := by
  induction bytes with
  | nil => exact forward_pure ()
  | cons expected more ih =>
      apply forward_next.bind
      rintro (_ | b)
      · exact forward_fail _
      · exact forward_ite ih (forward_fail _)

theorem forward_word (w : String) : Forward (word w) :=
  forward_eat.bind fun _ => forward_wordTail _

theorem forward_hexEscape : Forward hexEscape := by
  refine forward_get.bind fun c => (forward_advanceBy 4).bind fun _ => ?_
  apply forward_ite (forward_fail _)
  split
  · exact forward_pure _
  · exact forward_fail _

theorem forward_surrogateByte (b : UInt8) : Forward (surrogateByte b) := by
  apply forward_peek.bind
  rintro (_ | found)
  · exact forward_fail _
  · exact forward_eat.bind fun _ => forward_ite (forward_pure _) (forward_fail _)

theorem forward_codePoint : Forward codePoint := by
  refine forward_hexEscape.bind fun n => forward_ite (forward_fail _) ?_
  apply forward_ite (forward_pure _)
  refine (forward_surrogateByte _).bind fun _ => (forward_surrogateByte _).bind fun _ => ?_
  exact forward_hexEscape.bind fun low => forward_ite (forward_fail _) (forward_pure _)

theorem forward_escape : Forward escape := by
  apply forward_next.bind
  rintro (_ | b)
  · exact forward_fail _
  · apply forward_ite
    · exact forward_codePoint.bind fun _ => forward_pure _
    · split
      · exact forward_pure _
      · exact forward_fail _

theorem forward_literalPieces (fuel : Nat) (acc : List Bytes) :
    Forward (literalPieces fuel acc) := by
  induction fuel generalizing acc with
  | zero => exact forward_fail _
  | succ fuel ih =>
      refine forward_get.bind fun _ => (forward_advanceBy _).bind fun _ => forward_next.bind ?_
      rintro (_ | b)
      · exact forward_fail _
      · apply forward_ite (forward_pure _)
        exact forward_ite (forward_escape.bind fun _ => ih _) (forward_fail _)

theorem forward_literal : Forward literal := by
  refine forward_get.bind fun _ => (forward_literalPieces _ _).bind fun bytes => ?_
  split
  · exact forward_pure _
  · exact forward_get.bind fun _ => forward_throw _

theorem forward_key : Forward key := forward_eat.bind fun _ => forward_literal

theorem forward_colon : Forward colon := by
  apply forward_peekPastBlanks.bind
  rintro (_ | b)
  · exact forward_failNext _
  · exact forward_ite forward_eat (forward_failNext _)

/-! ## Numerals -/

theorem forward_assemble (neg : Bool) (word : Nat) (e : Int) : Forward (assemble neg word e) := by
  unfold assemble
  split
  · exact forward_pure _
  · exact forward_fail _

theorem forward_atExponent : Forward atExponent := by
  apply forward_peek.bind
  rintro (_ | b)
  · exact forward_pure _
  · exact forward_pure _

/-- What follows the sign of an exponent goes forward whatever the sign is, so all of it does. -/
theorem forward_exponentSign {after : Bool → Reader β} (h : ∀ negative, Forward (after negative)) :
    Forward (do
      match ← peek with
      | some 43 =>
        eat
        after (← pure false)
      | some 45 =>
        eat
        after (← pure true)
      | _ => after (← pure false)) := by
  apply forward_peek.bind
  intro b?
  split
  · exact forward_eat.bind fun _ => (forward_pure _).bind h
  · exact forward_eat.bind fun _ => (forward_pure _).bind h
  · exact (forward_pure _).bind h

theorem forward_exponentPart (neg : Bool) (word : Nat) (start : Int) :
    Forward (exponentPart neg word start) := by
  refine forward_eat.bind fun _ => forward_exponentSign fun negative => ?_
  refine forward_get.bind fun before => forward_next.bind ?_
  rintro (_ | b)
  · exact forward_fail _
  · refine forward_ite (forward_fail _) (forward_digits.bind fun more => ?_)
    split
    · exact forward_assemble _ _ _
    · exact forward_ite (forward_throw _) (forward_pure _)

theorem forward_fractionPart (neg : Bool) (word : Nat) (start : Int) :
    Forward (fractionPart neg word start) := by
  refine forward_eat.bind fun _ => forward_digits.bind fun ds => forward_ite ?_ ?_
  · apply forward_peek.bind
    rintro (_ | b)
    · exact forward_failNext _
    · exact forward_failNext _
  · refine forward_atExponent.bind fun _ => forward_ite ?_ ?_
    · exact forward_exponentPart _ _ _
    · exact forward_assemble _ _ _

theorem forward_numeralTail (neg : Bool) (word dropped : Nat) :
    Forward (numeralTail neg word dropped) := by
  apply forward_peek.bind
  intro b?
  split
  · exact (forward_fractionPart _ _ _).bind fun _ => forward_pure _
  · refine forward_atExponent.bind fun _ => forward_ite ?_ (forward_ite (forward_pure _) ?_)
    · exact (forward_exponentPart _ _ _).bind fun _ => forward_pure _
    · exact (forward_assemble _ _ _).bind fun _ => forward_pure _

theorem forward_unsignedNumeral (neg : Bool) : Forward (unsignedNumeral neg) := by
  apply forward_next.bind
  rintro (_ | b)
  · exact forward_fail _
  · apply forward_ite
    · apply forward_peek.bind
      rintro (_ | d)
      · exact forward_numeralTail _ _ _
      · exact forward_ite (forward_failNext _) (forward_numeralTail _ _ _)
    · apply forward_ite
      · exact forward_digits.bind fun _ => forward_numeralTail _ _ _
      · exact forward_fail _

theorem forward_numeral : Forward numeral := by
  apply forward_peek.bind
  intro b?
  split
  · exact forward_eat.bind fun _ => forward_unsignedNumeral _
  · exact forward_unsignedNumeral _

end Reader

end Northbound.Json
