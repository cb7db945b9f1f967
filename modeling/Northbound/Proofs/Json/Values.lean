import Northbound.Proofs.Json.Forward

/-!
# How values are read

What a reader has done when it has read a value, its items or its members: one constructor for each
way to go. The first byte that is not blank tells the ways apart.
-/

namespace Northbound.Json

namespace Cursor

/-- Past the blanks. -/
def pastBlanks (c : Cursor) : Cursor := c.skipWhile Reader.isBlankByte

theorem left_pastBlanks_le (c : Cursor) : c.pastBlanks.left ≤ c.left := c.left_skipWhile_le _

/-- A run that has been passed over is over. -/
theorem skipWhile_skipWhile (p : UInt8 → Bool) (c : Cursor) :
    (c.skipWhile p).skipWhile p = c.skipWhile p := by
  have hnil : (c.skipWhile p).rest.takeWhile p = [] := by
    rw [rest_skipWhile]
    induction c.rest with
    | nil => rfl
    | cons b rest ih => cases hb : p b <;> simp [hb, ih]
  rw [skipWhile, hnil]
  rfl

theorem left_pastComma_le (c : Cursor) : c.pastBlanks.advance.pastBlanks.left ≤ c.left := by
  have hbefore := c.left_pastBlanks_le
  have hafter := c.pastBlanks.advance.left_pastBlanks_le
  rw [left_advance] at *
  omega

theorem pastBlanks_pastBlanks (c : Cursor) : c.pastBlanks.pastBlanks = c.pastBlanks :=
  skipWhile_skipWhile _ c

end Cursor

namespace Reader

variable {α β : Type}

theorem get_bind (f : Cursor → Reader β) (c : Cursor) :
    ((get : Reader Cursor) >>= f) c = f c c := rfl

theorem modify_bind (g : Cursor → Cursor) (f : PUnit → Reader β) (c : Cursor) :
    ((modify g : Reader PUnit) >>= f) c = f ⟨⟩ (g c) := rfl

theorem peek_bind (f : Option UInt8 → Reader β) (c : Cursor) :
    (peek >>= f) c = f c.rest.head? c := rfl

theorem eat_bind (f : PUnit → Reader β) (c : Cursor) : (eat >>= f) c = f ⟨⟩ c.advance := rfl

theorem eat_apply (c : Cursor) : eat c = (.ok ⟨⟩, c.advance) := rfl

theorem next_bind (f : Option UInt8 → Reader β) (c : Cursor) :
    (next >>= f) c = f c.rest.head? c.advance := rfl

theorem bound_bind (f : Nat → Reader β) (c : Cursor) : (bound >>= f) c = f (c.left + 1) c := rfl

theorem peekPastBlanks_bind (f : Option UInt8 → Reader β) (c : Cursor) :
    (peekPastBlanks >>= f) c = f c.pastBlanks.rest.head? c.pastBlanks := rfl

/-- Blanks need not be passed over twice. -/
theorem peekPastBlanks_bind_pastBlanks (f : Option UInt8 → Reader β) (c : Cursor) :
    (peekPastBlanks >>= f) c.pastBlanks = (peekPastBlanks >>= f) c := by
  rw [peekPastBlanks_bind, peekPastBlanks_bind, c.pastBlanks_pastBlanks]

/-- Whether a list goes on, and where its next item or its end is. -/
inductive ItemAhead : Bool → Cursor → Bool → Cursor → Prop
  | close {first c} (bracket : c.pastBlanks.rest.head? = some 93) :
      ItemAhead first c false c.pastBlanks
  | opening {c b} (byte : c.pastBlanks.rest.head? = some b) (other : b ≠ 93) :
      ItemAhead true c true c.pastBlanks
  | comma {c b} (comma : c.pastBlanks.rest.head? = some 44)
      (byte : c.pastBlanks.advance.pastBlanks.rest.head? = some b) (other : b ≠ 93) :
      ItemAhead false c true c.pastBlanks.advance.pastBlanks

/-- Whether an object goes on, and where its next member or its end is. -/
inductive MemberAhead : Bool → Cursor → Bool → Cursor → Prop
  | close {first c} (brace : c.pastBlanks.rest.head? = some 125) :
      MemberAhead first c false c.pastBlanks
  | opening {c} (quote : c.pastBlanks.rest.head? = some 34) :
      MemberAhead true c true c.pastBlanks
  | comma {c} (comma : c.pastBlanks.rest.head? = some 44)
      (quote : c.pastBlanks.advance.pastBlanks.rest.head? = some 34) :
      MemberAhead false c true c.pastBlanks.advance.pastBlanks

theorem ItemAhead.left_le {first more : Bool} {c c' : Cursor} (h : ItemAhead first c more c') :
    c'.left ≤ c.left := by
  cases h with
  | close => exact c.left_pastBlanks_le
  | opening => exact c.left_pastBlanks_le
  | comma => exact c.left_pastComma_le

theorem MemberAhead.left_le {first more : Bool} {c c' : Cursor}
    (h : MemberAhead first c more c') : c'.left ≤ c.left := by
  cases h with
  | close => exact c.left_pastBlanks_le
  | opening => exact c.left_pastBlanks_le
  | comma => exact c.left_pastComma_le

/-- What comes next is determined. -/
theorem ItemAhead.unique {first more more' : Bool} {c c₁ c₂ : Cursor}
    (h : ItemAhead first c more c₁) (h' : ItemAhead first c more' c₂) : more = more' ∧ c₁ = c₂ := by
  cases h with
  | close bracket =>
      cases h' with
      | close => exact ⟨rfl, rfl⟩
      | opening byte other => exact absurd (Option.some.inj (byte.symm.trans bracket)) other
      | comma comma => cases bracket.symm.trans comma
  | opening byte other =>
      cases h' with
      | close bracket => exact absurd (Option.some.inj (byte.symm.trans bracket)) other
      | opening => exact ⟨rfl, rfl⟩
  | comma comma =>
      cases h' with
      | close bracket => cases bracket.symm.trans comma
      | comma => exact ⟨rfl, rfl⟩

theorem MemberAhead.unique {first more more' : Bool} {c c₁ c₂ : Cursor}
    (h : MemberAhead first c more c₁) (h' : MemberAhead first c more' c₂) :
    more = more' ∧ c₁ = c₂ := by
  cases h with
  | close brace =>
      cases h' with
      | close => exact ⟨rfl, rfl⟩
      | opening quote => cases brace.symm.trans quote
      | comma comma => cases brace.symm.trans comma
  | opening quote =>
      cases h' with
      | close brace => cases brace.symm.trans quote
      | opening => exact ⟨rfl, rfl⟩
  | comma comma =>
      cases h' with
      | close brace => cases brace.symm.trans comma
      | comma => exact ⟨rfl, rfl⟩

theorem itemAhead_of_hasItem {first more : Bool} {c c' : Cursor}
    (h : hasItem first c = (.ok more, c')) : ItemAhead first c more c' := by
  rw [hasItem, peekPastBlanks_bind] at h
  cases hbyte : c.pastBlanks.rest.head? with
  | none =>
      rw [hbyte] at h
      cases h
  | some b =>
      simp only [hbyte, beq_iff_eq] at h
      split at h
      next hclose =>
        subst hclose
        cases h
        exact .close hbyte
      next hother =>
        split at h
        next hfirst =>
          subst hfirst
          cases h
          exact .opening hbyte hother
        next hfirst =>
          rw [Bool.not_eq_true] at hfirst
          subst hfirst
          split at h
          next hcomma =>
            subst hcomma
            rw [eat_bind, peekPastBlanks_bind] at h
            cases hnext : c.pastBlanks.advance.pastBlanks.rest.head? with
            | none =>
                rw [hnext] at h
                cases h
            | some d =>
                simp only [hnext] at h
                split at h
                next => cases h
                next hd =>
                  cases h
                  exact .comma hbyte hnext hd
          next => cases h

theorem memberAhead_of_hasMember {first more : Bool} {c c' : Cursor}
    (h : hasMember first c = (.ok more, c')) : MemberAhead first c more c' := by
  rw [hasMember, peekPastBlanks_bind] at h
  cases hbyte : c.pastBlanks.rest.head? with
  | none =>
      rw [hbyte] at h
      cases h
  | some b =>
      simp only [hbyte, beq_iff_eq] at h
      split at h
      next hclose =>
        subst hclose
        cases h
        exact .close hbyte
      next =>
        split at h
        next hfirst =>
          subst hfirst
          split at h
          next hquote =>
            subst hquote
            cases h
            exact .opening hbyte
          next => cases h
        next hfirst =>
          rw [Bool.not_eq_true] at hfirst
          subst hfirst
          split at h
          next hcomma =>
            subst hcomma
            rw [eat_bind, peekPastBlanks_bind] at h
            cases hnext : c.pastBlanks.advance.pastBlanks.rest.head? with
            | none =>
                rw [hnext] at h
                cases h
            | some d =>
                simp only [hnext] at h
                split at h
                next hquote =>
                  subst hquote
                  cases h
                  exact .comma hbyte hnext
                next =>
                  split at h
                  · cases h
                  · cases h
          next => cases h

/-- The items that a reader has read, up to the closing bracket, which is next. -/
inductive ItemsRead (item : Reader α) : Bool → Cursor → List α → Cursor → Prop
  | close {first c c'} (ahead : ItemAhead first c false c') : ItemsRead item first c [] c'
  | item {first c c₁ a c₂ as c'} (ahead : ItemAhead first c true c₁) (read : item c₁ = (.ok a, c₂))
      (rest : ItemsRead item false c₂ as c') : ItemsRead item first c (a :: as) c'

/-- The members that a reader has read, up to the closing brace, which is next. -/
inductive MembersRead (item : Reader α) : Bool → Cursor → List (String × α) → Cursor → Prop
  | close {first c c'} (ahead : MemberAhead first c false c') : MembersRead item first c [] c'
  | member {first c c₁ k c₂ c₃ a c₄ ms c'} (ahead : MemberAhead first c true c₁)
      (key : key c₁ = (.ok k, c₂)) (colon : colon c₂ = (.ok ⟨⟩, c₃))
      (read : item c₃ = (.ok a, c₄)) (rest : MembersRead item false c₄ ms c') :
      MembersRead item first c ((k, a) :: ms) c'

variable {item : Reader α}

theorem itemsRead_of_items {fuel : Nat} {first : Bool} {c c' : Cursor} {as : List α}
    (h : items item fuel first c = (.ok as, c')) : ItemsRead item first c as c' := by
  induction fuel generalizing first c as with
  | zero => cases h
  | succ fuel ih =>
      obtain ⟨more, c₁, hmore, h⟩ := Action.bind_eq_ok h
      have ahead := itemAhead_of_hasItem hmore
      cases more with
      | false =>
          cases h
          exact .close ahead
      | true =>
          obtain ⟨a, c₂, hread, h⟩ := Action.bind_eq_ok h
          obtain ⟨rest, c₃, hrest, h⟩ := Action.bind_eq_ok h
          cases h
          exact .item ahead hread (ih hrest)

theorem membersRead_of_members {fuel : Nat} {first : Bool} {c c' : Cursor}
    {ms : List (String × α)} (h : members item fuel first c = (.ok ms, c')) :
    MembersRead item first c ms c' := by
  induction fuel generalizing first c ms with
  | zero => cases h
  | succ fuel ih =>
      obtain ⟨more, c₁, hmore, h⟩ := Action.bind_eq_ok h
      have ahead := memberAhead_of_hasMember hmore
      cases more with
      | false =>
          cases h
          exact .close ahead
      | true =>
          obtain ⟨k, c₂, hkey, h⟩ := Action.bind_eq_ok h
          obtain ⟨⟨⟩, c₃, hcolon, h⟩ := Action.bind_eq_ok h
          obtain ⟨a, c₄, hread, h⟩ := Action.bind_eq_ok h
          obtain ⟨rest, c₅, hrest, h⟩ := Action.bind_eq_ok h
          cases h
          exact .member ahead hkey hcolon hread (ih hrest)

theorem ItemsRead.bracket {first : Bool} {c c' : Cursor} {as : List α}
    (h : ItemsRead item first c as c') : c'.rest.head? = some 93 := by
  induction h with
  | close ahead =>
      cases ahead with
      | close bracket => exact bracket
  | item _ _ _ ih => exact ih

theorem MembersRead.brace {first : Bool} {c c' : Cursor} {ms : List (String × α)}
    (h : MembersRead item first c ms c') : c'.rest.head? = some 125 := by
  induction h with
  | close ahead =>
      cases ahead with
      | close brace => exact brace
  | member _ _ _ _ _ ih => exact ih

/-- A reader reads the same items each time. -/
theorem ItemsRead.unique {first : Bool} {c c' : Cursor} {as : List α}
    (h : ItemsRead item first c as c') :
    ∀ {bs c''}, ItemsRead item first c bs c'' → as = bs ∧ c' = c'' := by
  induction h with
  | close ahead =>
      intro bs c'' h'
      cases h' with
      | close ahead' => exact ⟨rfl, (ahead.unique ahead').2⟩
      | item ahead' => cases (ahead.unique ahead').1
  | item ahead read _ ih =>
      intro bs c'' h'
      cases h' with
      | close ahead' => cases (ahead.unique ahead').1
      | item ahead' read' rest' =>
          obtain rfl := (ahead.unique ahead').2
          cases read.symm.trans read'
          obtain ⟨rfl, rfl⟩ := ih rest'
          exact ⟨rfl, rfl⟩

theorem MembersRead.unique {first : Bool} {c c' : Cursor} {ms : List (String × α)}
    (h : MembersRead item first c ms c') :
    ∀ {ns c''}, MembersRead item first c ns c'' → ms = ns ∧ c' = c'' := by
  induction h with
  | close ahead =>
      intro ns c'' h'
      cases h' with
      | close ahead' => exact ⟨rfl, (ahead.unique ahead').2⟩
      | member ahead' => cases (ahead.unique ahead').1
  | member ahead key colon read _ ih =>
      intro ns c'' h'
      cases h' with
      | close ahead' => cases (ahead.unique ahead').1
      | member ahead' key' colon' read' rest' =>
          obtain rfl := (ahead.unique ahead').2
          cases key.symm.trans key'
          cases colon.symm.trans colon'
          cases read.symm.trans read'
          obtain ⟨rfl, rfl⟩ := ih rest'
          exact ⟨rfl, rfl⟩

theorem ItemsRead.left_le (forward : Forward item) {first : Bool} {c c' : Cursor} {as : List α}
    (h : ItemsRead item first c as c') : c'.left ≤ c.left := by
  induction h with
  | close ahead => exact ahead.left_le
  | item ahead read _ ih =>
      calc _ ≤ _ := ih
        _ ≤ _ := forward read
        _ ≤ _ := ahead.left_le

theorem MembersRead.left_le (forward : Forward item) {first : Bool} {c c' : Cursor}
    {ms : List (String × α)} (h : MembersRead item first c ms c') : c'.left ≤ c.left := by
  induction h with
  | close ahead => exact ahead.left_le
  | member ahead key colon read _ ih =>
      calc _ ≤ _ := ih
        _ ≤ _ := forward read
        _ ≤ _ := forward_colon colon
        _ ≤ _ := forward_key key
        _ ≤ _ := ahead.left_le

/-- A value that a reader has read with a number of brackets at most. -/
inductive ValueRead : Nat → Cursor → Json → Cursor → Prop
  | null {depth c c'} (byte : c.pastBlanks.rest.head? = some 110)
      (read : word "null" c.pastBlanks = (.ok ⟨⟩, c')) : ValueRead depth c .null c'
  | true {depth c c'} (byte : c.pastBlanks.rest.head? = some 116)
      (read : word "true" c.pastBlanks = (.ok ⟨⟩, c')) : ValueRead depth c (.bool true) c'
  | false {depth c c'} (byte : c.pastBlanks.rest.head? = some 102)
      (read : word "false" c.pastBlanks = (.ok ⟨⟩, c')) : ValueRead depth c (.bool false) c'
  | numeral {depth c b v c'} (byte : c.pastBlanks.rest.head? = some b)
      (start : (b == 45 || isDigitByte b) = Bool.true)
      (read : Reader.numeral c.pastBlanks = (.ok v, c')) : ValueRead depth c v c'
  | text {depth c s c'} (quote : c.pastBlanks.rest.head? = some 34)
      (read : key c.pastBlanks = (.ok s, c')) : ValueRead depth c (.text s) c'
  | list {depth c vs c'} (bracket : c.pastBlanks.rest.head? = some 91)
      (read : items (value depth) (c.pastBlanks.advance.left + 1) Bool.true c.pastBlanks.advance =
        (.ok vs, c')) : ValueRead (depth + 1) c (.list vs) c'.advance
  | object {depth c ms c'} (brace : c.pastBlanks.rest.head? = some 123)
      (read : members (value depth) (c.pastBlanks.advance.left + 1) Bool.true c.pastBlanks.advance =
        (.ok ms, c')) : ValueRead (depth + 1) c (ofMembers ms) c'.advance

theorem valueRead_of_value {depth : Nat} {c c' : Cursor} {v : Json}
    (h : value depth c = (.ok v, c')) : ValueRead depth c v c' := by
  unfold value at h
  rw [peekPastBlanks_bind] at h
  cases hbyte : c.pastBlanks.rest.head? with
  | none =>
      rw [hbyte] at h
      cases h
  | some b =>
      simp only [hbyte] at h
      split at h
      next hb =>
        obtain rfl := eq_of_beq hb
        obtain ⟨⟨⟩, c₁, hword, h⟩ := Action.bind_eq_ok h
        cases h
        exact .null hbyte hword
      next =>
      split at h
      next hb =>
        obtain rfl := eq_of_beq hb
        obtain ⟨⟨⟩, c₁, hword, h⟩ := Action.bind_eq_ok h
        cases h
        exact .true hbyte hword
      next =>
      split at h
      next hb =>
        obtain rfl := eq_of_beq hb
        obtain ⟨⟨⟩, c₁, hword, h⟩ := Action.bind_eq_ok h
        cases h
        exact .false hbyte hword
      next =>
      split at h
      next hb => exact .numeral hbyte hb h
      next =>
      split at h
      next hb =>
        obtain rfl := eq_of_beq hb
        obtain ⟨s, c₁, hkey, h⟩ := Action.bind_eq_ok h
        cases h
        exact .text hbyte hkey
      next =>
      split at h
      next hb =>
        obtain rfl := eq_of_beq hb
        cases depth with
        | zero => cases h
        | succ depth =>
            dsimp only at h
            rw [eat_bind, bound_bind] at h
            obtain ⟨vs, c₁, hitems, h⟩ := Action.bind_eq_ok h
            cases h
            exact .list hbyte hitems
      next =>
      split at h
      next hb =>
        obtain rfl := eq_of_beq hb
        cases depth with
        | zero => cases h
        | succ depth =>
            dsimp only at h
            rw [eat_bind, bound_bind] at h
            obtain ⟨ms, c₁, hmembers, h⟩ := Action.bind_eq_ok h
            cases h
            exact .object hbyte hmembers
      next => cases h

theorem forward_value (depth : Nat) : Forward (value depth) := by
  induction depth using Nat.strongRecOn with
  | ind depth inner =>
      intro c c' v h
      have hblanks := c.left_pastBlanks_le
      have hadvance := c.pastBlanks.left_advance
      cases valueRead_of_value h with
      | null byte read => exact Nat.le_trans (forward_word _ read) hblanks
      | true byte read => exact Nat.le_trans (forward_word _ read) hblanks
      | false byte read => exact Nat.le_trans (forward_word _ read) hblanks
      | numeral byte start read => exact Nat.le_trans (forward_numeral read) hblanks
      | text quote read => exact Nat.le_trans (forward_key read) hblanks
      | @list depth _ _ c₁ bracket read =>
          have := (itemsRead_of_items read).left_le (inner depth (Nat.lt_succ_self depth))
          rw [Cursor.left_advance]
          omega
      | @object depth _ _ c₁ brace read =>
          have := (membersRead_of_members read).left_le (inner depth (Nat.lt_succ_self depth))
          rw [Cursor.left_advance]
          omega

end Reader

end Northbound.Json
