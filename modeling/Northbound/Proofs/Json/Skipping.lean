import Northbound.Proofs.Json.Values

/-!
# What can be read can be passed over

A value that nobody asks for is passed over without being read. Passing over is the more lenient of
the two: where a value can be read, it can be passed over, and ends at the same place. Fuel for as
many rounds as the value has bytes will do.
-/

namespace Northbound.Json

theorem Cursor.skipWhile_of_head {p : UInt8 → Bool} {c : Cursor} {b : UInt8}
    (byte : c.rest.head? = some b) (stop : p b = false) : c.skipWhile p = c := by
  obtain ⟨rest, hrest⟩ := List.head?_eq_some_iff.mp byte
  rw [skipWhile, hrest, List.takeWhile_cons_of_neg (by simp [stop])]
  rfl

namespace Reader

variable {α : Type}

/-! ## Texts -/

theorem skipLiteral_quote {c : Cursor} (fuel : Nat)
    (quote : (c.skipWhile isPlainByte).rest.head? = some 34) :
    skipLiteral (fuel + 1) c = (.ok ⟨⟩, (c.skipWhile isPlainByte).advance) := by
  rw [skipLiteral, modify_bind, peek_bind, quote]
  dsimp only
  rw [if_pos (by decide), eat_apply]

/-- An escape of one letter is passed over. -/
theorem skipLiteral_letter {c : Cursor} {e : UInt8} (fuel : Nat)
    (backslash : (c.skipWhile isPlainByte).rest.head? = some 92)
    (letter : (c.skipWhile isPlainByte).advance.rest.head? = some e) (other : e ≠ 117)
    (known : (simpleEscape? e).isSome = true) :
    skipLiteral (fuel + 1) c = skipLiteral fuel (c.skipWhile isPlainByte).advance.advance := by
  have hknown : ¬(simpleEscape? e).isNone = true := by
    rw [Option.isNone_iff_eq_none]
    exact Option.isSome_iff_ne_none.mp known
  rw [skipLiteral, modify_bind, peek_bind, backslash]
  dsimp only
  rw [if_neg (by decide), if_pos (by decide), eat_bind, next_bind, letter]
  dsimp only
  rw [if_neg (by simpa using other), if_neg hknown]

/-- An escape of four digits is passed over, whatever they denote. -/
theorem skipLiteral_digits {c c' : Cursor} {n : Nat} (fuel : Nat)
    (backslash : (c.skipWhile isPlainByte).rest.head? = some 92)
    (letter : (c.skipWhile isPlainByte).advance.rest.head? = some 117)
    (digits : hexEscape (c.skipWhile isPlainByte).advance.advance = (.ok n, c')) :
    skipLiteral (fuel + 1) c = skipLiteral fuel c' := by
  rw [skipLiteral, modify_bind, peek_bind, backslash]
  dsimp only
  rw [if_neg (by decide), if_pos (by decide), eat_bind, next_bind, letter]
  dsimp only
  rw [if_pos (by decide), Action.bind_of_ok digits]

theorem surrogateByte_eq_ok {b : UInt8} {c c' : Cursor}
    (h : surrogateByte b c = (.ok ⟨⟩, c')) : c.rest.head? = some b ∧ c' = c.advance := by
  rw [surrogateByte, peek_bind] at h
  cases hbyte : c.rest.head? with
  | none =>
      rw [hbyte] at h
      cases h
  | some found =>
      simp only [hbyte, eat_bind] at h
      split at h
      next hfound =>
        cases h
        exact ⟨congrArg some (eq_of_beq hfound), rfl⟩
      next => cases h

/-- A character takes four digits, or a pair of surrogates. -/
theorem codePoint_eq_ok {c c' : Cursor} {ch : Char} (h : codePoint c = (.ok ch, c')) :
    ∃ n c₁, hexEscape c = (.ok n, c₁) ∧ (c' = c₁ ∨ c₁.rest.head? = some 92 ∧
      c₁.advance.rest.head? = some 117 ∧ ∃ low, hexEscape c₁.advance.advance = (.ok low, c')) := by
  obtain ⟨n, c₁, hn, h⟩ := Action.bind_eq_ok h
  refine ⟨n, c₁, hn, ?_⟩
  split at h
  next => cases h
  next =>
    split at h
    next =>
      cases h
      exact Or.inl rfl
    next =>
      obtain ⟨⟨⟩, c₂, first, h⟩ := Action.bind_eq_ok h
      obtain ⟨hbackslash, rfl⟩ := surrogateByte_eq_ok first
      obtain ⟨⟨⟩, c₃, second, h⟩ := Action.bind_eq_ok h
      obtain ⟨hletter, rfl⟩ := surrogateByte_eq_ok second
      obtain ⟨low, c₄, hlow, h⟩ := Action.bind_eq_ok h
      split at h
      next => cases h
      next =>
        obtain ⟨-, rfl⟩ := Action.pure_eq_ok_iff.mp h
        exact Or.inr ⟨hbackslash, hletter, low, hlow⟩

/-- An escape is a known letter, or a character after a `u`. -/
theorem escape_eq_ok {c c' : Cursor} {bytes : Bytes} (h : escape c = (.ok bytes, c')) :
    (∃ e, c.rest.head? = some e ∧ e ≠ 117 ∧ (simpleEscape? e).isSome = true ∧ c' = c.advance) ∨
      c.rest.head? = some 117 ∧ ∃ ch, codePoint c.advance = (.ok ch, c') := by
  rw [escape, next_bind] at h
  cases hbyte : c.rest.head? with
  | none =>
      rw [hbyte] at h
      cases h
  | some e =>
      simp only [hbyte] at h
      split at h
      next he =>
        obtain rfl := eq_of_beq he
        obtain ⟨ch, c₁, hch, h⟩ := Action.bind_eq_ok h
        cases h
        exact Or.inr ⟨rfl, ch, hch⟩
      next he =>
        cases hknown : simpleEscape? e with
        | none =>
            rw [hknown] at h
            cases h
        | some b =>
            rw [hknown] at h
            cases h
            exact Or.inl ⟨e, rfl, by simpa using he, by simp [hknown], rfl⟩

/-- A text is passed over in as many rounds as it has bytes at most. A pair of surrogates takes one
round to read and two rounds to pass over. -/
theorem skipLiteral_of_literalPieces {rounds fuel : Nat} {acc : List Bytes} {c c' : Cursor}
    {bytes : Bytes} (h : literalPieces rounds acc c = (.ok bytes, c'))
    (enough : c.left ≤ c'.left + fuel) : skipLiteral fuel c = (.ok ⟨⟩, c') := by
  induction rounds generalizing acc c fuel with
  | zero => cases h
  | succ rounds ih =>
      have hplain := c.left_skipWhile_le isPlainByte
      have hskip : c.advanceBy (c.rest.takeWhile isPlainByte).length = c.skipWhile isPlainByte :=
        rfl
      rw [literalPieces, get_bind, modify_bind, next_bind, hskip] at h
      cases hbyte : (c.skipWhile isPlainByte).rest.head? with
      | none =>
          rw [hbyte] at h
          cases h
      | some b =>
          simp only [hbyte] at h
          have hadvance := Cursor.left_advance_add_one hbyte
          split at h
          next hb =>
            obtain rfl := eq_of_beq hb
            cases h
            obtain ⟨fuel, rfl⟩ : ∃ n, fuel = n + 1 := ⟨fuel - 1, by omega⟩
            exact skipLiteral_quote fuel hbyte
          next =>
          split at h
          next hb =>
            obtain rfl := eq_of_beq hb
            obtain ⟨e, c₁, hescape, h⟩ := Action.bind_eq_ok h
            have hrest := forward_literalPieces _ _ h
            obtain ⟨fuel, rfl⟩ : ∃ n, fuel = n + 1 := ⟨fuel - 1, by
              have := forward_escape hescape
              omega⟩
            rcases escape_eq_ok hescape with ⟨e, hletter, hother, hknown, rfl⟩ | ⟨hletter, ch, hch⟩
            · have := Cursor.left_advance_add_one hletter
              rw [skipLiteral_letter fuel hbyte hletter hother hknown]
              exact ih h (by omega)
            · have := Cursor.left_advance_add_one hletter
              obtain ⟨n, c₂, hdigits, hcases⟩ := codePoint_eq_ok hch
              have := forward_hexEscape hdigits
              rw [skipLiteral_digits fuel hbyte hletter hdigits]
              rcases hcases with rfl | ⟨hbackslash, hletter, low, hlow⟩
              · exact ih h (by omega)
              · have := Cursor.left_advance_add_one hbackslash
                have := Cursor.left_advance_add_one hletter
                have := forward_hexEscape hlow
                have hstop : c₂.skipWhile isPlainByte = c₂ :=
                  Cursor.skipWhile_of_head hbackslash (by decide)
                obtain ⟨fuel, rfl⟩ : ∃ n, fuel = n + 1 := ⟨fuel - 1, by omega⟩
                rw [skipLiteral_digits fuel (by rw [hstop, hbackslash]) (by rw [hstop, hletter])
                  (by rw [hstop, hlow])]
                exact ih h (by omega)
          next => cases h

/-- A text that can be read can be passed over. -/
theorem skipLiteral_of_key {c c' : Cursor} {k : String} (h : key c = (.ok k, c')) :
    skipLiteral (c.advance.left + 1) c.advance = (.ok ⟨⟩, c') := by
  rw [key, eat_bind, literal, get_bind] at h
  obtain ⟨bytes, c₁, hpieces, h⟩ := Action.bind_eq_ok h
  cases hdecode : utf8Decode? bytes with
  | none =>
      rw [hdecode] at h
      cases h
  | some s =>
      rw [hdecode] at h
      cases h
      apply skipLiteral_of_literalPieces hpieces
      omega

/-! ## Numerals -/

theorem assemble_eq_ok {neg : Bool} {w : Nat} {e : Int} {x : Binary64} {c c' : Cursor}
    (h : assemble neg w e c = (.ok x, c')) : c' = c := by
  rw [assemble] at h
  cases hpower : applyPower 6 (Binary64.ofInt w) e with
  | none =>
      rw [hpower] at h
      cases h
  | some y =>
      rw [hpower] at h
      obtain ⟨-, rfl⟩ := Action.pure_eq_ok_iff.mp h
      rfl

/-- A choice by the sign that may be next. -/
theorem match_sign {γ : Type} (b? : Option UInt8) (plus minus none : γ) :
    (match b? with
      | some 43 => plus
      | some 45 => minus
      | _ => none) = if b? = some 43 then plus else if b? = some 45 then minus else none := by
  split
  next => rfl
  next => rfl
  next hplus hminus => rw [if_neg hplus, if_neg hminus]

/-- Past the sign of an exponent, if there is one. -/
def pastSign (c : Cursor) : Cursor :=
  if c.rest.head? = some 43 then c.advance else if c.rest.head? = some 45 then c.advance else c

/-- The sign of an exponent is read, and what follows goes by it. -/
theorem exponentSign_apply {after : Bool → Reader α} (c : Cursor) :
    ∃ negative, (do
      match ← peek with
      | some 43 =>
        eat
        after (← pure false)
      | some 45 =>
        eat
        after (← pure true)
      | _ => after (← pure false)) c = after negative (pastSign c) := by
  rw [peek_bind, match_sign, pastSign]
  split
  · exact ⟨false, rfl⟩
  · split
    · exact ⟨true, rfl⟩
    · exact ⟨false, rfl⟩

theorem skipSign_apply (after : Reader α) (c : Cursor) :
    (do
      match ← peek with
      | some 43 =>
        eat
        after
      | some 45 =>
        eat
        after
      | _ => after) c = after (pastSign c) := by
  rw [peek_bind, match_sign, pastSign]
  split
  · rfl
  · split
    · rfl
    · rfl

/-- An exponent part is a letter, a sign if need be, and digits. -/
theorem exponentPart_eq_ok {neg : Bool} {w : Nat} {start : Int} {x : Binary64} {c c' : Cursor}
    (h : exponentPart neg w start c = (.ok x, c')) :
    ∃ b ds, (pastSign c.advance).rest.head? = some b ∧ isDigitByte b = true ∧
      digits (pastSign c.advance).advance = (.ok ds, c') := by
  rw [exponentPart, eat_bind] at h
  obtain ⟨negative, hsign⟩ := exponentSign_apply c.advance
  replace h := hsign.symm.trans h
  rw [get_bind, next_bind] at h
  cases hbyte : (pastSign c.advance).rest.head? with
  | none =>
      rw [hbyte] at h
      cases h
  | some b =>
      rw [hbyte] at h
      dsimp only at h
      split at h
      next => cases h
      next hdigit =>
        obtain ⟨ds, c₁, hds, h⟩ := Action.bind_eq_ok h
        refine ⟨b, ds, rfl, by simpa using hdigit, ?_⟩
        rcases hvalue : exponentValue 0 0 ((b.toNat - 48) :: ds) with ⟨_ | e, n⟩
        · rw [hvalue] at h
          dsimp only at h
          split at h
          next => cases h
          next =>
            obtain ⟨-, rfl⟩ := Action.pure_eq_ok_iff.mp h
            exact hds
        · rw [hvalue] at h
          rw [assemble_eq_ok h]
          exact hds

theorem skipExponent_of_exponentPart {neg : Bool} {w : Nat} {start : Int} {x : Binary64}
    {c c' : Cursor} (h : exponentPart neg w start c = (.ok x, c')) :
    skipExponent c = (.ok ⟨⟩, c') := by
  obtain ⟨b, ds, hbyte, hdigit, hdigits⟩ := exponentPart_eq_ok h
  rw [skipExponent, eat_bind]
  apply (skipSign_apply _ _).trans
  rw [next_bind, hbyte]
  dsimp only
  rw [if_pos hdigit, Action.bind_of_ok hdigits]
  rfl

/-- What follows the digits before the point, passed over. -/
def skipNumeralTail : Reader Unit := do
  match ← peek with
  | some 46 =>
    eat
    let ds ← digits
    if ds.isEmpty then failNext .badNumber
    else if ← atExponent then skipExponent
  | _ => if ← atExponent then skipExponent

theorem atExponent_apply (c : Cursor) : ∃ at?, atExponent c = (.ok at?, c) := by
  rw [atExponent, peek_bind]
  cases c.rest.head? with
  | none => exact ⟨false, rfl⟩
  | some b => exact ⟨_, rfl⟩

/-- A fraction part is a point, digits, and an exponent part if need be. -/
theorem fractionPart_eq_ok {neg : Bool} {w : Nat} {start : Int} {x : Binary64} {c c' : Cursor}
    (h : fractionPart neg w start c = (.ok x, c')) :
    ∃ ds c₁ at?, digits c.advance = (.ok ds, c₁) ∧ ds.isEmpty = false ∧
      atExponent c₁ = (.ok at?, c₁) ∧
      (at? = false ∧ c' = c₁ ∨ at? = true ∧ skipExponent c₁ = (.ok ⟨⟩, c')) := by
  rw [fractionPart, eat_bind] at h
  obtain ⟨ds, c₁, hds, h⟩ := Action.bind_eq_ok h
  split at h
  next =>
    rw [peek_bind] at h
    cases hbyte : c₁.rest.head? with
    | none =>
        rw [hbyte] at h
        cases h
    | some b =>
        rw [hbyte] at h
        cases h
  next hsome =>
    obtain ⟨at?, hat⟩ := atExponent_apply c₁
    rcases accumulate w ds with ⟨word, taken⟩
    dsimp only at h
    rw [Action.bind_of_ok hat] at h
    refine ⟨ds, c₁, at?, hds, by simpa using hsome, hat, ?_⟩
    cases at? with
    | false => exact Or.inl ⟨rfl, assemble_eq_ok h⟩
    | true => exact Or.inr ⟨rfl, skipExponent_of_exponentPart h⟩

/-- A choice by the point that may be next. -/
theorem match_point {γ : Type} (b? : Option UInt8) (point none : γ) :
    (match b? with
      | some 46 => point
      | _ => none) = if b? = some 46 then point else none := by
  split
  next => rfl
  next hpoint => rw [if_neg hpoint]

theorem skipNumeralTail_of_numeralTail {neg : Bool} {w dropped : Nat} {v : Json} {c c' : Cursor}
    (h : numeralTail neg w dropped c = (.ok v, c')) : skipNumeralTail c = (.ok ⟨⟩, c') := by
  rw [numeralTail, peek_bind] at h
  replace h := (congrFun (match_point _ _ _) c).symm.trans h
  rw [skipNumeralTail, peek_bind]
  refine (congrFun (match_point _ _ _) c).trans ?_
  split at h
  next hpoint =>
    rw [if_pos hpoint]
    obtain ⟨x, c₁, hfraction, h⟩ := Action.bind_eq_ok h
    obtain ⟨-, rfl⟩ := Action.pure_eq_ok_iff.mp h
    obtain ⟨ds, c₂, at?, hds, hsome, hat, hcases⟩ := fractionPart_eq_ok hfraction
    rw [eat_bind, Action.bind_of_ok hds, hsome, if_neg (by decide), Action.bind_of_ok hat]
    rcases hcases with ⟨rfl, rfl⟩ | ⟨rfl, hskip⟩
    · rfl
    · exact hskip
  next hpoint =>
    rw [if_neg hpoint]
    obtain ⟨at?, hat⟩ := atExponent_apply c
    rw [Action.bind_of_ok hat] at h ⊢
    cases at? with
    | true =>
        obtain ⟨x, c₁, hexponent, h⟩ := Action.bind_eq_ok h
        obtain ⟨-, rfl⟩ := Action.pure_eq_ok_iff.mp h
        exact skipExponent_of_exponentPart hexponent
    | false =>
        rw [if_neg (by decide)] at h ⊢
        split at h
        next =>
          obtain ⟨-, rfl⟩ := Action.pure_eq_ok_iff.mp h
          rfl
        next =>
          obtain ⟨x, c₁, hassemble, h⟩ := Action.bind_eq_ok h
          obtain ⟨-, rfl⟩ := Action.pure_eq_ok_iff.mp h
          rw [assemble_eq_ok hassemble]
          rfl

/-- The digits before the point of a numeral, passed over. -/
def skipUnsigned : Reader Unit := do
  match ← next with
  | none => fail .badNumber
  | some b =>
    if b == 48 then
      match ← peek with
      | some d => if isDigitByte d then failNext .badNumber
      | none => pure ()
    else if isDigitByte b then let _ ← digits
    else fail .badNumber
  skipNumeralTail

theorem skipNumeral_eq : skipNumeral = (do
    if (← peek) == some 45 then eat
    skipUnsigned) := rfl

theorem skipUnsigned_of_unsignedNumeral {neg : Bool} {v : Json} {c c' : Cursor}
    (h : unsignedNumeral neg c = (.ok v, c')) : skipUnsigned c = (.ok ⟨⟩, c') := by
  rw [unsignedNumeral, next_bind] at h
  rw [skipUnsigned, next_bind]
  cases hbyte : c.rest.head? with
  | none =>
      rw [hbyte] at h
      cases h
  | some b =>
      rw [hbyte] at h
      dsimp only at h ⊢
      split at h
      next hzero =>
        rw [if_pos hzero, peek_bind]
        rw [peek_bind] at h
        cases hnext : c.advance.rest.head? with
        | none =>
            rw [hnext] at h
            exact skipNumeralTail_of_numeralTail h
        | some d =>
            rw [hnext] at h
            dsimp only at h ⊢
            split at h
            next => cases h
            next hdigit =>
              rw [if_neg hdigit]
              exact skipNumeralTail_of_numeralTail h
      next hzero =>
        rw [if_neg hzero]
        split at h
        next hdigit =>
          obtain ⟨ds, c₁, hds, h⟩ := Action.bind_eq_ok h
          rw [if_pos hdigit, Action.bind_of_ok hds]
          rcases accumulate 0 ((b.toNat - 48) :: ds) with ⟨word, taken⟩
          exact skipNumeralTail_of_numeralTail h
        next => cases h

/-- A choice by the minus that may be next. -/
theorem match_minus {γ : Type} (b? : Option UInt8) (minus none : γ) :
    (match b? with
      | some 45 => minus
      | _ => none) = if b? = some 45 then minus else none := by
  split
  next => rfl
  next hminus => rw [if_neg hminus]

theorem skipNumeral_of_numeral {v : Json} {c c' : Cursor} (h : numeral c = (.ok v, c')) :
    skipNumeral c = (.ok ⟨⟩, c') := by
  rw [numeral, peek_bind] at h
  replace h := (congrFun (match_minus _ _ _) c).symm.trans h
  rw [skipNumeral_eq, peek_bind]
  split at h
  next hminus =>
    rw [if_pos (by simp [hminus])]
    exact skipUnsigned_of_unsignedNumeral h
  next hminus =>
    rw [if_neg (by simp [hminus])]
    exact skipUnsigned_of_unsignedNumeral h

/-! ## Values -/

/-- Whatever a reader reads can be passed over as a value, with more fuel than bytes. -/
def Skips (item : Reader α) : Prop := ∀ ⦃c c' : Cursor⦄ ⦃a : α⦄ ⦃fuel : Nat⦄,
  item c = (.ok a, c') → c.left < c'.left + fuel → skipValue fuel c = (.ok ⟨⟩, c')

variable {item : Reader α}

/-- Blanks in front of a value are passed over with it. -/
theorem skipValue_of_pastBlanks {fuel : Nat} {c c' : Cursor}
    (h : skipValue fuel c.pastBlanks = (.ok ⟨⟩, c')) : skipValue fuel c = (.ok ⟨⟩, c') := by
  cases fuel with
  | zero =>
      rw [skipValue] at h
      cases h
  | succ fuel =>
      rw [skipValue] at h ⊢
      rwa [peekPastBlanks_bind_pastBlanks] at h

/-- What follows an item that was passed over: the closing bracket, or a comma and more items. -/
def skipMoreItems (fuel : Nat) : Reader Unit := do
  match ← peekPastBlanks with
  | none => failNext .endInList
  | some c =>
    if c == 44 then eat; skipItems fuel
    else if c == 93 then eat
    else failNext .missingListComma

theorem skipItems_succ (fuel : Nat) :
    skipItems (fuel + 1) = skipValue fuel >>= fun _ => skipMoreItems fuel := by
  rw [skipItems]
  rfl

/-- Items can be passed over. Between two of them there is a comma, which makes up for the round
that the second one takes. -/
theorem skipMoreItems_of_itemsRead (skips : Skips item) (forward : Forward item) {fuel : Nat}
    {c c' : Cursor} {as : List α} (h : ItemsRead item false c as c')
    (enough : c.left < c'.left + fuel) : skipMoreItems fuel c = (.ok ⟨⟩, c'.advance) := by
  generalize hfirst : false = first at h
  induction h generalizing fuel with
  | close ahead =>
      cases ahead with
      | close bracket =>
          rw [skipMoreItems, peekPastBlanks_bind, bracket]
          rfl
  | @item first c c₁ a c₂ as c' ahead read rest ih =>
      subst hfirst
      cases ahead with
      | comma comma byte other =>
          have hblanks := c.left_pastBlanks_le
          have hcomma := Cursor.left_advance_add_one comma
          have hmore := c.pastBlanks.advance.left_pastBlanks_le
          have hitem := forward read
          have hrest := rest.left_le forward
          obtain ⟨fuel, rfl⟩ : ∃ n, fuel = n + 1 := ⟨fuel - 1, by omega⟩
          have hskip := skipValue_of_pastBlanks (@skips _ _ _ fuel read (by omega))
          rw [skipMoreItems, peekPastBlanks_bind, comma]
          dsimp only
          rw [if_pos (by decide), eat_bind, skipItems_succ, Action.bind_of_ok hskip]
          exact ih (by omega) rfl

/-- A list is passed over once its bracket is. -/
theorem skipItems_of_itemsRead (skips : Skips item) (forward : Forward item) {fuel : Nat}
    {c c' : Cursor} {as : List α} (h : ItemsRead item true c as c')
    (enough : c.left + 1 < c'.left + fuel) :
    (do
      match ← peekPastBlanks with
      | none => failNext .endInList
      | some b => if b == 93 then eat else skipItems fuel) c = (.ok ⟨⟩, c'.advance) := by
  rw [peekPastBlanks_bind]
  cases h with
  | close ahead =>
      cases ahead with
      | close bracket =>
          rw [bracket]
          rfl
  | item ahead read rest =>
      cases ahead with
      | opening byte other =>
          have hblanks := c.left_pastBlanks_le
          have hitem := forward read
          have hrest := rest.left_le forward
          obtain ⟨fuel, rfl⟩ : ∃ n, fuel = n + 1 := ⟨fuel - 1, by omega⟩
          rw [byte]
          dsimp only
          rw [if_neg (by simpa using other), skipItems_succ,
            Action.bind_of_ok (skips read (by omega))]
          exact skipMoreItems_of_itemsRead skips forward rest (by omega)

/-- What follows a member that was passed over: the closing brace, or a comma and more members. -/
def skipMoreMembers (fuel : Nat) : Reader Unit := do
  match ← peekPastBlanks with
  | none => failNext .endInObject
  | some c =>
    if c == 44 then eat; skipMembers fuel
    else if c == 125 then eat
    else failNext .missingObjectComma

/-- A member is passed over from its key on. -/
theorem skipMembers_succ {fuel : Nat} {c c₁ c₂ c₃ : Cursor} {k : String}
    (quote : c.pastBlanks.rest.head? = some 34) (key : key c.pastBlanks = (.ok k, c₁))
    (colon : colon c₁ = (.ok ⟨⟩, c₂)) (value : skipValue fuel c₂ = (.ok ⟨⟩, c₃)) :
    skipMembers (fuel + 1) c = skipMoreMembers fuel c₃ := by
  rw [skipMembers, peekPastBlanks_bind, quote]
  dsimp only
  rw [if_pos (by decide), eat_bind, bound_bind, Action.bind_of_ok (skipLiteral_of_key key),
    Action.bind_of_ok colon, Action.bind_of_ok value]
  rfl

/-- Members can be passed over, as items can. -/
theorem skipMoreMembers_of_membersRead (skips : Skips item) (forward : Forward item) {fuel : Nat}
    {c c' : Cursor} {ms : List (String × α)} (h : MembersRead item false c ms c')
    (enough : c.left < c'.left + fuel) : skipMoreMembers fuel c = (.ok ⟨⟩, c'.advance) := by
  generalize hfirst : false = first at h
  induction h generalizing fuel with
  | close ahead =>
      cases ahead with
      | close brace =>
          rw [skipMoreMembers, peekPastBlanks_bind, brace]
          rfl
  | @member first c c₁ k c₂ c₃ a c₄ ms c' ahead key colon read rest ih =>
      subst hfirst
      cases ahead with
      | comma comma quote =>
          have hblanks := c.left_pastBlanks_le
          have hcomma := Cursor.left_advance_add_one comma
          have hmore := c.pastBlanks.advance.left_pastBlanks_le
          have hkey := forward_key key
          have hcolon := forward_colon colon
          have hitem := forward read
          have hrest := rest.left_le forward
          obtain ⟨fuel, rfl⟩ : ∃ n, fuel = n + 1 := ⟨fuel - 1, by omega⟩
          rw [skipMoreMembers, peekPastBlanks_bind, comma]
          dsimp only
          rw [if_pos (by decide), eat_bind,
            skipMembers_succ quote key colon (skips read (by omega))]
          exact ih (by omega) rfl

/-- An object is passed over once its brace is. -/
theorem skipMembers_of_membersRead (skips : Skips item) (forward : Forward item) {fuel : Nat}
    {c c' : Cursor} {ms : List (String × α)} (h : MembersRead item true c ms c')
    (enough : c.left + 1 < c'.left + fuel) :
    (do
      match ← peekPastBlanks with
      | none => failNext .endInObject
      | some b => if b == 125 then eat else skipMembers fuel) c = (.ok ⟨⟩, c'.advance) := by
  rw [peekPastBlanks_bind]
  cases h with
  | close ahead =>
      cases ahead with
      | close brace =>
          rw [brace]
          rfl
  | member ahead key colon read rest =>
      cases ahead with
      | opening quote =>
          have hblanks := c.left_pastBlanks_le
          have hkey := forward_key key
          have hcolon := forward_colon colon
          have hitem := forward read
          have hrest := rest.left_le forward
          obtain ⟨fuel, rfl⟩ : ∃ n, fuel = n + 1 := ⟨fuel - 1, by omega⟩
          rw [quote]
          dsimp only
          rw [if_neg (by decide)]
          rw [← c.pastBlanks_pastBlanks] at quote key
          rw [skipMembers_succ quote key colon (skips read (by omega))]
          exact skipMoreMembers_of_membersRead skips forward rest (by omega)

/-- Whatever can be read as a value can be passed over as one. -/
theorem skips_value (depth : Nat) : Skips (value depth) := by
  induction depth using Nat.strongRecOn with
  | ind depth inner =>
      intro c c' v fuel h enough
      have hblanks := c.left_pastBlanks_le
      have hforward := forward_value depth h
      obtain ⟨fuel, rfl⟩ : ∃ n, fuel = n + 1 := ⟨fuel - 1, by omega⟩
      rw [skipValue, peekPastBlanks_bind]
      cases valueRead_of_value h with
      | null byte read =>
          rw [byte]
          exact read
      | true byte read =>
          rw [byte]
          exact read
      | false byte read =>
          rw [byte]
          exact read
      | @numeral _ _ b _ _ byte start read =>
          have hb : b ≠ 110 ∧ b ≠ 116 ∧ b ≠ 102 := by
            refine ⟨?_, ?_, ?_⟩
            all_goals
              rintro rfl
              exact absurd start (by decide)
          obtain ⟨hn, ht, hf⟩ := hb
          rw [byte]
          dsimp only
          rw [if_neg (by simpa using hn), if_neg (by simpa using ht), if_neg (by simpa using hf),
            if_pos start]
          exact skipNumeral_of_numeral read
      | text quote read =>
          rw [quote]
          exact skipLiteral_of_key read
      | @list depth _ vs c₁ bracket read =>
          have hitems := itemsRead_of_items read
          have hadvance := Cursor.left_advance_add_one bracket
          have hclose := Cursor.left_advance_add_one hitems.bracket
          rw [bracket]
          exact skipItems_of_itemsRead (inner depth (Nat.lt_succ_self depth)) (forward_value depth)
            hitems (by omega)
      | @object depth _ ms c₁ brace read =>
          have hmembers := membersRead_of_members read
          have hadvance := Cursor.left_advance_add_one brace
          have hclose := Cursor.left_advance_add_one hmembers.brace
          rw [brace]
          exact skipMembers_of_membersRead (inner depth (Nat.lt_succ_self depth))
            (forward_value depth) hmembers (by omega)

/-- The fuel that there is for passing over a value will do. -/
theorem skipValue_of_value {depth : Nat} {c c' : Cursor} {v : Json}
    (h : value depth c = (.ok v, c')) : skipValue (c.left + 1) c = (.ok ⟨⟩, c') :=
  skips_value depth h (by omega)

end Reader

end Northbound.Json
