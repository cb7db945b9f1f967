import Northbound.Json.Printer
import Northbound.Proofs.Json.Written
import Northbound.Proofs.Text.Encoding

/-!
# Reading back what was written

A text literal is read as the text that it was written for, and an object as the members that it was
written for if the value of each is read back. A reader that takes some bytes for a value does so
whatever comes behind them, so that parts of a document are read back one after the other.
-/

namespace Northbound.Json

/-- The bytes of characters. -/
def encoded (cs : List Char) : Bytes := cs.flatMap String.utf8EncodeChar

@[simp] theorem encoded_nil : encoded [] = [] := rfl

@[simp] theorem encoded_cons (c : Char) (cs : List Char) :
    encoded (c :: cs) = String.utf8EncodeChar c ++ encoded cs := rfl

@[simp] theorem encoded_append (cs ds : List Char) :
    encoded (cs ++ ds) = encoded cs ++ encoded ds :=
  List.flatMap_append

theorem utf8_render (v : Json) : utf8 v.render = encoded v.chars := utf8_ofList v.chars

/-- A character below 128 is one byte. -/
theorem utf8EncodeChar_of_lt {c : Char} (small : c.toNat < 128) :
    String.utf8EncodeChar c = [UInt8.ofNat c.toNat] := by
  have bytes := utf8_ofList_ascii [c] (by simpa using small)
  rw [utf8_ofList, List.flatMap_singleton] at bytes
  exact bytes

namespace Reader

variable {α : Type}

/-- A reader takes some bytes for a value, whatever comes behind them, and leaves that. -/
def Takes (r : Reader α) (bytes : Bytes) (a : α) : Prop :=
  ∀ ⦃c : Cursor⦄ ⦃rest : Bytes⦄, c.rest = bytes ++ rest → ∃ c', r c = (.ok a, c') ∧ c'.rest = rest

/-! ## Escapes -/

theorem takes_hexEscape {four : Bytes} {n : Nat} (length : four.length = 4)
    (value : hexValues? four = some n) : Takes hexEscape four n := by
  intro c rest ahead
  have taken : c.rest.take 4 = four := by rw [ahead, ← length, List.take_left]
  refine ⟨c.advanceBy 4, ?_, ?_⟩
  · rw [hexEscape, get_bind, modify_bind, taken, if_neg (by omega), value]
    rfl
  · rw [Cursor.rest_advanceBy, ahead, ← length, List.drop_left]

/-- An escape of one letter. -/
theorem takes_escape_letter {b e : UInt8} (other : b ≠ 117) (known : simpleEscape? b = some e) :
    Takes escape [b] [e] := by
  intro c rest ahead
  have next : c.rest.head? = some b := by rw [ahead]; rfl
  refine ⟨c.advance, ?_, ?_⟩
  · rw [escape, next_bind, next]
    dsimp only
    rw [if_neg (by simpa using other), known]
    rfl
  · rw [Cursor.rest_advance, ahead]
    rfl

/-- An escape of four digits, for a character that needs no pair of them. -/
theorem takes_escape_code {four : Bytes} {n : Nat} (length : four.length = 4)
    (value : hexValues? four = some n) (small : n < 0xD800) :
    Takes escape (117 :: four) (String.utf8EncodeChar (Char.ofNat n)) := by
  intro c rest ahead
  have next : c.rest.head? = some 117 := by rw [ahead]; rfl
  have behind : c.advance.rest = four ++ rest := by rw [Cursor.rest_advance, ahead]; rfl
  obtain ⟨c', read, left⟩ := takes_hexEscape length value behind
  have code : codePoint c.advance = (.ok (Char.ofNat n), c') := by
    rw [codePoint, Action.bind_of_ok read, if_neg (by omega), if_pos (Or.inl small)]
    rfl
  refine ⟨c', ?_, left⟩
  rw [escape, next_bind, next]
  dsimp only
  rw [if_pos (by decide), Action.bind_of_ok code]
  rw [String.singleton_eq_ofList, utf8_ofList, List.flatMap_singleton]
  rfl

/-! ## Texts -/

/-- The bytes of a character beyond ASCII are beyond ASCII, too. -/
theorem le_of_mem_utf8EncodeChar {c : Char} (large : 128 ≤ c.toNat) {b : UInt8}
    (mem : b ∈ String.utf8EncodeChar c) : 128 ≤ b.toNat := by
  have code := encoded_utf8EncodeChar c
  generalize String.utf8EncodeChar c = bytes at code mem
  generalize c.toNat = n at code large
  cases code with
  | one most => omega
  | two least most digit =>
    simp only [List.mem_cons, List.not_mem_nil, or_false, continuation] at mem
    rcases mem with rfl | rfl <;> simp [UInt8.toNat_ofNat'] <;> omega
  | three least most digits =>
    simp only [List.mem_cons, List.not_mem_nil, or_false, continuation] at mem
    rcases mem with rfl | rfl | rfl <;> simp [UInt8.toNat_ofNat'] <;> omega
  | four least most digits =>
    simp only [List.mem_cons, List.not_mem_nil, or_false, continuation] at mem
    rcases mem with rfl | rfl | rfl | rfl <;> simp [UInt8.toNat_ofNat'] <;> omega

/-- How a character is written in a text: as it is, or as an escape that is read back as it. -/
inductive Shown (c : Char) : Prop
  | plain (own : escapeChar c = [c]) (bytes : ∀ b ∈ String.utf8EncodeChar c, isPlainByte b = true)
  | escaped {letters : Bytes} (own : encoded (escapeChar c) = 92 :: letters)
      (read : Takes escape letters (String.utf8EncodeChar c))

theorem Shown.letter {c : Char} {b e : UInt8} (own : encoded (escapeChar c) = [92, b])
    (other : b ≠ 117) (known : simpleEscape? b = some e) (value : String.utf8EncodeChar c = [e]) :
    Shown c :=
  .escaped own (value ▸ takes_escape_letter other known)

/-- The digits of a control character. -/
theorem hexValues?_control (n : Nat) (small : n < 32) :
    let four := encoded ['0', '0', Bytes.hexDigit (n / 16), Bytes.hexDigit (n % 16)]
    four.length = 4 ∧ hexValues? four = some n := by
  have all : ∀ n < 32,
      let four := encoded ['0', '0', Bytes.hexDigit (n / 16), Bytes.hexDigit (n % 16)]
      four.length = 4 ∧ hexValues? four = some n := by decide
  exact all n small

/-- A character that is no quote, backslash nor control character stands for itself. -/
theorem isPlainByte_of_mem_utf8EncodeChar {c : Char} (quote : c ≠ '"') (backslash : c ≠ '\\')
    (visible : 32 ≤ c.toNat) {b : UInt8} (mem : b ∈ String.utf8EncodeChar c) :
    isPlainByte b = true := by
  have code {d : Char} (h : c.toNat = d.toNat) : c = d := by
    rw [← Char.ofNat_toNat c, h, Char.ofNat_toNat]
  have notQuote : c.toNat ≠ 34 := fun h => quote (code h)
  have notBackslash : c.toNat ≠ 92 := fun h => backslash (code h)
  by_cases small : c.toNat < 128
  · rw [utf8EncodeChar_of_lt small, List.mem_singleton] at mem
    subst mem
    simp [isPlainByte, ← UInt8.toNat_inj, UInt8.le_iff_toNat_le]
    omega
  · have large := le_of_mem_utf8EncodeChar (by omega) mem
    simp [isPlainByte, ← UInt8.toNat_inj, UInt8.le_iff_toNat_le]
    omega

theorem shown (c : Char) : Shown c := by
  by_cases letter : c ∈ ['"', '\\', '\x08', '\x0c', '\n', '\r', '\t']
  · simp only [List.mem_cons, List.not_mem_nil, or_false] at letter
    rcases letter with rfl | rfl | rfl | rfl | rfl | rfl | rfl
    · exact .letter (b := 34) rfl (by decide) rfl rfl
    · exact .letter (b := 92) rfl (by decide) rfl rfl
    · exact .letter (b := 98) rfl (by decide) rfl rfl
    · exact .letter (b := 102) rfl (by decide) rfl rfl
    · exact .letter (b := 110) rfl (by decide) rfl rfl
    · exact .letter (b := 114) rfl (by decide) rfl rfl
    · exact .letter (b := 116) rfl (by decide) rfl rfl
  · simp only [List.mem_cons, List.not_mem_nil, or_false, not_or] at letter
    obtain ⟨quote, backslash, bell, page, feed, return_, tab⟩ := letter
    have own : escapeChar c = if c.toNat < 32 then
        ['\\', 'u', '0', '0', Bytes.hexDigit (c.toNat / 16), Bytes.hexDigit (c.toNat % 16)]
        else [c] := by
      simp only [escapeChar, quote, backslash, bell, page, feed, return_, tab, if_false]
    by_cases control : c.toNat < 32
    · rw [if_pos control] at own
      obtain ⟨length, value⟩ := hexValues?_control c.toNat control
      have read := takes_escape_code length value (by omega)
      rw [Char.ofNat_toNat] at read
      exact .escaped (by rw [own]; rfl) read
    · rw [if_neg control] at own
      exact .plain own fun b mem =>
        isPlainByte_of_mem_utf8EncodeChar quote backslash (by omega) mem

/-- Every character takes a byte at least. -/
theorem length_le_escaped (cs : List Char) :
    cs.length ≤ (encoded (cs.flatMap escapeChar)).length := by
  induction cs with
  | nil => exact Nat.zero_le _
  | cons c cs ih =>
    have one : 0 < (encoded (escapeChar c)).length := by
      cases shown c with
      | plain own =>
        rw [own, encoded_cons, encoded_nil, List.append_nil, String.length_utf8EncodeChar]
        exact c.utf8Size_pos
      | escaped own =>
        rw [own]
        exact Nat.succ_pos _
    rw [List.flatMap_cons, encoded_append, List.length_append, List.length_cons]
    omega

theorem takeWhile_plain {front more : Bytes} {b : UInt8} (plain : ∀ d ∈ front, isPlainByte d = true)
    (stop : isPlainByte b = false) : (front ++ b :: more).takeWhile isPlainByte = front := by
  rw [List.takeWhile_append_of_pos plain, List.takeWhile_cons_of_neg (by simp [stop]),
    List.append_nil]

/-- One round of a literal passes over the bytes that stand for themselves. -/
theorem literalPieces_succ (fuel : Nat) (acc : List Bytes) {c : Cursor}
    {front more : Bytes} {b : UInt8}
    (ahead : c.rest = front ++ b :: more) (plain : ∀ d ∈ front, isPlainByte d = true)
    (stop : isPlainByte b = false) :
    ∃ c₁, c₁.rest = more ∧ literalPieces (fuel + 1) acc c =
      (if b == 34 then (pure (front :: acc).reverse.flatten : Reader Bytes)
      else if b == 92 then do
        let e ← escape
        literalPieces fuel (e :: front :: acc)
      else fail .controlCharacter) c₁ := by
  have run : c.rest.takeWhile isPlainByte = front := by rw [ahead, takeWhile_plain plain stop]
  have behind : (c.advanceBy front.length).rest = b :: more := by
    rw [Cursor.rest_advanceBy, ahead, List.drop_left]
  refine ⟨(c.advanceBy front.length).advance, ?_, ?_⟩
  · rw [Cursor.rest_advance, behind]
    rfl
  · rw [literalPieces, get_bind, modify_bind, run, next_bind, behind]
    rfl

/-- The characters that are written behind some bytes that stand for themselves are read back. The
induction is on the characters: a plain one joins these bytes, and an escaped one ends a round. -/
theorem literalPieces_shown {cs : List Char} {fuel : Nat} (acc : List Bytes) {c : Cursor}
    {front rest : Bytes} (ahead : c.rest = front ++ (encoded (cs.flatMap escapeChar) ++ 34 :: rest))
    (plain : ∀ b ∈ front, isPlainByte b = true) (enough : cs.length < fuel) :
    ∃ c', literalPieces fuel acc c = (.ok (acc.reverse.flatten ++ (front ++ encoded cs)), c') ∧
      c'.rest = rest := by
  induction cs generalizing fuel acc c front with
  | nil =>
    obtain ⟨rounds, rfl⟩ := Nat.exists_eq_succ_of_ne_zero (Nat.ne_of_gt enough)
    obtain ⟨c₁, left, step⟩ :=
      literalPieces_succ rounds acc (ahead.trans rfl) plain (by decide)
    refine ⟨c₁, ?_, left⟩
    rw [step, if_pos (by decide), encoded_nil]
    simp [Action.pure_apply]
  | cons d cs ih =>
    rw [List.flatMap_cons, encoded_append, List.append_assoc] at ahead
    cases shown d with
    | plain own bytes =>
      rw [own, encoded_cons, encoded_nil, List.append_nil, ← List.append_assoc] at ahead
      have joined : ∀ b ∈ front ++ String.utf8EncodeChar d, isPlainByte b = true := by
        intro b mem
        rcases List.mem_append.1 mem with mem | mem
        · exact plain b mem
        · exact bytes b mem
      obtain ⟨c', read, left⟩ := ih acc ahead joined (Nat.lt_of_succ_lt enough)
      refine ⟨c', ?_, left⟩
      rw [read, encoded_cons, List.append_assoc front]
    | @escaped letters own read =>
      obtain ⟨rounds, rfl⟩ :=
        Nat.exists_eq_succ_of_ne_zero (Nat.ne_of_gt (Nat.zero_lt_of_lt enough))
      rw [own, List.cons_append] at ahead
      obtain ⟨c₁, behind, step⟩ :=
        literalPieces_succ rounds acc ahead plain (by decide)
      obtain ⟨c₂, one, left₂⟩ := read behind
      have behind₂ : c₂.rest = [] ++ (encoded (cs.flatMap escapeChar) ++ 34 :: rest) := left₂
      obtain ⟨c', others, left⟩ := ih (String.utf8EncodeChar d :: front :: acc) behind₂
        (List.forall_mem_nil _) (Nat.lt_of_succ_lt_succ enough)
      refine ⟨c', ?_, left⟩
      rw [step, if_neg (by decide), if_pos (by decide), Action.bind_of_ok one, others, encoded_cons]
      simp

/-- A text literal is read back as its text. -/
theorem takes_key (s : String) : Takes key (encoded (textChars s)) s := by
  intro c rest ahead
  have shape : c.rest = 34 :: ([] ++ (encoded (s.toList.flatMap escapeChar) ++ 34 :: rest)) := by
    have quote : String.utf8EncodeChar '"' = [34] := rfl
    rw [ahead, textChars, encoded_append, encoded_cons, quote]
    simp [quote]
  have behind : c.advance.rest = [] ++ (encoded (s.toList.flatMap escapeChar) ++ 34 :: rest) := by
    rw [Cursor.rest_advance, shape, List.tail_cons]
  have enough : s.toList.length < c.advance.rest.length + 1 := by
    have := length_le_escaped s.toList
    rw [behind]
    simp only [List.nil_append, List.length_append]
    omega
  obtain ⟨c', read, left⟩ := literalPieces_shown [] behind (List.forall_mem_nil _) enough
  refine ⟨c', ?_, left⟩
  have decoded : utf8Decode? (encoded s.toList) = some s := by
    rw [encoded, ← utf8_eq_flatMap, utf8Decode?_utf8]
  rw [key, eat_bind, literal, get_bind, Action.bind_of_ok read]
  simp [decoded, Action.pure_apply]

/-! ## Values -/

/-- There are no blanks in front of a byte that is none. -/
theorem pastBlanks_eq_self {c : Cursor} {b : UInt8} {rest : Bytes} (ahead : c.rest = b :: rest)
    (visible : isBlankByte b = false) : c.pastBlanks = c :=
  Cursor.skipWhile_of_head (by rw [ahead]; rfl) visible

/-- A text literal starts with a quote. -/
theorem encoded_textChars (s : String) : ∃ more, encoded (textChars s) = 34 :: more := by
  have quote : String.utf8EncodeChar '"' = [34] := rfl
  rw [textChars, List.cons_append, encoded_cons, quote]
  exact ⟨_, rfl⟩

theorem takes_text (depth : Nat) (s : String) :
    Takes (value depth) (encoded (Json.text s).chars) (.text s) := by
  intro c rest ahead
  obtain ⟨more, shape⟩ := encoded_textChars s
  have start : c.rest = 34 :: (more ++ rest) := by rw [ahead, chars, shape, List.cons_append]
  obtain ⟨c', read, left⟩ := takes_key s ahead
  have asText : text c = (.ok s, c') := by
    rw [text, peekPastBlanks_bind, pastBlanks_eq_self start (by decide), start]
    exact read
  exact ⟨c', value_of_text asText, left⟩

theorem takes_null (depth : Nat) : Takes (value depth) (encoded Json.null.chars) .null := by
  intro c rest ahead
  have start : c.rest = 110 :: 117 :: 108 :: 108 :: rest := by
    rw [ahead]
    rfl
  refine ⟨c.advance.advance.advance.advance, ?_, ?_⟩
  · have tail : (utf8 "null").drop 1 = [117, 108, 108] := by decide
    rw [value.eq_def, peekPastBlanks_bind, pastBlanks_eq_self start (by decide), start]
    dsimp only [List.head?_cons]
    rw [if_pos (by decide), word, bind_assoc, eat_bind, tail]
    simp [wordTail, next_bind, Cursor.rest_advance, start]
    rfl
  · simp [Cursor.rest_advance, start]

theorem takes_colon : Takes colon [58] ⟨⟩ := by
  intro c rest ahead
  refine ⟨c.advance, ?_, ?_⟩
  · rw [colon, peekPastBlanks_bind, pastBlanks_eq_self ahead (by decide), ahead]
    rfl
  · rw [Cursor.rest_advance, ahead]
    rfl

/-- A member as it is written. -/
def memberBytes (m : String × Json) : Bytes := encoded (textChars m.1) ++ 58 :: encoded m.2.chars

theorem encoded_membersChars_cons (m : String × Json) (ms : List (String × Json)) :
    encoded (membersChars (m :: ms)) =
      memberBytes m ++ ms.flatMap fun m => 44 :: memberBytes m := by
  have colon : String.utf8EncodeChar ':' = [58] := rfl
  have comma : String.utf8EncodeChar ',' = [44] := rfl
  induction ms generalizing m with
  | nil => simp [membersChars, memberBytes, colon]
  | cons m' ms ih =>
    rw [membersChars, encoded_append, encoded_cons, comma, ih, memberBytes]
    simp [colon, memberBytes]

variable {item : Reader Json} {ms : List (String × Json)}

/-- A member that is ahead is read back, and the others after it. -/
theorem members_succ {m : String × Json} (reads : Takes item (encoded m.2.chars) m.2) (fuel : Nat)
    {first : Bool} {c c₁ : Cursor} {more : Bytes} (goes : hasMember first c = (.ok true, c₁))
    (ahead : c₁.rest = memberBytes m ++ more) :
    ∃ c₂, c₂.rest = more ∧ members item (fuel + 1) first c =
      (do return m :: (← members item fuel false)) c₂ := by
  rw [memberBytes, List.append_assoc] at ahead
  obtain ⟨c₂, readKey, behindKey⟩ := takes_key m.1 ahead
  have colonAhead : c₂.rest = [58] ++ (encoded m.2.chars ++ more) := behindKey
  obtain ⟨c₃, readColon, behindColon⟩ := takes_colon colonAhead
  obtain ⟨c₄, readItem, behind⟩ := reads behindColon
  refine ⟨c₄, behind, ?_⟩
  rw [members, Action.bind_of_ok goes, if_pos rfl, Action.bind_of_ok readKey,
    Action.bind_of_ok readColon, Action.bind_of_ok readItem]

/-- Members behind others are read back up to the closing brace, if their values are. -/
theorem members_tail (reads : ∀ m ∈ ms, Takes item (encoded m.2.chars) m.2)
    {fuel : Nat} {c : Cursor}
    {rest : Bytes} (ahead : c.rest = (ms.flatMap fun m => 44 :: memberBytes m) ++ 125 :: rest)
    (enough : ms.length < fuel) :
    ∃ c', members item fuel false c = (.ok ms, c') ∧ c'.rest = 125 :: rest := by
  induction ms generalizing fuel c with
  | nil =>
    obtain ⟨rounds, rfl⟩ := Nat.exists_eq_succ_of_ne_zero (Nat.ne_of_gt enough)
    have close : hasMember false c = (.ok false, c) := by
      rw [hasMember, peekPastBlanks_bind, pastBlanks_eq_self ahead (by decide), ahead]
      rfl
    refine ⟨c, ?_, ahead⟩
    rw [members, Action.bind_of_ok close]
    rfl
  | cons m ms ih =>
    obtain ⟨rounds, rfl⟩ := Nat.exists_eq_succ_of_ne_zero (Nat.ne_of_gt (Nat.zero_lt_of_lt enough))
    rw [List.flatMap_cons, List.cons_append, List.cons_append, List.append_assoc] at ahead
    have behind : c.advance.rest =
        memberBytes m ++ ((ms.flatMap fun m => 44 :: memberBytes m) ++ 125 :: rest) := by
      rw [Cursor.rest_advance, ahead, List.tail_cons]
    obtain ⟨more, quote⟩ := encoded_textChars m.1
    have key : c.advance.rest = 34 :: (c.advance.rest.tail) := by
      rw [behind, memberBytes, quote]
      rfl
    have goes : hasMember false c = (.ok true, c.advance) := by
      rw [hasMember, peekPastBlanks_bind, pastBlanks_eq_self ahead (by decide), ahead]
      dsimp only [List.head?_cons]
      rw [if_neg (by decide), if_neg (by decide), if_pos (by decide), eat_bind, peekPastBlanks_bind,
        pastBlanks_eq_self key (by decide), key]
      rfl
    obtain ⟨c₂, left₂, step⟩ := members_succ (reads m List.mem_cons_self) rounds goes behind
    obtain ⟨c', others, left⟩ := ih (fun m hm => reads m (List.mem_cons_of_mem _ hm)) left₂
      (Nat.lt_of_succ_lt_succ enough)
    exact ⟨c', by rw [step, Action.bind_of_ok others]; rfl, left⟩

/-- The members of an object are read back up to its closing brace, if their values are. -/
theorem members_shown (reads : ∀ m ∈ ms, Takes item (encoded m.2.chars) m.2)
    {fuel : Nat} {c : Cursor}
    {rest : Bytes} (ahead : c.rest = encoded (membersChars ms) ++ 125 :: rest)
    (enough : ms.length < fuel) :
    ∃ c', members item fuel true c = (.ok ms, c') ∧ c'.rest = 125 :: rest := by
  obtain ⟨rounds, rfl⟩ := Nat.exists_eq_succ_of_ne_zero (Nat.ne_of_gt (Nat.zero_lt_of_lt enough))
  cases ms with
  | nil =>
    have close : hasMember true c = (.ok false, c) := by
      rw [hasMember, peekPastBlanks_bind, pastBlanks_eq_self ahead (by decide), ahead]
      rfl
    refine ⟨c, ?_, ahead⟩
    rw [members, Action.bind_of_ok close]
    rfl
  | cons m ms =>
    rw [encoded_membersChars_cons, List.append_assoc] at ahead
    obtain ⟨more, quote⟩ := encoded_textChars m.1
    have key : c.rest = 34 :: c.rest.tail := by
      rw [ahead, memberBytes, quote]
      rfl
    have goes : hasMember true c = (.ok true, c) := by
      rw [hasMember, peekPastBlanks_bind, pastBlanks_eq_self key (by decide), key]
      rfl
    obtain ⟨c₂, left₂, step⟩ := members_succ (reads m List.mem_cons_self) rounds goes ahead
    obtain ⟨c', others, left⟩ :=
      members_tail (fun m hm => reads m (List.mem_cons_of_mem _ hm)) left₂
      (Nat.lt_of_succ_lt_succ enough)
    exact ⟨c', by rw [step, Action.bind_of_ok others]; rfl, left⟩

theorem length_le_membersChars (ms : List (String × Json)) :
    ms.length ≤ (encoded (membersChars ms)).length := by
  cases ms with
  | nil => exact Nat.zero_le _
  | cons m ms =>
    have each : ms.length ≤ (ms.flatMap fun m => 44 :: memberBytes m).length := by
      induction ms with
      | nil => exact Nat.zero_le _
      | cons m ms ih =>
        rw [List.flatMap_cons, List.length_append, List.length_cons, List.length_cons]
        omega
    rw [encoded_membersChars_cons, List.length_append, memberBytes, List.length_append,
      List.length_cons, List.length_cons]
    omega

/-- An object is read back with its members as they were written, if their values are read back. -/
theorem takes_written {depth : Nat}
    (reads : ∀ m ∈ ms, Takes (value depth) (encoded m.2.chars) m.2) :
    Takes (written (depth + 1)) (encoded (Json.object ms).chars) ms := by
  intro c rest ahead
  have opening : String.utf8EncodeChar '\x7b' = [123] := rfl
  have closing : String.utf8EncodeChar '\x7d' = [125] := rfl
  have start : c.rest = 123 :: (encoded (membersChars ms) ++ 125 :: rest) := by
    rw [ahead, chars, encoded_append, encoded_cons, opening]
    simp [closing]
  have blanks := pastBlanks_eq_self start (by decide)
  have behind : c.pastBlanks.advance.rest = encoded (membersChars ms) ++ 125 :: rest := by
    rw [blanks, Cursor.rest_advance, start, List.tail_cons]
  have enough : ms.length < c.pastBlanks.advance.left + 1 := by
    have := length_le_membersChars ms
    rw [Cursor.left, behind, List.length_append]
    omega
  obtain ⟨c₁, read, left⟩ := members_shown reads behind enough
  refine ⟨c₁.advance, written_of_members (by rw [blanks, start]; rfl) read, ?_⟩
  rw [Cursor.rest_advance, left, List.tail_cons]

/-- An object is read back sorted by its keys. -/
theorem takes_object {depth : Nat} (reads : ∀ m ∈ ms, Takes (value depth) (encoded m.2.chars) m.2) :
    Takes (value (depth + 1)) (encoded (Json.object ms).chars) (ofMembers ms) := by
  intro c rest ahead
  obtain ⟨c', read, left⟩ := takes_written reads ahead
  exact ⟨c', value_of_written read, left⟩

end Reader

/-- A document that is an object is read back, if the values of its members are. -/
theorem parseMembers_render {ms : List (String × Json)}
    (reads : ∀ m ∈ ms, Reader.Takes (Reader.value (Reader.maxDepth - 1)) (encoded m.2.chars) m.2) :
    parseMembers (utf8 (Json.object ms).render) = .ok ms := by
  have document : (⟨utf8 (Json.object ms).render, 1, 0⟩ : Cursor).rest =
      encoded (Json.object ms).chars ++ [] := by rw [List.append_nil, utf8_render]
  obtain ⟨c', read, left⟩ := Reader.takes_written reads document
  refine Reader.readAll_eq_ok_iff.mpr ⟨c', read, ?_⟩
  rw [Cursor.pastBlanks, Cursor.rest_skipWhile, left]
  rfl

end Northbound.Json
