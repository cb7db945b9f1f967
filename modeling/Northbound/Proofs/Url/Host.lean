import Northbound.Proofs.Url.Ip
import Northbound.Proofs.Url.Segment

/-!
# Hosts as text

The host of a web address has a text of its own: a name in small letters, or an internet address in
its short form. Main statement: this text is made of the characters of hosts again, and it is read
as the same host.
-/

namespace Northbound.Url

variable {cs name : List Char} {c : Char} {octets groups : List Nat}

section Names

theorem toNat_lt_of_isHostChar (h : IsHostChar c) : c.toNat < 128 := by
  rw [isHostChar_iff] at h
  omega

theorem isHostChar_toLower (h : IsHostChar c) : IsHostChar c.toLower := by
  rw [isHostChar_iff] at h ⊢
  obtain same | ⟨least, most, code⟩ := eq_or_of_toLower (c := c) rfl
  · rwa [← same]
  · omega

theorem isHostChar_of_mem_map_toLower (chars : ∀ c ∈ cs, IsHostChar c) :
    ∀ c ∈ cs.map Char.toLower, IsHostChar c := by
  simpa using fun c hc => isHostChar_toLower (chars c hc)

theorem toLower_toLower (c : Char) : c.toLower.toLower = c.toLower := by
  obtain same | ⟨least, most, code⟩ := eq_or_of_toLower (c := c) rfl
  · rw [← same, ← same]
  · obtain same' | ⟨-, most', -⟩ := eq_or_of_toLower (c := c.toLower) rfl
    · exact same'.symm
    · omega

/-- The labels of a name in plain small letters. -/
def smallLabels? (name : List Char) : Option (List Label) :=
  if name.any isForbidden then none
  else ((splitAtChar '.' name).mapM Label.ofChars?).filter fun labels => Label.allAgree labels

/-- A name in the characters of hosts has the labels of the name in small letters. -/
theorem labels?_eq (chars : ∀ c ∈ cs, IsHostChar c) :
    labels? cs = smallLabels? (cs.map Char.toLower) := by
  have mapped : cs.mapM mapCharacter? = some (cs.map fun c => [c.toLower]) := by
    rw [mapM_eq_some_iff, List.forall₂_map_right_iff, List.forall₂_same]
    intro c hc
    rw [mapCharacter?, if_pos (toNat_lt_of_isHostChar (chars c hc))]
  have flat : (cs.map fun c => [c.toLower]).flatten = cs.map Char.toLower := by
    rw [← List.flatMap_def, List.map_eq_flatMap]
  have canonical : Text.canonical (cs.map Char.toLower) = cs.map Char.toLower := by
    rw [Text.canonical, if_pos]
    simpa using fun c hc => toNat_lt_of_isHostChar (isHostChar_toLower (chars c hc))
  simp only [labels?, mapped, Option.bind_eq_bind, Option.bind_some, flat, canonical, smallLabels?]
  congr 1
  cases (splitAtChar '.' (cs.map Char.toLower)).mapM Label.ofChars? <;> rfl

theorem Label.ascii_of_decode? {label : Label} (h : Label.decode? cs = some label) :
    label.ascii = Label.mark ++ cs := by
  unfold Label.decode? at h
  split at h
  · cases h
  · obtain ⟨shown, -, h⟩ := Option.bind_eq_some_iff.1 h
    split at h
    · cases h
      rfl
    · cases h

/-- A label in plain characters stands in an address as it is. -/
theorem Label.ascii_of_ofChars? {label : Label} (plain : ∀ c ∈ cs, c.toNat < 128)
    (h : Label.ofChars? cs = some label) : label.ascii = cs := by
  unfold Label.ofChars? at h
  split at h
  next marked =>
    rw [Label.ascii_of_decode? h]
    exact List.prefix_iff_eq_append.1 (List.isPrefixOf_iff_prefix.1 marked)
  next =>
    rw [if_pos (by simpa using plain)] at h
    cases h
    rfl

/-- A name in plain characters is its labels with dots between them. -/
theorem intercalate_ascii {labels : List Label} (chars : ∀ c ∈ name, IsHostChar c)
    (h : smallLabels? name = some labels) : ['.'].intercalate (labels.map Label.ascii) = name := by
  unfold smallLabels? at h
  split at h
  · cases h
  · obtain ⟨found, -⟩ := Option.filter_eq_some_iff.1 h
    have pieces : List.Forall₂ (fun piece label => piece = Label.ascii label) (splitAtChar '.' name)
        labels := by
      have small : ∀ piece ∈ splitAtChar '.' name, ∀ c ∈ piece, c.toNat < 128 :=
        fun piece hpiece c hc =>
        toNat_lt_of_isHostChar (chars c (mem_of_mem_splitAtChar hpiece hc))
      have both := (List.forall₂_and_left _ _).2 ⟨small, mapM_eq_some_iff.1 found⟩
      exact both.imp fun piece label h => (Label.ascii_of_ofChars? h.1 h.2).symm
    have same : splitAtChar '.' name = labels.map Label.ascii := by
      rwa [← List.forall₂_map_right_iff, List.forall₂_eq_eq_eq] at pieces
    rw [← same, intercalate_splitAtChar]

/-- The plain form of a name in the characters of hosts is the name in small letters. -/
theorem asciiName?_eq (chars : ∀ c ∈ cs, IsHostChar c) :
    asciiName? cs = (smallLabels? (cs.map Char.toLower)).map fun _ => cs.map Char.toLower := by
  have small := isHostChar_of_mem_map_toLower chars
  rw [asciiName?, labels?_eq chars]
  cases h : smallLabels? (cs.map Char.toLower) with
  | none => rfl
  | some labels => exact congrArg some (intercalate_ascii small h)

/-- A name in the characters of hosts has nothing in it to be decoded. -/
theorem Host.parse?_name (chars : ∀ c ∈ cs, IsHostChar c) :
    Host.parse? cs = (asciiName? cs).bind Host.ofName? := by
  have plain : 37 ∉ utf8 (String.ofList cs) := by
    rw [utf8_ofList_ascii cs fun c hc => toNat_lt_of_isHostChar (chars c hc)]
    intro found
    obtain ⟨c, hc, code⟩ := List.mem_map.1 found
    have range := isHostChar_iff.1 (chars c hc)
    have value := congrArg UInt8.toNat code
    rw [UInt8.toNat_ofNat', Nat.mod_eq_of_lt (by omega)] at value
    have percent : (37 : UInt8).toNat = 37 := rfl
    omega
  have unbracketed : ∀ rest, cs ≠ '[' :: rest := by
    rintro rest rfl
    exact absurd (isHostChar_iff.1 (chars '[' List.mem_cons_self)) (by decide)
  unfold Host.parse?
  split
  next rest => exact absurd rfl (unbracketed rest)
  next =>
    rw [percentDecode_of_not_mem plain, utf8Decode?_utf8]
    simp

/-- A name in small letters is read as the same name in any letters. -/
theorem Host.parse?_map_toLower (chars : ∀ c ∈ cs, IsHostChar c) :
    Host.parse? (cs.map Char.toLower) = Host.parse? cs := by
  have small := isHostChar_of_mem_map_toLower chars
  have twice : (cs.map Char.toLower).map Char.toLower = cs.map Char.toLower := by
    rw [List.map_map]
    exact List.map_congr_left fun c _ => toLower_toLower c
  rw [Host.parse?_name small, Host.parse?_name chars, asciiName?_eq small, asciiName?_eq chars,
    twice]

/-- A name is an address of numbers, or it stands for itself in small letters. -/
theorem Host.cases_of_parse?_name {found : Host} (chars : ∀ c ∈ cs, IsHostChar c)
    (h : Host.parse? cs = some found) :
    (∃ octets, IsIpv4 octets ∧ found = .ipv4 octets) ∨
      (cs ≠ [] ∧ found = .domain (String.ofList (cs.map Char.toLower))) := by
  rw [Host.parse?_name chars, asciiName?_eq chars] at h
  obtain ⟨name, mapped, h⟩ := Option.bind_eq_some_iff.1 h
  obtain ⟨labels, -, rfl⟩ := Option.map_eq_some_iff.1 mapped
  unfold Host.ofName? at h
  split at h
  · cases h
  next nonempty =>
    split at h
    · obtain ⟨octets, read, rfl⟩ := Option.map_eq_some_iff.1 h
      exact Or.inl ⟨octets, isIpv4_of_readLooseIpv4 read, rfl⟩
    · exact Or.inr ⟨by simpa using nonempty, (Option.some.inj h).symm⟩

end Names

section Numbers

theorem digit_or_dot_of_mem_ipv4Chars (h : c ∈ ipv4Chars octets) : c.isDigit = true ∨ c = '.' := by
  obtain rfl | nonempty := eq_or_ne octets []
  · cases h
  · have pieces := splitAtChar_ipv4Chars nonempty
    obtain rfl | ⟨s, hs, hc⟩ := exists_mem_splitAtChar '.' h
    · exact Or.inr rfl
    · rw [pieces] at hs
      obtain ⟨n, -, rfl⟩ := List.mem_map.1 hs
      exact Or.inl (Text.isDigit_of_mem_toDigits hc)

theorem isHostChar_of_mem_ipv4Chars (h : c ∈ ipv4Chars octets) : IsHostChar c := by
  obtain digit | rfl := digit_or_dot_of_mem_ipv4Chars h
  · exact isHostChar_of_isDigit digit
  · exact isHostChar_dot

theorem isForbidden_of_mem_ipv4Chars (h : c ∈ ipv4Chars octets) : isForbidden c = false := by
  exact of_ascii (p := fun c => c.isDigit = true ∨ c = '.' → isForbidden c = false)
    (by decide +kernel) (toNat_lt_of_isHostChar (isHostChar_of_mem_ipv4Chars h))
    (digit_or_dot_of_mem_ipv4Chars h)

/-- A number is the same in small letters. -/
theorem map_toLower_ipv4Chars (octets : List Nat) :
    (ipv4Chars octets).map Char.toLower = ipv4Chars octets := by
  have same : ∀ c ∈ ipv4Chars octets, c.toLower = c := by
    intro c hc
    have range : c.toNat ≤ 57 := by
      obtain digit | rfl := digit_or_dot_of_mem_ipv4Chars hc
      · exact (Char.isDigit_iff_toNat.1 digit).2
      · decide
    obtain same | ⟨least, -, -⟩ := eq_or_of_toLower (c := c) rfl
    · exact same.symm
    · omega
  rw [List.map_congr_left same, List.map_id']

/-- The label of a number. -/
def Label.ofNumber (n : Nat) : Label := { shown := Nat.toDigits 10 n, ascii := Nat.toDigits 10 n }

theorem Label.ofChars?_toDigits (n : Nat) :
    Label.ofChars? (Nat.toDigits 10 n) = some (Label.ofNumber n) := by
  have unmarked : Label.mark.isPrefixOf (Nat.toDigits 10 n) = false := by
    rw [Bool.eq_false_iff]
    intro marked
    obtain ⟨rest, whole⟩ := List.isPrefixOf_iff_prefix.1 marked
    have first : 'x' ∈ Nat.toDigits 10 n := whole ▸ List.mem_cons_self
    exact absurd (Text.isDigit_of_mem_toDigits first) (by decide)
  have plain : ((Nat.toDigits 10 n).all fun c => c.toNat < 128) = true := by
    simpa using fun c hc =>
      toNat_lt_of_isHostChar (isHostChar_of_isDigit (Text.isDigit_of_mem_toDigits hc))
  rw [Label.ofChars?, unmarked, if_neg Bool.false_ne_true, if_pos plain, Label.ofNumber]

/-- A number does not run from right to left. -/
theorem Label.runsBack_ofNumber (n : Nat) : (Label.ofNumber n).runsBack = false := by
  rw [Label.runsBack, List.any_eq_false]
  intro c hc
  have digit : c.isDigit = true := Text.isDigit_of_mem_toDigits hc
  have direction : Text.direction c = .europeanNumber :=
    of_ascii (p := fun c => c.isDigit = true → Text.direction c = .europeanNumber)
      (by decide +kernel) (toNat_lt_of_isHostChar (isHostChar_of_isDigit digit)) digit
  rw [direction]
  decide

/-- An address of numbers is a name without anything to be mapped. -/
theorem asciiName?_ipv4Chars (nonempty : octets ≠ []) :
    asciiName? (ipv4Chars octets) = some (ipv4Chars octets) := by
  have allowed : (ipv4Chars octets).any isForbidden = false := by
    rw [List.any_eq_false]
    intro c hc
    rw [isForbidden_of_mem_ipv4Chars hc]
    decide
  have labels : (splitAtChar '.' (ipv4Chars octets)).mapM Label.ofChars? =
      some (octets.map Label.ofNumber) := by
    rw [splitAtChar_ipv4Chars nonempty, mapM_eq_some_iff, List.forall₂_map_left_iff,
      List.forall₂_map_right_iff, List.forall₂_same]
    exact fun n _ => Label.ofChars?_toDigits n
  have agree : Label.allAgree (octets.map Label.ofNumber) = true := by
    have forward : (octets.map Label.ofNumber).any Label.runsBack = false := by
      simpa using fun n _ => Label.runsBack_ofNumber n
    rw [Label.allAgree, forward]
    rfl
  have found : smallLabels? (ipv4Chars octets) = some (octets.map Label.ofNumber) := by
    simp [smallLabels?, allowed, labels, agree]
  rw [asciiName?_eq fun c hc => isHostChar_of_mem_ipv4Chars hc, map_toLower_ipv4Chars, found,
    Option.map_some]

/-- The text of an address of four numbers denotes this address. -/
theorem Host.parse?_ipv4Chars (h : IsIpv4 octets) :
    Host.parse? (ipv4Chars octets) = some (.ipv4 octets) := by
  have nonempty := h.ne_nil
  rw [Host.parse?_name fun c hc => isHostChar_of_mem_ipv4Chars hc, asciiName?_ipv4Chars nonempty,
    Option.bind_some, Host.ofName?, if_neg (by simpa using ipv4Chars_ne_nil nonempty),
    if_pos (endsInNumber_ipv4Chars nonempty), readLooseIpv4_ipv4Chars h, Option.map_some]

end Numbers

section Rendering

variable {host : List Char} {found : Host}

theorem bracketed_of_mem (colon : ':' ∈ host) :
    Address.bracketed host = '[' :: (host ++ [']']) := by
  rw [Address.bracketed, if_pos (by simpa using colon), List.cons_append]

theorem bracketed_of_not_mem (colon : ':' ∉ host) : Address.bracketed host = host := by
  rw [Address.bracketed, if_neg (by simpa using colon)]

/-- Brackets stand around the text of an address of eight groups. -/
theorem Host.parse?_bracketed (colon : ':' ∈ host) :
    Host.parse? (Address.bracketed host) = (readIpv6 host).map .ipv6 := by
  have closed : (host ++ [']']).getLast? = some ']' := List.getLast?_concat
  rw [bracketed_of_mem colon, Host.parse?, Host.inBrackets?, if_pos closed, List.dropLast_concat]

/-- How a host stands in an address: in the characters of hosts, and so that it is read again. -/
structure Host.IsText (found : Host) (inner : List Char) : Prop where
  nonempty : inner ≠ []
  chars : ∀ c ∈ inner, IsHostChar c
  rendered : found.render = String.ofList (Address.bracketed inner)
  read : Host.parse? (Address.bracketed inner) = some found

theorem Host.isText_ipv6 (h : IsIpv6 groups) : Host.IsText (.ipv6 groups) (ipv6Chars groups) := by
  have read := readIpv6_ipv6Chars h
  have colon := colon_mem_ipv6Chars h
  refine ⟨List.ne_nil_of_mem colon, isHostChar_of_readIpv6 read, ?_, ?_⟩
  · rw [bracketed_of_mem colon]
    rfl
  · rw [Host.parse?_bracketed colon, read, Option.map_some]

theorem Host.isText_ipv4 (h : IsIpv4 octets) : Host.IsText (.ipv4 octets) (ipv4Chars octets) := by
  have read := Host.parse?_ipv4Chars h
  have colon : ':' ∉ ipv4Chars octets := by
    intro hc
    exact absurd (digit_or_dot_of_mem_ipv4Chars hc) (by decide)
  refine ⟨ipv4Chars_ne_nil h.ne_nil, fun c hc => isHostChar_of_mem_ipv4Chars hc, ?_, ?_⟩
  · rw [bracketed_of_not_mem colon]
    rfl
  · rw [bracketed_of_not_mem colon, read]

theorem Host.isText_domain (chars : ∀ c ∈ host, IsHostChar c) (nonempty : host ≠ [])
    (colon : ':' ∉ host)
    (h : Host.parse? host = some (.domain (String.ofList (host.map Char.toLower)))) :
    Host.IsText (.domain (String.ofList (host.map Char.toLower))) (host.map Char.toLower) := by
  have colon' : ':' ∉ host.map Char.toLower := by
    intro hc
    obtain ⟨c, hc, same⟩ := List.mem_map.1 hc
    rw [eq_of_toLower same (by decide)] at hc
    exact colon hc
  refine ⟨by simpa using nonempty, isHostChar_of_mem_map_toLower chars, ?_, ?_⟩
  · rw [bracketed_of_not_mem colon']
    rfl
  · rw [bracketed_of_not_mem colon', Host.parse?_map_toLower chars, h]

/-- A host that is read from the characters of hosts has a text, which is read as this host. -/
theorem Host.exists_isText (chars : ∀ c ∈ host, IsHostChar c)
    (h : Host.parse? (Address.bracketed host) = some found) : ∃ inner, Host.IsText found inner := by
  by_cases colon : ':' ∈ host
  · rw [Host.parse?_bracketed colon] at h
    obtain ⟨groups, read, rfl⟩ := Option.map_eq_some_iff.1 h
    exact ⟨_, Host.isText_ipv6 (isIpv6_of_readIpv6 read)⟩
  · rw [bracketed_of_not_mem colon] at h
    obtain ⟨octets, numbers, rfl⟩ | ⟨nonempty, rfl⟩ := Host.cases_of_parse?_name chars h
    · exact ⟨_, Host.isText_ipv4 numbers⟩
    · exact ⟨_, Host.isText_domain chars nonempty colon h⟩

end Rendering

end Northbound.Url
