import Mathlib.Data.List.Forall2
import Mathlib.Data.List.TakeDrop
import Mathlib.Data.List.TakeWhile
import Northbound.Address
import Northbound.Proofs.Text.Numerals
import Northbound.Proofs.Url.Path
import Northbound.Url.Reader

/-!
# Reading an authority

What stands between the slashes of a web address and its path is read as a host and a port. When the
host is made of letters, digits and the few signs that names and internet addresses have, nothing in
it is mistaken for another part of the address.
-/

namespace Northbound.Url

/-- The characters of host names and internet addresses. -/
def IsHostChar (c : Char) : Prop := c.isAlphanum = true ∨ c ∈ ['_', '-', '.', ':']

variable {cs : List Char} {c sep : Char}

section Characters

/-- Where letters and digits stand among all characters. -/
theorem isAlphanum_iff : c.isAlphanum = true ↔
    (48 ≤ c.toNat ∧ c.toNat ≤ 57) ∨ (65 ≤ c.toNat ∧ c.toNat ≤ 90) ∨
      (97 ≤ c.toNat ∧ c.toNat ≤ 122) := by
  have hranges : c.isAlphanum = ((decide (c.val ≥ 'A'.val ∧ c.val ≤ 'Z'.val) ||
      (decide (c.val ≥ 'a'.val) && decide (c.val ≤ 'z'.val))) ||
        (decide (c.val ≥ '0'.val) && decide (c.val ≤ '9'.val))) := rfl
  simp only [hranges, Bool.or_eq_true, Bool.and_eq_true, decide_eq_true_eq,
    UInt32.le_iff_toNat_le, ge_iff_le]
  change ((65 ≤ c.toNat ∧ c.toNat ≤ 90) ∨ (97 ≤ c.toNat ∧ c.toNat ≤ 122)) ∨
    (48 ≤ c.toNat ∧ c.toNat ≤ 57) ↔ _
  omega

/-- Where the characters of hosts stand among all characters. -/
theorem isHostChar_iff : IsHostChar c ↔
    (48 ≤ c.toNat ∧ c.toNat ≤ 58) ∨ (65 ≤ c.toNat ∧ c.toNat ≤ 90) ∨
      (97 ≤ c.toNat ∧ c.toNat ≤ 122) ∨ c.toNat = 45 ∨ c.toNat = 46 ∨ c.toNat = 95 := by
  have hsign (d : Char) : c = d ↔ c.toNat = d.toNat := Char.toNat_inj.symm
  simp only [IsHostChar, isAlphanum_iff, List.mem_cons, List.not_mem_nil, hsign, or_false]
  change _ ∨ c.toNat = 95 ∨ c.toNat = 45 ∨ c.toNat = 46 ∨ c.toNat = 58 ↔ _
  omega

theorem isHostChar_dot : IsHostChar '.' := isHostChar_iff.2 (by decide)

theorem isHostChar_colon : IsHostChar ':' := isHostChar_iff.2 (by decide)

theorem isHostChar_of_isDigit (h : c.isDigit = true) : IsHostChar c := by
  left
  rw [Char.isAlphanum, h, Bool.or_true]

theorem isHostChar_of_readHexDigits {acc n : Nat} (h : Text.readHexDigits acc cs = some n) :
    ∀ c ∈ cs, IsHostChar c := by
  intro c hc
  obtain ⟨d, value⟩ := Text.exists_hexValue?_of_readHexDigits h c hc
  rw [isHostChar_iff]
  have := Text.cases_of_hexValue? value
  omega

/-- A character of a text is a separator or stands in a piece. -/
theorem exists_mem_splitAtChar (sep : Char) (h : c ∈ cs) :
    c = sep ∨ ∃ s ∈ splitAtChar sep cs, c ∈ s := by
  rw [← intercalate_splitAtChar sep cs] at h
  exact exists_mem_of_mem_intercalate h

/-- A text has the characters of hosts if its pieces do and the separator does. -/
theorem isHostChar_of_splitAtChar (hsep : IsHostChar sep)
    (pieces : ∀ s ∈ splitAtChar sep cs, ∀ c ∈ s, IsHostChar c) : ∀ c ∈ cs, IsHostChar c := by
  intro c hc
  obtain rfl | ⟨s, hs, hmem⟩ := exists_mem_splitAtChar sep hc
  · exact hsep
  · exact pieces s hs c hmem

/-- A function maps a list to one that it maps element by element. -/
theorem mapM_eq_some_iff {α β : Type} {f : α → Option β} {xs : List α} {ys : List β} :
    xs.mapM f = some ys ↔ List.Forall₂ (fun x y => f x = some y) xs ys := by
  induction xs generalizing ys with
  | nil =>
      rw [List.mapM_nil, List.forall₂_nil_left_iff, Option.pure_def, Option.some.injEq, eq_comm]
  | cons x xs ih =>
      rw [List.mapM_cons, List.forall₂_cons_left_iff]
      simp only [Option.bind_eq_bind, Option.bind_eq_some_iff, Option.pure_def, Option.some.injEq,
        ih]
      constructor
      · rintro ⟨y, first, zs, rest, rfl⟩
        exact ⟨y, zs, first, rest, rfl⟩
      · rintro ⟨y, zs, first, rest, rfl⟩
        exact ⟨y, first, zs, rest, rfl⟩

theorem isHostChar_of_octet? {n : Nat} (h : octet? cs = some n) : ∀ c ∈ cs, IsHostChar c := by
  unfold octet? at h
  split at h
  · cases h
  · obtain ⟨m, hdigits, -⟩ := Option.bind_eq_some_iff.1 h
    intro c hc
    exact isHostChar_of_isDigit ((Text.readDigits_ten_eq_some_iff.1 hdigits).1 c hc)

theorem isHostChar_of_readIpv4 {octets : List Nat} (h : readIpv4 cs = some octets) :
    ∀ c ∈ cs, IsHostChar c := by
  obtain ⟨parts, hparts, -⟩ := Option.bind_eq_some_iff.1 h
  apply isHostChar_of_splitAtChar isHostChar_dot
  have hpieces := (mapM_eq_some_iff.1 hparts).imp fun s n hoctet =>
    And.intro (isHostChar_of_octet? hoctet) hoctet
  exact ((List.forall₂_and_left _ _).1 hpieces).1

theorem isHostChar_of_group? {n : Nat} (h : group? cs = some n) : ∀ c ∈ cs, IsHostChar c := by
  unfold group? at h
  split at h
  · cases h
  · exact isHostChar_of_readHexDigits h

theorem isHostChar_of_groups? {mixed : Bool} {parts : List (List Char)} {groups : List Nat}
    (h : groups? mixed parts = some groups) : ∀ s ∈ parts, ∀ c ∈ s, IsHostChar c := by
  fun_induction groups? mixed parts generalizing groups with
  | case1 => simp
  | case2 last g found => simpa using isHostChar_of_group? found
  | case3 last missing isMixed a b c d found => simpa using isHostChar_of_readIpv4 found
  | case4 => cases h
  | case5 => cases h
  | case6 p rest _ ih =>
      obtain ⟨g, hfirst, h⟩ := Option.bind_eq_some_iff.1 h
      obtain ⟨gs, hrest, -⟩ := Option.bind_eq_some_iff.1 h
      exact List.forall_mem_cons.2 ⟨isHostChar_of_group? hfirst, ih hrest⟩

theorem isHostChar_of_groupsOf? {mixed : Bool} {groups : List Nat}
    (h : groupsOf? mixed cs = some groups) : ∀ c ∈ cs, IsHostChar c := by
  unfold groupsOf? at h
  split at h
  next empty => simp [List.isEmpty_iff.1 empty]
  next =>
    exact isHostChar_of_splitAtChar isHostChar_colon (isHostChar_of_groups? h)

theorem eq_of_cutAtDoubleColon {front back : List Char}
    (h : cutAtDoubleColon cs = some (front, back)) : cs = front ++ ':' :: ':' :: back := by
  fun_induction cutAtDoubleColon cs generalizing front with
  | case1 rest =>
      cases h
      rfl
  | case2 c rest _ ih =>
      obtain ⟨⟨f, b⟩, hcut, same⟩ := Option.map_eq_some_iff.1 h
      cases same
      rw [ih hcut]
      rfl
  | case3 => cases h

theorem isHostChar_of_readIpv6 {groups : List Nat} (h : readIpv6 cs = some groups) :
    ∀ c ∈ cs, IsHostChar c := by
  unfold readIpv6 at h
  split at h
  · obtain ⟨gs, hgroups, -⟩ := Option.bind_eq_some_iff.1 h
    exact isHostChar_of_groupsOf? hgroups
  next front back cut =>
    obtain ⟨f, hfront, h⟩ := Option.bind_eq_some_iff.1 h
    obtain ⟨b, hback, -⟩ := Option.bind_eq_some_iff.1 h
    rw [eq_of_cutAtDoubleColon cut]
    intro c hc
    obtain hc | hc := List.mem_append.1 hc
    · exact isHostChar_of_groupsOf? hfront c hc
    · obtain rfl | hc := List.mem_cons.1 hc
      · exact isHostChar_colon
      · obtain rfl | hc := List.mem_cons.1 hc
        · exact isHostChar_colon
        · exact isHostChar_of_groupsOf? hback c hc

/-- Internet addresses are made of the characters of hosts. -/
theorem isHostChar_of_isIpAddress (h : isIpAddress cs = true) : ∀ c ∈ cs, IsHostChar c := by
  obtain h | h := Bool.or_eq_true_iff.1 h
  · obtain ⟨octets, h⟩ := Option.isSome_iff_exists.1 h
    exact isHostChar_of_readIpv4 h
  · obtain ⟨groups, h⟩ := Option.isSome_iff_exists.1 h
    exact isHostChar_of_readIpv6 h

end Characters

section Reading

variable {p : Char → Bool} {host front rest : List Char} {scheme : String} {n : Nat}

theorem cutAt_of_not (h : ∀ c ∈ cs, p c = false) : cutAt p cs = (cs, none) := by
  have hfront : cs.takeWhile (fun c => !p c) = cs :=
    List.takeWhile_eq_self_iff.2 fun c hc => by simp [h c hc]
  rw [cutAt, hfront, List.drop_length]

/-- A text is cut at the first character of some kind. -/
theorem cutAt_cons (h : ∀ c ∈ front, p c = false) (hc : p c = true) :
    cutAt p (front ++ c :: rest) = (front, some rest) := by
  have hfront : (front ++ c :: rest).takeWhile (fun c => !p c) = front := by
    rw [List.takeWhile_append_of_pos (by simpa using h)]
    simp [hc]
  rw [cutAt, hfront, List.drop_left]

/-- A text without control characters and spaces is read as it is. -/
theorem cleaned_eq_self (h : ∀ c ∈ cs, 32 < c.toNat) : cleaned cs = cs := by
  have hkept {xs : List Char} (hxs : ∀ c ∈ xs, 32 < c.toNat) :
      xs.dropWhile (fun c => decide (c.toNat ≤ 32)) = xs := by
    cases xs with
    | nil => rfl
    | cons x xs =>
        have hx := hxs x List.mem_cons_self
        simp [Nat.not_le.2 hx]
  simp only [cleaned]
  rw [hkept h, hkept (by simpa using h), List.reverse_reverse, List.filter_eq_self]
  intro c hc
  have hlarge := h c hc
  have hne (d : Char) (hd : d.toNat ≤ 32) : c ≠ d := by
    rintro rfl
    omega
  simpa using ⟨hne '\t' (by decide), hne '\n' (by decide), hne '\r' (by decide)⟩

/-- A host outside brackets ends at a colon or where the path starts. -/
theorem splitHost_outside (h : ∀ c ∈ host, p c = false ∧ c ≠ ':' ∧ c ≠ '[')
    (stop : p c = true ∨ c = ':') : splitHost p false (host ++ c :: rest) = (host, c :: rest) := by
  induction host with
  | nil =>
      have hstop : (p c || (c == ':' && !false)) = true := by simpa using stop
      rw [List.nil_append, splitHost, if_pos hstop]
  | cons d host ih =>
      obtain ⟨⟨hend, hcolon, hbracket⟩, hrest⟩ := List.forall_mem_cons.1 h
      have hout : (d == '[') = false := by simpa using hbracket
      simp [splitHost, hend, hcolon, hout, ih hrest]

/-- A host in brackets ends behind the closing one. -/
theorem splitHost_inside (h : ∀ c ∈ host, p c = false ∧ c ≠ ']') (hbracket : p ']' = false)
    (stop : p c = true ∨ c = ':') :
    splitHost p true (host ++ ']' :: c :: rest) = (host ++ [']'], c :: rest) := by
  induction host with
  | nil =>
      have hstop : splitHost p false (c :: rest) = ([], c :: rest) :=
        splitHost_outside (List.forall_mem_nil _) stop
      have hclosed : (']' == '[' || (true && decide (']' ≠ ']'))) = false := by decide
      rw [List.nil_append, splitHost, if_neg (by simp [hbracket]), hclosed, hstop]
      rfl
  | cons d host ih =>
      obtain ⟨⟨hend, hclosing⟩, hrest⟩ := List.forall_mem_cons.1 h
      simp [splitHost, hend, hclosing, ih hrest]

theorem isSlash_slash : isSlash true '/' = true := rfl

theorem isSlash_of_isHostChar (h : IsHostChar c) : isSlash true c = false := by
  rw [isHostChar_iff] at h
  have hne (d : Char) (hd : d.toNat = 47 ∨ d.toNat = 92) : c ≠ d := by
    rintro rfl
    omega
  simpa [isSlash] using ⟨hne '/' (by decide), hne '\\' (by decide)⟩

/-- A port behind a host, if one is written. -/
def portChars : Option Nat → List Char
  | none => []
  | some n => ':' :: Nat.toDigits 10 n

/-- The digits of a port end at the slash of the path. -/
theorem readPort_portChars {port? : Option Nat} (scheme : String) (bounded : ∀ n ∈ port?, n ≤ 65535)
    (path : List Char) : readPort scheme (portChars port? ++ '/' :: path) =
      some (if defaultPort? scheme = port? then none else port?, '/' :: path) := by
  cases port? with
  | none =>
      rw [ite_self]
      rfl
  | some n =>
      have hdigits : ∀ c ∈ Nat.toDigits 10 n, (!isSlash true c) = true := by
        intro c hc
        simp [isSlash_of_isHostChar (isHostChar_of_isDigit (Text.isDigit_of_mem_toDigits hc))]
      have hspan : (Nat.toDigits 10 n ++ '/' :: path).span (fun c => !isSlash true c) =
          (Nat.toDigits 10 n, '/' :: path) := by
        rw [List.span_eq_takeWhile_dropWhile, List.takeWhile_append_of_pos hdigits,
          List.dropWhile_append_of_pos hdigits]
        simp [isSlash]
      have hvalue : Text.readDigits 10 0 (Nat.toDigits 10 n) = some n :=
        Text.readDigits_toDigits (by decide) (by decide) n
      simp only [portChars, List.cons_append, readPort, hspan]
      simp [hvalue, Nat.not_lt.2 (bounded n rfl)]

/-- The schemes of web addresses are small letters. -/
theorem letter_of_mem_web (web : scheme = "http" ∨ scheme = "https") :
    ∀ c ∈ scheme.toList, 97 ≤ c.toNat := by
  have hhttp : "http".toList = ['h', 't', 't', 'p'] := rfl
  have hhttps : "https".toList = ['h', 't', 't', 'p', 's'] := rfl
  obtain rfl | rfl := web
  · simp [hhttp]
  · simp [hhttps]

/-- The scheme of a web address ends at its colon. -/
theorem readScheme_web (web : scheme = "http" ∨ scheme = "https") :
    readScheme (scheme.toList ++ ':' :: rest) = some (scheme, rest) := by
  have hcut : cutAt (· == ':') (scheme.toList ++ ':' :: rest) = (scheme.toList, some rest) := by
    apply cutAt_cons _ rfl
    intro c hc
    rw [beq_eq_false_iff_ne]
    rintro rfl
    exact absurd (letter_of_mem_web web _ hc) (by decide)
  rw [readScheme, hcut]
  obtain rfl | rfl := web <;> rfl

end Reading

/-- A host and a port as they stand in a web address. -/
def authority (host : List Char) (port : Nat) : List Char :=
  Address.bracketed host ++ ':' :: Nat.toDigits 10 port

/-- What stands behind the colon of the scheme of a web address with a host, maybe a port, and a
path. -/
def hierarchy (host : List Char) (port? : Option Nat) (path : List Char) : List Char :=
  '/' :: '/' :: (Address.bracketed host ++ portChars port? ++ '/' :: path)

/-- The web address with a host, maybe a port, and a path, given without the slash in front of it.
-/
def webUrl (scheme : String) (host : Host) (port? : Option Nat) (path : List Char) : Url :=
  { scheme
    host? := some host
    port? := if defaultPort? scheme = port? then none else port?
    path := .segments (segmentsOf true path) }

section Authority

variable {host path : List Char} {port? : Option Nat} {scheme : String} {n : Nat}

theorem mem_bracketed (chars : ∀ c ∈ host, IsHostChar c) (hc : c ∈ Address.bracketed host) :
    IsHostChar c ∨ c = '[' ∨ c = ']' := by
  unfold Address.bracketed at hc
  split at hc
  · obtain hc | hc := List.mem_append.1 hc
    · obtain rfl | hc := List.mem_cons.1 hc
      · exact Or.inr (Or.inl rfl)
      · exact Or.inl (chars c hc)
    · exact Or.inr (Or.inr (List.mem_singleton.1 hc))
  · exact Or.inl (chars c hc)

theorem isHostChar_of_mem_portChars (hc : c ∈ portChars port?) : IsHostChar c := by
  cases port? with
  | none => cases hc
  | some n =>
      obtain rfl | hc := List.mem_cons.1 hc
      · exact isHostChar_colon
      · exact isHostChar_of_isDigit (Text.isDigit_of_mem_toDigits hc)

/-- What may stand in a host with a port when the host is made of the characters of hosts. -/
theorem mem_bracketed_append (chars : ∀ c ∈ host, IsHostChar c)
    (hc : c ∈ Address.bracketed host ++ portChars port?) : IsHostChar c ∨ c = '[' ∨ c = ']' := by
  obtain hc | hc := List.mem_append.1 hc
  · exact mem_bracketed chars hc
  · exact Or.inl (isHostChar_of_mem_portChars hc)

theorem mem_authority (chars : ∀ c ∈ host, IsHostChar c) (hc : c ∈ authority host n) :
    IsHostChar c ∨ c = '[' ∨ c = ']' := by
  have hport : authority host n = Address.bracketed host ++ portChars (some n) := rfl
  rw [hport] at hc
  exact mem_bracketed_append chars hc

/-- No character of a host with a port has a meaning of its own in an address. -/
theorem plain_of_mem (chars : ∀ c ∈ host, IsHostChar c)
    (hc : c ∈ Address.bracketed host ++ portChars port?) :
    32 < c.toNat ∧ isSlash true c = false ∧ c ≠ '@' ∧ c ≠ '#' ∧ c ≠ '?' := by
  have hrange : 45 ≤ c.toNat ∧ c.toNat ≠ 47 ∧ c.toNat ≠ 63 ∧ c.toNat ≠ 64 ∧ c.toNat ≠ 92 := by
    obtain hchar | rfl | rfl := mem_bracketed_append chars hc
    · rw [isHostChar_iff] at hchar
      omega
    · decide
    · decide
  have hne (d : Char) (hd : d.toNat ≠ c.toNat) : c ≠ d := by
    rintro rfl
    exact hd rfl
  have hslash : c ≠ '/' ∧ c ≠ '\\' :=
    ⟨hne '/' (by change 47 ≠ c.toNat; omega), hne '\\' (by change 92 ≠ c.toNat; omega)⟩
  refine ⟨by omega, by simpa [isSlash] using hslash, ?_, ?_, ?_⟩
  · exact hne '@' (by change 64 ≠ c.toNat; omega)
  · exact hne '#' (by change 35 ≠ c.toNat; omega)
  · exact hne '?' (by change 63 ≠ c.toNat; omega)

/-- A host ends in front of its port, or of the path if it has none. -/
theorem splitHost_bracketed (chars : ∀ c ∈ host, IsHostChar c) (rest : List Char)
    (stop : isSlash true c = true ∨ c = ':') :
    splitHost (isSlash true) false (Address.bracketed host ++ c :: rest) =
      (Address.bracketed host, c :: rest) := by
  have hclosing {c : Char} (hc : c ∈ host) : c ≠ '[' ∧ c ≠ ']' := by
    have hrange := isHostChar_iff.1 (chars c hc)
    constructor
    · rintro rfl
      revert hrange
      decide
    · rintro rfl
      revert hrange
      decide
  unfold Address.bracketed
  split
  · have hinside : splitHost (isSlash true) true (host ++ ']' :: c :: rest) =
        (host ++ [']'], c :: rest) := by
      apply splitHost_inside _ rfl stop
      intro c hc
      exact ⟨isSlash_of_isHostChar (chars c hc), (hclosing hc).2⟩
    simp only [List.cons_append, List.append_assoc, List.nil_append, splitHost]
    simp [hinside, isSlash]
  next nocolon =>
    apply splitHost_outside _ stop
    intro c hc
    refine ⟨isSlash_of_isHostChar (chars c hc), ?_, (hclosing hc).1⟩
    rintro rfl
    exact nocolon (by simpa using hc)

theorem splitHost_portChars (chars : ∀ c ∈ host, IsHostChar c) (port? : Option Nat)
    (path : List Char) :
    splitHost (isSlash true) false (Address.bracketed host ++ (portChars port? ++ '/' :: path)) =
      (Address.bracketed host, portChars port? ++ '/' :: path) := by
  cases port? with
  | none => exact splitHost_bracketed chars path (Or.inl isSlash_slash)
  | some n => exact splitHost_bracketed chars (Nat.toDigits 10 n ++ '/' :: path) (Or.inr rfl)

/-- A host with a port and a path is read as the host, the port and the path. -/
theorem readHierarchy_web (web : scheme = "http" ∨ scheme = "https")
    (chars : ∀ c ∈ host, IsHostChar c) (nonempty : host ≠ []) (bounded : ∀ n ∈ port?, n ≤ 65535)
    (path : List Char) :
    readHierarchy scheme (Address.bracketed host ++ portChars port? ++ '/' :: path) false none
        none =
      (Host.parse? (Address.bracketed host)).map fun h => webUrl scheme h port? path := by
  have hspecial : isSpecial scheme = true := by
    obtain rfl | rfl := web <;> decide
  have hinfo :
      splitUserInfo (isSlash true) (Address.bracketed host ++ portChars port? ++ '/' :: path) =
      (none, Address.bracketed host ++ portChars port? ++ '/' :: path) := by
    have htake : (Address.bracketed host ++ portChars port? ++ '/' :: path).takeWhile
        (fun c => !isSlash true c) = Address.bracketed host ++ portChars port? := by
      rw [List.takeWhile_append_of_pos (by
        intro c hc
        simp [(plain_of_mem chars hc).2.1])]
      simp [isSlash]
    have hback : (Address.bracketed host ++ portChars port?).reverse.takeWhile (· ≠ '@') =
        (Address.bracketed host ++ portChars port?).reverse := by
      rw [List.takeWhile_eq_self_iff]
      intro c hc
      simpa using (plain_of_mem chars (List.mem_reverse.1 hc)).2.2.1
    simp only [splitUserInfo, htake, hback, List.length_reverse, if_pos]
  have hnamed : (Address.bracketed host).isEmpty = false := by
    unfold Address.bracketed
    split
    · rfl
    · simpa using nonempty
  have hpath : readPath true ('/' :: path) = segmentsOf true path := by
    simp [readPath, isSlash]
  have hhost := splitHost_portChars chars port? path
  rw [← List.append_assoc] at hhost
  simp only [readHierarchy, hspecial, hinfo, readUserInfo, hhost, hnamed, readHost,
    readPort_portChars scheme bounded, if_true, Bool.false_and]
  cases Host.parse? (Address.bracketed host) with
  | none => rfl
  | some h => simp [hpath, webUrl]

theorem plain_of_mem_hierarchy (chars : ∀ c ∈ host, IsHostChar c)
    (plain : ∀ c ∈ path, 32 < c.toNat ∧ c ≠ '#' ∧ c ≠ '?') (hc : c ∈ hierarchy host port? path) :
    32 < c.toNat ∧ c ≠ '#' ∧ c ≠ '?' := by
  have hslash : 32 < '/'.toNat ∧ '/' ≠ '#' ∧ '/' ≠ '?' := by decide
  obtain rfl | hc := List.mem_cons.1 hc
  · exact hslash
  · obtain rfl | hc := List.mem_cons.1 hc
    · exact hslash
    · obtain hc | hc := List.mem_append.1 hc
      · obtain ⟨hlarge, -, -, hmark, hquery⟩ := plain_of_mem chars hc
        exact ⟨hlarge, hmark, hquery⟩
      · obtain rfl | hc := List.mem_cons.1 hc
        · exact hslash
        · exact plain c hc

/-- The host starts behind the slashes. -/
theorem dropWhile_hierarchy (chars : ∀ c ∈ host, IsHostChar c) (nonempty : host ≠ []) :
    (hierarchy host port? path).dropWhile (isSlash true) =
      Address.bracketed host ++ portChars port? ++ '/' :: path := by
  have hhead : ∀ c ∈ (Address.bracketed host ++ portChars port?).head?, isSlash true c = false := by
    intro c hc
    exact (plain_of_mem chars (List.mem_of_mem_head? hc)).2.1
  cases hfront : Address.bracketed host ++ portChars port? with
  | nil =>
      unfold Address.bracketed at hfront
      split at hfront
      · cases hfront
      · exact absurd (List.append_eq_nil_iff.1 hfront).1 nonempty
  | cons c more =>
      rw [hfront] at hhead
      rw [hierarchy, hfront, List.dropWhile_cons_of_pos isSlash_slash,
        List.dropWhile_cons_of_pos isSlash_slash, List.cons_append,
        List.dropWhile_cons_of_neg (by simp [hhead c rfl])]

/-- A web address made of a host, maybe a port, and a path is read as these, unless the host denotes
none. -/
theorem parse?_hierarchy (web : scheme = "http" ∨ scheme = "https")
    (chars : ∀ c ∈ host, IsHostChar c) (nonempty : host ≠ []) (bounded : ∀ n ∈ port?, n ≤ 65535)
    (plain : ∀ c ∈ path, 32 < c.toNat ∧ c ≠ '#' ∧ c ≠ '?') {text : String}
    (shape : text.toList = scheme.toList ++ ':' :: hierarchy host port? path) :
    parse? text =
      (Host.parse? (Address.bracketed host)).map fun h => webUrl scheme h port? path := by
  have hscheme : isSpecial scheme = true ∧ scheme ≠ fileScheme := by
    obtain rfl | rfl := web <;> decide
  obtain ⟨hspecial, hfile⟩ := hscheme
  have hcleaned : cleaned (scheme.toList ++ ':' :: hierarchy host port? path) =
      scheme.toList ++ ':' :: hierarchy host port? path := by
    apply cleaned_eq_self
    intro c hc
    obtain hc | hc := List.mem_append.1 hc
    · have := letter_of_mem_web web c hc
      omega
    · obtain rfl | hc := List.mem_cons.1 hc
      · decide
      · exact (plain_of_mem_hierarchy chars plain hc).1
  have hfragment :
      cutAt (· == '#') (hierarchy host port? path) = (hierarchy host port? path, none) := by
    apply cutAt_of_not
    intro c hc
    simpa using (plain_of_mem_hierarchy chars plain hc).2.1
  have hquery :
      cutAt (· == '?') (hierarchy host port? path) = (hierarchy host port? path, none) := by
    apply cutAt_of_not
    intro c hc
    simpa using (plain_of_mem_hierarchy chars plain hc).2.2
  rw [parse?, shape, hcleaned, readScheme_web web]
  simp only [Option.bind_eq_bind, Option.bind_some, hfragment, hquery, hspecial, hfile, if_true,
    if_false, dropWhile_hierarchy chars nonempty]
  exact readHierarchy_web web chars nonempty bounded path

/-- A web address made of a host and a port alone is read as the root of that server, unless the
host denotes none. -/
theorem parse?_authority (web : scheme = "http" ∨ scheme = "https")
    (chars : ∀ c ∈ host, IsHostChar c) (nonempty : host ≠ []) (bounded : n ≤ 65535) :
    parse? (scheme ++ "://" ++ String.ofList (authority host n) ++ "/") =
      (Host.parse? (Address.bracketed host)).map fun h => Address.baseUrl scheme h n := by
  have hshape : (scheme ++ "://" ++ String.ofList (authority host n) ++ "/").toList =
      scheme.toList ++ ':' :: hierarchy host (some n) [] := by
    simp [hierarchy, authority, portChars]
  have hbounded : ∀ m ∈ some n, m ≤ 65535 := by simpa using bounded
  have hroot : segmentsOf true [] = [""] := by decide
  have hbase (h : Host) : webUrl scheme h (some n) [] = Address.baseUrl scheme h n := by
    rw [webUrl, hroot, Address.baseUrl]
  rw [parse?_hierarchy web chars nonempty hbounded (List.forall_mem_nil _) hshape]
  simp only [hbase]

end Authority

end Northbound.Url
