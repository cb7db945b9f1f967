import Mathlib.Data.Nat.Digits.Defs
import Northbound.Proofs.Url.Authority

/-!
# Internet addresses as text

An address of eight groups is written with its longest run of zeros left out, one of four numbers in
decimal. Main statements: what is read is an address with as many parts as it has to have, none of
them too large, and the text of such an address is read as the same address.
-/

namespace Northbound.Url

/-- An address of eight groups, of 16 bits each. -/
structure IsIpv6 (groups : List Nat) : Prop where
  eight : groups.length = 8
  small : ∀ g ∈ groups, g < 65536

/-- An address of four numbers, of 8 bits each. -/
structure IsIpv4 (octets : List Nat) : Prop where
  four : octets.length = 4
  small : ∀ n ∈ octets, n ≤ 255

section Groups

variable {groups : List Nat} {cs xs rest : List Char}

/-- Groups with colons between them. -/
def groupChars (groups : List Nat) : List Char :=
  [':'].intercalate (groups.map (Nat.toDigits 16))

@[simp] theorem groupChars_nil : groupChars [] = [] := rfl

@[simp] theorem groupChars_singleton (g : Nat) : groupChars [g] = Nat.toDigits 16 g := by
  simp [groupChars]

theorem groupChars_cons (g : Nat) (nonempty : groups ≠ []) :
    groupChars (g :: groups) = Nat.toDigits 16 g ++ ':' :: groupChars groups := by
  obtain ⟨g', more, rfl⟩ := List.exists_cons_of_ne_nil nonempty
  simp [groupChars, List.intercalate_cons_cons]

theorem colon_not_mem_toDigits (n : Nat) : ':' ∉ Nat.toDigits 16 n := by
  intro found
  obtain ⟨d, value⟩ :=
    Text.exists_hexValue?_of_readHexDigits (Text.readHexDigits_toDigits n) ':' found
  have none : Text.hexValue? ':' = none := by decide
  rw [none] at value
  cases value

theorem group?_toDigits {g : Nat} (small : g < 65536) : group? (Nat.toDigits 16 g) = some g := by
  have short : (Nat.toDigits 16 g).length ≤ 4 := Nat.toDigits_length 16 g 4 (by decide) small
  rw [group?, if_neg, Text.readHexDigits_toDigits]
  simpa using short

theorem groups?_toDigits (mixed : Bool) (small : ∀ g ∈ groups, g < 65536) :
    groups? mixed (groups.map (Nat.toDigits 16)) = some groups := by
  induction groups with
  | nil => rfl
  | cons g groups ih =>
      obtain ⟨first, rest⟩ := List.forall_mem_cons.1 small
      -- The last group is read on its own, since an address of numbers may stand there.
      cases groups with
      | nil => simp only [List.map_cons, List.map_nil, groups?, group?_toDigits first]
      | cons g' more =>
          rw [List.map_cons] at ih
          simp only [List.map_cons, groups?, group?_toDigits first, ih rest, Option.bind_eq_bind,
            Option.bind_some, Option.pure_def]

theorem groupsOf?_groupChars (mixed : Bool) (small : ∀ g ∈ groups, g < 65536) :
    groupsOf? mixed (groupChars groups) = some groups := by
  cases groups with
  | nil => rfl
  | cons g more =>
      have nonempty : groupChars (g :: more) ≠ [] := by
        cases more with
        | nil => simp [groupChars]
        | cons g' more => simp [groupChars_cons]
      have clean : ∀ s ∈ (g :: more).map (Nat.toDigits 16), ':' ∉ s := by
        intro s hs
        obtain ⟨n, -, rfl⟩ := List.mem_map.1 hs
        exact colon_not_mem_toDigits n
      rw [groupsOf?, if_neg (by simpa using nonempty), groupChars,
        splitAtChar_intercalate clean (by simp)]
      exact groups?_toDigits mixed small

theorem cutAtDoubleColon_cons {c : Char} (h : ∀ rest', c = ':' → rest ≠ ':' :: rest') :
    cutAtDoubleColon (c :: rest) = (cutAtDoubleColon rest).map fun p => (c :: p.1, p.2) :=
  cutAtDoubleColon.eq_2 c rest h

theorem cutAtDoubleColon_append (clean : ':' ∉ xs) (rest : List Char) :
    cutAtDoubleColon (xs ++ rest) = (cutAtDoubleColon rest).map fun p => (xs ++ p.1, p.2) := by
  induction xs with
  | nil => simp
  | cons x xs ih =>
      rw [List.mem_cons, not_or] at clean
      rw [List.cons_append, cutAtDoubleColon_cons (fun _ colon => absurd colon.symm clean.1),
        ih clean.2, Option.map_map]
      rfl

theorem groupChars_append_ne (nonempty : groups ≠ []) (rest rest' : List Char) :
    groupChars groups ++ rest ≠ ':' :: rest' := by
  obtain ⟨g, more, rfl⟩ := List.exists_cons_of_ne_nil nonempty
  obtain ⟨d, ds, digits⟩ := List.exists_cons_of_ne_nil (Nat.toDigits_ne_nil (b := 16) (n := g))
  have first : d ≠ ':' := by
    rintro rfl
    exact colon_not_mem_toDigits g (digits ▸ List.mem_cons_self)
  intro same
  cases more with
  | nil =>
      rw [groupChars_singleton, digits] at same
      exact first (List.cons.inj same).1
  | cons g' more =>
      rw [groupChars_cons _ (List.cons_ne_nil _ _), digits] at same
      exact first (List.cons.inj same).1

/-- A double colon behind groups is the first one. -/
theorem cutAtDoubleColon_groupChars (groups : List Nat) (rest : List Char) :
    cutAtDoubleColon (groupChars groups ++ rest) =
      (cutAtDoubleColon rest).map fun p => (groupChars groups ++ p.1, p.2) := by
  induction groups with
  | nil => simp
  | cons g groups ih =>
      by_cases last : groups = []
      · subst last
        rw [groupChars_singleton]
        exact cutAtDoubleColon_append (colon_not_mem_toDigits g) rest
      · rw [groupChars_cons g last, List.append_assoc, List.cons_append,
          cutAtDoubleColon_append (colon_not_mem_toDigits g),
          cutAtDoubleColon_cons (fun _ _ => groupChars_append_ne last _ _), ih, Option.map_map,
          Option.map_map]
        simp [Function.comp_def]

/-- The longest run of zeros stands where it is said to. -/
theorem eq_of_longestZeros (i : Nat) (groups : List Nat) : ∃ front back,
    groups = front ++ List.replicate (longestZeros i groups).2 0 ++ back ∧
      ((longestZeros i groups).2 ≠ 0 → (longestZeros i groups).1 = i + front.length) := by
  induction groups generalizing i with
  | nil => exact ⟨[], [], rfl, fun h => absurd rfl h⟩
  | cons g groups ih =>
      simp only [longestZeros]
      split
      · refine ⟨[], (g :: groups).dropWhile (· == 0), ?_, fun _ => rfl⟩
        have zeros : (g :: groups).takeWhile (· == 0) =
            List.replicate ((g :: groups).takeWhile (· == 0)).length 0 := by
          apply List.eq_replicate_of_mem
          intro z hz
          simpa using List.mem_takeWhile_imp hz
        rw [List.nil_append, ← zeros, List.takeWhile_append_dropWhile]
      · obtain ⟨front, back, shape, start⟩ := ih (i + 1)
        refine ⟨g :: front, back, ?_, fun h => ?_⟩
        · rw [List.cons_append, List.cons_append, ← shape]
        · rw [start h, List.length_cons]
          omega

/-- The text of an address of eight groups is its groups, or what is in front of a run of zeros and
what is behind it. -/
theorem ipv6Chars_cases (groups : List Nat) : ipv6Chars groups = groupChars groups ∨
    ∃ front back count, 2 ≤ count ∧ groups = front ++ List.replicate count 0 ++ back ∧
      ipv6Chars groups = groupChars front ++ ':' :: ':' :: groupChars back := by
  obtain ⟨front, back, shape, start⟩ := eq_of_longestZeros 0 groups
  have text : ipv6Chars groups =
      if (longestZeros 0 groups).2 < 2 then groupChars groups
      else groupChars (groups.take (longestZeros 0 groups).1) ++ "::".toList ++
        groupChars (groups.drop ((longestZeros 0 groups).1 + (longestZeros 0 groups).2)) := rfl
  rw [text]
  split
  · exact Or.inl rfl
  next long =>
    right
    generalize longestZeros 0 groups = run at shape start long
    have start : run.1 = front.length := by
      rw [start (by omega), Nat.zero_add]
    refine ⟨front, back, run.2, by omega, shape, ?_⟩
    have taken : groups.take run.1 = front := by
      rw [start, shape, List.append_assoc, List.take_left]
    have dropped : groups.drop (run.1 + run.2) = back := by
      have count : run.1 + run.2 = (front ++ List.replicate run.2 0).length := by
        rw [List.length_append, List.length_replicate, start]
      rw [count, shape, List.drop_left]
    rw [taken, dropped, List.append_assoc]
    rfl

/-- The text of an address of eight groups is read as these groups. -/
theorem readIpv6_ipv6Chars (h : IsIpv6 groups) : readIpv6 (ipv6Chars groups) = some groups := by
  obtain ⟨eight, small⟩ := h
  obtain text | ⟨front, back, count, long, shape, text⟩ := ipv6Chars_cases groups
  · have uncut : cutAtDoubleColon (groupChars groups) = none := by
      simpa [cutAtDoubleColon] using cutAtDoubleColon_groupChars groups []
    rw [text]
    simp [readIpv6, uncut, groupsOf?_groupChars true small, eight]
  · have cut : cutAtDoubleColon (groupChars front ++ ':' :: ':' :: groupChars back) =
        some (groupChars front, groupChars back) := by
      simp [cutAtDoubleColon_groupChars, cutAtDoubleColon]
    have smallFront : ∀ g ∈ front, g < 65536 := fun g hg => small g (by simp [shape, hg])
    have smallBack : ∀ g ∈ back, g < 65536 := fun g hg => small g (by simp [shape, hg])
    have lengths : front.length + count + back.length = 8 := by
      rw [shape] at eight
      simpa [Nat.add_assoc] using eight
    -- The zeros that were left out are as many as are missing.
    have missing : 8 - (front.length + back.length) = count := by omega
    have few : front.length + back.length ≤ 7 := by omega
    rw [text]
    simp [readIpv6, cut, groupsOf?_groupChars _ smallFront, groupsOf?_groupChars _ smallBack,
      missing, few, shape]

/-- A colon stands in the text of an address of eight groups. -/
theorem colon_mem_ipv6Chars (h : IsIpv6 groups) : ':' ∈ ipv6Chars groups := by
  obtain text | ⟨front, back, count, -, -, text⟩ := ipv6Chars_cases groups
  · obtain ⟨g, more, rfl⟩ := List.exists_cons_of_length_eq_add_one h.eight
    have several : more ≠ [] := by
      rintro rfl
      cases h.eight
    simp [text, groupChars_cons g several]
  · simp [text]

theorem group?_lt {g : Nat} (h : group? cs = some g) : g < 65536 := by
  unfold group? at h
  split at h
  · cases h
  next form =>
    have short : cs.length ≤ 4 := by
      rw [not_or, Nat.not_lt] at form
      exact form.2
    calc g < (0 + 1) * Nat.pow 16 cs.length := Text.readHexDigits_lt h
      _ ≤ (0 + 1) * Nat.pow 16 4 := Nat.mul_le_mul_left _ (Nat.pow_le_pow_right (by decide) short)

theorem octet?_le {n : Nat} (h : octet? cs = some n) : n ≤ 255 := by
  unfold octet? at h
  split at h
  · cases h
  · obtain ⟨m, -, h⟩ := Option.bind_eq_some_iff.1 h
    split at h
    next bounded => exact Option.some.inj h ▸ bounded
    · cases h

theorem readIpv4_le {octets : List Nat} (h : readIpv4 cs = some octets) :
    ∀ n ∈ octets, n ≤ 255 := by
  obtain ⟨parts, read, h⟩ := Option.bind_eq_some_iff.1 h
  split at h
  · cases h
    have values :=
      (mapM_eq_some_iff.1 read).flip.imp fun n s octet => And.intro (octet?_le octet) octet
    exact ((List.forall₂_and_left _ _).1 values).1
  · cases h

theorem groups?_lt {mixed : Bool} {parts : List (List Char)}
    (h : groups? mixed parts = some groups) :
    ∀ g ∈ groups, g < 65536 := by
  fun_induction groups? mixed parts generalizing groups with
  | case1 =>
      cases h
      exact List.forall_mem_nil _
  | case2 last g found =>
      cases h
      simpa using group?_lt found
  | case3 last missing isMixed a b c d found =>
      cases h
      have bounds := readIpv4_le found
      simp only [List.forall_mem_cons] at bounds ⊢
      refine ⟨by omega, by omega, List.forall_mem_nil _⟩
  | case4 => cases h
  | case5 => cases h
  | case6 p rest _ ih =>
      obtain ⟨g, first, h⟩ := Option.bind_eq_some_iff.1 h
      obtain ⟨gs, rest, h⟩ := Option.bind_eq_some_iff.1 h
      cases h
      exact List.forall_mem_cons.2 ⟨group?_lt first, ih rest⟩

theorem groupsOf?_lt {mixed : Bool} (h : groupsOf? mixed cs = some groups) :
    ∀ g ∈ groups, g < 65536 := by
  unfold groupsOf? at h
  split at h
  · cases h
    exact List.forall_mem_nil _
  · exact groups?_lt h

/-- What is read as an address of eight groups is one. -/
theorem isIpv6_of_readIpv6 (h : readIpv6 cs = some groups) : IsIpv6 groups := by
  unfold readIpv6 at h
  split at h
  · obtain ⟨gs, read, h⟩ := Option.bind_eq_some_iff.1 h
    split at h
    next eight =>
      cases h
      exact ⟨eight, groupsOf?_lt read⟩
    · cases h
  next front back cut =>
    obtain ⟨f, hfront, h⟩ := Option.bind_eq_some_iff.1 h
    obtain ⟨b, hback, h⟩ := Option.bind_eq_some_iff.1 h
    split at h
    next few =>
      cases h
      constructor
      · simp only [List.length_append, List.length_replicate]
        omega
      · intro g hg
        simp only [List.mem_append, List.mem_replicate] at hg
        obtain (hg | ⟨-, rfl⟩) | hg := hg
        · exact groupsOf?_lt hfront g hg
        · decide
        · exact groupsOf?_lt hback g hg
    · cases h

end Groups

section Octets

variable {octets : List Nat} {cs : List Char}

theorem looseNumber?_toDigits {n : Nat} (small : n ≤ 255) :
    looseNumber? (Nat.toDigits 10 n) = some n := by
  have all : ∀ m < 256, looseNumber? (Nat.toDigits 10 m) = some m := by decide +kernel
  exact all n (Nat.lt_succ_of_le small)

theorem dot_not_mem_toDigits (n : Nat) : '.' ∉ Nat.toDigits 10 n := by
  intro found
  exact absurd (Text.isDigit_of_mem_toDigits found) (by decide)

/-- The pieces of an address of numbers are their digits. -/
theorem splitAtChar_ipv4Chars (nonempty : octets ≠ []) :
    splitAtChar '.' (ipv4Chars octets) = octets.map (Nat.toDigits 10) := by
  apply splitAtChar_intercalate _ (by simpa using nonempty)
  intro s hs
  obtain ⟨n, -, rfl⟩ := List.mem_map.1 hs
  exact dot_not_mem_toDigits n

theorem dottedParts_ipv4Chars (nonempty : octets ≠ []) :
    dottedParts (ipv4Chars octets) = octets.map (Nat.toDigits 10) := by
  have last : (octets.map (Nat.toDigits 10)).getLast? ≠ some [] := by
    intro h
    obtain ⟨n, -, same⟩ := List.mem_map.1 (List.mem_of_getLast? h)
    exact Nat.toDigits_ne_nil same
  simp only [dottedParts, splitAtChar_ipv4Chars nonempty, last, false_and, if_false]

theorem IsIpv4.ne_nil (h : IsIpv4 octets) : octets ≠ [] := by
  rintro rfl
  cases h.four

/-- The text of an address of four numbers is read as these numbers. -/
theorem readLooseIpv4_ipv4Chars (h : IsIpv4 octets) :
    readLooseIpv4 (ipv4Chars octets) = some octets := by
  have nonempty := h.ne_nil
  obtain ⟨four, small⟩ := h
  have numbers : (dottedParts (ipv4Chars octets)).mapM looseNumber? = some octets := by
    rw [dottedParts_ipv4Chars nonempty, mapM_eq_some_iff, List.forall₂_map_left_iff,
      List.forall₂_same]
    exact fun n hn => looseNumber?_toDigits (small n hn)
  have last : octets.getLast? = some (octets.getLast nonempty) :=
    List.getLast?_eq_some_getLast nonempty
  have lastSmall : octets.getLast nonempty ≤ 255 := small _ (List.getLast_mem nonempty)
  have front : ∀ n ∈ octets.dropLast, n ≤ 255 :=
    fun n hn => small n (List.dropLast_subset octets hn)
  have whole : octets.dropLast ++ [octets.getLast nonempty] = octets :=
    List.dropLast_concat_getLast nonempty
  -- The last number fills the places of all that are missing, and here none are.
  have rest : octets.getLast nonempty % 256 = octets.getLast nonempty := Nat.mod_eq_of_lt (by omega)
  have fits : ¬Nat.pow 256 1 ≤ octets.getLast nonempty := by
    change ¬256 ^ 1 ≤ _
    omega
  simpa [readLooseIpv4, numbers, last, four, fits, rest, whole] using front

/-- What is read as an address of numbers is one of four. -/
theorem isIpv4_of_readLooseIpv4 (h : readLooseIpv4 cs = some octets) : IsIpv4 octets := by
  obtain ⟨numbers, -, h⟩ := Option.bind_eq_some_iff.1 h
  obtain ⟨last, found, h⟩ := Option.bind_eq_some_iff.1 h
  have nonempty : 0 < numbers.length := by
    rw [List.length_pos_iff]
    rintro rfl
    cases found
  dsimp only at h
  split at h
  · cases h
  next bounds =>
    cases h
    simp only [not_or, Nat.not_lt, Bool.not_eq_true, List.any_eq_false, decide_eq_true_eq] at bounds
    obtain ⟨few, front, -⟩ := bounds
    constructor
    · simp only [List.length_append, List.length_dropLast, List.length_reverse, List.length_map,
        List.length_range]
      omega
    · intro n hn
      simp only [List.mem_append, List.mem_reverse, List.mem_map] at hn
      obtain hn | ⟨i, -, rfl⟩ := hn
      · exact front n hn
      · exact Nat.le_of_lt_succ (Nat.mod_lt _ (by decide))

/-- The text of an address of numbers ends in one. -/
theorem endsInNumber_ipv4Chars (nonempty : octets ≠ []) :
    endsInNumber (ipv4Chars octets) = true := by
  have last : (octets.map (Nat.toDigits 10)).getLast? =
      some (Nat.toDigits 10 (octets.getLast nonempty)) := by
    rw [List.getLast?_map, List.getLast?_eq_some_getLast nonempty, Option.map_some]
  have digits : (Nat.toDigits 10 (octets.getLast nonempty)).all Char.isDigit = true := by
    rw [List.all_eq_true]
    exact fun c => Text.isDigit_of_mem_toDigits
  simp [endsInNumber, dottedParts_ipv4Chars nonempty, last, digits]

theorem ipv4Chars_ne_nil (nonempty : octets ≠ []) : ipv4Chars octets ≠ [] := by
  intro empty
  have ends := endsInNumber_ipv4Chars nonempty
  rw [empty] at ends
  exact absurd ends (by decide)

end Octets

end Northbound.Url
