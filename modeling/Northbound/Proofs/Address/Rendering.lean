import Northbound.Proofs.Address.Grammar

/-!
# Addresses as text

The text of an address is one of the ways to write it, and the only one that is made of its host and
its port alone. Main statement: it is read as the same address, and two addresses are the same
exactly if their texts are.
-/

namespace Northbound

namespace Address

variable {text other : String} {a b : Address} {core host port : List Char} {n : Nat}

/-- The text of an address is its authority in a web address. -/
theorem toList_render (a : Address) : a.render.toList = Url.authority a.host.toList a.port := by
  rw [render, String.toList_ofList, Url.authority]

/-- The digits of a number are a port of that number. -/
theorem isPort_toDigits (bounded : n ≤ maxPort) : IsPort (Nat.toDigits 10 n) n := by
  have hdigits : ∀ c ∈ Nat.toDigits 10 n, c.isDigit = true := fun c => Text.isDigit_of_mem_toDigits
  have hread : Text.readUnsigned 10 maxPort (Nat.toDigits 10 n) = some n := by
    have hpadded := Text.readUnsigned_padZeros 10 (by decide) (by decide) 0 bounded
    simpa [Text.padZeros] using hpadded
  refine ⟨_, Text.trimmed_iff.2 ?_, Text.readUnsigned_ten_eq_some_iff.1 hread⟩
  exact Text.trimChars_of_not_blank fun c hc => Text.isBlank_of_isDigit (hdigits c hc)

theorem IsPort.le_maxPort (h : IsPort port n) : n ≤ maxPort := by
  obtain ⟨core, -, sign, digits, -, -, -, -, -, bounded⟩ := h
  exact bounded

/-- An authority is divided into the host and the digits of the port that it is made of. -/
theorem parts_authority (wellFormed : IsHost host) (n : Nat) :
    Parts (Url.authority host n) host (Nat.toDigits 10 n) := by
  have hcolon : ':' ∉ Nat.toDigits 10 n := by
    intro hc
    exact absurd (Text.isDigit_of_mem_toDigits hc) (by decide)
  unfold Url.authority bracketed
  split
  · have hclosing : ']' ∉ host := by
      intro hc
      have hchar := Url.isHostChar_iff.1 (wellFormed.hostChars ']' hc)
      exact absurd hchar (by decide)
    have hparts : Parts ('[' :: host ++ ']' :: ':' :: Nat.toDigits 10 n) host (Nat.toDigits 10 n) :=
      .bracketed hclosing
    simpa using hparts
  next nocolon =>
    exact .plain (wellFormed.head?_append_ne _) (by simpa using nocolon) hcolon

/-- There is no white space in an authority. -/
theorem trimmed_authority (wellFormed : IsHost host) (n : Nat) :
    Text.Trimmed (Url.authority host n) (Url.authority host n) := by
  apply Text.trimmed_iff.2
  apply Text.trimChars_of_not_blank
  intro c hc
  have hrange : 45 ≤ c.toNat ∧ c.toNat ≤ 122 := by
    obtain hchar | rfl | rfl := Url.mem_authority wellFormed.hostChars hc
    · rw [Url.isHostChar_iff] at hchar
      omega
    · decide
    · decide
  simp [Text.isBlank]
  omega

/-- An address that is read has its host and its port written in its text. -/
theorem exists_parts_of_parse (parsed : parse text = .ok a) : ∃ core port,
    Text.Trimmed text.toList core ∧ Parts core a.host.toList port ∧ IsHost a.host.toList ∧
      IsPort port a.port := by
  obtain ⟨result, verdict⟩ := exists_verdict (Text.trimChars text.toList)
  rw [← verdict.parse_eq, parsed] at verdict
  cases verdict with
  | @accepted host port n httpBase httpsBase parts wellFormed number http https =>
      rw [String.toList_ofList]
      exact ⟨_, port, Text.trimmed_trimChars _, parts, wellFormed, number⟩

/-- An address that was checked has the host that its text denotes, under both schemes. -/
theorem exists_host_of_parse (parsed : parse text = .ok a) :
    ∃ host, Url.Host.parse? (bracketed a.host.toList) = some host ∧
      a.httpBase = baseUrl "http" host a.port ∧ a.httpsBase = baseUrl "https" host a.port := by
  obtain ⟨core, port, trimmed, parts, wellFormed, number⟩ := exists_parts_of_parse parsed
  rw [← Text.trimmed_iff.1 trimmed] at parts
  rw [parse_of_wellFormed parts.split wellFormed number] at parsed
  split at parsed
  · cases parsed
  next host found =>
    have same := Except.ok.inj parsed
    exact ⟨host, found, (congrArg httpBase same).symm, (congrArg httpsBase same).symm⟩

/-- However a host and a port are written, they are read as the same address. -/
theorem parse_eq_of_parts (parsed : parse text = .ok a) (trimmed : Text.Trimmed other.toList core)
    (parts : Parts core a.host.toList port) (number : IsPort port a.port) :
    parse other = .ok a := by
  obtain ⟨core', port', trimmed', parts', wellFormed, number'⟩ := exists_parts_of_parse parsed
  rw [← Text.trimmed_iff.1 trimmed] at parts
  rw [← Text.trimmed_iff.1 trimmed'] at parts'
  rw [parse_of_wellFormed parts.split wellFormed number]
  rw [parse_of_wellFormed parts'.split wellFormed number'] at parsed
  exact parsed

/-- The text of an address that was read is read as this address. -/
theorem parse_render (parsed : parse text = .ok a) : parse a.render = .ok a := by
  obtain ⟨-, port, -, -, wellFormed, number⟩ := exists_parts_of_parse parsed
  have trimmed : Text.Trimmed a.render.toList (Url.authority a.host.toList a.port) := by
    rw [toList_render]
    exact trimmed_authority wellFormed a.port
  exact parse_eq_of_parts parsed trimmed (parts_authority wellFormed a.port)
    (isPort_toDigits number.le_maxPort)

/-- The text of an address that was read is read as this address, and so is every other way to write
its host and its port, whatever white space, brackets, zeros or plus sign it has. Two addresses that
were read are equal exactly if their texts are. -/
theorem render_canonical (parsed : parse text = .ok a) :
    parse a.render = .ok a ∧
    (∀ other, parse other = .ok a ↔ ∃ core port, Text.Trimmed other.toList core ∧
      Parts core a.host.toList port ∧ IsPort port a.port) ∧
    ∀ other b, parse other = .ok b → (a = b ↔ a.render = b.render) := by
  refine ⟨parse_render parsed, ?_, ?_⟩
  · intro other
    constructor
    · intro same
      obtain ⟨core, port, trimmed, parts, -, number⟩ := exists_parts_of_parse same
      exact ⟨core, port, trimmed, parts, number⟩
    · rintro ⟨core, port, trimmed, parts, number⟩
      exact parse_eq_of_parts parsed trimmed parts number
  · intro other b parsed'
    constructor
    · rintro rfl
      rfl
    · intro same
      have hread := parse_render parsed
      rw [same, parse_render parsed'] at hread
      exact (Except.ok.inj hread).symm

/-- An address of a host whose name has no colon. -/
def namedAddress : Address where
  host := "Osm"
  port := 80
  httpBase := baseUrl "http" (.domain "osm") 80
  httpsBase := baseUrl "https" (.domain "osm") 80

/-- Brackets, white space, a sign and zeros are not in the text of an address. -/
theorem render_canonical_bracketed :
    parse " [Osm]:  +0080\n" = .ok namedAddress ∧ namedAddress.render = "Osm:80" ∧
      parse "Osm:80" = .ok namedAddress := by
  have hparsed : parse " [Osm]:  +0080\n" = .ok namedAddress := by
    have hread : (parse " [Osm]:  +0080\n").toOption = some namedAddress := by decide +kernel
    cases hparse : parse " [Osm]:  +0080\n" with
    | error e => simp [hparse, Except.toOption] at hread
    | ok a => rw [Option.some.inj ((congrArg Except.toOption hparse).symm.trans hread)]
  have hrender : namedAddress.render = "Osm:80" := by decide
  obtain ⟨hsame, -, -⟩ := render_canonical hparsed
  rw [hrender] at hsame
  exact ⟨hparsed, hrender, hsame⟩

end Address

end Northbound
