import Northbound.Proofs.Text.Encoding
import Northbound.Proofs.Text.Trimming
import Northbound.Proofs.Url.Authority

/-!
# The grammar of addresses

An address is a host and a port with a colon between them, with brackets around the host or without.
The grammar says which texts are addresses, and of each other text what is wrong with it: where it
is divided is looked at first, then the form of the host, then the port, and at last whether the
host denotes one.
-/

namespace Northbound

namespace Address

variable {address rest host port tail : List Char} {n : Nat}

/-- A label of a host name: up to 63 letters, digits, underscores and hyphens, one at least. -/
structure IsLabel (label : List Char) : Prop where
  nonempty : label ≠ []
  short : label.length ≤ 63
  chars : ∀ c ∈ label, c.isAlphanum = true ∨ c = '_' ∨ c = '-'

/-- A host name: labels with dots between them. -/
def IsName (host : List Char) : Prop :=
  ∃ labels, labels ≠ [] ∧ host = ['.'].intercalate labels ∧ ∀ label ∈ labels, IsLabel label

/-- The form of a host: an internet address or a name, of 1 to 253 bytes. -/
structure IsHost (host : List Char) : Prop where
  nonempty : 1 ≤ (utf8 (String.ofList host)).length
  short : (utf8 (String.ofList host)).length ≤ 253
  form : Url.isIpAddress host = true ∨ IsName host

/-- The form of a port, and its number: white space around it, maybe a plus sign, and digits. -/
def IsPort (port : List Char) (n : Nat) : Prop :=
  ∃ core, Text.Trimmed port core ∧
    ∃ sign digits, core = sign ++ digits ∧ (sign = [] ∨ sign = ['+']) ∧ digits ≠ [] ∧
      (∀ c ∈ digits, c.isDigit = true) ∧ n = Nat.ofDigitChars 10 digits 0 ∧ n ≤ 65535

/-- How an address is divided into host and port. What opens with a bracket is divided behind the
first closing one, anything else at its only colon. -/
inductive Parts : (address host port : List Char) → Prop
  | bracketed {host port : List Char} (inside : ']' ∉ host) :
      Parts ('[' :: host ++ ']' :: ':' :: port) host port
  | plain {host port : List Char} (unbracketed : (host ++ ':' :: port).head? ≠ some '[')
      (first : ':' ∉ host) (last : ':' ∉ port) : Parts (host ++ ':' :: port) host port

/-- The root of a server as it is handed to the reader of web addresses. -/
def rootText (scheme : String) (host : List Char) (port : Nat) : String :=
  scheme ++ "://" ++ String.ofList (Url.authority host port) ++ "/"

/-- What becomes of an address without white space around it. Of several faults, the one that comes
first here tells. -/
inductive Verdict (address : List Char) : Except AddressError Address → Prop
  /-- A bracket is not closed. -/
  | unclosed {rest : List Char} (shape : address = '[' :: rest) (unclosed : ']' ∉ rest) :
      Verdict address (.error (.invalidHostname (String.ofList address)))
  /-- No port follows the brackets. -/
  | closed {host tail : List Char} (shape : address = '[' :: host ++ ']' :: tail)
      (inside : ']' ∉ host) (portless : tail.head? ≠ some ':') :
      Verdict address (.error (.missingPort (String.ofList address)))
  /-- No colon is there, nor a bracket in front. -/
  | undivided (unbracketed : address.head? ≠ some '[') (portless : ':' ∉ address) :
      Verdict address (.error (.missingPort (String.ofList address)))
  /-- A host with a colon has no brackets. -/
  | colons {host port : List Char} (unbracketed : address.head? ≠ some '[')
      (shape : address = host ++ ':' :: port) (last : ':' ∉ port) (another : ':' ∈ host) :
      Verdict address (.error (.invalidHostname (String.ofList address)))
  | host {host port : List Char} (parts : Parts address host port) (malformed : ¬IsHost host) :
      Verdict address (.error (.invalidHostname (String.ofList host)))
  | port {host port : List Char} (parts : Parts address host port) (wellFormed : IsHost host)
      (malformed : ∀ n, ¬IsPort port n) :
      Verdict address (.error (.invalidPort (String.ofList port)))
  /-- One of the two web addresses is refused. -/
  | refused {host port : List Char} {n : Nat} (parts : Parts address host port)
      (wellFormed : IsHost host)
      (number : IsPort port n) (refused : Url.parse? (rootText "http" host n) = none ∨
        Url.parse? (rootText "https" host n) = none) :
      Verdict address (.error (.invalidHostname (String.ofList host)))
  | accepted {host port : List Char} {n : Nat} {httpBase httpsBase : Url}
      (parts : Parts address host port) (wellFormed : IsHost host) (number : IsPort port n)
      (http : Url.parse? (rootText "http" host n) = some httpBase)
      (https : Url.parse? (rootText "https" host n) = some httpsBase) :
      Verdict address (.ok { host := String.ofList host, port := n, httpBase, httpsBase })

section Hosts

theorem isNameChar_iff {c : Char} :
    isNameChar c = true ↔ c.isAlphanum = true ∨ c = '_' ∨ c = '-' := by
  have hsign (d : Char) : c = d ↔ c.toNat = d.toNat := Char.toNat_inj.symm
  simp only [isNameChar, Url.isAlphanum_iff, Bool.or_eq_true, Bool.and_eq_true, decide_eq_true_eq,
    Text.le_iff_toNat_le, beq_iff_eq, hsign]
  change ((((97 ≤ c.toNat ∧ c.toNat ≤ 122) ∨ (65 ≤ c.toNat ∧ c.toNat ≤ 90)) ∨
    (48 ≤ c.toNat ∧ c.toNat ≤ 57)) ∨ c.toNat = 95) ∨ c.toNat = 45 ↔
      _ ∨ c.toNat = 95 ∨ c.toNat = 45
  omega

theorem isNameLabel_iff {label : List Char} : isNameLabel label = true ↔ IsLabel label := by
  simp only [isNameLabel, Bool.and_eq_true, Bool.not_eq_true', List.isEmpty_eq_false_iff,
    decide_eq_true_eq, List.all_eq_true, isNameChar_iff]
  constructor
  · rintro ⟨⟨nonempty, short⟩, chars⟩
    exact ⟨nonempty, short, chars⟩
  · rintro ⟨nonempty, short, chars⟩
    exact ⟨⟨nonempty, short⟩, chars⟩

/-- No dot stands in a label. -/
theorem IsLabel.dot_not_mem {label : List Char} (h : IsLabel label) : '.' ∉ label := by
  intro found
  exact absurd (h.chars '.' found) (by decide)

theorem isHostname_iff : isHostname host = true ↔ IsName host := by
  rw [isHostname, Url.splitAtChar_eq_splitOn, List.all_eq_true]
  simp only [isNameLabel_iff]
  constructor
  · intro h
    exact ⟨_, List.splitOn_ne_nil '.' host, (List.intercalate_splitOn '.').symm, h⟩
  · rintro ⟨labels, nonempty, rfl, h⟩
    rwa [List.splitOn_intercalate '.' (fun label mem => (h label mem).dot_not_mem) nonempty]

theorem isWellFormedHost_iff : isWellFormedHost host = true ↔ IsHost host := by
  have hempty : utf8 (String.ofList host) = [] ↔ host = [] := by
    constructor
    · intro h
      have hsame : String.ofList host = "" := utf8_inj h
      simpa using congrArg String.toList hsame
    · rintro rfl
      rfl
  have hlength : 1 ≤ (utf8 (String.ofList host)).length ↔ host ≠ [] := by
    rw [Nat.one_le_iff_ne_zero, ne_eq, List.length_eq_zero_iff, hempty]
  simp only [isWellFormedHost, Bool.and_eq_true, Bool.not_eq_true', List.isEmpty_eq_false_iff,
    decide_eq_true_eq, Bool.or_eq_true, isHostname_iff, ← hlength]
  constructor
  · rintro ⟨⟨nonempty, short⟩, form⟩
    exact ⟨nonempty, short, form⟩
  · rintro ⟨nonempty, short, form⟩
    exact ⟨⟨nonempty, short⟩, form⟩

theorem IsLabel.hostChars {label : List Char} (h : IsLabel label) :
    ∀ c ∈ label, Url.IsHostChar c := by
  intro c hc
  obtain alphanum | rfl | rfl := h.chars c hc
  · exact Or.inl alphanum
  · exact Or.inr (by simp)
  · exact Or.inr (by simp)

/-- A well-formed host is made of the characters of hosts. -/
theorem IsHost.hostChars (h : IsHost host) : ∀ c ∈ host, Url.IsHostChar c := by
  obtain ip | name := h.form
  · exact Url.isHostChar_of_isIpAddress ip
  · apply Url.isHostChar_of_splitAtChar Url.isHostChar_dot
    intro label hlabel
    have hall := List.all_eq_true.1 (isHostname_iff.2 name) label hlabel
    exact (isNameLabel_iff.1 hall).hostChars

theorem IsHost.ne_nil (h : IsHost host) : host ≠ [] := by
  rintro rfl
  exact absurd h.nonempty (by decide)

/-- A well-formed host does not open with a bracket. -/
theorem IsHost.head?_append_ne (h : IsHost host) (more : List Char) :
    (host ++ more).head? ≠ some '[' := by
  cases host with
  | nil => exact absurd rfl h.ne_nil
  | cons c host =>
      intro same
      have hfirst := h.hostChars c List.mem_cons_self
      rw [Option.some.inj same, Url.isHostChar_iff] at hfirst
      exact absurd hfirst (by decide)

end Hosts

section Ports

/-- No colon stands in a port. -/
theorem IsPort.colon_not_mem (h : IsPort port n) : ':' ∉ port := by
  obtain ⟨core, ⟨⟨front, back, rfl, hfront, hback⟩, -, -⟩, sign, digits, rfl, hsign, -,
    hdigits, -⟩ := h
  have hblank : Text.isBlank ':' ≠ true := by decide
  intro hc
  obtain hc | hc := List.mem_append.1 hc
  · obtain hc | hc := List.mem_append.1 hc
    · exact hblank (hfront ':' hc)
    · obtain hc | hc := List.mem_append.1 hc
      · obtain rfl | rfl := hsign
        · cases hc
        · exact absurd hc (by decide)
      · exact absurd (hdigits ':' hc) (by decide)
  · exact hblank (hback ':' hc)

theorem readPort_eq_ok_iff : readPort port = .ok n ↔ IsPort port n := by
  have hread : readPort port = .ok n ↔
      Text.readUnsigned 10 maxPort (Text.trimChars port) = some n := by
    unfold readPort
    cases Text.readUnsigned 10 maxPort (Text.trimChars port) <;> simp
  rw [hread, Text.readUnsigned_ten_eq_some_iff]
  constructor
  · intro written
    exact ⟨_, Text.trimmed_trimChars port, written⟩
  · rintro ⟨core, trimmed, written⟩
    rwa [Text.trimmed_iff.1 trimmed]

/-- What is no port is refused as it is written. -/
theorem readPort_of_malformed (h : ∀ n, ¬IsPort port n) :
    readPort port = .error (.invalidPort (String.ofList port)) := by
  have hread : ∀ n, readPort port ≠ .ok n := fun n => mt readPort_eq_ok_iff.1 (h n)
  unfold readPort at hread ⊢
  split
  next n found =>
    rw [found] at hread
    exact absurd rfl (hread n)
  next => rfl

end Ports

section Division

theorem takeWhile_of_not_mem {c : Char} (h : c ∉ host) (tail : List Char) :
    (host ++ c :: tail).takeWhile (· ≠ c) = host := by
  have hall : ∀ d ∈ host, decide (d ≠ c) = true := by
    intro d hd
    simpa using fun same : d = c => h (same ▸ hd)
  rw [List.takeWhile_append_of_pos hall]
  simp

theorem split_unclosed (unclosed : ']' ∉ rest) :
    split ('[' :: rest) = .error (.invalidHostname (String.ofList ('[' :: rest))) := by
  have hall : rest.takeWhile (· ≠ ']') = rest := by
    rw [List.takeWhile_eq_self_iff]
    intro c hc
    simpa using fun same : c = ']' => unclosed (same ▸ hc)
  simp only [split, hall, List.drop_length]

/-- What opens with a bracket is divided behind the closing one, if a colon follows it. -/
theorem split_closed (inside : ']' ∉ host) (tail : List Char) :
    split ('[' :: host ++ ']' :: tail) =
      match tail with
      | ':' :: port => .ok (host, port)
      | _ => .error (.missingPort (String.ofList ('[' :: host ++ ']' :: tail))) := by
  simp only [split, List.cons_append, takeWhile_of_not_mem inside, List.drop_left]
  cases tail with
  | nil => rfl
  | cons c tail =>
      by_cases colon : c = ':'
      · subst colon
        rfl
      · split <;> simp_all

theorem split_undivided (unbracketed : address.head? ≠ some '[') (portless : ':' ∉ address) :
    split address = .error (.missingPort (String.ofList address)) := by
  have hall : address.reverse.takeWhile (· ≠ ':') = address.reverse := by
    rw [List.takeWhile_eq_self_iff]
    intro c hc
    simpa using fun same : c = ':' => portless (same ▸ List.mem_reverse.1 hc)
  unfold split
  split
  · exact absurd rfl unbracketed
  · simp only [hall, List.reverse_reverse, if_pos]

/-- Anything else is divided at its last colon, in front of which no other may stand. -/
theorem split_colon (unbracketed : (host ++ ':' :: port).head? ≠ some '[') (last : ':' ∉ port) :
    split (host ++ ':' :: port) =
      if host.contains ':' then .error (.invalidHostname (String.ofList (host ++ ':' :: port)))
      else .ok (host, port) := by
  have hport : ((host ++ ':' :: port).reverse.takeWhile (· ≠ ':')).reverse = port := by
    have hreverse : (host ++ ':' :: port).reverse = port.reverse ++ ':' :: host.reverse := by simp
    rw [hreverse, takeWhile_of_not_mem (by simpa using last), List.reverse_reverse]
  have hlonger : ¬port.length = (host ++ ':' :: port).length := by
    simp only [List.length_append, List.length_cons]
    omega
  have hhost : (host ++ ':' :: port).take ((host ++ ':' :: port).length - port.length - 1) =
      host := by
    have hcount : (host ++ ':' :: port).length - port.length - 1 = host.length := by
      simp only [List.length_append, List.length_cons]
      omega
    rw [hcount, List.take_left]
  generalize whole : host ++ ':' :: port = address at *
  unfold split
  split
  · exact absurd rfl unbracketed
  · simp only [hport, hlonger, hhost, if_false]

/-- Host and port are divided as the grammar says. -/
theorem Parts.split (h : Parts address host port) : split address = .ok (host, port) := by
  cases h with
  | bracketed inside => exact split_closed inside _
  | plain unbracketed first last =>
      rw [split_colon unbracketed last]
      simp [first]

end Division

section Outcome

variable {text : String}

theorem parse_of_split_error {e : AddressError}
    (h : split (Text.trimChars text.toList) = .error e) : parse text = .error e := by
  simp only [parse, h]
  rfl

theorem parse_of_malformed_host (divided : split (Text.trimChars text.toList) = .ok (host, port))
    (malformed : ¬IsHost host) : parse text = .error (.invalidHostname (String.ofList host)) := by
  have hhost : isWellFormedHost host = false := by
    rw [← Bool.not_eq_true, isWellFormedHost_iff]
    exact malformed
  simp only [parse, divided, Bind.bind, Except.bind, hhost, Bool.not_false, if_true]
  rfl

theorem parse_of_malformed_port (divided : split (Text.trimChars text.toList) = .ok (host, port))
    (wellFormed : IsHost host) (malformed : ∀ n, ¬IsPort port n) :
    parse text = .error (.invalidPort (String.ofList port)) := by
  have hhost := isWellFormedHost_iff.2 wellFormed
  simp only [parse, divided, Bind.bind, Except.bind, hhost, Bool.not_true, Bool.false_eq_true,
    if_false, readPort_of_malformed malformed]

/-- A well-formed address is accepted exactly if its host denotes one. -/
theorem parse_of_wellFormed (divided : split (Text.trimChars text.toList) = .ok (host, port))
    (wellFormed : IsHost host) (number : IsPort port n) :
    parse text =
      match Url.Host.parse? (bracketed host) with
      | none => .error (.invalidHostname (String.ofList host))
      | some h => .ok { host := String.ofList host, port := n, httpBase := baseUrl "http" h n,
                        httpsBase := baseUrl "https" h n } := by
  have hhost := isWellFormedHost_iff.2 wellFormed
  have hport := readPort_eq_ok_iff.2 number
  simp only [parse, divided, Bind.bind, Except.bind, hhost, Bool.not_true, Bool.false_eq_true,
    if_false, hport]
  cases Url.Host.parse? (bracketed host) <;> rfl

/-- The web address of a server is read as its root, unless the host denotes none. -/
theorem parse?_rootText {scheme : String} (web : scheme = "http" ∨ scheme = "https")
    (wellFormed : IsHost host) (number : IsPort port n) :
    Url.parse? (rootText scheme host n) =
      (Url.Host.parse? (bracketed host)).map fun h => baseUrl scheme h n := by
  obtain ⟨core, -, sign, digits, -, -, -, -, -, bounded⟩ := number
  exact Url.parse?_authority web wellFormed.hostChars wellFormed.ne_nil bounded

/-- What the grammar says of a text is what becomes of it. -/
theorem Verdict.parse_eq {result : Except AddressError Address}
    (h : Verdict (Text.trimChars text.toList) result) : parse text = result := by
  generalize whole : Text.trimChars text.toList = address at h
  cases h with
  | unclosed shape unclosed =>
      subst shape
      apply parse_of_split_error
      rw [whole, split_unclosed unclosed]
  | @closed host tail shape inside portless =>
      subst shape
      apply parse_of_split_error
      rw [whole, split_closed inside]
      split
      · exact absurd rfl portless
      · rfl
  | undivided unbracketed portless =>
      apply parse_of_split_error
      rw [whole, split_undivided unbracketed portless]
  | colons unbracketed shape last another =>
      subst shape
      apply parse_of_split_error
      rw [whole, split_colon unbracketed last]
      simp [another]
  | host parts malformed =>
      exact parse_of_malformed_host (whole ▸ parts.split) malformed
  | port parts wellFormed malformed =>
      exact parse_of_malformed_port (whole ▸ parts.split) wellFormed malformed
  | refused parts wellFormed number refused =>
      rw [parse_of_wellFormed (whole ▸ parts.split) wellFormed number]
      rw [parse?_rootText (Or.inl rfl) wellFormed number,
        parse?_rootText (Or.inr rfl) wellFormed number, Option.map_eq_none_iff,
        Option.map_eq_none_iff, or_self] at refused
      rw [refused]
  | accepted parts wellFormed number http https =>
      rw [parse_of_wellFormed (whole ▸ parts.split) wellFormed number]
      rw [parse?_rootText (Or.inl rfl) wellFormed number] at http
      rw [parse?_rootText (Or.inr rfl) wellFormed number] at https
      obtain ⟨h, found, rfl⟩ := Option.map_eq_some_iff.1 http
      rw [found] at https ⊢
      cases https
      rfl

/-- Of a host and a port, once divided, the grammar always says something. -/
theorem exists_verdict_of_parts (parts : Parts address host port) :
    ∃ result, Verdict address result := by
  by_cases wellFormed : IsHost host
  · by_cases number : ∃ n, IsPort port n
    · obtain ⟨n, number⟩ := number
      cases http : Url.parse? (rootText "http" host n) with
      | none => exact ⟨_, .refused parts wellFormed number (Or.inl http)⟩
      | some httpBase =>
          cases https : Url.parse? (rootText "https" host n) with
          | none => exact ⟨_, .refused parts wellFormed number (Or.inr https)⟩
          | some httpsBase => exact ⟨_, .accepted parts wellFormed number http https⟩
    · exact ⟨_, .port parts wellFormed (not_exists.1 number)⟩
  · exact ⟨_, .host parts wellFormed⟩

/-- Of every text the grammar says something. -/
theorem exists_verdict (address : List Char) : ∃ result, Verdict address result := by
  by_cases bracketed : address.head? = some '['
  · obtain ⟨rest, shape⟩ := List.head?_eq_some_iff.1 bracketed
    by_cases closing : ']' ∈ rest
    · obtain ⟨host, tail, rfl, inside⟩ := List.eq_append_cons_of_mem closing
      by_cases portless : tail.head? = some ':'
      · obtain ⟨port, rfl⟩ := List.head?_eq_some_iff.1 portless
        subst shape
        exact exists_verdict_of_parts (.bracketed inside)
      · exact ⟨_, .closed shape inside portless⟩
    · exact ⟨_, .unclosed shape closing⟩
  · by_cases colon : ':' ∈ address
    · -- The last colon is the first one from behind.
      obtain ⟨back, front, reversed, last⟩ := List.eq_append_cons_of_mem (List.mem_reverse.2 colon)
      have shape : address = front.reverse ++ ':' :: back.reverse := by
        rw [← List.reverse_reverse address, reversed]
        simp
      have last' : ':' ∉ back.reverse := by simpa using last
      by_cases another : ':' ∈ front.reverse
      · exact ⟨_, .colons bracketed shape last' another⟩
      · rw [shape] at bracketed ⊢
        exact exists_verdict_of_parts (.plain bracketed another last')
    · exact ⟨_, .undivided bracketed colon⟩

/-- The grammar decides every text: what it says of the text without white space around it is what
becomes of the text, whether an address with its host, its port and its two web addresses, or an
error. In particular a text is an address with some host and port exactly if these are written in
it, with brackets or without, and both web addresses can be read. -/
theorem parse_grammar (text : String) :
    (∀ result, parse text = result ↔
      ∃ core, Text.Trimmed text.toList core ∧ Verdict core result) ∧
    ∀ (host : String) (n : Nat), (∃ a, parse text = .ok a ∧ a.host = host ∧ a.port = n) ↔
      ∃ core port, Text.Trimmed text.toList core ∧
        ((']' ∉ host.toList ∧ core = '[' :: host.toList ++ ']' :: ':' :: port) ∨
          (':' ∉ host.toList ∧ core = host.toList ++ ':' :: port)) ∧
        IsHost host.toList ∧ IsPort port n ∧
        (Url.parse? (rootText "http" host.toList n)).isSome = true ∧
        (Url.parse? (rootText "https" host.toList n)).isSome = true := by
  have hverdict (result : Except AddressError Address) : parse text = result ↔
      ∃ core, Text.Trimmed text.toList core ∧ Verdict core result := by
    constructor
    · rintro rfl
      obtain ⟨result, verdict⟩ := exists_verdict (Text.trimChars text.toList)
      rw [verdict.parse_eq]
      exact ⟨_, Text.trimmed_trimChars _, verdict⟩
    · rintro ⟨core, trimmed, verdict⟩
      rw [← Text.trimmed_iff.1 trimmed] at verdict
      exact verdict.parse_eq
  refine ⟨hverdict, ?_⟩
  intro host n
  constructor
  · rintro ⟨a, parsed, rfl, rfl⟩
    obtain ⟨core, trimmed, verdict⟩ := (hverdict _).1 parsed
    cases verdict with
    | @accepted host port n httpBase httpsBase parts wellFormed number http https =>
        simp only [String.toList_ofList]
        refine ⟨core, port, trimmed, ?_, wellFormed, number, ?_, ?_⟩
        · cases parts with
          | bracketed inside => exact Or.inl ⟨inside, rfl⟩
          | plain unbracketed first last => exact Or.inr ⟨first, rfl⟩
        · rw [http, Option.isSome_some]
        · rw [https, Option.isSome_some]
  · rintro ⟨core, port, trimmed, written, wellFormed, number, http, https⟩
    obtain ⟨httpBase, http⟩ := Option.isSome_iff_exists.1 http
    obtain ⟨httpsBase, https⟩ := Option.isSome_iff_exists.1 https
    have parts : Parts core host.toList port := by
      obtain ⟨inside, rfl⟩ | ⟨first, rfl⟩ := written
      · exact .bracketed inside
      · exact .plain (wellFormed.head?_append_ne _) first number.colon_not_mem
    have verdict := (hverdict _).2 ⟨core, trimmed, .accepted parts wellFormed number http https⟩
    exact ⟨_, verdict, String.ofList_toList, rfl⟩

end Outcome

end Address

end Northbound
