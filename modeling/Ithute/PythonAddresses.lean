import Ithute.PythonTexts

/-!
# Addresses of the internet

What `ipaddress` reads as an address, and which addresses a network has.
-/

namespace Ithute

open Texts Words

namespace Addresses

/-- `_parse_octet`, where it succeeds. -/
def isOctet (text : Text) : Bool :=
  ! text.isEmpty && text.all Char.isDigit && decide (text.length ≤ 3) &&
    (text = ['0'] || text.head? ≠ some '0') && decide (Nat.ofDigitChars 10 text 0 ≤ 255)

/-- `IPv4Address`, where it succeeds. -/
def isIpv4 (text : Text) : Bool :=
  let octets := text.splitOn '.'
  decide (octets.length = 4) && octets.all isOctet

def isHexDigit (character : Char) : Bool :=
  character.isDigit || ('a' ≤ character && character ≤ 'f') || ('A' ≤ character && character ≤ 'F')

/-- `_parse_hextet`, where it succeeds. -/
def isHextet (text : Text) : Bool :=
  ! text.isEmpty && decide (text.length ≤ 4) && text.all isHexDigit

/-- The parts of an address whose suffix of IPv4 style counts for two; what
they come to is not needed. -/
def withoutSuffix (parts : List Text) : Option (List Text) :=
  if '.' ∈ parts.getLastD [] then
    if isIpv4 (parts.getLastD []) then some (parts.dropLast ++ [['0'], ['0']])
    else none
  else some parts

/-- The parts on one side of a double colon, which may have none. -/
def sideParts (parts : List Text) : List Text := if parts = [[]] then [] else parts

def partsFit (parts : List Text) : Bool :=
  let inner := (parts.drop 1).dropLast
  match inner.findIdx? List.isEmpty with
  | some index =>
    let high := sideParts (parts.take (index + 1))
    let low := sideParts (parts.drop (index + 2))
    decide (inner.countP List.isEmpty = 1) &&
      decide (high.length + low.length ≤ 7) && high.all isHextet && low.all isHextet
  | none => decide (parts.length = 8) && parts.all isHextet

/-- `IPv6Address._ip_int_from_string`, where it succeeds. -/
def isIpv6Unscoped (text : Text) : Bool :=
  let parts := text.splitOn ':'
  decide (3 ≤ parts.length) && (withoutSuffix parts).any fun parts =>
      decide (parts.length ≤ 9) && partsFit parts

/-- `IPv6Address`, where it succeeds; a scope may follow. -/
def isIpv6 (text : Text) : Bool :=
  match text.splitOn '%' with
  | [address] => isIpv6Unscoped address
  | [address, scope] => ! scope.isEmpty && isIpv6Unscoped address
  | _ => false

/-- `ip_address(value).version`; `none` is its `ValueError`. -/
def ipVersion (text : Text) : Option ℕ :=
  if '/' ∈ text then none
  else if isIpv4 text then some 4
  else if isIpv6 text then some 6
  else none

structure IpAddress where
  version : ℕ
  value : ℕ

def ipv4Value (text : Text) : ℕ :=
  (text.splitOn '.').foldl (fun value octet => value * 256 + Nat.ofDigitChars 10 octet 0) 0

def hexDigitValue (character : Char) : ℕ :=
  if character.isDigit then character.toNat - 48
  else if 'a' ≤ character then character.toNat - 87
  else character.toNat - 55

def partValues (part : Text) : List ℕ :=
  if '.' ∈ part then [ipv4Value part / 65536, ipv4Value part % 65536]
  else [part.foldl (fun value digit => value * 16 + hexDigitValue digit) 0]

/-- `IPv6Address._ip` -/
def ipv6Value (text : Text) : ℕ :=
  let parts := (text.takeWhile (· ≠ '%')).splitOn ':'
  let hextets :=
    match ((parts.drop 1).dropLast).findIdx? List.isEmpty with
    | some index =>
      let high := (sideParts (parts.take (index + 1))).flatMap partValues
      let low := (sideParts (parts.drop (index + 2))).flatMap partValues
      high ++ List.replicate (8 - high.length - low.length) 0 ++ low
    | none => parts.flatMap partValues
  hextets.foldl (fun value hextet => value * 65536 + hextet) 0

/-- `ip_address(text)`; `none` is its `ValueError`. -/
def ipAddress (text : Text) : Option IpAddress :=
  (ipVersion text).map fun version =>
    { version := version
      value := if version = 4 then ipv4Value text else ipv6Value text }

/-- `IPv4Network` or `IPv6Network`. -/
structure IpNetwork where
  version : ℕ
  networkAddress : ℕ
  netmask : ℕ

/-- `address in network` -/
def IpNetwork.contains (network : IpNetwork) (address : IpAddress) : Bool :=
  decide (network.version = address.version ∧
    address.value &&& network.netmask = network.networkAddress)

def scopePart (text : Text) : Text := text.dropWhile (· ≠ '%')

def addressCharacter (character : Char) : Bool :=
  isHexDigit character || character = ':' || character = '.'

variable {text part : Text} {separator : Char}

theorem sum_length_splitOn : ((text.splitOn separator).map List.length).sum +
    (text.splitOn separator).length = text.length + 1 := by
  induction text with
  | nil => rfl
  | cons first rest ih =>
    rw [List.splitOn_cons_eq_if_modifyHead]
    obtain ⟨head, tail, pieces⟩ := List.exists_cons_of_ne_nil (List.splitOn_ne_nil separator rest)
    rw [pieces] at ih ⊢
    split
    · simp only [List.map_cons, List.sum_cons, List.length_cons, List.length_nil] at ih ⊢
      omega
    · simp only [List.modifyHead_cons, List.map_cons, List.sum_cons, List.length_cons] at ih ⊢
      omega

theorem mem_splitOn_of_mem {character : Char} (member : character ∈ text) :
    character = separator ∨ ∃ piece ∈ text.splitOn separator, character ∈ piece := by
  by_cases separates : character = separator
  · exact .inl separates
  · rw [List.splitOn_eq_splitOnP]
    exact .inr (exists_mem_splitOnP_iff.mpr ⟨member, beq_eq_false_iff_ne.mpr separates⟩)

theorem sum_length_le {pieces : List Text} {bound : ℕ}
    (short : ∀ piece ∈ pieces, piece.length ≤ bound) :
    (pieces.map List.length).sum ≤ bound * pieces.countP fun piece => ! piece.isEmpty := by
  induction pieces with
  | nil => rfl
  | cons piece pieces ih =>
    have rest := ih fun other member => short other (List.mem_cons_of_mem piece member)
    have here := short piece List.mem_cons_self
    rw [List.map_cons, List.sum_cons, List.countP_cons]
    cases piece with
    | nil => simpa using rest
    | cons first others =>
      simp only [List.isEmpty_cons, Bool.not_false, if_true, Nat.mul_add, Nat.mul_one]
      omega

theorem isOctet_spec (octet : isOctet part = true) :
    part.length ≤ 3 ∧ ∀ character ∈ part, character.isDigit = true := by
  simp only [isOctet, Bool.and_eq_true, decide_eq_true_eq] at octet
  exact ⟨octet.1.1.2, List.all_eq_true.mp octet.1.1.1.2⟩

theorem isIpv4_spec (address : isIpv4 text = true) :
    text.length ≤ 15 ∧ ∀ character ∈ text, character.isDigit = true ∨ character = '.' := by
  simp only [isIpv4, Bool.and_eq_true, decide_eq_true_eq, List.all_eq_true] at address
  obtain ⟨four, octets⟩ := address
  constructor
  · have total := @sum_length_splitOn text '.'
    have bound := sum_length_le fun piece member => (isOctet_spec (octets piece member)).1
    have count := @List.countP_le_length _ (fun piece : Text => ! piece.isEmpty) (text.splitOn '.')
    omega
  · intro character member
    rcases @mem_splitOn_of_mem text '.' character member with dot | ⟨piece, isPiece, within⟩
    · exact .inr dot
    · exact .inl ((isOctet_spec (octets piece isPiece)).2 character within)

/-- A part of an address of eight hextets, or none between two colons. -/
def FitsPart (part : Text) : Prop := part = [] ∨ isHextet part = true

theorem FitsPart.length_le (fits : FitsPart part) : part.length ≤ 4 := by
  rcases fits with rfl | hextet
  · exact Nat.zero_le 4
  · simp only [isHextet, Bool.and_eq_true, decide_eq_true_eq] at hextet
    exact hextet.1.2

theorem FitsPart.isHexDigit (fits : FitsPart part) {character : Char} (member : character ∈ part) :
    isHexDigit character = true := by
  rcases fits with rfl | hextet
  · cases member
  · simp only [isHextet, Bool.and_eq_true] at hextet
    exact List.all_eq_true.mp hextet.2 character member

variable {parts : List Text}

theorem sideParts_spec (hextets : (sideParts parts).all isHextet = true) :
    (∀ part ∈ parts, FitsPart part) ∧
      parts.countP (fun part => ! part.isEmpty) ≤ (sideParts parts).length := by
  unfold sideParts at hextets ⊢
  split
  · rename_i none
    rw [none]
    exact ⟨fun part member => .inl (List.mem_singleton.mp member), Nat.le_refl 0⟩
  · rename_i some
    rw [if_neg some] at hextets
    exact ⟨fun part member => .inr (List.all_eq_true.mp hextets part member), List.countP_le_length⟩

theorem partsFit_spec (fits : partsFit parts = true) :
    (∀ part ∈ parts, FitsPart part) ∧ parts.countP (fun part => ! part.isEmpty) ≤ 8 := by
  simp only [partsFit] at fits
  split at fits
  · rename_i index found
    simp only [Bool.and_eq_true, decide_eq_true_eq] at fits
    obtain ⟨⟨⟨_, few⟩, high⟩, low⟩ := fits
    obtain ⟨bound, empty, _⟩ := List.findIdx?_eq_some_iff_getElem.mp found
    have within : index + 1 < parts.length := by
      simp only [List.length_dropLast, List.length_drop] at bound
      omega
    have gap : parts[index + 1] = [] := by
      rw [List.getElem_dropLast, List.getElem_drop, List.isEmpty_iff] at empty
      rw [← empty]
      congr 1
      omega
    have split : parts = parts.take (index + 1) ++ [] :: parts.drop (index + 2) := by
      rw [← gap, ← List.drop_eq_getElem_cons within, List.take_append_drop]
    obtain ⟨highFits, highCount⟩ := sideParts_spec high
    obtain ⟨lowFits, lowCount⟩ := sideParts_spec low
    constructor
    · intro part member
      rw [split] at member
      rcases List.mem_append.mp member with front | back
      · exact highFits part front
      · rcases List.mem_cons.mp back with rfl | back
        · exact .inl rfl
        · exact lowFits part back
    · rw [split, List.countP_append, List.countP_cons]
      simp only [List.isEmpty_nil, Bool.not_true, Bool.false_eq_true, if_false]
      omega
  · simp only [Bool.and_eq_true, decide_eq_true_eq] at fits
    refine ⟨fun part member => .inr (List.all_eq_true.mp fits.2 part member), ?_⟩
    exact List.countP_le_length.trans fits.1.le

theorem addressCharacter_of_digit {character : Char} (digit : character.isDigit = true) :
    addressCharacter character = true := by
  simp [addressCharacter, isHexDigit, digit]

theorem withoutSuffix_spec {changed : List Text} (suffix : withoutSuffix parts = some changed)
    (few : changed.length ≤ 9) (fits : partsFit changed = true) :
    (parts.map List.length).sum + parts.length ≤ 47 ∧
      ∀ part ∈ parts, ∀ character ∈ part, addressCharacter character = true := by
  have ofPart {part : Text} (fits : FitsPart part) :
      ∀ character ∈ part, addressCharacter character = true := by
    intro character member
    simp [addressCharacter, fits.isHexDigit member]
  obtain ⟨shape, count⟩ := partsFit_spec fits
  unfold withoutSuffix at suffix
  split_ifs at suffix with dotted four
  · cases suffix
    have nonempty : parts ≠ [] := by
      rintro rfl
      cases dotted
    obtain ⟨front, last, rfl⟩ := List.eq_nil_or_concat parts |>.resolve_left nonempty
    rw [List.concat_eq_append] at *
    rw [List.getLastD_concat] at four
    rw [List.dropLast_concat] at few shape count
    obtain ⟨short, characters⟩ := isIpv4_spec four
    have frontShape : ∀ part ∈ front, FitsPart part := fun part member =>
      shape part (List.mem_append_left _ member)
    have bound := sum_length_le fun part member => (frontShape part member).length_le
    rw [List.countP_append] at count
    rw [List.length_append] at few
    constructor
    · simp only [List.map_append, List.sum_append, List.length_append, List.map_cons, List.map_nil,
        List.sum_cons, List.sum_nil, List.length_cons, List.length_nil] at few ⊢
      have two : [['0'], ['0']].countP (fun part : Text => ! part.isEmpty) = 2 := rfl
      omega
    · intro part member
      rcases List.mem_append.mp member with inFront | isLast
      · exact ofPart (frontShape part inFront)
      · rw [List.mem_singleton.mp isLast]
        intro character within
        rcases characters character within with digit | rfl
        · exact addressCharacter_of_digit digit
        · rfl
  · cases suffix
    have bound := sum_length_le fun part member => (shape part member).length_le
    exact ⟨by omega, fun part member => ofPart (shape part member)⟩

theorem isIpv6Unscoped_spec (address : isIpv6Unscoped text = true) :
    text.length ≤ 46 ∧ ∀ character ∈ text, addressCharacter character = true := by
  simp only [isIpv6Unscoped, Bool.and_eq_true, Option.any_eq_true, decide_eq_true_eq] at address
  obtain ⟨_, changed, suffix, few, fits⟩ := address
  obtain ⟨size, characters⟩ := withoutSuffix_spec suffix few fits
  have total := @sum_length_splitOn text ':'
  refine ⟨by omega, ?_⟩
  intro character member
  rcases @mem_splitOn_of_mem text ':' character member with rfl | ⟨part, isPart, within⟩
  · rfl
  · exact characters part isPart character within

theorem takeWhile_eq_head : text.takeWhile (· ≠ separator) = (text.splitOn separator).headD [] := by
  induction text with
  | nil => rfl
  | cons first rest ih =>
    rw [List.splitOn_cons_eq_if_modifyHead, List.takeWhile_cons]
    obtain ⟨head, tail, pieces⟩ := List.exists_cons_of_ne_nil (List.splitOn_ne_nil separator rest)
    rw [pieces] at ih ⊢
    by_cases separates : first = separator
    · simp [separates]
    · simpa [separates] using ih

theorem ipVersion_spec (parses : (ipVersion text).isSome = true) :
    text ≠ [] ∧ (text.takeWhile (· ≠ '%')).length ≤ 46 ∧
      ∀ character ∈ text.takeWhile (· ≠ '%'), addressCharacter character = true := by
  have nonempty : text ≠ [] := by
    rintro rfl
    revert parses
    decide
  refine ⟨nonempty, ?_⟩
  unfold ipVersion at parses
  split_ifs at parses with slash four six
  · cases parses
  · obtain ⟨short, characters⟩ := isIpv4_spec four
    have whole := (List.takeWhile_prefix (p := (· ≠ '%')) (l := text))
    refine ⟨whole.length_le.trans (short.trans (by omega)), ?_⟩
    intro character member
    rcases characters character (whole.subset member) with digit | rfl
    · exact addressCharacter_of_digit digit
    · rfl
  · have unscoped : isIpv6Unscoped (text.takeWhile (· ≠ '%')) = true := by
      rw [takeWhile_eq_head]
      unfold isIpv6 at six
      split at six
      · rename_i pieces
        rw [pieces]
        exact six
      · rename_i pieces
        rw [pieces]
        exact (Bool.and_eq_true _ _ ▸ six).2
      · cases six
    exact isIpv6Unscoped_spec unscoped
  · cases parses

end Addresses

end Ithute
