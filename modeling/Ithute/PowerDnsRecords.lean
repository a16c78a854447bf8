import Ithute.PowerDnsAuthority
import Ithute.PythonAddresses

/-!
# The records of a zone

`validate_record` and the normalisers of its values, and what the server can
read as data of a record.
-/

namespace Ithute

open Texts Words Addresses

namespace PowerDns

variable (python : PythonText)

def endsBelow (zoneName name : Text) : Bool := ('.' :: zoneName).isSuffixOf name

def normalizeRecordName (zone name : Text) : Text :=
  let zoneName := comparedName python zone
  let value := comparedName python (strip name)
  if value = [] ∨ value = ['@'] then zoneName
  else if value = zoneName ∨ endsBelow zoneName value = true then value
  else value ++ '.' :: zoneName

def completedTarget (zone target : Text) : Text :=
  if target = ['@'] then comparedName python zone
  else if '.' ∉ target then target ++ '.' :: comparedName python zone
  else target

/-- `_canonical_hostname`; `none` is its `ValueError`. -/
def canonicalHostname (zone value : Text) (allowRoot : Bool) : Option Text :=
  let raw := strip value
  if raw = ['.'] then if allowRoot then some raw else none
  else
    let target := comparedName python raw
    if target = [] then none
    else
      let target := completedTarget python zone target
      if (target.splitOn '.').any (fun label =>
          label.isEmpty || decide (63 < label.length)) ∨ 253 < target.length then
        none
      else some (target ++ ['.'])

/-- A number that `int` reads, from 0 to 65535. -/
def shortNumber (text : Text) : Option ℤ :=
  (python.int text).filter fun number => 0 ≤ number ∧ number ≤ 65535

def normalizeMx (zone value : Text) : Option Text :=
  match splitBlanks value with
  | [priority, target] => do
      let priority ← shortNumber python priority
      let target ← canonicalHostname python zone target true
      some (decimal priority ++ ' ' :: target)
  | _ => none

def normalizeSrv (zone value : Text) : Option Text :=
  match splitBlanks value with
  | [priority, weight, port, target] => do
      let priority ← shortNumber python priority
      let weight ← shortNumber python weight
      let port ← shortNumber python port
      let target ← canonicalHostname python zone target true
      some (decimal priority ++ ' ' :: (decimal weight ++ ' ' :: (decimal port ++ ' ' :: target)))
  | _ => none

def escape (character : Char) : Text :=
  if character = '\\' then ['\\', '\\']
  else if character = '"' then ['\\', '"']
  else [character]

def isQuoted (raw : Text) : Bool :=
  decide (2 ≤ raw.length) && raw.head? = some '"' && raw.getLast? = some '"'

def normalizeTxt (value : Text) : Text :=
  let raw := strip value
  if isQuoted raw then raw else '"' :: raw.flatMap escape ++ ['"']

/-- The record types that customers may set. -/
inductive RecordKind where
  | a | aaaa | cname | mx | txt | caa | srv
  deriving DecidableEq

def RecordKind.name : RecordKind → Text
  | .a => ['A']
  | .aaaa => ['A', 'A', 'A', 'A']
  | .cname => ['C', 'N', 'A', 'M', 'E']
  | .mx => ['M', 'X']
  | .txt => ['T', 'X', 'T']
  | .caa => ['C', 'A', 'A']
  | .srv => ['S', 'R', 'V']

/-- `allowed`. -/
def allowedKinds : List RecordKind := [.a, .aaaa, .cname, .mx, .txt, .caa, .srv]

/-- A value of a kind as it is stored; `none` is a `ValueError`. -/
def normalizedValue (zone : Text) : RecordKind → Text → Option Text
  | .a, value => if ipVersion value = some 4 then some value else none
  | .aaaa, value => if ipVersion value = some 6 then some value else none
  | .cname, value => canonicalHostname python zone value false
  | .mx, value => normalizeMx python zone value
  | .srv, value => normalizeSrv python zone value
  | .txt, value => some (normalizeTxt value)
  | .caa, value => some value

/-- `validate_record`; `none` is its `ValueError`. -/
def validateRecord (zone name rtype : Text) (contents : List Text) :
    Option (Text × Text × List Text) := do
  let fqdn := normalizeRecordName python zone name
  let zone := comparedName python zone
  if fqdn ≠ zone ∧ endsBelow zone fqdn = false then none
  else
    let kind ← allowedKinds.find? fun kind => kind.name = python.upper rtype
    if contents = [] ∨ 100 < contents.length then none
    else
      let cleaned := contents.map strip
      if cleaned.any (fun value => value.isEmpty || decide (4096 < value.length)) then none
      else if kind = .cname ∧ (cleaned.length ≠ 1 ∨ fqdn = zone) then none
      else
        let values ← cleaned.mapM (normalizedValue python zone kind)
        some (fqdn, kind.name, values)

def labelCharacter (character : Char) : Bool := hostCharacter character && character ≠ '.'

def isLabel (label : Text) : Bool :=
  ! label.isEmpty && decide (label.length ≤ 63) && label.all labelCharacter

def isHostName (value : Text) : Bool :=
  value.getLast? = some '.' && decide (value.length ≤ 254) &&
    (value.dropLast.splitOn '.').all isLabel

/-- Where a reader of quoted character strings is. -/
inductive QuotePlace where
  | start | inside | escaped | closed | between | wrong
  deriving DecidableEq

def QuotePlace.after (place : QuotePlace) (character : Char) : QuotePlace :=
  match place with
  | .start => if character = '"' then .inside else .wrong
  | .inside =>
    if character = '"' then .closed
    else if character = '\\' then .escaped
    else .inside
  | .escaped => .inside
  | .closed => if isSpaceMark character then .between else .wrong
  | .between =>
    if character = '"' then .inside
    else if isSpaceMark character then .between
    else .wrong
  | .wrong => .wrong

def areQuotedStrings (value : Text) : Bool := value.foldl QuotePlace.after .start = .closed

def isCaa (value : Text) : Bool :=
  let flags := value.takeWhile (! isSpaceMark ·)
  let rest := (value.dropWhile (! isSpaceMark ·)).dropWhile isSpaceMark
  let tag := rest.takeWhile (! isSpaceMark ·)
  let data := (rest.dropWhile (! isSpaceMark ·)).dropWhile isSpaceMark
  ! flags.isEmpty && flags.all Char.isDigit && decide (Nat.ofDigitChars 10 flags 0 ≤ 255) &&
    ! tag.isEmpty && tag.all Char.isAlphanum && ! data.isEmpty &&
    (areQuotedStrings data || data.all fun character =>
      ! isSpaceMark character && character ≠ '"' && character ≠ ';')

def WellFormed : RecordKind → Text → Prop
  | .a, value => isIpv4 value = true
  | .aaaa, value => isIpv6Unscoped value = true ∧ '%' ∉ value
  | .cname, value => isHostName value = true
  | .mx, value => ∃ priority : ℕ, ∃ target, priority ≤ 65535 ∧
      (isHostName target = true ∨ target = ['.']) ∧ value = decimal priority ++ ' ' :: target
  | .srv, value => ∃ priority weight port : ℕ, ∃ target,
      priority ≤ 65535 ∧ weight ≤ 65535 ∧ port ≤ 65535 ∧
        (isHostName target = true ∨ target = ['.']) ∧
        value = decimal priority ++ ' ' :: (decimal weight ++
          ' ' :: (decimal port ++ ' ' :: target))
  | .txt, value => areQuotedStrings value = true
  | .caa, value => isCaa value = true

end PowerDns

end Ithute
