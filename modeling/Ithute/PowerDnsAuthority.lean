import Ithute.PythonTexts
import Ithute.Library.TransitionRuns
import Mathlib.Data.Finset.Dedup
import Mathlib.Data.Finset.Image

/-!
# The authority records of a zone

`reconcile_authority` reads the NS and SOA records at the apex of a zone and
replaces them by requests of which each may fail.
-/

namespace Ithute

open TransitionRuns Texts

namespace PowerDns

inductive RecordType where
  | ns | soa
  | other (name : String)
  deriving DecidableEq

structure RRSet where
  name : Text
  rtype : RecordType
  ttl : ℕ
  contents : List Text
  deriving DecidableEq

variable (python : PythonText)

def comparedName (name : Text) : Text := python.lower (rstripDot name)

def RRSet.isAt (zoneName : Text) (rtype : RecordType) (rrset : RRSet) : Bool :=
  comparedName python rrset.name = zoneName && rrset.rtype = rtype

/-- A zone as PowerDNS keeps it, with one RRset for a name and a type. -/
structure Zone (zoneName : Text) where
  rrsets : List RRSet
  single : ∀ rtype, (rrsets.filter (RRSet.isAt python zoneName rtype)).length ≤ 1
  deriving DecidableEq

variable {python} {zoneName : Text}

theorem length_filter_replaced {rrsets : List RRSet} {rrset : RRSet} (single : ∀ rtype,
      (rrsets.filter (RRSet.isAt python zoneName rtype)).length ≤ 1) (rtype : RecordType) :
    ((rrsets.filter (fun stored => ! stored.isAt python zoneName rrset.rtype) ++
      [rrset]).filter (RRSet.isAt python zoneName rtype)).length ≤ 1 := by
  rw [List.filter_append, List.length_append]
  by_cases replaced : rrset.isAt python zoneName rtype = true
  · have same : rrset.rtype = rtype := by
      simp only [RRSet.isAt, Bool.and_eq_true, decide_eq_true_eq] at replaced
      exact replaced.2
    have none : (rrsets.filter fun stored =>
        ! stored.isAt python zoneName rrset.rtype).filter
          (RRSet.isAt python zoneName rtype) = [] := by
      rw [List.filter_filter, List.filter_eq_nil_iff, same]
      intro stored _
      simp
    rw [none, List.length_nil, Nat.zero_add]
    exact List.length_filter_le _ _
  · rw [List.filter_cons_of_neg replaced, List.filter_nil, List.length_nil, Nat.add_zero]
    refine Nat.le_trans ?_ (single rtype)
    rw [List.filter_filter]
    exact (List.monotone_filter_right rrsets fun stored both =>
      (Bool.and_eq_true_iff.mp both).1).length_le

theorem length_filter_pair {first second : RRSet}
    (different : first.rtype ≠ second.rtype) (rtype : RecordType) :
    ([first, second].filter (RRSet.isAt python zoneName rtype)).length ≤ 1 := by
  by_cases isFirst : first.rtype = rtype
  · have other : second.isAt python zoneName rtype = false := by
      simp [RRSet.isAt, ← isFirst, Ne.symm different]
    rw [List.filter_cons, List.filter_cons_of_neg (by simp [other])]
    split_ifs
    · exact Nat.le_refl 1
    · exact Nat.zero_le 1
  · have other : first.isAt python zoneName rtype = false := by simp [RRSet.isAt, isFirst]
    rw [List.filter_cons_of_neg (by simp [other])]
    exact List.length_filter_le _ _

/-- `replace_rrset` at the apex. -/
def Zone.replaceRrset (zone : Zone python zoneName) (rrset : RRSet) : Zone python zoneName where
  rrsets := zone.rrsets.filter (fun stored => ! stored.isAt python zoneName rrset.rtype) ++ [rrset]
  single := length_filter_replaced zone.single

variable (python)

/-- `_clean_nameservers`; `none` is its `ValueError`. -/
local instance text_lawfulBEq : LawfulBEq Text := inferInstance

def cleanNameservers (nameservers : List Text) : Option (List Text) := do
  let cleaned ← nameservers.foldlM (fun cleaned nameserver =>
    let value := comparedName python (strip nameserver)
    if value = [] ∨ '.' ∉ value then none
    else some (if value ∈ cleaned then cleaned else cleaned ++ [value])) []
  if cleaned.length < 2 then none else some cleaned

def nextSoaSerial (dailyFloor : ℕ) (current : Option ℤ) : ℤ := max dailyFloor (current.getD 0 + 1)

/-- `current_ns` and `current_soa`. -/
structure Authority where
  nameservers : Finset Text := ∅
  soa : Option Text := none

def Authority.readRrset (zoneName : Text) (read : Authority) (rrset : RRSet) : Authority :=
  if comparedName python rrset.name = zoneName then
    match rrset.rtype with
    | .ns =>
      { read with
        nameservers := ((rrset.contents.map strip).filter (· ≠ [])).toFinset.image
          (comparedName python) }
    | .soa =>
      match rrset.contents with
      | [] => read
      | first :: _ => { read with soa := some (strip first) |>.filter (· ≠ []) }
    | .other _ => read
  else read

variable {python}

def Zone.authority (zone : Zone python zoneName) : Authority :=
  zone.rrsets.foldl (Authority.readRrset python zoneName) {}

variable (python)

def soaParts (soa : Option Text) : List Text := (soa.map splitBlanks).getD []

def currentSerial (parts : List Text) : Option ℤ :=
  if 3 ≤ parts.length then parts[2]?.bind python.int else none

def soaTimers : List Text := ["10800".toList, "3600".toList, "604800".toList, "3600".toList]

def hostmaster (zoneName : Text) : Text := "hostmaster.".toList ++ zoneName

def soaIdentityOk (zoneName primary : Text) (parts : List Text) : Bool :=
  decide (7 ≤ parts.length) && decide ((parts[0]?).map (comparedName python) = some primary) &&
    decide ((parts[1]?).map (comparedName python) = some (hostmaster zoneName)) &&
    decide (parts.drop 3 = soaTimers)

def soaContent (zoneName primary : Text) (serial : ℤ) : Text :=
  primary ++ ['.', ' '] ++ (hostmaster zoneName ++ ['.', ' ']) ++
    (decimal serial ++ ' ' :: "10800 3600 604800 3600".toList)

inductive Request where
  | read | replaceNs | replaceSoa | rectify | reread

/-- A request may also fail after PowerDNS has carried it out. -/
inductive Answer where
  | answered | refused | lost
  deriving DecidableEq

/-- A call of `reconcile_authority` with the day's first serial. -/
structure Call where
  nameservers : List Text
  dailyFloor : ℕ
  answers : Request → Answer

structure DnsSettings where
  nameserver1 : Text
  nameserver2 : Text
  powerdnsDefaultTtl : ℕ

/-- The zone, what was published before it, and what the last call returned;
`none` is an exception. -/
structure AuthorityWorld (python : PythonText) (zoneName : Text) where
  zone : Zone python zoneName
  published : List (Zone python zoneName) := []
  returned : Option (Zone python zoneName) := none

variable {python}

namespace AuthorityWorld

variable (world : AuthorityWorld python zoneName)

def fails : AuthorityWorld python zoneName := { world with returned := none }

def replaceRrset (answer : Answer) (rrset : RRSet) : AuthorityWorld python zoneName :=
  if answer = .refused then world
  else
    { world with
      zone := world.zone.replaceRrset rrset
      published := world.zone :: world.published }

def publishSoa (settings : DnsSettings) (primary : Text) (serial : ℤ)
    (answers : Request → Answer) : AuthorityWorld python zoneName :=
  let written := world.replaceRrset (answers .replaceSoa)
    { name := zoneName ++ ['.'], rtype := .soa
      ttl := settings.powerdnsDefaultTtl
      contents := [soaContent zoneName primary serial] }
  if answers .replaceSoa = .answered ∧ answers .rectify = .answered ∧
      answers .reread = .answered then
    { written with returned := some written.zone }
  else written.fails

def publish (settings : DnsSettings) (cleaned : List Text) (nsChanged : Bool)
    (primary : Text) (serial : ℤ) (answers : Request → Answer) : AuthorityWorld python zoneName :=
  if nsChanged then
    let written := world.replaceRrset (answers .replaceNs)
      { name := zoneName ++ ['.'], rtype := .ns
        ttl := settings.powerdnsDefaultTtl
        contents := cleaned.map (· ++ ['.']) }
    if answers .replaceNs = .answered then
      written.publishSoa settings primary serial answers
    else written.fails
  else world.publishSoa settings primary serial answers

def calledNameservers (settings : DnsSettings) (call : Call) : List Text :=
  if call.nameservers = [] then [settings.nameserver1, settings.nameserver2]
  else call.nameservers

def reconcile (settings : DnsSettings) (cleaned : List Text) (call : Call) :
    AuthorityWorld python zoneName :=
  let read := world.zone.authority
  let parts := soaParts read.soa
  let primary := cleaned.headD []
  let nsChanged := decide (read.nameservers ≠ cleaned.toFinset)
  if ! nsChanged && soaIdentityOk python zoneName primary parts then
    { world with returned := some world.zone }
  else
    world.publish settings cleaned nsChanged primary
      (nextSoaSerial call.dailyFloor (currentSerial python parts)) call.answers

/-- `reconcile_authority`. -/
def next (settings : DnsSettings) (call : Call) : AuthorityWorld python zoneName :=
  match cleanNameservers python (calledNameservers settings call) with
  | none => world.fails
  | some cleaned =>
    if call.answers .read = .answered then
      world.reconcile settings cleaned call
    else world.fails

end AuthorityWorld

end PowerDns

end Ithute
