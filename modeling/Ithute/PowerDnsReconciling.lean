import Ithute.PowerDnsAuthority

/-!
# Reconciling converges

What a zone publishes at its apex, what each request makes of it, and when a
secondary notices a change of the nameservers.
-/

namespace Ithute

open TransitionRuns Texts Words

namespace PowerDns

variable {python : PythonText} {zoneName name primary text : Text}
variable {zone : Zone python zoneName} {rrset : RRSet} {rtype : RecordType}
variable {settings : DnsSettings} {call : Call} {cleaned nameservers : List Text}

theorem comparedName_append_dot :
    comparedName python (name ++ ['.']) = comparedName python name := by
  rw [comparedName, rstripDot_append_dot]
  rfl

theorem getLast?_comparedName : (comparedName python name).getLast? ≠ some '.' := by
  intro ends
  exact getLast?_rstripDot (python.lower_last _ '.' ends (Or.inr rfl))

theorem comparedName_comparedName : comparedName python (comparedName python name) =
      comparedName python name := by
  rw [comparedName, rstripDot_eq_self getLast?_comparedName, comparedName, python.lower_lower]

/-- A cleaned name is not empty, begins with no blank and is compared as
itself. -/
structure Cleaned (python : PythonText) (name : Text) : Prop where
  nonempty : name ≠ []
  begins : ∀ first, name.head? = some first → isSpaceMark first = false
  settled : comparedName python name = name

theorem cleaned_of_strip {nameserver : Text}
    (nonempty : comparedName python (strip nameserver) ≠ []) :
    Cleaned python (comparedName python (strip nameserver)) where
  nonempty := nonempty
  begins first isFirst := by
    cases blank : isSpaceMark first with
    | false => rfl
    | true =>
      have begins := head?_rdropWhile (python.lower_head _ first isFirst (Or.inl blank))
      rw [head?_trim begins] at blank
      cases blank
  settled := comparedName_comparedName

theorem Cleaned.strip_append_dot (cleaned : Cleaned python name) :
    strip (name ++ ['.']) = name ++ ['.'] := by
  refine trim_eq_self ?_ ?_
  · intro first isFirst
    obtain ⟨head, tail, rfl⟩ := List.exists_cons_of_ne_nil cleaned.nonempty
    exact cleaned.begins first isFirst
  · intro last isLast
    rw [List.getLast?_concat] at isLast
    cases isLast
    decide

theorem cleaned_of_cleanNameservers
    (accepted : cleanNameservers python nameservers = some cleaned) :
    (∀ value ∈ cleaned, Cleaned python value) ∧ 2 ≤ cleaned.length := by
  simp only [cleanNameservers, Option.bind_eq_bind] at accepted
  obtain ⟨collected, collects, rest⟩ := Option.bind_eq_some_iff.mp accepted
  split_ifs at rest with few
  cases rest
  refine ⟨?_, Nat.le_of_not_lt few⟩
  have all : ∀ (nameservers front collected : List Text), (∀ value ∈ front, Cleaned python value) →
      nameservers.foldlM (fun cleaned nameserver =>
        let value := comparedName python (strip nameserver)
        if value = [] ∨ '.' ∉ value then none
        else some (if value ∈ cleaned then cleaned else cleaned ++ [value]))
          front = some collected → ∀ value ∈ collected, Cleaned python value := by
    intro nameservers
    induction nameservers with
    | nil =>
      intro front collected known collects
      cases collects
      exact known
    | cons nameserver rest ih =>
      intro front collected known collects
      rw [List.foldlM_cons] at collects
      obtain ⟨longer, adds, collects⟩ := Option.bind_eq_some_iff.mp collects
      refine ih longer collected ?_ collects
      dsimp only at adds
      split_ifs at adds with refused repeated
      · cases adds
        exact known
      · cases adds
        intro value member
        rcases List.mem_append.mp member with old | new
        · exact known value old
        · rw [List.mem_singleton.mp new]
          exact cleaned_of_strip fun empty => refused (Or.inl empty)
  exact all nameservers [] cleaned (fun _ impossible => absurd impossible List.not_mem_nil) collects

namespace Zone

def contents (zone : Zone python zoneName) (rtype : RecordType) : List Text :=
  (zone.rrsets.filter (RRSet.isAt python zoneName rtype)).flatMap RRSet.contents

def nsNames (zone : Zone python zoneName) : Finset Text :=
  (((zone.contents .ns).map strip).filter (· ≠ [])).toFinset.image (comparedName python)

def soaText (zone : Zone python zoneName) : Option Text :=
  ((zone.contents .soa).head?.map strip).filter (· ≠ [])

def serial (zone : Zone python zoneName) : Option ℤ := (soaParts zone.soaText)[2]?.bind python.int

/-- An SOA of the platform: its names may differ in capitals and final dots. -/
def HasIdentity (zone : Zone python zoneName) (primary : Text) : Prop :=
  ∃ mname rname serial : Text, soaParts zone.soaText = mname :: rname :: serial :: soaTimers ∧
      comparedName python mname = primary ∧ comparedName python rname = hostmaster zoneName

theorem foldl_readRrset (rrsets : List RRSet) (read : Authority) :
    rrsets.foldl (Authority.readRrset python zoneName) read =
      { nameservers := (rrsets.filter (RRSet.isAt python zoneName .ns)).foldl
          (fun _ rrset => ((rrset.contents.map strip).filter
            (· ≠ [])).toFinset.image (comparedName python)) read.nameservers
        soa := (rrsets.filter (RRSet.isAt python zoneName .soa)).foldl
          (fun soa rrset => match rrset.contents with
            | [] => soa
            | first :: _ => some (strip first) |>.filter (· ≠ [])) read.soa } := by
  induction rrsets generalizing read with
  | nil => rfl
  | cons rrset rrsets ih =>
    rw [List.foldl_cons, ih]
    by_cases here : comparedName python rrset.name = zoneName
    · cases kind : rrset.rtype with
      | ns => simp [RRSet.isAt, Authority.readRrset, here, kind]
      | soa =>
        cases listed : rrset.contents with
        | nil => simp [RRSet.isAt, Authority.readRrset, here, kind, listed]
        | cons first rest => simp [RRSet.isAt, Authority.readRrset, here, kind, listed]
      | other => simp [RRSet.isAt, Authority.readRrset, here, kind]
    · simp [RRSet.isAt, Authority.readRrset, here]

theorem authority_eq : zone.authority = { nameservers := zone.nsNames, soa := zone.soaText } := by
  rw [authority, foldl_readRrset]
  congr 1
  · have single := zone.single .ns
    simp only [nsNames, contents]
    cases listed : zone.rrsets.filter (RRSet.isAt python zoneName .ns) with
    | nil => rfl
    | cons only more =>
      rw [listed, List.length_cons] at single
      have none : more = [] := List.eq_nil_of_length_eq_zero (by omega)
      subst none
      simp
  · have single := zone.single .soa
    simp only [soaText, contents]
    cases listed : zone.rrsets.filter (RRSet.isAt python zoneName .soa) with
    | nil => rfl
    | cons only more =>
      rw [listed, List.length_cons] at single
      have none : more = [] := List.eq_nil_of_length_eq_zero (by omega)
      subst none
      cases contents : only.contents with
      | nil => simp [contents]
      | cons first rest => simp [contents]

theorem contents_replaceRrset_self (here : comparedName python rrset.name = zoneName) :
    (zone.replaceRrset rrset).contents rrset.rtype = rrset.contents := by
  have none : (zone.rrsets.filter fun stored =>
      ! stored.isAt python zoneName rrset.rtype).filter
        (RRSet.isAt python zoneName rrset.rtype) = [] := by
    rw [List.filter_filter, List.filter_eq_nil_iff]
    intro stored _
    simp
  have kept : rrset.isAt python zoneName rrset.rtype = true := by simp [RRSet.isAt, here]
  rw [contents, replaceRrset, List.filter_append, none, List.filter_cons_of_pos kept]
  simp

theorem contents_replaceRrset_of_ne (different : rrset.rtype ≠ rtype) :
    (zone.replaceRrset rrset).contents rtype = zone.contents rtype := by
  have gone : rrset.isAt python zoneName rtype = false := by simp [RRSet.isAt, different]
  have kept : (zone.rrsets.filter fun stored =>
      ! stored.isAt python zoneName rrset.rtype).filter (RRSet.isAt python zoneName rtype) =
      zone.rrsets.filter (RRSet.isAt python zoneName rtype) := by
    rw [List.filter_filter]
    refine List.filter_congr fun stored _ => ?_
    by_cases isType : stored.rtype = rtype
    · simp [RRSet.isAt, isType, Ne.symm different]
    · simp [RRSet.isAt, isType]
  rw [contents, contents, replaceRrset, List.filter_append, kept,
    List.filter_cons_of_neg (by simp [gone])]
  simp

end Zone

theorem soaIdentityOk_iff : soaIdentityOk python zoneName primary (soaParts zone.soaText) = true ↔
      zone.HasIdentity primary := by
  constructor
  · intro ok
    simp only [soaIdentityOk, Bool.and_eq_true, decide_eq_true_eq] at ok
    obtain ⟨⟨⟨long, mname⟩, rname⟩, timers⟩ := ok
    obtain ⟨first, rest, parts⟩ :=
      List.exists_cons_of_length_pos (Nat.lt_of_lt_of_le (by decide) long)
    rw [parts] at long mname rname timers
    cases rest with
    | nil => simp at long
    | cons second rest =>
      cases rest with
      | nil => simp at long
      | cons third rest =>
        refine ⟨first, second, third, ?_, ?_, ?_⟩
        · rw [parts, ← timers]
          rfl
        · simpa using mname
        · simpa using rname
  · rintro ⟨mname, rname, serial, parts, isPrimary, isHostmaster⟩
    rw [parts]
    simp only [soaIdentityOk, Bool.and_eq_true, decide_eq_true_eq]
    refine ⟨⟨⟨by simp [soaTimers], ?_⟩, ?_⟩, rfl⟩
    · simpa using isPrimary
    · simpa using isHostmaster

section Written

variable {serial : ℤ}

theorem isSpaceMark_dot : ∀ character ∈ ['.'], isSpaceMark character = false :=
  List.forall_mem_singleton.mpr (by decide)

theorem splitBlanks_soaContent (isPrimary : IsWord isSpaceMark primary)
    (isZone : IsWord isSpaceMark (hostmaster zoneName)) (positive : 0 ≤ serial) :
    splitBlanks (soaContent zoneName primary serial) =
      (primary ++ ['.']) :: (hostmaster zoneName ++ ['.']) :: decimal serial :: soaTimers := by
  have content : soaContent zoneName primary serial =
      (primary ++ ['.']) ++ ' ' :: ((hostmaster zoneName ++ ['.']) ++ ' ' :: (decimal serial ++
          ' ' :: "10800 3600 604800 3600".toList)) := by
    simp [soaContent]
  have blank : isSpaceMark ' ' = true := by decide
  have number : IsWord isSpaceMark (decimal serial) := by
    obtain ⟨number, rfl⟩ := Int.eq_ofNat_of_zero_le positive
    exact isWord_decimal number
  have timers : words isSpaceMark "10800 3600 604800 3600".toList = soaTimers := by decide +kernel
  rw [content, splitBlanks, (isPrimary.append isSpaceMark_dot).words_append blank,
    (isZone.append isSpaceMark_dot).words_append blank, number.words_append blank, timers]

theorem strip_soaContent (isPrimary : IsWord isSpaceMark primary) :
    strip (soaContent zoneName primary serial) = soaContent zoneName primary serial := by
  refine trim_eq_self ?_ ?_
  · intro first isFirst
    obtain ⟨head, tail, rfl⟩ := List.exists_cons_of_ne_nil isPrimary.nonempty
    cases isFirst
    exact isPrimary.solid first List.mem_cons_self
  · intro last isLast
    have content : soaContent zoneName primary serial =
        (primary ++ ['.', ' '] ++ (hostmaster zoneName ++ ['.', ' ']) ++
          (decimal serial ++ ' ' :: "10800 3600 604800 360".toList)) ++ ['0'] := by
      simp [soaContent]
    rw [content, List.getLast?_concat] at isLast
    cases isLast
    decide

def newSoa (settings : DnsSettings) (zoneName primary : Text) (serial : ℤ) : RRSet where
  name := zoneName ++ ['.']
  rtype := .soa
  ttl := settings.powerdnsDefaultTtl
  contents := [soaContent zoneName primary serial]

def newNs (settings : DnsSettings) (zoneName : Text) (cleaned : List Text) : RRSet where
  name := zoneName ++ ['.']
  rtype := .ns
  ttl := settings.powerdnsDefaultTtl
  contents := cleaned.map (· ++ ['.'])

theorem nsNames_newSoa : (zone.replaceRrset (newSoa settings zoneName primary serial)).nsNames =
      zone.nsNames := by
  simp only [Zone.nsNames]
  rw [Zone.contents_replaceRrset_of_ne (by simp [newSoa])]

theorem soaText_newNs : (zone.replaceRrset (newNs settings zoneName cleaned)).soaText =
      zone.soaText := by
  simp only [Zone.soaText]
  rw [Zone.contents_replaceRrset_of_ne (by simp [newNs])]

section Apex

variable (settled : comparedName python zoneName = zoneName)

include settled

theorem atApex : comparedName python (zoneName ++ ['.']) = zoneName := by
  rw [comparedName_append_dot, settled]

theorem soaText_newSoa (isPrimary : IsWord isSpaceMark primary) :
    (zone.replaceRrset (newSoa settings zoneName primary serial)).soaText =
      some (soaContent zoneName primary serial) := by
  have contents : (zone.replaceRrset (newSoa settings zoneName primary
      serial)).contents .soa = [soaContent zoneName primary serial] :=
    Zone.contents_replaceRrset_self (atApex settled)
  rw [Zone.soaText, contents, List.head?_cons, Option.map_some, strip_soaContent isPrimary]
  refine Option.filter_eq_some_iff.mpr ⟨rfl, ?_⟩
  simp [soaContent]

theorem nsNames_newNs (known : ∀ value ∈ cleaned, Cleaned python value) :
    (zone.replaceRrset (newNs settings zoneName cleaned)).nsNames = cleaned.toFinset := by
  have contents : (zone.replaceRrset (newNs settings zoneName cleaned)).contents .ns =
      cleaned.map (· ++ ['.']) :=
    Zone.contents_replaceRrset_self (atApex settled)
  have stripped : (cleaned.map (· ++ ['.'])).map strip = cleaned.map (· ++ ['.']) := by
    rw [List.map_map]
    exact List.map_congr_left fun value member => (known value member).strip_append_dot
  have all : (cleaned.map (· ++ ['.'])).filter (· ≠ []) = cleaned.map (· ++ ['.']) := by
    refine List.filter_eq_self.mpr fun content member => ?_
    obtain ⟨value, _, rfl⟩ := List.mem_map.mp member
    simp
  rw [Zone.nsNames, contents, stripped, all]
  ext name
  simp only [Finset.mem_image, List.mem_toFinset, List.mem_map]
  constructor
  · rintro ⟨_, ⟨value, member, rfl⟩, rfl⟩
    rw [comparedName_append_dot, (known value member).settled]
    exact member
  · intro member
    refine ⟨name ++ ['.'], ⟨name, member, rfl⟩, ?_⟩
    rw [comparedName_append_dot, (known name member).settled]

end Apex

theorem soaParts_newSoa (settled : comparedName python zoneName = zoneName)
    (isPrimary : IsWord isSpaceMark primary)
    (isZone : IsWord isSpaceMark (hostmaster zoneName)) (positive : 0 ≤ serial) :
    soaParts (zone.replaceRrset (newSoa settings zoneName primary serial)).soaText =
      (primary ++ ['.']) :: (hostmaster zoneName ++ ['.']) :: decimal serial :: soaTimers := by
  rw [soaText_newSoa settled isPrimary]
  exact splitBlanks_soaContent isPrimary isZone positive

theorem serial_newSoa (settled : comparedName python zoneName = zoneName)
    (isPrimary : IsWord isSpaceMark primary)
    (isZone : IsWord isSpaceMark (hostmaster zoneName)) (positive : 0 ≤ serial) :
    (zone.replaceRrset (newSoa settings zoneName primary serial)).serial = some serial := by
  rw [Zone.serial, soaParts_newSoa settled isPrimary isZone positive]
  rw [List.getElem?_cons_succ, List.getElem?_cons_succ, List.getElem?_cons_zero, Option.bind_some]
  exact python.int_decimal serial

theorem comparedName_append {front : Text} (small : python.lower front = front)
    (settled : comparedName python zoneName = zoneName) (nonempty : zoneName ≠ []) :
    comparedName python (front ++ zoneName) = front ++ zoneName := by
  have ends : zoneName.getLast? ≠ some '.' := by
    rw [← settled]
    exact getLast?_comparedName
  have endsToo : (front ++ zoneName).getLast? ≠ some '.' := by
    rw [List.getLast?_append_of_ne_nil front nonempty]
    exact ends
  rw [comparedName, rstripDot_eq_self ends] at settled
  rw [comparedName, rstripDot_eq_self endsToo]
  exact python.lower_append _ _ small settled

theorem comparedName_hostmaster (settled : comparedName python zoneName = zoneName)
    (nonempty : zoneName ≠ []) : comparedName python (hostmaster zoneName) = hostmaster zoneName :=
  comparedName_append (python.lower_host _ (by decide +kernel)) settled nonempty

theorem hasIdentity_newSoa (settled : comparedName python zoneName = zoneName)
    (nonempty : zoneName ≠ []) (known : Cleaned python primary) (isPrimary : IsWord isSpaceMark primary)
    (isZone : IsWord isSpaceMark (hostmaster zoneName)) (positive : 0 ≤ serial) :
    (zone.replaceRrset (newSoa settings zoneName primary serial)).HasIdentity primary := by
  refine ⟨_, _, _, soaParts_newSoa settled isPrimary isZone positive, ?_, ?_⟩
  · rw [comparedName_append_dot, known.settled]
  · rw [comparedName_append_dot, comparedName_hostmaster settled nonempty]

end Written

namespace AuthorityWorld

variable {world before after : AuthorityWorld python zoneName} {serial : ℤ}

/-- No zone was published with a serial above the present one, nor with
another NS set and the present serial once the SOA has been written. -/
structure SerialsRise (world : AuthorityWorld python zoneName) : Prop where
  bounded : ∀ earlier ∈ world.published, ∀ old, earlier.serial = some old →
    ∃ current, world.zone.serial = some current ∧ old ≤ current
  strict : ∀ newest, world.published.head? = some newest → newest.nsNames = world.zone.nsNames →
    ∀ earlier ∈ world.published, earlier.nsNames ≠ world.zone.nsNames →
      ∀ old current, earlier.serial = some old → world.zone.serial = some current → old < current
  unnoticed : ∀ newest, world.published.head? = some newest →
    newest.nsNames ≠ world.zone.nsNames → newest.serial = world.zone.serial

theorem SerialsRise.start (zone : Zone python zoneName) : SerialsRise { zone := zone } where
  bounded _ impossible := absurd impossible List.not_mem_nil
  strict _ impossible := by cases impossible
  unnoticed _ impossible := by cases impossible

variable {floor : ℕ}

theorem lt_nextSoaSerial {old : ℤ} {current : Option ℤ}
    (bounded : ∃ present, current = some present ∧ old ≤ present) :
    old < nextSoaSerial floor current := by
  obtain ⟨present, rfl, le⟩ := bounded
  rw [nextSoaSerial, Option.getD_some]
  omega

theorem nextSoaSerial_nonneg {current : Option ℤ} : 0 ≤ nextSoaSerial floor current := by
  rw [nextSoaSerial]
  omega

theorem SerialsRise.lt_of_newSoa (rise : SerialsRise world) {old : ℤ}
    {earlier : Zone python zoneName} (member : earlier ∈ world.zone :: world.published)
    (is : earlier.serial = some old) : old < nextSoaSerial floor world.zone.serial := by
  apply lt_nextSoaSerial
  rcases List.mem_cons.mp member with rfl | older
  · exact ⟨old, is, le_rfl⟩
  · exact rise.bounded earlier older old is

theorem SerialsRise.replaceSoa (rise : SerialsRise world) {newest : RRSet}
    (names : (world.zone.replaceRrset newest).nsNames = world.zone.nsNames)
    (is : (world.zone.replaceRrset newest).serial =
      some (nextSoaSerial floor world.zone.serial)) {answer : Answer} :
    SerialsRise (world.replaceRrset answer newest) := by
  rw [replaceRrset]
  split_ifs
  · exact rise
  · constructor
    · intro earlier member old isOld
      exact ⟨_, is, Int.le_of_lt (rise.lt_of_newSoa member isOld)⟩
    · intro newest _ _ earlier member _ old current isOld isCurrent
      change (world.zone.replaceRrset _).serial = some current at isCurrent
      rw [is] at isCurrent
      cases isCurrent
      exact rise.lt_of_newSoa member isOld
    · intro newest isNewest different
      cases isNewest
      exact absurd names.symm different

theorem SerialsRise.replaceNs (rise : SerialsRise world) {newest : RRSet}
    (names : (world.zone.replaceRrset newest).nsNames ≠ world.zone.nsNames)
    (soa : (world.zone.replaceRrset newest).soaText = world.zone.soaText)
    {answer : Answer} : SerialsRise (world.replaceRrset answer newest) := by
  rw [replaceRrset]
  split_ifs
  · exact rise
  · constructor
    · intro earlier member old isOld
      change ∃ current, (world.zone.replaceRrset newest).serial = _ ∧ _
      rw [Zone.serial, soa]
      rcases List.mem_cons.mp member with rfl | older
      · exact ⟨old, isOld, le_rfl⟩
      · exact rise.bounded earlier older old isOld
    · intro newest isNewest same
      cases isNewest
      exact absurd same.symm names
    · intro newest isNewest _
      cases isNewest
      change _ = (world.zone.replaceRrset _).serial
      rw [Zone.serial, Zone.serial, soa]

end AuthorityWorld

end PowerDns

end Ithute
