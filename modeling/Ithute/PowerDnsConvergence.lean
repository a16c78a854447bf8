import Ithute.PowerDnsReconciling

/-!
# Runs of the reconciliation

A call that succeeds has settled the apex, a further call writes nothing, and
the serial has risen with the nameservers unless a call found the zone in
order whose nameservers went out without a new serial.
-/

namespace Ithute

open TransitionRuns Texts Words

namespace PowerDns

variable {python : PythonText} {zoneName name primary : Text}
variable {settings : DnsSettings} {call : Call} {cleaned : List Text}

namespace AuthorityWorld

variable {world after : AuthorityWorld python zoneName}

structure Reconciles (settings : DnsSettings)
    (_before : AuthorityWorld python zoneName) (call : Call)
    (after : AuthorityWorld python zoneName) : Prop where
  settled : ∀ zone, after.returned = some zone → zone = after.zone ∧ ∃ cleaned,
      cleanNameservers python (calledNameservers settings call) = some cleaned ∧
        after.zone.nsNames = cleaned.toFinset ∧ after.zone.HasIdentity (cleaned.headD [])
  quiet : after.returned.isSome = true → ∀ further : Call, further.nameservers = call.nameservers →
      (after.next settings further).zone = after.zone ∧
        (after.next settings further).published = after.published
  rises : after.returned.isSome = true → ∀ earlier ∈ after.published,
    earlier.nsNames ≠ after.zone.nsNames → ∀ old, earlier.serial = some old →
      ∃ current, after.zone.serial = some current ∧ old < current

def RefusesBlanks (python : PythonText) (zoneName : Text)
    (settings : DnsSettings) (call : Call) : Prop :=
  ∀ cleaned ∈ cleanNameservers python (calledNameservers settings call),
    (cleaned.headD [] ++ hostmaster zoneName).any isSpaceMark = true →
      call.answers .replaceSoa = .refused

/-- A call finds the zone in order where nothing is to be written. -/
def FindsInOrder (settings : DnsSettings)
    (world : AuthorityWorld python zoneName) (call : Call) : Prop :=
  call.answers .read = .answered ∧
    ∃ cleaned ∈ cleanNameservers python (calledNameservers settings call),
      world.zone.nsNames = cleaned.toFinset ∧ world.zone.HasIdentity (cleaned.headD [])

/-- The last request that PowerDNS carried out has replaced the nameservers,
so that the zone has them with the serial of others. -/
def Unnoticed (world : AuthorityWorld python zoneName) : Prop :=
  (∃ newest ∈ world.published.head?, newest.nsNames ≠ world.zone.nsNames) ∧
    world.zone.serial.isSome = true

/-- No call takes a zone to be in order whose nameservers went out
unnoticed. -/
def Notices (settings : DnsSettings) (before : AuthorityWorld python zoneName)
    (call : Call) (_after : AuthorityWorld python zoneName) : Prop :=
  ¬ (FindsInOrder settings before call ∧ Unnoticed before)

theorem Reconciles.of_failed (failed : after.returned = none) :
    Reconciles settings world call after where
  settled zone returned := by
    rw [failed] at returned
    cases returned
  quiet returned := by
    rw [failed] at returned
    cases returned
  rises returned := by
    rw [failed] at returned
    cases returned

theorem currentSerial_eq {zone : Zone python zoneName} :
    currentSerial python (soaParts zone.soaText) = zone.serial := by
  rw [currentSerial, Zone.serial]
  split_ifs with long
  · rfl
  · rw [List.getElem?_eq_none (by omega)]
    rfl

theorem reconcile_of_inOrder (names : world.zone.nsNames = cleaned.toFinset)
    (identity : world.zone.HasIdentity (cleaned.headD [])) : world.reconcile settings cleaned call =
      { world with returned := some world.zone } := by
  have ok := soaIdentityOk_iff.mpr identity
  simp only [reconcile, Zone.authority_eq, names, ne_eq, not_true_eq_false,
    decide_false, Bool.not_false, Bool.true_and]
  exact if_pos ok

theorem quiet_of_settled (accepted : cleanNameservers python (calledNameservers settings call) =
      some cleaned) (names : world.zone.nsNames = cleaned.toFinset)
    (identity : world.zone.HasIdentity (cleaned.headD [])) (further : Call)
    (same : further.nameservers = call.nameservers) :
    (world.next settings further).zone = world.zone ∧
      (world.next settings further).published = world.published := by
  have acceptedToo : cleanNameservers python
      (calledNameservers settings further) = some cleaned := by
    rw [← accepted, calledNameservers, calledNameservers, same]
  rw [next, acceptedToo]
  dsimp only
  split_ifs
  · rw [reconcile_of_inOrder names identity]
    exact ⟨rfl, rfl⟩
  · exact ⟨rfl, rfl⟩

/-- A call that finds the zone in order notices a change exactly where the
serial has gone out with it. -/
theorem reconciles_iff_of_inOrder (rise : SerialsRise world)
    (accepted : cleanNameservers python (calledNameservers settings call) = some cleaned)
    (names : world.zone.nsNames = cleaned.toFinset)
    (identity : world.zone.HasIdentity (cleaned.headD [])) : Reconciles settings world call
        { world with returned := some world.zone } ↔ ¬ Unnoticed world := by
  constructor
  · rintro reconciles ⟨⟨newest, isNewest, different⟩, numeric⟩
    obtain ⟨old, isOld⟩ := Option.isSome_iff_exists.mp numeric
    obtain ⟨current, isCurrent, less⟩ := reconciles.rises rfl newest
      (List.mem_of_mem_head? isNewest) different old
      ((rise.unnoticed newest isNewest different).trans isOld)
    rw [isOld] at isCurrent
    cases isCurrent
    exact absurd less (lt_irrefl old)
  · intro noticed
    refine ⟨?_, ?_, ?_⟩
    · intro zone returned
      cases returned
      exact ⟨rfl, cleaned, accepted, names, identity⟩
    · intro _ further same
      refine quiet_of_settled accepted ?_ ?_ further same
      · exact names
      · exact identity
    · intro _ earlier member different old isOld
      obtain ⟨current, isCurrent, _⟩ := rise.bounded earlier member old isOld
      refine ⟨current, isCurrent, ?_⟩
      cases published : world.published.head? with
      | none =>
        rw [List.head?_eq_none_iff] at published
        rw [published] at member
        cases member
      | some newest =>
        by_cases same : newest.nsNames = world.zone.nsNames
        · exact rise.strict newest published same earlier member different old
            current isOld isCurrent
        · exact absurd ⟨⟨newest, published, same⟩, by rw [isCurrent]; rfl⟩ noticed

theorem words_of_any_eq_false (known : Cleaned python primary)
    (solid : (primary ++ hostmaster zoneName).any isSpaceMark = false) :
    IsWord isSpaceMark primary ∧ IsWord isSpaceMark (hostmaster zoneName) := by
  rw [List.any_append, Bool.or_eq_false_iff, List.any_eq_false, List.any_eq_false] at solid
  refine ⟨⟨known.nonempty, fun character member => ?_⟩, ⟨?_, fun character member => ?_⟩⟩
  · exact eq_false_of_ne_true (solid.1 character member)
  · intro empty
    exact absurd (List.append_eq_nil_iff.mp empty).1 (by decide)
  · exact eq_false_of_ne_true (solid.2 character member)

section Published

variable (settledZone : comparedName python zoneName = zoneName)
variable (nonroot : zoneName ≠ []) (known : Cleaned python primary)

include settledZone nonroot known

theorem publishSoa_correct {floor : ℕ} (rise : SerialsRise world)
    (accepted : cleanNameservers python (calledNameservers settings call) = some cleaned)
    (names : world.zone.nsNames = cleaned.toFinset) (first : primary = cleaned.headD [])
    (refuses : (primary ++ hostmaster zoneName).any isSpaceMark = true →
      call.answers .replaceSoa = .refused) (before : AuthorityWorld python zoneName) :
    SerialsRise (world.publishSoa settings primary
        (nextSoaSerial floor world.zone.serial) call.answers) ∧
      Reconciles settings before call (world.publishSoa settings primary
        (nextSoaSerial floor world.zone.serial) call.answers) := by
  by_cases refused : call.answers .replaceSoa = .refused
  · have unanswered : ¬ (call.answers .replaceSoa = .answered ∧ call.answers .rectify = .answered ∧
          call.answers .reread = .answered) := by
      rintro ⟨answered, _⟩
      rw [refused] at answered
      cases answered
    simp only [publishSoa, if_neg unanswered]
    refine ⟨?_, .of_failed rfl⟩
    rw [refused]
    exact ⟨rise.bounded, rise.strict, rise.unnoticed⟩
  · have solid : (primary ++ hostmaster zoneName).any isSpaceMark = false :=
      eq_false_of_ne_true (mt refuses refused)
    obtain ⟨isPrimary, isZone⟩ := words_of_any_eq_false known solid
    have nonneg : 0 ≤ nextSoaSerial floor world.zone.serial := nextSoaSerial_nonneg
    have sameNames : (world.zone.replaceRrset (newSoa settings zoneName primary
        (nextSoaSerial floor world.zone.serial))).nsNames = world.zone.nsNames := nsNames_newSoa
    have newSerial : (world.zone.replaceRrset (newSoa settings zoneName primary
        (nextSoaSerial floor world.zone.serial))).serial =
          some (nextSoaSerial floor world.zone.serial) :=
      serial_newSoa settledZone isPrimary isZone nonneg
    have newIdentity : (world.zone.replaceRrset (newSoa settings zoneName primary
        (nextSoaSerial floor world.zone.serial))).HasIdentity primary :=
      hasIdentity_newSoa settledZone nonroot known isPrimary isZone nonneg
    have rises : SerialsRise (world.replaceRrset (call.answers .replaceSoa)
        (newSoa settings zoneName primary (nextSoaSerial floor world.zone.serial))) :=
      rise.replaceSoa sameNames newSerial
    simp only [publishSoa]
    split_ifs with answered
    · refine ⟨⟨rises.bounded, rises.strict, rises.unnoticed⟩, ?_⟩
      rw [replaceRrset, if_neg refused]
      have settled := sameNames.trans names
      rw [first] at newIdentity settled newSerial ⊢
      refine ⟨?_, ?_, ?_⟩
      · intro zone returned
        cases returned
        exact ⟨rfl, cleaned, accepted, settled, newIdentity⟩
      · intro _ further same
        refine quiet_of_settled accepted ?_ ?_ further same
        · exact settled
        · exact newIdentity
      · intro _ earlier member _ old isOld
        exact ⟨_, newSerial, rise.lt_of_newSoa member isOld⟩
    · exact ⟨⟨rises.bounded, rises.strict, rises.unnoticed⟩, .of_failed rfl⟩

end Published

theorem publish_correct (floor : ℕ) (settledZone : comparedName python zoneName = zoneName)
    (nonroot : zoneName ≠ []) (rise : SerialsRise world)
    (accepted : cleanNameservers python (calledNameservers settings call) = some cleaned)
    (refuses : RefusesBlanks python zoneName settings call) :
    SerialsRise (world.publish settings cleaned
        (decide (world.zone.nsNames ≠ cleaned.toFinset)) (cleaned.headD [])
        (nextSoaSerial floor world.zone.serial) call.answers) ∧
      Reconciles settings world call (world.publish settings cleaned
        (decide (world.zone.nsNames ≠ cleaned.toFinset)) (cleaned.headD [])
        (nextSoaSerial floor world.zone.serial) call.answers) := by
  obtain ⟨known, two⟩ := cleaned_of_cleanNameservers accepted
  have knownFirst : Cleaned python (cleaned.headD []) := by
    cases cleaned with
    | nil => simp at two
    | cons first rest => exact known first List.mem_cons_self
  by_cases same : world.zone.nsNames = cleaned.toFinset
  · simp only [publish, same, ne_eq, not_true_eq_false, decide_false, Bool.false_eq_true, if_false]
    exact publishSoa_correct settledZone nonroot knownFirst rise accepted same
      rfl (refuses cleaned accepted) world
  · simp only [publish, ne_eq, same, not_false_eq_true, decide_true, if_true]
    have newNames : (world.zone.replaceRrset (newNs settings zoneName cleaned)).nsNames =
          cleaned.toFinset := nsNames_newNs settledZone known
    have sameSoa : (world.zone.replaceRrset (newNs settings zoneName cleaned)).soaText =
          world.zone.soaText := soaText_newNs
    have rises : SerialsRise (world.replaceRrset (call.answers .replaceNs)
        (newNs settings zoneName cleaned)) := by
      refine rise.replaceNs ?_ sameSoa
      rw [newNames]
      exact Ne.symm same
    split_ifs with answered
    · have sent : world.replaceRrset (call.answers .replaceNs) (newNs settings zoneName cleaned) =
          { world with
            zone := world.zone.replaceRrset (newNs settings zoneName cleaned)
            published := world.zone :: world.published } := by
        rw [answered]
        rfl
      have names : (world.replaceRrset (call.answers .replaceNs)
          (newNs settings zoneName cleaned)).zone.nsNames = cleaned.toFinset := by
        rw [sent]
        exact newNames
      have serial : (world.replaceRrset (call.answers .replaceNs)
          (newNs settings zoneName cleaned)).zone.serial = world.zone.serial := by
        rw [sent]
        change (world.zone.replaceRrset _).serial = _
        rw [Zone.serial, Zone.serial, sameSoa]
      rw [← serial]
      exact publishSoa_correct settledZone nonroot knownFirst rises accepted
        names rfl (refuses cleaned accepted) world
    · exact ⟨⟨rises.bounded, rises.strict, rises.unnoticed⟩, .of_failed rfl⟩

/-- A call keeps the invariant, and reconciles exactly where it does not take
an unnoticed change for order. -/
theorem next_correct (settledZone : comparedName python zoneName = zoneName)
    (nonroot : zoneName ≠ []) (rise : SerialsRise world)
    (refuses : RefusesBlanks python zoneName settings call) :
    SerialsRise (world.next settings call) ∧
      (Reconciles settings world call (world.next settings call) ↔
        Notices settings world call (world.next settings call)) := by
  have failed : SerialsRise world.fails := ⟨rise.bounded, rise.strict, rise.unnoticed⟩
  cases accepted : cleanNameservers python (calledNameservers settings call) with
  | none =>
    simp only [next, accepted]
    refine ⟨failed, fun _ => ?_, fun _ => .of_failed rfl⟩
    rintro ⟨⟨_, cleaned, isCleaned, _⟩, _⟩
    rw [accepted] at isCleaned
    cases isCleaned
  | some cleaned =>
    simp only [next, accepted]
    split_ifs with answered
    · by_cases inOrder : world.zone.nsNames = cleaned.toFinset ∧
          world.zone.HasIdentity (cleaned.headD [])
      · rw [reconcile_of_inOrder inOrder.1 inOrder.2]
        refine ⟨⟨rise.bounded, rise.strict, rise.unnoticed⟩, ?_⟩
        rw [reconciles_iff_of_inOrder rise accepted inOrder.1 inOrder.2]
        refine ⟨fun noticed both => noticed both.2, fun notices unnoticed => ?_⟩
        exact notices ⟨⟨answered, cleaned, accepted, inOrder⟩, unnoticed⟩
      · have written : world.reconcile settings cleaned call = world.publish settings cleaned
              (decide (world.zone.nsNames ≠ cleaned.toFinset)) (cleaned.headD [])
              (nextSoaSerial call.dailyFloor world.zone.serial)
              call.answers := by
          simp only [reconcile, Zone.authority_eq, currentSerial_eq]
          refine if_neg ?_
          rw [Bool.and_eq_true, soaIdentityOk_iff]
          rintro ⟨same, identity⟩
          exact inOrder ⟨by simpa using same, identity⟩
        obtain ⟨rises, reconciles⟩ := publish_correct call.dailyFloor
          settledZone nonroot rise accepted refuses
        rw [written]
        refine ⟨rises, fun _ => ?_, fun _ => reconciles⟩
        rintro ⟨⟨_, other, isOther, found⟩, _⟩
        rw [accepted] at isOther
        cases isOther
        exact inOrder found
    · refine ⟨failed, fun _ => ?_, fun _ => .of_failed rfl⟩
      rintro ⟨⟨read, _⟩, _⟩
      exact answered read

/-- A run of calls reconciles exactly where no call takes an unnoticed change
of the nameservers for order. -/
theorem reconciles_iff (python : PythonText) (settings : DnsSettings)
    (name : Text) (nonroot : comparedName python name ≠ [])
    (zone : Zone python (comparedName python name)) (calls : List Call) (refuses : ∀ call ∈ calls,
      RefusesBlanks python (comparedName python name) settings call) :
    EveryStep (fun before call after =>
        after = AuthorityWorld.next before settings call)
        (Reconciles settings) { zone := zone } calls ↔
      EveryStep (fun before call after =>
        after = AuthorityWorld.next before settings call)
        (Notices settings) { zone := zone } calls := by
  have begun : SerialsRise { zone := zone } := .start zone
  refine EveryStep.congr_of_allowed begun ?_ ?_ refuses
  · rintro before call after rise rfl allowed
    exact (next_correct comparedName_comparedName nonroot rise allowed).1
  · rintro before call after rise rfl allowed
    exact (next_correct comparedName_comparedName nonroot rise allowed).2

instance decidableHasIdentity (zone : Zone python zoneName) (primary : Text) :
    Decidable (zone.HasIdentity primary) :=
  decidable_of_iff _ soaIdentityOk_iff

instance decidableFindsInOrder (world : AuthorityWorld python zoneName)
    (call : Call) : Decidable (FindsInOrder settings world call) :=
  inferInstanceAs (Decidable (_ ∧ _))

instance decidableUnnoticed (world : AuthorityWorld python zoneName) :
    Decidable (Unnoticed world) :=
  inferInstanceAs (Decidable (_ ∧ _))

instance decidableNotices (before : AuthorityWorld python zoneName)
    (call : Call) (after : AuthorityWorld python zoneName) :
    Decidable (Notices settings before call after) :=
  inferInstanceAs (Decidable (¬ _))

instance decidableRefusesBlanks (call : Call) :
    Decidable (RefusesBlanks python zoneName settings call) :=
  inferInstanceAs (Decidable (∀ cleaned ∈ _, _ → _))

def platform : DnsSettings where
  nameserver1 := "ns1.ithute.bw".toList
  nameserver2 := "ns2.ithute.bw".toList
  powerdnsDefaultTtl := 3600

def servedZone (soa : String) : Zone asciiText (comparedName asciiText "shop.bw".toList) where
  rrsets :=
    [{ name := "shop.bw.".toList, rtype := .ns, ttl := 3600
       contents := ["NS1.ithute.bw.".toList, "old.ithute.bw.".toList] },
      { name := "shop.bw.".toList, rtype := .soa, ttl := 3600
        contents := [soa.toList] }]
  single := length_filter_pair RecordType.noConfusion

def called (answers : Request → Answer) : Call where
  nameservers := []
  dailyFloor := 2026090100
  answers := answers

def soaRefused : Call :=
  called fun
    | .replaceSoa => .refused
    | _ => .answered

def fallbackZone :=
  servedZone "a.misconfigured.dns.server.invalid. hostmaster.shop.bw. 7     10800 3600 604800 3600"

/-- A zone with another primary keeps a retry from taking it for order. -/
theorem reconciles_iff_retried : comparedName asciiText "shop.bw".toList ≠ [] ∧
    (∀ call ∈ [soaRefused, called fun _ => .answered],
      RefusesBlanks asciiText (comparedName asciiText "shop.bw".toList) platform call) ∧
    EveryStep (fun before call after =>
      after = AuthorityWorld.next before platform call)
      (Reconciles platform) { zone := fallbackZone }
      [soaRefused, called fun _ => .answered] :=
  have nonroot : comparedName asciiText "shop.bw".toList ≠ [] := by decide +kernel
  have refuses : ∀ call ∈ [soaRefused, called fun _ => .answered],
      RefusesBlanks asciiText (comparedName asciiText "shop.bw".toList) platform
        call := by
    decide +kernel
  ⟨nonroot, refuses, (reconciles_iff asciiText platform "shop.bw".toList nonroot
    fallbackZone [soaRefused, called fun _ => .answered] refuses).mpr
      (EveryStep.of_stepByStep (by decide +kernel))⟩

def orderlyZone :=
  servedZone "ns1.ithute.bw. hostmaster.shop.bw. 2026090101 10800 3600 604800     3600"

/-- The nameservers go out, their SOA is refused, and the retry finds the zone
in order: secondaries keep the serial of the old nameservers. -/
theorem retry_unnoticed : ¬ EveryStep (fun before call after =>
      after = AuthorityWorld.next before platform call)
      (Reconciles platform) { zone := orderlyZone }
      [soaRefused, called fun _ => .answered] := by
  intro always
  have retried := always [soaRefused] (called fun _ => .answered) [] _ _ rfl
    (Run.of_foldl _ _ _) rfl
  obtain ⟨current, isCurrent, less⟩ := retried.rises (by decide +kernel)
    orderlyZone (by decide +kernel) (by decide +kernel) 2026090101 (by decide +kernel)
  have same : (([soaRefused].foldl (AuthorityWorld.next · platform ·)
      { zone := orderlyZone }).next platform
        (called fun _ => .answered)).zone.serial = some 2026090101 := by
    decide +kernel
  rw [same] at isCurrent
  cases isCurrent
  exact absurd less (lt_irrefl _)

end AuthorityWorld

end PowerDns

end Ithute
