import Ithute.PowerDnsRecordValues
import Ithute.Library.FoldInvariants

/-!
# Sound records

When everything that `validate_record` returns lies in the zone, is
well-formed, is not repeated and is returned once more for itself.
-/

namespace Ithute

open Texts Words FoldInvariants Addresses

namespace PowerDns

variable {python : PythonText} {zone zoneName name rtype value stored : Text}
variable {fqdn storedType : Text} {contents values : List Text} {kind : RecordKind}

theorem endsBelow_iff : endsBelow zoneName name = true ↔ ('.' :: zoneName) <:+ name :=
  List.isSuffixOf_iff_suffix

theorem normalizeRecordName_below (legal : LegalZone python (comparedName python zone))
    (begins : ∀ first, name.head? = some first → isSpaceMark first = false)
    (below : ('.' :: comparedName python zone) <:+ name)
    (settled : comparedName python name = name) : normalizeRecordName python zone name = name := by
  have zoneWord := isWord_of_host legal.host legal.nonempty
  have stripped : strip name = name := by
    refine trim_eq_self begins ?_
    intro last isLast
    obtain ⟨front, rfl⟩ := below
    rw [List.getLast?_append_of_ne_nil _ (by simp),
      List.getLast?_cons_of_ne_nil legal.nonempty] at isLast
    exact zoneWord.solid last (List.mem_of_mem_getLast? isLast)
  have dotted : '.' ∈ name := below.subset List.mem_cons_self
  have special : ¬ (name = [] ∨ name = ['@']) := by
    rintro (rfl | rfl)
    · cases dotted
    · simp at dotted
  simp only [normalizeRecordName, stripped, settled]
  rw [if_neg special, if_pos (Or.inr (endsBelow_iff.mpr below))]

theorem normalizeRecordName_zone (legal : LegalZone python (comparedName python zone)) :
    normalizeRecordName python zone (comparedName python zone) = comparedName python zone := by
  have special : ¬ (comparedName python zone = [] ∨ comparedName python zone = ['@']) := by
    rintro (empty | isAt)
    · exact legal.nonempty empty
    · have dotted := legal.dotted
      rw [isAt] at dotted
      simp at dotted
  simp only [normalizeRecordName, legal.settled,
    strip_of_isWord (isWord_of_host legal.host legal.nonempty)]
  rw [if_neg special, if_pos (Or.inl trivial)]

theorem comparedName_below (legal : LegalZone python zoneName)
    (settled : comparedName python name = name) :
    comparedName python (name ++ '.' :: zoneName) = name ++ '.' :: zoneName := by
  have ends : name.getLast? ≠ some '.' := by
    rw [← settled]
    exact getLast?_comparedName
  have small : python.lower name = name := by
    rw [comparedName, rstripDot_eq_self ends] at settled
    exact settled
  have zoneEnds : zoneName.getLast? ≠ some '.' := by
    rw [← legal.settled]
    exact getLast?_comparedName
  rw [comparedName, rstripDot_eq_self]
  · refine python.lower_append _ _ small (python.lower_host _ ?_)
    rw [List.all_cons, legal.host]
    decide
  · rw [List.getLast?_append_of_ne_nil _ (by simp), List.getLast?_cons_of_ne_nil legal.nonempty]
    exact zoneEnds

theorem normalizeRecordName_cases (name : Text)
    (legal : LegalZone python (comparedName python zone)) :
    (normalizeRecordName python zone name = comparedName python zone ∨
        endsBelow (comparedName python zone) (normalizeRecordName python zone name) = true) ∧
      normalizeRecordName python zone (normalizeRecordName python zone name) =
        normalizeRecordName python zone name := by
  by_cases special : comparedName python (strip name) = [] ∨
      comparedName python (strip name) = ['@']
  · have isZone : normalizeRecordName python zone name = comparedName python zone := by
      simp only [normalizeRecordName, if_pos special]
    rw [isZone]
    exact ⟨Or.inl rfl, normalizeRecordName_zone legal⟩
  · have cleaned : Cleaned python (comparedName python (strip name)) :=
      cleaned_of_strip fun empty => special (Or.inl empty)
    by_cases inside : comparedName python (strip name) = comparedName python zone ∨
          endsBelow (comparedName python zone) (comparedName python (strip name)) = true
    · have isValue : normalizeRecordName python zone name = comparedName python (strip name) := by
        simp only [normalizeRecordName, if_neg special, if_pos inside]
      rw [isValue]
      refine ⟨inside, ?_⟩
      rcases inside with same | below
      · rw [same]
        exact normalizeRecordName_zone legal
      · exact normalizeRecordName_below legal cleaned.begins
          (endsBelow_iff.mp below) cleaned.settled
    · have isBelow : normalizeRecordName python zone name = comparedName python (strip name) ++
            '.' :: comparedName python zone := by
        simp only [normalizeRecordName, if_neg special, if_neg inside]
      rw [isBelow]
      have below : ('.' :: comparedName python zone) <:+
          comparedName python (strip name) ++ '.' :: comparedName python zone :=
        List.suffix_append _ _
      refine ⟨Or.inr (endsBelow_iff.mpr below), normalizeRecordName_below legal
        ?_ below (comparedName_below legal cleaned.settled)⟩
      intro first isFirst
      obtain ⟨head, tail, whole⟩ := List.exists_cons_of_ne_nil cleaned.nonempty
      rw [whole] at isFirst
      refine cleaned.begins first ?_
      rw [whole]
      exact isFirst

theorem find?_kind {text : Text} : (allowedKinds.find? fun kind => kind.name = text) = some kind ↔
      kind.name = text := by
  constructor
  · intro found
    simpa using List.find?_some found
  · rintro rfl
    cases kind <;> decide

theorem upper_name : python.upper kind.name = kind.name :=
  python.upper_capital _ (by cases kind <;> decide)

theorem name_injective {other : RecordKind} (same : kind.name = other.name) : kind = other := by
  have found := find?_kind.mpr (rfl : kind.name = kind.name)
  rw [same, find?_kind.mpr rfl] at found
  exact (Option.some.inj found).symm

def normalForm (python : PythonText) (zoneName : Text) (kind : RecordKind) (value : Text) : Text :=
  (normalizedValue python zoneName kind value).getD []

theorem Settled.normalForm_eq (settled : Settled python zoneName kind stored) :
    normalForm python zoneName kind stored = stored := by
  rw [normalForm, settled.again]
  rfl

theorem mapM_normalizedValue_iff {values' : List Text} :
    values.mapM (normalizedValue python zoneName kind) = some values' ↔
      (∀ value ∈ values, normalizedValue python zoneName kind value =
        some (normalForm python zoneName kind value)) ∧
      values' = values.map (normalForm python zoneName kind) := by
  have each : ∀ value, normalizedValue python zoneName kind value =
      if normalizedValue python zoneName kind value =
          some (normalForm python zoneName kind value) then
        some (normalForm python zoneName kind value)
      else none := by
    intro value
    cases normal : normalizedValue python zoneName kind value with
    | none => simp
    | some stored => simp [normalForm, normal]
  rw [mapM_eq_ite each]
  split_ifs with all
  · rw [Option.some.injEq, eq_comm]
    exact (and_iff_right all).symm
  · exact iff_of_false (by simp) fun both => all both.1

/-- What `validate_record` accepts, and what it returns. -/
theorem validateRecord_eq_some_iff (legal : LegalZone python (comparedName python zone)) :
    validateRecord python zone name rtype contents = some (fqdn, storedType, values) ↔
      fqdn = normalizeRecordName python zone name ∧ storedType = python.upper rtype ∧
      ∃ kind : RecordKind, kind.name = storedType ∧ contents ≠ [] ∧ contents.length ≤ 100 ∧
        (∀ content ∈ contents, strip content ≠ [] ∧ (strip content).length ≤ 4096) ∧
        (kind = .cname → contents.length = 1 ∧ fqdn ≠ comparedName python zone) ∧
        (contents.map strip).mapM (normalizedValue python (comparedName python zone) kind) =
            some values := by
  have inside : ¬ (normalizeRecordName python zone name ≠
      comparedName python zone ∧ endsBelow (comparedName python zone)
        (normalizeRecordName python zone name) = false) := by
    rintro ⟨notZone, notBelow⟩
    rcases (normalizeRecordName_cases name legal).1 with isZone | below
    · exact notZone isZone
    · rw [notBelow] at below
      cases below
  simp only [validateRecord, if_neg inside, Option.bind_eq_bind]
  constructor
  · intro accepted
    obtain ⟨kind, isKind, accepted⟩ := Option.bind_eq_some_iff.mp accepted
    split_ifs at accepted with many bad apex
    obtain ⟨stored, normal, accepted⟩ := Option.bind_eq_some_iff.mp accepted
    cases accepted
    rw [not_or, Nat.not_lt] at many
    refine ⟨rfl, find?_kind.mp isKind, kind, rfl, many.1, many.2, ?_, ?_, normal⟩
    · intro content member
      have fits := List.any_eq_false.mp (eq_false_of_ne_true bad) (strip content)
        (List.mem_map_of_mem member)
      simpa using fits
    · intro isCname
      rw [not_and, not_or, not_not, List.length_map] at apex
      exact apex isCname
  · rintro ⟨rfl, rfl, kind, isKind, nonempty, few, fits, apex, normal⟩
    have unmany : ¬ (contents = [] ∨ 100 < contents.length) := by
      rintro (empty | many)
      · exact nonempty empty
      · omega
    have good : (contents.map strip).any (fun value =>
        value.isEmpty || decide (4096 < value.length)) = false := by
      rw [List.any_eq_false]
      intro value member
      obtain ⟨content, contentMem, rfl⟩ := List.mem_map.mp member
      simpa using fits content contentMem
    have notApex : ¬ (kind = .cname ∧ ((contents.map strip).length ≠ 1 ∨
        normalizeRecordName python zone name = comparedName python zone)) := by
      rintro ⟨isCname, long | isZone⟩
      · rw [List.length_map] at long
        exact long (apex isCname).1
      · exact (apex isCname).2 isZone
    rw [find?_kind.mpr isKind, Option.bind_some, if_neg unmany, good,
      if_neg Bool.false_ne_true, if_neg notApex, normal, Option.bind_some, isKind]

structure Sound (python : PythonText) (zone fqdn storedType : Text)
    (values : List Text) : Prop where
  inside : fqdn = comparedName python zone ∨ ('.' :: comparedName python zone) <:+ fqdn
  wellFormed : ∃ kind : RecordKind, kind.name = storedType ∧ ∀ value ∈ values, WellFormed kind value
  distinct : values.Nodup
  stable : validateRecord python zone fqdn storedType values = some (fqdn, storedType, values)

/-- A text and the same one in quotes. -/
def Quotes (quoted raw : Text) : Prop :=
  isQuoted raw = false ∧ quoted = '"' :: raw.flatMap escape ++ ['"']

/-- Stripped values that are one record; names are told apart as the zone
completes them. -/
def Repeats (python : PythonText) (zoneName : Text) : RecordKind → Text → Text → Prop
  | .a, first, second | .aaaa, first, second | .caa, first, second => first = second
  | .txt, first, second => first = second ∨ Quotes first second ∨ Quotes second first
  | kind, first, second =>
    normalizedValue python zoneName kind first = normalizedValue python zoneName kind second

/-- Values that fit their kind and are records of their own. -/
def Suits (python : PythonText) (zone rtype : Text) (contents : List Text) : Prop :=
  ∃ kind : RecordKind, kind.name = python.upper rtype ∧
    (∀ content ∈ contents, Fits python kind (strip content)) ∧
    (contents.map strip).Pairwise fun first second =>
      ¬ Repeats python (comparedName python zone) kind first second

section Values

variable (legal : LegalZone python zoneName)

include legal

theorem settled_of_fits (normal : normalizedValue python zoneName kind value = some stored)
    (stripped : strip value = value) (nonempty : value ≠ [])
    (short : value.length ≤ 4096) (fits : Fits python kind value) :
    Settled python zoneName kind stored ∧ WellFormed kind stored := by
  cases kind with
  | a =>
    have wellFormed := a_wellFormed normal
    simp only [normalizedValue] at normal
    split_ifs at normal with four
    cases normal
    exact ⟨⟨stripped, nonempty, short, if_pos four⟩, wellFormed⟩
  | aaaa =>
    have wellFormed := (aaaa_wellFormed_iff normal).mpr fits
    simp only [normalizedValue] at normal
    split_ifs at normal with six
    cases normal
    exact ⟨⟨stripped, nonempty, short, if_pos six⟩, wellFormed⟩
  | cname =>
    exact ⟨cname_settled legal normal fits, (cname_wellFormed_iff legal normal).mpr fits⟩
  | mx =>
    exact ⟨mx_settled legal normal fits, (mx_wellFormed_iff legal normal).mpr fits⟩
  | srv =>
    exact ⟨srv_settled legal normal fits, (srv_wellFormed_iff legal normal).mpr fits⟩
  | txt =>
    cases normal
    obtain ⟨wellFormed, fitsLength⟩ := (txt_wellFormed_iff stripped short).mpr fits
    exact ⟨txt_settled stripped fitsLength, wellFormed⟩
  | caa =>
    cases normal
    exact ⟨⟨stripped, nonempty, short, rfl⟩, fits⟩

theorem fits_of_wellFormed (normal : normalizedValue python zoneName kind value = some stored)
    (stripped : strip value = value) (short : value.length ≤ 4096)
    (wellFormed : WellFormed kind stored)
    (storedShort : (strip stored).length ≤ 4096) : Fits python kind value := by
  cases kind with
  | a => trivial
  | aaaa => exact (aaaa_wellFormed_iff normal).mp wellFormed
  | cname => exact (cname_wellFormed_iff legal normal).mp wellFormed
  | mx => exact (mx_wellFormed_iff legal normal).mp wellFormed
  | srv => exact (srv_wellFormed_iff legal normal).mp wellFormed
  | txt =>
    cases normal
    rw [strip_of_isQuoted (isQuoted_normalizeTxt stripped)] at storedShort
    exact (txt_wellFormed_iff stripped short).mp ⟨wellFormed, storedShort⟩
  | caa =>
    cases normal
    exact wellFormed

end Values

theorem flatMap_escape_injective : Function.Injective fun value : Text => value.flatMap escape := by
  intro first
  induction first with
  | nil =>
    intro second same
    cases second with
    | nil => rfl
    | cons other rest =>
      simp only [List.flatMap_nil, List.flatMap_cons, escape] at same
      split_ifs at same <;> cases same
  | cons character value ih =>
    intro second same
    cases second with
    | nil =>
      simp only [List.flatMap_nil, List.flatMap_cons, escape] at same
      split_ifs at same <;> cases same
    | cons other rest =>
      have both : character = other ∧ value.flatMap escape = rest.flatMap escape := by
        simp only [List.flatMap_cons, escape] at same
        split_ifs at same <;> grind
      rw [both.1, ih both.2]

theorem normalizeTxt_eq_iff {first second : Text} (firstStripped : strip first = first)
    (secondStripped : strip second = second) : normalizeTxt first = normalizeTxt second ↔
      first = second ∨ Quotes first second ∨ Quotes second first := by
  have quotes (raw : Text) : isQuoted ('"' :: raw.flatMap escape ++ ['"']) = true := isQuoted_quotes _
  simp only [normalizeTxt, firstStripped, secondStripped, Quotes]
  cases one : isQuoted first <;> cases two : isQuoted second
  · rw [if_neg Bool.false_ne_true, if_neg Bool.false_ne_true]
    constructor
    · intro same
      rw [List.append_left_inj, List.cons.injEq] at same
      exact .inl (flatMap_escape_injective same.2)
    · rintro (rfl | ⟨-, rfl⟩ | ⟨-, rfl⟩)
      · rfl
      · cases (quotes second).symm.trans one
      · cases (quotes first).symm.trans two
  · grind
  · grind
  · simp

theorem repeats_iff {first second : Text} (firstStripped : strip first = first)
    (secondStripped : strip second = second)
    (firstNormal : normalizedValue python zoneName kind first =
      some (normalForm python zoneName kind first))
    (secondNormal : normalizedValue python zoneName kind second =
      some (normalForm python zoneName kind second)) :
    normalForm python zoneName kind first = normalForm python zoneName kind second ↔
      Repeats python zoneName kind first second := by
  rw [← Option.some.injEq, ← firstNormal, ← secondNormal]
  cases kind with
  | txt => rw [normalizedValue, normalizedValue, Option.some.injEq,
      normalizeTxt_eq_iff firstStripped secondStripped, Repeats]
  | a | aaaa =>
    simp only [normalizedValue] at firstNormal secondNormal ⊢
    split_ifs at firstNormal secondNormal with one two
    rw [if_pos one, if_pos two, Option.some.injEq, Repeats]
  | caa => rw [normalizedValue, normalizedValue, Option.some.injEq, Repeats]
  | cname | mx | srv => rfl

theorem nodup_iff (stripped : ∀ value ∈ values, strip value = value)
    (normal : ∀ value ∈ values, normalizedValue python zoneName kind value =
      some (normalForm python zoneName kind value)) :
    (values.map (normalForm python zoneName kind)).Nodup ↔ values.Pairwise fun first second =>
        ¬ Repeats python zoneName kind first second := by
  rw [List.Nodup, List.pairwise_map]
  refine List.Pairwise.iff_of_mem fun {first second} firstMem secondMem => ?_
  rw [ne_eq, repeats_iff (stripped first firstMem) (stripped second secondMem)
    (normal first firstMem) (normal second secondMem)]

/-- What is returned is sound exactly where the values suit. -/
theorem sound_iff (python : PythonText) (zone name rtype : Text)
    (contents : List Text) {fqdn storedType : Text} {values : List Text}
    (isZone : isZoneName python zone = true)
    (accepted : validateRecord python zone name rtype contents = some (fqdn, storedType, values)) :
    Sound python zone fqdn storedType values ↔ Suits python zone rtype contents := by
  have legal := legalZone_of_isZoneName isZone
  obtain ⟨rfl, rfl, kind, isKind, nonempty, few, fits, apex, normal⟩ :=
    (validateRecord_eq_some_iff legal).mp accepted
  obtain ⟨each, rfl⟩ := mapM_normalizedValue_iff.mp normal
  have strips : ∀ value ∈ contents.map strip, strip value = value := by
    intro value member
    obtain ⟨content, -, rfl⟩ := List.mem_map.mp member
    exact strip_strip
  constructor
  · intro sound
    obtain ⟨_, _, other, otherName, _, _, storedFits, _, _⟩ :=
      (validateRecord_eq_some_iff legal).mp sound.stable
    obtain ⟨same, sameName, wellFormed⟩ := sound.wellFormed
    have isSame : same = kind := name_injective (sameName.trans isKind.symm)
    subst isSame
    refine ⟨same, isKind, ?_, (nodup_iff strips each).mp sound.distinct⟩
    intro content member
    have stripMem : strip content ∈ contents.map strip := List.mem_map_of_mem member
    have storedMem : normalForm python (comparedName python zone) same
        (strip content) ∈ (contents.map strip).map
          (normalForm python (comparedName python zone) same) :=
      List.mem_map_of_mem stripMem
    exact fits_of_wellFormed legal (each _ stripMem) strip_strip
      (fits content member).2 (wellFormed _ storedMem) (storedFits _ storedMem).2
  · rintro ⟨same, sameName, suits, distinct⟩
    have isSame : same = kind := name_injective (sameName.trans isKind.symm)
    subst isSame
    have settled : ∀ value ∈ contents.map strip, Settled python (comparedName python zone) same
            (normalForm python (comparedName python zone) same value) ∧
          WellFormed same (normalForm python (comparedName python zone) same value) := by
      intro value member
      obtain ⟨content, contentMem, rfl⟩ := List.mem_map.mp member
      exact settled_of_fits legal (each _ member) strip_strip
        (fits content contentMem).1 (fits content contentMem).2 (suits content contentMem)
    obtain ⟨inside, again⟩ := normalizeRecordName_cases name legal
    refine ⟨?_, ⟨same, isKind, ?_⟩, (nodup_iff strips each).mpr distinct, ?_⟩
    · rw [← endsBelow_iff]
      exact inside
    · intro stored member
      obtain ⟨value, valueMem, rfl⟩ := List.mem_map.mp member
      exact (settled value valueMem).2
    · have stripped : ((contents.map strip).map
          (normalForm python (comparedName python zone) same)).map strip = (contents.map strip).map
              (normalForm python (comparedName python zone) same) := by
        rw [List.map_map]
        exact List.map_congr_left fun value member => (settled value member).1.stripped
      refine (validateRecord_eq_some_iff legal).mpr ⟨again.symm, ?_, same,
        isKind, ?_, ?_, ?_, ?_, ?_⟩
      · rw [← isKind, upper_name]
      · simpa using nonempty
      · simpa using few
      · intro stored member
        obtain ⟨value, valueMem, rfl⟩ := List.mem_map.mp member
        have here := (settled value valueMem).1
        rw [here.stripped]
        exact ⟨here.nonempty, here.short⟩
      · intro isCname
        simpa using apex isCname
      · rw [stripped, mapM_normalizedValue_iff]
        refine ⟨?_, ?_⟩
        · intro stored member
          obtain ⟨value, valueMem, rfl⟩ := List.mem_map.mp member
          have here := (settled value valueMem).1
          rw [here.normalForm_eq]
          exact here.again
        · refine ((List.map_congr_left fun stored member => ?_).trans (List.map_id _)).symm
          obtain ⟨value, valueMem, rfl⟩ := List.mem_map.mp member
          exact (settled value valueMem).1.normalForm_eq

def shopZone : Text := "shop.bw".toList

/-- Two mail exchangers, of which one is named relative to the zone. -/
def exchangers : List Text := ["10 mail".toList, "20 MX.example.com.".toList]

theorem sound_iff_exchangers : isZoneName asciiText shopZone = true ∧
    validateRecord asciiText shopZone ['@'] ['m', 'x'] exchangers = some (shopZone, ['M', 'X'],
        ["10 mail.shop.bw.".toList, "20 mx.example.com.".toList]) ∧
    (Sound asciiText shopZone shopZone ['M', 'X']
        ["10 mail.shop.bw.".toList, "20 mx.example.com.".toList] ↔
      Suits asciiText shopZone ['m', 'x'] exchangers) :=
  have isZone : isZoneName asciiText shopZone = true := by decide +kernel
  have accepted : validateRecord asciiText shopZone ['@'] ['m', 'x']
      exchangers = some (shopZone, ['M', 'X'],
        ["10 mail.shop.bw.".toList, "20 mx.example.com.".toList]) := by
    decide +kernel
  ⟨isZone, accepted, sound_iff asciiText shopZone ['@'] ['m', 'x'] exchangers isZone accepted⟩

/-- A text that begins and ends with a quote is stored as it is, also where
the quotes inside are not escaped. -/
theorem quoted_unsound : isZoneName asciiText shopZone = true ∧
    validateRecord asciiText shopZone ['@'] ['T', 'X', 'T'] ["\"a\" b\"".toList] =
      some (shopZone, ['T', 'X', 'T'], ["\"a\" b\"".toList]) ∧
    ¬ Sound asciiText shopZone shopZone ['T', 'X', 'T'] ["\"a\" b\"".toList] := by
  refine ⟨by decide +kernel, by decide +kernel, ?_⟩
  rintro ⟨_, ⟨kind, isKind, wellFormed⟩, _, _⟩
  have isTxt : kind = .txt := name_injective isKind
  subst isTxt
  have closes := wellFormed _ (List.mem_singleton_self _)
  revert closes
  change ¬ areQuotedStrings _ = true
  decide +kernel

end PowerDns

end Ithute
