import Ithute.PowerDnsReconciling
import Ithute.PowerDnsRecords

/-!
# Normalised values

When the value that a normaliser accepts is well-formed data, and that a
well-formed value is its own normal form.
-/

namespace Ithute

open Texts Words Addresses

namespace PowerDns

variable {python : PythonText} {zone zoneName name value stored target : Text}
variable {text : Text} {allowRoot : Bool} {kind : RecordKind}

theorem isSpaceMark_of_hostCharacter {character : Char}
    (host : hostCharacter character = true) : isSpaceMark character = false := by
  have ascii : 0x21 ≤ character.toNat ∧ character.toNat ≤ 0x7E := by
    simp only [hostCharacter, Bool.or_eq_true, Bool.and_eq_true, decide_eq_true_eq] at host
    rcases host with (((⟨low, high⟩ | ⟨low, high⟩) | rfl) | rfl) | rfl
    · have : 97 ≤ character.toNat := low
      have : character.toNat ≤ 122 := high
      omega
    · have : 48 ≤ character.toNat := low
      have : character.toNat ≤ 57 := high
      omega
    · decide
    · decide
    · decide
  have value : (Fin.ofNat 0x110000 character.toNat).val = character.toNat :=
    Nat.mod_eq_of_lt (by omega)
  simp only [isSpaceMark, isPythonSpace, value, decide_eq_false_iff_not]
  omega

theorem isWord_of_host (host : text.all hostCharacter = true)
    (nonempty : text ≠ []) : IsWord isSpaceMark text where
  nonempty := nonempty
  solid character member := isSpaceMark_of_hostCharacter (List.all_eq_true.mp host character member)

theorem strip_of_isWord (isWord : IsWord isSpaceMark text) : strip text = text := by
  refine trim_eq_self ?_ ?_
  · intro first isFirst
    exact isWord.solid first (List.mem_of_mem_head? isFirst)
  · intro last isLast
    exact isWord.solid last (List.mem_of_mem_getLast? isLast)

theorem strip_append {front word : Text} {separator : Char} (middle : Text)
    (isFront : IsWord isSpaceMark front) (isWord : IsWord isSpaceMark word) :
    strip (front ++ separator :: (middle ++ word)) = front ++ separator :: (middle ++ word) := by
  refine trim_eq_self ?_ ?_
  · intro first isFirst
    obtain ⟨head, tail, rfl⟩ := List.exists_cons_of_ne_nil isFront.nonempty
    cases isFirst
    exact isFront.solid first List.mem_cons_self
  · intro last isLast
    rw [List.getLast?_append_of_ne_nil _ (by simp),
      List.getLast?_cons_of_ne_nil (by simp [isWord.nonempty]),
      List.getLast?_append_of_ne_nil _ isWord.nonempty] at isLast
    exact isWord.solid last (List.mem_of_mem_getLast? isLast)

theorem all_labelCharacter_iff :
    ((text.splitOn '.').all fun label => label.all labelCharacter) = true ↔
      text.all hostCharacter = true := by
  rw [List.splitOn_eq_splitOnP]
  simp only [List.all_eq_true]
  constructor
  · intro labels character member
    by_cases dot : character = '.'
    · rw [dot]
      decide
    · have found : ∃ label ∈ text.splitOnP (· == '.'), character ∈ label :=
        exists_mem_splitOnP_iff.mpr ⟨member, by simp [dot]⟩
      obtain ⟨label, labelMem, here⟩ := found
      have isLabelCharacter := labels label labelMem character here
      simp only [labelCharacter, Bool.and_eq_true] at isLabelCharacter
      exact isLabelCharacter.1
  · intro host label labelMem character here
    obtain ⟨member, noDot⟩ := exists_mem_splitOnP_iff.mp ⟨label, labelMem, here⟩
    rw [labelCharacter, host character member]
    simpa using noDot

def isZoneName (python : PythonText) (zone : Text) : Bool :=
  let labels := (comparedName python zone).splitOn '.'
  decide (2 ≤ labels.length) && labels.all isLabel

structure LegalZone (python : PythonText) (zoneName : Text) : Prop where
  settled : comparedName python zoneName = zoneName
  dotted : '.' ∈ zoneName
  host : zoneName.all hostCharacter = true

theorem legalZone_of_isZoneName (isZone : isZoneName python zone = true) :
    LegalZone python (comparedName python zone) := by
  simp only [isZoneName, Bool.and_eq_true, decide_eq_true_eq] at isZone
  obtain ⟨two, labels⟩ := isZone
  refine ⟨comparedName_comparedName, ?_, ?_⟩
  · by_contra undotted
    rw [List.splitOn_eq_singleton undotted] at two
    simp at two
  · rw [← all_labelCharacter_iff, List.all_eq_true]
    intro label member
    have isLabel := List.all_eq_true.mp labels label member
    simp only [PowerDns.isLabel, Bool.and_eq_true] at isLabel
    exact isLabel.2

theorem LegalZone.nonempty (legal : LegalZone python zoneName) : zoneName ≠ [] := by
  intro empty
  have dotted := legal.dotted
  rw [empty] at dotted
  cases dotted

/-- Whether the characters of a target are those of host names; the zone
itself stands for one. -/
def targetFits (python : PythonText) (target : Text) : Bool :=
  let compared := comparedName python (strip target)
  compared = ['@'] || compared.all hostCharacter

theorem canonicalHostname_cases (accepted : canonicalHostname python zoneName target allowRoot =
      some stored) : (stored = ['.'] ∧ strip target = ['.'] ∧ allowRoot = true) ∨
    ∃ completed, stored = completed ++ ['.'] ∧ completed = completedTarget python zoneName
        (comparedName python (strip target)) ∧ comparedName python (strip target) ≠ [] ∧
      (∀ label ∈ completed.splitOn '.', label ≠ [] ∧ label.length ≤ 63) ∧
      completed.length ≤ 253 := by
  simp only [canonicalHostname] at accepted
  by_cases root : strip target = ['.']
  · rw [if_pos root] at accepted
    split_ifs at accepted with allowed
    cases accepted
    exact Or.inl ⟨root, root, allowed⟩
  · rw [if_neg root] at accepted
    by_cases empty : comparedName python (strip target) = []
    · rw [if_pos empty] at accepted
      cases accepted
    · rw [if_neg empty] at accepted
      split_ifs at accepted with refused
      cases accepted
      refine Or.inr ⟨_, rfl, rfl, empty, ?_, ?_⟩
      · intro label member
        have fits : ¬ (label.isEmpty || decide (63 < label.length)) = true :=
          fun bad => refused (Or.inl (List.any_eq_true.mpr ⟨label, member, bad⟩))
        simpa using fits
      · exact Nat.le_of_not_lt fun long => refused (Or.inr long)

theorem all_completedTarget_iff (legal : LegalZone python zoneName) {compared : Text} :
    (completedTarget python zoneName compared).all hostCharacter = true ↔
      compared = ['@'] ∨ compared.all hostCharacter = true := by
  rw [completedTarget, legal.settled]
  by_cases isAt : compared = ['@']
  · rw [if_pos isAt]
    exact ⟨fun _ => Or.inl isAt, fun _ => legal.host⟩
  · rw [if_neg isAt, or_iff_right isAt]
    by_cases dotted : '.' ∈ compared
    · rw [if_neg (not_not.mpr dotted)]
    · have dot : hostCharacter '.' = true := by decide
      rw [if_pos dotted, List.all_append, List.all_cons, legal.host, dot,
        Bool.and_true, Bool.and_true]

theorem isHostName_append_dot {completed : Text} (labels : ∀ label ∈ completed.splitOn '.',
      label ≠ [] ∧ label.length ≤ 63) (short : completed.length ≤ 253) :
    isHostName (completed ++ ['.']) = true ↔ completed.all hostCharacter = true := by
  rw [← all_labelCharacter_iff]
  have lengths : (completed.splitOn '.').all isLabel =
      (completed.splitOn '.').all fun label => label.all labelCharacter := by
    rw [Bool.eq_iff_iff, List.all_eq_true, List.all_eq_true]
    refine forall₂_congr fun label member => ?_
    obtain ⟨nonempty, shortLabel⟩ := labels label member
    simp [isLabel, nonempty, shortLabel]
  have bound : (completed ++ ['.']).length ≤ 254 := by
    rw [List.length_append, List.length_singleton]
    omega
  rw [isHostName, decide_eq_true bound, List.dropLast_concat, lengths]
  simp

theorem canonicalHostname_wellFormed_iff (legal : LegalZone python zoneName)
    (accepted : canonicalHostname python zoneName target allowRoot = some stored) :
    (isHostName stored = true ∨ allowRoot = true ∧ stored = ['.']) ↔
      targetFits python target = true := by
  simp only [targetFits, Bool.or_eq_true, decide_eq_true_eq]
  rcases canonicalHostname_cases accepted with
    ⟨rfl, root, allowed⟩ | ⟨completed, rfl, is, nonempty, labels, short⟩
  · refine iff_of_true (Or.inr ⟨allowed, rfl⟩) (Or.inr ?_)
    have empty : comparedName python (strip target) = [] := by
      rw [root, comparedName]
      exact python.lower_host [] rfl
    rw [empty]
    rfl
  · have noRoot : completed ++ ['.'] ≠ ['.'] := by
      intro root
      have empty : completed = [] := by simpa using root
      exact (labels [] (by rw [empty]; exact List.mem_singleton_self [])).1 rfl
    rw [isHostName_append_dot labels short, is, all_completedTarget_iff legal]
    refine or_iff_left ?_
    rintro ⟨_, root⟩
    rw [← is] at root
    exact noRoot root

theorem dot_mem_completedTarget (legal : LegalZone python zoneName)
    {compared : Text} : '.' ∈ completedTarget python zoneName compared := by
  rw [completedTarget, legal.settled]
  by_cases isAt : compared = ['@']
  · rw [if_pos isAt]
    exact legal.dotted
  · rw [if_neg isAt]
    by_cases dotted : '.' ∈ compared
    · rw [if_neg (not_not.mpr dotted)]
      exact dotted
    · rw [if_pos dotted]
      simp

theorem canonicalHostname_stored (legal : LegalZone python zoneName)
    (accepted : canonicalHostname python zoneName target allowRoot = some stored)
    (fits : targetFits python target = true) :
    canonicalHostname python zoneName stored allowRoot = some stored ∧
      IsWord isSpaceMark stored ∧ stored.length ≤ 254 := by
  rcases canonicalHostname_cases accepted with
    ⟨rfl, _, rfl⟩ | ⟨completed, rfl, is, nonempty, labels, short⟩
  · exact ⟨rfl, ⟨by decide, isSpaceMark_dot⟩, by decide⟩
  · simp only [targetFits, Bool.or_eq_true, decide_eq_true_eq] at fits
    have host : completed.all hostCharacter = true := by
      rw [is]
      exact (all_completedTarget_iff legal).mpr fits
    have dotted : '.' ∈ completed := by
      rw [is]
      exact dot_mem_completedTarget legal
    have isWord : IsWord isSpaceMark (completed ++ ['.']) := by
      refine isWord_of_host ?_ (by simp)
      rw [List.all_append, host]
      decide
    have unended : completed.getLast? ≠ some '.' := by
      intro ends
      obtain ⟨front, rfl⟩ := List.getLast?_eq_some_iff.mp ends
      have piece : [] ∈ (front ++ ['.']).splitOn '.' := by
        rw [List.splitOn_eq_splitOnP, List.splitOnP_append_cons _ _ (by simp)]
        exact List.mem_append_right _ (by simp)
      exact (labels [] piece).1 rfl
    have again : comparedName python (completed ++ ['.']) = completed := by
      rw [comparedName_append_dot, comparedName, rstripDot_eq_self unended]
      exact python.lower_host completed host
    have noAt : completed ≠ ['@'] := by
      rintro rfl
      simp at dotted
    have bound : (completed ++ ['.']).length ≤ 254 := by
      rw [List.length_append, List.length_singleton]
      omega
    refine ⟨?_, isWord, bound⟩
    simp only [canonicalHostname, strip_of_isWord isWord, again]
    have noRoot : completed ++ ['.'] ≠ ['.'] := by
      intro root
      have empty : completed = [] := by simpa using root
      rw [empty] at dotted
      cases dotted
    have filled : completed ≠ [] := List.ne_nil_of_mem dotted
    rw [if_neg noRoot, if_neg filled, completedTarget, if_neg noAt,
      if_neg (not_not.mpr dotted), if_neg]
    rintro (bad | long)
    · obtain ⟨label, member, bad⟩ := List.any_eq_true.mp bad
      obtain ⟨nonempty, shortLabel⟩ := labels label member
      simp [nonempty] at bad
      omega
    · omega

theorem shortNumber_cases {number : ℤ} (accepted : shortNumber python text = some number) :
    ∃ short : ℕ, number = short ∧ short ≤ 65535 := by
  obtain ⟨_, bounds⟩ := Option.filter_eq_some_iff.mp accepted
  obtain ⟨low, high⟩ := of_decide_eq_true bounds
  exact ⟨number.toNat, by omega, by omega⟩

variable {number : ℕ}

theorem shortNumber_decimal (short : number ≤ 65535) :
    shortNumber python (decimal number) = some (number : ℤ) := by
  rw [shortNumber, python.int_decimal]
  exact Option.filter_eq_some_iff.mpr ⟨rfl, decide_eq_true ⟨by omega, by omega⟩⟩

theorem length_decimal (short : number ≤ 65535) : (decimal number).length ≤ 5 := by
  rw [decimal_ofNat, Nat.length_toDigits_le_iff (by decide) (by decide)]
  omega

theorem isSpaceMark_space : isSpaceMark ' ' = true := by decide

theorem decimal_append_inj {other : ℕ} {rest otherRest : Text}
    (same : decimal number ++ ' ' :: rest = decimal other ++ ' ' :: otherRest) : rest = otherRest :=
  (append_separator_inj (isWord_decimal number).solid
    (isWord_decimal other).solid isSpaceMark_space same).2

theorem normalizeMx_cases (accepted : normalizeMx python zoneName value = some stored) :
    ∃ priorityText target priority host, splitBlanks value =
        [priorityText, target] ∧ priority ≤ 65535 ∧
      canonicalHostname python zoneName target true = some host ∧
      stored = decimal (priority : ℕ) ++ ' ' :: host := by
  simp only [normalizeMx] at accepted
  split at accepted
  · rename_i priorityText target parts
    simp only [Option.bind_eq_bind] at accepted
    obtain ⟨number, short, accepted⟩ := Option.bind_eq_some_iff.mp accepted
    obtain ⟨host, isHost, accepted⟩ := Option.bind_eq_some_iff.mp accepted
    obtain ⟨priority, rfl, bound⟩ := shortNumber_cases short
    cases accepted
    exact ⟨priorityText, target, priority, host, parts, bound, isHost, rfl⟩
  · cases accepted

theorem normalizeSrv_cases (accepted : normalizeSrv python zoneName value = some stored) :
    ∃ priorityText weightText portText target priority weight port host,
      splitBlanks value = [priorityText, weightText, portText, target] ∧
      priority ≤ 65535 ∧ weight ≤ 65535 ∧ port ≤ 65535 ∧
      canonicalHostname python zoneName target true = some host ∧
      stored = decimal (priority : ℕ) ++ ' ' :: (decimal (weight : ℕ) ++
        ' ' :: (decimal (port : ℕ) ++ ' ' :: host)) := by
  simp only [normalizeSrv] at accepted
  split at accepted
  · rename_i priorityText weightText portText target parts
    simp only [Option.bind_eq_bind] at accepted
    obtain ⟨first, firstShort, accepted⟩ := Option.bind_eq_some_iff.mp accepted
    obtain ⟨second, secondShort, accepted⟩ := Option.bind_eq_some_iff.mp accepted
    obtain ⟨third, thirdShort, accepted⟩ := Option.bind_eq_some_iff.mp accepted
    obtain ⟨host, isHost, accepted⟩ := Option.bind_eq_some_iff.mp accepted
    obtain ⟨priority, rfl, priorityBound⟩ := shortNumber_cases firstShort
    obtain ⟨weight, rfl, weightBound⟩ := shortNumber_cases secondShort
    obtain ⟨port, rfl, portBound⟩ := shortNumber_cases thirdShort
    cases accepted
    exact ⟨priorityText, weightText, portText, target, priority, weight, port,
      host, parts, priorityBound, weightBound, portBound, isHost, rfl⟩
  · cases accepted

theorem normalizeMx_stored {priority : ℕ} {host : Text}
    (bound : priority ≤ 65535) (isWord : IsWord isSpaceMark host)
    (again : canonicalHostname python zoneName host true = some host) :
    normalizeMx python zoneName (decimal priority ++ ' ' :: host) =
      some (decimal priority ++ ' ' :: host) := by
  have parts : splitBlanks (decimal priority ++ ' ' :: host) = [decimal priority, host] := by
    rw [splitBlanks, (isWord_decimal priority).words_append isSpaceMark_space, isWord.words_self]
  simp only [normalizeMx, parts, shortNumber_decimal bound, again,
    Option.bind_eq_bind, Option.bind_some]

theorem normalizeSrv_stored {priority weight port : ℕ} {host : Text}
    (priorityBound : priority ≤ 65535) (weightBound : weight ≤ 65535)
    (portBound : port ≤ 65535) (isWord : IsWord isSpaceMark host)
    (again : canonicalHostname python zoneName host true = some host) :
    normalizeSrv python zoneName (decimal priority ++ ' ' :: (decimal weight ++
        ' ' :: (decimal port ++ ' ' :: host))) = some (decimal priority ++ ' ' :: (decimal weight ++
        ' ' :: (decimal port ++ ' ' :: host))) := by
  have parts : splitBlanks (decimal priority ++ ' ' :: (decimal weight ++
      ' ' :: (decimal port ++ ' ' :: host))) =
        [decimal priority, decimal weight, decimal port, host] := by
    rw [splitBlanks, (isWord_decimal priority).words_append isSpaceMark_space,
      (isWord_decimal weight).words_append isSpaceMark_space,
      (isWord_decimal port).words_append isSpaceMark_space, isWord.words_self]
  simp only [normalizeSrv, parts, shortNumber_decimal priorityBound,
    shortNumber_decimal weightBound, shortNumber_decimal portBound, again,
    Option.bind_eq_bind, Option.bind_some]

theorem strip_of_isQuoted (quoted : isQuoted text = true) : strip text = text := by
  simp only [isQuoted, Bool.and_eq_true, decide_eq_true_eq] at quoted
  refine trim_eq_self ?_ ?_
  · intro first isFirst
    rw [quoted.1.2] at isFirst
    cases isFirst
    decide
  · intro last isLast
    rw [quoted.2] at isLast
    cases isLast
    decide

theorem isQuoted_quotes (inner : Text) : isQuoted ('"' :: inner ++ ['"']) = true := by
  rw [isQuoted, List.getLast?_concat]
  simp

theorem foldl_after_escape (raw : Text) :
    (raw.flatMap escape).foldl QuotePlace.after .inside = .inside := by
  induction raw with
  | nil => rfl
  | cons character raw ih =>
    rw [List.flatMap_cons, List.foldl_append]
    have stays : (escape character).foldl QuotePlace.after .inside = .inside := by
      rw [escape]
      split_ifs with backslash quote
      · rfl
      · rfl
      · simp [QuotePlace.after, backslash, quote]
    rw [stays, ih]

theorem areQuotedStrings_escape (raw : Text) :
    areQuotedStrings ('"' :: raw.flatMap escape ++ ['"']) = true := by
  have opened : QuotePlace.after .start '"' = .inside := rfl
  rw [areQuotedStrings, List.cons_append, List.foldl_cons, opened,
    List.foldl_append, foldl_after_escape]
  rfl

def isEscaped (character : Char) : Bool := character = '\\' || character = '"'

theorem length_flatMap_escape (raw : Text) :
    (raw.flatMap escape).length = raw.length + raw.countP isEscaped := by
  induction raw with
  | nil => rfl
  | cons character raw ih =>
    rw [List.flatMap_cons, List.length_append, ih, List.countP_cons, List.length_cons]
    by_cases backslash : character = '\\'
    · simp [escape, isEscaped, backslash]
      omega
    · by_cases quote : character = '"'
      · simp [escape, isEscaped, quote]
        omega
      · simp [escape, isEscaped, backslash, quote]
        omega

def Fits (python : PythonText) : RecordKind → Text → Prop
  | .a, _ => True
  | .aaaa, value => '%' ∉ value
  | .cname, value => targetFits python value = true
  | .mx, value => ∀ target ∈ (splitBlanks value)[1]?, targetFits python target = true
  | .srv, value => ∀ target ∈ (splitBlanks value)[3]?, targetFits python target = true
  | .txt, value =>
    if isQuoted value then areQuotedStrings value = true
    else value.length + value.countP isEscaped + 2 ≤ 4096
  | .caa, value => isCaa value = true

/-- A value that a request may give and that is its own normal form. -/
structure Settled (python : PythonText) (zoneName : Text) (kind : RecordKind)
    (stored : Text) : Prop where
  stripped : strip stored = stored
  nonempty : stored ≠ []
  short : stored.length ≤ 4096
  again : normalizedValue python zoneName kind stored = some stored

section Values

variable (legal : LegalZone python zoneName)

include legal

theorem cname_wellFormed_iff (normal : normalizedValue python zoneName .cname value = some stored) :
    WellFormed .cname stored ↔ Fits python .cname value := by
  have both := canonicalHostname_wellFormed_iff legal normal
  simpa [WellFormed, Fits] using both

theorem mx_wellFormed_iff (normal : normalizedValue python zoneName .mx value = some stored) :
    WellFormed .mx stored ↔ Fits python .mx value := by
  obtain ⟨priorityText, target, priority, host, parts, bound, isHost, rfl⟩ :=
    normalizeMx_cases normal
  have both := canonicalHostname_wellFormed_iff legal isHost
  simp only [true_and] at both
  have fits : Fits python .mx value ↔ targetFits python target = true := by simp [Fits, parts]
  rw [fits, ← both]
  constructor
  · rintro ⟨other, otherTarget, _, wellFormed, same⟩
    rw [decimal_append_inj same]
    exact wellFormed
  · exact fun wellFormed => ⟨priority, host, bound, wellFormed, rfl⟩

theorem srv_wellFormed_iff (normal : normalizedValue python zoneName .srv value = some stored) :
    WellFormed .srv stored ↔ Fits python .srv value := by
  obtain ⟨priorityText, weightText, portText, target, priority, weight, port,
    host, parts, priorityBound, weightBound, portBound, isHost, rfl⟩ :=
    normalizeSrv_cases normal
  have both := canonicalHostname_wellFormed_iff legal isHost
  simp only [true_and] at both
  have fits : Fits python .srv value ↔ targetFits python target = true := by simp [Fits, parts]
  rw [fits, ← both]
  constructor
  · rintro ⟨_, _, _, otherTarget, _, _, _, wellFormed, same⟩
    rw [decimal_append_inj (decimal_append_inj (decimal_append_inj same))]
    exact wellFormed
  · exact fun wellFormed => ⟨priority, weight, port, host, priorityBound,
      weightBound, portBound, wellFormed, rfl⟩

theorem cname_settled (normal : normalizedValue python zoneName .cname value = some stored)
    (fits : Fits python .cname value) : Settled python zoneName .cname stored := by
  obtain ⟨again, isWord, short⟩ := canonicalHostname_stored legal normal fits
  exact ⟨strip_of_isWord isWord, isWord.nonempty, by omega, again⟩

theorem mx_settled (normal : normalizedValue python zoneName .mx value = some stored)
    (fits : Fits python .mx value) : Settled python zoneName .mx stored := by
  obtain ⟨priorityText, target, priority, host, parts, bound, isHost, rfl⟩ :=
    normalizeMx_cases normal
  have targetOk : targetFits python target = true := by simpa [Fits, parts] using fits
  obtain ⟨again, isWord, short⟩ := canonicalHostname_stored legal isHost targetOk
  refine ⟨?_, by simp, ?_, normalizeMx_stored bound isWord again⟩
  · exact strip_append [] (isWord_decimal priority) isWord
  · have digits := length_decimal bound
    simp only [List.length_append, List.length_cons]
    omega

theorem srv_settled (normal : normalizedValue python zoneName .srv value = some stored)
    (fits : Fits python .srv value) : Settled python zoneName .srv stored := by
  obtain ⟨priorityText, weightText, portText, target, priority, weight, port,
    host, parts, priorityBound, weightBound, portBound, isHost, rfl⟩ :=
    normalizeSrv_cases normal
  have targetOk : targetFits python target = true := by simpa [Fits, parts] using fits
  obtain ⟨again, isWord, short⟩ := canonicalHostname_stored legal isHost targetOk
  refine ⟨?_, by simp, ?_, normalizeSrv_stored priorityBound weightBound portBound isWord again⟩
  · have whole : decimal (priority : ℕ) ++ ' ' :: (decimal (weight : ℕ) ++
        ' ' :: (decimal (port : ℕ) ++ ' ' :: host)) =
          decimal priority ++ ' ' :: ((decimal weight ++ ' ' ::
            (decimal port ++ [' '])) ++ host) := by
      simp
    rw [whole]
    exact strip_append _ (isWord_decimal priority) isWord
  · have priorityDigits := length_decimal priorityBound
    have weightDigits := length_decimal weightBound
    have portDigits := length_decimal portBound
    simp only [List.length_append, List.length_cons]
    omega

end Values

theorem isQuoted_normalizeTxt (stripped : strip value = value) :
    isQuoted (normalizeTxt value) = true := by
  simp only [normalizeTxt, stripped]
  split_ifs with already
  · exact already
  · exact isQuoted_quotes _

theorem txt_settled (stripped : strip value = value) (fits : (normalizeTxt value).length ≤ 4096) :
    Settled python zoneName .txt (normalizeTxt value) := by
  have quoted := isQuoted_normalizeTxt stripped
  refine ⟨strip_of_isQuoted quoted, ?_, fits, ?_⟩
  · intro empty
    rw [empty] at quoted
    cases quoted
  · rw [normalizedValue, normalizeTxt, strip_of_isQuoted quoted, if_pos quoted]

theorem txt_wellFormed_iff (stripped : strip value = value) (short : value.length ≤ 4096) :
    WellFormed .txt (normalizeTxt value) ∧ (normalizeTxt value).length ≤ 4096 ↔
      Fits python .txt value := by
  by_cases quoted : isQuoted value = true
  · have same : normalizeTxt value = value := by rw [normalizeTxt, stripped, if_pos quoted]
    rw [same, Fits, if_pos quoted]
    exact and_iff_left short
  · have quotes : normalizeTxt value = '"' :: value.flatMap escape ++ ['"'] := by
      rw [normalizeTxt, stripped, if_neg quoted]
    rw [quotes, Fits, if_neg quoted]
    have wellFormed : WellFormed .txt ('"' :: value.flatMap escape ++ ['"']) :=
      areQuotedStrings_escape value
    rw [and_iff_right wellFormed]
    simp only [List.length_append, List.length_cons, List.length_nil, length_flatMap_escape]

theorem aaaa_wellFormed_iff (normal : normalizedValue python zoneName .aaaa value = some stored) :
    WellFormed .aaaa stored ↔ Fits python .aaaa value := by
  simp only [normalizedValue] at normal
  split_ifs at normal with six
  cases normal
  refine and_iff_right_of_imp fun unscoped => ?_
  simp only [ipVersion] at six
  split_ifs at six with _ isFour isSix
  · simp at six
  · simp only [isIpv6, List.splitOn_eq_singleton unscoped] at isSix
    exact isSix

theorem a_wellFormed (normal : normalizedValue python zoneName .a value = some stored) :
    WellFormed .a stored := by
  simp only [normalizedValue] at normal
  split_ifs at normal with four
  cases normal
  simp only [ipVersion] at four
  split_ifs at four with _ isFour
  · exact isFour
  · simp at four

end PowerDns

end Ithute
