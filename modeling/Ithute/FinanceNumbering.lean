import Ithute.Library.TransitionRuns
import Ithute.FinanceBookSteps

/-!
# Finance numbers

A number is drawn from the greatest one that is stored, in the order of the
texts.  Four digits are ordered as their counters, five are not; and a number
that has been deleted is drawn again if it was the greatest.
-/

namespace Ithute.Books

open Finance TransitionRuns NumberedSeries UniqueRows

def seriesNumber (series : String) (year counter : ℕ) : String :=
  marker series year ++ zeroPadded 4 counter

def seriesOf (number : String) : List Char := throughLast '-' number.toList

def Surpassed (number : String) (numbers : List String) : Prop :=
  ∃ other ∈ numbers, seriesOf other = seriesOf number ∧ number < other

instance (number : String) (numbers : List String) : Decidable (Surpassed number numbers) :=
  inferInstanceAs (Decidable (∃ other ∈ numbers, _))

/-- No number comes twice: what is drawn has not been stored before, whether
or not it has been deleted since. -/
def NumbersFresh (start : FinanceBooks) (requests : List BookRequest) : Prop :=
  ∀ front middle back first second year, requests = front ++ middle ++ back →
    Run FinanceBooks.Handles start front first → Run FinanceBooks.Handles first middle second →
      second.nextInvoiceNumber year ∉ first.invoiceNumbers ∧
        (∀ documentType, second.nextDocumentNumber documentType year ∉ first.documentNumbers) ∧
        second.nextCreditNumber year ∉ first.creditNumbers

namespace FinanceBooks

variable (books : FinanceBooks)

/-- What the deletion of an invoice takes away is surpassed by what it
leaves. -/
def LeavesGreater (invoiceId : ℕ) : Prop :=
  (∀ row ∈ books.invoices, row.id = invoiceId → Surpassed row.invoiceNumber
      (books.apply (.deleteInvoice invoiceId)).invoiceNumbers) ∧
  ∀ row ∈ books.creditNotes, row.invoiceId = invoiceId → Surpassed row.creditNumber
      (books.apply (.deleteInvoice invoiceId)).creditNumbers

instance (invoiceId : ℕ) : Decidable (books.LeavesGreater invoiceId) :=
  inferInstanceAs (Decidable (_ ∧ _))

/-- A creation meets a series that has not come to its last number of four
digits, and a deletion spares the greatest number of each series. -/
def SparesNumbers : BookRequest → Prop
  | .createFinanceInvoice _ year => seriesNumber "IM" year 9999 ∉ books.invoiceNumbers
  | .convertDocument documentId year =>
    (∀ document ∈ books.documentOf documentId, books.existingInvoice document = none →
        seriesNumber "IM" year 9999 ∉ books.invoiceNumbers)
  | .processSchedule scheduleId today mail now =>
    books.processSchedule scheduleId today mail now ≠ [] →
      seriesNumber "IM" today.year 9999 ∉ books.invoiceNumbers
  | .createDocument payload year =>
    seriesNumber payload.documentType.series year 9999 ∉ books.documentNumbers
  | .createCorporateQuotation _ _ _ _ _ year => seriesNumber "QT" year 9999 ∉ books.documentNumbers
  | .createCreditNote _ _ year => seriesNumber "CN" year 9999 ∉ books.creditNumbers
  | .deleteFinanceInvoice invoiceId => books.LeavesGreater invoiceId
  | .deleteDocument documentId =>
    ∀ row ∈ books.documents, row.id = documentId → Surpassed row.documentNumber
        (books.apply (.deleteDocument documentId)).documentNumbers
  | _ => True

instance (request : BookRequest) : Decidable (books.SparesNumbers request) := by
  induction request using BookRequest.casesOn <;> dsimp only [SparesNumbers] <;> infer_instance

end FinanceBooks

theorem padded_noDash (width value : ℕ) : '-' ∉ padded width value := by
  intro member
  have digit := padded_isDigit member
  cases digit

theorem year_noDash (year : ℕ) : '-' ∉ (toString year).toList := by
  intro member
  rw [Nat.toString_eq_repr, Nat.toList_repr] at member
  have digit := Nat.isDigit_of_mem_toDigits (by decide) (by decide) member
  cases digit

variable (series : String)

theorem marker_toList (year : ℕ) : (marker series year).toList =
      series.toList ++ '-' :: (toString year).toList ++ ['-'] := by
  unfold marker
  simp [String.toList_append]

theorem seriesNumber_toList (year counter : ℕ) :
    (seriesNumber series year counter).toList = (series.toList ++ '-' :: (toString year).toList) ++
        '-' :: padded 4 counter := by
  unfold seriesNumber
  rw [String.toList_append, marker_toList]
  unfold zeroPadded padded
  simp

theorem seriesOf_seriesNumber (year counter : ℕ) :
    seriesOf (seriesNumber series year counter) = (marker series year).toList := by
  unfold seriesOf
  rw [seriesNumber_toList, throughLast_append (padded_noDash 4 counter), marker_toList]

theorem marker_prefix (year counter : ℕ) : (marker series year).toList.isPrefixOf
      (seriesNumber series year counter).toList = true := by
  rw [List.isPrefixOf_iff_prefix, seriesNumber_toList, marker_toList]
  exact ⟨padded 4 counter, by simp⟩

theorem series_of_prefix {series other : String} {year otherYear counter : ℕ}
    (noDash : '-' ∉ series.toList) (otherNoDash : '-' ∉ other.toList)
    (like : (marker series year).toList.isPrefixOf
      (seriesNumber other otherYear counter).toList = true) :
    seriesNumber other otherYear counter = seriesNumber series year counter := by
  rw [List.isPrefixOf_iff_prefix, marker_toList, seriesNumber_toList,
    List.append_assoc, List.append_assoc] at like
  obtain ⟨sameSeries, rest⟩ := prefix_before_separator noDash otherNoDash like
  obtain ⟨sameYear, _⟩ := prefix_before_separator (year_noDash year) (year_noDash otherYear) rest
  apply String.toList_injective
  rw [seriesNumber_toList, seriesNumber_toList, sameSeries, sameYear]

theorem counterOf_seriesNumber (year counter : ℕ) :
    counterOf (seriesNumber series year counter) = some counter := by
  unfold counterOf
  rw [seriesNumber_toList, afterLast_append (padded_noDash 4 counter)]
  have digits : (padded 4 counter).all Char.isDigit = true :=
    List.all_eq_true.mpr fun _ => padded_isDigit
  have nonempty : padded 4 counter ≠ [] := by
    unfold padded List.leftpad
    simp
  rw [if_pos ⟨nonempty, digits⟩, digitsValue_padded]

theorem series_numbering (year : ℕ) : Numbering (seriesNumber series year) counterOf 9999 where
  counter_name := counterOf_seriesNumber series year
  ordered := by
    intro low high less inLimit
    rw [String.lt_iff_toList_lt, seriesNumber_toList, seriesNumber_toList]
    exact List.Lex.append_left _ (List.Lex.cons (padded_lt (by decide) less (by omega))) _

def Proper (numbers : List String) : Prop :=
  ∀ number ∈ numbers, ∃ series year, ∃ counter ≤ 9999,
    '-' ∉ series.toList ∧ number = seriesNumber series year counter

def Grows (before after : List String) : Prop :=
  ∀ number ∈ before, ∃ other ∈ after, seriesOf other = seriesOf number ∧ number ≤ other

theorem Grows.refl (numbers : List String) : Grows numbers numbers :=
  fun number member => ⟨number, member, rfl, le_refl number⟩

theorem Grows.trans {before middle after : List String}
    (first : Grows before middle) (second : Grows middle after) : Grows before after := by
  intro number member
  obtain ⟨other, otherMem, same, below⟩ := first number member
  obtain ⟨last, lastMem, sameLast, belowLast⟩ := second other otherMem
  exact ⟨last, lastMem, sameLast.trans same, le_trans below belowLast⟩

theorem Grows.append (before : List String) (number : String) : Grows before (before ++ [number]) :=
  fun stored member => ⟨stored, List.mem_append_left _ member, rfl, le_refl stored⟩

namespace Proper

variable {numbers others : List String} {series : String} {year : ℕ}

theorem numbered (proper : Proper numbers) (noDash : '-' ∉ series.toList) :
    Numbered (seriesNumber series year) 9999 (numbersLike (marker series year) numbers) := by
  intro number member
  obtain ⟨stored, like⟩ := List.mem_filter.mp member
  obtain ⟨other, otherYear, counter, inLimit, otherNoDash, rfl⟩ := proper number stored
  exact ⟨counter, inLimit, series_of_prefix noDash otherNoDash like⟩

theorem mem_like {counter : ℕ} (stored : seriesNumber series year counter ∈ numbers) :
    seriesNumber series year counter ∈ numbersLike (marker series year) numbers :=
  List.mem_filter.mpr ⟨stored, marker_prefix series year counter⟩

theorem nextCounter_le (proper : Proper numbers) (noDash : '-' ∉ series.toList)
    (open_ : seriesNumber series year 9999 ∉ numbers) :
    nextCounter counterOf (numbersLike (marker series year) numbers) ≤ 9999 := by
  rcases (series_numbering series year).nextCounter_cases
    (proper.numbered noDash) with ⟨_, same⟩ | ⟨value, inLimit, stored, same⟩
  · omega
  · have notLast : value ≠ 9999 := by
      rintro rfl
      exact open_ (List.mem_filter.mp stored).1
    omega

theorem append (proper : Proper numbers) (noDash : '-' ∉ series.toList)
    (open_ : seriesNumber series year 9999 ∉ numbers) :
    Proper (numbers ++ [nextNumber series year numbers]) := by
  intro number member
  rcases List.mem_append.mp member with old | new
  · exact proper number old
  · exact ⟨series, year, _, proper.nextCounter_le noDash open_, noDash, List.mem_singleton.mp new⟩

theorem of_subset (proper : Proper numbers)
    (subset : ∀ number ∈ others, number ∈ numbers) : Proper others :=
  fun number member => proper number (subset number member)

theorem next_fresh (proper : Proper numbers) (properOthers : Proper others)
    (grows : Grows numbers others) (noDash : '-' ∉ series.toList) :
    nextNumber series year others ∉ numbers := by
  intro stored
  refine (series_numbering series year).next_not_mem (proper.numbered noDash) ?_ (mem_like stored)
  refine (series_numbering series year).nextCounter_le
    (proper.numbered noDash) (properOthers.numbered noDash) ?_
  intro number member
  obtain ⟨counter, _, rfl⟩ := proper.numbered noDash number member
  obtain ⟨other, otherMem, same, below⟩ := grows _ (List.mem_filter.mp member).1
  refine ⟨other, List.mem_filter.mpr ⟨otherMem, ?_⟩, below⟩
  obtain ⟨otherSeries, otherYear, otherCounter, _, _, rfl⟩ := properOthers other otherMem
  rw [seriesOf_seriesNumber, seriesOf_seriesNumber] at same
  rw [← same]
  exact marker_prefix otherSeries otherYear otherCounter

end Proper

structure Extends (before after : List String) : Prop where
  proper : Proper after
  grows : Grows before after

namespace Extends

variable {before middle after : List String}

theorem of_eq (proper : Proper before) (same : after = before) : Extends before after := by
  rw [same]
  exact ⟨proper, .refl before⟩

theorem trans (first : Extends before middle)
    (second : Extends middle after) : Extends before after :=
  ⟨second.proper, first.grows.trans second.grows⟩

theorem append {series : String} {year : ℕ} (proper : Proper before) (noDash : '-' ∉ series.toList)
    (open_ : seriesNumber series year 9999 ∉ before) :
    Extends before (before ++ [nextNumber series year before]) :=
  ⟨proper.append noDash open_, .append before _⟩

theorem filter {Row : Type} {rows : List Row} {column : Row → String}
    {kept : Row → Bool} (proper : Proper (rows.map column))
    (surpassed : ∀ row ∈ rows, kept row = false →
      Surpassed (column row) ((rows.filter kept).map column)) :
    Extends (rows.map column) ((rows.filter kept).map column) := by
  constructor
  · apply proper.of_subset
    intro number member
    obtain ⟨row, rowMem, rfl⟩ := List.mem_map.mp member
    exact List.mem_map_of_mem (List.mem_filter.mp rowMem).1
  · intro number member
    obtain ⟨row, rowMem, rfl⟩ := List.mem_map.mp member
    cases stays : kept row with
    | true =>
      exact ⟨column row, List.mem_map_of_mem (List.mem_filter.mpr ⟨rowMem, stays⟩), rfl, le_refl _⟩
    | false =>
      obtain ⟨other, otherMem, same, less⟩ := surpassed row rowMem stays
      exact ⟨other, otherMem, same, le_of_lt less⟩

end Extends

theorem DocumentType.series_noDash (documentType : DocumentType) :
    '-' ∉ documentType.series.toList := by
  cases documentType <;> decide

namespace FinanceBooks

variable {books after : FinanceBooks} {request : BookRequest}

structure ProperNumbers (books : FinanceBooks) : Prop where
  identified : books.Identified
  invoices : Proper books.invoiceNumbers
  documents : Proper books.documentNumbers
  creditNotes : Proper books.creditNumbers

structure NumbersExtend (before after : FinanceBooks) : Prop where
  invoices : Extends before.invoiceNumbers after.invoiceNumbers
  documents : Extends before.documentNumbers after.documentNumbers
  creditNotes : Extends before.creditNumbers after.creditNumbers

theorem ProperNumbers.extend_self (proper : books.ProperNumbers) : NumbersExtend books books :=
  ⟨.of_eq proper.invoices rfl, .of_eq proper.documents rfl, .of_eq proper.creditNotes rfl⟩

theorem ProperNumbers.of_eq (proper : books.ProperNumbers)
    (invoices : after.invoiceNumbers = books.invoiceNumbers)
    (documents : after.documentNumbers = books.documentNumbers)
    (creditNotes : after.creditNumbers = books.creditNumbers) : NumbersExtend books after :=
  ⟨.of_eq proper.invoices invoices, .of_eq proper.documents documents,
    .of_eq proper.creditNotes creditNotes⟩

theorem saveInvoice_numbers {id : ℕ} {invoice saved : FinanceInvoice}
    (identified : books.Identified) (found : books.invoiceOf id = some invoice)
    (sameId : saved.id = invoice.id) (sameNumber : saved.invoiceNumber = invoice.invoiceNumber) :
    (books.apply (.saveInvoice saved)).invoiceNumbers = books.invoiceNumbers :=
  map_column_replace identified.invoices.unique (invoiceOf_spec found).1 sameId sameNumber

theorem saveDocument_numbers {id : ℕ} {document saved : FinanceDocument}
    (identified : books.Identified) (found : books.documentOf id = some document)
    (sameId : saved.id = document.id)
    (sameNumber : saved.documentNumber = document.documentNumber) :
    (books.apply (.saveDocument saved)).documentNumbers = books.documentNumbers :=
  map_column_replace identified.documents.unique (documentOf_spec found).1 sameId sameNumber

theorem insertInvoice_numbers (row : FinanceInvoice) :
    (books.apply (.insertInvoice row)).invoiceNumbers =
      books.invoiceNumbers ++ [row.invoiceNumber] := by
  unfold invoiceNumbers apply
  rw [List.map_append, List.map_singleton]

theorem insertDocument_numbers (row : FinanceDocument) :
    (books.apply (.insertDocument row)).documentNumbers =
      books.documentNumbers ++ [row.documentNumber] := by
  unfold documentNumbers apply
  rw [List.map_append, List.map_singleton]

theorem insertCreditNote_numbers (row : FinanceCreditNote) :
    (books.apply (.insertCreditNote row)).creditNumbers =
      books.creditNumbers ++ [row.creditNumber] := by
  unfold creditNumbers apply
  rw [List.map_append, List.map_singleton]

theorem map_documentNumbers {rows : List FinanceDocument}
    {write : FinanceDocument → FinanceDocument}
    (keeps : ∀ row, (write row).documentNumber = row.documentNumber) :
    (rows.map write).map (fun row => row.documentNumber) =
      rows.map fun row => row.documentNumber := by
  rw [List.map_map]
  exact List.map_congr_left fun row _ => keeps row

namespace ProperNumbers

theorem insertInvoice (proper : books.ProperNumbers) {year : ℕ}
    (open_ : seriesNumber "IM" year 9999 ∉ books.invoiceNumbers) {row : FinanceInvoice}
    (number : row.invoiceNumber = books.nextInvoiceNumber year) : Extends books.invoiceNumbers
      (books.apply (.insertInvoice row)).invoiceNumbers := by
  rw [insertInvoice_numbers, number]
  exact .append proper.invoices (by decide) open_

theorem insertCreditNote (proper : books.ProperNumbers) {year : ℕ}
    (open_ : seriesNumber "CN" year 9999 ∉ books.creditNumbers) {row : FinanceCreditNote}
    (number : row.creditNumber = books.nextCreditNumber year) : Extends books.creditNumbers
      (books.apply (.insertCreditNote row)).creditNumbers := by
  rw [insertCreditNote_numbers, number]
  exact .append proper.creditNotes (by decide) open_

theorem insertDocument (proper : books.ProperNumbers) {year : ℕ} {documentType : DocumentType}
    (open_ : seriesNumber documentType.series year 9999 ∉ books.documentNumbers)
    {row : FinanceDocument} (number : row.documentNumber =
      books.nextDocumentNumber documentType year) :
    NumbersExtend books (books.apply (.insertDocument row)) := by
  refine ⟨.of_eq proper.invoices rfl, ?_, .of_eq proper.creditNotes rfl⟩
  rw [insertDocument_numbers, number]
  exact .append proper.documents documentType.series_noDash open_

theorem deleteInvoice (proper : books.ProperNumbers) {invoiceId : ℕ}
    (leaves : books.LeavesGreater invoiceId) :
    NumbersExtend books (books.apply (.deleteInvoice invoiceId)) := by
  refine ⟨.filter proper.invoices ?_, .of_eq proper.documents ?_, .filter proper.creditNotes ?_⟩
  · intro row member removed
    exact leaves.1 row member (by simpa using removed)
  · apply map_documentNumbers
    intro row
    split <;> rfl
  · intro row member removed
    exact leaves.2 row member (by simpa using removed)

theorem perform (proper : books.ProperNumbers) (spares : books.SparesNumbers request)
    (accepted : books.perform request = .ok after) : NumbersExtend books after := by
  obtain ⟨writes, checked, written⟩ := perform_ok accepted
  obtain rfl := writeAll_apply written
  have identified := proper.identified
  cases checked with
  | create =>
    exact ⟨proper.insertInvoice spares rfl, .of_eq proper.documents rfl,
      .of_eq proper.creditNotes rfl⟩
  | edit found | cancel found | sendFailed found | settle found =>
    exact proper.of_eq (saveInvoice_numbers identified found rfl rfl) rfl rfl
  | send found ensured | bulkSend found ensured =>
    exact proper.of_eq (@saveInvoice_numbers books _ _ _ identified found rfl rfl) rfl rfl
  | deleteInvoice found => exact proper.deleteInvoice spares
  | credit found =>
    exact ⟨.of_eq proper.invoices (@saveInvoice_numbers books _ _ _ identified found rfl rfl),
      .of_eq proper.documents rfl, @ProperNumbers.insertCreditNote books proper _ spares _ rfl⟩
  | createDocument => exact proper.insertDocument spares rfl
  | quotation => exact @ProperNumbers.insertDocument books proper _ .quotation spares _ rfl
  | updateDocument found | documentStatus found | sendDocument found =>
    exact proper.of_eq rfl (saveDocument_numbers identified found rfl rfl) rfl
  | deleteDocument found =>
    refine ⟨.of_eq proper.invoices rfl, .filter proper.documents ?_, .of_eq proper.creditNotes rfl⟩
    intro row member removed
    exact spares row member (by simpa using removed)
  | convertedBefore found existing | skipSchedule => exact proper.extend_self
  | convert found none converts =>
    refine ⟨?_, .of_eq proper.documents ?_, .of_eq proper.creditNotes rfl⟩
    · refine proper.insertInvoice (spares _ found none) ?_
      unfold convertedInvoice at converts
      split at converts
      · cases converts
      · cases converts
        rfl
    · apply map_documentNumbers
      intro row
      split <;> rfl
  | processSchedule due ensured =>
    exact ⟨@ProperNumbers.insertInvoice books proper _ (spares due) _ rfl,
      .of_eq proper.documents rfl, .of_eq proper.creditNotes rfl⟩
  | createSchedule | updateSchedule | deleteSchedule | settings
  | decide found => exact proper.of_eq rfl rfl rfl
  | request found =>
    unfold requestInvoiceApproval
    split <;> exact proper.of_eq rfl rfl rfl

end ProperNumbers

theorem NumbersExtend.trans {middle : FinanceBooks}
    (first : NumbersExtend books middle) (second : NumbersExtend middle after) :
    NumbersExtend books after :=
  ⟨first.invoices.trans second.invoices, first.documents.trans second.documents,
    first.creditNotes.trans second.creditNotes⟩

theorem ProperNumbers.handles (proper : books.ProperNumbers) (step : books.Handles request after)
    (spares : books.SparesNumbers request) : after.ProperNumbers ∧ NumbersExtend books after := by
  have extended : NumbersExtend books after := by
    rcases handles_cases step with same | performed
    · rw [same]
      exact proper.extend_self
    · exact proper.perform spares performed
  exact ⟨⟨proper.identified.handles step, extended.invoices.proper,
    extended.documents.proper, extended.creditNotes.proper⟩, extended⟩

theorem ProperNumbers.run {requests : List BookRequest}
    (proper : books.ProperNumbers) (run : Run Handles books requests after)
    (spares : EveryStep Handles
      (fun before request _ => before.SparesNumbers request) books requests) :
    after.ProperNumbers ∧ NumbersExtend books after := by
  induction run with
  | start => exact ⟨proper, proper.extend_self⟩
  | @next front state after request run move ih =>
    obtain ⟨properState, extended⟩ := ih spares.of_prefix
    obtain ⟨properAfter, step⟩ := properState.handles move
      (spares front request [] state after rfl run move)
    exact ⟨properAfter, extended.trans step⟩

end FinanceBooks

/-- In every run from empty books that draws no number of a series after its
last one of four digits, and deletes no greatest number, no number comes
twice. -/
theorem numbersFresh_of_spares (clients : List ℕ)
    (setting : FinanceGovernanceSetting) (requests : List BookRequest)
    (spares : EveryStep FinanceBooks.Handles (fun before request _ => before.SparesNumbers request)
      { clients := clients, setting := setting } requests) :
    NumbersFresh { clients := clients, setting := setting } requests := by
  rintro front middle back first second year rfl reached later
  have empty : FinanceBooks.ProperNumbers { clients := clients, setting := setting } :=
    ⟨⟨.nil, .nil, .nil⟩, fun _ member => absurd member List.not_mem_nil,
      fun _ member => absurd member List.not_mem_nil,
      fun _ member => absurd member List.not_mem_nil⟩
  obtain ⟨proper, _⟩ := empty.run reached spares.of_prefix.of_prefix
  obtain ⟨_, extended⟩ := proper.run later (spares.of_prefix.of_suffix reached)
  refine ⟨?_, ?_, ?_⟩
  · exact proper.invoices.next_fresh extended.invoices.proper extended.invoices.grows (by decide)
  · intro documentType
    exact proper.documents.next_fresh extended.documents.proper
      extended.documents.grows documentType.series_noDash
  · exact proper.creditNotes.next_fresh extended.creditNotes.proper
      extended.creditNotes.grows (by decide)

def hosting : InvoiceInput where
  clientName := "Thaba School"
  recipientEmail := "office@thaba.example"
  line := { description := "Hosting", rateMinor := 25000 }

def createHosting : BookRequest := .createFinanceInvoice hosting 2026

def createdAndDeleted : List BookRequest := [createHosting, .deleteFinanceInvoice 0]

def firstNumbers (count : ℕ) : List String :=
  (List.range count).map fun index => seriesNumber "IM" 2026 (index + 1)

variable {count : ℕ}

theorem mem_firstNumbers {counter : ℕ} : seriesNumber "IM" 2026 counter ∈ firstNumbers count ↔
      1 ≤ counter ∧ counter ≤ count := by
  have injective := (series_numbering "IM" 2026).injective
  constructor
  · intro member
    obtain ⟨index, inRange, same⟩ := List.mem_map.mp member
    have equal := injective same
    have below := List.mem_range.mp inRange
    omega
  · rintro ⟨positive, inCount⟩
    refine List.mem_map.mpr ⟨counter - 1, List.mem_range.mpr (by omega), ?_⟩
    rw [show counter - 1 + 1 = counter by omega]

theorem proper_firstNumbers (inLimit : count ≤ 9999) : Proper (firstNumbers count) := by
  intro number member
  obtain ⟨index, inRange, rfl⟩ := List.mem_map.mp member
  have below := List.mem_range.mp inRange
  exact ⟨"IM", 2026, index + 1, by omega, by decide, rfl⟩

theorem next_firstNumbers (inLimit : count ≤ 9999) :
    nextNumber "IM" 2026 (firstNumbers count) = seriesNumber "IM" 2026 (count + 1) := by
  have proper := proper_firstNumbers inLimit
  have numbered := @Proper.numbered _ "IM" 2026 proper (by decide)
  have same : nextCounter counterOf
      (numbersLike (marker "IM" 2026) (firstNumbers count)) = count + 1 := by
    rcases (series_numbering "IM" 2026).nextCounter_cases numbered with
      ⟨none, same⟩ | ⟨value, _, stored, same⟩
    · cases count with
      | zero => exact same
      | succ count =>
        have last := Proper.mem_like (mem_firstNumbers.mpr
          ⟨Nat.succ_pos count, Nat.le_refl (count + 1)⟩)
        rw [none] at last
        cases last
    · have bounds := mem_firstNumbers.mp (List.mem_filter.mp stored).1
      have last := (series_numbering "IM" 2026).lt_nextCounter numbered
        (Proper.mem_like (mem_firstNumbers.mpr ⟨Nat.le_trans bounds.1 bounds.2, Nat.le_refl count⟩))
      omega
  unfold nextNumber
  rw [same]
  rfl

theorem next_greatest (all : count = 10000) :
    nextNumber "IM" 2026 (firstNumbers count) = seriesNumber "IM" 2026 count := by
  have greatest : (numbersLike (marker "IM" 2026) (firstNumbers count)).max? =
      some (seriesNumber "IM" 2026 9999) := by
    rw [List.max?_eq_some_iff]
    refine ⟨Proper.mem_like (mem_firstNumbers.mpr (by omega)), ?_⟩
    intro number member
    obtain ⟨index, inRange, rfl⟩ := List.mem_map.mp (List.mem_filter.mp member).1
    have below := List.mem_range.mp inRange
    rcases Nat.lt_or_ge index 9999 with less | more
    · rcases Nat.lt_or_ge (index + 1) 9999 with less | last
      · exact le_of_lt ((series_numbering "IM" 2026).ordered less (Nat.le_refl 9999))
      · rw [show index + 1 = 9999 by omega]
    · rw [show index + 1 = 10000 by omega]
      decide
  unfold nextNumber nextCounter
  rw [greatest]
  dsimp only
  rw [counterOf_seriesNumber, all]
  rfl

theorem handle_createHosting {books : FinanceBooks}
    (fresh : books.nextInvoiceNumber 2026 ∉ books.invoiceNumbers) :
    (books.handle createHosting).invoiceNumbers =
      books.invoiceNumbers ++ [books.nextInvoiceNumber 2026] := by
  have fits : (FinanceBooks.lineInvoice hosting (books.nextInvoiceNumber 2026)).Fits :=
    ⟨(by decide : 25000 ≤ 2147483647), (by decide : 25000 ≤ 2147483647)⟩
  have checked : books.check createHosting = .ok [.insertInvoice (FinanceBooks.lineInvoice hosting
        (books.nextInvoiceNumber 2026))] :=
    if_neg fun both => fresh both.2
  rw [FinanceBooks.handle_single checked ⟨fits, fresh⟩]
  exact FinanceBooks.insertInvoice_numbers _

theorem created_numbers (count : ℕ) (inLimit : count ≤ 10000) :
    ((List.replicate count createHosting).foldl FinanceBooks.handle
      {}).invoiceNumbers = firstNumbers count := by
  induction count with
  | zero => rfl
  | succ count ih =>
    have earlier := ih (by omega)
    rw [List.replicate_succ', List.foldl_append, List.foldl_cons, List.foldl_nil]
    have next : FinanceBooks.nextInvoiceNumber
        ((List.replicate count createHosting).foldl FinanceBooks.handle {})
        2026 = seriesNumber "IM" 2026 (count + 1) := by
      unfold FinanceBooks.nextInvoiceNumber
      rw [earlier, next_firstNumbers (by omega)]
    rw [handle_createHosting, next, earlier]
    · unfold firstNumbers
      rw [List.range_succ, List.map_append, List.map_singleton]
    · rw [next, earlier, mem_firstNumbers]
      omega

theorem not_numbersFresh {requests : List BookRequest}
    (again : (requests.foldl FinanceBooks.handle {}).nextInvoiceNumber 2026 ∈
      (requests.foldl FinanceBooks.handle {}).invoiceNumbers) : ¬ NumbersFresh {} requests := by
  intro fresh
  have split : requests = requests ++ [] ++ [] := by simp
  exact (fresh requests [] [] _ _ 2026 split (Run.of_foldl _ _ _) .start).1 again

theorem created_again (all : count = 10000) : FinanceBooks.nextInvoiceNumber
        ((List.replicate count createHosting).foldl FinanceBooks.handle {}) 2026 ∈
      FinanceBooks.invoiceNumbers
        ((List.replicate count createHosting).foldl FinanceBooks.handle {}) := by
  have numbers := created_numbers count (Nat.le_of_eq all)
  have next := next_greatest all
  unfold FinanceBooks.nextInvoiceNumber
  rw [numbers, next, mem_firstNumbers]
  omega

/-- A deleted number is drawn again, and after ten thousand invoices the last
number is drawn for ever. -/
theorem numbers_repeat : ¬ NumbersFresh {} createdAndDeleted ∧
      ¬ NumbersFresh {} (List.replicate 10000 createHosting) := by
  refine ⟨?_, not_numbersFresh (created_again rfl)⟩
  intro fresh
  have first := (fresh [createHosting] [.deleteFinanceInvoice 0] [] _ _ 2026
    rfl (Run.of_foldl _ _ _) (Run.of_foldl _ _ _)).1
  exact first (by decide)

/-- Invoices and a quotation, of which one that is not the last is deleted. -/
def earlierDeleted : List BookRequest :=
  [createHosting, createHosting, .deleteFinanceInvoice 0, createHosting,
    .createCorporateQuotation "Thaba School" "office@thaba.example" 20 50 7200000 2026,
    .convertDocument 3 2026, .createCreditNote 4 1000 2026]

theorem numbersFresh_earlierDeleted : NumbersFresh {} earlierDeleted ∧
      (earlierDeleted.foldl FinanceBooks.handle {}).invoiceNumbers =
        ["IM-2026-0002", "IM-2026-0003", "IM-2026-0004"] :=
  ⟨numbersFresh_of_spares [] {} earlierDeleted (EveryStep.of_stepByStep (by decide)), by decide⟩

end Ithute.Books
