import Ithute.FinanceTables
import Ithute.Library.TransitionRuns
import Ithute.PythonTexts

/-!
# Bank imports

A row of a bank statement is skipped where a stored transaction has its
fingerprint, the digest of the source, the date, the amount, the reference and
the description joined by bars.  The source goes into it as it was sent, and
what is stored is stripped.
-/

namespace Ithute.BankImports

open Finance Texts TransitionRuns

structure BankRow where
  transactionDate : AccountingDate
  amountMinor : ℤ
  description : Text
  reference : Text
  deriving DecidableEq

structure BankImport where
  sourceName : Text
  importBatch : Text
  rows : List BankRow

structure BankColumns where
  source : Text
  date : AccountingDate
  amountMinor : ℤ
  reference : Text
  description : Text
  deriving DecidableEq

structure FinanceBankTransaction where
  transactionDate : AccountingDate
  amountMinor : ℤ
  description : Text
  reference : Text
  sourceName : Text
  importBatch : Text
  fingerprint : Text

def FinanceBankTransaction.columns (row : FinanceBankTransaction) : BankColumns where
  source := row.sourceName
  date := row.transactionDate
  amountMinor := row.amountMinor
  reference := row.reference
  description := row.description

def isoformat (date : AccountingDate) : Text :=
  (zeroPadded 4 date.year).toList ++ '-' :: (zeroPadded 2 date.month).toList ++
    '-' :: (zeroPadded 2 date.day).toList

/-- `text.strip() or default` -/
def stripOr (fallback text : Text) : Text := if strip text = [] then fallback else strip text

namespace BankImport

variable (digest : Text → Text) (payload : BankImport) (item : BankRow)

def raw : Text :=
  payload.sourceName ++ '|' :: isoformat item.transactionDate ++ '|' :: decimal item.amountMinor ++
    '|' :: strip item.reference ++ '|' :: strip item.description

def fingerprint : Text := digest (payload.raw item)

def newTransaction : FinanceBankTransaction where
  transactionDate := item.transactionDate
  amountMinor := item.amountMinor
  description := strip item.description
  reference := strip item.reference
  sourceName := stripOr "LPB".toList payload.sourceName
  importBatch := stripOr "manual".toList payload.importBatch
  fingerprint := payload.fingerprint digest item

def columns : BankColumns where
  source := stripOr "LPB".toList payload.sourceName
  date := item.transactionDate
  amountMinor := item.amountMinor
  reference := strip item.reference
  description := strip item.description

theorem fingerprint_congr {payload : BankImport} {first second : BankRow}
    (same : payload.columns first = payload.columns second) :
    payload.fingerprint digest first = payload.fingerprint digest second := by
  simp only [columns, BankColumns.mk.injEq, true_and] at same
  simp only [fingerprint, raw, same]

end BankImport

structure ImportSummary where
  imported : ℕ := 0
  duplicates : ℕ := 0

structure ImportSession where
  added : List FinanceBankTransaction := []
  summary : ImportSummary := {}

/-- What the columns of PostgreSQL hold: no zero characters, and integers of
four bytes. -/
def FinanceBankTransaction.Fits (row : FinanceBankTransaction) : Prop :=
  -2147483648 ≤ row.amountMinor ∧ row.amountMinor ≤ 2147483647 ∧
    ∀ text ∈ [row.description, row.reference, row.sourceName, row.importBatch], Char.ofNat 0 ∉ text

instance (row : FinanceBankTransaction) : Decidable row.Fits :=
  inferInstanceAs (Decidable (_ ∧ _ ∧ ∀ _ ∈ _, _))

/-- The batch is the resource of the audit record, in a column of 100
characters. -/
def BankImport.Audited (payload : BankImport) : Prop :=
  payload.importBatch.length ≤ 100 ∧ Char.ofNat 0 ∉ payload.importBatch

instance (payload : BankImport) : Decidable payload.Audited :=
  inferInstanceAs (Decidable (_ ∧ _))

section Import

variable (digest : Text → Text) (stored : List FinanceBankTransaction) (payload : BankImport)

/-- No stored transaction has the fingerprint.  The session does not flush
before it asks, so that its own rows are not seen. -/
def IsFresh (item : BankRow) : Prop :=
  ∀ row ∈ stored, row.fingerprint ≠ payload.fingerprint digest item

instance (item : BankRow) : Decidable (IsFresh digest stored payload item) :=
  inferInstanceAs (Decidable (∀ _ ∈ _, _))

def importRow (session : ImportSession) (item : BankRow) : ImportSession :=
  if IsFresh digest stored payload item then
    { added := session.added ++ [payload.newTransaction digest item]
      summary := { session.summary with imported := session.summary.imported + 1 } }
  else
    { session with
      summary := { session.summary with duplicates := session.summary.duplicates + 1 } }

/-- `import_bank_rows`, with the accounting periods that are locked.  The commit
takes every row or none. -/
def importBankRows (locked : List (ℕ × ℕ)) :
    List FinanceBankTransaction × Except Refusal ImportSummary :=
  let session := payload.rows.foldl (importRow digest stored payload) {}
  match session.added.find? fun row => decide (row.transactionDate.periodKey ∈ locked) with
  | some row =>
    (stored, .error ⟨409, FinanceLedger.lockedDetail row.transactionDate
      "financial records in that period are read-only"⟩)
  | none =>
    if payload.Audited ∧ (∀ row ∈ session.added, row.Fits) ∧
        ((stored ++ session.added).map FinanceBankTransaction.fingerprint).Nodup then
      (stored ++ session.added, .ok session.summary)
    else (stored, .error ⟨500, "Internal Server Error"⟩)

def freshRows : List BankRow :=
  payload.rows.filter fun item => decide (IsFresh digest stored payload item)

theorem foldl_importRow (session : ImportSession) (items : List BankRow) :
    items.foldl (importRow digest stored payload) session =
      { added := session.added ++
          (items.filter fun item => decide (IsFresh digest stored payload item)).map
            (payload.newTransaction digest)
        summary :=
          { imported := session.summary.imported +
              items.countP fun item => decide (IsFresh digest stored payload item)
            duplicates := session.summary.duplicates +
              items.countP fun item => ! decide (IsFresh digest stored payload item) } } := by
  induction items generalizing session with
  | nil => simp
  | cons item items ih =>
    rw [List.foldl_cons, ih, importRow]
    split_ifs with fresh
    · simp [fresh]
      omega
    · simp [fresh]
      omega

structure ImportCall where
  payload : BankImport
  locked : List (ℕ × ℕ) := []

/-- The stored transactions are the rows that were presented, each once, and
presenting a batch again changes nothing. -/
structure Lossless (calls : List ImportCall) : Prop where
  once : (stored.map FinanceBankTransaction.columns).Nodup
  exact : ∀ columns, columns ∈ stored.map FinanceBankTransaction.columns ↔
    ∃ call ∈ calls, ∃ item ∈ call.payload.rows, call.payload.columns item = columns
  again : ∀ call ∈ calls, ∀ locked, importBankRows digest stored call.payload locked =
    (stored, .ok { imported := 0, duplicates := call.payload.rows.length })

/-- Fingerprints tell the rows of a call apart as the stored columns do, no two
of them are new with one fingerprint, and the database takes the new ones. -/
structure ToldApart (call : ImportCall) : Prop where
  sameRows : ∀ item ∈ call.payload.rows, ∀ row ∈ stored,
    (row.fingerprint = call.payload.fingerprint digest item ↔
      row.columns = call.payload.columns item)
  unrepeated : ((freshRows digest stored call.payload).map
    (call.payload.fingerprint digest)).Nodup
  unlocked : ∀ item ∈ freshRows digest stored call.payload,
    item.transactionDate.periodKey ∉ call.locked
  audited : call.payload.Audited
  fits : ∀ item ∈ freshRows digest stored call.payload,
    (call.payload.newTransaction digest item).Fits

end Import

section Runs

variable {digest : Text → Text} {stored : List FinanceBankTransaction}

theorem importBankRows_accepted {payload : BankImport} {locked : List (ℕ × ℕ)}
    (unlocked : ∀ item ∈ freshRows digest stored payload, item.transactionDate.periodKey ∉ locked)
    (audited : payload.Audited) (fits : ∀ item ∈ freshRows digest stored payload,
      (payload.newTransaction digest item).Fits)
    (distinct : (stored.map FinanceBankTransaction.fingerprint ++
      (freshRows digest stored payload).map (payload.fingerprint digest)).Nodup) :
    importBankRows digest stored payload locked =
      (stored ++ (freshRows digest stored payload).map (payload.newTransaction digest), .ok
          { imported := (freshRows digest stored payload).length
            duplicates :=
              payload.rows.countP fun item => ! decide (IsFresh digest stored payload item) }) := by
  have session : payload.rows.foldl (importRow digest stored payload) {} =
      { added := (freshRows digest stored payload).map (payload.newTransaction digest)
        summary :=
          { imported := (freshRows digest stored payload).length
            duplicates :=
              payload.rows.countP fun item => ! decide (IsFresh digest stored payload item) } } := by
    rw [foldl_importRow, freshRows, ← List.countP_eq_length_filter]
    simp
  have opened : ((freshRows digest stored payload).map
      (payload.newTransaction digest)).find? (fun row =>
        decide (row.transactionDate.periodKey ∈ locked)) = none := by
    rw [List.find?_eq_none]
    intro row rowMem
    obtain ⟨item, itemMem, rfl⟩ := List.mem_map.mp rowMem
    rw [decide_eq_true_eq]
    exact unlocked item itemMem
  unfold importBankRows
  rw [session]
  dsimp only
  rw [opened]
  dsimp only
  rw [if_pos]
  refine ⟨audited, ?_, ?_⟩
  · intro row rowMem
    obtain ⟨item, itemMem, rfl⟩ := List.mem_map.mp rowMem
    exact fits item itemMem
  · rw [List.map_append, List.map_map]
    exact distinct

theorem importBankRows_of_stored {payload : BankImport} (audited : payload.Audited)
    (distinct : (stored.map FinanceBankTransaction.fingerprint).Nodup)
    (found : ∀ item ∈ payload.rows, ¬ IsFresh digest stored payload item)
    (locked : List (ℕ × ℕ)) : importBankRows digest stored payload locked =
      (stored, .ok { imported := 0, duplicates := payload.rows.length }) := by
  have none : freshRows digest stored payload = [] := by
    rw [freshRows, List.filter_eq_nil_iff]
    simpa using found
  have all : payload.rows.countP (fun item => ! decide (IsFresh digest stored payload item)) =
      payload.rows.length := by
    rw [List.countP_eq_length]
    simpa using found
  rw [importBankRows_accepted (by simp [none]) audited (by simp [none]) (by simpa [none]), none,
    all]
  simp

structure ImportInvariant (digest : Text → Text) (stored : List FinanceBankTransaction)
    (calls : List ImportCall) : Prop where
  fingerprints : (stored.map FinanceBankTransaction.fingerprint).Nodup
  once : (stored.map FinanceBankTransaction.columns).Nodup
  exact : ∀ columns, columns ∈ stored.map FinanceBankTransaction.columns ↔
    ∃ call ∈ calls, ∃ item ∈ call.payload.rows, call.payload.columns item = columns
  audited : ∀ call ∈ calls, call.payload.Audited
  found : ∀ call ∈ calls, ∀ item ∈ call.payload.rows, ¬ IsFresh digest stored call.payload item

theorem ImportInvariant.lossless {calls : List ImportCall}
    (invariant : ImportInvariant digest stored calls) : Lossless digest stored calls where
  once := invariant.once
  exact := invariant.exact
  again call callMem := importBankRows_of_stored (invariant.audited call callMem)
    invariant.fingerprints (invariant.found call callMem)

section Step

variable {call : ImportCall}

theorem ToldApart.mem_freshRows_iff (told : ToldApart digest stored call) {item : BankRow}
    (itemMem : item ∈ call.payload.rows) : item ∈ freshRows digest stored call.payload ↔
      call.payload.columns item ∉ stored.map FinanceBankTransaction.columns := by
  rw [freshRows, List.mem_filter, decide_eq_true_eq, List.mem_map]
  constructor
  · rintro ⟨-, fresh⟩ ⟨row, rowMem, same⟩
    exact fresh row rowMem ((told.sameRows item itemMem row rowMem).mpr same)
  · intro new
    refine ⟨itemMem, fun row rowMem same => new ⟨row, rowMem, ?_⟩⟩
    exact (told.sameRows item itemMem row rowMem).mp same

theorem mem_freshRows {payload : BankImport} {item : BankRow} :
    item ∈ freshRows digest stored payload ↔
      item ∈ payload.rows ∧ IsFresh digest stored payload item := by
  simp [freshRows]

theorem ToldApart.nodup_columns (told : ToldApart digest stored call) :
    ((freshRows digest stored call.payload).map call.payload.columns).Nodup := by
  have apart := told.unrepeated
  rw [List.Nodup, List.pairwise_map] at apart ⊢
  refine apart.imp ?_
  intro first second differ same
  exact differ (BankImport.fingerprint_congr digest same)

theorem ImportInvariant.step {calls : List ImportCall}
    (invariant : ImportInvariant digest stored calls) (told : ToldApart digest stored call) :
    ImportInvariant digest (importBankRows digest stored call.payload call.locked).1
      (calls ++ [call]) := by
  have distinct : (stored.map FinanceBankTransaction.fingerprint ++
      (freshRows digest stored call.payload).map (call.payload.fingerprint digest)).Nodup := by
    refine List.nodup_append.mpr ⟨invariant.fingerprints, told.unrepeated, ?_⟩
    intro first firstMem second secondMem same
    obtain ⟨row, rowMem, rfl⟩ := List.mem_map.mp firstMem
    obtain ⟨item, itemMem, rfl⟩ := List.mem_map.mp secondMem
    exact (mem_freshRows.mp itemMem).2 row rowMem same
  rw [importBankRows_accepted told.unlocked told.audited told.fits distinct]
  refine ⟨?_, ?_, ?_, ?_, ?_⟩
  · rw [List.map_append, List.map_map]
    exact distinct
  · rw [List.map_append, List.map_map]
    refine List.nodup_append.mpr ⟨invariant.once, told.nodup_columns, ?_⟩
    intro first firstMem second secondMem same
    obtain ⟨item, itemMem, rfl⟩ := List.mem_map.mp secondMem
    have new := (told.mem_freshRows_iff (mem_freshRows.mp itemMem).1).mp itemMem
    rw [same] at firstMem
    exact new firstMem
  · intro columns
    rw [List.map_append, List.map_map, List.mem_append, invariant.exact, List.mem_map]
    constructor
    · rintro (⟨earlier, earlierMem, item, itemMem, same⟩ | ⟨item, itemMem, same⟩)
      · exact ⟨earlier, List.mem_append_left _ earlierMem, item, itemMem, same⟩
      · exact ⟨call, List.mem_append_right _ (List.mem_singleton_self _), item,
          (mem_freshRows.mp itemMem).1, same⟩
    · rintro ⟨presented, presentedMem, item, itemMem, same⟩
      rcases List.mem_append.mp presentedMem with earlier | here
      · exact .inl ⟨presented, earlier, item, itemMem, same⟩
      · obtain rfl := List.mem_singleton.mp here
        by_cases new : item ∈ freshRows digest stored presented.payload
        · exact .inr ⟨item, new, same⟩
        · rw [told.mem_freshRows_iff itemMem, not_not, invariant.exact] at new
          exact .inl (same ▸ new)
  · intro presented presentedMem
    rcases List.mem_append.mp presentedMem with earlier | here
    · exact invariant.audited presented earlier
    · obtain rfl := List.mem_singleton.mp here
      exact told.audited
  · intro presented presentedMem item itemMem fresh
    have before : IsFresh digest stored presented.payload item :=
      fun row rowMem => fresh row (List.mem_append_left _ rowMem)
    rcases List.mem_append.mp presentedMem with earlier | here
    · exact invariant.found presented earlier item itemMem before
    · obtain rfl := List.mem_singleton.mp here
      refine fresh _ (List.mem_append_right _ (List.mem_map_of_mem ?_)) rfl
      exact mem_freshRows.mpr ⟨itemMem, before⟩

end Step

end Runs

def ImportStep (digest : Text → Text) (before : List FinanceBankTransaction) (call : ImportCall)
    (after : List FinanceBankTransaction) : Prop :=
  after = (importBankRows digest before call.payload call.locked).1

def credit (reference description : String) : BankRow where
  transactionDate := ⟨2026, 5, 4⟩
  amountMinor := 4000
  description := description.toList
  reference := reference.toList

def statement (source : String) (rows : List BankRow) : ImportCall where
  payload :=
    { sourceName := source.toList
      importBatch := "May".toList
      rows := rows }

def importAll (calls : List ImportCall) : List FinanceBankTransaction :=
  calls.foldl (fun stored call => (importBankRows id stored call.payload call.locked).1) []

end Ithute.BankImports
