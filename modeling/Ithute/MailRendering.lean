import Ithute.HardwareWorkflowPlan

/-!
# Mail rendering decisions

The Go worker plans the layout of a message and the Java worker names its
kind.  Where a worker does not answer, the backend decides by itself, on fewer
thresholds.
-/

namespace Ithute.MailRendering

structure Metrics where
  hasHtml : Bool
  characters : Option ℤ
  lines : Option ℤ
  longestLine : Option ℤ
  tableCount : Option ℤ
  linkCount : Option ℤ
  attachmentCount : Option ℤ
  headingCount : Option ℤ
  quoteCount : Option ℤ

/-- `max(0, int(value or 0))`. -/
def metricCount (value : Option ℤ) : ℕ := (value.getD 0).toNat

inductive Layout where
  | document | transactional | longformPlain
  deriving DecidableEq

inductive ReaderWidth where
  | comfortable | wide
  deriving DecidableEq

inductive HorizontalFit where
  | wrap | scrollTables
  deriving DecidableEq

inductive Density where
  | compact | comfortable | long
  deriving DecidableEq

structure RenderPlan where
  layout : Layout
  readerWidth : ReaderWidth
  horizontalFit : HorizontalFit
  density : Density
  collapseQuotes : Bool
  deriving DecidableEq

structure RenderPlanRequest where
  hasHtml : Bool
  characters : ℕ
  lines : ℕ
  longestLine : ℕ
  tableCount : ℕ
  linkCount : ℕ
  attachmentCount : ℕ

def Metrics.renderPlanRequest (metrics : Metrics) : RenderPlanRequest where
  hasHtml := metrics.hasHtml
  characters := metricCount metrics.characters
  lines := metricCount metrics.lines
  longestLine := metricCount metrics.longestLine
  tableCount := metricCount metrics.tableCount
  linkCount := metricCount metrics.linkCount
  attachmentCount := metricCount metrics.attachmentCount

namespace RenderPlanRequest

variable (request : RenderPlanRequest)

def fallback : RenderPlan where
  layout :=
    if request.tableCount ≠ 0 then .transactional
    else if request.hasHtml = false ∧ request.longestLine > 220 then .longformPlain
    else .document
  readerWidth := if request.tableCount ≠ 0 then .wide else .comfortable
  horizontalFit := if request.tableCount ≠ 0 then .scrollTables else .wrap
  density :=
    if request.characters < 800 then .compact
    else if request.characters > 6000 then .long
    else .comfortable
  collapseQuotes := request.characters > 12000

def planMailRender : RenderPlan :=
  let plan := {
    layout := .document, readerWidth := .comfortable, horizontalFit := .wrap
    density := .comfortable, collapseQuotes := request.characters > 12000 }
  if request.tableCount > 0 then
    { plan with layout := .transactional, readerWidth := .wide, horizontalFit := .scrollTables }
  else if request.hasHtml = false ∧ (request.longestLine > 220 ∨
      request.lines ≤ 3 ∧ request.characters > 800) then
    { plan with layout := .longformPlain }
  else if request.characters < 800 then { plan with density := .compact }
  else if request.characters > 6000 then { plan with density := .long }
  else plan

/-- A Go `int` holds every count of the request. -/
def fits : Bool :=
  [request.characters, request.lines, request.longestLine, request.tableCount, request.linkCount,
    request.attachmentCount].all fun count => decide (count < 2 ^ 63)

def answer : Option RenderPlan :=
  if request.fits then some request.planMailRender else none

end RenderPlanRequest

def goMailRenderPlan (answers : Bool) (metrics : Metrics) : RenderPlan × String :=
  let payload := metrics.renderPlanRequest
  match if answers then payload.answer else none with
  | some plan => (plan, "go")
  | none => (payload.fallback, "python-fallback")

inductive SemanticType where
  | message | transactionalOrNewsletter | transactional | structuredDocument | longformPlain
  | attachmentLed | conversationHeavy

@[ext]
structure RenderProfile where
  semanticType : SemanticType
  collapseQuotedHistory : Bool
  preserveSemanticTables : Bool
  preferReadableWidth : Bool
  standardsProfile : String

/-- A written count as Java reads it: one that an `int` does not hold counts
as zero. -/
def intValue (count : ℕ) : ℕ := (javaInt count).toNat

structure RenderProfileForm where
  hasHtml : Bool
  tableCount : ℕ
  linkCount : ℕ
  attachmentCount : ℕ
  characters : ℕ
  headingCount : ℕ
  quoteCount : ℕ

namespace RenderProfileForm

variable (form : RenderProfileForm)

def counts : List (String × ℕ) :=
  [("table_count", form.tableCount), ("link_count", form.linkCount),
    ("attachment_count", form.attachmentCount), ("characters", form.characters),
    ("heading_count", form.headingCount), ("quote_count", form.quoteCount)]

def writable : Bool := form.counts.all fun entry => decide (entry.2 < 10 ^ 4300)

def body : String :=
  form.counts.foldl (fun text entry => text ++ "&" ++ entry.1 ++ "=" ++ toString entry.2)
    ("has_html=" ++ toString form.hasHtml)

def fallback : RenderProfile where
  semanticType :=
    if form.tableCount ≠ 0 then .transactional
    else if form.hasHtml = false ∧ form.characters > 6000 then .longformPlain
    else .message
  collapseQuotedHistory := form.quoteCount ≥ 3 ∨ form.characters > 12000
  preserveSemanticTables := form.tableCount > 0
  preferReadableWidth := form.tableCount = 0
  standardsProfile := "email-content-v1"

def classifyMailRenderProfile : RenderProfile :=
  let tables := intValue form.tableCount
  let links := intValue form.linkCount
  let attachments := intValue form.attachmentCount
  let characters := intValue form.characters
  let headings := intValue form.headingCount
  let quotes := intValue form.quoteCount
  { semanticType :=
      if tables > 0 ∧ links > 0 then .transactionalOrNewsletter
      else if tables > 0 then .transactional
      else if form.hasHtml = true ∧ headings > 1 then .structuredDocument
      else if form.hasHtml = false ∧ characters > 6000 then .longformPlain
      else if attachments > 0 ∧ characters < 1200 then .attachmentLed
      else if quotes ≥ 3 then .conversationHeavy
      else .message
    collapseQuotedHistory := quotes ≥ 3 ∨ characters > 12000
    preserveSemanticTables := tables > 0
    preferReadableWidth := !decide (tables > 0)
    standardsProfile := "email-content-v1" }

def answer : Option RenderProfile :=
  if form.body.utf8ByteSize ≤ 8192 then some form.classifyMailRenderProfile else none

end RenderProfileForm

def Metrics.renderProfileForm (metrics : Metrics) : RenderProfileForm where
  hasHtml := metrics.hasHtml
  tableCount := metricCount metrics.tableCount
  linkCount := metricCount metrics.linkCount
  attachmentCount := metricCount metrics.attachmentCount
  characters := metricCount metrics.characters
  headingCount := metricCount metrics.headingCount
  quoteCount := metricCount metrics.quoteCount

/-- The profile of a message with the engine that made it; `none` is the error
of a count that Python does not write. -/
def javaMailRenderProfile (answers : Bool) (metrics : Metrics) : Option (RenderProfile × String) :=
  let form := metrics.renderProfileForm
  if form.writable then
    match if answers then form.answer else none with
    | some profile => some (profile, "java")
    | none => some (form.fallback, "python-fallback")
  else none

/-- Where the worker takes the request, a message with a table or a long plain
line has 800 to 6000 characters, and a plain message without either has at
least four lines or at most 800 characters. -/
def RenderPlanRequest.Settled (request : RenderPlanRequest) : Prop :=
  request.fits →
    (0 < request.tableCount ∨ request.hasHtml = false ∧ 220 < request.longestLine →
      800 ≤ request.characters ∧ request.characters ≤ 6000) ∧
    (request.tableCount = 0 → request.hasHtml = false → request.longestLine ≤ 220 →
      3 < request.lines ∨ request.characters ≤ 800)

section Plans

variable (request : RenderPlanRequest)

theorem density_fallback_eq_comfortable_iff : request.fallback.density = .comfortable ↔
      800 ≤ request.characters ∧ request.characters ≤ 6000 := by
  simp only [RenderPlanRequest.fallback]
  split_ifs <;> simp <;> omega

theorem planMailRender_eq_fallback_iff : request.planMailRender = request.fallback ↔
      (0 < request.tableCount ∨ request.hasHtml = false ∧ 220 < request.longestLine →
        800 ≤ request.characters ∧ request.characters ≤ 6000) ∧
      (request.tableCount = 0 → request.hasHtml = false → request.longestLine ≤ 220 →
        3 < request.lines ∨ request.characters ≤ 800) := by
  rw [← density_fallback_eq_comfortable_iff]
  obtain ⟨html, characters, lines, longest, tables, links, attachments⟩ := request
  simp only [RenderPlanRequest.planMailRender, RenderPlanRequest.fallback]
  rcases Nat.eq_zero_or_pos tables with rfl | some
  · cases html
    · rcases Nat.lt_or_ge 220 longest with long | short
      · simp [long, eq_comm]
      · by_cases few : lines ≤ 3 ∧ 800 < characters
        · simp [few, short.not_gt, short]
        · have spaced : 3 < lines ∨ characters ≤ 800 := by omega
          simp only [gt_iff_lt, short.not_gt, few, spaced]
          simp only [lt_irrefl, ne_eq, not_true, or_self, and_false, if_false]
          split_ifs <;> simp
    · simp only [lt_irrefl, ne_eq, not_true, Bool.true_eq_false, false_and, if_false]
      split_ifs <;> simp
  · simp [some, some.ne', eq_comm]

theorem goMailRenderPlan_agrees_iff (metrics : Metrics) :
    (goMailRenderPlan true metrics).1 = (goMailRenderPlan false metrics).1 ↔
      metrics.renderPlanRequest.Settled := by
  unfold goMailRenderPlan RenderPlanRequest.answer RenderPlanRequest.Settled
  by_cases fits : metrics.renderPlanRequest.fits = true
  · simpa [fits] using planMailRender_eq_fallback_iff metrics.renderPlanRequest
  · simp [fits]

end Plans

/-- Where the worker takes the form, its tables and what collapses the quoted
history are counts that an `int` holds, and the message is of a kind that the
fallback knows: tables without links, a long plain text, or neither many
headings nor attachments on a short text nor many quotes. -/
def RenderProfileForm.Settled (form : RenderProfileForm) : Prop :=
  form.writable → form.body.utf8ByteSize ≤ 8192 → form.tableCount < 2 ^ 31 ∧
    (3 ≤ form.quoteCount ∨ 12000 < form.characters →
      3 ≤ intValue form.quoteCount ∨ 12000 < intValue form.characters) ∧
    if 0 < form.tableCount then intValue form.linkCount = 0
    else if form.hasHtml = false ∧ 6000 < form.characters then form.characters < 2 ^ 31
    else (form.hasHtml → intValue form.headingCount ≤ 1) ∧
      (0 < intValue form.attachmentCount → 1200 ≤ intValue form.characters) ∧ intValue form.quoteCount < 3

section Profiles

variable (form : RenderProfileForm)

theorem intValue_eq (count : ℕ) : intValue count = if count < 2 ^ 31 then count else 0 := by
  unfold intValue javaInt
  split_ifs <;> omega

theorem intValue_le (count : ℕ) : intValue count ≤ count := by
  rw [intValue_eq]
  split_ifs <;> omega

theorem preserves_iff : (form.classifyMailRenderProfile.preserveSemanticTables =
        form.fallback.preserveSemanticTables) ↔ form.tableCount < 2 ^ 31 := by
  simp only [RenderProfileForm.classifyMailRenderProfile, RenderProfileForm.fallback,
    intValue_eq, decide_eq_decide]
  split_ifs <;> omega

theorem prefers_iff : (form.classifyMailRenderProfile.preferReadableWidth =
        form.fallback.preferReadableWidth) ↔ form.tableCount < 2 ^ 31 := by
  rw [← preserves_iff]
  simp only [RenderProfileForm.classifyMailRenderProfile, RenderProfileForm.fallback,
    ← decide_not, decide_eq_decide]
  omega

theorem collapses_iff : (form.classifyMailRenderProfile.collapseQuotedHistory =
        form.fallback.collapseQuotedHistory) ↔ (3 ≤ form.quoteCount ∨ 12000 < form.characters →
        3 ≤ intValue form.quoteCount ∨ 12000 < intValue form.characters) := by
  have quotes := intValue_le form.quoteCount
  have characters := intValue_le form.characters
  simp only [RenderProfileForm.classifyMailRenderProfile, RenderProfileForm.fallback,
    decide_eq_decide]
  omega

/-- Where the tables are read as they are, the kinds agree on what the
fallback knows. -/
theorem semanticType_iff (tables : form.tableCount < 2 ^ 31) :
    (form.classifyMailRenderProfile.semanticType = form.fallback.semanticType) ↔
      if 0 < form.tableCount then intValue form.linkCount = 0
      else if form.hasHtml = false ∧ 6000 < form.characters then form.characters < 2 ^ 31
      else (form.hasHtml → intValue form.headingCount ≤ 1) ∧
        (0 < intValue form.attachmentCount → 1200 ≤ intValue form.characters) ∧
          intValue form.quoteCount < 3 := by
  have same : intValue form.tableCount = form.tableCount := by rw [intValue_eq, if_pos tables]
  simp only [RenderProfileForm.classifyMailRenderProfile, RenderProfileForm.fallback, same]
  rcases Nat.eq_zero_or_pos form.tableCount with none | some
  · simp only [none, gt_iff_lt, lt_irrefl, false_and, ne_eq, not_true, if_false]
    by_cases long : form.hasHtml = false ∧ 6000 < form.characters
    · rw [if_pos long, if_pos long]
      by_cases fits : form.characters < 2 ^ 31
      · have characters : intValue form.characters = form.characters := by
          rw [intValue_eq, if_pos fits]
        refine iff_of_true ?_ fits
        simp [characters, long.1, long.2]
      · have characters : intValue form.characters = 0 := by rw [intValue_eq, if_neg fits]
        refine iff_of_false ?_ fits
        rw [characters]
        split_ifs <;> simp_all
    · have read : ¬ (form.hasHtml = false ∧ 6000 < intValue form.characters) :=
        fun reads => long ⟨reads.1, reads.2.trans_le (intValue_le _)⟩
      rw [if_neg long, if_neg long, if_neg read]
      split_ifs <;> simp_all
  · simp only [some, some.ne', gt_iff_lt, true_and, ne_eq, not_false_iff, if_true]
    split_ifs with links <;> simp <;> omega

theorem classifyMailRenderProfile_eq_fallback_iff : form.classifyMailRenderProfile = form.fallback ↔
      form.tableCount < 2 ^ 31 ∧ (3 ≤ form.quoteCount ∨ 12000 < form.characters →
        3 ≤ intValue form.quoteCount ∨ 12000 < intValue form.characters) ∧
      if 0 < form.tableCount then intValue form.linkCount = 0
      else if form.hasHtml = false ∧ 6000 < form.characters then form.characters < 2 ^ 31
      else (form.hasHtml → intValue form.headingCount ≤ 1) ∧
        (0 < intValue form.attachmentCount → 1200 ≤ intValue form.characters) ∧
          intValue form.quoteCount < 3 := by
  rw [← collapses_iff]
  constructor
  · intro same
    have tables := (preserves_iff form).mp (by rw [same])
    exact ⟨tables, by rw [same], (semanticType_iff form tables).mp (by rw [same])⟩
  · rintro ⟨tables, collapses, kind⟩
    have preserves := (preserves_iff form).mpr tables
    have prefers := (prefers_iff form).mpr tables
    have types := (semanticType_iff form tables).mpr kind
    rw [RenderProfile.ext_iff]
    exact ⟨types, collapses, preserves, prefers, rfl⟩

end Profiles

theorem javaMailRenderProfile_agrees_iff (metrics : Metrics) :
    (javaMailRenderProfile true metrics).map Prod.fst =
        (javaMailRenderProfile false metrics).map Prod.fst ↔ metrics.renderProfileForm.Settled := by
  unfold javaMailRenderProfile RenderProfileForm.answer RenderProfileForm.Settled
  rw [← classifyMailRenderProfile_eq_fallback_iff]
  by_cases writable : metrics.renderProfileForm.writable = true
  · by_cases short : metrics.renderProfileForm.body.utf8ByteSize ≤ 8192 <;> simp [writable, short]
  · simp [writable]

/-- Both decisions are the same with and without the workers exactly where the
metrics are settled for both. -/
theorem decisions_agree_iff (metrics : Metrics) :
    ((goMailRenderPlan true metrics).1 = (goMailRenderPlan false metrics).1 ∧
      (javaMailRenderProfile true metrics).map Prod.fst =
        (javaMailRenderProfile false metrics).map Prod.fst) ↔
    metrics.renderPlanRequest.Settled ∧ metrics.renderProfileForm.Settled :=
  and_congr (goMailRenderPlan_agrees_iff metrics) (javaMailRenderProfile_agrees_iff metrics)

def shortInvoice : Metrics where
  hasHtml := true
  characters := some 500
  lines := some 20
  longestLine := some 60
  tableCount := some 1
  linkCount := some 2
  attachmentCount := none
  headingCount := none
  quoteCount := none

/-- The fallback lays a short invoice out more densely than the worker. -/
theorem shortInvoice_decisions : ¬ ∀ metrics : Metrics,
    (goMailRenderPlan true metrics).1 = (goMailRenderPlan false metrics).1 ∧
      (javaMailRenderProfile true metrics).map Prod.fst =
        (javaMailRenderProfile false metrics).map Prod.fst := by
  intro same
  exact absurd (same shortInvoice).1 (by decide)

end Ithute.MailRendering
