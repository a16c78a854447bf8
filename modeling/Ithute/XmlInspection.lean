import Ithute.Library.StableRanking
import Ithute.Library.StackWalk
import Ithute.PythonTexts
import Mathlib.Data.List.Lex
import Mathlib.Data.List.Sort

/-!
# Inspection of XML documents

Two engines count the elements, attributes, characters and names of a
document.  The Java engine walks a DOM tree, where comments and CDATA sections
are nodes of their own, and the Python engine an element tree, where the
characters between two tags are one text.
-/

namespace Ithute.XmlInspection

open StackWalk Texts

/-- `Character.isWhitespace` -/
def isJavaWhitespace (character : Char) : Bool :=
  let point := character.toNat
  decide ((0x9 ≤ point ∧ point ≤ 0xD) ∨ (0x1C ≤ point ∧ point ≤ 0x20) ∨ point = 0x1680 ∨
    (0x2000 ≤ point ∧ point ≤ 0x200A ∧ point ≠ 0x2007) ∨ point = 0x2028 ∨ point = 0x2029 ∨
    point = 0x205F ∨ point = 0x3000)

/-- The name of an element.  No local name is blank or holds a brace. -/
structure XmlName where
  namespaceUri : Text := []
  qualifier : Text := []
  localName : Text
  notBlank : localName.all isJavaWhitespace = false := by decide
  noBrace : '}' ∉ localName := by decide

/-- `getTagName` -/
def XmlName.tagName (name : XmlName) : Text :=
  if name.qualifier = [] then name.localName else name.qualifier ++ ':' :: name.localName

def xmlnsUri : Text := "http://www.w3.org/2000/xmlns/".toList

def declares (nodeName namespaceUri : Text) : Bool :=
  decide (nodeName = "xmlns".toList) || "xmlns:".toList.isPrefixOf nodeName ||
    decide (namespaceUri = xmlnsUri)

inductive XmlAttribute where
  | declaration (qualifier : Text)
  | plain (nodeName namespaceUri : Text) (notReserved : declares nodeName namespaceUri = false)

namespace XmlAttribute

def nodeName : XmlAttribute → Text
  | declaration qualifier =>
    if qualifier = [] then "xmlns".toList else "xmlns:".toList ++ qualifier
  | plain nodeName _ _ => nodeName

def namespaceUri : XmlAttribute → Text
  | declaration _ => xmlnsUri
  | plain _ namespaceUri _ => namespaceUri

def isPlain : XmlAttribute → Bool
  | declaration _ => false
  | plain _ _ _ => true

theorem declares_eq (attr : XmlAttribute) :
    declares attr.nodeName attr.namespaceUri = ! attr.isPlain := by
  cases attr with
  | declaration qualifier => simp [declares, namespaceUri, isPlain]
  | plain name uri notReserved => simp [nodeName, namespaceUri, isPlain, notReserved]

end XmlAttribute

/-- What stands between the tags of an element. -/
inductive XmlContent where
  | nil
  | text (characters : Text) (rest : XmlContent)
  | cdata (characters : Text) (rest : XmlContent)
  | comment (characters : Text) (rest : XmlContent)
  | element (name : XmlName) (attributes : List XmlAttribute) (content : XmlContent)
      (rest : XmlContent)

structure XmlElement where
  name : XmlName
  attributes : List XmlAttribute := []
  content : XmlContent := .nil

/-- `DocumentBuilder.parse` and `ElementTree.fromstring`, with the tree that
each engine walks. -/
structure XmlParsers where
  java : Bytes → Except String XmlElement
  python : Bytes → Option XmlElement

namespace XmlContent

def children : XmlContent → List XmlElement
  | nil => []
  | text _ rest | cdata _ rest | comment _ rest => rest.children
  | element name attributes content rest => ⟨name, attributes, content⟩ :: rest.children

def size : XmlContent → ℕ
  | nil => 0
  | text _ rest | cdata _ rest | comment _ rest => rest.size
  | element _ _ content rest => content.size + 1 + rest.size

theorem sum_children (content : XmlContent) :
    (content.children.map fun child => child.content.size + 1).sum = content.size := by
  induction content with
  | nil => rfl
  | text _ rest ih => exact ih
  | cdata _ rest ih => exact ih
  | comment _ rest ih => exact ih
  | element name attributes content rest _ ih =>
    rw [children, List.map_cons, List.sum_cons, ih, size]

end XmlContent

def elementTree : Branching XmlElement where
  children element := element.content.children
  size element := element.content.size + 1
  smaller element := by
    rw [XmlContent.sum_children]
    exact Nat.lt_succ_self _

def XmlElement.elements (root : XmlElement) : List (XmlElement × ℕ) :=
  visited elementTree [(root, 1)]

def charUnits (character : Char) : List ℕ :=
  let point := character.toNat
  if point < 0x10000 then [point]
  else [0xD800 + (point - 0x10000) / 0x400, 0xDC00 + (point - 0x10000) % 0x400]

def utf16 (text : Text) : List ℕ := text.flatMap charUnits

/-- What `String.trim` takes away. -/
def isTrimmed (character : Char) : Bool := decide (character.toNat ≤ 0x20)

/-- `text.trim().length()` -/
def javaLength (text : Text) : ℕ := (utf16 (Words.trim isTrimmed text)).length

/-- `len(text.strip())` -/
def pythonLength (text : Text) : ℕ := (strip text).length

namespace XmlContent

def javaCharacters : XmlContent → ℕ
  | nil => 0
  | text characters rest => javaLength characters + rest.javaCharacters
  | cdata _ rest | comment _ rest => rest.javaCharacters
  | element _ _ _ rest => rest.javaCharacters

/-- The characters before the first child, `element.text`. -/
def leading : XmlContent → Text
  | text characters rest | cdata characters rest => characters ++ rest.leading
  | comment _ rest => rest.leading
  | nil | element _ _ _ _ => []

/-- The lengths of what follows the children, `child.tail`. -/
def tailCharacters : XmlContent → ℕ
  | nil => 0
  | text _ rest | cdata _ rest | comment _ rest => rest.tailCharacters
  | element _ _ _ rest => pythonLength rest.leading + rest.tailCharacters

def pythonCharacters (content : XmlContent) : ℕ :=
  pythonLength content.leading + content.tailCharacters

end XmlContent

structure XmlReport where
  root : Text
  namespaceUri : Text
  elementCount : ℕ
  attributeCount : ℕ
  textCharacters : ℕ
  maxDepth : ℕ
  topElements : List (Text × ℕ)

structure XmlTally where
  elementCount : ℕ := 0
  attributeCount : ℕ := 0
  textCharacters : ℕ := 0
  maxDepth : ℕ := 0
  counts : List (Text × ℕ) := []

/-- `merge(name, 1, Integer::sum)` -/
def countName (name : Text) : List (Text × ℕ) → List (Text × ℕ)
  | [] => [(name, 1)]
  | (other, count) :: rest =>
    if other = name then (other, count + 1) :: rest else (other, count) :: countName name rest

/-- The comparison of two counted names: the larger count is first, and of one
count the smaller key. -/
def Listed (key : Text → List ℕ) (first second : Text × ℕ) : Prop :=
  second.2 < first.2 ∨ (first.2 = second.2 ∧ key first.1 ≤ key second.1)

instance (key : Text → List ℕ) : DecidableRel (Listed key) := fun _ _ =>
  inferInstanceAs (Decidable (_ ∨ _))

/-- The 20 most frequent names, those of one count in the order of their keys. -/
def topElements (key : Text → List ℕ) (counts : List (Text × ℕ)) : List (Text × ℕ) :=
  (counts.insertionSort (Listed key)).take 20

def javaName (name : XmlName) : Text :=
  if name.localName.all isJavaWhitespace then name.tagName else name.localName

def javaVisit (tally : XmlTally) (entry : XmlElement × ℕ) : Except String XmlTally :=
  if 100000 < tally.elementCount + 1 then .error "XML document has too many elements"
  else if 128 < max tally.maxDepth entry.2 then .error "XML document nesting is too deep"
  else
    .ok
      { elementCount := tally.elementCount + 1
        attributeCount := tally.attributeCount + entry.1.attributes.countP fun attr =>
            ! declares attr.nodeName attr.namespaceUri
        textCharacters := tally.textCharacters + entry.1.content.javaCharacters
        maxDepth := max tally.maxDepth entry.2
        counts := countName (javaName entry.1.name) tally.counts }

def inspectXml (parsers : XmlParsers) (bytes : Bytes) : Except String XmlReport := do
  let root ← parsers.java bytes
  let tally ← walk elementTree javaVisit [(root, 1)] {}
  .ok
    { root := javaName root.name
      namespaceUri := root.name.namespaceUri
      elementCount := tally.elementCount
      attributeCount := tally.attributeCount
      textCharacters := tally.textCharacters
      maxDepth := tally.maxDepth
      topElements := topElements utf16 tally.counts }

def XmlName.tag (name : XmlName) : Text :=
  if name.namespaceUri = [] then name.localName
  else '{' :: name.namespaceUri ++ '}' :: name.localName

def xmlLocalName (tag : Text) : Text :=
  if '}' ∈ tag then tag.rtakeWhile (· ≠ '}') else tag

def tagNamespace (tag : Text) : Text :=
  match tag with
  | '{' :: rest => if '}' ∈ rest then rest.takeWhile (· ≠ '}') else []
  | _ => []

def pythonVisit (tally : XmlTally) (entry : XmlElement × ℕ) : Except String XmlTally :=
  if 100000 < tally.elementCount + 1 then .error "enterprise XML has too many elements"
  else if 128 < entry.2 then .error "enterprise XML nesting is too deep"
  else
    .ok
      { elementCount := tally.elementCount + 1
        attributeCount := tally.attributeCount +
          (entry.1.attributes.filter XmlAttribute.isPlain).length
        textCharacters := tally.textCharacters + entry.1.content.pythonCharacters
        maxDepth := max tally.maxDepth entry.2
        counts := countName (xmlLocalName entry.1.name.tag) tally.counts }

/-- `bytes.upper` -/
def upperBytes (bytes : Bytes) : Bytes :=
  bytes.map fun byte => if 0x61 ≤ byte.val ∧ byte.val ≤ 0x7A then byte - 0x20 else byte

def asciiBytes (text : String) : Bytes := text.toList.map fun character => Fin.ofNat _ character.toNat

/-- `b"<!DOCTYPE" in upper or b"<!ENTITY" in upper` -/
def MarksDtd (bytes : Bytes) : Prop :=
  asciiBytes "<!DOCTYPE" <:+: upperBytes bytes ∨ asciiBytes "<!ENTITY" <:+: upperBytes bytes

instance (bytes : Bytes) : Decidable (MarksDtd bytes) := inferInstanceAs (Decidable (_ ∨ _))

/-- The code points of a text. -/
def points (text : Text) : List ℕ := text.map Char.toNat

def pythonEnterpriseXmlInspect (parsers : XmlParsers) (bytes : Bytes) : Except String XmlReport :=
  if 10 * 1024 * 1024 < bytes.length then .error "enterprise XML exceeds the maximum size"
  else if MarksDtd bytes then .error "enterprise XML DTD/entities are not allowed"
  else
    match parsers.python bytes with
    | none => .error "enterprise XML is invalid"
    | some root => do
      let tally ← walk elementTree pythonVisit [(root, 1)] {}
      .ok
        { root := xmlLocalName root.name.tag
          namespaceUri := tagNamespace root.name.tag
          elementCount := tally.elementCount
          attributeCount := tally.attributeCount
          textCharacters := tally.textCharacters
          maxDepth := tally.maxDepth
          topElements := topElements points tally.counts }

variable (name : XmlName)

theorem javaName_eq : javaName name = name.localName := by
  rw [javaName, name.notBlank]
  rfl

theorem XmlName.ne_brace : ∀ character ∈ name.localName, decide (character ≠ '}') = true := by
  intro character member
  rw [decide_eq_true_eq]
  rintro rfl
  exact name.noBrace member

theorem xmlLocalName_tag : xmlLocalName name.tag = name.localName := by
  unfold xmlLocalName XmlName.tag
  split_ifs with bare brace brace
  · exact List.rtakeWhile_eq_self_iff.mpr name.ne_brace
  · rfl
  · have tag : '{' :: name.namespaceUri ++ '}' :: name.localName =
        ('{' :: name.namespaceUri ++ ['}']) ++ name.localName := by simp
    rw [tag, List.rtakeWhile, List.reverse_append, List.reverse_append,
      List.takeWhile_append_of_pos]
    · simp
    · intro character member
      exact name.ne_brace character (List.mem_reverse.mp member)
  · simp at brace

theorem tagNamespace_tag_iff :
    tagNamespace name.tag = name.namespaceUri ↔ '}' ∉ name.namespaceUri := by
  unfold XmlName.tag
  split_ifs with bare
  · rw [bare]
    refine iff_of_true ?_ List.not_mem_nil
    unfold tagNamespace
    split
    · rename_i rest opened
      rw [if_neg]
      intro brace
      exact name.noBrace (opened ▸ List.mem_cons_of_mem _ brace)
    · rfl
  · have brace : '}' ∈ name.namespaceUri ++ '}' :: name.localName := by simp
    change (if '}' ∈ name.namespaceUri ++ '}' :: name.localName then
      (name.namespaceUri ++ '}' :: name.localName).takeWhile (· ≠ '}') else []) = _ ↔ _
    rw [if_pos brace]
    constructor
    · intro same member
      rw [← same] at member
      simpa using List.mem_takeWhile_imp member
    · intro absent
      rw [List.takeWhile_append_of_pos]
      · simp
      · intro character member
        rw [decide_eq_true_eq]
        rintro rfl
        exact absent member

/-- The names of the elements, with how often each is there. -/
def XmlElement.nameCounts (root : XmlElement) : List (Text × ℕ) :=
  root.elements.foldl (fun counts entry => countName entry.1.name.localName counts) []

/-- What the Java engine accepts the Python engine counts alike, but for the
characters. -/
theorem foldlM_visits {entries : List (XmlElement × ℕ)} {start finish : XmlTally} (characters : ℕ)
    (accepted : entries.foldlM javaVisit start = .ok finish) :
    entries.foldlM pythonVisit { start with textCharacters := characters } = .ok
          { finish with
            textCharacters := characters +
              (entries.map fun entry => entry.1.content.pythonCharacters).sum } ∧
      finish.textCharacters = start.textCharacters +
        (entries.map fun entry => entry.1.content.javaCharacters).sum ∧
      finish.counts = entries.foldl (fun counts entry => countName entry.1.name.localName counts)
        start.counts := by
  induction entries generalizing start characters with
  | nil =>
    cases accepted
    exact ⟨rfl, rfl, rfl⟩
  | cons entry entries ih =>
    rw [List.foldlM_cons] at accepted
    unfold javaVisit at accepted
    split_ifs at accepted with many deep
    · cases accepted
    · cases accepted
    · have shallow : ¬ 128 < entry.2 := by omega
      obtain ⟨python, texts, counts⟩ :=
        ih (characters + entry.1.content.pythonCharacters) accepted
      have attributes : (entry.1.attributes.filter XmlAttribute.isPlain).length =
          entry.1.attributes.countP fun attr => ! declares attr.nodeName attr.namespaceUri := by
        rw [← List.countP_eq_length_filter]
        simp [XmlAttribute.declares_eq]
      refine ⟨?_, ?_, ?_⟩
      · rw [List.foldlM_cons]
        unfold pythonVisit
        rw [if_neg many, if_neg shallow, xmlLocalName_tag, attributes, ← javaName_eq]
        refine python.trans ?_
        rw [List.map_cons, List.sum_cons, Nat.add_assoc]
      · rw [texts, List.map_cons, List.sum_cons, Nat.add_assoc]
      · rw [counts, List.foldl_cons, javaName_eq]

/-! ### Runs of characters -/

/-- The characters of a text node, with those marked that `trim` keeps. -/
def markedText (text : Text) : List (Char × Bool) :=
  (text.takeWhile isTrimmed).map (·, false) ++ ((Words.trim isTrimmed text).map (·, true) ++
    ((text.dropWhile isTrimmed).rtakeWhile isTrimmed).map (·, false))

namespace XmlContent

/-- The characters before the first child, with those marked that the Java
engine keeps: those of text nodes that are not trimmed. -/
def run : XmlContent → List (Char × Bool)
  | text characters rest => markedText characters ++ rest.run
  | cdata characters rest => characters.map (·, false) ++ rest.run
  | comment _ rest => rest.run
  | nil | element _ _ _ _ => []

def laterRuns : XmlContent → List (List (Char × Bool))
  | nil => []
  | text _ rest | cdata _ rest | comment _ rest => rest.laterRuns
  | element _ _ _ rest => rest.run :: rest.laterRuns

/-- The runs of characters between two tags. -/
def runs (content : XmlContent) : List (List (Char × Bool)) := content.run :: content.laterRuns

end XmlContent

def isBlankMark (mark : Char × Bool) : Bool := isSpaceMark mark.1

def isWide (mark : Char × Bool) : Bool := mark.2 && decide (0x10000 ≤ mark.1.toNat)

/-- What the Java engine counts over the Python engine: a second unit for each
character beyond the basic plane, and what only `strip` takes from the ends of
the run. -/
def javaSurplus (run : List (Char × Bool)) : ℕ :=
  run.countP isWide + (Words.trimmedEnds isBlankMark run).countP Prod.snd

/-- What only the Python engine counts: the characters of CDATA sections, and
the blanks at the ends of text nodes, where they are inside the run. -/
def pythonSurplus (run : List (Char × Bool)) : ℕ :=
  (Words.trim isBlankMark run).countP fun mark => ! mark.2

/-- The UTF-16 units of the marked characters. -/
def keptUnits (run : List (Char × Bool)) : ℕ := run.countP Prod.snd + run.countP isWide

theorem length_charUnits (character : Char) :
    (charUnits character).length = 1 + if 0x10000 ≤ character.toNat then 1 else 0 := by
  unfold charUnits
  by_cases wide : 0x10000 ≤ character.toNat
  · rw [if_neg (not_lt.mpr wide), if_pos wide]
    rfl
  · rw [if_pos (not_le.mp wide), if_neg wide]
    rfl

theorem keptUnits_append (front back : List (Char × Bool)) :
    keptUnits (front ++ back) = keptUnits front + keptUnits back := by
  simp only [keptUnits, List.countP_append]
  omega

theorem keptUnits_dropped (text : Text) : keptUnits (text.map (·, false)) = 0 := by
  simp [keptUnits, isWide, List.countP_map, Function.comp_def]

theorem keptUnits_kept (text : Text) : keptUnits (text.map (·, true)) = (utf16 text).length := by
  induction text with
  | nil => rfl
  | cons character text ih =>
    rw [List.map_cons, ← List.singleton_append, keptUnits_append, ih, utf16, utf16,
      List.flatMap_cons, List.length_append, length_charUnits]
    congr 1
    simp [keptUnits, isWide, List.countP_cons]

theorem keptUnits_markedText (text : Text) : keptUnits (markedText text) = javaLength text := by
  rw [markedText, keptUnits_append, keptUnits_append, keptUnits_dropped, keptUnits_dropped,
    keptUnits_kept, Nat.zero_add, Nat.add_zero, javaLength]

theorem markedText_characters (text : Text) : (markedText text).map Prod.fst = text := by
  have whole := @Words.takeWhile_append_trim _ isTrimmed text
  simpa [markedText, List.map_map, Function.comp_def] using whole

/-- The Java engine counts the units of the marked characters. -/
theorem javaCharacters_eq (content : XmlContent) :
    content.javaCharacters = (content.runs.map keptUnits).sum := by
  induction content with
  | nil => rfl
  | text characters rest ih =>
    rw [XmlContent.javaCharacters, ih, XmlContent.runs, XmlContent.runs, XmlContent.run,
      XmlContent.laterRuns, List.map_cons, List.map_cons, List.sum_cons, List.sum_cons,
      keptUnits_append, keptUnits_markedText, Nat.add_assoc]
  | cdata characters rest ih =>
    rw [XmlContent.javaCharacters, ih, XmlContent.runs, XmlContent.runs, XmlContent.run,
      XmlContent.laterRuns, List.map_cons, List.map_cons, List.sum_cons, List.sum_cons,
      keptUnits_append, keptUnits_dropped, Nat.zero_add]
  | comment characters rest ih => exact ih
  | element name attributes content rest _ ih =>
    rw [XmlContent.javaCharacters, ih]
    exact (Nat.zero_add _).symm

theorem run_characters (content : XmlContent) : content.run.map Prod.fst = content.leading := by
  induction content with
  | nil => rfl
  | text characters rest ih =>
    rw [XmlContent.run, List.map_append, markedText_characters, ih, XmlContent.leading]
  | cdata characters rest ih =>
    rw [XmlContent.run, List.map_append, ih, XmlContent.leading, List.map_map]
    exact congrArg (· ++ _) (List.map_id _)
  | comment characters rest ih => exact ih
  | element name attributes content rest _ _ => rfl

/-- The Python engine counts what is left of the runs when they are stripped. -/
theorem pythonCharacters_eq (content : XmlContent) : content.pythonCharacters =
    (content.runs.map fun run => (Words.trim isBlankMark run).length).sum := by
  have stripped (content : XmlContent) :
      pythonLength content.leading = (Words.trim isBlankMark content.run).length := by
    rw [pythonLength, ← run_characters, strip, Words.trim_map, List.length_map]
    rfl
  rw [XmlContent.pythonCharacters, XmlContent.runs, List.map_cons, List.sum_cons, stripped]
  congr 1
  induction content with
  | nil => rfl
  | text characters rest ih => exact ih
  | cdata characters rest ih => exact ih
  | comment characters rest ih => exact ih
  | element name attributes content rest _ ih =>
    rw [XmlContent.tailCharacters, XmlContent.laterRuns, List.map_cons, List.sum_cons, stripped, ih]

/-- Of one run the engines count alike but for what each counts alone. -/
theorem keptUnits_add_pythonSurplus (run : List (Char × Bool)) : keptUnits run + pythonSurplus run =
    (Words.trim isBlankMark run).length + javaSurplus run := by
  have kept := @Words.countP_trim_add _ isBlankMark run Prod.snd
  have split := List.length_eq_countP_add_countP Prod.snd (l := Words.trim isBlankMark run)
  have dropped : ((Words.trim isBlankMark run).countP fun mark => decide ¬mark.2 = true) =
      pythonSurplus run := List.countP_congr fun mark _ => by cases mark.2 <;> simp
  simp only [keptUnits, javaSurplus]
  omega

/-- The runs of characters between two tags, over all elements. -/
def XmlElement.runs (root : XmlElement) : List (List (Char × Bool)) :=
  root.elements.flatMap fun entry => entry.1.content.runs

theorem characters_eq_iff (root : XmlElement) :
    (root.elements.map fun entry => entry.1.content.pythonCharacters).sum =
        (root.elements.map fun entry => entry.1.content.javaCharacters).sum ↔
      (root.runs.map javaSurplus).sum = (root.runs.map pythonSurplus).sum := by
  have java : (root.elements.map fun entry => entry.1.content.javaCharacters).sum =
      (root.runs.map keptUnits).sum := by
    simp only [XmlElement.runs, List.flatMap_def, List.map_flatten, List.sum_flatten, List.map_map,
      Function.comp_def, javaCharacters_eq]
  have python : (root.elements.map fun entry => entry.1.content.pythonCharacters).sum =
      (root.runs.map fun run => (Words.trim isBlankMark run).length).sum := by
    simp only [XmlElement.runs, List.flatMap_def, List.map_flatten, List.sum_flatten, List.map_map,
      Function.comp_def, pythonCharacters_eq]
  have sums : (root.runs.map keptUnits).sum + (root.runs.map pythonSurplus).sum =
      (root.runs.map fun run => (Words.trim isBlankMark run).length).sum +
        (root.runs.map javaSurplus).sum := by
    rw [← List.sum_map_add, ← List.sum_map_add]
    simp only [keptUnits_add_pythonSurplus]
  omega

/-! ### Orders of names -/

theorem charUnits_cancel {first second : Char} {rest rest' : List ℕ}
    (same : charUnits first ++ rest = charUnits second ++ rest') :
    first = second ∧ rest = rest' := by
  -- No character is a surrogate, with which the units of a wide one begin.
  have scalar (character : Char) : character.toNat < 0xD800 ∨
      (0xDFFF < character.toNat ∧ character.toNat < 0x110000) := character.valid
  have valid := scalar first
  have valid' := scalar second
  suffices first.toNat = second.toNat ∧ rest = rest' from ⟨Char.toNat_inj.mp this.1, this.2⟩
  unfold charUnits at same
  simp only at same
  split_ifs at same with narrow narrow' narrow'
  · exact List.cons.inj same
  · have head := (List.cons.inj same).1
    omega
  · have head := (List.cons.inj same).1
    omega
  · obtain ⟨high, later⟩ := List.cons.inj same
    obtain ⟨low, rests⟩ := List.cons.inj later
    exact ⟨by omega, rests⟩

theorem charUnits_ne_nil (character : Char) : charUnits character ≠ [] := by
  unfold charUnits
  simp only
  split_ifs <;> exact List.cons_ne_nil _ _

theorem utf16_injective : Function.Injective utf16 := by
  intro first second same
  induction first generalizing second with
  | nil =>
    cases second with
    | nil => rfl
    | cons other second => exact absurd same.symm (by simp [utf16, charUnits_ne_nil])
  | cons character first ih =>
    cases second with
    | nil => exact absurd same (by simp [utf16, charUnits_ne_nil])
    | cons other second =>
      obtain ⟨rfl, rests⟩ := charUnits_cancel same
      rw [ih rests]

theorem points_injective : Function.Injective points :=
  List.map_injective_iff.mpr fun _ _ => Char.toNat_inj.mp

section Orders

variable (key : Text → List ℕ)

/-- The count is larger, or the same and the key is smaller. -/
def Outranks (first second : Text × ℕ) : Prop :=
  second.2 < first.2 ∨ (first.2 = second.2 ∧ key first.1 < key second.1)

instance : DecidableRel (Outranks key) := fun _ _ => inferInstanceAs (Decidable (_ ∨ _))

instance : Std.Total (Listed key) where
  total first second := by
    rcases lt_trichotomy first.2 second.2 with less | same | more
    · exact .inr (.inl less)
    · exact (le_total (key first.1) (key second.1)).imp (fun le => .inr ⟨same, le⟩)
        fun le => .inr ⟨same.symm, le⟩
    · exact .inl (.inl more)

instance : IsTrans (Text × ℕ) (Listed key) where
  trans first second third before after := by
    rcases before with more | ⟨same, le⟩ <;> rcases after with more' | ⟨same', le'⟩
    · exact .inl (more'.trans more)
    · exact .inl (same' ▸ more)
    · exact .inl (same ▸ more')
    · exact .inr ⟨same.trans same', le.trans le'⟩

variable {key}

theorem Outranks.asymm {first second : Text × ℕ} (before : Outranks key first second) :
    ¬ Outranks key second first := by
  rintro (more' | ⟨same', below'⟩) <;> rcases before with more | ⟨same, below⟩
  · exact lt_asymm more more'
  · exact (ne_of_lt more') same
  · exact (ne_of_lt more) same'
  · exact lt_asymm below below'

theorem sorted_outranks (injective : Function.Injective key) {counts : List (Text × ℕ)}
    (distinct : (counts.map Prod.fst).Nodup) :
    (counts.insertionSort (Listed key)).Pairwise (Outranks key) := by
  have names : (counts.insertionSort (Listed key)).Pairwise fun one other => one.1 ≠ other.1 := by
    have sorted := ((List.perm_insertionSort (Listed key) counts).map Prod.fst).nodup_iff.mpr distinct
    exact List.pairwise_map.mp sorted
  refine ((List.pairwise_insertionSort (Listed key) counts).and names).imp ?_
  rintro one other ⟨more | ⟨same, le⟩, different⟩
  · exact .inl more
  · exact .inr ⟨same, lt_of_le_of_ne le (injective.ne different)⟩

end Orders

theorem map_fst_countName (name : Text) (counts : List (Text × ℕ)) :
    (countName name counts).map Prod.fst =
      if name ∈ counts.map Prod.fst then counts.map Prod.fst
      else counts.map Prod.fst ++ [name] := by
  induction counts with
  | nil => rfl
  | cons entry counts ih =>
    obtain ⟨other, count⟩ := entry
    by_cases same : other = name
    · simp [countName, same]
    · have different : name ≠ other := Ne.symm same
      rw [countName, if_neg same, List.map_cons, ih, List.map_cons (f := Prod.fst) (l := counts)]
      by_cases known : name ∈ counts.map Prod.fst
      · rw [if_pos known, if_pos (List.mem_cons_of_mem _ known)]
      · rw [if_neg known, if_neg (List.not_mem_cons_of_ne_of_not_mem different known)]
        rfl

theorem nodup_nameCounts (root : XmlElement) : (root.nameCounts.map Prod.fst).Nodup := by
  suffices ∀ (entries : List (XmlElement × ℕ)) (counts : List (Text × ℕ)),
      (counts.map Prod.fst).Nodup →
      ((entries.foldl (fun counts entry => countName entry.1.name.localName counts) counts).map
        Prod.fst).Nodup from this _ _ List.nodup_nil
  intro entries
  induction entries with
  | nil => exact fun _ distinct => distinct
  | cons entry entries ih =>
    intro counts distinct
    refine ih _ ?_
    rw [map_fst_countName]
    split_ifs with known
    · exact distinct
    · exact List.nodup_append.mpr ⟨distinct, List.nodup_singleton _, by
        rintro one oneMem other otherMem rfl
        exact known (List.mem_singleton.mp otherMem ▸ oneMem)⟩

/-- No two names of one count that come in another order by code points than
by UTF-16 units are among the names reported. -/
def NamesAgree (counts : List (Text × ℕ)) : Prop :=
  ∀ one ∈ counts, ∀ other ∈ counts, one.2 = other.2 → utf16 one.1 < utf16 other.1 →
    points other.1 < points one.1 → 20 ≤ counts.countP fun entry => Outranks utf16 entry one

theorem topElements_eq_iff {counts : List (Text × ℕ)} (distinct : (counts.map Prod.fst).Nodup) :
    topElements points counts = topElements utf16 counts ↔ NamesAgree counts := by
  have unitsPerm := List.perm_insertionSort (Listed utf16) counts
  have unitsSorted := sorted_outranks utf16_injective distinct
  have front {one : Text × ℕ} (oneMem : one ∈ counts) :
      one ∈ (counts.insertionSort (Listed utf16)).take 20 ↔
        (counts.countP fun entry => decide (Outranks utf16 entry one)) < 20 := by
    rw [← unitsPerm.countP_eq]
    exact StableRanking.mem_take_iff unitsSorted (fun _ _ => Outranks.asymm)
      (unitsPerm.symm.subset oneMem)
  rw [eq_comm, topElements, topElements, StableRanking.take_eq_take_iff
    (unitsPerm.trans (List.perm_insertionSort (Listed points) counts).symm)
    (unitsPerm.nodup_iff.mpr distinct.of_map) unitsSorted
    (sorted_outranks points_injective distinct)
    (fun _ _ => Outranks.asymm) fun _ _ => Outranks.asymm]
  constructor
  · intro agree one oneMem other otherMem tied units below
    by_contra few
    rcases agree one ((front oneMem).mpr (not_le.mp few)) other (unitsPerm.symm.subset otherMem)
      (.inr ⟨tied, units⟩) with more | ⟨-, above⟩
    · exact (ne_of_lt more) tied.symm
    · exact lt_asymm above below
  · rintro agree one oneMem other otherMem (more | ⟨tied, units⟩)
    · exact .inl more
    · refine .inr ⟨tied, lt_of_not_ge fun le => ?_⟩
      have member := unitsPerm.subset (List.mem_of_mem_take oneMem)
      have different : points other.1 ≠ points one.1 := points_injective.ne fun same =>
        (ne_of_lt units) (same ▸ rfl)
      have many := agree one member other (unitsPerm.subset otherMem) tied units
        (lt_of_le_of_ne le different)
      exact absurd ((front member).mp oneMem) (not_lt.mpr many)

/-- The document is small and mentions no document type, and the namespace of
its root holds no closing brace.  Over the runs of characters between two tags
the Java engine counts as much alone as the Python engine does, and the names
that the orders of strings put apart are not reported. -/
structure ReadAlike (bytes : Bytes) (root : XmlElement) : Prop where
  size : bytes.length ≤ 10 * 1024 * 1024
  unmarked : ¬ MarksDtd bytes
  braces : '}' ∉ root.name.namespaceUri
  characters : (root.runs.map javaSurplus).sum = (root.runs.map pythonSurplus).sum
  names : NamesAgree root.nameCounts

section Inspections

variable {parsers : XmlParsers} {bytes : Bytes} {root : XmlElement} {report : XmlReport}

/-- On a document that the Java engine accepts, and of which both parsers make
one tree, the Python engine gives the same report if and only if the document
is read alike. -/
theorem inspections_agree_iff (javaTree : parsers.java bytes = .ok root)
    (pythonTree : parsers.python bytes = some root)
    (accepted : inspectXml parsers bytes = .ok report) :
    pythonEnterpriseXmlInspect parsers bytes = .ok report ↔ ReadAlike bytes root := by
  unfold inspectXml at accepted
  rw [javaTree] at accepted
  change (walk elementTree javaVisit [(root, 1)] {} >>= _) = _ at accepted
  rw [walk_eq_foldlM] at accepted
  cases walked : (visited elementTree [(root, 1)]).foldlM javaVisit {} with
  | error error =>
    rw [walked] at accepted
    cases accepted
  | ok tally =>
    rw [walked] at accepted
    obtain rfl := Except.ok.inj accepted
    obtain ⟨python, texts, counts⟩ := foldlM_visits 0 walked
    unfold pythonEnterpriseXmlInspect
    simp only [pythonTree]
    have start : ({} : XmlTally) = { ({} : XmlTally) with textCharacters := 0 } := rfl
    rw [walk_eq_foldlM, start, python]
    have named : tally.counts = root.nameCounts := counts
    have counted : tally.textCharacters =
        (root.elements.map fun entry => entry.1.content.javaCharacters).sum := by
      rw [texts]
      exact Nat.zero_add _
    by_cases large : 10 * 1024 * 1024 < bytes.length
    · rw [if_pos large]
      exact iff_of_false (fun agrees => nomatch agrees) fun alike =>
        absurd alike.size (not_le.mpr large)
    · rw [if_neg large]
      by_cases marked : MarksDtd bytes
      · rw [if_pos marked]
        exact iff_of_false (fun agrees => nomatch agrees) fun alike => alike.unmarked marked
      · rw [if_neg marked]
        change Except.ok _ = Except.ok _ ↔ _
        rw [Except.ok.injEq, XmlReport.mk.injEq, xmlLocalName_tag, javaName_eq,
          tagNamespace_tag_iff, Nat.zero_add, counted, named,
          topElements_eq_iff (nodup_nameCounts root)]
        constructor
        · rintro ⟨-, braces, -, -, characters, -, names⟩
          exact ⟨not_lt.mp large, marked, braces, (characters_eq_iff root).mp characters, names⟩
        · intro alike
          exact ⟨rfl, alike.braces, rfl, rfl, (characters_eq_iff root).mpr alike.characters, rfl,
            alike.names⟩

end Inspections

/-- An element `a` with a content. -/
def sample (content : XmlContent) : XmlElement where
  name := { localName := ['a'] }
  content := content

/-- Parsers that know one document. -/
def sampleParsers (source : String) (content : XmlContent) : XmlParsers where
  java bytes := if bytes = asciiBytes source then .ok (sample content) else .error "XML error"
  python bytes := if bytes = asciiBytes source then some (sample content) else none

section Sample

variable (source : String) (content : XmlContent)

theorem sampleParsers_java :
    (sampleParsers source content).java (asciiBytes source) = .ok (sample content) :=
  if_pos rfl

theorem sampleParsers_python :
    (sampleParsers source content).python (asciiBytes source) = some (sample content) :=
  if_pos rfl

end Sample

theorem visited_leaf {element : XmlElement} (leaf : element.content.children = []) :
    visited elementTree [(element, 1)] = [(element, 1)] := by
  rw [visited]
  simp [below, elementTree, leaf, visited]

/-- Characters around a comment. -/
theorem inspections_agree_iff_comment :
    pythonEnterpriseXmlInspect (sampleParsers "<a>x<!-- y -->z</a>"
        (.text ['x'] (.comment " y ".toList (.text ['z'] .nil))))
      (asciiBytes "<a>x<!-- y -->z</a>") = .ok
        { root := ['a']
          namespaceUri := []
          elementCount := 1
          attributeCount := 0
          textCharacters := 2
          maxDepth := 1
          topElements := [(['a'], 1)] } := by
  refine (inspections_agree_iff (sampleParsers_java _ _) (sampleParsers_python _ _) ?_).mpr
    ⟨by decide, by decide +kernel, by decide, ?_, ?_⟩
  · unfold inspectXml
    rw [sampleParsers_java]
    change (walk elementTree javaVisit [(sample _, 1)] {} >>= _) = _
    rw [walk_eq_foldlM, visited_leaf rfl]
    rfl
  · rw [XmlElement.runs, XmlElement.elements, visited_leaf rfl]
    decide
  · rw [XmlElement.nameCounts, XmlElement.elements, visited_leaf rfl]
    simp [NamesAgree, countName, sample]

/-- Both parsers make one tree of the bytes, on which the reports differ. -/
def Differs (source : String) (content : XmlContent) : Prop :=
  ∃ report, inspectXml (sampleParsers source content) (asciiBytes source) = .ok report ∧
    pythonEnterpriseXmlInspect (sampleParsers source content) (asciiBytes source) ≠ .ok report

/-- The reports on a document without children differ where its characters are
counted differently or its bytes mention a document type. -/
theorem differs_of_leaf {source : String} {content : XmlContent} (leaf : content.children = [])
    (differs : MarksDtd (asciiBytes source) ∨
      content.pythonCharacters ≠ content.javaCharacters) : Differs source content := by
  unfold Differs inspectXml pythonEnterpriseXmlInspect
  simp only [sampleParsers_java, sampleParsers_python]
  change ∃ report, (walk elementTree javaVisit [(sample content, 1)] {} >>= _) = _ ∧ _
  rw [walk_eq_foldlM, walk_eq_foldlM, visited_leaf leaf]
  refine ⟨_, rfl, fun agrees => ?_⟩
  split_ifs at agrees with large marked
  have texts := congrArg XmlReport.textCharacters (Except.ok.inj agrees)
  rcases differs with mentions | counts
  · exact marked mentions
  · change 0 + _ = 0 + _ at texts
    rw [Nat.zero_add, Nat.zero_add] at texts
    exact counts texts

/-- A CDATA section counts for the Python engine only, a character beyond the
basic plane counts twice for the Java engine, and a comment on document types
makes the Python engine refuse. -/
theorem inspections_differ :
    Differs "<a><![CDATA[x]]></a>" (.cdata ['x'] .nil) ∧
      Differs "<a>&#x1F600;</a>" (.text [Char.ofNat 0x1F600] .nil) ∧
      Differs "<a><!--<!doctype--></a>" (.comment "<!doctype".toList .nil) := by
  refine ⟨differs_of_leaf rfl (.inr ?_), differs_of_leaf rfl (.inr ?_),
    differs_of_leaf rfl (.inl ?_)⟩
  · decide
  · decide
  · decide +kernel

end Ithute.XmlInspection
