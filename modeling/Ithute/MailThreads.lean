import Ithute.PythonTexts

/-!
# Conversation threads

`thread_key` names the conversation of a message by the first message that its
headers refer to, or by its own subject.  A message that begins a conversation
refers to none.
-/

namespace Ithute

open Texts

namespace MailThreads

/-- The entries of a row that the key depends on; a missing one is empty. -/
structure Row where
  references : Text
  inReplyTo : Text
  messageId : Text
  subject : Text
  uid : Text

/-- What follows a mark of a reply, in any case, with a colon and blanks. -/
def afterMark (mark text : Text) : Option Text :=
  if (text.take mark.length).map Char.toLower = mark then
    match (text.drop mark.length).dropWhile isSpaceMark with
    | ':' :: rest => some (rest.dropWhile isSpaceMark)
    | _ => none
  else none

def dropMark (text : Text) : Option Text :=
  afterMark ['r', 'e'] text <|> afterMark ['f', 'w'] text <|> afterMark ['f', 'w', 'd'] text

/-- The marks at the beginning of a text of at most the given length. -/
def dropMarks : ℕ → Text → Text
  | 0, text => text
  | fuel + 1, text =>
    match dropMark text with
    | some rest => dropMarks fuel rest
    | none => text

/-- The text without `_REPLY_PREFIX_RE`. -/
def withoutReplyMarks (text : Text) : Text :=
  match dropMark (text.dropWhile isSpaceMark) with
  | some rest => dropMarks rest.length rest
  | none => text

section Keys

variable (lower : Text → Text)

/-- `lower` is `str.lower`. -/
def normalizedSubject (subject : Text) : Text :=
  let value := lower (strip (withoutReplyMarks (strip subject)))
  (List.intercalate [' '] (splitBlanks value)).take 500

/-- `_MESSAGE_ID_RE` at the beginning of a text. -/
def matchMessageId : Text → Option Text
  | '<' :: rest =>
    let inner := rest.takeWhile (· ≠ '>')
    if inner ≠ [] ∧ inner.length < rest.length then some ('<' :: inner ++ ['>']) else none
  | _ => none

/-- The first match of `_MESSAGE_ID_RE`. -/
def findMessageId : Text → Option Text
  | [] => none
  | first :: rest => matchMessageId (first :: rest) <|> findMessageId rest

/-- A message id of a header: text without a closing bracket in brackets. -/
def IsMessageId (text : Text) : Prop :=
  ∃ inner, inner ≠ [] ∧ '>' ∉ inner ∧ text = '<' :: inner ++ ['>']

theorem findMessageId_append {id : Text} (isId : IsMessageId id) (rest : Text) :
    findMessageId (id ++ rest) = some id := by
  obtain ⟨inner, nonempty, closed, rfl⟩ := isId
  have taken : (inner ++ '>' :: rest).takeWhile (· ≠ '>') = inner := by
    rw [List.takeWhile_append_of_pos, List.takeWhile_cons_of_neg (by simp), List.append_nil]
    intro character member
    exact decide_eq_true fun same => closed (same ▸ member)
  have here : matchMessageId ('<' :: (inner ++ '>' :: rest)) = some ('<' :: inner ++ ['>']) := by
    simp only [matchMessageId, taken]
    rw [if_pos ⟨nonempty, by simp⟩]
  simp only [List.cons_append, List.append_assoc, List.nil_append] at here ⊢
  rw [findMessageId, here]
  rfl

def refMark : Text := ['r', 'e', 'f', ':']

def threadKey (row : Row) : Text :=
  match findMessageId row.references with
  | some id => refMark ++ lower id
  | none =>
    match findMessageId (strip row.inReplyTo) with
    | some id => refMark ++ lower id
    | none =>
      let subject := normalizedSubject lower row.subject
      if subject ≠ [] then ['s', 'u', 'b', 'j', 'e', 'c', 't', ':'] ++ subject
      else if strip row.messageId ≠ [] then ['i', 'd', ':'] ++ lower (strip row.messageId)
      else ['u', 'i', 'd', ':'] ++ row.uid

theorem threadKey_of_no_references {row : Row} (references : row.references = [])
    (inReplyTo : row.inReplyTo = []) (text : Text) : threadKey lower row ≠ refMark ++ text := by
  unfold threadKey
  rw [references, inReplyTo]
  simp only [findMessageId, show strip [] = [] from rfl, refMark]
  split_ifs <;> simp

/-- The messages of a conversation in an order in which they were written:
every reply refers to what its parent refers to and to its parent. -/
inductive ReplyTree (root : Row) : List Row → Prop where
  | root (isId : IsMessageId root.messageId) (references : root.references = [])
      (inReplyTo : root.inReplyTo = []) : ReplyTree root [root]
  | reply {rows : List Row} {parent row : Row} (tree : ReplyTree root rows)
      (member : parent ∈ rows) (isId : IsMessageId row.messageId)
      (references : row.references = if parent.references = [] then parent.messageId
        else parent.references ++ ' ' :: parent.messageId)
      (inReplyTo : row.inReplyTo = parent.messageId) : ReplyTree root (rows ++ [row])

namespace ReplyTree

variable {root row : Row} {rows : List Row}

theorem begins (tree : ReplyTree root rows) :
    IsMessageId root.messageId ∧ root.references = [] ∧ root.inReplyTo = [] := by
  induction tree with
  | root isId references inReplyTo => exact ⟨isId, references, inReplyTo⟩
  | reply _ _ _ _ _ ih => exact ih

theorem references_cases (tree : ReplyTree root rows) : ∀ row ∈ rows,
    row = root ∨ ∃ rest, row.references = root.messageId ++ rest := by
  induction tree with
  | root =>
    intro row member
    exact .inl (List.mem_singleton.mp member)
  | @reply rows parent row tree parentMem isId references _ ih =>
    obtain ⟨rootId, rootReferences, _⟩ := tree.begins
    intro other member
    rcases List.mem_append.mp member with member | member
    · exact ih other member
    · rw [List.mem_singleton.mp member, references]
      rcases ih parent parentMem with rfl | ⟨rest, refers⟩
      · exact .inr ⟨[], by rw [if_pos rootReferences, List.append_nil]⟩
      · have refersTo : parent.references ≠ [] := by
          obtain ⟨inner, _, _, is⟩ := rootId
          rw [refers, is]
          simp
        refine .inr ⟨rest ++ ' ' :: parent.messageId, ?_⟩
        rw [if_neg refersTo, refers, List.append_assoc]

theorem threadKey_reply (tree : ReplyTree root rows) (member : row ∈ rows) (reply : row ≠ root) :
    threadKey lower row = refMark ++ lower root.messageId := by
  rcases tree.references_cases row member with same | ⟨rest, refers⟩
  · exact absurd same reply
  · rw [threadKey, refers, findMessageId_append tree.begins.1]

theorem threadKey_root (tree : ReplyTree root rows) (text : Text) :
    threadKey lower root ≠ refMark ++ text :=
  threadKey_of_no_references lower tree.begins.2.1 tree.begins.2.2 text

theorem isMessageId (tree : ReplyTree root rows) : ∀ row ∈ rows, IsMessageId row.messageId := by
  induction tree with
  | root isId =>
    intro row member
    rwa [List.mem_singleton.mp member]
  | reply tree _ isId _ _ ih =>
    intro other member
    rcases List.mem_append.mp member with member | member
    · exact ih other member
    · rwa [List.mem_singleton.mp member]

theorem reply_ne_root (tree : ReplyTree root rows) (refers : row.inReplyTo ≠ []) : row ≠ root := by
  rintro rfl
  exact refers tree.begins.2.2

/-- The messages of a conversation share a key exactly where there is no reply
in it. -/
theorem threadKey_coherent_iff (tree : ReplyTree root rows) :
    (∀ row ∈ rows, threadKey lower row = threadKey lower root) ↔ rows = [root] := by
  constructor
  · intro coherent
    cases tree with
    | root => rfl
    | @reply rows parent row tree parentMem isId references inReplyTo =>
      have whole := ReplyTree.reply tree parentMem isId references inReplyTo
      have member : row ∈ rows ++ [row] := List.mem_append_right _ (List.mem_singleton_self row)
      have refers : row.inReplyTo ≠ [] := by
        obtain ⟨inner, _, _, is⟩ := tree.isMessageId parent parentMem
        rw [inReplyTo, is]
        simp
      have key := whole.threadKey_reply lower member (whole.reply_ne_root refers)
      rw [coherent row member] at key
      exact absurd key (whole.threadKey_root lower _)
  · rintro rfl row member
    rw [List.mem_singleton.mp member]

end ReplyTree

def question : Row where
  references := []
  inReplyTo := []
  messageId := ['<', 'a', '>']
  subject := ['H', 'i']
  uid := ['1']

def reply : Row where
  references := ['<', 'a', '>']
  inReplyTo := ['<', 'a', '>']
  messageId := ['<', 'b', '>']
  subject := ['R', 'e', ':', ' ', 'H', 'i']
  uid := ['2']

theorem question_reply : ReplyTree question [question, reply] :=
  .reply (.root ⟨['a'], by decide, by decide, rfl⟩ rfl rfl) (List.mem_singleton_self question)
    ⟨['b'], by decide, by decide, rfl⟩ rfl rfl

theorem threadKey_coherent_question :
    (∀ row ∈ [question, reply], threadKey id row = threadKey id question) ↔
      [question, reply] = [question] :=
  question_reply.threadKey_coherent_iff id

/-- A question and its reply get different keys. -/
theorem question_reply_apart : ¬ ∀ (lower : Text → Text) (root : Row) (rows : List Row),
    ReplyTree root rows → ∀ row ∈ rows, threadKey lower row = threadKey lower root := by
  intro coherent
  have same := coherent id question [question, reply] question_reply reply (by simp)
  exact absurd same (by decide)

end Keys

end MailThreads

end Ithute
