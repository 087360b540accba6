/-
Module: SchemaProjection.Proofs.CommentedText
Purpose: What descriptions do to the text of interfaces. A description is written into a comment as
  it is, so the comment ends where the description first ends one. Removing the comments from a text
  takes its descriptions out without a trace exactly when nothing of any description is left outside
  of comments, as when none of them ends a comment itself.
Imports: SchemaProjection.Proofs.InterfaceText, SchemaProjection.Proofs.Outcomes
Main exports: withoutComments, stripped_closing_append, EndsComment, BeginsComment,
  Interface.words, Interface.bare, Interface.comment, Interface.endAlike_renderAll,
  Interface.inert_iff_nothing_left
-/
import SchemaProjection.Proofs.InterfaceText
import SchemaProjection.Proofs.Outcomes

namespace SchemaProjection

/-!
### Removing comments
-/

/-- What follows the comment that a text begins inside of, if the comment ends. -/
def afterComment? : List Char → Option (List Char)
  | [] => none
  | char :: rest =>
      if char = '*' ∧ rest.head? = some '/' then some rest.tail else afterComment? rest

/-- A text without the line break that it begins with, if it begins with one. -/
def dropLineBreak : List Char → List Char
  | [] => []
  | char :: rest => if char = '\n' then rest else char :: rest

/-- What follows a comment is at the end of the text that begins inside of it. -/
theorem suffix_of_afterComment? {text later : List Char}
    (ended : afterComment? text = some later) : later <:+ text := by
  induction text with
  | nil => cases ended
  | cons char rest ih =>
      rw [afterComment?] at ended
      split at ended
      · cases ended
        exact (List.tail_suffix rest).trans (List.suffix_cons char rest)
      · exact (ih ended).trans (List.suffix_cons char rest)

/-- Dropping a line break leaves the end of a text. -/
theorem dropLineBreak_suffix (text : List Char) : dropLineBreak text <:+ text := by
  cases text with
  | nil => exact List.suffix_refl []
  | cons char rest =>
      rw [dropLineBreak]
      split
      · exact List.suffix_cons char rest
      · exact List.suffix_refl _

/-- The characters of a text without its comments. A comment goes from where it begins to where it
    first ends, together with the line break after it; one that does not end is none. -/
def stripped : List Char → List Char
  | [] => []
  | char :: rest =>
      if char = '/' ∧ rest.head? = some '*' then
        match _ended : afterComment? rest.tail with
        | some later => stripped (dropLineBreak later)
        | none => char :: rest
      else char :: stripped rest
termination_by text => text.length
decreasing_by
  · have remains := (dropLineBreak_suffix later).trans (suffix_of_afterComment? _ended)
    have shorter := (remains.trans (List.tail_suffix rest)).length_le
    exact Nat.lt_succ_of_le shorter
  · exact Nat.lt_succ_self _

/-- A text without its comments. -/
def withoutComments (text : String) : String := String.ofList (stripped text.toList)

@[simp] theorem stripped_nil : stripped [] = [] := by rw [stripped]

theorem withoutComments_empty : withoutComments "" = "" := by
  rw [withoutComments, String.toList_empty, stripped_nil, String.ofList_nil]

/-- A comment that ends is removed. -/
theorem stripped_comment {rest later : List Char} (ended : afterComment? rest = some later) :
    stripped ('/' :: '*' :: rest) = stripped (dropLineBreak later) := by
  rw [stripped, if_pos ⟨rfl, rfl⟩]
  split
  · next found again =>
      cases ended.symm.trans again
      rfl
  · next again => cases ended.symm.trans again

/-- A character that begins no comment is kept. -/
theorem stripped_cons {char : Char} {rest : List Char}
    (plain : ¬(char = '/' ∧ rest.head? = some '*')) :
    stripped (char :: rest) = char :: stripped rest := by
  rw [stripped, if_neg plain]

/-- A text without slashes is kept. -/
theorem stripped_append_of_not_mem {text : List Char} (noSlash : '/' ∉ text) (rest : List Char) :
    stripped (text ++ rest) = text ++ stripped rest := by
  induction text with
  | nil => rfl
  | cons char text ih =>
      have isOther : char ≠ '/' := fun same => noSlash (same ▸ List.mem_cons_self)
      have later := ih fun mem => noSlash (List.mem_cons_of_mem char mem)
      rw [List.cons_append, stripped_cons fun begins => isOther begins.1, later]
      rfl

/-!
### The end of a comment
-/

/-- The end of a comment on a line, with the line break. -/
def closing : List Char := [' ', '*', '/', '\n']

/-- A text that goes on to the end of a comment begins with what it begins with itself, or with a
    blank. -/
theorem head?_of_append_closing {text rest : List Char} {char : Char} (visible : char ≠ ' ')
    (begins : (text ++ (closing ++ rest)).head? = some char) : text.head? = some char := by
  cases text with
  | nil => exact absurd (Option.some.inj begins).symm visible
  | cons first text => exact begins

/-- A comment that ends within a text does so whatever follows. -/
theorem afterComment?_append {text later : List Char} (ended : afterComment? text = some later)
    (rest : List Char) : afterComment? (text ++ rest) = some (later ++ rest) := by
  induction text with
  | nil => cases ended
  | cons char text ih =>
      cases text with
      | nil => simp [afterComment?] at ended
      | cons next text =>
          rw [afterComment?] at ended
          rw [List.cons_append, afterComment?]
          split at ended
          · next ends =>
              cases ended
              exact if_pos ends
          · next goesOn =>
              have same : (next :: text ++ rest).head? = (next :: text).head? := rfl
              rw [same, if_neg goesOn]
              exact ih ended

/-- A comment that does not end within a text ends with the end of a comment after it. -/
theorem afterComment?_append_closing {text : List Char} (goesOn : afterComment? text = none)
    (rest : List Char) : afterComment? (text ++ (closing ++ rest)) = some ('\n' :: rest) := by
  induction text with
  | nil => simp [afterComment?, closing]
  | cons char text ih =>
      rw [afterComment?] at goesOn
      split at goesOn
      · cases goesOn
      · next noEnd =>
          rw [List.cons_append, afterComment?, if_neg, ih goesOn]
          intro ends
          exact noEnd ⟨ends.1, head?_of_append_closing (by decide) ends.2⟩

/-- A line break at the beginning of a text is dropped whatever end of a comment follows. -/
theorem dropLineBreak_append_closing (text rest : List Char) :
    dropLineBreak (text ++ (closing ++ rest)) = dropLineBreak text ++ (closing ++ rest) := by
  cases text with
  | nil => rfl
  | cons char text =>
      rw [List.cons_append, dropLineBreak, dropLineBreak]
      split <;> rfl

/-- A comment that ends before the end of another one. -/
theorem stripped_comment_append {text later : List Char}
    (ended : afterComment? text = some later) (rest : List Char) :
    stripped ('/' :: '*' :: (text ++ (closing ++ rest))) =
      stripped (dropLineBreak later ++ (closing ++ rest)) := by
  rw [stripped_comment (afterComment?_append ended _), dropLineBreak_append_closing]

/-- A comment that the next end of one ends, line break and all. -/
theorem stripped_comment_closing {text : List Char} (goesOn : afterComment? text = none)
    (rest : List Char) : stripped ('/' :: '*' :: (text ++ (closing ++ rest))) = stripped rest := by
  rw [stripped_comment (afterComment?_append_closing goesOn rest)]
  rfl

/-- The end of a comment that nothing began is kept. -/
theorem stripped_closing (rest : List Char) :
    stripped (closing ++ rest) = closing ++ stripped rest := by
  simp [closing, stripped_cons]

/-- After the end of a comment nothing matters that stood before it: whatever was begun there has
    ended. -/
theorem stripped_closing_append (text rest : List Char) :
    stripped (text ++ (closing ++ rest)) = stripped (text ++ closing) ++ stripped rest := by
  change _ = stripped (text ++ (closing ++ [])) ++ stripped rest
  -- a comment that ends in the text, one that goes on to the closing, a character that stays
  induction text using stripped.induct with
  | case1 =>
      rw [List.nil_append, List.nil_append, stripped_closing, stripped_closing, stripped_nil,
        List.append_nil]
  | case2 char text begins later ended ih =>
      obtain ⟨rfl, star⟩ := begins
      obtain ⟨text, rfl⟩ := List.head?_eq_some_iff.1 star
      have upToEnd := stripped_comment_append ended
      exact (upToEnd rest).trans (ih.trans (congrArg (· ++ stripped rest) (upToEnd []).symm))
  | case3 char text begins goesOn =>
      obtain ⟨rfl, star⟩ := begins
      obtain ⟨text, rfl⟩ := List.head?_eq_some_iff.1 star
      have whole := stripped_comment_closing goesOn
      have nothing : stripped ('/' :: '*' :: (text ++ (closing ++ []))) = [] :=
        (whole []).trans stripped_nil
      exact (whole rest).trans (congrArg (· ++ stripped rest) nothing.symm)
  | case4 char text plain ih =>
      have kept : ∀ more, stripped (char :: (text ++ (closing ++ more))) =
          char :: stripped (text ++ (closing ++ more)) := by
        intro more
        apply stripped_cons
        intro begins
        exact plain ⟨begins.1, head?_of_append_closing (by decide) begins.2⟩
      rw [List.cons_append, List.cons_append, kept, kept, ih]
      rfl

/-!
### What is left of a comment
-/

/-- The comment that a text is written into, with the line break after it. -/
def commentOf (text : String) : String := "/** " ++ text ++ " */\n"

/-- A text ends a comment that it is written into. -/
def EndsComment (text : String) : Prop := ['*', '/'] <:+: text.toList

/-- A text begins a comment. -/
def BeginsComment (text : String) : Prop := ['/', '*'] <:+: text.toList

theorem toList_commentOf (text : String) :
    (commentOf text).toList = '/' :: '*' :: ('*' :: ' ' :: text.toList ++ closing) := by
  simp [commentOf, closing]

/-- A comment goes on to the end of exactly those texts that do not end it. -/
theorem afterComment?_eq_none_iff {text : List Char} :
    afterComment? text = none ↔ ¬['*', '/'] <:+: text := by
  induction text with
  | nil => simp [afterComment?]
  | cons char text ih =>
      have starts : ['*', '/'] <+: char :: text ↔ char = '*' ∧ text.head? = some '/' := by
        cases text with
        | nil => simp
        | cons next text => simp [List.cons_prefix_cons, eq_comm]
      rw [afterComment?, List.infix_cons_iff, starts]
      split
      · next ends => simp [ends]
      · next noEnd => simp [ih, noEnd]

/-- What is written after the beginning of a comment ends it exactly when the text does. -/
theorem infix_opened_iff {text : List Char} :
    ['*', '/'] <:+: '*' :: ' ' :: text ↔ ['*', '/'] <:+: text := by
  simp [List.infix_cons_iff]

/-- Nothing is left of the comment of a text that does not end it. -/
theorem withoutComments_commentOf {text : String} (inside : ¬EndsComment text) :
    withoutComments (commentOf text) = "" := by
  have goesOn : afterComment? ('*' :: ' ' :: text.toList) = none :=
    afterComment?_eq_none_iff.2 fun ends => inside (infix_opened_iff.1 ends)
  have nothing := stripped_comment_closing goesOn []
  rw [List.append_nil, stripped_nil] at nothing
  rw [withoutComments, toList_commentOf, nothing]

/-- Something is left of the comment of a text that ends it and begins no other one. -/
theorem withoutComments_commentOf_ne {text : String} (ends : EndsComment text)
    (noOther : ¬BeginsComment text) : withoutComments (commentOf text) ≠ "" := by
  cases ended : afterComment? ('*' :: ' ' :: text.toList) with
  | none => exact absurd (infix_opened_iff.2 ends) (afterComment?_eq_none_iff.1 ended)
  | some later =>
      have left := stripped_comment_append ended []
      have among := (dropLineBreak_suffix later).trans (suffix_of_afterComment? ended)
      rw [List.append_nil] at left
      rw [withoutComments, toList_commentOf, left]
      generalize dropLineBreak later = rest at among
      -- the first character of what is left cannot begin a comment, so it stays
      cases rest with
      | nil =>
          rw [List.nil_append, ← List.append_nil closing, stripped_closing, stripped_nil]
          decide
      | cons char rest =>
          have plain : ¬(char = '/' ∧ (rest ++ closing).head? = some '*') := by
            rintro ⟨rfl, star⟩
            rw [← List.append_nil closing] at star
            obtain ⟨rest, rfl⟩ :=
              List.head?_eq_some_iff.1 (head?_of_append_closing (by decide) star)
            have starts : ['/', '*'] <:+: '/' :: '*' :: rest := ⟨[], rest, rfl⟩
            have inside := starts.trans among.isInfix
            simp only [List.infix_cons_iff, List.cons_prefix_cons] at inside
            exact noOther (by simpa [BeginsComment] using inside)
          rw [List.cons_append, stripped_cons plain]
          simp

/-!
### The words of an interface
-/

mutual

/-- The words of a node: its primitives, and the names of the members in it. -/
def Node.words : Node → List String
  | .abstract => []
  | .scalar primitive => [primitive]
  | .array element => element.words
  | .struct members => Member.allWords members
  | .nullable inner => inner.words

/-- The words of a member: its name and those of its type. -/
def Member.words : Member → List String
  | ⟨name, _, type⟩ => name :: type.words

/-- The words of some members. -/
def Member.allWords : List Member → List String
  | [] => []
  | member :: members => member.words ++ Member.allWords members

end

/-- The words of an interface: its name and those of its members. -/
def Interface.words (interface : Interface) : List String :=
  interface.name :: Member.allWords interface.members

/-- A joined text has no slash when neither its parts nor what joins them have. -/
theorem not_slash_mem_intercalate {separator : String} {texts : List String}
    (joint : '/' ∉ separator.toList) (parts : ∀ text ∈ texts, '/' ∉ text.toList) :
    '/' ∉ (separator.intercalate texts).toList := by
  induction texts with
  | nil => simp
  | cons text texts ih =>
      obtain ⟨first, later⟩ := List.forall_mem_cons.1 parts
      have rest := ih later
      cases texts with
      | nil => rwa [String.intercalate_singleton]
      | cons next texts =>
          rw [String.intercalate_cons_cons]
          simp only [String.toList_append, List.mem_append, not_or]
          exact ⟨⟨first, joint⟩, rest⟩

mutual

/-- The text of a node has no slash when none of its words has. -/
theorem Node.not_slash_mem : (node : Node) → (∀ word ∈ node.words, '/' ∉ word.toList) →
    ∀ text, node.render = .ok text → '/' ∉ text.toList
  | .abstract, _, text, written => by cases written
  | .scalar primitive, words, text, written => by
      cases written
      exact words primitive (List.mem_singleton_self primitive)
  | .array element, words, text, written => by
      rw [Node.render] at written
      obtain ⟨inside, below, made⟩ := of_bind_ok written
      cases made
      have noSlash := Node.not_slash_mem element words inside below
      simp [noSlash]
  | .struct [], _, text, written => by
      cases written
      simp
  | .struct (member :: members), words, text, written => by
      rw [Node.render] at written
      · obtain ⟨texts, below, made⟩ := of_bind_ok written
        cases made
        have parts := Member.not_slash_mem_all (member :: members) words texts below
        have joint : '/' ∉ "; ".toList := by decide
        have inside := not_slash_mem_intercalate joint parts
        simp only [String.toList_append, List.mem_append, not_or]
        exact ⟨⟨by decide, inside⟩, by decide⟩
      · simp
  | .nullable inner, words, text, written => by
      rw [Node.render] at written
      obtain ⟨inside, below, made⟩ := of_bind_ok written
      cases made
      have noSlash := Node.not_slash_mem inner words inside below
      simp [noSlash]

/-- The text of a member has no slash when none of its words has. -/
theorem Member.not_slash_mem : (member : Member) → (∀ word ∈ member.words, '/' ∉ word.toList) →
    ∀ text, member.render = .ok text → '/' ∉ text.toList
  | ⟨name, optional, type⟩, words, text, written => by
      rw [Member.render] at written
      obtain ⟨inside, below, made⟩ := of_bind_ok written
      cases made
      obtain ⟨named, others⟩ := List.forall_mem_cons.1 words
      have noSlash := Node.not_slash_mem type others inside below
      cases optional <;> simp [named, noSlash]

/-- The texts of some members have no slash when none of their words has. -/
theorem Member.not_slash_mem_all : (members : List Member) →
    (∀ word ∈ Member.allWords members, '/' ∉ word.toList) →
    ∀ texts, Member.renderList members = .ok texts → ∀ text ∈ texts, '/' ∉ text.toList
  | [], _, texts, written => by
      cases written
      exact fun text mem => absurd mem List.not_mem_nil
  | member :: members, words, texts, written => by
      rw [Member.renderList] at written
      obtain ⟨first, shown, written⟩ := of_bind_ok written
      obtain ⟨later, shownLater, made⟩ := of_bind_ok written
      cases made
      rw [Member.allWords, List.forall_mem_append] at words
      refine List.forall_mem_cons.2 ⟨Member.not_slash_mem member words.1 first shown, ?_⟩
      exact Member.not_slash_mem_all members words.2 later shownLater

end

/-!
### Interfaces with and without descriptions
-/

namespace Interface

/-- An interface without its description. -/
def bare (interface : Interface) : Interface := { interface with description := none }

/-- The comment of an interface with the line break after it; an empty description has none. -/
def comment (interface : Interface) : String :=
  if interface.description.getD "" = "" then "" else commentOf (interface.description.getD "")

/-- An interface has no comment, or that of its description. -/
theorem comment_cases (interface : Interface) :
    interface.comment = "" ∨
      ∃ text ∈ interface.description, interface.comment = commentOf text := by
  unfold comment
  cases described : interface.description with
  | none => exact .inl rfl
  | some text =>
      by_cases empty : text = ""
      · exact .inl (if_pos empty)
      · exact .inr ⟨text, rfl, if_neg empty⟩

/-- A description that is not empty has its comment. -/
theorem comment_of_ne {interface : Interface} {text : String}
    (described : interface.description = some text) (given : text ≠ "") :
    interface.comment = commentOf text := by
  rw [comment, described, Option.getD_some, if_neg given]

theorem declarationLines_ne_nil (interface : Interface) (indent : String) (members : List String) :
    interface.declarationLines indent members ≠ [] := by
  cases members <;> exact List.cons_ne_nil _ _

/-- The comment of an interface stands on a line of its own before everything else. -/
theorem intercalate_commentLines (interface : Interface) {lines : List String}
    (some : lines ≠ []) :
    "\n".intercalate (interface.commentLines ++ lines) =
      interface.comment ++ "\n".intercalate lines := by
  rw [commentLines_eq, comment]
  split
  · rw [List.nil_append, String.empty_append]
  · have closed : commentOf (interface.description.getD "") =
        "/** " ++ interface.description.getD "" ++ " */" ++ "\n" := by
      have ends : " */\n" = " */" ++ "\n" := rfl
      rw [commentOf, ends, ← String.append_assoc]
    rw [List.singleton_append, String.intercalate_cons_of_ne_nil some, closed]

/-- The text of an interface is its comment and the text that it has without its description. -/
theorem render_eq_comment (interface : Interface) (indent : String) :
    interface.render indent = (interface.bare.render indent).map (interface.comment ++ ·) := by
  unfold render
  change _ = (Member.renderList interface.members >>= _).map _
  cases Member.renderList interface.members with
  | error fault => rfl
  | ok members =>
      have lines := interface.declarationLines_ne_nil indent members
      exact congrArg Except.ok (interface.intercalate_commentLines lines)

/-- Without its description the text of an interface has no slash when none of its words and not its
    indentation has. -/
theorem not_slash_mem_bare {interface : Interface} {indent text : String}
    (words : ∀ word ∈ interface.words, '/' ∉ word.toList) (blanks : '/' ∉ indent.toList)
    (shown : interface.bare.render indent = .ok text) : '/' ∉ text.toList := by
  obtain ⟨named, inside⟩ := List.forall_mem_cons.1 words
  obtain ⟨texts, below, made⟩ := of_bind_ok shown
  cases made
  have parts := Member.not_slash_mem_all interface.members inside texts below
  apply not_slash_mem_intercalate (by decide)
  intro line mem
  change line ∈ interface.declarationLines indent texts at mem
  cases texts with
  | nil =>
      cases List.mem_singleton.1 mem
      simp [named]
  | cons first texts =>
      rcases List.mem_append.1 mem with mem | close
      · rcases List.mem_cons.1 mem with rfl | mem
        · simp [named]
        · obtain ⟨part, among, rfl⟩ := List.mem_map.1 mem
          have noSlash := parts part among
          simp [blanks, noSlash]
      · cases List.mem_singleton.1 close
        decide

/-!
### The whole text
-/

/-- After the comment of an interface nothing of it matters. -/
theorem stripped_own_comment (interface : Interface) (rest : List Char) :
    stripped (interface.comment.toList ++ rest) =
      (withoutComments interface.comment).toList ++ stripped rest := by
  unfold comment
  split
  · rw [withoutComments_empty, String.toList_empty, List.nil_append, List.nil_append]
  · rw [withoutComments, toList_commentOf, String.toList_ofList]
    have apart := stripped_closing_append
      ('/' :: '*' :: '*' :: ' ' :: (interface.description.getD "").toList) rest
    simpa using apart

/-- Of a comment and a text without slashes the comment is stripped and the text is kept. -/
theorem stripped_piece (interface : Interface) {text : String} (noSlash : '/' ∉ text.toList)
    (rest : List Char) :
    stripped ((interface.comment ++ text).toList ++ rest) =
      (withoutComments interface.comment ++ text).toList ++ stripped rest := by
  rw [String.toList_append, String.toList_append, List.append_assoc, List.append_assoc,
    stripped_own_comment, stripped_append_of_not_mem noSlash]

/-- Texts without slashes after comments, with empty lines between: the comments are stripped, and
    everything else is kept. -/
theorem stripped_intercalate {pieces : List (Interface × String)}
    (noSlash : ∀ piece ∈ pieces, '/' ∉ piece.2.toList) (rest : List Char) :
    stripped (("\n\n".intercalate (pieces.map fun piece => piece.1.comment ++ piece.2)).toList ++
        rest) =
      ("\n\n".intercalate
        (pieces.map fun piece => withoutComments piece.1.comment ++ piece.2)).toList ++
      stripped rest := by
  induction pieces with
  | nil => rfl
  | cons piece pieces ih =>
      obtain ⟨first, later⟩ := List.forall_mem_cons.1 noSlash
      cases pieces with
      | nil => exact piece.1.stripped_piece first rest
      | cons next pieces =>
          have noBreak : '/' ∉ "\n\n".toList := by decide
          have below := ih later
          rw [List.map_cons, List.map_cons] at below ⊢
          rw [List.map_cons, List.map_cons, String.intercalate_cons_cons,
            String.intercalate_cons_cons]
          generalize "\n\n".intercalate ((next.1.comment ++ next.2) :: _) = joined at below ⊢
          generalize "\n\n".intercalate ((withoutComments next.1.comment ++ next.2) :: _) = kept
            at below ⊢
          calc
            _ = stripped ((piece.1.comment ++ piece.2).toList ++
                ("\n\n".toList ++ (joined.toList ++ rest))) := by
              simp only [String.toList_append, List.append_assoc]
            _ = (withoutComments piece.1.comment ++ piece.2).toList ++
                ("\n\n".toList ++ (kept.toList ++ stripped rest)) := by
              rw [piece.1.stripped_piece first, stripped_append_of_not_mem noBreak, below]
            _ = _ := by simp only [String.toList_append, List.append_assoc]

/-- Joined texts are no shorter with something before each of them, and as long only when it is
    nothing. -/
theorem length_intercalate_le (extra : Interface → String) (pieces : List (Interface × String)) :
    ("\n\n".intercalate (pieces.map Prod.snd)).length ≤
        ("\n\n".intercalate (pieces.map fun piece => extra piece.1 ++ piece.2)).length ∧
      (("\n\n".intercalate (pieces.map fun piece => extra piece.1 ++ piece.2)).length =
          ("\n\n".intercalate (pieces.map Prod.snd)).length →
        ∀ piece ∈ pieces, extra piece.1 = "") := by
  induction pieces with
  | nil => exact ⟨Nat.le_refl _, fun _ piece mem => absurd mem List.not_mem_nil⟩
  | cons piece pieces ih =>
      have nothing : (extra piece.1).length = 0 → extra piece.1 = "" := String.length_eq_zero_iff.1
      rw [List.forall_mem_cons]
      cases pieces with
      | nil =>
          simp only [List.map_cons, List.map_nil, String.intercalate_singleton,
            String.length_append]
          refine ⟨by omega, ?_⟩
          intro same
          exact ⟨nothing (by omega), fun piece mem => absurd mem List.not_mem_nil⟩
      | cons next pieces =>
          obtain ⟨noShorter, asLong⟩ := ih
          simp only [List.map_cons, String.intercalate_cons_cons, String.length_append]
            at noShorter asLong ⊢
          refine ⟨by omega, ?_⟩
          intro same
          exact ⟨nothing (by omega), asLong (by omega)⟩

/-- Texts with something before each of them are joined to the same text as without exactly when it
    is nothing. -/
theorem intercalate_eq_iff (extra : Interface → String) (pieces : List (Interface × String)) :
    "\n\n".intercalate (pieces.map fun piece => extra piece.1 ++ piece.2) =
        "\n\n".intercalate (pieces.map Prod.snd) ↔
      ∀ piece ∈ pieces, extra piece.1 = "" := by
  constructor
  · intro same
    exact (length_intercalate_le extra pieces).2 (congrArg String.length same)
  · intro nothing
    congr 1
    apply List.map_congr_left
    intro piece mem
    rw [nothing piece mem, String.empty_append]

/-- Some interfaces have their texts exactly when they have them without descriptions, and then each
    text is the other one with the comment before it. -/
theorem endAlike_mapM_render (interfaces : List Interface) (indent : String) :
    EndAlike
      (fun texts bares => ∃ pieces : List (Interface × String),
        pieces.map Prod.fst = interfaces ∧
        (∀ piece ∈ pieces, piece.1.bare.render indent = .ok piece.2) ∧
        texts = pieces.map (fun piece => piece.1.comment ++ piece.2) ∧
        bares = pieces.map Prod.snd)
      (interfaces.mapM fun interface => interface.render indent)
      ((interfaces.map bare).mapM fun interface => interface.render indent) := by
  induction interfaces with
  | nil => exact .done ⟨[], rfl, fun piece mem => absurd mem List.not_mem_nil, rfl, rfl⟩
  | cons interface interfaces ih =>
      rw [List.map_cons, List.mapM_cons, List.mapM_cons, render_eq_comment]
      cases shown : interface.bare.render indent with
      | error fault => exact .refused fault
      | ok text =>
          apply ih.map
          rintro texts bares ⟨pieces, rfl, each, rfl, rfl⟩
          exact ⟨(interface, text) :: pieces, rfl, List.forall_mem_cons.2 ⟨shown, each⟩, rfl, rfl⟩

/-- With descriptions and without them interfaces have their whole texts alike. Where no word has a
    slash, the comments taken out of the one give the other exactly when nothing is left of any
    comment. -/
theorem endAlike_renderAll {interfaces : List Interface} {indent : String}
    (words : ∀ interface ∈ interfaces, ∀ word ∈ interface.words, '/' ∉ word.toList)
    (blanks : '/' ∉ indent.toList) :
    EndAlike
      (fun text bareText => withoutComments text = bareText ↔
        ∀ interface ∈ interfaces, withoutComments interface.comment = "")
      (renderAll interfaces indent) (renderAll (interfaces.map bare) indent) := by
  apply (endAlike_mapM_render interfaces indent).map
  rintro texts bares ⟨pieces, rfl, each, rfl, rfl⟩
  have noSlash : ∀ piece ∈ pieces, '/' ∉ piece.2.toList := by
    intro piece mem
    exact not_slash_mem_bare (words piece.1 (List.mem_map_of_mem mem)) blanks (each piece mem)
  have kept : withoutComments
      ("\n\n".intercalate (pieces.map fun piece => piece.1.comment ++ piece.2) ++ "\n") =
        "\n\n".intercalate (pieces.map fun piece => withoutComments piece.1.comment ++ piece.2) ++
          "\n" := by
    have lineBreak : stripped "\n".toList = "\n".toList := by
      have noSlash : '/' ∉ "\n".toList := by decide
      simpa using stripped_append_of_not_mem noSlash []
    rw [withoutComments, String.toList_append, stripped_intercalate noSlash, lineBreak,
      ← String.toList_append, String.ofList_toList]
  rw [kept, String.append_left_inj, List.forall_mem_map]
  exact intercalate_eq_iff (fun interface => withoutComments interface.comment) pieces

/-- What descriptions leave behind. With descriptions and without them interfaces have their texts
    alike, or are refused alike. Where the words are identifiers and the indentation is blank, or
    have no slash at least, taking the comments out of the text gives exactly the text without
    descriptions if no description ends a comment. If some do, it gives that text exactly when
    nothing is left of any of the comments, and something is left of the comment of a description
    that ends it and begins no other one. -/
theorem inert_iff_nothing_left {interfaces : List Interface} {indent : String}
    (words : ∀ interface ∈ interfaces, ∀ word ∈ interface.words, '/' ∉ word.toList)
    (blanks : '/' ∉ indent.toList) :
    ((∀ interface ∈ interfaces, ∀ text ∈ interface.description, ¬EndsComment text) →
      (renderAll interfaces indent).map withoutComments =
        renderAll (interfaces.map bare) indent) ∧
    EndAlike
      (fun text bareText => withoutComments text = bareText ↔
        ∀ interface ∈ interfaces, withoutComments interface.comment = "")
      (renderAll interfaces indent) (renderAll (interfaces.map bare) indent) ∧
    ∀ interface ∈ interfaces, ∀ text ∈ interface.description,
      EndsComment text → ¬BeginsComment text → withoutComments interface.comment ≠ "" := by
  have alike := endAlike_renderAll words blanks
  refine ⟨?_, alike, ?_⟩
  · intro inside
    have nothing : ∀ interface ∈ interfaces, withoutComments interface.comment = "" := by
      intro interface mem
      rcases interface.comment_cases with none | ⟨text, described, written⟩
      · rw [none]
        exact withoutComments_empty
      · rw [written]
        exact withoutComments_commentOf (inside interface mem text described)
    generalize renderAll interfaces indent = outcome at alike ⊢
    generalize renderAll (interfaces.map bare) indent = bareOutcome at alike ⊢
    cases alike with
    | refused fault => rfl
    | done same => exact congrArg Except.ok (same.2 nothing)
  · intro interface mem text described ends noOther
    have given : text ≠ "" := by
      rintro rfl
      cases List.eq_nil_of_infix_nil ends
    rw [comment_of_ne described given]
    exact withoutComments_commentOf_ne ends noOther

/-- A description that begins a comment once more, but ends none, leaves nothing behind. -/
theorem inert_flag :
    let flag : Interface :=
      ⟨"Flag", .type, [⟨"on", false, .scalar "boolean"⟩], some "Feature /* switch"⟩
    renderAll [flag] "\t" =
        .ok "/** Feature /* switch */\nexport interface Flag \x7b\n\ton: boolean;\n\x7d\n" ∧
      (renderAll [flag] "\t").map withoutComments = renderAll [flag.bare] "\t" := by
  intro flag
  have words : ∀ interface ∈ [flag], ∀ word ∈ interface.words, '/' ∉ word.toList := by decide
  have inside : ∀ interface ∈ [flag], ∀ text ∈ interface.description, ¬EndsComment text := by
    intro interface mem text described
    cases List.mem_singleton.1 mem
    cases described
    exact afterComment?_eq_none_iff.1 (by decide)
  exact ⟨rfl, (inert_iff_nothing_left words (by decide)).1 inside⟩

/-- A description that ends its comment and begins another one adds a declaration: without comments,
    the text of one interface is the text of two. -/
theorem description_adds_declaration :
    let added : Interface := ⟨"Added", .type, [], none⟩
    let shown : Interface :=
      ⟨"T", .type, [], some "*/export interface Added \x7b\x7d\n\n/*"⟩
    (∀ word ∈ shown.words, IsName word) ∧
      renderAll [shown] "  " = .ok ("/** */export interface Added \x7b\x7d\n\n/* */\n" ++
        "export interface T \x7b\x7d\n") ∧
      (renderAll [shown] "  ").map withoutComments = renderAll [added, shown.bare] "  " ∧
      (renderAll [shown] "  ").map withoutComments ≠ renderAll [shown.bare] "  " := by
  intro added shown
  let declared := "export interface Added \x7b\x7d\n\n".toList
  let remaining := "export interface T \x7b\x7d\n".toList
  let second := '/' :: '*' :: (closing ++ remaining)
  have first : stripped ('/' :: '*' :: ("* */".toList ++ (declared ++ second))) =
      stripped (declared ++ second) := by
    have ended : afterComment? ("* */".toList ++ (declared ++ second)) =
        some (declared ++ second) := rfl
    exact stripped_comment ended
  have left : stripped second = remaining := by
    have noSlash : '/' ∉ remaining := by decide
    have kept := stripped_append_of_not_mem noSlash []
    rw [stripped_nil, List.append_nil] at kept
    have ended : afterComment? (closing ++ remaining) = some ('\n' :: remaining) := rfl
    exact (stripped_comment ended).trans kept
  have rendered : renderAll [shown] "  " =
      .ok ("/** */export interface Added \x7b\x7d\n\n/* */\n" ++
        "export interface T \x7b\x7d\n") := rfl
  have taken : (renderAll [shown] "  ").map withoutComments =
      renderAll [added, shown.bare] "  " := by
    rw [rendered]
    change Except.ok (String.ofList (stripped
      ('/' :: '*' :: ("* */".toList ++ (declared ++ second))))) = _
    rw [first, stripped_append_of_not_mem (by decide), left]
    rfl
  refine ⟨?_, rendered, taken, ?_⟩
  · intro word mem
    cases List.mem_singleton.1 mem
    refine ⟨by decide, ?_⟩
    intro char isIn
    have letters : shown.name.toList = ['T'] := by decide
    rw [letters] at isIn
    cases List.mem_singleton.1 isIn
    rfl
  · rw [taken]
    intro same
    have texts := Except.ok.inj same
    revert texts
    decide

end Interface

end SchemaProjection
