/-
Module: SchemaProjection.Proofs.InterfaceText
Purpose: The text of nodes, members and interfaces determines what it shows. Between interfaces the
  argument is about lines: a comment, an opening line and a closing brace cannot be taken for one
  another, so the lines of an interface tell where they end.
Imports: SchemaProjection.Proofs.NodeDecoding
Main exports: Interface.IsPlain, Interface.shown, Interface.lines, Interface.pageLines,
  Interface.renderAll_eq, Interface.renderAll_eq_iff, text_determines_tree
-/
import SchemaProjection.Proofs.NodeDecoding

namespace SchemaProjection

/-!
### Plain interfaces
-/

/-- An interface can be written: its name and its description stay on one line, and its members are
    plain. -/
structure Interface.IsPlain (interface : Interface) : Prop where
  name : '\n' ∉ interface.name.toList
  description : ∀ text ∈ interface.description, '\n' ∉ text.toList
  members : Member.ArePlain interface.members

/-- What the text of an interface shows: everything but the kind, and no description like an empty
    one. -/
def Interface.shown (interface : Interface) : String × String × List Member :=
  (interface.description.getD "", interface.name, interface.members)

/-!
### Lines
-/

namespace Interface

/-- The first line of a declaration, which is all of it if there are no members. -/
def openingLine (name : String) (noMembers : Bool) : String :=
  "export interface " ++ name ++ (if noMembers then " \x7b\x7d" else " \x7b")

/-- The line of a member. -/
def memberLine (indent : String) (member : Member) : String :=
  indent ++ String.ofList member.chars ++ ";"

/-- The lines of members, up to the closing brace. -/
def bodyLines (indent : String) : List Member → List String
  | [] => []
  | member :: members => (member :: members).map (memberLine indent) ++ ["\x7d"]

/-- The lines of an interface. -/
def lines (interface : Interface) (indent : String) : List String :=
  interface.commentLines ++
    openingLine interface.name interface.members.isEmpty :: bodyLines indent interface.members

/-- The lines of several interfaces, with an empty one after each. -/
def blockLines (indent : String) (interfaces : List Interface) : List String :=
  interfaces.flatMap fun interface => interface.lines indent ++ [""]

/-- The lines of the whole text. The text of no interfaces is a single line break. -/
def pageLines (indent : String) : List Interface → List String
  | [] => ["", ""]
  | interface :: rest => blockLines indent (interface :: rest)

theorem declarationLines_eq (interface : Interface) (indent : String) (members : List Member) :
    interface.declarationLines indent (members.map fun member => String.ofList member.chars) =
      openingLine interface.name members.isEmpty :: bodyLines indent members := by
  unfold openingLine
  cases members with
  | nil => simp [declarationLines, bodyLines]
  | cons member rest => simp [declarationLines, bodyLines, memberLine]

theorem render_eq {interface : Interface} (plain : interface.IsPlain) (indent : String) :
    interface.render indent = .ok ("\n".intercalate (interface.lines indent)) := by
  rw [render, Member.renderList_eq interface.members plain.members, lines, ← declarationLines_eq]
  rfl

theorem mapM_render {interfaces : List Interface} (plain : ∀ each ∈ interfaces, each.IsPlain)
    (indent : String) :
    interfaces.mapM (fun interface => interface.render indent) =
      .ok (interfaces.map fun interface => "\n".intercalate (interface.lines indent)) := by
  induction interfaces with
  | nil => rfl
  | cons interface rest ih =>
      rw [List.mapM_cons, render_eq (plain interface (by simp)),
        ih fun each isIn => plain each (by simp [isIn])]
      rfl

theorem lines_ne_nil (interface : Interface) (indent : String) : interface.lines indent ≠ [] := by
  simp [lines]

theorem blockLines_cons (indent : String) (interface : Interface) (rest : List Interface) :
    blockLines indent (interface :: rest) =
      interface.lines indent ++ "" :: blockLines indent rest := by
  simp [blockLines]

theorem pageLines_ne_nil (interfaces : List Interface) (indent : String) :
    pageLines indent interfaces ≠ [] := by
  cases interfaces with
  | nil => simp [pageLines]
  | cons interface rest => simp [pageLines, blockLines_cons]

theorem intercalate_blockLines (interface : Interface) (rest : List Interface) (indent : String) :
    "\n".intercalate (blockLines indent (interface :: rest)) =
      "\n\n".intercalate ((interface :: rest).map fun interface =>
        "\n".intercalate (interface.lines indent)) ++ "\n" := by
  induction rest generalizing interface with
  | nil =>
      rw [blockLines_cons,
        String.intercalate_append_of_ne_nil (lines_ne_nil interface indent) (by simp)]
      simp [blockLines]
  | cons next rest ih =>
      have separator : "\n\n" = "\n" ++ "\n" := rfl
      rw [blockLines_cons,
        String.intercalate_append_of_ne_nil (lines_ne_nil interface indent) (by simp),
        String.intercalate_cons_of_ne_nil (by simp [blockLines_cons]), ih next]
      simp only [List.map_cons, String.intercalate_cons_cons, separator, String.append_assoc,
        String.empty_append]

theorem intercalate_pageLines (interfaces : List Interface) (indent : String) :
    "\n".intercalate (pageLines indent interfaces) =
      "\n\n".intercalate (interfaces.map fun interface =>
        "\n".intercalate (interface.lines indent)) ++ "\n" := by
  cases interfaces with
  | nil => rfl
  | cons interface rest => exact intercalate_blockLines interface rest indent

/-- The text of plain interfaces is made of their lines. -/
theorem renderAll_eq {interfaces : List Interface} (plain : ∀ each ∈ interfaces, each.IsPlain)
    (indent : String) :
    renderAll interfaces indent = .ok ("\n".intercalate (pageLines indent interfaces)) := by
  rw [renderAll, mapM_render plain, intercalate_pageLines]
  rfl

end Interface

/-!
### No line breaks within lines
-/

theorem IsName.not_newline_mem {name : String} (isName : IsName name) : '\n' ∉ name.toList := by
  intro isIn
  have := isName.2 '\n' isIn
  revert this
  decide

mutual

theorem Node.not_newline_mem_chars : (node : Node) → node.IsPlain → '\n' ∉ node.chars
  | .scalar _, plain => plain.not_newline_mem
  | .array element, plain => by
      have inside := Node.not_newline_mem_chars element plain
      simp [Node.chars, inside]
  | .struct [], _ => by simp [Node.chars]
  | .struct (member :: members), plain => by
      have first := Member.not_newline_mem_chars member plain.1
      have later := Member.not_newline_mem_charsRest members plain.2
      simp [Node.chars, first, later]
  | .nullable inner, plain => by
      have inside := Node.not_newline_mem_chars inner plain.2
      simp [Node.chars, nullMark, inside]

theorem Member.not_newline_mem_chars : (member : Member) → member.IsPlain → '\n' ∉ member.chars
  | ⟨_, optional, type⟩, plain => by
      have before := plain.1.not_newline_mem
      have after := Node.not_newline_mem_chars type plain.2
      cases optional <;> simp [Member.chars, before, after]

theorem Member.not_newline_mem_charsRest :
    (members : List Member) → Member.ArePlain members → '\n' ∉ Member.charsRest members
  | [], _ => by simp [Member.charsRest]
  | member :: members, plain => by
      have first := Member.not_newline_mem_chars member plain.1
      have later := Member.not_newline_mem_charsRest members plain.2
      simp [Member.charsRest, first, later]

end

namespace Interface

theorem not_newline_mem_memberLine {indent : String} (oneLine : '\n' ∉ indent.toList)
    {member : Member} (plain : member.IsPlain) : '\n' ∉ (memberLine indent member).toList := by
  have inside := Member.not_newline_mem_chars member plain
  simp [memberLine, oneLine, inside]

theorem not_newline_mem_bodyLines {indent : String} (oneLine : '\n' ∉ indent.toList)
    {members : List Member} (plain : Member.ArePlain members) :
    ∀ line ∈ bodyLines indent members, '\n' ∉ line.toList := by
  cases members with
  | nil => simp [bodyLines]
  | cons member rest =>
      intro line isIn
      rw [bodyLines] at isIn
      rcases List.mem_append.1 isIn with ofMember | close
      · obtain ⟨shown, isMember, rfl⟩ := List.mem_map.1 ofMember
        exact not_newline_mem_memberLine oneLine (Member.arePlain_iff.1 plain shown isMember)
      · simp_all

theorem not_newline_mem_openingLine {name : String} (oneLine : '\n' ∉ name.toList)
    (noMembers : Bool) : '\n' ∉ (openingLine name noMembers).toList := by
  unfold openingLine
  cases noMembers <;> simp [oneLine]

theorem not_newline_mem_commentLines {interface : Interface} (plain : interface.IsPlain) :
    ∀ line ∈ interface.commentLines, '\n' ∉ line.toList := by
  intro line isIn
  rw [commentLines] at isIn
  split at isIn
  · simp at isIn
  · simp at isIn
  · next text _ present =>
      have oneLine := plain.description text present
      simp_all

theorem not_newline_mem_lines {interface : Interface} (plain : interface.IsPlain) {indent : String}
    (oneLine : '\n' ∉ indent.toList) : ∀ line ∈ interface.lines indent, '\n' ∉ line.toList := by
  intro line isIn
  rw [lines] at isIn
  rcases List.mem_append.1 isIn with comment | declared
  · exact not_newline_mem_commentLines plain line comment
  · rcases List.mem_cons.1 declared with rfl | body
    · exact not_newline_mem_openingLine plain.name _
    · exact not_newline_mem_bodyLines oneLine plain.members line body

theorem not_newline_mem_blockLines {interfaces : List Interface}
    (plain : ∀ each ∈ interfaces, each.IsPlain) {indent : String}
    (oneLine : '\n' ∉ indent.toList) :
    ∀ line ∈ blockLines indent interfaces, '\n' ∉ line.toList := by
  intro line isIn
  obtain ⟨interface, isInterface, isLine⟩ := List.mem_flatMap.1 isIn
  rcases List.mem_append.1 isLine with isLine | isEmpty
  · exact not_newline_mem_lines (plain interface isInterface) oneLine line isLine
  · simp_all

theorem not_newline_mem_pageLines {interfaces : List Interface}
    (plain : ∀ each ∈ interfaces, each.IsPlain) {indent : String}
    (oneLine : '\n' ∉ indent.toList) :
    ∀ line ∈ pageLines indent interfaces, '\n' ∉ line.toList := by
  cases interfaces with
  | nil => simp [pageLines]
  | cons interface rest => exact not_newline_mem_blockLines plain oneLine

end Interface

/-- Lines without line breaks are determined by the text that they are joined to. -/
theorem intercalate_newline_injective {these those : List String}
    (oneLines : ∀ line ∈ these, '\n' ∉ line.toList)
    (otherLines : ∀ line ∈ those, '\n' ∉ line.toList)
    (nonempty : these ≠ []) (otherNonempty : those ≠ [])
    (same : "\n".intercalate these = "\n".intercalate those) : these = those := by
  have left := String.toList_split_intercalate oneLines
  have right := String.toList_split_intercalate otherLines
  rw [if_neg nonempty] at left
  rw [if_neg otherNonempty] at right
  rw [← left, ← right]
  exact congrArg (fun text : String => (text.split '\n').toList.map (·.copy)) same

/-!
### Where the lines of an interface end
-/

namespace Interface

theorem openingLine_inj {name other : String} {noMembers otherNone : Bool}
    (same : openingLine name noMembers = openingLine other otherNone) :
    name = other ∧ noMembers = otherNone := by
  unfold openingLine at same
  have backwards := congrArg (fun text => text.toList.reverse) same
  cases noMembers <;> cases otherNone <;> simp at backwards
  · exact ⟨String.toList_inj.1 backwards, rfl⟩
  · exact ⟨String.toList_inj.1 backwards, rfl⟩

theorem comment_ne_openingLine (text name : String) (noMembers : Bool) :
    "/** " ++ text ++ " */" ≠ openingLine name noMembers := by
  intro same
  unfold openingLine at same
  have characters := congrArg String.toList same
  simp at characters

theorem memberLine_ne_close (indent : String) (member : Member) :
    memberLine indent member ≠ "\x7d" := by
  intro same
  have backwards := congrArg (fun text => text.toList.reverse) same
  simp [memberLine] at backwards

theorem memberLine_inj {indent : String} {member other : Member} (plain : member.IsPlain)
    (otherPlain : other.IsPlain) (same : memberLine indent member = memberLine indent other) :
    member = other := by
  have characters := congrArg String.toList same
  simp only [memberLine, String.toList_append, String.toList_ofList] at characters
  have inside := List.append_cancel_left (List.append_cancel_right characters)
  have read := Member.decode_chars plain
  rw [inside, Member.decode_chars otherPlain] at read
  exact (Option.some.inj read).symm

/-- The closing brace tells where the lines of members end. -/
theorem memberLines_append_inj {indent : String} {these those : List Member}
    (plain : Member.ArePlain these) (otherPlain : Member.ArePlain those) {rest later : List String}
    (same : these.map (memberLine indent) ++ "\x7d" :: rest =
      those.map (memberLine indent) ++ "\x7d" :: later) : these = those ∧ rest = later := by
  induction these generalizing those with
  | nil =>
      cases those with
      | nil => simpa using same
      | cons other those =>
          simp only [List.map_nil, List.map_cons, List.nil_append, List.cons_append,
            List.cons.injEq] at same
          exact absurd same.1.symm (memberLine_ne_close indent other)
  | cons member these ih =>
      cases those with
      | nil =>
          simp only [List.map_nil, List.map_cons, List.nil_append, List.cons_append,
            List.cons.injEq] at same
          exact absurd same.1 (memberLine_ne_close indent member)
      | cons other those =>
          simp only [List.map_cons, List.cons_append, List.cons.injEq] at same
          have first := memberLine_inj plain.1 otherPlain.1 same.1
          have after := ih plain.2 otherPlain.2 same.2
          rw [first, after.1]
          exact ⟨rfl, after.2⟩

theorem bodyLines_append_inj {indent : String} {these those : List Member}
    (plain : Member.ArePlain these) (otherPlain : Member.ArePlain those)
    (alike : these.isEmpty = those.isEmpty) {rest later : List String}
    (same : bodyLines indent these ++ rest = bodyLines indent those ++ later) :
    these = those ∧ rest = later := by
  cases these with
  | nil =>
      cases those with
      | nil => exact ⟨rfl, same⟩
      | cons other those => simp at alike
  | cons member these =>
      cases those with
      | nil => simp at alike
      | cons other those =>
          rw [bodyLines, bodyLines, List.append_assoc, List.append_assoc] at same
          exact memberLines_append_inj plain otherPlain same

theorem commentLines_eq (interface : Interface) :
    interface.commentLines =
      if interface.description.getD "" = "" then []
      else ["/** " ++ interface.description.getD "" ++ " */"] := by
  rw [commentLines]
  split <;> simp_all

/-- The opening line tells whether a comment comes before it. -/
theorem commentLines_append_inj {interface other : Interface} {name otherName : String}
    {noMembers otherNone : Bool} {rest later : List String}
    (same : interface.commentLines ++ openingLine name noMembers :: rest =
      other.commentLines ++ openingLine otherName otherNone :: later) :
    interface.description.getD "" = other.description.getD "" ∧
      openingLine name noMembers :: rest = openingLine otherName otherNone :: later := by
  rw [commentLines_eq, commentLines_eq] at same
  by_cases silent : interface.description.getD "" = ""
  · by_cases otherSilent : other.description.getD "" = ""
    · rw [if_pos silent, if_pos otherSilent] at same
      exact ⟨silent.trans otherSilent.symm, same⟩
    · rw [if_pos silent, if_neg otherSilent] at same
      exact absurd (List.cons.inj same).1.symm (comment_ne_openingLine _ _ _)
  · by_cases otherSilent : other.description.getD "" = ""
    · rw [if_neg silent, if_pos otherSilent] at same
      exact absurd (List.cons.inj same).1 (comment_ne_openingLine _ _ _)
    · rw [if_neg silent, if_neg otherSilent] at same
      obtain ⟨comment, declared⟩ := List.cons.inj same
      have characters := congrArg String.toList comment
      simp only [String.toList_append] at characters
      have inside := List.append_cancel_left (List.append_cancel_right characters)
      exact ⟨String.toList_inj.1 inside, declared⟩

/-- The lines of an interface determine what it shows, whatever lines come after them. -/
theorem lines_append_inj {indent : String} {interface other : Interface} (plain : interface.IsPlain)
    (otherPlain : other.IsPlain) {rest later : List String}
    (same : interface.lines indent ++ rest = other.lines indent ++ later) :
    interface.shown = other.shown ∧ rest = later := by
  rw [lines, lines, List.append_assoc, List.append_assoc] at same
  obtain ⟨description, declared⟩ := commentLines_append_inj same
  obtain ⟨opening, body⟩ := List.cons.inj declared
  obtain ⟨name, alike⟩ := openingLine_inj opening
  obtain ⟨members, after⟩ := bodyLines_append_inj plain.members otherPlain.members alike body
  rw [shown, shown, description, name, members]
  exact ⟨rfl, after⟩

theorem lines_append_ne_blank (interface : Interface) (indent : String) (rest later : List String) :
    interface.lines indent ++ rest ≠ "" :: later := by
  have opens : ∀ noMembers, openingLine interface.name noMembers ≠ "" := by
    intro noMembers blank
    unfold openingLine at blank
    simp at blank
  rw [lines, commentLines_eq]
  split
  · simp [opens]
  · simp

theorem blockLines_inj {indent : String} {these those : List Interface}
    (plain : ∀ each ∈ these, each.IsPlain) (otherPlain : ∀ each ∈ those, each.IsPlain)
    (same : blockLines indent these = blockLines indent those) :
    these.map shown = those.map shown := by
  induction these generalizing those with
  | nil =>
      cases those with
      | nil => rfl
      | cons other those => simp [blockLines] at same
  | cons interface these ih =>
      cases those with
      | nil => simp [blockLines] at same
      | cons other those =>
          rw [blockLines_cons, blockLines_cons] at same
          rcases lines_append_inj (plain interface (by simp)) (otherPlain other (by simp)) same
            with ⟨first, after⟩
          have later := ih (fun each isIn => plain each (by simp [isIn]))
            (fun each isIn => otherPlain each (by simp [isIn])) (List.cons.inj after).2
          rw [List.map_cons, List.map_cons, first, later]

theorem pageLines_inj {indent : String} {these those : List Interface}
    (plain : ∀ each ∈ these, each.IsPlain) (otherPlain : ∀ each ∈ those, each.IsPlain)
    (same : pageLines indent these = pageLines indent those) :
    these.map shown = those.map shown := by
  cases these with
  | nil =>
      cases those with
      | nil => rfl
      | cons other those =>
          rw [pageLines, pageLines, blockLines_cons] at same
          exact absurd same.symm (lines_append_ne_blank other indent _ _)
  | cons interface these =>
      cases those with
      | nil =>
          rw [pageLines, pageLines, blockLines_cons] at same
          exact absurd same (lines_append_ne_blank interface indent _ _)
      | cons other those => exact blockLines_inj plain otherPlain same

theorem lines_eq_of_shown_eq {interface other : Interface} (same : interface.shown = other.shown)
    (indent : String) : interface.lines indent = other.lines indent := by
  obtain ⟨description, others⟩ := Prod.mk.inj same
  obtain ⟨name, members⟩ := Prod.mk.inj others
  rw [lines, lines, commentLines_eq, commentLines_eq, description, name, members]

theorem blockLines_eq_of_shown_eq {these those : List Interface}
    (same : these.map shown = those.map shown) (indent : String) :
    blockLines indent these = blockLines indent those := by
  induction these generalizing those with
  | nil =>
      cases those with
      | nil => rfl
      | cons other those => simp at same
  | cons interface these ih =>
      cases those with
      | nil => simp at same
      | cons other those =>
          obtain ⟨first, later⟩ := List.cons.inj same
          rw [blockLines_cons, blockLines_cons, lines_eq_of_shown_eq first, ih later]

theorem pageLines_eq_of_shown_eq {these those : List Interface}
    (same : these.map shown = those.map shown) (indent : String) :
    pageLines indent these = pageLines indent those := by
  cases these with
  | nil =>
      cases those with
      | nil => rfl
      | cons other those => simp at same
  | cons interface these =>
      cases those with
      | nil => simp at same
      | cons other those => exact blockLines_eq_of_shown_eq same indent

/-- Plain interfaces have the same text exactly when they show the same. -/
theorem renderAll_eq_iff {these those : List Interface} (plain : ∀ each ∈ these, each.IsPlain)
    (otherPlain : ∀ each ∈ those, each.IsPlain) {indent : String}
    (oneLine : '\n' ∉ indent.toList) :
    renderAll these indent = renderAll those indent ↔ these.map shown = those.map shown := by
  rw [renderAll_eq plain, renderAll_eq otherPlain]
  constructor
  · intro same
    apply pageLines_inj plain otherPlain
    exact intercalate_newline_injective (not_newline_mem_pageLines plain oneLine)
      (not_newline_mem_pageLines otherPlain oneLine) (pageLines_ne_nil these indent)
      (pageLines_ne_nil those indent) (Except.ok.inj same)
  · intro same
    rw [pageLines_eq_of_shown_eq same]

end Interface

/-!
### The text determines the tree
-/

theorem Node.eq_of_render_eq {node other : Node} (plain : node.IsPlain)
    (otherPlain : other.IsPlain) (same : node.render = other.render) : node = other := by
  have shows := Node.render_eq node plain
  have read := Node.decode_eq_some_iff.2 ⟨plain, shows⟩
  have otherRead := Node.decode_eq_some_iff.2 ⟨otherPlain, same ▸ shows⟩
  exact Option.some.inj (read.symm.trans otherRead)

theorem Member.eq_of_render_eq {member other : Member} (plain : member.IsPlain)
    (otherPlain : other.IsPlain) (same : member.render = other.render) : member = other := by
  have shows := Member.render_eq member plain
  have read := Member.decode_eq_some_iff.2 ⟨plain, shows⟩
  have otherRead := Member.decode_eq_some_iff.2 ⟨otherPlain, same ▸ shows⟩
  exact Option.some.inj (read.symm.trans otherRead)

theorem Node.render_ne_render {node : Node} (plain : node.IsPlain) {member : Member}
    (memberPlain : member.IsPlain) : node.render ≠ member.render := by
  intro same
  rw [Node.render_eq node plain, Member.render_eq member memberPlain] at same
  apply Node.chars_ne_chars plain memberPlain
  exact String.ofList_injective (Except.ok.inj same)

/-- Text loses nothing. Every plain node and every plain member has a text from which it is decoded,
    so that two of them never share a text. On one line each, a comment, a name and the members of
    an interface are read off the text of several interfaces, whatever the indentation: only their
    kinds, and the difference between no description and an empty one, are not in it. -/
theorem text_determines_tree :
    (∀ node : Node, node.IsPlain →
      ∃ text, node.render = .ok text ∧ Node.decode text = some node) ∧
    (∀ member : Member, member.IsPlain →
      ∃ text, member.render = .ok text ∧ Member.decode text = some member) ∧
    (∀ node other : Node, node.IsPlain → other.IsPlain →
      node.render = other.render → node = other) ∧
    (∀ member other : Member, member.IsPlain → other.IsPlain →
      member.render = other.render → member = other) ∧
    (∀ (node : Node) (member : Member), node.IsPlain → member.IsPlain →
      node.render ≠ member.render) ∧
    ∀ indent : String, '\n' ∉ indent.toList →
      ∀ these those : List Interface,
        (∀ each ∈ these, each.IsPlain) → (∀ each ∈ those, each.IsPlain) →
        (∃ text, Interface.renderAll these indent = .ok text) ∧
        (Interface.renderAll these indent = Interface.renderAll those indent ↔
          these.map Interface.shown = those.map Interface.shown) := by
  refine ⟨?_, ?_, ?_, ?_, ?_, ?_⟩
  · intro node plain
    have shows := Node.render_eq node plain
    exact ⟨_, shows, Node.decode_eq_some_iff.2 ⟨plain, shows⟩⟩
  · intro member plain
    have shows := Member.render_eq member plain
    exact ⟨_, shows, Member.decode_eq_some_iff.2 ⟨plain, shows⟩⟩
  · intro node other plain otherPlain same
    exact Node.eq_of_render_eq plain otherPlain same
  · intro member other plain otherPlain same
    exact Member.eq_of_render_eq plain otherPlain same
  · intro node member plain memberPlain
    exact Node.render_ne_render plain memberPlain
  · intro indent oneLine these those plain otherPlain
    constructor
    · exact ⟨_, Interface.renderAll_eq plain indent⟩
    · exact Interface.renderAll_eq_iff plain otherPlain oneLine

end SchemaProjection
