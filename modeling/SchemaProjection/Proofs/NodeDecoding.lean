/-
Module: SchemaProjection.Proofs.NodeDecoding
Purpose: A decoder for the text of nodes and members, and the proof that it reads back what was
  written and nothing else. A text is read from the front: a name and the delimiter after it tell a
  scalar from an array, and a null union is recognized by its mark once the node inside of it is
  complete. Null unions do not nest, so one mark at most is to be looked for.
Imports: SchemaProjection.Node.Text
Main exports: isNameChar, IsName, Node.IsPlain, Member.IsPlain, Node.chars, Member.chars,
  Node.decode, Member.decode, Node.render_eq, Node.decode_eq_some_iff, Member.decode_eq_some_iff,
  Node.chars_ne_chars
-/
import SchemaProjection.Node.Text

namespace SchemaProjection

/-!
### Plain nodes
-/

/-- The characters of names: letters, digits, the underscore and the dollar sign. Beyond ASCII every
    character counts as a letter. -/
def isNameChar (char : Char) : Bool :=
  char.isAlphanum || char == '_' || char == '$' || 128 ≤ char.toNat

/-- A text is a name: it is not empty and has only characters of names. -/
def IsName (text : String) : Prop := text ≠ "" ∧ ∀ char ∈ text.toList, isNameChar char = true

mutual

/-- A node can be written: it has no abstract node in it, its primitives and the names of its
    members are names, and none of its null unions holds another one directly. -/
def Node.IsPlain : Node → Prop
  | .abstract => False
  | .scalar primitive => IsName primitive
  | .array element => element.IsPlain
  | .struct members => Member.ArePlain members
  | .nullable inner => inner.isNullable [] = false ∧ inner.IsPlain

/-- A member can be written. -/
def Member.IsPlain : Member → Prop
  | ⟨name, _, type⟩ => IsName name ∧ type.IsPlain

/-- All of some members can be written. -/
def Member.ArePlain : List Member → Prop
  | [] => True
  | member :: members => member.IsPlain ∧ Member.ArePlain members

end

theorem Member.arePlain_iff {members : List Member} :
    Member.ArePlain members ↔ ∀ member ∈ members, member.IsPlain := by
  induction members with
  | nil => simp [Member.ArePlain]
  | cons member members ih => simp [Member.ArePlain, ih]

/-!
### Texts as lists of characters
-/

/-- The mark that follows a node inside of a null union. -/
def nullMark : List Char := [' ', '|', ' ', 'n', 'u', 'l', 'l']

mutual

/-- The characters of a node's text. -/
def Node.chars : Node → List Char
  | .abstract => []
  | .scalar primitive => primitive.toList
  | .array element => ['A', 'r', 'r', 'a', 'y', '<'] ++ element.chars ++ ['>']
  | .struct [] => ['\x7b', '\x7d']
  | .struct (member :: members) =>
      ['\x7b', ' '] ++ member.chars ++ Member.charsRest members ++ [' ', '\x7d']
  | .nullable inner => inner.chars ++ nullMark

/-- The characters of a member's text. -/
def Member.chars : Member → List Char
  | ⟨name, optional, type⟩ =>
      name.toList ++ (if optional then ['?'] else []) ++ [':', ' '] ++ type.chars

/-- The characters of the members after the first, each with its separator before it. -/
def Member.charsRest : List Member → List Char
  | [] => []
  | member :: members => [';', ' '] ++ member.chars ++ Member.charsRest members

end

theorem Member.toList_intercalate (member : Member) (members : List Member) :
    ("; ".intercalate ((member :: members).map fun other => String.ofList other.chars)).toList =
      member.chars ++ Member.charsRest members := by
  induction members generalizing member with
  | nil => simp [Member.charsRest]
  | cons next members ih =>
      have later := ih next
      simp only [List.map_cons] at later ⊢
      rw [String.intercalate_cons_cons, String.toList_append, later]
      simp [Member.charsRest]

mutual

/-- The text of a plain node has these characters. -/
theorem Node.render_eq : (node : Node) → node.IsPlain → node.render = .ok (String.ofList node.chars)
  | .scalar primitive, _ => by simp [Node.render, Node.chars]
  | .array element, plain => by
      rw [Node.render, Node.render_eq element plain]
      apply congrArg Except.ok
      apply String.toList_inj.1
      simp [Node.chars]
  | .struct [], _ => rfl
  | .struct (member :: members), plain => by
      rw [Node.render, Member.renderList_eq (member :: members) plain]
      · apply congrArg Except.ok
        apply String.toList_inj.1
        rw [String.toList_append, String.toList_append, Member.toList_intercalate]
        simp [Node.chars]
      · simp
  | .nullable inner, plain => by
      rw [Node.render, Node.render_eq inner plain.2]
      apply congrArg Except.ok
      apply String.toList_inj.1
      simp [Node.chars, nullMark]

/-- The text of a plain member has these characters. -/
theorem Member.render_eq :
    (member : Member) → member.IsPlain → member.render = .ok (String.ofList member.chars)
  | ⟨name, optional, type⟩, plain => by
      rw [Member.render, Node.render_eq type plain.2]
      apply congrArg Except.ok
      apply String.toList_inj.1
      cases optional <;> simp [Member.chars]

/-- The texts of plain members have these characters. -/
theorem Member.renderList_eq :
    (members : List Member) → Member.ArePlain members →
      Member.renderList members = .ok (members.map fun member => String.ofList member.chars)
  | [], _ => rfl
  | member :: members, plain => by
      rw [Member.renderList, Member.render_eq member plain.1,
        Member.renderList_eq members plain.2]
      rfl

end

/-!
### Reading a text from the front

Each reader answers with what it has read and the text after that. The fuel bounds how deep they
call each other.
-/

/-- The name in front of a text, and the text after it. -/
def splitName (text : List Char) : List Char × List Char :=
  (text.takeWhile isNameChar, text.dropWhile isNameChar)

/-- The question mark in front of a text, if it is there. -/
def takeOptional : List Char → Bool × List Char
  | '?' :: rest => (true, rest)
  | rest => (false, rest)

/-- A node that has been read becomes a null union if the mark comes next. -/
def takeNull : Node × List Char → Node × List Char
  | (node, ' ' :: '|' :: ' ' :: 'n' :: 'u' :: 'l' :: 'l' :: rest) => (.nullable node, rest)
  | read => read

mutual

/-- Read a node up to its null mark. -/
def Node.decodeBare : Nat → List Char → Option (Node × List Char)
  | 0, _ => none
  | fuel + 1, text =>
      match splitName text with
      | ([], '\x7b' :: '\x7d' :: rest) => some (.struct [], rest)
      | ([], '\x7b' :: ' ' :: rest) => do
          let (member, rest) ← Member.decodeFront fuel rest
          let (members, rest) ← Member.decodeRest fuel rest
          return (.struct (member :: members), rest)
      | ([], _) => none
      -- Without the angle bracket after it, this is the name of a scalar like any other.
      | (['A', 'r', 'r', 'a', 'y'], '<' :: rest) => do
          let (element, rest) ← (Node.decodeBare fuel rest).map takeNull
          match rest with
          | '>' :: rest => return (.array element, rest)
          | _ => none
      | (name, rest) => return (.scalar (String.ofList name), rest)

/-- Read a member. -/
def Member.decodeFront : Nat → List Char → Option (Member × List Char)
  | 0, _ => none
  | fuel + 1, text =>
      let (name, rest) := splitName text
      let (optional, rest) := takeOptional rest
      match name, rest with
      | [], _ => none
      | name, ':' :: ' ' :: rest => do
          let (type, rest) ← (Node.decodeBare fuel rest).map takeNull
          return (⟨String.ofList name, optional, type⟩, rest)
      | _, _ => none

/-- Read the members after the first one, up to the end of their structure. -/
def Member.decodeRest : Nat → List Char → Option (List Member × List Char)
  | 0, _ => none
  | fuel + 1, text =>
      match text with
      | ';' :: ' ' :: rest => do
          let (member, rest) ← Member.decodeFront fuel rest
          let (members, rest) ← Member.decodeRest fuel rest
          return (member :: members, rest)
      | ' ' :: '\x7d' :: rest => some ([], rest)
      | _ => none

end

/-- The node that a text shows. -/
def Node.decode (text : String) : Option Node :=
  match (Node.decodeBare text.length text.toList).map takeNull with
  | some (node, []) => some node
  | _ => none

/-- The member that a text shows. -/
def Member.decode (text : String) : Option Member :=
  match Member.decodeFront text.length text.toList with
  | some (member, []) => some member
  | _ => none

/-!
### What follows a node

A node is followed by its null mark or by the delimiter of what it stands in. Neither continues a
name, and no delimiter looks like the mark.
-/

/-- What may follow a complete node. -/
inductive ClosesNode : List Char → Prop where
  | ofText : ClosesNode []
  | ofArray (rest : List Char) : ClosesNode ('>' :: rest)
  | ofMember (rest : List Char) : ClosesNode (';' :: rest)
  | ofStruct (rest : List Char) : ClosesNode (' ' :: '\x7d' :: rest)

/-- A text in front of which no name goes on, and no name is the name of an array. -/
def StopsName (rest : List Char) : Prop :=
  ∀ char ∈ rest.head?, isNameChar char = false ∧ char ≠ '<'

theorem ClosesNode.stopsName {rest : List Char} (closes : ClosesNode rest) : StopsName rest := by
  cases closes <;> simp [StopsName] <;> decide

theorem stopsName_nullMark (rest : List Char) : StopsName (nullMark ++ rest) := by
  simp [StopsName, nullMark]
  decide

theorem ClosesNode.takeNull_eq {rest : List Char} (closes : ClosesNode rest) (node : Node) :
    takeNull (node, rest) = (node, rest) := by
  cases closes <;> rfl

theorem takeNull_nullMark (node : Node) (rest : List Char) :
    takeNull (node, nullMark ++ rest) = (.nullable node, rest) :=
  rfl

theorem IsName.toList_ne_nil {name : String} (isName : IsName name) : name.toList ≠ [] := by
  simpa using isName.1

theorem IsName.splitName {name : String} (isName : IsName name) {rest : List Char}
    (stops : ∀ char ∈ rest.head?, isNameChar char = false) :
    SchemaProjection.splitName (name.toList ++ rest) = (name.toList, rest) := by
  have after : rest.takeWhile isNameChar = [] ∧ rest.dropWhile isNameChar = rest := by
    cases rest with
    | nil => simp
    | cons char rest => simp [stops char rfl]
  rw [SchemaProjection.splitName, List.takeWhile_append_of_pos isName.2,
    List.dropWhile_append_of_pos isName.2, after.1, after.2, List.append_nil]

/-!
### Reading back what was written
-/

theorem Node.unwrapNull_of_isNullable {node : Node} (bare : node.isNullable [] = false) :
    node.unwrapNull = node := by
  cases node with
  | nullable inner => simp [Node.isNullable] at bare
  | _ => rfl

/-- A node is read with its null mark once the node inside of its null union is read back. -/
theorem Node.takeNull_decodeBare {node : Node} (plain : node.IsPlain) {fuel : Nat}
    (bare : ∀ rest, StopsName rest →
      Node.decodeBare fuel (node.unwrapNull.chars ++ rest) = some (node.unwrapNull, rest))
    {rest : List Char} (closes : ClosesNode rest) :
    (Node.decodeBare fuel (node.chars ++ rest)).map takeNull = some (node, rest) := by
  by_cases isNullable : node.isNullable [] = true
  · cases node with
    | nullable inner =>
        have read := bare (nullMark ++ rest) (stopsName_nullMark rest)
        rw [Node.chars, List.append_assoc]
        simp only [Node.unwrapNull] at read
        rw [read, Option.map_some, takeNull_nullMark]
    | _ => simp [Node.isNullable] at isNullable
  · have same : node.unwrapNull = node := Node.unwrapNull_of_isNullable (by simpa using isNullable)
    have read := bare rest closes.stopsName
    rw [same] at read
    rw [read, Option.map_some, closes.takeNull_eq]

theorem Node.decodeBare_scalar {primitive : String} (isName : IsName primitive) (fuel : Nat)
    {rest : List Char} (stops : StopsName rest) :
    Node.decodeBare (fuel + 1) (primitive.toList ++ rest) = some (.scalar primitive, rest) := by
  have split := isName.splitName fun char front => (stops char front).1
  have named := isName.toList_ne_nil
  rw [Node.decodeBare, split]
  split
  · simp_all
  · simp_all
  · simp_all
  · next isArray =>
      have := (stops '<' (by simp_all)).2
      simp at this
  · next same =>
      obtain ⟨rfl, rfl⟩ := Prod.mk.inj same
      rw [String.ofList_toList]
      rfl

theorem splitName_array (rest : List Char) :
    splitName ('A' :: 'r' :: 'r' :: 'a' :: 'y' :: '<' :: rest) =
      (['A', 'r', 'r', 'a', 'y'], '<' :: rest) :=
  rfl

theorem splitName_struct (rest : List Char) :
    splitName ('\x7b' :: rest) = ([], '\x7b' :: rest) :=
  rfl

/-- What stands between the name and the type of a member ends the name. -/
theorem optionalMark_stops (optional : Bool) (rest : List Char) :
    ∀ char ∈ ((if optional then ['?'] else []) ++ ':' :: rest).head?, isNameChar char = false := by
  cases optional <;> simp <;> decide

theorem takeOptional_optionalMark (optional : Bool) (rest : List Char) :
    takeOptional ((if optional then ['?'] else []) ++ ':' :: rest) = (optional, ':' :: rest) := by
  cases optional <;> rfl

theorem closesNode_charsRest (members : List Member) (rest : List Char) :
    ClosesNode (Member.charsRest members ++ ' ' :: '\x7d' :: rest) := by
  cases members with
  | nil => exact .ofStruct rest
  | cons member members => exact .ofMember _

/-!
The induction is on the tree. Fuel as long as the text is enough, since every step inwards leaves at
least one character behind. A null union is read like the node inside of it, because its mark is
left to whoever asked for the node.
-/

mutual

/-- A plain node is read up to its null mark. -/
theorem Node.decodeBare_chars : (node : Node) → node.IsPlain → (fuel : Nat) →
    node.chars.length ≤ fuel → (rest : List Char) → StopsName rest →
      Node.decodeBare fuel (node.unwrapNull.chars ++ rest) = some (node.unwrapNull, rest)
  | .scalar primitive, plain, fuel, enough, rest, stops => by
      cases fuel with
      | zero =>
          have := plain.toList_ne_nil
          simp_all [Node.chars]
      | succ fuel => exact Node.decodeBare_scalar plain fuel stops
  | .array element, plain, fuel, enough, rest, stops => by
      simp only [Node.chars, List.length_append, List.length_cons, List.length_nil] at enough
      cases fuel with
      | zero => omega
      | succ fuel =>
          have plain : element.IsPlain := plain
          have read := Node.takeNull_decodeBare plain
            (Node.decodeBare_chars element plain fuel (by omega)) (ClosesNode.ofArray rest)
          have split := splitName_array (element.chars ++ '>' :: rest)
          simp only [Node.unwrapNull, Node.chars, List.append_assoc, List.cons_append,
            List.nil_append]
          rw [Node.decodeBare, split]
          simp only [read]
          rfl
  | .struct [], _, fuel, enough, rest, stops => by
      cases fuel with
      | zero => simp [Node.chars] at enough
      | succ fuel => rfl
  | .struct (member :: members), plain, fuel, enough, rest, stops => by
      simp only [Node.chars, List.length_append, List.length_cons, List.length_nil] at enough
      cases fuel with
      | zero => omega
      | succ fuel =>
          have first := Member.decodeFront_chars member plain.1 fuel (by omega)
            (Member.charsRest members ++ ' ' :: '\x7d' :: rest) (closesNode_charsRest members rest)
          have later := Member.decodeRest_chars members plain.2 fuel (by omega) rest
          have split := splitName_struct (' ' :: (member.chars ++ (Member.charsRest members ++
            ' ' :: '\x7d' :: rest)))
          simp only [Node.unwrapNull, Node.chars, List.append_assoc, List.cons_append,
            List.nil_append]
          rw [Node.decodeBare, split]
          simp only [first, Option.bind_eq_bind, Option.bind_some, later]
          rfl
  | .nullable inner, plain, fuel, enough, rest, stops => by
      have enough : inner.chars.length ≤ fuel := by
        simp only [Node.chars, List.length_append] at enough
        omega
      have read := Node.decodeBare_chars inner plain.2 fuel enough rest stops
      rw [Node.unwrapNull_of_isNullable plain.1] at read
      exact read

/-- A plain member is read. -/
theorem Member.decodeFront_chars : (member : Member) → member.IsPlain → (fuel : Nat) →
    member.chars.length ≤ fuel → (rest : List Char) → ClosesNode rest →
      Member.decodeFront fuel (member.chars ++ rest) = some (member, rest)
  | ⟨name, optional, type⟩, plain, fuel, enough, rest, closes => by
      simp only [Member.chars, List.length_append, List.length_cons, List.length_nil] at enough
      cases fuel with
      | zero => omega
      | succ fuel =>
          have read := Node.takeNull_decodeBare plain.2
            (Node.decodeBare_chars type plain.2 fuel (by omega)) closes
          simp only [Member.chars, List.append_assoc, List.cons_append, List.nil_append]
          rw [Member.decodeFront, plain.1.splitName (optionalMark_stops optional _)]
          simp only [takeOptional_optionalMark]
          split
          · next nameless => exact absurd nameless plain.1.toList_ne_nil
          · next same _ =>
              simp only [List.cons.injEq, true_and] at same
              subst same
              simp only [read, Option.bind_eq_bind, Option.bind_some, String.ofList_toList]
              rfl
          · simp_all

/-- Plain members are read up to the end of their structure. -/
theorem Member.decodeRest_chars : (members : List Member) → Member.ArePlain members →
    (fuel : Nat) → (Member.charsRest members).length < fuel → (rest : List Char) →
      Member.decodeRest fuel (Member.charsRest members ++ ' ' :: '\x7d' :: rest) =
        some (members, rest)
  | [], _, fuel, enough, rest => by
      cases fuel with
      | zero => simp at enough
      | succ fuel => rfl
  | member :: members, plain, fuel, enough, rest => by
      simp only [Member.charsRest, List.length_append, List.length_cons, List.length_nil] at enough
      cases fuel with
      | zero => omega
      | succ fuel =>
          have first := Member.decodeFront_chars member plain.1 fuel (by omega)
            (Member.charsRest members ++ ' ' :: '\x7d' :: rest) (closesNode_charsRest members rest)
          have later := Member.decodeRest_chars members plain.2 fuel (by omega) rest
          simp only [Member.charsRest, List.append_assoc, List.cons_append, List.nil_append]
          rw [Member.decodeRest]
          simp only [first, Option.bind_eq_bind, Option.bind_some, later]
          rfl

end

theorem Node.decode_chars {node : Node} (plain : node.IsPlain) :
    Node.decode (String.ofList node.chars) = some node := by
  have read := Node.takeNull_decodeBare plain
    (Node.decodeBare_chars node plain node.chars.length (Nat.le_refl _)) ClosesNode.ofText
  rw [List.append_nil] at read
  rw [Node.decode, String.toList_ofList, String.length_ofList, read]

theorem Member.decode_chars {member : Member} (plain : member.IsPlain) :
    Member.decode (String.ofList member.chars) = some member := by
  have read := Member.decodeFront_chars member plain member.chars.length (Nat.le_refl _) []
    ClosesNode.ofText
  rw [List.append_nil] at read
  rw [Member.decode, String.toList_ofList, String.length_ofList, read]

/-!
### Nothing else is read

Whatever a reader answers with is plain and shows as the text that was read.
-/

theorem splitName_append (text : List Char) : (splitName text).1 ++ (splitName text).2 = text :=
  List.takeWhile_append_dropWhile

theorem takeOptional_append (text : List Char) :
    (if (takeOptional text).1 then ['?'] else []) ++ (takeOptional text).2 = text := by
  unfold takeOptional
  split <;> rfl

theorem isName_of_splitName {text name rest : List Char} (split : splitName text = (name, rest))
    (named : name ≠ []) : IsName (String.ofList name) := by
  have isTaken : text.takeWhile isNameChar = name := congrArg Prod.fst split
  constructor
  · simpa using named
  · intro char isIn
    rw [String.toList_ofList, ← isTaken] at isIn
    exact List.all_eq_true.1 List.all_takeWhile char isIn

/-- A reader of nodes that answers rightly still does so when the null mark is taken along. -/
theorem Node.of_takeNull {text rest : List Char} {node : Node}
    {read : Option (Node × List Char)}
    (bare : ∀ inner after, read = some (inner, after) →
      inner.IsPlain ∧ inner.isNullable [] = false ∧ text = inner.chars ++ after)
    (taken : read.map takeNull = some (node, rest)) :
    node.IsPlain ∧ text = node.chars ++ rest := by
  obtain ⟨⟨inner, after⟩, isRead, marked⟩ := Option.map_eq_some_iff.1 taken
  obtain ⟨plain, isBare, same⟩ := bare inner after isRead
  unfold takeNull at marked
  split at marked
  · next isMarked =>
      obtain ⟨rfl, rfl⟩ := Prod.mk.inj isMarked
      obtain ⟨rfl, rfl⟩ := Prod.mk.inj marked
      constructor
      · exact ⟨isBare, plain⟩
      · simp [same, Node.chars, nullMark]
  · obtain ⟨rfl, rfl⟩ := Prod.mk.inj marked
    exact ⟨plain, same⟩

mutual

/-- What is read up to a null mark is plain, shows as the text read, and is no null union. -/
theorem Node.of_decodeBare : (fuel : Nat) → (text : List Char) → (node : Node) →
    (rest : List Char) → Node.decodeBare fuel text = some (node, rest) →
      node.IsPlain ∧ node.isNullable [] = false ∧ text = node.chars ++ rest
  | 0, _, _, _, read => by simp [Node.decodeBare] at read
  | fuel + 1, text, node, rest, read => by
      have whole := splitName_append text
      rw [Node.decodeBare] at read
      split at read
      · next after split =>
          obtain ⟨rfl, rfl⟩ := Prod.mk.inj (Option.some.inj read)
          rw [split] at whole
          exact ⟨trivial, rfl, whole.symm⟩
      · next after split =>
          simp only [Option.bind_eq_bind, Option.bind_eq_some_iff, Prod.exists] at read
          obtain ⟨member, later, isMember, members, last, isMembers, same⟩ := read
          obtain ⟨rfl, rfl⟩ := Prod.mk.inj (Option.some.inj same)
          obtain ⟨plain, front⟩ := Member.of_decodeFront fuel after member later isMember
          obtain ⟨plainRest, back⟩ := Member.of_decodeRest fuel later members last isMembers
          rw [split, front, back] at whole
          constructor
          · exact ⟨plain, plainRest⟩
          · simp [← whole, Node.chars, Node.isNullable]
      · simp at read
      · next after split =>
          simp only [Option.bind_eq_bind, Option.bind_eq_some_iff, Prod.exists] at read
          obtain ⟨element, later, isElement, closed⟩ := read
          split at closed
          · obtain ⟨rfl, rfl⟩ := Prod.mk.inj (Option.some.inj closed)
            obtain ⟨plain, inside⟩ := Node.of_takeNull (Node.of_decodeBare fuel after) isElement
            rw [split, inside] at whole
            constructor
            · exact plain
            · simp [← whole, Node.chars, Node.isNullable]
          · simp at closed
      · next _ _ _ _ named _ split =>
          obtain ⟨rfl, rfl⟩ := Prod.mk.inj (Option.some.inj read)
          rw [split] at whole
          exact ⟨isName_of_splitName split named, rfl, by simp [← whole, Node.chars]⟩

/-- A member that is read is plain and shows as the text read. -/
theorem Member.of_decodeFront : (fuel : Nat) → (text : List Char) → (member : Member) →
    (rest : List Char) → Member.decodeFront fuel text = some (member, rest) →
      member.IsPlain ∧ text = member.chars ++ rest
  | 0, _, _, _, read => by simp [Member.decodeFront] at read
  | fuel + 1, text, member, rest, read => by
      have whole := splitName_append text
      rw [Member.decodeFront] at read
      simp only at read
      split at read
      · simp at read
      · next after isAfter named =>
          simp only [Option.bind_eq_bind, Option.bind_eq_some_iff, Prod.exists] at read
          obtain ⟨type, later, isType, same⟩ := read
          obtain ⟨rfl, rfl⟩ := Prod.mk.inj (Option.some.inj same)
          obtain ⟨plain, inside⟩ := Node.of_takeNull (Node.of_decodeBare fuel after) isType
          have marked := takeOptional_append (splitName text).2
          rw [isAfter, inside] at marked
          rw [← marked] at whole
          constructor
          · exact ⟨isName_of_splitName rfl named, plain⟩
          · simpa [Member.chars] using whole.symm
      · simp at read

/-- Members that are read are plain and show as the text read up to the end of their structure. -/
theorem Member.of_decodeRest : (fuel : Nat) → (text : List Char) → (members : List Member) →
    (rest : List Char) → Member.decodeRest fuel text = some (members, rest) →
      Member.ArePlain members ∧ text = Member.charsRest members ++ ' ' :: '\x7d' :: rest
  | 0, _, _, _, read => by simp [Member.decodeRest] at read
  | fuel + 1, text, members, rest, read => by
      unfold Member.decodeRest at read
      split at read
      · next after =>
          simp only [Option.bind_eq_bind, Option.bind_eq_some_iff, Prod.exists] at read
          obtain ⟨member, later, isMember, others, last, isOthers, same⟩ := read
          obtain ⟨rfl, rfl⟩ := Prod.mk.inj (Option.some.inj same)
          obtain ⟨plain, front⟩ := Member.of_decodeFront fuel after member later isMember
          obtain ⟨plainRest, back⟩ := Member.of_decodeRest fuel later others last isOthers
          constructor
          · exact ⟨plain, plainRest⟩
          · simp [front, back, Member.charsRest]
      · obtain ⟨rfl, rfl⟩ := Prod.mk.inj (Option.some.inj read)
        exact ⟨trivial, rfl⟩
      · simp at read

end

/-- The decoder answers exactly for the texts of plain nodes, and with the node that is shown. -/
theorem Node.decode_eq_some_iff {text : String} {node : Node} :
    Node.decode text = some node ↔ node.IsPlain ∧ node.render = .ok text := by
  constructor
  · intro read
    rw [Node.decode] at read
    split at read
    · next found isRead =>
        rcases Option.some.inj read with rfl
        obtain ⟨plain, same⟩ := Node.of_takeNull (Node.of_decodeBare _ _) isRead
        rw [List.append_nil] at same
        rw [Node.render_eq _ plain, ← same, String.ofList_toList]
        exact ⟨plain, rfl⟩
    · simp at read
  · intro ⟨plain, shows⟩
    rw [Node.render_eq node plain] at shows
    rw [← Except.ok.inj shows, Node.decode_chars plain]

/-- The decoder answers exactly for the texts of plain members, and with the member that is
    shown. -/
theorem Member.decode_eq_some_iff {text : String} {member : Member} :
    Member.decode text = some member ↔ member.IsPlain ∧ member.render = .ok text := by
  constructor
  · intro read
    rw [Member.decode] at read
    split at read
    · next found isRead =>
        rcases Option.some.inj read with rfl
        obtain ⟨plain, same⟩ := Member.of_decodeFront _ _ _ _ isRead
        rw [List.append_nil] at same
        rw [Member.render_eq _ plain, ← same, String.ofList_toList]
        exact ⟨plain, rfl⟩
    · simp at read
  · intro ⟨plain, shows⟩
    rw [Member.render_eq member plain] at shows
    rw [← Except.ok.inj shows, Member.decode_chars plain]

/-- What ends the name in front of a node. -/
theorem Node.splitName_chars {node : Node} (plain : node.IsPlain) (rest : List Char)
    (stops : StopsName rest) (bare : node.isNullable [] = false) :
    (splitName (node.chars ++ rest)).2.head? ∈ [rest.head?, some '<', some '\x7b'] := by
  cases node with
  | abstract => exact plain.elim
  | scalar primitive =>
      rw [Node.chars, IsName.splitName plain fun char front => (stops char front).1]
      simp
  | array element => simp [Node.chars, splitName_array]
  | struct members => cases members <;> simp [Node.chars, splitName_struct]
  | nullable inner => simp [Node.isNullable] at bare

/-- A node and a member never show as the same text, as only the name in front of a member ends with
    a question mark or a colon. -/
theorem Node.chars_ne_chars {node : Node} (plain : node.IsPlain) {member : Member}
    (memberPlain : member.IsPlain) : node.chars ≠ member.chars := by
  intro same
  have ends : (splitName member.chars).2.head? ∈ [none, some ' ', some '<', some '\x7b'] := by
    rw [← same]
    by_cases bare : node.isNullable [] = false
    · have front := Node.splitName_chars plain [] (by simp [StopsName]) bare
      simp only [List.append_nil, List.mem_cons, List.head?_nil] at front
      rcases front with none | array | struct
      · simp [none]
      · simp [array]
      · simp_all
    · cases node with
      | nullable inner =>
          have front := Node.splitName_chars plain.2 nullMark (stopsName_nullMark []) plain.1
          simp_all [Node.chars, nullMark]
      | _ => simp [Node.isNullable] at bare
  cases member with
  | mk name optional type =>
      have split := memberPlain.1.splitName (optionalMark_stops optional (' ' :: type.chars))
      simp only [Member.chars, List.append_assoc, List.cons_append, List.nil_append] at ends
      rw [split] at ends
      cases optional <;> simp at ends

end SchemaProjection
