/-
Module: SchemaProjection.Node.Basic
Purpose: The output side. A member has a type node: a scalar, an array, a structure of members, or a
  null union, which never holds another null union directly. One further node, the abstract one, has
  no text of its own. Names of members may repeat, and a lookup answers with the first.
Imports: SchemaProjection.Kind, SchemaProjection.Fault, SchemaProjection.Schema.Basic
Main exports: Node, Member, Interface, Node.isConcrete, Node.same, Member.same, Interface.same,
  Node.orNull, Member.lookup, Interface.lookup
-/
import SchemaProjection.Kind
import SchemaProjection.Fault
import SchemaProjection.Schema.Basic

namespace SchemaProjection

mutual

/-- The type of an emitted member. -/
inductive Node where
  | abstract
  | scalar (primitive : String)
  | array (element : Node)
  | struct (members : List Member)
  | nullable (inner : Node)

/-- An emitted member, with the mark that it may be left out. -/
structure Member where
  name : String
  optional : Bool
  type : Node

end

/-- The projection of a container, exported as one interface. -/
structure Interface where
  name : String
  kind : Kind
  members : List Member
  description : Option String

instance : Inhabited Node := ⟨.abstract⟩
instance : Inhabited Member := ⟨"", false, default⟩

/-!
### Equality
-/

mutual

/-- Decide whether two nodes are equal. -/
def Node.decEq : (a b : Node) → Decidable (a = b)
  | .abstract, .abstract => isTrue rfl
  | .scalar p, .scalar q =>
    if same : p = q then isTrue (by rw [same]) else isFalse (by simp [same])
  | .array a, .array b =>
    match a.decEq b with
    | isTrue same => isTrue (by rw [same])
    | isFalse differ => isFalse (by simp [differ])
  | .struct as, .struct bs =>
    match Member.decEqList as bs with
    | isTrue same => isTrue (by rw [same])
    | isFalse differ => isFalse (by simp [differ])
  | .nullable a, .nullable b =>
    match a.decEq b with
    | isTrue same => isTrue (by rw [same])
    | isFalse differ => isFalse (by simp [differ])
  | .abstract, .scalar _ | .abstract, .array _ | .abstract, .struct _ | .abstract, .nullable _
  | .scalar _, .abstract | .scalar _, .array _ | .scalar _, .struct _ | .scalar _, .nullable _
  | .array _, .abstract | .array _, .scalar _ | .array _, .struct _ | .array _, .nullable _
  | .struct _, .abstract | .struct _, .scalar _ | .struct _, .array _ | .struct _, .nullable _
  | .nullable _, .abstract | .nullable _, .scalar _ | .nullable _, .array _
  | .nullable _, .struct _ => isFalse (by simp)

/-- Decide whether two members are equal. -/
def Member.decEq : (a b : Member) → Decidable (a = b)
  | ⟨m, o, s⟩, ⟨n, p, t⟩ =>
    match s.decEq t, decEq (m, o) (n, p) with
    | isTrue type, isTrue rest => isTrue (by simp_all)
    | isFalse type, _ => isFalse (by simp [type])
    | _, isFalse rest => isFalse (by intro same; simp_all)

/-- Decide whether two lists of members are equal. -/
def Member.decEqList : (as bs : List Member) → Decidable (as = bs)
  | [], [] => isTrue rfl
  | a :: as, b :: bs =>
    match a.decEq b, Member.decEqList as bs with
    | isTrue first, isTrue rest => isTrue (by rw [first, rest])
    | isFalse first, _ => isFalse (by simp [first])
    | _, isFalse rest => isFalse (by simp [rest])
  | [], _ :: _ | _ :: _, [] => isFalse (by simp)

end

instance : DecidableEq Node := Node.decEq
instance : DecidableEq Member := Member.decEq

deriving instance DecidableEq for Interface

/-!
### Comparison

An abstract node has no structure by which it could be compared, so it is the same as no node, not
even as another abstract one, and neither is anything that holds it.
-/

mutual

/-- Whether no abstract node is in a node. -/
def Node.isConcrete : Node → Bool
  | .abstract => false
  | .scalar _ => true
  | .array element => element.isConcrete
  | .struct members => Member.areConcrete members
  | .nullable inner => inner.isConcrete

/-- Whether no abstract node is in a member. -/
def Member.isConcrete : Member → Bool
  | ⟨_, _, type⟩ => type.isConcrete

/-- Whether no abstract node is in any of some members. -/
def Member.areConcrete : List Member → Bool
  | [] => true
  | member :: members => member.isConcrete && Member.areConcrete members

end

/-- Whether two nodes are the same. -/
def Node.same (a b : Node) : Bool := a == b && a.isConcrete

/-- Whether two members are the same. -/
def Member.same (a b : Member) : Bool := a == b && a.isConcrete

/-- Whether two interfaces are the same. -/
def Interface.same (a b : Interface) : Bool := a == b && Member.areConcrete a.members

/-!
### Null unions
-/

namespace Node

/-- The null union of a node. A null union has none of its own. -/
def orNull : Node → Except Fault Node
  | .nullable _ => .error .nestedNull
  | inner => .ok (.nullable inner)

/-- The node inside of a null union; any other node is its own. -/
def unwrapNull : Node → Node
  | .nullable inner => inner
  | node => node

/-- Whether a node is a null union whose inner node passes every check. -/
def isNullable (node : Node) (checks : List (Node → Bool)) : Bool :=
  match node with
  | .nullable inner => checks.all fun check => check inner
  | _ => false

/-- Whether a node is the scalar of a primitive. -/
def isScalar (node : Node) (primitive : String) : Bool :=
  match node with
  | .scalar own => own == primitive
  | _ => false

/-- Whether a node is a number. -/
def isNumber (node : Node) : Bool := node.isScalar "number"

/-- Whether a node is a string. -/
def isString (node : Node) : Bool := node.isScalar "string"

/-- Whether a node is a truth value. -/
def isBoolean (node : Node) : Bool := node.isScalar "boolean"

/-- Whether a node is an array, and its element passes the check, if there is one. -/
def isArray (node : Node) (elementCheck : Option (Node → Bool)) : Bool :=
  match node with
  | .array element => elementCheck.all fun check => check element
  | _ => false

/-- Whether a node is a structure of members. -/
def isStruct : Node → Bool
  | .struct _ => true
  | _ => false

end Node

/-!
### Lookup
-/

/-- The first member of a name among the members of `owner`. -/
def Member.lookup (owner name : String) : List Member → Except Fault Member
  | [] => .error (.unknownMember owner name)
  | member :: rest =>
      if member.name = name then .ok member else Member.lookup owner name rest

/-- The first member of a name in an interface. -/
def Interface.lookup (interface : Interface) (name : String) : Except Fault Member :=
  Member.lookup interface.name name interface.members

end SchemaProjection
