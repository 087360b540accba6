/-
Module: SchemaProjection.Node.Text
Purpose: The text of nodes, members and interfaces. This is the only place where a node becomes
  text; it fails exactly when an abstract node is in what it shows.
Imports: SchemaProjection.Node.Basic
Main exports: Node.render, Member.render, Interface.render, Interface.renderAll
-/
import SchemaProjection.Node.Basic

namespace SchemaProjection

mutual

/-- The text of a node. A structure stands between braces, with its members after one another. -/
def Node.render : Node → Except Fault String
  | .abstract => .error .abstractNode
  | .scalar primitive => .ok primitive
  | .array element => do
      let text ← element.render
      return "Array<" ++ text ++ ">"
  | .struct [] => .ok "\x7b\x7d"
  | .struct members => do
      let texts ← Member.renderList members
      return "\x7b " ++ "; ".intercalate texts ++ " \x7d"
  | .nullable inner => do
      let text ← inner.render
      return text ++ " | null"

/-- The text of a member: its name, a question mark if it may be left out, and its type. -/
def Member.render : Member → Except Fault String
  | ⟨name, optional, type⟩ => do
      let text ← type.render
      return name ++ (if optional then "?" else "") ++ ": " ++ text

/-- The texts of some members in order. -/
def Member.renderList : List Member → Except Fault (List String)
  | [] => .ok []
  | member :: members => do
      let text ← member.render
      let texts ← Member.renderList members
      return text :: texts

end

/-!
### What has a text

A text exists exactly where no abstract node stands in the way.
-/

mutual

/-- A node has a text exactly when it is concrete. -/
theorem Node.isOk_render : (node : Node) → node.render.isOk = node.isConcrete
  | .abstract => rfl
  | .scalar _ => rfl
  | .array element => by
      rw [Node.isConcrete, ← Node.isOk_render element, Node.render]
      cases element.render <;> rfl
  | .struct [] => rfl
  | .struct (member :: members) => by
      rw [Node.isConcrete, ← Member.isOk_renderList (member :: members), Node.render]
      · cases Member.renderList (member :: members) <;> rfl
      · simp
  | .nullable inner => by
      rw [Node.isConcrete, ← Node.isOk_render inner, Node.render]
      cases inner.render <;> rfl

/-- A member has a text exactly when it is concrete. -/
theorem Member.isOk_render : (member : Member) → member.render.isOk = member.isConcrete
  | ⟨_, _, type⟩ => by
      rw [Member.isConcrete, ← Node.isOk_render type, Member.render]
      cases type.render <;> rfl

/-- Some members have their texts exactly when all of them are concrete. -/
theorem Member.isOk_renderList :
    (members : List Member) → (Member.renderList members).isOk = Member.areConcrete members
  | [] => rfl
  | member :: members => by
      rw [Member.areConcrete, ← Member.isOk_render member, ← Member.isOk_renderList members,
        Member.renderList]
      cases member.render with
      | error _ => rfl
      | ok _ => cases Member.renderList members <;> rfl

end

namespace Interface

/-- The indentation of a member unless another one is asked for. -/
def defaultIndent : String := "  "

/-- The comment above an interface; an empty description has none. -/
def commentLines (interface : Interface) : List String :=
  match interface.description with
  | none | some "" => []
  | some description => ["/** " ++ description ++ " */"]

/-- The declaration of an interface, one line for each member. -/
def declarationLines (interface : Interface) (indent : String) (members : List String) :
    List String :=
  match members with
  | [] => ["export interface " ++ interface.name ++ " \x7b\x7d"]
  | members =>
      ("export interface " ++ interface.name ++ " \x7b") ::
        members.map (fun member => indent ++ member ++ ";") ++ ["\x7d"]

/-- The text of an interface, without a final line break. -/
def render (interface : Interface) (indent : String) : Except Fault String := do
  let members ← Member.renderList interface.members
  return "\n".intercalate (interface.commentLines ++ interface.declarationLines indent members)

/-- The text of several interfaces, with an empty line between two and a final line break. -/
def renderAll (interfaces : List Interface) (indent : String) : Except Fault String := do
  let texts ← interfaces.mapM fun interface => interface.render indent
  return "\n\n".intercalate texts ++ "\n"

end Interface

end SchemaProjection
