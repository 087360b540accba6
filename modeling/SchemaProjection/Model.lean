/-
Module: SchemaProjection.Model
Purpose: A model, the containers of some declarations under names that differ, with the interfaces
  that they project to. Declarations are built one after another, and the first that cannot be built
  or brings a name that was taken ends the construction; nothing is projected before all are built.
Imports: SchemaProjection.Classes.Declaration, SchemaProjection.Projection,
  SchemaProjection.Node.Text
Main exports: Source, Model, Model.build, Model.interface, Model.members, Model.member, Model.render
-/
import SchemaProjection.Classes.Declaration
import SchemaProjection.Projection
import SchemaProjection.Node.Text

namespace SchemaProjection

/-- What a model is made of: a container as it is, or something to build one from. -/
inductive Source where
  | container (container : Container)
  | subject (subject : Subject)
deriving Inhabited

/-- The container of a source. -/
def Source.build (table : ClassTable) (defaults : Defaults) : Source → Except Fault Container
  | .container ready => .ok ready
  | .subject offered => table.build defaults offered

/-- The containers of some sources in order, given the names that are taken already. -/
def Source.collect (table : ClassTable) (defaults : Defaults) (taken : List String) :
    List Source → Except Fault (List Container)
  | [] => .ok []
  | source :: sources => do
      let container ← source.build table defaults
      if taken.contains container.name then .error (.duplicateContainer container.name)
      else do
        let containers ← Source.collect table defaults (container.name :: taken) sources
        return container :: containers

/-- Containers with the options of their projection and their interfaces, both in order. -/
structure Model where
  options : Options
  containers : List Container
  interfaces : List Interface

namespace Model

/-- Make a model of one or more sources. -/
def build (table : ClassTable) (options : Options) (defaults : Defaults) (sources : List Source) :
    Traced Model :=
  if sources.isEmpty then .ofExcept (.error .emptyModel)
  else do
    let containers ← .ofExcept (Source.collect table defaults [] sources)
    let interfaces ← Container.projectAll options containers
    Traced.notify (.built containers.length)
    return ⟨options, containers, interfaces⟩

/-- The interface of a name. -/
def interface (model : Model) (name : String) : Except Fault Interface :=
  match model.interfaces.find? fun interface => interface.name == name with
  | some interface => .ok interface
  | none => .error (.unknownContainer name)

/-- The members of the interface of a name. -/
def members (model : Model) (name : String) : Except Fault (List Member) :=
  return (← model.interface name).members

/-- A member of an interface, both by name. -/
def member (model : Model) (container name : String) : Except Fault Member := do
  let interface ← model.interface container
  interface.lookup name

/-- The text of all interfaces. -/
def render (model : Model) : Except Fault String :=
  Interface.renderAll model.interfaces Interface.defaultIndent

/-- The model in short, by the names of its containers. -/
def display (model : Model) : String :=
  "Model(" ++ ", ".intercalate (model.containers.map Container.name) ++ ")"

end Model

end SchemaProjection
