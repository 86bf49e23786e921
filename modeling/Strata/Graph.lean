import Strata.Text

/-!
Element graphs: the code elements and dependencies that rules are checked against.

A graph lists elements and dependencies in the order of its document; names may repeat, and
dependencies may mention names that no element has. `Dependency.description` is the line by which a
report tells a dependency.
-/

namespace Strata

/-- What kind of code element a name belongs to. -/
inductive ElementKind where
  | classType
  | interfaceType
  | enumType
  | annotationType
  deriving DecidableEq

namespace ElementKind

/-- Elements that do not say otherwise are classes. -/
instance : Inhabited ElementKind := ⟨.classType⟩

/-- The word that stands before the name in descriptions. -/
def label : ElementKind → String
  | classType => "Class"
  | interfaceType => "Interface"
  | enumType => "Enum"
  | annotationType => "Annotation"

/-- The word by which graph documents name the kind. -/
def key : ElementKind → String
  | classType => "class"
  | interfaceType => "interface"
  | enumType => "enum"
  | annotationType => "annotation"

/-- The words of graph documents with what they mean. -/
def keyed : List (String × ElementKind) :=
  [classType, interfaceType, enumType, annotationType].map fun k => (k.key, k)

end ElementKind

/-- A named code element. -/
structure Element where
  /-- The name with its package, such as `com.example.domain.User`. -/
  name : String
  kind : ElementKind
  deriving DecidableEq

namespace Element

/-- The name with the kind before it. -/
def display (e : Element) : String := e.kind.label ++ " <" ++ e.name ++ ">"

/-- The name without its package: what follows the last dot, the whole name if there is none. -/
def simpleName (e : Element) : String :=
  String.ofList (e.name.toList.reverse.takeWhile (· != '.')).reverse

end Element

/-- How an element uses another. -/
inductive DependencyKind where
  | inheritance
  | implementation
  | fieldType
  | parameterType
  | returnType
  | methodCall
  | fieldAccess
  /-- Any other use. -/
  | otherUse
  deriving DecidableEq

namespace DependencyKind

/-- Dependencies that do not say otherwise are of no special kind. -/
instance : Inhabited DependencyKind := ⟨.otherUse⟩

/-- The phrase between the two names in descriptions. -/
def phrase : DependencyKind → String
  | inheritance => "extends"
  | implementation => "implements interface"
  | fieldType => "has field of type"
  | parameterType => "has method parameter of type"
  | returnType => "has method return type"
  | methodCall => "calls method of"
  | fieldAccess => "accesses field of"
  | otherUse => "depends on"

/-- The word by which graph documents name the kind. -/
def key : DependencyKind → String
  | inheritance => "extends"
  | implementation => "implements"
  | fieldType => "field-type"
  | parameterType => "parameter-type"
  | returnType => "return-type"
  | methodCall => "method-call"
  | fieldAccess => "field-access"
  | otherUse => "depends-on"

/-- The words of graph documents with what they mean. -/
def keyed : List (String × DependencyKind) :=
  [inheritance, implementation, fieldType, parameterType, returnType, methodCall, fieldAccess,
    otherUse].map fun k => (k.key, k)

end DependencyKind

/-- A dependency of the element named `origin` on the one named `target`. -/
structure Dependency where
  origin : String
  target : String
  kind : DependencyKind
  sourceFile : Option String
  line : Option UInt64
  /-- The kind of the element named `origin`, if it is known. -/
  originKind : Option ElementKind
  deriving DecidableEq

namespace Dependency

/-- Where a dependency was found. A line without a file is not told. -/
def location (d : Dependency) : String :=
  match d.sourceFile, d.line with
  | some file, some line => " in (" ++ file ++ ":" ++ toString line.toNat ++ ")"
  | some file, none => " in (" ++ file ++ ")"
  | none, _ => ""

/-- The line by which a report tells a dependency. An origin of unknown kind is called a class. -/
def description (d : Dependency) : String :=
  Element.display ⟨d.origin, d.originKind.getD default⟩ ++ " " ++ d.kind.phrase
    ++ " <" ++ d.target ++ ">" ++ d.location

end Dependency

/-- Code elements and the dependencies between them. -/
structure Graph where
  elements : List Element
  dependencies : List Dependency
  deriving DecidableEq

namespace Graph

/-- The graph without elements and dependencies. -/
def empty : Graph := ⟨[], []⟩

/-- The dependencies of the element of a name. -/
def dependenciesFrom (g : Graph) (name : String) : List Dependency :=
  g.dependencies.filter (·.origin == name)

/-- The kind of the last element of a name. -/
def kindOf? (g : Graph) (name : String) : Option ElementKind :=
  (g.elements.reverse.find? (·.name == name)).map Element.kind

/-- The graph with every missing origin kind taken from the elements, if one has the name. -/
def resolveOriginKinds (g : Graph) : Graph :=
  { g with dependencies := g.dependencies.map fun d =>
      { d with originKind := d.originKind.or (g.kindOf? d.origin) } }

end Graph

end Strata
