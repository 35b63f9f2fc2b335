import Mathlib.Data.List.Infix

/-!
# Well nested markup

Trees of elements as HTML writes them, and where an element of a tree stands in
its text.
-/

namespace OhMyClass.Markup

def isBlank (c : Char) : Bool :=
  c == ' ' || c == '\t' || c == '\n' || c == '\r' || c == '\x0c'

def isNameChar (c : Char) : Bool :=
  !isBlank c && !(['"', '\'', '<', '>', '/', '='].contains c)

structure Blanks where
  chars : List Char
  blank : ∀ c ∈ chars, isBlank c = true

structure Name where
  chars : List Char
  ne_nil : chars ≠ []
  named : ∀ c ∈ chars, isNameChar c = true

/-- What an attribute is set to, as it is written after the equals sign. -/
inductive Value where
  | doubleQuoted (chars : List Char) (closed : '"' ∉ chars)
  | singleQuoted (chars : List Char) (closed : '\'' ∉ chars)
  | unquoted (name : Name)

def Value.chars : Value → List Char
  | .doubleQuoted chars _ => '"' :: (chars ++ ['"'])
  | .singleQuoted chars _ => '\'' :: (chars ++ ['\''])
  | .unquoted name => name.chars

/-- An attribute with the blanks before it. -/
structure Attribute where
  gap : Blanks
  name : Name
  /-- The blanks on both sides of the equals sign, and the value. -/
  value : Option (Blanks × Blanks × Value)
  separated : gap.chars ≠ []

/-- The attribute without the blanks before it. -/
def Attribute.written (attr : Attribute) : List Char :=
  attr.name.chars ++
    match attr.value with
    | none => []
    | some (before, after, value) => before.chars ++ '=' :: (after.chars ++ value.chars)

/-- What stands between the angle brackets of a start tag. -/
structure Tag where
  name : Name
  attributes : List Attribute
  gap : Blanks

def Tag.attributeChars (tag : Tag) : List Char :=
  tag.attributes.flatMap (fun attr => attr.gap.chars ++ attr.written) ++
    tag.gap.chars

theorem Tag.attributeChars_split {tag : Tag} {attr : Attribute}
    (mem : attr ∈ tag.attributes) :
    ∃ before after, tag.attributeChars = before ++ (attr.written ++ after) := by
  rcases List.append_of_mem mem with ⟨earlier, later, split⟩
  refine ⟨earlier.flatMap (fun attr => attr.gap.chars ++ attr.written) ++ attr.gap.chars,
    later.flatMap (fun attr => attr.gap.chars ++ attr.written) ++ tag.gap.chars, ?_⟩
  rw [Tag.attributeChars, split, List.flatMap_append, List.flatMap_cons]
  simp only [List.append_assoc]

def Tag.startChars (tag : Tag) : List Char :=
  '<' :: (tag.name.chars ++ (tag.attributeChars ++ ['>']))

def Tag.endChars (tag : Tag) (gap : Blanks) : List Char :=
  '<' :: '/' :: (tag.name.chars ++ (gap.chars ++ ['>']))

/-- Elements that have no contents. -/
def voidNames : List String :=
  ["area", "base", "br", "col", "embed", "hr", "img", "input", "link", "meta", "source", "track",
    "wbr"]

/-- Elements whose contents are not markup. -/
def rawNames : List String := ["script", "style", "textarea", "title"]

inductive Node where
  | char (c : Char) (plain : c ≠ '<')
  | declaration (body : List Char) (closed : '>' ∉ body)
  | comment (body : List Char) (closed : ¬ ['-', '-', '>'] <:+: body)
  | void (tag : Tag) (isVoid : String.ofList tag.name.chars ∈ voidNames)
  | raw (tag : Tag) (body : List Char) (gap : Blanks)
      (isRaw : String.ofList tag.name.chars ∈ rawNames)
      (closed : ¬ '<' :: '/' :: tag.name.chars <:+: body)
  | element (tag : Tag) (contents : List Node) (gap : Blanks)

mutual

def Node.chars : Node → List Char
  | .char c _ => [c]
  | .declaration body _ => '<' :: '!' :: (body ++ ['>'])
  | .comment body _ => '<' :: '!' :: '-' :: '-' :: (body ++ ['-', '-', '>'])
  | .void tag _ => tag.startChars
  | .raw tag body gap _ _ => tag.startChars ++ (body ++ tag.endChars gap)
  | .element tag contents gap => tag.startChars ++ (nodesChars contents ++ tag.endChars gap)

def nodesChars : List Node → List Char
  | [] => []
  | node :: nodes => node.chars ++ nodesChars nodes

end

/-- A node of a tree, with the text before it and the text after it. -/
inductive Located : List Node → List Char → Node → List Char → Prop
  | here (node : Node) (nodes : List Node) : Located (node :: nodes) [] node (nodesChars nodes)
  | later {nodes : List Node} {before after : List Char} {node : Node} (first : Node) :
      Located nodes before node after → Located (first :: nodes) (first.chars ++ before) node after
  | within {contents : List Node} {before after : List Char} {node : Node} (tag : Tag)
      (gap : Blanks) (nodes : List Node) :
      Located contents before node after →
      Located (.element tag contents gap :: nodes) (tag.startChars ++ before) node
        (after ++ (tag.endChars gap ++ nodesChars nodes))

theorem Located.nodesChars_eq {nodes : List Node} {before after : List Char} {node : Node}
    (located : Located nodes before node after) :
    nodesChars nodes = before ++ (node.chars ++ after) := by
  induction located with
  | here node nodes => rfl
  | later first _ ih => rw [nodesChars, ih, List.append_assoc]
  | within tag gap nodes _ ih =>
    rw [nodesChars, Node.chars, ih]
    simp only [List.append_assoc]

end OhMyClass.Markup
