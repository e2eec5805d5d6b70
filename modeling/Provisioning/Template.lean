import Provisioning.Keyed
import Provisioning.Subject.Holder
import Provisioning.Text.Blank
import Provisioning.Text.Word

/-!
# Templates

A template is text with placeholders: a dollar sign and a name between braces, where a name is made
of word characters and points. Each placeholder gives way to the value of its name, or to nothing;
what else there is, an opening without a close among it, stays. Values are not looked at again.

The variables of a holder are its identity fields, then its plain attributes with their values
joined by commas, then its derived attributes in order, each computed with what came before; later
ones replace earlier ones of the same name. A template without a value is one that renders blank.
-/

namespace Provisioning

open Text

/-- The values of names. -/
abbrev Variables := List (String × String)

namespace Template

inductive Piece where
  | literal (c : Char)
  | placeholder (name : String)
  deriving DecidableEq, Repr

def isNameChar (c : Char) : Bool :=
  c == '.' || isWordChar c

/-- The name at the start of a text, if it is not empty and a brace closes it. -/
def closedName? (cs : List Char) : Option (List Char) :=
  let name := cs.takeWhile isNameChar
  if name ≠ [] ∧ (cs.drop name.length).head? = some '\x7d' then some name else none

/-- The name of a placeholder whose dollar sign comes just before. -/
def placeholder? : List Char → Option (List Char)
  | '\x7b' :: cs => closedName? cs
  | _ => none

/-- The pieces of a text after its first `skip` characters, which belong to the placeholder
before. -/
def piecesFrom (skip : Nat) : List Char → List Piece
  | [] => []
  | c :: rest =>
    match skip with
    | n + 1 => piecesFrom n rest
    | 0 =>
      match if c = '$' then placeholder? rest else none with
      | some name => .placeholder (String.ofList name) :: piecesFrom (name.length + 2) rest
      | none => .literal c :: piecesFrom 0 rest

/-- The pieces that a template consists of. -/
def pieces (template : String) : List Piece :=
  piecesFrom 0 template.toList

def Piece.text (vars : Variables) : Piece → String
  | .literal c => String.singleton c
  | .placeholder name => (vars.lookup name).getD ""

/-- The template with its placeholders replaced. -/
def render (template : String) (vars : Variables) : String :=
  String.join ((pieces template).map (Piece.text vars))

end Template

namespace Holder

/-- The fields that can identify a holder. -/
def identityFields : List String := ["username", "name", "key"]

def identityVariables (h : Holder) : Variables :=
  identityFields.filterMap fun name => (h.identity? name).map fun value => (name, value)

def addPlain (vars : Variables) (a : PlainAttribute) : Variables :=
  Keyed.put a.schema.name (",".intercalate a.texts) vars

def addDerived (vars : Variables) (a : DerivedAttribute) : Variables :=
  Keyed.put a.schema.name (Template.render a.schema.expression vars) vars

/-- The variables that templates see for a holder. -/
def bindings (h : Holder) : Variables :=
  h.attributes.derived.foldl addDerived (h.attributes.plain.foldl addPlain h.identityVariables)

/-- A template's text for a holder, unless it is blank. -/
def evaluate? (h : Holder) (template : String) : Option String :=
  nonBlank? (Template.render template h.bindings)

/-- The value of a derived attribute, unless it is blank. -/
def derivedValue? (h : Holder) (name : String) : Option String := do
  let _ ← h.derived? name
  nonBlank? (← h.bindings.lookup name)

/-- Whether a condition holds. A template holds when it has a value other than `false`. -/
def satisfies (h : Holder) (condition : String) : Bool :=
  let condition := trim condition
  if condition = "" ∨ condition = "false" then false
  else if condition = "true" then true
  else match h.evaluate? condition with
    | some value => String.ofList (value.toList.map Char.toLower) != "false"
    | none => false

/-- Whether the dates of a holder can be shown. -/
def isPrintable (h : Holder) : Bool :=
  h.attributes.plain.all PlainAttribute.isPrintable

end Holder

end Provisioning
