import Mathlib.Logic.Relation
import UsageContracts.Contract.Reading
import UsageContracts.Document.Value

/-!
# Rewriting documents

Changes to a document that concern only how it presents a contract.  Each one is
made to the entries of one map: to those of the document, of a rule, of a duty or
of a constraint.
-/

namespace UsageContracts.Presentation

/-! ## Keys -/

/-- What the maps of a contract have under a name with or without prefix. -/
inductive Property
  | action
  | constraint
  | postDuty
  | title
  | description
  | leftOperand
  | operator
  | rightOperand
  | pipEndpoint
  | permission
  | prohibition
deriving DecidableEq

/-- The name of a property, without prefix. -/
def Property.name : Property → Text
  | .action => "action"
  | .constraint => "constraint"
  | .postDuty => "postDuty"
  | .title => "title"
  | .description => "description"
  | .leftOperand => "leftOperand"
  | .operator => "operator"
  | .rightOperand => "rightOperand"
  | .pipEndpoint => "pipEndpoint"
  | .permission => "permission"
  | .prohibition => "prohibition"

/-- Whether a key names a property, with or without prefix. -/
def Property.isSpelledBy (property : Property) (key : Value) : Bool :=
  Value.view.isText property.name key || Value.view.isText ("ids:" ++ property.name) key

/-- Whether a key names one of some properties. -/
def spellsOneOf (properties : List Property) (key : Value) : Bool :=
  properties.any fun property => property.isSpelledBy key

/-! ## Entries -/

/-- A rewriting of the entries of a map, of which a reader looks up certain keys
and takes certain changes of a property's value as equal. -/
inductive EntriesRewrite (isRead : Value → Bool) (values : Property → Value → Value → Prop) :
    List (Value × Value) → List (Value × Value) → Prop
  /-- A key is spelled otherwise, if it is not there in another spelling. -/
  | key {property : Property} {key key' value : Value} {before after : List (Value × Value)} :
      property.isSpelledBy key →
      property.isSpelledBy key' →
      (∀ entry ∈ before ++ after, ¬ property.isSpelledBy entry.1) →
      EntriesRewrite isRead values (before ++ (key, value) :: after)
        (before ++ (key', value) :: after)
  /-- Entries that are not looked up are added, removed or moved. -/
  | unread {entries entries' : List (Value × Value)} :
      (entries.filter fun entry => isRead entry.1) =
        entries'.filter (fun entry => isRead entry.1) →
      EntriesRewrite isRead values entries entries'
  /-- The value of a property is written otherwise. -/
  | value {property : Property} {key value value' : Value}
      {before after : List (Value × Value)} :
      property.isSpelledBy key →
      values property value value' →
      EntriesRewrite isRead values (before ++ (key, value) :: after)
        (before ++ (key, value') :: after)

/-- A rewriting of the maps that a property gives, one by itself or in a list. -/
inductive PartsRewrite (entries : List (Value × Value) → List (Value × Value) → Prop) :
    Value → Value → Prop
  /-- The map is rewritten. -/
  | whole {part part' : List (Value × Value)} :
      entries part part' → PartsRewrite entries (.map part) (.map part')
  /-- A map in a list is rewritten. -/
  | item {part part' : List (Value × Value)} {before after : List Value} :
      entries part part' →
      PartsRewrite entries (.list (before ++ .map part :: after))
        (.list (before ++ .map part' :: after))
  /-- The map is put into a list of its own. -/
  | listed {part : List (Value × Value)} :
      PartsRewrite entries (.map part) (.list [.map part])

/-- A rewriting of a value or, in a list, of the first item. -/
inductive FirstRewrite (item : Value → Value → Prop) : Value → Value → Prop
  | whole {value value' : Value} : item value value' → FirstRewrite item value value'
  | first {value value' : Value} {rest : List Value} :
      item value value' →
      FirstRewrite item (.list (value :: rest)) (.list (value' :: rest))

/-! ## Identifiers -/

/-- The ways to write an identifier. -/
def identifierForms (identifier : Text) : List Value :=
  let text : Value := .scalar (.text identifier)
  let node : Value := .map [(.scalar (.text "@id"), text)]
  [text, node, .list [text], .list [node]]

/-- Whether a text can come before a local name: it is empty or ends a
namespace. -/
def IsNamespace (text : Text) : Prop :=
  text.getLast?.all CodePoint.isNamespaceEnd = true

/-- An identifier with a local name gets another namespace. -/
inductive NamespaceRewrite : Text → Text → Prop
  | intro {before before' name : Text} :
      IsNamespace before →
      IsNamespace before' →
      name ≠ [] →
      (∀ point ∈ name, point.isNamespaceEnd = false) →
      NamespaceRewrite (before ++ name) (before' ++ name)

/-- An identifier written as a text gets another namespace. -/
inductive TextRewrite : Value → Value → Prop
  | intro {text text' : Text} :
      NamespaceRewrite text text' → TextRewrite (.scalar (.text text)) (.scalar (.text text'))

/-- The identifier under a key of a map gets another namespace. -/
inductive EntryRewrite (key : Text) : Value → Value → Prop
  | intro {value value' : Value} {before after : List (Value × Value)} :
      TextRewrite value value' →
      EntryRewrite key (.map (before ++ (.scalar (.text key), value) :: after))
        (.map (before ++ (.scalar (.text key), value') :: after))

/-- An identifier outside lists gets another namespace. -/
inductive NodeRewrite : Value → Value → Prop
  | text {value value' : Value} : TextRewrite value value' → NodeRewrite value value'
  | entry {value value' : Value} : EntryRewrite "@id" value value' → NodeRewrite value value'

/-- A rewriting of an identifier to another form. -/
inductive FormRewrite : Value → Value → Prop
  | intro {identifier : Text} {value value' : Value} :
      value ∈ identifierForms identifier →
      value' ∈ identifierForms identifier →
      FormRewrite value value'

/-- A rewriting of an identifier of a term. -/
inductive TermRewrite : Value → Value → Prop
  | form {value value' : Value} : FormRewrite value value' → TermRewrite value value'
  | renamed {value value' : Value} :
      FirstRewrite NodeRewrite value value' → TermRewrite value value'

/-- A text or a map is put into a list of its own. -/
inductive ListedRewrite : Value → Value → Prop
  | text {text : Text} : ListedRewrite (.scalar (.text text)) (.list [.scalar (.text text)])
  | map {entries : List (Value × Value)} : ListedRewrite (.map entries) (.list [.map entries])

/-! ## Contracts -/

/-- A rewriting of a property of a constraint. -/
inductive ConstraintValueRewrite : Property → Value → Value → Prop
  | leftOperand {value value' : Value} :
      TermRewrite value value' → ConstraintValueRewrite .leftOperand value value'
  | operator {value value' : Value} :
      TermRewrite value value' → ConstraintValueRewrite .operator value value'
  | rightOperand {value value' : Value} :
      ListedRewrite value value' → ConstraintValueRewrite .rightOperand value value'
  | datatype {value value' : Value} :
      FirstRewrite (EntryRewrite "@type") value value' →
      ConstraintValueRewrite .rightOperand value value'
  | pipEndpoint {value value' : Value} :
      FormRewrite value value' → ConstraintValueRewrite .pipEndpoint value value'

/-- A rewriting of the entries of a constraint. -/
def ConstraintRewrite : List (Value × Value) → List (Value × Value) → Prop :=
  EntriesRewrite (spellsOneOf [.leftOperand, .operator, .rightOperand, .pipEndpoint])
    ConstraintValueRewrite

/-- A rewriting of a property of a duty. -/
inductive DutyValueRewrite : Property → Value → Value → Prop
  | action {value value' : Value} :
      TermRewrite value value' → DutyValueRewrite .action value value'
  | constraints {value value' : Value} :
      PartsRewrite ConstraintRewrite value value' → DutyValueRewrite .constraint value value'

/-- A rewriting of the entries of a duty. -/
def DutyRewrite : List (Value × Value) → List (Value × Value) → Prop :=
  EntriesRewrite (spellsOneOf [.action, .constraint]) DutyValueRewrite

/-- A rewriting of a property of a rule. -/
inductive RuleValueRewrite : Property → Value → Value → Prop
  | action {value value' : Value} :
      TermRewrite value value' → RuleValueRewrite .action value value'
  | constraints {value value' : Value} :
      PartsRewrite ConstraintRewrite value value' → RuleValueRewrite .constraint value value'
  | duties {value value' : Value} :
      PartsRewrite DutyRewrite value value' → RuleValueRewrite .postDuty value value'
  | title {value value' : Value} :
      ListedRewrite value value' → RuleValueRewrite .title value value'
  | description {value value' : Value} :
      ListedRewrite value value' → RuleValueRewrite .description value value'

/-- A rewriting of the entries of a rule. -/
def RuleRewrite : List (Value × Value) → List (Value × Value) → Prop :=
  EntriesRewrite (spellsOneOf [.action, .constraint, .postDuty, .title, .description])
    RuleValueRewrite

/-- A rewriting of the rules of a contract. -/
inductive RulesRewrite : Property → Value → Value → Prop
  | permission {value value' : Value} :
      PartsRewrite RuleRewrite value value' → RulesRewrite .permission value value'
  | prohibition {value value' : Value} :
      PartsRewrite RuleRewrite value value' → RulesRewrite .prohibition value value'

/-- Whether a contract is read by a key. -/
def isContractKey (key : Value) : Bool :=
  spellsOneOf [.permission, .prohibition] key || Value.view.isText "@type" key

/-- A rewriting of a document, in the entries of its map or anywhere inside. -/
inductive DocumentRewrite : Value → Value → Prop
  | map {entries entries' : List (Value × Value)} :
      EntriesRewrite isContractKey RulesRewrite entries entries' →
      DocumentRewrite (.map entries) (.map entries')

/-- Two documents present the same contract if rewritings, made in either
direction, lead from one to the other. -/
def IsRewritten : Value → Value → Prop :=
  Relation.EqvGen DocumentRewrite

end UsageContracts.Presentation

namespace UsageContracts.ContractFault

/-- A fault with the key that it names taken without prefix. -/
def unprefixed : ContractFault → ContractFault
  | .notAList key => .notAList (if key.take 4 = "ids:" then key.drop 4 else key)
  | fault => fault

end UsageContracts.ContractFault
