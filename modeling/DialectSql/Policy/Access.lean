import DialectSql.Failure
import DialectSql.OrderedMap
import DialectSql.Text.Blank
import DialectSql.Text.Lowercase
import DialectSql.Text.Split
import DialectSql.Trace

/-!
# Access Rules

Which operations a database alias or one of its resources allows.  A rule is `all`, `none` or a
list of operations separated by commas; a missing or blank rule allows everything.  The first `all`
or `none` in a list decides, and words that name no operation are passed over.  The rule of a
resource takes the place of the rule of its alias.
-/

namespace DialectSql

/-- What can be done to a resource. -/
inductive Operation where
  | create
  | delete
  | read
  | update
  deriving DecidableEq, Repr, Inhabited

namespace Operation

/-- The name of an operation. -/
def name : Operation → String
  | create => "create"
  | delete => "delete"
  | read => "read"
  | update => "update"

/-- All operations, in the order of their names. -/
def all : List Operation :=
  [create, delete, read, update]

/-- The operation of the given name. -/
def ofName? (text : Text) : Option Operation :=
  all.find? (·.name == text)

end Operation

/-- The words of a rule: its parts between commas, without blanks and in lower case. -/
def ruleWords (rule : Text) : List Text :=
  (Text.splitAt ',' rule).map fun part ↦ Text.lower (Text.strip part)

/-- Collects the operations that words name, until a word decides for all or none of them; the log
tells about words that are passed over. -/
def collect {ε : Type} (rule : Text) (found : List Operation) :
    List Text → Traced ε (List Operation)
  | [] => pure found
  | word :: words =>
    if word = "all" then pure Operation.all
    else if word = "none" then pure []
    else
      match Operation.ofName? word with
      | some operation => collect rule (operation :: found) words
      | none => do
        Traced.tell .warning
          ("Ignoring unknown operation '" ++ word ++ "' in ACL rule '" ++ rule ++ "'")
        collect rule found words

/-- The operations that a rule allows, in the order of their names. -/
def allowedBy {ε : Type} (rule : Option Text) : Traced ε (List Operation) :=
  match rule with
  | none => pure Operation.all
  | some rule =>
    if Text.isBlankText rule then pure Operation.all
    else do
      let found ← collect rule [] (ruleWords rule)
      return Operation.all.filter found.contains

/-- The rules of a deployment: one for each alias, and one for each of its resources. -/
structure AccessPolicy where
  aliases : OrderedMap (Option Text)
  resources : OrderedMap (OrderedMap (Option Text))

namespace AccessPolicy

/-- The rule of a resource, if it has one of its own. -/
def resourceRule (policy : AccessPolicy) (aliasName : Text) : Option Text → Option Text
  | none => none
  | some resource => do
    let rules ← policy.resources.get? aliasName
    let rule ← rules.get? resource
    rule

/-- The rule in force: that of the resource, else that of the alias. -/
def ruleFor (policy : AccessPolicy) (aliasName : Text) (resource : Option Text) :
    Option Text :=
  match policy.resourceRule aliasName resource with
  | some rule => some rule
  | none => (policy.aliases.get? aliasName).join

/-- The operations that are allowed on a resource. -/
def allowed {ε : Type} (policy : AccessPolicy) (aliasName : Text) (resource : Option Text) :
    Traced ε (List Operation) :=
  allowedBy (policy.ruleFor aliasName resource)

/-- Whether the operation of the given name is allowed; letters may have either case. -/
def isAllowed (policy : AccessPolicy) (aliasName : Text) (resource : Option Text)
    (operation : Text) : Traced Failure Bool :=
  match Operation.ofName? (Text.lower operation) with
  | none => .ofExcept (.error (.unknownOperation (Text.lower operation)))
  | some operation => do
    let operations ← policy.allowed aliasName resource
    return operations.contains operation

end AccessPolicy

end DialectSql
