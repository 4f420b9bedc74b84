import DagAccess.Acl.Options
import DagAccess.Command
import DagAccess.Datum
import DagAccess.Logging.Configuration
import DagAccess.Settings
import DagAccess.Yaml.Document

/-!
# Faults

Everything that can go wrong, by cause, and the wording of each cause. `Fault.leavesNoGroups` tells
the faults of a group lookup after which a user counts as a member of no group from those that end a
check.
-/

namespace DagAccess

/-- Why access is not configured. -/
inductive AclFault
  | noProvider
  | noAmUser
  | noDagUser
  /-- The option that switches checks on or off has another text. -/
  | invalidSwitch (raw : String)
  | unreadable (path : String) (cause : SystemError)
  | unparsable (path : String)
  | noMapping (path : String)
  deriving DecidableEq, Repr

/-- What is wrong, in words. -/
def AclFault.message : AclFault → String
  | .noProvider => "A group mapping provider is required"
  | .noAmUser => "The AM user must not be empty"
  | .noDagUser => "The DAG user must not be empty"
  | .invalidSwitch raw => s!"Invalid boolean value for {Acl.enabledOption}: {raw}"
  | .unreadable path cause => s!"Could not read DAG configuration {path}: {cause.message}"
  | .unparsable path => s!"Could not parse DAG configuration {path}"
  | .noMapping path => s!"DAG configuration {path} must be a YAML mapping"

/-- Why the groups of a user are not known. -/
inductive LookupFault
  | noAccount (user : String)
  | command (user : String) (cause : Command.Fault)
  /-- A backend says so. -/
  | reported (message : String)
  deriving DecidableEq, Repr

/-- What is wrong, in words. -/
def LookupFault.message : LookupFault → String
  | .noAccount user =>
    "Could not resolve user " ++ user ++ ": "
      ++ Text.quoted ("getpwnam(): name not found: " ++ Text.quoted user)
  | .command user cause => s!"Could not resolve groups for user {user}: {cause.message}"
  | .reported message => message

/-- A failure of another kind that a backend reports; the kind has a name. -/
structure BackendFault where
  kind : String
  /-- The system failed, not the backend. -/
  ofSystem : Bool
  message : String
  deriving DecidableEq, Repr

/-- Everything that can go wrong. -/
inductive Fault
  | acl (cause : AclFault)
  | lookup (cause : LookupFault)
  /-- A lookup failed, and the user that its wording speaks of is not known. -/
  | lookupUnnamed
  | backend (cause : BackendFault)
  | command (cause : Command.Fault)
  /-- A word of a command holds a NUL. -/
  | unspeakable
  | settings (cause : Settings.LoadFault)
  | ini (cause : Ini.Fault)
  | misuse (cause : Ini.Misuse)
  | logging (cause : Logging.Fault)
  | system (cause : SystemError)
  /-- The text is no integer. -/
  | integer (text : String) (why : Number.Refusal)
  | yaml (cause : Yaml.Fault)
  /-- An integer has more digits than are written. -/
  | tooLongToWrite
  /-- A file is not UTF-8. -/
  | undecodable
  | unknownAclType (shown : String)
  /-- A value that should hold group names holds something else, or is no list at all. -/
  | groupNames
  | groupList
  /-- An argument of the command has lost its value. -/
  | missingArgument
  | raised (message : String)
  /-- Nothing has this name. -/
  | noObject (name : String)
  deriving DecidableEq, Repr

namespace Fault

/-- After this fault of a lookup a user counts as a member of no group. -/
def leavesNoGroups : Fault → Bool
  | .lookup _ => true
  | .backend cause => cause.ofSystem
  | .system _ => true
  | _ => false

/-- A run without a result, as a fault. -/
def ofRun : Command.Failure → Fault
  | .fault cause => .command cause
  | .unspeakable => .unspeakable

/-- Why a text is no integer, in words. -/
def integerMessage (base : Nat) (text : String) : Number.Refusal → String
  | .malformed => s!"invalid literal for int() with base {base}: {Text.quoted text}"
  | .tooLong digits =>
    s!"Exceeds the limit ({Number.digitLimit} digits) for integer string conversion: value has "
      ++ s!"{digits} digits; use sys.set_int_max_str_digits() to increase the limit"

/-- What is wrong with a document, in words. -/
def yamlMessage : Yaml.Fault → String
  | .malformed => "malformed document"
  | .integer base text why => integerMessage base text why
  | .emptyNumber => "string index out of range"
  | .real text => "could not convert string to float: " ++ Text.quoted text
  | .tooLarge => "int too large to convert to float"
  | .switch word => Text.quoted word
  | .timestamp => "no timestamp"
  | .timestampForm => "no text"
  | .calendar why => why.message
  | .endless => "maximum recursion depth exceeded"

/-- What is wrong, in words. -/
def message : Fault → String
  | .acl cause => cause.message
  | .lookup cause => cause.message
  | .lookupUnnamed => Text.quoted "user"
  | .backend cause => cause.message
  | .command cause => cause.message
  | .unspeakable => "embedded null byte"
  | .settings cause => cause.message
  | .ini cause => cause.message
  | .misuse cause => cause.message
  | .logging cause => cause.message
  | .system cause => cause.message
  | .integer text why => integerMessage 10 text why
  | .yaml cause => yamlMessage cause
  | .tooLongToWrite =>
    s!"Exceeds the limit ({Number.digitLimit} digits) for integer string conversion; "
      ++ "use sys.set_int_max_str_digits() to increase the limit"
  | .undecodable => "the text is not UTF-8"
  | .unknownAclType shown => s!"Unknown ACL type: {shown}"
  | .groupNames => "group names expected"
  | .groupList => "a list of group names expected"
  | .missingArgument => "a value expected"
  | .raised message => message
  | .noObject name => name

end Fault

end DagAccess
