import GoCompletion.Datum.Json
import GoCompletion.Fault

/-!
# Notices

What is written to the log of an editor. A notice is a cause; its severity and its words are made here.
-/

namespace GoCompletion

/-- How much a notice matters. -/
inductive Severity where
  | error
  | warning
  | info
  deriving DecidableEq, Repr

/-- The number that editors know a severity by. -/
def Severity.number : Severity → Nat
  | .error => 1
  | .warning => 2
  | .info => 3

/-- A cause to write to the log. -/
inductive Notice where
  /-- the daemon is not installed, which a request shows -/
  | daemonMissing
  /-- the daemon is not installed, which shows at the start -/
  | daemonWanted
  /-- the daemon is installed -/
  | daemonFound (path : Text)
  /-- the daemon has something to say about an option -/
  | optionErrors (option errors : Text)
  /-- the daemon has something to say about a query -/
  | queryErrors (errors : Text)
  /-- the answer of the daemon cannot be read -/
  | unreadableAnswer (mistake : Json.Mistake)
  /-- a package cannot be imported for a query -/
  | importFailed (fault : Fault)
  /-- the daemon is in trouble -/
  | daemonPanics
  /-- a step of an update went wrong -/
  | updateErrors (errors : Text)
  /-- an update broke off -/
  | updateFailed (fault : Fault)
  /-- listing the packages wrote errors -/
  | listingErrors (errors : Text)
  /-- a capability failed -/
  | capabilityFailed (name : Text) (fault : Fault)
  deriving DecidableEq, Repr

namespace Notice

/-- How much a notice matters. -/
def severity : Notice → Severity
  | daemonMissing | daemonFound _ => .info
  | unreadableAnswer _ | daemonPanics | updateFailed _ | capabilityFailed .. => .error
  | daemonWanted | optionErrors .. | queryErrors _ | importFailed _ | updateErrors _ |
    listingErrors _ => .warning

/-- The words of a notice. -/
def message : Notice → Text
  | daemonMissing => "gocode not found".toList
  | daemonWanted =>
    "gocode not found; install it with \x60go get -u github.com/nsf/gocode\x60".toList
  | daemonFound path => "Using gocode at ".toList ++ path
  | optionErrors option errors => "gocode set ".toList ++ option ++ [':', ' '] ++ errors
  | queryErrors errors => "Failed to run gocode: ".toList ++ errors
  | unreadableAnswer mistake => "Failed to parse the output of gocode: ".toList ++ mistake.message
  | importFailed fault => "Failed to resolve import: ".toList ++ fault.message
  | daemonPanics => "gocode is panicking".toList
  | updateErrors errors => "Failed to update gocode: ".toList ++ errors
  | updateFailed fault => "Failed to update gocode: ".toList ++ fault.message
  | listingErrors errors => "go list: ".toList ++ errors
  | capabilityFailed name fault =>
    "Completion error in ".toList ++ name ++ [':', ' '] ++ fault.message

end Notice

end GoCompletion
