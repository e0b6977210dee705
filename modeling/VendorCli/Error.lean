import VendorCli.Path.Reader
import VendorCli.Document.Decode
/-!
# What can go wrong

One type for every failure of the library, by cause. The wording of each, the exit status that a
command ends with, and whether it was the device that refused are functions of the cause.
-/

namespace VendorCli

/-- A failure to exchange text with a device. -/
inductive SessionError where
  /-- The command could not be carried out. -/
  | executionFailed (reason : Text)
  /-- There is no answer to the command. -/
  | unknownCommand (command : Text)
  /-- No answer came within so many seconds. -/
  | timeout (seconds : Nat)
  /-- The session is closed. -/
  | closed
  /-- The session is set up wrongly. -/
  | invalidConfig (reason : Text)
  /-- A file or stream of the session failed. -/
  | io (reason : Text)
deriving DecidableEq, Repr

/-- The failure in words. -/
def SessionError.message : SessionError → Text
  | .executionFailed reason => "Command execution failed: " ++ reason
  | .unknownCommand command => "Unknown command: " ++ command
  | .timeout seconds => "Session timeout after " ++ Decimal.digitsOf seconds ++ " seconds"
  | .closed => "Session closed"
  | .invalidConfig reason => "Invalid session configuration: " ++ reason
  | .io reason => "IO error: " ++ reason

/-- The failure in words, and the failures behind it. -/
def SessionError.chain : SessionError → List Text
  | .io reason => [SessionError.message (.io reason), reason]
  | e => [e.message]

/-- Why an argument is not acceptable. Paths appear in their written form. -/
inductive ArgumentFault where
  /-- A text is not a path. -/
  | malformedPath (text : Text) (fault : PathFault)
  /-- A path lacks a key. -/
  | missingKey (path key : Text)
  /-- No platform has this name. -/
  | unknownPlatform (name : Text)
  /-- A record names another interface than its path. -/
  | interfaceMismatch (name path : Text)
  /-- A physical interface can be neither created nor deleted. -/
  | physicalInterface (name action : Text)
  /-- A record names another address than its path. -/
  | addressMismatch (address path : Text)
  /-- A routing process outside the instance that is supported. -/
  | unsupportedInstance (supported path : Text)
  /-- The number of an autonomous system cannot be changed. -/
  | systemChange (before after : Nat)
  /-- Any other reason. -/
  | other (reason : Text)
deriving DecidableEq, Repr

/-- The reason in words. -/
def ArgumentFault.message : ArgumentFault → Text
  | .malformedPath text fault => "invalid path " ++ Text.inQuotes text ++ ": " ++ fault.message
  | .missingKey path key => "path " ++ Text.inQuotes path
    ++ " has no " ++ Text.inQuotes key ++ " key"
  | .unknownPlatform name =>
    "Unknown platform: " ++ name
      ++ ". Valid options: cisco_ios, cisco_iosxr, juniper_junos, huawei, generic"
  | .interfaceMismatch name path =>
    "interface name " ++ Text.inQuotes name ++ " does not match path " ++ Text.inQuotes path
  | .physicalInterface name action =>
    "physical interface " ++ Text.inQuotes name ++ " cannot be " ++ action
  | .addressMismatch address path =>
    "address " ++ address ++ " does not match path " ++ Text.inQuotes path
  | .unsupportedInstance supported path =>
    "only the " ++ Text.inQuotes supported ++ " network instance is supported for BGP: "
      ++ Text.inQuotes path
  | .systemChange before after =>
    "BGP AS cannot be changed from " ++ Decimal.digitsOf before ++ " to " ++ Decimal.digitsOf after
  | .other reason => reason

/-- Why device output cannot be made into a record. -/
inductive ParseFault where
  /-- The text found for a field is not a whole number of sixty-four bits. -/
  | notInteger (field text : Text)
  /-- The MTU of the interface at a path is larger than an MTU can be. -/
  | mtuOutOfRange (path : Text) (mtu : Nat)
  /-- Any other reason. -/
  | other (reason : Text)
deriving DecidableEq, Repr

/-- The reason in words. -/
def ParseFault.message : ParseFault → Text
  | .notInteger field text =>
    "field " ++ Text.inQuotes field ++ ": " ++ Text.inQuotes text ++ " is not an integer"
  | .mtuOutOfRange path mtu => path ++ ": mtu " ++ Decimal.digitsOf mtu ++ " out of range"
  | .other reason => reason

/-- The roles in which a handler serves a path. -/
inductive HandlerKind where
  | reader
  | listReader
  | writer
deriving DecidableEq, Repr

/-- The role in words. -/
def HandlerKind.message : HandlerKind → Text
  | .reader => "reader"
  | .listReader => "list reader"
  | .writer => "writer"

/-- A failure of the library. -/
inductive Error where
  /-- Reading device state failed. -/
  | readFailed (path reason : Text)
  /-- The device rejected a configuration block, or could not be reached with it. -/
  | writeFailed (path command output : Text)
  /-- A record lacks a field that its commands need. -/
  | missingField (path field : Text)
  /-- An argument is not acceptable. -/
  | invalidArgument (fault : ArgumentFault)
  /-- A value is no record of the kind that its path holds. -/
  | invalidData (path : Text) (fault : DecodeFault)
  /-- No handler of the kind serves the path on the platform. -/
  | handlerNotFound (kind : HandlerKind) (path platform : Text)
  /-- The text of a template is malformed. -/
  | templateSyntax (template reason : Text)
  /-- A template could not be rendered. -/
  | templateRender (template reason : Text)
  /-- The pattern of a rule is malformed. -/
  | invalidRule (rule reason : Text)
  /-- A pattern is malformed. -/
  | pattern (reason : Text)
  /-- Device output has an unexpected form. -/
  | parse (fault : ParseFault)
  /-- The session failed. -/
  | session (cause : SessionError)
  /-- There is no such file. -/
  | fileNotFound (path : Text)
  /-- Input or output failed. -/
  | io (reason : Text)
  /-- A YAML text is malformed, or not of the expected form. -/
  | yamlParse (reason : Text)
  /-- A JSON text is malformed, or not of the expected form. -/
  | jsonParse (reason : Text)
  /-- Another failure, with the one behind it in words. -/
  | other (message : Text) (source : Option Text)
deriving DecidableEq, Repr

namespace Error

/-- The failure in words. -/
def message : Error → Text
  | readFailed path reason => "Failed to read " ++ Text.inQuotes path ++ ": " ++ reason
  | writeFailed path command output =>
    "Failed to write " ++ Text.inQuotes path ++ ": device rejected " ++ Text.inQuotes command
      ++ ": " ++ output
  | missingField path field =>
    "Missing required field " ++ Text.inQuotes field ++ " for " ++ Text.inQuotes path
  | invalidArgument fault => "Invalid argument: " ++ fault.message
  | invalidData path fault => "Invalid data for " ++ Text.inQuotes path ++ ": " ++ fault.message
  | handlerNotFound kind path platform =>
    "No " ++ kind.message ++ " registered for " ++ Text.inQuotes path ++ " on platform "
      ++ Text.inQuotes platform
  | templateSyntax template reason =>
    "Template syntax error in " ++ Text.inQuotes template ++ ": " ++ reason
  | templateRender template reason =>
    "Template rendering failed for " ++ Text.inQuotes template ++ ": " ++ reason
  | invalidRule rule reason => "Invalid parse rule " ++ Text.inQuotes rule ++ ": " ++ reason
  | pattern reason => "Regex error: " ++ reason
  | parse fault => "Parse error: " ++ fault.message
  | session cause => "Session error: " ++ cause.message
  | fileNotFound path => "File not found: " ++ path
  | io reason => "IO error: " ++ reason
  | yamlParse reason => "YAML parse error: " ++ reason
  | jsonParse reason => "JSON parse error: " ++ reason
  | other message _ => message

/-- The failure behind this one, in words. -/
def source? : Error → Option Text
  | session cause => some cause.message
  | io reason => some reason
  | pattern reason => some reason
  | yamlParse reason => some reason
  | jsonParse reason => some reason
  | other _ source => source
  | _ => none

/-- The failure in words, and the failures behind it, the nearest one first. -/
def chain : Error → List Text
  | session cause => message (session cause) :: cause.chain
  | e => e.message :: e.source?.toList

/-- Whether it was the device that refused. -/
def isDeviceError : Error → Bool
  | readFailed .. => true
  | writeFailed .. => true
  | _ => false

/-- The exit status of a command that ends with this failure. -/
def exitCode : Error → Nat
  | readFailed .. => 2
  | writeFailed .. => 2
  | session _ => 3
  | missingField .. => 4
  | invalidArgument _ => 4
  | invalidData .. => 4
  | handlerNotFound .. => 5
  | templateSyntax .. => 6
  | templateRender .. => 6
  | invalidRule .. => 6
  | pattern _ => 6
  | _ => 1

end Error

/-- The path that a text stands for. -/
def ConfigPath.parse (t : Text) : Except Error ConfigPath :=
  match ConfigPath.ofText t with
  | .ok p => .ok p
  | .error fault => .error (.invalidArgument (.malformedPath t fault))

/-- The value of the nearest key of this name, which has to be there. -/
def ConfigPath.requireKey (p : ConfigPath) (name : Text) : Except Error Text :=
  match p.key? name with
  | some v => .ok v
  | none => .error (.invalidArgument (.missingKey p.toText name))

end VendorCli
