import TimingFleet.EndpointIds

/-!
# Errors

What an operation on boards can fail with, and the wording shown to an operator.  An input or output
fault is shown a second time as the cause of its error.
-/

namespace TimingFleet

open Text

/-- Why a file could not be read. -/
inductive FileFault where
  | notFound
  | isDirectory
  | notDirectory
  | nameTooLong
  | nulInName
  | notUtf8
  | other (reason : String)
  deriving DecidableEq, Repr

/-- The wording of a file fault. -/
def FileFault.message : FileFault → String
  | .notFound => "No such file or directory (os error 2)"
  | .isDirectory => "Is a directory (os error 21)"
  | .notDirectory => "Not a directory (os error 20)"
  | .nameTooLong => "File name too long (os error 36)"
  | .nulInName => "file name contained an unexpected NUL byte"
  | .notUtf8 => "stream did not contain valid UTF-8"
  | .other reason => reason

/-- Why an operation failed. -/
inductive Error where
  /-- The device has no such node. -/
  | nodeNotFound (device path : String)
  /-- A result was asked for before its batch was dispatched. -/
  | notDispatched (path : String)
  /-- The link to the device failed. -/
  | transport (device reason : String)
  /-- Nothing serves the scheme of the address. -/
  | unsupportedTransport (uri : String)
  /-- The connections file does not name the device. -/
  | unknownDevice (id : String)
  /-- The device lacks some of the endpoints. -/
  | missingEndpoints (device : String) (ids : List UInt32)
  /-- A list of ids is wrong. -/
  | idList (cause : IdListError)
  /-- A receiver did not reach its ready state. -/
  | receiverNotReady (board : String) (state : UInt32) (label : String)
  /-- The address map has no entry for the address. -/
  | unmappedAddress (address : UInt32)
  /-- An argument is out of range or does not fit the board. -/
  | invalidArgument (reason : String)
  /-- A connections file is refused. -/
  | config (source reason : String)
  /-- A file could not be read. -/
  | file (fault : FileFault)
  deriving DecidableEq, Repr

namespace Error

/-- The wording of the error. -/
def message : Error → String
  | .nodeNotFound device path => "Node '" ++ path ++ "' not found on device " ++ device
  | .notDispatched path => "Value of '" ++ path ++ "' read before dispatch"
  | .transport device reason => "Transport error on " ++ device ++ ": " ++ reason
  | .unsupportedTransport uri => "Unsupported transport URI: " ++ uri
  | .unknownDevice id => "Unknown device '" ++ id ++ "' (not in connections file)"
  | .missingEndpoints device ids =>
    "Endpoints " ++ EndpointIds.joinWith ", " ids ++ " do not exist on device " ++ device
  | .idList cause => cause.message
  | .receiverNotReady board state label =>
    "Receiver on " ++ board ++ " not ready: state " ++ Numeral.hex state.toNat ++ " (" ++ label ++ ")"
  | .unmappedAddress address =>
    "Address " ++ Numeral.hex address.toNat ++ " not mapped to a fanout slot (pass --slot)"
  | .invalidArgument reason => "Invalid argument: " ++ reason
  | .config source reason => "Failed to parse " ++ source ++ ": " ++ reason
  | .file fault => "I/O error: " ++ fault.message

/-- The error and its causes, outermost first. -/
def chain : Error → List String
  | .file fault => [(Error.file fault).message, fault.message]
  | e => [e.message]

end Error

end TimingFleet
