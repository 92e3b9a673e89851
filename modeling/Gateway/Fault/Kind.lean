/-!
# Kinds of input and output failures

A failure is sorted into one of a fixed set of kinds; what the gateway does
about it hangs on the kind alone. A kind has a `name`, which the gateway's own
reports use, and a `label` of the same words in small letters joined by
underscores.
-/

namespace Gateway

/-- What sort of failure an input or output operation met. -/
inductive FaultKind where
  | notFound
  | permissionDenied
  | connectionRefused
  | connectionReset
  | hostUnreachable
  | networkUnreachable
  | connectionAborted
  | notConnected
  | addrInUse
  | addrNotAvailable
  | networkDown
  | brokenPipe
  | alreadyExists
  | wouldBlock
  | notADirectory
  | isADirectory
  | directoryNotEmpty
  | readOnlyFilesystem
  | filesystemLoop
  | staleNetworkFileHandle
  | invalidInput
  | invalidData
  | timedOut
  | writeZero
  | storageFull
  | notSeekable
  | quotaExceeded
  | fileTooLarge
  | resourceBusy
  | executableFileBusy
  | deadlock
  | crossesDevices
  | tooManyLinks
  | invalidFilename
  | argumentListTooLong
  | interrupted
  | unsupported
  | unexpectedEof
  | outOfMemory
  | inProgress
  | other
  | uncategorized
  deriving DecidableEq, Repr, Inhabited

namespace FaultKind

/-- Every kind. -/
def all : List FaultKind := [
  .notFound, .permissionDenied, .connectionRefused, .connectionReset, .hostUnreachable,
  .networkUnreachable, .connectionAborted, .notConnected, .addrInUse, .addrNotAvailable,
  .networkDown, .brokenPipe, .alreadyExists, .wouldBlock, .notADirectory, .isADirectory,
  .directoryNotEmpty, .readOnlyFilesystem, .filesystemLoop, .staleNetworkFileHandle,
  .invalidInput, .invalidData, .timedOut, .writeZero, .storageFull, .notSeekable,
  .quotaExceeded, .fileTooLarge, .resourceBusy, .executableFileBusy, .deadlock,
  .crossesDevices, .tooManyLinks, .invalidFilename, .argumentListTooLong, .interrupted,
  .unsupported, .unexpectedEof, .outOfMemory, .inProgress, .other, .uncategorized]

/-- The name of a kind in a report. -/
def name : FaultKind → String
  | .notFound => "NotFound"
  | .permissionDenied => "PermissionDenied"
  | .connectionRefused => "ConnectionRefused"
  | .connectionReset => "ConnectionReset"
  | .hostUnreachable => "HostUnreachable"
  | .networkUnreachable => "NetworkUnreachable"
  | .connectionAborted => "ConnectionAborted"
  | .notConnected => "NotConnected"
  | .addrInUse => "AddrInUse"
  | .addrNotAvailable => "AddrNotAvailable"
  | .networkDown => "NetworkDown"
  | .brokenPipe => "BrokenPipe"
  | .alreadyExists => "AlreadyExists"
  | .wouldBlock => "WouldBlock"
  | .notADirectory => "NotADirectory"
  | .isADirectory => "IsADirectory"
  | .directoryNotEmpty => "DirectoryNotEmpty"
  | .readOnlyFilesystem => "ReadOnlyFilesystem"
  | .filesystemLoop => "FilesystemLoop"
  | .staleNetworkFileHandle => "StaleNetworkFileHandle"
  | .invalidInput => "InvalidInput"
  | .invalidData => "InvalidData"
  | .timedOut => "TimedOut"
  | .writeZero => "WriteZero"
  | .storageFull => "StorageFull"
  | .notSeekable => "NotSeekable"
  | .quotaExceeded => "QuotaExceeded"
  | .fileTooLarge => "FileTooLarge"
  | .resourceBusy => "ResourceBusy"
  | .executableFileBusy => "ExecutableFileBusy"
  | .deadlock => "Deadlock"
  | .crossesDevices => "CrossesDevices"
  | .tooManyLinks => "TooManyLinks"
  | .invalidFilename => "InvalidFilename"
  | .argumentListTooLong => "ArgumentListTooLong"
  | .interrupted => "Interrupted"
  | .unsupported => "Unsupported"
  | .unexpectedEof => "UnexpectedEof"
  | .outOfMemory => "OutOfMemory"
  | .inProgress => "InProgress"
  | .other => "Other"
  | .uncategorized => "Uncategorized"

/-- The words of the name in small letters, joined by underscores. -/
def label (kind : FaultKind) : String :=
  match kind.name.toList with
  | [] => ""
  | c :: rest => String.ofList <|
      c.toLower :: rest.flatMap fun d => if d.isUpper then ['_', d.toLower] else [d]

/-- The kind with a label. -/
def ofLabel? (label : String) : Option FaultKind :=
  all.find? fun kind => kind.label == label

/-- The kind of a Linux error number. -/
def ofSystem (code : Nat) : FaultKind :=
  match table.lookup code with
  | some kind => kind
  | none => .uncategorized
where
  /-- The error numbers that have a kind of their own. -/
  table : List (Nat × FaultKind) := [
    (1, .permissionDenied),
    (2, .notFound),
    (4, .interrupted),
    (7, .argumentListTooLong),
    (11, .wouldBlock),
    (12, .outOfMemory),
    (13, .permissionDenied),
    (16, .resourceBusy),
    (17, .alreadyExists),
    (18, .crossesDevices),
    (20, .notADirectory),
    (21, .isADirectory),
    (22, .invalidInput),
    (26, .executableFileBusy),
    (27, .fileTooLarge),
    (28, .storageFull),
    (29, .notSeekable),
    (30, .readOnlyFilesystem),
    (31, .tooManyLinks),
    (32, .brokenPipe),
    (35, .deadlock),
    (36, .invalidFilename),
    (38, .unsupported),
    (39, .directoryNotEmpty),
    (40, .filesystemLoop),
    (95, .unsupported),
    (98, .addrInUse),
    (99, .addrNotAvailable),
    (100, .networkDown),
    (101, .networkUnreachable),
    (103, .connectionAborted),
    (104, .connectionReset),
    (107, .notConnected),
    (110, .timedOut),
    (111, .connectionRefused),
    (113, .hostUnreachable),
    (115, .inProgress),
    (116, .staleNetworkFileHandle),
    (122, .quotaExceeded)]

theorem mem_all (kind : FaultKind) : kind ∈ all := by
  cases kind <;> decide

end FaultKind

end Gateway
