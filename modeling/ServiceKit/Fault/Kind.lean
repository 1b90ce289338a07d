/-!
Kinds of input and output faults, and their wordings.
-/

namespace ServiceKit

inductive FaultKind where
  | notFound
  | permissionDenied
  | connectionRefused
  | connectionReset
  | hostUnreachable
  | networkUnreachable
  | connectionAborted
  | notConnected
  | addressInUse
  | addressNotAvailable
  | networkDown
  | brokenPipe
  | alreadyExists
  | wouldBlock
  | notADirectory
  | isADirectory
  | directoryNotEmpty
  | readOnlyFilesystem
  | invalidInput
  | invalidData
  | timedOut
  | writeZero
  | storageFull
  | fileTooLarge
  | invalidFilename
  | resourceBusy
  | deadlock
  | interrupted
  | unsupported
  | unexpectedEnd
  | outOfMemory
  | filesystemLoop
  | staleNetworkFileHandle
  | notSeekable
  | quotaExceeded
  | executableFileBusy
  | crossesDevices
  | tooManyLinks
  | argumentListTooLong
  | inProgress
  | tooManyOpenFiles
  | other
  | inputOutput
  | uncategorized
  deriving DecidableEq, Repr

namespace FaultKind

/-- What a fault says that has a kind and nothing more. -/
def description : FaultKind → String
  | .notFound => "entity not found"
  | .permissionDenied => "permission denied"
  | .connectionRefused => "connection refused"
  | .connectionReset => "connection reset"
  | .hostUnreachable => "host unreachable"
  | .networkUnreachable => "network unreachable"
  | .connectionAborted => "connection aborted"
  | .notConnected => "not connected"
  | .addressInUse => "address in use"
  | .addressNotAvailable => "address not available"
  | .networkDown => "network down"
  | .brokenPipe => "broken pipe"
  | .alreadyExists => "entity already exists"
  | .wouldBlock => "operation would block"
  | .notADirectory => "not a directory"
  | .isADirectory => "is a directory"
  | .directoryNotEmpty => "directory not empty"
  | .readOnlyFilesystem => "read-only filesystem or storage medium"
  | .invalidInput => "invalid input parameter"
  | .invalidData => "invalid data"
  | .timedOut => "timed out"
  | .writeZero => "write zero"
  | .storageFull => "no storage space"
  | .fileTooLarge => "file too large"
  | .invalidFilename => "invalid filename"
  | .resourceBusy => "resource busy"
  | .deadlock => "deadlock"
  | .interrupted => "operation interrupted"
  | .unsupported => "unsupported"
  | .unexpectedEnd => "unexpected end of file"
  | .outOfMemory => "out of memory"
  | .filesystemLoop => "filesystem loop or indirection limit (e.g. symlink loop)"
  | .staleNetworkFileHandle => "stale network file handle"
  | .notSeekable => "seek on unseekable file"
  | .quotaExceeded => "quota exceeded"
  | .executableFileBusy => "executable file busy"
  | .crossesDevices => "cross-device link or rename"
  | .tooManyLinks => "too many links"
  | .argumentListTooLong => "argument list too long"
  | .inProgress => "in progress"
  | .tooManyOpenFiles => "too many open files"
  | .other => "other error"
  | .inputOutput => "input/output error"
  | .uncategorized => "uncategorized error"

def name : FaultKind → String
  | .notFound => "NotFound"
  | .permissionDenied => "PermissionDenied"
  | .connectionRefused => "ConnectionRefused"
  | .connectionReset => "ConnectionReset"
  | .hostUnreachable => "HostUnreachable"
  | .networkUnreachable => "NetworkUnreachable"
  | .connectionAborted => "ConnectionAborted"
  | .notConnected => "NotConnected"
  | .addressInUse => "AddrInUse"
  | .addressNotAvailable => "AddrNotAvailable"
  | .networkDown => "NetworkDown"
  | .brokenPipe => "BrokenPipe"
  | .alreadyExists => "AlreadyExists"
  | .wouldBlock => "WouldBlock"
  | .notADirectory => "NotADirectory"
  | .isADirectory => "IsADirectory"
  | .directoryNotEmpty => "DirectoryNotEmpty"
  | .readOnlyFilesystem => "ReadOnlyFilesystem"
  | .invalidInput => "InvalidInput"
  | .invalidData => "InvalidData"
  | .timedOut => "TimedOut"
  | .writeZero => "WriteZero"
  | .storageFull => "StorageFull"
  | .fileTooLarge => "FileTooLarge"
  | .invalidFilename => "InvalidFilename"
  | .resourceBusy => "ResourceBusy"
  | .deadlock => "Deadlock"
  | .interrupted => "Interrupted"
  | .unsupported => "Unsupported"
  | .unexpectedEnd => "UnexpectedEof"
  | .outOfMemory => "OutOfMemory"
  | .filesystemLoop => "FilesystemLoop"
  | .staleNetworkFileHandle => "StaleNetworkFileHandle"
  | .notSeekable => "NotSeekable"
  | .quotaExceeded => "QuotaExceeded"
  | .executableFileBusy => "ExecutableFileBusy"
  | .crossesDevices => "CrossesDevices"
  | .tooManyLinks => "TooManyLinks"
  | .argumentListTooLong => "ArgumentListTooLong"
  | .inProgress => "InProgress"
  | .tooManyOpenFiles => "TooManyOpenFiles"
  | .other => "Other"
  | .inputOutput => "InputOutputError"
  | .uncategorized => "Uncategorized"

def all : List FaultKind :=
  [.notFound, .permissionDenied, .connectionRefused, .connectionReset, .hostUnreachable,
    .networkUnreachable, .connectionAborted, .notConnected, .addressInUse, .addressNotAvailable,
    .networkDown, .brokenPipe, .alreadyExists, .wouldBlock, .notADirectory, .isADirectory,
    .directoryNotEmpty, .readOnlyFilesystem, .invalidInput, .invalidData, .timedOut, .writeZero,
    .storageFull, .fileTooLarge, .invalidFilename, .resourceBusy, .deadlock, .interrupted,
    .unsupported, .unexpectedEnd, .outOfMemory, .filesystemLoop, .staleNetworkFileHandle,
    .notSeekable, .quotaExceeded, .executableFileBusy, .crossesDevices, .tooManyLinks,
    .argumentListTooLong, .inProgress, .tooManyOpenFiles, .other, .inputOutput, .uncategorized]

def ofName? (s : String) : Option FaultKind :=
  all.find? fun k => k.name == s

end FaultKind

end ServiceKit
