import Salutation.Text.Basic

/-!
# Kinds of output errors

Every error of a stream is of some kind.  A kind has a name, by which a rendering for inspection
calls it, and a description, which is what a user reads where nothing more is known of the error.
-/

namespace Salutation

/-- A kind of error that a stream may answer with. -/
inductive ErrorKind where
  | addrInUse
  | addrNotAvailable
  | alreadyExists
  | argumentListTooLong
  | brokenPipe
  | connectionAborted
  | connectionRefused
  | connectionReset
  | crossesDevices
  | deadlock
  | directoryNotEmpty
  | executableFileBusy
  | fileTooLarge
  | filesystemLoop
  | hostUnreachable
  | inProgress
  | inputOutputError
  | interrupted
  | invalidData
  | invalidFilename
  | invalidInput
  | isADirectory
  | networkDown
  | networkUnreachable
  | notADirectory
  | notConnected
  | notFound
  | notSeekable
  | other
  | outOfMemory
  | permissionDenied
  | quotaExceeded
  | readOnlyFilesystem
  | resourceBusy
  | staleNetworkFileHandle
  | storageFull
  | timedOut
  | tooManyLinks
  | tooManyOpenFiles
  | uncategorized
  | unexpectedEof
  | unsupported
  | wouldBlock
  | writeZero
  deriving Repr, DecidableEq

namespace ErrorKind

/-- The name of a kind. -/
def name : ErrorKind → Text
  | .addrInUse => "AddrInUse".toList
  | .addrNotAvailable => "AddrNotAvailable".toList
  | .alreadyExists => "AlreadyExists".toList
  | .argumentListTooLong => "ArgumentListTooLong".toList
  | .brokenPipe => "BrokenPipe".toList
  | .connectionAborted => "ConnectionAborted".toList
  | .connectionRefused => "ConnectionRefused".toList
  | .connectionReset => "ConnectionReset".toList
  | .crossesDevices => "CrossesDevices".toList
  | .deadlock => "Deadlock".toList
  | .directoryNotEmpty => "DirectoryNotEmpty".toList
  | .executableFileBusy => "ExecutableFileBusy".toList
  | .fileTooLarge => "FileTooLarge".toList
  | .filesystemLoop => "FilesystemLoop".toList
  | .hostUnreachable => "HostUnreachable".toList
  | .inProgress => "InProgress".toList
  | .inputOutputError => "InputOutputError".toList
  | .interrupted => "Interrupted".toList
  | .invalidData => "InvalidData".toList
  | .invalidFilename => "InvalidFilename".toList
  | .invalidInput => "InvalidInput".toList
  | .isADirectory => "IsADirectory".toList
  | .networkDown => "NetworkDown".toList
  | .networkUnreachable => "NetworkUnreachable".toList
  | .notADirectory => "NotADirectory".toList
  | .notConnected => "NotConnected".toList
  | .notFound => "NotFound".toList
  | .notSeekable => "NotSeekable".toList
  | .other => "Other".toList
  | .outOfMemory => "OutOfMemory".toList
  | .permissionDenied => "PermissionDenied".toList
  | .quotaExceeded => "QuotaExceeded".toList
  | .readOnlyFilesystem => "ReadOnlyFilesystem".toList
  | .resourceBusy => "ResourceBusy".toList
  | .staleNetworkFileHandle => "StaleNetworkFileHandle".toList
  | .storageFull => "StorageFull".toList
  | .timedOut => "TimedOut".toList
  | .tooManyLinks => "TooManyLinks".toList
  | .tooManyOpenFiles => "TooManyOpenFiles".toList
  | .uncategorized => "Uncategorized".toList
  | .unexpectedEof => "UnexpectedEof".toList
  | .unsupported => "Unsupported".toList
  | .wouldBlock => "WouldBlock".toList
  | .writeZero => "WriteZero".toList

/-- What a user reads of an error of which only the kind is known. -/
def description : ErrorKind → Text
  | .addrInUse => "address in use".toList
  | .addrNotAvailable => "address not available".toList
  | .alreadyExists => "entity already exists".toList
  | .argumentListTooLong => "argument list too long".toList
  | .brokenPipe => "broken pipe".toList
  | .connectionAborted => "connection aborted".toList
  | .connectionRefused => "connection refused".toList
  | .connectionReset => "connection reset".toList
  | .crossesDevices => "cross-device link or rename".toList
  | .deadlock => "deadlock".toList
  | .directoryNotEmpty => "directory not empty".toList
  | .executableFileBusy => "executable file busy".toList
  | .fileTooLarge => "file too large".toList
  | .filesystemLoop => "filesystem loop or indirection limit (e.g. symlink loop)".toList
  | .hostUnreachable => "host unreachable".toList
  | .inProgress => "in progress".toList
  | .inputOutputError => "input/output error".toList
  | .interrupted => "operation interrupted".toList
  | .invalidData => "invalid data".toList
  | .invalidFilename => "invalid filename".toList
  | .invalidInput => "invalid input parameter".toList
  | .isADirectory => "is a directory".toList
  | .networkDown => "network down".toList
  | .networkUnreachable => "network unreachable".toList
  | .notADirectory => "not a directory".toList
  | .notConnected => "not connected".toList
  | .notFound => "entity not found".toList
  | .notSeekable => "seek on unseekable file".toList
  | .other => "other error".toList
  | .outOfMemory => "out of memory".toList
  | .permissionDenied => "permission denied".toList
  | .quotaExceeded => "quota exceeded".toList
  | .readOnlyFilesystem => "read-only filesystem or storage medium".toList
  | .resourceBusy => "resource busy".toList
  | .staleNetworkFileHandle => "stale network file handle".toList
  | .storageFull => "no storage space".toList
  | .timedOut => "timed out".toList
  | .tooManyLinks => "too many links".toList
  | .tooManyOpenFiles => "too many open files".toList
  | .uncategorized => "uncategorized error".toList
  | .unexpectedEof => "unexpected end of file".toList
  | .unsupported => "unsupported".toList
  | .wouldBlock => "operation would block".toList
  | .writeZero => "write zero".toList

end ErrorKind

end Salutation
