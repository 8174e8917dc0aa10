/-!
# Transport failures

A transport either delivers a resend or fails.  A failure never changes what is
resent and when; it is only reported, and the report is louder when the failure
is not expected to clear up on its own.
-/

namespace Redelivery

/-- Kinds of failure of an input or output operation. -/
inductive IoFailureKind where
  | addrInUse | addrNotAvailable | alreadyExists | argumentListTooLong | brokenPipe
  | connectionAborted | connectionRefused | connectionReset | crossesDevices | deadlock
  | directoryNotEmpty | executableFileBusy | fileTooLarge | filesystemLoop
  | hostUnreachable | interrupted | invalidData | invalidFilename | invalidInput
  | isADirectory | networkDown | networkUnreachable | notADirectory | notConnected
  | notFound | notSeekable | other | outOfMemory | permissionDenied | quotaExceeded
  | readOnlyFilesystem | resourceBusy | staleNetworkFileHandle | storageFull | timedOut
  | tooManyLinks | unexpectedEof | unsupported | wouldBlock | writeZero
  deriving DecidableEq, Repr

namespace IoFailureKind

/-- What a failure of a kind says when nothing more is known. -/
def description : IoFailureKind → String
  | addrInUse => "address in use"
  | addrNotAvailable => "address not available"
  | alreadyExists => "entity already exists"
  | argumentListTooLong => "argument list too long"
  | brokenPipe => "broken pipe"
  | connectionAborted => "connection aborted"
  | connectionRefused => "connection refused"
  | connectionReset => "connection reset"
  | crossesDevices => "cross-device link or rename"
  | deadlock => "deadlock"
  | directoryNotEmpty => "directory not empty"
  | executableFileBusy => "executable file busy"
  | fileTooLarge => "file too large"
  | filesystemLoop => "filesystem loop or indirection limit (e.g. symlink loop)"
  | hostUnreachable => "host unreachable"
  | interrupted => "operation interrupted"
  | invalidData => "invalid data"
  | invalidFilename => "invalid filename"
  | invalidInput => "invalid input parameter"
  | isADirectory => "is a directory"
  | networkDown => "network down"
  | networkUnreachable => "network unreachable"
  | notADirectory => "not a directory"
  | notConnected => "not connected"
  | notFound => "entity not found"
  | notSeekable => "seek on unseekable file"
  | other => "other error"
  | outOfMemory => "out of memory"
  | permissionDenied => "permission denied"
  | quotaExceeded => "quota exceeded"
  | readOnlyFilesystem => "read-only filesystem or storage medium"
  | resourceBusy => "resource busy"
  | staleNetworkFileHandle => "stale network file handle"
  | storageFull => "no storage space"
  | timedOut => "timed out"
  | tooManyLinks => "too many links"
  | unexpectedEof => "unexpected end of file"
  | unsupported => "unsupported"
  | wouldBlock => "operation would block"
  | writeZero => "write zero"

/-- The kind of a name. -/
def ofName? : String → Option IoFailureKind
  | "AddrInUse" => some addrInUse
  | "AddrNotAvailable" => some addrNotAvailable
  | "AlreadyExists" => some alreadyExists
  | "ArgumentListTooLong" => some argumentListTooLong
  | "BrokenPipe" => some brokenPipe
  | "ConnectionAborted" => some connectionAborted
  | "ConnectionRefused" => some connectionRefused
  | "ConnectionReset" => some connectionReset
  | "CrossesDevices" => some crossesDevices
  | "Deadlock" => some deadlock
  | "DirectoryNotEmpty" => some directoryNotEmpty
  | "ExecutableFileBusy" => some executableFileBusy
  | "FileTooLarge" => some fileTooLarge
  | "FilesystemLoop" => some filesystemLoop
  | "HostUnreachable" => some hostUnreachable
  | "Interrupted" => some interrupted
  | "InvalidData" => some invalidData
  | "InvalidFilename" => some invalidFilename
  | "InvalidInput" => some invalidInput
  | "IsADirectory" => some isADirectory
  | "NetworkDown" => some networkDown
  | "NetworkUnreachable" => some networkUnreachable
  | "NotADirectory" => some notADirectory
  | "NotConnected" => some notConnected
  | "NotFound" => some notFound
  | "NotSeekable" => some notSeekable
  | "Other" => some other
  | "OutOfMemory" => some outOfMemory
  | "PermissionDenied" => some permissionDenied
  | "QuotaExceeded" => some quotaExceeded
  | "ReadOnlyFilesystem" => some readOnlyFilesystem
  | "ResourceBusy" => some resourceBusy
  | "StaleNetworkFileHandle" => some staleNetworkFileHandle
  | "StorageFull" => some storageFull
  | "TimedOut" => some timedOut
  | "TooManyLinks" => some tooManyLinks
  | "UnexpectedEof" => some unexpectedEof
  | "Unsupported" => some unsupported
  | "WouldBlock" => some wouldBlock
  | "WriteZero" => some writeZero
  | _ => none

/-- Kinds that are routine for an unreliable connection. -/
def isTransient : IoFailureKind → Bool
  | connectionRefused | connectionReset | connectionAborted | timedOut | interrupted
  | wouldBlock => true
  | _ => false

end IoFailureKind

/-- Why a resend failed. -/
inductive TransportFailure where
  | connectionRefused (detail : String)
  | connectionReset (detail : String)
  | timedOut (detail : String)
  /-- A failure of the operating system, with its own words if it has any. -/
  | io (kind : IoFailureKind) (detail : Option String)
  | other (detail : String)
  deriving DecidableEq, Repr

namespace TransportFailure

/-- The failure in words. -/
def message : TransportFailure → String
  | connectionRefused detail => "Connection refused: " ++ detail
  | connectionReset detail => "Connection reset: " ++ detail
  | timedOut detail => "Timed out: " ++ detail
  | io kind detail => "I/O error: " ++ detail.getD kind.description
  | other detail => detail

/-- Whether the failure is expected to clear up on its own. -/
def isTransient : TransportFailure → Bool
  | connectionRefused _ | connectionReset _ | timedOut _ => true
  | io kind _ => kind.isTransient
  | other _ => false

end TransportFailure

end Redelivery
