/-!
# Failed reads

Why a file, a directory, a link or an owner could not be read: an error number of the operating
system, or a cause found by the reader itself. Every cause has a kind and a text.
-/

namespace SystemMetrics

/-- The classes of failures that callers tell apart. -/
inductive FailureKind where
  | notFound
  | permissionDenied
  | connectionRefused
  | connectionReset
  | hostUnreachable
  | networkUnreachable
  | connectionAborted
  | notConnected
  | addressInUse
  | addressNotAvailable
  | networkDown
  | brokenPipe
  | alreadyExists
  | wouldBlock
  | notADirectory
  | isADirectory
  | directoryNotEmpty
  | readOnlyFilesystem
  | filesystemLoop
  | staleHandle
  | invalidInput
  | invalidData
  | timedOut
  | storageFull
  | notSeekable
  | quotaExceeded
  | fileTooLarge
  | resourceBusy
  | executableBusy
  | deadlock
  | crossesDevices
  | tooManyLinks
  | tooManyOpenFiles
  | invalidFilename
  | argumentListTooLong
  | interrupted
  | unsupported
  | outOfMemory
  | inProgress
  | inputOutput
  | other
  deriving DecidableEq, Repr

/-- The name of a kind. -/
def FailureKind.name : FailureKind → String
  | .notFound => "NotFound"
  | .permissionDenied => "PermissionDenied"
  | .connectionRefused => "ConnectionRefused"
  | .connectionReset => "ConnectionReset"
  | .hostUnreachable => "HostUnreachable"
  | .networkUnreachable => "NetworkUnreachable"
  | .connectionAborted => "ConnectionAborted"
  | .notConnected => "NotConnected"
  | .addressInUse => "AddrInUse"
  | .addressNotAvailable => "AddrNotAvailable"
  | .networkDown => "NetworkDown"
  | .brokenPipe => "BrokenPipe"
  | .alreadyExists => "AlreadyExists"
  | .wouldBlock => "WouldBlock"
  | .notADirectory => "NotADirectory"
  | .isADirectory => "IsADirectory"
  | .directoryNotEmpty => "DirectoryNotEmpty"
  | .readOnlyFilesystem => "ReadOnlyFilesystem"
  | .filesystemLoop => "FilesystemLoop"
  | .staleHandle => "StaleNetworkFileHandle"
  | .invalidInput => "InvalidInput"
  | .invalidData => "InvalidData"
  | .timedOut => "TimedOut"
  | .storageFull => "StorageFull"
  | .notSeekable => "NotSeekable"
  | .quotaExceeded => "QuotaExceeded"
  | .fileTooLarge => "FileTooLarge"
  | .resourceBusy => "ResourceBusy"
  | .executableBusy => "ExecutableFileBusy"
  | .deadlock => "Deadlock"
  | .crossesDevices => "CrossesDevices"
  | .tooManyLinks => "TooManyLinks"
  | .tooManyOpenFiles => "TooManyOpenFiles"
  | .invalidFilename => "InvalidFilename"
  | .argumentListTooLong => "ArgumentListTooLong"
  | .interrupted => "Interrupted"
  | .unsupported => "Unsupported"
  | .outOfMemory => "OutOfMemory"
  | .inProgress => "InProgress"
  | .inputOutput => "InputOutputError"
  | .other => "Uncategorized"

namespace Errno

def permission : Int := 1
def noEntry : Int := 2
def noProcess : Int := 3
def badDescriptor : Int := 9
def access : Int := 13
def notDirectory : Int := 20
def isDirectory : Int := 21
def invalid : Int := 22
def nameTooLong : Int := 36
def linkLoop : Int := 40

/-- The descriptions of the error numbers, as runs that begin at the number given. -/
def descriptions : List (Nat × List String) :=
  [(1,
    ["Operation not permitted", "No such file or directory", "No such process",
     "Interrupted system call", "Input/output error", "No such device or address",
     "Argument list too long", "Exec format error", "Bad file descriptor", "No child processes",
     "Resource temporarily unavailable", "Cannot allocate memory", "Permission denied",
     "Bad address", "Block device required", "Device or resource busy", "File exists",
     "Invalid cross-device link", "No such device", "Not a directory", "Is a directory",
     "Invalid argument", "Too many open files in system", "Too many open files",
     "Inappropriate ioctl for device", "Text file busy", "File too large",
     "No space left on device", "Illegal seek", "Read-only file system", "Too many links",
     "Broken pipe", "Numerical argument out of domain", "Numerical result out of range",
     "Resource deadlock avoided", "File name too long", "No locks available",
     "Function not implemented", "Directory not empty", "Too many levels of symbolic links"]),
   (42,
    ["No message of desired type", "Identifier removed", "Channel number out of range",
     "Level 2 not synchronized", "Level 3 halted", "Level 3 reset", "Link number out of range",
     "Protocol driver not attached", "No CSI structure available", "Level 2 halted",
     "Invalid exchange", "Invalid request descriptor", "Exchange full", "No anode",
     "Invalid request code", "Invalid slot"]),
   (59,
    ["Bad font file format", "Device not a stream", "No data available", "Timer expired",
     "Out of streams resources", "Machine is not on the network", "Package not installed",
     "Object is remote", "Link has been severed", "Advertise error", "Srmount error",
     "Communication error on send", "Protocol error", "Multihop attempted", "RFS specific error",
     "Bad message", "Value too large for defined data type", "Name not unique on network",
     "File descriptor in bad state", "Remote address changed",
     "Can not access a needed shared library", "Accessing a corrupted shared library",
     ".lib section in a.out corrupted", "Attempting to link in too many shared libraries",
     "Cannot exec a shared library directly", "Invalid or incomplete multibyte or wide character",
     "Interrupted system call should be restarted", "Streams pipe error", "Too many users",
     "Socket operation on non-socket", "Destination address required", "Message too long",
     "Protocol wrong type for socket", "Protocol not available", "Protocol not supported",
     "Socket type not supported", "Operation not supported", "Protocol family not supported",
     "Address family not supported by protocol", "Address already in use",
     "Cannot assign requested address", "Network is down", "Network is unreachable",
     "Network dropped connection on reset", "Software caused connection abort",
     "Connection reset by peer", "No buffer space available",
     "Transport endpoint is already connected", "Transport endpoint is not connected",
     "Cannot send after transport endpoint shutdown", "Too many references: cannot splice",
     "Connection timed out", "Connection refused", "Host is down", "No route to host",
     "Operation already in progress", "Operation now in progress", "Stale file handle",
     "Structure needs cleaning", "Not a XENIX named type file", "No XENIX semaphores available",
     "Is a named type file", "Remote I/O error", "Disk quota exceeded", "No medium found",
     "Wrong medium type", "Operation canceled", "Required key not available", "Key has expired",
     "Key has been revoked", "Key was rejected by service", "Owner died", "State not recoverable",
     "Operation not possible due to RF-kill", "Memory page has hardware error"])]

/-- The description of a number; a few numbers have none. -/
def description? (n : Nat) : Option String :=
  descriptions.findSome? fun (first, texts) => if first ≤ n then texts[n - first]? else none

def description (n : Int) : String :=
  if n = 0 then "Success"
  else match n.toNat?.bind description? with
    | some text => text
    | none => "Unknown error " ++ toString n

def kind (n : Int) : FailureKind :=
  match n with
  | 1 | 13 => .permissionDenied
  | 2 => .notFound
  | 4 => .interrupted
  | 5 => .inputOutput
  | 7 => .argumentListTooLong
  | 11 => .wouldBlock
  | 12 => .outOfMemory
  | 16 => .resourceBusy
  | 17 => .alreadyExists
  | 18 => .crossesDevices
  | 20 => .notADirectory
  | 21 => .isADirectory
  | 22 => .invalidInput
  | 23 | 24 => .tooManyOpenFiles
  | 26 => .executableBusy
  | 27 => .fileTooLarge
  | 28 => .storageFull
  | 29 => .notSeekable
  | 30 => .readOnlyFilesystem
  | 31 => .tooManyLinks
  | 32 => .brokenPipe
  | 35 => .deadlock
  | 36 => .invalidFilename
  | 38 | 95 => .unsupported
  | 39 => .directoryNotEmpty
  | 40 => .filesystemLoop
  | 98 => .addressInUse
  | 99 => .addressNotAvailable
  | 100 => .networkDown
  | 101 => .networkUnreachable
  | 103 => .connectionAborted
  | 104 => .connectionReset
  | 107 => .notConnected
  | 110 => .timedOut
  | 111 => .connectionRefused
  | 113 => .hostUnreachable
  | 115 => .inProgress
  | 116 => .staleHandle
  | 122 => .quotaExceeded
  | _ => .other

end Errno

/-- Why a read failed. -/
inductive ReadError where
  /-- The operating system refused with an error number. -/
  | os (errno : Int)
  /-- The reader refused by itself. -/
  | described (kind : FailureKind) (text : String)
  deriving DecidableEq, Repr

namespace ReadError

/-- The bytes of a file are not text. -/
def notText : ReadError := .described .invalidData "stream did not contain valid UTF-8"

def kind : ReadError → FailureKind
  | .os n => Errno.kind n
  | .described k _ => k

def message : ReadError → String
  | .os n => Errno.description n ++ " (os error " ++ toString n ++ ")"
  | .described _ text => text

/-- Whether the failure means that the process or file vanished. A process that is being torn down
can also make a read fail with a bad descriptor or an invalid argument. -/
def isGone (e : ReadError) : Bool :=
  e.kind == .notFound || match e with
    | .os n => n == Errno.noProcess || n == Errno.badDescriptor || n == Errno.invalid
    | .described .. => false

def isDenied (e : ReadError) : Bool := e.kind == .permissionDenied

end ReadError

end SystemMetrics
