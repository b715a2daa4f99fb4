/-!
# Input and output faults

The kinds of failure an operating system or a transport reports, the text of each, and the
numbered system errors with their kind and message.
-/

namespace CallGuard

inductive IoKind where
  | notFound
  | permissionDenied
  | connectionRefused
  | connectionReset
  | hostUnreachable
  | networkUnreachable
  | connectionAborted
  | notConnected
  | addressInUse
  | addressNotAvailable
  | networkDown
  | brokenPipe
  | alreadyExists
  | wouldBlock
  | isADirectory
  | invalidInput
  | invalidData
  | timedOut
  | writeZero
  | storageFull
  | resourceBusy
  | interrupted
  | unsupported
  | unexpectedEof
  | outOfMemory
  | argumentListTooLong
  | crossesDevices
  | deadlock
  | directoryNotEmpty
  | executableFileBusy
  | fileTooLarge
  | filesystemLoop
  | inProgress
  | invalidFilename
  | notADirectory
  | notSeekable
  | quotaExceeded
  | readOnlyFilesystem
  | staleNetworkFileHandle
  | tooManyLinks
  | other
  | uncategorized
deriving DecidableEq

namespace IoKind

def name : IoKind → String
  | notFound => "NotFound"
  | permissionDenied => "PermissionDenied"
  | connectionRefused => "ConnectionRefused"
  | connectionReset => "ConnectionReset"
  | hostUnreachable => "HostUnreachable"
  | networkUnreachable => "NetworkUnreachable"
  | connectionAborted => "ConnectionAborted"
  | notConnected => "NotConnected"
  | addressInUse => "AddrInUse"
  | addressNotAvailable => "AddrNotAvailable"
  | networkDown => "NetworkDown"
  | brokenPipe => "BrokenPipe"
  | alreadyExists => "AlreadyExists"
  | wouldBlock => "WouldBlock"
  | isADirectory => "IsADirectory"
  | invalidInput => "InvalidInput"
  | invalidData => "InvalidData"
  | timedOut => "TimedOut"
  | writeZero => "WriteZero"
  | storageFull => "StorageFull"
  | resourceBusy => "ResourceBusy"
  | interrupted => "Interrupted"
  | unsupported => "Unsupported"
  | unexpectedEof => "UnexpectedEof"
  | outOfMemory => "OutOfMemory"
  | argumentListTooLong => "ArgumentListTooLong"
  | crossesDevices => "CrossesDevices"
  | deadlock => "Deadlock"
  | directoryNotEmpty => "DirectoryNotEmpty"
  | executableFileBusy => "ExecutableFileBusy"
  | fileTooLarge => "FileTooLarge"
  | filesystemLoop => "FilesystemLoop"
  | inProgress => "InProgress"
  | invalidFilename => "InvalidFilename"
  | notADirectory => "NotADirectory"
  | notSeekable => "NotSeekable"
  | quotaExceeded => "QuotaExceeded"
  | readOnlyFilesystem => "ReadOnlyFilesystem"
  | staleNetworkFileHandle => "StaleNetworkFileHandle"
  | tooManyLinks => "TooManyLinks"
  | other => "Other"
  | uncategorized => "Uncategorized"

def text : IoKind → String
  | notFound => "entity not found"
  | permissionDenied => "permission denied"
  | connectionRefused => "connection refused"
  | connectionReset => "connection reset"
  | hostUnreachable => "host unreachable"
  | networkUnreachable => "network unreachable"
  | connectionAborted => "connection aborted"
  | notConnected => "not connected"
  | addressInUse => "address in use"
  | addressNotAvailable => "address not available"
  | networkDown => "network down"
  | brokenPipe => "broken pipe"
  | alreadyExists => "entity already exists"
  | wouldBlock => "operation would block"
  | isADirectory => "is a directory"
  | invalidInput => "invalid input parameter"
  | invalidData => "invalid data"
  | timedOut => "timed out"
  | writeZero => "write zero"
  | storageFull => "no storage space"
  | resourceBusy => "resource busy"
  | interrupted => "operation interrupted"
  | unsupported => "unsupported"
  | unexpectedEof => "unexpected end of file"
  | outOfMemory => "out of memory"
  | argumentListTooLong => "argument list too long"
  | crossesDevices => "cross-device link or rename"
  | deadlock => "deadlock"
  | directoryNotEmpty => "directory not empty"
  | executableFileBusy => "executable file busy"
  | fileTooLarge => "file too large"
  | filesystemLoop => "filesystem loop or indirection limit (e.g. symlink loop)"
  | inProgress => "in progress"
  | invalidFilename => "invalid filename"
  | notADirectory => "not a directory"
  | notSeekable => "seek on unseekable file"
  | quotaExceeded => "quota exceeded"
  | readOnlyFilesystem => "read-only filesystem or storage medium"
  | staleNetworkFileHandle => "stale network file handle"
  | tooManyLinks => "too many links"
  | other => "other error"
  | uncategorized => "uncategorized error"

def named : List IoKind :=
  [notFound, permissionDenied, connectionRefused, connectionReset, hostUnreachable,
   networkUnreachable, connectionAborted, notConnected, addressInUse, addressNotAvailable,
   networkDown, brokenPipe, alreadyExists, wouldBlock, isADirectory, invalidInput, invalidData,
   timedOut, writeZero, storageFull, resourceBusy, interrupted, unsupported, unexpectedEof,
   outOfMemory, argumentListTooLong, crossesDevices, deadlock, directoryNotEmpty,
   executableFileBusy, fileTooLarge, filesystemLoop, inProgress, invalidFilename, notADirectory,
   notSeekable, quotaExceeded, readOnlyFilesystem, staleNetworkFileHandle, tooManyLinks, other]

def ofName? (s : String) : Option IoKind :=
  named.find? fun kind => kind.name == s

end IoKind

structure SystemError where
  code : Int
  kind : IoKind
  message : String

namespace SystemError

def ofKind : List SystemError :=
  [⟨1, .permissionDenied, "Operation not permitted"⟩, ⟨2, .notFound, "No such file or directory"⟩,
   ⟨4, .interrupted, "Interrupted system call"⟩,
   ⟨7, .argumentListTooLong, "Argument list too long"⟩,
   ⟨11, .wouldBlock, "Resource temporarily unavailable"⟩,
   ⟨12, .outOfMemory, "Cannot allocate memory"⟩, ⟨13, .permissionDenied, "Permission denied"⟩,
   ⟨16, .resourceBusy, "Device or resource busy"⟩, ⟨17, .alreadyExists, "File exists"⟩,
   ⟨18, .crossesDevices, "Invalid cross-device link"⟩, ⟨20, .notADirectory, "Not a directory"⟩,
   ⟨21, .isADirectory, "Is a directory"⟩, ⟨22, .invalidInput, "Invalid argument"⟩,
   ⟨26, .executableFileBusy, "Text file busy"⟩, ⟨27, .fileTooLarge, "File too large"⟩,
   ⟨28, .storageFull, "No space left on device"⟩, ⟨29, .notSeekable, "Illegal seek"⟩,
   ⟨30, .readOnlyFilesystem, "Read-only file system"⟩, ⟨31, .tooManyLinks, "Too many links"⟩,
   ⟨32, .brokenPipe, "Broken pipe"⟩, ⟨35, .deadlock, "Resource deadlock avoided"⟩,
   ⟨36, .invalidFilename, "File name too long"⟩, ⟨38, .unsupported, "Function not implemented"⟩,
   ⟨39, .directoryNotEmpty, "Directory not empty"⟩,
   ⟨40, .filesystemLoop, "Too many levels of symbolic links"⟩,
   ⟨95, .unsupported, "Operation not supported"⟩, ⟨98, .addressInUse, "Address already in use"⟩,
   ⟨99, .addressNotAvailable, "Cannot assign requested address"⟩,
   ⟨100, .networkDown, "Network is down"⟩, ⟨101, .networkUnreachable, "Network is unreachable"⟩,
   ⟨103, .connectionAborted, "Software caused connection abort"⟩,
   ⟨104, .connectionReset, "Connection reset by peer"⟩,
   ⟨107, .notConnected, "Transport endpoint is not connected"⟩,
   ⟨110, .timedOut, "Connection timed out"⟩, ⟨111, .connectionRefused, "Connection refused"⟩,
   ⟨113, .hostUnreachable, "No route to host"⟩, ⟨115, .inProgress, "Operation now in progress"⟩,
   ⟨116, .staleNetworkFileHandle, "Stale file handle"⟩,
   ⟨122, .quotaExceeded, "Disk quota exceeded"⟩]

def ofNoKind : List (Int × String) :=
  [(0, "Success"), (3, "No such process"), (5, "Input/output error"),
   (6, "No such device or address"), (8, "Exec format error"), (9, "Bad file descriptor"),
   (10, "No child processes"), (14, "Bad address"), (15, "Block device required"),
   (19, "No such device"), (23, "Too many open files in system"), (24, "Too many open files"),
   (25, "Inappropriate ioctl for device"), (33, "Numerical argument out of domain"),
   (34, "Numerical result out of range"), (37, "No locks available"),
   (42, "No message of desired type"), (43, "Identifier removed"),
   (44, "Channel number out of range"), (45, "Level 2 not synchronized"), (46, "Level 3 halted"),
   (47, "Level 3 reset"), (48, "Link number out of range"), (49, "Protocol driver not attached"),
   (50, "No CSI structure available"), (51, "Level 2 halted"), (52, "Invalid exchange"),
   (53, "Invalid request descriptor"), (54, "Exchange full"), (55, "No anode"),
   (56, "Invalid request code"), (57, "Invalid slot"), (59, "Bad font file format"),
   (60, "Device not a stream"), (61, "No data available"), (62, "Timer expired"),
   (63, "Out of streams resources"), (64, "Machine is not on the network"),
   (65, "Package not installed"), (66, "Object is remote"), (67, "Link has been severed"),
   (68, "Advertise error"), (69, "Srmount error"), (70, "Communication error on send"),
   (71, "Protocol error"), (72, "Multihop attempted"), (73, "RFS specific error"),
   (74, "Bad message"), (75, "Value too large for defined data type"),
   (76, "Name not unique on network"), (77, "File descriptor in bad state"),
   (78, "Remote address changed"), (79, "Can not access a needed shared library"),
   (80, "Accessing a corrupted shared library"), (81, ".lib section in a.out corrupted"),
   (82, "Attempting to link in too many shared libraries"),
   (83, "Cannot exec a shared library directly"),
   (84, "Invalid or incomplete multibyte or wide character"),
   (85, "Interrupted system call should be restarted"), (86, "Streams pipe error"),
   (87, "Too many users"), (88, "Socket operation on non-socket"),
   (89, "Destination address required"), (90, "Message too long"),
   (91, "Protocol wrong type for socket"), (92, "Protocol not available"),
   (93, "Protocol not supported"), (94, "Socket type not supported"),
   (96, "Protocol family not supported"), (97, "Address family not supported by protocol"),
   (102, "Network dropped connection on reset"), (105, "No buffer space available"),
   (106, "Transport endpoint is already connected"),
   (108, "Cannot send after transport endpoint shutdown"),
   (109, "Too many references: cannot splice"), (112, "Host is down"),
   (114, "Operation already in progress"), (117, "Structure needs cleaning"),
   (118, "Not a XENIX named type file"), (119, "No XENIX semaphores available"),
   (120, "Is a named type file"), (121, "Remote I/O error"), (123, "No medium found"),
   (124, "Wrong medium type"), (125, "Operation canceled"), (126, "Required key not available"),
   (127, "Key has expired"), (128, "Key has been revoked"), (129, "Key was rejected by service"),
   (130, "Owner died"), (131, "State not recoverable"),
   (132, "Operation not possible due to RF-kill"), (133, "Memory page has hardware error")]

def known : List SystemError :=
  ofKind ++ ofNoKind.map fun (code, message) => ⟨code, .uncategorized, message⟩

/-- The error with a number; one that is not in the table has no kind. -/
def ofCode (code : Int) : SystemError :=
  (known.find? fun e => e.code == code).getD
    ⟨code, .uncategorized, "Unknown error " ++ toString code⟩

def text (e : SystemError) : String :=
  e.message ++ " (os error " ++ toString e.code ++ ")"

end SystemError

end CallGuard
