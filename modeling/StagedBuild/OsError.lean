/-!
# Errors of the operating system

The system reports an error by its number and has a description for each number it uses. This is
the table of Linux.
-/

namespace StagedBuild

/-- An error that the system reports, by its number. -/
structure OsError where
  code : Int
  deriving DecidableEq, Repr

namespace OsError

/-- Nobody may do this. -/
@[match_pattern] def notPermitted : OsError := ⟨1⟩
/-- There is nothing of this name. -/
@[match_pattern] def notFound : OsError := ⟨2⟩
/-- There is no process of this number. -/
@[match_pattern] def noProcess : OsError := ⟨3⟩
/-- The device is not there. -/
@[match_pattern] def noDevice : OsError := ⟨6⟩
/-- A program is given more than fits. -/
@[match_pattern] def argumentsTooLong : OsError := ⟨7⟩
/-- A file that is no program. -/
@[match_pattern] def notProgram : OsError := ⟨8⟩
/-- There is no open file of this number. -/
@[match_pattern] def badDescriptor : OsError := ⟨9⟩
/-- It is not allowed. -/
@[match_pattern] def permissionDenied : OsError := ⟨13⟩
/-- It is in use. -/
@[match_pattern] def busy : OsError := ⟨16⟩
/-- There is something of this name already. -/
@[match_pattern] def alreadyExists : OsError := ⟨17⟩
/-- A name on the way is no directory. -/
@[match_pattern] def notDirectory : OsError := ⟨20⟩
/-- A directory where a file is needed. -/
@[match_pattern] def isDirectory : OsError := ⟨21⟩
/-- It makes no sense. -/
@[match_pattern] def invalidArgument : OsError := ⟨22⟩
/-- The device is full. -/
@[match_pattern] def noSpace : OsError := ⟨28⟩
/-- Nobody reads from the pipe. -/
@[match_pattern] def brokenPipe : OsError := ⟨32⟩
/-- A name or a path is too long. -/
@[match_pattern] def nameTooLong : OsError := ⟨36⟩
/-- A directory that is to be removed holds something. -/
@[match_pattern] def notEmpty : OsError := ⟨39⟩
/-- Too many steps lead on to another file. -/
@[match_pattern] def tooManyLinks : OsError := ⟨40⟩

/-- The descriptions of the errors from number zero; empty where a number has no meaning. -/
def descriptions : List String :=
  ["Success", "Operation not permitted", "No such file or directory", "No such process",
   "Interrupted system call", "Input/output error", "No such device or address",
   "Argument list too long", "Exec format error", "Bad file descriptor", "No child processes",
   "Resource temporarily unavailable", "Cannot allocate memory", "Permission denied",
   "Bad address", "Block device required", "Device or resource busy", "File exists",
   "Invalid cross-device link", "No such device", "Not a directory", "Is a directory",
   "Invalid argument", "Too many open files in system", "Too many open files",
   "Inappropriate ioctl for device", "Text file busy", "File too large",
   "No space left on device", "Illegal seek", "Read-only file system", "Too many links",
   "Broken pipe", "Numerical argument out of domain", "Numerical result out of range",
   "Resource deadlock avoided", "File name too long", "No locks available",
   "Function not implemented", "Directory not empty", "Too many levels of symbolic links", "",
   "No message of desired type", "Identifier removed", "Channel number out of range",
   "Level 2 not synchronized", "Level 3 halted", "Level 3 reset", "Link number out of range",
   "Protocol driver not attached", "No CSI structure available", "Level 2 halted",
   "Invalid exchange", "Invalid request descriptor", "Exchange full", "No anode",
   "Invalid request code", "Invalid slot", "", "Bad font file format", "Device not a stream",
   "No data available", "Timer expired", "Out of streams resources",
   "Machine is not on the network", "Package not installed", "Object is remote",
   "Link has been severed", "Advertise error", "Srmount error", "Communication error on send",
   "Protocol error", "Multihop attempted", "RFS specific error", "Bad message",
   "Value too large for defined data type", "Name not unique on network",
   "File descriptor in bad state", "Remote address changed",
   "Can not access a needed shared library", "Accessing a corrupted shared library",
   ".lib section in a.out corrupted", "Attempting to link in too many shared libraries",
   "Cannot exec a shared library directly", "Invalid or incomplete multibyte or wide character",
   "Interrupted system call should be restarted", "Streams pipe error", "Too many users",
   "Socket operation on non-socket", "Destination address required", "Message too long",
   "Protocol wrong type for socket", "Protocol not available", "Protocol not supported",
   "Socket type not supported", "Operation not supported", "Protocol family not supported",
   "Address family not supported by protocol", "Address already in use",
   "Cannot assign requested address", "Network is down", "Network is unreachable",
   "Network dropped connection on reset", "Software caused connection abort",
   "Connection reset by peer", "No buffer space available",
   "Transport endpoint is already connected", "Transport endpoint is not connected",
   "Cannot send after transport endpoint shutdown", "Too many references: cannot splice",
   "Connection timed out", "Connection refused", "Host is down", "No route to host",
   "Operation already in progress", "Operation now in progress", "Stale file handle",
   "Structure needs cleaning", "Not a XENIX named type file", "No XENIX semaphores available",
   "Is a named type file", "Remote I/O error", "Disk quota exceeded", "No medium found",
   "Wrong medium type", "Operation canceled", "Required key not available", "Key has expired",
   "Key has been revoked", "Key was rejected by service", "Owner died", "State not recoverable",
   "Operation not possible due to RF-kill", "Memory page has hardware error"]

/-- The system's description of an error. -/
def description (e : OsError) : String :=
  match e.code with
  | .ofNat n =>
    match descriptions[n]? with
    | none | some "" => s!"Unknown error {n}"
    | some found => found
  | code => s!"Unknown error {code}"

/-- The description with the number. -/
def text (e : OsError) : String :=
  s!"{e.description} (os error {e.code})"

end OsError

end StagedBuild
