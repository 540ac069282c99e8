import ProviderHost.Text

/-!
# Faults of the system

Why the operating system refuses a call, and how it words that.
-/

namespace ProviderHost

inductive SystemFault where
  | notPermitted
  | missing
  | noProcess
  | interrupted
  | noDevice
  | tooLong
  | badFormat
  | badDescriptor
  | noChild
  | denied
  | exists
  | notDirectory
  | isDirectory
  | invalid
  | tooManyOpen
  | tooLarge
  | noSpace
  | illegalSeek
  | brokenPipe
  | tooManyLinks
  | nameTooLong
  deriving DecidableEq, Repr

def SystemFault.message : SystemFault → Text
  | .notPermitted => "Operation not permitted"
  | .missing => "No such file or directory"
  | .noProcess => "No such process"
  | .interrupted => "Interrupted system call"
  | .noDevice => "No such device or address"
  | .tooLong => "Argument list too long"
  | .badFormat => "Exec format error"
  | .badDescriptor => "Bad file descriptor"
  | .noChild => "No child processes"
  | .denied => "Permission denied"
  | .exists => "File exists"
  | .notDirectory => "Not a directory"
  | .isDirectory => "Is a directory"
  | .invalid => "Invalid argument"
  | .tooManyOpen => "Too many open files"
  | .tooLarge => "File too large"
  | .noSpace => "No space left on device"
  | .illegalSeek => "Illegal seek"
  | .brokenPipe => "Broken pipe"
  | .tooManyLinks => "Too many levels of symbolic links"
  | .nameTooLong => "File name too long"

end ProviderHost
