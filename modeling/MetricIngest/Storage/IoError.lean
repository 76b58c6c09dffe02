/-
  Failures of reading and writing.

  Each cause has a fixed wording; the ones that the operating system reports
  carry its number.
-/

namespace MetricIngest

/-- Why reading or writing failed. -/
inductive IoError where
  | notFound
  | isDirectory
  | notDirectory
  | nameTooLong
  | invalidName
  | invalidUtf8
  | writeRefused
  | flushRefused
  | other (text : String)
deriving Repr, DecidableEq

namespace IoError

/-- The wording of a failure. -/
def message : IoError → String
  | .notFound => "No such file or directory (os error 2)"
  | .isDirectory => "Is a directory (os error 21)"
  | .notDirectory => "Not a directory (os error 20)"
  | .nameTooLong => "File name too long (os error 36)"
  | .invalidName => "file name contained an unexpected NUL byte"
  | .invalidUtf8 => "stream did not contain valid UTF-8"
  | .writeRefused => "write refused"
  | .flushRefused => "flush refused"
  | .other text => text

end IoError

end MetricIngest
