/-!
# File errors

The ways in which reading or writing a file can fail, with the numbers that the operating system
gives them.
-/

namespace LayoutRecovery

/-- Why a file cannot be read or written. -/
inductive FileError where
  /-- Nothing is there. -/
  | notFound
  /-- Something else is there already. -/
  | alreadyExists
  /-- What should hold the file is no directory. -/
  | notDirectory
  /-- A directory is there. -/
  | isDirectory
  /-- A name is too long. -/
  | nameTooLong
  /-- The path holds a zero byte. -/
  | zeroByte
  /-- The file does not hold text. -/
  | notText
  /-- Any other reason, in the words of the operating system. -/
  | other (message : String)
  deriving DecidableEq

namespace FileError

/-- The error in words. -/
def message : FileError → String
  | notFound => "No such file or directory (os error 2)"
  | alreadyExists => "File exists (os error 17)"
  | notDirectory => "Not a directory (os error 20)"
  | isDirectory => "Is a directory (os error 21)"
  | nameTooLong => "File name too long (os error 36)"
  | zeroByte => "file name contained an unexpected NUL byte"
  | notText => "stream did not contain valid UTF-8"
  | other message => message

/-- The error with a number and a description from the operating system. -/
def ofCode (code : Nat) (description : String) : FileError :=
  if code = 2 then notFound
  else if code = 17 then alreadyExists
  else if code = 20 then notDirectory
  else if code = 21 then isDirectory
  else if code = 36 then nameTooLong
  else other (description ++ " (os error " ++ toString code ++ ")")

end FileError
end LayoutRecovery
