import FootprintTemplate.CommandLine.Run

/-! The program. Files are those of the system. -/
namespace FootprintTemplate

open CommandLine

/-- The number of a system error. Some calls report it negated. -/
def errorNumber (code : UInt32) : Nat :=
  if code.toNat < Nat.pow 2 31 then code.toNat else Nat.pow 2 32 - code.toNat

def systemError (code : UInt32) (details : String) : FileError :=
  match errorNumber code with
  | 2 => .notFound
  | 20 => .notADirectory
  | 21 => .isADirectory
  | 36 => .nameTooLong
  | number => .other s!"{details} (os error {number})"

def fileErrorOf : IO.Error → FileError
  | .noFileOrDirectory _ code details => systemError code details
  | .inappropriateType _ code details => systemError code details
  | .permissionDenied _ code details => systemError code details
  | .invalidArgument _ code details => systemError code details
  | .resourceExhausted _ code details => systemError code details
  | .otherError code details => systemError code details
  | error => .other (toString error)

def systemFiles : FileSystem IO where
  read path :=
    try return .ok (← IO.FS.readBinFile path) catch error => return .error (fileErrorOf error)
  write path text :=
    try IO.FS.writeFile path text; return .ok () catch error => return .error (fileErrorOf error)
  resolve path :=
    try return some (pathNames (← IO.FS.realPath path).toString) catch _ => return none

/-- The program does not say where a config file goes wrong. -/
def explain (_ : String) : String :=
  "expected a mapping of known settings"

end FootprintTemplate

def main (arguments : List String) : IO UInt32 := do
  let outcome ← FootprintTemplate.CommandLine.run FootprintTemplate.explain
    FootprintTemplate.systemFiles arguments
  IO.print outcome.stdout
  IO.eprint outcome.stderr
  return outcome.code
