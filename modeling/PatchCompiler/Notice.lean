import PatchCompiler.Fault

/-!
# Notices

Messages for the user. Those about patches have a code.
-/

namespace PatchCompiler

structure Notice where
  code : Option Int := none
  message : String
  deriving DecidableEq, Repr

def Notice.toValue (notice : Notice) : Value :=
  let message : Record := [("message", .text notice.message)]
  .record (match notice.code with
    | some code => ("enum", .int code) :: message
    | none => message)

/-- What a notice about a patch is about. -/
inductive NoticeCode where
  | warning
  | emptyObject
  | declarePath
  | uselessObject
  | emptyMessage
  | error
  | unknownObject
  | topLevelSignalLets
  | castArguments
  | packArguments
  | missingArgument
  | repeatedArguments
  | cannotConnect
  | unsupportedConnection
  | givenUp
  deriving DecidableEq, Repr

namespace NoticeCode

def number : NoticeCode → Int
  | .warning => 1000
  | .emptyObject => 1001
  | .declarePath => 1002
  | .uselessObject => 1003
  | .emptyMessage => 1004
  | .error => 2000
  | .unknownObject => 2001
  | .topLevelSignalLets => 2002
  | .castArguments => 2003
  | .packArguments => 2003
  | .missingArgument => 2004
  | .repeatedArguments => 2005
  | .cannotConnect => 2006
  | .unsupportedConnection => 2007
  | .givenUp => 3000

end NoticeCode

end PatchCompiler
